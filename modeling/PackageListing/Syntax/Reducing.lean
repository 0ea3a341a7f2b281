/-
# Putting trees together

The trees on top of a reading's stack become the children of a new tree when a production is read
in full (`Reader.reduce`), and the tree over the whole text when its end is reached
(`Reader.complete`). Where readings had come together there may be several ways to read the same
children; the best of them is taken.
-/

import PackageListing.Syntax.Reading

namespace PackageListing
namespace Syntax

namespace Reader

/-- A node over some trees, and the extra trees at their end, which do not belong to it. -/
def gather (kind : Kind) (trees : List Tree) : Tree × List Tree :=
  let (own, extras) := Tree.splitExtras trees
  (.node kind own, extras)

/-- The best of several ways to make a node. -/
def gatherBest (kind : Kind) (ways : List (List Tree)) : Tree × List Tree :=
  match ways.map (gather kind) with
  | [] => gather kind []
  | first :: others =>
    others.foldl (fun best other => if best.1.isWorse other.1 then other else best) first

/-- Lets a reading go on above extra trees. -/
def pushExtras (r : Nat) (extras : List Tree) (state : Nat) : ReaderM Unit :=
  for t in extras do push r (some t) state

/-- Reads the trees on top of a reading as a part. The reading itself stays; the new ones come
after all others. Gives the first of them. -/
def reduce (r : Nat) (reduction : Reduction) : ReaderM (Option Nat) := do
  let first ← count
  let found ← pop r reduction.length
  let ended := (← get).readings.foldl (fun n x =>
    match x.progress with
    | .ended => n + 1
    | _ => n) 0
  let mut new := first
  for ways in found do
    if bounds.readings + bounds.overflow + ended < new then
      remove new
    else
      let (tree, extras) := gatherBest (.part reduction.part) ways
      let next ← stateAfter (← state new) (.part reduction.part)
      push new (some (tree.addWeight reduction.weight)) next
      pushExtras new extras next
      if !(← mergeInto ((List.range new).filter (· != r)) new) then
        new := new + 1
  return if first < (← count) then some first else none

/-- Goes through a state's reactions to a token, or to any token: whether one of them takes it,
and the reductions of at least one tree, each once. -/
def prospects (state : Nat) (token? : Option Nat) : ReaderM (Bool × List Reduction) := do
  let automaton := (← get).automaton
  let tokens := token?.elim ((List.range Token.count).drop 1) ([·])
  return tokens.foldl
    (fun found t =>
      let reaction := automaton.reaction state t
      let isTaken := state == Automaton.lost || reaction.take == .always
      let new := reaction.reductions.foldl
        (fun known red =>
          if red.length = 0 || known.any fun k => k.part == red.part && k.length == red.length then
            known
          else known ++ [red])
        found.2
      (found.1 || isTaken, new))
    (false, [])

/-- Makes all reductions that may come before a token, or before any token, in a reading and in
those that come of it after the others. Tells whether one of them takes the token then. Readings
without a use for the given token go. -/
def reduceAll (start first : Nat) (token? : Option Nat) :
    (fuel : Nat) → (r round : Nat) → ReaderM Bool
  | 0, _, _ => return false
  | fuel + 1, r, round => do
    let known ← count
    if known ≤ r then return false
    if ← mergeInto ((List.range r).filter (first ≤ ·)) r then
      reduceAll start first token? fuel r (round + 1)
    else
      let (isTaken, reductions) ← prospects (← state r) token?
      let mut last := none
      for red in reductions do
        last ← reduce r red
      let next := if r = start then known else r + 1
      match isTaken, last with
      | true, _ =>
        let _ ← reduceAll start first token? fuel next (round + 1)
        return true
      | false, some new =>
        if round < bounds.readings then
          replace r new
          reduceAll start first token? fuel r (round + 1)
        else
          if token?.isSome then remove r
          reduceAll start first token? fuel next (round + 1)
      | false, none =>
        if token?.isSome then remove r
        reduceAll start first token? fuel next (round + 1)

/-- How often reductions are tried in one place. -/
def reduceAllRounds : Nat := 1000

/-- The tree over the whole text from the trees of a reading: the last one that is not extra takes
in the others. -/
def wholeTree? (trees : List Tree) : Option Tree :=
  match trees.reverse.span Tree.isExtra with
  | (_, []) => none
  | (after, t :: before) => some (.node t.kind (before.reverse ++ t.children ++ after.reverse))

/-- Ends a reading at the end of the text and keeps its tree if it is the best. -/
def complete (r : Nat) (next : Lookahead) : ReaderM Unit := do
  push r (some (next.leaf.withExtra true)) Automaton.start
  let first ← count
  let found ← branch r ((← get).graph.waysToBottom (← reading r).node)
  for ways in found do
    for trees in ways do
      match wholeTree? trees with
      | some t => keep t
      | none => pure ()
  if !found.isEmpty then remove first
  finish r

end Reader
end Syntax
end PackageListing
