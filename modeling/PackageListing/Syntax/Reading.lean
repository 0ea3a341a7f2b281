/-
# Readings of a text

A reader follows several readings of a text side by side (`Reader`). Each has its place on the
stacks; it goes on, or it is held where its state has no use for the next token, or it is over.
This module has what is done to readings whatever the grammar: they move on, come together, and
are compared by what they cost (`Comparison`).
-/

import PackageListing.Syntax.Scanner
import PackageListing.Syntax.Stack

namespace PackageListing
namespace Syntax

/-- Whether a reading goes on. -/
inductive Progress where
  /-- It goes on. -/
  | active
  /-- It is held before what comes next. -/
  | held (next : Lookahead)
  /-- It is over. -/
  | ended

namespace Progress

/-- Whether it goes on. -/
def isActive : Progress → Bool
  | active => true
  | _ => false

/-- Whether it is held. -/
def isHeld : Progress → Bool
  | held _ => true
  | _ => false

end Progress

/-- A place that a reader may go back to when it has lost its own. -/
structure Landmark where
  /-- The text up to there. -/
  place : Extent
  /-- How far down it is. -/
  depth : Nat
  /-- The state there. -/
  state : Nat

/-- A reading of a text. -/
structure Reading where
  /-- Its node on the stacks. -/
  node : Nat
  /-- The places to go back to. -/
  landmarks : List Landmark
  /-- The size of its stack when it last had no use for a token. -/
  sizeAtLoss : Nat
  /-- Whether it goes on. -/
  progress : Progress

instance : Inhabited Reading := ⟨⟨0, [], 0, .active⟩⟩

/-- A position in a text. -/
structure Cursor where
  /-- The number of characters before it. -/
  read : Nat
  /-- The text after it. -/
  rest : List Char

/-- A reader of a text. -/
structure Reader where
  /-- The text. -/
  source : List Char
  /-- Where it looked last. -/
  cursor : Cursor
  /-- The states that were reached. -/
  automaton : Automaton
  /-- The stacks of the readings. -/
  graph : Stacks
  /-- The readings, the better ones first. -/
  readings : Array Reading
  /-- The best tree over the whole text. -/
  finished? : Option Tree
  /-- How many readings came to the end. -/
  finishedCount : Nat

/-- What a reader does. -/
abbrev ReaderM := StateM Reader

/-- How a reading stands. -/
structure Standing where
  /-- What it costs. -/
  cost : Nat
  /-- How much was read since it last had no use for a token. -/
  size : Nat
  /-- The weight of its trees. -/
  weight : Int
  /-- Whether it has lost its place. -/
  isLost : Bool

/-- How two readings compare. -/
inductive Comparison where
  /-- Only the first is worth following. -/
  | onlyFirst
  /-- The first is better. -/
  | first
  /-- Neither is better. -/
  | neither
  /-- The second is better. -/
  | second
  /-- Only the second is worth following. -/
  | onlySecond
  deriving DecidableEq

namespace Standing

/-- Whether so much less cost, over what was read with it, leaves nothing to hope for. -/
def isDecisive (less size : Nat) : Bool := decide (bounds.difference < less * (1 + size))

/-- Compares two readings: one that has its place is better, then a cheaper one, then one with
more weight. -/
def compare (a b : Standing) : Comparison :=
  if !a.isLost && b.isLost then
    if a.cost < b.cost then .onlyFirst else .first
  else if a.isLost && !b.isLost then
    if b.cost < a.cost then .onlySecond else .second
  else if a.cost < b.cost then
    if isDecisive (b.cost - a.cost) a.size then .onlyFirst else .first
  else if b.cost < a.cost then
    if isDecisive (a.cost - b.cost) b.size then .onlySecond else .second
  else if b.weight < a.weight then .first
  else if a.weight < b.weight then .second
  else .neither

end Standing

namespace Reader

/-- A reader before a text. -/
def initial (source : List Char) : Reader :=
  { source := source
    cursor := ⟨0, source⟩
    automaton := .initial goGrammar
    graph := .initial
    readings := #[default]
    finished? := none
    finishedCount := 0 }

/-- The number of readings. -/
def count : ReaderM Nat := return (← get).readings.size

/-- A reading. -/
def reading (r : Nat) : ReaderM Reading := return (← get).readings.getD r default

/-- The node of a reading. -/
def node (r : Nat) : ReaderM StackNode := do
  let reader ← get
  return reader.graph.node (reader.readings.getD r default).node

/-- The state of a reading. -/
def state (r : Nat) : ReaderM Nat := return (← node r).state

/-- Whether a reading goes on. -/
def isActive (r : Nat) : ReaderM Bool := return (← reading r).progress.isActive

/-- Changes a reading. -/
def change (r : Nat) (f : Reading → Reading) : ReaderM Unit :=
  modify fun reader => { reader with readings := reader.readings.modify r f }

/-- Ends a reading. -/
def finish (r : Nat) : ReaderM Unit := change r fun x => { x with progress := .ended }

/-- Adds a reading. -/
def add (x : Reading) : ReaderM Unit :=
  modify fun reader => { reader with readings := reader.readings.push x }

/-- Takes a reading away. -/
def remove (r : Nat) : ReaderM Unit :=
  modify fun reader => { reader with readings := reader.readings.eraseIdxIfInBounds r }

/-- Puts a reading in the place of another one. -/
def replace (r other : Nat) : ReaderM Unit := do
  if r != other then
    let old ← reading r
    let new ← reading other
    let landmarks := if new.landmarks.isEmpty then old.landmarks else new.landmarks
    change r fun _ => { new with landmarks := landmarks }
    remove other

/-- Lets a reading go on above its node. Without a tree it loses its place there. -/
def push (r : Nat) (tree? : Option Tree) (state : Nat) : ReaderM Unit := do
  let below := (← reading r).node
  let n ← modifyGet fun reader =>
    let (n, graph) := reader.graph.push below tree? state
    (n, { reader with graph := graph })
  if tree?.isNone then
    let size := ((← get).graph.node n).size
    change r fun x => { x with node := n, sizeAtLoss := size }
  else change r fun x => { x with node := n }

/-- New readings at the ends of ways down from a reading, with the trees of the ways. -/
def branch (r : Nat) (arrivals : List Arrival) : ReaderM (List (List (List Tree))) := do
  let x ← reading r
  for a in arrivals do
    add { node := a.node, landmarks := [], sizeAtLoss := x.sizeAtLoss, progress := .active }
  return arrivals.map Arrival.ways

/-- New readings so many steps down from a reading. -/
def pop (r n : Nat) : ReaderM (List (List (List Tree))) := do
  branch r ((← get).graph.waysOfLength (← reading r).node n)

/-- How much was read since a reading last had no use for a token. -/
def sizeSinceLoss (r : Nat) : ReaderM Nat := do
  let size := (← node r).size
  change r fun x => { x with sizeAtLoss := min x.sizeAtLoss size }
  return size - (← reading r).sizeAtLoss

/-- What a reading costs. One that has just lost its place costs as much as a misfit. -/
def cost (r : Nat) : ReaderM Nat := do
  let n ← node r
  let isLoss :=
    n.state == Automaton.lost && (n.links.head?.elim false fun l => l.tree?.isNone)
  let isHeld := (← reading r).progress.isHeld
  return n.cost + if isHeld || isLoss then costs.misfit else 0

/-- How a reading stands. -/
def standing (r : Nat) : ReaderM Standing := do
  let isHeld := (← reading r).progress.isHeld
  let cost ← cost r
  let size ← sizeSinceLoss r
  let n ← node r
  return {
    cost := cost + if isHeld then costs.node else 0
    size := size
    weight := n.weight
    isLost := isHeld || n.state == Automaton.lost }

/-- Whether two readings go on in the same way. -/
def canMerge (r other : Nat) : ReaderM Bool := do
  return (← isActive r) && (← isActive other) && (← node r).meets (← node other)

/-- Takes a reading into another one, if they go on in the same way. -/
def merge (r other : Nat) : ReaderM Bool := do
  if ← canMerge r other then
    let n := (← reading r).node
    let m := (← reading other).node
    modify fun reader => { reader with graph := reader.graph.addLinks n m }
    let top ← node r
    if top.state == Automaton.lost then
      change r fun x => { x with sizeAtLoss := top.size }
    remove other
    return true
  else return false

/-- Takes a reading into the first one of a list that goes on in the same way. -/
def mergeInto (candidates : List Nat) (r : Nat) : ReaderM Bool := do
  for other in candidates do
    if ← merge other r then return true
  return false

/-- Whether something better is known than a reading at a given cost. -/
def isSurpassed (r : Nat) (isLost : Bool) (cost : Nat) : ReaderM Bool := do
  match (← get).finished? with
  | some t => if t.measure.cost ≤ cost then return true
  | none => pure ()
  let n ← node r
  let size ← sizeSinceLoss r
  let mine : Standing := ⟨cost, size, n.weight, isLost⟩
  for i in List.range (← count) do
    if i != r && (← isActive i) && decide (n.place.bytes ≤ (← node i).place.bytes) then
      match mine.compare (← standing i) with
      | .onlySecond => return true
      | .second => if ← canMerge i r then return true
      | _ => pure ()
  return false

/-- The text after so many characters. -/
def textAfter (read : Nat) : ReaderM (List Char) := do
  let reader ← get
  let rest :=
    if reader.cursor.read ≤ read then reader.cursor.rest.drop (read - reader.cursor.read)
    else reader.source.drop read
  modify fun reader => { reader with cursor := ⟨read, rest⟩ }
  return rest

/-- What comes next for a reading. -/
def lookahead (r : Nat) : ReaderM Lookahead := do
  let n ← node r
  let read := n.place.characters
  let rest ← textAfter read
  return Lookahead.next (← get).automaton n.state (read == 0) rest

/-- The state after a symbol, or the lost one. -/
def stateAfter (state : Nat) (s : Symbol) : ReaderM Nat := do
  match (← get).automaton.successor state s with
  | [] => return Automaton.lost
  | items =>
    modifyGet fun reader =>
      let (n, automaton) := reader.automaton.enter goGrammar items
      (n, { reader with automaton := automaton })

/-- What a state does at a token, if what comes next is one. -/
def reaction (state : Nat) (token? : Option Nat) : ReaderM Reaction :=
  return token?.elim Reaction.none ((← get).automaton.reaction state)

/-- Whether a state has a use for a token, if what comes next is one. The lost state takes all of
them, and comments may stand anywhere. -/
def hasUse (state : Nat) (token? : Option Nat) : ReaderM Bool := do
  let reaction ← reaction state token?
  return token?.isSome &&
    (state == Automaton.lost || token? == some Token.comment.index || !reaction.isNone)

/-- Keeps a tree over the whole text if it is the best so far. -/
def keep (t : Tree) : ReaderM Unit :=
  modify fun reader =>
    { reader with
      finishedCount := reader.finishedCount + 1
      finished? :=
        match reader.finished? with
        | none => some t
        | some best => some (if best.isWorse t then t else best) }

end Reader
end Syntax
end PackageListing
