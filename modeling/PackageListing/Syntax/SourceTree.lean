/-
# The tree of a source

Every text has a tree (`Tree.ofSource?`), however far it is from being Go. All readings move on
in turns, each up to where it has read more than any one before it (`Reader.advanceAll`). After
each turn those that cannot be the best go (`Reader.sift`), until a finished tree costs less than
any reading still could.
-/

import PackageListing.Syntax.Recovery

namespace PackageListing
namespace Syntax

namespace Reader

/-- Lets a reading take what comes next. Reductions come first and may be followed by others. A
word that the reader has no use for is taken as a name. -/
def take (r : Nat) : (fuel : Nat) → Lookahead → ReaderM Unit
  | 0, _ => finish r
  | fuel + 1, next => do
    let here ← state r
    if here == Automaton.lost then recover r next
    else
      let reaction ← reaction here next.token?
      let mut last := none
      for red in reaction.reductions do
        if let some new ← reduce r red then last := some new
      if reaction.accepts then complete r next
      else if reaction.take == .always then
        match next.token? with
        | some t => push r (some next.leaf) (← stateAfter here (.token t))
        | none => pure ()
      else if next.token? == some Token.comment.index then
        push r (some (next.leaf.withExtra true)) here
      else
        match last with
        | some new =>
          replace r new
          take r fuel next
        | none =>
          if !reaction.reductions.isEmpty then finish r
          else
            let automaton := (← get).automaton
            let isReserved :=
              next.token?.elim true fun t => isReservedIn automaton here t
            if next.isWord && next.token? != some Token.identifier.index && !isReserved &&
                (automaton.expected here).testBit Token.identifier.index then
              take r fuel next.asName
            else
              let size := (← node r).size
              change r fun x => { x with progress := .held next, sizeAtLoss := size }

/-- Lets a reading go on by one token, if it does. -/
def advance (r : Nat) : ReaderM Unit := do
  let next ← lookahead r
  take r ((← get).graph.nodes.size * 128 + 128) next

/-- Lets a reading go on until it has read more than `read` bytes, and the readings before it.
Gives how much was read then. -/
def advancePast (r : Nat) : (fuel : Nat) → (read : Nat) → ReaderM Nat
  | 0, read => return read
  | fuel + 1, read => do
    if ← isActive r then
      advance r
      let place := (← node r).place.bytes
      if read < place || (0 < r && read == place) then return place
      else advancePast r fuel read
    else return read

/-- How many readings may have their turn before they are sifted. -/
def turnRounds : Nat := 1000

/-- Lets all readings go on in turn, each by at most `limit` tokens. Gives how much was read and
how many there are. -/
def advanceAll (limit : Nat) : (fuel : Nat) → (r read : Nat) → ReaderM (Nat × Nat)
  | 0, _, read => return (read, ← count)
  | fuel + 1, r, read => do
    let known ← count
    if r < known then
      let read ← advancePast r limit read
      advanceAll limit fuel (r + 1) read
    else return (read, known)

/-- Compares a reading with those before it, and takes away the worse of two where it is clear
that it is. Gives the place of the reading that comes last of those compared. -/
def siftOne (mine : Standing) : (fuel : Nat) → (r other : Nat) → ReaderM Nat
  | 0, r, _ => return r
  | fuel + 1, r, other => do
    if r ≤ other then return r
    else
      match (← standing other).compare mine with
      | .onlyFirst =>
        remove r
        return r - 1
      | .first | .neither =>
        if ← merge other r then return r - 1 else siftOne mine fuel r (other + 1)
      | .second =>
        if ← merge other r then return r - 1
        else
          let a ← reading other
          let b ← reading r
          change other fun _ => b
          change r fun _ => a
          siftOne mine fuel r (other + 1)
      | .onlySecond =>
        remove other
        siftOne mine fuel (r - 1) other

/-- Takes away the readings that are over or clearly worse than others, and puts the better ones
first. Gives the least cost of one that has its place. -/
def siftAll : (fuel : Nat) → (r : Nat) → (least? : Option Nat) → ReaderM (Option Nat)
  | 0, _, least? => return least?
  | fuel + 1, r, least? => do
    if (← count) ≤ r then return least?
    else
      match (← reading r).progress with
      | .ended =>
        remove r
        siftAll fuel r least?
      | _ =>
        let mine ← standing r
        let least? :=
          if mine.isLost then least? else some (least?.elim mine.cost (min · mine.cost))
        let last ← siftOne mine r r 0
        siftAll fuel (last + 1) least?

/-- Wakes the best of the readings if it is held, and takes away the others that are. Gives its
cost. -/
def wake : (fuel : Nat) → (r : Nat) → (isAwake : Bool) → (least? : Option Nat) →
    ReaderM (Option Nat)
  | 0, _, _, least? => return least?
  | fuel + 1, r, isAwake, least? => do
    match (← reading r).progress with
    | .held next =>
      if !isAwake && decide ((← get).finishedCount < bounds.readings) then
        let cost ← cost r
        change r fun x => { x with progress := .active }
        lose r next
        wake fuel (r + 1) true (some cost)
      else
        remove r
        wake fuel r isAwake least?
    | _ => wake fuel (r + 1) true least?

/-- Takes away the readings that are not worth following. Gives what a reading costs at least;
nothing where none has its place. -/
def sift : ReaderM (Option Nat) := do
  let least? ← siftAll (← count) 0 none
  modify fun reader => { reader with readings := reader.readings.extract 0 bounds.readings }
  wake (← count) 0 false least?

/-- Lets the readings go on, each by at most `limit` tokens in a turn, until the best tree is
known. -/
def run (limit : Nat) : (fuel : Nat) → (read : Nat) → ReaderM Unit
  | 0, _ => return ()
  | fuel + 1, read => do
    let (read, known) ← advanceAll limit turnRounds 0 read
    let least? ← sift
    let isSettled :=
      match (← get).finished?, least? with
      | none, _ => false
      | some _, none => true
      | some t, some least => decide (t.measure.cost < least)
    if isSettled || known = 0 || (← count) = 0 then return ()
    else run limit fuel read

end Reader

/-- The tree of a source. A token takes a character at least, apart from those at the end of the
text, so the readings are at its end after as many tokens as it has characters and some more. -/
def Tree.ofSource? (source : List Char) : Option Tree :=
  let limit := source.length * 4 + 64
  ((Reader.run limit limit 0).run (.initial source)).2.finished?

end Syntax
end PackageListing
