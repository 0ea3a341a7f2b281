/-
# Finding one's place again

Where no reading has a use for what comes next, the best one is kept up in three ways. A token may
be missing, and is put in where what comes next shows what follows it (`Reader.insertMissing`).
Some of the text before may fit nowhere: it is set apart, and the reader goes back to a place
where it has a use for what comes next (`Reader.goBack`). Or what comes next fits nowhere, and is
passed over (`Reader.skip`). All of them are followed, and what they cost decides.
-/

import PackageListing.Syntax.Reducing

namespace PackageListing
namespace Syntax

namespace Reader

/-- Takes away the step on top of a reading if text that fits nowhere stands there, and gives its
trees. -/
def popMisfit (r : Nat) : ReaderM (List Tree) := do
  let n ← node r
  if n.links.any fun l => l.tree?.elim false fun t => t.kind.isMisfit then
    let first ← count
    match ← branch r ((← get).graph.misfitStep (← reading r).node) with
    | [] => return []
    | ways :: _ =>
      replace r first
      return ways.headD []
  else return []

/-- Sets the trees on top of a reading apart as text that fits nowhere, down to a place with the
given state. -/
def goBack (r depth goal : Nat) : ReaderM Bool := do
  let first ← count
  let found ← pop r depth
  let mut isDone := false
  for (ways, i) in found.zipIdx do
    let new := first + i
    if (← state new) != goal then
      finish new
    else
      let earlier := (← popMisfit new).head?.elim [] Tree.children
      let (own, extras) := Tree.splitExtras (earlier ++ ways.headD [])
      if !own.isEmpty then
        push new (some ((Tree.node .misfit own).withExtra true)) goal
      pushExtras new extras goal
      isDone := true
  return isDone

/-- Goes back to the first landmark where there is a use for what comes next, unless that costs
more than what is known already. -/
def goBackToLandmark (r : Nat) (next : Lookahead) : ReaderM Bool := do
  let n ← node r
  let size ← sizeSinceLoss r
  let cost ← cost r
  let known ← count
  if next.leaf.kind.isMisfit then return false
  for mark in (← reading r).landmarks do
    if mark.state == Automaton.lost || mark.place.bytes == n.place.bytes then continue
    let isReached ← (List.range known).anyM fun i => do
      let other ← node i
      return other.state == mark.state && other.place.bytes == n.place.bytes
    if isReached then continue
    let skipped : Extent :=
      ⟨0, n.place.bytes - mark.place.bytes, n.place.rows - mark.place.rows⟩
    if ← isSurpassed r false (cost + costs.ofText skipped) then return false
    if ← hasUse mark.state next.token? then
      if ← goBack r (if 0 < size then mark.depth + 1 else mark.depth) mark.state then return true
  return false

/-- Takes away the readings from a given one on that do not go on. -/
def dropInactive (first : Nat) : ReaderM Unit :=
  modify fun reader =>
    let early := reader.readings.extract 0 first
    let late := reader.readings.extract first reader.readings.size
    { reader with readings := early ++ late.filter fun x => x.progress.isActive }

/-- Passes over what comes next as text that fits nowhere, together with such text before it. -/
def skip (r : Nat) (next : Lookahead) : ReaderM Unit := do
  let isComment := next.token? == some Token.comment.index
  let piece := Tree.node .skipped [next.leaf.withExtra (next.leaf.isExtra || isComment)]
  if 0 < (← sizeSinceLoss r) then
    let first ← count
    match ← pop r 1 with
    | [] => push r (some piece) Automaton.lost
    | ways :: _ =>
      modify fun reader => { reader with readings := reader.readings.extract 0 (first + 1) }
      replace r first
      push r (some (.node .skipped (ways.headD [] ++ [piece]))) Automaton.lost
  else push r (some piece) Automaton.lost

/-- Lets a reading that has lost its place go on. -/
def recover (r : Nat) (next : Lookahead) : ReaderM Unit := do
  let known ← count
  let isBack ← goBackToLandmark r next
  dropInactive known
  if isBack && decide (bounds.readings < (← count)) then
    finish r
  else if next.token? == some Token.finish.index then
    push r (some (.node .misfit [])) Automaton.start
    complete r next
  else
    let total := next.leaf.measure.total
    if ← isSurpassed r false ((← cost r) + costs.node + costs.ofText total) then finish r
    else skip r next

/-- Goes on with a copy of a reading after a token that the text lacks, if what comes next shows
that one is missing. -/
def insertMissing (r : Nat) (next : Lookahead) : ReaderM Bool := do
  let here ← state r
  if here == Automaton.lost then return false
  for t in (List.range Token.count).drop 1 do
    let reaction ← reaction here (some t)
    if reaction.take == .never then continue
    let after ← stateAfter here (.token t)
    if after == here then continue
    let later ← Reader.reaction after next.token?
    if later.reductions.isEmpty then continue
    let new ← count
    add { (← reading r) with landmarks := [] }
    push new (some (.leaf (.missing t) [] [])) after
    if ← reduceAll new (new + 1) next.token? reduceAllRounds new 0 then return true
  return false

/-- The places below a reading that it may go back to. -/
def markPlaces (r : Nat) : ReaderM Unit := do
  let graph := (← get).graph
  let look (marks : List Landmark) (way : Way) : List Landmark × Halt :=
    let here := graph.node way.node
    let isNear (m : Landmark) : Bool := decide (way.length ≤ m.depth)
    if bounds.depth < way.length then (marks, .abandon)
    else if (marks.takeWhile isNear).any fun m =>
      m.depth == way.length && m.state == here.state then (marks, .pass)
    else (⟨here.place, way.length, here.state⟩ :: marks, .pass)
  let marks := (graph.walk (← reading r).node [] look).1
  change r fun x => { x with landmarks := marks.reverse }

/-- Lets a reading lose its place before something that it has no use for, after it has made all
reductions that are possible. -/
def lose (r : Nat) (next : Lookahead) : ReaderM Unit := do
  let first ← count
  let _ ← reduceAll r first none reduceAllRounds r 0
  let known ← count
  let mut isInserted := false
  for i in r :: (List.range known).drop first do
    if !isInserted then isInserted ← insertMissing i next
    push i none Automaton.lost
  for _ in (List.range known).drop first do
    let _ ← merge r first
  markPlaces r
  recover r next

end Reader
end Syntax
end PackageListing
