/-
# Shared stacks

A reader that follows several readings of a text has a stack of states for each of them. Where the
readings agree they share their stacks, so the stacks together are a graph: a node is a state with
the text read so far, and its links lead to the nodes below it, each by the tree that was read
from there (`Stacks`). A node gets a second link when two readings come together again
(`Stacks.addLink`). The ways down from a node are followed side by side (`Stacks.walk`).
-/

import PackageListing.Syntax.Automaton
import PackageListing.Syntax.Tree

namespace PackageListing
namespace Syntax

/-- The bounds on what a reader follows at the same time. -/
structure Bounds where
  /-- The readings that are kept. -/
  readings : Nat
  /-- The readings that may come up beyond these. -/
  overflow : Nat
  /-- The links of a node. -/
  links : Nat
  /-- The ways down from a node. -/
  ways : Nat
  /-- How far down a lost reader looks for its place. -/
  depth : Nat
  /-- The difference in cost at which a reading is given up. -/
  difference : Nat

/-- The bounds that readers keep to. -/
def bounds : Bounds := ⟨6, 4, 8, 64, 16, 1800⟩

/-- A step down in a stack. -/
structure Link where
  /-- The node below. -/
  node : Nat
  /-- The tree that was read from there; there is none where the reader lost its place. -/
  tree? : Option Tree
  deriving Inhabited

namespace Link

/-- The weight of the tree. -/
def weight (l : Link) : Int := l.tree?.elim 0 fun t => t.measure.weight

/-- How many nodes the tree counts for. -/
def size (l : Link) : Nat := l.tree?.elim 0 Tree.weightInRow

/-- Whether two links hold alike trees. -/
def alike (a b : Link) : Bool :=
  match a.tree?, b.tree? with
  | none, none => true
  | some t, some u => Tree.alike t u
  | _, _ => false

end Link

/-- A node of stacks. -/
structure StackNode where
  /-- The state of the reader. -/
  state : Nat
  /-- The text read so far. -/
  place : Extent
  /-- What it cost. -/
  cost : Nat
  /-- How many nodes the trees below count for. -/
  size : Nat
  /-- The weight of the trees below. -/
  weight : Int
  /-- The steps down. -/
  links : List Link
  deriving Inhabited

namespace StackNode

/-- The bottom of all stacks. -/
def bottom : StackNode := ⟨Automaton.start, .zero, 0, 0, 0, []⟩

/-- The node above another one. -/
def above (below : StackNode) (link : Link) (state : Nat) : StackNode :=
  { state := state
    place := link.tree?.elim below.place fun t => below.place + t.measure.total
    cost := below.cost + link.tree?.elim 0 fun t => t.measure.cost
    size := below.size + link.size
    weight := below.weight + link.weight
    links := [link] }

/-- Whether readings at two nodes go on in the same way. -/
def meets (a b : StackNode) : Bool :=
  a.state == b.state && a.place.bytes == b.place.bytes && a.cost == b.cost

end StackNode

/-- A way down from a node. -/
structure Way where
  /-- The node that it has reached. -/
  node : Nat
  /-- The trees on the way, in the order of the text. -/
  trees : List Tree
  /-- The steps, those of extra trees apart. -/
  length : Nat

namespace Way

/-- One step more. -/
def step (w : Way) (l : Link) : Way :=
  match l.tree? with
  | some t => ⟨l.node, t :: w.trees, if t.isExtra then w.length else w.length + 1⟩
  | none => ⟨l.node, w.trees, w.length + 1⟩

end Way

/-- What is done where a way has come to. -/
structure Halt where
  /-- Whether the way is taken up. -/
  isFound : Bool
  /-- Whether it ends here. -/
  isEnd : Bool

namespace Halt

/-- The way goes on. -/
def pass : Halt := ⟨false, false⟩

/-- The way leads nowhere. -/
def abandon : Halt := ⟨false, true⟩

/-- The way is taken up and ends. -/
def arrive : Halt := ⟨true, true⟩

end Halt

/-- The ways that lead to one node, by their trees. -/
structure Arrival where
  /-- The node. -/
  node : Nat
  /-- The trees of each way. -/
  ways : List (List Tree)

/-- The arrivals with one more way. -/
def addArrival (arrivals : List Arrival) (w : Way) : List Arrival :=
  match arrivals with
  | [] => [⟨w.node, [w.trees]⟩]
  | a :: rest =>
    if a.node = w.node then { a with ways := a.ways ++ [w.trees] } :: rest
    else a :: addArrival rest w

/-- Ways that are followed at the same time. -/
structure Walk (σ : Type) where
  /-- What is remembered of them. -/
  memory : σ
  /-- The ways taken up. -/
  arrivals : List Arrival
  /-- The ways that go on, the last one first. -/
  ongoing : List Way
  /-- The ways that branched off, the last one first. -/
  branches : List Way

/-- The nodes of the stacks. -/
structure Stacks where
  /-- The nodes by their numbers. -/
  nodes : Array StackNode
  deriving Inhabited

namespace Stacks

/-- The stacks before a text is read. -/
def initial : Stacks := ⟨#[.bottom]⟩

/-- A node. -/
def node (s : Stacks) (n : Nat) : StackNode := s.nodes.getD n default

/-- Puts a node on top of another one. -/
def push (s : Stacks) (below : Nat) (tree? : Option Tree) (state : Nat) : Nat × Stacks :=
  let made := (s.node below).above ⟨below, tree?⟩ state
  (s.nodes.size, ⟨s.nodes.push made⟩)

/-- Whether a new link of a node leads where a link of it leads already: to the same node, or to
one where readings go on in the same way. -/
def isKnown (s : Stacks) (new old : Link) : Bool :=
  old.alike new && (old.node == new.node || (s.node old.node).meets (s.node new.node))

/-- Gives a node one more link. A link to where one leads already only makes that one heavier, or
gives its node the links of the new one. -/
def addLink : (fuel : Nat) → Stacks → Nat → Link → Stacks
  | 0, s, _, _ => s
  | fuel + 1, s, n, link =>
    let top := s.node n
    let below := s.node link.node
    if link.node = n then s
    else
      match top.links.findIdx? (s.isKnown link) with
      | some i =>
        let old := top.links.getD i default
        if old.node = link.node then
          if old.weight < link.weight then
            ⟨s.nodes.modify n fun top =>
              { top with links := top.links.set i link, weight := below.weight + link.weight }⟩
          else s
        else
          let s := below.links.foldl (fun s l => addLink fuel s old.node l) s
          ⟨s.nodes.modify n fun top =>
            { top with weight := max top.weight (below.weight + link.weight) }⟩
      | none =>
        if bounds.links ≤ top.links.length then s
        else
          ⟨s.nodes.modify n fun top =>
            { top with
              links := top.links ++ [link]
              size := max top.size (below.size + link.size)
              weight := max top.weight (below.weight + link.weight) }⟩

/-- Gives a node the links of another one. -/
def addLinks (s : Stacks) (n other : Nat) : Stacks :=
  (s.node other).links.foldl (fun s l => s.addLink s.nodes.size n l) s

/-- Follows one of several ways by one step. So many others wait. -/
def advance {σ : Type} (s : Stacks) (look : σ → Way → σ × Halt) (waiting : Nat) (w : Walk σ)
    (way : Way) : Walk σ :=
  let (memory, halt) := look w.memory way
  let arrivals := if halt.isFound then addArrival w.arrivals way else w.arrivals
  let links := (s.node way.node).links
  match halt.isEnd, links with
  | false, first :: others =>
    let room := bounds.ways - (w.ongoing.length + 1 + waiting + w.branches.length)
    ⟨memory, arrivals, way.step first :: w.ongoing,
      ((others.take room).map way.step).reverse ++ w.branches⟩
  | _, _ => ⟨memory, arrivals, w.ongoing, w.branches⟩

/-- Follows all ways by one step. -/
def advanceAll {σ : Type} (s : Stacks) (look : σ → Way → σ × Halt) :
    List Way → Walk σ → Walk σ
  | [], w => w
  | way :: ways, w => advanceAll s look ways (s.advance look ways.length w way)

/-- Follows ways to their ends. -/
def follow {σ : Type} (s : Stacks) (look : σ → Way → σ × Halt) :
    (fuel : Nat) → List Way → Walk σ → Walk σ
  | _, [], w => w
  | 0, _, w => w
  | fuel + 1, ways, w =>
    let w := s.advanceAll look ways ⟨w.memory, w.arrivals, [], []⟩
    follow s look fuel (w.ongoing.reverse ++ w.branches.reverse) w

/-- The ways down from a node that are taken up, and what is remembered of all of them. -/
def walk {σ : Type} (s : Stacks) (start : Nat) (memory : σ) (look : σ → Way → σ × Halt) :
    σ × List Arrival :=
  let w := s.follow look (s.nodes.size + 1) [⟨start, [], 0⟩] ⟨memory, [], [], []⟩
  (w.memory, w.arrivals)

/-- The ways of so many steps down from a node. -/
def waysOfLength (s : Stacks) (start n : Nat) : List Arrival :=
  (s.walk start () fun _ way => ((), if way.length = n then .arrive else .pass)).2

/-- The ways to the bottom. -/
def waysToBottom (s : Stacks) (start : Nat) : List Arrival :=
  (s.walk start () fun _ way =>
    ((), if (s.node way.node).links.isEmpty then .arrive else .pass)).2

/-- The first step down from a node that holds text that fits nowhere. -/
def misfitStep (s : Stacks) (start : Nat) : List Arrival :=
  (s.walk start false fun isFound way =>
    match way.trees with
    | [] => (isFound, .pass)
    | t :: _ => if !isFound && t.kind.isMisfit then (true, .arrive) else (isFound, .abandon)).2

end Stacks
end Syntax
end PackageListing
