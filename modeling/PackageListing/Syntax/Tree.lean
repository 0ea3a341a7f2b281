/-
# Syntax trees

A tree over a source text has the tokens as leaves and parts as nodes. Where the text is no Go, it
has other leaves and nodes as well: a token that is missing, characters that are no token, a
stretch of the text that fits nowhere. Each of these has a cost, and of two trees over one text
the cheaper one is kept; so a tree carries its size and its cost (`Measure`), which follow from
those of its children (`Tree.node`). The texts of the leaves of a tree make up the text that was
read (`Tree.written`).
-/

import PackageListing.Syntax.Grammar
import PackageListing.Text.Utf8

namespace PackageListing
namespace Syntax

/-- The sum of some numbers. -/
def addUp (numbers : List Nat) : Nat :=
  numbers.foldr (· + ·) 0

/-- The length of a stretch of text. -/
structure Extent where
  /-- In characters. -/
  characters : Nat
  /-- In bytes. -/
  bytes : Nat
  /-- In line ends. -/
  rows : Nat
  deriving DecidableEq, Inhabited

namespace Extent

/-- No text. -/
def zero : Extent := ⟨0, 0, 0⟩

instance : Add Extent where
  add a b := ⟨a.characters + b.characters, a.bytes + b.bytes, a.rows + b.rows⟩

/-- The extent of a text. -/
def ofText (s : List Char) : Extent :=
  ⟨s.length, addUp (s.map Char.utf8Size), s.count '\n'⟩

end Extent

/-- What a tree stands for. -/
inductive Kind where
  /-- A token, by its place in the vocabulary. -/
  | token (i : Nat)
  /-- A token that the text lacks. -/
  | missing (i : Nat)
  /-- Characters that are no token. -/
  | stray
  /-- A part, by its number. -/
  | part (i : Nat)
  /-- A stretch of text that fits nowhere. -/
  | misfit
  /-- A piece of such a stretch. -/
  | skipped
  deriving DecidableEq, Inhabited

namespace Kind

/-- Whether a tree of this kind has a node of its own. -/
def isShown : Kind → Bool
  | token i => i != Token.finish.index
  | missing _ | stray | misfit => true
  | part i => (goGrammar.parts.getD i default).isShown
  | skipped => false

/-- Whether a tree of this kind stands for something of its own, and not for a fixed text. -/
def isNamed : Kind → Bool
  | token i | missing i => (Token.vocabulary.getD i default).isNamed
  | stray | misfit => true
  | part i => (goGrammar.parts.getD i default).isShown
  | skipped => false

/-- Whether it holds text that fits nowhere. -/
def isMisfit : Kind → Bool
  | stray | misfit => true
  | _ => false

/-- Whether two kinds are one symbol. -/
def same : Kind → Kind → Bool
  | token i, missing j | missing i, token j => i == j
  | a, b => a == b

end Kind

/-- What is known of a tree without looking into it. -/
structure Measure where
  /-- The white space before it. -/
  space : Extent
  /-- The text that it covers. -/
  body : Extent
  /-- The cost. -/
  cost : Nat
  /-- How many nodes of their own are below it. -/
  descendants : Nat
  /-- How many nodes of their own are its children. -/
  children : Nat
  /-- The weight. -/
  weight : Int
  deriving Inhabited

namespace Measure

/-- All text of a tree. -/
def total (m : Measure) : Extent := m.space + m.body

end Measure

/-- A tree over a piece of text. -/
inductive Tree where
  /-- A tree. White space and text belong to leaves, children to nodes. An extra tree may stand
  anywhere and is no part of what stands around it. -/
  | mk (kind : Kind) (space text : List Char) (children : List Tree) (isExtra : Bool)
    (measure : Measure)
  deriving Inhabited

/-- The costs of what does not fit. -/
structure Costs where
  /-- Of a stretch of text that fits nowhere. -/
  misfit : Nat
  /-- Of a token that is missing. -/
  missing : Nat
  /-- Of each node in such a stretch. -/
  node : Nat
  /-- Of each line end in it. -/
  row : Nat
  /-- Of each byte in it. -/
  byte : Nat

/-- The costs that trees are compared by. -/
def costs : Costs := ⟨500, 110, 100, 30, 1⟩

/-- The cost of skipping a text. -/
def Costs.ofText (c : Costs) (e : Extent) : Nat := e.bytes * c.byte + e.rows * c.row

namespace Tree

/-- What it stands for. -/
def kind : Tree → Kind
  | mk kind _ _ _ _ _ => kind

/-- The children. -/
def children : Tree → List Tree
  | mk _ _ _ children _ _ => children

/-- Whether it may stand anywhere. -/
def isExtra : Tree → Bool
  | mk _ _ _ _ isExtra _ => isExtra

/-- What is known of it. -/
def measure : Tree → Measure
  | mk _ _ _ _ _ measure => measure

/-- The tree as one of another kind. -/
def withKind (kind : Kind) : Tree → Tree
  | mk _ space text children isExtra measure => mk kind space text children isExtra measure

/-- The tree as one that may stand anywhere, or not. -/
def withExtra (isExtra : Bool) : Tree → Tree
  | mk kind space text children _ measure => mk kind space text children isExtra measure

/-- The tree with more weight. -/
def addWeight (n : Int) : Tree → Tree
  | mk kind space text children isExtra m =>
    mk kind space text children isExtra { m with weight := m.weight + n }

/-- A leaf. -/
def leaf (kind : Kind) (space text : List Char) : Tree :=
  let cost :=
    match kind with
    | .missing _ => costs.missing + costs.misfit
    | _ => 0
  mk kind space text [] (kind == .token Token.finish.index)
    ⟨.ofText space, .ofText text, cost, 0, 0, 0⟩

/-- How many nodes of their own a tree adds to the node above it. -/
def shownNodes (t : Tree) : Nat :=
  if t.kind.isShown then 1 else t.measure.children

/-- What a child of a stretch that fits nowhere costs. -/
def misfitCost (t : Tree) : Nat :=
  if t.isExtra || (t.kind.isMisfit && t.children.isEmpty) then 0
  else if t.kind.isShown then costs.node
  else if t.children.isEmpty then 0
  else costs.node * t.measure.children

/-- What is known of a node from its children. -/
def measureOf (kind : Kind) (children : List Tree) : Measure :=
  let isStretch := kind == .misfit || kind == .skipped
  let space :=
    match children with
    | [] => Extent.zero
    | t :: _ => t.measure.space
  let body :=
    match children with
    | [] => Extent.zero
    | t :: rest => rest.foldl (fun e u => e + u.measure.total) t.measure.body
  let inner := addUp (children.map fun t => if t.kind == .skipped then 0 else t.measure.cost)
  let own :=
    if isStretch then addUp (children.map misfitCost) + costs.misfit + costs.ofText body else 0
  { space := space
    body := body
    cost := inner + own
    descendants :=
      addUp (children.map fun t => t.measure.descendants + if t.kind.isShown then 1 else 0)
    children := addUp (children.map shownNodes)
    weight := children.foldr (fun t weight => t.measure.weight + weight) 0 }

/-- A node. -/
def node (kind : Kind) (children : List Tree) : Tree :=
  mk kind [] [] children false (measureOf kind children)

/-- How many nodes a tree counts for in a row of trees. -/
def weightInRow (t : Tree) : Nat :=
  t.measure.descendants + if t.kind.isShown || t.kind == .skipped then 1 else 0

/-- Whether two trees over the same text are the same for what follows. -/
def alike (a b : Tree) : Bool :=
  a.kind.same b.kind &&
    (decide (0 < a.measure.cost ∧ 0 < b.measure.cost) ||
      (a.measure.space.bytes == b.measure.space.bytes &&
        a.measure.body.bytes == b.measure.body.bytes &&
        a.children.length == b.children.length && a.isExtra == b.isExtra))

/-- Whether the second of two trees over one text is to be kept: the cheaper one is, and among
equally cheap ones that with more weight; of equals with a cost it is the later one. -/
def isWorse (a b : Tree) : Bool :=
  if a.measure.cost ≠ b.measure.cost then decide (b.measure.cost < a.measure.cost)
  else if a.measure.weight ≠ b.measure.weight then decide (a.measure.weight < b.measure.weight)
  else decide (0 < a.measure.cost)

mutual

/-- The text of a tree, with the white space before it. -/
def written : Tree → List Char
  | mk _ space text children _ _ => space ++ text ++ writtenAll children

/-- The texts of trees. -/
def writtenAll : List Tree → List Char
  | [] => []
  | t :: trees => t.written ++ writtenAll trees

end

/-- The text of a tree without the white space before it. -/
def text (t : Tree) : List Char := t.written.drop t.measure.space.characters

mutual

/-- The named trees that a tree stands for: itself, or those below it where it has no node. -/
def namedTrees : Tree → List Tree
  | t@(mk kind _ _ children _ _) =>
    if kind.isShown then if kind.isNamed then [t] else [] else namedAmong children

/-- The named trees that trees stand for. -/
def namedAmong : List Tree → List Tree
  | [] => []
  | t :: trees => t.namedTrees ++ namedAmong trees

end

/-- The named children of a tree. -/
def namedChildren (t : Tree) : List Tree := namedAmong t.children

/-- The trees without the extra ones at their end, and these. -/
def splitExtras (trees : List Tree) : List Tree × List Tree :=
  let extras := (trees.reverse.takeWhile isExtra).reverse
  ((trees.reverse.dropWhile isExtra).reverse, extras)

end Tree
end Syntax
end PackageListing
