/-
# The outline of a tree

The tree of a source shows the package clauses and the imports among its declarations, also where
other parts of the source are no Go. The first thing in a package clause that has a name is taken
for the name of the package, and of several clauses the last counts.
-/

import PackageListing.Syntax.SourceTree
import PackageListing.Text.Split

namespace PackageListing
namespace Source

open Syntax

/-- The package name and the import paths of a source, as written. -/
structure Header where
  /-- The declared name. -/
  name : List Char
  /-- The imported paths, in order. -/
  paths : List (List Char)
  deriving DecidableEq, Inhabited

/-- The number of a part of the grammar. -/
def partNumber (name : String) : Nat := goGrammar.names.idxOf name

/-- The parts that an outline knows. -/
structure OutlineParts where
  /-- A package clause. -/
  clause : Kind
  /-- An import, with one path or a list. -/
  imports : Kind
  /-- One path with its alias. -/
  spec : Kind
  /-- The literals that a path may be. -/
  literals : List Kind

/-- The parts of an outline. -/
def outlineParts : OutlineParts :=
  { clause := .part (partNumber "PackageClause")
    imports := .part (partNumber "ImportDeclaration")
    spec := .part (partNumber "ImportSpec")
    literals := [.part (partNumber "RawString"), .part (partNumber "QuotedString")] }

mutual

/-- The trees for one import each in a tree. -/
def specsIn : Tree → List Tree
  | t@(.mk kind _ _ children _ _) =>
    if kind = outlineParts.spec then [t] else specsAmong children

/-- The trees for one import each in some trees. -/
def specsAmong : List Tree → List Tree
  | [] => []
  | t :: trees => specsIn t ++ specsAmong trees

end

/-- The text of a literal without its quotes; a text without quotes as it is. -/
def unquote (s : List Char) : List Char :=
  let isQuoted (q : Char) : Bool := s.head? == some q && s.getLast? == some q
  if 2 ≤ s.length ∧ (isQuoted '"' ∨ isQuoted '\x60') then s.tail.dropLast else s

/-- The path of one import. -/
def pathOf? (spec : Tree) : Option (List Char) :=
  (spec.namedChildren.find? fun t => outlineParts.literals.contains t.kind).map fun t =>
    unquote (Text.trim t.text)

/-- The name in a package clause. -/
def nameOf? (clause : Tree) : Option (List Char) :=
  clause.namedChildren.head?.map fun t => Text.trim t.text

namespace Header

/-- The header that a tree of a source shows. -/
def ofTree? (t : Tree) : Option Header :=
  let declarations := t.namedChildren
  let clauses := declarations.filter fun d => d.kind = outlineParts.clause
  let imports := declarations.filter fun d => d.kind = outlineParts.imports
  match clauses.getLast?.bind nameOf? with
  | none => none
  | some name => some ⟨name, (imports.flatMap specsIn).filterMap pathOf?⟩

end Header
end Source
end PackageListing
