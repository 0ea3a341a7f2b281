/-
# Constraints in file headers

The comments at the top of a source file may hold constraints: an expression in a `go:build`
comment, or alternatives in `+build` comments. The header ends at the first line with anything
but white space and comments. Expressions count anywhere in the header outside block comments,
and one is allowed. Lines of alternatives count only above the last blank line of the header,
because below it stands the comment that documents the package.
-/

import PackageListing.Constraint.Alternatives
import PackageListing.Constraint.Grammar

namespace PackageListing
namespace Constraint

/-- The constraints of a header. -/
structure Header where
  /-- The constraint expression. -/
  expression : Option String
  /-- The lines of alternatives. -/
  alternatives : List String
  deriving DecidableEq

namespace Header

/-- The opening mark of a line comment. -/
def lineMark : List Char := ['/', '/']

/-- The opening mark of a block comment. -/
def blockMark : List Char := ['/', '*']

/-- The closing mark of a block comment. -/
def blockEnd : List Char := ['*', '/']

/-- The argument of the directive `name` in the text of a comment. White space separates the
two. -/
def argument? (name : List Char) (comment : List Char) : Option (List Char) :=
  match Text.afterStart? name comment with
  | some [] => some []
  | some (c :: rest) => if c == ' ' || c == '\t' then some (Text.trim (c :: rest)) else none
  | none => none

/-- What a line of the header shows. -/
inductive Sight where
  /-- The inside of a block comment that stays open. -/
  | hidden
  /-- Nothing, or nothing after the end of a block comment. -/
  | blank
  /-- A line comment with this text. -/
  | comment (text : List Char)
  /-- A block comment that closes on its line. -/
  | block
  /-- A block comment that stays open. -/
  | opened
  /-- Anything else, where the header ends. -/
  | code

/-- What a line shows that begins outside block comments. -/
def sight (line : List Char) : Sight :=
  if line.isEmpty then .blank
  else
    match Text.afterStart? lineMark line with
    | some text => .comment text
    | none =>
      match Text.afterStart? blockMark line with
      | none => .code
      | some inside =>
        match Text.cutAt blockEnd inside with
        | none => .opened
        | some (_, after) => if (Text.trim after).isEmpty then .block else .code

/-- What a line shows that begins inside a block comment or outside. -/
def sightFrom (inBlock : Bool) (line : List Char) : Sight :=
  if inBlock then
    match Text.cutAt blockEnd line with
    | some (_, after) => sight (Text.trim after)
    | none => .hidden
  else sight line

/-- Goes through the lines of the header from line `i` on: the expression found, and the number
of the last blank line. `none` stands for a second expression. -/
def lead (i : Nat) (inBlock : Bool) (found : Option (List Char)) (lastBlank : Nat) :
    List (List Char) → Option (Option (List Char) × Nat)
  | [] => some (found, lastBlank)
  | line :: rest =>
    match sightFrom inBlock (Text.trim line) with
    | .hidden => lead (i + 1) true found lastBlank rest
    | .blank => lead (i + 1) false found i rest
    | .comment text =>
      match argument? "go:build".toList text with
      | none => lead (i + 1) false found lastBlank rest
      | some expression =>
        if found.isSome then none else lead (i + 1) false (some expression) lastBlank rest
    | .block => lead (i + 1) false found lastBlank rest
    | .opened => lead (i + 1) true found lastBlank rest
    | .code => some (found, lastBlank)

/-- The alternatives in the line comments of some lines. -/
def alternativesIn (inBlock : Bool) : List (List Char) → List (List Char)
  | [] => []
  | line :: rest =>
    let line := Text.trim line
    if inBlock then alternativesIn (Text.cutAt blockEnd line).isNone rest
    else
      match Text.afterStart? blockMark line with
      | some inside => alternativesIn (Text.cutAt blockEnd inside).isNone rest
      | none =>
        match (Text.afterStart? lineMark line).bind fun text =>
            argument? "+build".toList (Text.trimStart text) with
        | some alternatives => alternatives :: alternativesIn false rest
        | none => alternativesIn false rest

/-- The header of a source text, unless it has two constraint expressions. -/
def ofSource? (source : List Char) : Option Header :=
  let lines := Text.lines source
  (lead 0 false none 0 lines).map fun (found, lastBlank) =>
    { expression := found.map String.ofList
      alternatives := (alternativesIn false (lines.take lastBlank)).map String.ofList }

/-- Whether the header has no constraint. -/
def isEmpty (h : Header) : Bool :=
  h.expression.isNone && h.alternatives.isEmpty

/-- Whether the header admits a build. The lines of alternatives count only without an
expression. A malformed expression comes back with what is wrong with it. -/
def eval (h : Header) (ctx : Context) : Except (String × Defect) Bool :=
  match h.expression with
  | some source =>
    match Expr.parse source.toList with
    | .ok e => .ok (e.eval ctx)
    | .error defect => .error (source, defect)
  | none => .ok (h.alternatives.all (Alternatives.lineHolds ctx))

end Header
end Constraint
end PackageListing
