/-
# Constraint expressions

A constraint expression combines tags by negation, conjunction and disjunction. Its text is cut
into tokens first: a tag is a longest run of letters, numbers, underscores and full stops, and
blanks and tabs stand anywhere between tokens.
-/

import PackageListing.Constraint.Context
import PackageListing.Text.Class
import PackageListing.Text.Quoted

namespace PackageListing
namespace Constraint

/-- A constraint on the build. -/
inductive Expr where
  | tag (name : String)
  | not (e : Expr)
  | and (l r : Expr)
  | or (l r : Expr)
  deriving DecidableEq

/-- Whether the constraint holds in a build. -/
def Expr.eval (ctx : Context) : Expr → Bool
  | tag name => ctx.holds name
  | not e => !e.eval ctx
  | and l r => l.eval ctx && r.eval ctx
  | or l r => l.eval ctx || r.eval ctx

/-- A word or a sign of a constraint expression. -/
inductive Token where
  | tag (name : String)
  | bang
  | both
  | either
  | opening
  | closing
  deriving DecidableEq

/-- Why a text is no constraint expression. -/
inductive Defect where
  /-- One of the doubled signs stands alone. -/
  | loneSign (c : Char)
  /-- A character that begins no token. -/
  | strayCharacter (c : Char)
  /-- A whole expression is followed by more. -/
  | trailingToken
  /-- An opened bracket is not closed. -/
  | unclosed
  /-- A tag, a negation or a bracket should stand here. -/
  | missingOperand
  deriving DecidableEq

/-- What is wrong with the expression `source`, in words. -/
def Defect.message (source : String) : Defect → String
  | loneSign c =>
    "invalid syntax at " ++ Text.quotedChar c ++ " in build constraint " ++ Text.quoted source
  | strayCharacter c =>
    "unexpected " ++ Text.quotedChar c ++ " in build constraint " ++ Text.quoted source
  | trailingToken => "unexpected token in build constraint " ++ Text.quoted source
  | unclosed => "missing ')' in build constraint " ++ Text.quoted source
  | missingOperand => "expected tag in build constraint " ++ Text.quoted source

/-- The characters of tags. -/
def isTagCharacter (c : Char) : Bool :=
  Text.isAlphanumeric c || c == '_' || c == '.'

/-- A word that may stand as a tag. -/
def isTag (word : List Char) : Bool :=
  !word.isEmpty && word.all isTagCharacter

/-- The tokens of a text. -/
def tokens : List Char → Except Defect (List Token)
  | [] => .ok []
  | c :: s =>
    if c == ' ' || c == '\t' then tokens s
    else if c == '!' then (.bang :: ·) <$> tokens s
    else if c == '(' then (.opening :: ·) <$> tokens s
    else if c == ')' then (.closing :: ·) <$> tokens s
    else if c == '&' then
      match s with
      | '&' :: s => (.both :: ·) <$> tokens s
      | _ => .error (.loneSign c)
    else if c == '|' then
      match s with
      | '|' :: s => (.either :: ·) <$> tokens s
      | _ => .error (.loneSign c)
    else if isTagCharacter c then
      have := (List.dropWhile_sublist (l := s) isTagCharacter).length_le
      (.tag (String.ofList (c :: s.takeWhile isTagCharacter)) :: ·) <$>
        tokens (s.dropWhile isTagCharacter)
    else .error (.strayCharacter c)
  termination_by s => s.length
  decreasing_by
    all_goals
      simp only [List.length_cons] at *
      omega

end Constraint
end PackageListing
