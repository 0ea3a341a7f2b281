/-
# Constraint lines of alternatives

The older form of a constraint: a line of alternatives between white space, each a list of terms
between commas, each term a tag or a tag after one exclamation mark. A line holds if all terms of
one alternative do. A term whose tag is malformed never holds, negated or not.
-/

import PackageListing.Constraint.Expr
import PackageListing.Text.Split

namespace PackageListing
namespace Constraint
namespace Alternatives

/-- Whether a term holds. -/
def termHolds (ctx : Context) (term : List Char) : Bool :=
  match term with
  | '!' :: tag => isTag tag && !ctx.holds (String.ofList tag)
  | tag => isTag tag && ctx.holds (String.ofList tag)

/-- Whether all terms of an alternative hold. -/
def alternativeHolds (ctx : Context) (alternative : List Char) : Bool :=
  (alternative.splitOn ',').all (termHolds ctx)

/-- Whether an alternative of the line holds. -/
def lineHolds (ctx : Context) (line : String) : Bool :=
  (Text.words line.toList).any (alternativeHolds ctx)

end Alternatives
end Constraint
end PackageListing
