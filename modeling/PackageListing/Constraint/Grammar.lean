/-
# Reading constraint expressions

A disjunction is a chain of conjunctions, a conjunction a chain of negations, and a negation ends
in a tag or a bracketed disjunction. Chains lean to the left. Each reader takes an expression off
the front of a token list and gives back what follows it, with the proof that this is shorter; so
the readers end.
-/

import PackageListing.Constraint.Expr

namespace PackageListing
namespace Constraint

/-- An expression read off the front of `input`, and the tokens after it. -/
structure Reading (input : List Token) where
  /-- The expression. -/
  expr : Expr
  /-- What follows it. -/
  rest : List Token
  /-- Something was read. -/
  shorter : rest.length < input.length

mutual

/-- Reads a disjunction. -/
def readEither (input : List Token) : Except Defect (Reading input) := do
  let first ← readBoth input
  have := first.shorter
  moreEither input first
  termination_by 6 * input.length + 5

/-- Goes on with a disjunction after its first operands. -/
def moreEither (input : List Token) (left : Reading input) : Except Defect (Reading input) :=
  match hr : left.rest with
  | .either :: after => do
    have hafter : left.rest.length = after.length + 1 := by simp [hr]
    have := left.shorter
    let right ← readBoth after
    have := right.shorter
    moreEither input ⟨.or left.expr right.expr, right.rest, by omega⟩
  | _ => .ok left
  termination_by 6 * left.rest.length + 4

/-- Reads a conjunction. -/
def readBoth (input : List Token) : Except Defect (Reading input) := do
  let first ← readNot input
  have := first.shorter
  moreBoth input first
  termination_by 6 * input.length + 3

/-- Goes on with a conjunction after its first operands. -/
def moreBoth (input : List Token) (left : Reading input) : Except Defect (Reading input) :=
  match hr : left.rest with
  | .both :: after => do
    have hafter : left.rest.length = after.length + 1 := by simp [hr]
    have := left.shorter
    let right ← readNot after
    have := right.shorter
    moreBoth input ⟨.and left.expr right.expr, right.rest, by omega⟩
  | _ => .ok left
  termination_by 6 * left.rest.length + 2

/-- Reads a negation, a bracketed expression or a tag. -/
def readNot (input : List Token) : Except Defect (Reading input) :=
  match input with
  | .bang :: after => do
    let inner ← readNot after
    return ⟨.not inner.expr, inner.rest, Nat.lt_succ_of_lt inner.shorter⟩
  | .tag name :: after => .ok ⟨.tag name, after, Nat.lt_succ_self _⟩
  | .opening :: after => do
    let inner ← readEither after
    match hr : inner.rest with
    | .closing :: after' =>
      return ⟨inner.expr, after', by
        have := inner.shorter; simp only [hr, List.length_cons] at this ⊢; omega⟩
    | _ => throw .unclosed
  | _ => .error .missingOperand
  termination_by 6 * input.length + 1

end

/-- The constraint expression that a text denotes. -/
def Expr.parse (source : List Char) : Except Defect Expr := do
  let input ← tokens source
  let whole ← readEither input
  if whole.rest.isEmpty then return whole.expr else throw .trailingToken

end Constraint
end PackageListing
