/-
# Spelling constraint expressions

An expression is spelled by its tokens in a row (`Expr.spell`), with brackets around an operand
that is looser than its place admits: a disjunction under a conjunction, anything but a tag or a
negation under an exclamation mark, and the same rank again at the right of a chain, because
chains lean to the left. The spelling derives from the grammar (`Expr.spell_derives`), and in a
row that derives no two tags touch (`Derives.apart`), so its text may have any blanks and tabs, or
none. `Expr.parse_reads_grammar` is the whole of it: which texts are read, as what, and that every
expression is read back from its spelling.
-/

import PackageListing.Proofs.Constraint.Grammar

namespace PackageListing
namespace Constraint

/-- How loose a rank is. -/
def Rank.looseness : Rank → Nat
  | operand => 0
  | negation => 1
  | both => 2
  | either => 3

namespace Expr

/-- The rank of an expression without brackets. -/
def rank : Expr → Rank
  | tag _ => .operand
  | not _ => .negation
  | and _ _ => .both
  | or _ _ => .either

/-- The spelling `ts` of an expression, in a place for expressions of a rank. -/
def placed (e : Expr) (place : Rank) (ts : List Token) : List Token :=
  if place.looseness < e.rank.looseness then .opening :: (ts ++ [.closing]) else ts

/-- The tokens of an expression, with brackets where they are needed. -/
def spell : Expr → List Token
  | tag name => [.tag name]
  | not e => .bang :: e.placed .negation e.spell
  | and l r => l.placed .both l.spell ++ .both :: r.placed .negation r.spell
  | or l r => l.placed .either l.spell ++ .either :: r.placed .both r.spell

/-- Whether all tags of the expression are runs of tag characters. -/
def isSpelled : Expr → Bool
  | tag name => isTag name.toList
  | not e => e.isSpelled
  | and l r => l.isSpelled && r.isSpelled
  | or l r => l.isSpelled && r.isSpelled

end Expr

/-! ### Spellings derive -/

theorem Derives.loosen {rank place : Rank} {ts : List Token} {e : Expr} (h : Derives rank ts e)
    (hle : rank.looseness ≤ place.looseness) : Derives place ts e := by
  cases rank <;> cases place <;> simp only [Rank.looseness] at hle
  case operand.operand => exact h
  case operand.negation => exact h.operand
  case operand.both => exact h.operand.negation
  case operand.either => exact h.operand.negation.both
  case negation.negation => exact h
  case negation.both => exact h.negation
  case negation.either => exact h.negation.both
  case both.both => exact h
  case both.either => exact h.both
  case either.either => exact h
  all_goals omega

theorem Derives.placed {ts : List Token} {e : Expr} (h : Derives e.rank ts e) (place : Rank) :
    Derives place (e.placed place ts) e := by
  rw [Expr.placed]
  split
  · have heither : e.rank.looseness ≤ Rank.either.looseness := by cases e.rank <;> decide
    exact (h.loosen heither).brackets.loosen (Nat.zero_le _)
  · next hle => exact h.loosen (Nat.le_of_not_lt hle)

theorem Expr.spell_derives (e : Expr) : Derives e.rank e.spell e := by
  induction e with
  | tag name => exact .tag name
  | not e ih => exact .not (ih.placed _)
  | and l r ihl ihr => exact .and (ihl.placed _) (ihr.placed _)
  | or l r ihl ihr => exact .or (ihl.placed _) (ihr.placed _)

/-! ### Spellings split -/

/-- A sign may stand between any two rows of tokens. -/
theorem isChain_apart_append (ts : List Token) {us : List Token} {t : Token} (ht : t.isSign = true)
    (hts : ts.IsChain Apart) (hus : us.IsChain Apart) : (ts ++ t :: us).IsChain Apart := by
  refine List.isChain_append.2 ⟨hts, List.isChain_cons.2 ⟨fun u _ => .inl ht, hus⟩, ?_⟩
  rintro u - v ⟨⟩
  exact .inr ht

/-- **In a row that derives no two tags touch.** -/
theorem Derives.apart {rank : Rank} {ts : List Token} {e : Expr} (h : Derives rank ts e) :
    ts.IsChain Apart := by
  induction h with
  | tag name => exact List.isChain_singleton _
  | brackets _ ih => exact isChain_apart_append [] rfl .nil (isChain_apart_append _ rfl ih .nil)
  | operand _ ih | negation _ ih | both _ ih => exact ih
  | not _ ih => exact isChain_apart_append [] rfl .nil ih
  | and _ _ ihl ihr | or _ _ ihl ihr => exact isChain_apart_append _ rfl ihl ihr

theorem Expr.mem_placed {e : Expr} {place : Rank} {ts : List Token} {t : Token}
    (h : t ∈ e.placed place ts) : t = .opening ∨ t ∈ ts ∨ t = .closing := by
  rw [Expr.placed] at h
  split at h
  · simpa using h
  · exact .inr (.inl h)

theorem Expr.isSpelled_of_mem_placed {e : Expr} {place : Rank} {ts : List Token}
    (h : ∀ t ∈ ts, t.isSpelled = true) : ∀ t ∈ e.placed place ts, t.isSpelled = true := by
  intro t ht
  rcases mem_placed ht with rfl | ht | rfl
  · rfl
  · exact h t ht
  · rfl

theorem isSpelled_of_mem_append {ts us : List Token} {t : Token}
    (hts : ∀ t ∈ ts, t.isSpelled = true)
    (ht : t.isSpelled = true) (hus : ∀ t ∈ us, t.isSpelled = true) :
    ∀ u ∈ ts ++ t :: us, u.isSpelled = true := by
  intro u hu
  rcases List.mem_append.1 hu with hu | hu
  · exact hts u hu
  · rcases List.mem_cons.1 hu with rfl | hu
    · exact ht
    · exact hus u hu

theorem Expr.isSpelled_of_mem_spell {e : Expr} (h : e.isSpelled = true) :
    ∀ t ∈ e.spell, t.isSpelled = true := by
  induction e with
  | tag name =>
    intro t ht
    rw [List.mem_singleton.1 ht]
    exact h
  | not e ih =>
    exact isSpelled_of_mem_append (List.forall_mem_nil _) rfl (isSpelled_of_mem_placed (ih h))
  | and l r ihl ihr | or l r ihl ihr =>
    obtain ⟨hl, hr⟩ := Bool.and_eq_true_iff.1 h
    exact isSpelled_of_mem_append (isSpelled_of_mem_placed (ihl hl)) rfl
      (isSpelled_of_mem_placed (ihr hr))

/-- **Constraint expressions are read by the grammar.** A text is read as an expression where its
tokens derive it. A text has one row of tokens and a row denotes one expression at most. And every
expression with well-formed tags is read back from its spelling, with any blanks and tabs. -/
theorem Expr.parse_reads_grammar :
    (∀ s e, Expr.parse s = .ok e ↔ ∃ ts, Splits s ts ∧ Derives .either ts e) ∧
    (∀ s ts us, Splits s ts → Splits s us → ts = us) ∧
    (∀ ts e e', Derives .either ts e → Derives .either ts e' → e = e') ∧
    ∀ (e : Expr) (s : List Char), e.isSpelled = true → Spaced e.spell s → Expr.parse s = .ok e := by
  refine ⟨fun s e => parse_eq_ok_iff, fun s ts us => Splits.unique, fun ts e e' => Derives.unique,
    fun e s hspelled hs => ?_⟩
  have hderives : Derives .either e.spell e :=
    e.spell_derives.loosen (by cases e.rank <;> decide)
  exact parse_eq_ok_iff.2 ⟨e.spell, hs.splits (isSpelled_of_mem_spell hspelled) hderives.apart,
    hderives⟩

/-- A disjunction under a conjunction keeps its brackets, and blanks go where they like. -/
theorem Expr.parse_sample :
    Expr.parse "!a &&(b.1||\tc)".toList =
      .ok (.and (.not (.tag "a")) (.or (.tag "b.1") (.tag "c"))) := by
  have hnone : ∀ c ∈ [], IsGap c := List.forall_mem_nil _
  have hblank : ∀ c ∈ [' '], IsGap c := List.forall_mem_singleton.2 (.inl rfl)
  have htab : ∀ c ∈ ['\t'], IsGap c := List.forall_mem_singleton.2 (.inr rfl)
  have hs : Spaced [.bang, .tag "a", .both, .opening, .tag "b.1", .either, .tag "c", .closing]
      "!a &&(b.1||\tc)".toList :=
    .cons [] _ hnone <| .cons [] _ hnone <| .cons [' '] _ hblank <| .cons [] _ hnone <|
      .cons [] _ hnone <| .cons [] _ hnone <| .cons ['\t'] _ htab <| .cons [] _ hnone <|
        .nil [] hnone
  exact parse_reads_grammar.2.2.2 _ _ (by decide) hs

end Constraint
end PackageListing
