/-
# The grammar of constraint expressions

The grammar (`Derives`) has four ranks. An operand is a tag or a disjunction in brackets, a
negation is an operand after any number of exclamation marks, and conjunctions and disjunctions
are chains that lean to the left. What the readers take off a token list derives from the grammar
(`derives_of_readEither`), and where a derived row of tokens stands in front, the readers come
to its end with its expression (`Derives.reads`). So a row of tokens denotes one expression at
most (`Derives.unique`), and the texts that denote an expression are the ones that split into
tokens which derive it (`parse_eq_ok_iff`).
-/

import PackageListing.Constraint.Grammar
import PackageListing.Proofs.Constraint.Tokens
import PackageListing.Result

namespace PackageListing
namespace Constraint

open Result (bind_eq_ok)

/-- The ranks of the grammar, from the tightest to the loosest. -/
inductive Rank where
  | operand
  | negation
  | both
  | either
  deriving DecidableEq

/-- A row of tokens of some rank, and the expression that it denotes. -/
inductive Derives : Rank → List Token → Expr → Prop
  | tag (name : String) : Derives .operand [.tag name] (.tag name)
  | brackets {ts : List Token} {e : Expr} (h : Derives .either ts e) :
    Derives .operand (.opening :: (ts ++ [.closing])) e
  | operand {ts : List Token} {e : Expr} (h : Derives .operand ts e) : Derives .negation ts e
  | not {ts : List Token} {e : Expr} (h : Derives .negation ts e) :
    Derives .negation (.bang :: ts) (.not e)
  | negation {ts : List Token} {e : Expr} (h : Derives .negation ts e) : Derives .both ts e
  | and {ts us : List Token} {l r : Expr} (hl : Derives .both ts l) (hr : Derives .negation us r) :
    Derives .both (ts ++ .both :: us) (.and l r)
  | both {ts : List Token} {e : Expr} (h : Derives .both ts e) : Derives .either ts e
  | or {ts us : List Token} {l r : Expr} (hl : Derives .either ts l) (hr : Derives .both us r) :
    Derives .either (ts ++ .either :: us) (.or l r)

/-! ### What is read derives -/

/-- The tokens before the rest of `input`, from which the readings come. -/
def Reading.From (rank : Rank) {input : List Token} (r : Reading input) : Prop :=
  ∃ ts, input = ts ++ r.rest ∧ Derives rank ts r.expr

/-- An operand of a chain goes to the tokens before it. -/
theorem append_cons_append {input ts after us rest : List Token} {t : Token}
    (h : input = ts ++ t :: after) (hafter : after = us ++ rest) :
    input = ts ++ t :: us ++ rest := by
  rw [h, hafter, List.append_assoc, List.cons_append]

mutual

theorem from_of_readEither {input : List Token} {r : Reading input}
    (h : readEither input = .ok r) : r.From .either := by
  rw [readEither] at h
  obtain ⟨first, hfirst, h⟩ := bind_eq_ok.1 h
  have hlt := first.shorter
  obtain ⟨ts, heq, hts⟩ := from_of_readBoth hfirst
  exact from_of_moreEither ⟨ts, heq, .both hts⟩ h
  termination_by 6 * input.length + 5

theorem from_of_moreEither {input : List Token} {left r : Reading input}
    (hleft : left.From .either) (h : moreEither input left = .ok r) : r.From .either := by
  rw [moreEither] at h
  split at h
  · next after hrest =>
    obtain ⟨right, hright, h⟩ := bind_eq_ok.1 h
    have hlt := right.shorter
    have hlt' := left.shorter
    have hlen : left.rest.length = after.length + 1 := by rw [hrest, List.length_cons]
    obtain ⟨ts, heq, hts⟩ := hleft
    obtain ⟨us, heq', hus⟩ := from_of_readBoth hright
    exact from_of_moreEither ⟨_, append_cons_append (hrest ▸ heq) heq', .or hts hus⟩ h
  · cases h
    exact hleft
  termination_by 6 * left.rest.length + 4

theorem from_of_readBoth {input : List Token} {r : Reading input}
    (h : readBoth input = .ok r) : r.From .both := by
  rw [readBoth] at h
  obtain ⟨first, hfirst, h⟩ := bind_eq_ok.1 h
  have hlt := first.shorter
  obtain ⟨ts, heq, hts⟩ := from_of_readNot hfirst
  exact from_of_moreBoth ⟨ts, heq, .negation hts⟩ h
  termination_by 6 * input.length + 3

theorem from_of_moreBoth {input : List Token} {left r : Reading input}
    (hleft : left.From .both) (h : moreBoth input left = .ok r) : r.From .both := by
  rw [moreBoth] at h
  split at h
  · next after hrest =>
    obtain ⟨right, hright, h⟩ := bind_eq_ok.1 h
    have hlt := right.shorter
    have hlt' := left.shorter
    have hlen : left.rest.length = after.length + 1 := by rw [hrest, List.length_cons]
    obtain ⟨ts, heq, hts⟩ := hleft
    obtain ⟨us, heq', hus⟩ := from_of_readNot hright
    exact from_of_moreBoth ⟨_, append_cons_append (hrest ▸ heq) heq', .and hts hus⟩ h
  · cases h
    exact hleft
  termination_by 6 * left.rest.length + 2

theorem from_of_readNot {input : List Token} {r : Reading input}
    (h : readNot input = .ok r) : r.From .negation := by
  unfold readNot at h
  split at h
  · next after =>
    obtain ⟨inner, hinner, h⟩ := bind_eq_ok.1 h
    cases h
    obtain ⟨ts, heq, hts⟩ := from_of_readNot hinner
    exact ⟨.bang :: ts, congrArg _ heq, .not hts⟩
  · next name after =>
    cases h
    exact ⟨[.tag name], rfl, .operand (.tag name)⟩
  · next after =>
    obtain ⟨inner, hinner, h⟩ := bind_eq_ok.1 h
    obtain ⟨ts, heq, hts⟩ := from_of_readEither hinner
    split at h
    · next after' hrest =>
      cases h
      have htokens := append_cons_append (hrest ▸ heq) (List.nil_append after').symm
      exact ⟨.opening :: (ts ++ [.closing]), congrArg _ htokens, .operand (.brackets hts)⟩
    · cases h
  · cases h
  termination_by 6 * input.length + 1

end

/-! ### What derives is read -/

theorem readNot_tag (name : String) (rest : List Token) :
    readNot (.tag name :: rest) = .ok ⟨.tag name, rest, Nat.lt_succ_self _⟩ := by
  unfold readNot
  rfl

theorem readNot_bang {input : List Token} {r : Reading input} (h : readNot input = .ok r) :
    readNot (.bang :: input) = .ok ⟨.not r.expr, r.rest, Nat.lt_succ_of_lt r.shorter⟩ := by
  unfold readNot
  simp only [h]
  rfl

theorem readNot_brackets {input rest : List Token} {e : Expr}
    {hlt : (Token.closing :: rest).length < input.length}
    (h : readEither input = .ok ⟨e, .closing :: rest, hlt⟩) :
    ∃ hlt', readNot (.opening :: input) = .ok ⟨e, rest, hlt'⟩ := by
  refine ⟨by simp only [List.length_cons] at hlt ⊢; omega, ?_⟩
  unfold readNot
  simp only [h]
  rfl

theorem readBoth_of_readNot {input : List Token} {r : Reading input} (h : readNot input = .ok r) :
    readBoth input = moreBoth input r := by
  rw [readBoth, h]
  rfl

theorem moreBoth_next {input after : List Token} (l : Expr)
    (hlt : (Token.both :: after).length < input.length) {r : Reading after}
    (h : readNot after = .ok r) :
    ∃ hlt', moreBoth input ⟨l, .both :: after, hlt⟩ =
      moreBoth input ⟨.and l r.expr, r.rest, hlt'⟩ := by
  have hr := r.shorter
  refine ⟨by simp only [List.length_cons] at hlt; omega, ?_⟩
  rw [moreBoth]
  simp only [h]
  rfl

theorem moreBoth_stop {input : List Token} {left : Reading input}
    (h : ∀ t ∈ left.rest.head?, t ≠ .both) : moreBoth input left = .ok left := by
  rw [moreBoth]
  split
  · next after hrest => exact absurd rfl (h .both (by rw [hrest]; rfl))
  · rfl

theorem readEither_of_readBoth {input : List Token} {r : Reading input}
    (h : readBoth input = .ok r) : readEither input = moreEither input r := by
  rw [readEither, h]
  rfl

theorem moreEither_next {input after : List Token} (l : Expr)
    (hlt : (Token.either :: after).length < input.length) {r : Reading after}
    (h : readBoth after = .ok r) :
    ∃ hlt', moreEither input ⟨l, .either :: after, hlt⟩ =
      moreEither input ⟨.or l r.expr, r.rest, hlt'⟩ := by
  have hr := r.shorter
  refine ⟨by simp only [List.length_cons] at hlt; omega, ?_⟩
  rw [moreEither]
  simp only [h]
  rfl

theorem moreEither_stop {input : List Token} {left : Reading input}
    (h : ∀ t ∈ left.rest.head?, t ≠ .either) : moreEither input left = .ok left := by
  rw [moreEither]
  split
  · next after hrest => exact absurd rfl (h .either (by rw [hrest]; rfl))
  · rfl

/-- The readers come to the end of `ts` with `e`, whatever follows. A chain may go on after it. -/
def Reads (ts : List Token) (e : Expr) : Rank → Prop
  | .operand | .negation => ∀ input rest, input = ts ++ rest →
    ∃ h, readNot input = .ok ⟨e, rest, h⟩
  | .both => ∀ input rest, input = ts ++ rest →
    ∃ h, readBoth input = moreBoth input ⟨e, rest, h⟩
  | .either => ∀ input rest, input = ts ++ rest → (∀ t ∈ rest.head?, t ≠ .both) →
    ∃ h, readEither input = moreEither input ⟨e, rest, h⟩

theorem Derives.reads {rank : Rank} {ts : List Token} {e : Expr} (h : Derives rank ts e) :
    Reads ts e rank := by
  induction h with
  | tag name =>
    rintro _ rest rfl
    exact ⟨_, readNot_tag name rest⟩
  | @brackets ts e _ ih =>
    rintro _ rest rfl
    obtain ⟨hlt, hread⟩ := ih (ts ++ .closing :: rest) (.closing :: rest) rfl (by rintro t ⟨⟩ ⟨⟩)
    rw [moreEither_stop (by rintro t ⟨⟩ ⟨⟩)] at hread
    rw [List.cons_append, List.append_assoc]
    exact readNot_brackets hread
  | operand _ ih => exact ih
  | @not ts e _ ih =>
    rintro _ rest rfl
    obtain ⟨hlt, hread⟩ := ih (ts ++ rest) rest rfl
    exact ⟨_, readNot_bang hread⟩
  | negation _ ih =>
    intro input rest heq
    obtain ⟨hlt, hread⟩ := ih input rest heq
    exact ⟨hlt, readBoth_of_readNot hread⟩
  | @and ts us l r _ _ ihl ihr =>
    rintro _ rest rfl
    obtain ⟨hltl, hreadl⟩ := ihl _ (.both :: (us ++ rest)) (append_cons_append rfl rfl).symm
    obtain ⟨hltr, hreadr⟩ := ihr (us ++ rest) rest rfl
    obtain ⟨hlt, hnext⟩ := moreBoth_next l hltl hreadr
    exact ⟨hlt, hreadl.trans hnext⟩
  | both _ ih =>
    intro input rest heq hrest
    obtain ⟨hlt, hread⟩ := ih input rest heq
    rw [moreBoth_stop hrest] at hread
    exact ⟨hlt, readEither_of_readBoth hread⟩
  | @or ts us l r _ _ ihl ihr =>
    rintro _ rest rfl hrest
    obtain ⟨hltl, hreadl⟩ := ihl _ (.either :: (us ++ rest)) (append_cons_append rfl rfl).symm
      (by rintro t ⟨⟩ ⟨⟩)
    obtain ⟨hltr, hreadr⟩ := ihr (us ++ rest) rest rfl
    rw [moreBoth_stop hrest] at hreadr
    obtain ⟨hlt, hnext⟩ := moreEither_next l hltl hreadr
    exact ⟨hlt, hreadl.trans hnext⟩

/-- **A row of tokens of the loosest rank is read in full.** -/
theorem Derives.readEither_eq {ts : List Token} {e : Expr} (h : Derives .either ts e) :
    ∃ hlt, readEither ts = .ok ⟨e, [], hlt⟩ := by
  obtain ⟨hlt, hread⟩ := h.reads ts [] (List.append_nil ts).symm (by rintro t ⟨⟩)
  rw [moreEither_stop (by rintro t ⟨⟩)] at hread
  exact ⟨hlt, hread⟩

/-- **A row of tokens denotes one expression at most.** -/
theorem Derives.unique {ts : List Token} {e e' : Expr} (h : Derives .either ts e)
    (h' : Derives .either ts e') : e = e' := by
  obtain ⟨_, hread⟩ := h.readEither_eq
  obtain ⟨_, hread'⟩ := h'.readEither_eq
  rw [hread] at hread'
  cases hread'
  rfl

theorem parse_eq_ok_iff {s : List Char} {e : Expr} :
    Expr.parse s = .ok e ↔ ∃ ts, Splits s ts ∧ Derives .either ts e := by
  rw [Expr.parse, bind_eq_ok]
  constructor
  · rintro ⟨ts, hts, h⟩
    obtain ⟨whole, hwhole, h⟩ := bind_eq_ok.1 h
    split at h
    · next hrest =>
      cases h
      obtain ⟨us, heq, hus⟩ := from_of_readEither hwhole
      rw [List.isEmpty_iff.1 hrest, List.append_nil] at heq
      exact ⟨ts, tokens_eq_ok_iff.1 hts, heq ▸ hus⟩
    · cases h
  · rintro ⟨ts, hts, h⟩
    obtain ⟨hlt, hread⟩ := h.readEither_eq
    refine ⟨ts, tokens_eq_ok_iff.2 hts, ?_⟩
    rw [hread]
    rfl

end Constraint
end PackageListing
