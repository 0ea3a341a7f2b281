/-
# Cutting constraint expressions into tokens

A text splits into tokens (`Splits`) where signs, longest runs of tag characters, blanks and tabs
stand in a row and nothing else does. The tokens that are read off a text are the ones that it
splits into (`tokens_eq_ok_iff`), so a text splits in one way at most (`Splits.unique`) and a
text that does not split has no tokens. Tokens that are written in a row, with any blanks and tabs
around them, split again into those tokens, unless two tags touch (`Spaced.splits`).
-/

import PackageListing.Constraint.Expr
import PackageListing.Result
import PackageListing.Text.Split
import Mathlib.Data.List.Chain
import Mathlib.Data.List.TakeWhile

namespace PackageListing
namespace Constraint

open Result (map_eq_ok)

/-- The characters that only separate tokens. -/
def IsGap (c : Char) : Prop :=
  c = ' ' ∨ c = '\t'

namespace Token

/-- The text of a token. -/
def text : Token → List Char
  | tag name => name.toList
  | bang => ['!']
  | both => ['&', '&']
  | either => ['|', '|']
  | opening => ['(']
  | closing => [')']

/-- Whether the token is a sign and no tag. -/
def isSign : Token → Bool
  | tag _ => false
  | _ => true

end Token

/-- A text in which these tokens stand in a row. A tag goes as far as its characters do. -/
inductive Splits : List Char → List Token → Prop
  | nil : Splits [] []
  | gap {c : Char} {s : List Char} {ts : List Token} (hc : IsGap c) (h : Splits s ts) :
    Splits (c :: s) ts
  | sign {t : Token} {s : List Char} {ts : List Token} (ht : t.isSign = true) (h : Splits s ts) :
    Splits (t.text ++ s) (t :: ts)
  | tag {word s : List Char} {ts : List Token} (hword : isTag word = true)
    (hend : ∀ c ∈ s.head?, isTagCharacter c = false) (h : Splits s ts) :
    Splits (word ++ s) (.tag (String.ofList word) :: ts)

theorem isTag_cons {c : Char} {word : List Char} :
    isTag (c :: word) = true ↔ isTagCharacter c = true ∧ ∀ d ∈ word, isTagCharacter d = true := by
  simp [isTag]

/-! ### Reading tokens one by one -/

theorem tokens_nil : tokens [] = .ok [] := by
  rw [tokens]

theorem tokens_gap {c : Char} (hc : IsGap c) (s : List Char) : tokens (c :: s) = tokens s := by
  rw [tokens.eq_def]
  exact if_pos (by rcases hc with rfl | rfl <;> rfl)

theorem tokens_sign {t : Token} (ht : t.isSign = true) (s : List Char) :
    tokens (t.text ++ s) = (t :: ·) <$> tokens s := by
  cases t with
  | tag name => exact absurd ht Bool.false_ne_true
  | bang => exact tokens.eq_def _
  | both => exact tokens.eq_def _
  | either => exact tokens.eq_def _
  | opening => exact tokens.eq_def _
  | closing => exact tokens.eq_def _

theorem tokens_tag {word s : List Char} (hword : isTag word = true)
    (hend : ∀ c ∈ s.head?, isTagCharacter c = false) :
    tokens (word ++ s) = (.tag (String.ofList word) :: ·) <$> tokens s := by
  cases word with
  | nil => exact absurd hword Bool.false_ne_true
  | cons c word =>
    obtain ⟨hc, hrest⟩ := isTag_cons.1 hword
    have hne : ∀ d, isTagCharacter d = false → (c == d) = false := fun d hd =>
      beq_eq_false_iff_ne.2 fun h => by rw [h, hd] at hc; exact Bool.false_ne_true hc
    obtain ⟨htake, hdrop⟩ := Text.takeWhile_append_of_head? hrest hend
    rw [List.cons_append, tokens.eq_def]
    simp [hne ' ' (by decide), hne '\t' (by decide), hne '!' (by decide), hne '(' (by decide),
      hne ')' (by decide), hne '&' (by decide), hne '|' (by decide), hc, htake, hdrop]

/-! ### Tokens and splits -/

theorem Splits.tokens_eq {s : List Char} {ts : List Token} (h : Splits s ts) :
    tokens s = .ok ts := by
  induction h with
  | nil => exact tokens_nil
  | gap hc _ ih => rw [tokens_gap hc, ih]
  | sign ht _ ih => rw [tokens_sign ht, ih]; rfl
  | tag hword hend _ ih => rw [tokens_tag hword hend, ih]; rfl

theorem splits_sign_of_map {t : Token} (ht : t.isSign = true) {s : List Char} {ts : List Token}
    (ih : ∀ {us : List Token}, tokens s = .ok us → Splits s us)
    (h : (t :: ·) <$> tokens s = .ok ts) : Splits (t.text ++ s) ts := by
  obtain ⟨us, hus, rfl⟩ := map_eq_ok.1 h
  exact .sign ht (ih hus)

theorem splits_of_tokens_eq {s : List Char} {ts : List Token} (h : tokens s = .ok ts) :
    Splits s ts := by
  fun_induction tokens s generalizing ts with
  | case1 =>
    cases h
    exact .nil
  | case2 c s hc ih =>
    have hgap : c = ' ' ∨ c = '\t' := by simpa only [Bool.or_eq_true, beq_iff_eq] using hc
    exact .gap hgap (ih h)
  | case3 c s _ hc ih =>
    obtain rfl := eq_of_beq hc
    exact splits_sign_of_map (t := .bang) rfl ih h
  | case4 c s _ _ hc ih =>
    obtain rfl := eq_of_beq hc
    exact splits_sign_of_map (t := .opening) rfl ih h
  | case5 c s _ _ _ hc ih =>
    obtain rfl := eq_of_beq hc
    exact splits_sign_of_map (t := .closing) rfl ih h
  | case6 c _ _ _ _ hc s ih =>
    obtain rfl := eq_of_beq hc
    exact splits_sign_of_map (t := .both) rfl ih h
  | case7 => cases h
  | case8 c _ _ _ _ _ hc s ih =>
    obtain rfl := eq_of_beq hc
    exact splits_sign_of_map (t := .either) rfl ih h
  | case9 => cases h
  | case10 c s _ _ _ _ _ _ hc _ ih =>
    have hword : isTag (c :: s.takeWhile isTagCharacter) = true :=
      isTag_cons.2 ⟨hc, fun d hd => List.mem_takeWhile_imp hd⟩
    have hend : ∀ d ∈ (s.dropWhile isTagCharacter).head?, isTagCharacter d = false :=
      fun d hd => by
        have hnot := List.head?_dropWhile_not isTagCharacter s
        rwa [hd] at hnot
    obtain ⟨us, hus, rfl⟩ := map_eq_ok.1 h
    have hsplits := Splits.tag hword hend (ih hus)
    rwa [List.cons_append, List.takeWhile_append_dropWhile] at hsplits
  | case11 => cases h

/-- **The tokens of a text are the ones that it splits into.** -/
theorem tokens_eq_ok_iff {s : List Char} {ts : List Token} :
    tokens s = .ok ts ↔ Splits s ts :=
  ⟨splits_of_tokens_eq, Splits.tokens_eq⟩

theorem Splits.unique {s : List Char} {ts us : List Token} (hts : Splits s ts)
    (hus : Splits s us) : ts = us :=
  Except.ok.inj (hts.tokens_eq.symm.trans hus.tokens_eq)

/-! ### Tokens in a row -/

/-- A text that is these tokens in a row, with any blanks and tabs before, between and after. -/
inductive Spaced : List Token → List Char → Prop
  | nil (gap : List Char) (hgap : ∀ c ∈ gap, IsGap c) : Spaced [] gap
  | cons (gap : List Char) (t : Token) {s : List Char} {ts : List Token}
    (hgap : ∀ c ∈ gap, IsGap c) (h : Spaced ts s) : Spaced (t :: ts) (gap ++ (t.text ++ s))

/-- Two tokens of which at most one is a tag. -/
def Apart (t u : Token) : Prop :=
  t.isSign = true ∨ u.isSign = true

/-- Whether the token is a sign, or a tag of tag characters. -/
def Token.isSpelled : Token → Bool
  | .tag name => isTag name.toList
  | _ => true

theorem Splits.gaps {gap s : List Char} {ts : List Token} (hgap : ∀ c ∈ gap, IsGap c)
    (h : Splits s ts) : Splits (gap ++ s) ts := by
  induction gap with
  | nil => exact h
  | cons c gap ih =>
    exact .gap (hgap c List.mem_cons_self) (ih fun d hd => hgap d (List.mem_cons_of_mem c hd))

theorem isTagCharacter_of_isGap {c : Char} (hc : IsGap c) : isTagCharacter c = false := by
  rcases hc with rfl | rfl <;> decide

/-- The text of a sign begins with a character that is in no tag. -/
theorem Token.head?_text {t : Token} (ht : t.isSign = true) (s : List Char) :
    ∀ c ∈ (t.text ++ s).head?, isTagCharacter c = false := by
  cases t with
  | tag name => exact absurd ht Bool.false_ne_true
  | bang | both | either | opening | closing =>
    rintro c ⟨⟩
    decide

/-- A row of tokens after a tag begins with a character that is in no tag. -/
theorem Spaced.head?_of_apart {ts : List Token} {s : List Char} (h : Spaced ts s)
    (hts : ∀ t ∈ ts.head?, t.isSign = true) : ∀ c ∈ s.head?, isTagCharacter c = false := by
  intro c hc
  cases h with
  | nil gap hgap => exact isTagCharacter_of_isGap (hgap c (List.mem_of_mem_head? hc))
  | @cons gap t s ts hgap h =>
    cases gap with
    | nil => exact Token.head?_text (hts t rfl) s c hc
    | cons d gap =>
      cases hc
      exact isTagCharacter_of_isGap (hgap _ List.mem_cons_self)

/-- **Tokens in a row are split again,** unless two tags touch. -/
theorem Spaced.splits {ts : List Token} {s : List Char} (h : Spaced ts s)
    (hspelled : ∀ t ∈ ts, t.isSpelled = true) (hapart : ts.IsChain Apart) : Splits s ts := by
  induction h with
  | nil gap hgap =>
    have hsplits := Splits.nil.gaps hgap
    rwa [List.append_nil] at hsplits
  | @cons gap t s ts hgap h ih =>
    refine Splits.gaps hgap ?_
    have hts := ih (fun u hu => hspelled u (List.mem_cons_of_mem t hu)) hapart.tail
    cases t with
    | tag name =>
      have hend := h.head?_of_apart fun u hu => by
        cases ts with
        | nil => cases hu
        | cons v ts =>
          cases hu
          exact (List.isChain_cons_cons.1 hapart).1.resolve_left Bool.false_ne_true
      have hsplits := Splits.tag (hspelled _ List.mem_cons_self) hend hts
      rwa [String.ofList_toList] at hsplits
    | bang | both | either | opening | closing => exact .sign rfl hts

end Constraint
end PackageListing
