/-
# Reading literals

Between double quotes stand plain characters and escapes (`Inside`), between single quotes one of
them (`InsideRune`). A literal in double quotes goes to the first quote that no backslash hides
(`Inside.closeQuote?_eq`) and its character codes have their digits (`Inside.escapesHold`). A
literal in single quotes can be read in one way only, up to its second quote
(`InsideRune.rune_eq`).
-/

import PackageListing.Proofs.Source.Lexeme

namespace PackageListing
namespace Source

open Syntax

/-- A backslash with the characters that belong to it, between quotes of a kind. -/
inductive Escape (quote : Char) : List Char → Prop
  /-- A letter for a control character, a backslash, or the quote. -/
  | simple {c : Char} (hc : c ∈ "abfnrtv\\".toList ∨ c = quote) : Escape quote ['\\', c]
  /-- A code of three digits with base 8. -/
  | octal {a b c : Char} (ha : Pattern.isOctalDigit a = true) (hb : Pattern.isOctalDigit b = true)
    (hc : Pattern.isOctalDigit c = true) : Escape quote ['\\', a, b, c]
  /-- A code of two, four or eight digits with base 16, as the letter before them says. -/
  | code {c : Char} {n : Nat} {digits : List Char} (hc : (c, n) ∈ [('x', 2), ('u', 4), ('U', 8)])
    (hlength : digits.length = n) (hdigits : ∀ d ∈ digits, Pattern.isHexDigit d = true) :
    Escape quote ('\\' :: c :: digits)

/-- A character that stands for itself between quotes of a kind. -/
def IsPlain (quote c : Char) : Prop := c ≠ quote ∧ c ≠ '\\' ∧ c ≠ '\n'

/-- What stands between double quotes. -/
inductive Inside : List Char → Prop
  | nil : Inside []
  | plain {c : Char} {s : List Char} (hc : IsPlain '"' c) (h : Inside s) : Inside (c :: s)
  | escape {e s : List Char} (he : Escape '"' e) (h : Inside s) : Inside (e ++ s)

/-- What stands between single quotes. -/
inductive InsideRune : List Char → Prop
  | plain {c : Char} (hc : IsPlain '\'' c) : InsideRune [c]
  | escape {e : List Char} (he : Escape '\'' e) : InsideRune e

/-! ### Double quotes -/

theorem isPlain_of_digit {isDigit : Char → Bool} {quote d : Char} (hquote : isDigit quote = false)
    (hslash : isDigit '\\' = false) (hfeed : isDigit '\n' = false) (h : isDigit d = true) :
    IsPlain quote d := by
  have hne {c : Char} (hc : isDigit c = false) : d ≠ c := by
    rintro rfl
    exact Bool.false_ne_true (hc.symm.trans h)
  exact ⟨hne hquote, hne hslash, hne hfeed⟩

/-- An escape is a backslash, a character that it hides, and plain characters. -/
theorem Escape.exists_eq {quote : Char} {e : List Char} (hquote : quote = '"' ∨ quote = '\'')
    (h : Escape quote e) :
    ∃ c plain, e = '\\' :: c :: plain ∧ c ≠ '\n' ∧ ∀ d ∈ plain, IsPlain quote d := by
  cases h with
  | @simple c hc =>
    refine ⟨c, [], rfl, ?_, List.forall_mem_nil _⟩
    rintro rfl
    rcases hc with hc | rfl
    · exact absurd hc (by decide)
    · simp at hquote
  | @octal a b c ha hb hc =>
    have hdigit {d : Char} (hd : Pattern.isOctalDigit d = true) : IsPlain quote d :=
      isPlain_of_digit (by rcases hquote with rfl | rfl <;> decide) (by decide) (by decide) hd
    exact ⟨a, [b, c], rfl, (hdigit ha).2.2,
      List.forall_mem_cons.2 ⟨hdigit hb, List.forall_mem_singleton.2 (hdigit hc)⟩⟩
  | @code c n digits hc hlength hdigits =>
    have hdigit {d : Char} (hd : Pattern.isHexDigit d = true) : IsPlain quote d :=
      isPlain_of_digit (by rcases hquote with rfl | rfl <;> decide) (by decide) (by decide) hd
    refine ⟨c, digits, rfl, ?_, fun d hd => hdigit (hdigits d hd)⟩
    rintro rfl
    simp at hc

theorem closeQuote?_plain {plain : List Char} (h : ∀ d ∈ plain, IsPlain '"' d) (s : List Char) :
    closeQuote? (plain ++ s) = (closeQuote? s).map fun p => (plain ++ p.1, p.2) := by
  induction plain with
  | nil => simp
  | cons d plain ih =>
    obtain ⟨⟨hquote, hslash, hfeed⟩, hplain⟩ := List.forall_mem_cons.1 h
    rw [List.cons_append, closeQuote?]
    · simp [hquote, hfeed, ih hplain, Function.comp_def]
    · exact fun c t hd _ => hslash hd

theorem closeQuote?_escape {c : Char} (hc : c ≠ '\n') (s : List Char) :
    closeQuote? ('\\' :: c :: s) = (closeQuote? s).map fun p => ('\\' :: c :: p.1, p.2) := by
  rw [closeQuote?, if_neg (by simpa using hc)]

/-- **A literal in double quotes** goes to the first quote that no backslash hides. -/
theorem Inside.closeQuote?_eq {inside : List Char} (h : Inside inside) (s : List Char) :
    closeQuote? (inside ++ '"' :: s) = some (inside, s) := by
  induction h with
  | nil => rfl
  | @plain c inside hc _ ih =>
    have hplain := closeQuote?_plain (List.forall_mem_singleton.2 hc) (inside ++ '"' :: s)
    rw [ih] at hplain
    exact hplain
  | escape he _ ih =>
    obtain ⟨c, plain, rfl, hc, hplain⟩ := he.exists_eq (.inl rfl)
    rw [List.append_assoc, List.cons_append, List.cons_append, closeQuote?_escape hc,
      closeQuote?_plain hplain, ih]
    rfl

/-- Plain characters may stand between double quotes. -/
theorem Inside.of_plain {s : List Char} (h : ∀ c ∈ s, IsPlain '"' c) : Inside s := by
  induction s with
  | nil => exact .nil
  | cons c s ih =>
    obtain ⟨hc, hs⟩ := List.forall_mem_cons.1 h
    exact .plain hc (ih hs)

theorem escapesHold_plain {plain : List Char} (h : ∀ d ∈ plain, IsPlain '"' d) (s : List Char) :
    escapesHold (plain ++ s) = escapesHold s := by
  induction plain with
  | nil => rfl
  | cons d plain ih =>
    obtain ⟨⟨-, hslash, -⟩, hplain⟩ := List.forall_mem_cons.1 h
    rw [List.cons_append, escapesHold, ih hplain, bne_iff_ne.2 hslash, Bool.true_and]
    exact fun c t hd _ => hslash hd

/-- The characters after the backslash are those that the letter asks for. -/
theorem Escape.isEscape {quote c : Char} {plain : List Char}
    (hquote : quote = '"' ∨ quote = '\'') (h : Escape quote ('\\' :: c :: plain))
    (s : List Char) : isEscape c (plain ++ s) = true := by
  cases h with
  | simple hc =>
    have hall : ∀ c ∈ "abfnrtv\\\"'".toList, Source.isEscape c s = true := by
      simp [Source.isEscape]
    refine hall c ?_
    rcases hc with hc | rfl
    · exact List.mem_append_left ['"', '\''] hc
    · rcases hquote with rfl | rfl <;> decide
  | octal ha =>
    have hne : c ≠ 'x' ∧ c ≠ 'u' ∧ c ≠ 'U' := by
      refine ⟨?_, ?_, ?_⟩ <;>
      · rintro rfl
        exact absurd ha (by decide)
    simp [Source.isEscape, hne]
  | @code _ n _ hc hlength hdigits =>
    simp only [List.mem_cons, Prod.mk.injEq, List.not_mem_nil, or_false] at hc
    rcases hc with ⟨rfl, rfl⟩ | ⟨rfl, rfl⟩ | ⟨rfl, rfl⟩ <;>
    · simpa [Source.isEscape, List.take_left' hlength, hlength] using hdigits

theorem Inside.escapesHold {inside : List Char} (h : Inside inside) :
    escapesHold inside = true := by
  induction h with
  | nil => rfl
  | plain hc _ ih => exact (escapesHold_plain (List.forall_mem_singleton.2 hc) _).trans ih
  | escape he _ ih =>
    obtain ⟨c, plain, rfl, hc, hplain⟩ := he.exists_eq (.inl rfl)
    rw [List.cons_append, List.cons_append, Source.escapesHold, he.isEscape (.inl rfl),
      escapesHold_plain hplain, ih]
    rfl

/-! ### Single quotes -/

theorem foldl_flatMap_eq (ps : List Pattern) (lefts : List (List Char)) :
    ps.foldl (fun lefts p => lefts.flatMap p) lefts = lefts.flatMap (Pattern.seq ps) := by
  induction ps generalizing lefts with
  | nil => exact (List.flatMap_singleton' lefts).symm
  | cons p ps ih =>
    have hseq : Pattern.seq (p :: ps) = fun s => (p s).flatMap (Pattern.seq ps) := by
      funext s
      simp [Pattern.seq, ih]
    rw [List.foldl_cons, ih, List.flatMap_assoc, hseq]

theorem seq_cons (p : Pattern) (ps : List Pattern) (s : List Char) :
    Pattern.seq (p :: ps) s = (p s).flatMap (Pattern.seq ps) := by
  rw [Pattern.seq, List.foldl_cons, foldl_flatMap_eq, List.flatMap_singleton]

theorem seq_singleton (p : Pattern) : Pattern.seq [p] = p := by
  funext s
  rw [seq_cons]
  exact List.flatMap_singleton' (p s)

theorem times_one {p : Char → Bool} {digits : List Char} (h : ∀ d ∈ digits, p d = true)
    (s : List Char) : Pattern.times digits.length (Pattern.one p) (digits ++ s) = [s] := by
  induction digits with
  | nil => rfl
  | cons d digits ih =>
    obtain ⟨hd, hdigits⟩ := List.forall_mem_cons.1 h
    have hrest := ih hdigits
    rw [Pattern.times] at hrest
    simp [Pattern.times, List.replicate_succ, seq_cons, Pattern.one, hd, hrest]

theorem times_one_of_not {p : Char → Bool} {c : Char} (h : p c = false) (n : Nat)
    (s : List Char) : Pattern.times (n + 1) (Pattern.one p) (c :: s) = [] := by
  simp [Pattern.times, List.replicate_succ, seq_cons, Pattern.one, h]

theorem char_seq_cons (a c : Char) (p : Pattern) (s : List Char) :
    Pattern.seq [Pattern.char a, p] (c :: s) = if c = a then p s else [] := by
  by_cases h : c = a <;>
  · simp [seq_cons, seq_singleton, Pattern.char, Pattern.one, h]

theorem oneOf_cons (chars : String) (c : Char) (s : List Char) :
    Pattern.oneOf chars (c :: s) = if c ∈ chars.toList then [s] else [] := by
  simp [Pattern.oneOf, Pattern.one]

/-- What may stand after a backslash in a character literal. -/
def runeCode : Pattern :=
  Pattern.choice [Pattern.shortCode, Pattern.longCode,
    Pattern.times 3 (Pattern.one Pattern.isOctalDigit), Pattern.oneOf "abfnrtv\\'\""]

theorem rune_escape (s : List Char) :
    Pattern.rune ('\'' :: '\\' :: s) = (runeCode s).flatMap (Pattern.char '\'') := by
  simp [Pattern.rune, runeCode, seq_cons, seq_singleton, Pattern.choice, Pattern.char, Pattern.one]

theorem runeCode_cons (c : Char) (s : List Char) :
    runeCode (c :: s) =
      (if c = 'x' then Pattern.times 2 (Pattern.one Pattern.isHexDigit) s else []) ++
      ((if c = 'u' then Pattern.times 4 (Pattern.one Pattern.isHexDigit) s else []) ++
      (if c = 'U' then Pattern.times 8 (Pattern.one Pattern.isHexDigit) s else [])) ++
      Pattern.times 3 (Pattern.one Pattern.isOctalDigit) (c :: s) ++
      (if c ∈ "abfnrtv\\'\"".toList then [s] else []) := by
  simp only [runeCode, Pattern.choice, Pattern.shortCode, Pattern.longCode, char_seq_cons,
    oneOf_cons, List.flatMap_cons, List.flatMap_nil, List.append_nil, List.append_assoc]

/-- After an escape there is one way only to go on. -/
theorem Escape.runeCode_eq {e : List Char} (h : Escape '\'' ('\\' :: e)) (s : List Char) :
    runeCode (e ++ s) = [s] := by
  cases h with
  | @simple c hc =>
    have hall : "abfnrtv\\'".toList.all (fun c => Pattern.isOctalDigit c = false ∧
        (c ≠ 'x' ∧ c ≠ 'u' ∧ c ≠ 'U') ∧ c ∈ "abfnrtv\\'\"".toList) := by decide
    obtain ⟨hoctal, ⟨hx, hu, hU⟩, hsimple⟩ :=
      of_decide_eq_true (List.all_eq_true.1 hall c (by simpa [or_assoc] using hc))
    rw [List.singleton_append, runeCode_cons, times_one_of_not hoctal, if_neg hx, if_neg hu,
      if_neg hU, if_pos hsimple]
    rfl
  | @octal a b c ha hb hc =>
    have hdigits : Pattern.times 3 (Pattern.one Pattern.isOctalDigit) (a :: b :: c :: s) = [s] :=
      times_one (List.forall_mem_cons.2 ⟨ha, List.forall_mem_cons.2
        ⟨hb, List.forall_mem_singleton.2 hc⟩⟩) s
    have hne {d : Char} (hd : Pattern.isOctalDigit d = false) : a ≠ d := by
      rintro rfl
      simp [ha] at hd
    have hall : "abfnrtv\\'\"".toList.all (fun d => Pattern.isOctalDigit d = false) := by decide
    have hsimple : a ∉ "abfnrtv\\'\"".toList := fun hmem =>
      hne (of_decide_eq_true (List.all_eq_true.1 hall a hmem)) rfl
    rw [List.cons_append, List.cons_append, List.singleton_append, runeCode_cons, hdigits,
      if_neg (hne (by decide)), if_neg (hne (by decide)), if_neg (hne (by decide)),
      if_neg hsimple]
    rfl
  | @code c n digits hc hlength hdigits =>
    have htimes := times_one hdigits s
    rw [hlength] at htimes
    simp only [List.mem_cons, Prod.mk.injEq, List.not_mem_nil, or_false] at hc
    have hall : ['x', 'u', 'U'].all (fun c => Pattern.isOctalDigit c = false ∧
        c ∉ "abfnrtv\\'\"".toList) := by decide
    obtain ⟨hoctal, hsimple⟩ := of_decide_eq_true (List.all_eq_true.1 hall c
      (by simpa using hc.imp And.left (Or.imp And.left And.left)))
    rw [List.cons_append, runeCode_cons, times_one_of_not hoctal, if_neg hsimple]
    rcases hc with ⟨rfl, rfl⟩ | ⟨rfl, rfl⟩ | ⟨rfl, rfl⟩ <;>
    · simp [htimes]

/-- **A character literal** has one way to be read: up to its second quote. -/
theorem InsideRune.rune_eq {inside : List Char} (h : InsideRune inside) (s : List Char) :
    Pattern.rune ('\'' :: (inside ++ '\'' :: s)) = [s] := by
  cases h with
  | @plain c hc =>
    obtain ⟨hquote, hslash, -⟩ := hc
    simp [Pattern.rune, seq_cons, seq_singleton, Pattern.choice, Pattern.char, Pattern.one, hquote,
      hslash]
  | escape he =>
    obtain ⟨c, plain, rfl, -, -⟩ := he.exists_eq (.inr rfl)
    rw [List.cons_append, rune_escape, he.runeCode_eq]
    simp [Pattern.char, Pattern.one]

theorem InsideRune.not_mem {inside : List Char} (h : InsideRune inside) : '\n' ∉ inside := by
  cases h with
  | plain hc => exact fun hmem => hc.2.2 (List.mem_singleton.1 hmem).symm
  | escape he =>
    obtain ⟨c, plain, rfl, hc, hplain⟩ := he.exists_eq (.inr rfl)
    simp only [List.mem_cons, not_or]
    exact ⟨by decide, Ne.symm hc, fun hmem => (hplain _ hmem).2.2 rfl⟩

end Source
end PackageListing
