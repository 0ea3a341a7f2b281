/-
# Cutting the text of a value into tokens

A written value is cut again into the tokens that it was written from. A string gives back its
characters, for each is read as it was escaped (`inside?_escape`), whichever it is
(`isCut_quoted`). A number gives back its digits where the text after it does not go on with it
(`isCut_integer`), and after every value in a text comes a comma, a bracket or a blank. So a
value without numbers and strings that have no value is cut into its tokens (`Plain.isCut`).
-/

import PackageListing.Json.Reader
import PackageListing.Json.Writer
import Mathlib.Data.List.Forall2
import Mathlib.Tactic.SplitIfs

namespace PackageListing
namespace Json

/-! ### Texts in a row -/

/-- A text before another one is cut into these tokens, and the other one goes on. -/
def IsCut (s : List Char) (ts : List Token) (rest : List (Option Char)) : Prop :=
  tokens? (s.map some ++ rest) = (ts ++ ·) <$> tokens? rest

theorem isCut_nil (rest : List (Option Char)) : IsCut [] [] rest := by
  rw [IsCut, List.map_nil, List.nil_append]
  cases tokens? rest <;> rfl

theorem IsCut.append {s t : List Char} {ts us : List Token} {rest : List (Option Char)}
    (h : IsCut s ts (t.map some ++ rest)) (h' : IsCut t us rest) :
    IsCut (s ++ t) (ts ++ us) rest := by
  rw [IsCut] at h h' ⊢
  rw [List.map_append, List.append_assoc, h, h']
  cases tokens? rest with
  | none => rfl
  | some more => exact congrArg some (List.append_assoc ts us more).symm

theorem tokens?_cons {c : Char} {s rest : List (Option Char)} {t : Token}
    (hc : isSeparator c = false) (h : token? c s = some (t, rest)) :
    tokens? (some c :: s) = ([t] ++ ·) <$> tokens? rest := by
  rw [tokens?, if_neg (by rw [hc]; exact Bool.false_ne_true)]
  split
  · next hnone => rw [h] at hnone; cases hnone
  · next hsome => rw [h] at hsome; cases hsome; rfl

/-! ### Strings -/

/-- A character as a part of the inside of a string. The controls are written by their number. -/
inductive Piece.Shows (c : Char) : Piece → Prop
  | char : Shows c (.char c)
  | unit (h : c.toNat < 32) : Shows c (.unit c.toNat)

/-- Four digits give back the number of a control. -/
theorem hexNumber?_padded : ∀ n < 32,
    (List.replicate (4 - (Text.hexDigits n).length) '0' ++ Text.hexDigits n).length = 4 ∧
      hexNumber? ((List.replicate (4 - (Text.hexDigits n).length) '0' ++
        Text.hexDigits n).map some) = some n := by
  decide

theorem inside?_hex {digits : List Char} {n : Nat} (hlen : digits.length = 4)
    (hn : hexNumber? (digits.map some) = some n) (rest : List (Option Char)) :
    inside? ((['\\', 'u'] ++ digits).map some ++ rest) =
      (inside? rest).map fun p => (.unit n :: p.1, p.2) := by
  match digits, hlen with
  | [a, b, c, d], _ =>
    simp only [List.map_cons, List.map_nil] at hn
    simp only [List.cons_append, List.nil_append, List.map_cons, List.map_nil, inside?, hn]
    cases inside? rest <;> rfl

theorem inside?_short {c d : Char} (hd : shortEscape? d = some c) (hu : d ≠ 'u')
    (rest : List (Option Char)) :
    inside? (['\\', d].map some ++ rest) = (inside? rest).map fun p => (.char c :: p.1, p.2) := by
  simp only [List.map_cons, List.map_nil, List.cons_append, List.nil_append]
  rw [inside?]
  · rw [hd]
    cases inside? rest <;> rfl
  · rintro _ _ _ _ _ - rfl
    exact hu rfl

theorem inside?_plain {c : Char} (hquote : c ≠ '"') (hslash : c ≠ '\\') (hc : ¬c < ' ')
    (rest : List (Option Char)) :
    inside? ([c].map some ++ rest) = (inside? rest).map fun p => (.char c :: p.1, p.2) := by
  change inside? (some c :: rest) = _
  rw [inside?]
  · exact if_neg fun h => h.elim hslash hc
  · exact hquote
  · exact fun _ _ _ _ _ _ h => hslash h
  · exact fun _ _ _ h => hslash h

theorem inside?_escaped (c : Char) : ∃ piece, Piece.Shows c piece ∧ ∀ rest,
    inside? ((escaped c).map some ++ rest) =
      (inside? rest).map fun p => (piece :: p.1, p.2) := by
  unfold escaped
  split_ifs with hsign hb ht hn hf hr hlow
  · rcases hsign with rfl | rfl
    · exact ⟨_, .char, inside?_short rfl (by decide)⟩
    · exact ⟨_, .char, inside?_short rfl (by decide)⟩
  · exact hb ▸ ⟨_, .char, inside?_short rfl (by decide)⟩
  · exact ht ▸ ⟨_, .char, inside?_short rfl (by decide)⟩
  · exact hn ▸ ⟨_, .char, inside?_short rfl (by decide)⟩
  · exact hf ▸ ⟨_, .char, inside?_short rfl (by decide)⟩
  · exact hr ▸ ⟨_, .char, inside?_short rfl (by decide)⟩
  · have hlt : c.toNat < 32 := hlow
    obtain ⟨hlen, hnum⟩ := hexNumber?_padded c.toNat hlt
    refine ⟨.unit c.toNat, .unit hlt, fun rest => ?_⟩
    simpa only [List.append_assoc] using inside?_hex hlen hnum rest
  · rw [not_or] at hsign
    exact ⟨.char c, .char, inside?_plain hsign.1 hsign.2 hlow⟩

/-- **The inside of a string is read back,** part by part, up to the closing quote. -/
theorem inside?_escape (s : List Char) (rest : List (Option Char)) :
    ∃ pieces, List.Forall₂ Piece.Shows s pieces ∧
      inside? ((s.flatMap escaped).map some ++ some '"' :: rest) = some (pieces, rest) := by
  induction s with
  | nil => exact ⟨[], .nil, rfl⟩
  | cons c s ih =>
    obtain ⟨piece, hpiece, hread⟩ := inside?_escaped c
    obtain ⟨pieces, hpieces, hrest⟩ := ih
    refine ⟨piece :: pieces, .cons hpiece hpieces, ?_⟩
    rw [List.flatMap_cons, List.map_append, List.append_assoc, hread, hrest]
    rfl

theorem textOf?_unit {n : Nat} (h : n < 32) (pieces : List Piece) :
    textOf? (.unit n :: pieces) = (Char.ofNat n :: ·) <$> textOf? pieces := by
  have hhigh : isHigh n = false := by simp [isHigh]; omega
  have hlow : isLow n = false := by simp [isLow]; omega
  cases pieces with
  | nil => simp [textOf?, hhigh, hlow]
  | cons p pieces => cases p <;> simp [textOf?, hhigh, hlow]

/-- The parts that show characters denote the text of these. -/
theorem textOf?_of_shows {s : List Char} {pieces : List Piece}
    (h : List.Forall₂ Piece.Shows s pieces) : textOf? pieces = some s := by
  induction h with
  | nil => rfl
  | cons hshows _ ih =>
    cases hshows with
    | char => rw [textOf?, ih]; rfl
    | unit hlt => rw [textOf?_unit hlt, ih, Char.ofNat_toNat]; rfl

theorem token?_quote (s : List (Option Char)) :
    token? '"' s =
      (inside? s).map fun p => (.string ((textOf? p.1).map String.ofList), p.2) := rfl

/-- **A string is read back** with what follows it. -/
theorem isCut_quoted (s : String) (rest : List (Option Char)) :
    IsCut (quoted s) [.string (some s)] rest := by
  obtain ⟨pieces, hpieces, hread⟩ := inside?_escape s.toList rest
  have hquoted : (quoted s).map some ++ rest =
      some '"' :: ((s.toList.flatMap escaped).map some ++ some '"' :: rest) := by
    simp [quoted]
  have htoken : token? '"' ((s.toList.flatMap escaped).map some ++ some '"' :: rest) =
      some (.string (some s), rest) := by
    rw [token?_quote, hread]
    simp only [Option.map_some, textOf?_of_shows hpieces, String.ofList_toList]
  rw [IsCut, hquoted, tokens?_cons rfl htoken]

/-! ### Numbers -/

/-- A number does not go on where this text begins. -/
def EndsNumber (s : List (Option Char)) : Prop :=
  ∀ c ∈ s.head?, isDigit c = false ∧ c ≠ some '.' ∧ c ≠ some 'e' ∧ c ≠ some 'E'

/-- The digits of a number other than nought do not begin with a nought. -/
theorem head?_toDigits {n : Nat} (h : 0 < n) : (Nat.toDigits 10 n).head? ≠ some '0' := by
  induction n using Nat.strongRecOn with
  | ind n ih =>
    rw [Nat.toDigits_eq_if (by decide)]
    split
    · next hlt =>
      have hdigit : ∀ m < 10, 0 < m → m.digitChar ≠ '0' := by decide
      simpa using hdigit n hlt h
    · next hle =>
      have hdiv : 0 < n / 10 := Nat.div_pos (Nat.le_of_not_lt hle) (by decide)
      rw [List.head?_append_of_ne_nil _ Nat.toDigits_ne_nil]
      exact ih (n / 10) (Nat.div_lt_self h (by decide)) hdiv

theorem decimal_toDigits (n : Nat) : decimal ((Nat.toDigits 10 n).map some) = n := by
  have hfold := Nat.ofDigitChars_ten_toDigits (n := n)
  rw [Nat.ofDigitChars_eq_foldl] at hfold
  simpa only [decimal, List.foldl_map, Option.getD_some, Nat.mul_comm] using hfold

theorem digits?_toDigits (n : Nat) {rest : List (Option Char)} (hrest : EndsNumber rest) :
    digits? ((Nat.toDigits 10 n).map some ++ rest) = some ((Nat.toDigits 10 n).map some, rest) := by
  have hdigits : ∀ c ∈ (Nat.toDigits 10 n).map some, isDigit c = true := by
    intro c hc
    obtain ⟨d, hd, rfl⟩ := List.mem_map.1 hc
    exact Nat.isDigit_of_mem_toDigits (by decide) (by decide) hd
  have htake : rest.takeWhile isDigit = [] := by
    cases rest with
    | nil => rfl
    | cons c rest => exact List.takeWhile_cons_of_neg (by simpa using (hrest c rfl).1)
  have hdrop : rest.dropWhile isDigit = rest := by
    cases rest with
    | nil => rfl
    | cons c rest => exact List.dropWhile_cons_of_neg (by simpa using (hrest c rfl).1)
  rw [digits?, List.takeWhile_append_of_pos hdigits, List.dropWhile_append_of_pos hdigits, htake,
    hdrop, List.append_nil]
  exact if_neg (by simp)

theorem whole?_toDigits (n : Nat) {rest : List (Option Char)} (hrest : EndsNumber rest) :
    whole? ((Nat.toDigits 10 n).map some ++ rest) = some ((Nat.toDigits 10 n).map some, rest) := by
  rcases Nat.eq_zero_or_pos n with rfl | hpos
  · rfl
  · rw [← digits?_toDigits n hrest, whole?]
    rintro s hs
    have hhead := congrArg List.head? hs
    rw [List.head?_append_of_ne_nil _ (by simp), List.head?_map] at hhead
    cases hd : (Nat.toDigits 10 n).head? with
    | none => rw [hd] at hhead; cases hhead
    | some c =>
      rw [hd] at hhead
      cases hhead
      exact head?_toDigits hpos hd

theorem fraction?_of_endsNumber {s : List (Option Char)} (h : EndsNumber s) :
    fraction? s = some (false, s) := by
  rw [fraction?]
  rintro t rfl
  exact (h _ rfl).2.1 rfl

theorem exponent?_of_endsNumber {s : List (Option Char)} (h : EndsNumber s) :
    exponent? s = some (false, s) := by
  rw [exponent?]
  · rintro t rfl
    exact (h _ rfl).2.2.1 rfl
  · rintro t rfl
    exact (h _ rfl).2.2.2 rfl

/-- The digits of a number are read back, and minus nought is none. -/
theorem number?_toDigits (negative : Bool) {n : Nat} (hn : negative = true → n ≠ 0)
    {rest : List (Option Char)} (hrest : EndsNumber rest) :
    number? negative ((Nat.toDigits 10 n).map some ++ rest) =
      some (some (if negative then -(n : Int) else n), rest) := by
  have hzero : (negative && n == 0) = false := by
    cases negative with
    | false => rfl
    | true => simpa using hn rfl
  rw [number?, whole?_toDigits n hrest]
  simp only [Option.bind_eq_bind, Option.bind_some, fraction?_of_endsNumber hrest,
    exponent?_of_endsNumber hrest, decimal_toDigits, hzero]
  rfl

theorem toList_toString_int (n : Int) :
    (toString n).toList = if 0 ≤ n then Nat.toDigits 10 n.toNat
      else '-' :: Nat.toDigits 10 (-n).toNat := by
  rw [Int.toString_eq_repr, Int.repr_eq_if]
  split
  · simp [Nat.repr_eq_ofList_toDigits]
  · simp [Nat.repr_eq_ofList_toDigits]

theorem token?_minus (s : List (Option Char)) :
    token? '-' s = (number? true s).map fun p => (.number p.1, p.2) := rfl

theorem ne_of_isDigit {c d : Char} (hc : c.isDigit = true) (hd : d.isDigit = false) : c ≠ d := by
  rintro rfl
  rw [hc] at hd
  cases hd

/-- A digit begins a number. -/
theorem token?_digit {c : Char} (hc : c.isDigit = true) (s : List (Option Char)) :
    token? c s = (number? false (some c :: s)).map fun p => (.number p.1, p.2) := by
  rw [token?.eq_def, if_neg (ne_of_isDigit hc rfl), if_neg (ne_of_isDigit hc rfl), if_pos hc]

theorem isSeparator_of_isDigit {c : Char} (hc : c.isDigit = true) : isSeparator c = false := by
  have hne : ∀ d : Char, d.isDigit = false → (c == d) = false :=
    fun d hd => beq_eq_false_iff_ne.2 (ne_of_isDigit hc hd)
  rw [isSeparator, hne ' ' rfl, hne '\n' rfl, hne '\t' rfl, hne '\r' rfl]
  rfl

theorem isCut_digits (n : Nat) {rest : List (Option Char)} (hrest : EndsNumber rest) :
    IsCut (Nat.toDigits 10 n) [.number (some n)] rest := by
  have hnumber := number?_toDigits false (n := n) (fun h => nomatch h) hrest
  have hdigit : ∀ c ∈ Nat.toDigits 10 n, c.isDigit = true :=
    fun c hc => Nat.isDigit_of_mem_toDigits (by decide) (by decide) hc
  cases hdigits : Nat.toDigits 10 n with
  | nil => exact absurd hdigits Nat.toDigits_ne_nil
  | cons c digits =>
    have hc : c.isDigit = true := hdigit c (by rw [hdigits]; exact List.mem_cons_self)
    rw [hdigits, List.map_cons, List.cons_append] at hnumber
    rw [IsCut, List.map_cons, List.cons_append]
    refine tokens?_cons (isSeparator_of_isDigit hc) ?_
    rw [token?_digit hc, hnumber]
    rfl

/-- **An integer is read back** where the text after it does not go on with it. -/
theorem isCut_integer (n : Int) {rest : List (Option Char)} (hrest : EndsNumber rest) :
    IsCut (toString n).toList [.number (some n)] rest := by
  rw [toList_toString_int]
  split
  · next hn =>
    have hdigits := isCut_digits n.toNat hrest
    rwa [Int.toNat_of_nonneg hn] at hdigits
  · next hn =>
    have hpos : (-n).toNat ≠ 0 := by omega
    have hvalue : -((-n).toNat : Int) = n := by omega
    have hnumber := number?_toDigits true (n := (-n).toNat) (fun _ => hpos) hrest
    rw [IsCut, List.map_cons, List.cons_append]
    refine tokens?_cons rfl ?_
    rw [token?_minus, hnumber, if_pos rfl, hvalue]
    rfl

/-! ### Values -/

theorem isCut_sign {c : Char} (hc : c ∈ ['\x7b', '\x7d', '[', ']', ',', ':'])
    (rest : List (Option Char)) : IsCut [c] [.sign c] rest := by
  simp only [List.mem_cons, List.not_mem_nil, or_false] at hc
  rcases hc with rfl | rfl | rfl | rfl | rfl | rfl <;> exact tokens?_cons rfl rfl

theorem endsNumber_sign {c : Char} (hc : c ∈ ['\x7d', ']', ',']) (rest : List (Option Char)) :
    EndsNumber (some c :: rest) := by
  simp only [List.mem_cons, List.not_mem_nil, or_false] at hc
  rintro _ ⟨⟩
  rcases hc with rfl | rfl | rfl <;> decide

mutual

/-- The tokens of a value. -/
def tokens : Json → List Token
  | .null => [.null]
  | .bool b => [.bool b]
  | .number value => [.number value]
  | .string s => [.string (some s)]
  | .garbled => [.string none]
  | .array elements => .sign '[' :: elementsTokens true elements ++ [.sign ']']
  | .object members => .sign '\x7b' :: membersTokens true members ++ [.sign '\x7d']

/-- The tokens of the elements of an array, with a comma before all but the first. -/
def elementsTokens (first : Bool) : List Json → List Token
  | [] => []
  | j :: l => (if first then [] else [.sign ',']) ++ j.tokens ++ elementsTokens false l

/-- The tokens of the members of an object, with a comma before all but the first. -/
def membersTokens (first : Bool) : List (Option String × Json) → List Token
  | [] => []
  | (key, j) :: l =>
    (if first then [] else [.sign ',']) ++ [.string key] ++ [.sign ':'] ++ j.tokens ++
      membersTokens false l

end

/-- A value whose numbers are integers and whose strings are texts. -/
inductive Plain : Json → Prop
  | null : Plain .null
  | bool (b : Bool) : Plain (.bool b)
  | integer (n : Int) : Plain (.number (some n))
  | string (s : String) : Plain (.string s)
  | array {l : List Json} (h : ∀ j ∈ l, Plain j) : Plain (.array l)
  | object {l : List (String × Json)} (h : ∀ m ∈ l, Plain m.2) : Plain (.ofMembers l)

theorem isCut_comma (first : Bool) (rest : List (Option Char)) :
    IsCut (if first then [] else [',']) (if first then [] else [.sign ',']) rest := by
  cases first with
  | false => exact isCut_sign (by decide) rest
  | true => exact isCut_nil rest

theorem endsNumber_elementsText (l : List Json) {rest : List (Option Char)}
    (hrest : EndsNumber rest) : EndsNumber ((elementsText false l).map some ++ rest) := by
  cases l with
  | nil => exact hrest
  | cons j l => exact endsNumber_sign (by decide) _

theorem endsNumber_membersText (l : List (Option String × Json)) {rest : List (Option Char)}
    (hrest : EndsNumber rest) : EndsNumber ((membersText false l).map some ++ rest) := by
  cases l with
  | nil => exact hrest
  | cons m l => exact endsNumber_sign (by decide) _

theorem isCut_elements {l : List Json}
    (h : ∀ j ∈ l, ∀ rest, EndsNumber rest → IsCut j.text j.tokens rest) (first : Bool)
    {rest : List (Option Char)} (hrest : EndsNumber rest) :
    IsCut (elementsText first l) (elementsTokens first l) rest := by
  induction l generalizing first with
  | nil => exact isCut_nil rest
  | cons j l ih =>
    obtain ⟨hj, hl⟩ := List.forall_mem_cons.1 h
    have hmore := endsNumber_elementsText l hrest
    exact ((isCut_comma first _).append (hj _ hmore)).append (ih hl false)

theorem isCut_members {l : List (String × Json)}
    (h : ∀ m ∈ l, ∀ rest, EndsNumber rest → IsCut m.2.text m.2.tokens rest) (first : Bool)
    {rest : List (Option Char)} (hrest : EndsNumber rest) :
    IsCut (membersText first (l.map fun m => (some m.1, m.2)))
      (membersTokens first (l.map fun m => (some m.1, m.2))) rest := by
  induction l generalizing first with
  | nil => exact isCut_nil rest
  | cons m l ih =>
    obtain ⟨hm, hl⟩ := List.forall_mem_cons.1 h
    have hmore := endsNumber_membersText (l.map fun m => (some m.1, m.2)) hrest
    exact ((((isCut_comma first _).append (isCut_quoted m.1 _)).append
      (isCut_sign (by decide) _)).append (hm _ hmore)).append (ih hl false)

/-- **A plain value is cut into its tokens.** -/
theorem Plain.isCut {j : Json} (h : Plain j) {rest : List (Option Char)}
    (hrest : EndsNumber rest) : IsCut j.text j.tokens rest := by
  induction h generalizing rest with
  | null => exact tokens?_cons rfl rfl
  | bool b => cases b <;> exact tokens?_cons rfl rfl
  | integer n => exact isCut_integer n hrest
  | string s => exact isCut_quoted s rest
  | array _ ih =>
    have hclose := endsNumber_sign (c := ']') (by decide) rest
    have helements := isCut_elements (fun j hj _ => ih j hj) true hclose
    exact ((isCut_sign (by decide) _).append helements).append (isCut_sign (by decide) rest)
  | object _ ih =>
    have hclose := endsNumber_sign (c := '\x7d') (by decide) rest
    have hmembers := isCut_members (fun m hm _ => ih m hm) true hclose
    exact ((isCut_sign (by decide) _).append hmembers).append (isCut_sign (by decide) rest)

end Json
end PackageListing
