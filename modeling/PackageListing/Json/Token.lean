/-
# Tokens of JSON texts

A JSON text is cut into signs, names, numbers and strings; blanks, tabs, line feeds and carriage
returns separate them. Texts come as bytes, so a character may be a gap, a place where the bytes
are no character. Gaps may stand inside strings only, and the string is then garbled.
-/

import PackageListing.Text.Utf8

namespace PackageListing
namespace Json

/-- A token of a JSON text. -/
inductive Token where
  /-- A bracket, a comma or a colon. -/
  | sign (c : Char)
  | null
  | bool (b : Bool)
  /-- A number, with its value if it is written as an integer. -/
  | number (value : Option Int)
  /-- A string, with its text if it denotes one. -/
  | string (text : Option String)
  deriving DecidableEq

/-- A part of the inside of a string. -/
inductive Piece where
  /-- A character, as it is or by its own escape. -/
  | char (c : Char)
  /-- A unit of sixteen bits, by its number. -/
  | unit (n : Nat)
  /-- Bytes that are no character. -/
  | gap

/-- The value of a hexadecimal digit. -/
def hexValue? (c : Char) : Option Nat :=
  if c.isDigit then some (c.toNat - '0'.toNat)
  else if 'a' ≤ c ∧ c ≤ 'f' then some (c.toNat - 'a'.toNat + 10)
  else if 'A' ≤ c ∧ c ≤ 'F' then some (c.toNat - 'A'.toNat + 10)
  else none

/-- The number that hexadecimal digits denote. -/
def hexNumber? (digits : List (Option Char)) : Option Nat :=
  digits.foldlM (fun n d => do return n * 16 + (← hexValue? (← d))) 0

/-- The character of an escape of one letter. -/
def shortEscape? (c : Char) : Option Char :=
  if c = '"' ∨ c = '\\' ∨ c = '/' then some c
  else if c = 'b' then some '\x08'
  else if c = 't' then some '\t'
  else if c = 'n' then some '\n'
  else if c = 'f' then some '\x0c'
  else if c = 'r' then some '\r'
  else none

/-- The inside of a string up to its closing quote, and what follows it. -/
def inside? : List (Option Char) → Option (List Piece × List (Option Char))
  | [] => none
  | some '"' :: s => some ([], s)
  | some '\\' :: some 'u' :: a :: b :: c :: d :: s => do
    let n ← hexNumber? [a, b, c, d]
    let p ← inside? s
    return (.unit n :: p.1, p.2)
  | some '\\' :: some c :: s => do
    let e ← shortEscape? c
    let p ← inside? s
    return (.char e :: p.1, p.2)
  | some c :: s =>
    if c = '\\' ∨ c < ' ' then none
    else (inside? s).map fun p => (.char c :: p.1, p.2)
  | none :: s => (inside? s).map fun p => (.gap :: p.1, p.2)

/-- A unit that begins a pair. -/
def isHigh (n : Nat) : Bool :=
  decide (0xd800 ≤ n) && decide (n ≤ 0xdbff)

/-- A unit that ends a pair. -/
def isLow (n : Nat) : Bool :=
  decide (0xdc00 ≤ n) && decide (n ≤ 0xdfff)

/-- The text of a string. Units must be characters or pairs. -/
def textOf? : List Piece → Option (List Char)
  | [] => some []
  | .char c :: s => (c :: ·) <$> textOf? s
  | .unit h :: .unit l :: s =>
    if isHigh h then
      if isLow l then
        (Char.ofNat (0x10000 + (h - 0xd800) * 1024 + (l - 0xdc00)) :: ·) <$> textOf? s
      else none
    else if isLow h then none
    else (Char.ofNat h :: ·) <$> textOf? (.unit l :: s)
  | .unit n :: s => if isHigh n || isLow n then none else (Char.ofNat n :: ·) <$> textOf? s
  | .gap :: _ => none

/-- A decimal digit. -/
def isDigit : Option Char → Bool
  | some c => c.isDigit
  | none => false

/-- The number that decimal digits denote. -/
def decimal (digits : List (Option Char)) : Nat :=
  digits.foldl (fun n d => n * 10 + ((d.getD '0').toNat - '0'.toNat)) 0

/-- One or more digits off the front of a text. -/
def digits? (s : List (Option Char)) : Option (List (Option Char) × List (Option Char)) :=
  if (s.takeWhile isDigit).isEmpty then none else some (s.takeWhile isDigit, s.dropWhile isDigit)

/-- The digits of the whole part of a number: a nought, or digits that begin with another. -/
def whole? : List (Option Char) → Option (List (Option Char) × List (Option Char))
  | some '0' :: s => some ([some '0'], s)
  | s => digits? s

/-- Goes past a fraction; whether there is one, and what follows. -/
def fraction? : List (Option Char) → Option (Bool × List (Option Char))
  | some '.' :: s => (digits? s).map fun p => (true, p.2)
  | s => some (false, s)

/-- Goes past an exponent; whether there is one, and what follows. -/
def exponent? : List (Option Char) → Option (Bool × List (Option Char))
  | some 'e' :: s | some 'E' :: s =>
    let unsigned :=
      match s with
      | some '+' :: s | some '-' :: s => s
      | s => s
    (digits? unsigned).map fun p => (true, p.2)
  | s => some (false, s)

/-- A number without its sign. Minus nought is no integer. -/
def number? (negative : Bool) (s : List (Option Char)) :
    Option (Option Int × List (Option Char)) := do
  let (digits, s) ← whole? s
  let (hasFraction, s) ← fraction? s
  let (hasExponent, s) ← exponent? s
  let n := decimal digits
  if hasFraction || hasExponent || (negative && n == 0) then return (none, s)
  else return (some (if negative then -(n : Int) else n), s)

/-- A character that only separates tokens. -/
def isSeparator (c : Char) : Bool :=
  c == ' ' || c == '\n' || c == '\t' || c == '\r'

/-- A token off the front of `c :: s`. -/
def token? (c : Char) (s : List (Option Char)) : Option (Token × List (Option Char)) :=
  if c = '"' then (inside? s).map fun p => (.string ((textOf? p.1).map String.ofList), p.2)
  else if c = '-' then (number? true s).map fun p => (.number p.1, p.2)
  else if c.isDigit then (number? false (some c :: s)).map fun p => (.number p.1, p.2)
  else if c = '\x7b' ∨ c = '\x7d' ∨ c = '[' ∨ c = ']' ∨ c = ',' ∨ c = ':' then some (.sign c, s)
  else
    match c, s with
    | 'n', some 'u' :: some 'l' :: some 'l' :: s => some (.null, s)
    | 't', some 'r' :: some 'u' :: some 'e' :: s => some (.bool true, s)
    | 'f', some 'a' :: some 'l' :: some 's' :: some 'e' :: s => some (.bool false, s)
    | _, _ => none

theorem length_inside? {s : List (Option Char)} {p : List Piece × List (Option Char)}
    (h : inside? s = some p) : p.2.length < s.length := by
  fun_induction inside? s generalizing p with
  | case1 => simp at h
  | case2 s =>
    simp only [Option.some.injEq] at h
    subst h; simp
  | case3 a b c d s ih =>
    simp only [Option.bind_eq_bind, Option.bind_eq_some_iff, Option.pure_def, Option.some.injEq] at h
    obtain ⟨n, _, q, hq, rfl⟩ := h
    have := ih hq
    simp only [List.length_cons]; omega
  | case4 c s _ ih =>
    simp only [Option.bind_eq_bind, Option.bind_eq_some_iff, Option.pure_def, Option.some.injEq] at h
    obtain ⟨n, _, q, hq, rfl⟩ := h
    have := ih hq
    simp only [List.length_cons]; omega
  | case5 => simp at h
  | case6 c s _ _ _ _ ih =>
    obtain ⟨q, hq, rfl⟩ := Option.map_eq_some_iff.1 h
    have := ih hq
    simp only [List.length_cons]; omega
  | case7 s ih =>
    obtain ⟨q, hq, rfl⟩ := Option.map_eq_some_iff.1 h
    have := ih hq
    simp only [List.length_cons]; omega

theorem length_digits? {s : List (Option Char)} {p : List (Option Char) × List (Option Char)}
    (h : digits? s = some p) : p.2.length < s.length := by
  unfold digits? at h
  split at h
  · simp at h
  · next hne =>
    simp only [Option.some.injEq] at h
    subst h
    have := congrArg List.length (List.takeWhile_append_dropWhile (p := isDigit) (l := s))
    simp only [List.length_append] at this
    have hpos : 0 < (s.takeWhile isDigit).length := List.length_pos_iff.2 (by simpa using hne)
    simp only; omega

theorem length_whole? {s : List (Option Char)} {p : List (Option Char) × List (Option Char)}
    (h : whole? s = some p) : p.2.length < s.length := by
  unfold whole? at h
  split at h
  · simp only [Option.some.injEq] at h; subst h; simp
  · exact length_digits? h

theorem length_fraction? {s : List (Option Char)} {p : Bool × List (Option Char)}
    (h : fraction? s = some p) : p.2.length ≤ s.length := by
  unfold fraction? at h
  split at h
  · obtain ⟨q, hq, rfl⟩ := Option.map_eq_some_iff.1 h
    have := length_digits? hq
    simp only [List.length_cons]; omega
  · simp only [Option.some.injEq] at h; subst h; exact Nat.le_refl _

theorem length_exponent? {s : List (Option Char)} {p : Bool × List (Option Char)}
    (h : exponent? s = some p) : p.2.length ≤ s.length := by
  unfold exponent? at h
  split at h
  all_goals first
    | (obtain ⟨q, hq, rfl⟩ := Option.map_eq_some_iff.1 h
       have := length_digits? hq
       revert this
       split
       all_goals
         intro this
         simp only [List.length_cons] at this ⊢; omega)
    | (simp only [Option.some.injEq] at h; subst h; exact Nat.le_refl _)

theorem length_number? {negative : Bool} {s : List (Option Char)}
    {p : Option Int × List (Option Char)} (h : number? negative s = some p) :
    p.2.length < s.length := by
  simp only [number?, Option.bind_eq_bind, Option.bind_eq_some_iff] at h
  obtain ⟨a, ha, b, hb, c, hc, h⟩ := h
  have h1 := length_whole? ha
  have h2 := length_fraction? hb
  have h3 := length_exponent? hc
  split at h <;> simp only [Option.pure_def, Option.some.injEq] at h <;> subst h <;> simp only <;>
    omega

theorem length_token? {c : Char} {s : List (Option Char)} {p : Token × List (Option Char)}
    (h : token? c s = some p) : p.2.length ≤ s.length := by
  unfold token? at h
  split at h
  · obtain ⟨q, hq, rfl⟩ := Option.map_eq_some_iff.1 h
    exact Nat.le_of_lt (length_inside? hq)
  split at h
  · obtain ⟨q, hq, rfl⟩ := Option.map_eq_some_iff.1 h
    exact Nat.le_of_lt (length_number? hq)
  split at h
  · obtain ⟨q, hq, rfl⟩ := Option.map_eq_some_iff.1 h
    have := length_number? hq
    simp only [List.length_cons] at this
    simp only; omega
  split at h
  · simp only [Option.some.injEq] at h; subst h; exact Nat.le_refl _
  · split at h <;> simp only [Option.some.injEq, reduceCtorEq] at h
    all_goals
      subst h
      simp only [List.length_cons]; omega

/-- The tokens of a text. -/
def tokens? : List (Option Char) → Option (List Token)
  | [] => some []
  | none :: _ => none
  | some c :: s =>
    if isSeparator c then tokens? s
    else
      match h : token? c s with
      | none => none
      | some (t, rest) =>
        have := length_token? h
        (t :: ·) <$> tokens? rest
  termination_by s => s.length
  decreasing_by
    all_goals
      simp only [List.length_cons] at *; omega

end Json
end PackageListing
