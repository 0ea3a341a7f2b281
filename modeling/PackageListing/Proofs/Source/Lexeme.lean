/-
# Lexemes of Go sources

A source text is cut into comments, words, string literals, line ends and signs, as far as the
package clause and the imports need it (`lexemes?`). Other white space separates lexemes and is
dropped. A text that has a character or a literal that Go does not know has no lexemes.
-/

import PackageListing.Syntax.Pattern
import PackageListing.Text.Split

namespace PackageListing
namespace Source

/-- A piece of a source text. -/
inductive Lexeme where
  /-- The end of a line. -/
  | lineEnd
  /-- A comment with its marks. -/
  | comment (text : List Char)
  /-- An identifier or a word of the language. -/
  | word (text : List Char)
  /-- A string literal, without its quotes and with its escapes as written. -/
  | text (inside : List Char)
  /-- A character literal. -/
  | rune
  /-- A sign or a digit. -/
  | sign (c : Char)
  deriving DecidableEq

namespace Lexeme

/-- Line ends and comments. -/
def isBlank : Lexeme → Bool
  | lineEnd | comment _ => true
  | _ => false

end Lexeme

/-- The signs and the digits. -/
def signs : List Char := "()[]\x7b\x7d.,;:=+-*/%&|^<>!~0123456789".toList

/-- The inside of an interpreted literal up to the closing quote, and what follows it. A
backslash hides the next character; the literal must close on its line. -/
def closeQuote? : List Char → Option (List Char × List Char)
  | [] => none
  | '\\' :: c :: s =>
    if c == '\n' then none else (closeQuote? s).map fun p => ('\\' :: c :: p.1, p.2)
  | c :: s =>
    if c == '"' then some ([], s)
    else if c == '\n' then none
    else (closeQuote? s).map fun p => (c :: p.1, p.2)

/-- Whether a character code has its digits: the character after a backslash, and what follows. -/
def isEscape (c : Char) (s : List Char) : Bool :=
  let hasDigits (n : Nat) : Bool :=
    (s.take n).length == n && (s.take n).all Syntax.Pattern.isHexDigit
  if c == 'x' then hasDigits 2
  else if c == 'u' then hasDigits 4
  else if c == 'U' then hasDigits 8
  else true

/-- Whether all character codes in an interpreted literal have their digits. -/
def escapesHold : List Char → Bool
  | [] => true
  | '\\' :: c :: s => isEscape c s && escapesHold s
  | c :: s => c != '\\' && escapesHold s

/-- Takes one lexeme off the front of `c :: s`, or a character of white space. -/
def lexeme? (c : Char) (s : List Char) : Option (Option Lexeme × List Char) :=
  if c == '\n' then some (some .lineEnd, s)
  else if Text.isBlank c then some (none, s)
  else if Text.isIdentifierStart c then
    some (some (.word (c :: s.takeWhile Text.isIdentifierPart)),
      s.dropWhile Text.isIdentifierPart)
  else if c == '"' then
    match closeQuote? s with
    | some (inside, rest) =>
      if escapesHold inside then some (some (.text inside), rest) else none
    | none => none
  else if c == '\x60' then
    (Text.cutAt ['\x60'] s).map fun p => (some (.text p.1), p.2)
  else if c == '\'' then
    match Syntax.Pattern.longest? Syntax.Pattern.rune (c :: s) with
    | some rest =>
      if (s.take (s.length - rest.length)).contains '\n' then none
      else some (some .rune, s.drop (s.length - rest.length))
    | none => none
  else if c == '/' && s.head? == some '/' then
    some (some (.comment (c :: s.takeWhile (· != '\n'))), s.dropWhile (· != '\n'))
  else if c == '/' && s.head? == some '*' then
    (Text.cutAt ['*', '/'] (s.drop 1)).map fun p =>
      (some (.comment ('/' :: '*' :: p.1 ++ ['*', '/'])), p.2)
  else if signs.contains c then some (some (.sign c), s)
  else none

theorem length_closeQuote? {s : List Char} {p : List Char × List Char}
    (h : closeQuote? s = some p) : p.2.length ≤ s.length := by
  fun_induction closeQuote? s generalizing p with
  | case1 => simp at h
  | case2 => simp at h
  | case3 c s _ ih =>
    obtain ⟨q, hq, rfl⟩ := Option.map_eq_some_iff.1 h
    have := ih hq
    simp only [List.length_cons]; omega
  | case4 =>
    simp only [Option.some.injEq] at h
    subst h
    simp only [List.length_cons]; omega
  | case5 => simp at h
  | case6 c s _ _ _ ih =>
    obtain ⟨q, hq, rfl⟩ := Option.map_eq_some_iff.1 h
    have := ih hq
    simp only [List.length_cons]; omega

theorem length_cutAt {mark s : List Char} {p : List Char × List Char}
    (h : Text.cutAt mark s = some p) : p.2.length ≤ s.length := by
  have : s = p.1 ++ mark ++ p.2 := Text.cutAt_eq_some h
  rw [this]; simp only [List.length_append]; omega

theorem length_lexeme? {c : Char} {s : List Char} {p : Option Lexeme × List Char}
    (h : lexeme? c s = some p) : p.2.length ≤ s.length := by
  have cut {mark t : List Char} {f : List Char → Lexeme}
      (ht : t.length ≤ s.length)
      (h : (Text.cutAt mark t).map (fun p => (some (f p.1), p.2)) = some p) :
      p.2.length ≤ s.length := by
    obtain ⟨q, hq, rfl⟩ := Option.map_eq_some_iff.1 h
    exact Nat.le_trans (length_cutAt hq) ht
  unfold lexeme? at h
  split at h
  · cases h; exact Nat.le_refl _
  split at h
  · cases h; exact Nat.le_refl _
  split at h
  · cases h; exact (List.dropWhile_sublist _).length_le
  split at h
  · split at h
    · next hq =>
      split at h
      · cases h; exact length_closeQuote? hq
      · cases h
    · cases h
  split at h
  · exact cut (f := .text) (Nat.le_refl _) h
  split at h
  · split at h
    · split at h
      · cases h
      · cases h; simp
    · cases h
  split at h
  · cases h; exact (List.dropWhile_sublist _).length_le
  split at h
  · exact cut (f := fun x => .comment ('/' :: '*' :: x ++ ['*', '/'])) (by simp) h
  split at h
  · cases h; exact Nat.le_refl _
  · cases h

/-- The lexemes of a text. -/
def lexemes? : List Char → Option (List Lexeme)
  | [] => some []
  | c :: s =>
    match _h : lexeme? c s with
    | some (some l, rest) => (lexemes? rest).map (l :: ·)
    | some (none, rest) => lexemes? rest
    | none => none
  termination_by s => s.length
  decreasing_by
    all_goals
      have := length_lexeme? _h
      simp only [List.length_cons]; simp only at this; omega

end Source
end PackageListing
