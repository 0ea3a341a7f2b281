/-
# How lexemes are spelled

A text spells lexemes (`Spells`) where comments, words, literals, line ends and signs stand in a
row, with any other white space before, between and after them. A word goes as far as its
characters do, a line comment to the end of its line, a block comment to its first end. The lexemes
that are read off a text are the ones that it spells (`Spells.lexemes?_eq`), whatever stands in
comments and in literals.
-/

import PackageListing.Proofs.Environment
import PackageListing.Proofs.Source.Literal
import PackageListing.Proofs.Text.Words

namespace PackageListing
namespace Source

open Syntax

/-- A text in which these lexemes stand in a row. -/
inductive Spells : List Lexeme → List Char → Prop
  | nil : Spells [] []
  | space {c : Char} {s : List Char} {ls : List Lexeme} (hc : Text.isBlank c = true)
    (hfeed : c ≠ '\n') (h : Spells ls s) : Spells ls (c :: s)
  | lineEnd {s : List Char} {ls : List Lexeme} (h : Spells ls s) :
    Spells (.lineEnd :: ls) ('\n' :: s)
  /-- A comment to the end of its line. -/
  | lineComment {text s : List Char} {ls : List Lexeme} (htext : '\n' ∉ text)
    (hend : ∀ c ∈ s.head?, c = '\n') (h : Spells ls s) :
    Spells (.comment ('/' :: '/' :: text) :: ls) ('/' :: '/' :: text ++ s)
  /-- A comment to the first mark of its end. -/
  | blockComment {text s : List Char} {ls : List Lexeme} (htext : ¬['*', '/'] <:+: text)
    (h : Spells ls s) :
    Spells (.comment ('/' :: '*' :: text ++ ['*', '/']) :: ls)
      ('/' :: '*' :: text ++ '*' :: '/' :: s)
  /-- A word, with no character of a word after it. -/
  | word {c : Char} {text s : List Char} {ls : List Lexeme}
    (hc : Text.isIdentifierStart c = true)
    (htext : ∀ d ∈ text, Text.isIdentifierPart d = true)
    (hend : ∀ d ∈ s.head?, Text.isIdentifierPart d = false) (h : Spells ls s) :
    Spells (.word (c :: text) :: ls) (c :: text ++ s)
  | quoted {inside s : List Char} {ls : List Lexeme} (hinside : Inside inside) (h : Spells ls s) :
    Spells (.text inside :: ls) ('"' :: inside ++ '"' :: s)
  | raw {inside s : List Char} {ls : List Lexeme} (hinside : '\x60' ∉ inside) (h : Spells ls s) :
    Spells (.text inside :: ls) ('\x60' :: inside ++ '\x60' :: s)
  | rune {inside s : List Char} {ls : List Lexeme} (hinside : InsideRune inside)
    (h : Spells ls s) : Spells (.rune :: ls) ('\'' :: inside ++ '\'' :: s)
  /-- A sign; a slash begins a comment where another or a star comes next. -/
  | sign {c : Char} {s : List Char} {ls : List Lexeme} (hc : c ∈ signs)
    (hcomment : c = '/' → ∀ d ∈ s.head?, d ≠ '/' ∧ d ≠ '*') (h : Spells ls s) :
    Spells (.sign c :: ls) (c :: s)

theorem cutAt_commentEnd {text : List Char} (h : ¬['*', '/'] <:+: text) (s : List Char) :
    Text.cutAt ['*', '/'] (text ++ '*' :: '/' :: s) = some (text, s) := by
  induction text with
  | nil => simp [Text.cutAt, Text.afterStart?]
  | cons c text ih =>
    have hnone : Text.afterStart? ['*', '/'] (c :: (text ++ '*' :: '/' :: s)) = none := by
      refine Option.eq_none_iff_forall_ne_some.2 fun rest hrest => ?_
      have hstart := Text.afterStart?_eq_some.1 hrest
      cases text with
      | nil => simp at hstart
      | cons d text =>
        refine h ⟨[], text, ?_⟩
        simp_all
    rw [List.cons_append, Text.cutAt, hnone]
    simp [ih fun hinfix => h (List.infix_cons hinfix)]

/-- A sign is no other lexeme, and no white space. -/
theorem sign_not {c : Char} (h : c ∈ signs) :
    Text.isBlank c = false ∧ Text.isIdentifierStart c = false ∧
      c ≠ '\n' ∧ c ≠ '"' ∧ c ≠ '\x60' ∧ c ≠ '\'' := by
  have hall : signs.all (fun c => Text.isBlank c = false ∧ Text.isIdentifierStart c = false ∧
      c ≠ '\n' ∧ c ≠ '"' ∧ c ≠ '\x60' ∧ c ≠ '\'') := by decide +kernel
  exact of_decide_eq_true (List.all_eq_true.1 hall c h)

theorem lexemes?_of_lexeme? {c : Char} {s rest : List Char} {l : Lexeme}
    (h : lexeme? c s = some (some l, rest)) :
    lexemes? (c :: s) = (lexemes? rest).map (l :: ·) := by
  rw [lexemes?]
  split <;> simp_all

theorem lexemes?_of_space {c : Char} {s rest : List Char}
    (h : lexeme? c s = some (none, rest)) : lexemes? (c :: s) = lexemes? rest := by
  rw [lexemes?]
  split <;> simp_all

theorem lexeme?_word {c : Char} {text s : List Char} (hc : Text.isIdentifierStart c = true)
    (htext : ∀ d ∈ text, Text.isIdentifierPart d = true)
    (hend : ∀ d ∈ s.head?, Text.isIdentifierPart d = false) :
    lexeme? c (text ++ s) = some (some (.word (c :: text)), s) := by
  have hblank := Text.not_isBlank_of_isIdentifierStart hc
  have hfeed : c ≠ '\n' := by
    rintro rfl
    exact absurd hblank (by decide)
  obtain ⟨htake, hdrop⟩ := Text.takeWhile_append_of_head? htext hend
  simp [lexeme?, hfeed, hblank, hc, htake, hdrop]

theorem lexeme?_quoted {inside : List Char} (h : Inside inside) (s : List Char) :
    lexeme? '"' (inside ++ '"' :: s) = some (some (.text inside), s) := by
  have hblank : Text.isBlank '"' = false := by decide
  have hstart : Text.isIdentifierStart '"' = false := by decide
  simp [lexeme?, hblank, hstart, h.closeQuote?_eq, h.escapesHold]

theorem lexeme?_raw {inside : List Char} (h : '\x60' ∉ inside) (s : List Char) :
    lexeme? '\x60' (inside ++ '\x60' :: s) = some (some (.text inside), s) := by
  have hblank : Text.isBlank '\x60' = false := by decide
  have hstart : Text.isIdentifierStart '\x60' = false := by decide
  have hcut : Text.cutAt ['\x60'] (inside ++ '\x60' :: s) = some (inside, s) :=
    Text.cutAt_singleton_eq_some_iff.2 ⟨rfl, h⟩
  simp [lexeme?, hblank, hstart, hcut]

theorem lexeme?_rune {inside : List Char} (h : InsideRune inside) (s : List Char) :
    lexeme? '\'' (inside ++ '\'' :: s) = some (some .rune, s) := by
  have hblank : Text.isBlank '\'' = false := by decide
  have hstart : Text.isIdentifierStart '\'' = false := by decide
  have hlongest : Pattern.longest? Pattern.rune ('\'' :: (inside ++ '\'' :: s)) = some s := by
    rw [Pattern.longest?, h.rune_eq]
    rfl
  have hlength : (inside ++ '\'' :: s).length - s.length = (inside ++ ['\'']).length := by
    simp only [List.length_append, List.length_cons, List.length_nil]
    omega
  have happend : inside ++ '\'' :: s = (inside ++ ['\'']) ++ s := by simp
  have htake : (inside ++ '\'' :: s).take ((inside ++ '\'' :: s).length - s.length) =
      inside ++ ['\''] := by
    rw [hlength, happend, List.take_left]
  have hdrop : (inside ++ '\'' :: s).drop ((inside ++ '\'' :: s).length - s.length) = s := by
    rw [hlength, happend, List.drop_left]
  simp [lexeme?, hblank, hstart, hlongest, -List.length_append, htake, hdrop, h.not_mem]

/-- A sign stands for itself, unless it begins a comment. -/
theorem lexeme?_of_mem_signs {c : Char} (hc : c ∈ signs) (s : List Char) :
    lexeme? c s =
      if c == '/' && s.head? == some '/' then
        some (some (.comment (c :: s.takeWhile (· != '\n'))), s.dropWhile (· != '\n'))
      else if c == '/' && s.head? == some '*' then
        (Text.cutAt ['*', '/'] (s.drop 1)).map fun p =>
          (some (.comment ('/' :: '*' :: p.1 ++ ['*', '/'])), p.2)
      else some (some (.sign c), s) := by
  obtain ⟨hblank, hstart, hfeed, hquote, hback, hrune⟩ := sign_not hc
  simp [lexeme?, hblank, hstart, hfeed, hquote, hback, hrune, hc]

theorem lexeme?_lineComment {text s : List Char} (htext : '\n' ∉ text)
    (hend : ∀ c ∈ s.head?, c = '\n') :
    lexeme? '/' ('/' :: text ++ s) = some (some (.comment ('/' :: '/' :: text)), s) := by
  have hrun : ∀ c ∈ '/' :: text, (c != '\n') = true := by
    refine List.forall_mem_cons.2 ⟨by decide, fun c hmem => bne_iff_ne.2 ?_⟩
    rintro rfl
    exact htext hmem
  obtain ⟨htake, hdrop⟩ := Text.takeWhile_append_of_head? hrun
    (fun c hc => bne_eq_false_iff_eq.2 (hend c hc))
  rw [lexeme?_of_mem_signs (by decide), if_pos (by simp), htake, hdrop]

theorem lexeme?_blockComment {text : List Char} (htext : ¬['*', '/'] <:+: text)
    (s : List Char) :
    lexeme? '/' ('*' :: text ++ '*' :: '/' :: s) =
      some (some (.comment ('/' :: '*' :: text ++ ['*', '/'])), s) := by
  rw [lexeme?_of_mem_signs (by decide), if_neg (by simp), if_pos (by simp), List.cons_append,
    List.drop_one, List.tail_cons, cutAt_commentEnd htext]
  rfl

/-- **The lexemes of a text** are those that it spells. -/
theorem Spells.lexemes?_eq {ls : List Lexeme} {s : List Char} (h : Spells ls s) :
    lexemes? s = some ls := by
  induction h with
  | nil => rw [lexemes?]
  | @space c s ls hc hfeed _ ih =>
    have hspace : lexeme? c s = some (none, s) := by simp [lexeme?, hfeed, hc]
    rw [lexemes?_of_space hspace, ih]
  | @lineEnd s ls _ ih =>
    have hend : lexeme? '\n' s = some (some .lineEnd, s) := by simp [lexeme?]
    rw [lexemes?_of_lexeme? hend, ih, Option.map_some]
  | lineComment htext hend _ ih =>
    rw [List.cons_append, lexemes?_of_lexeme? (lexeme?_lineComment htext hend), ih,
      Option.map_some]
  | blockComment htext _ ih =>
    rw [List.cons_append, lexemes?_of_lexeme? (lexeme?_blockComment htext _), ih, Option.map_some]
  | word hc htext hend _ ih =>
    rw [List.cons_append, lexemes?_of_lexeme? (lexeme?_word hc htext hend), ih, Option.map_some]
  | quoted hinside _ ih =>
    rw [List.cons_append, lexemes?_of_lexeme? (lexeme?_quoted hinside _), ih, Option.map_some]
  | raw hinside _ ih =>
    rw [List.cons_append, lexemes?_of_lexeme? (lexeme?_raw hinside _), ih, Option.map_some]
  | rune hinside _ ih =>
    rw [List.cons_append, lexemes?_of_lexeme? (lexeme?_rune hinside _), ih, Option.map_some]
  | @sign c s ls hc hcomment _ ih =>
    have hsign : lexeme? c s = some (some (.sign c), s) := by
      have hline : ¬(c == '/' && s.head? == some '/') = true := by
        simpa using fun heq hhead => (hcomment heq _ hhead).1 rfl
      have hblock : ¬(c == '/' && s.head? == some '*') = true := by
        simpa using fun heq hhead => (hcomment heq _ hhead).2 rfl
      rw [lexeme?_of_mem_signs hc, if_neg hline, if_neg hblock]
    rw [lexemes?_of_lexeme? hsign, ih, Option.map_some]

end Source
end PackageListing
