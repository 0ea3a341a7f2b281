/-
# Words between white space

A text separates words (`Separated`) where they stand in it in a row, with any white space before,
between and after them, and some between two. Every text separates some words (`exists_separated`),
and those are the words of the text (`words_eq_iff`). No letter or number is white space
(`not_isBlank_of_isAlphanumeric`), and no character of an identifier is
(`not_isBlank_of_isIdentifierPart`): their tables have no code point in common.
-/

import PackageListing.Text.Split

namespace PackageListing
namespace Text

/-! ### White space and letters -/

theorem inRanges_eq_true_iff {ranges : List (Nat × Nat)} {n : Nat} :
    inRanges ranges n = true ↔ ∃ r ∈ ranges, r.1 ≤ n ∧ n ≤ r.2 := by
  simp [inRanges]

/-- Tables without overlapping ranges have no code point in common. -/
theorem not_inRanges_of_disjoint {ranges ranges' : List (Nat × Nat)} {n : Nat}
    (hdisjoint : ranges.all fun r => ranges'.all fun r' => r.2.blt r'.1 || r'.2.blt r.1)
    (h : inRanges ranges n = true) : inRanges ranges' n = false := by
  refine Bool.eq_false_iff.2 fun h' => ?_
  obtain ⟨r, hr, hlo, hhi⟩ := inRanges_eq_true_iff.1 h
  obtain ⟨r', hr', hlo', hhi'⟩ := inRanges_eq_true_iff.1 h'
  have hlt := List.all_eq_true.1 (List.all_eq_true.1 hdisjoint r hr) r' hr'
  rw [Bool.or_eq_true, Nat.blt_eq, Nat.blt_eq] at hlt
  omega

theorem not_isBlank_of_isAlphanum {c : Char} (h : c.isAlphanum = true) : isBlank c = false := by
  have hascii : ∀ n < 128, (Char.ofNat n).isAlphanum = true → isBlank (Char.ofNat n) = false := by
    decide +kernel
  have hc := hascii c.toNat (toNat_lt_of_isAlphanum h)
  rw [Char.ofNat_toNat] at hc
  exact hc h

/-- **No letter or number is white space.** -/
theorem not_isBlank_of_isAlphanumeric {c : Char} (h : isAlphanumeric c = true) :
    isBlank c = false := by
  rw [isAlphanumeric] at h
  split at h
  · exact not_isBlank_of_isAlphanum h
  · exact not_inRanges_of_disjoint (by decide +kernel) h

theorem not_isBlank_of_isIdentifierStart {c : Char} (h : isIdentifierStart c = true) :
    isBlank c = false := by
  rw [isIdentifierStart, Bool.or_eq_true, beq_iff_eq] at h
  rcases h with rfl | h
  · decide
  split at h
  · exact not_isBlank_of_isAlphanum (by simp [Char.isAlphanum, h])
  · exact not_inRanges_of_disjoint (by decide +kernel) h

/-- **No character of an identifier is white space.** -/
theorem not_isBlank_of_isIdentifierPart {c : Char} (h : isIdentifierPart c = true) :
    isBlank c = false := by
  rw [isIdentifierPart, Bool.or_eq_true, beq_iff_eq] at h
  rcases h with rfl | h
  · decide
  split at h
  · exact not_isBlank_of_isAlphanum h
  · exact not_inRanges_of_disjoint (by decide +kernel) h

/-! ### Words in a row -/

/-- A run of characters without white space. -/
def IsWord (word : List Char) : Prop :=
  word ≠ [] ∧ ∀ c ∈ word, isBlank c = false

/-- A text that is these words in a row, with any white space before, between and after. -/
inductive Separated : List (List Char) → List Char → Prop
  | nil (gap : List Char) (hgap : ∀ c ∈ gap, isBlank c = true) : Separated [] gap
  | cons (gap word : List Char) {s : List Char} {ws : List (List Char)}
    (hgap : ∀ c ∈ gap, isBlank c = true) (hend : ∀ c ∈ s.head?, isBlank c = true)
    (h : Separated ws s) : Separated (word :: ws) (gap ++ (word ++ s))

theorem words_cons_of_isBlank {c : Char} (hc : isBlank c = true) (s : List Char) :
    words (c :: s) = words s := by
  rw [words, List.splitOnP_cons_eq_if_modifyHead, if_pos hc]
  rfl

theorem words_append_of_isBlank {gap : List Char} (hgap : ∀ c ∈ gap, isBlank c = true)
    (s : List Char) : words (gap ++ s) = words s := by
  induction gap with
  | nil => rfl
  | cons c gap ih =>
    obtain ⟨hc, hgap⟩ := List.forall_mem_cons.1 hgap
    exact (words_cons_of_isBlank hc (gap ++ s)).trans (ih hgap)

/-- A word at the start of a text ends where white space begins. -/
theorem words_append_of_isWord {word s : List Char} (hword : IsWord word)
    (hend : ∀ c ∈ s.head?, isBlank c = true) : words (word ++ s) = word :: words s := by
  have hne : (!word.isEmpty) = true := by simpa using hword.1
  cases s with
  | nil =>
    rw [List.append_nil, words, List.splitOnP_eq_singleton hword.2]
    exact List.filter_cons_of_pos hne
  | cons c s =>
    have hc : isBlank c = true := hend c rfl
    rw [words_cons_of_isBlank hc, words, List.splitOnP_append_cons_of_forall_mem hword.2 c hc]
    exact List.filter_cons_of_pos hne

theorem Separated.words_eq {ws : List (List Char)} {s : List Char} (h : Separated ws s)
    (hws : ∀ w ∈ ws, IsWord w) : words s = ws := by
  induction h with
  | nil gap hgap =>
    rw [← List.append_nil gap]
    exact words_append_of_isBlank hgap []
  | cons gap word hgap hend _ ih =>
    obtain ⟨hword, hws⟩ := List.forall_mem_cons.1 hws
    rw [words_append_of_isBlank hgap, words_append_of_isWord hword hend, ih hws]

theorem Separated.cons_of_isBlank {ws : List (List Char)} {c : Char} {s : List Char}
    (hc : isBlank c = true) (h : Separated ws s) : Separated ws (c :: s) := by
  cases h with
  | nil _ hgap => exact .nil _ (List.forall_mem_cons.2 ⟨hc, hgap⟩)
  | cons gap word hgap hend h =>
    exact .cons (c :: gap) word (List.forall_mem_cons.2 ⟨hc, hgap⟩) hend h

/-- A character that is no white space begins a word, or goes to the one that it touches. -/
theorem Separated.exists_cons {ws : List (List Char)} {c : Char} {s : List Char}
    (hc : isBlank c = false) (hws : ∀ w ∈ ws, IsWord w) (h : Separated ws s) :
    ∃ ws, (∀ w ∈ ws, IsWord w) ∧ Separated ws (c :: s) := by
  by_cases hend : ∀ d ∈ s.head?, isBlank d = true
  · have hword : IsWord [c] := ⟨List.cons_ne_nil c [], List.forall_mem_singleton.2 hc⟩
    exact ⟨[c] :: ws, List.forall_mem_cons.2 ⟨hword, hws⟩,
      .cons [] [c] (List.forall_mem_nil _) hend h⟩
  · cases h with
    | nil _ hgap => exact absurd (fun d hd => hgap d (List.mem_of_mem_head? hd)) hend
    | cons gap word hgap hnext h =>
      obtain ⟨hword, hws⟩ := List.forall_mem_cons.1 hws
      cases gap with
      | cons d gap =>
        refine absurd ?_ hend
        rintro _ ⟨⟩
        exact hgap d List.mem_cons_self
      | nil =>
        have hlonger : IsWord (c :: word) :=
          ⟨List.cons_ne_nil c word, List.forall_mem_cons.2 ⟨hc, hword.2⟩⟩
        exact ⟨_, List.forall_mem_cons.2 ⟨hlonger, hws⟩,
          .cons [] (c :: word) (List.forall_mem_nil _) hnext h⟩

/-- **Every text separates some words.** -/
theorem exists_separated (s : List Char) : ∃ ws, (∀ w ∈ ws, IsWord w) ∧ Separated ws s := by
  induction s with
  | nil => exact ⟨[], List.forall_mem_nil _, .nil [] (List.forall_mem_nil _)⟩
  | cons c s ih =>
    obtain ⟨ws, hws, h⟩ := ih
    cases hc : isBlank c with
    | true => exact ⟨ws, hws, h.cons_of_isBlank hc⟩
    | false => exact h.exists_cons hc hws

/-- **The words of a text are those that it separates.** -/
theorem words_eq_iff {ws : List (List Char)} {s : List Char} :
    words s = ws ↔ (∀ w ∈ ws, IsWord w) ∧ Separated ws s := by
  constructor
  · rintro rfl
    obtain ⟨ws, hws, h⟩ := exists_separated s
    rw [h.words_eq hws]
    exact ⟨hws, h⟩
  · rintro ⟨hws, h⟩
    exact h.words_eq hws

end Text
end PackageListing
