/-
# White space at the ends

A text is white space, its trimmed form, and white space again (`exists_trim`), and the trimmed
form neither begins nor ends with white space (`not_isBlank_of_mem_head?_trim`). So a text is
trimmed to nothing where it holds nothing but white space (`trim_eq_nil_iff`).
-/

import PackageListing.Text.Split
import Mathlib.Data.List.TakeWhile

namespace PackageListing
namespace Text

theorem trimStart_append {space s : List Char} (h : ∀ c ∈ space, isBlank c = true) :
    trimStart (space ++ s) = trimStart s :=
  List.dropWhile_append_of_pos h

theorem not_isBlank_of_mem_head?_trimStart {s : List Char} :
    ∀ c ∈ (trimStart s).head?, isBlank c = false := by
  intro c hc
  have hnot := List.head?_dropWhile_not isBlank s
  rwa [← trimStart, hc] at hnot

theorem exists_trimStart (s : List Char) :
    ∃ space, s = space ++ trimStart s ∧ ∀ c ∈ space, isBlank c = true :=
  ⟨s.takeWhile isBlank, List.takeWhile_append_dropWhile.symm, fun _ => List.mem_takeWhile_imp⟩

theorem exists_trimEnd (s : List Char) :
    ∃ space, s = trimEnd s ++ space ∧ ∀ c ∈ space, isBlank c = true := by
  obtain ⟨space, hs, hspace⟩ := exists_trimStart s.reverse
  refine ⟨space.reverse, ?_, fun c hc => hspace c (List.mem_reverse.1 hc)⟩
  rw [trimEnd, ← trimStart, ← List.reverse_append, ← hs, List.reverse_reverse]

/-- **A text is its trimmed form between white space.** -/
theorem exists_trim (s : List Char) :
    ∃ before after, s = before ++ trim s ++ after ∧ (∀ c ∈ before, isBlank c = true) ∧
      ∀ c ∈ after, isBlank c = true := by
  obtain ⟨before, hbefore, hblank⟩ := exists_trimStart s
  obtain ⟨after, hafter, hblank'⟩ := exists_trimEnd (trimStart s)
  refine ⟨before, after, ?_, hblank, hblank'⟩
  rw [List.append_assoc, trim, ← hafter, ← hbefore]

/-- What is left of a text at its start begins as the text does. -/
theorem head?_trimEnd {s : List Char} (h : ∀ c ∈ s.head?, isBlank c = false) :
    (trimEnd s).head? = s.head? := by
  obtain ⟨space, hs, hspace⟩ := exists_trimEnd s
  cases hend : trimEnd s with
  | cons c t => rw [hs, hend]; rfl
  | nil =>
    rw [hend, List.nil_append] at hs
    cases space with
    | nil => rw [hs]
    | cons c space =>
      have hblank := hspace c List.mem_cons_self
      rw [h c (by rw [hs]; rfl)] at hblank
      exact absurd hblank Bool.false_ne_true

theorem not_isBlank_of_mem_head?_trim {s : List Char} :
    ∀ c ∈ (trim s).head?, isBlank c = false := by
  rw [trim, head?_trimEnd not_isBlank_of_mem_head?_trimStart]
  exact not_isBlank_of_mem_head?_trimStart

theorem trimStart_eq_self {s : List Char} (h : ∀ c ∈ s.head?, isBlank c = false) :
    trimStart s = s := by
  cases s with
  | nil => rfl
  | cons c s => exact List.dropWhile_cons_of_neg (by simp [h c rfl])

/-- A text without white space at its ends is trimmed. -/
theorem trim_eq_self {s : List Char} (hfirst : ∀ c ∈ s.head?, isBlank c = false)
    (hlast : ∀ c ∈ s.getLast?, isBlank c = false) : trim s = s := by
  rw [← List.head?_reverse] at hlast
  have hend := trimStart_eq_self hlast
  rw [trim, trimStart_eq_self hfirst, trimEnd, ← trimStart, hend, List.reverse_reverse]

theorem trim_eq_nil_iff {s : List Char} : trim s = [] ↔ ∀ c ∈ s, isBlank c = true := by
  constructor
  · intro h c hc
    obtain ⟨before, after, hs, hbefore, hafter⟩ := exists_trim s
    rw [hs, h, List.append_nil] at hc
    rcases List.mem_append.1 hc with hc | hc
    · exact hbefore c hc
    · exact hafter c hc
  · intro h
    have hstart : trimStart s = [] := List.dropWhile_eq_nil_iff.2 h
    rw [trim, hstart]
    rfl

end Text
end PackageListing
