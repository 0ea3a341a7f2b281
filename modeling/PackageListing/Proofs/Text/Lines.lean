/-
# Lines of a text

A line feed ends a line, so the lines of a text are those before a line feed and those after it
(`lines_append`). White space around a line, a carriage return before its line feed included, is no
part of the trimmed line (`trim_append`, `trim_dropReturn`). So every text in which the same lines
are laid out, with any white space around them, has the same trimmed lines
(`LaidOut.map_trim_lines`).
-/

import PackageListing.Proofs.Text.Trim

namespace PackageListing
namespace Text

theorem lines_cons {line : List Char} (h : '\n' ∉ line) (s : List Char) :
    lines (line ++ '\n' :: s) = dropReturn line :: lines s := by
  obtain ⟨first, rest, hsplit⟩ := List.exists_cons_of_ne_nil (List.splitOn_ne_nil '\n' s)
  rw [lines, lines, List.splitOn_append_cons_self_of_not_mem h, hsplit]
  cases hlast : (first :: rest).getLast? with
  | none => exact absurd (List.getLast?_eq_none_iff.1 hlast) (List.cons_ne_nil first rest)
  | some last =>
    rw [List.getLast?_cons_cons, hlast]
    cases last <;> rfl

theorem lines_of_not_mem {line : List Char} (h : '\n' ∉ line) (hne : line ≠ []) :
    lines line = [line] := by
  rw [lines, List.splitOn_eq_singleton h]
  cases line with
  | nil => exact absurd rfl hne
  | cons => rfl

/-- **The lines of a text** are those before a line feed and those after it. -/
theorem lines_append (front rest : List Char) :
    lines (front ++ '\n' :: rest) = lines (front ++ ['\n']) ++ lines rest := by
  induction hlength : front.length using Nat.strong_induction_on generalizing front with
  | _ n ih =>
    by_cases hfront : '\n' ∈ front
    · obtain ⟨line, front, rfl, hline⟩ := List.eq_append_cons_of_mem hfront
      have hlt : front.length < n := by
        rw [← hlength, List.length_append, List.length_cons]
        omega
      simp only [List.append_assoc, List.cons_append]
      rw [lines_cons hline, lines_cons hline, ih front.length hlt front rfl, List.cons_append]
    · rw [lines_cons hfront, lines_cons hfront]
      rfl

/-! ### White space around lines -/

theorem trimEnd_append {space : List Char} (h : ∀ c ∈ space, isBlank c = true) (s : List Char) :
    trimEnd (s ++ space) = trimEnd s := by
  rw [trimEnd, List.reverse_append,
    List.dropWhile_append_of_pos fun c hc => h c (List.mem_reverse.1 hc), trimEnd]

/-- **White space around a text** is no part of its trimmed form. -/
theorem trim_append {before after : List Char} (hbefore : ∀ c ∈ before, isBlank c = true)
    (hafter : ∀ c ∈ after, isBlank c = true) (s : List Char) :
    trim (before ++ s ++ after) = trim s := by
  rw [List.append_assoc, trim, trimStart_append hbefore, trimStart, List.dropWhile_append, trim,
    trimStart]
  split
  · next hs =>
    rw [List.isEmpty_iff.1 hs, List.dropWhile_eq_nil_iff.2 hafter]
  · exact trimEnd_append hafter _

theorem trim_trim (s : List Char) : trim (trim s) = trim s := by
  obtain ⟨before, after, hs, hbefore, hafter⟩ := exists_trim s
  have htrim := trim_append hbefore hafter (trim s)
  rw [← hs] at htrim
  exact htrim.symm

theorem trim_dropReturn (line : List Char) : trim (dropReturn line) = trim line := by
  rw [dropReturn]
  split
  · next h =>
    obtain ⟨front, rfl⟩ := List.getLast?_eq_some_iff.1 h
    have hreturn : ∀ c ∈ ['\r'], isBlank c = true := List.forall_mem_singleton.2 (by decide)
    rw [List.dropLast_concat]
    exact (trim_append (List.forall_mem_nil _) hreturn front).symm
  · rfl

/-- A text in which these lines stand, with any white space around each, and a line feed after each,
but maybe after the last. -/
inductive LaidOut : List (List Char) → List Char → Prop
  | nil : LaidOut [] []
  | last {before line after : List Char} (hbefore : ∀ c ∈ before, isBlank c = true)
    (hafter : ∀ c ∈ after, isBlank c = true) (hfeed : '\n' ∉ before ++ line ++ after)
    (hne : before ++ line ++ after ≠ []) : LaidOut [line] (before ++ line ++ after)
  | cons {before line after s : List Char} {ls : List (List Char)}
    (hbefore : ∀ c ∈ before, isBlank c = true) (hafter : ∀ c ∈ after, isBlank c = true)
    (hfeed : '\n' ∉ before ++ line ++ after) (h : LaidOut ls s) :
    LaidOut (line :: ls) (before ++ line ++ after ++ '\n' :: s)

/-- **The trimmed lines of a text** are those that are laid out in it. -/
theorem LaidOut.map_trim_lines {ls : List (List Char)} {s : List Char} (h : LaidOut ls s) :
    (lines s).map trim = ls.map trim := by
  induction h with
  | nil => rfl
  | last hbefore hafter hfeed hne =>
    rw [lines_of_not_mem hfeed hne, List.map_singleton, trim_append hbefore hafter]
    rfl
  | cons hbefore hafter hfeed _ ih =>
    rw [lines_cons hfeed, List.map_cons, List.map_cons, ih, trim_dropReturn,
      trim_append hbefore hafter]

end Text
end PackageListing
