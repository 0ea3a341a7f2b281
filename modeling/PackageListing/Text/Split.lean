/-
# Cutting text

Text is cut as lists of characters: at separators, into lines, into words, and at its ends.
Nothing is lost by a cut: `cutAt_eq_some` and `afterStart?_eq_some` put the pieces together again.
Between separators there is none (`not_mem_of_mem_splitOn`), and a run of characters ends where one
follows that does not belong to it (`takeWhile_append_of_head?`). A text may also be cut at the last
place of a character (`exists_append_last`).
-/

import PackageListing.Text.Class

namespace PackageListing
namespace Text

/-- The text without the white space at its start. -/
def trimStart (s : List Char) : List Char :=
  s.dropWhile isBlank

/-- The text without the white space at its end. -/
def trimEnd (s : List Char) : List Char :=
  (s.reverse.dropWhile isBlank).reverse

/-- The text without the white space at both ends. -/
def trim (s : List Char) : List Char :=
  trimEnd (trimStart s)

/-- The runs of characters between white space. -/
def words (s : List Char) : List (List Char) :=
  (s.splitOnP isBlank).filter fun w => !w.isEmpty

/-- The text after `start`, where the text begins with it. -/
def afterStart? : (start s : List Char) → Option (List Char)
  | [], s => some s
  | _ :: _, [] => none
  | a :: start, c :: s => if a = c then afterStart? start s else none

/-- The text before and after the first place where `mark` stands in it. -/
def cutAt (mark : List Char) : List Char → Option (List Char × List Char)
  | [] => if mark = [] then some ([], []) else none
  | c :: s =>
    match afterStart? mark (c :: s) with
    | some rest => some ([], rest)
    | none => (cutAt mark s).map fun p => (c :: p.1, p.2)

/-- A line without the carriage return that may stand before its line feed. -/
def dropReturn (line : List Char) : List Char :=
  if line.getLast? = some '\r' then line.dropLast else line

/-- The lines of a text. A line feed ends a line, together with one carriage return before it;
text after the last line feed is a line of its own and kept whole. -/
def lines (s : List Char) : List (List Char) :=
  let pieces := s.splitOn '\n'
  let ended := pieces.dropLast.map dropReturn
  match pieces.getLast? with
  | none | some [] => ended
  | some last => ended ++ [last]

theorem afterStart?_eq_some {start s rest : List Char} :
    afterStart? start s = some rest ↔ s = start ++ rest := by
  induction start generalizing s with
  | nil => simp [afterStart?, eq_comm]
  | cons a start ih =>
    cases s with
    | nil => simp [afterStart?]
    | cons c s =>
      by_cases h : a = c
      · simp [afterStart?, h, ih]
      · simp [afterStart?, h, eq_comm]

theorem cutAt_eq_some {mark s before rest : List Char} (h : cutAt mark s = some (before, rest)) :
    s = before ++ mark ++ rest := by
  induction s generalizing before with
  | nil =>
    simp only [cutAt] at h
    split at h <;> simp_all
  | cons c s ih =>
    simp only [cutAt] at h
    split at h
    · next hrest =>
      simp only [Option.some.injEq, Prod.mk.injEq] at h
      obtain ⟨rfl, rfl⟩ := h
      simpa using afterStart?_eq_some.1 hrest
    · obtain ⟨⟨b, r⟩, hb, heq⟩ := Option.map_eq_some_iff.1 h
      simp only [Prod.mk.injEq] at heq
      obtain ⟨rfl, rfl⟩ := heq
      simp [ih hb]

theorem takeWhile_append_of_head? {p : Char → Bool} {run s : List Char}
    (hrun : ∀ c ∈ run, p c = true) (hend : ∀ c ∈ s.head?, p c = false) :
    (run ++ s).takeWhile p = run ∧ (run ++ s).dropWhile p = s := by
  rw [List.takeWhile_append_of_pos hrun, List.dropWhile_append_of_pos hrun]
  cases s with
  | nil => exact ⟨List.append_nil _, rfl⟩
  | cons c s =>
    have hc : p c = false := hend c rfl
    simp [hc]

/-- A text is cut at its last mark. -/
theorem exists_append_last {mark : Char} {s : List Char} (h : mark ∈ s) :
    ∃ front last, s = front ++ mark :: last ∧ mark ∉ last := by
  obtain ⟨last, front, hreverse, hlast⟩ := List.eq_append_cons_of_mem (List.mem_reverse.2 h)
  refine ⟨front.reverse, last.reverse, ?_, mt List.mem_reverse.1 hlast⟩
  rw [← List.reverse_inj, hreverse]
  simp

/-- The text after the last mark. -/
theorem reverse_takeWhile_append {mark : Char} {last : List Char} (h : mark ∉ last)
    (front : List Char) :
    ((front ++ mark :: last).reverse.takeWhile (· != mark)).reverse = last := by
  have hall : ∀ c ∈ last.reverse, (c != mark) = true := fun c hc =>
    bne_iff_ne.2 fun heq => h (heq ▸ List.mem_reverse.1 hc)
  rw [List.reverse_append, List.reverse_cons, List.append_assoc, List.takeWhile_append_of_pos hall]
  simp

theorem not_mem_of_mem_splitOn {c : Char} {s piece : List Char} (h : piece ∈ s.splitOn c) :
    c ∉ piece := by
  induction s generalizing piece with
  | nil =>
    obtain rfl := List.mem_singleton.1 h
    exact List.not_mem_nil
  | cons d s ih =>
    rw [List.splitOn_cons_eq_if_modifyHead] at h
    split at h
    · rcases List.mem_cons.1 h with rfl | h
      · exact List.not_mem_nil
      · exact ih h
    · next hd =>
      obtain ⟨first, rest, hsplit⟩ := List.exists_cons_of_ne_nil (List.splitOn_ne_nil c s)
      rw [hsplit] at h ih
      rcases List.mem_cons.1 h with rfl | h
      · have hfirst : c ∉ first := ih List.mem_cons_self
        simpa [hfirst] using fun heq => hd (beq_iff_eq.2 (Eq.symm heq))
      · exact ih (List.mem_cons_of_mem _ h)

end Text
end PackageListing
