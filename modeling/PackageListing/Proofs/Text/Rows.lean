/-
# Rows on lines

Programs write a list as rows, each on a line of its own, where a line may end in a line feed alone
or with a carriage return before it, empty lines may stand anywhere, and the last line need not end
(`Rows`). It is read by cutting the text at its line feeds, dropping carriage returns from the ends
of the lines, and passing over the empty ones (`rowsBy`). A text is read line by line
(`rowsBy_append`), so what is read are the rows that were written (`Rows.rowsBy_eq`), if none of
them is empty or shows an end of a line itself (`IsRow`).

Readers differ in how many carriage returns they drop from one line. What is said here needs only
that lines without one at the end are kept and that the one before a line feed is dropped
(`DropsReturn`): one may be dropped (`dropReturn`) or all of them (`dropReturns`).
-/

import PackageListing.Proofs.Text.Lines

namespace PackageListing
namespace Text

/-- The line without all the carriage returns at its end. -/
def dropReturns (line : List Char) : List Char :=
  (line.reverse.dropWhile (· == '\r')).reverse

/-- The rows of a text: its lines as `read` leaves them, without the empty ones. -/
def rowsBy (read : List Char → List Char) (s : List Char) : List String :=
  (((s.splitOn '\n').map read).filter (!·.isEmpty)).map String.ofList

/-- A reading of lines that drops a carriage return from their ends, maybe more than one, and
nothing else. -/
structure DropsReturn (read : List Char → List Char) : Prop where
  kept {line : List Char} (h : line.getLast? ≠ some '\r') : read line = line
  dropped {line : List Char} (h : line.getLast? ≠ some '\r') : read (line ++ ['\r']) = line
  subset (line : List Char) : read line ⊆ line

theorem dropsReturn_dropReturn : DropsReturn dropReturn where
  kept h := if_neg h
  dropped := by simp [dropReturn]
  subset line := by
    rw [dropReturn]
    split
    · exact List.dropLast_subset line
    · exact List.Subset.refl line

theorem dropReturns_concat (line : List Char) :
    dropReturns (line ++ ['\r']) = dropReturns line := by
  simp [dropReturns]

theorem dropReturns_of_getLast? {line : List Char} (h : line.getLast? ≠ some '\r') :
    dropReturns line = line := by
  rw [← List.head?_reverse] at h
  rw [dropReturns]
  cases hreverse : line.reverse with
  | nil =>
    rw [List.reverse_eq_nil_iff.1 hreverse]
    rfl
  | cons c s =>
    have hc : ¬(c == '\r') = true := by
      intro heq
      rw [hreverse, beq_iff_eq.1 heq] at h
      exact h rfl
    rw [List.dropWhile_cons, if_neg hc, ← hreverse, List.reverse_reverse]

theorem dropsReturn_dropReturns : DropsReturn dropReturns where
  kept := dropReturns_of_getLast?
  dropped h := by rw [dropReturns_concat, dropReturns_of_getLast? h]
  subset line c hc := by
    rw [dropReturns, List.mem_reverse] at hc
    exact List.mem_reverse.1 ((List.dropWhile_sublist _).subset hc)

theorem dropReturns_dropReturn (line : List Char) :
    dropReturns (dropReturn line) = dropReturns line := by
  rw [dropReturn]
  split
  · next h =>
    obtain ⟨front, rfl⟩ := List.getLast?_eq_some_iff.1 h
    rw [List.dropLast_concat, dropReturns_concat]
  · rfl

/-! ### Rows, written and read -/

/-- A text that can be told on a line of its own. -/
structure IsRow (row : String) : Prop where
  ne_empty : row ≠ ""
  feed : '\n' ∉ row.toList
  last : row.toList.getLast? ≠ some '\r'

instance (row : String) : Decidable (IsRow row) :=
  decidable_of_iff (row ≠ "" ∧ '\n' ∉ row.toList ∧ row.toList.getLast? ≠ some '\r')
    ⟨fun ⟨hne, hfeed, hlast⟩ => ⟨hne, hfeed, hlast⟩, fun h => ⟨h.ne_empty, h.feed, h.last⟩⟩

/-- How a line ends. -/
inductive LineEnd where
  | feed
  | returnFeed

/-- What stands at the end of a line, before its line feed. -/
def LineEnd.text : LineEnd → List Char
  | .feed => []
  | .returnFeed => ['\r']

/-- A text in which these rows stand, each on a line, among empty lines. The line of the last row
need not end. -/
inductive Rows : List String → List Char → Prop
  | nil : Rows [] []
  | last (row : String) : Rows [row] row.toList
  | blank (lineEnd : LineEnd) {rows : List String} {s : List Char} (h : Rows rows s) :
    Rows rows (lineEnd.text ++ '\n' :: s)
  | row (row : String) (lineEnd : LineEnd) {rows : List String} {s : List Char} (h : Rows rows s) :
    Rows (row :: rows) (row.toList ++ lineEnd.text ++ '\n' :: s)

variable {read : List Char → List Char}

/-- **A text is read line by line.** -/
theorem rowsBy_append (read : List Char → List Char) (front rest : List Char) :
    rowsBy read (front ++ '\n' :: rest) = rowsBy read front ++ rowsBy read rest := by
  rw [rowsBy, List.splitOn_append_cons_self, List.map_append, List.filter_append, List.map_append]
  rfl

theorem rowsBy_of_not_mem {line : List Char} (h : '\n' ∉ line) :
    rowsBy read line = if read line = [] then [] else [String.ofList (read line)] := by
  rw [rowsBy, List.splitOn_eq_singleton h]
  cases hline : read line with
  | nil => simp [hline]
  | cons c s => simp [hline]

theorem DropsReturn.read_append (hread : DropsReturn read) {line : List Char}
    (h : line.getLast? ≠ some '\r') (lineEnd : LineEnd) : read (line ++ lineEnd.text) = line := by
  cases lineEnd with
  | feed => rw [LineEnd.text, List.append_nil, hread.kept h]
  | returnFeed => exact hread.dropped h

theorem LineEnd.not_mem_text (lineEnd : LineEnd) : '\n' ∉ lineEnd.text := by
  cases lineEnd <;> decide

/-- A line on which a row stands. -/
theorem DropsReturn.rowsBy_row (hread : DropsReturn read) {row : String} (h : IsRow row)
    (lineEnd : LineEnd) : rowsBy read (row.toList ++ lineEnd.text) = [row] := by
  have hfeed : '\n' ∉ row.toList ++ lineEnd.text := by
    rw [List.mem_append]
    exact not_or.2 ⟨h.feed, lineEnd.not_mem_text⟩
  rw [rowsBy_of_not_mem hfeed, hread.read_append h.last,
    if_neg (mt String.toList_eq_nil_iff.1 h.ne_empty), String.ofList_toList]

/-- A line on which nothing stands. -/
theorem DropsReturn.rowsBy_blank (hread : DropsReturn read) (lineEnd : LineEnd) :
    rowsBy read lineEnd.text = [] := by
  have hblank : read lineEnd.text = [] := @DropsReturn.read_append read hread [] (by simp) lineEnd
  rw [rowsBy_of_not_mem lineEnd.not_mem_text, if_pos hblank]

/-- **The rows that were written are read,** in their order and no others. -/
theorem Rows.rowsBy_eq {rows : List String} {s : List Char} (h : Rows rows s)
    (hrows : ∀ row ∈ rows, IsRow row) (hread : DropsReturn read) : rowsBy read s = rows := by
  induction h with
  | nil => exact hread.rowsBy_blank .feed
  | last row =>
    have hline := hread.rowsBy_row (hrows row List.mem_cons_self) .feed
    rwa [LineEnd.text, List.append_nil] at hline
  | blank lineEnd _ ih => rw [rowsBy_append, hread.rowsBy_blank, ih hrows, List.nil_append]
  | row row lineEnd _ ih =>
    rw [List.forall_mem_cons] at hrows
    rw [rowsBy_append, hread.rowsBy_row hrows.1, ih hrows.2, List.singleton_append]

/-- Whatever the text, its rows are not empty and show no line feed. -/
theorem DropsReturn.of_mem_rowsBy (hread : DropsReturn read) {s : List Char} {row : String}
    (h : row ∈ rowsBy read s) : row ≠ "" ∧ '\n' ∉ row.toList := by
  obtain ⟨line, hline, rfl⟩ := List.mem_map.1 h
  obtain ⟨hmem, hne⟩ := List.mem_filter.1 hline
  obtain ⟨piece, hpiece, rfl⟩ := List.mem_map.1 hmem
  rw [String.toList_ofList]
  refine ⟨fun heq => ?_, fun hfeed => not_mem_of_mem_splitOn hpiece (hread.subset piece hfeed)⟩
  rw [String.ofList_eq_empty_iff.1 heq] at hne
  exact absurd hne Bool.false_ne_true

/-- The lines of a text already lack one carriage return at their ends. Where all are dropped that
makes no difference. -/
theorem rowsBy_dropReturns (s : List Char) :
    rowsBy dropReturns s =
      (((lines s).map dropReturns).filter (!·.isEmpty)).map String.ofList := by
  -- The text is cut at its first line feed; what follows it is shorter.
  induction hlength : s.length using Nat.strong_induction_on generalizing s with
  | _ n ih =>
    by_cases hs : '\n' ∈ s
    · obtain ⟨line, rest, rfl, hline⟩ := List.eq_append_cons_of_mem hs
      have hlt : rest.length < n := by
        rw [← hlength, List.length_append, List.length_cons]
        omega
      rw [rowsBy_append, ih rest.length hlt rest rfl, lines_cons hline, List.map_cons,
        dropReturns_dropReturn, ← List.singleton_append, List.filter_append, List.map_append,
        rowsBy, List.splitOn_eq_singleton hline, List.map_singleton]
    · cases s with
      | nil => rfl
      | cons c s =>
        rw [rowsBy, List.splitOn_eq_singleton hs, lines_of_not_mem hs (List.cons_ne_nil c s)]

end Text
end PackageListing
