/-
# Labels in the answer to a query

The labels are the rows of the answer (`labels_eq_rowsBy`). A byte that ends a line is read as a
line feed, whatever stands before it, so an answer is read line by line even where it is no text
(`labels_append`). Labels that were written on lines of their own are read again (`labels_encode`).
The main statement is `labels_line_by_line`.
-/

import PackageListing.Proofs.Text.Decoding
import PackageListing.Proofs.Text.Rows
import PackageListing.Query

namespace PackageListing
namespace Query

/-- The byte that a line feed is written with. -/
def lineFeed : UInt8 := 0x0a

theorem labels_eq_rowsBy (stdout : List UInt8) :
    labels stdout = Text.rowsBy Text.dropReturn (Text.lossyText stdout) :=
  rfl

theorem labels_append (front rest : List UInt8) :
    labels (front ++ lineFeed :: rest) = labels front ++ labels rest := by
  -- The byte is below `80`, so no character that breaks off before it takes it up.
  have hchar : Char.ofNat lineFeed.toNat = '\n' := rfl
  have hbyte : lineFeed < 0x80 := by decide
  rw [labels_eq_rowsBy, Text.lossyText_append hbyte, hchar, Text.rowsBy_append]
  rfl

theorem labels_encode {rows : List String} {text : List Char} (h : Text.Rows rows text)
    (hrows : ∀ row ∈ rows, Text.IsRow row) : labels (Text.encode text) = rows := by
  rw [labels_eq_rowsBy, Text.lossyText_encode]
  exact h.rowsBy_eq hrows Text.dropsReturn_dropReturn

/-- **Labels are read line by line.** The labels that were written, each on a line of its own, among
empty lines and whatever the lines end in, are read in their order and nothing else. Any answer,
text or not, may be cut at a line feed and read piece by piece, and no label that is read is empty
or shows a line feed. -/
theorem labels_line_by_line :
    (∀ (rows : List String) (text : List Char), (∀ row ∈ rows, Text.IsRow row) →
      Text.Rows rows text → labels (Text.encode text) = rows) ∧
    (∀ front rest : List UInt8,
      labels (front ++ lineFeed :: rest) = labels front ++ labels rest) ∧
    ∀ stdout : List UInt8, ∀ label ∈ labels stdout, label ≠ "" ∧ '\n' ∉ label.toList :=
  ⟨fun _ _ hrows h => labels_encode h hrows, labels_append,
    fun _ _ h => Text.dropsReturn_dropReturn.of_mem_rowsBy h⟩

/-- Two labels after an empty line, the first on a line with a carriage return and the second on one
that does not end; and an answer with a byte of no character before the line feed. -/
theorem labels_line_by_line_mixed :
    (∀ row ∈ ["//a:b", "//c:d"], Text.IsRow row) ∧
    Text.Rows ["//a:b", "//c:d"] "\n//a:b\r\n//c:d".toList ∧
    labels (Text.encode "\n//a:b\r\n//c:d".toList) = ["//a:b", "//c:d"] ∧
    labels ([0xe2] ++ lineFeed :: [0x61]) = labels [0xe2] ++ labels [0x61] := by
  have hrows : ∀ row ∈ ["//a:b", "//c:d"], Text.IsRow row := by decide
  have htext : Text.Rows ["//a:b", "//c:d"] "\n//a:b\r\n//c:d".toList :=
    .blank .feed (.row "//a:b" .returnFeed (.last "//c:d"))
  exact ⟨hrows, htext, labels_line_by_line.1 _ _ hrows htext, labels_line_by_line.2.1 _ _⟩

end Query
end PackageListing
