/-
# Character classes

The classes of characters that the text rules of the library speak about: white space, letters
and numbers, the characters of identifiers, characters without a width of their own, and
characters with a visible form. The large classes are tables of ranges of code points.
-/

import PackageListing.Text.Ranges.Alphanumeric
import PackageListing.Text.Ranges.GraphemeExtend
import PackageListing.Text.Ranges.IdentifierPart
import PackageListing.Text.Ranges.IdentifierStart
import PackageListing.Text.Ranges.Printable

namespace PackageListing
namespace Text

/-- The code point `n` lies in one of the closed ranges. -/
def inRanges (ranges : List (Nat × Nat)) (n : Nat) : Bool :=
  ranges.any fun r => decide (r.1 ≤ n) && decide (n ≤ r.2)

/-- White space: the blank, the controls from tab to carriage return, the next-line control and
the separators of lines, paragraphs and words. -/
def isBlank (c : Char) : Bool :=
  inRanges
    [(0x9, 0xd), (0x20, 0x20), (0x85, 0x85), (0xa0, 0xa0), (0x1680, 0x1680), (0x2000, 0x200a),
      (0x2028, 0x2029), (0x202f, 0x202f), (0x205f, 0x205f), (0x3000, 0x3000)]
    c.toNat

/-- A letter or a number of any script. -/
def isAlphanumeric (c : Char) : Bool :=
  if c.toNat < 128 then c.isAlphanum else inRanges Ranges.alphanumeric c.toNat

/-- A character that an identifier may begin with. -/
def isIdentifierStart (c : Char) : Bool :=
  c == '_' || if c.toNat < 128 then c.isAlpha else inRanges Ranges.identifierStart c.toNat

/-- A character that an identifier may hold after its first. -/
def isIdentifierPart (c : Char) : Bool :=
  c == '_' || if c.toNat < 128 then c.isAlphanum else inRanges Ranges.identifierPart c.toNat

/-- A character without a width of its own: it changes the one before it, or is not seen. -/
def extendsGrapheme (c : Char) : Bool :=
  decide (128 ≤ c.toNat) && inRanges Ranges.graphemeExtend c.toNat

/-- A character that quoted text shows as it is. -/
def isPrintable (c : Char) : Bool :=
  if c.toNat < 128 then decide (32 ≤ c.toNat) && decide (c.toNat < 127)
  else inRanges Ranges.printable c.toNat

theorem toNat_lt_of_isAlphanum {c : Char} (h : c.isAlphanum = true) : c.toNat < 128 := by
  delta Char.isAlphanum Char.isAlpha Char.isUpper Char.isLower Char.isDigit at h
  simp only [Bool.or_eq_true, Bool.and_eq_true, decide_eq_true_eq, ge_iff_le,
    UInt32.le_iff_toNat_le] at h
  simp only [Char.toNat]
  have h1 : ('Z'.val).toNat = 90 := rfl
  have h2 : ('z'.val).toNat = 122 := rfl
  have h3 : ('9'.val).toNat = 57 := rfl
  omega

end Text
end PackageListing
