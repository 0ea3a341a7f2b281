/-
# Patterns of characters

A pattern says how a token may begin a text: it gives what is left of the text after each way to
match. The numbers and the characters in single quotes of Go are patterns; the longest match of
one counts.
-/

namespace PackageListing
namespace Syntax

/-- A pattern: from a text to what may be left of it after a match. -/
abbrev Pattern := List Char → List (List Char)

namespace Pattern

/-- One character of a class. -/
def one (p : Char → Bool) : Pattern
  | [] => []
  | c :: s => if p c then [s] else []

/-- A given character. -/
def char (c : Char) : Pattern := one (· == c)

/-- One of some characters. -/
def oneOf (chars : String) : Pattern := one chars.toList.contains

/-- One pattern after another. -/
def seq (patterns : List Pattern) : Pattern := fun s =>
  patterns.foldl (fun lefts p => lefts.flatMap p) [s]

/-- Any of some patterns. -/
def choice (patterns : List Pattern) : Pattern := fun s => patterns.flatMap fun p => p s

/-- A pattern that may be left out. -/
def optional (p : Pattern) : Pattern := fun s => s :: p s

/-- A pattern a given number of times. -/
def times (n : Nat) (p : Pattern) : Pattern := seq (List.replicate n p)

/-- What is left after characters of a class, with single low lines between them. -/
def afterDigits (p : Char → Bool) : List Char → List Char
  | '_' :: c :: s => if p c then afterDigits p s else '_' :: c :: s
  | c :: s => if p c then afterDigits p s else c :: s
  | [] => []

/-- A row of digits, with single low lines between them. -/
def digits (p : Char → Bool) : Pattern
  | c :: s => if p c then [afterDigits p s] else []
  | [] => []

/-- What is left after the longest match. -/
def longest? (p : Pattern) (s : List Char) : Option (List Char) :=
  (p s).foldl
    (fun best left =>
      match best with
      | none => some left
      | some b => if left.length < b.length then some left else some b)
    none

/-- A digit of the number system with base 16. -/
def isHexDigit (c : Char) : Bool :=
  c.isDigit || ('a' ≤ c && c ≤ 'f') || ('A' ≤ c && c ≤ 'F')

/-- A digit of the number system with base 8. -/
def isOctalDigit (c : Char) : Bool := '0' ≤ c && c ≤ '7'

/-- A digit of the number system with base 2. -/
def isBinaryDigit (c : Char) : Bool := c == '0' || c == '1'

/-- Digits with base 10. -/
def decimals : Pattern := digits Char.isDigit

/-- Digits with base 16. -/
def hexDigits : Pattern := digits isHexDigit

/-- A low line that may be left out. -/
def gap : Pattern := optional (char '_')

/-- A whole number. -/
def integer : Pattern :=
  choice [
    seq [char '0', oneOf "bB", gap, digits isBinaryDigit],
    char '0',
    seq [one fun c => '1' ≤ c && c ≤ '9', optional (seq [gap, decimals])],
    seq [char '0', optional (oneOf "oO"), gap, digits isOctalDigit],
    seq [char '0', oneOf "xX", gap, hexDigits]]

/-- A power that a decimal number is scaled by. -/
def exponent : Pattern := seq [oneOf "eE", optional (oneOf "+-"), decimals]

/-- The digits of a hexadecimal number with a fraction. -/
def hexMantissa : Pattern :=
  choice [
    seq [gap, hexDigits, char '.', optional hexDigits],
    seq [gap, hexDigits],
    seq [char '.', hexDigits]]

/-- A number with a fraction or an exponent. -/
def float : Pattern :=
  choice [
    seq [decimals, char '.', optional decimals, optional exponent],
    seq [decimals, exponent],
    seq [char '.', decimals, optional exponent],
    seq [char '0', oneOf "xX", hexMantissa, oneOf "pP", optional (oneOf "+-"), decimals]]

/-- A number with the imaginary unit. -/
def imaginary : Pattern := seq [choice [decimals, integer, float], char 'i']

/-- A character code of two digits that may follow a backslash. -/
def shortCode : Pattern := seq [char 'x', times 2 (one isHexDigit)]

/-- A character code of four or eight digits that may follow a backslash. -/
def longCode : Pattern :=
  choice [seq [char 'u', times 4 (one isHexDigit)], seq [char 'U', times 8 (one isHexDigit)]]

/-- A character in single quotes. -/
def rune : Pattern :=
  seq [char '\'',
    choice [
      one fun c => c != '\'' && c != '\\',
      seq [char '\\',
        choice [shortCode, longCode, times 3 (one isOctalDigit), oneOf "abfnrtv\\'\""]]],
    char '\'']

/-- Characters of a class, as many as there are. -/
def many (p : Char → Bool) : Pattern := fun s => [s.dropWhile p]

/-- A backslash within double quotes with what belongs to it. -/
def escape : Pattern :=
  seq [char '\\',
    choice [
      one fun c => c != 'x' && c != 'u' && c != 'U',
      seq [times 2 (one Char.isDigit), optional (one Char.isDigit)],
      seq [shortCode, many isHexDigit],
      longCode]]

end Pattern
end Syntax
end PackageListing
