/-
# Quoted text

Messages quote the words they complain about. A quoted word stands between double quotes and a
quoted character between single quotes. The quote and the backslash are escaped, as are the
controls with a short name; characters that extend a grapheme or have no visible form are
written by their code point in hexadecimal.
-/

import PackageListing.Text.Class

namespace PackageListing
namespace Text

/-- The digits of `n` in base sixteen, with lower-case letters. -/
def hexDigits (n : Nat) : List Char :=
  Nat.toDigits 16 n

/-- A character inside quotes that are made of `quote`. -/
def escaped (quote : Char) (c : Char) : List Char :=
  if c = '\x00' then ['\\', '0']
  else if c = '\t' then ['\\', 't']
  else if c = '\r' then ['\\', 'r']
  else if c = '\n' then ['\\', 'n']
  else if c = '\\' then ['\\', '\\']
  else if c = quote then ['\\', quote]
  else if extendsGrapheme c || !isPrintable c then
    ['\\', 'u', '\x7b'] ++ hexDigits c.toNat ++ ['\x7d']
  else [c]

/-- A word between double quotes. -/
def quoted (s : String) : String :=
  String.ofList ('"' :: s.toList.flatMap (escaped '"') ++ ['"'])

/-- A character between single quotes. -/
def quotedChar (c : Char) : String :=
  String.ofList ('\'' :: escaped '\'' c ++ ['\''])

end Text
end PackageListing
