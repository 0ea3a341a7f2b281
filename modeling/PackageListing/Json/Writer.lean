/-
# Writing JSON

Values are written without blanks. A quote and a backslash are escaped, as are the controls below
the blank, five of them by a letter and the others by four digits; every other character stands
as it is.
-/

import PackageListing.Json.Basic
import PackageListing.Text.Quoted

namespace PackageListing
namespace Json

/-- A character inside a string. -/
def escaped (c : Char) : List Char :=
  if c = '"' ∨ c = '\\' then ['\\', c]
  else if c = '\x08' then ['\\', 'b']
  else if c = '\t' then ['\\', 't']
  else if c = '\n' then ['\\', 'n']
  else if c = '\x0c' then ['\\', 'f']
  else if c = '\r' then ['\\', 'r']
  else if c < ' ' then
    let digits := Text.hexDigits c.toNat
    ['\\', 'u'] ++ List.replicate (4 - digits.length) '0' ++ digits
  else [c]

/-- A string. -/
def quoted (s : String) : List Char :=
  '"' :: s.toList.flatMap escaped ++ ['"']

mutual

/-- The text of a value. -/
def text : Json → List Char
  | .null => "null".toList
  | .bool b => (if b then "true" else "false").toList
  | .number value => (toString (value.getD 0)).toList
  | .string s => quoted s
  | .garbled => quoted ""
  | .array elements => '[' :: elementsText true elements ++ [']']
  | .object members => '\x7b' :: membersText true members ++ ['\x7d']

/-- The text of the elements of an array, with a comma before all but the first. -/
def elementsText (first : Bool) : List Json → List Char
  | [] => []
  | j :: l => (if first then [] else [',']) ++ j.text ++ elementsText false l

/-- The text of the members of an object, with a comma before all but the first. -/
def membersText (first : Bool) : List (Option String × Json) → List Char
  | [] => []
  | (key, j) :: l =>
    (if first then [] else [',']) ++ quoted (key.getD "") ++ [':'] ++ j.text ++ membersText false l

end

/-- The text of a value as a string. -/
def render (j : Json) : String :=
  String.ofList j.text

end Json
end PackageListing
