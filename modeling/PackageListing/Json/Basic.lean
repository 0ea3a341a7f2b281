/-
# JSON values

The values of JSON as a listing needs them. Integers are the only numbers with a meaning here,
and other numbers are kept without their value. The strings of a text may fail to denote text,
by half of a surrogate pair or by bytes that are no characters; such a string is kept as
`garbled`, because it does no harm where nobody asks for it.
-/

namespace PackageListing

/-- A JSON value. -/
inductive Json where
  | null
  | bool (b : Bool)
  /-- A number; one that is not written as an integer has no value here. -/
  | number (value : Option Int)
  | string (s : String)
  /-- A string that denotes no text. -/
  | garbled
  | array (elements : List Json)
  /-- The members in their order; a key that denotes no text is missing. -/
  | object (members : List (Option String × Json))
  deriving Inhabited

namespace Json

/-- The text of a string. -/
def string? : Json → Option String
  | .string s => some s
  | _ => none

/-- The value of a Boolean. -/
def bool? : Json → Option Bool
  | .bool b => some b
  | _ => none

/-- An integer from `low` to `high`. -/
def integer? (low high : Int) : Json → Option Int
  | .number (some n) => if low ≤ n ∧ n ≤ high then some n else none
  | _ => none

/-- A natural number of 64 bits. -/
def word? : Json → Option UInt64
  | .number (some n) => if 0 ≤ n ∧ n.toNat < UInt64.size then some (UInt64.ofNat n.toNat) else none
  | _ => none

/-- The elements of an array, all read by `decode`. -/
def list? {α : Type} (decode : Json → Option α) : Json → Option (List α)
  | .array elements => elements.mapM decode
  | _ => none

/-- Nothing for `null`, else what `decode` reads. -/
def optional? {α : Type} (decode : Json → Option α) : Json → Option (Option α)
  | .null => some none
  | j => (decode j).map some

/-- The members of an object whose values are strings. -/
def strings? : Json → Option (List (String × String))
  | .object members => members.mapM fun m => do return (← m.1, ← m.2.string?)
  | _ => none

/-- The known fields of a record, by name. An array gives the fields in their declared order and
may leave out the last ones. An object gives them in any order, each at most once, among members
that nobody knows. -/
def fields? (names : List String) : Json → Option (List (String × Json))
  | .array elements =>
    if elements.length ≤ names.length then some (names.zip elements) else none
  | .object members => do
    let named ← members.mapM fun m => m.1.map fun key => (key, m.2)
    let known := named.filter fun m => names.contains m.1
    if (known.map Prod.fst).Nodup then some known else none
  | _ => none

/-- The field `name`, or what stands for it when it is left out. -/
def field? {α : Type} (fields : List (String × Json)) (name : String) (fallback : Option α)
    (decode : Json → Option α) : Option α :=
  match fields.lookup name with
  | some j => decode j
  | none => fallback

/-- A list of strings. -/
def ofStrings (l : List String) : Json :=
  .array (l.map .string)

/-- An object with the given members, in their order. -/
def ofMembers (l : List (String × Json)) : Json :=
  .object (l.map fun m => (some m.1, m.2))

/-- A member that is left out when its value is empty. -/
def memberUnless (empty : Bool) (name : String) (value : Json) : List (String × Json) :=
  if empty then [] else [(name, value)]

end Json
end PackageListing
