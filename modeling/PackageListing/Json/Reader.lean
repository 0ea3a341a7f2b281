/-
# Reading JSON

A value is read off the front of a token list and comes with what follows it and the proof that
this is shorter; so reading ends. A text is read as one value, or as a stream of values one after
another.
-/

import PackageListing.Json.Basic
import PackageListing.Json.Token

namespace PackageListing
namespace Json

/-- Something read off the front of `input`, and the tokens after it. -/
structure Reading (α : Type) (input : List Token) where
  /-- What was read. -/
  value : α
  /-- What follows it. -/
  rest : List Token
  /-- Something was read. -/
  shorter : rest.length < input.length

mutual

/-- Reads a value. -/
def readValue (input : List Token) : Option (Reading Json input) :=
  match input with
  | .null :: after => some ⟨.null, after, Nat.lt_succ_self _⟩
  | .bool b :: after => some ⟨.bool b, after, Nat.lt_succ_self _⟩
  | .number n :: after => some ⟨.number n, after, Nat.lt_succ_self _⟩
  | .string (some s) :: after => some ⟨.string s, after, Nat.lt_succ_self _⟩
  | .string none :: after => some ⟨.garbled, after, Nat.lt_succ_self _⟩
  | .sign '[' :: .sign ']' :: after =>
    some ⟨.array [], after, Nat.lt_succ_of_lt (Nat.lt_succ_self _)⟩
  | .sign '[' :: after => do
    let r ← readElements after
    return ⟨.array r.value, r.rest, Nat.lt_succ_of_lt r.shorter⟩
  | .sign '\x7b' :: .sign '\x7d' :: after =>
    some ⟨.object [], after, Nat.lt_succ_of_lt (Nat.lt_succ_self _)⟩
  | .sign '\x7b' :: after => do
    let r ← readMembers after
    return ⟨.object r.value, r.rest, Nat.lt_succ_of_lt r.shorter⟩
  | _ => none
  termination_by 2 * input.length

/-- Reads the elements of an array and its closing bracket. -/
def readElements (input : List Token) : Option (Reading (List Json) input) := do
  let first ← readValue input
  match hr : first.rest with
  | .sign ']' :: after =>
    return ⟨[first.value], after, by
      have := first.shorter
      simp only [hr, List.length_cons] at this; omega⟩
  | .sign ',' :: after =>
    have hs : after.length + 1 < input.length := by
      have := first.shorter
      simpa only [hr, List.length_cons] using this
    let more ← readElements after
    return ⟨first.value :: more.value, more.rest, by have := more.shorter; omega⟩
  | _ => none
  termination_by 2 * input.length + 1

/-- Reads the members of an object and its closing bracket. -/
def readMembers (input : List Token) : Option (Reading (List (Option String × Json)) input) :=
  match input with
  | .string key :: .sign ':' :: after => do
    let value ← readValue after
    match hr : value.rest with
    | .sign '\x7d' :: after' =>
      return ⟨[(key, value.value)], after', by
        have := value.shorter
        simp only [hr, List.length_cons] at this ⊢; omega⟩
    | .sign ',' :: after' =>
      have hs : after'.length + 1 < after.length := by
        have := value.shorter
        simpa only [hr, List.length_cons] using this
      let more ← readMembers after'
      return ⟨(key, value.value) :: more.value, more.rest, by
        have := more.shorter
        simp only [List.length_cons]; omega⟩
    | _ => none
  | _ => none
  termination_by 2 * input.length + 1

end

/-- The values of a token list, one after another. -/
def readStream (input : List Token) : Option (List Json) :=
  if input.isEmpty then some []
  else
    match readValue input with
    | none => none
    | some first =>
      have := first.shorter
      (first.value :: ·) <$> readStream first.rest
  termination_by input.length

/-- The value that a text denotes. -/
def parse? (text : List (Option Char)) : Option Json := do
  let input ← tokens? text
  let whole ← readValue input
  if whole.rest.isEmpty then return whole.value else none

/-- The values that a text denotes, one after another. -/
def parseStream? (text : List (Option Char)) : Option (List Json) := do
  readStream (← tokens? text)

/-- The value that some bytes denote as a text. -/
def ofBytes? (bytes : List UInt8) : Option Json :=
  parse? (Text.decode bytes)

/-- The values that some bytes denote as a text. -/
def streamOfBytes? (bytes : List UInt8) : Option (List Json) :=
  parseStream? (Text.decode bytes)

/-- The value that a string denotes as a text. -/
def ofString? (s : String) : Option Json :=
  parse? (s.toList.map some)

end Json
end PackageListing
