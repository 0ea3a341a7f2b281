/-
# Fields of messages

A message is a row of fields, each with a number and a payload: a number of variable length, four
or eight bytes, a counted run of bytes, or a group of fields up to a closing mark of the same
number. Messages nest inside counted runs, and readers pick the fields they know by number. What
a group holds is only skipped here, so a group is a field without contents.
-/

import PackageListing.Text.Utf8
import PackageListing.Wire.Varint

namespace PackageListing
namespace Wire

/-- What a field carries. -/
inductive Payload where
  | number (n : Nat)
  | fixed (bytes : List UInt8)
  | counted (bytes : List UInt8)
  | group
  deriving DecidableEq

/-- A field of a message. -/
structure Field where
  /-- Which field it is. -/
  number : Nat
  /-- What it carries. -/
  payload : Payload
  deriving DecidableEq

/-- What the key of a field says about its payload. -/
inductive Shape where
  | number
  | eightBytes
  | counted
  | openGroup
  | closeGroup
  | fourBytes
  deriving DecidableEq

/-- The shape behind its code. -/
def Shape.ofCode? : Nat → Option Shape
  | 0 => some number
  | 1 => some eightBytes
  | 2 => some counted
  | 3 => some openGroup
  | 4 => some closeGroup
  | 5 => some fourBytes
  | _ => none

/-- The number and the shape of the field at the front of some bytes, and what follows its key.
Keys have 32 bits, and numbers begin at one. -/
def key? (bytes : List UInt8) : Option ((Nat × Shape) × List UInt8) := do
  let (key, rest) ← varint? bytes
  let shape ← Shape.ofCode? (key % 8)
  if key < UInt32.size ∧ 1 ≤ key / 8 then return ((key / 8, shape), rest) else none

/-- The first `n` bytes, if there are as many, and what follows them. -/
def take? (n : Nat) (bytes : List UInt8) : Option (List UInt8 × List UInt8) :=
  if n ≤ bytes.length then some (bytes.take n, bytes.drop n) else none

/-- The payload of a field that is no group, and what follows it. -/
def payload? (shape : Shape) (bytes : List UInt8) : Option (Payload × List UInt8) :=
  match shape with
  | .number => (varint? bytes).map fun p => (.number p.1, p.2)
  | .eightBytes => (take? 8 bytes).map fun p => (.fixed p.1, p.2)
  | .fourBytes => (take? 4 bytes).map fun p => (.fixed p.1, p.2)
  | .counted => do
    let (n, rest) ← varint? bytes
    let p ← take? n rest
    return (.counted p.1, p.2)
  | .openGroup | .closeGroup => none

theorem length_key? {bytes : List UInt8} {p : (Nat × Shape) × List UInt8}
    (h : key? bytes = some p) : p.2.length < bytes.length := by
  simp only [key?, Option.bind_eq_bind, Option.bind_eq_some_iff] at h
  obtain ⟨a, ha, s, _, h⟩ := h
  have := length_varint? ha
  split at h
  · simp only [Option.pure_def, Option.some.injEq] at h; subst h; exact this
  · simp at h

theorem length_take? {n : Nat} {bytes : List UInt8} {p : List UInt8 × List UInt8}
    (h : take? n bytes = some p) : p.2.length ≤ bytes.length := by
  unfold take? at h
  split at h
  · simp only [Option.some.injEq] at h; subst h; simp
  · simp at h

theorem length_payload? {shape : Shape} {bytes : List UInt8} {p : Payload × List UInt8}
    (h : payload? shape bytes = some p) : p.2.length ≤ bytes.length := by
  cases shape with
  | number =>
    obtain ⟨q, hq, rfl⟩ := Option.map_eq_some_iff.1 h
    exact Nat.le_of_lt (length_varint? hq)
  | eightBytes | fourBytes =>
    obtain ⟨q, hq, rfl⟩ := Option.map_eq_some_iff.1 h
    exact length_take? hq
  | counted =>
    simp only [payload?, Option.bind_eq_bind, Option.bind_eq_some_iff] at h
    obtain ⟨a, ha, b, hb, h⟩ := h
    simp only [Option.pure_def, Option.some.injEq] at h
    subst h
    exact Nat.le_trans (length_take? hb) (Nat.le_of_lt (length_varint? ha))
  | openGroup | closeGroup => simp [payload?] at h

/-- The fields of a message inside the groups `opened`, innermost first. A field may lie in fewer
than `budget` groups. -/
def fieldsFrom (budget : Nat) (opened : List Nat) (bytes : List UInt8) : Option (List Field) :=
  if bytes.isEmpty then if opened.isEmpty then some [] else none
  else
    match key? bytes, @length_key? bytes with
    | none, _ => none
    | some ((number, .closeGroup), rest), hshort =>
      have := hshort rfl
      match opened with
      | [] => none
      | inner :: outer => if inner = number then fieldsFrom budget outer rest else none
    | some ((number, .openGroup), rest), hshort =>
      have := hshort rfl
      if opened.length < budget then
        let inside := fieldsFrom budget (number :: opened) rest
        if opened.isEmpty then (⟨number, .group⟩ :: ·) <$> inside else inside
      else none
    | some ((number, shape), rest), hshort =>
      have := hshort rfl
      match payload? shape rest, @length_payload? shape rest with
      | none, _ => none
      | some (payload, rest'), hpayload =>
        have := hpayload rfl
        if opened.length < budget then
          let others := fieldsFrom budget opened rest'
          if opened.isEmpty then (⟨number, payload⟩ :: ·) <$> others else others
        else none
  termination_by bytes.length
  decreasing_by
    all_goals simp only at *; omega

/-- Reads a message into `start`, field by field. -/
def merge? {α : Type} (budget : Nat) (step : α → Field → Option α) (start : α)
    (bytes : List UInt8) : Option α := do
  (← fieldsFrom budget [] bytes).foldlM step start

/-- The message in a payload, read into `start`. -/
def Payload.message? {α : Type} (budget : Nat) (step : α → Field → Option α) (start : α) :
    Payload → Option α
  | .counted bytes => merge? budget step start bytes
  | _ => none

/-- The text in a payload. -/
def Payload.text? : Payload → Option String
  | .counted bytes => (Text.text? bytes).map String.ofList
  | _ => none

/-- The Boolean in a payload: any number but nought is true. -/
def Payload.flag? : Payload → Option Bool
  | .number n => some (n != 0)
  | _ => none

end Wire
end PackageListing
