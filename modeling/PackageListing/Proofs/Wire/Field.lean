/-
# Writing fields

A field is written as its key, then its payload (`Field.encode`), and a message as its fields one
after the other (`encodeFields`). Fields whose numbers and lengths have room on the wire
(`Field.Sound`) are read back from these bytes, in their order (`fieldsFrom_encodeFields`). No group
is open between two fields that are written, so one field after the other is read
(`fieldsFrom_encode`).
-/

import PackageListing.Proofs.Wire.Varint
import PackageListing.Wire.Field

namespace PackageListing
namespace Wire

/-! ### Keys -/

/-- The code of a shape. -/
def Shape.code : Shape → Nat
  | number => 0
  | eightBytes => 1
  | counted => 2
  | openGroup => 3
  | closeGroup => 4
  | fourBytes => 5

theorem Shape.ofCode?_code (shape : Shape) : ofCode? shape.code = some shape := by
  cases shape <;> rfl

theorem Shape.code_lt (shape : Shape) : shape.code < 8 := by
  cases shape <;> decide

/-- The key of a field. -/
def encodeKey (number : Nat) (shape : Shape) : List UInt8 :=
  encodeVarint (8 * number + shape.code)

/-- **A key is read back,** whatever follows it. -/
theorem key?_encodeKey {number : Nat} (shape : Shape) (rest : List UInt8) (hpos : 1 ≤ number)
    (hlt : number < 2 ^ 29) :
    key? (encodeKey number shape ++ rest) = some ((number, shape), rest) := by
  have hcode := shape.code_lt
  have hkey : 8 * number + shape.code < 2 ^ 32 := by omega
  have hmod : (8 * number + shape.code) % 8 = shape.code := by omega
  have hdiv : (8 * number + shape.code) / 8 = number := by omega
  rw [key?, encodeKey, varint?_encode (by omega)]
  simp only [Option.bind_eq_bind, Option.bind_some, hmod, hdiv, Shape.ofCode?_code]
  rw [if_pos ⟨hkey, hpos⟩]
  rfl

/-! ### Fields -/

/-- The bytes of a field. -/
def Field.encode (f : Field) : List UInt8 :=
  match f.payload with
  | .number n => encodeKey f.number .number ++ encodeVarint n
  | .fixed bytes =>
    encodeKey f.number (if bytes.length = 8 then .eightBytes else .fourBytes) ++ bytes
  | .counted bytes => encodeKey f.number .counted ++ (encodeVarint bytes.length ++ bytes)
  | .group => encodeKey f.number .openGroup ++ encodeKey f.number .closeGroup

/-- The payload of a field has room on the wire. -/
def Payload.Sound : Payload → Prop
  | number n => n < 2 ^ 64
  | fixed bytes => bytes.length = 8 ∨ bytes.length = 4
  | counted bytes => bytes.length < 2 ^ 64
  | group => True

/-- A field has room on the wire. -/
def Field.Sound (f : Field) : Prop :=
  1 ≤ f.number ∧ f.number < 2 ^ 29 ∧ f.payload.Sound

/-- The bytes of a message. -/
def encodeFields (fields : List Field) : List UInt8 :=
  fields.flatMap Field.encode

theorem take?_append (bytes rest : List UInt8) :
    take? bytes.length (bytes ++ rest) = some (bytes, rest) := by
  rw [take?, if_pos (by rw [List.length_append]; exact Nat.le_add_right _ _),
    List.take_left, List.drop_left]

theorem not_isEmpty_of_key? {bytes rest : List UInt8} {k : Nat × Shape}
    (h : key? bytes = some (k, rest)) : ¬bytes.isEmpty = true := by
  rw [List.isEmpty_iff]
  rintro rfl
  cases h

/-- A field that is no group is read in front of the others. -/
theorem fieldsFrom_of_payload? {budget number : Nat} {shape : Shape} {payload : Payload}
    {bytes rest others : List UInt8} (hbudget : 0 < budget)
    (hkey : key? bytes = some ((number, shape), rest))
    (hpayload : payload? shape rest = some (payload, others)) :
    fieldsFrom budget [] bytes = (⟨number, payload⟩ :: ·) <$> fieldsFrom budget [] others := by
  rw [fieldsFrom, if_neg (not_isEmpty_of_key? hkey)]
  split
  · next h _ => rw [hkey] at h; cases h
  · next h _ => rw [hkey] at h; cases h; cases hpayload
  · next h _ => rw [hkey] at h; cases h; cases hpayload
  · next h _ =>
    rw [hkey] at h
    cases h
    split
    · next h' _ => rw [hpayload] at h'; cases h'
    · next h' _ =>
      rw [hpayload] at h'
      cases h'
      exact if_pos hbudget

/-- An empty group is read in front of the other fields. -/
theorem fieldsFrom_of_group {budget number : Nat} {bytes rest others : List UInt8}
    (hbudget : 0 < budget) (hopen : key? bytes = some ((number, .openGroup), rest))
    (hclose : key? rest = some ((number, .closeGroup), others)) :
    fieldsFrom budget [] bytes = (⟨number, .group⟩ :: ·) <$> fieldsFrom budget [] others := by
  have hinside : fieldsFrom budget [number] rest = fieldsFrom budget [] others := by
    rw [fieldsFrom, if_neg (not_isEmpty_of_key? hclose)]
    split
    · next h _ => rw [hclose] at h; cases h
    · next h _ => rw [hclose] at h; cases h; exact if_pos rfl
    · next h _ => rw [hclose] at h; cases h
    · next hother _ h _ => rw [hclose] at h; cases h; exact (hother _ rfl HEq.rfl).elim
  rw [fieldsFrom, if_neg (not_isEmpty_of_key? hopen)]
  split
  · next h _ => rw [hopen] at h; cases h
  · next h _ => rw [hopen] at h; cases h
  · next h _ =>
    rw [hopen] at h
    cases h
    rw [← hinside]
    exact if_pos hbudget
  · next hother h _ => rw [hopen] at h; cases h; exact (hother _ rfl HEq.rfl).elim

/-- **A field is read back,** and then what follows it. -/
theorem fieldsFrom_encode {budget : Nat} (hbudget : 0 < budget) {f : Field} (hf : f.Sound)
    (rest : List UInt8) :
    fieldsFrom budget [] (f.encode ++ rest) = (f :: ·) <$> fieldsFrom budget [] rest := by
  obtain ⟨number, payload⟩ := f
  obtain ⟨hpos, hlt, hpayload⟩ := hf
  cases payload with
  | number n =>
    rw [Field.encode, List.append_assoc]
    refine fieldsFrom_of_payload? hbudget (key?_encodeKey .number _ hpos hlt) ?_
    rw [payload?, varint?_encode hpayload, Option.map_some]
  | fixed bytes =>
    rw [Field.encode, List.append_assoc]
    refine fieldsFrom_of_payload? hbudget (key?_encodeKey _ _ hpos hlt) ?_
    rcases hpayload with h | h
    · have htake := take?_append bytes rest
      rw [h] at htake
      rw [if_pos h, payload?, htake, Option.map_some]
    · have htake := take?_append bytes rest
      rw [h] at htake
      rw [if_neg (by rw [h]; decide), payload?, htake, Option.map_some]
  | counted bytes =>
    rw [Field.encode, List.append_assoc, List.append_assoc]
    refine fieldsFrom_of_payload? hbudget (key?_encodeKey .counted _ hpos hlt) ?_
    rw [payload?, varint?_encode hpayload]
    simp only [Option.bind_eq_bind, Option.bind_some, take?_append]
    rfl
  | group =>
    rw [Field.encode, List.append_assoc]
    exact fieldsFrom_of_group hbudget (key?_encodeKey .openGroup _ hpos hlt)
      (key?_encodeKey .closeGroup _ hpos hlt)

/-- **Fields are read back** in their order. -/
theorem fieldsFrom_encodeFields {budget : Nat} (hbudget : 0 < budget) {fields : List Field}
    (h : ∀ f ∈ fields, f.Sound) : fieldsFrom budget [] (encodeFields fields) = some fields := by
  induction fields with
  | nil =>
    rw [encodeFields, List.flatMap_nil, fieldsFrom]
    rfl
  | cons f fields ih =>
    rw [encodeFields, List.flatMap_cons, fieldsFrom_encode hbudget (h f List.mem_cons_self)]
    rw [encodeFields] at ih
    rw [ih fun g hg => h g (List.mem_cons_of_mem _ hg)]
    rfl

end Wire
end PackageListing
