/-
# Writing messages

A writer of messages makes plain fields only: flags, texts and messages inside (`Field.Plain`).
What is empty is left out where a reader puts it back, that is, an empty text and a flag that is
not set. As long as all bytes of a message fit into a length on the wire, reading the message comes
to reading its fields (`merge?_encodeFields`).

A row of fields conveys a value to a reader that has some other value so far (`Conveys`). Rows are
put one after the other (`Conveys.append`), so a message is told of by its parts: a text
(`conveys_textField`), a flag (`conveys_flagField`), a message inside (`Conveys.message`), one that
may be missing (`conveys_optional`) and messages that are repeated (`conveys_repeated`). The reader
of the message then gets the value (`Conveys.merge?`).
-/

import PackageListing.Proofs.Wire.Field

namespace PackageListing
namespace Wire

/-- A field as writers make it: a number or a counted run. -/
inductive Field.Plain : Field → Prop
  | number {k n : Nat} (hpos : 1 ≤ k) (hlt : k < 2 ^ 29) (hn : n < 2 ^ 64) : Plain ⟨k, .number n⟩
  | counted {k : Nat} {bytes : List UInt8} (hpos : 1 ≤ k) (hlt : k < 2 ^ 29) :
    Plain ⟨k, .counted bytes⟩

/-- A message inside a message. -/
def messageField (k : Nat) (fields : List Field) : Field :=
  ⟨k, .counted (encodeFields fields)⟩

/-- A text, which is left out when it is empty. -/
def textField (k : Nat) (s : String) : List Field :=
  if s = "" then [] else [⟨k, .counted (Text.encode s.toList)⟩]

/-- A flag, which is left out when it is not set. -/
def flagField (k : Nat) (b : Bool) : List Field :=
  if b then [⟨k, .number 1⟩] else []

/-- What a field carries is no longer than the message around it. -/
theorem length_counted_le {fields : List Field} {k : Nat} {bytes : List UInt8}
    (h : ⟨k, .counted bytes⟩ ∈ fields) : bytes.length ≤ (encodeFields fields).length := by
  have hfield : bytes.length ≤ (Field.encode ⟨k, .counted bytes⟩).length := by
    rw [Field.encode, List.length_append, List.length_append]
    omega
  have hsub : (Field.encode ⟨k, .counted bytes⟩).length ≤ (encodeFields fields).length := by
    obtain ⟨before, after, rfl⟩ := List.append_of_mem h
    rw [encodeFields, List.flatMap_append, List.flatMap_cons, List.length_append,
      List.length_append]
    omega
  exact Nat.le_trans hfield hsub

theorem Field.Plain.sound {fields : List Field} {f : Field} (hf : f ∈ fields) (hplain : f.Plain)
    (hlen : (encodeFields fields).length < 2 ^ 64) : f.Sound := by
  cases hplain with
  | number hpos hlt hn => exact ⟨hpos, hlt, hn⟩
  | counted hpos hlt => exact ⟨hpos, hlt, Nat.lt_of_le_of_lt (length_counted_le hf) hlen⟩

/-- **A message is read as its fields are.** -/
theorem merge?_encodeFields {α : Type} {budget : Nat} (hbudget : 0 < budget)
    (step : α → Field → Option α) (start : α) {fields : List Field}
    (hplain : ∀ f ∈ fields, f.Plain) (hlen : (encodeFields fields).length < 2 ^ 64) :
    merge? budget step start (encodeFields fields) = fields.foldlM step start := by
  rw [merge?, fieldsFrom_encodeFields hbudget fun f hf => (hplain f hf).sound hf hlen]
  rfl

theorem text?_encode (s : String) :
    (Payload.counted (Text.encode s.toList)).text? = some s := by
  rw [Payload.text?, Text.text?_encode, Option.map_some, String.ofList_toList]

/-! ### What fields convey -/

/-- A reader that has `a` has `b` after a row of plain fields, if they are not too long for a
message. -/
structure Conveys {α : Type} (step : α → Field → Option α) (a : α) (fields : List Field)
    (b : α) : Prop where
  plain : ∀ f ∈ fields, f.Plain
  read : (encodeFields fields).length < 2 ^ 64 → fields.foldlM step a = some b

section Conveys

variable {α β : Type} {step : α → Field → Option α} {a b c : α}

theorem Conveys.nil : Conveys step a [] a where
  plain _ hf := absurd hf List.not_mem_nil
  read _ := rfl

theorem Conveys.append {fields others : List Field} (h : Conveys step a fields b)
    (h' : Conveys step b others c) : Conveys step a (fields ++ others) c where
  plain f hf := (List.mem_append.1 hf).elim (h.plain f) (h'.plain f)
  read hlen := by
    rw [encodeFields, List.flatMap_append, List.length_append] at hlen
    rw [List.foldlM_append, h.read (Nat.lt_of_le_of_lt (Nat.le_add_right _ _) hlen)]
    exact h'.read (Nat.lt_of_le_of_lt (Nat.le_add_left _ _) hlen)

theorem conveys_singleton {f : Field} (hplain : f.Plain)
    (h : (encodeFields [f]).length < 2 ^ 64 → step a f = some b) : Conveys step a [f] b where
  plain g hg := List.mem_singleton.1 hg ▸ hplain
  read hlen := by
    rw [List.foldlM_cons, h hlen]
    rfl

/-- **A message gives its reader what its fields convey.** -/
theorem Conveys.merge? {fields : List Field} (h : Conveys step a fields b) {budget : Nat}
    (hbudget : 0 < budget) (hlen : (encodeFields fields).length < 2 ^ 64) :
    Wire.merge? budget step a (encodeFields fields) = some b := by
  rw [merge?_encodeFields hbudget step a h.plain hlen]
  exact h.read hlen

/-- A message inside is conveyed if its fields convey it. -/
theorem Conveys.message {inner : β → Field → Option β} {start value : β} {fields : List Field}
    (h : Conveys inner start fields value) {k budget : Nat} (hk : 1 ≤ k ∧ k < 2 ^ 29)
    (hbudget : 0 < budget) (put : β → α)
    (hstep : step a (messageField k fields) =
      ((messageField k fields).payload.message? budget inner start).map put) :
    Conveys step a [messageField k fields] (put value) := by
  refine conveys_singleton (.counted hk.1 hk.2) fun hlen => ?_
  have hinside : (encodeFields fields).length < 2 ^ 64 :=
    Nat.lt_of_le_of_lt (length_counted_le List.mem_cons_self) hlen
  have hread : (messageField k fields).payload.message? budget inner start = some value :=
    h.merge? hbudget hinside
  rw [hstep, hread, Option.map_some]

/-- A text is put in the place of the empty one. -/
theorem conveys_textField {k : Nat} (hk : 1 ≤ k ∧ k < 2 ^ 29) (put : String → α)
    (hstep : ∀ payload, step (put "") ⟨k, payload⟩ = payload.text?.map put) (s : String) :
    Conveys step (put "") (textField k s) (put s) := by
  rw [textField]
  split
  · next hs =>
    rw [hs]
    exact .nil
  · refine conveys_singleton (.counted hk.1 hk.2) fun _ => ?_
    rw [hstep, text?_encode, Option.map_some]

/-- A flag is put in the place of the one that is not set. -/
theorem conveys_flagField {k : Nat} (hk : 1 ≤ k ∧ k < 2 ^ 29) (put : Bool → α)
    (hstep : ∀ payload, step (put false) ⟨k, payload⟩ = payload.flag?.map put) (flag : Bool) :
    Conveys step (put false) (flagField k flag) (put flag) := by
  cases flag with
  | false => exact .nil
  | true => exact conveys_singleton (.number hk.1 hk.2 (by decide)) fun _ => hstep (.number 1)

/-- A message that may be missing is put in the place of the missing one. -/
theorem conveys_optional {field : β → Field} (put : Option β → α)
    (h : ∀ value, Conveys step (put none) [field value] (put (some value))) (o : Option β) :
    Conveys step (put none) (o.toList.map field) (put o) := by
  cases o with
  | none => exact .nil
  | some value => exact h value

/-- Repeated messages are put behind one another. -/
theorem conveys_repeated {field : β → Field} (put : List β → α)
    (h : ∀ done value, Conveys step (put done) [field value] (put (done ++ [value])))
    (values : List β) : Conveys step (put []) (values.map field) (put values) := by
  suffices hfrom : ∀ done, Conveys step (put done) (values.map field) (put (done ++ values)) from
    hfrom []
  induction values with
  | nil =>
    intro done
    rw [List.append_nil]
    exact .nil
  | cons value values ih =>
    intro done
    have hrest := ih (done ++ [value])
    rw [List.append_assoc, List.singleton_append] at hrest
    exact (h done value).append hrest

end Conveys

end Wire
end PackageListing
