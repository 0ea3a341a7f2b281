/-
# The records of a log

Whatever the bytes of a log are, its front is made up of the records of the events that are read,
each a number and so many bytes (`IsRecord`), and what is left is nothing, or it begins with the
defect that is told of, at the place where the records end (`Breaks`, `readFrom_partitions`).

A reader calls for the items one by one, and each call that comes after the last item gives nothing
(`Yields.item_eq`). In a call no more is ever cut off than is there: with each cut and each
difference checked the call goes the same way (`inRange?_eq`), and the place of the reader with what
is left for it stays within the log (`reach_after_le`).
-/

import PackageListing.Proofs.Build.EventReader
import PackageListing.Proofs.Wire.Varint
import Mathlib.Data.List.Forall2

namespace PackageListing
namespace Build

open Wire (varint? IsVarint varint?_eq_some_iff)

/-! ### Records and defects -/

/-- Some bytes are the record of an event: the number of the bytes that follow it, and these, which
denote the event. -/
def IsRecord (record : List UInt8) (event : Event) : Prop :=
  ∃ number body, record = number ++ body ∧ IsVarint number body.length ∧
    Event.ofRecord? body = some event

/-- What some bytes, which begin at `offset`, do not hold a record for, in words. -/
inductive Breaks (offset : Nat) : List UInt8 → String → Prop
  | length {rest : List UInt8} (hne : rest ≠ [])
      (hnone : ∀ number more n, rest = number ++ more → ¬IsVarint number n) :
      Breaks offset rest ("read length prefix at offset " ++ toString offset)
  | oversized {number more : List UInt8} {declared : Nat} (hnumber : IsVarint number declared)
      (hlong : more.length < declared) :
      Breaks offset (number ++ more)
        ("record at offset " ++ toString offset ++ " declares " ++ toString declared ++
          " bytes, only " ++ toString more.length ++ " remain")
  | record {number body more : List UInt8} (hnumber : IsVarint number body.length)
      (hbody : Event.ofRecord? body = none) :
      Breaks offset (number ++ (body ++ more)) ("decode record at offset " ++ toString offset)

namespace EventLog

/-- **A record that is read** stands at the front of the bytes, and all its bytes are counted. -/
theorem isRecord_of_record_eq_ok {offset length : Nat} {bytes rest : List UInt8} {event : Event}
    (h : record offset bytes = .ok (event, length, rest)) :
    ∃ first, bytes = first ++ rest ∧ IsRecord first event ∧ length = first.length := by
  rw [record] at h
  split at h
  · cases h
  · next declared more hvarint =>
    obtain ⟨number, rfl, hnumber⟩ := varint?_eq_some_iff.1 hvarint
    split at h
    · cases h
    · next hle =>
      split at h
      · cases h
      · next hevent =>
        cases h
        have hbody : (more.take declared).length = declared :=
          List.length_take_of_le (Nat.not_lt.1 hle)
        refine ⟨number ++ more.take declared, ?_, ⟨number, _, rfl, ?_, hevent⟩, ?_⟩
        · rw [List.append_assoc, List.take_append_drop]
        · rw [hbody]
          exact hnumber
        · rw [List.length_append, List.length_append, hbody, Nat.add_sub_cancel]

/-- **A defect that is told of** is there. -/
theorem breaks_of_record_eq_error {offset : Nat} {bytes : List UInt8} {defect : LogDefect}
    (hne : bytes ≠ []) (h : record offset bytes = .error defect) :
    Breaks offset bytes defect.message := by
  rw [record] at h
  split at h
  · next hvarint =>
    cases h
    refine .length hne fun number more n hbytes hnumber => ?_
    cases hvarint.symm.trans (varint?_eq_some_iff.2 ⟨number, hbytes, hnumber⟩)
  · next declared more hvarint =>
    obtain ⟨number, rfl, hnumber⟩ := varint?_eq_some_iff.1 hvarint
    split at h
    · next hlong =>
      cases h
      exact .oversized hnumber hlong
    · next hle =>
      split at h
      · next hevent =>
        cases h
        have hbody : (more.take declared).length = declared :=
          List.length_take_of_le (Nat.not_lt.1 hle)
        rw [← List.take_append_drop declared more]
        exact .record (hbody.symm ▸ hnumber) hevent
      · cases h

/-- **The records of the events are the front of the log,** and the defect stands where they
end. -/
theorem readFrom_partitions (offset : Nat) (bytes : List UInt8) :
    ∃ records rest, bytes = records.flatten ++ rest ∧
      List.Forall₂ IsRecord records (readFrom offset bytes).events ∧
      match (readFrom offset bytes).defect with
      | none => rest = []
      | some defect => Breaks (offset + records.flatten.length) rest defect.message := by
  induction hn : bytes.length using Nat.strongRecOn generalizing bytes offset with
  | _ n ih =>
    rcases Reader.cases_record offset bytes with rfl | ⟨hne, defect, h⟩ |
      ⟨hne, event, length, rest, h, hlt⟩
    · rw [readFrom_nil]
      exact ⟨[], [], rfl, .nil, rfl⟩
    · rw [readFrom_of_record_eq_error hne h]
      exact ⟨[], bytes, rfl, .nil, breaks_of_record_eq_error hne h⟩
    · obtain ⟨first, rfl, hfirst, rfl⟩ := isRecord_of_record_eq_ok h
      obtain ⟨records, last, rfl, hrecords, hlast⟩ :=
        ih rest.length (hn ▸ hlt) (offset + first.length) rest rfl
      rw [readFrom_of_record_eq_ok hne h]
      refine ⟨first :: records, last, ?_, .cons hfirst hrecords, ?_⟩
      · rw [List.flatten_cons, List.append_assoc]
      · rw [List.flatten_cons, List.length_append, ← Nat.add_assoc]
        exact hlast

end EventLog

/-! ### Calls of a reader -/

namespace Reader

/-- The reader after some calls. -/
def after (r : Reader) : Nat → Reader
  | 0 => r
  | n + 1 => after r.next.2 n

/-- The item that a call gives, with `n` calls before it. -/
def item (r : Reader) (n : Nat) : Option (Except LogDefect Event) :=
  (r.after n).next.1

theorem after_of_done {r : Reader} (h : r.next = (none, r)) (n : Nat) : r.after n = r := by
  induction n with
  | zero => rfl
  | succ n ih => rw [after, h, ih]

/-- **The calls give the items one by one,** and those after the last item give nothing. -/
theorem Yields.item_eq {r : Reader} {l : List (Except LogDefect Event)} (h : Yields r l) (n : Nat) :
    r.item n = l[n]? := by
  induction h generalizing n with
  | done hdone => rw [item, after_of_done hdone, hdone, List.getElem?_nil]
  | more hmore _ ih =>
    cases n with
    | zero => rw [item, after, hmore, List.getElem?_cons_zero]
    | succ n =>
      rw [List.getElem?_cons_succ, ← ih n, item, after, hmore, item]

/-- A difference, unless it is below nought. -/
def minus? (a b : Nat) : Option Nat :=
  if b ≤ a then some (a - b) else none

/-- The first bytes and the others, unless there are too few. -/
def cut? (n : Nat) (bytes : List UInt8) : Option (List UInt8 × List UInt8) :=
  if n ≤ bytes.length then some (bytes.take n, bytes.drop n) else none

/-- A call in which every difference and every cut is checked. It comes to nothing where one of them
is out of range. -/
def inRange? (r : Reader) : Option (Option (Except LogDefect Event) × Reader) :=
  if r.bytes.isEmpty then some (none, r)
  else
    match varint? r.bytes with
    | none => some (some (.error (.length r.offset)), { r with bytes := [] })
    | some (declared, rest) => do
      let number ← minus? r.bytes.length rest.length
      if rest.length < declared then
        return (some (.error (.oversized r.offset declared rest.length)), { r with bytes := [] })
      let (body, rest) ← cut? declared rest
      match Event.ofRecord? body with
      | none => return (some (.error (.record r.offset)), { r with bytes := [] })
      | some event => return (some (.ok event), ⟨rest, r.offset + (number + declared)⟩)

/-- **Nothing in a call is out of range,** whatever length a record declares. -/
theorem inRange?_eq (r : Reader) : r.inRange? = some r.next := by
  rw [inRange?, next]
  split
  · rfl
  · rw [EventLog.record]
    cases hvarint : varint? r.bytes with
    | none => rfl
    | some p =>
      obtain ⟨declared, rest⟩ := p
      have hnumber : minus? r.bytes.length rest.length =
          some (r.bytes.length - rest.length) := by
        rw [minus?, if_pos (Nat.le_of_lt (Wire.length_varint? hvarint))]
      dsimp only
      rw [hnumber, Option.bind_eq_bind, Option.bind_some]
      split
      · rfl
      · next hle =>
        rw [cut?, if_pos (Nat.not_lt.1 hle), Option.bind_eq_bind, Option.bind_some]
        dsimp only
        cases Event.ofRecord? (rest.take declared) with
        | none => rfl
        | some event => rfl

/-- How far the bytes for a reader reach. -/
def reach (r : Reader) : Nat :=
  r.offset + r.bytes.length

theorem reach_next_le (r : Reader) : r.next.2.reach ≤ r.reach := by
  obtain ⟨bytes, offset⟩ := r
  rcases cases_record offset bytes with rfl | ⟨hne, defect, h⟩ |
    ⟨hne, event, length, rest, h, -⟩
  · exact Nat.le_refl _
  · rw [next_of_record_eq_error hne h]
    exact Nat.le_add_right offset bytes.length
  · obtain ⟨first, rfl, -, rfl⟩ := EventLog.isRecord_of_record_eq_ok h
    rw [next_of_record_eq_ok hne h, reach, reach, List.length_append, Nat.add_assoc]

theorem reach_after_le (r : Reader) (n : Nat) : (r.after n).reach ≤ r.reach := by
  induction n generalizing r with
  | zero => exact Nat.le_refl _
  | succ n ih => exact Nat.le_trans (ih r.next.2) r.reach_next_le

end Reader

/-- **Any bytes are read to an end.** The events come first, then the defect, if there is one, and
then nothing any more. The records of the events make up the front of the bytes; without a defect
that is all, and else the defect is told of at the place where they end, with the number of bytes
that remain there. In no call is anything out of range. -/
theorem log_partitions (bytes : List UInt8) :
    (∃ records rest, bytes = records.flatten ++ rest ∧
      List.Forall₂ IsRecord records (EventLog.ofBytes bytes).events ∧
      match (EventLog.ofBytes bytes).defect with
      | none => rest = []
      | some defect => Breaks records.flatten.length rest defect.message) ∧
    ∀ n, (Reader.start bytes).item n =
        ((EventLog.ofBytes bytes).events.map .ok ++
          (EventLog.ofBytes bytes).defect.toList.map .error)[n]? ∧
      ((Reader.start bytes).after n).inRange? = some ((Reader.start bytes).after n).next ∧
      ((Reader.start bytes).after n).reach ≤ bytes.length := by
  refine ⟨?_, fun n => ⟨(Reader.yields_iff.2 rfl).item_eq n, Reader.inRange?_eq _, ?_⟩⟩
  · obtain ⟨records, rest, hbytes, hrecords, hdefect⟩ := EventLog.readFrom_partitions 0 bytes
    rw [Nat.zero_add] at hdefect
    exact ⟨records, rest, hbytes, hrecords, hdefect⟩
  · have hstart : (Reader.start bytes).reach = bytes.length := Nat.zero_add _
    exact hstart ▸ (Reader.start bytes).reach_after_le n

end Build
end PackageListing
