/-
# Logs of events

A log is a row of records, each an event after the number of its bytes. Reading goes on to the
end of the log or to the first record that is malformed. The events before that record are read
in any case (`ofBytes`).
-/

import PackageListing.Build.Event

namespace PackageListing
namespace Build

/-- What is wrong with a log, at the place where a record begins. -/
inductive LogDefect where
  /-- The number of bytes cannot be read. -/
  | length (offset : Nat)
  /-- The record is longer than what is left of the log. -/
  | oversized (offset declared available : Nat)
  /-- The bytes of the record are no event. -/
  | record (offset : Nat)
  deriving DecidableEq

/-- What is wrong with a log, in words. -/
def LogDefect.message : LogDefect → String
  | length offset => "read length prefix at offset " ++ toString offset
  | oversized offset declared available =>
    "record at offset " ++ toString offset ++ " declares " ++ toString declared ++
      " bytes, only " ++ toString available ++ " remain"
  | record offset => "decode record at offset " ++ toString offset

/-- The events of a log, and what ended it early. -/
structure EventLog where
  /-- The events before the end or the defect. -/
  events : List Event
  /-- What is wrong after them. -/
  defect : Option LogDefect
  deriving DecidableEq

namespace EventLog

/-- Takes the record off the front of some bytes that begin at `offset` of a log: its event, its
length with the number before it, and what follows it. -/
def record (offset : Nat) (bytes : List UInt8) :
    Except LogDefect (Event × Nat × List UInt8) :=
  match Wire.varint? bytes with
  | none => .error (.length offset)
  | some (length, rest) =>
    if rest.length < length then .error (.oversized offset length rest.length)
    else
      match Event.ofRecord? (rest.take length) with
      | none => .error (.record offset)
      | some event => .ok (event, bytes.length - rest.length + length, rest.drop length)

theorem length_record {offset : Nat} {bytes : List UInt8} {p : Event × Nat × List UInt8}
    (h : record offset bytes = .ok p) : p.2.2.length < bytes.length := by
  unfold record at h
  split at h
  · simp at h
  · next hv =>
    have := Wire.length_varint? hv
    split at h
    · simp at h
    · split at h
      · simp at h
      · simp only [Except.ok.injEq] at h
        subst h
        simp only [List.length_drop] at this ⊢; omega

/-- Reads the records of a log from `offset` on. -/
def readFrom (offset : Nat) (bytes : List UInt8) : EventLog :=
  if bytes.isEmpty then ⟨[], none⟩
  else
    match record offset bytes, @length_record offset bytes with
    | .error defect, _ => ⟨[], some defect⟩
    | .ok (event, length, rest), hshort =>
      have := hshort rfl
      let others := readFrom (offset + length) rest
      ⟨event :: others.events, others.defect⟩
  termination_by bytes.length

/-- The log that some bytes denote. -/
def ofBytes (bytes : List UInt8) : EventLog :=
  readFrom 0 bytes

end EventLog
end Build
end PackageListing
