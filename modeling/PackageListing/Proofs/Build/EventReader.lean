/-
# Reading a log event by event

A reader stands at some place of a log and gives the next item: an event, or the defect of the
record that begins there (`Reader.next`). After a defect it has nothing left to read. What it gives
until it ends is one row of items (`Reader.Yields`): the events of the log as `EventLog.ofBytes`
reads it, and then its defect, if there is one (`yields_iff`). With every item the rest of the log
gets shorter, so a reader comes to an end (`length_next`).
-/

import PackageListing.Build.EventLog

namespace PackageListing
namespace Build
namespace EventLog

theorem readFrom_nil (offset : Nat) : readFrom offset [] = ⟨[], none⟩ := by
  rw [readFrom, if_pos List.isEmpty_nil]

theorem readFrom_of_record_eq_error {offset : Nat} {bytes : List UInt8} {defect : LogDefect}
    (hne : bytes ≠ []) (h : record offset bytes = .error defect) :
    readFrom offset bytes = ⟨[], some defect⟩ := by
  rw [readFrom, if_neg (mt List.isEmpty_iff.1 hne)]
  split
  · next defect' h' _ =>
    rw [h] at h'
    cases h'
    rfl
  · next h' _ =>
    rw [h] at h'
    cases h'

theorem readFrom_of_record_eq_ok {offset length : Nat} {bytes rest : List UInt8} {event : Event}
    (hne : bytes ≠ []) (h : record offset bytes = .ok (event, length, rest)) :
    readFrom offset bytes =
      ⟨event :: (readFrom (offset + length) rest).events,
        (readFrom (offset + length) rest).defect⟩ := by
  rw [readFrom, if_neg (mt List.isEmpty_iff.1 hne)]
  split
  · next h' _ =>
    rw [h] at h'
    cases h'
  · next h' _ =>
    rw [h] at h'
    cases h'
    rfl

/-- What a log holds, item by item. -/
def items (log : EventLog) : List (Except LogDefect Event) :=
  log.events.map .ok ++ log.defect.toList.map .error

end EventLog

/-- A reader at some place of a log. -/
structure Reader where
  /-- What is still to be read. -/
  bytes : List UInt8
  /-- How much of the log has been read. -/
  offset : Nat

namespace Reader

/-- The reader at the beginning of a log. -/
def start (bytes : List UInt8) : Reader :=
  ⟨bytes, 0⟩

/-- The next item, and the reader after it. -/
def next (r : Reader) : Option (Except LogDefect Event) × Reader :=
  if r.bytes.isEmpty then (none, r)
  else
    match EventLog.record r.offset r.bytes with
    | .error defect => (some (.error defect), { r with bytes := [] })
    | .ok (event, length, rest) => (some (.ok event), ⟨rest, r.offset + length⟩)

/-- A reader gives some items one after the other and then nothing more. -/
inductive Yields : Reader → List (Except LogDefect Event) → Prop
  | done {r : Reader} (h : r.next = (none, r)) : Yields r []
  | more {r r' : Reader} {item : Except LogDefect Event} {items : List (Except LogDefect Event)}
      (h : r.next = (some item, r')) (hrest : Yields r' items) : Yields r (item :: items)

theorem next_nil (offset : Nat) : next ⟨[], offset⟩ = (none, ⟨[], offset⟩) :=
  rfl

theorem next_of_record_eq_error {offset : Nat} {bytes : List UInt8} {defect : LogDefect}
    (hne : bytes ≠ []) (h : EventLog.record offset bytes = .error defect) :
    next ⟨bytes, offset⟩ = (some (.error defect), ⟨[], offset⟩) := by
  rw [next, if_neg (mt List.isEmpty_iff.1 hne), h]

theorem next_of_record_eq_ok {offset length : Nat} {bytes rest : List UInt8} {event : Event}
    (hne : bytes ≠ []) (h : EventLog.record offset bytes = .ok (event, length, rest)) :
    next ⟨bytes, offset⟩ = (some (.ok event), ⟨rest, offset + length⟩) := by
  rw [next, if_neg (mt List.isEmpty_iff.1 hne), h]

theorem Yields.unique {r : Reader} {l l' : List (Except LogDefect Event)} (h : Yields r l)
    (h' : Yields r l') : l = l' := by
  induction h generalizing l' with
  | done hdone =>
    cases h' with
    | done => rfl
    | more hmore =>
      rw [hdone] at hmore
      cases hmore
  | more hmore _ ih =>
    cases h' with
    | done hdone =>
      rw [hdone] at hmore
      cases hmore
    | more hmore' hrest' =>
      rw [hmore] at hmore'
      cases hmore'
      rw [ih hrest']

/-- What happens at a place of a log: it ends there, or a record that begins there has a defect,
or the record is read and the rest of the log is shorter. -/
theorem cases_record (offset : Nat) (bytes : List UInt8) :
    bytes = [] ∨
      (bytes ≠ [] ∧ ∃ defect, EventLog.record offset bytes = .error defect) ∨
      (bytes ≠ [] ∧ ∃ event length rest,
        EventLog.record offset bytes = .ok (event, length, rest) ∧ rest.length < bytes.length) := by
  by_cases hne : bytes = []
  · exact Or.inl hne
  · rcases h : EventLog.record offset bytes with defect | ⟨event, length, rest⟩
    · exact Or.inr (Or.inl ⟨hne, defect, rfl⟩)
    · exact Or.inr (Or.inr ⟨hne, event, length, rest, rfl, EventLog.length_record h⟩)

theorem yields_items (bytes : List UInt8) (offset : Nat) :
    Yields ⟨bytes, offset⟩ (EventLog.readFrom offset bytes).items := by
  induction hn : bytes.length using Nat.strongRecOn generalizing bytes offset with
  | _ n ih =>
    rcases cases_record offset bytes with rfl | ⟨hne, defect, h⟩ |
      ⟨hne, event, length, rest, h, hlt⟩
    · rw [EventLog.readFrom_nil]
      exact .done (next_nil offset)
    · rw [EventLog.readFrom_of_record_eq_error hne h]
      exact .more (next_of_record_eq_error hne h) (.done (next_nil offset))
    · rw [EventLog.readFrom_of_record_eq_ok hne h]
      exact .more (next_of_record_eq_ok hne h) (ih rest.length (hn ▸ hlt) rest _ rfl)

/-- **A reader gives the events of its log and then the defect,** and ends. -/
theorem yields_iff {bytes : List UInt8} {l : List (Except LogDefect Event)} :
    Yields (start bytes) l ↔ l = (EventLog.ofBytes bytes).items := by
  constructor
  · exact fun h => h.unique (yields_items bytes 0)
  · rintro rfl
    exact yields_items bytes 0

theorem length_next {r r' : Reader} {item : Except LogDefect Event}
    (h : r.next = (some item, r')) : r'.bytes.length < r.bytes.length := by
  obtain ⟨bytes, offset⟩ := r
  rcases cases_record offset bytes with rfl | ⟨hne, defect, hrecord⟩ |
    ⟨hne, event, length, rest, hrecord, hlt⟩
  · cases h
  · rw [next_of_record_eq_error hne hrecord] at h
    cases h
    exact List.length_pos_iff.2 hne
  · rw [next_of_record_eq_ok hne hrecord] at h
    cases h
    exact hlt

end Reader
end Build
end PackageListing
