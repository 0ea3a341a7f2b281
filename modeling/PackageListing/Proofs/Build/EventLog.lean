/-
# Writing logs

A log is written record by record, each event after the number of its bytes (`encode`). What is
written is read back, whatever follows it (`readFrom_encode`). If some bytes are the front of a
log, they are so many records and the front of one more (`exists_front`). Of the record that is
cut off no event is read: either the number of its bytes is cut off, or fewer bytes than that
follow (`record_of_isPrefix`). So a front of a log gives the events of its whole records, and then
a defect unless it ends with a record (`read_isPrefix_encode`).
-/

import PackageListing.Proofs.Build.Event
import PackageListing.Proofs.Build.EventReader
import Mathlib.Data.List.Infix

namespace PackageListing
namespace Build
namespace EventLog

open Wire

/-- The record of an event. -/
def encodeRecord (e : Event) : List UInt8 :=
  encodeVarint e.encode.length ++ e.encode

/-- The log of some events. -/
def encode (es : List Event) : List UInt8 :=
  es.flatMap encodeRecord

theorem encodeRecord_ne_nil (e : Event) : encodeRecord e ≠ [] :=
  List.append_ne_nil_of_left_ne_nil (encodeVarint_ne_nil _) _

theorem encode_cons (e : Event) (es : List Event) :
    encode (e :: es) = encodeRecord e ++ encode es :=
  List.flatMap_cons

theorem encode_append (es es' : List Event) : encode (es ++ es') = encode es ++ encode es' :=
  List.flatMap_append

/-! ### Whole records -/

theorem record_encodeRecord {e : Event} (h : e.encode.length < 2 ^ 64) (offset : Nat)
    (rest : List UInt8) :
    record offset (encodeRecord e ++ rest) = .ok (e, (encodeRecord e).length, rest) := by
  have hshort : ¬(e.encode ++ rest).length < e.encode.length := by
    rw [List.length_append]
    omega
  have hlen : (encodeRecord e ++ rest).length - (e.encode ++ rest).length + e.encode.length =
      (encodeRecord e).length := by
    rw [encodeRecord]
    simp only [List.length_append]
    omega
  rw [record, encodeRecord, List.append_assoc, varint?_encode h]
  simp only [if_neg hshort, List.take_left, List.drop_left, Event.ofRecord?_encode h]
  rw [← List.append_assoc, ← encodeRecord, hlen]

/-- **Written events are read back,** and then what follows them. -/
theorem readFrom_encode {es : List Event} (h : ∀ e ∈ es, e.encode.length < 2 ^ 64) (offset : Nat)
    (rest : List UInt8) :
    readFrom offset (encode es ++ rest) =
      ⟨es ++ (readFrom (offset + (encode es).length) rest).events,
        (readFrom (offset + (encode es).length) rest).defect⟩ := by
  induction es generalizing offset with
  | nil => rfl
  | cons e es ih =>
    have hne : encodeRecord e ++ (encode es ++ rest) ≠ [] :=
      List.append_ne_nil_of_left_ne_nil (encodeRecord_ne_nil e) _
    rw [encode_cons, List.append_assoc, readFrom_of_record_eq_ok hne
      (record_encodeRecord (h e List.mem_cons_self) offset _),
      ih fun e' he' => h e' (List.mem_cons_of_mem _ he'), List.length_append, Nat.add_assoc]
    rfl

/-! ### Records that are cut off -/

/-- What is wrong with the record of an event that begins at `offset`, if only `available` of its
bytes are there. -/
def truncation (offset : Nat) (e : Event) (available : Nat) : LogDefect :=
  if available < (encodeVarint e.encode.length).length then .length offset
  else .oversized offset e.encode.length (available - (encodeVarint e.encode.length).length)

/-- The front of two rows is a front of the first one, or it goes on into the second. -/
theorem isPrefix_append_cases {bytes first second : List UInt8} (h : bytes <+: first ++ second) :
    (bytes <+: first ∧ bytes ≠ first) ∨ ∃ rest, bytes = first ++ rest ∧ rest <+: second := by
  rcases List.prefix_or_prefix_of_prefix h (List.prefix_append first second) with
    hfirst | ⟨rest, rfl⟩
  · by_cases heq : bytes = first
    · exact Or.inr ⟨[], by rw [heq, List.append_nil], List.nil_prefix⟩
    · exact Or.inl ⟨hfirst, heq⟩
  · exact Or.inr ⟨rest, rfl, (List.prefix_append_right_inj first).1 h⟩

theorem length_lt_of_isPrefix {bytes whole : List UInt8} (h : bytes <+: whole)
    (hne : bytes ≠ whole) : bytes.length < whole.length :=
  Nat.lt_of_le_of_ne h.length_le fun hlen => hne (h.eq_of_length hlen)

/-- **Of a record that is cut off no event is read.** -/
theorem record_of_isPrefix {e : Event} (h : e.encode.length < 2 ^ 64) (offset : Nat)
    {bytes : List UInt8} (hbytes : bytes <+: encodeRecord e) (hne : bytes ≠ encodeRecord e) :
    record offset bytes = .error (truncation offset e bytes.length) := by
  rcases isPrefix_append_cases hbytes with ⟨hnumber, hcut⟩ | ⟨rest, rfl, hrest⟩
  · have hlen := length_lt_of_isPrefix hnumber hcut
    rw [record, varint?_of_isPrefix hnumber hcut, truncation, if_pos hlen]
  · have hcut : rest ≠ e.encode := fun heq => hne (by rw [heq, encodeRecord])
    have hlen := length_lt_of_isPrefix hrest hcut
    rw [record, varint?_encode h]
    simp only [if_pos hlen]
    rw [truncation, List.length_append, if_neg (by omega), Nat.add_sub_cancel_left]

/-! ### Fronts of logs -/

/-- The front of a log with the whole records of the events `done`, and then `rest` of the next
one. -/
inductive Front : List Event → List Event → List UInt8 → Prop
  | whole (es : List Event) : Front es es []
  | cut {e : Event} {rest : List UInt8} (done others : List Event)
    (hrest : rest <+: encodeRecord e) (hne : rest ≠ encodeRecord e) :
    Front (done ++ e :: others) done rest

theorem Front.cons {es done : List Event} {rest : List UInt8} (h : Front es done rest) (e : Event) :
    Front (e :: es) (e :: done) rest := by
  cases h with
  | whole => exact .whole _
  | cut _ others hrest hne => exact .cut (e :: done) others hrest hne

/-- **The front of a log** is so many of its records and the front of the next one. -/
theorem exists_front {es : List Event} {bytes : List UInt8} (h : bytes <+: encode es) :
    ∃ done rest, bytes = encode done ++ rest ∧ Front es done rest := by
  induction es generalizing bytes with
  | nil => exact ⟨[], [], List.prefix_nil.1 h, .whole []⟩
  | cons e es ih =>
    rw [encode_cons] at h
    rcases isPrefix_append_cases h with ⟨hrecord, hcut⟩ | ⟨others, rfl, hothers⟩
    · exact ⟨[], bytes, rfl, .cut [] es hrecord hcut⟩
    · obtain ⟨done, rest, rfl, hfront⟩ := ih hothers
      refine ⟨e :: done, rest, ?_, hfront.cons e⟩
      rw [encode_cons, List.append_assoc]

/-- So many records of a log are complete in some bytes, and no more. -/
def Complete (es : List Event) (bytes : List UInt8) (k : Nat) : Prop :=
  k ≤ es.length ∧ ∀ j ≤ es.length, encode (es.take j) <+: bytes ↔ j ≤ k

/-- Some bytes end where a record of a log ends, or with nothing of it. -/
def EndsAtRecord (es : List Event) (bytes : List UInt8) : Prop :=
  ∃ j ≤ es.length, bytes = encode (es.take j)

theorem encode_isPrefix {done es : List Event} (h : done <+: es) : encode done <+: encode es := by
  obtain ⟨others, rfl⟩ := h
  rw [encode_append]
  exact List.prefix_append _ _

theorem Front.isPrefix {es done : List Event} {rest : List UInt8} (h : Front es done rest) :
    done <+: es := by
  cases h with
  | whole => exact List.prefix_rfl
  | cut _ others => exact List.prefix_append _ _

/-- Events whose records are all in the front of a log are among its whole ones. -/
theorem Front.isPrefix_of_encode {es done others : List Event} {rest : List UInt8}
    (h : Front es done rest) (hothers : others <+: es)
    (hencode : encode others <+: encode done ++ rest) : others <+: done := by
  cases h with
  | whole => exact hothers
  | @cut e _ _ tail hrest hne =>
    rcases List.prefix_or_prefix_of_prefix hothers (List.prefix_append done (e :: tail)) with
      hshort | ⟨more, rfl⟩
    · exact hshort
    · rw [List.prefix_append_right_inj] at hothers
      rcases List.prefix_cons_iff.1 hothers with rfl | ⟨more, rfl, _⟩
      · rw [List.append_nil]
      · -- The record that is cut off would have to be whole in `rest`.
        rw [encode_append, List.prefix_append_right_inj, encode_cons] at hencode
        have hrecord : encodeRecord e <+: rest := (List.prefix_append _ _).trans hencode
        exact absurd (hrest.eq_of_length_le hrecord.length_le) hne

theorem Front.complete {es done : List Event} {rest : List UInt8} (h : Front es done rest) :
    Complete es (encode done ++ rest) done.length := by
  refine ⟨h.isPrefix.length_le, fun j hj => ⟨fun hencode => ?_, fun hle => ?_⟩⟩
  · have hlen := (h.isPrefix_of_encode (List.take_prefix j es) hencode).length_le
    rwa [List.length_take, Nat.min_eq_left hj] at hlen
  · have hdone : es.take j <+: done :=
      List.prefix_of_prefix_length_le (List.take_prefix j es) h.isPrefix
        (Nat.le_trans (List.length_take_le j es) hle)
    exact (encode_isPrefix hdone).trans (List.prefix_append _ _)

theorem Front.endsAtRecord_iff {es done : List Event} {rest : List UInt8} (h : Front es done rest) :
    EndsAtRecord es (encode done ++ rest) ↔ rest = [] := by
  constructor
  · rintro ⟨j, -, hbytes⟩
    have hdone := h.isPrefix_of_encode (List.take_prefix j es) (hbytes ▸ List.prefix_rfl)
    have hlen := (encode_isPrefix hdone).length_le
    rw [← hbytes, List.length_append] at hlen
    exact List.eq_nil_of_length_eq_zero (by omega)
  · rintro rfl
    refine ⟨done.length, h.isPrefix.length_le, ?_⟩
    rw [List.append_nil, ← List.prefix_iff_eq_take.1 h.isPrefix]

/-! ### Reading a log and its fronts -/

theorem ofBytes_encode {es : List Event} (h : ∀ e ∈ es, e.encode.length < 2 ^ 64) :
    ofBytes (encode es) = ⟨es, none⟩ := by
  have hread := readFrom_encode h 0 []
  rw [readFrom_nil] at hread
  simp only [List.append_nil] at hread
  exact hread

/-- A front that ends inside a record has the defect of that record. -/
theorem Front.ofBytes_eq {es done : List Event} {rest : List UInt8} (h : Front es done rest)
    (hlen : ∀ e ∈ es, e.encode.length < 2 ^ 64) (hne : rest ≠ []) :
    ∃ e, es[done.length]? = some e ∧
      ofBytes (encode done ++ rest) =
        ⟨done, some (truncation (encode done).length e rest.length)⟩ := by
  cases h with
  | whole => exact absurd rfl hne
  | @cut e _ _ others hrest hcut =>
    refine ⟨e, ?_, ?_⟩
    · rw [List.getElem?_append_right (Nat.le_refl _), Nat.sub_self, List.getElem?_cons_zero]
    · have hrecord := record_of_isPrefix (hlen e List.mem_append_cons_self) (encode done).length
        hrest hcut
      rw [ofBytes, readFrom_encode fun e' he' => hlen e' (List.mem_append_left _ he'), Nat.zero_add,
        readFrom_of_record_eq_error hne hrecord, List.append_nil]

theorem yields_of_ofBytes_eq {bytes : List UInt8} {log : EventLog} (h : ofBytes bytes = log) :
    Reader.Yields (.start bytes) log.items :=
  Reader.yields_iff.2 (h ▸ rfl)

theorem yields_encode {es : List Event} (h : ∀ e ∈ es, e.encode.length < 2 ^ 64) :
    Reader.Yields (.start (encode es)) (es.map .ok) := by
  have hyields := yields_of_ofBytes_eq (ofBytes_encode h)
  rw [items, Option.toList_none, List.map_nil, List.append_nil] at hyields
  exact hyields

/-- **A log is read as it was written, and a front of it up to the last whole record.** The events
whose records are whole come in their order. If the bytes end with a record, that is all. If they
end inside a record, one defect follows, of the record that is cut off. -/
theorem read_isPrefix_encode {es : List Event} (h : ∀ e ∈ es, e.encode.length < 2 ^ 64) :
    (ofBytes (encode es) = ⟨es, none⟩ ∧ Reader.Yields (.start (encode es)) (es.map .ok)) ∧
    ∀ bytes, bytes <+: encode es → ∃ k, Complete es bytes k ∧
      (EndsAtRecord es bytes → ofBytes bytes = ⟨es.take k, none⟩ ∧
        Reader.Yields (.start bytes) ((es.take k).map .ok)) ∧
      (¬EndsAtRecord es bytes → ∃ e defect, es[k]? = some e ∧
        defect = truncation (encode (es.take k)).length e
          (bytes.length - (encode (es.take k)).length) ∧
        ofBytes bytes = ⟨es.take k, some defect⟩ ∧
        Reader.Yields (.start bytes) ((es.take k).map .ok ++ [.error defect])) := by
  refine ⟨⟨ofBytes_encode h, yields_encode h⟩, fun bytes hbytes => ?_⟩
  obtain ⟨done, rest, rfl, hfront⟩ := exists_front hbytes
  have htake : es.take done.length = done := (List.prefix_iff_eq_take.1 hfront.isPrefix).symm
  refine ⟨done.length, hfront.complete, fun hends => ?_, fun hends => ?_⟩
  · rw [hfront.endsAtRecord_iff.1 hends, List.append_nil, htake]
    have hdone : ∀ e ∈ done, e.encode.length < 2 ^ 64 :=
      fun e he => h e (hfront.isPrefix.subset he)
    exact ⟨ofBytes_encode hdone, yields_encode hdone⟩
  · obtain ⟨e, he, hread⟩ := hfront.ofBytes_eq h (mt hfront.endsAtRecord_iff.2 hends)
    rw [htake, List.length_append, Nat.add_sub_cancel_left]
    exact ⟨e, _, he, rfl, hread, yields_of_ofBytes_eq hread⟩

/-- A set of files, and a target that was completed with it. -/
def sample : List Event :=
  [⟨some ⟨none, some "0"⟩, none, some ⟨["a.json"], []⟩⟩,
    ⟨some ⟨some ⟨"//:a", "driver"⟩, none⟩, some ⟨true, [⟨"files", ["0"]⟩]⟩, none⟩]

theorem read_sample :
    (∀ e ∈ sample, e.encode.length < 2 ^ 64) ∧ ofBytes (encode sample) = ⟨sample, none⟩ ∧
      Reader.Yields (.start (encode sample)) (sample.map .ok) := by
  have hlen : ∀ e ∈ sample, e.encode.length < 2 ^ 64 := by decide +kernel
  exact ⟨hlen, (read_isPrefix_encode hlen).1⟩

end EventLog
end Build
end PackageListing
