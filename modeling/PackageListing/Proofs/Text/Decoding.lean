/-
# What bytes are read as

Where a character is read, its code stands (`Reads.eq_append`): of the ways to read one
(`reads_of_decodeFrom`) each takes up the bytes that the character is written with. So just the
bytes of a text denote it (`text?_eq_some_iff`).

Bytes that are no text are read as well, with gaps. A byte below `80` does not continue a character,
so what is read breaks off before it (`decodeFrom_append`), and any bytes may be cut there and read
piece by piece (`decode_append`, `lossyText_append`).
-/

import PackageListing.Proofs.Text.Utf8

namespace PackageListing
namespace Text

/-! ### Just the code of a character is read as it -/

/-- What is read at the byte `a` with `rest` after it, where it is a character. -/
inductive Reads (a : UInt8) : List UInt8 → Char → List UInt8 → Prop
  | one {rest : List UInt8} (ha : a.toNat ≤ 127) : Reads a rest (Char.ofNat a.toNat) rest
  | two {b : UInt8} {rest : List UInt8} (hlow : 194 ≤ a.toNat) (hhigh : a.toNat ≤ 223)
      (hb : isContinuation b = true) :
      Reads a (b :: rest) (Char.ofNat (a.toNat % 32 * 64 + payload b)) rest
  | three {b d : UInt8} {rest : List UInt8} (hlow : 224 ≤ a.toNat) (hhigh : a.toNat ≤ 239)
      (hb : secondOfThree a b = true) (hd : isContinuation d = true) :
      Reads a (b :: d :: rest)
        (Char.ofNat ((a.toNat % 16 * 64 + payload b) * 64 + payload d)) rest
  | four {b d e : UInt8} {rest : List UInt8} (hlow : 240 ≤ a.toNat) (hhigh : a.toNat ≤ 244)
      (hb : secondOfFour a b = true) (hd : isContinuation d = true)
      (he : isContinuation e = true) :
      Reads a (b :: d :: e :: rest)
        (Char.ofNat (((a.toNat % 8 * 64 + payload b) * 64 + payload d) * 64 + payload e)) rest

section

variable {a b : UInt8} {c : Char} {rest rest' : List UInt8}

theorem isContinuation_iff : isContinuation b = true ↔ 128 ≤ b.toNat ∧ b.toNat ≤ 191 := by
  simp only [isContinuation, UInt8.le_iff_toNat_le, UInt8.reduceToNat, Bool.and_eq_true,
    decide_eq_true_eq]

theorem secondOfThree_iff : secondOfThree a b = true ↔
    128 ≤ b.toNat ∧ b.toNat ≤ 191 ∧ (a.toNat = 224 → 160 ≤ b.toNat) ∧
      (a.toNat = 237 → b.toNat ≤ 159) := by
  simp only [secondOfThree, ← UInt8.toNat_inj, UInt8.le_iff_toNat_le, UInt8.reduceToNat]
  split
  · simp only [Bool.and_eq_true, decide_eq_true_eq]
    omega
  · split
    · simp only [Bool.and_eq_true, decide_eq_true_eq]
      omega
    · rw [isContinuation_iff]
      omega

theorem secondOfFour_iff : secondOfFour a b = true ↔
    128 ≤ b.toNat ∧ b.toNat ≤ 191 ∧ (a.toNat = 240 → 144 ≤ b.toNat) ∧
      (a.toNat = 244 → b.toNat ≤ 143) := by
  simp only [secondOfFour, ← UInt8.toNat_inj, UInt8.le_iff_toNat_le, UInt8.reduceToNat]
  split
  · simp only [Bool.and_eq_true, decide_eq_true_eq]
    omega
  · split
    · simp only [Bool.and_eq_true, decide_eq_true_eq]
      omega
    · rw [isContinuation_iff]
      omega

theorem reads_of_decodeFrom (h : decodeFrom a rest = (some c, rest')) : Reads a rest c rest' := by
  simp only [decodeFrom, UInt8.lt_iff_toNat_lt, UInt8.le_iff_toNat_le, UInt8.reduceToNat,
    Bool.and_eq_true, decide_eq_true_eq] at h
  repeat' split at h
  all_goals cases h
  · next hone => exact .one (Nat.le_of_lt_succ hone)
  · next htwo _ _ hb => exact .two htwo.1 htwo.2 hb
  · next hthree _ _ hb _ _ hd => exact .three hthree.1 hthree.2 hb hd
  · next hfour _ _ hb _ _ hd _ _ he => exact .four hfour.1 hfour.2 hb hd he

theorem ofNat_eq_of_toNat {n : Nat} (h : n = b.toNat) : UInt8.ofNat n = b := by
  rw [h, UInt8.ofNat_toNat]

theorem utf8EncodeChar_ofNat {n : Nat} (h : n.isValidChar) :
    String.utf8EncodeChar (Char.ofNat n) =
      if n ≤ 127 then [UInt8.ofNat n]
      else if n ≤ 2047 then [UInt8.ofNat (n / 64 % 32 + 192), UInt8.ofNat (n % 64 + 128)]
      else if n ≤ 65535 then [UInt8.ofNat (n / 4096 % 16 + 224), UInt8.ofNat (n / 64 % 64 + 128),
        UInt8.ofNat (n % 64 + 128)]
      else [UInt8.ofNat (n / 262144 % 8 + 240), UInt8.ofNat (n / 4096 % 64 + 128),
        UInt8.ofNat (n / 64 % 64 + 128), UInt8.ofNat (n % 64 + 128)] := by
  have hval : (Char.ofNat n).val.toNat = n := by
    rw [Char.ofNat, dif_pos h]
    rfl
  rw [String.utf8EncodeChar, hval]

/-- **A character is read from its code,** and from no other bytes. -/
theorem Reads.eq_append (h : Reads a rest c rest') :
    a :: rest = String.utf8EncodeChar c ++ rest' := by
  cases h with
  | one ha =>
    rw [utf8EncodeChar_ofNat (.inl (by omega)), if_pos ha, ofNat_eq_of_toNat rfl]
    rfl
  | @two b _ hlow hhigh hb =>
    rw [isContinuation_iff] at hb
    rw [payload, utf8EncodeChar_ofNat (.inl (by omega)), if_neg (by omega), if_pos (by omega),
      ofNat_eq_of_toNat (b := a) (by omega), ofNat_eq_of_toNat (b := b) (by omega)]
    rfl
  | @three b d _ hlow hhigh hb hd =>
    rw [secondOfThree_iff] at hb
    rw [isContinuation_iff] at hd
    rw [payload, payload, utf8EncodeChar_ofNat (by rw [Nat.isValidChar]; omega),
      if_neg (by omega), if_neg (by omega), if_pos (by omega),
      ofNat_eq_of_toNat (b := a) (by omega), ofNat_eq_of_toNat (b := b) (by omega),
      ofNat_eq_of_toNat (b := d) (by omega)]
    rfl
  | @four b d e _ hlow hhigh hb hd he =>
    rw [secondOfFour_iff] at hb
    rw [isContinuation_iff] at hd he
    rw [payload, payload, payload, utf8EncodeChar_ofNat (by rw [Nat.isValidChar]; omega),
      if_neg (by omega), if_neg (by omega), if_neg (by omega),
      ofNat_eq_of_toNat (b := a) (by omega), ofNat_eq_of_toNat (b := b) (by omega),
      ofNat_eq_of_toNat (b := d) (by omega), ofNat_eq_of_toNat (b := e) (by omega)]
    rfl

theorem eq_encode_of_decode {bytes : List UInt8} {s : List Char} (h : decode bytes = s.map some) :
    bytes = encode s := by
  induction s generalizing bytes with
  | nil =>
    cases bytes with
    | nil => rfl
    | cons a rest =>
      rw [decode] at h
      cases h
  | cons c s ih =>
    cases bytes with
    | nil =>
      rw [decode] at h
      cases h
    | cons a rest =>
      rw [decode, List.map_cons] at h
      obtain ⟨hc, hs⟩ := List.cons.inj h
      rw [encode_cons, ← ih hs]
      exact (reads_of_decodeFrom (Prod.ext hc rfl)).eq_append

theorem mapM_id_eq_some_iff {l : List (Option Char)} {s : List Char} :
    l.mapM id = some s ↔ l = s.map some := by
  induction l generalizing s with
  | nil => cases s <;> simp
  | cons x l ih =>
    rw [List.mapM_cons, Option.bind_eq_bind, Option.bind_eq_some_iff]
    constructor
    · rintro ⟨c, rfl, h⟩
      obtain ⟨s', hs', heq⟩ := Option.bind_eq_some_iff.1 h
      cases heq
      rw [ih.1 hs', List.map_cons]
    · intro h
      cases s with
      | nil => cases h
      | cons c s =>
        obtain ⟨rfl, hl⟩ := List.cons.inj h
        exact ⟨c, rfl, Option.bind_eq_some_iff.2 ⟨s, ih.2 hl, rfl⟩⟩

/-- **Just the bytes of a text denote it.** -/
theorem text?_eq_some_iff {bytes : List UInt8} {s : List Char} :
    text? bytes = some s ↔ bytes = encode s := by
  rw [text?, mapM_id_eq_some_iff]
  constructor
  · exact eq_encode_of_decode
  · rintro rfl
    exact decode_encode s

end

/-! ### Bytes below `80` -/

section

variable {b : UInt8}

theorem isContinuation_of_lt (hb : b < 0x80) : isContinuation b = false := by
  have hnot : ¬0x80 ≤ b := UInt8.not_le.2 hb
  simp [isContinuation, hnot]

theorem secondOfThree_of_lt (hb : b < 0x80) (a : UInt8) : secondOfThree a b = false := by
  rw [Bool.eq_false_iff, ne_eq, secondOfThree_iff]
  intro h
  exact Nat.not_le.2 (UInt8.lt_iff_toNat_lt.1 hb) h.1

theorem secondOfFour_of_lt (hb : b < 0x80) (a : UInt8) : secondOfFour a b = false := by
  rw [Bool.eq_false_iff, ne_eq, secondOfFour_iff]
  intro h
  exact Nat.not_le.2 (UInt8.lt_iff_toNat_lt.1 hb) h.1

/-- What is read breaks off before a byte below `80`. -/
theorem decodeFrom_append (hb : b < 0x80) (a : UInt8) (s rest : List UInt8) :
    decodeFrom a (s ++ b :: rest) = ((decodeFrom a s).1, (decodeFrom a s).2 ++ b :: rest) := by
  have hmore := isContinuation_of_lt hb
  have hthree := secondOfThree_of_lt hb a
  have hfour := secondOfFour_of_lt hb a
  -- At most three bytes are looked at after the first.
  match s with
  | [] => simp only [decodeFrom, List.nil_append, hmore, hthree, hfour]; grind
  | [c] => simp only [decodeFrom, List.cons_append, List.nil_append, hmore]; grind
  | [c, d] => simp only [decodeFrom, List.cons_append, List.nil_append, hmore]; grind
  | c :: d :: e :: s => simp only [decodeFrom, List.cons_append]; grind

/-- **A byte below `80` is a character of its own,** whatever stands before it. -/
theorem decode_append (hb : b < 0x80) (front rest : List UInt8) :
    decode (front ++ b :: rest) =
      decode front ++ some (Char.ofNat b.toNat) :: decode rest := by
  induction hlength : front.length using Nat.strongRecOn generalizing front with
  | ind n ih =>
    cases front with
    | nil =>
      have hchar : decodeFrom b rest = (some (Char.ofNat b.toNat), rest) := if_pos hb
      rw [List.nil_append, decode, decode, hchar, List.nil_append]
    | cons a front =>
      have hlt : (decodeFrom a front).2.length < n := by
        have hle := length_decodeFrom_le a front
        rw [List.length_cons] at hlength
        omega
      rw [List.cons_append, decode, decodeFrom_append hb, decode, ih _ hlt _ rfl,
        List.cons_append]

theorem lossyText_append (hb : b < 0x80) (front rest : List UInt8) :
    lossyText (front ++ b :: rest) =
      lossyText front ++ Char.ofNat b.toNat :: lossyText rest := by
  rw [lossyText, decode_append hb, List.map_append, List.map_cons]
  rfl

end

/-- Of a text nothing is lost. -/
theorem lossyText_encode (s : List Char) : lossyText (encode s) = s := by
  rw [lossyText, decode_encode, List.map_map]
  exact List.map_id s

end Text
end PackageListing
