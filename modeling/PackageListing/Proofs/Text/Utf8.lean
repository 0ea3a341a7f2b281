/-
# What the bytes of a text say

The bytes of a text (`encode`) denote that text and no other (`text?_encode`): the code of a
character is read back whatever follows it. The order of the bytes is that of the code points
(`encode_lt_encode_iff`), for the first byte of a code grows with the length of the code, and
codes of one length hold the digits of the code point to the base 64. So names that increase by
code points increase by bytes, too.
-/

import PackageListing.Names.Sorted
import PackageListing.Text.Utf8

namespace PackageListing
namespace Text

theorem toNat_ofNat_of_lt {n : Nat} (h : n < 256) : (UInt8.ofNat n).toNat = n := by
  rw [UInt8.toNat_ofNat']
  exact Nat.mod_eq_of_lt h

/-! ### Reading back -/

theorem isContinuation_ofNat (n : Nat) : isContinuation (UInt8.ofNat (n % 64 + 128)) = true := by
  simp only [isContinuation, UInt8.le_iff_toNat_le, UInt8.reduceToNat, Bool.and_eq_true,
    decide_eq_true_eq]
  rw [toNat_ofNat_of_lt (by omega)]
  omega

theorem payload_ofNat (n : Nat) : payload (UInt8.ofNat (n % 64 + 128)) = n % 64 := by
  rw [payload, toNat_ofNat_of_lt (by omega)]
  omega

/-- Codes of three bytes are neither too long nor those of surrogates. -/
theorem secondOfThree_ofNat {n : Nat} (hlow : 0x800 ≤ n) (hhigh : n ≤ 0xffff)
    (hvalid : n < 0xd800 ∨ 0xdfff < n) :
    secondOfThree (UInt8.ofNat (n / 4096 % 16 + 224)) (UInt8.ofNat (n / 64 % 64 + 128)) = true := by
  rw [secondOfThree, isContinuation_ofNat]
  simp only [← UInt8.toNat_inj, UInt8.le_iff_toNat_le, UInt8.reduceToNat]
  rw [toNat_ofNat_of_lt (by omega), toNat_ofNat_of_lt (by omega)]
  split
  · simp only [Bool.and_eq_true, decide_eq_true_eq]
    omega
  · split
    · simp only [Bool.and_eq_true, decide_eq_true_eq]
      omega
    · rfl

/-- Codes of four bytes are neither too long nor beyond the last character. -/
theorem secondOfFour_ofNat {n : Nat} (hlow : 0xffff < n) (hhigh : n < 0x110000) :
    secondOfFour (UInt8.ofNat (n / 262144 % 8 + 240)) (UInt8.ofNat (n / 4096 % 64 + 128)) =
      true := by
  rw [secondOfFour, isContinuation_ofNat]
  simp only [← UInt8.toNat_inj, UInt8.le_iff_toNat_le, UInt8.reduceToNat]
  rw [toNat_ofNat_of_lt (by omega), toNat_ofNat_of_lt (by omega)]
  split
  · simp only [Bool.and_eq_true, decide_eq_true_eq]
    omega
  · split
    · simp only [Bool.and_eq_true, decide_eq_true_eq]
      omega
    · rfl

theorem char_bounds (c : Char) :
    c.val.toNat < 0xd800 ∨ 0xdfff < c.val.toNat ∧ c.val.toNat < 0x110000 :=
  c.valid

/-- **The code of a character is read back,** whatever follows it. -/
theorem decodeFrom_utf8EncodeChar (c : Char) (rest : List UInt8) :
    ∃ a bytes, String.utf8EncodeChar c = a :: bytes ∧
      decodeFrom a (bytes ++ rest) = (some c, rest) := by
  have hc := char_bounds c
  have hchar : ∀ {n : Nat}, n = c.val.toNat → Char.ofNat n = c := fun h => by
    rw [h]; exact Char.ofNat_toNat c
  fun_cases String.utf8EncodeChar c with
  | case1 v h =>
    refine ⟨_, _, rfl, ?_⟩
    simp only [decodeFrom, UInt8.lt_iff_toNat_lt, UInt8.reduceToNat, List.nil_append]
    rw [toNat_ofNat_of_lt (by omega), if_pos (by omega), hchar rfl]
  | case2 v h h' =>
    refine ⟨_, _, rfl, ?_⟩
    simp only [decodeFrom, UInt8.lt_iff_toNat_lt, UInt8.le_iff_toNat_le, UInt8.reduceToNat,
      Bool.and_eq_true, decide_eq_true_eq, List.cons_append, List.nil_append]
    rw [toNat_ofNat_of_lt (by omega), if_neg (by omega), if_pos (by omega),
      if_pos (isContinuation_ofNat v), payload_ofNat, hchar (by omega)]
  | case3 v h h' h'' =>
    refine ⟨_, _, rfl, ?_⟩
    have hsecond := secondOfThree_ofNat (n := v) (by omega) h'' (by omega)
    simp only [decodeFrom, UInt8.lt_iff_toNat_lt, UInt8.le_iff_toNat_le, UInt8.reduceToNat,
      Bool.and_eq_true, decide_eq_true_eq, List.cons_append, List.nil_append]
    rw [toNat_ofNat_of_lt (by omega), if_neg (by omega), if_neg (by omega), if_pos (by omega),
      if_pos hsecond, if_pos (isContinuation_ofNat v), payload_ofNat, payload_ofNat,
      hchar (by omega)]
  | case4 v h h' h'' =>
    refine ⟨_, _, rfl, ?_⟩
    have hsecond := secondOfFour_ofNat (n := v) (by omega) (by omega)
    simp only [decodeFrom, UInt8.lt_iff_toNat_lt, UInt8.le_iff_toNat_le, UInt8.reduceToNat,
      Bool.and_eq_true, decide_eq_true_eq, List.cons_append, List.nil_append]
    rw [toNat_ofNat_of_lt (by omega), if_neg (by omega), if_neg (by omega), if_neg (by omega),
      if_pos (by omega), if_pos hsecond, if_pos (isContinuation_ofNat (v / 64)),
      if_pos (isContinuation_ofNat v), payload_ofNat, payload_ofNat, payload_ofNat,
      hchar (by omega)]

theorem encode_cons (c : Char) (s : List Char) :
    encode (c :: s) = String.utf8EncodeChar c ++ encode s :=
  List.flatMap_cons

theorem decode_encode (s : List Char) : decode (encode s) = s.map some := by
  induction s with
  | nil => rw [encode, List.flatMap_nil, decode, List.map_nil]
  | cons c s ih =>
    obtain ⟨a, bytes, hcode, hread⟩ := decodeFrom_utf8EncodeChar c (encode s)
    rw [encode_cons, hcode, List.cons_append, decode, hread, ih, List.map_cons]

/-- **The bytes of a text denote that text.** -/
theorem text?_encode (s : List Char) : text? (encode s) = some s := by
  rw [text?, decode_encode]
  induction s with
  | nil => rfl
  | cons c s ih =>
    rw [List.map_cons, List.mapM_cons, ih]
    rfl

/-! ### The order of the bytes -/

/-- A smaller number has the smaller digits to the base 64, the highest first. -/
theorem digits_lt {n m : Nat} (h : n < m) :
    n / 262144 < m / 262144 ∨ n / 262144 = m / 262144 ∧
      (n / 4096 % 64 < m / 4096 % 64 ∨ n / 4096 % 64 = m / 4096 % 64 ∧
        (n / 64 % 64 < m / 64 % 64 ∨ n / 64 % 64 = m / 64 % 64 ∧ n % 64 < m % 64)) := by
  by_cases h1 : n / 262144 = m / 262144
  · refine Or.inr ⟨h1, ?_⟩
    by_cases h2 : n / 4096 = m / 4096
    · refine Or.inr ⟨by rw [h2], ?_⟩
      by_cases h3 : n / 64 = m / 64
      · exact Or.inr ⟨by rw [h3], by omega⟩
      · exact Or.inl (by omega)
    · exact Or.inl (by omega)
  · exact Or.inl (by omega)

theorem ofNat_lt_ofNat_iff {n m : Nat} (hn : n < 256) (hm : m < 256) :
    UInt8.ofNat n < UInt8.ofNat m ↔ n < m := by
  rw [UInt8.lt_iff_toNat_lt, toNat_ofNat_of_lt hn, toNat_ofNat_of_lt hm]

theorem ofNat_eq_ofNat_iff {n m : Nat} (hn : n < 256) (hm : m < 256) :
    UInt8.ofNat n = UInt8.ofNat m ↔ n = m := by
  rw [← UInt8.toNat_inj, toNat_ofNat_of_lt hn, toNat_ofNat_of_lt hm]

/-- **The smaller character has the smaller code,** whatever follows the codes. -/
theorem utf8EncodeChar_append_lt {c d : Char} (h : c < d) (x y : List UInt8) :
    String.utf8EncodeChar c ++ x < String.utf8EncodeChar d ++ y := by
  have hlt : c.val.toNat < d.val.toNat := UInt32.lt_iff_toNat_lt.1 h
  have hd := char_bounds d
  have hdigits := digits_lt hlt
  have htop : c.val.toNat / 262144 < 8 ∧ d.val.toNat / 262144 < 8 := by omega
  -- Codes of different lengths differ in their first bytes, codes of one length in their digits.
  fun_cases String.utf8EncodeChar c <;> fun_cases String.utf8EncodeChar d <;>
    simp +zetaDelta (disch := omega) only [List.cons_append, List.nil_append,
      List.cons_lt_cons_iff, ofNat_lt_ofNat_iff, ofNat_eq_ofNat_iff] <;>
    omega

theorem encode_lt_encode {s t : List Char} (h : s < t) : encode s < encode t := by
  induction s generalizing t with
  | nil =>
    cases t with
    | nil => exact absurd h (List.not_lt_nil _)
    | cons d t =>
      obtain ⟨b, bytes, hcode, _⟩ := decodeFrom_utf8EncodeChar d []
      rw [encode_cons, hcode, encode, List.flatMap_nil, List.cons_append]
      exact List.nil_lt_cons b _
  | cons c s ih =>
    cases t with
    | nil => exact absurd h (List.not_lt_nil _)
    | cons d t =>
      rw [encode_cons, encode_cons]
      rcases List.cons_lt_cons_iff.1 h with hcd | ⟨rfl, hst⟩
      · exact utf8EncodeChar_append_lt hcd _ _
      · exact List.append_left_lt (ih hst)

/-- **The order of names is the order of their bytes.** -/
theorem encode_lt_encode_iff {a b : String} : encode a.toList < encode b.toList ↔ a < b := by
  constructor
  · intro h
    rcases Std.lt_trichotomy a b with hab | rfl | hba
    · exact hab
    · exact absurd h (List.lt_irrefl _)
    · exact absurd h (List.lt_asymm (encode_lt_encode hba))
  · exact fun h => encode_lt_encode h

end Text
end PackageListing
