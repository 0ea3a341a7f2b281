/-
# Writing numbers of variable length

The bytes of a number are its digits to the base 128, the lowest first and all but the last
marked (`encodeVarint`). A number of 64 bits is read back from its bytes, whatever follows them
(`varint?_encode`); from fewer bytes no number is read (`varint?_of_isPrefix`). And no number that
is read has more bits than the places left make room for (`varintFrom_lt`).

A number may also be written with digits that are nought at its end (`Spells`). Read are just the
numbers of 64 bits that take ten bytes at most (`varint?_eq_some_iff`).
-/

import Mathlib.Algebra.Ring.Nat
import PackageListing.Proofs.Text.Utf8
import PackageListing.Wire.Varint

namespace PackageListing
namespace Wire

/-- The bytes of a number. -/
def encodeVarint (n : Nat) : List UInt8 :=
  if n < 128 then [UInt8.ofNat n] else UInt8.ofNat (n % 128 + 128) :: encodeVarint (n / 128)

theorem encodeVarint_of_lt {n : Nat} (h : n < 128) : encodeVarint n = [UInt8.ofNat n] := by
  rw [encodeVarint, if_pos h]

theorem encodeVarint_of_le {n : Nat} (h : 128 ≤ n) :
    encodeVarint n = UInt8.ofNat (n % 128 + 128) :: encodeVarint (n / 128) := by
  rw [encodeVarint, if_neg (Nat.not_lt.2 h)]

theorem encodeVarint_ne_nil (n : Nat) : encodeVarint n ≠ [] := by
  rw [encodeVarint]
  split
  · exact List.cons_ne_nil _ _
  · exact List.cons_ne_nil _ _

/-- A number read from a place on is below the power of two that the places left make room
for. -/
theorem varintFrom_lt {place : Nat} {bytes : List UInt8} {p : Nat × List UInt8}
    (hplace : place ≤ lastPlace) (h : varintFrom place bytes = some p) :
    p.1 < 2 ^ (7 * (lastPlace - place) + 1) := by
  induction bytes generalizing place p with
  | nil => simp [varintFrom] at h
  | cons b rest ih =>
    simp only [varintFrom] at h
    split at h
    · simp at h
    next hlast =>
    have hb : place = lastPlace → b.toNat < 2 := fun hp => by
      have : ¬2 ≤ b := fun hle => hlast ⟨hp, hle⟩
      rw [UInt8.le_iff_toNat_le] at this
      have h2 : (2 : UInt8).toNat = 2 := rfl
      omega
    split at h
    · next hlow =>
      simp only [Option.some.injEq] at h
      subst h
      rw [UInt8.lt_iff_toNat_lt] at hlow
      have h128 : (128 : UInt8).toNat = 128 := rfl
      by_cases hp : place = lastPlace
      · subst hp; simpa using hb rfl
      · have : 7 * 1 + 1 ≤ 7 * (lastPlace - place) + 1 := by unfold lastPlace at *; omega
        have := Nat.pow_le_pow_right (n := 2) (by omega) this
        simp only; omega
    · next hhigh =>
      obtain ⟨q, hq, rfl⟩ := Option.map_eq_some_iff.1 h
      by_cases hp : place = lastPlace
      · have := hb hp
        rw [UInt8.lt_iff_toNat_lt] at hhigh
        have h128 : (128 : UInt8).toNat = 128 := rfl
        omega
      · have hlt : place + 1 ≤ lastPlace := by unfold lastPlace at *; omega
        have := ih hlt hq
        have hexp : 7 * (lastPlace - place) + 1 = 7 * (lastPlace - (place + 1)) + 1 + 7 := by omega
        rw [hexp, Nat.pow_add]
        simp only; omega

/-- The last byte of a number is read. -/
theorem varintFrom_low {place n : Nat} (rest : List UInt8) (hn : n < 128)
    (hlast : place = lastPlace → n < 2) :
    varintFrom place (UInt8.ofNat n :: rest) = some (n, rest) := by
  have hb := Text.toNat_ofNat_of_lt (n := n) (by omega)
  rw [varintFrom, if_neg, if_pos, hb]
  · rw [UInt8.lt_iff_toNat_lt, hb]
    exact hn
  · rintro ⟨hplace, hle⟩
    rw [UInt8.le_iff_toNat_le, hb] at hle
    exact absurd (hlast hplace) (Nat.not_lt.2 hle)

/-- After a marked byte the reading goes on. -/
theorem varintFrom_high {place n : Nat} (rest : List UInt8) (hplace : place ≠ lastPlace) :
    varintFrom place (UInt8.ofNat (n % 128 + 128) :: rest) =
      (varintFrom (place + 1) rest).map fun p => (n % 128 + 128 * p.1, p.2) := by
  have hb := Text.toNat_ofNat_of_lt (n := n % 128 + 128) (by omega)
  rw [varintFrom, if_neg fun h => hplace h.1, if_neg, hb, Nat.add_mod_right, Nat.mod_mod]
  rw [UInt8.lt_iff_toNat_lt, hb]
  exact Nat.not_lt.2 (Nat.le_add_left 128 _)

theorem varintFrom_encode {place n : Nat} (rest : List UInt8) (hplace : place ≤ lastPlace)
    (hn : n < 2 ^ (7 * (lastPlace - place) + 1)) :
    varintFrom place (encodeVarint n ++ rest) = some (n, rest) := by
  induction n using Nat.strongRecOn generalizing place with
  | _ n ih =>
    have htwo : place = lastPlace → n < 2 := fun h => by
      rw [h, Nat.sub_self] at hn
      exact hn
    by_cases hlow : n < 128
    · rw [encodeVarint_of_lt hlow, List.singleton_append, varintFrom_low rest hlow htwo]
    · have hne : place ≠ lastPlace := fun h => hlow (Nat.lt_trans (htwo h) (by decide))
      have hlt : place + 1 ≤ lastPlace := Nat.lt_of_le_of_ne hplace hne
      have hexp : 7 * (lastPlace - place) + 1 = 7 * (lastPlace - (place + 1)) + 1 + 7 := by omega
      have hrest : n / 128 < 2 ^ (7 * (lastPlace - (place + 1)) + 1) := by
        rw [hexp, Nat.pow_add] at hn
        exact Nat.div_lt_of_lt_mul (Nat.mul_comm .. ▸ hn)
      rw [encodeVarint_of_le (Nat.not_lt.1 hlow), List.cons_append, varintFrom_high _ hne,
        ih (n / 128) (by omega) hlt hrest, Option.map_some, Nat.mod_add_div]

/-- **A number is read back from its bytes,** whatever follows them. -/
theorem varint?_encode {n : Nat} (hn : n < 2 ^ 64) (rest : List UInt8) :
    varint? (encodeVarint n ++ rest) = some (n, rest) :=
  varintFrom_encode rest (Nat.zero_le _) hn

theorem varintFrom_of_isPrefix {place n : Nat} {bytes : List UInt8}
    (h : bytes <+: encodeVarint n) (hne : bytes ≠ encodeVarint n) :
    varintFrom place bytes = none := by
  induction n using Nat.strongRecOn generalizing place bytes with
  | _ n ih =>
    by_cases hlow : n < 128
    · rw [encodeVarint_of_lt hlow] at h hne
      rcases List.prefix_cons_iff.1 h with rfl | ⟨t, rfl, ht⟩
      · rfl
      · rw [List.prefix_nil.1 ht] at hne
        exact absurd rfl hne
    · rw [encodeVarint_of_le (Nat.not_lt.1 hlow)] at h hne
      rcases List.prefix_cons_iff.1 h with rfl | ⟨t, rfl, ht⟩
      · rfl
      · have hrest : t ≠ encodeVarint (n / 128) := fun h => hne (h ▸ rfl)
        by_cases hplace : place = lastPlace
        · have hmarked : (2 : UInt8) ≤ UInt8.ofNat (n % 128 + 128) := by
            rw [UInt8.le_iff_toNat_le, Text.toNat_ofNat_of_lt (by omega)]
            exact Nat.le_trans (by decide) (Nat.le_add_left 128 _)
          rw [varintFrom, if_pos ⟨hplace, hmarked⟩]
        · rw [varintFrom_high t hplace, ih (n / 128) (by omega) ht hrest, Option.map_none]

/-- **From less than its bytes no number is read.** -/
theorem varint?_of_isPrefix {n : Nat} {bytes : List UInt8} (h : bytes <+: encodeVarint n)
    (hne : bytes ≠ encodeVarint n) : varint? bytes = none :=
  varintFrom_of_isPrefix h hne

/-! ### Which bytes are numbers -/

/-- Some bytes are the digits of a number to the base 128, the lowest first and all but the last
marked. -/
inductive Spells : List UInt8 → Nat → Prop
  | last {b : UInt8} (h : b < 128) : Spells [b] b.toNat
  | more {b : UInt8} {bytes : List UInt8} {n : Nat} (h : 128 ≤ b) (hrest : Spells bytes n) :
      Spells (b :: bytes) (b.toNat % 128 + 128 * n)

/-- Some bytes are a number of 64 bits, with room for them in ten bytes at most. -/
structure IsVarint (bytes : List UInt8) (n : Nat) : Prop where
  spells : Spells bytes n
  length_le : bytes.length ≤ 10
  lt : n < 2 ^ 64

theorem Spells.ne_nil {bytes : List UInt8} {n : Nat} (h : Spells bytes n) : bytes ≠ [] := by
  cases h <;> exact List.cons_ne_nil _ _

theorem spells_of_varintFrom {place n : Nat} {bytes rest : List UInt8} (hplace : place ≤ lastPlace)
    (h : varintFrom place bytes = some (n, rest)) :
    ∃ number, bytes = number ++ rest ∧ Spells number n ∧ place + number.length ≤ 10 := by
  induction bytes generalizing place n with
  | nil => cases h
  | cons b bytes ih =>
    rw [varintFrom] at h
    split at h
    · cases h
    next hlast =>
    split at h
    · next hlow =>
      cases h
      exact ⟨[b], rfl, .last hlow, Nat.succ_le_succ hplace⟩
    · next hhigh =>
      obtain ⟨⟨m, rest'⟩, hmore, heq⟩ := Option.map_eq_some_iff.1 h
      cases heq
      have hmarked : 128 ≤ b := UInt8.not_lt.1 hhigh
      -- The last byte that there is room for is not marked.
      have hne : place ≠ lastPlace := fun hp =>
        hlast ⟨hp, UInt8.le_trans (by decide) hmarked⟩
      obtain ⟨number, rfl, hspells, hlen⟩ := ih (Nat.lt_of_le_of_ne hplace hne) hmore
      refine ⟨b :: number, rfl, .more hmarked hspells, ?_⟩
      rw [List.length_cons]
      omega

theorem Spells.varintFrom_eq {bytes : List UInt8} {n : Nat} (h : Spells bytes n) {place : Nat}
    (hlen : place + bytes.length ≤ 10) (hn : n < 2 ^ (7 * (lastPlace - place) + 1))
    (rest : List UInt8) : varintFrom place (bytes ++ rest) = some (n, rest) := by
  induction h generalizing place with
  | @last b hlow =>
    have hlast : ¬(place = lastPlace ∧ 2 ≤ b) := by
      rintro ⟨rfl, hle⟩
      rw [UInt8.le_iff_toNat_le] at hle
      exact absurd hn (Nat.not_lt.2 hle)
    rw [List.singleton_append, varintFrom, if_neg hlast, if_pos hlow]
  | @more b bytes n hmarked hrest ih =>
    have hpos := List.length_pos_iff.2 hrest.ne_nil
    rw [List.length_cons] at hlen
    have hlast : ¬(place = lastPlace ∧ 2 ≤ b) := fun h => by
      unfold lastPlace at h
      omega
    have hexp : 7 * (lastPlace - place) + 1 = 7 * (lastPlace - (place + 1)) + 1 + 7 := by
      unfold lastPlace
      omega
    have hn' : n < 2 ^ (7 * (lastPlace - (place + 1)) + 1) := by
      rw [hexp, Nat.pow_add] at hn
      omega
    rw [List.cons_append, varintFrom, if_neg hlast, if_neg (UInt8.not_lt.2 hmarked),
      ih (by omega) hn', Option.map_some]

/-- **Read are just the numbers of 64 bits** that take ten bytes at most. -/
theorem varint?_eq_some_iff {bytes rest : List UInt8} {n : Nat} :
    varint? bytes = some (n, rest) ↔ ∃ number, bytes = number ++ rest ∧ IsVarint number n := by
  constructor
  · intro h
    obtain ⟨number, rfl, hspells, hlen⟩ := spells_of_varintFrom (Nat.zero_le _) h
    rw [Nat.zero_add] at hlen
    exact ⟨number, rfl, hspells, hlen, varintFrom_lt (Nat.zero_le _) h⟩
  · rintro ⟨number, rfl, hnumber⟩
    exact hnumber.spells.varintFrom_eq (by rw [Nat.zero_add]; exact hnumber.length_le)
      hnumber.lt rest

end Wire
end PackageListing
