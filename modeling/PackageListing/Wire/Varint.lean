/-
# Numbers of variable length

A number of 64 bits is written in groups of seven bits, the lowest first; the high bit of a byte
says that another follows. It takes at most ten bytes, and the tenth has room for one bit.
-/

namespace PackageListing
namespace Wire

/-- The place of the last byte that a number may have. -/
def lastPlace : Nat := 9

/-- Reads the bytes of a number from a place on. -/
def varintFrom (place : Nat) : List UInt8 → Option (Nat × List UInt8)
  | [] => none
  | b :: rest =>
    if place = lastPlace ∧ 2 ≤ b then none
    else if b < 128 then some (b.toNat, rest)
    else (varintFrom (place + 1) rest).map fun p => (b.toNat % 128 + 128 * p.1, p.2)

/-- The number at the front of some bytes, and what follows it. -/
def varint? (bytes : List UInt8) : Option (Nat × List UInt8) :=
  varintFrom 0 bytes

theorem length_varintFrom {place : Nat} {bytes : List UInt8} {p : Nat × List UInt8}
    (h : varintFrom place bytes = some p) : p.2.length < bytes.length := by
  induction bytes generalizing place p with
  | nil => simp [varintFrom] at h
  | cons b rest ih =>
    simp only [varintFrom] at h
    split at h
    · simp at h
    split at h
    · simp only [Option.some.injEq] at h; subst h; simp
    · obtain ⟨q, hq, rfl⟩ := Option.map_eq_some_iff.1 h
      have := ih hq
      simp only [List.length_cons]; omega

theorem length_varint? {bytes : List UInt8} {p : Nat × List UInt8} (h : varint? bytes = some p) :
    p.2.length < bytes.length :=
  length_varintFrom h

end Wire
end PackageListing
