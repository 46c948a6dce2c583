import ResponsiveStyles.Text.Units

/-!
# Fingerprints

A fingerprint is a number of 53 bits that depends on a text and a seed. Two lanes of 32 bits take in
the text one UTF-16 unit after the other; the lanes are then mixed, and the lower 21 bits of the
second stand above the 32 bits of the first.
-/
namespace ResponsiveStyles

structure Lanes where
  first : UInt32
  second : UInt32
deriving DecidableEq, Repr

namespace Lanes

def start (seed : UInt32) : Lanes :=
  ⟨0xdeadbeef ^^^ seed, 0x41c6ce57 ^^^ seed⟩

def absorb (l : Lanes) (u : UInt16) : Lanes :=
  { first := (l.first ^^^ u.toUInt32) * 2654435761
    second := (l.second ^^^ u.toUInt32) * 1597334677 }

/-- One half of the mixing: it depends on the upper bits of both lanes. -/
def stir (a b : UInt32) : UInt32 :=
  (a ^^^ (a >>> 16)) * (2246822507 : UInt32) ^^^ (b ^^^ (b >>> 13)) * (3266489909 : UInt32)

def mix (l : Lanes) : Lanes :=
  let first := stir l.first l.second
  ⟨first, stir l.second first⟩

/-- The number of 53 bits that two mixed lanes make up. -/
def value (l : Lanes) : UInt64 :=
  ((l.second &&& 0x1fffff).toUInt64 <<< 32) ||| l.first.toUInt64

theorem toNat_value (l : Lanes) :
    l.value.toNat = 0x100000000 * (l.second.toNat % 0x200000) + l.first.toNat := by
  have hlow : (l.second &&& 0x1fffff).toNat = l.second.toNat % 0x200000 := by
    rw [UInt32.toNat_and]
    exact Nat.and_two_pow_sub_one_eq_mod l.second.toNat 21
  have hfirst : l.first.toNat < 0x100000000 := l.first.toNat_lt
  have hbound : l.second.toNat % 0x200000 * 0x100000000 < 0x10000000000000000 := by omega
  have h32 : (32 : UInt64).toNat % 64 = 32 := rfl
  rw [value, UInt64.toNat_or, UInt64.toNat_shiftLeft, UInt32.toNat_toUInt64, UInt32.toNat_toUInt64,
    hlow, h32, Nat.shiftLeft_eq, Nat.mod_eq_of_lt hbound, Nat.mul_comm]
  exact (Nat.two_pow_add_eq_or_of_lt (i := 32) hfirst _).symm

end Lanes

def fingerprint (text : Text) (seed : UInt32) : UInt64 :=
  ((text.units.foldl Lanes.absorb (Lanes.start seed)).mix).value

end ResponsiveStyles
