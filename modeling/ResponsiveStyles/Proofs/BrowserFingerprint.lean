import ResponsiveStyles.Proofs.SurrogatePairs
import ResponsiveStyles.Style.Fingerprint
import Mathlib.Data.Int.Bitwise

/-!
# Fingerprints in a browser

A browser has one kind of number, the double. Its operators on bits take the signed integer of 32 bits
that is congruent to an operand and give a signed one back, except for the logical shift, whose result is
not negative; a product and a sum of doubles are rounded to a double. The fingerprint that a browser
computes from the units of a text is that of the text: at every point the signed numbers are the lanes
in two's complement, and the last product and sum have at most 53 bits, so that no rounding changes them.
-/
namespace ResponsiveStyles

namespace Browser

/-- An integer that a double holds: 53 bits and a power of two. -/
def IsDouble (n : Int) : Prop :=
  ∃ (m : Int) (e : Nat), m.natAbs < 2 ^ 53 ∧ e ≤ 971 ∧ n = m * 2 ^ e

/-- A way to round integers to doubles, in any direction. -/
structure Rounding where
  round : Int → Int
  round_eq : ∀ {n}, IsDouble n → round n = n

instance : Inhabited Rounding := ⟨⟨id, fun _ => rfl⟩⟩

/-- The unsigned integer of 32 bits that is congruent to a number. -/
def toUint32 (x : Int) : Int := x % 2 ^ 32

def toInt32 (x : Int) : Int :=
  if toUint32 x < 2 ^ 31 then toUint32 x else toUint32 x - 2 ^ 32

def bitXor (x y : Int) : Int := (toInt32 x).xor (toInt32 y)

def bitAnd (x y : Int) : Int := (toInt32 x).land (toInt32 y)

def imul (x y : Int) : Int := toInt32 (toUint32 x * toUint32 y)

def shiftRight (x : Int) (k : Nat) : Int := toUint32 x / 2 ^ (k % 32)

def start (seed : Int) : Int × Int :=
  (bitXor 0xdeadbeef seed, bitXor 0x41c6ce57 seed)

def absorb (h : Int × Int) (u : UInt16) : Int × Int :=
  (imul (bitXor h.1 u.toNat) 2654435761, imul (bitXor h.2 u.toNat) 1597334677)

def stir (x y : Int) : Int :=
  bitXor (imul (bitXor x (shiftRight x 16)) 2246822507)
    (imul (bitXor y (shiftRight y 13)) 3266489909)

/-- The second number is mixed with the first as it is by then. -/
def mix (h : Int × Int) : Int × Int :=
  let first := stir h.1 h.2
  (first, stir h.2 first)

def value (r : Rounding) (h : Int × Int) : Int :=
  r.round (r.round (4294967296 * bitAnd 2097151 h.2) + shiftRight h.1 0)

/-- The hash that a browser computes from a string of units and a seed. -/
def hash (r : Rounding) (s : List UInt16) (seed : Int) : Int :=
  value r (mix (s.foldl absorb (start seed)))

/-- The number has the bits of the word. -/
def Reads (x : Int) (a : UInt32) : Prop := toUint32 x = a.toNat

def signed (a : UInt32) : Int := toInt32 a.toNat

theorem reads_natCast (a : UInt32) : Reads a.toNat a := by
  have h := a.toNat_lt
  rw [Reads, toUint32]
  omega

theorem reads_signed (a : UInt32) : Reads (signed a) a := by
  have h := reads_natCast a
  have hlt := a.toNat_lt
  rw [Reads] at h
  rw [signed, toInt32, h]
  split
  · exact h
  · rw [Reads, toUint32]
    omega

theorem Reads.toInt32_eq {x : Int} {a : UInt32} (h : Reads x a) : toInt32 x = signed a := by
  have ha := reads_natCast a
  rw [Reads] at h ha
  rw [signed, toInt32, toInt32, h, ha]

theorem testBit_sign (a : UInt32) : a.toNat.testBit 31 = decide (2 ^ 31 ≤ a.toNat) := by
  have h := a.toNat_lt
  rw [Nat.testBit_eq_decide_div_mod_eq, decide_eq_decide]
  omega

theorem signed_eq (a : UInt32) :
    signed a = if a.toNat.testBit 31 then Int.negSucc (~~~a).toNat else Int.ofNat a.toNat := by
  have h := reads_natCast a
  have hlt := a.toNat_lt
  have hnot : (~~~a).toNat = 2 ^ 32 - 1 - a.toNat := UInt32.toNat_not a
  rw [Reads] at h
  rw [signed, toInt32, h, testBit_sign, hnot]
  by_cases ha : 2 ^ 31 ≤ a.toNat
  · rw [if_neg (by omega), if_pos (by simpa using ha)]
    omega
  · rw [if_pos (by omega), if_neg (by simpa using ha)]
    rfl

theorem xor_signed (a b : UInt32) : (signed a).xor (signed b) = signed (a ^^^ b) := by
  rw [signed_eq, signed_eq, signed_eq, UInt32.toNat_xor, Nat.testBit_xor]
  cases a.toNat.testBit 31 <;> cases b.toNat.testBit 31
  case false.false => rfl
  case false.true =>
    have h := UInt32.toNat_xor a (~~~b)
    rw [UInt32.xor_not] at h
    exact congrArg Int.negSucc h.symm
  case true.false =>
    have h := UInt32.toNat_xor (~~~a) b
    rw [UInt32.not_xor] at h
    exact congrArg Int.negSucc h.symm
  case true.true =>
    have h := UInt32.toNat_xor (~~~a) (~~~b)
    rw [UInt32.xor_not, UInt32.not_xor, UInt32.not_not, UInt32.toNat_xor] at h
    exact congrArg Int.ofNat h.symm

theorem land_signed {a : UInt32} (ha : a.toNat < 2 ^ 31) (b : UInt32) :
    (signed a).land (signed b) = (a &&& b).toNat := by
  have hsign : a.toNat.testBit 31 = false := by
    rw [testBit_sign]
    simpa using ha
  rw [signed_eq, signed_eq, hsign, UInt32.toNat_and]
  cases b.toNat.testBit 31
  case false => rfl
  case true =>
    have hnot : (~~~b).toNat = 2 ^ 32 - (b.toNat + 1) := by
      have h := UInt32.toNat_not b
      simp only [UInt32.size] at h
      omega
    refine congrArg Int.ofNat (Nat.eq_of_testBit_eq fun i => ?_)
    rw [Nat.testBit_ldiff, Nat.testBit_and, hnot, Nat.testBit_two_pow_sub_succ b.toNat_lt]
    by_cases hi : i < 32
    · simp [hi]
    · have hzero : a.toNat.testBit i = false :=
        Nat.testBit_lt_two_pow (a.toNat_lt.trans_le (Nat.pow_le_pow_right (by decide) (by omega)))
      simp [hzero]

section Reads
variable {x y : Int} {a b : UInt32}

theorem Reads.bitXor (hx : Reads x a) (hy : Reads y b) : Reads (bitXor x y) (a ^^^ b) := by
  rw [Browser.bitXor, hx.toInt32_eq, hy.toInt32_eq, xor_signed]
  exact reads_signed _

theorem Reads.bitAnd_eq (hx : Reads x a) (ha : a.toNat < 2 ^ 31) (hy : Reads y b) :
    bitAnd x y = (a &&& b).toNat := by
  rw [bitAnd, hx.toInt32_eq, hy.toInt32_eq, land_signed ha]

theorem Reads.imul (hx : Reads x a) (hy : Reads y b) : Reads (imul x y) (a * b) := by
  have hmul : Reads ((a.toNat : Int) * b.toNat) (a * b) := by
    rw [Reads, toUint32, UInt32.toNat_mul]
    norm_cast
  rw [Reads] at hx hy
  rw [Browser.imul, hx, hy, hmul.toInt32_eq]
  exact reads_signed _

theorem Reads.shiftRight_eq (hx : Reads x a) {k : UInt32} (hk : k.toNat < 32) :
    shiftRight x k.toNat = (a >>> k).toNat := by
  rw [Reads] at hx
  rw [shiftRight, hx, UInt32.toNat_shiftRight, Nat.shiftRight_eq_div_pow, Nat.mod_eq_of_lt hk]
  norm_cast

theorem Reads.shiftRight (hx : Reads x a) {k : UInt32} (hk : k.toNat < 32) :
    Reads (shiftRight x k.toNat) (a >>> k) := by
  rw [hx.shiftRight_eq hk]
  exact reads_natCast _

theorem Reads.stir (hx : Reads x a) (hy : Reads y b) : Reads (stir x y) (Lanes.stir a b) := by
  have hx16 : Reads (Browser.shiftRight x 16) (a >>> 16) := hx.shiftRight (k := 16) (by decide)
  have hy13 : Reads (Browser.shiftRight y 13) (b >>> 13) := hy.shiftRight (k := 13) (by decide)
  have hleft := (hx.bitXor hx16).imul (reads_natCast 2246822507)
  have hright := (hy.bitXor hy13).imul (reads_natCast 3266489909)
  exact hleft.bitXor hright

end Reads

structure ReadsLanes (h : Int × Int) (l : Lanes) : Prop where
  first : Reads h.1 l.first
  second : Reads h.2 l.second

theorem ReadsLanes.start (seed : UInt32) :
    ReadsLanes (start seed.toNat) (Lanes.start seed) := by
  have hfirst : Reads (bitXor 0xdeadbeef seed.toNat) (0xdeadbeef ^^^ seed) :=
    (reads_natCast 0xdeadbeef).bitXor (reads_natCast seed)
  have hsecond : Reads (bitXor 0x41c6ce57 seed.toNat) (0x41c6ce57 ^^^ seed) :=
    (reads_natCast 0x41c6ce57).bitXor (reads_natCast seed)
  constructor
  · simpa only [Browser.start, Lanes.start] using hfirst
  · simpa only [Browser.start, Lanes.start] using hsecond

theorem ReadsLanes.absorb {h : Int × Int} {l : Lanes} (hl : ReadsLanes h l) (u : UInt16) :
    ReadsLanes (absorb h u) (l.absorb u) := by
  have hu : Reads u.toNat u.toUInt32 := reads_natCast u.toUInt32
  constructor
  · exact (hl.first.bitXor hu).imul (reads_natCast 2654435761)
  · exact (hl.second.bitXor hu).imul (reads_natCast 1597334677)

theorem ReadsLanes.foldl {h : Int × Int} {l : Lanes} (hl : ReadsLanes h l) (s : List UInt16) :
    ReadsLanes (s.foldl Browser.absorb h) (s.foldl Lanes.absorb l) := by
  induction s generalizing h l with
  | nil => exact hl
  | cons u s ih => exact ih (hl.absorb u)

theorem ReadsLanes.mix {h : Int × Int} {l : Lanes} (hl : ReadsLanes h l) :
    ReadsLanes (mix h) l.mix := by
  have hfirst := hl.first.stir hl.second
  exact ⟨hfirst, hl.second.stir hfirst⟩

theorem isDouble_of_lt {n : Nat} (h : n < 2 ^ 53) : IsDouble n :=
  ⟨n, 0, by omega, by omega, by simp⟩

theorem toNat_value_lt (l : Lanes) : l.value.toNat < 2 ^ 53 := by
  have hfirst := l.first.toNat_lt
  rw [Lanes.toNat_value]
  omega

theorem ReadsLanes.value_eq {h : Int × Int} {l : Lanes} (hl : ReadsLanes h l) (r : Rounding) :
    value r h = l.value.toNat := by
  have hmask : bitAnd 2097151 h.2 = (2097151 &&& l.second : UInt32).toNat :=
    (reads_natCast 2097151).bitAnd_eq (by decide) hl.second
  have hlow : (2097151 &&& l.second : UInt32).toNat = l.second.toNat % 2 ^ 21 := by
    rw [UInt32.toNat_and, Nat.and_comm]
    exact Nat.and_two_pow_sub_one_eq_mod l.second.toNat 21
  have hshift : shiftRight h.1 0 = l.first.toNat := by
    have hzero := hl.first.shiftRight_eq (k := 0) (by decide)
    simpa using hzero
  -- The product and the sum are doubles, so that rounding leaves them alone.
  have hproduct : IsDouble (4294967296 * (l.second.toNat % 2 ^ 21 : Nat)) :=
    ⟨(l.second.toNat % 2 ^ 21 : Nat), 32, by omega, by omega, by omega⟩
  have hsum : 4294967296 * ((l.second.toNat % 2 ^ 21 : Nat) : Int) + l.first.toNat =
      l.value.toNat := by
    rw [Lanes.toNat_value]
    norm_cast
  rw [value, hmask, hlow, hshift, r.round_eq hproduct, hsum,
    r.round_eq (isDouble_of_lt (toNat_value_lt l))]

end Browser

/-- The units of a text are the one string that is read as its characters, and a browser computes from
them the fingerprint of the text, for every seed and however it rounds. A fingerprint has 53 bits, so that
a double holds it. -/
theorem fingerprint_eq_browser (t : Text) (seed : UInt32) (r : Browser.Rounding) :
    (∀ s, Text.codePoints s = t.map Char.toNat ↔ s = t.units) ∧
      Browser.hash r t.units seed.toNat = (fingerprint t seed).toNat ∧
      (fingerprint t seed).toNat < 2 ^ 53 ∧
      Browser.IsDouble (fingerprint t seed).toNat := by
  have hlanes := ((Browser.ReadsLanes.start seed).foldl t.units).mix
  have hlt : (fingerprint t seed).toNat < 2 ^ 53 := Browser.toNat_value_lt _
  refine ⟨fun s => Text.codePoints_eq_iff, ?_, hlt, Browser.isDouble_of_lt hlt⟩
  exact hlanes.value_eq r

example : Browser.hash default (Text.units "revenge".toList) 0 = 4051478007546757 := by decide +kernel

end ResponsiveStyles
