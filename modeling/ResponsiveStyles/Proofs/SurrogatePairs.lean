import ResponsiveStyles.Text.Units
import Mathlib.Data.List.Basic

/-!
# Surrogate pairs

A string of units is read from the left: a lead surrogate and a trail surrogate behind it are one code
point, and any other unit is one by itself. No character is a surrogate, so the units of a text are the
only string that is read as its characters.
-/
namespace ResponsiveStyles.Text

def IsLead (u : UInt16) : Prop := 0xD800 ≤ u.toNat ∧ u.toNat ≤ 0xDBFF

def IsTrail (u : UInt16) : Prop := 0xDC00 ≤ u.toNat ∧ u.toNat ≤ 0xDFFF

instance (u : UInt16) : Decidable (IsLead u) := inferInstanceAs (Decidable (_ ∧ _))

instance (u : UInt16) : Decidable (IsTrail u) := inferInstanceAs (Decidable (_ ∧ _))

/-- The code points of a string. A surrogate that is not part of a pair is a code point too. -/
def codePoints : List UInt16 → List Nat
  | [] => []
  | [u] => [u.toNat]
  | u :: v :: r =>
    if IsLead u ∧ IsTrail v then
      ((u.toNat - 0xD800) * 0x400 + (v.toNat - 0xDC00) + 0x10000) :: codePoints r
    else u.toNat :: codePoints (v :: r)

theorem codePoints_cons {u : UInt16} (h : ¬ IsLead u) (r : List UInt16) :
    codePoints (u :: r) = u.toNat :: codePoints r := by
  cases r with
  | nil => rfl
  | cons v r => simp [codePoints, h]

theorem toNat_not_surrogate (c : Char) :
    c.toNat < 0xD800 ∨ 0xDFFF < c.toNat ∧ c.toNat < 0x110000 :=
  c.valid

theorem unitsOf_of_lt {c : Char} (h : c.toNat < 0x10000) : unitsOf c = [c.toNat.toUInt16] := by
  rw [unitsOf, if_pos h]

theorem unitsOf_pair {c : Char} (h : 0x10000 ≤ c.toNat) :
    ∃ u v, unitsOf c = [u, v] ∧ IsLead u ∧ IsTrail v ∧
      c.toNat = (u.toNat - 0xD800) * 0x400 + (v.toNat - 0xDC00) + 0x10000 := by
  have hc := toNat_not_surrogate c
  refine ⟨_, _, if_neg (by omega), ?_⟩
  simp only [IsLead, IsTrail, Nat.toUInt16_eq, UInt16.toNat_ofNat']
  omega

theorem unitsOf_eq_pair {c : Char} {u v : UInt16} (hu : IsLead u) (hv : IsTrail v)
    (h : c.toNat = (u.toNat - 0xD800) * 0x400 + (v.toNat - 0xDC00) + 0x10000) :
    unitsOf c = [u, v] := by
  obtain ⟨hu, hu'⟩ := hu
  obtain ⟨hv, hv'⟩ := hv
  have hc : 0x10000 ≤ c.toNat := by omega
  obtain ⟨u', v', huv, ⟨hlead, -⟩, ⟨htrail, htrail'⟩, hpoint⟩ := unitsOf_pair hc
  obtain rfl : u' = u := UInt16.toNat_inj.1 (by omega)
  obtain rfl : v' = v := UInt16.toNat_inj.1 (by omega)
  exact huv

theorem codePoints_unitsOf_append (c : Char) (r : List UInt16) :
    codePoints (unitsOf c ++ r) = c.toNat :: codePoints r := by
  by_cases hc : c.toNat < 0x10000
  · have hvalid := toNat_not_surrogate c
    have hunit : c.toNat.toUInt16.toNat = c.toNat := by
      simp only [Nat.toUInt16_eq, UInt16.toNat_ofNat']
      omega
    have hlead : ¬ IsLead c.toNat.toUInt16 := by
      rw [IsLead, hunit]
      omega
    rw [unitsOf_of_lt hc, List.singleton_append, codePoints_cons hlead, hunit]
  · obtain ⟨u, v, huv, hu, hv, hpoint⟩ := unitsOf_pair (Nat.not_lt.1 hc)
    rw [huv, hpoint]
    exact if_pos ⟨hu, hv⟩

theorem codePoints_units (t : Text) : codePoints (units t) = t.map Char.toNat := by
  induction t with
  | nil => rfl
  | cons c t ih =>
    calc codePoints (units (c :: t)) = c.toNat :: codePoints (units t) :=
          codePoints_unitsOf_append c (units t)
      _ = (c :: t).map Char.toNat := by rw [ih, List.map_cons]

theorem unitsOf_of_toNat {c : Char} {u : UInt16} (h : c.toNat = u.toNat) : unitsOf c = [u] := by
  have hu := u.toNat_lt
  rw [unitsOf_of_lt (by omega), h]
  simp

theorem eq_units_of_codePoints {s : List UInt16} {t : Text}
    (h : codePoints s = t.map Char.toNat) : s = units t := by
  induction s using codePoints.induct generalizing t with
  | case1 =>
    obtain rfl : t = [] := by simpa [codePoints] using h.symm
    rfl
  | case2 u =>
    obtain ⟨c, t, rfl, hc, hnil⟩ := List.map_eq_cons_iff.1 h.symm
    obtain rfl : t = [] := by simpa using hnil
    rw [units, List.flatMap_singleton, unitsOf_of_toNat hc]
  | case3 u v r hpair ih =>
    rw [codePoints, if_pos hpair] at h
    obtain ⟨c, t, rfl, hc, ht⟩ := List.map_eq_cons_iff.1 h.symm
    rw [units, List.flatMap_cons, unitsOf_eq_pair hpair.1 hpair.2 hc, ← units, ← ih ht.symm]
    rfl
  | case4 u v r hpair ih =>
    rw [codePoints, if_neg hpair] at h
    obtain ⟨c, t, rfl, hc, ht⟩ := List.map_eq_cons_iff.1 h.symm
    rw [units, List.flatMap_cons, unitsOf_of_toNat hc, ← units, ← ih ht.symm]
    rfl

theorem codePoints_eq_iff {s : List UInt16} {t : Text} :
    codePoints s = t.map Char.toNat ↔ s = units t := by
  constructor
  · exact eq_units_of_codePoints
  · rintro rfl
    exact codePoints_units t

theorem units_injective : Function.Injective units := by
  intro s t h
  have hpoints : s.map Char.toNat = t.map Char.toNat := by
    rw [← codePoints_units, ← codePoints_units, h]
  exact List.map_injective_iff.2 (fun _ _ => Char.toNat_inj.1) hpoints

end ResponsiveStyles.Text
