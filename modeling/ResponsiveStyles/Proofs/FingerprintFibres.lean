import ResponsiveStyles.Proofs.SurrogatePairs
import ResponsiveStyles.Style.Fingerprint
import Mathlib.Data.Set.Card

/-!
# What a fingerprint forgets

Every step of the lanes can be undone: their multipliers are odd, a word is known from its exclusive or
with its own shift, and the second line of the mixing is undone before the first. The lanes after the
mixing therefore determine the seed when the text is known, and one unit of the text when the seed and
the other units are known. Only the value made from them forgets something, the upper 11 bits of the
second lane.
-/
namespace ResponsiveStyles

attribute [ext] Lanes

namespace Lanes

theorem xor_shiftRight_injective {k : UInt32} (hk : 0 < k.toNat % 32) :
    Function.Injective fun a : UInt32 => a ^^^ (a >>> k) := by
  intro a b h
  have hab : a ^^^ (a >>> k) = b ^^^ (b >>> k) := h
  have hzero : (a ^^^ b) ^^^ ((a ^^^ b) >>> k) = 0 := by
    calc (a ^^^ b) ^^^ ((a ^^^ b) >>> k) = (a ^^^ b) ^^^ ((a >>> k) ^^^ (b >>> k)) := by
          rw [UInt32.shiftRight_xor]
      _ = (a ^^^ (a >>> k)) ^^^ (b ^^^ (b >>> k)) := by ac_rfl
      _ = 0 := by rw [hab, UInt32.xor_self]
  -- A word that is its own shift is below itself, unless it is zero.
  have hfix : (a ^^^ b).toNat = (a ^^^ b).toNat / 2 ^ (k.toNat % 32) := by
    conv_lhs => rw [UInt32.xor_eq_zero_iff.1 hzero]
    rw [UInt32.toNat_shiftRight, Nat.shiftRight_eq_div_pow]
  have hnat : (a ^^^ b).toNat = 0 := by
    by_contra hpos
    have hlt := Nat.div_lt_self (Nat.pos_of_ne_zero hpos) (Nat.one_lt_two_pow hk.ne')
    omega
  exact UInt32.xor_eq_zero_iff.1 (UInt32.toNat_inj.1 hnat)

theorem mul_injective {m n : UInt32} (h : m * n = 1) :
    Function.Injective fun a : UInt32 => a * m := by
  intro a b hab
  calc a = a * m * n := by rw [UInt32.mul_assoc, h, UInt32.mul_one]
    _ = b * m * n := congrArg (· * n) hab
    _ = b := by rw [UInt32.mul_assoc, h, UInt32.mul_one]

theorem absorb_injective (u : UInt16) : Function.Injective fun l : Lanes => l.absorb u := by
  intro l l' h
  obtain ⟨hfirst, hsecond⟩ := Lanes.mk.inj h
  have hxor := mul_injective (n := 244002641) (by decide) hfirst
  have hxor' := mul_injective (n := 851723965) (by decide) hsecond
  exact Lanes.ext ((UInt32.xor_left_inj _).1 hxor) ((UInt32.xor_left_inj _).1 hxor')

theorem absorb_unit_injective (l : Lanes) : Function.Injective l.absorb := by
  intro u u' h
  have hxor := mul_injective (n := 244002641) (by decide) (Lanes.mk.inj h).1
  have hword : u.toUInt32 = u'.toUInt32 := (UInt32.xor_right_inj _).1 hxor
  have hnat := congrArg UInt32.toNat hword
  rw [UInt16.toNat_toUInt32, UInt16.toNat_toUInt32] at hnat
  exact UInt16.toNat_inj.1 hnat

theorem foldl_absorb_injective (s : List UInt16) :
    Function.Injective fun l : Lanes => s.foldl absorb l := by
  induction s with
  | nil => exact fun _ _ h => h
  | cons u s ih => exact fun _ _ h => absorb_injective u (ih h)

theorem start_injective : Function.Injective start := by
  intro seed seed' h
  exact (UInt32.xor_right_inj _).1 (Lanes.mk.inj h).1

theorem stir_injective (b : UInt32) : Function.Injective fun a => stir a b := by
  intro a a' h
  have hleft := (UInt32.xor_left_inj _).1 h
  have hxor := mul_injective (n := 2781581891) (by decide) hleft
  exact xor_shiftRight_injective (k := 16) (by decide) hxor

theorem mix_injective : Function.Injective mix := by
  intro l l' h
  obtain ⟨hfirst, hsecond⟩ := Lanes.mk.inj h
  -- The second line has mixed in the first lane as the first line left it.
  rw [hfirst] at hsecond
  have hl : l.second = l'.second := stir_injective _ hsecond
  rw [hl] at hfirst
  exact Lanes.ext (stir_injective _ hfirst) hl

theorem value_eq_iff {l l' : Lanes} :
    l.value = l'.value ↔
      l.first = l'.first ∧ l.second.toNat % 2 ^ 21 = l'.second.toNat % 2 ^ 21 := by
  have hfirst := l.first.toNat_lt
  have hfirst' := l'.first.toNat_lt
  rw [← UInt64.toNat_inj, ← UInt32.toNat_inj, toNat_value, toNat_value]
  omega

theorem encard_value_le (v : UInt64) : {l : Lanes | l.value = v}.encard ≤ 2 ^ 11 := by
  -- The lanes of one value differ in the upper bits of the second lane only.
  have hmaps : Set.MapsTo (fun l : Lanes => l.second.toNat / 2 ^ 21) {l | l.value = v}
      (Finset.range (2 ^ 11)) := by
    intro l _
    have hsecond := l.second.toNat_lt
    simp only [Finset.coe_range, Set.mem_Iio]
    omega
  have hinj : Set.InjOn (fun l : Lanes => l.second.toNat / 2 ^ 21) {l | l.value = v} := by
    intro l hl l' hl' hupper
    obtain ⟨hfirst, hlower⟩ := value_eq_iff.1 (Eq.trans hl hl'.symm)
    have hsecond : l.second.toNat = l'.second.toNat := by
      simp only at hupper
      omega
    exact Lanes.ext hfirst (UInt32.toNat_inj.1 hsecond)
  calc {l : Lanes | l.value = v}.encard ≤ (Finset.range (2 ^ 11) : Set Nat).encard :=
        Set.encard_le_encard_of_injOn hmaps hinj
    _ = 2 ^ 11 := by
      rw [Set.encard_coe_eq_coe_finsetCard, Finset.card_range]
      rfl

theorem encard_le_of_injOn {α : Type} {f : α → Lanes} {s : Set α} (h : s.InjOn f) (v : UInt64) :
    {a ∈ s | (f a).value = v}.encard ≤ 2 ^ 11 :=
  (Set.encard_le_encard_of_injOn (fun _ ha => ha.2) (h.mono fun _ ha => ha.1)).trans
    (encard_value_le v)

def ofText (t : Text) (seed : UInt32) : Lanes :=
  (t.units.foldl absorb (start seed)).mix

theorem ofText_injective (t : Text) : Function.Injective (ofText t) :=
  fun _ _ h => start_injective (foldl_absorb_injective t.units (mix_injective h))

end Lanes

namespace Text

/-- Texts with equally many units that have the same ones, except perhaps at one place. -/
def SameBut (i : Nat) (t t' : Text) : Prop :=
  t.units.length = t'.units.length ∧ ∀ j, j ≠ i → t.units[j]? = t'.units[j]?

theorem SameBut.trans_symm {i : Nat} {t t' t'' : Text} (h : SameBut i t' t) (h' : SameBut i t'' t) :
    SameBut i t' t'' :=
  ⟨h.1.trans h'.1.symm, fun j hj => (h.2 j hj).trans (h'.2 j hj).symm⟩

end Text

theorem eq_or_exists_append {α : Type} {s s' : List α} {i : Nat} (hlength : s.length = s'.length)
    (h : ∀ j, j ≠ i → s[j]? = s'[j]?) :
    s = s' ∨ ∃ p u u' r, s = p ++ u :: r ∧ s' = p ++ u' :: r := by
  induction s generalizing s' i with
  | nil => exact .inl (List.eq_nil_of_length_eq_zero hlength.symm).symm
  | cons u s ih =>
    obtain ⟨u', s', rfl⟩ := List.exists_cons_of_length_eq_add_one hlength.symm
    cases i with
    | zero =>
      have htail : s = s' := List.ext_getElem? fun j => by simpa using h (j + 1) (by omega)
      exact .inr ⟨[], u, u', s, rfl, by rw [htail]; rfl⟩
    | succ i =>
      obtain rfl : u = u' := by simpa using h 0 (by omega)
      have htail (j : Nat) (hj : j ≠ i) : s[j]? = s'[j]? := by simpa using h (j + 1) (by omega)
      rcases ih (by simpa using hlength) htail with rfl | ⟨p, v, v', r, rfl, rfl⟩
      · exact .inl rfl
      · exact .inr ⟨u :: p, v, v', r, rfl, rfl⟩

namespace Lanes

theorem eq_of_ofText_eq {i : Nat} {t t' : Text} {seed : UInt32} (h : Text.SameBut i t t')
    (hlanes : ofText t seed = ofText t' seed) : t = t' := by
  apply Text.units_injective
  rcases eq_or_exists_append h.1 h.2 with heq | ⟨p, u, u', r, ht, ht'⟩
  · exact heq
  · have hfold := mix_injective hlanes
    rw [ht, ht', List.foldl_append, List.foldl_append, List.foldl_cons, List.foldl_cons] at hfold
    have hunit := absorb_unit_injective _ (foldl_absorb_injective r hfold)
    rw [ht, ht', hunit]

end Lanes

/-- A fingerprint is the value of lanes that determine the seed, and any one unit of the text, and the
value forgets just 11 bits of them. At most 2048 seeds therefore give a text one fingerprint, and under
one seed at most 2048 of the texts that differ from it in one unit have it. -/
theorem fingerprint_fibres (t : Text) :
    (∀ seed, fingerprint t seed = (Lanes.ofText t seed).value) ∧
    (∀ l l' : Lanes, l.value = l'.value ↔
      l.first = l'.first ∧ l.second.toNat % 2 ^ 21 = l'.second.toNat % 2 ^ 21) ∧
    Function.Injective (Lanes.ofText t) ∧
    (∀ v, {seed | fingerprint t seed = v}.encard ≤ 2 ^ 11) ∧
    ∀ i seed, {t' | Text.SameBut i t' t}.InjOn (Lanes.ofText · seed) ∧
      ∀ v, {t' | Text.SameBut i t' t ∧ fingerprint t' seed = v}.encard ≤ 2 ^ 11 := by
  have hunit (i : Nat) (seed : UInt32) :
      {t' | Text.SameBut i t' t}.InjOn (Lanes.ofText · seed) := by
    intro t' h t'' h' hlanes
    exact Lanes.eq_of_ofText_eq (h.trans_symm h') hlanes
  refine ⟨fun _ => rfl, fun _ _ => Lanes.value_eq_iff, Lanes.ofText_injective t, fun v => ?_,
    fun i seed => ⟨hunit i seed, Lanes.encard_le_of_injOn (hunit i seed)⟩⟩
  have hseeds := Lanes.encard_le_of_injOn ((Lanes.ofText_injective t).injOn (s := Set.univ)) v
  rwa [Set.sep_univ] at hseeds

end ResponsiveStyles
