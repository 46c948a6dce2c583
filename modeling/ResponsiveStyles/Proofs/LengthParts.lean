import ResponsiveStyles.Length
import Mathlib.Data.List.TakeWhile

/-!
# The parts of a length

The number part of a length has no other characters than digits, signs and the point, and together
with the unit it makes up the length. So it is with the numbers that are written.
-/
namespace ResponsiveStyles

namespace Length

theorem unsignedPart?_spec {t number unit : Text} (h : unsignedPart? t = some (number, unit)) :
    t = number ++ unit ∧ ∀ c ∈ number, Text.isDecimalDigit c ∨ c = '.' := by
  have ht := List.takeWhile_append_dropWhile (p := Text.isDecimalDigit) (l := t)
  have hdigits (r : Text) : r.takeWhile Text.isDecimalDigit ++ r.dropWhile Text.isDecimalDigit = r :=
    List.takeWhile_append_dropWhile
  have hmem {c : Char} {r : Text} (hc : c ∈ r.takeWhile Text.isDecimalDigit) :
      Text.isDecimalDigit c ∨ c = '.' := .inl (List.mem_takeWhile_imp hc)
  simp only [unsignedPart?] at h
  split at h
  · rename_i r hwhole hrest
    split at h
    · simp at h
    · obtain ⟨rfl, rfl⟩ := Prod.mk.inj (Option.some.inj h)
      refine ⟨by rw [← ht, hwhole, hrest, List.nil_append, List.cons_append, hdigits], ?_⟩
      intro c hc
      rcases List.mem_cons.1 hc with rfl | hc
      · exact .inr rfl
      · exact hmem hc
  · simp at h
  · rename_i r hrest _
    obtain ⟨rfl, rfl⟩ := Prod.mk.inj (Option.some.inj h)
    refine ⟨by rw [List.append_assoc, List.cons_append, hdigits, ← hrest, ht], ?_⟩
    intro c hc
    rcases List.mem_append.1 hc with hc | hc
    · exact hmem hc
    · rcases List.mem_cons.1 hc with rfl | hc
      · exact .inr rfl
      · exact hmem hc
  · obtain ⟨rfl, rfl⟩ := Prod.mk.inj (Option.some.inj h)
    exact ⟨ht.symm, fun c hc => hmem hc⟩

theorem numberPart?_spec {t number unit : Text} (h : numberPart? t = some (number, unit)) :
    t = number ++ unit ∧ ∀ c ∈ number, Text.isDecimalDigit c ∨ c ∈ ['.', '+', '-'] := by
  have hsigned {sign : Char} {r : Text} (hsign : sign ∈ ['.', '+', '-'])
      (hr : (unsignedPart? r).map (fun p => (sign :: p.1, p.2)) = some (number, unit)) :
      sign :: r = number ++ unit ∧ ∀ c ∈ number, Text.isDecimalDigit c ∨ c ∈ ['.', '+', '-'] := by
    obtain ⟨p, hp, he⟩ := Option.map_eq_some_iff.1 hr
    obtain ⟨rfl, rfl⟩ := Prod.mk.inj he
    obtain ⟨hparts, hchars⟩ := unsignedPart?_spec hp
    refine ⟨congrArg (sign :: ·) hparts, fun c hc => ?_⟩
    rcases List.mem_cons.1 hc with rfl | hc
    · exact .inr hsign
    · exact (hchars c hc).imp_right fun hpoint => by simp [hpoint]
  unfold numberPart? at h
  split at h
  · exact hsigned (by simp) h
  · exact hsigned (by simp) h
  · obtain ⟨hparts, hchars⟩ := unsignedPart?_spec h
    exact ⟨hparts, fun c hc => (hchars c hc).imp_right fun hpoint => by simp [hpoint]⟩

section Append
variable {digits whole fraction unit : Text}

theorem unsignedPart?_whole (h0 : digits ≠ []) (hd : ∀ c ∈ digits, Text.isDecimalDigit c)
    (hunit : ∀ c ∈ unit.head?, ¬ Text.isDecimalDigit c ∧ c ≠ '.') :
    unsignedPart? (digits ++ unit) = some (digits, unit) := by
  obtain ⟨htake, hdrop⟩ := Text.takeWhile_append_of_head hd fun c hc => (hunit c hc).1
  simp only [unsignedPart?, htake, hdrop]
  split
  · exact absurd rfl h0
  · exact absurd rfl h0
  · exact absurd rfl (hunit '.' rfl).2
  · rfl

theorem unsignedPart?_point (h0 : whole ≠ []) (hw : ∀ c ∈ whole, Text.isDecimalDigit c)
    (hf : ∀ c ∈ fraction, Text.isDecimalDigit c)
    (hunit : ∀ c ∈ unit.head?, ¬ Text.isDecimalDigit c) :
    unsignedPart? (whole ++ '.' :: fraction ++ unit) = some (whole ++ '.' :: fraction, unit) := by
  have hpoint : ∀ c ∈ ('.' :: (fraction ++ unit)).head?, ¬ Text.isDecimalDigit c := by
    intro c hc
    obtain rfl := Option.some.inj hc
    decide
  obtain ⟨htake, hdrop⟩ := Text.takeWhile_append_of_head hw hpoint
  obtain ⟨htake', hdrop'⟩ := Text.takeWhile_append_of_head hf hunit
  rw [List.append_assoc, List.cons_append]
  obtain ⟨c, r, rfl⟩ := List.exists_cons_of_ne_nil h0
  simp only [unsignedPart?, htake, hdrop, htake', hdrop']

end Append

theorem unit_of_unsignedPart? {t number unit : Text} (h : unsignedPart? t = some (number, unit)) :
    ∀ c ∈ unit.head?, ¬ Text.isDecimalDigit c := by
  simp only [unsignedPart?] at h
  split at h
  · split at h
    · simp at h
    · obtain ⟨-, rfl⟩ := Prod.mk.inj (Option.some.inj h)
      exact Text.not_of_mem_head?_dropWhile
  · simp at h
  · obtain ⟨-, rfl⟩ := Prod.mk.inj (Option.some.inj h)
    exact Text.not_of_mem_head?_dropWhile
  · obtain ⟨-, rfl⟩ := Prod.mk.inj (Option.some.inj h)
    exact Text.not_of_mem_head?_dropWhile

theorem unit_of_numberPart? {t number unit : Text} (h : numberPart? t = some (number, unit)) :
    ∀ c ∈ unit.head?, ¬ Text.isDecimalDigit c := by
  have hsigned {sign : Char} {r : Text}
      (hr : (unsignedPart? r).map (fun p => (sign :: p.1, p.2)) = some (number, unit)) :
      ∀ c ∈ unit.head?, ¬ Text.isDecimalDigit c := by
    obtain ⟨p, hp, he⟩ := Option.map_eq_some_iff.1 hr
    obtain ⟨-, rfl⟩ := Prod.mk.inj he
    exact unit_of_unsignedPart? hp
  unfold numberPart? at h
  split at h
  · exact hsigned h
  · exact hsigned h
  · exact unit_of_unsignedPart? h

end Length

namespace Decimal

theorem mem_withPoint {digits : Text} {position : Int} {c : Char}
    (hc : c ∈ Layout.plain.withPoint digits position) : c ∈ digits ∨ c = '0' ∨ c = '.' := by
  unfold Layout.withPoint at hc
  split at hc
  · split_ifs at hc
    · rw [List.mem_append, List.mem_append] at hc
      rcases hc with (hc | hc) | hc
      · exact .inl hc
      · exact .inr (.inl (List.eq_of_mem_replicate hc))
      · simp [Layout.plain] at hc
    · rcases List.mem_cons.1 hc with hc | hc
      · exact .inr (.inl hc)
      · exact (List.mem_cons.1 hc).symm.imp_right .inr
    · rw [List.mem_append, List.mem_cons] at hc
      rcases hc with hc | hc | hc
      · exact .inl (List.mem_of_mem_take hc)
      · exact .inr (.inr hc)
      · exact .inl (List.mem_of_mem_drop hc)
  · rw [List.mem_cons, List.mem_cons, List.mem_append] at hc
    rcases hc with hc | hc | hc | hc
    · exact .inr (.inl hc)
    · exact .inr (.inr hc)
    · exact .inr (.inl (List.eq_of_mem_replicate hc))
    · exact .inl hc

theorem isDigit_of_mem_stripZeros {n : Nat} {c : Char}
    (hc : c ∈ (Layout.stripZeros (Text.ofNat n)).1) : c.isDigit := by
  have hm : c ∈ Text.ofNat n :=
    List.mem_reverse.1 ((List.dropWhile_sublist _).subset (List.mem_reverse.1 hc))
  exact Nat.isDigit_of_mem_toDigits (by decide) (by decide) hm

theorem mem_magnitude {v : Magnitude} {c : Char} (hc : c ∈ Layout.plain.magnitude v) :
    c.isDigit ∨ c = '.' := by
  unfold Layout.magnitude at hc
  split at hc
  · obtain rfl : c = '0' := by simpa [Layout.plain] using hc
    exact .inl rfl
  · simp only at hc
    generalize hstrip : Layout.stripZeros _ = p at hc
    rw [if_pos (show Layout.plain.positional _ = true from rfl)] at hc
    rcases mem_withPoint hc with hc | rfl | rfl
    · exact .inl (isDigit_of_mem_stripZeros (hstrip ▸ hc))
    · exact .inl rfl
    · exact .inr rfl

theorem mem_plain {x : Float} {c : Char} (hc : c ∈ plain x) :
    c.isDigit ∨ c ∈ ".-NaNinf".toList := by
  have hnan : "NaN".toList ⊆ ".-NaNinf".toList := by decide
  have hinf : "inf".toList ⊆ ".-NaNinf".toList := by decide
  have hminus : "-inf".toList ⊆ ".-NaNinf".toList := by decide
  have hmagnitude {v : Magnitude} {c : Char} (hc : c ∈ Layout.plain.magnitude v) :
      c.isDigit ∨ c ∈ ".-NaNinf".toList :=
    (mem_magnitude hc).imp_right fun h => by rw [h]; decide
  unfold plain Layout.write at hc
  split at hc
  · exact .inr (hnan hc)
  · split_ifs at hc
    · exact .inr (hminus hc)
    · exact .inr (hinf hc)
  · split_ifs at hc
    · rcases List.mem_cons.1 hc with rfl | hc
      · exact .inr (by decide)
      · exact hmagnitude hc
    · exact hmagnitude hc

end Decimal

end ResponsiveStyles
