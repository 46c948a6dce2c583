import ResponsiveStyles.Proofs.LengthParts
import ResponsiveStyles.Proofs.TokenReading

/-!
# Numbers that are read

ASCII digits, and such digits with a point among or behind them, are always read as a float. Digits of
other scripts make up the number of a length as well, but no float is read from them.
-/
namespace ResponsiveStyles

theorem ne_of_isDecimalDigit {c d : Char} (hc : Text.isDecimalDigit c)
    (hd : ¬ Text.isDecimalDigit d) : c ≠ d :=
  fun h => hd (h ▸ hc)

namespace Decimal

section Read
variable {digits whole fraction r : Text} {c : Char}

theorem toLower_of_isDecimalDigit (h : Text.isDecimalDigit c) : c.toLower = c := by
  have hc := toNat_of_isDecimalDigit h
  refine dif_neg fun hupper => ?_
  have hfirst : 0x41 ≤ c.toNat := hupper.1
  have hlast : c.toNat ≤ 0x5A := hupper.2
  omega

theorem readUnsigned?_whole (h0 : digits ≠ []) (hd : ∀ c ∈ digits, c.isDigit) :
    readUnsigned? digits = some (nearest (digitsValue digits) 0) := by
  obtain ⟨htake, hdrop⟩ := Text.takeWhile_append_of_head (r := []) hd (by simp)
  rw [List.append_nil] at htake hdrop
  simp [readUnsigned?, htake, hdrop, h0, readExponent?]

theorem readUnsigned?_point (h0 : whole ≠ []) (hw : ∀ c ∈ whole, c.isDigit)
    (hf : ∀ c ∈ fraction, c.isDigit) :
    readUnsigned? (whole ++ '.' :: fraction) =
      some (nearest (digitsValue (whole ++ fraction)) (-fraction.length)) := by
  obtain ⟨htake, hdrop⟩ := Text.takeWhile_append_of_head (r := '.' :: fraction) hw (by simp)
  obtain ⟨htake', hdrop'⟩ := Text.takeWhile_append_of_head (r := []) hf (by simp)
  rw [List.append_nil] at htake' hdrop'
  simp [readUnsigned?, htake, hdrop, htake', hdrop', h0, readExponent?]

theorem readUnsigned?_eq_none (hd : ∀ c ∈ digits, Text.isDecimalDigit c)
    (hscript : ¬ ∀ c ∈ digits, c.isDigit) : readUnsigned? digits = none := by
  obtain ⟨c, r, hdrop⟩ : ∃ c r, digits.dropWhile Char.isDigit = c :: r := by
    rw [← List.ne_nil_iff_exists_cons]
    exact fun hnil => hscript (List.dropWhile_eq_nil_iff.1 hnil)
  have hc : Text.isDecimalDigit c :=
    hd c ((List.dropWhile_sublist Char.isDigit).subset (hdrop ▸ List.mem_cons_self))
  have hpoint : c ≠ '.' := ne_of_isDecimalDigit hc (by decide)
  have hlower : c ≠ 'e' := ne_of_isDecimalDigit hc (by decide)
  have hupper : c ≠ 'E' := ne_of_isDecimalDigit hc (by decide)
  simp [readUnsigned?, hdrop, hpoint, readExponent?, hlower, hupper]

theorem splitSign_of_digit (hc : Text.isDecimalDigit c) (r : Text) :
    splitSign (c :: r) = (false, c :: r) := by
  have hminus : c ≠ '-' := ne_of_isDecimalDigit hc (by decide)
  have hplus : c ≠ '+' := ne_of_isDecimalDigit hc (by decide)
  unfold splitSign
  split
  · simp_all
  · simp_all
  · rfl

theorem read?_of_splitSign {t : Text} {negative : Bool} (ht : splitSign t = (negative, c :: r))
    (hc : Text.isDecimalDigit c) :
    read? t = (readUnsigned? (c :: r)).map fun x => if negative then -x else x := by
  have hword {w : Text} {d : Char} (hw : w.head? = some d) (hd : ¬ Text.isDecimalDigit d) :
      (c :: r).map Char.toLower ≠ w := by
    rintro rfl
    rw [List.map_cons, toLower_of_isDecimalDigit hc, List.head?_cons, Option.some.injEq] at hw
    exact ne_of_isDecimalDigit hc hd hw
  have hinf : ¬ ((c :: r).map Char.toLower = "inf".toList ||
      (c :: r).map Char.toLower = "infinity".toList) := by
    rw [Bool.or_eq_true, decide_eq_true_eq, decide_eq_true_eq]
    exact fun h => h.elim (hword (d := 'i') rfl (by decide)) (hword (d := 'i') rfl (by decide))
  have hnan : (c :: r).map Char.toLower ≠ "nan".toList := hword (d := 'n') rfl (by decide)
  simp only [read?, ht]
  rw [if_neg hinf, if_neg hnan]

/-- A float is read from digits just when they are all ASCII digits. -/
theorem read?_digits (h0 : digits ≠ []) (hd : ∀ c ∈ digits, Text.isDecimalDigit c) :
    read? digits =
      if digits.all Char.isDigit then some (nearest (digitsValue digits) 0) else none := by
  have hread : read? digits = readUnsigned? digits := by
    obtain ⟨c, r, rfl⟩ := List.exists_cons_of_ne_nil h0
    have hc : Text.isDecimalDigit c := hd c List.mem_cons_self
    rw [read?_of_splitSign (splitSign_of_digit hc r) hc]
    simp
  rw [hread]
  split
  · rename_i hascii
    exact readUnsigned?_whole h0 (List.all_eq_true.1 hascii)
  · rename_i hascii
    exact readUnsigned?_eq_none hd (mt List.all_eq_true.2 hascii)

end Read

end Decimal

namespace Length

section Split
variable {length number unit r : Text} {c : Char}

theorem numberPart?_of_digit (hc : Text.isDecimalDigit c) (r : Text) :
    numberPart? (c :: r) = unsignedPart? (c :: r) := by
  have hplus : c ≠ '+' := ne_of_isDecimalDigit hc (by decide)
  have hminus : c ≠ '-' := ne_of_isDecimalDigit hc (by decide)
  unfold numberPart?
  split
  · simp_all
  · simp_all
  · rfl

theorem split?_of_numberPart? (h : numberPart? (Text.trim length) = some (number, unit))
    (hline : '\n' ∉ unit) : split? length = (Decimal.read? number).map (·, unit) := by
  simp [split?, h, hline]

theorem exists_of_split? {x : Float} (h : split? length = some (x, unit)) :
    ∃ number, numberPart? (Text.trim length) = some (number, unit) ∧ '\n' ∉ unit ∧
      Decimal.read? number = some x := by
  unfold split? at h
  split at h
  · simp at h
  · rename_i number unit' hparts
    split at h
    · simp at h
    · rename_i hline
      obtain ⟨y, hread, he⟩ := Option.map_eq_some_iff.1 h
      obtain ⟨rfl, rfl⟩ := Prod.mk.inj he
      exact ⟨number, hparts, by simpa using hline, hread⟩

end Split

end Length

end ResponsiveStyles
