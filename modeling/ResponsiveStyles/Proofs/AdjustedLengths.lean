import ResponsiveStyles.Proofs.PrintedDecimals
import ResponsiveStyles.Proofs.TextTrimming
import ResponsiveStyles.Proofs.TokenSynonyms

/-!
# Adjusted lengths

The number of a length is printed anew when epsilon is taken from it, and the unit is put behind it as
it was. The number that is read from the result ends where the printed one does, since the unit neither
begins with a digit nor with a point, and so the unit stays the same.
-/
namespace ResponsiveStyles

namespace Text

theorem trim_append_of_trim {p number u t : Text} (h0 : p ≠ []) (hp : ∀ c ∈ p, ¬ isBlank c)
    (ht : trim t = number ++ u) : trim (p ++ u) = p ++ u := by
  have hfirst : (p ++ u).head? = some (p.head h0) := by
    rw [List.head?_append_of_ne_nil p h0, List.head?_eq_some_head h0]
  obtain ⟨d, hlast, hd⟩ : ∃ d, (p ++ u).getLast? = some d ∧ ¬ isBlank d := by
    by_cases hu : u = []
    · refine ⟨p.getLast h0, ?_, hp _ (List.getLast_mem h0)⟩
      rw [hu, List.append_nil, List.getLast?_eq_some_getLast h0]
    · have hlast (s : Text) : (s ++ u).getLast? = some (u.getLast hu) := by
        rw [List.getLast?_append_of_ne_nil s hu, List.getLast?_eq_some_getLast hu]
      exact ⟨_, hlast p, not_isBlank_of_mem_getLast?_trim _ (ht ▸ hlast number)⟩
  simpa using trim_append (b := []) hfirst hlast (hp _ (List.head_mem h0)) hd rfl

end Text

theorem Decimal.not_isBlank_of_mem_plain {x : Float} {c : Char} (hc : c ∈ plain x) :
    ¬ Text.isBlank c := by
  have hother : (".-NaNinf".toList.all fun c => !Text.isBlank c) = true := by decide
  rcases mem_plain hc with hdigit | hc
  · exact not_isBlank_of_isDecimalDigit (Text.isDecimalDigit_of_isDigit hdigit)
  · simpa using List.all_eq_true.1 hother c hc

namespace Length

section Append
variable {number unit : Text}

theorem unsignedPart?_append (h : Decimal.Unsigned number)
    (hunit : ∀ c ∈ unit.head?, ¬ Text.isDecimalDigit c ∧ c ≠ '.') :
    unsignedPart? (number ++ unit) = some (number, unit) := by
  cases h with
  | whole h0 hd =>
    exact unsignedPart?_whole h0 (fun c hc => Text.isDecimalDigit_of_isDigit (hd c hc)) hunit
  | point h0 hw hf =>
    exact unsignedPart?_point h0 (fun c hc => Text.isDecimalDigit_of_isDigit (hw c hc))
      (fun c hc => Text.isDecimalDigit_of_isDigit (hf c hc)) fun c hc => (hunit c hc).1

theorem numberPart?_append (h : Decimal.Signed number)
    (hunit : ∀ c ∈ unit.head?, ¬ Text.isDecimalDigit c ∧ c ≠ '.') :
    numberPart? (number ++ unit) = some (number, unit) := by
  cases h with
  | positive h =>
    rw [← unsignedPart?_append h hunit]
    obtain ⟨c, r, rfl, hc⟩ := h.exists_digit
    exact numberPart?_of_digit (Text.isDecimalDigit_of_isDigit hc) (r ++ unit)
  | negative h => simp [numberPart?, unsignedPart?_append h hunit]

end Append

section Adjust
variable {length unit : Text} {x epsilon : Float}

theorem adjust_of_split? (h : split? length = some (x, unit)) (hzero : (epsilon == 0.0) = false) :
    adjust length epsilon = Decimal.plain (x - epsilon) ++ unit := by
  simp [adjust, hzero, h]

theorem split?_plain_append {y : Float} (h : split? length = some (x, unit))
    (hpoint : unit.head? ≠ some '.') (hy : y.isFinite) :
    split? (Decimal.plain y ++ unit) = (Decimal.read? (Decimal.plain y)).map (·, unit) := by
  obtain ⟨number, hparts, hline, -⟩ := exists_of_split? h
  have hsigned := Decimal.signed_plain hy
  have hunit : ∀ c ∈ unit.head?, ¬ Text.isDecimalDigit c ∧ c ≠ '.' := by
    intro c hc
    refine ⟨unit_of_numberPart? hparts c hc, ?_⟩
    rintro rfl
    exact hpoint hc
  have htrim : Text.trim (Decimal.plain y ++ unit) = Decimal.plain y ++ unit :=
    Text.trim_append_of_trim hsigned.ne_nil (fun c hc => Decimal.not_isBlank_of_mem_plain hc)
      (numberPart?_spec hparts).1
  exact split?_of_numberPart? (htrim.symm ▸ numberPart?_append hsigned hunit) hline

end Adjust

/-- A length stays a length with the same unit when epsilon is taken from its number, and its number is
then read from the printed difference. Where nothing is taken, the text stays as it is. -/
theorem split?_adjust (length : Text) (epsilon : Float) :
    (∀ x unit, split? length = some (x, unit) → unit.head? ≠ some '.' → (epsilon == 0.0) = false →
      (x - epsilon).isFinite →
        ∃ y, Decimal.read? (Decimal.plain (x - epsilon)) = some y ∧
          split? (adjust length epsilon) = some (y, unit)) ∧
      ((epsilon == 0.0) = true ∨ split? length = none → adjust length epsilon = length) := by
  constructor
  · intro x unit hsplit hpoint hzero hfinite
    obtain ⟨y, hy⟩ := (Decimal.signed_plain hfinite).exists_read?
    refine ⟨y, hy, ?_⟩
    rw [adjust_of_split? hsplit hzero, split?_plain_append hsplit hpoint hfinite, hy, Option.map_some]
  · rintro (hzero | hnone)
    · rw [adjust, if_pos hzero]
    · exact adjust_of_split?_eq_none hnone epsilon

theorem split?_adjust_signed :
    let length := "+.5 px".toList
    let unit := " px".toList
    split? length = some (0.5, unit) ∧ unit.head? ≠ some '.' ∧ ((1.5 : Float) == 0.0) = false ∧
      ((0.5 : Float) - 1.5).isFinite ∧ (∃ y, split? (adjust length 1.5) = some (y, unit)) ∧
        adjust length 1.5 = "-1 px".toList := by
  intro length unit
  have hsplit : split? length = some (0.5, unit) := by decide +kernel
  have hpoint : unit.head? ≠ some '.' := by decide
  have hzero : ((1.5 : Float) == 0.0) = false := by decide +kernel
  have hfinite : ((0.5 : Float) - 1.5).isFinite := by decide +kernel
  obtain ⟨y, -, hy⟩ := (split?_adjust length 1.5).1 0.5 unit hsplit hpoint hzero hfinite
  exact ⟨hsplit, hpoint, hzero, hfinite, ⟨y, hy⟩, by decide +kernel⟩

/-- The point of a unit would be read as part of a whole number. -/
example : split? "1.5.px".toList = some (1.5, ".px".toList) ∧
    split? (adjust "1.5.px".toList 0.5) = some (1, "px".toList) := by
  decide +kernel

end Length

end ResponsiveStyles
