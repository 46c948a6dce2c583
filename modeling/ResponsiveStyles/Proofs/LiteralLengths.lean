import ResponsiveStyles.Proofs.DecimalReading
import ResponsiveStyles.Proofs.NameQueries
import ResponsiveStyles.Proofs.TokenSynonyms

/-!
# Literals as lengths

The digits of a literal may belong to any script, and a length is cut behind them in the same way. But
a float is only read from ASCII digits. A literal in other digits is an operand all the same, and as a
bound of widths it is not moved by epsilon.
-/
namespace ResponsiveStyles

def Text.isAscii (t : Text) : Bool :=
  t.all fun c => c.toNat < 0x80

namespace TokenShape

def operands : TokenShape → List Text
  | .only name => [name]
  | .literal length => [length]
  | .compared _ operand => [operand]
  | .between first last => [first, last]
  | .up operand => [operand]
  | .down operand => [operand]
  | .dangling _ => []

end TokenShape

namespace Length

section Literal
variable {digits letters l : Text}

theorem isDigit_iff_of_isDecimalDigit {c : Char} (h : Text.isDecimalDigit c) :
    c.isDigit ↔ c.toNat < 0x80 := by
  have hc := toNat_of_isDecimalDigit h
  simp only [Char.isDigit, Bool.and_eq_true, decide_eq_true_eq]
  change 0x30 ≤ c.toNat ∧ c.toNat ≤ 0x39 ↔ c.toNat < 0x80
  omega

theorem split?_of_literal (hd : ∀ c ∈ digits, Text.isDecimalDigit c) (h0 : digits ≠ [])
    (hl : ∀ c ∈ letters, c.isAlpha)
    (htrim : Text.trim (digits ++ letters) = digits ++ letters) :
    split? (digits ++ letters) = (Decimal.read? digits).map (·, letters) := by
  have hunit : ∀ c ∈ letters.head?, ¬ Text.isDecimalDigit c ∧ c ≠ '.' := by
    intro c hc
    have halpha := hl c (List.mem_of_mem_head? hc)
    refine ⟨not_isDecimalDigit_of_isAlpha halpha, ?_⟩
    rintro rfl
    exact absurd halpha (by decide)
  have hline : '\n' ∉ letters := fun hn => absurd (hl _ hn) (by decide)
  have hparts : numberPart? (digits ++ letters) = some (digits, letters) := by
    rw [← unsignedPart?_whole h0 hd hunit]
    obtain ⟨c, r, rfl⟩ := List.exists_cons_of_ne_nil h0
    exact numberPart?_of_digit (hd c List.mem_cons_self) _
  exact split?_of_numberPart? (htrim.symm ▸ hparts) hline

theorem split?_literal (h : Literal l) :
    split? l =
      if Text.isAscii l then
        some (Decimal.nearest (Decimal.digitsValue (l.takeWhile Text.isDecimalDigit)) 0,
          l.dropWhile Text.isDecimalDigit)
      else none := by
  have htrim := h.trim_eq
  obtain ⟨digits, letters, rfl, h0, hd, hl, hlength⟩ := h
  have hletters : letters ≠ [] := List.length_pos_iff.1 (by omega)
  have hends := head?_letters (r := []) hl hletters
  rw [List.append_nil] at hends
  obtain ⟨htake, hdrop⟩ := takeWhile_digits hd hends
  have hascii : Text.isAscii (digits ++ letters) ↔ digits.all Char.isDigit := by
    simp only [Text.isAscii, List.all_eq_true, decide_eq_true_eq]
    constructor
    · intro hall c hc
      exact (isDigit_iff_of_isDecimalDigit (hd c hc)).2 (hall c (List.mem_append_left _ hc))
    · intro hall c hc
      rcases List.mem_append.1 hc with hc | hc
      · exact (isDigit_iff_of_isDecimalDigit (hd c hc)).1 (hall c hc)
      · have hrange := toNat_of_isAlpha (hl c hc)
        omega
  rw [split?_of_literal hd h0 hl htrim, Decimal.read?_digits h0 hd, htake, hdrop]
  by_cases hall : digits.all Char.isDigit
  · rw [if_pos hall, if_pos (hascii.2 hall), Option.map_some]
  · rw [if_neg hall, if_neg (mt hascii.1 hall), Option.map_none]

end Literal

end Length

namespace BreakpointTable

variable {t : BreakpointTable} {f A : Text} {s : TokenShape}

theorem operand_of_mem_operands (hs : t.classify f = some s) (hA : A ∈ s.operands) :
    t.Operand A := by
  have hreads := reads_classify t f
  rw [hs] at hreads
  cases hreads with
  | only hn =>
    obtain rfl := List.mem_singleton.1 hA
    exact .inl hn
  | compared hn hc =>
    obtain rfl := List.mem_singleton.1 hA
    exact hc.1
  | dangling hn hc hs ho => simp [TokenShape.operands] at hA
  | first hn hc hfirst =>
    obtain ⟨B, hB, hsays⟩ : ∃ B, t.Operand B ∧ t.Says B f s := by
      rcases hfirst with ⟨before, B, after, hnames, hsays, -⟩ | ⟨-, B, hB, hsays⟩
      · exact ⟨B, .inl (by simp [hnames]), hsays⟩
      · exact ⟨B, .inr hB, hsays⟩
    cases hsays with
    | between hC =>
      rcases List.mem_pair.1 hA with rfl | rfl
      · exact hB
      · exact hC
    | up hsuffixes => exact List.mem_singleton.1 hA ▸ hB
    | down hsuffixes => exact List.mem_singleton.1 hA ▸ hB
    | alone => exact List.mem_singleton.1 hA ▸ hB

/-- A literal operand has a number for lengths just when it is spelled in ASCII. Otherwise epsilon does
not change it. -/
theorem split?_operand (hs : t.classify f = some s) (hA : A ∈ s.operands) (hname : A ∉ t.names) :
    Literal A ∧
      Length.split? A =
        (if Text.isAscii A then
          some (Decimal.nearest (Decimal.digitsValue (A.takeWhile Text.isDecimalDigit)) 0,
            A.dropWhile Text.isDecimalDigit)
        else none) ∧
      ∀ epsilon, Length.adjust A epsilon =
        if (epsilon == 0.0) = false ∧ Text.isAscii A then
          Decimal.plain
              (Decimal.nearest (Decimal.digitsValue (A.takeWhile Text.isDecimalDigit)) 0 - epsilon) ++
            A.dropWhile Text.isDecimalDigit
        else A := by
  have hl : Literal A := (operand_of_mem_operands hs hA).resolve_left hname
  have hsplit := Length.split?_literal hl
  refine ⟨hl, hsplit, fun epsilon => ?_⟩
  rw [Length.adjust, hsplit]
  cases hzero : epsilon == 0.0 with
  | true => simp
  | false =>
    cases Text.isAscii A with
    | true => simp
    | false => simp

theorem split?_operand_devanagari :
    let t := fallback {}
    let A := "३४px".toList
    t.classify ("lt-".toList ++ A) = some (.compared .lt A) ∧ A ∈ (TokenShape.compared .lt A).operands ∧
      A ∉ t.names ∧ Length.split? A = none ∧ ∀ epsilon, Length.adjust A epsilon = A := by
  intro t A
  have hshape : t.classify ("lt-".toList ++ A) = some (.compared .lt A) := by decide +kernel
  have hA : A ∈ (TokenShape.compared .lt A).operands := List.mem_cons_self
  have hname : A ∉ t.names := by decide
  have hascii : ¬ Text.isAscii A := by decide
  obtain ⟨-, hsplit, hadjust⟩ := split?_operand hshape hA hname
  refine ⟨hshape, hA, hname, by rw [hsplit, if_neg hascii], fun epsilon => ?_⟩
  rw [hadjust epsilon, if_neg fun h => hascii h.2]

end BreakpointTable

theorem QuerySettings.compile_devanagari :
    let s : QuerySettings Unit := { table := .fallback {} }
    s.compile "lt-34px".toList none = "@media all and (max-width: 33.98px)".toList ∧
      s.compile "lt-३४px".toList none = "@media all and (max-width: ३४px)".toList := by
  decide +kernel

end ResponsiveStyles
