import ResponsiveStyles.Proofs.DecimalReading

/-!
# Decimals that are printed

The plain text of a finite float is an optional minus, digits, and perhaps a point with more digits.
There is always a digit in front, so that the text is read as a float again.
-/
namespace ResponsiveStyles.Decimal

/-- Digits, perhaps with a point behind the first of them. -/
inductive Unsigned : Text → Prop where
  | whole {digits : Text} (h0 : digits ≠ []) (hd : ∀ c ∈ digits, c.isDigit) : Unsigned digits
  | point {whole fraction : Text} (h0 : whole ≠ []) (hw : ∀ c ∈ whole, c.isDigit)
      (hf : ∀ c ∈ fraction, c.isDigit) : Unsigned (whole ++ '.' :: fraction)

inductive Signed : Text → Prop where
  | positive {t : Text} (h : Unsigned t) : Signed t
  | negative {t : Text} (h : Unsigned t) : Signed ('-' :: t)

section Read
variable {t : Text}

theorem Unsigned.exists_digit (h : Unsigned t) : ∃ c r, t = c :: r ∧ c.isDigit := by
  cases h with
  | whole h0 hd =>
    obtain ⟨c, r, rfl⟩ := List.exists_cons_of_ne_nil h0
    exact ⟨c, r, rfl, hd c List.mem_cons_self⟩
  | point h0 hw hf =>
    obtain ⟨c, r, rfl⟩ := List.exists_cons_of_ne_nil h0
    exact ⟨c, _, rfl, hw c List.mem_cons_self⟩

theorem Unsigned.exists_readUnsigned? (h : Unsigned t) : ∃ x, readUnsigned? t = some x := by
  cases h with
  | whole h0 hd => exact ⟨_, readUnsigned?_whole h0 hd⟩
  | point h0 hw hf => exact ⟨_, readUnsigned?_point h0 hw hf⟩

theorem Signed.ne_nil (h : Signed t) : t ≠ [] := by
  cases h with
  | positive h =>
    obtain ⟨c, r, rfl, -⟩ := h.exists_digit
    exact List.cons_ne_nil c r
  | negative h => exact List.cons_ne_nil _ _

theorem Signed.exists_read? (h : Signed t) : ∃ x, read? t = some x := by
  have hread {t r : Text} {negative : Bool} (hr : Unsigned r) (ht : splitSign t = (negative, r)) :
      ∃ x, read? t = some x := by
    obtain ⟨x, hx⟩ := hr.exists_readUnsigned?
    obtain ⟨c, r', rfl, hc⟩ := hr.exists_digit
    rw [read?_of_splitSign ht (Text.isDecimalDigit_of_isDigit hc), hx]
    exact ⟨_, rfl⟩
  cases h with
  | positive h =>
    obtain ⟨c, r, rfl, hc⟩ := h.exists_digit
    exact hread h (splitSign_of_digit (Text.isDecimalDigit_of_isDigit hc) r)
  | negative h => exact hread h rfl

end Read

namespace Magnitude

section Search
variable {v : Magnitude} {tie : Tie} {k : Int} {n : Nat}

theorem ratio_pos (v : Magnitude) : 0 < v.ratio.2 := by
  unfold ratio
  split
  · exact Nat.one_pos
  · exact Nat.pow_pos (by decide)

theorem le_of_onGrid? (h : v.onGrid? tie k = some n) : (v.steps k).1 / (v.steps k).2 ≤ n := by
  simp only [onGrid?] at h
  split at h
  · exact (Option.some.inj h).le
  · exact Nat.le_of_succ_le (Option.some.inj h).le
  · simp at h
  · cases tie
    all_goals
      split_ifs at h
      all_goals
        have hn := Option.some.inj h
        omega

theorem le_of_length_toDigits {a b n p : Nat} (hn : a * Nat.pow 10 p / b = n) (hp : 1 < p)
    (h : p ≤ (Nat.toDigits 10 n).length) : b ≤ a * 10 := by
  obtain ⟨m, rfl⟩ : ∃ m, p = m + 1 := ⟨p - 1, by omega⟩
  have hlow : 10 ^ m ≤ n := by
    by_contra hlt
    have hle := (Nat.length_toDigits_le_iff (by decide) (by omega)).2 (Nat.lt_of_not_le hlt)
    exact Nat.not_succ_le_self m (h.trans hle)
  subst hn
  have hscaled : 10 ^ m * b ≤ 10 ^ m * (a * 10) := by
    calc 10 ^ m * b ≤ a * 10 ^ (m + 1) := Nat.mul_le_of_le_div b _ _ hlow
      _ = 10 ^ m * (a * 10) := by rw [Nat.pow_succ, Nat.mul_left_comm]
  exact Nat.le_of_mul_le_mul_left hscaled (Nat.pow_pos (Nat.succ_pos 9))

theorem le_of_pointPosition (h : 0 ≤ v.pointPosition) : v.ratio.2 ≤ v.ratio.1 * 10 := by
  simp only [pointPosition] at h
  generalize hn : v.ratio.1 * Nat.pow 10 330 / v.ratio.2 = n at h
  exact le_of_length_toDigits hn (by decide) (by omega)

theorem exponent_search {count fuel : Nat} (hcount : 1 ≤ count)
    (h : (search tie v v.pointPosition count fuel).digits = 0) :
    (search tie v v.pointPosition count fuel).exponent ≠ -1 := by
  induction fuel generalizing count with
  | zero => simp [search]
  | succ fuel ih =>
    rw [search] at h ⊢
    cases hgrid : v.onGrid? tie (v.pointPosition - count) with
    | none =>
      simp only [hgrid] at h ⊢
      exact ih (by omega) h
    | some d =>
      simp only [hgrid] at h ⊢
      subst h
      intro hk
      rw [hk] at hgrid
      -- Zero is not found among the tenths: the search starts below the first digit of the value.
      have hdiv : v.ratio.1 * Nat.pow 10 1 / v.ratio.2 ≤ 0 := le_of_onGrid? hgrid
      have hpos := v.ratio_pos
      have hlow : v.ratio.2 ≤ v.ratio.1 * 10 := le_of_pointPosition (by omega)
      have hone : 1 ≤ v.ratio.1 * 10 / v.ratio.2 := (Nat.one_le_div_iff hpos).2 hlow
      exact absurd (hone.trans hdiv) (by decide)

end Search

end Magnitude

section Digits
variable {digits : Text} {n : Nat}

theorem stripZeros_eq_nil (h : (Layout.stripZeros (Text.ofNat n)).1 = []) :
    n = 0 ∧ (Layout.stripZeros (Text.ofNat n)).2 = 1 := by
  have hzeros : ∀ c ∈ Text.ofNat n, c = '0' := by
    rw [Layout.stripZeros, List.reverse_eq_nil_iff, List.dropWhile_eq_nil_iff] at h
    simpa using h
  have hn : n = 0 := by
    have hvalue : Nat.ofDigitChars 10 (Text.ofNat n) 0 = n := Nat.ofDigitChars_ten_toDigits
    rw [List.eq_replicate_of_mem hzeros, Nat.ofDigitChars_replicate_zero, Nat.mul_zero] at hvalue
    exact hvalue.symm
  subst hn
  exact ⟨rfl, by decide⟩

theorem unsigned_withPoint {position : Int} (hd : ∀ c ∈ digits, c.isDigit)
    (h0 : digits = [] → position ≠ 0) : Unsigned (Layout.plain.withPoint digits position) := by
  have hzeros (k : Nat) : ∀ c ∈ List.replicate k '0', c.isDigit := by
    intro c hc
    rw [List.eq_of_mem_replicate hc]
    decide
  have hzero : ∀ c ∈ ['0'], c.isDigit := hzeros 1
  unfold Layout.withPoint
  split
  · rename_i p
    split_ifs with hlength hp
    · rw [show Layout.plain.whole = [] from rfl, List.append_nil]
      refine .whole ?_ fun c hc => (List.mem_append.1 hc).elim (hd c) (hzeros _ c)
      intro hnil
      obtain ⟨rfl, hreplicate⟩ := List.append_eq_nil_iff.1 hnil
      exact h0 rfl (by simpa using hreplicate)
    · exact .point (List.cons_ne_nil '0' []) hzero hd
    · refine .point ?_ (fun c hc => hd c (List.mem_of_mem_take hc))
        fun c hc => hd c (List.mem_of_mem_drop hc)
      rw [ne_eq, List.take_eq_nil_iff]
      rintro (rfl | rfl)
      · exact hp rfl
      · exact hlength (Nat.zero_le _)
  · exact .point (List.cons_ne_nil '0' []) hzero
      fun c hc => (List.mem_append.1 hc).elim (hzeros _ c) (hd c)

theorem unsigned_magnitude (v : Magnitude) : Unsigned (Layout.plain.magnitude v) := by
  unfold Layout.magnitude
  split
  · exact .whole (by simp) (by simp [Layout.plain])
  · simp only
    rw [if_pos (show Layout.plain.positional _ = true from rfl)]
    refine unsigned_withPoint (fun c hc => isDigit_of_mem_stripZeros hc) ?_
    intro hnil
    -- Only zero is stripped to nothing, and then the text is empty just at position zero.
    obtain ⟨hdigits, hcount⟩ := stripZeros_eq_nil hnil
    have hexponent := Magnitude.exponent_search le_rfl hdigits
    rw [hnil, hcount]
    simp only [Magnitude.shortest] at hexponent ⊢
    simp only [List.length_nil]
    omega

end Digits

section Finite

open Float.Model

theorem not_isFinite_unpack {b : BitVec Format.binary64.numBits}
    (h : UnpackedFloat.unpackExponent b = -1#_) :
    (UnpackedFloat.unpack Format.binary64 b).isFinite = false := by
  have hunpack : UnpackedFloat.unpack Format.binary64 b =
      if UnpackedFloat.unpackMantissa b = 0#_ then .infinity (.ofBitVec (UnpackedFloat.unpackSign b))
      else .notANumber :=
    if_pos h
  rw [hunpack]
  split
  · rfl
  · rfl

theorem toNat_unpackExponent (bits : UInt64) :
    (@UnpackedFloat.unpackExponent Format.binary64 bits.toBitVec).toNat =
      ((bits >>> 52) &&& 0x7FF).toNat := by
  have hmask : (0x7FF : UInt64).toNat = 2 ^ 11 - 1 := rfl
  rw [UInt64.toNat_and, hmask, Nat.and_two_pow_sub_one_eq_mod, UInt64.toNat_shiftRight,
    UnpackedFloat.unpackExponent, BitVec.toNat_cast, BitVec.extractLsb_toNat]
  rfl

theorem exists_magnitude {x : Float} (h : x.isFinite) :
    ∃ negative v, Reading.ofFloat x = .finite negative v := by
  have hexponent : ((x.toBits >>> 52) &&& 0x7FF).toNat ≠ 0x7FF := by
    intro he
    rw [← toNat_unpackExponent] at he
    have hfinite : (UnpackedFloat.unpack Format.binary64 x.toBits.toBitVec).isFinite := h
    rw [not_isFinite_unpack (BitVec.eq_of_toNat_eq he)] at hfinite
    exact absurd hfinite (by simp)
  simp only [Reading.ofFloat, Reading.ofBits, if_neg hexponent]
  split
  · exact ⟨_, _, rfl⟩
  · exact ⟨_, _, rfl⟩

theorem signed_plain {x : Float} (h : x.isFinite) : Signed (plain x) := by
  obtain ⟨negative, v, hx⟩ := exists_magnitude h
  simp only [plain, Layout.write, hx]
  split
  · exact .negative (unsigned_magnitude v)
  · exact .positive (unsigned_magnitude v)

end Finite

end ResponsiveStyles.Decimal
