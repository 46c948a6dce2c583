import ResponsiveStyles.Proofs.LengthParts
import ResponsiveStyles.Proofs.NameQueries
import Mathlib.Data.Rat.Init
import Mathlib.Algebra.Order.Ring.Rat

/-!
# The widths that names select in range context

The media query of a name is read here as a condition on a width in pixels. Names with increasing
lengths part the widths among them: a width from the first length on is selected by one name and no
other, except that a width equal to a length is selected by no name at all, since both comparisons of
a range are strict.
-/
namespace ResponsiveStyles

variable {γ : Type}

def Decimal.value (number : Text) : ℚ :=
  let (negative, unsigned) := splitSign number
  let whole := unsigned.takeWhile (· ≠ '.')
  let fraction := (unsigned.dropWhile (· ≠ '.')).tail
  let size : ℚ := digitsValue (whole ++ fraction) / 10 ^ fraction.length
  if negative then -size else size

def isNumberChar (c : Char) : Bool :=
  c.isDigit || c = '+' || c = '-' || c = '.'

/-- The pixels that a length spells. Zero needs no unit. -/
def pixels? (length : Text) : Option ℚ :=
  match Length.numberPart? length with
  | none => none
  | some (number, unit) =>
    if number.all isNumberChar && (unit = "px".toList || (unit = [] && Decimal.value number = 0)) then
      some (Decimal.value number)
    else none

def compares (sign : Text) (x y : ℚ) : Bool :=
  if sign = "<".toList then x < y
  else if sign = "<=".toList then x ≤ y
  else if sign = ">".toList then y < x
  else if sign = ">=".toList then y ≤ x
  else false

/-- Whether a width satisfies a condition such as `width > 576px` or `576px < width < 768px`. -/
def satisfies (w : ℚ) (condition : Text) : Bool :=
  match condition.splitOn ' ' with
  | [name, sign, length] => name = "width".toList && (pixels? length).any (compares sign w)
  | [least, sign, name, sign', greatest] =>
    name = "width".toList && (pixels? least).any (fun x => compares sign x w) &&
      (pixels? greatest).any (compares sign' w)
  | _ => false

def conditionOf (query : Text) : Text :=
  ((query.dropWhile (· ≠ '(')).tail).takeWhile (· ≠ ')')

theorem notMem_of_pixels? {l : Text} {x : ℚ} (h : pixels? l = some x) :
    ' ' ∉ l ∧ '(' ∉ l ∧ ')' ∉ l := by
  unfold pixels? at h
  split at h
  · simp at h
  · rename_i number unit hl
    rw [(Length.numberPart?_spec hl).1]
    split_ifs at h with hif
    simp only [Bool.and_eq_true, Bool.or_eq_true, decide_eq_true_eq, List.all_eq_true] at hif
    obtain ⟨hnumber, hunit⟩ := hif
    -- The characters that part a condition are none of a number or the unit.
    have hc (c : Char) (hno : isNumberChar c = false) (hpx : c ∉ "px".toList) :
        c ∉ number ++ unit := by
      rw [List.mem_append, not_or]
      refine ⟨fun hm => by simp [hnumber c hm] at hno, fun hm => ?_⟩
      rcases hunit with rfl | ⟨rfl, -⟩
      · exact hpx hm
      · simp at hm
    exact ⟨hc _ (by decide) (by decide), hc _ (by decide) (by decide), hc _ (by decide) (by decide)⟩

theorem satisfies_between {least greatest : Text} {x y : ℚ} (hx : pixels? least = some x)
    (hy : pixels? greatest = some y) (w : ℚ) :
    satisfies w (least ++ " < width < ".toList ++ greatest) ↔ x < w ∧ w < y := by
  have hsplit : (least ++ " < width < ".toList ++ greatest).splitOn ' ' =
      [least, "<".toList, "width".toList, "<".toList, greatest] := by
    have hblank : ∀ p ∈ [least, "<".toList, "width".toList, "<".toList, greatest], ' ' ∉ p := by
      simp [notMem_of_pixels? hx, notMem_of_pixels? hy]
    rw [← List.splitOn_intercalate ' ' hblank (by simp)]
    simp [List.intercalate]
  rw [satisfies, hsplit]
  simp [hx, hy, compares]

theorem satisfies_above {least : Text} {x : ℚ} (hx : pixels? least = some x) (w : ℚ) :
    satisfies w ("width > ".toList ++ least) ↔ x < w := by
  have hsplit : ("width > ".toList ++ least).splitOn ' ' =
      ["width".toList, ">".toList, least] := by
    have hblank : ∀ p ∈ ["width".toList, ">".toList, least], ' ' ∉ p := by
      simp [notMem_of_pixels? hx]
    rw [← List.splitOn_intercalate ' ' hblank (by simp)]
    simp [List.intercalate]
  rw [satisfies, hsplit]
  simp [hx, compares]

theorem conditionOf_append {u condition : Text} (hu : '(' ∉ u) (hcondition : ')' ∉ condition) :
    conditionOf (u ++ '(' :: (condition ++ [')'])) = condition := by
  rw [conditionOf, List.dropWhile_append_of_pos, List.dropWhile_cons_of_neg, List.tail_cons,
    List.takeWhile_append_of_pos]
  · simp
  · intro c hc
    have : c ≠ ')' := fun h => hcondition (h ▸ hc)
    simpa using this
  · simp
  · intro c hc
    have : c ≠ '(' := fun h => hu (h ▸ hc)
    simpa using this

/-- A width lies strictly between a length and the next one, or above the last length. -/
def InBucket (xs : List ℚ) (i : Nat) (w : ℚ) : Prop :=
  ∃ x, xs[i]? = some x ∧ x < w ∧ ∀ y ∈ xs[i + 1]?, w < y

section InBucket
variable {xs : List ℚ} {i : Nat} {w : ℚ}

theorem InBucket.compare (h : InBucket xs i w) (hxs : xs.Pairwise (· < ·)) {j : Nat} {y : ℚ}
    (hj : xs[j]? = some y) : (j ≤ i → y < w) ∧ (i < j → w < y) := by
  obtain ⟨x, hi, hlt, hnext⟩ := h
  have hmono {k l : Nat} {a b : ℚ} (hk : xs[k]? = some a) (hl : xs[l]? = some b) (hkl : k < l) :
      a < b := by
    obtain ⟨hkx, rfl⟩ := List.getElem?_eq_some_iff.1 hk
    obtain ⟨hlx, rfl⟩ := List.getElem?_eq_some_iff.1 hl
    exact List.pairwise_iff_getElem.1 hxs k l hkx hlx hkl
  constructor
  · intro hji
    rcases Nat.eq_or_lt_of_le hji with rfl | hji
    · obtain rfl : x = y := by simpa [hi] using hj
      exact hlt
    · exact (hmono hj hi hji).trans hlt
  · intro hij
    have hlen : i + 1 < xs.length := by
      have := (List.getElem?_eq_some_iff.1 hj).1
      omega
    have hz := List.getElem?_eq_getElem hlen
    rcases Nat.eq_or_lt_of_le (Nat.succ_le_of_lt hij) with rfl | hij
    · exact hnext y hj
    · exact (hnext _ hz).trans (hmono hz hj hij)

theorem InBucket.unique (h : InBucket xs i w) (hxs : xs.Pairwise (· < ·)) {j : Nat}
    (h' : InBucket xs j w) : i = j := by
  obtain ⟨x, hi, hxw, -⟩ := id h
  obtain ⟨y, hj, hyw, -⟩ := id h'
  have hij : i ≤ j := by
    by_contra hlt
    exact absurd ((h'.compare hxs hi).2 (by omega)) hxw.not_gt
  have hji : j ≤ i := by
    by_contra hlt
    exact absurd ((h.compare hxs hj).2 (by omega)) hyw.not_gt
  omega

theorem InBucket.notMem (h : InBucket xs i w) (hxs : xs.Pairwise (· < ·)) : w ∉ xs := by
  intro hm
  obtain ⟨j, hj⟩ := List.mem_iff_getElem?.1 hm
  have hcompare := h.compare hxs hj
  rcases Nat.lt_or_ge i j with hij | hji
  · exact lt_irrefl w (hcompare.2 hij)
  · exact lt_irrefl w (hcompare.1 hji)

theorem exists_inBucket (hxs : xs.Pairwise (· < ·)) (h0 : xs ≠ [])
    (hw : ∀ x ∈ xs.head?, x ≤ w) (hm : w ∉ xs) : ∃ i, InBucket xs i w := by
  induction xs with
  | nil => exact absurd rfl h0
  | cons x r ih =>
    have hxw : x < w := lt_of_le_of_ne (hw x rfl) fun he => hm (he ▸ List.mem_cons_self)
    cases r with
    | nil => exact ⟨0, x, rfl, hxw, by simp⟩
    | cons y r =>
      by_cases hyw : y ≤ w
      · obtain ⟨i, z, hi, hz, hnext⟩ := ih (List.pairwise_cons.1 hxs).2 (by simp)
          (by simpa using hyw) (fun h => hm (List.mem_cons_of_mem x h))
        exact ⟨i + 1, z, hi, hz, hnext⟩
      · exact ⟨0, x, rfl, hxw, by simpa using hyw⟩

end InBucket

/-- A table of plain names with increasing lengths in pixels. -/
structure BreakpointTable.Graded (t : BreakpointTable) (xs : List ℚ) : Prop where
  lengths : t.entries.map (fun b => pixels? b.length) = xs.map some
  increasing : xs.Pairwise (· < ·)
  plain : ∀ b ∈ t.entries, PlainFragment b.name

theorem BreakpointTable.Graded.getElem? {t : BreakpointTable} {xs : List ℚ} (h : t.Graded xs)
    (i : Nat) : (t.entries[i]?).map (fun b => pixels? b.length) = xs[i]?.map some := by
  rw [← List.getElem?_map, ← List.getElem?_map, h.lengths]

namespace QuerySettings

theorem satisfies_compile_iff (s : QuerySettings γ) (hcontext : s.table.options.rangeContext = true)
    {xs : List ℚ} (ht : s.table.Graded xs) {i : Nat} {b : Breakpoint}
    (hb : s.table.entries[i]? = some b) (context : Option γ) (w : ℚ) :
    satisfies w (conditionOf (s.compile b.name context)) ↔ InBucket xs i w := by
  have hmem := List.mem_of_getElem? hb
  have hname := ht.plain b hmem
  obtain ⟨x, hx, hbx⟩ : ∃ x, xs[i]? = some x ∧ pixels? b.length = some x := by
    have hi := ht.getElem? i
    rw [hb, Option.map_some, eq_comm, Option.map_eq_some_iff] at hi
    obtain ⟨x, hx, he⟩ := hi
    exact ⟨x, hx, he.symm⟩
  have hquery (condition : Text) (hclose : ')' ∉ condition)
      (hclauses : bucketClauses s.table.options b.length
        ((s.table.entries[i + 1]?).map Breakpoint.length) = ['(' :: (condition ++ [')'])]) :
      conditionOf (s.compile b.name context) = condition := by
    rw [s.compile_plain hname (BreakpointTable.name_ne_nil hmem),
      s.render_read_name hb hname.not_orientation, hclauses]
    cases s.mediaFirst
    · rw [if_neg (by decide), List.nil_append, List.intercalate_singleton]
      exact conditionOf_append (by decide) hclose
    · rw [if_pos rfl, List.singleton_append, List.intercalate_cons_cons,
        List.intercalate_singleton, ← List.append_assoc, ← List.append_assoc]
      exact conditionOf_append (by decide) hclose
  have hnext := ht.getElem? (i + 1)
  cases hb' : s.table.entries[i + 1]? with
  | none =>
    rw [hb', Option.map_none, eq_comm, Option.map_eq_none_iff] at hnext
    have hclose : ')' ∉ "width > ".toList ++ b.length := by
      simp [notMem_of_pixels? hbx]
    rw [hquery _ hclose, satisfies_above hbx]
    · simp [InBucket, hx, hnext]
    · simp only [bucketClauses, hcontext, hb', Option.map_none]
      rfl
  | some b' =>
    obtain ⟨y, hy, hby⟩ : ∃ y, xs[i + 1]? = some y ∧ pixels? b'.length = some y := by
      rw [hb', Option.map_some, eq_comm, Option.map_eq_some_iff] at hnext
      obtain ⟨y, hy, he⟩ := hnext
      exact ⟨y, hy, he.symm⟩
    have hclose : ')' ∉ b.length ++ " < width < ".toList ++ b'.length := by
      simp [notMem_of_pixels? hbx, notMem_of_pixels? hby]
    rw [hquery _ hclose, satisfies_between hbx hby]
    · simp [InBucket, hx, hy]
    · simp only [bucketClauses, hcontext, hb', Option.map_some]
      rfl

/-- A width from the first length on is selected by one name, unless it is one of the lengths. Such a
width is selected by no name, neither by its own nor by the one before. -/
theorem satisfies_names (s : QuerySettings γ) (hcontext : s.table.options.rangeContext = true)
    {xs : List ℚ} (ht : s.table.Graded xs) (context : Option γ) (w : ℚ) :
    (∀ i b, s.table.entries[i]? = some b →
      (satisfies w (conditionOf (s.compile b.name context)) ↔ InBucket xs i w)) ∧
    ((∀ x ∈ xs.head?, x ≤ w) →
      ((∃! b, b ∈ s.table.entries ∧ satisfies w (conditionOf (s.compile b.name context))) ↔
        w ∉ xs)) ∧
    (w ∈ xs → ∀ b ∈ s.table.entries, ¬ satisfies w (conditionOf (s.compile b.name context))) := by
  have hbucket {i : Nat} {b : Breakpoint} (hb : s.table.entries[i]? = some b) :=
    s.satisfies_compile_iff hcontext ht hb context w
  have hnone {b : Breakpoint} (hb : b ∈ s.table.entries)
      (hsat : satisfies w (conditionOf (s.compile b.name context))) : w ∉ xs := by
    obtain ⟨i, hi⟩ := List.mem_iff_getElem?.1 hb
    exact ((hbucket hi).1 hsat).notMem ht.increasing
  refine ⟨fun i b hb => hbucket hb, fun hw => ⟨?_, fun hm => ?_⟩, fun hm b hb hsat => hnone hb hsat hm⟩
  · rintro ⟨b, ⟨hb, hsat⟩, -⟩
    exact hnone hb hsat
  · have h0 : xs ≠ [] := by
      intro h
      have hlength := congrArg List.length ht.lengths
      rw [h, List.length_map, List.map_nil, List.length_nil, List.length_eq_zero_iff] at hlength
      exact s.table.nonempty hlength
    obtain ⟨i, hi⟩ := exists_inBucket ht.increasing h0 hw hm
    obtain ⟨b, hb⟩ : ∃ b, s.table.entries[i]? = some b := by
      obtain ⟨x, hx, -⟩ := id hi
      have hpixels := ht.getElem? i
      rw [hx, Option.map_some, Option.map_eq_some_iff] at hpixels
      obtain ⟨b, hb, -⟩ := hpixels
      exact ⟨b, hb⟩
    refine ⟨b, ⟨List.mem_of_getElem? hb, (hbucket hb).2 hi⟩, ?_⟩
    rintro b' ⟨hb', hsat⟩
    obtain ⟨j, hj⟩ := List.mem_iff_getElem?.1 hb'
    obtain rfl := ((hbucket hj).1 hsat).unique ht.increasing hi
    simpa [hb, eq_comm] using hj

theorem graded_tablet : (tabletSettings.inContext true).table.Graded [768, 992] where
  lengths := by decide +kernel
  increasing := by decide +kernel
  plain := by decide +kernel

theorem not_satisfies_names_tablet :
    ¬ satisfies 992 (conditionOf ((tabletSettings.inContext true).compile "md".toList none)) ∧
      ¬ satisfies 992 (conditionOf ((tabletSettings.inContext true).compile "lg".toList none)) := by
  have h := (satisfies_names (tabletSettings.inContext true) rfl graded_tablet none 992).2.2 (by simp)
  exact ⟨h ⟨"md".toList, "768px".toList⟩ (List.mem_of_getElem? (i := 0) rfl),
    h ⟨"lg".toList, "992px".toList⟩ (List.mem_of_getElem? (i := 1) rfl)⟩

theorem compile_tablet_names :
    (tabletSettings.inContext true).compile "md".toList none =
        "@media all and (768px < width < 992px)".toList ∧
      (tabletSettings.inContext true).compile "lg".toList none =
        "@media all and (width > 992px)".toList ∧
      satisfies 992 "768px < width < 992px".toList = false ∧
      satisfies 992 "width > 992px".toList = false := by
  decide +kernel

end QuerySettings

end ResponsiveStyles
