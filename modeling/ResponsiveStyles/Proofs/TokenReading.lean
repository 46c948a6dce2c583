import ResponsiveStyles.Breakpoint.Grammar
import Mathlib.Data.List.Basic
import Mathlib.Data.List.TakeWhile

/-!
# The readings of a fragment

Names may begin one another, and may look like comparisons, ranges or literals, so that one fragment
can be read in several ways. The readings are said here without any search: which operand, which
comparison, which text after the first operand. Classification picks the one that has precedence, and
the shape it gives always spells the fragment.
-/
namespace ResponsiveStyles

/-- Decimal digits of any script in front of two or three ASCII letters. -/
def Literal (f : Text) : Prop :=
  ∃ digits letters : Text, f = digits ++ letters ∧ digits ≠ [] ∧
    (∀ c ∈ digits, Text.isDecimalDigit c) ∧ (∀ c ∈ letters, c.isAlpha) ∧
    (letters.length = 2 ∨ letters.length = 3)

theorem toNat_of_isAlpha {c : Char} (h : c.isAlpha) :
    (0x41 ≤ c.toNat ∧ c.toNat ≤ 0x5A) ∨ (0x61 ≤ c.toNat ∧ c.toNat ≤ 0x7A) := by
  change (decide (0x41 ≤ c.toNat ∧ c.toNat ≤ 0x5A) ||
    (decide (0x61 ≤ c.toNat) && decide (c.toNat ≤ 0x7A))) = true at h
  simpa only [Bool.or_eq_true, Bool.and_eq_true, decide_eq_true_eq] using h

theorem toNat_of_isDecimalDigit {c : Char} (h : Text.isDecimalDigit c) :
    (0x30 ≤ c.toNat ∧ c.toNat ≤ 0x39) ∨ 0x660 ≤ c.toNat := by
  have hzeros : ∀ z ∈ Text.decimalZeros, z = 0x30 ∨ 0x660 ≤ z := by decide
  obtain ⟨z, hm, hle, hlt⟩ := Text.isDecimalDigit_iff.1 h
  have hz := hzeros z hm
  omega

theorem not_isDecimalDigit_of_isAlpha {c : Char} (h : c.isAlpha) : ¬ Text.isDecimalDigit c := by
  intro hd
  have hn := toNat_of_isAlpha h
  have hc := toNat_of_isDecimalDigit hd
  omega

theorem takeWhile_digits {digits r : Text} (hd : ∀ c ∈ digits, Text.isDecimalDigit c)
    (hr : ∀ c ∈ r.head?, ¬ Text.isDecimalDigit c) :
    (digits ++ r).takeWhile Text.isDecimalDigit = digits ∧
      (digits ++ r).dropWhile Text.isDecimalDigit = r :=
  Text.takeWhile_append_of_head hd hr

theorem head?_letters {letters r : Text} (hl : ∀ c ∈ letters, c.isAlpha) (h0 : letters ≠ []) :
    ∀ c ∈ (letters ++ r).head?, ¬ Text.isDecimalDigit c := by
  cases letters with
  | nil => exact absurd rfl h0
  | cons c s =>
    intro c' hc
    obtain rfl : c = c' := by simpa using hc
    exact not_isDecimalDigit_of_isAlpha (hl c (by simp))

theorem Literal.notMem {f : Text} (h : Literal f) {c : Char} (hd : ¬ Text.isDecimalDigit c)
    (ha : ¬ c.isAlpha) : c ∉ f := by
  obtain ⟨digits, letters, rfl, -, hdigits, hletters, -⟩ := h
  intro hm
  rcases List.mem_append.1 hm with hm | hm
  · exact hd (hdigits c hm)
  · exact ha (hletters c hm)

theorem Literal.hyphen_notMem {f : Text} (h : Literal f) : '-' ∉ f :=
  h.notMem (by decide) (by decide)

namespace BreakpointTable

def Operand (t : BreakpointTable) (f : Text) : Prop :=
  f ∈ t.names ∨ Literal f

def Compares (t : BreakpointTable) (f : Text) (c : Comparator) (X : Text) : Prop :=
  t.Operand X ∧ f = c.word ++ '-' :: X

/-- What a fragment says when it is read from its first operand `A` on. -/
inductive Says (t : BreakpointTable) (A : Text) : Text → TokenShape → Prop where
  | between {B : Text} (hB : t.Operand B) : Says t A (A ++ "-to-".toList ++ B) (.between A B)
  | up (hs : t.options.suffixes) : Says t A (A ++ "-up".toList) (.up A)
  | down (hs : t.options.suffixes) : Says t A (A ++ "-down".toList) (.down A)
  | alone : Says t A A (.literal A)

/-- The reading from the first name that gives one, or from a literal when no name does. -/
def SaysFirst (t : BreakpointTable) (f : Text) (s : TokenShape) : Prop :=
  (∃ before A after, t.names = before ++ A :: after ∧ t.Says A f s ∧
      ∀ n ∈ before, ∀ s', ¬ t.Says n f s') ∨
    (∀ n ∈ t.names, ∀ s', ¬ t.Says n f s') ∧ ∃ A, Literal A ∧ t.Says A f s

def Opens (t : BreakpointTable) (f : Text) : Prop :=
  ∃ A r, t.Operand A ∧ f = A ++ "-to-".toList ++ r

/-- The reading that has precedence. -/
inductive Reads (t : BreakpointTable) (f : Text) : Option TokenShape → Prop where
  | only (hn : f ∈ t.names) : Reads t f (some (.only f))
  | compared {c : Comparator} {X : Text} (hn : f ∉ t.names) (hc : t.Compares f c X) :
      Reads t f (some (.compared c X))
  | first {s : TokenShape} (hn : f ∉ t.names) (hc : ∀ c X, ¬ t.Compares f c X)
      (hs : t.SaysFirst f s) : Reads t f (some s)
  | dangling (hn : f ∉ t.names) (hc : ∀ c X, ¬ t.Compares f c X)
      (hs : ∀ s, ¬ t.SaysFirst f s) (ho : t.Opens f) : Reads t f (some (.dangling f))
  | none (hn : f ∉ t.names) (hc : ∀ c X, ¬ t.Compares f c X)
      (hs : ∀ s, ¬ t.SaysFirst f s) (ho : ¬ t.Opens f) : Reads t f none

end BreakpointTable

def TokenShape.spelling : TokenShape → Text
  | .only name => name
  | .literal length => length
  | .compared c operand => c.word ++ '-' :: operand
  | .between first last => first ++ "-to-".toList ++ last
  | .up operand => operand ++ "-up".toList
  | .down operand => operand ++ "-down".toList
  | .dangling f => f

theorem findSome?_eq_some_of_agree {α β : Type} {g : α → Option β} {l : List α} {a : α} {b : β}
    (ha : a ∈ l) (hb : g a = some b) (hall : ∀ x ∈ l, ∀ b', g x = some b' → b' = b) :
    l.findSome? g = some b := by
  cases hf : l.findSome? g with
  | none =>
    rw [List.findSome?_eq_none_iff] at hf
    rw [hf a ha] at hb
    exact absurd hb (by simp)
  | some b' =>
    obtain ⟨x, hx, hg⟩ := List.exists_of_findSome?_eq_some hf
    rw [hall x hx b' hg]

namespace BreakpointTable

variable {t : BreakpointTable} {f A rest : Text} {s : TokenShape}

theorem isName_iff : t.isName f ↔ f ∈ t.names := by
  simp [isName]

theorem isLiteral_iff : isLiteral f ↔ Literal f := by
  simp only [isLiteral, Bool.and_eq_true, Bool.not_eq_true', List.isEmpty_eq_false_iff,
    List.all_eq_true, decide_eq_true_eq, Bool.or_eq_true]
  constructor
  · intro he
    obtain ⟨⟨hd, hl⟩, hn⟩ := he
    exact ⟨_, _, List.takeWhile_append_dropWhile.symm, hd, fun c hc => List.mem_takeWhile_imp hc,
      hl, hn⟩
  · intro he
    obtain ⟨digits, letters, rfl, h0, hd, hl, hn⟩ := he
    have hne : letters ≠ [] := by intro he; subst he; simp at hn
    have hr := head?_letters (r := []) hl hne
    rw [List.append_nil] at hr
    obtain ⟨ht, hw⟩ := takeWhile_digits hd hr
    rw [ht, hw]
    exact ⟨⟨h0, hl⟩, hn⟩

theorem isOperand_iff : t.isOperand f ↔ t.Operand f := by
  rw [isOperand, Bool.or_eq_true, isName_iff, isLiteral_iff, Operand]

theorem mem_literalsBefore : (A, rest) ∈ literalsBefore f ↔ Literal A ∧ f = A ++ rest := by
  constructor
  · intro h
    simp only [literalsBefore] at h
    split at h
    · simp at h
    · rename_i hne
      simp only [List.mem_map, List.mem_filter, decide_eq_true_eq, Prod.mk.injEq] at h
      obtain ⟨n, ⟨hn, hle⟩, rfl, rfl⟩ := h
      set r := f.dropWhile Text.isDecimalDigit with hr
      have htake : r.take n = (r.takeWhile Char.isAlpha).take n := by
        rw [← List.takeWhile_append_dropWhile (p := Char.isAlpha) (l := r),
          List.take_append_of_le_length (by simpa using hle)]
        simp
      have hlen : (r.take n).length = n := by
        have := (List.takeWhile_sublist Char.isAlpha (l := r)).length_le
        rw [List.length_take]
        omega
      refine ⟨⟨_, _, rfl, by simpa using hne, fun c hc => List.mem_takeWhile_imp hc, ?_, ?_⟩, ?_⟩
      · intro c hc
        rw [htake] at hc
        exact List.mem_takeWhile_imp (List.mem_of_mem_take hc)
      · rw [hlen]
        simp only [List.mem_cons, List.not_mem_nil, or_false] at hn
        omega
      · rw [List.append_assoc, List.take_append_drop, List.takeWhile_append_dropWhile]
  · intro he
    obtain ⟨⟨digits, letters, rfl, h0, hd, hl, hn⟩, rfl⟩ := he
    have hne : letters ≠ [] := by intro he; subst he; simp at hn
    rw [List.append_assoc]
    obtain ⟨ht, hw⟩ := takeWhile_digits hd (head?_letters (r := rest) hl hne)
    have hlen : letters.length ≤ ((letters ++ rest).takeWhile Char.isAlpha).length := by
      rw [List.takeWhile_append_of_pos hl, List.length_append]
      omega
    simp only [literalsBefore, ht, hw]
    rw [if_neg (by simpa using h0)]
    refine List.mem_map.2 ⟨letters.length, List.mem_filter.2 ⟨?_, by simpa using hlen⟩, ?_⟩
    · simp only [List.mem_cons, List.not_mem_nil, or_false]
      omega
    · simp

theorem mem_operandsBefore :
    (A, rest) ∈ t.operandsBefore f ↔ t.Operand A ∧ f = A ++ rest := by
  simp only [operandsBefore, List.mem_append, List.mem_filterMap, Option.map_eq_some_iff,
    Prod.mk.injEq, mem_literalsBefore, List.isPrefixOf?_eq_some_iff_append_eq,
    Operand]
  constructor
  · intro he
    rcases he with ⟨n, hn, r, hr, rfl, rfl⟩ | ⟨hl, hf⟩
    · exact ⟨.inl hn, hr.symm⟩
    · exact ⟨.inr hl, hf⟩
  · intro he
    rcases he with ⟨hn | hl, hf⟩
    · exact .inl ⟨A, hn, rest, hf.symm, rfl, rfl⟩
    · exact .inr ⟨hl, hf⟩

theorem Compares.unique {c d : Comparator} {X Y : Text} (hX : t.Compares f c X)
    (hY : t.Compares f d Y) : c = d ∧ X = Y := by
  have h := hX.2.symm.trans hY.2
  cases c <;> cases d <;> simp_all [Comparator.word]

theorem comparison?_eq_some_iff :
    t.comparison? f = some s ↔ ∃ c X, t.Compares f c X ∧ s = .compared c X := by
  have hstep (c : Comparator) (s : TokenShape) :
      t.compared? f c = some s ↔ ∃ X, t.Compares f c X ∧ s = .compared c X := by
    rw [compared?]
    have hpre (X : Text) : (c.word ++ ['-']).isPrefixOf? f = some X ↔ f = c.word ++ '-' :: X := by
      rw [List.isPrefixOf?_eq_some_iff_append_eq, List.append_assoc, List.singleton_append, eq_comm]
    split
    · rename_i X hX
      rw [hpre] at hX
      constructor
      · intro h
        split at h
        · rename_i hop
          exact ⟨X, ⟨isOperand_iff.1 hop, hX⟩, by simpa using h.symm⟩
        · simp at h
      · intro he
        obtain ⟨Y, ⟨hop, hf⟩, rfl⟩ := he
        obtain rfl : X = Y := by simpa [hX] using hf
        rw [if_pos (isOperand_iff.2 hop)]
    · rename_i hX
      refine ⟨fun h => by simp at h, ?_⟩
      intro he
      obtain ⟨X, ⟨-, hf⟩, -⟩ := he
      rw [(hpre X).2 hf] at hX
      simp at hX
  constructor
  · intro h
    obtain ⟨c, -, hc⟩ := List.exists_of_findSome?_eq_some h
    exact ⟨c, (hstep c s).1 hc⟩
  · intro he
    obtain ⟨c, X, hX, rfl⟩ := he
    have hc : c ∈ Comparator.all := by cases c <;> simp [Comparator.all]
    refine findSome?_eq_some_of_agree hc ((hstep c _).2 ⟨X, hX, rfl⟩) ?_
    intro d _ s' hd
    obtain ⟨Y, hY, rfl⟩ := (hstep d s').1 hd
    obtain ⟨rfl, rfl⟩ := hX.unique hY
    rfl

theorem comparison?_eq_none_iff : t.comparison? f = none ↔ ∀ c X, ¬ t.Compares f c X := by
  rw [Option.eq_none_iff_forall_ne_some]
  constructor
  · intro h c X hX
    exact h _ (comparison?_eq_some_iff.2 ⟨c, X, hX, rfl⟩)
  · intro h s hs
    obtain ⟨c, X, hX, -⟩ := comparison?_eq_some_iff.1 hs
    exact h c X hX

theorem says_append_iff :
    t.Says A (A ++ rest) s ↔
      (∃ B, t.Operand B ∧ rest = "-to-".toList ++ B ∧ s = .between A B) ∨
      (t.options.suffixes ∧ rest = "-up".toList ∧ s = .up A) ∨
      (t.options.suffixes ∧ rest = "-down".toList ∧ s = .down A) ∨
      (rest = [] ∧ s = .literal A) := by
  constructor
  · intro h
    generalize hf : A ++ rest = f at h
    cases h with
    | between hB =>
      rw [List.append_assoc, List.append_cancel_left_eq] at hf
      exact .inl ⟨_, hB, hf, rfl⟩
    | up hs => exact .inr (.inl ⟨hs, List.append_cancel_left hf, rfl⟩)
    | down hs => exact .inr (.inr (.inl ⟨hs, List.append_cancel_left hf, rfl⟩))
    | alone => exact .inr (.inr (.inr ⟨by simpa using hf, rfl⟩))
  · intro he
    rcases he with ⟨B, hB, rfl, rfl⟩ | ⟨hs, rfl, rfl⟩ | ⟨hs, rfl, rfl⟩ | ⟨rfl, rfl⟩
    · rw [← List.append_assoc]
      exact .between hB
    · exact .up hs
    · exact .down hs
    · rw [List.append_nil]
      exact .alone

theorem reading?_eq_some_iff : t.reading? A rest = some s ↔ t.Says A (A ++ rest) s := by
  have hto (r : Text) : "-to-".toList.isPrefixOf? rest = some r ↔ rest = "-to-".toList ++ r :=
    List.isPrefixOf?_eq_some_iff_append_eq.trans eq_comm
  rw [says_append_iff]
  constructor
  · intro h
    rw [reading?] at h
    split at h
    · rename_i B hB
      split at h
      · exact .inl ⟨B, isOperand_iff.1 ‹_›, (hto B).1 hB, by simpa using h.symm⟩
      · simp at h
    · split_ifs at h with h0 hs hu hd
      · exact .inr (.inr (.inr ⟨h0, by simpa using h.symm⟩))
      · exact .inr (.inl ⟨by simpa using hs, hu, by simpa using h.symm⟩)
      · exact .inr (.inr (.inl ⟨by simpa using hs, hd, by simpa using h.symm⟩))
  · intro he
    rcases he with ⟨B, hB, hr, rfl⟩ | ⟨hs, rfl, rfl⟩ | ⟨hs, rfl, rfl⟩ | ⟨rfl, rfl⟩
    · rw [reading?, (hto _).2 hr]
      simp [isOperand_iff.2 hB]
    · have hup : "-to-".toList.isPrefixOf? "-up".toList = none := rfl
      rw [reading?, hup]
      simp [hs]
    · have hdown : "-to-".toList.isPrefixOf? "-down".toList = none := rfl
      rw [reading?, hdown]
      simp [hs]
    · have hnil : "-to-".toList.isPrefixOf? [] = none := rfl
      rw [reading?, hnil]
      simp

theorem Says.exists_rest (h : t.Says A f s) :
    ∃ r, f = A ++ r ∧ (r = [] ∨ r.head? = some '-') := by
  cases h with
  | between hB => exact ⟨_, List.append_assoc _ _ _, .inr rfl⟩
  | up hs => exact ⟨_, rfl, .inr rfl⟩
  | down hs => exact ⟨_, rfl, .inr rfl⟩
  | alone => exact ⟨[], by simp, .inl rfl⟩

theorem Says.eq_takeWhile (h : t.Says A f s) (hA : '-' ∉ A) : A = f.takeWhile (· ≠ '-') := by
  obtain ⟨r, rfl, hr⟩ := h.exists_rest
  have hchar : ∀ c ∈ A, decide (c ≠ '-') := by
    intro c hc
    exact decide_eq_true fun he => hA (he ▸ hc)
  rw [List.takeWhile_append_of_pos hchar]
  rcases hr with rfl | hr
  · simp
  · cases r with
    | nil => simp
    | cons c r =>
      obtain rfl : c = '-' := by simpa using hr
      simp

theorem bind_reading?_eq_some_iff :
    (A.isPrefixOf? f).bind (t.reading? A) = some s ↔ t.Says A f s := by
  rw [Option.bind_eq_some_iff]
  constructor
  · intro he
    obtain ⟨r, hr, h⟩ := he
    rw [← List.isPrefixOf?_eq_some_iff_append_eq.1 hr]
    exact reading?_eq_some_iff.1 h
  · intro h
    obtain ⟨r, rfl, -⟩ := h.exists_rest
    exact ⟨r, List.isPrefixOf?_eq_some_iff_append_eq.2 rfl, reading?_eq_some_iff.2 h⟩

theorem bind_reading?_eq_none_iff :
    (A.isPrefixOf? f).bind (t.reading? A) = none ↔ ∀ s, ¬ t.Says A f s := by
  simp only [← bind_reading?_eq_some_iff, Option.eq_none_iff_forall_ne_some, ne_eq]

theorem findSome?_names :
    (t.names.filterMap fun n => (n.isPrefixOf? f).map (n, ·)).findSome?
      (fun (operand, rest) => t.reading? operand rest) =
    t.names.findSome? fun n => (n.isPrefixOf? f).bind (t.reading? n) := by
  induction t.names with
  | nil => rfl
  | cons n r ih =>
    rw [List.filterMap_cons, List.findSome?_cons]
    cases n.isPrefixOf? f with
    | none => simpa using ih
    | some rest =>
      simp only [Option.map_some, Option.bind_some, List.findSome?_cons]
      rw [ih]

theorem findSome?_literals :
    (literalsBefore f).findSome? (fun (operand, rest) => t.reading? operand rest) = some s ↔
      ∃ A, Literal A ∧ t.Says A f s := by
  constructor
  · intro h
    obtain ⟨⟨A, r⟩, hm, hs⟩ := List.exists_of_findSome?_eq_some h
    obtain ⟨hA, rfl⟩ := mem_literalsBefore.1 hm
    exact ⟨A, hA, reading?_eq_some_iff.1 hs⟩
  · intro he
    obtain ⟨A, hA, h⟩ := he
    obtain ⟨r, rfl, -⟩ := h.exists_rest
    refine findSome?_eq_some_of_agree (mem_literalsBefore.2 ⟨hA, rfl⟩)
      (reading?_eq_some_iff.2 h) ?_
    intro ⟨A', r'⟩ hm s' hs'
    -- a literal has no hyphen, so the fragment has only one literal in front of its tail
    obtain ⟨hA', hf⟩ := mem_literalsBefore.1 hm
    have h' : t.Says A' (A ++ r) s' := hf ▸ reading?_eq_some_iff.1 hs'
    obtain rfl : A = A' :=
      (h.eq_takeWhile hA.hyphen_notMem).trans (h'.eq_takeWhile hA'.hyphen_notMem).symm
    obtain rfl := List.append_cancel_left hf
    exact Option.some.inj ((reading?_eq_some_iff.2 h').symm.trans (reading?_eq_some_iff.2 h))

theorem findSome?_operandsBefore :
    (t.operandsBefore f).findSome? (fun (operand, rest) => t.reading? operand rest) = some s ↔
      t.SaysFirst f s := by
  rw [operandsBefore, List.findSome?_append, Option.or_eq_some_iff, findSome?_names,
    findSome?_literals, List.findSome?_eq_some_iff, List.findSome?_eq_none_iff]
  simp only [bind_reading?_eq_some_iff, bind_reading?_eq_none_iff, SaysFirst]

theorem findSome?_operandsBefore_eq_none_iff :
    (t.operandsBefore f).findSome? (fun (operand, rest) => t.reading? operand rest) = none ↔
      ∀ s, ¬ t.SaysFirst f s := by
  simp only [Option.eq_none_iff_forall_ne_some, ne_eq, findSome?_operandsBefore]

theorem isDangling_iff : t.isDangling f ↔ t.Opens f := by
  simp only [isDangling, List.any_eq_true, Opens]
  constructor
  · intro he
    obtain ⟨⟨A, r⟩, hm, hr⟩ := he
    obtain ⟨hA, rfl⟩ := mem_operandsBefore.1 hm
    obtain ⟨r', rfl⟩ := List.isPrefixOf_iff_prefix.1 hr
    exact ⟨A, r', hA, by simp⟩
  · intro he
    obtain ⟨A, r, hA, rfl⟩ := he
    exact ⟨(A, "-to-".toList ++ r), mem_operandsBefore.2 ⟨hA, by simp⟩,
      List.isPrefixOf_iff_prefix.2 ⟨r, rfl⟩⟩

theorem reads_classify (t : BreakpointTable) (f : Text) : t.Reads f (t.classify f) := by
  rw [classify]
  split
  · rename_i hn
    exact .only (isName_iff.1 hn)
  rename_i hn
  rw [isName_iff] at hn
  split
  · rename_i s hs
    obtain ⟨c, X, hX, rfl⟩ := comparison?_eq_some_iff.1 hs
    exact .compared hn hX
  rename_i hc
  rw [comparison?_eq_none_iff] at hc
  split
  · rename_i s hs
    exact .first hn hc (findSome?_operandsBefore.1 hs)
  rename_i hs
  rw [findSome?_operandsBefore_eq_none_iff] at hs
  split
  · rename_i ho
    exact .dangling hn hc hs (isDangling_iff.1 ho)
  · rename_i ho
    exact .none hn hc hs (mt isDangling_iff.2 ho)

theorem Reads.classify_eq {r : Option TokenShape} (h : t.Reads f r) : t.classify f = r := by
  cases h with
  | only hn => rw [classify, if_pos (isName_iff.2 hn)]
  | compared hn hX =>
    rw [classify, if_neg (mt isName_iff.1 hn), comparison?_eq_some_iff.2 ⟨_, _, hX, rfl⟩]
  | first hn hc hs =>
    rw [classify, if_neg (mt isName_iff.1 hn), comparison?_eq_none_iff.2 hc]
    simp only [findSome?_operandsBefore.2 hs]
  | dangling hn hc hs ho =>
    rw [classify, if_neg (mt isName_iff.1 hn), comparison?_eq_none_iff.2 hc]
    simp only [findSome?_operandsBefore_eq_none_iff.2 hs, isDangling_iff.2 ho, if_true]
  | none hn hc hs ho =>
    rw [classify, if_neg (mt isName_iff.1 hn), comparison?_eq_none_iff.2 hc]
    simp only [findSome?_operandsBefore_eq_none_iff.2 hs]
    rw [if_neg (mt isDangling_iff.1 ho)]

theorem Says.spelling_eq (h : t.Says A f s) : s.spelling = f := by
  cases h <;> rfl

theorem Reads.spelling_eq (h : t.Reads f (some s)) : s.spelling = f := by
  cases h with
  | only hn => rfl
  | compared hn hX => exact hX.2.symm
  | first hn hc hs =>
    rcases hs with ⟨_, _, _, _, h, _⟩ | ⟨_, _, _, h⟩
    · exact h.spelling_eq
    · exact h.spelling_eq
  | dangling hn hc hs ho => rfl

end BreakpointTable

end ResponsiveStyles
