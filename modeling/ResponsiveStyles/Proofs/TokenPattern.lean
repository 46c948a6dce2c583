import ResponsiveStyles.Proofs.TokenReading

/-!
# Classification by patterns

The operands in front of a fragment are the ways in which the operand pattern matches, in the same
order, so that the token that is read from the preferred operand is the preferred match of the token
pattern.
-/
namespace ResponsiveStyles

namespace Pattern

variable {κ : Type}

theorem mem_ways_text {s t : Text} {m : PatternMatch κ} :
    m ∈ (text s).ways t ↔ ∃ r, t = s ++ r ∧ m = { matched := s, rest := r } := by
  rw [ways_text, Option.mem_toList, Option.map_eq_some_iff]
  simp only [List.isPrefixOf?_eq_some_iff_append_eq, eq_comm]

theorem begins_text (s t : Text) : (text s : Pattern κ).begins t = s.isPrefixOf t := by
  rw [begins, ways_text, ← List.isSome_isPrefixOf?_eq_isPrefixOf]
  cases s.isPrefixOf? t <;> rfl

end Pattern

namespace BreakpointTable

open Pattern

variable {t : BreakpointTable} {f : Text}

def bare (p : Text × Text) : PatternMatch TokenGroup :=
  { matched := p.1, rest := p.2 }

theorem ways_letters (f : Text) :
    (append letterPattern (append letterPattern (perhaps letterPattern))).ways f =
      (([3, 2].filter (· ≤ (f.takeWhile Char.isAlpha).length)).map fun n =>
        bare (f.take n, f.drop n)) := by
  rcases f with _ | ⟨a, _ | ⟨b, _ | ⟨c, r⟩⟩⟩
  · rfl
  · by_cases ha : a.isAlpha <;> simp [ways, letterPattern, perhaps, ha]
  · by_cases ha : a.isAlpha <;> by_cases hb : b.isAlpha <;>
      simp [ways, letterPattern, perhaps, bare, ha, hb]
  · by_cases ha : a.isAlpha <;> by_cases hb : b.isAlpha <;> by_cases hc : c.isAlpha <;>
      simp [ways, letterPattern, perhaps, bare, ha, hb, hc]

theorem ways_letters_of_digit {c : Char} {r : Text} (hc : Text.isDecimalDigit c) :
    (append letterPattern (append letterPattern (perhaps letterPattern))).ways (c :: r) = [] := by
  have ha : ¬ c.isAlpha := fun h => not_isDecimalDigit_of_isAlpha h hc
  simp [ways, letterPattern, ha]

theorem ways_literalPattern (f : Text) :
    literalPattern.ways f = (literalsBefore f).map bare := by
  let letters := append letterPattern (append letterPattern (perhaps letterPattern))
  let after (p : Text × Text) : List (PatternMatch TokenGroup) :=
    (letters.ways p.2).map fun n => ⟨n.groups, p.1 ++ n.matched, n.rest⟩
  have hways : literalPattern.ways f = (repeats Text.isDecimalDigit f).flatMap after := by
    simp [literalPattern, ways, after, letters, List.flatMap_map]
  have hstop (m : Text) (c : Char) (r : Text) (hc : Text.isDecimalDigit c) :
      after (m, c :: r) = [] := by
    simp [after, letters, ways_letters_of_digit hc]
  rw [hways, flatMap_repeats hstop, literalsBefore]
  split
  · rfl
  · simp [after, letters, ways_letters, bare, Function.comp_def]

theorem ways_operandPattern (t : BreakpointTable) (f : Text) :
    t.operandPattern.ways f = (t.operandsBefore f).map bare := by
  rw [operandPattern, ways_oneOf, operandsBefore, List.map_append, ways_literalPattern]
  congr 1
  induction t.names with
  | nil => rfl
  | cons n r ih =>
    rw [List.map_cons, List.flatMap_cons, ih, ways_text, List.filterMap_cons]
    cases n.isPrefixOf? f <;> rfl

theorem mem_ways_operandPattern {m : PatternMatch TokenGroup} :
    m ∈ t.operandPattern.ways f ↔ ∃ X r, t.Operand X ∧ f = X ++ r ∧ m = bare (X, r) := by
  rw [ways_operandPattern, List.mem_map]
  constructor
  · intro he
    obtain ⟨⟨X, r⟩, hX, rfl⟩ := he
    obtain ⟨hop, hf⟩ := mem_operandsBefore.1 hX
    exact ⟨X, r, hop, hf, rfl⟩
  · intro he
    obtain ⟨X, r, hop, hf, rfl⟩ := he
    exact ⟨(X, r), mem_operandsBefore.2 ⟨hop, hf⟩, rfl⟩

theorem mem_ways_comparatorPattern {m : PatternMatch TokenGroup} :
    m ∈ comparatorPattern.ways f ↔
      ∃ (c : Comparator) (r : Text), f = c.word ++ r ∧ m = bare (c.word, r) := by
  constructor
  · intro h
    simp only [comparatorPattern, perhaps, mem_ways_append, mem_ways_one, mem_ways_either,
      mem_ways_nothing, Bool.or_eq_true, decide_eq_true_eq] at h
    obtain ⟨_, ⟨_, _, rfl, ha, rfl⟩, _, ⟨_, ⟨_, _, rfl, rfl, rfl⟩, _, hb, rfl⟩, rfl⟩ := h
    rcases hb with ⟨_, _, rfl, rfl, rfl⟩ | rfl <;> rcases ha with rfl | rfl
    · exact ⟨.lte, _, rfl, rfl⟩
    · exact ⟨.gte, _, rfl, rfl⟩
    · exact ⟨.lt, _, rfl, rfl⟩
    · exact ⟨.gt, _, rfl, rfl⟩
  · intro he
    obtain ⟨c, r, rfl, rfl⟩ := he
    cases c <;> simp [Comparator.word, comparatorPattern, perhaps, ways, bare]

theorem mem_ways_comparisonPattern {m : PatternMatch TokenGroup} :
    m ∈ t.comparisonPattern.ways f ↔ ∃ (c : Comparator) (X r : Text), t.Operand X ∧
      f = c.word ++ '-' :: X ++ r ∧
      m = ⟨[(.comparator, c.word), (.target, X)], c.word ++ '-' :: X, r⟩ := by
  simp only [comparisonPattern, mem_ways_append, mem_ways_group, mem_ways_text,
    mem_ways_comparatorPattern, mem_ways_operandPattern, bare]
  constructor
  · intro he
    obtain ⟨_, ⟨_, ⟨c, _, rfl, rfl⟩, rfl⟩, _, ⟨_, ⟨_, rfl, rfl⟩, _, ⟨_, ⟨X, r, hX, rfl, rfl⟩, rfl⟩, rfl⟩, rfl⟩ := he
    exact ⟨c, X, r, hX, by simp, by simp⟩
  · intro he
    obtain ⟨c, X, r, hX, rfl, rfl⟩ := he
    refine ⟨_, ⟨_, ⟨c, '-' :: X ++ r, by simp, rfl⟩, rfl⟩, _, ⟨_, ⟨X ++ r, rfl, rfl⟩, _,
      ⟨_, ⟨X, r, hX, rfl, rfl⟩, rfl⟩, rfl⟩, ?_⟩
    simp

theorem mem_ways_tail {r : Text} {m : PatternMatch TokenGroup} :
    m ∈ (perhaps t.tailPattern).ways r ∧ m.rest = [] ↔
      (∃ B, t.Operand B ∧ r = "-to-".toList ++ B ∧ m = ⟨[(.last, B)], r, []⟩) ∨
      (t.options.suffixes ∧ r = "-up".toList ∧ m = ⟨[(.direction, "up".toList)], r, []⟩) ∨
      (t.options.suffixes ∧ r = "-down".toList ∧ m = ⟨[(.direction, "down".toList)], r, []⟩) ∨
      (r = [] ∧ m = bare ([], [])) := by
  have hlast : m ∈ t.lastPattern.ways r ∧ m.rest = [] ↔
      ∃ B, t.Operand B ∧ r = "-to-".toList ++ B ∧ m = ⟨[(.last, B)], r, []⟩ := by
    simp only [lastPattern, mem_ways_append, mem_ways_group, mem_ways_text,
      mem_ways_operandPattern, bare]
    constructor
    · intro he
      obtain ⟨⟨_, ⟨_, rfl, rfl⟩, _, ⟨_, ⟨B, _, hB, rfl, rfl⟩, rfl⟩, rfl⟩, rfl⟩ := he
      exact ⟨B, hB, by simp, by simp⟩
    · intro he
      obtain ⟨B, hB, rfl, rfl⟩ := he
      exact ⟨⟨_, ⟨B, rfl, rfl⟩, _, ⟨_, ⟨B, [], hB, by simp, rfl⟩, rfl⟩, by simp⟩, rfl⟩
  have hdir : m ∈ directionPattern.ways r ∧ m.rest = [] ↔
      (r = "-up".toList ∧ m = ⟨[(.direction, "up".toList)], r, []⟩) ∨
      (r = "-down".toList ∧ m = ⟨[(.direction, "down".toList)], r, []⟩) := by
    simp only [directionPattern, mem_ways_append, mem_ways_group, mem_ways_text,
      mem_ways_either]
    constructor
    · intro he
      rcases he with ⟨⟨_, ⟨_, rfl, rfl⟩, _, ⟨_, ⟨_, rfl, rfl⟩ | ⟨_, rfl, rfl⟩, rfl⟩, rfl⟩, rfl⟩
      · exact .inl ⟨rfl, rfl⟩
      · exact .inr ⟨rfl, rfl⟩
    · intro he
      rcases he with ⟨rfl, rfl⟩ | ⟨rfl, rfl⟩
      · exact ⟨⟨_, ⟨_, rfl, rfl⟩, _, ⟨_, .inl ⟨[], rfl, rfl⟩, rfl⟩, rfl⟩, rfl⟩
      · exact ⟨⟨_, ⟨_, rfl, rfl⟩, _, ⟨_, .inr ⟨[], rfl, rfl⟩, rfl⟩, rfl⟩, rfl⟩
  have hnothing : m = { matched := [], rest := r } ∧ m.rest = [] ↔ r = [] ∧ m = bare ([], []) := by
    constructor
    · intro he
      obtain ⟨rfl, rfl⟩ := he
      exact ⟨rfl, rfl⟩
    · intro he
      obtain ⟨rfl, rfl⟩ := he
      exact ⟨rfl, rfl⟩
  rw [perhaps, mem_ways_either, mem_ways_nothing, or_and_right, hnothing, tailPattern]
  split
  · rename_i hs
    rw [mem_ways_either, or_and_right, hlast, hdir]
    simp only [hs, true_and, or_assoc]
  · rename_i hs
    rw [hlast]
    simp only [hs, Bool.false_eq_true, false_and, false_or]

theorem whole?_comparisonPattern :
    (t.comparisonPattern.whole? f).map (t.shapeOf f) = t.comparison? f := by
  cases h : t.comparisonPattern.whole? f with
  | none =>
    rw [whole?_eq_none_iff] at h
    refine (comparison?_eq_none_iff.2 fun c X hX => ?_).symm
    exact h _ (mem_ways_comparisonPattern.2 ⟨c, X, [], hX.1, by simpa using hX.2, rfl⟩) rfl
  | some m =>
    obtain ⟨hm, hr⟩ := mem_ways_of_whole? h
    obtain ⟨c, X, r, hX, hf, rfl⟩ := mem_ways_comparisonPattern.1 hm
    obtain rfl : r = [] := hr
    have hc : Comparator.ofWord? c.word = some c := by cases c <;> decide
    refine (comparison?_eq_some_iff.2 ⟨c, X, ⟨hX, by simpa using hf⟩, ?_⟩).symm
    simp [shapeOf, PatternMatch.group?, hc]

def tail? (t : BreakpointTable) (A r : Text) : Option (PatternMatch TokenGroup) :=
  (((perhaps t.tailPattern).ways r).map fun n =>
    ⟨(.first, A) :: n.groups, A ++ n.matched, n.rest⟩).find? fun m => m.rest.isEmpty

theorem map_shapeOf_tail? {A r : Text} (hn : ¬ t.isName (A ++ r)) :
    (t.tail? A r).map (t.shapeOf (A ++ r)) = t.reading? A r := by
  cases h : t.tail? A r with
  | none =>
    rw [tail?, List.find?_eq_none] at h
    have hno (m : PatternMatch TokenGroup)
        (hm : m ∈ (perhaps t.tailPattern).ways r ∧ m.rest = []) : False := by
      have := h _ (List.mem_map.2 ⟨m, hm.1, rfl⟩)
      simp [hm.2] at this
    refine (Option.eq_none_iff_forall_ne_some.2 fun s hs => ?_).symm
    rw [reading?_eq_some_iff, says_append_iff] at hs
    rcases hs with ⟨B, hB, hr, -⟩ | ⟨hs, hr, -⟩ | ⟨hs, hr, -⟩ | ⟨hr, -⟩
    · exact hno _ (mem_ways_tail.2 (.inl ⟨B, hB, hr, rfl⟩))
    · exact hno _ (mem_ways_tail.2 (.inr (.inl ⟨hs, hr, rfl⟩)))
    · exact hno _ (mem_ways_tail.2 (.inr (.inr (.inl ⟨hs, hr, rfl⟩))))
    · exact hno _ (mem_ways_tail.2 (.inr (.inr (.inr ⟨hr, rfl⟩))))
  | some m =>
    rw [tail?] at h
    obtain ⟨n, hn', rfl⟩ := List.mem_map.1 (List.mem_of_find?_eq_some h)
    have hrest : n.rest = [] := by simpa using List.find?_some h
    rw [Option.map_some]
    refine (reading?_eq_some_iff.2 (says_append_iff.2 ?_)).symm
    rcases mem_ways_tail.1 ⟨hn', hrest⟩ with
      ⟨B, hB, hr, rfl⟩ | ⟨hs, hr, rfl⟩ | ⟨hs, hr, rfl⟩ | ⟨rfl, rfl⟩
    · exact .inl ⟨B, hB, hr, rfl⟩
    · exact .inr (.inl ⟨hs, hr, rfl⟩)
    · exact .inr (.inr (.inl ⟨hs, hr, rfl⟩))
    · refine .inr (.inr (.inr ⟨rfl, ?_⟩))
      rw [List.append_nil] at hn
      simp [shapeOf, PatternMatch.group?, bare, hn]

theorem whole?_firstPattern (hn : ¬ t.isName f) :
    ((append (.group .first t.operandPattern) (perhaps t.tailPattern)).whole? f).map
        (t.shapeOf f) =
      (t.operandsBefore f).findSome? fun (operand, rest) => t.reading? operand rest := by
  have hfind : (append (.group .first t.operandPattern) (perhaps t.tailPattern)).whole? f =
      (t.operandsBefore f).findSome? fun p => t.tail? p.1 p.2 := by
    simp only [whole?, ways, ways_operandPattern, List.map_map, List.find?_flatMap,
      List.findSome?_map]
    rfl
  rw [hfind, List.map_findSome?]
  have hstep (p : Text × Text) (hp : p ∈ t.operandsBefore f) :
      (t.tail? p.1 p.2).map (t.shapeOf f) = t.reading? p.1 p.2 := by
    obtain ⟨-, rfl⟩ := mem_operandsBefore.1 hp
    exact map_shapeOf_tail? hn
  revert hstep
  generalize t.operandsBefore f = ps
  intro hstep
  induction ps with
  | nil => rfl
  | cons p r ih =>
    rw [List.findSome?_cons, List.findSome?_cons, Function.comp_apply, hstep p (by simp),
      ih fun q hq => hstep q (by simp [hq])]

theorem begins_rangePattern : t.rangePattern.begins f = t.isDangling f := by
  rw [rangePattern, begins_append, ways_operandPattern, List.any_map, isDangling]
  congr 1
  funext p
  exact begins_text _ _

theorem classify_eq_matchedShape? (t : BreakpointTable) (f : Text) :
    t.classify f = t.matchedShape? f := by
  rw [classify, matchedShape?]
  split
  · rfl
  · rename_i hn
    have hwhole : (t.tokenPattern.whole? f).map (t.shapeOf f) = (t.comparison? f).or
        ((t.operandsBefore f).findSome? fun (operand, rest) => t.reading? operand rest) := by
      rw [← whole?_comparisonPattern, ← whole?_firstPattern hn, ← Option.map_or, tokenPattern,
        whole?_either]
    rw [← begins_rangePattern]
    cases hw : t.tokenPattern.whole? f with
    | none =>
      rw [hw, Option.map_none, eq_comm, Option.or_eq_none_iff] at hwhole
      simp only [hwhole.1, hwhole.2]
    | some m =>
      rw [hw, Option.map_some] at hwhole
      cases hc : t.comparison? f with
      | none =>
        rw [hc, Option.none_or] at hwhole
        simp only [← hwhole]
      | some s =>
        rw [hc, Option.some_or] at hwhole
        simp only [hwhole]

/-- The shape of a fragment is its preferred reading and no other, it is what the patterns of the table
find, and it spells the fragment. -/
theorem classify_preferred_reading (t : BreakpointTable) (f : Text) :
    (∀ r, t.classify f = r ↔ t.Reads f r) ∧
      t.classify f = t.matchedShape? f ∧
      (t.classify f).all fun s => s.spelling = f := by
  have hreads : t.Reads f (t.classify f) := reads_classify t f
  refine ⟨fun r => ⟨?_, Reads.classify_eq⟩, classify_eq_matchedShape? t f, ?_⟩
  · intro he
    subst he
    exact hreads
  · rw [Option.all_eq_true]
    intro s hs
    rw [hs] at hreads
    simpa using hreads.spelling_eq

end BreakpointTable

end ResponsiveStyles
