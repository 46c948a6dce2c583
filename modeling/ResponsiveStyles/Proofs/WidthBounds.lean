import ResponsiveStyles.Proofs.DegradedBranches
import ResponsiveStyles.Proofs.TokenResolution

/-!
# The bounds of a branch in both ways of writing them

Least and greatest widths are kept apart, so that each is that of the last token that has one. In range
context a branch says one condition, that of its last token. The two say the same bounds just when the
last token has every bound that some token of the branch has.
-/
namespace ResponsiveStyles

variable {γ : Type}

namespace BreakpointTable

/-- The table with its tokens written in range context, or as least and greatest widths. -/
def inContext (t : BreakpointTable) (rangeContext : Bool) : BreakpointTable :=
  { t with options := { t.options with rangeContext } }

def rangeOf? (t : BreakpointTable) (f : Text) : Option WidthRange :=
  if IsOrientation f then none else (t.classify f).bind t.range?

/-- The ranges of the tokens of a branch. -/
def ranges (t : BreakpointTable) (fs : List Text) : List WidthRange :=
  (spokenBody fs).filterMap t.rangeOf?

theorem range?_inContext (t : BreakpointTable) (b : Bool) (s : TokenShape) :
    (t.inContext b).range? s = t.range? s := by
  cases s <;> rfl

theorem rangeOf?_inContext (t : BreakpointTable) (b : Bool) (f : Text) :
    (t.inContext b).rangeOf? f = t.rangeOf? f := by
  have hclassify : (t.inContext b).classify f = t.classify f := rfl
  rw [rangeOf?, rangeOf?, hclassify, funext (t.range?_inContext b)]

theorem HasRange.inContext {t : BreakpointTable} {f : Text} {r : WidthRange} (h : t.HasRange f r)
    (b : Bool) : (t.inContext b).HasRange f r := by
  obtain ⟨s, hs, hne, hr, hrest⟩ := h
  exact ⟨s, hs, hne, (t.range?_inContext b s).trans hr, hrest⟩

theorem ranges_inContext (t : BreakpointTable) (b : Bool) (fs : List Text) :
    (t.inContext b).ranges fs = t.ranges fs := by
  rw [ranges, ranges, funext (t.rangeOf?_inContext b)]

end BreakpointTable

namespace QuerySettings

def inContext (s : QuerySettings γ) (rangeContext : Bool) : QuerySettings γ :=
  { s with table := s.table.inContext rangeContext }

def withoutFeatures (s : QuerySettings γ) : QuerySettings γ :=
  { s with features := [] }

variable {s : QuerySettings γ} {f : Text} {fs : List Text}

theorem read_of_not_calls (h : ∀ call, ¬ s.Calls f call) (key : Text) (context : Option γ)
    (d : Descriptor) : s.read key context d f = s.withoutFeatures.read key context d f := by
  by_cases ho : QueryKey.isOrientation f
  · rw [read, read, if_pos ho, if_pos ho]
  rw [read, read, if_neg ho, if_neg ho]
  by_cases ht : s.table.isToken f
  · have ht' : s.withoutFeatures.table.isToken f := ht
    rw [if_pos ht, if_pos ht']
    rfl
  have ht' : ¬ s.withoutFeatures.table.isToken f := ht
  rw [if_neg ht, if_neg ht']
  cases hc : QueryKey.clause? f with
  | some clause => rfl
  | none =>
    have hclause := clause?_eq_none_iff.1 hc
    have hnone : ∀ call ∈ FeatureCall.ofFragment? f, s.features.get? call.name = none := by
      intro call hcall
      rw [OrderedMap.get?_eq_none_iff]
      intro hname
      exact h call ⟨mt isOrientation_iff.2 ho, ht, hclause, hcall, hname⟩
    have hcall := FeatureRegistry.call?_eq_none hnone d key context
    have hempty : s.withoutFeatures.features.call? d f key context = none :=
      FeatureRegistry.call?_eq_none (fun _ _ => rfl) d key context
    simp only [hcall, hempty]

theorem describe_withoutFeatures (h : ∀ f ∈ spokenBody fs, ∀ call, ¬ s.Calls f call) (key : Text)
    (context : Option γ) : s.describe key context fs = s.withoutFeatures.describe key context fs := by
  rw [describe_eq_foldl, describe_eq_foldl]
  exact List.foldl_ext _ _ _ fun d f hf => read_of_not_calls (h f hf) key context d

theorem describe_of_isToken (hfs : ∀ f ∈ fs, s.table.isToken f) (key : Text)
    (context : Option γ) : s.describe key context fs = s.withoutFeatures.describe key context fs := by
  refine describe_withoutFeatures (fun f hf call hcall => ?_) key context
  exact hcall.not_isToken (hfs f (mem_of_mem_spokenBody hf))

end QuerySettings

namespace BreakpointTable

variable {t : BreakpointTable} {fs : List Text}

theorem lastWrite?_writes {k : Text} {w : WidthRange → Option FeatureValue}
    (hk : k ≠ "orientation".toList)
    (hw : ∀ r : WidthRange, ((r.writes t.options).filter fun p => p.1 = k).map Prod.snd =
      (w r).toList)
    (hfs : ∀ f ∈ fs, t.isToken f) :
    OrderedMap.lastWrite? k ((spokenBody fs).flatMap t.writes) =
      ((t.ranges fs).filterMap w).getLast? := by
  have hfragment (f : Text) (hf : f ∈ spokenBody fs) :
      ((t.writes f).filter fun p => p.1 = k).map Prod.snd = ((t.rangeOf? f).bind w).toList := by
    obtain ⟨shape, hs⟩ := Option.isSome_iff_exists.1 (hfs f (mem_of_mem_spokenBody hf))
    rw [writes, rangeOf?]
    split
    · generalize "orientation".toList = o at hk
      simp [Ne.symm hk]
    · simp only [hs, Option.bind_some]
      cases t.range? shape with
      | none => rfl
      | some r => exact hw r
  rw [OrderedMap.lastWrite?, ← List.getLast?_map, List.filter_flatMap, List.map_flatMap, ranges,
    List.filterMap_filterMap, List.filterMap_eq_flatMap_toList, List.flatMap_congr hfragment]

theorem hasRange_of_mem_ranges {r : WidthRange} (h : r ∈ t.ranges fs) : ∃ f ∈ fs, t.HasRange f r := by
  obtain ⟨f, hf, hr⟩ := List.mem_filterMap.1 h
  rw [rangeOf?] at hr
  split at hr
  · simp at hr
  · obtain ⟨s, hs, hr⟩ := Option.bind_eq_some_iff.1 hr
    exact ⟨f, mem_of_mem_spokenBody hf, hasRange_of_range? hs hr⟩

end BreakpointTable

theorem WidthRange.filter_bounds (r : WidthRange) (epsilon : Float) :
    ((r.bounds epsilon).filter fun p => p.1 = "min-width".toList).map Prod.snd =
        ((r.least? epsilon).map .text).toList ∧
      ((r.bounds epsilon).filter fun p => p.1 = "max-width".toList).map Prod.snd =
        ((r.greatest? epsilon).map .text).toList := by
  rw [bounds]
  cases r.least? epsilon <;> cases r.greatest? epsilon <;> simp

theorem getLast?_filterMap_eq_iff {α β : Type*} {g : α → Option β} {l : List α} :
    (l.filterMap g).getLast? = l.getLast?.bind g ↔
      ∀ last ∈ l.getLast?, ∀ a ∈ l, (g a).isSome → (g last).isSome := by
  rcases List.eq_nil_or_concat l with rfl | ⟨init, last, rfl⟩
  · simp
  · cases hlast : g last with
    | some b => simp [hlast]
    | none =>
      have hmem : (∀ a ∈ init, g a = none) ↔ ∀ a, a ∈ init ∨ a = last → g a = none := by
        constructor
        · intro h a ha
          rcases ha with ha | rfl
          · exact h a ha
          · exact hlast
        · intro h a ha
          exact h a (.inl ha)
      simpa [hlast] using hmem

namespace QuerySettings

variable {s : QuerySettings γ} {fs : List Text}

theorem get?_describe (hfs : ∀ f ∈ fs, s.table.isToken f) (key : Text) (context : Option γ)
    {k : Text} (hk : k ≠ Descriptor.mediaKey) :
    (s.describe key context fs).get? k =
      OrderedMap.lastWrite? k ((spokenBody fs).flatMap s.table.writes) := by
  rw [describe_of_isToken hfs, withoutFeatures, BreakpointTable.describe_eq, Descriptor.get?,
    OrderedMap.get?_append, OrderedMap.get?_ofPairs]
  cases spokenMedia s.mediaFirst fs with
  | none => rfl
  | some m => simp [OrderedMap.get?, Ne.symm hk]

theorem unresolved_describe (hfs : ∀ f ∈ fs, ∃ r, s.table.HasRange f r) (key : Text)
    (context : Option γ) : (s.describe key context fs).unresolved = false := by
  have htoken (f : Text) (hf : f ∈ fs) : s.table.isToken f := (hfs f hf).elim fun _ h => h.isToken
  rw [describe_of_isToken htoken, withoutFeatures, BreakpointTable.describe_eq, decide_eq_false_iff_not]
  intro he
  obtain ⟨f, hf, -, hdangling⟩ := he
  obtain ⟨r, shape, hs, hne, -⟩ := hfs f (mem_of_mem_spokenBody hf)
  exact hne f (Option.some.inj (hs.symm.trans hdangling))

section InContext
variable (key : Text) (context : Option γ) (hfs : ∀ f ∈ fs, s.table.isToken f)
include hfs

theorem get?_condition : ((s.inContext true).describe key context fs).get?
    (Descriptor.slotKey rangeSlot) =
      ((s.table.ranges fs).filterMap WidthRange.condition?).getLast?.map .verbatim := by
  have hfs' : ∀ f ∈ fs, (s.inContext true).table.isToken f := hfs
  have hw (r : WidthRange) : ((r.writes (s.inContext true).table.options).filter
      fun p => p.1 = Descriptor.slotKey rangeSlot).map Prod.snd =
        (r.condition?.map .verbatim).toList := by
    rw [r.writes_eq_condition rfl]
    cases r.condition? <;> simp
  rw [get?_describe hfs' key context (slotKey_ne_mediaKey rangeSlot),
    BreakpointTable.lastWrite?_writes (by decide) hw hfs', ← List.map_filterMap, List.getLast?_map]
  exact congrArg _ (congrArg _ (congrArg _ (s.table.ranges_inContext true fs)))

theorem get?_bounds :
    ((s.inContext false).describe key context fs).get? "min-width".toList =
        ((s.table.ranges fs).filterMap fun r => r.least? s.table.options.epsilon).getLast?.map
          .text ∧
      ((s.inContext false).describe key context fs).get? "max-width".toList =
        ((s.table.ranges fs).filterMap fun r => r.greatest? s.table.options.epsilon).getLast?.map
          .text := by
  have hfs' : ∀ f ∈ fs, (s.inContext false).table.isToken f := hfs
  have hranges : (s.inContext false).table.ranges fs = s.table.ranges fs :=
    s.table.ranges_inContext false fs
  have hleast (r : WidthRange) : ((r.writes (s.inContext false).table.options).filter
      fun p => p.1 = "min-width".toList).map Prod.snd =
        ((r.least? s.table.options.epsilon).map .text).toList := by
    rw [r.writes_eq_bounds rfl]
    exact (r.filter_bounds _).1
  have hgreatest (r : WidthRange) : ((r.writes (s.inContext false).table.options).filter
      fun p => p.1 = "max-width".toList).map Prod.snd =
        ((r.greatest? s.table.options.epsilon).map .text).toList := by
    rw [r.writes_eq_bounds rfl]
    exact (r.filter_bounds _).2
  rw [get?_describe hfs' key context (by decide), get?_describe hfs' key context (by decide),
    BreakpointTable.lastWrite?_writes (by decide) hleast hfs',
    BreakpointTable.lastWrite?_writes (by decide) hgreatest hfs', ← List.map_filterMap,
    ← List.map_filterMap, List.getLast?_map, List.getLast?_map, hranges]
  exact ⟨rfl, rfl⟩

end InContext

/-- The bounds that a branch of tokens keeps in both ways of writing them, and when they are the same:
no token may have a bound on a side where the last token has none. -/
theorem bounds_eq_iff (s : QuerySettings γ) (key : Text) (context : Option γ) (b : Text)
    (hb : ∀ f ∈ QueryKey.fragments b, ∃ r, s.table.HasRange f r) :
    let rs := s.table.ranges (QueryKey.fragments b)
    let epsilon := s.table.options.epsilon
    let inRange := (s.inContext true).describe key context (QueryKey.fragments b)
    let minMax := (s.inContext false).describe key context (QueryKey.fragments b)
    inRange.unresolved = false ∧ minMax.unresolved = false ∧
      inRange.get? (Descriptor.slotKey rangeSlot) =
        (rs.getLast?.bind WidthRange.condition?).map .verbatim ∧
      minMax.get? "min-width".toList =
        (rs.filterMap fun r => r.least? epsilon).getLast?.map .text ∧
      minMax.get? "max-width".toList =
        (rs.filterMap fun r => r.greatest? epsilon).getLast?.map .text ∧
      ((minMax.get? "min-width".toList =
            (rs.getLast?.bind fun r => r.least? epsilon).map .text ∧
          minMax.get? "max-width".toList =
            (rs.getLast?.bind fun r => r.greatest? epsilon).map .text) ↔
        ∀ last ∈ rs.getLast?, ∀ r ∈ rs,
          (r.lower.isSome → last.lower.isSome) ∧ (r.upper.isSome → last.upper.isSome)) := by
  intro rs epsilon inRange minMax
  have htoken (f : Text) (hf : f ∈ QueryKey.fragments b) : s.table.isToken f :=
    (hb f hf).elim fun _ h => h.isToken
  have hunresolved (c : Bool) :
      ((s.inContext c).describe key context (QueryKey.fragments b)).unresolved = false := by
    refine unresolved_describe (fun f hf => ?_) key context
    obtain ⟨r, hr⟩ := hb f hf
    exact ⟨r, hr.inContext c⟩
  obtain ⟨hleast, hgreatest⟩ := get?_bounds key context htoken
  -- Every range has a condition, so that the one slot always holds that of the last token.
  have hcondition : (rs.filterMap WidthRange.condition?).getLast? =
      rs.getLast?.bind WidthRange.condition? := by
    refine getLast?_filterMap_eq_iff.2 fun last hlast r _ _ => ?_
    obtain ⟨f, -, shape, -, -, -, hbound, -⟩ :=
      BreakpointTable.hasRange_of_mem_ranges (List.mem_of_mem_getLast? hlast)
    obtain ⟨c, hc⟩ := BreakpointTable.isSome_condition? hbound
    rw [hc]
    rfl
  refine ⟨hunresolved true, hunresolved false, ?_, hleast, hgreatest, ?_⟩
  · rw [get?_condition key context htoken, hcondition]
  · have hinjective : Function.Injective (Option.map FeatureValue.text) :=
      Option.map_injective fun _ _ h => FeatureValue.text.inj h
    rw [hleast, hgreatest, hinjective.eq_iff, hinjective.eq_iff, getLast?_filterMap_eq_iff,
      getLast?_filterMap_eq_iff]
    simp only [WidthRange.least?, WidthRange.greatest?, Option.isSome_map]
    constructor
    · intro h last hlast r hr
      exact ⟨h.1 last hlast r hr, h.2 last hlast r hr⟩
    · intro h
      exact ⟨fun last hlast r hr => (h last hlast r hr).1, fun last hlast r hr => (h last hlast r hr).2⟩

def tabletSettings : QuerySettings Unit where
  table :=
    { entries := [⟨"md".toList, "768px".toList⟩, ⟨"lg".toList, "992px".toList⟩]
      options := {}
      nonempty := by simp
      named := by decide
      distinct := by decide }

theorem hasRange_gt_lt (f : Text) (hf : f ∈ QueryKey.fragments "gt-md@lt-lg".toList) :
    ∃ r, tabletSettings.table.HasRange f r := by
  have hfragments : QueryKey.fragments "gt-md@lt-lg".toList = ["gt-md".toList, "lt-lg".toList] := by
    decide
  rw [hfragments, List.mem_cons, List.mem_singleton] at hf
  rcases hf with rfl | rfl
  · exact ⟨_, BreakpointTable.hasRange_of_range? (s := .compared .gt "md".toList) (by decide) rfl⟩
  · exact ⟨_, BreakpointTable.hasRange_of_range? (s := .compared .lt "lg".toList) (by decide) rfl⟩

theorem not_bounds_eq_gt_lt :
    (∀ f ∈ QueryKey.fragments "gt-md@lt-lg".toList, ∃ r, tabletSettings.table.HasRange f r) ∧
      let last := (tabletSettings.table.ranges (QueryKey.fragments "gt-md@lt-lg".toList)).getLast?
      let minMax := (tabletSettings.inContext false).describe "gt-md@lt-lg".toList none
        (QueryKey.fragments "gt-md@lt-lg".toList)
      ¬ (minMax.get? "min-width".toList =
            (last.bind fun r => r.least? tabletSettings.table.options.epsilon).map .text ∧
          minMax.get? "max-width".toList =
            (last.bind fun r => r.greatest? tabletSettings.table.options.epsilon).map .text) := by
  refine ⟨hasRange_gt_lt, ?_⟩
  intro last minMax
  rw [(bounds_eq_iff tabletSettings "gt-md@lt-lg".toList none "gt-md@lt-lg".toList
    hasRange_gt_lt).2.2.2.2.2]
  decide +kernel

theorem compile_gt_lt :
    (tabletSettings.inContext true).compile "gt-md@lt-lg".toList none =
        "@media all and (width < 992px)".toList ∧
      (tabletSettings.inContext false).compile "gt-md@lt-lg".toList none =
        "@media all and (min-width: 768px) and (max-width: 991.98px)".toList := by
  decide +kernel

end QuerySettings

end ResponsiveStyles
