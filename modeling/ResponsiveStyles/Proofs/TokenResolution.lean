import ResponsiveStyles.Proofs.BranchReading
import ResponsiveStyles.Proofs.TokenPattern

/-!
# What a token does to a descriptor

A fragment is a token for the patterns of the table just when it has a shape, so that a fragment taken
for a token always resolves or degrades the branch. A resolved token has a bound. It writes its bounds,
or its one condition in range context, and leaves every other entry of the descriptor where it was.
-/
namespace ResponsiveStyles

theorem OrderedMap.getElem?_insert_of_ne {κ ν : Type*} [DecidableEq κ] {k : κ} {p : κ × ν}
    {m : OrderedMap κ ν} {i : Nat} (hp : m[i]? = some p) (hne : p.1 ≠ k) (v : ν) :
    (insert k v m)[i]? = some p := by
  induction m generalizing i with
  | nil => simp at hp
  | cons q r ih =>
    rw [insert]
    split
    · rename_i hq
      cases i with
      | zero =>
        obtain rfl : q = p := by simpa using hp
        exact absurd hq hne
      | succ i => simpa using hp
    · cases i with
      | zero => simpa using hp
      | succ i => exact ih hp

/-- One descriptor is the other after these writes. New keys stand last, in the order of the writes. -/
structure Descriptor.Written (writes : List (Text × FeatureValue)) (d d' : Descriptor) : Prop where
  value : ∀ p ∈ writes, d'.get? p.1 = some p.2
  keys_eq : d'.entries.keys =
    d.entries.keys ++ (writes.map Prod.fst).filter (· ∉ d.entries.keys)
  kept : ∀ (i : Nat) (p : Text × FeatureValue), d.entries[i]? = some p →
    p.1 ∉ writes.map Prod.fst → d'.entries[i]? = some p
  unresolved_eq : d'.unresolved = d.unresolved

theorem Descriptor.written_foldl (d : Descriptor) {writes : List (Text × FeatureValue)}
    (h : (writes.map Prod.fst).Nodup) :
    d.Written writes (writes.foldl (fun d p => d.insert p.1 p.2) d) := by
  induction writes using List.reverseRecOn with
  | nil => exact ⟨by simp, by simp, fun _ _ hp _ => hp, rfl⟩
  | append_singleton ps p ih =>
    rw [List.map_append, List.map_singleton, List.nodup_append] at h
    obtain ⟨hps, -, hp⟩ := h
    have hnew : p.1 ∉ ps.map Prod.fst := fun hm => hp p.1 hm p.1 (by simp) rfl
    obtain ⟨hvalue, hkeys, hkept, hunresolved⟩ := ih hps
    rw [List.foldl_append, List.foldl_cons, List.foldl_nil]
    generalize ps.foldl (fun d p => d.insert p.1 p.2) d = d₁ at hvalue hkeys hkept hunresolved ⊢
    refine ⟨?_, ?_, ?_, hunresolved⟩
    · intro q hq
      rw [Descriptor.get?_insert]
      rcases List.mem_append.1 hq with hq | hq
      · have hne : q.1 ≠ p.1 := fun he => hnew (he ▸ List.mem_map_of_mem hq)
        rw [if_neg hne, hvalue q hq]
      · obtain rfl := List.mem_singleton.1 hq
        rw [if_pos rfl]
    · have hmem : p.1 ∈ d₁.entries.keys ↔ p.1 ∈ d.entries.keys := by
        rw [hkeys, List.mem_append, List.mem_filter]
        simp [hnew]
      rw [List.map_append, List.filter_append, ← List.append_assoc, ← hkeys]
      rw [Descriptor.insert, OrderedMap.keys_insert]
      by_cases hd : p.1 ∈ d.entries.keys
      · rw [if_pos (hmem.2 hd)]
        simp [hd]
      · rw [if_neg (mt hmem.1 hd)]
        simp [hd]
    · intro i q hq hnot
      rw [List.map_append, List.mem_append, not_or] at hnot
      exact OrderedMap.getElem?_insert_of_ne (hkept i q hq hnot.1) (by simpa using hnot.2) _

namespace WidthRange

/-- A range of widths as one condition, with its lengths as they are. -/
inductive Spells : WidthRange → Text → Prop where
  | between (l u : Text) (e : Bool) : Spells ⟨some l, some u, e⟩ (l ++ " < width < ".toList ++ u)
  | above (l : Text) : Spells ⟨some l, none, false⟩ ("width > ".toList ++ l)
  | atLeast (l : Text) : Spells ⟨some l, none, true⟩ ("width >= ".toList ++ l)
  | below (u : Text) : Spells ⟨none, some u, false⟩ ("width < ".toList ++ u)
  | atMost (u : Text) : Spells ⟨none, some u, true⟩ ("width <= ".toList ++ u)

theorem spells_iff {r : WidthRange} {c : Text} : r.Spells c ↔ r.condition? = some c := by
  obtain ⟨l, u, e⟩ := r
  constructor
  · intro h
    cases h <;> rfl
  · intro h
    cases l <;> cases u <;> cases e <;> simp only [condition?, reduceCtorEq, Option.some.injEq] at h <;>
      subst h
    · exact .below _
    · exact .atMost _
    · exact .above _
    · exact .atLeast _
    · exact .between _ _ _
    · exact .between _ _ _

def least? (r : WidthRange) (epsilon : Float) : Option Text :=
  r.lower.map fun l => if r.orEqual then Length.adjust l epsilon else l

def greatest? (r : WidthRange) (epsilon : Float) : Option Text :=
  r.upper.map fun u => if r.orEqual then u else Length.adjust u epsilon

def bounds (r : WidthRange) (epsilon : Float) : List (Text × FeatureValue) :=
  ((r.least? epsilon).map fun l => ("min-width".toList, .text l)).toList ++
    ((r.greatest? epsilon).map fun u => ("max-width".toList, .text u)).toList

theorem writes_eq_condition (r : WidthRange) {o : RangeOptions} (h : o.rangeContext = true) :
    r.writes o =
      (r.condition?.map fun c => (Descriptor.slotKey rangeSlot, .verbatim c)).toList := by
  rw [writes, if_pos h]

theorem writes_eq_bounds (r : WidthRange) {o : RangeOptions} (h : o.rangeContext = false) :
    r.writes o = r.bounds o.epsilon := by
  have hadjust (e : Bool) (l : Text) :
      Length.adjust l (if e then o.epsilon else 0.0) = if e then Length.adjust l o.epsilon else l := by
    cases e with
    | true => rfl
    | false => exact Length.adjust_zero l
  have hadjust' (e : Bool) (l : Text) :
      Length.adjust l (if e then 0.0 else o.epsilon) = if e then l else Length.adjust l o.epsilon := by
    cases e with
    | true => exact Length.adjust_zero l
    | false => rfl
  simp only [writes, h, Bool.false_eq_true, if_false, bounds, least?, greatest?, hadjust, hadjust']

theorem nodup_keys_bounds (r : WidthRange) (epsilon : Float) :
    ((r.bounds epsilon).map Prod.fst).Nodup := by
  cases hl : r.lower <;> cases hu : r.upper <;> simp [bounds, least?, greatest?, hl, hu]

end WidthRange

namespace BreakpointTable

variable {t : BreakpointTable} {f : Text}

theorem mem_names_of_only {n : Text} (h : t.classify f = some (.only n)) : n ∈ t.names := by
  have hreads := reads_classify t f
  rw [h] at hreads
  cases hreads with
  | only hn => exact hn
  | first _ _ hs => rcases hs with ⟨_, _, _, _, hs, _⟩ | ⟨_, _, _, hs⟩ <;> cases hs

theorem isSome_length?_iff {n : Text} : (t.length? n).isSome ↔ n ∈ t.names := by
  simp [length?, names, List.find?_isSome]

def HasRange (t : BreakpointTable) (f : Text) (r : WidthRange) : Prop :=
  ∃ s, t.classify f = some s ∧ (∀ g, s ≠ .dangling g) ∧ t.range? s = some r ∧
    (r.lower.isSome ∨ r.upper.isSome) ∧
    (r.orEqual ↔ ∃ X, s = .compared .lte X ∨ s = .compared .gte X)

theorem hasRange_of_range? {s : TokenShape} {r : WidthRange} (hs : t.classify f = some s)
    (hr : t.range? s = some r) : t.HasRange f r := by
  refine ⟨s, hs, ?_, hr, ?_, ?_⟩
  · intro g hg
    subst hg
    simp [range?] at hr
  · cases s with
    | only n =>
      have hn := isSome_length?_iff.2 (mem_names_of_only hs)
      obtain rfl := Option.some.inj hr
      exact .inl hn
    | compared c X => cases c <;> (obtain rfl := Option.some.inj hr) <;> simp
    | dangling g => simp [range?] at hr
    | _ => obtain rfl := Option.some.inj hr; simp
  · cases s with
    | compared c X => cases c <;> (obtain rfl := Option.some.inj hr) <;> simp [Comparator.orEqual]
    | dangling g => simp [range?] at hr
    | _ => obtain rfl := Option.some.inj hr; simp

theorem HasRange.isToken {r : WidthRange} (h : t.HasRange f r) : t.isToken f := by
  obtain ⟨s, hs, -⟩ := h
  simp [BreakpointTable.isToken, hs]

theorem isSome_whole?_of_mem_names (h : f ∈ t.names) : (t.tokenPattern.whole? f).isSome := by
  rw [Option.isSome_iff_ne_none, ne_eq, Pattern.whole?_eq_none_iff]
  intro hnone
  -- A name on its own is the first operand of a token whose tail is empty.
  have hfirst : ⟨[(.first, f)], f, []⟩ ∈ (Pattern.group .first t.operandPattern).ways f :=
    Pattern.mem_ways_group.2 ⟨_, mem_ways_operandPattern.2
      ⟨f, [], .inl h, (List.append_nil f).symm, rfl⟩, rfl⟩
  have htail : bare ([], []) ∈ (Pattern.perhaps t.tailPattern).ways [] :=
    (mem_ways_tail.2 (.inr (.inr (.inr ⟨rfl, rfl⟩)))).1
  have hwhole : ⟨[(.first, f)] ++ [], f ++ [], []⟩ ∈ t.tokenPattern.ways f :=
    Pattern.mem_ways_either.2 (.inr (Pattern.mem_ways_append.2 ⟨_, hfirst, _, htail, rfl⟩))
  exact hnone _ hwhole rfl

theorem isToken_eq_isMatched (t : BreakpointTable) (f : Text) : t.isToken f = t.isMatched f := by
  rw [isToken, classify_eq_matchedShape?, matchedShape?, isMatched]
  by_cases hn : t.isName f
  · simp [hn, isSome_whole?_of_mem_names (isName_iff.1 hn)]
  · cases t.tokenPattern.whole? f <;> cases hb : t.rangePattern.begins f <;> simp [hn]

/-- What becomes of a descriptor when a fragment is resolved. -/
inductive Resolves (t : BreakpointTable) (f : Text) (d : Descriptor) :
    TokenOutcome × Descriptor → Prop where
  | notAToken (hf : t.classify f = none) : Resolves t f d (.notAToken, d)
  | unresolved (hf : t.classify f = some (.dangling f)) :
      Resolves t f d (.unresolved, { d with unresolved := true })
  | bounds {r : WidthRange} {d' : Descriptor} (hf : t.HasRange f r)
      (hoptions : t.options.rangeContext = false) (hd : d.Written (r.bounds t.options.epsilon) d') :
      Resolves t f d (.resolved r, d')
  | condition {r : WidthRange} {c : Text} {d' : Descriptor} (hf : t.HasRange f r)
      (hoptions : t.options.rangeContext = true) (hc : r.Spells c)
      (hd : d.Written [(Descriptor.slotKey rangeSlot, .verbatim c)] d') :
      Resolves t f d (.resolved r, d')

theorem isSome_condition? {r : WidthRange} (h : r.lower.isSome ∨ r.upper.isSome) :
    ∃ c, r.condition? = some c := by
  obtain ⟨l, u, e⟩ := r
  cases l <;> cases u <;> simp_all [WidthRange.condition?]

theorem resolves (t : BreakpointTable) (f : Text) (d : Descriptor) :
    t.Resolves f d (t.resolve d f) := by
  rw [resolve]
  cases hs : t.classify f with
  | none => exact .notAToken hs
  | some s =>
    cases hr : t.range? s with
    | none =>
      obtain rfl := (range?_eq_none_iff_dangles hs).1 hr
      simp only [hr]
      exact .unresolved hs
    | some r =>
      have hf := hasRange_of_range? hs hr
      simp only [hr]
      rw [write_eq_foldl]
      cases hoptions : t.options.rangeContext with
      | true =>
        obtain ⟨s', -, -, -, hbound, -⟩ := id hf
        obtain ⟨c, hc⟩ := isSome_condition? hbound
        rw [r.writes_eq_condition hoptions, hc]
        exact .condition hf hoptions (WidthRange.spells_iff.2 hc) (d.written_foldl (by simp))
      | false =>
        rw [r.writes_eq_bounds hoptions]
        exact .bounds hf hoptions (d.written_foldl (r.nodup_keys_bounds _))

theorem Resolves.fst_eq_iff {d : Descriptor} {o : TokenOutcome × Descriptor}
    (h : t.Resolves f d o) :
    (o.1 = .notAToken ↔ t.classify f = none) ∧
      (o.1 = .unresolved ↔ ∃ g, t.classify f = some (.dangling g)) := by
  cases h with
  | notAToken hf => simp [hf]
  | unresolved hf => simp [hf]
  | bounds hf _ _ =>
    obtain ⟨s, hs, hne, -⟩ := hf
    simp [hs, hne]
  | condition hf _ _ _ =>
    obtain ⟨s, hs, hne, -⟩ := hf
    simp [hs, hne]

/-- Resolving a fragment agrees with the patterns and with the shape of the fragment, and changes
nothing but the bounds that the token has. -/
theorem resolve_agrees_with_classify (t : BreakpointTable) (d : Descriptor) (f : Text) :
    t.isToken f = t.isMatched f ∧
      ((t.resolve d f).1 = .notAToken ↔ t.isToken f = false) ∧
      (t.isToken f = false ↔ t.classify f = none) ∧
      ((t.resolve d f).1 = .unresolved ↔ ∃ g, t.classify f = some (.dangling g)) ∧
      t.Resolves f d (t.resolve d f) := by
  have hresolves := resolves t f d
  have hisToken : t.isToken f = false ↔ t.classify f = none := by simp [isToken]
  refine ⟨isToken_eq_isMatched t f, ?_, hisToken, hresolves.fst_eq_iff.2, hresolves⟩
  rw [hisToken]
  exact hresolves.fst_eq_iff.1

end BreakpointTable

end ResponsiveStyles
