import ResponsiveStyles.Proofs.TokenResolution

/-!
# Empty branches

A branch that begins with a media type is never empty. Without one, nothing stands in for the fragments
that are dropped: the branch is empty when none of its fragments says anything, and also when one of
them is a dangling range, which takes the others with it.
-/
namespace ResponsiveStyles

variable {γ : Type}

theorem intercalate_eq_nil_iff {separator : Text} {ts : List Text} (h : ∀ t ∈ ts, t ≠ []) :
    separator.intercalate ts = [] ↔ ts = [] := by
  constructor
  · intro he
    cases ts with
    | nil => rfl
    | cons t ts =>
      have ht : t ≠ [] := h t List.mem_cons_self
      cases ts with
      | nil => exact absurd (by simpa [List.intercalate] using he) ht
      | cons t' ts => simp [List.intercalate, ht] at he
  · intro he
    subst he
    rfl

namespace OrderedMap

variable {κ ν : Type*} [DecidableEq κ]

theorem mem_of_lastWrite? {k : κ} {v : ν} {ps : List (κ × ν)} (h : lastWrite? k ps = some v) :
    (k, v) ∈ ps := by
  rw [lastWrite?, Option.map_eq_some_iff] at h
  obtain ⟨⟨k', v'⟩, hlast, rfl⟩ := h
  obtain ⟨hmem, hk⟩ := List.mem_filter.1 (List.mem_of_getLast? hlast)
  obtain rfl : k' = k := by simpa using hk
  exact hmem

theorem filterMap_lastWrite?_eq_nil_iff {ps : List (κ × ν)} :
    (ps.map Prod.fst).eraseDups.filterMap (fun k => lastWrite? k ps) = [] ↔ ps = [] := by
  constructor
  · intro h
    rw [List.filterMap_eq_nil_iff] at h
    refine List.eq_nil_iff_forall_not_mem.2 fun p hp => ?_
    have hk : p.1 ∈ ps.map Prod.fst := List.mem_map_of_mem hp
    have hnone := h p.1 (List.mem_eraseDups.2 hk)
    rw [← get?_ofPairs, get?_eq_none_iff, mem_keys_ofPairs] at hnone
    exact hnone hk
  · intro h
    subst h
    rfl

end OrderedMap

theorem Descriptor.ne_nil_of_clause? {key clause : Text} {v : FeatureValue}
    (h : clause? key v = some clause) : clause ≠ [] := by
  cases v with
  | flag on =>
    cases on with
    | false => simp [clause?] at h
    | true =>
      obtain rfl := Option.some.inj h
      exact List.cons_ne_nil _ _
  | _ =>
    obtain rfl := Option.some.inj h
    exact List.cons_ne_nil _ _

namespace BreakpointTable

variable {t : BreakpointTable} {f : Text} {fs : List Text} {mediaFirst : Bool}

/-- The fragment is none of what a branch is made of. -/
structure Drops (t : BreakpointTable) (f : Text) : Prop where
  not_orientation : ¬ IsOrientation f
  not_token : t.classify f = none
  not_clause : ¬ IsClause f

theorem ne_nil_of_mem_mentions {p : Subject × Text} (hp : p ∈ t.mentions f) : p.2 ≠ [] := by
  have hmap : (p.1.key, some p.2) ∈ (t.mentions f).map fun p => (p.1.key, some p.2) :=
    List.mem_map_of_mem hp
  rw [← map_writes, List.mem_map] at hmap
  obtain ⟨w, -, hw⟩ := hmap
  exact Descriptor.ne_nil_of_clause? (Prod.mk.inj hw).2

theorem WidthRange.mentions_ne_nil {r : WidthRange} (h : r.lower.isSome ∨ r.upper.isSome)
    (o : RangeOptions) : r.mentions o ≠ [] := by
  obtain ⟨c, hc⟩ := isSome_condition? h
  obtain ⟨lower, upper, orEqual⟩ := r
  rw [WidthRange.mentions, hc]
  split
  · simp
  · cases lower <;> cases upper <;> simp_all

theorem mentions_eq_nil_iff : t.mentions f = [] ↔ t.Dangles f ∨ t.Drops f := by
  by_cases ho : IsOrientation f
  · have hd : ¬ t.Dangles f := fun h => h.1 ho
    have hdrops : ¬ t.Drops f := fun h => h.not_orientation ho
    simp [mentions, ho, hd, hdrops]
  rw [mentions, if_neg ho]
  cases hc : t.classify f with
  | none =>
    have hd : ¬ t.Dangles f := by simp [Dangles, hc]
    have hdrops : t.Drops f ↔ ¬ IsClause f := ⟨fun h => h.not_clause, fun h => ⟨ho, hc, h⟩⟩
    simp [hd, hdrops]
  | some shape =>
    have hdrops : ¬ t.Drops f := fun h => by simp [h.not_token] at hc
    have hd : t.Dangles f ↔ t.range? shape = none := by
      rw [Dangles, hc, Option.some.injEq, range?_eq_none_iff_dangles hc]
      exact and_iff_right ho
    rw [or_iff_left hdrops, hd]
    cases hr : t.range? shape with
    | none => simp [hr]
    | some r =>
      obtain ⟨-, -, -, -, hbound, -⟩ := hasRange_of_range? hc hr
      simpa [hr] using WidthRange.mentions_ne_nil hbound t.options

theorem spokenMedia_eq_none_iff :
    spokenMedia mediaFirst fs = none ↔
      mediaFirst = false ∧ ∀ f ∈ fs.head?, ¬ NamesMedia f := by
  rw [spokenMedia, Option.or_eq_none_iff, Option.filter_eq_none_iff]
  cases mediaFirst <;> simp

theorem spokenBody_eq_self (h : ∀ f ∈ fs.head?, ¬ NamesMedia f) : spokenBody fs = fs := by
  cases fs with
  | nil => rfl
  | cons f r => exact if_neg (h f rfl)

theorem readBranch_eq_nil_iff :
    t.readBranch mediaFirst fs = [] ↔
      mediaFirst = false ∧ (∀ f ∈ fs.head?, ¬ NamesMedia f) ∧
        ((∃ f ∈ fs, t.Dangles f) ∨ ∀ f ∈ fs, t.Drops f) := by
  have hpart : ∀ part ∈ (spokenMedia mediaFirst fs).toList ++
      (if ∃ f ∈ spokenBody fs, t.Dangles f then []
        else (((spokenBody fs).flatMap t.mentions).map Prod.fst).eraseDups.filterMap
          fun x => OrderedMap.lastWrite? x ((spokenBody fs).flatMap t.mentions)), part ≠ [] := by
    intro part hpart
    rcases List.mem_append.1 hpart with hmedia | hclause
    · exact spokenMedia_ne_nil part (Option.mem_toList.1 hmedia)
    · split at hclause
      · simp at hclause
      · obtain ⟨x, -, hx⟩ := List.mem_filterMap.1 hclause
        obtain ⟨f, -, hf⟩ := List.mem_flatMap.1 (OrderedMap.mem_of_lastWrite? hx)
        exact ne_nil_of_mem_mentions hf
  rw [readBranch, intercalate_eq_nil_iff hpart, List.append_eq_nil_iff, Option.toList_eq_nil_iff,
    spokenMedia_eq_none_iff, and_assoc]
  refine and_congr_right fun _ => and_congr_right fun hmedia => ?_
  rw [spokenBody_eq_self hmedia, ite_eq_left_iff, OrderedMap.filterMap_lastWrite?_eq_nil_iff,
    List.flatMap_eq_nil_iff, or_iff_not_imp_left]
  refine forall_congr' fun hd => forall_congr' fun f => forall_congr' fun hf => ?_
  rw [mentions_eq_nil_iff, or_iff_right fun h => hd ⟨f, hf, h⟩]

/-- Without features of the caller, a branch is empty just when no media type is asked for, its first
fragment names none, and its fragments leave no clause. -/
theorem branch_eq_nil_iff (t : BreakpointTable) (mediaFirst : Bool) (key : Text)
    (context : Option γ) :
    let s : QuerySettings γ := ⟨t, [], mediaFirst⟩
    s.compile key context = "@media ".toList ++
        ", ".toList.intercalate ((QueryKey.branches key).map (s.branch key context)) ∧
      ∀ b, s.branch key context b = [] ↔
        mediaFirst = false ∧ (∀ f ∈ (QueryKey.fragments b).head?, ¬ NamesMedia f) ∧
          ((∃ f ∈ QueryKey.fragments b, t.Dangles f) ∨ ∀ f ∈ QueryKey.fragments b, t.Drops f) := by
  intro s
  refine ⟨rfl, fun b => ?_⟩
  rw [branch_eq_readBranch, readBranch_eq_nil_iff]

theorem branches_garbled :
    let s : QuerySettings Unit := ⟨.ofEntries [⟨"md".toList, "768px".toList⟩] {}, [], false⟩
    let key := "md-to-GARBLED@,@print".toList
    (QueryKey.branches key).map (s.branch key none) = [[], "print".toList] ∧
      s.compile key none = "@media , print".toList ∧
      ¬ ∀ b ∈ QueryKey.branches key, s.branch key none b ≠ [] := by
  decide +kernel

end BreakpointTable

end ResponsiveStyles
