import ResponsiveStyles.Proofs.BranchReading

/-!
# Degraded branches

A feature changes a descriptor by operations, and none of them takes the mark of a degraded branch
away again. A branch is therefore degraded just when one of its fragments marks it, by a dangling range
or in a feature, and then it is its media type alone, whatever the other fragments say.
-/
namespace ResponsiveStyles

variable {γ : Type}

inductive DescriptorOperation where
  | set (key value : Text)
  | setFlag (key : Text) (on : Bool)
  | setVerbatim (slot clause : Text)
  | setMedia (media : Text)
  | erase (key : Text)
  | markUnresolved
deriving DecidableEq

namespace Descriptor

def perform (d : Descriptor) : DescriptorOperation → Descriptor
  | .set key value => d.set key value
  | .setFlag key on => d.setFlag key on
  | .setVerbatim slot clause => d.setVerbatim slot clause
  | .setMedia media => d.setMedia media
  | .erase key => d.erase key
  | .markUnresolved => d.markUnresolved

def performAll (d : Descriptor) (os : List DescriptorOperation) : Descriptor :=
  os.foldl perform d

theorem unresolved_perform (d : Descriptor) (o : DescriptorOperation) :
    (d.perform o).unresolved ↔ d.unresolved ∨ o = .markUnresolved := by
  cases o with
  | markUnresolved => simp [perform, markUnresolved]
  | _ => simp [perform, set, setFlag, setVerbatim, setMedia, insert, erase]

theorem unresolved_performAll (d : Descriptor) (os : List DescriptorOperation) :
    (d.performAll os).unresolved ↔ d.unresolved ∨ .markUnresolved ∈ os := by
  induction os generalizing d with
  | nil => simp [performAll]
  | cons o os ih =>
    rw [performAll, List.foldl_cons, ← performAll, ih, unresolved_perform, List.mem_cons, or_assoc,
      eq_comm (a := o)]

end Descriptor

/-- The operations of each feature, by its name, in whatever way they depend on what the feature is
given. -/
abbrev FeaturePlan (γ : Type) :=
  Text → Descriptor → (args key : Text) → Option γ → List DescriptorOperation

def FeatureRegistry.Follows (features : FeatureRegistry γ) (plan : FeaturePlan γ) : Prop :=
  ∀ name feature, features.get? name = some feature →
    ∀ d args key context, feature d args key context = d.performAll (plan name d args key context)

theorem FeatureRegistry.Follows.unresolved_call? {features : FeatureRegistry γ}
    {plan : FeaturePlan γ} (h : features.Follows plan) (d : Descriptor) (f key : Text)
    (context : Option γ) :
    ((features.call? d f key context).getD d).unresolved ↔
      d.unresolved ∨ ∃ call, FeatureCall.ofFragment? f = some call ∧ call.name ∈ features.keys ∧
        .markUnresolved ∈ plan call.name d call.args key context := by
  rw [FeatureRegistry.call?]
  cases hcall : FeatureCall.ofFragment? f with
  | none => simp
  | some call =>
    cases hget : features.get? call.name with
    | none => simp [hget, OrderedMap.get?_eq_none_iff.1 hget]
    | some feature =>
      have hmem : call.name ∈ features.keys := by
        by_contra hno
        rw [OrderedMap.get?_eq_none_iff.2 hno] at hget
        simp at hget
      simp [hget, hmem, h call.name feature hget, Descriptor.unresolved_performAll]

theorem BreakpointTable.unresolved_resolve (t : BreakpointTable) (d : Descriptor) (f : Text) :
    (t.resolve d f).2.unresolved ↔ d.unresolved ∨ t.classify f = some (.dangling f) := by
  rw [resolve]
  cases hc : t.classify f with
  | none => simp
  | some shape =>
    have hr := range?_eq_none_iff_dangles hc
    cases hs : t.range? shape with
    | none =>
      obtain rfl := hr.1 hs
      simp [hs, Descriptor.markUnresolved]
    | some r =>
      have hne : shape ≠ .dangling f := fun he => by simp [hr.2 he] at hs
      simp [hs, hne, write_eq_foldl, foldl_insert_eq]

namespace QuerySettings

variable {s : QuerySettings γ} {plan : FeaturePlan γ} {key f : Text} {context : Option γ}

structure Calls (s : QuerySettings γ) (f : Text) (call : FeatureCall) : Prop where
  not_orientation : ¬ IsOrientation f
  not_isToken : ¬ s.table.isToken f
  not_clause : ¬ IsClause f
  call_eq : FeatureCall.ofFragment? f = some call
  registered : call.name ∈ s.features.keys

/-- Read into a descriptor, the fragment marks it: as a dangling range, or by an operation of the
feature that it calls. -/
inductive Degrades (s : QuerySettings γ) (plan : FeaturePlan γ) (key : Text) (context : Option γ)
    (d : Descriptor) (f : Text) : Prop where
  | dangling (hf : s.table.Dangles f)
  | called {call : FeatureCall} (hf : s.Calls f call)
      (hmark : .markUnresolved ∈ plan call.name d call.args key context)

theorem unresolved_read (h : s.features.Follows plan) (d : Descriptor) :
    (s.read key context d f).unresolved ↔ d.unresolved ∨ s.Degrades plan key context d f := by
  by_cases ho : IsOrientation f
  · have hno : ¬ s.Degrades plan key context d f := by
      rintro (⟨hd⟩ | ⟨hf, -⟩)
      · exact hd.1 ho
      · exact hf.not_orientation ho
    rw [read, if_pos (isOrientation_iff.2 ho), or_iff_left hno]
    rfl
  rw [read, if_neg (mt isOrientation_iff.1 ho)]
  by_cases ht : s.table.isToken f
  · rw [if_pos ht, BreakpointTable.unresolved_resolve]
    refine or_congr_right ⟨fun hf => .dangling ⟨ho, hf⟩, ?_⟩
    rintro (⟨hd⟩ | ⟨hf, -⟩)
    · exact hd.2
    · exact absurd ht hf.not_isToken
  have hdangles : ¬ s.table.Dangles f := by
    intro hd
    rw [BreakpointTable.isToken, hd.2] at ht
    exact ht rfl
  rw [if_neg ht]
  cases hc : QueryKey.clause? f with
  | some clause =>
    have hclause : IsClause f := isClause_iff.1 (by rw [hc]; rfl)
    have hno : ¬ s.Degrades plan key context d f := by
      rintro (⟨hd⟩ | ⟨hf, -⟩)
      · exact hdangles hd
      · exact hf.not_clause hclause
    rw [or_iff_left hno]
    rfl
  | none =>
    have hclause := clause?_eq_none_iff.1 hc
    refine (h.unresolved_call? d f key context).trans (or_congr_right ⟨?_, ?_⟩)
    · intro he
      obtain ⟨call, hcall, hname, hmark⟩ := he
      exact .called ⟨ho, ht, hclause, hcall, hname⟩ hmark
    · rintro (⟨hd⟩ | ⟨hf, hmark⟩)
      · exact absurd hd hdangles
      · exact ⟨_, hf.call_eq, hf.registered, hmark⟩

theorem unresolved_foldl_read (h : s.features.Follows plan) (key : Text) (context : Option γ)
    (d : Descriptor) (fs : List Text) :
    (fs.foldl (s.read key context) d).unresolved ↔
      d.unresolved ∨ ∃ before f after, fs = before ++ f :: after ∧
        s.Degrades plan key context (before.foldl (s.read key context) d) f := by
  induction fs generalizing d with
  | nil => simp
  | cons g fs ih =>
    rw [List.foldl_cons, ih, unresolved_read h, or_assoc]
    refine or_congr_right ⟨?_, ?_⟩
    · rintro (hg | ⟨before, f, after, rfl, hf⟩)
      · exact ⟨[], g, fs, rfl, hg⟩
      · exact ⟨g :: before, f, after, rfl, hf⟩
    · intro he
      obtain ⟨before, f, after, hfs, hf⟩ := he
      cases before with
      | nil =>
        obtain ⟨rfl, -⟩ := List.cons.inj hfs
        exact .inl hf
      | cons g' before =>
        obtain ⟨rfl, rfl⟩ := List.cons.inj hfs
        exact .inr ⟨before, f, after, rfl, hf⟩

def Degraded (s : QuerySettings γ) (plan : FeaturePlan γ) (key : Text) (context : Option γ)
    (fs : List Text) : Prop :=
  ∃ before f after, spokenBody fs = before ++ f :: after ∧
    s.Degrades plan key context (before.foldl (s.read key context) (s.opened fs)) f

theorem unresolved_opened (s : QuerySettings γ) (fs : List Text) :
    (s.opened fs).unresolved = false := by
  unfold opened
  split <;> rfl

/-- A branch is marked just when some fragment degrades it, and then it is the media type that is
held in the end, if there is one, and nothing else. -/
theorem branch_of_degraded (h : s.features.Follows plan) (key : Text) (context : Option γ)
    (b : Text) :
    let d := s.describe key context (QueryKey.fragments b)
    (d.unresolved ↔ s.Degraded plan key context (QueryKey.fragments b)) ∧
      (s.Degraded plan key context (QueryKey.fragments b) →
        s.branch key context b = d.media?.getD []) := by
  intro d
  have hd : d.unresolved ↔ s.Degraded plan key context (QueryKey.fragments b) := by
    have hfold := unresolved_foldl_read h key context (s.opened (QueryKey.fragments b))
      (spokenBody (QueryKey.fragments b))
    rwa [unresolved_opened, ← describe_eq_foldl, or_iff_right Bool.false_ne_true] at hfold
  exact ⟨hd, fun hdegraded => Descriptor.render_of_unresolved (hd.2 hdegraded)⟩

def dimSettings : QuerySettings Unit where
  table := .fallback {}
  features := [("dim".toList, fun d args _ _ => d.markUnresolved.setMedia args)]

def dimPlan : FeaturePlan Unit :=
  fun _ _ args _ _ => [.markUnresolved, .setMedia args]

theorem dimSettings_follows : dimSettings.features.Follows dimPlan := by
  intro name feature h d args key context
  rw [dimSettings, OrderedMap.get?] at h
  split at h
  · obtain rfl := Option.some.inj h
    rfl
  · simp at h

theorem branch_dim :
    let b := "screen@(hover)@dim(tv)@gt-400px@landscape".toList
    dimSettings.features.Follows dimPlan ∧
      dimSettings.Degraded dimPlan [] none (QueryKey.fragments b) ∧
      dimSettings.branch [] none b = "tv".toList := by
  intro b
  have hcalls : dimSettings.Calls "dim(tv)".toList ⟨"dim".toList, "tv".toList⟩ :=
    ⟨by decide, by decide +kernel, by decide, by decide +kernel, by decide⟩
  have hdegraded : dimSettings.Degraded dimPlan [] none (QueryKey.fragments b) :=
    ⟨["(hover)".toList], "dim(tv)".toList, ["gt-400px".toList, "landscape".toList],
      by decide +kernel, .called hcalls List.mem_cons_self⟩
  refine ⟨dimSettings_follows, hdegraded, ?_⟩
  exact ((branch_of_degraded dimSettings_follows [] none _).2 hdegraded).trans (by decide +kernel)

end QuerySettings

end ResponsiveStyles
