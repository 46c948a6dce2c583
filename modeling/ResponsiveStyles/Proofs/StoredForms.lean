import ResponsiveStyles.Proofs.StyleHistory
import ResponsiveStyles.Proofs.TightDeclarations

/-!
# Stored forms

Whatever a compiler was asked to do, the declarations in its registry are canonical forms. Bringing them
into canonical form again changes nothing, and a rule that is entered with its stored declarations is
the stored rule.
-/
namespace ResponsiveStyles

variable {γ : Type}

theorem OrderedMap.mem_of_mem_firstWrites {κ ν : Type} [DecidableEq κ] {ps : List (κ × ν)}
    {p : κ × ν} (h : p ∈ firstWrites ps) : p ∈ ps := by
  obtain ⟨k, -, hk⟩ := List.mem_filterMap.1 h
  obtain ⟨v, hv, rfl⟩ := Option.map_eq_some_iff.1 hk
  obtain ⟨q, hq, rfl⟩ := Option.map_eq_some_iff.1 hv
  obtain ⟨hmem, hkey⟩ := List.mem_filter.1 (List.mem_of_mem_head? hq)
  obtain rfl : q.1 = k := by simpa using hkey
  exact hmem

theorem StyleRegistry.Keeps.mem_pushed {r : StyleRegistry} {pushed : List StyleRule}
    (h : r.Keeps pushed) {rule : StyleRule} (hrule : rule ∈ r.rules) : rule ∈ pushed := by
  obtain ⟨b, hb, hrule⟩ := List.mem_flatMap.1 hrule
  obtain ⟨⟨s, d⟩, hsd, rfl⟩ := List.mem_map.1 hrule
  rw [(h.blocks b hb).rules_eq] at hsd
  exact mem_under.1 (OrderedMap.mem_of_mem_firstWrites hsd)

namespace StyleCompiler

section Holds
variable {c : StyleCompiler γ} {s : QuerySettings γ} {template : SelectorTemplate} {seed : UInt32}
  {rules : List PushedRule}

theorem Holds.canonical_style (h : c.Holds s template seed rules) {r : PushedRule} (hr : r ∈ rules) :
    Declarations.canonical r.style = r.style := by
  rw [(h.madeBy r hr).style]
  exact Declarations.canonical_canonical r.givenStyle

theorem Holds.canonical_declarations (h : c.Holds s template seed rules) {rule : StyleRule}
    (hrule : rule ∈ c.registry.rules) :
    Declarations.canonical rule.declarations = rule.declarations := by
  obtain ⟨r, hr, rfl⟩ := List.mem_map.1 (h.keeps.mem_pushed hrule)
  exact h.canonical_style hr

theorem Holds.pushRule_style (h : c.Holds s template seed rules) {r : PushedRule} (hr : r ∈ rules)
    (context : Option γ) :
    c.pushRule r.key r.style context = ({ r with givenStyle := r.style }, c) := by
  have hquery : c.queries.compile r.key context = (r.mediaQuery, c.queries) := by
    rw [QueryCompiler.compile, h.remembered r hr]
  have hfp : c.registry.fingerprint r.mediaQuery r.style = r.fingerprint := by
    rw [StyleRegistry.fingerprint, h.makesBy.seed_eq]
    exact (h.madeBy r hr).fingerprint.symm
  have hselector : c.registry.selector r.fingerprint = r.selector := by
    rw [StyleRegistry.selector, h.makesBy.template_eq]
    exact (h.madeBy r hr).selector.symm
  have hcontains := h.contains hr
  rw [← hselector, ← hfp] at hcontains
  have hpush : c.registry.push r.mediaQuery r.style = (r.fingerprint, c.registry) :=
    Prod.ext hfp (StyleRegistry.push_of_contains hcontains)
  rw [StyleCompiler.pushRule, hquery, h.canonical_style hr]
  simp only [hpush, hselector]

end Holds

/-- Bringing a text into canonical form a second time changes nothing, and the texts that it leaves alone
are those made of tight declarations in their order. Such are the declarations of every rule that a
compiler gives back or keeps, after any operations; and a rule entered again with them is the same rule
and changes nothing. -/
theorem canonical_forms_fixed :
    (∀ t, Declarations.canonical (Declarations.canonical t) = Declarations.canonical t) ∧
    (∀ t, Declarations.canonical t = t ↔ ∃ ds, Declarations.IsFormOf ds t) ∧
    ∀ (config : Config) (features : FeatureRegistry γ) template spareSeed history,
      let later := (ofConfig config features template spareSeed).performAll history
      (∀ rule ∈ later.2.registry.rules,
        Declarations.canonical rule.declarations = rule.declarations) ∧
      ∀ r ∈ later.1, Declarations.canonical r.style = r.style ∧
        ∀ context, later.2.pushRule r.key r.style context =
          ({ r with givenStyle := r.style }, later.2) := by
  refine ⟨Declarations.canonical_canonical, fun t => Declarations.canonical_eq_self_iff, ?_⟩
  intro config features template spareSeed history later
  have hlater := (holds_ofConfig config features template spareSeed).performAll history
  refine ⟨fun rule hrule => hlater.canonical_declarations hrule, fun r hr => ?_⟩
  exact ⟨hlater.canonical_style hr, hlater.pushRule_style hr⟩

def doubleColon : List (StyleOperation Unit) :=
  [.compileKey "print".toList, .pushRule "print".toList " ;content : : none;; ".toList none]

def doubleColonRule : PushedRule where
  key := "print".toList
  mediaQuery := "@media print".toList
  givenStyle := " ;content : : none;; ".toList
  style := "content::none".toList
  fingerprint := 5810846352638013
  selector := ".rsa-5810846352638013".toList

theorem canonical_forms_doubleColon :
    let later := (ofConfig pinnedConfig [] .byClass 0).performAll doubleColon
    later.1 = [doubleColonRule] ∧ later.2.registry.rules = [doubleColonRule.stored] ∧
      Declarations.canonical doubleColonRule.style = doubleColonRule.style ∧
      later.2.pushRule doubleColonRule.key doubleColonRule.style none =
        ({ doubleColonRule with givenStyle := doubleColonRule.style }, later.2) := by
  have hrules : ((ofConfig pinnedConfig [] .byClass 0).performAll doubleColon).1 =
      [doubleColonRule] := by decide +kernel
  have hstored : ((ofConfig pinnedConfig [] .byClass 0).performAll doubleColon).2.registry.rules =
      [doubleColonRule.stored] := by decide +kernel
  obtain ⟨-, -, hforms⟩ := canonical_forms_fixed (γ := Unit)
  have hgiven := (hforms pinnedConfig [] .byClass 0 doubleColon).2 doubleColonRule
    (by rw [hrules]; exact List.mem_singleton_self _)
  exact ⟨hrules, hstored, hgiven.1, hgiven.2 none⟩

end StyleCompiler

end ResponsiveStyles
