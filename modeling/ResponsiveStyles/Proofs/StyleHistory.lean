import ResponsiveStyles.Proofs.HashedTexts
import ResponsiveStyles.Proofs.PushedRules
import ResponsiveStyles.Proofs.RegistryHistory

/-!
# Compilers and the histories of their operations

A compiler remembers media queries and keeps the first rule of every selector, so that what it holds
depends on what it was asked to do. The rules it gives back do not: where no feature looks at the
context, a key and its declarations decide the rule. Every rule that was ever given back has its
selector under its media query from then on, and the same rules in another order lead to the same
selectors under the same media queries.
-/
namespace ResponsiveStyles

variable {γ : Type}

/-- What a compiler may be asked to do. -/
inductive StyleOperation (γ : Type) where
  | compileKey (key : Text)
  | push (styles : StyleMap) (context : Option γ)
  | pushJson (json : Text)
  | pushRule (key style : Text) (context : Option γ)

namespace StyleOperation

def entries : StyleOperation γ → List (Text × Text)
  | .compileKey _ => []
  | .push styles _ => styles.declarations
  | .pushJson json => ((StyleMap.read? json).getD []).declarations
  | .pushRule key style _ => [(key, style)]

end StyleOperation

namespace PushedRule

def entry (r : PushedRule) : Text × Text := (r.key, r.givenStyle)

def stored (r : PushedRule) : StyleRule := ⟨r.mediaQuery, r.selector, r.style⟩

end PushedRule

/-- The rule of an entry where no feature looks at the context. -/
def QuerySettings.ruleOf (s : QuerySettings γ) (template : SelectorTemplate) (seed : UInt32)
    (entry : Text × Text) : PushedRule :=
  let mediaQuery := s.compile entry.1 none
  let style := Declarations.canonical entry.2
  let fp := fingerprint (mediaQuery ++ ':' :: style) seed
  { key := entry.1, mediaQuery, givenStyle := entry.2, style, fingerprint := fp,
    selector := template.selector fp }

theorem QueryCompiler.get?_cache_compile {c : QueryCompiler γ} {key query : Text}
    (h : c.cache.get? key = some query) (key' : Text) (context : Option γ) :
    (c.compile key' context).2.cache.get? key = some query := by
  cases h' : c.cache.get? key' with
  | some q => simpa only [compile, h'] using h
  | none =>
    have hne : key ≠ key' := by
      rintro rfl
      simp [h] at h'
    simp only [compile, h', OrderedMap.get?_insert, hne, if_false, h]

theorem QueryCompiler.get?_cache_compile_self (c : QueryCompiler γ) (key : Text)
    (context : Option γ) :
    (c.compile key context).2.cache.get? key = some (c.compile key context).1 := by
  cases h : c.cache.get? key with
  | some q => simp only [compile, h]
  | none => simp only [compile, h, OrderedMap.get?_insert, if_true]

namespace StyleCompiler

def perform (c : StyleCompiler γ) : StyleOperation γ → List PushedRule × StyleCompiler γ
  | .compileKey key => ([], (c.compileKey key).2)
  | .push styles context => c.push context styles
  | .pushJson json => c.pushJson json
  | .pushRule key style context =>
    ([(c.pushRule key style context).1], (c.pushRule key style context).2)

def performAll (c : StyleCompiler γ) :
    List (StyleOperation γ) → List PushedRule × StyleCompiler γ
  | [] => ([], c)
  | o :: os =>
    let later := (c.perform o).2.performAll os
    ((c.perform o).1 ++ later.1, later.2)

theorem performAll_append (c : StyleCompiler γ) (os os' : List (StyleOperation γ)) :
    c.performAll (os ++ os') =
      ((c.performAll os).1 ++ ((c.performAll os).2.performAll os').1,
        ((c.performAll os).2.performAll os').2) := by
  induction os generalizing c with
  | nil => rfl
  | cons o os ih => simp only [List.cons_append, performAll, ih, List.append_assoc]

section Steps
variable {P : List PushedRule → StyleCompiler γ → Prop}
  (compileKey : ∀ rules c key, P rules c → P rules (c.compileKey key).2)
  (pushRule : ∀ rules c key style context, P rules c →
    P (rules ++ [(c.pushRule key style context).1]) (c.pushRule key style context).2)
include pushRule

theorem push_invariant {rules : List PushedRule} {c : StyleCompiler γ} (h : P rules c)
    (context : Option γ) (m : StyleMap) :
    P (rules ++ (c.push context m).1) (c.push context m).2 := by
  induction m generalizing c rules with
  | nil => simpa [push] using h
  | cons p r ih =>
    obtain ⟨key, v⟩ := p
    cases v with
    | string style =>
      have hr := ih (pushRule _ _ key style context h)
      rw [List.append_assoc] at hr
      exact hr
    | _ => exact ih h

include compileKey

theorem perform_invariant {rules : List PushedRule} {c : StyleCompiler γ} (h : P rules c)
    (o : StyleOperation γ) : P (rules ++ (c.perform o).1) (c.perform o).2 := by
  cases o with
  | compileKey key => simpa [perform] using compileKey _ _ key h
  | push styles context => exact push_invariant pushRule h context styles
  | pushJson json =>
    rw [perform, pushJson]
    split
    · exact push_invariant pushRule h none _
    · simpa using h
  | pushRule key style context => exact pushRule _ _ key style context h

/-- What holds of the rules so far and the compiler, and what compiling a key and entering a rule keep,
holds after any operations. -/
theorem performAll_invariant (rules : List PushedRule) {c : StyleCompiler γ} (h : P rules c)
    (os : List (StyleOperation γ)) : P (rules ++ (c.performAll os).1) (c.performAll os).2 := by
  induction os generalizing c rules with
  | nil => simpa [performAll] using h
  | cons o os ih =>
    have ho := ih _ (perform_invariant compileKey pushRule h o)
    rw [List.append_assoc] at ho
    exact ho

end Steps

theorem config_performAll (c : StyleCompiler γ) (os : List (StyleOperation γ)) :
    (c.performAll os).2.config = c.config :=
  performAll_invariant (P := fun _ c' => c'.config = c.config) (fun _ _ _ h => h)
    (fun _ _ _ _ _ h => h) [] rfl os

theorem map_entry_push (c : StyleCompiler γ) (context : Option γ) (m : StyleMap) :
    (c.push context m).1.map PushedRule.entry = m.declarations := by
  induction m generalizing c with
  | nil => rfl
  | cons p r ih =>
    obtain ⟨key, v⟩ := p
    cases v with
    | string style => exact congrArg ((key, style) :: ·) (ih _)
    | _ => exact ih c

theorem map_entry_performAll (c : StyleCompiler γ) (os : List (StyleOperation γ)) :
    (c.performAll os).1.map PushedRule.entry = os.flatMap StyleOperation.entries := by
  have hperform (c : StyleCompiler γ) (o : StyleOperation γ) :
      (c.perform o).1.map PushedRule.entry = o.entries := by
    cases o with
    | compileKey key => rfl
    | push styles context => exact map_entry_push c context styles
    | pushJson json =>
      rw [perform, pushJson, StyleOperation.entries]
      cases StyleMap.read? json with
      | some styles => exact map_entry_push c none styles
      | none => rfl
    | pushRule key style context => rfl
  induction os generalizing c with
  | nil => rfl
  | cons o os ih => rw [performAll, List.map_append, hperform, ih, List.flatMap_cons]

/-- The compiler after it gave back some rules: it makes rules as before, its registry keeps the first
of them for every selector, and it remembers their media queries. -/
structure Holds (c : StyleCompiler γ) (s : QuerySettings γ) (template : SelectorTemplate)
    (seed : UInt32) (rules : List PushedRule) : Prop where
  makesBy : c.MakesBy s template seed
  madeBy : ∀ r ∈ rules, r.MadeBy s template seed
  keeps : c.registry.Keeps (rules.map PushedRule.stored)
  remembered : ∀ r ∈ rules, c.queries.cache.get? r.key = some r.mediaQuery

section Holds
variable {c : StyleCompiler γ} {s : QuerySettings γ} {template : SelectorTemplate} {seed : UInt32}
  {rules : List PushedRule}

theorem holds_ofConfig (config : Config) (features : FeatureRegistry γ)
    (template : SelectorTemplate) (spareSeed : UInt32) :
    (ofConfig config features template spareSeed).Holds
      ⟨config.table, features, config.mediaFirst⟩ template (config.seed.getD spareSeed) [] where
  makesBy := makesBy_ofConfig config features template spareSeed
  madeBy _ h := absurd h List.not_mem_nil
  keeps := ⟨rfl, .nil, fun _ h => absurd h List.not_mem_nil⟩
  remembered _ h := absurd h List.not_mem_nil

theorem Holds.compileKey (h : c.Holds s template seed rules) (key : Text) :
    (c.compileKey key).2.Holds s template seed rules where
  makesBy := h.makesBy.compileKey key
  madeBy := h.madeBy
  keeps := h.keeps
  remembered r hr := QueryCompiler.get?_cache_compile (h.remembered r hr) key none

theorem stored_pushRule (c : StyleCompiler γ) (key style : Text) (context : Option γ) :
    (c.pushRule key style context).1.stored =
      StyleRegistry.ruleOf c.registry.seed c.registry.template
        ((c.pushRule key style context).1.mediaQuery, (c.pushRule key style context).1.style) := by
  simp only [PushedRule.stored, pushRule, StyleRegistry.selector, StyleRegistry.template_push]
  rfl

theorem Holds.pushRule (h : c.Holds s template seed rules) (key style : Text)
    (context : Option γ) :
    (c.pushRule key style context).2.Holds s template seed
      (rules ++ [(c.pushRule key style context).1]) := by
  obtain ⟨hmade, hmakes⟩ := h.makesBy.pushRule key style context
  refine ⟨hmakes, ?_, ?_, ?_⟩
  · intro r hr
    rcases List.mem_append.1 hr with hr | hr
    · exact h.madeBy r hr
    · obtain rfl := List.mem_singleton.1 hr
      exact hmade
  · rw [List.map_append, List.map_singleton, stored_pushRule]
    exact h.keeps.push _ _
  · intro r hr
    rcases List.mem_append.1 hr with hr | hr
    · exact QueryCompiler.get?_cache_compile (h.remembered r hr) key context
    · obtain rfl := List.mem_singleton.1 hr
      exact c.queries.get?_cache_compile_self key context

theorem Holds.performAll (h : c.Holds s template seed rules) (os : List (StyleOperation γ)) :
    (c.performAll os).2.Holds s template seed (rules ++ (c.performAll os).1) :=
  performAll_invariant (P := fun rules c => c.Holds s template seed rules)
    (fun _ _ key h => h.compileKey key)
    (fun _ _ key style context h => h.pushRule key style context) rules h os

theorem Holds.contains (h : c.Holds s template seed rules) {r : PushedRule} (hr : r ∈ rules) :
    c.registry.contains r.mediaQuery r.selector :=
  h.keeps.contains_iff.2 ⟨r.style, List.mem_map.2 ⟨r, hr, rfl⟩⟩

theorem Holds.fst_compileKey (h : c.Holds s template seed rules) {r : PushedRule} (hr : r ∈ rules) :
    (c.compileKey r.key).1 = r.mediaQuery := by
  simp only [StyleCompiler.compileKey, QueryCompiler.compile, h.remembered r hr]

end Holds

end StyleCompiler

namespace StyleRegistry

/-- Registries with the same selectors under the same media queries, whatever their order and their
declarations. -/
structure SameSelectors (r r' : StyleRegistry) : Prop where
  perm : (r.rules.map StyleRule.key).Perm (r'.rules.map StyleRule.key)
  contains_iff : ∀ q s, r.contains q s ↔ r'.contains q s
  size_eq : r.size = r'.size

theorem Keeps.sameSelectors {r r' : StyleRegistry} {pushed pushed' : List StyleRule}
    (h : r.Keeps pushed) (h' : r'.Keeps pushed') (hp : pushed.Perm pushed') :
    r.SameSelectors r' := by
  have hperm : (r.rules.map StyleRule.key).Perm (r'.rules.map StyleRule.key) := by
    refine (List.perm_ext_iff_of_nodup h.nodup_map_key h'.nodup_map_key).2 fun p => ?_
    rw [h.mem_map_key, h'.mem_map_key, (hp.map StyleRule.key).mem_iff]
  refine ⟨hperm, fun q s => ?_, ?_⟩
  · rw [h.contains_iff, h'.contains_iff]
    exact exists_congr fun d => hp.mem_iff
  · rw [← length_rules, ← length_rules]
    simpa using hperm.length_eq

end StyleRegistry

theorem PushedRule.MadeBy.eq_ruleOf {r : PushedRule} {s : QuerySettings γ}
    {template : SelectorTemplate} {seed : UInt32} (h : r.MadeBy s template seed)
    (hs : s.IgnoresContext) : r = s.ruleOf template seed r.entry := by
  obtain ⟨⟨context, hquery⟩, hstyle, hfp, hselector⟩ := h
  rw [hs.compile_eq r.key context none] at hquery
  cases r
  simp only [PushedRule.hashedText] at hquery hstyle hfp hselector
  subst hquery hstyle hfp hselector
  rfl

namespace StyleCompiler

theorem Holds.rules_eq {c : StyleCompiler γ} {s : QuerySettings γ} {template : SelectorTemplate}
    {seed : UInt32} {rules : List PushedRule} (h : c.Holds s template seed rules)
    (hs : s.IgnoresContext) : rules = (rules.map PushedRule.entry).map (s.ruleOf template seed) := by
  rw [List.map_map]
  exact (List.map_id _).symm.trans (List.map_congr_left fun r hr => (h.madeBy r hr).eq_ruleOf hs)

section Independence
variable (config : Config) (features : FeatureRegistry γ) (template : SelectorTemplate)

def afterAll (spareSeed : UInt32) (history : List (StyleOperation γ)) : StyleCompiler γ :=
  ((ofConfig config features template spareSeed).performAll history).2

theorem holds_afterAll {seed : UInt32} (hseed : config.seed = some seed) (spareSeed : UInt32)
    (history : List (StyleOperation γ)) :
    (afterAll config features template spareSeed history).Holds
      ⟨config.table, features, config.mediaFirst⟩ template seed
      ((ofConfig config features template spareSeed).performAll history).1 := by
  have h := (holds_ofConfig config features template spareSeed).performAll history
  rw [hseed] at h
  exact h

/-- Where the seed is given and no feature looks at the context, the rule of an entry is the same after
any operations; its selector then stays under its media query; and the same entries in any order, with
any keys compiled in between, leave the same selectors under the same media queries. -/
theorem rules_independent_of_history {seed : UInt32} (hseed : config.seed = some seed)
    (hfeatures : QuerySettings.IgnoresContext ⟨config.table, features, config.mediaFirst⟩) :
    (∀ spareSeed spareSeed' history history' key style context context',
      ((afterAll config features template spareSeed history).pushRule key style context).1 =
        ((afterAll config features template spareSeed' history').pushRule key style context').1) ∧
    (∀ spareSeed history key style context later,
      let pushed := (afterAll config features template spareSeed history).pushRule key style context
      let registry := (pushed.2.performAll later).2.registry
      pushed.1.selector = template.selector pushed.1.fingerprint ∧
        pushed.1.fingerprint = pushed.2.registry.fingerprint pushed.1.mediaQuery pushed.1.style ∧
        pushed.1.fingerprint = registry.fingerprint pushed.1.mediaQuery pushed.1.style ∧
        registry.contains pushed.1.mediaQuery pushed.1.selector) ∧
    (∀ spareSeed spareSeed' history history',
      (history.flatMap StyleOperation.entries).Perm (history'.flatMap StyleOperation.entries) →
      (afterAll config features template spareSeed history).registry.SameSelectors
        (afterAll config features template spareSeed' history').registry) := by
  have hholds := holds_afterAll config features template hseed
  refine ⟨?_, ?_, ?_⟩
  · intro spareSeed spareSeed' history history' key style context context'
    have hmade := ((hholds spareSeed history).makesBy.pushRule key style context).1
    have hmade' := ((hholds spareSeed' history').makesBy.pushRule key style context').1
    exact (hmade.eq_ruleOf hfeatures).trans (hmade'.eq_ruleOf hfeatures).symm
  · intro spareSeed history key style context later pushed registry
    have hmade := ((hholds spareSeed history).makesBy.pushRule key style context).1
    have hpushed := (hholds spareSeed history).pushRule key style context
    have hlater := hpushed.performAll later
    have hmem : pushed.1 ∈ ((ofConfig config features template spareSeed).performAll history).1 ++
        [pushed.1] ++ (pushed.2.performAll later).1 := by simp
    refine ⟨hmade.selector, ?_, ?_, hlater.contains hmem⟩
    · rw [StyleRegistry.fingerprint, hpushed.makesBy.seed_eq]
      exact hmade.fingerprint
    · rw [StyleRegistry.fingerprint, hlater.makesBy.seed_eq]
      exact hmade.fingerprint
  · intro spareSeed spareSeed' history history' hperm
    have hrules (spareSeed : UInt32) (history : List (StyleOperation γ)) :
        ((ofConfig config features template spareSeed).performAll history).1 =
          (history.flatMap StyleOperation.entries).map
            (QuerySettings.ruleOf ⟨config.table, features, config.mediaFirst⟩ template seed) := by
      rw [(hholds spareSeed history).rules_eq hfeatures, map_entry_performAll]
    refine (hholds spareSeed history).keeps.sameSelectors (hholds spareSeed' history').keeps ?_
    rw [hrules, hrules]
    exact (hperm.map _).map _

end Independence

def pinnedConfig : Config := { seed := some 42 }

def printThenHover : List (StyleOperation Bool) :=
  [.pushRule "print".toList "color:red".toList (some true), .compileKey "hover(none)".toList,
    .pushRule "hover(none)".toList "color: red".toList none]

def hoverThenPrint : List (StyleOperation Bool) :=
  [.pushRule "hover(none)".toList "color: red".toList (some false),
    .pushRule "print".toList "color:red".toList none]

theorem rules_printThenHover :
    pinnedConfig.seed = some 42 ∧ QueryCompiler.hoverSettings.IgnoresContext ∧
      ((afterAll pinnedConfig QueryCompiler.hoverSettings.features .byClass 7
          printThenHover).pushRule "hover(none)".toList "color: red".toList (some false)).1 =
        { key := "hover(none)".toList, mediaQuery := "@media all and (hover: none)".toList
          givenStyle := "color: red".toList, style := "color:red".toList
          fingerprint := 5816590391390360, selector := ".rsa-5816590391390360".toList } ∧
      (afterAll pinnedConfig QueryCompiler.hoverSettings.features .byClass 7
          printThenHover).registry.SameSelectors
        (afterAll pinnedConfig QueryCompiler.hoverSettings.features .byClass 8
          hoverThenPrint).registry := by
  have hignores := QueryCompiler.hoverSettings_ignoresContext
  obtain ⟨hrule, -, hsame⟩ := rules_independent_of_history pinnedConfig
    QueryCompiler.hoverSettings.features .byClass rfl hignores
  refine ⟨rfl, hignores, ?_, hsame 7 8 _ _ (by decide)⟩
  rw [hrule 7 8 _ [] "hover(none)".toList "color: red".toList (some false) none]
  decide +kernel

end StyleCompiler

end ResponsiveStyles
