import ResponsiveStyles.Proofs.CanonicalForm
import ResponsiveStyles.Proofs.CompilationHistory
import ResponsiveStyles.Proofs.EnclosedColons
import ResponsiveStyles.Style.Compiler

/-!
# The texts that are hashed

The fingerprint of a rule is that of its media query and its declarations with a colon between them.
Two rules have one such text when the media query of the first goes on, in that of the second, with a
colon and the beginning of the declarations of the first. Only media types, clauses, lengths and
features with colons of their own can bring this about.
-/
namespace ResponsiveStyles

variable {γ : Type}

namespace Text

theorem not_startsBlank_trim (t : Text) : ¬ startsBlank (trim t) := by
  rw [startsBlank, Option.any_eq_true]
  intro he
  obtain ⟨c, hc, hblank⟩ := he
  exact not_isBlank_of_mem_head?_trim c hc hblank

theorem not_startsBlank_intercalate {sep : Char} (hsep : isBlank sep = false) {ts : List Text}
    (h : ∀ t ∈ ts, ¬ startsBlank t) : ¬ startsBlank ([sep].intercalate ts) := by
  cases ts with
  | nil => simp [startsBlank]
  | cons t r =>
    have ht := h t List.mem_cons_self
    cases r with
    | nil => rwa [List.intercalate_singleton]
    | cons t' r =>
      rw [List.intercalate_cons_cons]
      cases t with
      | nil => simp [startsBlank, hsep]
      | cons c s => exact ht

end Text

theorem Declarations.not_startsBlank_canonical (block : Text) :
    ¬ Text.startsBlank (Declarations.canonical block) := by
  refine Text.not_startsBlank_intercalate (by decide) fun d hd => ?_
  obtain ⟨e, -, rfl⟩ := List.mem_map.1 ((Declarations.sort_perm _).mem_iff.1 hd)
  refine Text.not_startsBlank_intercalate (by decide) fun piece hpiece => ?_
  obtain ⟨p, -, rfl⟩ := List.mem_map.1 hpiece
  exact Text.not_startsBlank_trim p

namespace PushedRule

def hashedText (r : PushedRule) : Text :=
  r.mediaQuery ++ ':' :: r.style

/-- The media query of the other rule is that of this one together with a beginning of its
declarations. -/
def Overlaps (r r' : PushedRule) : Prop :=
  ∃ x, ¬ Text.startsBlank x ∧ r'.mediaQuery = r.mediaQuery ++ ':' :: x ∧
    r.style = x ++ ':' :: r'.style

/-- Two texts that the seed does not tell apart. -/
def Collides (r r' : PushedRule) (seed : UInt32) : Prop :=
  r.hashedText ≠ r'.hashedText ∧
    ResponsiveStyles.fingerprint r.hashedText seed =
      ResponsiveStyles.fingerprint r'.hashedText seed

/-- What a rule is made of, by the settings, the template and the seed of its compiler. -/
structure MadeBy (r : PushedRule) (s : QuerySettings γ) (template : SelectorTemplate)
    (seed : UInt32) : Prop where
  query : ∃ context, r.mediaQuery = s.compile r.key context
  style : r.style = Declarations.canonical r.givenStyle
  fingerprint : r.fingerprint = ResponsiveStyles.fingerprint r.hashedText seed
  selector : r.selector = template.selector r.fingerprint

theorem hashedText_eq_iff {r r' : PushedRule} {s : QuerySettings γ} {template : SelectorTemplate}
    {seed : UInt32} (hr : r.MadeBy s template seed) (hr' : r'.MadeBy s template seed) :
    r.hashedText = r'.hashedText ↔
      (r.mediaQuery = r'.mediaQuery ∧ r.style = r'.style) ∨ r.Overlaps r' ∨ r'.Overlaps r := by
  have hoverlaps {r r' : PushedRule} {x : Text} (hr : r.MadeBy s template seed)
      (hquery : r'.mediaQuery = r.mediaQuery ++ ':' :: x) (hstyle : r.style = x ++ ':' :: r'.style) :
      r.Overlaps r' := by
    refine ⟨x, fun hx => ?_, hquery, hstyle⟩
    have hblank : Text.startsBlank r.style := hstyle ▸ Text.startsBlank_append hx _
    -- Canonical declarations do not begin with white space, so what overlaps does not either.
    rw [hr.style] at hblank
    exact Declarations.not_startsBlank_canonical _ hblank
  constructor
  · intro h
    rcases List.append_eq_append_iff.1 h with ⟨x, hquery, hx⟩ | ⟨x, hquery, hx⟩
    · rcases List.cons_eq_append_iff.1 hx with ⟨rfl, hx⟩ | ⟨x, rfl, hstyle⟩
      · exact .inl ⟨by simpa using hquery.symm, (List.cons.inj hx).2⟩
      · exact .inr (.inl (hoverlaps hr hquery hstyle))
    · rcases List.cons_eq_append_iff.1 hx with ⟨rfl, hx⟩ | ⟨x, rfl, hstyle⟩
      · exact .inl ⟨by simpa using hquery, (List.cons.inj hx).2.symm⟩
      · exact .inr (.inr (hoverlaps hr' hquery hstyle))
  · rintro (⟨hquery, hstyle⟩ | ⟨x, -, hquery, hstyle⟩ | ⟨x, -, hquery, hstyle⟩)
    · rw [hashedText, hashedText, hquery, hstyle]
    · simp [hashedText, hquery, hstyle]
    · simp [hashedText, hquery, hstyle]

theorem MadeBy.enclosed {r : PushedRule} {s : QuerySettings γ} {template : SelectorTemplate}
    {seed : UInt32} (h : r.MadeBy s template seed) (ht : s.table.ClosedLengths)
    (hkey : QueryKey.Guarded r.key s) : Text.Enclosed r.mediaQuery := by
  obtain ⟨context, hquery⟩ := h.query
  rw [hquery]
  exact QuerySettings.enclosed_compile ht hkey context

theorem not_overlaps {r r' : PushedRule} (hr : Text.Enclosed r.mediaQuery)
    (hr' : Text.Enclosed r'.mediaQuery) : ¬ r.Overlaps r' := by
  rintro ⟨x, hx, hquery, -⟩
  exact hx (hr.startsBlank_of_append (hquery ▸ hr'))

end PushedRule

theorem SelectorTemplate.selector_eq_iff {template : SelectorTemplate}
    (h : ∀ render, template ≠ .custom render) {fp fp' : UInt64} :
    template.selector fp = template.selector fp' ↔ fp = fp' := by
  have hnat {m n : Nat} (h : Text.ofNat m = Text.ofNat n) : m = n := by
    rw [← Nat.ofDigitChars_toDigits (b := 10) (n := m) (by decide) (by decide),
      ← Nat.ofDigitChars_toDigits (b := 10) (n := n) (by decide) (by decide)]
    exact congrArg (Nat.ofDigitChars 10 · 0) h
  refine ⟨fun he => UInt64.toNat_inj.1 (hnat ?_), fun he => congrArg _ he⟩
  cases template with
  | byClass => exact List.append_cancel_left he
  | byAttribute =>
    exact List.append_cancel_left (List.append_cancel_right (List.cons.inj he).2)
  | custom render => exact absurd rfl (h render)

inductive StyleRequest (γ : Type) where
  | compileKey (key : Text)
  | pushRule (key style : Text) (context : Option γ)

namespace StyleCompiler

def pushed (c : StyleCompiler γ) : List (StyleRequest γ) → List PushedRule
  | [] => []
  | .compileKey key :: rs => (c.compileKey key).2.pushed rs
  | .pushRule key style context :: rs =>
    (c.pushRule key style context).1 :: (c.pushRule key style context).2.pushed rs

structure MakesBy (c : StyleCompiler γ) (s : QuerySettings γ) (template : SelectorTemplate)
    (seed : UInt32) : Prop where
  remembers : ∃ cached, c.queries.Remembers s cached
  template_eq : c.registry.template = template
  seed_eq : c.registry.seed = seed

section MakesBy
variable {c : StyleCompiler γ} {s : QuerySettings γ} {template : SelectorTemplate} {seed : UInt32}

theorem MakesBy.compileKey (h : c.MakesBy s template seed) (key : Text) :
    (c.compileKey key).2.MakesBy s template seed := by
  obtain ⟨⟨cached, hcached⟩, ht, hseed⟩ := h
  exact ⟨⟨_, (hcached.compile key none).2⟩, ht, hseed⟩

theorem MakesBy.pushRule (h : c.MakesBy s template seed) (key style : Text) (context : Option γ) :
    (c.pushRule key style context).1.MadeBy s template seed ∧
      (c.pushRule key style context).2.MakesBy s template seed := by
  obtain ⟨⟨cached, hcached⟩, rfl, rfl⟩ := h
  obtain ⟨hquery, hlater⟩ := hcached.compile key context
  constructor
  · exact ⟨⟨_, hquery⟩, rfl, rfl, by simp [StyleCompiler.pushRule, StyleRegistry.selector]⟩
  · exact ⟨⟨_, hlater⟩, StyleRegistry.template_push _ _ _, StyleRegistry.seed_push _ _ _⟩

theorem MakesBy.pushed (h : c.MakesBy s template seed) (rs : List (StyleRequest γ)) :
    ∀ r ∈ c.pushed rs, r.MadeBy s template seed := by
  induction rs generalizing c with
  | nil => exact fun r hr => absurd hr List.not_mem_nil
  | cons request rs ih =>
    cases request with
    | compileKey key => exact ih (h.compileKey key)
    | pushRule key style context =>
      obtain ⟨hrule, hlater⟩ := h.pushRule key style context
      exact List.forall_mem_cons.2 ⟨hrule, ih hlater⟩

end MakesBy

theorem makesBy_ofConfig (config : Config) (features : FeatureRegistry γ)
    (template : SelectorTemplate) (spareSeed : UInt32) :
    (ofConfig config features template spareSeed).MakesBy
      ⟨config.table, features, config.mediaFirst⟩ template (config.seed.getD spareSeed) :=
  ⟨⟨[], rfl, rfl⟩, rfl, rfl⟩

/-- Rules of one compiler are hashed as one text only if they are the same rule or one overlaps the
other, and rules of guarded keys do not overlap. A selector is shared in these cases, and otherwise
only where the hash collides. -/
theorem pushed_hashedText (config : Config) (features : FeatureRegistry γ)
    (template : SelectorTemplate) (spareSeed : UInt32) (rs : List (StyleRequest γ))
    {r r' : PushedRule} (hr : r ∈ (ofConfig config features template spareSeed).pushed rs)
    (hr' : r' ∈ (ofConfig config features template spareSeed).pushed rs) :
    let s : QuerySettings γ := ⟨config.table, features, config.mediaFirst⟩
    (r.hashedText = r'.hashedText ↔
      (r.mediaQuery = r'.mediaQuery ∧ r.style = r'.style) ∨ r.Overlaps r' ∨ r'.Overlaps r) ∧
    (s.table.ClosedLengths → QueryKey.Guarded r.key s → QueryKey.Guarded r'.key s →
      r.hashedText = r'.hashedText → r.mediaQuery = r'.mediaQuery ∧ r.style = r'.style) ∧
    r.fingerprint = fingerprint r.hashedText (config.seed.getD spareSeed) ∧
    ((∀ render, template ≠ .custom render) →
      (r.selector = r'.selector ↔
        r.hashedText = r'.hashedText ∨ r.Collides r' (config.seed.getD spareSeed))) := by
  intro s
  have hmakes := makesBy_ofConfig config features template spareSeed
  have hmade := hmakes.pushed rs r hr
  have hmade' := hmakes.pushed rs r' hr'
  have hiff := PushedRule.hashedText_eq_iff hmade hmade'
  refine ⟨hiff, ?_, hmade.fingerprint, fun ht => ?_⟩
  · intro hlengths hkey hkey' h
    have hq := hmade.enclosed hlengths hkey
    have hq' := hmade'.enclosed hlengths hkey'
    rcases hiff.1 h with heq | hover | hover
    · exact heq
    · exact absurd hover (PushedRule.not_overlaps hq hq')
    · exact absurd hover (PushedRule.not_overlaps hq' hq)
  · rw [hmade.selector, hmade'.selector, SelectorTemplate.selector_eq_iff ht, hmade.fingerprint,
      hmade'.fingerprint]
    constructor
    · intro h
      by_cases htext : r.hashedText = r'.hashedText
      · exact .inl htext
      · exact .inr ⟨htext, h⟩
    · rintro (htext | ⟨-, h⟩)
      · rw [htext]
      · exact h

def printRequests : List (StyleRequest Unit) :=
  [.pushRule "print".toList "hover:color:red".toList none, .compileKey "undefined".toList,
    .pushRule "print@(hover:hover)".toList "color:red".toList none]

def printRules : List PushedRule :=
  (ofConfig {} [] .byClass 42).pushed printRequests

theorem pairwise_hashedText_printRules :
    printRules.Pairwise fun r r' => r.hashedText ≠ r'.hashedText := by
  let s : QuerySettings Unit := ⟨({} : Config).table, [], ({} : Config).mediaFirst⟩
  have hlengths : s.table.ClosedLengths := by decide +kernel
  have hmedia : ∀ r ∈ printRules, ∀ b ∈ QueryKey.branches r.key,
      ∀ f ∈ (QueryKey.fragments b).head?, NamesMedia f → Text.Enclosed f := by decide +kernel
  have hclause : ∀ r ∈ printRules, ∀ b ∈ QueryKey.branches r.key,
      ∀ f ∈ spokenBody (QueryKey.fragments b), ¬ s.table.isToken f → IsClause f →
        Text.Enclosed f := by decide +kernel
  have hkeys (r : PushedRule) (hr : r ∈ printRules) : QueryKey.Guarded r.key s :=
    ⟨hmedia r hr, hclause r hr, fun _ _ _ _ _ hcall => absurd hcall.registered List.not_mem_nil⟩
  have hpairs : printRules.Pairwise fun r r' =>
      ¬ (r.mediaQuery = r'.mediaQuery ∧ r.style = r'.style) := by decide +kernel
  refine hpairs.imp_of_mem fun hr hr' hne h => hne ?_
  exact (pushed_hashedText {} [] .byClass 42 printRequests hr hr').2.1 hlengths (hkeys _ hr)
    (hkeys _ hr') h

theorem hashedText_print_hover :
    let rules := (ofConfig { seed := some 42 } ([] : FeatureRegistry Unit) .byClass 0).pushed
      [.pushRule "print:hover".toList "color:red".toList none,
        .pushRule "print".toList "hover:color:red".toList none]
    rules.map (fun r => (r.mediaQuery, r.style)) =
        [("@media print:hover".toList, "color:red".toList),
          ("@media print".toList, "hover:color:red".toList)] ∧
      rules.map PushedRule.hashedText =
        ["@media print:hover:color:red".toList, "@media print:hover:color:red".toList] ∧
      rules.map PushedRule.selector =
        [".rsa-6588907680309307".toList, ".rsa-6588907680309307".toList] := by
  decide +kernel

end StyleCompiler

end ResponsiveStyles
