import ResponsiveStyles.Proofs.RegistryHistory
import Mathlib.Data.List.TakeWhile

/-!
# Stylesheets and their lines

The first character of a line of a stylesheet tells whether the line opens a block, holds a rule or
closes the block. As long as no media query and no declarations have a line break, a reader of lines
therefore gets back every block with its rules, whatever braces stand inside of them, and registries
with the same stylesheet hold the same rules.
-/
namespace ResponsiveStyles

theorem eraseDups_append_replicate {α : Type*} [BEq α] [LawfulBEq α] {l : List α} {a : α} {n : Nat}
    (h : a ∉ l) (hn : n ≠ 0) : (l ++ List.replicate n a).eraseDups = l.eraseDups ++ [a] := by
  induction n with
  | zero => exact absurd rfl hn
  | succ n ih =>
    rw [List.replicate_succ', ← List.append_assoc]
    by_cases h0 : n = 0
    · subst h0
      simpa using eraseDups_concat_of_notMem h
    · rw [eraseDups_concat_of_mem (by simp [h0]), ih h0]

def selectorSigns : Text := ".rsa-data-rsa-[]".toList

theorem SelectorTemplate.mem_selector {template : SelectorTemplate}
    (h : ∀ render, template ≠ .custom render) {fp : UInt64} {c : Char}
    (hc : c ∈ template.selector fp) : c ∈ selectorSigns ∨ c.isDigit := by
  have hsigns : selectorSigns = ".rsa-".toList ++ ("data-rsa-".toList ++ ['[', ']']) := rfl
  have hnumber : c ∈ Text.ofNat fp.toNat → c.isDigit := by
    intro hm
    exact Nat.isDigit_of_mem_toDigits (b := 10) (n := fp.toNat) (by decide) (by decide) hm
  rw [hsigns, List.mem_append, List.mem_append, List.mem_pair]
  cases template with
  | byClass =>
    rcases List.mem_append.1 hc with hc | hc
    · exact .inl (.inl hc)
    · exact .inr (hnumber hc)
  | byAttribute =>
    have hselector : byAttribute.selector fp =
        '[' :: (("data-rsa-".toList ++ Text.ofNat fp.toNat) ++ [']']) := rfl
    rw [hselector, List.mem_cons, List.mem_append, List.mem_append, List.mem_singleton] at hc
    rcases hc with hc | (hc | hc) | hc
    · exact .inl (.inr (.inr (.inl hc)))
    · exact .inl (.inr (.inl hc))
    · exact .inr (hnumber hc)
    · exact .inl (.inr (.inr (.inr hc)))
  | custom render => exact absurd rfl (h render)

namespace StyleRegistry

abbrev Outline := List (Text × List (Text × Text))

def outline (r : StyleRegistry) : Outline :=
  r.blocks.map fun b => (b.mediaQuery, b.rules)

section Reader

/-- The selector in front of the first brace of a line, and the declarations between the blanks inside
the outer braces. -/
def readRule (line : Text) : Text × Text :=
  (line.takeWhile (· ≠ '\x7b'), ((line.dropWhile (· ≠ '\x7b')).drop 2).dropLast.dropLast)

/-- The rules down to the end of the block that the lines begin in, and the blocks below it. -/
def readLines : List Text → List (Text × Text) × Outline
  | [] => ([], [])
  | ('\t' :: rule) :: below => (readRule rule :: (readLines below).1, (readLines below).2)
  | ('@' :: query) :: below =>
    ([], (('@' :: query).dropLast, (readLines below).1) :: (readLines below).2)
  | _ :: below => ([], (readLines below).2)

def readStylesheet (sheet : Text) : Outline :=
  (readLines (sheet.splitOn '\n')).2

theorem readRule_ruleLine {selector : Text} (h : '\x7b' ∉ selector) (declarations : Text) :
    readRule (ruleLine selector declarations).tail = (selector, declarations) := by
  have hline : (ruleLine selector declarations).tail =
      selector ++ '\x7b' :: ' ' :: (declarations ++ [' ', '\x7d']) := by
    simp [ruleLine]
  have hselector : ∀ c ∈ selector, decide (c ≠ '\x7b') := by
    intro c hc
    exact decide_eq_true fun he => h (he ▸ hc)
  rw [readRule, hline, List.takeWhile_append_of_pos hselector,
    List.dropWhile_append_of_pos hselector]
  simp

theorem readLines_ruleLine {selector : Text} (h : '\x7b' ∉ selector) (declarations : Text)
    (below : List Text) :
    readLines (ruleLine selector declarations :: below) =
      ((selector, declarations) :: (readLines below).1, (readLines below).2) := by
  have hrule := readRule_ruleLine h declarations
  rw [ruleLine, List.tail_cons] at hrule
  rw [ruleLine, readLines, hrule]

theorem readLines_rules {rules : List (Text × Text)} (h : ∀ p ∈ rules, '\x7b' ∉ p.1)
    (below : List Text) :
    readLines ((rules.map fun (selector, declarations) => ruleLine selector declarations) ++
        ['\x7d'] :: below) = (rules, (readLines below).2) := by
  induction rules with
  | nil => rfl
  | cons p rules ih =>
    obtain ⟨selector, declarations⟩ := p
    have hrules := ih fun p hp => h p (List.mem_cons_of_mem _ hp)
    rw [List.map_cons, List.cons_append, readLines_ruleLine (h _ List.mem_cons_self), hrules]

theorem readLines_blocks {blocks : List MediaBlock}
    (hquery : ∀ b ∈ blocks, "@media ".toList <+: b.mediaQuery)
    (hselector : ∀ b ∈ blocks, ∀ p ∈ b.rules, '\x7b' ∉ p.1) :
    (readLines (blocks.flatMap blockLines)).2 = blocks.map fun b => (b.mediaQuery, b.rules) := by
  induction blocks with
  | nil => rfl
  | cons b blocks ih =>
    obtain ⟨rest, hrest⟩ := hquery b List.mem_cons_self
    have hblocks := ih (fun c hc => hquery c (List.mem_cons_of_mem _ hc))
      fun c hc => hselector c (List.mem_cons_of_mem _ hc)
    have hrules := readLines_rules (hselector b List.mem_cons_self) (blocks.flatMap blockLines)
    have hheader : b.mediaQuery ++ ['\x7b'] = '@' :: ("media ".toList ++ rest ++ ['\x7b']) := by
      rw [← hrest]
      rfl
    rw [List.flatMap_cons, blockLines, List.cons_append, List.cons_append, List.append_assoc,
      List.singleton_append, hheader, readLines, hrules, hblocks, ← hheader, List.dropLast_concat,
      List.map_cons]

end Reader

/-- Media queries and declarations stand on lines of their own. -/
structure FitsLines (r : StyleRegistry) : Prop where
  opening : ∀ q ∈ r.mediaQueries, "@media ".toList <+: q
  query : ∀ q ∈ r.mediaQueries, '\n' ∉ q
  declarations : ∀ s ∈ r.rules, '\n' ∉ s.declarations

section Registry
variable {r : StyleRegistry} {pushed : List StyleRule} {q : Text}

theorem mem_rules {s : StyleRule} :
    s ∈ r.rules ↔ ∃ b ∈ r.blocks, b.mediaQuery = s.mediaQuery ∧
      (s.selector, s.declarations) ∈ b.rules := by
  rw [rules, List.mem_flatMap]
  refine exists_congr fun b => and_congr_right fun _ => ?_
  rw [List.mem_map]
  constructor
  · intro he
    obtain ⟨p, hp, rfl⟩ := he
    exact ⟨rfl, hp⟩
  · intro he
    exact ⟨_, he.2, by rw [he.1]⟩

theorem newline_notMem_blockLines (h : r.FitsLines)
    (hselector : ∀ s ∈ r.rules, '\n' ∉ s.selector) :
    ∀ line ∈ r.blocks.flatMap blockLines, '\n' ∉ line := by
  intro line hline
  obtain ⟨b, hb, hline⟩ := List.mem_flatMap.1 hline
  have hquery : '\n' ∉ b.mediaQuery := h.query _ (List.mem_map_of_mem hb)
  rw [blockLines, List.mem_append, List.mem_cons, List.mem_map, List.mem_singleton] at hline
  rcases hline with (rfl | ⟨p, hp, rfl⟩) | rfl
  · simp [hquery]
  · have hs : (⟨b.mediaQuery, p.1, p.2⟩ : StyleRule) ∈ r.rules := mem_rules.2 ⟨b, hb, rfl, hp⟩
    have hsel : '\n' ∉ p.1 := hselector _ hs
    have hdecl : '\n' ∉ p.2 := h.declarations _ hs
    simp [ruleLine, hsel, hdecl]
  · decide

theorem readStylesheet_stylesheet (h : r.FitsLines)
    (hnewline : ∀ s ∈ r.rules, '\n' ∉ s.selector) (hbrace : ∀ s ∈ r.rules, '\x7b' ∉ s.selector) :
    readStylesheet r.stylesheet = r.outline := by
  have hquery : ∀ b ∈ r.blocks, "@media ".toList <+: b.mediaQuery := by
    intro b hb
    exact h.opening _ (List.mem_map_of_mem hb)
  have hselector : ∀ b ∈ r.blocks, ∀ p ∈ b.rules, '\x7b' ∉ p.1 := by
    intro b hb p hp
    exact hbrace ⟨b.mediaQuery, p.1, p.2⟩ (mem_rules.2 ⟨b, hb, rfl, hp⟩)
  have hread := readLines_blocks hquery hselector
  rw [readStylesheet, stylesheet]
  by_cases h0 : r.blocks.flatMap blockLines = []
  · rw [h0] at hread ⊢
    exact hread
  · rw [List.splitOn_intercalate _ (newline_notMem_blockLines h hnewline) h0]
    exact hread

theorem Keeps.mediaQueries_eq_rules (h : r.Keeps pushed) :
    r.mediaQueries = (r.rules.map StyleRule.mediaQuery).eraseDups := by
  have hrules : r.rules.map StyleRule.mediaQuery =
      r.blocks.flatMap fun b => List.replicate b.rules.length b.mediaQuery := by
    simp [rules, List.map_flatMap, Function.comp_def]
  have hdistinct := h.nodup
  have hne : ∀ b ∈ r.blocks, b.rules ≠ [] := fun b hb => h.rules_ne_nil hb
  rw [hrules, mediaQueries]
  generalize r.blocks = blocks at hdistinct hne
  induction blocks using List.reverseRecOn with
  | nil => rfl
  | append_singleton blocks b ih =>
    rw [List.map_append, List.map_singleton, List.nodup_append] at hdistinct
    have hblocks := ih hdistinct.1 fun c hc => hne c (List.mem_append_left _ hc)
    have hb : b.rules.length ≠ 0 := by
      rw [ne_eq, List.length_eq_zero_iff]
      exact hne b (by simp)
    have hnew : b.mediaQuery ∉ blocks.flatMap fun c =>
        List.replicate c.rules.length c.mediaQuery := by
      intro hm
      obtain ⟨c, hc, hm⟩ := List.mem_flatMap.1 hm
      exact hdistinct.2.2 _ (List.mem_map_of_mem hc) _ (by simp) (List.eq_of_mem_replicate hm).symm
    rw [List.map_append, List.map_singleton, hblocks, List.flatMap_append, List.flatMap_singleton,
      eraseDups_append_replicate hnew hb]

theorem Keeps.under_rules (h : r.Keeps pushed) {b : MediaBlock} (hb : b ∈ r.blocks) :
    under b.mediaQuery r.rules = b.rules := by
  have hunder : under b.mediaQuery r.rules =
      r.blocks.flatMap fun c => if c.mediaQuery = b.mediaQuery then c.rules else [] := by
    rw [under, rules, List.filter_flatMap, List.map_flatMap]
    apply List.flatMap_congr
    intro c _
    rw [List.filter_map, List.map_map]
    by_cases hq : c.mediaQuery = b.mediaQuery
    · simp [hq, Function.comp_def]
    · simp [hq, Function.comp_def]
  have hdistinct := h.nodup
  rw [hunder]
  generalize r.blocks = blocks at hb hdistinct
  induction blocks with
  | nil => simp at hb
  | cons c blocks ih =>
    rw [List.map_cons, List.nodup_cons] at hdistinct
    rw [List.flatMap_cons]
    rcases List.mem_cons.1 hb with rfl | hb
    · have hrest : blocks.flatMap (fun c => if c.mediaQuery = b.mediaQuery then c.rules else []) =
          [] := by
        rw [List.flatMap_eq_nil_iff]
        intro c hc
        have hq : c.mediaQuery ≠ b.mediaQuery := by
          intro hq
          exact hdistinct.1 (hq ▸ List.mem_map_of_mem hc)
        exact if_neg hq
      rw [if_pos rfl, hrest, List.append_nil]
    · have hq : c.mediaQuery ≠ b.mediaQuery := by
        intro hq
        exact hdistinct.1 (hq ▸ List.mem_map_of_mem hb)
      rw [if_neg hq, List.nil_append, ih hb hdistinct.2]

theorem Keeps.outline_eq (h : r.Keeps pushed) :
    r.outline = (r.rules.map StyleRule.mediaQuery).eraseDups.map fun q => (q, under q r.rules) := by
  rw [← h.mediaQueries_eq_rules, mediaQueries, List.map_map, outline]
  apply List.map_congr_left
  intro b hb
  exact congrArg (b.mediaQuery, ·) (h.under_rules hb).symm

theorem rules_eq_outline (r : StyleRegistry) :
    r.rules = r.outline.flatMap fun p => p.2.map fun rule => ⟨p.1, rule.1, rule.2⟩ := by
  rw [rules, outline, List.flatMap_map]

theorem stylesheet_eq_outline (r : StyleRegistry) :
    r.stylesheet = ['\n'].intercalate
      (r.outline.flatMap fun p => blockLines { mediaQuery := p.1, rules := p.2 }) := by
  rw [stylesheet, outline, List.flatMap_map]
  rfl

theorem keeps_pushAll (seed : UInt32) (template : SelectorTemplate) (pushes : List (Text × Text)) :
    (pushAll { seed, template } pushes).Keeps (pushes.map (ruleOf seed template)) := by
  have hstart : Keeps { seed, template } [] := ⟨rfl, .nil, by simp⟩
  exact hstart.pushAll pushes

theorem selector_of_mem_rules (seed : UInt32) (template : SelectorTemplate)
    (pushes : List (Text × Text)) {s : StyleRule}
    (hs : s ∈ (pushAll { seed, template } pushes).rules) :
    ∃ fp, s.selector = template.selector fp := by
  have hkey := (keeps_pushAll seed template pushes).mem_map_key.1 (List.mem_map_of_mem hs)
  rw [List.map_map, List.mem_map] at hkey
  obtain ⟨p, -, hp⟩ := hkey
  exact ⟨_, (Prod.mk.inj hp).2.symm⟩

theorem readStylesheet_pushAll (seed : UInt32) {template : SelectorTemplate}
    (ht : ∀ render, template ≠ .custom render) (pushes : List (Text × Text))
    (h : (pushAll { seed, template } pushes).FitsLines) :
    readStylesheet (pushAll { seed, template } pushes).stylesheet =
      (pushAll { seed, template } pushes).outline := by
  have hselector {c : Char} (hc : ¬ (c ∈ selectorSigns ∨ c.isDigit)) :
      ∀ s ∈ (pushAll { seed, template } pushes).rules, c ∉ s.selector := by
    intro s hs hm
    obtain ⟨fp, hfp⟩ := selector_of_mem_rules seed template pushes hs
    rw [hfp] at hm
    exact hc (SelectorTemplate.mem_selector ht hm)
  exact readStylesheet_stylesheet h (hselector (by decide)) (hselector (by decide))

end Registry

/-- With selectors that are classes or attributes, the lines of a stylesheet show every block with its
rules, so that the stylesheet tells the rules and the rules tell the stylesheet. -/
theorem stylesheet_eq_iff_rules (seed seed' : UInt32) {template : SelectorTemplate}
    (ht : ∀ render, template ≠ .custom render) (pushes pushes' : List (Text × Text)) :
    let r := pushAll { seed, template } pushes
    let r' := pushAll { seed := seed', template } pushes'
    r.FitsLines → r'.FitsLines →
      readStylesheet r.stylesheet = r.outline ∧ (r.stylesheet = r'.stylesheet ↔ r.rules = r'.rules) := by
  intro r r' h h'
  have hread := readStylesheet_pushAll seed ht pushes h
  have hread' := readStylesheet_pushAll seed' ht pushes' h'
  refine ⟨hread, ?_, ?_⟩
  · intro hsheet
    have houtline : r.outline = r'.outline := by rw [← hread, ← hread', hsheet]
    rw [rules_eq_outline, rules_eq_outline, houtline]
  · intro hrules
    have houtline : r.outline = r'.outline := by
      rw [(keeps_pushAll seed template pushes).outline_eq,
        (keeps_pushAll seed' template pushes').outline_eq, hrules]
    rw [stylesheet_eq_outline, stylesheet_eq_outline, houtline]

def bracedPushes : List (Text × Text) :=
  [("@media (\x7b ".toList, "content:\"\x7d\"".toList),
    ("@media all".toList, "a \x7d\t.rsa-1\x7b b \x7d".toList),
    ("@media (\x7b ".toList, "\x7b".toList)]

def bracedRules : List StyleRule :=
  [⟨"@media (\x7b ".toList, ".rsa-6179360829409786".toList, "content:\"\x7d\"".toList⟩,
    ⟨"@media (\x7b ".toList, ".rsa-6072973422578956".toList, "\x7b".toList⟩,
    ⟨"@media all".toList, ".rsa-2029085294931443".toList, "a \x7d\t.rsa-1\x7b b \x7d".toList⟩]

theorem stylesheet_eq_bracedPushes :
    let r := pushAll { seed := 42, template := .byClass } bracedPushes
    let r' := pushAll { seed := 42, template := .byClass }
      [bracedPushes[0], bracedPushes[2], bracedPushes[1], bracedPushes[0]]
    r.FitsLines ∧ r'.FitsLines ∧ readStylesheet r.stylesheet = r.outline ∧
      r.stylesheet = r'.stylesheet := by
  intro r r'
  have h : r.FitsLines := ⟨by decide +kernel, by decide +kernel, by decide +kernel⟩
  have h' : r'.FitsLines := ⟨by decide +kernel, by decide +kernel, by decide +kernel⟩
  have hrules : r.rules = bracedRules := by decide +kernel
  have hrules' : r'.rules = bracedRules := by decide +kernel
  obtain ⟨hread, hiff⟩ := stylesheet_eq_iff_rules 42 42 (by simp) bracedPushes _ h h'
  exact ⟨h, h', hread, hiff.2 (hrules.trans hrules'.symm)⟩

end StyleRegistry

end ResponsiveStyles
