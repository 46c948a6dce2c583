import ResponsiveStyles.Proofs.WriteHistory
import ResponsiveStyles.Style.Registry
import Mathlib.Data.List.Nodup
import Mathlib.Data.List.Perm.Lattice

/-!
# Registries and the histories of their pushes

Blocks and rules stand in lists, and two levels of maps give their places. After any pushes the lists
hold the first writes of the history, whatever selectors the template makes one, and the maps give
exactly the places in the lists.
-/
namespace ResponsiveStyles

section Places
variable {κ α : Type*} [DecidableEq κ]

def Places (m : OrderedMap κ Nat) (l : List κ) : Prop :=
  ∀ k i, m.get? k = some i ↔ l[i]? = some k

theorem Places.nil : Places ([] : OrderedMap κ Nat) [] := by
  intro k i
  simp

theorem Places.concat {m : OrderedMap κ Nat} {l : List κ} {k : κ} (h : Places m l)
    (hk : k ∉ l) : Places (m.insert k l.length) (l ++ [k]) := by
  intro k' i
  have hi : l[i]? = some k' → i < l.length := fun hi => (List.getElem?_eq_some_iff.1 hi).1
  rw [OrderedMap.get?_insert, List.getElem?_append]
  split_ifs with hkk hlt hlt
  · subst hkk
    constructor
    · intro he
      obtain rfl : l.length = i := by simpa using he
      omega
    · intro hm
      exact absurd (List.mem_of_getElem? hm) hk
  · subst hkk
    rw [Option.some.injEq, List.getElem?_singleton]
    split_ifs with h0
    · exact ⟨fun _ => rfl, fun _ => by omega⟩
    · exact ⟨fun he => absurd he (by omega), fun he => by simp at he⟩
  · exact h k' i
  · rw [h k' i, List.getElem?_singleton]
    split_ifs with h0
    · exact ⟨fun hm => absurd (hi hm) hlt, fun he => absurd (Option.some.inj he).symm hkk⟩
    · exact ⟨fun hm => absurd (hi hm) hlt, fun he => by simp at he⟩

theorem Places.contains_iff {m : OrderedMap κ Nat} {l : List κ} (h : Places m l) {k : κ} :
    m.contains k ↔ k ∈ l := by
  rw [OrderedMap.contains, Option.isSome_iff_exists, List.mem_iff_getElem?]
  exact exists_congr fun i => h k i

theorem modify_eq_map {e : α → κ} {l : List α} {i : Nat} {a : α} (hl : (l.map e).Nodup)
    (hi : l[i]? = some a) (g : α → α) :
    l.modify i g = l.map fun b => if e b = e a then g b else b := by
  apply List.ext_getElem?
  intro j
  rw [List.getElem?_modify, List.getElem?_map]
  cases hj : l[j]? with
  | none => rfl
  | some b =>
    have hij : i = j ↔ e b = e a := by
      constructor
      · intro he
        subst he
        rw [hi, Option.some.injEq] at hj
        rw [hj]
      · intro he
        have hlt : i < (l.map e).length := by
          rw [List.length_map]
          exact (List.getElem?_eq_some_iff.1 hi).1
        refine (List.getElem?_inj hlt hl).1 ?_
        rw [List.getElem?_map, List.getElem?_map, hi, hj, Option.map_some, Option.map_some, he]
    simp [hij]

theorem modify_eq_self {l : List α} {i : Nat} {g : α → α} (h : ∀ a ∈ l[i]?, g a = a) :
    l.modify i g = l := by
  apply List.ext_getElem?
  intro j
  rw [List.getElem?_modify]
  cases hj : l[j]? with
  | none => rfl
  | some b =>
    by_cases hij : i = j
    · subst hij
      simp [h b hj]
    · simp [hij]

end Places

def StyleRule.key (s : StyleRule) : Text × Text := (s.mediaQuery, s.selector)

structure MediaBlock.Keeps (b : MediaBlock) (writes : List (Text × Text)) : Prop where
  rules_eq : b.rules = OrderedMap.firstWrites writes
  places : Places b.places (b.rules.map Prod.fst)

namespace MediaBlock.Keeps

variable {b : MediaBlock} {writes : List (Text × Text)}

theorem selectors_eq (h : b.Keeps writes) :
    b.rules.map Prod.fst = (writes.map Prod.fst).eraseDups := by
  rw [h.rules_eq]
  exact OrderedMap.keys_firstWrites writes

theorem contains_iff (h : b.Keeps writes) {s : Text} :
    b.places.contains s ↔ s ∈ writes.map Prod.fst := by
  rw [h.places.contains_iff, h.selectors_eq, List.mem_eraseDups]

theorem insert (h : b.Keeps writes) (s d : Text) :
    (b.insert s d).Keeps (writes ++ [(s, d)]) := by
  rw [MediaBlock.insert]
  split_ifs with hs
  · rw [h.contains_iff] at hs
    refine ⟨?_, h.places⟩
    rw [h.rules_eq, OrderedMap.firstWrites_concat_of_mem hs]
  · rw [h.contains_iff] at hs
    have hnew : s ∉ b.rules.map Prod.fst := by
      rw [h.selectors_eq]
      exact mt List.mem_eraseDups.1 hs
    refine ⟨?_, ?_⟩
    · rw [OrderedMap.firstWrites_concat_of_notMem hs, h.rules_eq]
    · have hplaces := h.places.concat hnew
      rw [List.length_map] at hplaces
      simpa using hplaces

end MediaBlock.Keeps

namespace StyleRegistry

def under (mediaQuery : Text) (pushed : List StyleRule) : List (Text × Text) :=
  (pushed.filter fun s => s.mediaQuery = mediaQuery).map fun s => (s.selector, s.declarations)

/-- The blocks hold the first writes of a history, in the order of its media queries. -/
structure Keeps (r : StyleRegistry) (pushed : List StyleRule) : Prop where
  mediaQueries_eq : r.mediaQueries = (pushed.map StyleRule.mediaQuery).eraseDups
  index : Places r.index r.mediaQueries
  blocks : ∀ b ∈ r.blocks, b.Keeps (under b.mediaQuery pushed)

theorem mem_under {q s d : Text} {pushed : List StyleRule} :
    (s, d) ∈ under q pushed ↔ ⟨q, s, d⟩ ∈ pushed := by
  simp only [under, List.mem_map, List.mem_filter, decide_eq_true_eq, Prod.mk.injEq]
  constructor
  · intro he
    obtain ⟨⟨_, _, _⟩, ⟨hm, rfl⟩, rfl, rfl⟩ := he
    exact hm
  · intro hm
    exact ⟨_, ⟨hm, rfl⟩, rfl, rfl⟩

theorem under_eq_nil {q : Text} {pushed : List StyleRule}
    (h : q ∉ pushed.map StyleRule.mediaQuery) : under q pushed = [] := by
  rw [under, List.map_eq_nil_iff, List.filter_eq_nil_iff]
  intro s hs hq
  exact h (List.mem_map.2 ⟨s, hs, by simpa using hq⟩)

theorem under_concat (q : Text) (pushed : List StyleRule) (s : StyleRule) :
    under q (pushed ++ [s]) =
      if q = s.mediaQuery then under q pushed ++ [(s.selector, s.declarations)]
      else under q pushed := by
  by_cases h : q = s.mediaQuery
  · simp [under, List.filter_append, h]
  · simp [under, List.filter_append, h, Ne.symm h]

namespace Keeps

variable {r : StyleRegistry} {pushed : List StyleRule} {q s : Text}

theorem nodup (h : r.Keeps pushed) : (r.blocks.map MediaBlock.mediaQuery).Nodup := by
  have hq := h.mediaQueries_eq
  rw [mediaQueries] at hq
  rw [hq]
  exact nodup_eraseDups _

theorem reserve (h : r.Keeps pushed) (q : Text) :
    ∃ b, (r.reserve q).2.blocks[(r.reserve q).1]? = some b ∧ b.mediaQuery = q ∧
      (r.reserve q).2.mediaQueries = (pushed.map StyleRule.mediaQuery ++ [q]).eraseDups ∧
      Places (r.reserve q).2.index (r.reserve q).2.mediaQueries ∧
      ∀ b ∈ (r.reserve q).2.blocks, b.Keeps (under b.mediaQuery pushed) := by
  have hmem : r.index.contains q ↔ q ∈ pushed.map StyleRule.mediaQuery := by
    rw [h.index.contains_iff, h.mediaQueries_eq, List.mem_eraseDups]
  rw [StyleRegistry.reserve]
  cases hi : r.index.get? q with
  | some i =>
    have hold : q ∈ pushed.map StyleRule.mediaQuery := by
      rw [← hmem, OrderedMap.contains, hi]
      rfl
    rw [h.index, mediaQueries, List.getElem?_map, Option.map_eq_some_iff] at hi
    obtain ⟨b, hb, hq⟩ := hi
    refine ⟨b, hb, hq, ?_, h.index, h.blocks⟩
    rw [eraseDups_concat_of_mem hold]
    exact h.mediaQueries_eq
  | none =>
    rw [OrderedMap.contains, hi] at hmem
    have hnew : q ∉ pushed.map StyleRule.mediaQuery := by simpa using hmem
    have hqueries : mediaQueries { r with blocks := r.blocks ++ [{ mediaQuery := q }] } =
        r.mediaQueries ++ [q] := by
      rw [mediaQueries, List.map_append]
      rfl
    have hplaces : Places (r.index.insert q r.blocks.length) (r.mediaQueries ++ [q]) := by
      have hq : q ∉ r.mediaQueries := by
        rw [h.mediaQueries_eq]
        exact mt List.mem_eraseDups.1 hnew
      simpa [mediaQueries] using h.index.concat hq
    refine ⟨{ mediaQuery := q }, by simp, rfl, ?_, ?_, ?_⟩
    · rw [eraseDups_concat_of_notMem hnew, ← h.mediaQueries_eq]
      exact hqueries
    · rw [← hqueries] at hplaces
      exact hplaces
    · intro b hb
      rcases List.mem_append.1 hb with hb | hb
      · exact h.blocks b hb
      · obtain rfl : b = { mediaQuery := q } := by simpa using hb
        rw [under_eq_nil hnew]
        exact ⟨rfl, .nil⟩

end Keeps

def ruleOf (seed : UInt32) (template : SelectorTemplate) (push : Text × Text) : StyleRule where
  mediaQuery := push.1
  selector := template.selector (ResponsiveStyles.fingerprint (push.1 ++ ':' :: push.2) seed)
  declarations := push.2

theorem Keeps.push {r : StyleRegistry} {pushed : List StyleRule} (h : r.Keeps pushed)
    (q d : Text) : (r.push q d).2.Keeps (pushed ++ [ruleOf r.seed r.template (q, d)]) := by
  obtain ⟨b₀, hb₀, hq₀, hqueries, hindex, hblocks⟩ := h.reserve q
  set r₁ := (r.reserve q).2
  set s := r.selector (r.fingerprint q d)
  have hnodup : (r₁.blocks.map MediaBlock.mediaQuery).Nodup := by
    rw [mediaQueries] at hqueries
    rw [hqueries]
    exact nodup_eraseDups _
  have hpush : (r.push q d).2.blocks =
      r₁.blocks.map fun b => if b.mediaQuery = q then b.insert s d else b := by
    have hmap := modify_eq_map hnodup hb₀ fun b => b.insert s d
    rw [hq₀] at hmap
    exact hmap
  have hsame (b : MediaBlock) : (b.insert s d).mediaQuery = b.mediaQuery := by
    unfold MediaBlock.insert
    split <;> rfl
  have hmq : (r.push q d).2.mediaQueries = r₁.mediaQueries := by
    rw [mediaQueries, hpush, List.map_map, mediaQueries]
    apply List.map_congr_left
    intro b _
    by_cases hb : b.mediaQuery = q
    · simp [hb, hsame]
    · simp [hb]
  refine ⟨?_, ?_, ?_⟩
  · rw [hmq, hqueries, List.map_append]
    rfl
  · rw [hmq]
    exact hindex
  · intro b hb
    rw [hpush] at hb
    obtain ⟨b', hb', rfl⟩ := List.mem_map.1 hb
    have hkeeps := hblocks b' hb'
    have hunder : under b'.mediaQuery (pushed ++ [ruleOf r.seed r.template (q, d)]) =
        if b'.mediaQuery = q then under b'.mediaQuery pushed ++ [(s, d)]
        else under b'.mediaQuery pushed := under_concat _ _ _
    by_cases hq : b'.mediaQuery = q
    · rw [if_pos hq] at hunder ⊢
      rw [hsame, hunder]
      exact hkeeps.insert s d
    · rw [if_neg hq] at hunder ⊢
      rw [hunder]
      exact hkeeps

section
variable {r : StyleRegistry} {pushed : List StyleRule} {q s d : Text}

theorem Keeps.contains_iff (h : r.Keeps pushed) :
    r.contains q s ↔ ∃ d, (⟨q, s, d⟩ : StyleRule) ∈ pushed := by
  have hsel : s ∈ (under q pushed).map Prod.fst ↔ ∃ d, (⟨q, s, d⟩ : StyleRule) ∈ pushed := by
    rw [List.mem_map]
    constructor
    · intro he
      obtain ⟨⟨_, d⟩, hm, rfl⟩ := he
      exact ⟨d, mem_under.1 hm⟩
    · intro he
      obtain ⟨d, hm⟩ := he
      exact ⟨(s, d), mem_under.2 hm, rfl⟩
  rw [← hsel, contains]
  cases hi : r.index.get? q with
  | some i =>
    rw [h.index, mediaQueries, List.getElem?_map, Option.map_eq_some_iff] at hi
    obtain ⟨b, hb, rfl⟩ := hi
    have hkeeps := h.blocks b (List.mem_of_getElem? hb)
    simp only [hb, Option.any_some]
    exact hkeeps.contains_iff
  | none =>
    have hnew : q ∉ pushed.map StyleRule.mediaQuery := by
      have hmem := h.index.contains_iff (k := q)
      rw [OrderedMap.contains, hi, h.mediaQueries_eq, List.mem_eraseDups] at hmem
      simpa using hmem
    simp [under_eq_nil hnew]

theorem push_of_contains (h : r.contains q (r.selector (r.fingerprint q d))) :
    (r.push q d).2 = r := by
  rw [contains] at h
  cases hi : r.index.get? q with
  | none => simp [hi] at h
  | some i =>
    simp only [hi] at h
    have hreserve : r.reserve q = (i, r) := by rw [reserve, hi]
    have hblocks : r.blocks.modify i (fun b => b.insert (r.selector (r.fingerprint q d)) d) =
        r.blocks := by
      apply modify_eq_self
      intro b hb
      rw [Option.mem_def] at hb
      rw [hb, Option.any_some] at h
      rw [MediaBlock.insert, if_pos h]
    rw [push, hreserve]
    exact congrArg (fun bs => { r with blocks := bs }) hblocks

theorem Keeps.rules_ne_nil (h : r.Keeps pushed) {b : MediaBlock} (hb : b ∈ r.blocks) :
    b.rules ≠ [] := by
  have hq : b.mediaQuery ∈ pushed.map StyleRule.mediaQuery := by
    rw [← List.mem_eraseDups, ← h.mediaQueries_eq]
    exact List.mem_map.2 ⟨b, hb, rfl⟩
  obtain ⟨s, hs, hq⟩ := List.mem_map.1 hq
  have hsel : s.selector ∈ b.rules.map Prod.fst := by
    rw [(h.blocks b hb).selectors_eq, List.mem_eraseDups]
    exact List.mem_map.2 ⟨(s.selector, s.declarations), mem_under.2 (hq ▸ hs), rfl⟩
  exact fun h0 => by simp [h0] at hsel

theorem map_key_rules (r : StyleRegistry) :
    r.rules.map StyleRule.key =
      r.blocks.flatMap fun b => (b.rules.map Prod.fst).map (b.mediaQuery, ·) := by
  simp [rules, StyleRule.key, List.map_flatMap, Function.comp_def]

theorem Keeps.mem_map_key (h : r.Keeps pushed) {p : Text × Text} :
    p ∈ r.rules.map StyleRule.key ↔ p ∈ pushed.map StyleRule.key := by
  obtain ⟨q, s⟩ := p
  rw [map_key_rules, List.mem_flatMap, List.mem_map]
  constructor
  · intro he
    obtain ⟨b, hb, hp⟩ := he
    obtain ⟨s, hs, hp⟩ := List.mem_map.1 hp
    obtain ⟨rfl, rfl⟩ := Prod.mk.inj hp
    rw [(h.blocks b hb).selectors_eq, List.mem_eraseDups] at hs
    obtain ⟨⟨_, d⟩, hm, rfl⟩ := List.mem_map.1 hs
    exact ⟨_, mem_under.1 hm, rfl⟩
  · intro he
    obtain ⟨⟨q', s', d⟩, hm, hp⟩ := he
    obtain ⟨rfl, rfl⟩ := Prod.mk.inj hp
    have hq : q' ∈ r.blocks.map MediaBlock.mediaQuery := by
      have hqueries := h.mediaQueries_eq
      rw [mediaQueries] at hqueries
      rw [hqueries, List.mem_eraseDups]
      exact List.mem_map.2 ⟨_, hm, rfl⟩
    obtain ⟨b, hb, rfl⟩ := List.mem_map.1 hq
    refine ⟨b, hb, List.mem_map.2 ⟨s', ?_, rfl⟩⟩
    rw [(h.blocks b hb).selectors_eq, List.mem_eraseDups]
    exact List.mem_map.2 ⟨(s', d), mem_under.2 hm, rfl⟩

theorem Keeps.nodup_map_key (h : r.Keeps pushed) : (r.rules.map StyleRule.key).Nodup := by
  rw [map_key_rules, List.nodup_flatMap]
  constructor
  · intro b hb
    refine List.Nodup.map (fun _ _ hp => (Prod.mk.inj hp).2) ?_
    rw [(h.blocks b hb).selectors_eq]
    exact nodup_eraseDups _
  · refine (List.pairwise_map.1 h.nodup).imp ?_
    intro b b' hne p hp hp'
    obtain ⟨_, -, rfl⟩ := List.mem_map.1 hp
    obtain ⟨_, -, he⟩ := List.mem_map.1 hp'
    exact hne (Prod.mk.inj he).1.symm

theorem Keeps.size_eq (h : r.Keeps pushed) :
    r.size = (pushed.map StyleRule.key).eraseDups.length := by
  have hperm : (r.rules.map StyleRule.key).Perm (pushed.map StyleRule.key).eraseDups := by
    apply (List.perm_ext_iff_of_nodup h.nodup_map_key (nodup_eraseDups _)).2
    intro p
    rw [List.mem_eraseDups]
    exact h.mem_map_key
  rw [← length_rules, ← hperm.length_eq, List.length_map]

theorem Keeps.isEmpty_iff (h : r.Keeps pushed) : r.isEmpty ↔ r.size = 0 := by
  rw [isEmpty, List.isEmpty_iff, ← length_rules, List.length_eq_zero_iff, rules,
    List.flatMap_eq_nil_iff]
  constructor
  · intro h0
    simp [h0]
  · intro h0
    refine List.eq_nil_iff_forall_not_mem.2 fun b hb => h.rules_ne_nil hb ?_
    exact List.map_eq_nil_iff.1 (h0 b hb)

end

/-- Every block keeps its place, and its rules stay in front. -/
def Extends (r r' : StyleRegistry) : Prop :=
  ∀ (i : Nat) (b : MediaBlock), r.blocks[i]? = some b →
    ∃ b' : MediaBlock, r'.blocks[i]? = some b' ∧ b'.mediaQuery = b.mediaQuery ∧ b.rules <+: b'.rules

theorem Extends.refl (r : StyleRegistry) : r.Extends r := by
  intro i b hb
  exact ⟨b, hb, rfl, List.prefix_refl _⟩

theorem Extends.trans {r₁ r₂ r₃ : StyleRegistry} (h₁ : r₁.Extends r₂) (h₂ : r₂.Extends r₃) :
    r₁.Extends r₃ := by
  intro i b hb
  obtain ⟨b', hb', hq', hr'⟩ := h₁ i b hb
  obtain ⟨b'', hb'', hq'', hr''⟩ := h₂ i b' hb'
  exact ⟨b'', hb'', hq''.trans hq', hr'.trans hr''⟩

theorem extends_reserve (r : StyleRegistry) (q : Text) : r.Extends (r.reserve q).2 := by
  intro i b hb
  refine ⟨b, ?_, rfl, List.prefix_refl _⟩
  rw [reserve]
  split
  · exact hb
  · rw [List.getElem?_append_left (List.getElem?_eq_some_iff.1 hb).1]
    exact hb

theorem extends_push (r : StyleRegistry) (q d : Text) : r.Extends (r.push q d).2 := by
  apply (r.extends_reserve q).trans
  intro i b hb
  have hins : b.mediaQuery = (b.insert (r.selector (r.fingerprint q d)) d).mediaQuery ∧
      b.rules <+: (b.insert (r.selector (r.fingerprint q d)) d).rules := by
    unfold MediaBlock.insert
    split
    · exact ⟨rfl, List.prefix_refl _⟩
    · exact ⟨rfl, List.prefix_append _ _⟩
  simp only [push, List.getElem?_modify, hb]
  by_cases hi : (r.reserve q).1 = i
  · exact ⟨_, by simp [hi], hins.1.symm, hins.2⟩
  · exact ⟨b, by simp [hi], rfl, List.prefix_refl _⟩

theorem Extends.sublist {r r' : StyleRegistry} (h : r.Extends r') : r.rules.Sublist r'.rules := by
  rw [rules, rules]
  rw [Extends] at h
  generalize r.blocks = bs at h
  generalize r'.blocks = bs' at h
  induction bs generalizing bs' with
  | nil => simp
  | cons b bs ih =>
    obtain ⟨b', hb', hq, hr⟩ := h 0 b rfl
    cases bs' with
    | nil => simp at hb'
    | cons c bs' =>
      obtain rfl : c = b' := by simpa using hb'
      rw [List.flatMap_cons, List.flatMap_cons]
      refine List.Sublist.append ?_ (ih bs' fun i => h (i + 1))
      rw [hq]
      exact hr.sublist.map _

def pushAll (r : StyleRegistry) (pushes : List (Text × Text)) : StyleRegistry :=
  pushes.foldl (fun r p => (r.push p.1 p.2).2) r

theorem pushAll_cons (r : StyleRegistry) (p : Text × Text) (ps : List (Text × Text)) :
    r.pushAll (p :: ps) = (r.push p.1 p.2).2.pushAll ps := rfl

theorem seed_pushAll (r : StyleRegistry) (ps : List (Text × Text)) :
    (r.pushAll ps).seed = r.seed := by
  induction ps generalizing r with
  | nil => rfl
  | cons p ps ih => rw [pushAll_cons, ih, seed_push]

theorem template_pushAll (r : StyleRegistry) (ps : List (Text × Text)) :
    (r.pushAll ps).template = r.template := by
  induction ps generalizing r with
  | nil => rfl
  | cons p ps ih => rw [pushAll_cons, ih, template_push]

theorem extends_pushAll (r : StyleRegistry) (ps : List (Text × Text)) :
    r.Extends (r.pushAll ps) := by
  induction ps generalizing r with
  | nil => exact .refl r
  | cons p ps ih => exact (r.extends_push p.1 p.2).trans (ih _)

theorem Keeps.pushAll {r : StyleRegistry} {pushed : List StyleRule} (h : r.Keeps pushed)
    (ps : List (Text × Text)) :
    (r.pushAll ps).Keeps (pushed ++ ps.map (ruleOf r.seed r.template)) := by
  induction ps generalizing r pushed with
  | nil =>
    rw [List.map_nil, List.append_nil]
    exact h
  | cons p ps ih =>
    have hrest := ih (h.push p.1 p.2)
    rw [seed_push, template_push, List.append_assoc] at hrest
    exact hrest

/-- The registry is what the first writes of the pushes make it. -/
structure HoldsFirst (r : StyleRegistry) (seed : UInt32) (template : SelectorTemplate)
    (pushes : List (Text × Text)) : Prop where
  mediaQueries_eq : r.mediaQueries = (pushes.map Prod.fst).eraseDups
  index : Places r.index r.mediaQueries
  rules_ne_nil : ∀ b ∈ r.blocks, b.rules ≠ []
  selectors_eq : ∀ b ∈ r.blocks, b.rules.map Prod.fst =
    ((pushes.filter fun p => p.1 = b.mediaQuery).map fun p =>
      template.selector (ResponsiveStyles.fingerprint (p.1 ++ ':' :: p.2) seed)).eraseDups
  rules_eq : ∀ b ∈ r.blocks, b.rules =
    OrderedMap.firstWrites (under b.mediaQuery (pushes.map (ruleOf seed template)))
  places : ∀ b ∈ r.blocks, Places b.places (b.rules.map Prod.fst)
  size_eq : r.size = (pushes.map fun p => (ruleOf seed template p).key).eraseDups.length
  isEmpty_iff : r.isEmpty ↔ r.size = 0
  contains_iff : ∀ q s, r.contains q s ↔
    ∃ d, (q, d) ∈ pushes ∧
      template.selector (ResponsiveStyles.fingerprint (q ++ ':' :: d) seed) = s
  fst_push : ∀ q d, (r.push q d).1 = ResponsiveStyles.fingerprint (q ++ ':' :: d) seed
  push_again : ∀ p ∈ pushes,
    (r.push p.1 p.2).2 = r ∧ (r.push p.1 p.2).2.stylesheet = r.stylesheet
  extends_pushAll : ∀ later,
    r.Extends (r.pushAll later) ∧ r.rules.Sublist (r.pushAll later).rules

theorem holdsFirst_pushAll (seed : UInt32) (template : SelectorTemplate)
    (pushes : List (Text × Text)) :
    (pushAll { seed, template } pushes).HoldsFirst seed template pushes := by
  have hstart : Keeps { seed, template } [] := ⟨rfl, .nil, by simp⟩
  have hkeeps := hstart.pushAll pushes
  have hseed := seed_pushAll { seed, template } pushes
  have htemplate := template_pushAll { seed, template } pushes
  generalize pushAll { seed, template } pushes = r at hkeeps hseed htemplate ⊢
  rw [List.nil_append] at hkeeps
  have hcontains (q s : Text) : r.contains q s ↔ ∃ d, (q, d) ∈ pushes ∧
      template.selector (ResponsiveStyles.fingerprint (q ++ ':' :: d) seed) = s := by
    rw [hkeeps.contains_iff]
    apply exists_congr
    intro d
    simp only [List.mem_map, ruleOf, StyleRule.mk.injEq, Prod.exists]
    constructor
    · intro he
      obtain ⟨_, _, hm, rfl, rfl, rfl⟩ := he
      exact ⟨hm, rfl⟩
    · intro he
      obtain ⟨hm, rfl⟩ := he
      exact ⟨q, d, hm, rfl, rfl, rfl⟩
  have hagain (p : Text × Text) (hp : p ∈ pushes) : (r.push p.1 p.2).2 = r := by
    refine push_of_contains ((hcontains _ _).2 ⟨p.2, hp, ?_⟩)
    rw [selector, fingerprint, hseed, htemplate]
  have hextends (later : List (Text × Text)) := r.extends_pushAll later
  exact
    { mediaQueries_eq := by
        rw [hkeeps.mediaQueries_eq, List.map_map]
        rfl
      index := hkeeps.index
      rules_ne_nil := fun b hb => hkeeps.rules_ne_nil hb
      selectors_eq := fun b hb => by
        rw [(hkeeps.blocks b hb).selectors_eq, under, List.filter_map, List.map_map, List.map_map]
        rfl
      rules_eq := fun b hb => (hkeeps.blocks b hb).rules_eq
      places := fun b hb => (hkeeps.blocks b hb).places
      size_eq := by
        rw [hkeeps.size_eq, List.map_map]
        rfl
      isEmpty_iff := hkeeps.isEmpty_iff
      contains_iff := hcontains
      fst_push := fun q d => by rw [fst_push, fingerprint, hseed]
      push_again := fun p hp => by
        rw [hagain p hp]
        exact ⟨rfl, rfl⟩
      extends_pushAll := fun later => ⟨hextends later, (hextends later).sublist⟩ }

end StyleRegistry

end ResponsiveStyles
