import ResponsiveStyles.Instances
import ResponsiveStyles.Proofs.StyleHistory
import Mathlib.Data.Finset.Card

/-!
# Compilers side by side and the histories of their requests

One list holds the compilers of all pairs, and requests for one pair reach it through a place in the
list. Every pair nevertheless has just the compiler that it would have by itself: the one of its first
configuration, after the operations that were addressed to it.
-/
namespace ResponsiveStyles

variable {γ : Type}

/-- What may be asked for, with the operations for the compiler that is found: the compiler for the pair
of a configuration, which is made unless there is one, or the compiler of a pair, if there is one. -/
inductive InstanceRequest (γ : Type) where
  | ensure (config : Config) (features : FeatureRegistry γ) (template : SelectorTemplate)
      (spareSeed : UInt32) (operations : List (StyleOperation γ))
  | update (key : InstanceKey) (operations : List (StyleOperation γ))

namespace InstanceRequest

def key : InstanceRequest γ → InstanceKey
  | .ensure config _ _ _ _ => .ofConfig config
  | .update key _ => key

def operations : InstanceRequest γ → List (StyleOperation γ)
  | .ensure _ _ _ _ operations => operations
  | .update _ operations => operations

def made? : InstanceRequest γ → Option (StyleCompiler γ)
  | .ensure config features template spareSeed _ =>
    some (.ofConfig config features template spareSeed)
  | .update _ _ => none

end InstanceRequest

def createdKeys (history : List (InstanceRequest γ)) : List InstanceKey :=
  (history.filter fun q => q.made?.isSome).map InstanceRequest.key

def addressed (key : InstanceKey) (history : List (InstanceRequest γ)) :
    List (InstanceRequest γ) :=
  history.filter fun q => q.key = key

/-- The compiler of a pair by itself: the first that was made for it, after the operations that were
addressed to the pair from then on. -/
def standAlone (key : InstanceKey) (history : List (InstanceRequest γ)) :
    Option (StyleCompiler γ) :=
  ((addressed key history).findSome? InstanceRequest.made?).map fun c =>
    (c.performAll (((addressed key history).dropWhile fun q => q.made?.isNone).flatMap
      InstanceRequest.operations)).2

theorem standAlone_concat (key : InstanceKey) (history : List (InstanceRequest γ))
    (q : InstanceRequest γ) :
    standAlone key (history ++ [q]) =
      if q.key = key then
        ((standAlone key history).or q.made?).map fun c => (c.performAll q.operations).2
      else standAlone key history := by
  by_cases hq : q.key = key
  swap
  · simp [standAlone, addressed, List.filter_append, hq]
  have happend : addressed key (history ++ [q]) = addressed key history ++ [q] := by
    simp [addressed, List.filter_append, hq]
  rw [if_pos hq, standAlone, standAlone, happend, List.findSome?_append, List.dropWhile_append]
  generalize addressed key history = l
  cases hl : l.findSome? InstanceRequest.made? with
  | none =>
    -- Nothing was made so far, so that earlier operations went nowhere.
    have hdrop : l.dropWhile (fun q => q.made?.isNone) = [] := by
      rw [List.dropWhile_eq_nil_iff]
      intro q hq
      rw [List.findSome?_eq_none_iff.1 hl q hq]
      rfl
    cases hmade : q.made? with
    | none => simp [hdrop, hmade]
    | some c => simp [hdrop, hmade]
  | some c =>
    have hdrop : l.dropWhile (fun q => q.made?.isNone) ≠ [] := by
      obtain ⟨q, hq, hmade⟩ := List.exists_of_findSome?_eq_some hl
      intro h
      simpa [hmade] using List.dropWhile_eq_nil_iff.1 h q hq
    simp [hdrop, StyleCompiler.performAll_append]

namespace InstanceRegistry

def keys (r : InstanceRegistry γ) : List InstanceKey :=
  r.entries.map Prod.fst

theorem keys_eq_map (r : InstanceRegistry γ) :
    r.keys = r.compilers.map fun c => InstanceKey.ofConfig c.config := by
  simp [keys, entries, Function.comp_def]

def handle (r : InstanceRegistry γ) : InstanceRequest γ → InstanceRegistry γ
  | .ensure config features template spareSeed operations =>
    let (place, r) := r.ensure config features template spareSeed
    r.updateAt place fun c => (c.performAll operations).2
  | .update key operations => r.update key fun c => (c.performAll operations).2

section Places
variable {r : InstanceRegistry γ} {key : InstanceKey} {place : Nat}

theorem isSome_get?_iff (h : Places r.index r.keys) : (r.get? key).isSome ↔ key ∈ r.keys := by
  rw [← h.contains_iff, OrderedMap.contains, get?]
  cases hi : r.index.get? key with
  | none => simp
  | some i =>
    rw [h, keys_eq_map, List.getElem?_map, Option.map_eq_some_iff] at hi
    obtain ⟨c, hc, -⟩ := hi
    simp [hc]

theorem keys_updateAt {f : StyleCompiler γ → StyleCompiler γ} (hf : ∀ c, (f c).config = c.config)
    (place : Nat) : (r.updateAt place f).keys = r.keys := by
  rw [keys_eq_map, keys_eq_map, updateAt]
  apply List.ext_getElem?
  intro j
  rw [List.getElem?_map, List.getElem?_map, List.getElem?_modify]
  cases r.compilers[j]? with
  | none => rfl
  | some c => by_cases hj : place = j <;> simp [hj, hf]

theorem get?_updateAt (h : Places r.index r.keys) (hplace : r.index.get? key = some place)
    (f : StyleCompiler γ → StyleCompiler γ) (key' : InstanceKey) :
    (r.updateAt place f).get? key' = if key = key' then (r.get? key').map f else r.get? key' := by
  rw [get?, get?, updateAt]
  cases hi : r.index.get? key' with
  | none => simp
  | some i =>
    have hplaces : place = i ↔ key = key' := by
      rw [h] at hplace hi
      constructor
      · rintro rfl
        exact Option.some.inj (hplace.symm.trans hi)
      · rintro rfl
        rw [← h] at hplace hi
        exact Option.some.inj (hplace.symm.trans hi)
    simp only [List.getElem?_modify, hplaces]
    by_cases hk : key = key' <;> simp [hk]

variable (config : Config) (features : FeatureRegistry γ) (template : SelectorTemplate)
  (spareSeed : UInt32)

theorem ensure_spec (h : Places r.index r.keys) :
    let ensured := r.ensure config features template spareSeed
    ensured.2.index.get? (.ofConfig config) = some ensured.1 ∧
      Places ensured.2.index ensured.2.keys ∧
      ensured.2.keys = (if .ofConfig config ∈ r.keys then r.keys
        else r.keys ++ [.ofConfig config]) ∧
      ∀ key, ensured.2.get? key = if .ofConfig config = key then
        (r.get? key).or (some (.ofConfig config features template spareSeed)) else r.get? key := by
  intro ensured
  have hcontains := h.contains_iff (k := InstanceKey.ofConfig config)
  have hsome : (r.get? (.ofConfig config)).isSome ↔ .ofConfig config ∈ r.keys := isSome_get?_iff h
  cases hi : r.index.get? (.ofConfig config) with
  | some place =>
    have hensured : ensured = (place, r) := by
      simp only [ensured, ensure, hi]
    rw [OrderedMap.contains, hi] at hcontains
    have hmem : InstanceKey.ofConfig config ∈ r.keys := hcontains.1 rfl
    rw [hensured, if_pos hmem]
    refine ⟨hi, h, rfl, fun key => ?_⟩
    split_ifs with hkey
    · subst hkey
      rw [Option.or_of_isSome (hsome.2 hmem)]
    · rfl
  | none =>
    have hensured : ensured = (r.compilers.length,
        { compilers := r.compilers ++ [.ofConfig config features template spareSeed]
          index := r.index.insert (.ofConfig config) r.compilers.length }) := by
      simp only [ensured, ensure, hi]
    rw [OrderedMap.contains, hi] at hcontains
    have hnew : InstanceKey.ofConfig config ∉ r.keys := by simpa using hcontains
    have hkeys : ensured.2.keys = r.keys ++ [.ofConfig config] := by
      rw [hensured, keys_eq_map, keys_eq_map, List.map_append]
      rfl
    have hlength : r.keys.length = r.compilers.length := by simp [keys_eq_map]
    have hplaces := h.concat hnew
    rw [hlength, ← hkeys] at hplaces
    rw [if_neg hnew]
    refine ⟨?_, ?_, hkeys, fun key => ?_⟩
    · simp [hensured, OrderedMap.get?_insert]
    · rw [hensured] at hplaces ⊢
      exact hplaces
    · rw [hensured, get?, get?, OrderedMap.get?_insert]
      by_cases hkey : InstanceKey.ofConfig config = key
      · subst hkey
        simp [hi]
      · rw [if_neg (Ne.symm hkey), if_neg hkey]
        cases hj : r.index.get? key with
        | none => rfl
        | some j =>
          have hlt : j < r.compilers.length := by
            rw [h] at hj
            rw [← hlength]
            exact (List.getElem?_eq_some_iff.1 hj).1
          exact List.getElem?_append_left hlt

end Places

/-- The registry after a history: its keys are those that were made, in order, every key has its place,
and the compiler there is the one that the key would have by itself. -/
structure Follows (r : InstanceRegistry γ) (history : List (InstanceRequest γ)) : Prop where
  keys_eq : r.keys = (createdKeys history).eraseDups
  index : Places r.index r.keys
  get?_eq : ∀ key, r.get? key = standAlone key history

theorem createdKeys_concat (history : List (InstanceRequest γ)) (q : InstanceRequest γ) :
    createdKeys (history ++ [q]) =
      createdKeys history ++ if q.made?.isSome then [q.key] else [] := by
  rw [createdKeys, List.filter_append, List.map_append, ← createdKeys]
  cases h : q.made?.isSome <;> simp [h]

section Follows
variable {r : InstanceRegistry γ} {history : List (InstanceRequest γ)}

theorem Follows.ensure (h : r.Follows history) (config : Config) (features : FeatureRegistry γ)
    (template : SelectorTemplate) (spareSeed : UInt32) (operations : List (StyleOperation γ)) :
    (r.handle (.ensure config features template spareSeed operations)).Follows
      (history ++ [.ensure config features template spareSeed operations]) := by
  obtain ⟨hplace, hplaces, hkeys, hget⟩ := ensure_spec config features template spareSeed h.index
  have hupdated := keys_updateAt (r := (r.ensure config features template spareSeed).2)
    (fun c => c.config_performAll operations) (r.ensure config features template spareSeed).1
  refine ⟨?_, ?_, fun key => ?_⟩
  · rw [createdKeys_concat]
    simp only [InstanceRegistry.handle, hupdated, hkeys, InstanceRequest.made?,
      InstanceRequest.key, Option.isSome_some, if_true, h.keys_eq, List.mem_eraseDups]
    split_ifs with hmem
    · rw [eraseDups_concat_of_mem hmem]
    · rw [eraseDups_concat_of_notMem hmem]
  · simp only [InstanceRegistry.handle, hupdated]
    exact hplaces
  · simp only [InstanceRegistry.handle, get?_updateAt hplaces hplace, hget, standAlone_concat,
      h.get?_eq]
    by_cases hkey : InstanceKey.ofConfig config = key
    · simp [hkey, InstanceRequest.key, InstanceRequest.made?, InstanceRequest.operations]
    · simp [hkey, InstanceRequest.key]

theorem Follows.update (h : r.Follows history) (key : InstanceKey)
    (operations : List (StyleOperation γ)) :
    (r.handle (.update key operations)).Follows (history ++ [.update key operations]) := by
  have hcreated : createdKeys (history ++ [.update key operations]) = createdKeys history := by
    rw [createdKeys_concat]
    simp [InstanceRequest.made?]
  have halone (key' : InstanceKey) : standAlone key' (history ++ [.update key operations]) =
      if key = key' then (standAlone key' history).map fun c => (c.performAll operations).2
      else standAlone key' history := by
    rw [standAlone_concat]
    simp [InstanceRequest.key, InstanceRequest.made?, InstanceRequest.operations]
  simp only [InstanceRegistry.handle, InstanceRegistry.update]
  cases hplace : r.index.get? key with
  | some place =>
    have hupdated := keys_updateAt (r := r) (fun c => c.config_performAll operations) place
    refine ⟨?_, ?_, fun key' => ?_⟩
    · rw [hcreated, ← h.keys_eq]
      exact hupdated
    · simp only [hupdated]
      exact h.index
    · rw [halone, ← h.get?_eq]
      exact get?_updateAt h.index hplace _ key'
  | none =>
    refine ⟨by rw [hcreated, ← h.keys_eq], h.index, fun key' => ?_⟩
    rw [halone, ← h.get?_eq]
    split_ifs with hkey
    · subst hkey
      simp [get?, hplace]
    · rfl

theorem Follows.handle (h : r.Follows history) (q : InstanceRequest γ) :
    (r.handle q).Follows (history ++ [q]) := by
  cases q with
  | ensure config features template spareSeed operations =>
    exact h.ensure config features template spareSeed operations
  | update key operations => exact h.update key operations

end Follows

/-- Pairs that are shown alike are different pairs. -/
example : let key : InstanceKey := ⟨"docs_a".toList, "b".toList⟩
    let key' : InstanceKey := ⟨"docs".toList, "a_b".toList⟩
    key ≠ key' ∧ key.shown = key'.shown := by decide

end InstanceRegistry

end ResponsiveStyles
