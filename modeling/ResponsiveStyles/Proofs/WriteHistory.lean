import ResponsiveStyles.OrderedMap
import Mathlib.Data.List.Induction
import Mathlib.Data.List.Basic

/-!
# Maps and the histories of their writes

A map that was written pair by pair has its keys in the order of their first writes, each with the
value of its last write. What is done to the pairs of a history is done to the pairs of the map, as
long as no two keys are made one. Where the first write counts, the keys stand in the same order, each
with the value of that write.
-/
namespace ResponsiveStyles

section Distinct
variable {α : Type*} [BEq α] [LawfulBEq α]

theorem eraseDups_concat_of_mem {l : List α} {a : α} (h : a ∈ l) :
    (l ++ [a]).eraseDups = l.eraseDups := by
  rw [List.eraseDups_append]
  simp [List.removeAll, h]

theorem eraseDups_concat_of_notMem {l : List α} {a : α} (h : a ∉ l) :
    (l ++ [a]).eraseDups = l.eraseDups ++ [a] := by
  rw [List.eraseDups_append]
  simp [List.removeAll, h, List.eraseDups_cons]

theorem nodup_eraseDups (l : List α) : l.eraseDups.Nodup := by
  induction l using List.reverseRecOn with
  | nil => simp
  | append_singleton l a ih =>
    by_cases h : a ∈ l
    · rw [eraseDups_concat_of_mem h]
      exact ih
    · rw [eraseDups_concat_of_notMem h, List.nodup_append]
      refine ⟨ih, by simp, ?_⟩
      intro b hb c hc he
      subst he
      obtain rfl : b = a := by simpa using hc
      exact h (List.mem_eraseDups.1 hb)

end Distinct

namespace OrderedMap

variable {κ κ' ν ν' : Type*} [DecidableEq κ] [DecidableEq κ']

/-- The value of the last write to a key. -/
def lastWrite? (k : κ) (ps : List (κ × ν)) : Option ν :=
  (ps.filter fun p => p.1 = k).getLast?.map Prod.snd

theorem ofPairs_concat (ps : List (κ × ν)) (p : κ × ν) :
    ofPairs (ps ++ [p]) = (ofPairs ps).insert p.1 p.2 := by
  simp [ofPairs]

theorem keys_ofPairs [BEq κ] [LawfulBEq κ] (ps : List (κ × ν)) :
    (ofPairs ps).keys = (ps.map Prod.fst).eraseDups := by
  induction ps using List.reverseRecOn with
  | nil => rfl
  | append_singleton ps p ih =>
    rw [ofPairs_concat, keys_insert, ih, List.map_append, List.map_singleton]
    by_cases h : p.1 ∈ ps.map Prod.fst
    · rw [if_pos (List.mem_eraseDups.2 h), eraseDups_concat_of_mem h]
    · rw [if_neg (mt List.mem_eraseDups.1 h), eraseDups_concat_of_notMem h]

theorem mem_keys_ofPairs {ps : List (κ × ν)} {k : κ} :
    k ∈ (ofPairs ps).keys ↔ k ∈ ps.map Prod.fst := by
  rw [keys_ofPairs, List.mem_eraseDups]

theorem get?_ofPairs (ps : List (κ × ν)) (k : κ) : (ofPairs ps).get? k = lastWrite? k ps := by
  induction ps using List.reverseRecOn with
  | nil => rfl
  | append_singleton ps p ih =>
    rw [ofPairs_concat, get?_insert, ih, lastWrite?, lastWrite?, List.filter_append]
    by_cases h : k = p.1
    · simp [h]
    · simp [h, Ne.symm h]

theorem map_get?_keys {m : OrderedMap κ ν} (h : m.keys.Nodup) :
    (m.keys.filterMap fun k => (m.get? k).map (k, ·)) = m := by
  induction m with
  | nil => rfl
  | cons p r ih =>
    obtain ⟨k, v⟩ := p
    rw [keys, List.map_cons, List.nodup_cons] at h
    have hr : (keys r).filterMap (fun k' => (get? k' ((k, v) :: r)).map (k', ·)) = r := by
      refine Eq.trans (List.filterMap_congr fun k' hk' => ?_) (ih h.2)
      have hne : k ≠ k' := by
        intro he
        subst he
        exact h.1 hk'
      simp [get?, hne]
    rw [keys, List.map_cons, List.filterMap_cons]
    simpa [get?, keys] using hr

/-- The keys in the order of their first writes, each with the value of its last. -/
theorem ofPairs_eq (ps : List (κ × ν)) :
    ofPairs ps =
      (ps.map Prod.fst).eraseDups.filterMap fun k => (lastWrite? k ps).map (k, ·) := by
  have h : (ofPairs ps).keys.Nodup := by
    rw [keys_ofPairs]
    exact nodup_eraseDups _
  rw [← map_get?_keys h, keys_ofPairs]
  simp only [get?_ofPairs]

theorem insert_map {e : κ → κ'} (g : κ → ν → ν') {k : κ} {m : OrderedMap κ ν}
    (he : ∀ k' ∈ m.keys, e k' = e k → k' = k) (v : ν) :
    insert (e k) (g k v) (m.map fun p => (e p.1, g p.1 p.2)) =
      (insert k v m).map fun p => (e p.1, g p.1 p.2) := by
  induction m with
  | nil => rfl
  | cons p r ih =>
    obtain ⟨k', v'⟩ := p
    have hr := ih fun k'' hk'' => he k'' (by simp [keys] at hk'' ⊢; exact .inr hk'')
    by_cases h : k' = k
    · subst h
      simp [insert]
    · have hne : e k' ≠ e k := fun hk => h (he k' (by simp [keys]) hk)
      simp only [List.map_cons, insert, h, hne, if_false, hr]

theorem ofPairs_map {e : κ → κ'} (g : κ → ν → ν') {ps : List (κ × ν)}
    (he : ∀ k ∈ ps.map Prod.fst, ∀ k' ∈ ps.map Prod.fst, e k = e k' → k = k') :
    ofPairs (ps.map fun p => (e p.1, g p.1 p.2)) =
      (ofPairs ps).map fun p => (e p.1, g p.1 p.2) := by
  induction ps using List.reverseRecOn with
  | nil => rfl
  | append_singleton ps p ih =>
    have hps := ih fun k hk k' hk' => he k (by simp [hk]) k' (by simp [hk'])
    have hp (k : κ) (hk : k ∈ (ofPairs ps).keys) : e k = e p.1 → k = p.1 := by
      rw [mem_keys_ofPairs] at hk
      exact he k (by simp [hk]) p.1 (by simp)
    rw [List.map_append, List.map_singleton, ofPairs_concat, ofPairs_concat, hps,
      insert_map g hp]

def firstWrite? (k : κ) (ps : List (κ × ν)) : Option ν :=
  (ps.filter fun p => p.1 = k).head?.map Prod.snd

/-- The keys in the order of their first writes, each with the value of that write. -/
def firstWrites (ps : List (κ × ν)) : OrderedMap κ ν :=
  (ps.map Prod.fst).eraseDups.filterMap fun k => (firstWrite? k ps).map (k, ·)

theorem firstWrite?_concat_of_mem {k : κ} {ps : List (κ × ν)} (p : κ × ν)
    (h : k ∈ ps.map Prod.fst) : firstWrite? k (ps ++ [p]) = firstWrite? k ps := by
  obtain ⟨q, hq, rfl⟩ := List.mem_map.1 h
  have hne : ps.filter (fun p => p.1 = q.1) ≠ [] := by
    intro h0
    simpa using List.filter_eq_nil_iff.1 h0 q hq
  rw [firstWrite?, firstWrite?, List.filter_append, List.head?_append_of_ne_nil _ hne]

theorem firstWrites_concat_of_mem {ps : List (κ × ν)} {p : κ × ν} (h : p.1 ∈ ps.map Prod.fst) :
    firstWrites (ps ++ [p]) = firstWrites ps := by
  rw [firstWrites, List.map_append, List.map_singleton, eraseDups_concat_of_mem h]
  apply List.filterMap_congr
  intro k hk
  rw [firstWrite?_concat_of_mem p (List.mem_eraseDups.1 hk)]

theorem firstWrites_concat_of_notMem {ps : List (κ × ν)} {p : κ × ν}
    (h : p.1 ∉ ps.map Prod.fst) : firstWrites (ps ++ [p]) = firstWrites ps ++ [p] := by
  have hnone : ps.filter (fun q => q.1 = p.1) = [] := by
    refine List.filter_eq_nil_iff.2 fun q hq hk => h ?_
    exact List.mem_map.2 ⟨q, hq, by simpa using hk⟩
  have hlast : firstWrite? p.1 (ps ++ [p]) = some p.2 := by
    simp [firstWrite?, List.filter_append, hnone]
  rw [firstWrites, List.map_append, List.map_singleton, eraseDups_concat_of_notMem h,
    List.filterMap_append]
  congr 1
  · apply List.filterMap_congr
    intro k hk
    rw [firstWrite?_concat_of_mem p (List.mem_eraseDups.1 hk)]
  · simp [hlast]

theorem keys_firstWrites [BEq κ] [LawfulBEq κ] (ps : List (κ × ν)) :
    (firstWrites ps).keys = (ps.map Prod.fst).eraseDups := by
  induction ps using List.reverseRecOn with
  | nil => rfl
  | append_singleton ps p ih =>
    rw [List.map_append, List.map_singleton]
    by_cases h : p.1 ∈ ps.map Prod.fst
    · rw [firstWrites_concat_of_mem h, eraseDups_concat_of_mem h, ih]
    · rw [firstWrites_concat_of_notMem h, eraseDups_concat_of_notMem h, keys, List.map_append]
      exact congrArg (· ++ [p.1]) ih

theorem firstWrite?_append (k : κ) (ps qs : List (κ × ν)) :
    firstWrite? k (ps ++ qs) = (firstWrite? k ps).or (firstWrite? k qs) := by
  rw [firstWrite?, firstWrite?, firstWrite?, List.filter_append, List.head?_append,
    Option.map_or]

theorem firstWrite?_eq_none_iff {k : κ} {ps : List (κ × ν)} :
    firstWrite? k ps = none ↔ k ∉ ps.map Prod.fst := by
  rw [firstWrite?, Option.map_eq_none_iff, List.head?_eq_none_iff, List.filter_eq_nil_iff]
  simp only [decide_eq_true_eq, List.mem_map, not_exists, not_and]

theorem get?_map (g : κ → ν → ν') (k : κ) (m : OrderedMap κ ν) :
    get? k (m.map fun p => (p.1, g p.1 p.2)) = (m.get? k).map (g k) := by
  induction m with
  | nil => rfl
  | cons p r ih =>
    by_cases h : p.1 = k
    · simp [get?, ← h]
    · simp [get?, h, ih]

theorem get?_append (k : κ) (m m' : OrderedMap κ ν) :
    get? k (m ++ m') = (m.get? k).or (m'.get? k) := by
  induction m with
  | nil => simp
  | cons p r ih =>
    by_cases h : p.1 = k
    · simp [get?, h]
    · simp [get?, h, ih]

theorem get?_firstWrites (k : κ) (ps : List (κ × ν)) :
    (firstWrites ps).get? k = firstWrite? k ps := by
  induction ps using List.reverseRecOn with
  | nil => rfl
  | append_singleton ps p ih =>
    by_cases h : p.1 ∈ ps.map Prod.fst
    · rw [firstWrites_concat_of_mem h, ih]
      by_cases hk : k ∈ ps.map Prod.fst
      · rw [firstWrite?_concat_of_mem p hk]
      · have hne : p.1 ≠ k := fun he => hk (he ▸ h)
        simp [firstWrite?, hne]
    · rw [firstWrites_concat_of_notMem h, get?_append, ih, firstWrite?_append]
      congr 1
      by_cases hk : p.1 = k <;> simp [get?, firstWrite?, hk]

theorem insert_append_of_notMem {k : κ} {m : OrderedMap κ ν} (h : k ∉ m.keys) (v : ν)
    (m' : OrderedMap κ ν) : insert k v (m ++ m') = m ++ insert k v m' := by
  induction m with
  | nil => rfl
  | cons q r ih =>
    rw [keys, List.map_cons, List.mem_cons, not_or] at h
    simp only [List.cons_append, insert, Ne.symm h.1, if_false, ih h.2]

theorem insert_of_notMem {k : κ} {m : OrderedMap κ ν} (h : k ∉ m.keys) (v : ν) :
    insert k v m = m ++ [(k, v)] := by
  simpa [insert] using insert_append_of_notMem h v []

theorem foldl_insert_append (m : OrderedMap κ ν) {ps : List (κ × ν)}
    (h : ∀ p ∈ ps, p.1 ∉ m.keys) :
    ps.foldl (fun m p => m.insert p.1 p.2) m = m ++ ofPairs ps := by
  induction ps using List.reverseRecOn with
  | nil => simp [ofPairs]
  | append_singleton ps p ih =>
    rw [List.foldl_append, ih fun q hq => h q (by simp [hq]), ofPairs_concat]
    exact insert_append_of_notMem (h p (by simp)) _ _

end OrderedMap

end ResponsiveStyles
