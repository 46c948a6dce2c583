import ResponsiveStyles.Proofs.DegradedBranches

/-!
# Descriptors and the histories of their operations

A removal undoes the writes to its key that stand before it. After any operations a descriptor is the
map of the writes that no removal has undone: a key stands where the first of them has put it and has
the value of the last, and operations on one key leave the entries of the others as they are.
-/
namespace ResponsiveStyles

namespace OrderedMap

variable {κ ν : Type*} [DecidableEq κ]

theorem erase_insert (k k' : κ) (v : ν) (m : OrderedMap κ ν) :
    (m.insert k v).erase k' = if k = k' then m.erase k' else (m.erase k').insert k v := by
  induction m with
  | nil => by_cases h : k = k' <;> simp [insert, erase, h]
  | cons p r ih => grind [insert, erase]

theorem filter_insert {q : κ × ν → Bool} {k : κ} (hq : ∀ v, q (k, v) = false) (v : ν)
    (m : OrderedMap κ ν) : (m.insert k v).filter q = m.filter q := by
  induction m with
  | nil => simp [insert, hq]
  | cons p r ih =>
    obtain ⟨k', v'⟩ := p
    by_cases h : k' = k
    · subst h
      simp [insert, hq]
    · simp [insert, h, List.filter_cons, ih]

theorem filter_erase {q : κ × ν → Bool} {k : κ} (hq : ∀ v, q (k, v) = false)
    (m : OrderedMap κ ν) : (m.erase k).filter q = m.filter q := by
  induction m with
  | nil => rfl
  | cons p r ih =>
    obtain ⟨k', v'⟩ := p
    by_cases h : k' = k
    · subst h
      simp [erase, hq]
    · simp [erase, h, List.filter_cons, ih]

theorem get?_erase {m : OrderedMap κ ν} (h : m.keys.Nodup) (k k' : κ) :
    (m.erase k).get? k' = if k = k' then none else m.get? k' := by
  by_cases hk : k = k'
  · subst hk
    rw [if_pos rfl, get?_eq_none_iff, keys_erase]
    exact h.not_mem_erase
  · rw [if_neg hk]
    induction m with
    | nil => rfl
    | cons p r ih =>
      rw [keys, List.map_cons, List.nodup_cons] at h
      have hr := ih h.2
      by_cases hp : p.1 = k
      · subst hp
        simp [erase, get?, hk]
      · simp [erase, get?, hp, hr]

theorem erase_ofPairs (k : κ) (ps : List (κ × ν)) :
    (ofPairs ps).erase k = ofPairs (ps.filter fun p => p.1 ≠ k) := by
  induction ps using List.reverseRecOn with
  | nil => rfl
  | append_singleton ps p ih =>
    rw [ofPairs_concat, erase_insert, List.filter_append, ih]
    by_cases h : p.1 = k
    · simp [h]
    · simp [h, ofPairs_concat]

end OrderedMap

namespace DescriptorOperation

def write? : DescriptorOperation → Option (Text × FeatureValue)
  | .set key value => some (key, .text value)
  | .setFlag key on => some (key, .flag on)
  | .setVerbatim slot clause => some (':' :: slot, .verbatim clause)
  | .setMedia media => some ("media".toList, .text media)
  | .erase _ => none
  | .markUnresolved => none

def key? : DescriptorOperation → Option Text
  | .erase key => some key
  | o => o.write?.map Prod.fst

/-- The writes of a history that no later removal undoes. -/
def lasting : List DescriptorOperation → List (Text × FeatureValue)
  | [] => []
  | o :: later =>
    match o.write? with
    | some w => if .erase w.1 ∈ later then lasting later else w :: lasting later
    | none => lasting later

theorem lasting_concat (os : List DescriptorOperation) (o : DescriptorOperation) :
    lasting (os ++ [o]) =
      ((lasting os).filter fun w => o ≠ .erase w.1) ++ o.write?.toList := by
  induction os with
  | nil => cases h : o.write? <;> simp [lasting, h]
  | cons o' os ih =>
    rw [List.cons_append, lasting, lasting]
    cases o'.write? with
    | none => exact ih
    | some w =>
      by_cases hos : .erase w.1 ∈ os
      · simp [hos, ih]
      · by_cases ho : o = .erase w.1
        · subst ho
          simp [hos, ih]
        · simp [hos, ho, Ne.symm ho, ih]

/-- The value of the last operation on a key, unless it removes the key. -/
def lastValue? (os : List DescriptorOperation) (key : Text) : Option FeatureValue :=
  ((os.filter fun o => o.key? = some key).getLast?.bind write?).map Prod.snd

theorem lastValue?_concat (os : List DescriptorOperation) (o : DescriptorOperation) (key : Text) :
    lastValue? (os ++ [o]) key =
      if o.key? = some key then o.write?.map Prod.snd else lastValue? os key := by
  rw [lastValue?, List.filter_append]
  by_cases h : o.key? = some key
  · simp [h]
  · simp [h, lastValue?]

theorem key?_of_write? {o : DescriptorOperation} {w : Text × FeatureValue}
    (h : o.write? = some w) : o.key? = some w.1 := by
  cases o <;> simp_all [key?, write?]

end DescriptorOperation

open DescriptorOperation

namespace Descriptor

variable {d : Descriptor} {o : DescriptorOperation} {w : Text × FeatureValue}

theorem perform_of_write? (h : o.write? = some w) : d.perform o = d.insert w.1 w.2 := by
  cases o with
  | erase key => simp [write?] at h
  | markUnresolved => simp [write?] at h
  | _ =>
    obtain rfl := Option.some.inj h
    rfl

theorem filter_perform (d : Descriptor) (o : DescriptorOperation) :
    (d.perform o).entries.filter (fun p => o.key? ≠ some p.1) =
      d.entries.filter fun p => o.key? ≠ some p.1 := by
  cases hw : o.write? with
  | some w =>
    rw [perform_of_write? hw]
    exact OrderedMap.filter_insert (by simp [key?_of_write? hw]) w.2 d.entries
  | none =>
    cases o with
    | erase key => exact OrderedMap.filter_erase (by simp [key?]) d.entries
    | markUnresolved => rfl
    | _ => simp [write?] at hw

theorem performAll_concat (d : Descriptor) (os : List DescriptorOperation)
    (o : DescriptorOperation) : d.performAll (os ++ [o]) = (d.performAll os).perform o := by
  simp [performAll]

theorem entries_performAll (os : List DescriptorOperation) :
    (performAll {} os).entries = OrderedMap.ofPairs (lasting os) := by
  induction os using List.reverseRecOn with
  | nil => rfl
  | append_singleton os o ih =>
    rw [performAll_concat, lasting_concat]
    cases hw : o.write? with
    | some w =>
      have hkept : (lasting os).filter (fun w => o ≠ .erase w.1) = lasting os := by
        rw [List.filter_eq_self]
        intro w' _
        refine decide_eq_true fun ho => ?_
        simp [ho, write?] at hw
      rw [perform_of_write? hw, hkept, Option.toList_some, OrderedMap.ofPairs_concat, ← ih]
      rfl
    | none =>
      rw [Option.toList_none, List.append_nil]
      cases o with
      | erase key =>
        have hne : (lasting os).filter (fun w => DescriptorOperation.erase key ≠ .erase w.1) =
            (lasting os).filter fun w => w.1 ≠ key := by
          simp only [ne_eq, DescriptorOperation.erase.injEq, eq_comm]
        rw [hne, ← OrderedMap.erase_ofPairs, ← ih]
        rfl
      | markUnresolved =>
        have hkept : (lasting os).filter (fun w => DescriptorOperation.markUnresolved ≠ .erase w.1) =
            lasting os := List.filter_eq_self.2 (by simp)
        rw [hkept]
        exact ih
      | _ => simp [write?] at hw

theorem nodup_performAll (os : List DescriptorOperation) :
    (performAll {} os).entries.keys.Nodup := by
  rw [entries_performAll, OrderedMap.keys_ofPairs]
  exact nodup_eraseDups _

theorem get?_perform (h : d.entries.keys.Nodup) (o : DescriptorOperation) (key : Text) :
    (d.perform o).get? key = if o.key? = some key then o.write?.map Prod.snd else d.get? key := by
  cases hw : o.write? with
  | some w =>
    rw [perform_of_write? hw, get?_insert, key?_of_write? hw]
    simp only [Option.some.injEq, eq_comm, Option.map_some]
  | none =>
    cases o with
    | erase k =>
      simp only [key?, Option.some.injEq]
      exact OrderedMap.get?_erase h k key
    | markUnresolved => rfl
    | _ => simp [write?] at hw

theorem keys_insert_of_notMem {key : Text} (h : key ∉ d.entries.keys) (value : FeatureValue) :
    (d.insert key value).entries.keys = d.entries.keys ++ [key] := by
  have hinsert := OrderedMap.keys_insert key value d.entries
  rwa [if_neg h] at hinsert

/-- The entries are what the history of the operations makes them. -/
structure HoldsLasting (d : Descriptor) (os : List DescriptorOperation) : Prop where
  nodup : d.entries.keys.Nodup
  get?_eq : ∀ key, d.get? key = lastValue? os key
  keys_eq : d.entries.keys = ((lasting os).map Prod.fst).eraseDups
  size_eq : d.size = ((lasting os).map Prod.fst).eraseDups.length
  unresolved_iff : d.unresolved ↔ .markUnresolved ∈ os
  remove_eq : ∀ key, d.remove key = (d.get? key, d.perform (.erase key))
  keys_write_again : ∀ o w, o.write? = some w → w.1 ∈ d.entries.keys →
    (d.perform o).entries.keys = d.entries.keys
  keys_write_new : ∀ o w, o.write? = some w → w.1 ∉ d.entries.keys →
    (d.perform o).entries.keys = d.entries.keys ++ [w.1]
  keys_remove_write : ∀ o w, o.write? = some w →
    ((d.remove w.1).2.perform o).entries.keys = d.entries.keys.erase w.1 ++ [w.1]
  others_perform : ∀ o, (d.perform o).entries.filter (fun p => o.key? ≠ some p.1) =
    d.entries.filter fun p => o.key? ≠ some p.1

theorem get?_performAll (os : List DescriptorOperation) (key : Text) :
    (performAll {} os).get? key = lastValue? os key := by
  induction os using List.reverseRecOn with
  | nil => rfl
  | append_singleton os o ih =>
    rw [performAll_concat, get?_perform (nodup_performAll os), lastValue?_concat, ih]

/-- Whatever is done to a new descriptor, its entries are those of the last writes, in the order in
which their keys came to stay. -/
theorem holdsLasting_performAll (os : List DescriptorOperation) :
    (performAll {} os).HoldsLasting os := by
  have hnodup := nodup_performAll os
  have hentries := entries_performAll os
  have hget := get?_performAll os
  have hunresolved := unresolved_performAll {} os
  generalize performAll {} os = d at hnodup hentries hget hunresolved ⊢
  have hkeys : d.entries.keys = ((lasting os).map Prod.fst).eraseDups := by
    rw [hentries, OrderedMap.keys_ofPairs]
  exact
    { nodup := hnodup
      get?_eq := hget
      keys_eq := hkeys
      size_eq := by
        rw [← hkeys, OrderedMap.keys, List.length_map]
        rfl
      unresolved_iff := by simpa using hunresolved
      remove_eq := d.remove_eq
      keys_write_again := by
        intro o w hw hold
        have hinsert := OrderedMap.keys_insert w.1 w.2 d.entries
        rw [if_pos hold] at hinsert
        rw [perform_of_write? hw]
        exact hinsert
      keys_write_new := by
        intro o w hw hnew
        rw [perform_of_write? hw]
        exact keys_insert_of_notMem hnew w.2
      keys_remove_write := by
        intro o w hw
        have hgone : w.1 ∉ (d.erase w.1).entries.keys := by
          rw [erase, OrderedMap.keys_erase]
          exact hnodup.not_mem_erase
        rw [d.remove_eq, perform_of_write? hw, keys_insert_of_notMem hgone, erase,
          OrderedMap.keys_erase]
      others_perform := d.filter_perform }

end Descriptor

end ResponsiveStyles
