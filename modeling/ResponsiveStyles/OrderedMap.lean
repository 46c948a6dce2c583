/-!
# Maps in insertion order

A map that is read back in the order in which its keys were first written. Writing a key again
changes its value and not its place; a key that was erased and is written again comes last.
-/
namespace ResponsiveStyles

/-- Keys with their values, in the order in which the keys were first written. -/
abbrev OrderedMap (κ : Type u) (ν : Type v) := List (κ × ν)

namespace OrderedMap

variable {κ : Type u} {ν : Type v} [DecidableEq κ]

def get? (k : κ) : OrderedMap κ ν → Option ν
  | [] => none
  | (k', v) :: r => if k' = k then some v else get? k r

def contains (k : κ) (m : OrderedMap κ ν) : Bool :=
  (m.get? k).isSome

/-- Gives a key a value, at its old place or else at the end. -/
def insert (k : κ) (v : ν) : OrderedMap κ ν → OrderedMap κ ν
  | [] => [(k, v)]
  | (k', v') :: r => if k' = k then (k', v) :: r else (k', v') :: insert k v r

def erase (k : κ) : OrderedMap κ ν → OrderedMap κ ν
  | [] => []
  | (k', v) :: r => if k' = k then r else (k', v) :: erase k r

def keys (m : OrderedMap κ ν) : List κ :=
  m.map Prod.fst

def ofPairs (pairs : List (κ × ν)) : OrderedMap κ ν :=
  pairs.foldl (fun m p => m.insert p.1 p.2) []

@[simp] theorem get?_nil (k : κ) : get? k ([] : OrderedMap κ ν) = none := rfl

theorem get?_insert (k k' : κ) (v : ν) (m : OrderedMap κ ν) :
    (m.insert k v).get? k' = if k' = k then some v else m.get? k' := by
  induction m with
  | nil => grind [insert, get?]
  | cons p r ih => grind [insert, get?]

theorem get?_eq_none_iff {k : κ} {m : OrderedMap κ ν} : m.get? k = none ↔ k ∉ m.keys := by
  induction m with
  | nil => simp [keys]
  | cons p r ih => grind [get?, keys]

theorem contains_iff {k : κ} {m : OrderedMap κ ν} : m.contains k ↔ k ∈ m.keys := by
  rw [contains, Option.isSome_iff_ne_none, ne_eq, get?_eq_none_iff, Decidable.not_not]

theorem keys_insert (k : κ) (v : ν) (m : OrderedMap κ ν) :
    (m.insert k v).keys = if k ∈ m.keys then m.keys else m.keys ++ [k] := by
  induction m with
  | nil => simp [insert, keys]
  | cons p r ih => grind [insert, keys]

theorem keys_erase [BEq κ] [LawfulBEq κ] (k : κ) (m : OrderedMap κ ν) :
    (m.erase k).keys = m.keys.erase k := by
  induction m with
  | nil => simp [erase, keys]
  | cons p r ih => grind [erase, keys]

theorem of_findIdx?_eq_some {k : κ} {m : OrderedMap κ ν} {place : Nat}
    (h : m.findIdx? (fun p => p.1 = k) = some place) :
    (m[place]?).map Prod.snd = m.get? k ∧ m.eraseIdx place = m.erase k := by
  induction m generalizing place with
  | nil => simp at h
  | cons p r ih =>
    rw [List.findIdx?_cons] at h
    by_cases hk : p.1 = k
    · simp only [hk, decide_true, if_true, Option.some.injEq] at h
      subst h
      simp [get?, erase, hk]
    · simp only [hk, decide_false, Bool.false_eq_true, if_false, Option.map_eq_some_iff] at h
      obtain ⟨place, hplace, rfl⟩ := h
      simpa [get?, erase, hk] using ih hplace

theorem of_findIdx?_eq_none {k : κ} {m : OrderedMap κ ν}
    (h : m.findIdx? (fun p => p.1 = k) = none) : m.get? k = none ∧ m.erase k = m := by
  induction m with
  | nil => exact ⟨rfl, rfl⟩
  | cons p r ih =>
    rw [List.findIdx?_cons] at h
    by_cases hk : p.1 = k
    · simp [hk] at h
    · simp only [hk, decide_false, Bool.false_eq_true, if_false, Option.map_eq_none_iff] at h
      simpa [get?, erase, hk] using ih h

end OrderedMap

end ResponsiveStyles
