import ResponsiveStyles.Proofs.KeyFragments
import ResponsiveStyles.Proofs.TokenSynonyms

/-!
# Keys joined by a separator

Separators are found from left to right, and no two of them overlap. A key that is joined to another one
keeps its branches just when its last branch does not end like the beginning of a separator. The media
queries are then joined as well, for what a branch says depends on no other branch.
-/
namespace ResponsiveStyles

variable {γ : Type}

namespace QueryKey

def separator : Text := ['@', ',', '@']

/-- The end of a branch that a separator behind it would complete to one that begins earlier. -/
def overlap : Text := ['@', ',']

def lastBranch (key : Text) : Text :=
  (branches key).getLast (branches_ne_nil key)

theorem separator_prefix_iff {t : Text} : separator <+: t ↔ ∃ r, t = '@' :: ',' :: '@' :: r := by
  simp only [List.IsPrefix, separator, List.cons_append, List.nil_append, eq_comm]

section Cons
variable {c : Char} {r : Text}

theorem branches_cons_of_not_prefix (h : ¬ separator <+: c :: r) :
    branches (c :: r) = (branches r).modifyHead (c :: ·) := by
  rw [branches]
  intro r' hc hr
  exact h (separator_prefix_iff.2 ⟨r', by rw [hc, hr]⟩)

theorem lastBranch_suffix_cons (h : ¬ separator <+: c :: r) :
    lastBranch r <:+ lastBranch (c :: r) := by
  have hcons := branches_cons_of_not_prefix h
  obtain ⟨b, bs, hr⟩ := List.exists_cons_of_ne_nil (branches_ne_nil r)
  cases bs with
  | nil => simp [lastBranch, hcons, hr]
  | cons b' bs => simp [lastBranch, hcons, hr]

theorem not_separator_prefix_join (h : ¬ separator <+: c :: r) (hc : c :: r ≠ overlap) (v : Text) :
    ¬ separator <+: c :: (r ++ (separator ++ v)) := by
  rw [separator_prefix_iff] at h ⊢
  intro he
  obtain ⟨r', he⟩ := he
  obtain ⟨rfl, hr⟩ := List.cons.inj he
  rcases r with _ | ⟨d, _ | ⟨e, s⟩⟩
  · simp [separator] at hr
  · obtain ⟨rfl, -⟩ := List.cons.inj hr
    exact hc rfl
  · obtain ⟨rfl, hs⟩ := List.cons.inj hr
    obtain ⟨rfl, -⟩ := List.cons.inj hs
    exact h ⟨s, rfl⟩

end Cons

theorem not_overlap_suffix {key b : Text} (hb : b ∈ (branches key).dropLast) :
    ¬ overlap <:+ b := by
  fun_induction branches key generalizing b with
  | case1 => simp at hb
  | case2 r ih =>
    rw [List.dropLast_cons_of_ne_nil (branches_ne_nil r), List.mem_cons] at hb
    rcases hb with rfl | hb
    · decide
    · exact ih hb
  | case3 c r hc ih =>
    obtain ⟨d, ds, hr, hd⟩ := exists_branches_eq_cons r
    rw [hr, List.modifyHead_cons] at hb
    cases ds with
    | nil => simp at hb
    | cons d' ds =>
      rw [hr] at ih
      rw [List.dropLast_cons_cons, List.mem_cons] at hb
      rcases hb with rfl | hb
      · intro hs
        rcases List.suffix_cons_iff.1 hs with hs | hs
        · -- the branch is only this, so that it and the next at sign are a separator
          obtain ⟨rfl, rfl⟩ := List.cons.inj hs
          rcases hd with rfl | ⟨w, rfl⟩
          · simp [branches] at hr
          · exact hc w rfl rfl
        · exact ih List.mem_cons_self hs
      · exact ih (List.mem_cons_of_mem _ hb)

theorem branches_join {u : Text} (h : ¬ overlap <:+ lastBranch u) (v : Text) :
    branches (u ++ (separator ++ v)) = branches u ++ branches v := by
  fun_induction branches u with
  | case1 => rfl
  | case2 r ih =>
    have hlast : lastBranch ('@' :: ',' :: '@' :: r) = lastBranch r :=
      List.getLast_cons (branches_ne_nil r)
    exact congrArg ([] :: ·) (ih (hlast ▸ h))
  | case3 c r hc ih =>
    have hfirst : ¬ separator <+: c :: r := by
      rw [separator_prefix_iff]
      intro he
      obtain ⟨r', he⟩ := he
      obtain ⟨rfl, rfl⟩ := List.cons.inj he
      exact hc r' rfl rfl
    have hoverlap : c :: r ≠ overlap := by
      intro he
      rw [he] at h
      exact h (by decide)
    have hlast : ¬ overlap <:+ lastBranch r :=
      fun hs => h (hs.trans (lastBranch_suffix_cons hfirst))
    rw [List.cons_append, branches_cons_of_not_prefix (not_separator_prefix_join hfirst hoverlap v),
      ih hlast]
    obtain ⟨b, bs, hb⟩ := List.exists_cons_of_ne_nil (branches_ne_nil r)
    simp [hb]

theorem branches_join_iff {u v : Text} :
    branches (u ++ separator ++ v) = branches u ++ branches v ↔ ¬ overlap <:+ lastBranch u := by
  rw [List.append_assoc]
  refine ⟨fun h => ?_, fun h => branches_join h v⟩
  have hu : lastBranch u ∈ (branches (u ++ (separator ++ v))).dropLast := by
    rw [h, List.dropLast_append_of_ne_nil (branches_ne_nil v)]
    exact List.mem_append_left _ (List.getLast_mem _)
  exact not_overlap_suffix hu

example : branches ("md@,".toList ++ separator ++ "lg".toList) = ["md".toList, ",@lg".toList] := by
  decide

end QueryKey

namespace QuerySettings

open QueryKey
open QueryCompiler (hoverSettings)

variable {s : QuerySettings γ}

theorem IgnoresKey.branch_eq (h : s.IgnoresKey) (key key' : Text) (context : Option γ) :
    s.branch key context = s.branch key' context := by
  funext b
  exact congrArg Descriptor.render (h.describe_eq key key' context _)

theorem map_branch_ne_nil (s : QuerySettings γ) (key : Text) (context : Option γ) :
    (branches key).map (s.branch key context) ≠ [] :=
  mt List.map_eq_nil_iff.1 (branches_ne_nil key)

/-- The branches of joined keys are compiled as in their own keys, each at its place, and the media
queries are joined by a comma. -/
theorem compile_join (hk : s.IgnoresKey) {key : Text} (h : ¬ overlap <:+ lastBranch key)
    (key' : Text) (context : Option γ) :
    let joined := key ++ separator ++ key'
    (branches joined).map (s.branch joined context) =
        (branches key).map (s.branch key context) ++ (branches key').map (s.branch key' context) ∧
      ∃ query, s.compile key' context = "@media ".toList ++ query ∧
        s.compile joined context = s.compile key context ++ ", ".toList ++ query := by
  intro joined
  have hbranches : (branches joined).map (s.branch joined context) =
      (branches key).map (s.branch key context) ++ (branches key').map (s.branch key' context) := by
    rw [hk.branch_eq key joined, hk.branch_eq key' joined, ← List.map_append, branches_join_iff.2 h]
  refine ⟨hbranches, ", ".toList.intercalate ((branches key').map (s.branch key' context)), ?_, ?_⟩
  · unfold compile
    rfl
  · unfold compile
    rw [hbranches, Text.intercalate_append_cons (map_branch_ne_nil s key context)
      (map_branch_ne_nil s key' context)]
    simp only [List.append_assoc]

theorem hoverSettings_ignoresKey : hoverSettings.IgnoresKey := by
  intro name feature h d args key key' context
  rw [hoverSettings, OrderedMap.get?] at h
  split at h
  · obtain rfl := Option.some.inj h
    rfl
  · simp at h

-- The first key ends in `@,`, but its last branch is the comma alone.
theorem compile_join_hover :
    hoverSettings.IgnoresKey ∧ ¬ overlap <:+ lastBranch "hover(none)@,@,".toList ∧
      hoverSettings.compile ("hover(none)@,@,".toList ++ separator ++ "print@gt-400px".toList) none =
        hoverSettings.compile "hover(none)@,@,".toList none ++ ", ".toList ++
          "print and (min-width: 400px)".toList := by
  have hlast : ¬ overlap <:+ lastBranch "hover(none)@,@,".toList := by decide
  refine ⟨hoverSettings_ignoresKey, hlast, ?_⟩
  obtain ⟨-, query, hquery, hjoined⟩ :=
    compile_join hoverSettings_ignoresKey hlast "print@gt-400px".toList none
  have hprint : hoverSettings.compile "print@gt-400px".toList none =
      "@media ".toList ++ "print and (min-width: 400px)".toList := by decide +kernel
  rw [hjoined, List.append_cancel_left (hquery.symm.trans hprint)]

end QuerySettings

end ResponsiveStyles
