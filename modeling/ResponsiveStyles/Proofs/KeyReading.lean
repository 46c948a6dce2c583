import ResponsiveStyles.Proofs.JoinedKeys

/-!
# The reading of a key

A text is cut at separators that are found from left to right and do not overlap. A key is cut into
branches and a branch into pieces; a piece without the blanks around it is a fragment, unless nothing is
left of it. There is one such reading of every key, and its media query says what the fragments are
read as.
-/
namespace ResponsiveStyles

variable {γ : Type}

/-- The pieces of a text between separators. In front of a separator that is found, none begins
earlier, neither inside the piece nor where the piece and the separator meet. -/
inductive Text.CutAt (sep : Text) : Text → List Text → Prop
  | last {t : Text} (ht : ¬ sep <:+: t) : CutAt sep t [t]
  | piece {u v : Text} {ps : List Text} (hu : ¬ sep <:+: u ++ sep.dropLast) (hv : CutAt sep v ps) :
    CutAt sep (u ++ (sep ++ v)) (u :: ps)

theorem Text.CutAt.cons {sep : Text} {c : Char} {r : Text} {ps : List Text} (h : CutAt sep r ps)
    (hc : ¬ sep <+: c :: r) : CutAt sep (c :: r) (ps.modifyHead (c :: ·)) := by
  cases h with
  | last hr =>
    refine .last fun hs => ?_
    rcases List.infix_cons_iff.1 hs with hs | hs
    · exact hc hs
    · exact hr hs
  | @piece u v ps hu hv =>
    refine .piece (u := c :: u) (fun hs => ?_) hv
    rcases List.infix_cons_iff.1 hs with hs | hs
    · have hseam : c :: (u ++ sep.dropLast) <+: c :: (u ++ (sep ++ v)) := by
        rw [List.prefix_cons_inj, List.prefix_append_right_inj]
        exact (List.dropLast_prefix sep).trans (List.prefix_append sep v)
      exact hc (hs.trans hseam)
    · exact hu hs

namespace QueryKey

theorem branches_eq_singleton {t : Text} (h : ¬ separator <:+: t) : branches t = [t] := by
  induction t with
  | nil => rfl
  | cons c r ih =>
    rw [List.infix_cons_iff, not_or] at h
    have hcons := branches_cons_of_not_prefix h.1
    rw [hcons, ih h.2]
    rfl

theorem cutAt_separator_iff {key : Text} {bs : List Text} :
    Text.CutAt "@,@".toList key bs ↔ branches key = bs := by
  constructor
  · intro h
    induction h with
    | last ht => exact branches_eq_singleton ht
    | @piece u v ps hu hv ih =>
      have hbranch : branches u = [u] :=
        branches_eq_singleton fun hs => hu (hs.trans (List.prefix_append u _).isInfix)
      have hlast : ¬ overlap <:+ lastBranch u := by
        intro hs
        simp only [lastBranch, hbranch, List.getLast_singleton] at hs
        obtain ⟨w, rfl⟩ := hs
        exact hu ⟨w, [','], by simp [overlap]⟩
      exact (branches_join hlast v).trans (by rw [hbranch, ih]; rfl)
  · intro h
    subst h
    fun_induction branches key with
    | case1 => exact .last (by decide)
    | case2 r ih => exact .piece (u := []) (by decide) ih
    | case3 c r hc ih =>
      refine ih.cons fun hs => ?_
      obtain ⟨r', he⟩ := separator_prefix_iff.1 hs
      obtain ⟨rfl, rfl⟩ := List.cons.inj he
      exact hc r' rfl rfl

theorem at_infix_iff {t : Text} : "@".toList <:+: t ↔ '@' ∈ t :=
  List.singleton_infix_iff '@' t

theorem cutAt_at_iff {b : Text} {ps : List Text} :
    Text.CutAt "@".toList b ps ↔ b.splitOn '@' = ps := by
  have hcut (u v : Text) (hu : '@' ∉ u) : (u ++ '@' :: v).splitOn '@' = u :: v.splitOn '@' := by
    rw [List.splitOn_append_cons_self, List.splitOn_eq_singleton hu]
    rfl
  constructor
  · intro h
    induction h with
    | last ht => exact List.splitOn_eq_singleton (mt at_infix_iff.2 ht)
    | @piece u v ps hu hv ih =>
      have hat : '@' ∉ u := fun hm => hu (by simpa using at_infix_iff.2 hm)
      exact (hcut u v hat).trans (by rw [ih])
  · intro h
    subst h
    induction b using Text.pieces_induction '@' with
    | piece t ht =>
      rw [List.splitOn_eq_singleton ht]
      exact .last (mt at_infix_iff.1 ht)
    | cut u v hu ih =>
      rw [hcut u v hu]
      exact .piece (mt at_infix_iff.1 (by simpa using hu)) ih

/-- The fragments that the pieces of a branch stand for: what is left of each without the blanks
around it, if anything is. -/
inductive Fragmented : List Text → List Text → Prop
  | nil : Fragmented [] []
  | blank {p : Text} {ps fs : List Text} (hp : ∀ c ∈ p, Text.isBlank c) (hps : Fragmented ps fs) :
    Fragmented (p :: ps) fs
  | fragment {b f b' : Text} {ps fs : List Text} (hb : ∀ c ∈ b, Text.isBlank c)
    (hb' : ∀ c ∈ b', Text.isBlank c) (hfirst : ∃ c ∈ f.head?, ¬ Text.isBlank c)
    (hlast : ∃ c ∈ f.getLast?, ¬ Text.isBlank c) (hps : Fragmented ps fs) :
    Fragmented ((b ++ (f ++ b')) :: ps) (f :: fs)

theorem fragmented_iff {ps fs : List Text} :
    Fragmented ps fs ↔ (ps.map Text.trim).filter (· ≠ []) = fs := by
  constructor
  · intro h
    induction h with
    | nil => rfl
    | blank hp hps ih =>
      have hnil := Text.trim_eq_nil_iff.2 (List.all_eq_true.2 hp)
      rw [List.map_cons, hnil, List.filter_cons_of_neg (by simp), ih]
    | @fragment b f b' ps fs hb hb' hfirst hlast hps ih =>
      obtain ⟨c, hc, hbc⟩ := hfirst
      obtain ⟨d, hd, hbd⟩ := hlast
      have htrim : Text.trim (b ++ (f ++ b')) = f := by
        rw [Text.trim_append_left (List.all_eq_true.2 hb)]
        exact Text.trim_append hc hd hbc hbd (List.all_eq_true.2 hb')
      have h0 : f ≠ [] := List.ne_nil_of_mem (List.mem_of_mem_head? hc)
      rw [List.map_cons, htrim, List.filter_cons_of_pos (by simpa using h0), ih]
  · intro h
    subst h
    induction ps with
    | nil => exact .nil
    | cons p ps ih =>
      by_cases hp : Text.isAllBlank p
      · rw [List.map_cons, Text.trim_eq_nil_iff.2 hp, List.filter_cons_of_neg (by simp)]
        exact .blank (List.all_eq_true.1 hp) ih
      · have h0 : Text.trim p ≠ [] := mt Text.trim_eq_nil_iff.1 hp
        obtain ⟨b, b', he, hb, hb'⟩ := Text.exists_blanks p
        have hfirst := List.head?_eq_some_head h0
        have hlast := List.getLast?_eq_some_getLast h0
        have hf := Fragmented.fragment (List.all_eq_true.1 hb) (List.all_eq_true.1 hb')
          ⟨_, hfirst, Text.not_isBlank_of_mem_head?_trim _ hfirst⟩
          ⟨_, hlast, Text.not_isBlank_of_mem_getLast?_trim _ hlast⟩ ih
        rw [← he] at hf
        rwa [List.map_cons, List.filter_cons_of_pos (by simpa using h0)]

def HasFragments (b : Text) (fs : List Text) : Prop :=
  ∃ ps, Text.CutAt "@".toList b ps ∧ Fragmented ps fs

theorem hasFragments_iff {b : Text} {fs : List Text} : HasFragments b fs ↔ fragments b = fs := by
  simp only [HasFragments, cutAt_at_iff, exists_eq_left', fragmented_iff, fragments]

def HasBranches (key : Text) (fss : List (List Text)) : Prop :=
  ∃ bs, Text.CutAt "@,@".toList key bs ∧ List.Forall₂ HasFragments bs fss

theorem hasBranches_iff {key : Text} {fss : List (List Text)} :
    HasBranches key fss ↔ (branches key).map fragments = fss := by
  have hrel : HasFragments = fun b fs => fragments b = fs :=
    funext₂ fun b fs => propext hasFragments_iff
  simp only [HasBranches, cutAt_separator_iff, exists_eq_left', hrel]
  rw [← List.forall₂_map_left_iff (f := fragments), List.forall₂_eq_eq_eq]

end QueryKey

namespace BreakpointTable

open QueryKey
open QuerySettings (tabletSettings)

/-- Without features of the caller, every branch says what its fragments are read as, and so does the
media query of a key. -/
theorem compile_eq_readBranch (t : BreakpointTable) (mediaFirst : Bool) (key : Text)
    (context : Option γ) :
    let s : QuerySettings γ := ⟨t, [], mediaFirst⟩
    (∀ b, ∃ fs, (∀ gs, HasFragments b gs ↔ gs = fs) ∧
        s.branch key context b = t.readBranch mediaFirst fs) ∧
      ∃ fss, (∀ gss, HasBranches key gss ↔ gss = fss) ∧
        s.compile key context =
          "@media ".toList ++ ", ".toList.intercalate (fss.map (t.readBranch mediaFirst)) := by
  intro s
  have hbranch (b : Text) : s.branch key context b = t.readBranch mediaFirst (fragments b) :=
    branch_eq_readBranch t mediaFirst key context b
  refine ⟨fun b => ⟨fragments b, fun gs => hasFragments_iff.trans eq_comm, hbranch b⟩, ?_⟩
  refine ⟨(branches key).map fragments, fun gss => hasBranches_iff.trans eq_comm, ?_⟩
  have hmap : (branches key).map (s.branch key context) =
      ((branches key).map fragments).map (t.readBranch mediaFirst) := by
    rw [List.map_map]
    exact List.map_congr_left fun b _ => hbranch b
  rw [← hmap]
  rfl

theorem compile_blank_fragments :
    let key := "\tscreen @ @ md-up@@(hover) @md@,@ @lt-lg@@landscape @gt-400px@,@ @print\n".toList
    HasBranches key
        [["screen".toList, "md-up".toList, "(hover)".toList, "md".toList],
          ["lt-lg".toList, "landscape".toList, "gt-400px".toList], ["print".toList]] ∧
      tabletSettings.compile key none =
        ("@media screen and (min-width: 768px) and (hover) and (max-width: 991.98px), ".toList ++
          "all and (max-width: 991.98px) and (orientation: landscape) and ".toList ++
            "(min-width: 400px), print".toList) := by
  intro key
  have hkey : HasBranches key
      [["screen".toList, "md-up".toList, "(hover)".toList, "md".toList],
        ["lt-lg".toList, "landscape".toList, "gt-400px".toList], ["print".toList]] :=
    hasBranches_iff.2 (by decide +kernel)
  obtain ⟨-, fss, hfss, hquery⟩ :=
    compile_eq_readBranch tabletSettings.table true key (none : Option Unit)
  obtain rfl := (hfss _).1 hkey
  exact ⟨hkey, hquery.trans (by decide +kernel)⟩

end BreakpointTable

end ResponsiveStyles
