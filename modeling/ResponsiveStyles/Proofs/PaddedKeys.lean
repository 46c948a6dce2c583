import ResponsiveStyles.Proofs.JoinedKeys

/-!
# Padded keys

A branch is put together from fragments and taken apart into them again, as long as no fragment is a
comma that would complete a separator. White space around fragments, blank fragments, and fragments
that nothing recognizes then leave no trace in the media query. Only the first fragment that is not
blank has to stay the first, for it may be the media type.
-/
namespace ResponsiveStyles

variable {γ : Type}

namespace QueryKey

def ofFragments (fs : List Text) : Text :=
  ['@'].intercalate fs

/-- A text that is one fragment of a branch, and no part of a separator, with white space around it
as well as without. -/
structure IsFragment (f : Text) : Prop where
  at_notMem : '@' ∉ f
  trim_ne_comma : Text.trim f ≠ [',']

def spoken (fs : List Text) : List Text :=
  (fs.map Text.trim).filter (· ≠ [])

theorem spoken_cons (f : Text) (fs : List Text) : spoken (f :: fs) = spoken [f] ++ spoken fs := by
  rw [spoken, spoken, spoken, ← List.singleton_append, List.map_append, List.filter_append]

theorem spoken_of_isAllBlank {b : Text} (hb : Text.isAllBlank b) : spoken [b] = [] := by
  rw [spoken, List.map_singleton, Text.trim_eq_nil_iff.2 hb]
  rfl

theorem spoken_of_not_isAllBlank {f : Text} (hf : ¬ Text.isAllBlank f) :
    spoken [f] = [Text.trim f] := by
  have hne : Text.trim f ≠ [] := mt Text.trim_eq_nil_iff.1 hf
  simp [spoken, hne]

theorem trim_padded {b b' : Text} (hb : Text.isAllBlank b) (hb' : Text.isAllBlank b') (f : Text) :
    Text.trim (b ++ (f ++ b')) = Text.trim f := by
  rw [Text.trim_append_left hb, Text.trim_append_of_isAllBlank hb']

theorem spoken_padded {b b' : Text} (hb : Text.isAllBlank b) (hb' : Text.isAllBlank b') (f : Text) :
    spoken [b ++ (f ++ b')] = spoken [f] := by
  rw [spoken, spoken, List.map_singleton, List.map_singleton, trim_padded hb hb']

theorem ofFragments_cons_cons (f g : Text) (fs : List Text) :
    ofFragments (f :: g :: fs) = f ++ '@' :: ofFragments (g :: fs) := by
  rw [ofFragments, ofFragments, List.intercalate_cons_cons, List.append_assoc]
  rfl

theorem IsFragment.ne_comma {f : Text} (h : IsFragment f) : f ≠ [','] := by
  intro he
  subst he
  exact h.trim_ne_comma (by decide)

theorem takeWhile_ofFragments {f : Text} (hf : '@' ∉ f) (fs : List Text) :
    (ofFragments (f :: fs)).takeWhile (· ≠ '@') = f := by
  have hself : f.takeWhile (· ≠ '@') = f := by
    rw [List.takeWhile_eq_self_iff]
    intro c hc
    exact decide_eq_true fun he => hf (he ▸ hc)
  cases fs with
  | nil => rw [ofFragments, List.intercalate_singleton, hself]
  | cons g fs => rw [ofFragments_cons_cons, takeWhile_append_at, hself]

theorem branches_ofFragments {fs : List Text} (h : ∀ f ∈ fs, IsFragment f) :
    branches (ofFragments fs) = [ofFragments fs] := by
  induction fs with
  | nil => rfl
  | cons f fs ih =>
    rw [List.forall_mem_cons] at h
    obtain ⟨hf, hfs⟩ := h
    cases fs with
    | nil =>
      rw [ofFragments, List.intercalate_singleton]
      exact branches_of_notMem hf.at_notMem
    | cons g fs =>
      have hg : IsFragment g := hfs g List.mem_cons_self
      -- A separator would lie between two at signs, where a whole fragment stands.
      have hno : ¬ separator <+: '@' :: ofFragments (g :: fs) := by
        rw [separator_prefix_iff]
        intro he
        obtain ⟨r, hr⟩ := he
        have htake := takeWhile_ofFragments hg.at_notMem fs
        rw [(List.cons.inj hr).2] at htake
        exact hg.ne_comma htake.symm
      rw [ofFragments_cons_cons, branches_append hf.at_notMem, branches_cons_of_not_prefix hno,
        ih hfs]
      rfl

theorem fragments_ofFragments {fs : List Text} (h : ∀ f ∈ fs, IsFragment f) :
    fragments (ofFragments fs) = spoken fs := by
  cases fs with
  | nil => rfl
  | cons f fs =>
    have hsplit : (ofFragments (f :: fs)).splitOn '@' = f :: fs :=
      List.splitOn_intercalate '@' (fun g hg => (h g hg).at_notMem) (by simp)
    rw [fragments, hsplit]
    rfl

end QueryKey

namespace QuerySettings

open QueryKey
open QueryCompiler (hoverSettings)

variable {s : QuerySettings γ} {begun : Bool} {f : Text} {fs gs : List Text}

structure Ignores (s : QuerySettings γ) (f : Text) : Prop where
  not_orientation : ¬ IsOrientation f
  not_isToken : ¬ s.table.isToken f
  not_clause : ¬ IsClause f
  not_called : ∀ call ∈ FeatureCall.ofFragment? f, s.features.get? call.name = none

theorem Ignores.read_eq (h : s.Ignores f) (key : Text) (context : Option γ) (d : Descriptor) :
    s.read key context d f = d := by
  have hclause := clause?_eq_none_iff.2 h.not_clause
  have hcall := FeatureRegistry.call?_eq_none h.not_called d key context
  rw [read, if_neg (mt isOrientation_iff.1 h.not_orientation), if_neg h.not_isToken, hclause]
  simp only [hcall, Option.getD_none]

/-- The second fragments are the first ones with white space around them, and with blank fragments
in any place. Once the branch has begun with a fragment that is not blank, ignored ones may be put
in too. -/
inductive Padded (s : QuerySettings γ) : Bool → List Text → List Text → Prop where
  | nil {begun : Bool} : Padded s begun [] []
  | blank {begun : Bool} {b : Text} {fs gs : List Text} (hb : Text.isAllBlank b)
      (h : Padded s begun fs gs) : Padded s begun fs (b :: gs)
  | ignored {g : Text} {fs gs : List Text} (hg : IsFragment g) (hi : s.Ignores (Text.trim g))
      (h : Padded s true fs gs) : Padded s true fs (g :: gs)
  | keep {begun : Bool} {f : Text} {fs gs : List Text} (b b' : Text) (hb : Text.isAllBlank b)
      (hb' : Text.isAllBlank b') (h : Padded s (begun || !Text.isAllBlank f) fs gs) :
      Padded s begun (f :: fs) ((b ++ (f ++ b')) :: gs)

theorem Padded.isFragment (h : s.Padded begun fs gs) (hfs : ∀ f ∈ fs, IsFragment f) :
    ∀ g ∈ gs, IsFragment g := by
  induction h with
  | nil => exact hfs
  | blank hb _ ih =>
    refine List.forall_mem_cons.2 ⟨⟨at_notMem_of_isAllBlank hb, ?_⟩, ih hfs⟩
    rw [Text.trim_eq_nil_iff.2 hb]
    simp
  | ignored hg _ _ ih => exact List.forall_mem_cons.2 ⟨hg, ih hfs⟩
  | @keep _ f _ _ b b' hb hb' _ ih =>
    rw [List.forall_mem_cons] at hfs
    obtain ⟨hf, hfs⟩ := hfs
    refine List.forall_mem_cons.2 ⟨⟨?_, ?_⟩, ih hfs⟩
    · simp [at_notMem_of_isAllBlank hb, at_notMem_of_isAllBlank hb', hf.at_notMem]
    · rw [trim_padded hb hb']
      exact hf.trim_ne_comma

theorem Padded.foldl_read (h : s.Padded true fs gs) (key : Text) (context : Option γ)
    (d : Descriptor) :
    (spoken gs).foldl (s.read key context) d = (spoken fs).foldl (s.read key context) d := by
  generalize hbegun : true = begun at h
  induction h generalizing d with
  | nil => rfl
  | @blank _ b _ gs hb _ ih =>
    rw [spoken_cons b gs, spoken_of_isAllBlank hb, List.nil_append, ih d hbegun]
  | @ignored g _ gs _ hi _ ih =>
    have hread : (spoken [g]).foldl (s.read key context) d = d := by
      by_cases hb : Text.isAllBlank g
      · rw [spoken_of_isAllBlank hb, List.foldl_nil]
      · rw [spoken_of_not_isAllBlank hb, List.foldl_cons, hi.read_eq, List.foldl_nil]
    rw [spoken_cons g gs, List.foldl_append, hread, ih d hbegun]
  | @keep _ f fs gs b b' hb hb' _ ih =>
    subst hbegun
    rw [spoken_cons _ gs, spoken_cons f fs, spoken_padded hb hb', List.foldl_append,
      List.foldl_append, ih _ rfl]

theorem Padded.describe_eq (h : s.Padded false fs gs) (key : Text) (context : Option γ) :
    s.describe key context (spoken gs) = s.describe key context (spoken fs) := by
  generalize hbegun : false = begun at h
  induction h with
  | nil => rfl
  | @blank _ b _ gs hb _ ih =>
    rw [spoken_cons b gs, spoken_of_isAllBlank hb, List.nil_append, ih hbegun]
  | ignored => exact absurd hbegun (by simp)
  | @keep _ f fs gs b b' hb hb' h ih =>
    subst hbegun
    rw [Bool.false_or] at h ih
    rw [spoken_cons _ gs, spoken_cons f fs, spoken_padded hb hb']
    by_cases hf : Text.isAllBlank f
    · rw [spoken_of_isAllBlank hf, List.nil_append, List.nil_append, ih (by simp [hf])]
    · -- the first fragment that is not blank, the same in both branches, decides on the media type
      rw [spoken_of_not_isAllBlank hf, List.singleton_append, List.singleton_append, describe,
        describe]
      exact Padded.foldl_read (by simpa [hf] using h) key context _

/-- Padding leaves the media query of a key as it is. -/
theorem compile_padded (hk : s.IgnoresKey) (hfs : ∀ f ∈ fs, IsFragment f) (h : s.Padded false fs gs)
    (context : Option γ) :
    s.compile (ofFragments gs) context = s.compile (ofFragments fs) context := by
  unfold compile branch
  rw [branches_ofFragments hfs, branches_ofFragments (h.isFragment hfs), List.map_singleton,
    List.map_singleton, fragments_ofFragments hfs, fragments_ofFragments (h.isFragment hfs),
    h.describe_eq, hk.describe_eq (ofFragments gs) (ofFragments fs)]

def hoverFragments : List Text :=
  ["print".toList, "hover(none)".toList]

def paddedHoverFragments : List Text :=
  ["\t".toList, " print\u3000".toList, "screen".toList, [], "hover(none) ".toList,
    "x(1)".toList]

theorem padded_hoverFragments : hoverSettings.Padded false hoverFragments paddedHoverFragments := by
  have hscreen : hoverSettings.Ignores (Text.trim "screen".toList) :=
    ⟨by decide, by decide +kernel, by decide, fun call hc => by cases hc; rfl⟩
  have hx : hoverSettings.Ignores (Text.trim "x(1)".toList) :=
    ⟨by decide, by decide +kernel, by decide, fun call hc => by cases hc; rfl⟩
  refine .blank rfl (.keep [' '] ['\u3000'] rfl rfl ?_)
  refine .ignored ⟨by decide, by decide⟩ hscreen (.blank rfl ?_)
  refine .keep [] [' '] rfl rfl ?_
  exact .ignored ⟨by decide, by decide⟩ hx .nil

theorem compile_padded_hover :
    hoverSettings.IgnoresKey ∧ (∀ f ∈ hoverFragments, IsFragment f) ∧
      hoverSettings.Padded false hoverFragments paddedHoverFragments ∧
      hoverSettings.compile "\t@ print\u3000@screen@@hover(none) @x(1)".toList none =
        "@media print and (hover: none)".toList := by
  have hfragments : ∀ f ∈ hoverFragments, IsFragment f := by
    intro f hf
    rcases List.mem_pair.1 hf with rfl | rfl <;> exact ⟨by decide, by decide⟩
  refine ⟨hoverSettings_ignoresKey, hfragments, padded_hoverFragments, ?_⟩
  exact (compile_padded hoverSettings_ignoresKey hfragments padded_hoverFragments none).trans
    (by decide +kernel)

end QuerySettings

end ResponsiveStyles
