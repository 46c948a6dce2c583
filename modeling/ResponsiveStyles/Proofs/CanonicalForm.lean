import ResponsiveStyles.Proofs.TextTrimming
import ResponsiveStyles.Style.Declarations
import Mathlib.Data.Multiset.Basic

/-!
# What a canonical form keeps

The canonical form of a block stands for its declarations without their order and without the white
space around semicolons and colons, and for nothing less: two blocks share it just when they have the
same declarations, each as often. White space around colons goes away in one pass from left to right,
where every colon takes the blanks on both of its sides with it.
-/
namespace ResponsiveStyles

namespace Declarations

open Text

variable {u v w : Text}

theorem tighten_of_notMem (h : ':' ∉ u) : tighten u = trim u := by
  rw [tighten, List.splitOn_eq_singleton h]
  simp

theorem tighten_append (u v : Text) :
    tighten (u ++ ':' :: v) = tighten u ++ ':' :: tighten v := by
  rw [tighten, List.splitOn_append_cons_self, List.map_append,
    intercalate_append_cons (by simp) (by simp), tighten, tighten, List.append_assoc]
  rfl

theorem tighten_append_of_isAllBlank (hw : isAllBlank w) (u : Text) :
    tighten (u ++ w) = tighten u := by
  have hcolon := notMem_of_isAllBlank (c := ':') (by decide) hw
  induction u using pieces_induction ':' with
  | piece u hu =>
    rw [tighten_of_notMem (by simp [hu, hcolon]), tighten_of_notMem hu,
      trim_append_of_isAllBlank hw]
  | cut u v hu ih => rw [List.append_assoc, List.cons_append, tighten_append, ih, tighten_append]

theorem tighten_append_left (hw : isAllBlank w) (u : Text) : tighten (w ++ u) = tighten u := by
  have hcolon := notMem_of_isAllBlank (c := ':') (by decide) hw
  have hpiece (u : Text) (hu : ':' ∉ u) : tighten (w ++ u) = tighten u := by
    rw [tighten_of_notMem (by simp [hu, hcolon]), tighten_of_notMem hu, trim_append_left hw]
  by_cases h : ':' ∈ u
  · obtain ⟨u, v, rfl, hu⟩ := List.eq_append_cons_of_mem h
    rw [← List.append_assoc, tighten_append, hpiece u hu, tighten_append]
  · exact hpiece u h

theorem tighten_trim (u : Text) : tighten (trim u) = tighten u := by
  obtain ⟨b, b', hu, hb, hb'⟩ := exists_blanks u
  conv_rhs => rw [hu, tighten_append_left hb, tighten_append_of_isAllBlank hb']

theorem tighten_eq_nil_iff : tighten u = [] ↔ trim u = [] := by
  by_cases h : ':' ∈ u
  · obtain ⟨a, b, rfl, -⟩ := List.eq_append_cons_of_mem h
    have hblank : ¬ isAllBlank (a ++ ':' :: b) := fun h =>
      notMem_of_isAllBlank (c := ':') (by decide) h (by simp)
    simp [tighten_append, trim_eq_nil_iff, hblank]
  · rw [tighten_of_notMem h]

theorem tighten_tighten (u : Text) : tighten (tighten u) = tighten u := by
  induction u using pieces_induction ':' with
  | piece u hu => rw [tighten_of_notMem hu, tighten_trim, tighten_of_notMem hu]
  | cut u v hu ih =>
    rw [tighten_append, tighten_append, ih, tighten_of_notMem hu, tighten_trim,
      tighten_of_notMem hu]

/-- Whether the blanks at the end of one text or at the start of the other touch a colon. -/
def touchesColon (before after : Text) : Bool :=
  (before.reverse.dropWhile isBlank).head? = some ':' || (after.dropWhile isBlank).head? = some ':'

/-- A text without the blanks directly around its colons, `before` standing in front of it. -/
def closeUp (before : Text) : Text → Text
  | [] => []
  | c :: r =>
    if isBlank c && touchesColon before r then closeUp (before ++ [c]) r
    else c :: closeUp (before ++ [c]) r

/-- The declarations of a block, none of them blank, without white space around their colons. -/
def normalized (block : Text) : List Text :=
  (((block.splitOn ';').map trim).filter (· ≠ [])).map (closeUp [])

theorem ways_blanks_append {q : Pattern Empty} (hq : ∀ c r, isBlank c → q.ways (c :: r) = [])
    (t : Text) :
    ((Pattern.append (.perhaps (.many isBlank)) q).ways t).map PatternMatch.rest =
      (q.ways (t.dropWhile isBlank)).map PatternMatch.rest := by
  rw [Pattern.ways, Pattern.flatMap_ways_perhaps_many, List.map_map]
  · rfl
  · intro m c r hc
    rw [hq c r hc, List.map_nil]

theorem head?_ways_colonPattern (t : Text) :
    (colonPattern.ways t).head?.map PatternMatch.rest =
      match t.dropWhile isBlank with
      | ':' :: r => some (r.dropWhile isBlank)
      | _ => none := by
  have hcolon (c : Char) (r : Text) (hc : isBlank c) : c ≠ ':' := by
    intro h
    subst h
    exact absurd hc (by decide)
  rw [← List.head?_map, colonPattern, ways_blanks_append, List.head?_map]
  · split
    · rename_i r hr
      have hafter := Pattern.head?_ways_perhaps_many (κ := Empty) isBlank r
      simp [hr, Pattern.ways, hafter]
    · rename_i hne
      cases ht : t.dropWhile isBlank with
      | nil => rfl
      | cons c r =>
        have hc : c ≠ ':' := by
          intro h
          subst h
          exact hne r ht
        simp [Pattern.ways, hc]
  · intro c r hc
    simp [Pattern.ways, hcolon c r hc]

theorem replaceAll_of_colon {t r : Text} (h : t.dropWhile isBlank = ':' :: r) :
    colonPattern.replaceAll [':'] t =
      ':' :: colonPattern.replaceAll [':'] (r.dropWhile isBlank) := by
  have hhead := head?_ways_colonPattern t
  rw [h] at hhead
  obtain ⟨m, hm, hrest⟩ := Option.map_eq_some_iff.1 hhead
  cases t with
  | nil => simp at h
  | cons c s =>
    have hlength : m.rest.length ≤ s.length := by
      have hr := (List.dropWhile_sublist isBlank (l := r)).length_le
      have hs := (List.dropWhile_sublist isBlank (l := c :: s)).length_le
      rw [h] at hs
      simp only [hrest, List.length_cons] at hs ⊢
      omega
    rw [hrest] at hlength
    rw [Pattern.replaceAll, hm]
    simp only [hrest, hlength, if_true, List.singleton_append]

theorem replaceAll_cons {c : Char} {r : Text} (h : ∀ v, (c :: r).dropWhile isBlank ≠ ':' :: v) :
    colonPattern.replaceAll [':'] (c :: r) = c :: colonPattern.replaceAll [':'] r := by
  have hhead : (colonPattern.ways (c :: r)).head? = none := by
    have hmap := head?_ways_colonPattern (c :: r)
    split at hmap
    · exact absurd ‹_› (h _)
    · simpa using hmap
  rw [Pattern.replaceAll, hhead]

theorem replaceAll_of_notMem {t : Text} (h : ':' ∉ t) : colonPattern.replaceAll [':'] t = t := by
  induction t with
  | nil => rw [Pattern.replaceAll]
  | cons c r ih =>
    have hcr (v : Text) : (c :: r).dropWhile isBlank ≠ ':' :: v := by
      intro hv
      exact h ((List.dropWhile_sublist isBlank).subset (hv ▸ List.mem_cons_self))
    rw [replaceAll_cons hcr, ih fun hm => h (List.mem_cons_of_mem c hm)]

theorem replaceAll_append {u : Text} (h : ':' ∉ u) (v : Text) :
    colonPattern.replaceAll [':'] (u ++ ':' :: v) =
      trimEnd u ++ ':' :: colonPattern.replaceAll [':'] (trimStart v) := by
  have hcolon : isBlank ':' = false := by decide
  induction u with
  | nil => exact replaceAll_of_colon (by simp [hcolon])
  | cons c r ih =>
    have hdrop : (c :: r ++ ':' :: v).dropWhile isBlank =
        trimStart (c :: r) ++ ':' :: v := trimStart_append_cons hcolon _ _
    -- A match begins at the first blank of those that end at the colon, not at the colon.
    by_cases hblank : isAllBlank (c :: r)
    · rw [trimStart, dropWhile_isBlank_eq_nil_iff.2 hblank] at hdrop
      rw [replaceAll_of_colon hdrop, trimEnd_of_isAllBlank hblank]
      rfl
    · have hne : (c :: r).dropWhile isBlank ≠ [] := fun h0 =>
        hblank (dropWhile_isBlank_eq_nil_iff.1 h0)
      have hcr (s : Text) : (c :: (r ++ ':' :: v)).dropWhile isBlank ≠ ':' :: s := by
        intro hs
        obtain ⟨d, w, hw⟩ := List.exists_cons_of_ne_nil hne
        have hd : d ∈ c :: r := (List.dropWhile_sublist isBlank).subset (hw ▸ List.mem_cons_self)
        rw [← List.cons_append, hdrop, trimStart, hw] at hs
        obtain rfl := (List.cons.inj hs).1
        exact h hd
      rw [List.cons_append, replaceAll_cons hcr, trimEnd_cons hblank,
        ih fun hm => h (List.mem_cons_of_mem c hm)]
      rfl

theorem replaceAll_trim (u : Text) : colonPattern.replaceAll [':'] (trim u) = tighten u := by
  have hcolon : isBlank ':' = false := by decide
  induction u using pieces_induction ':' with
  | piece u hu =>
    rw [replaceAll_of_notMem fun hm => hu (mem_of_mem_trim hm), tighten_of_notMem hu]
  | cut u v hu ih =>
    have hmem : ':' ∉ trimStart u := fun hm => hu ((List.dropWhile_sublist isBlank).subset hm)
    rw [trim, trimStart_append_cons hcolon, trimEnd_append_cons hcolon, replaceAll_append hmem,
      trimStart_trimEnd, ih, tighten_append, tighten_of_notMem hu]
    rfl

theorem closeUp_eq_replaceAll (before t : Text) :
    closeUp before t = colonPattern.replaceAll [':']
      (if (before.reverse.dropWhile isBlank).head? = some ':' then t.dropWhile isBlank else t) := by
  induction t generalizing before with
  | nil => simp [closeUp, Pattern.replaceAll]
  | cons c r ih =>
    have hr := ih (before ++ [c])
    rw [List.reverse_append, List.reverse_singleton, List.singleton_append] at hr
    rw [closeUp, touchesColon, hr]
    -- Behind a colon the search has passed the blanks which `closeUp` still drops one by one.
    by_cases hc : isBlank c
    · by_cases hbefore : (before.reverse.dropWhile isBlank).head? = some ':'
      · simp [hc, hbefore]
      · by_cases hafter : (r.dropWhile isBlank).head? = some ':'
        · obtain ⟨v, hv⟩ := List.head?_eq_some_iff.1 hafter
          have hcv : (c :: r).dropWhile isBlank = ':' :: v := by simp [hc, hv]
          simp [hc, hbefore, hafter, replaceAll_of_colon hv, replaceAll_of_colon hcv]
        · have hcr (v : Text) : (c :: r).dropWhile isBlank ≠ ':' :: v := by
            intro hv
            simp [hc] at hv
            simp [hv] at hafter
          simp [hc, hbefore, hafter, replaceAll_cons hcr]
    · have hdrop : (c :: r).dropWhile isBlank = c :: r := by simp [hc]
      by_cases hcolon : c = ':'
      · subst hcolon
        simp [hc, replaceAll_of_colon hdrop]
      · have hcr (v : Text) : (c :: r).dropWhile isBlank ≠ ':' :: v := by
          simp [hdrop, hcolon]
        simp [hc, hcolon, replaceAll_cons hcr]

theorem ofBlock_eq_filter (block : Text) :
    ofBlock block = ((block.splitOn ';').map tighten).filter (· ≠ []) := by
  have htighten : tighten ∘ trim = tighten := funext tighten_trim
  have hblank : (fun d : Text => decide (d ≠ [])) ∘ trim = (fun d => decide (d ≠ [])) ∘ tighten := by
    funext p
    simp [tighten_eq_nil_iff]
  rw [ofBlock, List.filter_map, List.map_map, htighten, hblank, List.filter_map]

theorem ofBlock_of_notMem (h : ';' ∉ u) : ofBlock u = [tighten u].filter (· ≠ []) := by
  rw [ofBlock_eq_filter, List.splitOn_eq_singleton h, List.map_singleton]

theorem ofBlock_append (u v : Text) : ofBlock (u ++ ';' :: v) = ofBlock u ++ ofBlock v := by
  simp only [ofBlock_eq_filter, List.splitOn_append_cons_self, List.map_append,
    List.filter_append]

theorem ofBlock_append_of_isAllBlank (hw : isAllBlank w) (u : Text) :
    ofBlock (u ++ w) = ofBlock u := by
  have hmem : ';' ∉ w := notMem_of_isAllBlank (by decide) hw
  induction u using pieces_induction ';' with
  | piece u hu =>
    rw [ofBlock_of_notMem (by simp [hu, hmem]), ofBlock_of_notMem hu,
      tighten_append_of_isAllBlank hw]
  | cut u v hu ih => rw [List.append_assoc, List.cons_append, ofBlock_append, ih, ofBlock_append]

theorem ofBlock_of_isAllBlank (hw : isAllBlank w) : ofBlock w = [] :=
  ofBlock_append_of_isAllBlank hw []

theorem ofBlock_append_left (hw : isAllBlank w) (u : Text) : ofBlock (w ++ u) = ofBlock u := by
  have hmem : ';' ∉ w := notMem_of_isAllBlank (by decide) hw
  have hpiece (u : Text) (hu : ';' ∉ u) : ofBlock (w ++ u) = ofBlock u := by
    rw [ofBlock_of_notMem (by simp [hu, hmem]), ofBlock_of_notMem hu, tighten_append_left hw]
  by_cases h : ';' ∈ u
  · obtain ⟨u, v, rfl, hu⟩ := List.eq_append_cons_of_mem h
    rw [← List.append_assoc, ofBlock_append, hpiece u hu, ofBlock_append]
  · exact hpiece u h

theorem ofBlock_congr {x y : Text} (hx : ';' ∉ x) (hy : ';' ∉ y)
    (h : ∀ u v, tighten (u ++ x ++ v) = tighten (u ++ y ++ v)) (u v : Text) :
    ofBlock (u ++ x ++ v) = ofBlock (u ++ y ++ v) := by
  have hpiece (u v : Text) (hu : ';' ∉ u) (hv : ';' ∉ v) :
      ofBlock (u ++ x ++ v) = ofBlock (u ++ y ++ v) := by
    rw [ofBlock_of_notMem (by simp [hu, hx, hv]), ofBlock_of_notMem (by simp [hu, hy, hv]), h]
  induction u using pieces_induction ';' with
  | piece u hu =>
    by_cases hv : ';' ∈ v
    · obtain ⟨v, r, rfl, hv'⟩ := List.eq_append_cons_of_mem hv
      rw [← List.append_assoc, ← List.append_assoc, ofBlock_append, ofBlock_append,
        hpiece u v hu hv']
    · exact hpiece u v hu hv
  | cut u r hu ih =>
    simp only [List.append_assoc, List.cons_append, ofBlock_append] at ih ⊢
    rw [ih]

theorem ofBlock_intercalate (ps : List Text) :
    ofBlock ([';'].intercalate ps) = ps.flatMap ofBlock := by
  induction ps with
  | nil => rfl
  | cons p ps ih =>
    cases ps with
    | nil => simp
    | cons p' ps =>
      rw [List.intercalate_cons_cons, List.append_assoc, List.singleton_append, ofBlock_append, ih]
      rfl

theorem mem_of_mem_tighten {c : Char} (h : c ∈ tighten u) : c ∈ u := by
  induction u using pieces_induction ':' with
  | piece u hu =>
    rw [tighten_of_notMem hu] at h
    exact mem_of_mem_trim h
  | cut u v hu ih =>
    rw [tighten_append, tighten_of_notMem hu] at h
    simp only [List.mem_append, List.mem_cons] at h ⊢
    rcases h with h | rfl | h
    · exact .inl (mem_of_mem_trim h)
    · exact .inr (.inl rfl)
    · exact .inr (.inr (ih h))

theorem ofBlock_of_mem {block d : Text} (h : d ∈ ofBlock block) : ofBlock d = [d] := by
  have hpiece (u : Text) (hu : ';' ∉ u) (hd : d ∈ ofBlock u) : ofBlock d = [d] := by
    rw [ofBlock_of_notMem hu, List.mem_filter, List.mem_singleton] at hd
    obtain ⟨rfl, hne⟩ := hd
    rw [ofBlock_of_notMem fun hm => hu (mem_of_mem_tighten hm), tighten_tighten]
    simpa using hne
  induction block using pieces_induction ';' with
  | piece u hu => exact hpiece u hu h
  | cut u v hu ih =>
    rw [ofBlock_append, List.mem_append] at h
    rcases h with h | h
    · exact hpiece u hu h
    · exact ih h

theorem ofBlock_canonical (block : Text) : ofBlock (canonical block) = sort (ofBlock block) := by
  have hself (d : Text) (hd : d ∈ sort (ofBlock block)) : ofBlock d = [d] :=
    ofBlock_of_mem ((sort_perm _).mem_iff.1 hd)
  rw [canonical, ofBlock_intercalate, List.flatMap_congr hself]
  simp

theorem pairwise_sort (ds : List Text) : (sort ds).Pairwise fun d e => atMost d e :=
  @List.pairwise_mergeSort Text atMost (fun _ _ _ => atMost_trans)
    (fun d e => Bool.or_eq_true_iff.2 (atMost_total d e)) ds

theorem sort_eq_of_perm {ds es : List Text} (h : ds.Perm es) : sort ds = sort es := by
  have hperm : (sort ds).Perm (sort es) := ((sort_perm ds).trans h).trans (sort_perm es).symm
  exact hperm.eq_of_pairwise (fun _ _ _ _ => atMost_antisymm) (pairwise_sort ds) (pairwise_sort es)

theorem canonical_eq_iff_perm {a b : Text} :
    canonical a = canonical b ↔ (ofBlock a).Perm (ofBlock b) := by
  constructor
  · intro h
    have hsort : sort (ofBlock a) = sort (ofBlock b) := by
      rw [← ofBlock_canonical, ← ofBlock_canonical, h]
    exact ((sort_perm _).symm.trans (.of_eq hsort)).trans (sort_perm _)
  · intro h
    rw [canonical, canonical, sort_eq_of_perm h]

theorem replaceAll_of_mem {block d : Text}
    (h : d ∈ ((block.splitOn ';').map trim).filter (· ≠ [])) :
    colonPattern.replaceAll [':'] d = tighten d := by
  obtain ⟨p, -, rfl⟩ := List.mem_map.1 (List.mem_of_mem_filter h)
  rw [replaceAll_trim, tighten_trim]

theorem normalized_eq_ofBlock (block : Text) : normalized block = ofBlock block := by
  rw [normalized, ofBlock]
  apply List.map_congr_left
  intro d hd
  rw [closeUp_eq_replaceAll]
  exact replaceAll_of_mem hd

/-- Ways to write a block that say the same declarations. -/
inductive Rewritten : Text → Text → Prop where
  /-- White space directly before a semicolon or a colon. -/
  | blankBefore {sep : Char} (hsep : sep = ';' ∨ sep = ':') (u v : Text) {w : Text}
      (hw : isAllBlank w) : Rewritten (u ++ sep :: v) (u ++ w ++ sep :: v)
  /-- White space directly behind a semicolon or a colon. -/
  | blankBehind {sep : Char} (hsep : sep = ';' ∨ sep = ':') (u v : Text) {w : Text}
      (hw : isAllBlank w) : Rewritten (u ++ sep :: v) (u ++ sep :: (w ++ v))
  /-- A blank declaration between two others, or at an end. -/
  | blankBetween (u v : Text) {w : Text} (hw : isAllBlank w) :
      Rewritten (u ++ ';' :: v) (u ++ ';' :: (w ++ ';' :: v))
  | blankFirst (v : Text) {w : Text} (hw : isAllBlank w) : Rewritten v (w ++ ';' :: v)
  | blankLast (u : Text) {w : Text} (hw : isAllBlank w) : Rewritten u (u ++ ';' :: w)
  /-- The same declarations in another order. -/
  | reordered {ps qs : List Text} (h : ps.Perm qs) :
      Rewritten ([';'].intercalate ps) ([';'].intercalate qs)

theorem Rewritten.perm {a b : Text} (h : Rewritten a b) : (ofBlock a).Perm (ofBlock b) := by
  cases h with
  | @blankBefore sep hsep u v w hw =>
    apply List.Perm.of_eq
    rcases hsep with rfl | rfl
    · rw [ofBlock_append, ofBlock_append, ofBlock_append_of_isAllBlank hw]
    · have hmem : ';' ∉ w := notMem_of_isAllBlank (by decide) hw
      have h := ofBlock_congr (x := [':']) (y := w ++ [':']) (by simp) (by simp [hmem])
        (fun u v => by
          simp only [List.append_assoc, List.singleton_append, tighten_append]
          rw [← List.append_assoc, tighten_append, tighten_append_of_isAllBlank hw]) u v
      simpa using h
  | @blankBehind sep hsep u v w hw =>
    apply List.Perm.of_eq
    rcases hsep with rfl | rfl
    · rw [ofBlock_append, ofBlock_append, ofBlock_append_left hw]
    · have hmem : ';' ∉ w := notMem_of_isAllBlank (by decide) hw
      have h := ofBlock_congr (x := [':']) (y := ':' :: w) (by simp) (by simp [hmem])
        (fun u v => by
          simp only [List.append_assoc, List.cons_append, List.nil_append, tighten_append,
            tighten_append_left hw]) u v
      simpa using h
  | @blankBetween u v w hw =>
    apply List.Perm.of_eq
    rw [ofBlock_append, ofBlock_append, ofBlock_append, ofBlock_of_isAllBlank hw, List.nil_append]
  | @blankFirst v w hw =>
    rw [ofBlock_append, ofBlock_of_isAllBlank hw, List.nil_append]
  | @blankLast u w hw =>
    rw [ofBlock_append, ofBlock_of_isAllBlank hw, List.append_nil]
  | reordered h =>
    rw [ofBlock_intercalate, ofBlock_intercalate]
    exact h.flatMap_right _

/-- Blocks have one canonical form just when they have the same declarations, each as often. The form
still has all of them; and it is what splitting, trimming, replacing, sorting and joining give. -/
theorem canonical_eq_iff (a b : Text) :
    (canonical a = canonical b ↔ (normalized a : Multiset Text) = normalized b) ∧
      (Rewritten a b → canonical a = canonical b) ∧
      (normalized (canonical a) : Multiset Text) = normalized a ∧
      canonical a = [';'].intercalate (sort ((((a.splitOn ';').map trim).filter (· ≠ [])).map
        (colonPattern.replaceAll [':']))) := by
  refine ⟨?_, fun h => canonical_eq_iff_perm.2 h.perm, ?_, ?_⟩
  · rw [canonical_eq_iff_perm, normalized_eq_ofBlock, normalized_eq_ofBlock, Multiset.coe_eq_coe]
  · rw [normalized_eq_ofBlock, normalized_eq_ofBlock, ofBlock_canonical, Multiset.coe_eq_coe]
    exact sort_perm _
  · rw [canonical, ofBlock]
    have h : ∀ d ∈ ((a.splitOn ';').map trim).filter (· ≠ []),
        tighten d = colonPattern.replaceAll [':'] d := fun d hd => (replaceAll_of_mem hd).symm
    rw [List.map_congr_left h]

theorem canonical_blank_between_colons :
    Rewritten "content::none".toList "content: :none".toList ∧
      canonical "content::none".toList = canonical "content: :none".toList := by
  have h : Rewritten "content::none".toList "content: :none".toList :=
    .blankBehind (.inr rfl) "content".toList ":none".toList (w := " ".toList) (by decide)
  exact ⟨h, (canonical_eq_iff _ _).2.1 h⟩

end Declarations

end ResponsiveStyles
