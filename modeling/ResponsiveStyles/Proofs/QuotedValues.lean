import ResponsiveStyles.Proofs.TightDeclarations
import Mathlib.Data.List.Infix
import Mathlib.Data.List.Nodup

/-!
# Quoted values in canonical forms

A block is cut at every semicolon and tightened around every colon, between quotation marks as well. A
quoted value without a semicolon stands behind its name as it was just when no blank in it is next to
a colon; the pieces of another one are sorted among all the others.
-/
namespace ResponsiveStyles

namespace Text

/-- One text in another, with a semicolon or an end on each side. -/
def StandsIn (d t : Text) : Prop :=
  ∃ u w, t = u ++ (d ++ w) ∧ (u = [] ∨ [';'] <:+ u) ∧ (w = [] ∨ [';'] <+: w)

theorem standsIn_iff {d t : Text} : d.StandsIn t ↔ d.splitOn ';' <:+: t.splitOn ';' := by
  constructor
  · rintro ⟨u, w, rfl, hu, hw⟩
    have hbehind : d.splitOn ';' <+: (d ++ w).splitOn ';' := by
      rcases hw with rfl | ⟨w, rfl⟩
      · rw [List.append_nil]
      · rw [List.singleton_append, List.splitOn_append_cons_self]
        exact List.prefix_append _ _
    have hbefore : (d ++ w).splitOn ';' <:+ (u ++ (d ++ w)).splitOn ';' := by
      rcases hu with rfl | ⟨u, rfl⟩
      · exact List.suffix_rfl
      · rw [List.append_assoc, List.singleton_append, List.splitOn_append_cons_self]
        exact List.suffix_append _ _
    exact hbehind.isInfix.trans hbefore.isInfix
  · rintro ⟨ps, qs, h⟩
    have hne : d.splitOn ';' ≠ [] := List.splitOn_ne_nil ';' d
    obtain ⟨w, hw, hbehind⟩ : ∃ w, [';'].intercalate (d.splitOn ';' ++ qs) = d ++ w ∧
        (w = [] ∨ [';'] <+: w) := by
      by_cases hqs : qs = []
      · exact ⟨[], by simp [hqs], .inl rfl⟩
      · refine ⟨[';'] ++ [';'].intercalate qs, ?_, .inr (List.prefix_append _ _)⟩
        rw [intercalate_append_cons hne hqs, List.intercalate_splitOn, List.append_assoc]
    obtain ⟨u, hu, hbefore⟩ : ∃ u, t = u ++ [';'].intercalate (d.splitOn ';' ++ qs) ∧
        (u = [] ∨ [';'] <:+ u) := by
      have ht : [';'].intercalate (t.splitOn ';') = t := List.intercalate_splitOn ';'
      rw [← ht, ← h, List.append_assoc]
      by_cases hps : ps = []
      · exact ⟨[], by simp [hps], .inl rfl⟩
      · refine ⟨[';'].intercalate ps ++ [';'], ?_, .inr (List.suffix_append _ _)⟩
        exact intercalate_append_cons hps (by simp [hne])
    exact ⟨u, w, by rw [hu, hw], hbefore, hbehind⟩

end Text

namespace Declarations

open Text

theorem count_le_of_mem_ofBlock {c : Char} (hc : isBlank c = false) {block d : Text}
    (h : d ∈ ofBlock block) : d.count c ≤ block.count c := by
  have hpiece (u : Text) (hu : ';' ∉ u) (hd : d ∈ ofBlock u) : d.count c ≤ u.count c := by
    rw [ofBlock_of_notMem hu, List.mem_filter, List.mem_singleton] at hd
    rw [hd.1, count_tighten hc]
  induction block using pieces_induction ';' with
  | piece u hu => exact hpiece u hu h
  | cut u v hu ih =>
    rw [ofBlock_append, List.mem_append] at h
    simp only [List.count_append, List.count_cons]
    rcases h with h | h
    · have := hpiece u hu h
      omega
    · have := ih h
      omega

/-- A property and a quoted value. -/
structure Quoted where
  name : Text
  value : Text
  trim_name : trim name = name := by decide
  semicolon_notMem : ';' ∉ name := by decide
  colon_notMem : ':' ∉ name := by decide
  quote_notMem_name : '"' ∉ name := by decide
  quote_notMem : '"' ∉ value := by decide

namespace Quoted

variable {d e : Quoted}

def quotation (d : Quoted) : Text := '"' :: (d.value ++ ['"'])

def text (d : Quoted) : Text := d.name ++ ':' :: d.quotation

def parts (d : Quoted) : List Text := ofBlock d.text

theorem text_ne_nil (d : Quoted) : d.text ≠ [] := by simp [text]

theorem semicolon_mem_text : ';' ∈ d.text ↔ ';' ∈ d.value := by
  simp [text, quotation, d.semicolon_notMem]

theorem tighten_text (d : Quoted) : tighten d.text = d.name ++ ':' :: tighten d.quotation := by
  rw [text, tighten_append, tighten_of_notMem d.colon_notMem, d.trim_name]

theorem quotation_eq (h : d.quotation = e.quotation) : d.value = e.value := by
  simpa [quotation] using h

theorem parts_of_notMem (h : ';' ∉ d.value) : d.parts = [tighten d.text] := by
  have hne : tighten d.text ≠ [] := by simp [tighten_text]
  rw [parts, ofBlock_of_notMem (mt semicolon_mem_text.1 h)]
  simpa using hne

theorem tighten_text_mem {ds : List Quoted} (hd : d ∈ ds) (h : ';' ∉ d.value) :
    tighten d.text ∈ ds.flatMap parts := by
  refine List.mem_flatMap.2 ⟨d, hd, ?_⟩
  rw [parts_of_notMem h]
  exact List.mem_singleton_self _

theorem notMem_of_count {p : Text} (hp : p ∈ d.parts) (hcount : p.count '"' = 2) :
    ';' ∉ d.value := by
  intro h
  obtain ⟨u, v, hvalue⟩ := List.append_of_mem h
  have hnone : u.count '"' = 0 ∧ v.count '"' = 0 ∧ d.name.count '"' = 0 := by
    have hu := d.quote_notMem
    rw [hvalue] at hu
    simpa [List.count_eq_zero, d.quote_notMem_name] using hu
  have htext : d.text = (d.name ++ ':' :: '"' :: u) ++ ';' :: (v ++ ['"']) := by
    simp [text, quotation, hvalue]
  -- One mark stands in front of the semicolon and the other one behind it.
  have hfront : (d.name ++ ':' :: '"' :: u).count '"' = 1 := by simp [hnone]
  have hback : (v ++ ['"']).count '"' = 1 := by simp [hnone]
  rw [parts, htext, ofBlock_append, List.mem_append] at hp
  rcases hp with hp | hp
  · have hle := count_le_of_mem_ofBlock (c := '"') (by decide) hp
    omega
  · have hle := count_le_of_mem_ofBlock (c := '"') (by decide) hp
    omega

theorem count_tighten_text (d : Quoted) : (tighten d.text).count '"' = 2 := by
  have hname := List.count_eq_zero.2 d.quote_notMem_name
  have hvalue := List.count_eq_zero.2 d.quote_notMem
  rw [count_tighten (by decide), text, quotation]
  simp [hname, hvalue]

theorem of_tighten_text_mem (h : tighten d.text ∈ e.parts) :
    ';' ∉ e.value ∧ d.name = e.name ∧ tighten d.quotation = tighten e.quotation := by
  have hvalue := notMem_of_count h d.count_tighten_text
  rw [parts_of_notMem hvalue, List.mem_singleton, tighten_text, tighten_text] at h
  have hnames := congrArg (List.splitOn ':') h
  rw [List.splitOn_append_cons_self, List.splitOn_append_cons_self,
    List.splitOn_eq_singleton d.colon_notMem, List.splitOn_eq_singleton e.colon_notMem] at hnames
  have hname : d.name = e.name := by
    injection hnames
  rw [hname] at h
  exact ⟨hvalue, hname, by simpa using h⟩

end Quoted

/-- A block of properties with quoted values, blanks around them and blank declarations in between. -/
inductive Spells : Text → List Quoted → Prop where
  | blank {w : Text} (hw : isAllBlank w) : Spells w []
  | declaration (d : Quoted) {b b' w w' : Text} (hb : isAllBlank b) (hb' : isAllBlank b')
      (hw : isAllBlank w) (hw' : isAllBlank w') :
      Spells (b ++ (d.name ++ w ++ ':' :: (w' ++ d.quotation) ++ b')) [d]
  | append {u v : Text} {ds es : List Quoted} (hu : Spells u ds) (hv : Spells v es) :
      Spells (u ++ ';' :: v) (ds ++ es)

theorem spells_text (d : Quoted) : Spells d.text [d] := by
  have h : Spells ([] ++ (d.name ++ [] ++ ':' :: ([] ++ d.quotation) ++ [])) [d] :=
    .declaration d rfl rfl rfl rfl
  simpa [Quoted.text] using h

theorem spells_intercalate (ds : List Quoted) :
    Spells ([';'].intercalate (ds.map Quoted.text)) ds := by
  induction ds with
  | nil => exact .blank rfl
  | cons d ds ih =>
    cases ds with
    | nil => simpa using spells_text d
    | cons e es =>
      rw [List.map_cons, List.map_cons, List.intercalate_cons_cons, List.append_assoc]
      exact (spells_text d).append ih

section Spells
variable {block block' : Text} {ds es : List Quoted}

theorem Spells.perm (h : Spells block ds) : (ofBlock block).Perm (ds.flatMap Quoted.parts) := by
  induction h with
  | blank hw => rw [ofBlock_of_isAllBlank hw, List.flatMap_nil]
  | @declaration d b b' w w' hb hb' hw hw' =>
    have hbefore := (Rewritten.blankBefore (.inr rfl) d.name d.quotation hw).perm
    have hbehind := (Rewritten.blankBehind (.inr rfl) (d.name ++ w) d.quotation hw').perm
    rw [ofBlock_append_left hb, ofBlock_append_of_isAllBlank hb', List.flatMap_singleton]
    exact (hbefore.trans hbehind).symm
  | append _ _ hu hv =>
    rw [ofBlock_append, List.flatMap_append]
    exact hu.append hv

theorem Spells.sort_eq (h : Spells block ds) :
    sort (ofBlock block) = sort (ds.flatMap Quoted.parts) := sort_eq_of_perm h.perm

theorem Spells.canonical_eq_canonical (h : Spells block ds) (h' : Spells block' es) :
    canonical block = canonical block' ↔
      (ds.flatMap Quoted.parts).Perm (es.flatMap Quoted.parts) := by
  rw [canonical_eq_iff_perm]
  constructor
  · intro hperm
    exact (h.perm.symm.trans hperm).trans h'.perm
  · intro hperm
    exact (h.perm.trans hperm).trans h'.perm.symm

theorem Spells.standsIn_iff (h : Spells block ds) (d : Quoted) :
    d.text.StandsIn (canonical block) ↔
      d.text.splitOn ';' <:+: sort (ds.flatMap Quoted.parts) := by
  have hform := isFormOf_canonical block
  rw [h.sort_eq] at hform
  rw [Text.standsIn_iff, hform.text_eq]
  by_cases hnil : sort (ds.flatMap Quoted.parts) = []
  · have hne : d.text.splitOn ';' ≠ [] := List.splitOn_ne_nil ';' d.text
    have htext : d.text.splitOn ';' ≠ [[]] := by
      intro h
      have hd : [';'].intercalate (d.text.splitOn ';') = d.text := List.intercalate_splitOn ';'
      apply d.text_ne_nil
      rw [← hd, h]
      rfl
    simp [hnil, hne, htext, List.infix_singleton_iff]
  · rw [List.splitOn_intercalate ';' hform.notMem hnil]

theorem Spells.standsIn_iff_tight (h : Spells block ds) {d : Quoted} (hd : d ∈ ds)
    (hvalue : ';' ∉ d.value) : d.text.StandsIn (canonical block) ↔ Tight d.text := by
  rw [h.standsIn_iff, List.splitOn_eq_singleton (mt Quoted.semicolon_mem_text.1 hvalue),
    List.singleton_infix_iff]
  constructor
  · intro hmem
    rw [← h.sort_eq] at hmem
    exact (isFormOf_canonical block).tight _ hmem
  · intro htight
    have hmem := Quoted.tighten_text_mem hd hvalue
    rw [tighten_eq_self_iff.2 htight] at hmem
    exact (sort_perm _).mem_iff.2 hmem

theorem Spells.tighten_quotation_eq (h : Spells block ds) (h' : Spells block' es)
    (hnames : (es.map Quoted.name).Nodup) {d e : Quoted} (hd : d ∈ ds) (he : e ∈ es)
    (hname : d.name = e.name) (hvalue : ';' ∉ d.value) (hform : canonical block = canonical block') :
    ';' ∉ e.value ∧ tighten d.quotation = tighten e.quotation := by
  have hperm := (h.canonical_eq_canonical h').1 hform
  obtain ⟨e', he', hpart⟩ :=
    List.mem_flatMap.1 (hperm.mem_iff.1 (Quoted.tighten_text_mem hd hvalue))
  obtain ⟨hvalue', hname', hquotation⟩ := Quoted.of_tighten_text_mem hpart
  obtain rfl : e' = e := List.inj_on_of_nodup_map hnames he' he (hname'.symm.trans hname)
  exact ⟨hvalue', hquotation⟩

end Spells

/-- A block of quoted values is cut at the semicolons in them and tightened at the colons in them. A
value stands behind its name just when its pieces stay next to each other; one without a semicolon,
when no blank in it is next to a colon. Blocks share their form when they have the same pieces, each as
often; values that are kept tell forms apart. -/
theorem canonical_quoted {block : Text} {ds : List Quoted} (h : Spells block ds) :
    canonical block = [';'].intercalate (sort (ds.flatMap Quoted.parts)) ∧
    (∀ d : Quoted, d.text.StandsIn (canonical block) ↔
      d.text.splitOn ';' <:+: sort (ds.flatMap Quoted.parts)) ∧
    (∀ d ∈ ds, ';' ∉ d.value → (d.text.StandsIn (canonical block) ↔ Tight d.text)) ∧
    ∀ block' es, Spells block' es →
      (canonical block = canonical block' ↔
        (ds.flatMap Quoted.parts).Perm (es.flatMap Quoted.parts)) ∧
      ((es.map Quoted.name).Nodup → ∀ d ∈ ds, ∀ e ∈ es, d.name = e.name → ';' ∉ d.value →
        canonical block = canonical block' →
          ';' ∉ e.value ∧ tighten d.quotation = tighten e.quotation ∧
            (Tight d.quotation → Tight e.quotation → d.value = e.value)) := by
  refine ⟨?_, h.standsIn_iff, fun d hd => h.standsIn_iff_tight hd, fun block' es h' => ⟨?_, ?_⟩⟩
  · rw [canonical, h.sort_eq]
  · exact h.canonical_eq_canonical h'
  · intro hnames d hd e he hname hvalue hform
    obtain ⟨hvalue', hquotation⟩ :=
      h.tighten_quotation_eq h' hnames hd he hname hvalue hform
    refine ⟨hvalue', hquotation, fun htight htight' => Quoted.quotation_eq ?_⟩
    rwa [tighten_eq_self_iff.2 htight, tighten_eq_self_iff.2 htight'] at hquotation

def source : Quoted := { name := "src".toList, value := "http://a/b".toList }

def otherSource : Quoted := { name := "src".toList, value := "http://a/c".toList }

def endsKept : List Quoted :=
  [{ name := "before".toList, value := "a;b".toList },
    { name := "after".toList, value := "c;d".toList }, source]

def endsExchanged : List Quoted :=
  [{ name := "before".toList, value := "a;d".toList },
    { name := "after".toList, value := "c;b".toList }, source]

theorem canonical_quoted_exchanged :
    let block := "before:\"a;b\";after:\"c;d\";src:\"http://a/b\"".toList
    let block' := "before:\"a;d\";after:\"c;b\";src:\"http://a/b\"".toList
    Spells block endsKept ∧ Spells block' endsExchanged ∧ canonical block = canonical block' ∧
      (∀ d ∈ endsKept, d.text.StandsIn (canonical block) ↔ ';' ∉ d.value) ∧
      canonical block ≠ canonical otherSource.text := by
  intro block block'
  have h : Spells block endsKept := by
    have hblock : [';'].intercalate (endsKept.map Quoted.text) = block := by decide
    exact hblock ▸ spells_intercalate endsKept
  have h' : Spells block' endsExchanged := by
    have hblock : [';'].intercalate (endsExchanged.map Quoted.text) = block' := by decide
    exact hblock ▸ spells_intercalate endsExchanged
  have hother : Spells otherSource.text [otherSource] := spells_text otherSource
  obtain ⟨-, hpieces, -, hforms⟩ := canonical_quoted h
  have hsort : sort (endsKept.flatMap Quoted.parts) =
      ["after:\"c".toList, "b\"".toList, "before:\"a".toList, "d\"".toList,
        "src:\"http://a/b\"".toList] := sort_eq (by decide +kernel) (by decide +kernel)
  refine ⟨h, h', (hforms block' _ h').1.2 (by decide +kernel), fun d hd => ?_, fun hform => ?_⟩
  · rw [hpieces, hsort]
    revert d
    decide +kernel
  · obtain ⟨-, -, hvalue⟩ := (hforms _ _ hother).2 (by decide) source (by simp [endsKept])
      otherSource (List.mem_singleton_self _) rfl (by decide) hform
    exact absurd (hvalue (by decide) (by decide)) (by decide)

end Declarations

end ResponsiveStyles
