import ResponsiveStyles.Proofs.CompilationHistory
import ResponsiveStyles.Proofs.KeyFragments

/-!
# Spellings of one width

A bound or a bucket of widths can be spelled in two ways. Where names are simple enough to be told
from the rest of a token, one spelling can stand for the other anywhere in a key.
-/
namespace ResponsiveStyles

variable {γ : Type}

/-- An operand without hyphen or comma that is no comparator. -/
structure SimpleOperand (X : Text) : Prop extends PlainFragment X where
  hyphen_notMem : '-' ∉ X
  comma_notMem : ',' ∉ X
  ne_word : ∀ c : Comparator, X ≠ c.word

theorem HoldsWord.of_append_cons {word u v : Text} {c : Char} (h : HoldsWord word (u ++ c :: v))
    (hc : c ∉ word) : HoldsWord word u ∨ HoldsWord word v := by
  obtain ⟨before, after, hf, hbefore, hafter⟩ := h
  rw [List.append_assoc] at hf
  rcases List.append_eq_append_iff.1 hf with ⟨w, rfl, hw⟩ | ⟨w, rfl, hw⟩
  · rcases List.cons_eq_append_iff.1 hw with ⟨rfl, hr⟩ | ⟨w, rfl, rfl⟩
    · rcases List.append_eq_cons_iff.1 hr with ⟨rfl, -⟩ | ⟨r, rfl, -⟩
      · exact .inl ⟨u, [], by simp, by simpa using hbefore, by simp⟩
      · exact absurd List.mem_cons_self hc
    · refine .inr ⟨w, after, (List.append_assoc _ _ _).symm, ?_, hafter⟩
      intro d hd
      rw [List.append_cons] at hbefore
      exact hbefore d (List.mem_getLast?_append_of_mem_getLast? hd)
  · rcases List.append_eq_append_iff.1 hw with ⟨r, rfl, rfl⟩ | ⟨r, rfl, hr⟩
    · refine .inl ⟨before, r, (List.append_assoc _ _ _).symm, hbefore, ?_⟩
      intro d hd
      exact hafter d (List.mem_head?_append_of_mem_head? hd)
    · rcases List.cons_eq_append_iff.1 hr with ⟨rfl, -⟩ | ⟨r, rfl, -⟩
      · exact .inl ⟨before, [], by simp, hbefore, by simp⟩
      · exact absurd (by simp) hc

theorem NamesMedia.of_hyphen {u v : Text} (h : NamesMedia (u ++ '-' :: v)) :
    NamesMedia u ∨ NamesMedia v := by
  obtain ⟨hparen, word, hw, hholds⟩ := h
  rw [List.mem_append, List.mem_cons, not_or, not_or] at hparen
  have hhyphen : ∀ word ∈ QueryKey.mediaWords, '-' ∉ word := by decide
  rcases hholds.of_append_cons (hhyphen word hw) with hu | hv
  · exact .inl ⟨hparen.1, word, hw, hu⟩
  · exact .inr ⟨hparen.2.2, word, hw, hv⟩

theorem PlainFragment.hyphen {u v : Text} (hu : PlainFragment u) (hv : PlainFragment v) :
    PlainFragment (u ++ '-' :: v) where
  at_notMem := by simp [hu.at_notMem, hv.at_notMem]
  trim_eq := by
    have hstart : Text.trimStart u = u := by
      rw [← hu.trim_eq, ← Text.trimStart_trimEnd]
      exact List.dropWhile_idempotent _ _
    have hend : Text.trimEnd v = v := by
      rw [← hv.trim_eq]
      exact List.rdropWhile_idempotent _ _
    rw [Text.trim, Text.trimStart_append_cons (by decide), hstart,
      Text.trimEnd_append_cons (by decide), hend]
  not_orientation := by
    rintro (h | h) <;> exact absurd (h ▸ List.mem_append_right u List.mem_cons_self) (by decide)
  not_media := fun h => h.of_hyphen.elim hu.not_media hv.not_media

theorem isWordChar_of_isDecimalDigit {c : Char} (h : Text.isDecimalDigit c) : Text.isWordChar c := by
  have hranges : (Text.decimalZeros.all fun z =>
      Text.wordRanges.any fun r => Nat.ble r.1 z && Nat.ble (z + 9) r.2) = true := by
    decide +kernel
  obtain ⟨z, hm, hle, hlt⟩ := Text.isDecimalDigit_iff.1 h
  have hrange := List.all_eq_true.1 hranges z hm
  simp only [List.any_eq_true, Bool.and_eq_true, Nat.ble_eq] at hrange
  obtain ⟨r, hr, hrz, hzr⟩ := hrange
  exact Text.inRanges_iff.2 ⟨r, hr, by omega, by omega⟩

theorem isWordChar_of_isAlpha {c : Char} (h : c.isAlpha) : Text.isWordChar c := by
  refine Text.inRanges_iff.2 ?_
  rcases toNat_of_isAlpha h with h | h
  · exact ⟨(0x41, 0x5A), List.mem_of_getElem? (i := 1) rfl, h⟩
  · exact ⟨(0x61, 0x7A), List.mem_of_getElem? (i := 3) rfl, h⟩

theorem not_isBlank_of_isDecimalDigit {c : Char} (h : Text.isDecimalDigit c) : ¬ Text.isBlank c := by
  have hzeros : ∀ z ∈ Text.decimalZeros, z = 0x30 ∨ 0x660 ≤ z ∧
      (z + 9 < 0x1680 ∨ 0x1680 < z ∧ (z + 9 < 0x2000 ∨ 0x205F < z ∧
        (z + 9 < 0x3000 ∨ 0x3000 < z))) := by decide
  obtain ⟨z, hm, hle, hlt⟩ := Text.isDecimalDigit_iff.1 h
  have hz := hzeros z hm
  simp only [Text.isBlank, Bool.or_eq_true, Bool.and_eq_true, decide_eq_true_eq, beq_iff_eq]
  omega

theorem not_isBlank_of_isAlpha {c : Char} (h : c.isAlpha) : ¬ Text.isBlank c := by
  have hc := toNat_of_isAlpha h
  simp only [Text.isBlank, Bool.or_eq_true, Bool.and_eq_true, decide_eq_true_eq, beq_iff_eq]
  omega

namespace Literal

variable {f : Text}

theorem ne (h : Literal f) {w : Text} (hw : w.all Char.isAlpha) : f ≠ w := by
  obtain ⟨digits, letters, rfl, h0, hd, -⟩ := h
  obtain ⟨c, r, rfl⟩ := List.exists_cons_of_ne_nil h0
  intro he
  have hc : c ∈ w := he ▸ by simp
  exact not_isDecimalDigit_of_isAlpha (List.all_eq_true.1 hw c hc) (hd c (by simp))

theorem isWordChar (h : Literal f) {c : Char} (hc : c ∈ f) : Text.isWordChar c := by
  by_contra hword
  exact h.notMem (mt isWordChar_of_isDecimalDigit hword) (mt isWordChar_of_isAlpha hword) hc

theorem trim_eq (h : Literal f) : Text.trim f = f := by
  have hblank (b : Text) (hb : Text.isAllBlank b) (hf : ∀ c ∈ b, c ∈ f) : b = [] := by
    rw [List.eq_nil_iff_forall_not_mem]
    intro c hc
    have hcb : Text.isBlank c := List.all_eq_true.1 hb c hc
    exact h.notMem (fun hd => not_isBlank_of_isDecimalDigit hd hcb)
      (fun ha => not_isBlank_of_isAlpha ha hcb) (hf c hc)
  obtain ⟨b, b', hf, hb, hb'⟩ := Text.exists_blanks f
  obtain rfl := hblank b hb fun c hc => by rw [hf]; simp [hc]
  obtain rfl := hblank b' hb' fun c hc => by rw [hf]; simp [hc]
  simpa using hf.symm

theorem not_namesMedia (h : Literal f) : ¬ NamesMedia f := by
  rintro ⟨-, word, hw, before, after, hf, hbefore, hafter⟩
  have hletters : ∀ word ∈ QueryKey.mediaWords, word.all Char.isAlpha := by decide
  -- All characters are word characters, so that a word in a literal is the whole literal.
  have hb : before = [] := by
    by_contra h0
    obtain ⟨c, hc⟩ := List.getLast?_isSome.2 h0 |> Option.isSome_iff_exists.1
    exact hbefore c hc (h.isWordChar (by rw [hf]; simp [List.mem_of_getLast? hc]))
  have ha : after = [] := by
    by_contra h0
    obtain ⟨c, r, rfl⟩ := List.exists_cons_of_ne_nil h0
    exact hafter c rfl (h.isWordChar (by rw [hf]; simp))
  exact h.ne (hletters word hw) (by simpa [hb, ha] using hf)

theorem simpleOperand (h : Literal f) : SimpleOperand f where
  at_notMem := h.notMem (by decide) (by decide)
  trim_eq := h.trim_eq
  not_orientation := by
    rintro (he | he)
    · exact h.ne (by decide) he
    · exact h.ne (by decide) he
  not_media := h.not_namesMedia
  hyphen_notMem := h.hyphen_notMem
  comma_notMem := h.notMem (by decide) (by decide)
  ne_word c := h.ne (by cases c <;> decide)

end Literal

namespace BreakpointTable

variable {t : BreakpointTable} {X f g : Text}

def SimpleNames (t : BreakpointTable) : Prop :=
  ∀ n ∈ t.names, SimpleOperand n

theorem Operand.simple (hX : t.Operand X) (ht : t.SimpleNames) : SimpleOperand X := by
  rcases hX with hX | hX
  · exact ht X hX
  · exact hX.simpleOperand

theorem notMem_names_of_hyphen (ht : t.SimpleNames) (hf : '-' ∈ f) : f ∉ t.names :=
  fun h => (ht f h).hyphen_notMem hf

theorem classify_comparison (ht : t.SimpleNames) (hX : t.Operand X) (c : Comparator) :
    t.classify (c.word ++ '-' :: X) = some (.compared c X) :=
  (Reads.compared (notMem_names_of_hyphen ht (by simp)) ⟨hX, rfl⟩).classify_eq

theorem classify_first {s : TokenShape} (ht : t.SimpleNames) (hX : t.Operand X) (hf : '-' ∈ f)
    (hs : t.Says X f s) : t.classify f = some s := by
  have hXs := hX.simple ht
  have hX' := hs.eq_takeWhile hXs.hyphen_notMem
  have hcompares (c : Comparator) (Y : Text) : ¬ t.Compares f c Y := by
    rintro ⟨-, rfl⟩
    refine hXs.ne_word c (hX'.trans ?_)
    cases c <;> rfl
  -- No operand has a hyphen, so that the one in front of the first hyphen is the only one.
  have honly {n : Text} {s' : TokenShape} (hn : n ∈ t.names) (h : t.Says n f s') : n = X :=
    (h.eq_takeWhile (ht n hn).hyphen_notMem).trans hX'.symm
  refine (Reads.first (notMem_names_of_hyphen ht hf) hcompares ?_).classify_eq
  by_cases hname : X ∈ t.names
  · obtain ⟨before, after, hnames, hbefore⟩ := List.eq_append_cons_of_mem hname
    refine .inl ⟨before, X, after, hnames, hs, fun n hn s' h => hbefore ?_⟩
    rwa [honly (hnames ▸ List.mem_append_left _ hn) h] at hn
  · refine .inr ⟨fun n hn s' h => hname (honly hn h ▸ hn), X, hX.resolve_left hname, hs⟩

structure SpellsRange (t : BreakpointTable) (f : Text) (r : WidthRange) : Prop
    extends PlainFragment f where
  hasRange : t.HasRange f r
  ne_nil : f ≠ []
  comma_notMem : ',' ∉ f

theorem spellsRange_first {v : Text} {shape : TokenShape} {r : WidthRange} (ht : t.SimpleNames)
    (hX : t.Operand X) (hv : PlainFragment v) (hcomma : ',' ∉ v)
    (hs : t.Says X (X ++ '-' :: v) shape) (hr : t.range? shape = some r) :
    t.SpellsRange (X ++ '-' :: v) r where
  toPlainFragment := (hX.simple ht).toPlainFragment.hyphen hv
  hasRange := hasRange_of_range? (classify_first ht hX (by simp) hs) hr
  ne_nil := by simp
  comma_notMem := by simp [(hX.simple ht).comma_notMem, hcomma]

theorem spellsRange_comparison {c : Comparator} {r : WidthRange} (ht : t.SimpleNames)
    (hX : t.Operand X) (hr : t.range? (.compared c X) = some r) :
    t.SpellsRange (c.word ++ '-' :: X) r where
  toPlainFragment := by
    have hword : PlainFragment c.word := by cases c <;> decide +kernel
    exact hword.hyphen (hX.simple ht).toPlainFragment
  hasRange := hasRange_of_range? (classify_comparison ht hX c) hr
  ne_nil := by simp
  comma_notMem := by
    have hword : ',' ∉ c.word := by cases c <;> decide
    simp [hword, (hX.simple ht).comma_notMem]

/-- Two spellings of a lower bound, of an upper bound, and of the widths of a name. -/
inductive Synonym (t : BreakpointTable) : Text → Text → Prop where
  | up {X : Text} (hX : t.Operand X) : Synonym t (X ++ "-up".toList) ("gt-".toList ++ X)
  | down {X : Text} (hX : t.Operand X) : Synonym t (X ++ "-down".toList) ("lt-".toList ++ X)
  | bucket {i : Nat} {b b' : Breakpoint} (hb : t.entries[i]? = some b)
      (hb' : t.entries[i + 1]? = some b') :
      Synonym t b.name (b.name ++ "-to-".toList ++ b'.name)

theorem Synonym.spellsRange (h : t.Synonym f g) (ht : t.SimpleNames) (hs : t.options.suffixes) :
    ∃ r, t.SpellsRange f r ∧ t.SpellsRange g r := by
  cases h with
  | @up X hX =>
    refine ⟨{ lower := t.lengthOf X }, ?_, ?_⟩
    · exact spellsRange_first (v := "up".toList) ht hX (by decide +kernel) (by decide) (.up hs) rfl
    · exact spellsRange_comparison (c := .gt) ht hX rfl
  | @down X hX =>
    refine ⟨{ upper := t.lengthOf X }, ?_, ?_⟩
    · exact spellsRange_first (v := "down".toList) ht hX (by decide +kernel) (by decide) (.down hs) rfl
    · exact spellsRange_comparison (c := .lt) ht hX rfl
  | @bucket i b b' hb hb' =>
    have hn := name_mem_names hb
    have hn' := name_mem_names hb'
    have honly : t.range? (.only b.name) = some { lower := b.length, upper := b'.length } := by
      rw [range?_only hb, hb']
      rfl
    have hbetween : t.range? (.between b.name b'.name) =
        some { lower := b.length, upper := b'.length } := by
      rw [range?, lengthOf, lengthOf, length?_name hb, length?_name hb']
      rfl
    refine ⟨{ lower := b.length, upper := b'.length }, ?_, ?_⟩
    · exact
        { ht _ hn with
          hasRange := hasRange_of_range? (Reads.only hn).classify_eq honly
          ne_nil := name_ne_nil (List.mem_of_getElem? hb) }
    · have hto : PlainFragment ("to".toList ++ '-' :: b'.name) :=
        PlainFragment.hyphen (by decide +kernel) (ht _ hn').toPlainFragment
      have hspelled : t.Says b.name (b.name ++ "-to-".toList ++ b'.name) (.between b.name b'.name) :=
        .between (.inl hn')
      rw [List.append_assoc] at hspelled ⊢
      exact spellsRange_first (v := "to".toList ++ '-' :: b'.name) ht (.inl hn) hto
        (by simp [(ht _ hn').comma_notMem]) hspelled hbetween

end BreakpointTable

namespace QuerySettings

def IgnoresKey (s : QuerySettings γ) : Prop :=
  ∀ name feature, s.features.get? name = some feature →
    ∀ d args key key' context, feature d args key context = feature d args key' context

variable {s : QuerySettings γ} {f g u v : Text}

theorem IgnoresKey.describe_eq (h : s.IgnoresKey) (key key' : Text) (context : Option γ)
    (fragments : List Text) : s.describe key context fragments = s.describe key' context fragments := by
  refine describe_congr ?_ fragments
  intro name feature hget d args
  exact h name feature hget d args key key' context

theorem describe_of_spellsRange {r : WidthRange} (hf : s.table.SpellsRange f r)
    (hg : s.table.SpellsRange g r) (key : Text) (context : Option γ) (fs gs : List Text) :
    s.describe key context (fs ++ f :: gs) = s.describe key context (fs ++ g :: gs) := by
  have hwrite {f : Text} (hf : s.table.SpellsRange f r) (d : Descriptor) :
      s.read key context d f = r.write s.table.options d := by
    obtain ⟨shape, hshape, -, hr, -⟩ := hf.hasRange
    exact read_of_range? hf.not_orientation hshape hr key context d
  have hread (d : Descriptor) : s.read key context d f = s.read key context d g :=
    (hwrite hf d).trans (hwrite hg d).symm
  cases fs with
  | nil =>
    -- The first fragment of a branch could be its media type.
    rw [List.nil_append, List.nil_append, describe, describe,
      if_neg (mt isMediaType_iff.1 hf.not_media), if_neg (mt isMediaType_iff.1 hg.not_media), hread]
  | cons first rest =>
    rw [List.cons_append, List.cons_append, describe, describe]
    simp only [List.foldl_append, List.foldl_cons, hread]

theorem compile_of_spellsRange {r : WidthRange} (hk : s.IgnoresKey) (hf : s.table.SpellsRange f r)
    (hg : s.table.SpellsRange g r) (huv : QueryKey.Surrounds u v) (context : Option γ) :
    s.compile (u ++ (f ++ v)) context = s.compile (u ++ (g ++ v)) context := by
  obtain ⟨bs, fs, gs, cs, hfragments⟩ := QueryKey.exists_map_fragments huv
  have hcompile (key key' : Text) : s.compile key context = "@media ".toList ++
      ", ".toList.intercalate (((QueryKey.branches key).map QueryKey.fragments).map fun fragments =>
        (s.describe key' context fragments).render) := by
    unfold compile branch
    rw [List.map_map]
    simp only [hk.describe_eq key key', Function.comp_def]
  rw [hcompile _ [], hcompile _ [],
    hfragments f hf.toPlainFragment hf.ne_nil hf.comma_notMem,
    hfragments g hg.toPlainFragment hg.ne_nil hg.comma_notMem, List.map_append, List.map_append,
    List.map_cons, List.map_cons, describe_of_spellsRange hf hg]

end QuerySettings

/-- Keys that differ in the spelling of widths, at any places and in either direction. -/
inductive BreakpointTable.Respelled (t : BreakpointTable) : Text → Text → Prop where
  | replace {u v f g : Text} (huv : QueryKey.Surrounds u v) (hfg : t.Synonym f g) :
      Respelled t (u ++ (f ++ v)) (u ++ (g ++ v))
  | refl (key : Text) : Respelled t key key
  | symm {key key' : Text} (h : Respelled t key key') : Respelled t key' key
  | trans {key key' key'' : Text} (h : Respelled t key key') (h' : Respelled t key' key'') :
      Respelled t key key''

/-- Another spelling of the same widths leaves the media query of a key as it is. -/
theorem QuerySettings.compile_respelled {s : QuerySettings γ} (ht : s.table.SimpleNames)
    (hs : s.table.options.suffixes) (hk : s.IgnoresKey) {key key' : Text}
    (h : s.table.Respelled key key') (context : Option γ) :
    s.compile key context = s.compile key' context := by
  induction h with
  | replace huv hfg =>
    obtain ⟨r, hf, hg⟩ := hfg.spellsRange ht hs
    exact compile_of_spellsRange hk hf hg huv context
  | refl key => rfl
  | symm _ ih => exact ih.symm
  | trans _ _ ih ih' => exact ih.trans ih'

theorem simpleNames_tablet : QuerySettings.tabletSettings.table.SimpleNames := by
  intro n hn
  have hn : n = "md".toList ∨ n = "lg".toList := by
    simpa [QuerySettings.tabletSettings, BreakpointTable.names] using hn
  rcases hn with rfl | rfl
  · exact { toPlainFragment := by decide +kernel, hyphen_notMem := by decide,
            comma_notMem := by decide, ne_word := fun c => by cases c <;> decide }
  · exact { toPlainFragment := by decide +kernel, hyphen_notMem := by decide,
            comma_notMem := by decide, ne_word := fun c => by cases c <;> decide }

theorem QuerySettings.compile_respelled_tablet :
    tabletSettings.compile "screen@ md-up @,@print@(color)@md".toList none =
        tabletSettings.compile "screen@ gt-md @,@print@(color)@md-to-lg".toList none ∧
      tabletSettings.compile "screen@ md-up @,@print@(color)@md".toList none =
        ("@media screen and (min-width: 768px), ".toList ++
          "print and (color) and (min-width: 768px) and (max-width: 991.98px)".toList) := by
  have hmd : tabletSettings.table.Operand "md".toList := .inl (by decide)
  have hfirst : tabletSettings.table.entries[0]? = some ⟨"md".toList, "768px".toList⟩ := rfl
  have hsecond : tabletSettings.table.entries[0 + 1]? = some ⟨"lg".toList, "992px".toList⟩ := rfl
  have hup : tabletSettings.table.Respelled "screen@ md-up @,@print@(color)@md".toList
      "screen@ gt-md @,@print@(color)@md".toList :=
    .replace (u := "screen@ ".toList) (v := " @,@print@(color)@md".toList)
      ⟨by decide, by decide⟩ (.up hmd)
  have hbucket : tabletSettings.table.Respelled "screen@ gt-md @,@print@(color)@md".toList
      "screen@ gt-md @,@print@(color)@md-to-lg".toList :=
    .replace (u := "screen@ gt-md @,@print@(color)@".toList) (v := []) ⟨by decide, by decide⟩
      (.bucket hfirst hsecond)
  have hkey : tabletSettings.IgnoresKey := by
    intro name feature h
    simp [tabletSettings, OrderedMap.get?_nil] at h
  exact ⟨compile_respelled simpleNames_tablet rfl hkey (hup.trans hbucket) none, by decide +kernel⟩

end ResponsiveStyles
