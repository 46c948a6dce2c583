import ResponsiveStyles.Proofs.AttributePattern
import ResponsiveStyles.Proofs.MarkupAnnotation
import ResponsiveStyles.Proofs.StyleHistory

/-!
# Markers and the rules they stand for

Annotation that keeps the attributes adds the markers of their rules behind them and changes nothing
else in the markup, and an attribute that spells no style map leaves both the markup and the compiler
alone. Whatever is annotated or entered later, each marker in brackets is a selector under the media
query of the key it was made for.
-/
namespace ResponsiveStyles

open Markup

variable {γ : Type}

namespace Segment

def styles? : Segment → Option StyleMap
  | .char _ => none
  | .found _ captured => StyleMap.read? captured

def entered (s : Segment) : StyleMap :=
  s.styles?.getD []

/-- What annotation makes of a part of the markup. -/
def annotated (drop : Bool) (rulesOf : StyleMap → List PushedRule) (s : Segment) : Text :=
  match s.styles? with
  | some styles => MarkupAnnotator.replacement drop s.source (rulesOf styles)
  | none => s.source

end Segment

namespace StyleCompiler

theorem rulesOf_append (c : StyleCompiler γ) (m m' : StyleMap) :
    c.rulesOf (m ++ m') = c.rulesOf m ++ c.rulesOf m' := by
  simp [rulesOf, StyleMap.declarations]

theorem rulesOf_flatMap (c : StyleCompiler γ) {α : Type} (f : α → StyleMap) (l : List α) :
    c.rulesOf (l.flatMap f) = l.flatMap fun a => c.rulesOf (f a) := by
  induction l with
  | nil => rfl
  | cons a l ih => rw [List.flatMap_cons, List.flatMap_cons, rulesOf_append, ih]

end StyleCompiler

namespace MarkupAnnotator

theorem annotateText_eq (c : StyleCompiler γ) (drop : Bool) (t : Text) :
    annotateText c drop t =
      ((stylePattern.segments t).flatMap (Segment.annotated drop c.rulesOf),
        (c.push none ((stylePattern.segments t).flatMap Segment.entered)).2) := by
  induction t using attribute_induction generalizing c with
  | nil =>
    rw [annotateText, pieces, Pattern.segments]
    rfl
  | char d r h ih =>
    have hquiet (w : Text) (hw : w ≠ []) (hs : w <:+ [d]) : attribute? (w ++ r) = none := by
      rcases List.suffix_cons_iff.1 hs with rfl | hs
      · exact h
      · exact absurd (List.suffix_nil.1 hs) hw
    rw [segments_of_attribute?_eq_none h, List.flatMap_cons, List.flatMap_cons]
    exact (annotateText_append c drop hquiet).trans (by rw [ih]; rfl)
  | found json rest h ih =>
    rw [segments_of_attribute? h, annotateText_of_attribute? c h, List.flatMap_cons,
      List.flatMap_cons]
    cases hread : StyleMap.read? json with
    | none =>
      have hpiece : annotatePiece c drop (.attribute json) = ((Piece.attribute json).source, c) := by
        rw [annotatePiece, hread]
      rw [hpiece, ih]
      simp [Segment.annotated, Segment.entered, Segment.styles?, hread, Segment.source]
    | some styles =>
      have hpiece : annotatePiece c drop (.attribute json) =
          (replacement drop (Piece.attribute json).source (c.rulesOf styles),
            (c.push none styles).2) := by
        rw [annotatePiece, hread, ← (c.push_spec styles).1]
      have hrules : (c.push none styles).2.rulesOf = c.rulesOf := funext (c.push_spec styles).2
      rw [hpiece, ih, hrules, ← StyleCompiler.snd_push_append]
      simp [Segment.annotated, Segment.entered, Segment.styles?, hread, Segment.source]

end MarkupAnnotator

inductive MarkupOperation (γ : Type) where
  | annotate (html : Text) (drop : Bool)
  /-- What its compiler may be asked to do. -/
  | enter (operation : StyleOperation γ)

def MarkupOperation.styleOperation : MarkupOperation γ → StyleOperation γ
  | .annotate html _ => .push ((stylePattern.segments html).flatMap Segment.entered) none
  | .enter operation => operation

namespace MarkupAnnotator

def perform (a : MarkupAnnotator γ) : MarkupOperation γ → MarkupAnnotator γ
  | .annotate html drop => (a.annotate html drop).2
  | .enter operation => ⟨(a.compiler.perform operation).2⟩

def performAll (a : MarkupAnnotator γ) (os : List (MarkupOperation γ)) : MarkupAnnotator γ :=
  os.foldl perform a

theorem annotate_eq (a : MarkupAnnotator γ) (html : Text) (drop : Bool) :
    a.annotate html drop =
      ((stylePattern.segments html).flatMap
          (Segment.annotated (drop || a.compiler.config.dropAttributes) a.compiler.rulesOf),
        ⟨(a.compiler.push none ((stylePattern.segments html).flatMap Segment.entered)).2⟩) := by
  have h := annotateText_eq a.compiler (drop || a.compiler.config.dropAttributes) html
  rw [annotateText] at h
  rw [annotate, h]

theorem compiler_performAll (a : MarkupAnnotator γ) (os : List (MarkupOperation γ)) :
    (a.performAll os).compiler =
      (a.compiler.performAll (os.map MarkupOperation.styleOperation)).2 := by
  induction os generalizing a with
  | nil => rfl
  | cons o os ih =>
    have ho : (a.perform o).compiler = (a.compiler.perform o.styleOperation).2 := by
      cases o with
      | annotate html drop =>
        rw [perform, annotate_eq]
        rfl
      | enter operation => rfl
    rw [performAll, List.foldl_cons, ← performAll, ih, ho]
    rfl

theorem holds_performAll {a : MarkupAnnotator γ} {s : QuerySettings γ} {template : SelectorTemplate}
    {seed : UInt32} {rules : List PushedRule} (h : a.compiler.Holds s template seed rules)
    (os : List (MarkupOperation γ)) :
    (a.performAll os).compiler.Holds s template seed
      (rules ++ (a.compiler.performAll (os.map MarkupOperation.styleOperation)).1) := by
  rw [compiler_performAll]
  exact h.performAll _

end MarkupAnnotator

namespace Segment

def rules (c : StyleCompiler γ) (s : Segment) : List PushedRule :=
  (c.push none s.entered).1

theorem rules_eq (c : StyleCompiler γ) (s : Segment) : s.rules c = c.rulesOf s.entered :=
  (c.push_spec s.entered).1

theorem annotated_false (c : StyleCompiler γ) {t : Text} {s : Segment}
    (hs : s ∈ stylePattern.segments t) :
    s.annotated false c.rulesOf = s.source ++ MarkupAnnotator.markers (s.rules c) := by
  rw [rules_eq, annotated, entered]
  cases hread : s.styles? with
  | none => exact (List.append_nil _).symm
  | some styles =>
    cases s with
    | char d => nomatch hread
    | found matched captured =>
      have hmatched := matched_eq_of_mem_segments hs
      refine MarkupAnnotator.replacement_false ?_ ?_ _
      · rw [source, hmatched]
        rfl
      · rw [source, hmatched]
        exact List.getLast?_concat

end Segment

/-- A rule has the media query of its key, and its marker is a selector there. -/
def StyleCompiler.Selects (c : StyleCompiler γ) (r : PushedRule) : Prop :=
  (c.compileKey r.key).1 = r.mediaQuery ∧
    ∃ rule ∈ c.registry.rules, rule.mediaQuery = r.mediaQuery ∧
      rule.selector = '[' :: (marker r.fingerprint ++ [']'])

theorem StyleCompiler.Holds.selects {c : StyleCompiler γ} {s : QuerySettings γ} {seed : UInt32}
    {rules : List PushedRule} (h : c.Holds s .byAttribute seed rules) {r : PushedRule}
    (hr : r ∈ rules) : c.Selects r := by
  have hkey : r.stored.key ∈ c.registry.rules.map StyleRule.key := by
    rw [h.keeps.mem_map_key, List.map_map]
    exact List.mem_map_of_mem hr
  obtain ⟨rule, hrule, hsame⟩ := List.mem_map.1 hkey
  obtain ⟨hquery, hselector⟩ := Prod.mk.inj hsame
  exact ⟨h.fst_compileKey hr, rule, hrule, hquery, hselector.trans (h.madeBy r hr).selector⟩

namespace MarkupAnnotator

/-- Annotation of a markup takes it apart at the matches of the pattern. It adds the markers of the rules
that a match enters behind it, in the order of its style map, and where no match spells a style map it
does nothing. -/
structure AddsMarkers (a : MarkupAnnotator γ) (html : Text) : Prop where
  source_eq : (stylePattern.segments html).flatMap Segment.source = html
  text_eq : a.compiler.config.dropAttributes = false →
    (a.annotate html false).1 =
      (stylePattern.segments html).flatMap fun s => s.source ++ markers (s.rules a.compiler)
  entries_eq : ∀ s ∈ stylePattern.segments html,
    (s.rules a.compiler).map PushedRule.entry = s.entered.declarations
  compiler_eq : ∀ drop,
    a.compiler.push none ((stylePattern.segments html).flatMap Segment.entered) =
      ((stylePattern.segments html).flatMap (Segment.rules a.compiler),
        (a.annotate html drop).2.compiler)
  unchanged : (∀ s ∈ stylePattern.segments html, s.styles? = none) →
    ∀ drop, a.annotate html drop = (html, a)

theorem addsMarkers (a : MarkupAnnotator γ) (html : Text) : a.AddsMarkers html where
  source_eq := flatMap_source_segments html
  text_eq hkeep := by
    rw [annotate_eq, hkeep]
    exact List.flatMap_congr fun s hs => Segment.annotated_false a.compiler hs
  entries_eq s _ := a.compiler.map_entry_push none s.entered
  compiler_eq drop := by
    rw [annotate_eq]
    refine Prod.ext ?_ rfl
    rw [(a.compiler.push_spec _).1, StyleCompiler.rulesOf_flatMap]
    exact List.flatMap_congr fun s _ => (Segment.rules_eq a.compiler s).symm
  unchanged hnone drop := by
    have hentered : (stylePattern.segments html).flatMap Segment.entered = [] :=
      List.flatMap_eq_nil_iff.2 fun s hs => by rw [Segment.entered, hnone s hs]; rfl
    have hkept : (stylePattern.segments html).flatMap
          (Segment.annotated (drop || a.compiler.config.dropAttributes) a.compiler.rulesOf) =
        (stylePattern.segments html).flatMap Segment.source :=
      List.flatMap_congr fun s hs => by rw [Segment.annotated, hnone s hs]
    rw [annotate_eq, hentered, hkept, flatMap_source_segments]
    rfl

/-- Annotation adds markers and nothing else; and from then on, whatever is annotated or entered later,
each marker is a selector under the media query of its key. -/
theorem markers_have_rules :
    (∀ (a : MarkupAnnotator γ) html, a.AddsMarkers html) ∧
    ∀ (config : Config) (features : FeatureRegistry γ) spareSeed history html drop later,
      let a := (ofConfig config features spareSeed).performAll history
      ∀ s ∈ stylePattern.segments html, ∀ r ∈ s.rules a.compiler,
        ((a.annotate html drop).2.performAll later).compiler.Selects r := by
  refine ⟨addsMarkers, ?_⟩
  intro config features spareSeed history html drop later a s hs r hr
  have hpushed := (a.addsMarkers html).compiler_eq drop
  have hentered : r ∈
      (a.compiler.push none ((stylePattern.segments html).flatMap Segment.entered)).1 := by
    rw [hpushed]
    exact List.mem_flatMap.2 ⟨s, hs, hr⟩
  have hstart : (ofConfig config features spareSeed).compiler.Holds _ _ _ [] :=
    StyleCompiler.holds_ofConfig config features .byAttribute spareSeed
  have hlater := holds_performAll (holds_performAll hstart history) (.annotate html drop :: later)
  exact hlater.selects (List.mem_append_right _ (List.mem_append_left _ hentered))

def twoLines : Text :=
  "<p data-rsa-style='\x7b\"print\":\"color:red\"\x7d'></p>\n<i data-rsa-style='\x7bred\x7d'></i>".toList

theorem annotate_twoLines :
    (plainAnnotator.annotate twoLines false).1 =
        ("<p data-rsa-style='\x7b\"print\":\"color:red\"\x7d' data-rsa-7619321736333689></p>\n" ++
          "<i data-rsa-style='\x7bred\x7d'></i>").toList ∧
      ∃ r : PushedRule, r.key = "print".toList ∧
        marker r.fingerprint = "data-rsa-7619321736333689".toList ∧
        ∀ later, ((plainAnnotator.annotate twoLines false).2.performAll later).compiler.Selects r := by
  obtain ⟨hadds, hrules⟩ := markers_have_rules (γ := Unit)
  refine ⟨?_, ?_⟩
  · rw [(hadds plainAnnotator twoLines).text_eq rfl]
    decide +kernel
  · refine ⟨plainAnnotator.compiler.queries.settings.ruleOf .byAttribute 42
      ("print".toList, "color:red".toList), rfl, by decide +kernel, fun later => ?_⟩
    refine hrules {} [] 42 [] twoLines false later
      (.found "data-rsa-style='\x7b\"print\":\"color:red\"\x7d'".toList
        "\x7b\"print\":\"color:red\"\x7d".toList) ?_ _ ?_
    · decide +kernel
    · decide +kernel

end MarkupAnnotator

end ResponsiveStyles
