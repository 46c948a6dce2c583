import ResponsiveStyles.Proofs.MarkerRules

/-!
# The names of the markers of an element

An element gains a marker for every entry of its style map, also where several entries are one rule
in the stylesheet. Its markers are therefore distinct just when no two of the entries have the same
media query and the same canonical declarations, no two of them overlap and the hash keeps them apart.
-/
namespace ResponsiveStyles

open Markup

variable {γ : Type}

namespace PushedRule

/-- Two rules are one rule, or are hashed as one text, or collide. -/
def SharesMarker (r r' : PushedRule) (seed : UInt32) : Prop :=
  ((r.mediaQuery = r'.mediaQuery ∧ r.style = r'.style) ∨ r.Overlaps r' ∨ r'.Overlaps r) ∨
    r.Collides r' seed

theorem marker_eq_iff {r r' : PushedRule} {s : QuerySettings γ} {seed : UInt32}
    (hr : r.MadeBy s .byAttribute seed) (hr' : r'.MadeBy s .byAttribute seed) :
    marker r.fingerprint = marker r'.fingerprint ↔ r.SharesMarker r' seed := by
  have hmarker : marker r.fingerprint = marker r'.fingerprint ↔ r.fingerprint = r'.fingerprint := by
    refine ⟨fun h => ?_, fun h => congrArg marker h⟩
    have htemplate : ∀ render, SelectorTemplate.byAttribute ≠ .custom render := fun _ h => nomatch h
    have hselector : SelectorTemplate.byAttribute.selector r.fingerprint =
        SelectorTemplate.byAttribute.selector r'.fingerprint :=
      congrArg (fun name => '[' :: (name ++ [']'])) h
    exact (SelectorTemplate.selector_eq_iff htemplate).1 hselector
  rw [hmarker, SharesMarker, ← hashedText_eq_iff hr hr', hr.fingerprint, hr'.fingerprint]
  constructor
  · intro h
    by_cases htext : r.hashedText = r'.hashedText
    · exact .inl htext
    · exact .inr ⟨htext, h⟩
  · rintro (htext | ⟨-, h⟩)
    · rw [htext]
    · exact h

end PushedRule

namespace Segment

/-- The names of the markers that annotation adds for a part of the markup. -/
def markerNames (c : StyleCompiler γ) (s : Segment) : List Text :=
  (s.rules c).map fun r => marker r.fingerprint

def marked (drop : Bool) (names : List Text) (s : Segment) : Text :=
  match s.styles? with
  | some _ => Text.trim ((if drop then [] else s.source) ++ ' ' :: [' '].intercalate names)
  | none => s.source

theorem annotated_eq_marked (c : StyleCompiler γ) (drop : Bool) (s : Segment) :
    s.annotated drop c.rulesOf = s.marked drop (s.markerNames c) := by
  rw [annotated, marked, markerNames, rules_eq, entered]
  cases s.styles? <;> rfl

theorem madeBy_of_mem_rules {c : StyleCompiler γ} {q : QuerySettings γ}
    {template : SelectorTemplate} {seed : UInt32} (h : c.MakesBy q template seed) {s : Segment} {r : PushedRule}
    (hr : r ∈ s.rules c) :
    r.MadeBy q template seed ∧ r.mediaQuery = (c.compileKey r.key).1 := by
  rw [rules_eq, StyleCompiler.rulesOf] at hr
  obtain ⟨p, -, rfl⟩ := List.mem_map.1 hr
  exact ⟨(h.pushRule p.1 p.2 none).1, rfl⟩

theorem nodup_markerNames {c : StyleCompiler γ} {q : QuerySettings γ} {seed : UInt32}
    (h : c.MakesBy q .byAttribute seed) (s : Segment) :
    (s.markerNames c).Nodup ↔ (s.rules c).Pairwise fun r r' => ¬ r.SharesMarker r' seed := by
  rw [markerNames, List.Nodup, List.pairwise_map]
  refine List.Pairwise.iff_of_mem fun {r r'} hr hr' => not_congr ?_
  exact PushedRule.marker_eq_iff (madeBy_of_mem_rules h hr).1 (madeBy_of_mem_rules h hr').1

end Segment

namespace MarkupAnnotator

/-- However an annotator was used before, it adds one marker for each entry of a style map, while
the registry keeps each selector once under its media query. The markers of an element are distinct
just when no two of its entries share one. -/
theorem markerNames_nodup_iff (config : Config) (features : FeatureRegistry γ) (spareSeed : UInt32)
    (history : List (MarkupOperation γ)) (html : Text) (drop : Bool) :
    let a := (ofConfig config features spareSeed).performAll history
    (a.annotate html drop).1 = (stylePattern.segments html).flatMap (fun s =>
      s.marked (drop || a.compiler.config.dropAttributes) (s.markerNames a.compiler)) ∧
    ((a.annotate html drop).2.compiler.registry.rules.map StyleRule.key).Nodup ∧
    ∀ s ∈ stylePattern.segments html,
      (s.rules a.compiler).map PushedRule.entry = s.entered.declarations ∧
      (∀ r ∈ s.rules a.compiler, r.mediaQuery = (a.compiler.compileKey r.key).1 ∧
        r.style = Declarations.canonical r.givenStyle) ∧
      ((s.markerNames a.compiler).Nodup ↔ (s.rules a.compiler).Pairwise fun r r' =>
        ¬ r.SharesMarker r' (config.seed.getD spareSeed)) := by
  intro a
  have hstart : (ofConfig config features spareSeed).compiler.Holds _ _ _ [] :=
    StyleCompiler.holds_ofConfig config features .byAttribute spareSeed
  have hholds := holds_performAll hstart history
  refine ⟨?_, ?_, fun s hs => ⟨?_, fun r hr => ?_, ?_⟩⟩
  · rw [annotate_eq]
    exact List.flatMap_congr fun s _ => s.annotated_eq_marked a.compiler _
  · exact (holds_performAll hholds [.annotate html drop]).keeps.nodup_map_key
  · exact (a.addsMarkers html).entries_eq s hs
  · obtain ⟨hmade, hquery⟩ := Segment.madeBy_of_mem_rules hholds.makesBy hr
    exact ⟨hquery, hmade.style⟩
  · exact s.nodup_markerNames hholds.makesBy

def printedTwice : Text :=
  "<p data-rsa-style='\x7b\"print\":\"color:red\",\" print\":\"color: red\"\x7d'></p>".toList

theorem markerNames_printedTwice :
    (plainAnnotator.annotate printedTwice false).1 =
        ("<p data-rsa-style='\x7b\"print\":\"color:red\",\" print\":\"color: red\"\x7d' " ++
          "data-rsa-7619321736333689 data-rsa-7619321736333689></p>").toList ∧
      (plainAnnotator.annotate printedTwice false).2.compiler.registry.rules.length = 1 ∧
      ∃ s ∈ stylePattern.segments printedTwice,
        ¬ (s.markerNames plainAnnotator.compiler).Nodup := by
  obtain ⟨htext, -, hnames⟩ :=
    markerNames_nodup_iff {} ([] : FeatureRegistry Unit) 42 [] printedTwice false
  refine ⟨?_, by decide +kernel, ?_⟩
  · exact htext.trans (by decide +kernel)
  · let s : Segment := .found
      "data-rsa-style='\x7b\"print\":\"color:red\",\" print\":\"color: red\"\x7d'".toList
      "\x7b\"print\":\"color:red\",\" print\":\"color: red\"\x7d".toList
    have hs : s ∈ stylePattern.segments printedTwice := by decide +kernel
    refine ⟨s, hs, fun hnodup => ?_⟩
    have hsame : ¬ (s.rules plainAnnotator.compiler).Pairwise fun r r' =>
        ¬ (r.mediaQuery = r'.mediaQuery ∧ r.style = r'.style) := by decide +kernel
    exact hsame (((hnames s hs).2.2.1 hnodup).imp fun h he => h (.inl (.inl he)))

end MarkupAnnotator

end ResponsiveStyles
