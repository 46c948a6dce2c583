import ResponsiveStyles.Proofs.AttributePattern
import ResponsiveStyles.Proofs.MarkerRules
import ResponsiveStyles.Proofs.TextTrimming

/-!
# Dropped attributes stay dropped

A line that still holds an attribute after a dropped one would have had it ended there, for an attribute
takes its line as far as it can. What stood around a dropped attribute, with or without the markers in
its place, can therefore begin an attribute but never end it; and an attribute that spells no style map
keeps what decides its end.
-/
namespace ResponsiveStyles

open Markup

variable {γ : Type}

namespace Markup

section Lines
variable {t u v json rest b : Text}

theorem source_braces_append (b rest : Text) :
    (Piece.attribute ('\x7b' :: (b ++ ['\x7d']))).source ++ rest =
      attributeStart ++ '\x7b' :: (b ++ close ++ rest) := by
  simp [Piece.source, close]

theorem line_start_append (s : Text) :
    line (attributeStart ++ '\x7b' :: s) = attributeStart ++ '\x7b' :: line s := by
  rw [line_append_of_notMem (by decide)]
  rfl

theorem line_source_append (hb : '\n' ∉ b) (rest : Text) :
    line ((Piece.attribute ('\x7b' :: (b ++ ['\x7d']))).source ++ rest) =
      attributeStart ++ '\x7b' :: (b ++ close ++ line rest) := by
  have hb' : '\n' ∉ b ++ close := by simp [hb, close]
  rw [source_braces_append, line_start_append, line_append_of_notMem hb']

theorem attribute?_eq_some_iff : attribute? t = some (json, rest) ↔
    ∃ b, json = '\x7b' :: (b ++ ['\x7d']) ∧ '\n' ∉ b ∧ ¬ close <:+: line rest ∧
      t = (Piece.attribute json).source ++ rest := by
  constructor
  · intro h
    have ht := eq_of_attribute? h
    rw [ht, Piece.source, List.append_assoc, List.append_assoc] at h
    generalize json ++ (['\''] ++ rest) = s at h
    by_cases hhead : s.head? = some '\x7b'
    swap
    · simp [attribute?_of_head_ne hhead] at h
    obtain ⟨s, rfl⟩ := List.head?_eq_some_iff.1 hhead
    rw [attribute?_of_brace] at h
    obtain ⟨⟨b, a⟩, hcut, hfound⟩ := Option.map_eq_some_iff.1 h
    obtain ⟨rfl, rfl⟩ := Prod.mk.inj hfound
    have hline := eq_of_cutAtClose? hcut
    have hb : '\n' ∉ b := fun hm => notMem_line s (by simp [hline, hm])
    have ha : '\n' ∉ a := fun hm => notMem_line s (by simp [hline, hm])
    refine ⟨b, rfl, hb, ?_, ht⟩
    rw [line_append_of_notMem ha, line_dropWhile, List.append_nil]
    exact not_close_of_cutAtClose? hcut
  · intro he
    obtain ⟨b, rfl, hb, hclose, rfl⟩ := he
    have hb' : '\n' ∉ b ++ close := by simp [hb, close]
    have hcut : cutAtClose? (line (b ++ close ++ rest)) = some (b, line rest) := by
      rw [line_append_of_notMem hb', List.append_assoc]
      exact cutAtClose?_append hclose
    rw [source_braces_append, attribute?_of_brace, hcut, dropWhile_append_of_notMem hb',
      Option.map_some, line_append_dropWhile]

theorem attribute?_eq_none_iff : attribute? t = none ↔
    ∀ b a, line t ≠ attributeStart ++ '\x7b' :: (b ++ '\x7d' :: '\'' :: a) := by
  constructor
  · intro h b a hline
    have ht := line_append_dropWhile t
    rw [hline, List.append_assoc, List.cons_append] at ht
    generalize b ++ '\x7d' :: '\'' :: a ++ t.dropWhile (· != '\n') = s at ht
    rw [← ht, attribute?_of_brace, Option.map_eq_none_iff, cutAtClose?_eq_none_iff] at h
    rw [← ht, line_start_append, List.append_cancel_left_eq, List.cons_inj_right] at hline
    exact h ⟨b, a, by simp [hline, close]⟩
  · intro h
    by_contra hsome
    obtain ⟨⟨json, rest⟩, hfound⟩ := Option.ne_none_iff_exists'.1 hsome
    obtain ⟨b, rfl, hb, -, rfl⟩ := attribute?_eq_some_iff.1 hfound
    refine h b (line rest) ?_
    rw [line_source_append hb, List.append_assoc]
    rfl

theorem attribute?_eq_none_of_not_close (h : ¬ close <:+: line t) : attribute? t = none :=
  attribute?_eq_none_iff.2 fun b a hline =>
    h ⟨attributeStart ++ '\x7b' :: b, a, by simp [hline, close]⟩

theorem not_close_append (hu : '\x7d' ∉ u) (hv : ¬ close <:+: v) : ¬ close <:+: u ++ v := by
  induction u with
  | nil => exact hv
  | cons c u ih =>
    rw [List.mem_cons, not_or] at hu
    rw [List.cons_append, List.infix_cons_iff, close_prefix_iff, not_or]
    refine ⟨?_, ih hu.2⟩
    intro he
    obtain ⟨r, hr⟩ := he
    exact hu.1 (List.cons.inj hr).1.symm

theorem exists_eq_of_not_close {a : Text} (h : u ++ v = b ++ '\x7d' :: '\'' :: a)
    (hv : ¬ close <:+: v) : ∃ u', u = b ++ '\x7d' :: u' := by
  rcases List.append_eq_append_iff.1 h with ⟨x, rfl, hx⟩ | ⟨x, rfl, hx⟩
  · exact absurd ⟨x, a, by simp [hx, close]⟩ hv
  · cases x with
    | nil => exact absurd ⟨[], a, by simpa [close] using hx⟩ hv
    | cons c x =>
      obtain rfl : '\x7d' = c := (List.cons.inj hx).1
      exact ⟨x, rfl⟩

end Lines

end Markup

namespace MarkupAnnotator

theorem replacement_true (t : Text) (rules : List PushedRule) :
    replacement true t rules = (markers rules).tail := by
  rw [replacement, if_pos rfl, List.nil_append]
  cases rules with
  | nil => rfl
  | cons r rs =>
    obtain ⟨c, hc, hd⟩ := getLast?_markers r rs
    rw [markers_cons]
    obtain ⟨s, hs⟩ : ∃ s, markers (r :: rs) = [' '] ++ 'd' :: s := ⟨_, rfl⟩
    rw [hs, List.getLast?_append_of_ne_nil _ (List.cons_ne_nil _ _)] at hc
    rw [hs, Text.trim_append_left (by decide)]
    simpa using Text.trim_append (b := []) rfl hc (by decide) (not_isBlank_of_isDigit hd) rfl

theorem notMem_tail_markers {rules : List PushedRule} {c : Char} (hc : ¬ c.isDigit)
    (hname : c ∉ " data-rsa-".toList) : c ∉ (markers rules).tail := by
  intro h
  obtain ⟨r, -, hr⟩ := List.mem_flatMap.1 (List.mem_of_mem_tail h)
  have hmarker : ' ' :: marker r.fingerprint =
      " data-rsa-".toList ++ Nat.toDigits 10 r.fingerprint.toNat := rfl
  rw [hmarker] at hr
  rcases List.mem_append.1 hr with hr | hr
  · exact hname hr
  · exact hc (Nat.isDigit_of_mem_toDigits (by decide) (by decide) hr)

/-- What annotation makes of a text when it drops the attributes. -/
def scrubbed (rulesOf : StyleMap → List PushedRule) (t : Text) : Text :=
  (stylePattern.segments t).flatMap (Segment.annotated true rulesOf)

section Scrubbed
variable {rulesOf : StyleMap → List PushedRule} {c : Char} {t json rest : Text} {styles : StyleMap}

@[simp] theorem scrubbed_nil : scrubbed rulesOf [] = [] := by
  rw [scrubbed, Pattern.segments]
  rfl

theorem scrubbed_cons (h : attribute? (c :: t) = none) :
    scrubbed rulesOf (c :: t) = c :: scrubbed rulesOf t := by
  rw [scrubbed, segments_of_attribute?_eq_none h]
  rfl

theorem scrubbed_kept (h : attribute? t = some (json, rest))
    (hread : StyleMap.read? json = none) :
    scrubbed rulesOf t = (Piece.attribute json).source ++ scrubbed rulesOf rest := by
  rw [scrubbed, segments_of_attribute? h, List.flatMap_cons]
  simp only [Segment.annotated, Segment.styles?, hread]
  rfl

theorem scrubbed_dropped (h : attribute? t = some (json, rest))
    (hread : StyleMap.read? json = some styles) :
    scrubbed rulesOf t = (markers (rulesOf styles)).tail ++ scrubbed rulesOf rest := by
  rw [scrubbed, segments_of_attribute? h, List.flatMap_cons]
  simp only [Segment.annotated, Segment.styles?, hread, replacement_true]
  rfl

theorem line_scrubbed (h : ¬ close <:+: line t) : line (scrubbed rulesOf t) = line t := by
  induction t using attribute_induction with
  | nil => rw [scrubbed_nil]
  | char c r hnone ih =>
    rw [scrubbed_cons hnone]
    by_cases hc : c = '\n'
    · subst hc
      rfl
    have hline (s : Text) : line (c :: s) = c :: line s := by simp [line, hc]
    rw [hline] at h ⊢
    rw [hline, ih (not_close_of_suffix (List.suffix_cons c _) h)]
  | found json rest hfound _ =>
    have hnone := attribute?_eq_none_of_not_close h
    simp [hfound] at hnone

theorem attribute?_append_scrubbed {w : Text} (h : attribute? (w ++ t) = none) :
    attribute? (w ++ scrubbed rulesOf t) = none := by
  induction t using attribute_induction generalizing w with
  | nil => rwa [scrubbed_nil]
  | char c r hnone ih =>
    rw [List.append_cons] at h
    rw [scrubbed_cons hnone, List.append_cons]
    exact ih h
  | found json rest hfound ih =>
    cases hread : StyleMap.read? json with
    | none =>
      rw [scrubbed_kept hfound hread, ← List.append_assoc]
      rw [← List.append_assoc] at h
      exact ih h
    | some styles =>
      rw [scrubbed_dropped hfound hread]
      obtain ⟨b, rfl, hb, hclose, -⟩ := attribute?_eq_some_iff.1 hfound
      by_cases hw : '\n' ∈ w
      · rw [attribute?_eq_none_iff, line_append_of_mem hw] at h ⊢
        exact h
      have hnl : '\n' ∉ (markers (rulesOf styles)).tail :=
        notMem_tail_markers (by decide) (by decide)
      have hbrace : '\x7d' ∉ (markers (rulesOf styles)).tail :=
        notMem_tail_markers (by decide) (by decide)
      rw [attribute?_eq_none_iff, line_append_of_notMem hw, line_append_of_notMem hnl,
        line_scrubbed hclose]
      intro b' a he
      -- the attribute would begin in front of the dropped one, and would have taken it
      rw [← List.cons_append, ← List.append_assoc attributeStart] at he
      obtain ⟨w', rfl⟩ := exists_eq_of_not_close he (not_close_append hbrace hclose)
      refine attribute?_eq_none_iff.1 h
        (b' ++ '\x7d' :: w' ++ attributeStart ++ '\x7b' :: b) (line rest) ?_
      rw [line_append_of_notMem hw, line_source_append hb]
      simp [close]

theorem quiet_markers (hclose : ¬ close <:+: line rest) (rules : List PushedRule) :
    Quiet (markers rules).tail (scrubbed rulesOf rest) := by
  intro w _ hw
  have hnl : '\n' ∉ w := fun h => notMem_tail_markers (by decide) (by decide) (hw.subset h)
  have hbrace : '\x7d' ∉ w := fun h => notMem_tail_markers (by decide) (by decide) (hw.subset h)
  refine attribute?_eq_none_of_not_close ?_
  rw [line_append_of_notMem hnl, line_scrubbed hclose]
  exact not_close_append hbrace hclose

end Scrubbed

end MarkupAnnotator

/-- What is left of a part of the markup, as parts again, when its attribute is dropped. -/
def Segment.dropped (rulesOf : StyleMap → List PushedRule) (s : Segment) : List Segment :=
  match s.styles? with
  | some styles => (MarkupAnnotator.markers (rulesOf styles)).tail.map Segment.char
  | none => [s]

theorem Segment.styles?_of_mem_dropped {rulesOf : StyleMap → List PushedRule} {s s' : Segment}
    (h : s' ∈ s.dropped rulesOf) : s'.styles? = none := by
  rw [dropped] at h
  cases hread : s.styles? with
  | none =>
    rw [hread] at h
    rwa [List.mem_singleton.1 h]
  | some styles =>
    rw [hread] at h
    obtain ⟨c, -, rfl⟩ := List.mem_map.1 h
    rfl

namespace MarkupAnnotator

theorem segments_scrubbed (rulesOf : StyleMap → List PushedRule) (t : Text) :
    stylePattern.segments (scrubbed rulesOf t) =
      (stylePattern.segments t).flatMap (Segment.dropped rulesOf) := by
  induction t using attribute_induction with
  | nil =>
    rw [scrubbed_nil, Pattern.segments]
    rfl
  | char c r hnone ih =>
    have hc : attribute? (c :: scrubbed rulesOf r) = none :=
      attribute?_append_scrubbed (w := [c]) hnone
    rw [scrubbed_cons hnone, segments_of_attribute?_eq_none hc, ih,
      segments_of_attribute?_eq_none hnone]
    rfl
  | found json rest hfound ih =>
    obtain ⟨b, hjson, hb, hclose, -⟩ := attribute?_eq_some_iff.1 hfound
    rw [segments_of_attribute? hfound, List.flatMap_cons, ← ih]
    cases hread : StyleMap.read? json with
    | none =>
      have hkept : attribute? ((Piece.attribute json).source ++ scrubbed rulesOf rest) =
          some (json, scrubbed rulesOf rest) := by
        refine attribute?_eq_some_iff.2 ⟨b, hjson, hb, ?_, rfl⟩
        rwa [line_scrubbed hclose]
      rw [scrubbed_kept hfound hread, segments_of_attribute? hkept]
      simp [Segment.dropped, Segment.styles?, hread]
    | some styles =>
      rw [scrubbed_dropped hfound hread, segments_append (quiet_markers hclose _)]
      simp [Segment.dropped, Segment.styles?, hread]

-- what is left begins an attribute, and nothing ends it
example : scrubbed plainAnnotator.compiler.rulesOf
    "data-rsa-styledata-rsa-style='\x7b\x7d'='\x7b\"print\":1".toList =
      "data-rsa-style='\x7b\"print\":1".toList := by decide +kernel

/-- Markup whose attributes were dropped is annotated as it is: its matches are the ones that spell no
style map, as they were, and neither the text nor the compiler changes again. -/
theorem annotate_dropped (a : MarkupAnnotator γ) (html : Text) (drop : Bool) :
    (a.annotate html true).2.annotate (a.annotate html true).1 drop = a.annotate html true ∧
      stylePattern.segments (a.annotate html true).1 =
        (stylePattern.segments html).flatMap (Segment.dropped a.compiler.rulesOf) := by
  have hsegments : stylePattern.segments (a.annotate html true).1 =
      (stylePattern.segments html).flatMap (Segment.dropped a.compiler.rulesOf) := by
    rw [annotate_eq]
    exact segments_scrubbed a.compiler.rulesOf html
  refine ⟨((a.annotate html true).2.addsMarkers _).unchanged ?_ drop, hsegments⟩
  intro s hs
  rw [hsegments] at hs
  obtain ⟨s', -, hs'⟩ := List.mem_flatMap.1 hs
  exact Segment.styles?_of_mem_dropped hs'

end MarkupAnnotator

end ResponsiveStyles
