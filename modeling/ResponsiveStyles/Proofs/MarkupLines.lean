import ResponsiveStyles.Proofs.AttributeRemoval

/-!
# Markup is annotated line by line

Whether an attribute begins, and what it is, is decided by the line it begins in, and it ends in that
line. So a line break cuts markup into two texts whose attributes are found apart, and annotation goes
from one to the other with the rules that the first one entered.
-/
namespace ResponsiveStyles

open Markup

variable {γ : Type}

namespace Markup

section Breaks
variable {t json rest : Text} (v : Text)

theorem line_append_newline (t : Text) : line (t ++ '\n' :: v) = line t := by
  by_cases h : '\n' ∈ t
  · exact line_append_of_mem h
  · have hend : line (t ++ []) = t ++ [] := line_append_of_notMem h
    rw [List.append_nil] at hend
    have hbreak : line ('\n' :: v) = [] := rfl
    rw [line_append_of_notMem h, hbreak, List.append_nil, hend]

theorem attribute?_append_newline_eq_none (h : attribute? t = none) :
    attribute? (t ++ '\n' :: v) = none := by
  rw [attribute?_eq_none_iff, line_append_newline]
  exact attribute?_eq_none_iff.1 h

-- an attribute that the line break cuts is not found
example : attribute? "data-rsa-style='\x7b\n\x7d'".toList = none := by decide

theorem attribute?_append_newline (h : attribute? t = some (json, rest)) :
    attribute? (t ++ '\n' :: v) = some (json, rest ++ '\n' :: v) := by
  obtain ⟨b, hjson, hb, hclose, rfl⟩ := attribute?_eq_some_iff.1 h
  refine attribute?_eq_some_iff.2 ⟨b, hjson, hb, ?_, List.append_assoc _ _ _⟩
  rwa [line_append_newline]

theorem attribute?_newline : attribute? ('\n' :: v) = none :=
  attribute?_append_newline_eq_none v (t := []) rfl

theorem segments_append_newline (t : Text) :
    stylePattern.segments (t ++ '\n' :: v) =
      stylePattern.segments t ++ .char '\n' :: stylePattern.segments v := by
  induction t using attribute_induction with
  | nil =>
    have hnil : stylePattern.segments [] = [] := by rw [Pattern.segments]
    rw [List.nil_append, segments_of_attribute?_eq_none (attribute?_newline v), hnil,
      List.nil_append]
  | char c r hnone ih =>
    have hcons := attribute?_append_newline_eq_none v hnone
    rw [segments_of_attribute?_eq_none hnone, List.cons_append, List.cons_append, ← ih]
    exact segments_of_attribute?_eq_none hcons
  | found json rest hfound ih =>
    rw [segments_of_attribute? hfound, segments_of_attribute? (attribute?_append_newline v hfound),
      ih, List.cons_append]

end Breaks

end Markup

theorem StyleCompiler.config_push (c : StyleCompiler γ) (context : Option γ) (m : StyleMap) :
    (c.push context m).2.config = c.config :=
  c.config_performAll [.push m context]

namespace MarkupAnnotator

/-- Two texts with a line break between them are annotated one after the other. -/
theorem annotate_lines (a : MarkupAnnotator γ) (html html' : Text) (drop : Bool) :
    a.annotate (html ++ '\n' :: html') drop =
      ((a.annotate html drop).1 ++ '\n' :: ((a.annotate html drop).2.annotate html' drop).1,
        ((a.annotate html drop).2.annotate html' drop).2) := by
  have hrules (m : StyleMap) : (a.compiler.push none m).2.rulesOf = a.compiler.rulesOf :=
    funext (a.compiler.push_spec m).2
  have hbreak (rulesOf : StyleMap → List PushedRule) (d : Bool) :
      (Segment.char '\n').annotated d rulesOf = ['\n'] := rfl
  have hnone : (Segment.char '\n').entered = [] := rfl
  simp only [annotate_eq, segments_append_newline, List.flatMap_append, List.flatMap_cons, hbreak,
    hnone, List.nil_append, List.singleton_append, hrules, StyleCompiler.config_push,
    StyleCompiler.snd_push_append]

end MarkupAnnotator

end ResponsiveStyles
