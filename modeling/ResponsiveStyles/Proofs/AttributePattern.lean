import ResponsiveStyles.Proofs.MarkupAttributes
import ResponsiveStyles.Text.Pattern

/-!
# Style attributes as a pattern

The style attributes of a text are the matches of a pattern, in which the value reaches from a brace as
far along the line as it can. A text cut at the matches is the text again.
-/
namespace ResponsiveStyles

/-- A part of a text that was searched for a pattern with one group. -/
inductive Segment where
  | char (c : Char)
  | found (matched captured : Text)
deriving DecidableEq, Repr

def Segment.source : Segment → Text
  | .char c => [c]
  | .found matched _ => matched

/-- The matches of a pattern from left to right, each from where the one before it ended, and the
characters outside of them. -/
def Pattern.segments (p : Pattern Unit) (t : Text) : List Segment :=
  match t with
  | [] => []
  | c :: r =>
    match (p.ways (c :: r)).head? with
    | none => .char c :: p.segments r
    | some m =>
      if m.rest.length ≤ r.length then
        .found m.matched ((m.group? ()).getD []) :: p.segments m.rest
      else .char c :: p.segments r
termination_by t.length
decreasing_by all_goals (simp only [List.length_cons]; omega)

namespace Markup

def restOfLine : Pattern Unit :=
  Pattern.perhaps (.many fun c => c != '\n')

def bracesPattern : Pattern Unit :=
  .append (.one fun c => c = '\x7b')
    (.append restOfLine (.one fun c => c = '\x7d'))

def stylePattern : Pattern Unit :=
  .append (.text attributeStart)
    (.append (.group () bracesPattern) (.one fun c => c = '\''))

theorem ways_restOfLine_cons (c : Char) (r : Text) :
    restOfLine.ways (c :: r) =
      (if c = '\n' then [] else (restOfLine.ways r).map fun m => { m with matched := c :: m.matched }) ++
        [{ matched := [], rest := c :: r }] := by
  by_cases hc : c = '\n'
  · simp [restOfLine, Pattern.perhaps, Pattern.ways, Pattern.repeats, hc]
  · simp [restOfLine, Pattern.perhaps, Pattern.ways, Pattern.repeats, hc, Function.comp_def]

/-- What stands up to a closing brace at the start of a text, and behind the quote that follows it. -/
def closed? : Text → Option Text
  | '\x7d' :: '\'' :: r => some r
  | _ => none

theorem closed?_line (t : Text) :
    closed? t = (closed? (line t)).map (· ++ t.dropWhile (· != '\n')) := by
  rw [closed?.eq_def t]
  split
  · rename_i r
    have hr := line_append_dropWhile r
    simp only [line] at hr
    simp [line, closed?, hr]
  · rename_i h
    have hline : closed? (line t) = none := by
      rw [closed?.eq_def]
      split
      · rename_i r he
        have ht := line_append_dropWhile t
        rw [he] at ht
        exact absurd ht.symm (h _)
      · rfl
    rw [hline]
    rfl

theorem cutAtClose?_cons (c : Char) (l : Text) :
    cutAtClose? (c :: l) = ((cutAtClose? l).map fun p => (c :: p.1, p.2)).or
      ((closed? (c :: l)).map ([], ·)) := by
  rw [cutAtClose?.eq_def]
  dsimp only
  cases hl : cutAtClose? l with
  | some p => rfl
  | none =>
    dsimp only
    split
    · rfl
    · rename_i h
      rw [closed?]
      · rfl
      · intro r he
        obtain ⟨hc, hr⟩ := List.cons.inj he
        exact h r hc hr

theorem head?_closed? (t : Text) :
    ((restOfLine.ways t).filterMap fun m => (closed? m.rest).map fun r => (m.matched, r)).head? =
      (cutAtClose? (line t)).map fun p => (p.1, p.2 ++ t.dropWhile (· != '\n')) := by
  induction t with
  | nil => rfl
  | cons c r ih =>
    rw [ways_restOfLine_cons]
    by_cases hc : c = '\n'
    · subst hc
      rfl
    have hlater : ((restOfLine.ways r).map fun m => { m with matched := c :: m.matched }).filterMap
          (fun m => (closed? m.rest).map fun r => (m.matched, r)) =
        ((restOfLine.ways r).filterMap fun m => (closed? m.rest).map fun r => (m.matched, r)).map
          fun p => (c :: p.1, p.2) := by
      simp [List.filterMap_map, List.map_filterMap, Function.comp_def]
    have hline : line (c :: r) = c :: line r := by simp [line, hc]
    have hhere := closed?_line (c :: r)
    rw [hline] at hhere
    rw [if_neg hc, List.filterMap_append, List.head?_append, hlater, List.head?_map, ih, hline,
      cutAtClose?_cons, Option.map_or]
    congr 1
    · cases cutAtClose? (line r) <;> simp [hc]
    · simp [hhere, Function.comp_def]

theorem groups_of_mem_ways_restOfLine {t : Text} {m : PatternMatch Unit}
    (h : m ∈ restOfLine.ways t) : m.groups = [] := by
  rw [restOfLine, Pattern.perhaps, Pattern.mem_ways_either, Pattern.mem_ways_nothing, Pattern.ways,
    List.mem_map] at h
  rcases h with ⟨p, -, rfl⟩ | rfl
  · rfl
  · rfl

theorem ways_braces (s : Text) :
    (Pattern.append (.group () bracesPattern) (.one fun c => c = '\'')).ways ('\x7b' :: s) =
      ((restOfLine.ways s).filterMap fun m => (closed? m.rest).map fun r => (m.matched, r)).map
        fun p =>
          { groups := [((), '\x7b' :: (p.1 ++ ['\x7d']))]
            matched := '\x7b' :: (p.1 ++ ['\x7d']) ++ ['\''], rest := p.2 } := by
  simp only [bracesPattern, Pattern.ways, List.flatMap_map, List.flatMap_assoc, decide_true,
    if_true, List.flatMap_singleton]
  rw [List.map_filterMap, List.filterMap_eq_flatMap_toList]
  refine List.flatMap_congr fun m hm => ?_
  have hgroups := groups_of_mem_ways_restOfLine hm
  rcases m.rest with _ | ⟨c, _ | ⟨d, r⟩⟩
  · rfl
  · by_cases hc : c = '\x7d' <;> simp [closed?, Pattern.ways, hc]
  · by_cases hc : c = '\x7d'
    · subst hc
      by_cases hd : d = '\'' <;> simp [closed?, Pattern.ways, hd, hgroups]
    · simp [closed?, Pattern.ways, hc]

theorem head?_ways_stylePattern (t : Text) :
    (stylePattern.ways t).head? = (attribute? t).map fun p =>
      { groups := [((), p.1)], matched := (Piece.attribute p.1).source, rest := p.2 } := by
  rw [stylePattern, Pattern.ways, Pattern.ways_text]
  cases hp : attributeStart.isPrefixOf? t with
  | none =>
    have hno : attribute? t = none := by simp only [attribute?, hp]
    rw [hno]
    rfl
  | some s =>
    obtain rfl := List.isPrefixOf?_eq_some_iff_append_eq.1 hp
    by_cases hs : ∃ r, s = '\x7b' :: r
    · obtain ⟨r, rfl⟩ := hs
      rw [attribute?_of_brace, Option.map_some, Option.toList_some, List.flatMap_singleton,
        ways_braces, List.head?_map, List.head?_map, head?_closed?]
      cases cutAtClose? (line r) with
      | none => rfl
      | some p => simp [Piece.source]
    · have hhead : s.head? ≠ some '\x7b' := by
        intro h
        obtain ⟨r, hr⟩ := List.head?_eq_some_iff.1 h
        exact hs ⟨r, hr⟩
      have hone : (Pattern.one (κ := Unit) fun c => c = '\x7b').ways s = [] := by
        cases s with
        | nil => rfl
        | cons c r =>
          have hc : c ≠ '\x7b' := fun h => hs ⟨r, by rw [h]⟩
          simp [Pattern.ways, hc]
      rw [attribute?_of_head_ne hhead]
      simp [Pattern.ways, bracesPattern, hone]

section Segments
variable {c : Char} {t r json rest u v : Text}

theorem segments_of_attribute?_eq_none (h : attribute? (c :: r) = none) :
    stylePattern.segments (c :: r) = .char c :: stylePattern.segments r := by
  have hways := head?_ways_stylePattern (c :: r)
  rw [h, Option.map_none] at hways
  rw [Pattern.segments]
  simp only [hways]

theorem segments_of_attribute? (h : attribute? t = some (json, rest)) :
    stylePattern.segments t =
      .found (Piece.attribute json).source json :: stylePattern.segments rest := by
  cases t with
  | nil => exact absurd (length_of_attribute? h) (by simp)
  | cons c r =>
    have hways := head?_ways_stylePattern (c :: r)
    have hlength : rest.length ≤ r.length := Nat.le_of_lt_succ (length_of_attribute? h)
    rw [h, Option.map_some] at hways
    rw [Pattern.segments]
    simp only [hways, if_pos hlength]
    rfl

theorem attribute_induction {motive : Text → Prop} (nil : motive [])
    (char : ∀ c r, attribute? (c :: r) = none → motive r → motive (c :: r))
    (found : ∀ json rest, attribute? ((Piece.attribute json).source ++ rest) = some (json, rest) →
      motive rest → motive ((Piece.attribute json).source ++ rest)) (t : Text) : motive t := by
  fun_induction pieces t with
  | case1 => exact nil
  | case2 c r json rest h _ ih =>
    have ht := eq_of_attribute? h
    rw [ht] at h ⊢
    exact found json rest h ih
  | case3 c r h ih => exact char c r h ih

theorem flatMap_source_segments (t : Text) :
    (stylePattern.segments t).flatMap Segment.source = t := by
  induction t using attribute_induction with
  | nil =>
    rw [Pattern.segments]
    rfl
  | char c r h ih =>
    rw [segments_of_attribute?_eq_none h, List.flatMap_cons, ih]
    rfl
  | found json rest h ih =>
    rw [segments_of_attribute? h, List.flatMap_cons, ih]
    rfl

theorem matched_eq_of_mem_segments {matched captured : Text}
    (h : .found matched captured ∈ stylePattern.segments t) :
    matched = (Piece.attribute captured).source := by
  induction t using attribute_induction with
  | nil =>
    rw [Pattern.segments] at h
    exact absurd h List.not_mem_nil
  | char c r hnone ih =>
    rw [segments_of_attribute?_eq_none hnone] at h
    rcases List.mem_cons.1 h with h | h
    · nomatch h
    · exact ih h
  | found json rest hfound ih =>
    rw [segments_of_attribute? hfound] at h
    rcases List.mem_cons.1 h with h | h
    · obtain ⟨rfl, rfl⟩ := Segment.found.inj h
      rfl
    · exact ih h

def Quiet (u v : Text) : Prop :=
  ∀ w, w ≠ [] → w <:+ u → attribute? (w ++ v) = none

theorem segments_append (h : Quiet u v) :
    stylePattern.segments (u ++ v) = u.map Segment.char ++ stylePattern.segments v := by
  induction u with
  | nil => rfl
  | cons c u ih =>
    have hc : attribute? (c :: (u ++ v)) = none := h (c :: u) (by simp) List.suffix_rfl
    have hu := ih fun w hw hs => h w hw (hs.trans (List.suffix_cons c u))
    rw [List.cons_append, segments_of_attribute?_eq_none hc, hu]
    rfl

end Segments

end Markup

end ResponsiveStyles
