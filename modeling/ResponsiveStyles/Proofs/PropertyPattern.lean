import ResponsiveStyles.Proofs.AttributePattern
import ResponsiveStyles.Proofs.StylesheetDefinition

/-!
# Custom properties as a pattern

The values that a stylesheet declares for a key are what a pattern captures in it: the name of the
property as it is spelled, a colon with as many blanks around it as there are, and as much as can
stand in a value.
-/
namespace ResponsiveStyles

/-- What the group of a match captured. -/
def Segment.captured? : Segment → Option Text
  | .char _ => none
  | .found _ captured => some captured

namespace Pattern
variable {κ : Type}

theorem head?_ways_append {q : Pattern κ} (hq : ∀ t, q.ways t ≠ []) (p : Pattern κ) (t : Text) :
    ((append p q).ways t).head? = (p.ways t).head?.bind fun m =>
      (q.ways m.rest).head?.map fun n =>
        ⟨m.groups ++ n.groups, m.matched ++ n.matched, n.rest⟩ := by
  rw [ways]
  cases p.ways t with
  | nil => rfl
  | cons m ms =>
    obtain ⟨n, ns, hn⟩ := List.exists_cons_of_ne_nil (hq m.rest)
    simp [hn]

end Pattern

namespace Definition

def blanksPattern : Pattern Unit :=
  Pattern.perhaps (.many Text.isBlank)

def valuePattern : Pattern Unit :=
  .append blanksPattern (.group () (Pattern.perhaps (.many isInside)))

def propertyPattern (key : Text) : Pattern Unit :=
  .append (.text (property key))
    (.append blanksPattern (.append (.one fun c => c = ':') valuePattern))

def valueMatch (r : Text) : PatternMatch Unit where
  groups := [((), (Text.trimStart r).takeWhile isInside)]
  matched := r.takeWhile Text.isBlank ++ (Text.trimStart r).takeWhile isInside
  rest := (Text.trimStart r).dropWhile isInside

theorem head?_ways_valuePattern (r : Text) :
    (valuePattern.ways r).head? = some (valueMatch r) := by
  have htotal (t : Text) :
      (Pattern.group () (Pattern.perhaps (.many isInside))).ways t ≠ [] := by
    simp [Pattern.ways, Pattern.perhaps]
  rw [valuePattern, Pattern.head?_ways_append htotal, blanksPattern,
    Pattern.head?_ways_perhaps_many, Option.bind_some, Pattern.ways, List.head?_map,
    Pattern.head?_ways_perhaps_many]
  rfl

theorem isInside_of_isBlank {c : Char} (hc : Text.isBlank c) : isInside c :=
  isInside_iff.2 ⟨fun h => absurd hc (h ▸ by decide), fun h => absurd hc (h ▸ by decide)⟩

theorem valueMatch_eq (r : Text) :
    (valueMatch r).groups = [((), Text.trimStart (r.takeWhile isInside))] ∧
      (valueMatch r).rest = r.dropWhile isInside := by
  rw [valueMatch]
  induction r with
  | nil => exact ⟨rfl, rfl⟩
  | cons c r ih =>
    by_cases hc : Text.isBlank c
    · simpa [Text.trimStart, hc, isInside_of_isBlank hc] using ih
    · by_cases hi : isInside c <;> simp [Text.trimStart, hc, hi]

theorem head?_ways_propertyPattern (key t : Text) :
    ((propertyPattern key).ways t).head?.map (fun m => (m.groups, m.rest)) =
      (declared? (property key) t).map fun p => ([((), Text.trimStart p.1)], p.2) := by
  rw [propertyPattern, Pattern.ways, Pattern.ways_text, declared?]
  cases (property key).isPrefixOf? t with
  | none => rfl
  | some s =>
    have hcolon (m : Text) (c : Char) (r : Text) (hc : Text.isBlank c) :
        ((Pattern.append (.one fun c => c = ':') valuePattern).ways (c :: r)).map
          (fun n => (⟨[] ++ n.groups, m ++ n.matched, n.rest⟩ : PatternMatch Unit)) = [] := by
      have hne : c ≠ ':' := fun h => absurd hc (h ▸ by decide)
      simp [Pattern.ways, hne]
    simp only [Option.map_some, Option.toList_some, List.flatMap_singleton]
    rw [Pattern.ways, blanksPattern, Pattern.flatMap_ways_perhaps_many hcolon]
    cases s.dropWhile Text.isBlank with
    | nil => rfl
    | cons c r =>
      by_cases hc : c = ':'
      · subst hc
        obtain ⟨hgroups, hrest⟩ := valueMatch_eq r
        simp only [Pattern.ways, decide_true, if_true, List.flatMap_singleton, List.head?_map,
          head?_ways_valuePattern, Option.map_some, hgroups, hrest, List.nil_append]
        rfl
      · simp [Pattern.ways, hc]

theorem captured_segments (key css : Text) :
    ((propertyPattern key).segments css).filterMap Segment.captured? =
      (values (property key) css).map Text.trimStart := by
  fun_induction values (property key) css with
  | case1 =>
    rw [Pattern.segments]
    rfl
  | case2 c r value rest h hlength ih =>
    have hhead := head?_ways_propertyPattern key (c :: r)
    rw [h, Option.map_some, Option.map_eq_some_iff] at hhead
    obtain ⟨m, hm, hmatch⟩ := hhead
    obtain ⟨hgroups, hrest⟩ := Prod.mk.inj hmatch
    have hle : m.rest.length ≤ r.length := hrest ▸ Nat.le_of_lt_succ hlength
    rw [Pattern.segments]
    simp only [hm, if_pos hle]
    rw [PatternMatch.group?, hgroups, hrest]
    simp only [List.filterMap_cons, Segment.captured?, ih]
    rfl
  | case3 c r h ih =>
    have hhead := head?_ways_propertyPattern key (c :: r)
    rw [h, Option.map_none, Option.map_eq_none_iff] at hhead
    rw [Pattern.segments]
    simp only [hhead]
    simp only [List.filterMap_cons, Segment.captured?, ih]

theorem ofStylesheet?_eq (css key : Text) :
    ofStylesheet? css key = (values (property key) css).getLast?.bind fun value =>
      if Text.isAllBlank value then none else some (Text.trim value) := by
  rw [ofStylesheet?]
  cases (values (property key) css).getLast? with
  | none => rfl
  | some value => simp only [Text.trim_eq_nil_iff, Option.bind_some]

/-- The definition for a key is what its pattern captures last. -/
theorem ofStylesheet?_eq_captured (css key : Text) :
    ofStylesheet? css key =
      (((propertyPattern key).segments css).filterMap Segment.captured?).getLast?.bind fun value =>
        if Text.isAllBlank value then none else some (Text.trim value) := by
  rw [captured_segments, List.getLast?_map, Option.bind_map, ofStylesheet?_eq]
  congr 1
  funext value
  have htrim : Text.trim (Text.trimStart value) = Text.trim value := by
    rw [Text.trim, Text.trim, Text.trimStart, Text.trimStart, List.dropWhile_idempotent]
  simp only [Function.comp_apply, ← Text.trim_eq_nil_iff, htrim]

end Definition

end ResponsiveStyles
