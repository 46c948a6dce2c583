import ResponsiveStyles.Text.Basic

/-!
# Patterns

A pattern is matched against the beginning of a text. The ways in which it matches are listed in the
order of preference: of two alternatives the first comes before the second, and of two repetitions
the longer before the shorter. The first way that does for the rest of the text is the match.
-/
namespace ResponsiveStyles

/-- Patterns whose groups are named by `κ`. -/
inductive Pattern (κ : Type) where
  | nothing
  | one (accepts : Char → Bool)
  | many (accepts : Char → Bool)
  | append (p q : Pattern κ)
  | either (p q : Pattern κ)
  | group (name : κ) (p : Pattern κ)

/-- A way in which a pattern matches, with the texts of its groups. -/
structure PatternMatch (κ : Type) where
  groups : List (κ × Text) := []
  matched : Text
  rest : Text

namespace Pattern

variable {κ : Type}

def text : Text → Pattern κ
  | [] => .nothing
  | c :: r => .append (.one fun c' => c' = c) (text r)

def oneOf (last : Pattern κ) : List (Pattern κ) → Pattern κ
  | [] => last
  | p :: r => .either p (oneOf last r)

def perhaps (p : Pattern κ) : Pattern κ :=
  .either p .nothing

/-- The texts of one or more accepted characters that a text begins with, the longest first, each
with what follows it. -/
def repeats (accepts : Char → Bool) : Text → List (Text × Text)
  | [] => []
  | c :: r =>
    if accepts c then (repeats accepts r).map (fun (m, rest) => (c :: m, rest)) ++ [([c], r)]
    else []

/-- The ways in which a pattern matches, the preferred ones first. -/
def ways : Pattern κ → Text → List (PatternMatch κ)
  | .nothing, t => [{ matched := [], rest := t }]
  | .one _, [] => []
  | .one accepts, c :: r => if accepts c then [{ matched := [c], rest := r }] else []
  | .many accepts, t => (repeats accepts t).map fun (m, r) => { matched := m, rest := r }
  | .append p q, t =>
    (p.ways t).flatMap fun m =>
      (q.ways m.rest).map fun n => ⟨m.groups ++ n.groups, m.matched ++ n.matched, n.rest⟩
  | .either p q, t => p.ways t ++ q.ways t
  | .group name p, t => (p.ways t).map fun m => { m with groups := (name, m.matched) :: m.groups }

attribute [local simp] ways

def whole? (p : Pattern κ) (t : Text) : Option (PatternMatch κ) :=
  (p.ways t).find? fun m => m.rest.isEmpty

def begins (p : Pattern κ) (t : Text) : Bool :=
  !(p.ways t).isEmpty

/-- The text with every match that is not empty replaced, from left to right. -/
def replaceAll (p : Pattern κ) (replacement : Text) : Text → Text
  | [] => []
  | c :: r =>
    match (p.ways (c :: r)).head? with
    | none => c :: replaceAll p replacement r
    | some m =>
      if m.rest.length ≤ r.length then replacement ++ replaceAll p replacement m.rest
      else c :: replaceAll p replacement r
termination_by t => t.length
decreasing_by all_goals (simp only [List.length_cons]; omega)

theorem ways_text (s t : Text) :
    (text s : Pattern κ).ways t =
      ((s.isPrefixOf? t).map fun r => { matched := s, rest := r }).toList := by
  induction s generalizing t with
  | nil => simp [text, Text.isPrefixOf?_nil]
  | cons c s ih =>
    cases t with
    | nil => simp [text, Text.isPrefixOf?_cons_nil]
    | cons c' t =>
      by_cases h : c' = c
      · subst h
        simp only [text, ways, decide_true, ↓reduceIte, List.flatMap_cons, List.flatMap_nil, ih]
        cases hp : s.isPrefixOf? t <;> simp [Text.isPrefixOf?_cons_cons, hp]
      · simp [text, h, Text.isPrefixOf?_cons_cons, Ne.symm h]

theorem ways_oneOf (last : Pattern κ) (ps : List (Pattern κ)) (t : Text) :
    (oneOf last ps).ways t = ps.flatMap (fun p => p.ways t) ++ last.ways t := by
  induction ps with
  | nil => rfl
  | cons p r ih => simp [oneOf, ih]

theorem flatMap_repeats {α : Type} {accepts : Char → Bool} {g : Text × Text → List α}
    (hg : ∀ m c r, accepts c → g (m, c :: r) = []) (t : Text) :
    (repeats accepts t).flatMap g =
      if (t.takeWhile accepts).isEmpty then [] else g (t.takeWhile accepts, t.dropWhile accepts) := by
  induction t generalizing g with
  | nil => rfl
  | cons c r ih =>
    by_cases hc : accepts c
    · have hr := ih (g := fun p => g (c :: p.1, p.2)) fun m c' r' h' => hg (c :: m) c' r' h'
      simp only [repeats, hc, if_true, List.flatMap_append, List.flatMap_map, hr,
        List.flatMap_cons, List.flatMap_nil, List.append_nil, List.takeWhile_cons,
        List.dropWhile_cons, List.isEmpty_cons, Bool.false_eq_true, if_false]
      cases r with
      | nil => simp
      | cons d ds =>
        by_cases hd : accepts d
        · simp [hd, hg [c] d ds hd]
        · simp [hd]
    · simp [repeats, hc]

theorem head?_repeats (accepts : Char → Bool) (t : Text) :
    (repeats accepts t).head? =
      if (t.takeWhile accepts).isEmpty then none
      else some (t.takeWhile accepts, t.dropWhile accepts) := by
  induction t with
  | nil => rfl
  | cons c r ih =>
    by_cases hc : accepts c
    · simp only [repeats, hc, if_true, List.head?_append, List.head?_map, ih,
        List.takeWhile_cons, List.dropWhile_cons, List.isEmpty_cons, Bool.false_eq_true, if_false]
      cases r with
      | nil => rfl
      | cons d ds => by_cases hd : accepts d <;> simp [hd]
    · simp [repeats, hc]

theorem head?_ways_perhaps_many (accepts : Char → Bool) (t : Text) :
    ((perhaps (many accepts) : Pattern κ).ways t).head? =
      some { matched := t.takeWhile accepts, rest := t.dropWhile accepts } := by
  simp only [perhaps, ways, List.head?_append, List.head?_map, head?_repeats]
  cases t with
  | nil => rfl
  | cons c r => by_cases hc : accepts c <;> simp [hc]

theorem flatMap_ways_perhaps_many {α : Type} {accepts : Char → Bool} {g : PatternMatch κ → List α}
    (hg : ∀ m c r, accepts c → g { matched := m, rest := c :: r } = []) (t : Text) :
    ((perhaps (many accepts)).ways t).flatMap g =
      g { matched := t.takeWhile accepts, rest := t.dropWhile accepts } := by
  have hrepeats := flatMap_repeats (g := fun p => g { matched := p.1, rest := p.2 })
    (fun m c r hc => hg m c r hc) t
  simp only [perhaps, ways, List.flatMap_append, List.flatMap_map, hrepeats, List.flatMap_singleton]
  cases t with
  | nil => rfl
  | cons c r =>
    by_cases hc : accepts c
    · simp [hc, hg [] c r hc]
    · simp [hc]

theorem mem_ways_one {accepts : Char → Bool} {t : Text} {m : PatternMatch κ} :
    m ∈ (one accepts).ways t ↔
      ∃ c r, t = c :: r ∧ accepts c ∧ m = { matched := [c], rest := r } := by
  constructor
  · intro h
    cases t with
    | nil => simp at h
    | cons c r =>
      rw [ways] at h
      split at h
      · exact ⟨c, r, rfl, ‹_›, List.mem_singleton.1 h⟩
      · simp at h
  · intro he
    obtain ⟨c, r, rfl, hc, rfl⟩ := he
    simp [hc]

theorem mem_ways_append {p q : Pattern κ} {t : Text} {m : PatternMatch κ} :
    m ∈ (append p q).ways t ↔ ∃ a ∈ p.ways t, ∃ b ∈ q.ways a.rest,
      m = ⟨a.groups ++ b.groups, a.matched ++ b.matched, b.rest⟩ := by
  simp [eq_comm]

theorem mem_ways_either {p q : Pattern κ} {t : Text} {m : PatternMatch κ} :
    m ∈ (either p q).ways t ↔ m ∈ p.ways t ∨ m ∈ q.ways t := by
  simp

theorem mem_ways_group {name : κ} {p : Pattern κ} {t : Text} {m : PatternMatch κ} :
    m ∈ (group name p).ways t ↔
      ∃ a ∈ p.ways t, m = ⟨(name, a.matched) :: a.groups, a.matched, a.rest⟩ := by
  simp [eq_comm]

theorem mem_ways_nothing {t : Text} {m : PatternMatch κ} :
    m ∈ (nothing : Pattern κ).ways t ↔ m = { matched := [], rest := t } := by
  simp

theorem whole?_eq_none_iff {p : Pattern κ} {t : Text} :
    p.whole? t = none ↔ ∀ m ∈ p.ways t, m.rest ≠ [] := by
  simp [whole?]

theorem whole?_either (p q : Pattern κ) (t : Text) :
    (either p q).whole? t = (p.whole? t).or (q.whole? t) := by
  simp [whole?]

theorem mem_ways_of_whole? {p : Pattern κ} {t : Text} {m : PatternMatch κ}
    (h : p.whole? t = some m) : m ∈ p.ways t ∧ m.rest = [] :=
  ⟨List.mem_of_find?_eq_some h, by simpa using List.find?_some h⟩

theorem begins_append (p q : Pattern κ) (t : Text) :
    (append p q).begins t = (p.ways t).any fun m => q.begins m.rest := by
  rw [Bool.eq_iff_iff]
  simp [begins]

end Pattern

def PatternMatch.group? {κ : Type} [DecidableEq κ] (m : PatternMatch κ) (name : κ) : Option Text :=
  (m.groups.find? fun g => g.1 = name).map Prod.snd

end ResponsiveStyles
