import ResponsiveStyles.Markup.Annotator
import ResponsiveStyles.Proofs.MarkupAttributes
import ResponsiveStyles.Proofs.PushedRules

/-!
# What annotation does to markup

The attributes that are found by themselves gain the markers of their own rules, and their style maps
are entered in order. Every other attribute stays as it is and is not entered. So all attributes are
annotated just when each of them is found by itself or has no rules.
-/
namespace ResponsiveStyles.MarkupAnnotator

open Markup

variable {γ : Type} {drop : Bool}

def annotateText (c : StyleCompiler γ) (drop : Bool) (t : Text) : Text × StyleCompiler γ :=
  annotatePieces c drop (pieces t)

theorem annotatePieces_consChar (c : StyleCompiler γ) (d : Char) (ps : List Piece) :
    annotatePieces c drop (consChar d ps) =
      (d :: (annotatePieces c drop ps).1, (annotatePieces c drop ps).2) := by
  unfold consChar
  split <;> rfl

theorem annotateText_append (c : StyleCompiler γ) (drop : Bool) {u v : Text}
    (h : ∀ w, w ≠ [] → w <:+ u → attribute? (w ++ v) = none) :
    annotateText c drop (u ++ v) =
      (u ++ (annotateText c drop v).1, (annotateText c drop v).2) := by
  induction u with
  | nil => rfl
  | cons d u ih =>
    have hd : attribute? (d :: (u ++ v)) = none := h (d :: u) (by simp) List.suffix_rfl
    have hu := ih fun w hw hs => h w hw (hs.trans (List.suffix_cons d u))
    have hpieces : pieces (d :: (u ++ v)) = consChar d (pieces (u ++ v)) := by
      rw [pieces]
      split
      · rename_i h'
        simp [hd] at h'
      · rfl
    rw [annotateText] at hu
    rw [annotateText, List.cons_append, hpieces, annotatePieces_consChar, hu]
    rfl

theorem annotateText_of_attribute? (c : StyleCompiler γ) {t json rest : Text}
    (h : attribute? t = some (json, rest)) :
    annotateText c drop t =
      ((annotatePiece c drop (.attribute json)).1 ++
          (annotateText (annotatePiece c drop (.attribute json)).2 drop rest).1,
        (annotateText (annotatePiece c drop (.attribute json)).2 drop rest).2) := by
  cases t with
  | nil => exact absurd (length_of_attribute? h) (by simp)
  | cons d t =>
    have hpieces : pieces (d :: t) = .attribute json :: pieces rest := by
      rw [pieces]
      split
      · rename_i json' rest' h'
        rw [h] at h'
        obtain ⟨rfl, rfl⟩ := Prod.mk.inj (Option.some.inj h')
        rfl
      · rename_i h'
        simp [h] at h'
    rw [annotateText, hpieces]
    rfl

/-- The text of marked attributes, in which the marked ones gained the markers of their rules. -/
def annotated (drop : Bool) (rulesOf : StyleMap → List PushedRule)
    (marks : List (StyleAttribute × Bool × Chunk)) : Text :=
  marks.flatMap fun p =>
    (if p.2.1 then replacement drop p.1.source (rulesOf p.1.styles) else p.1.source) ++ p.2.2.text

def entered (marks : List (StyleAttribute × Bool × Chunk)) : StyleMap :=
  marks.flatMap fun p => if p.2.1 then p.1.styles else []

section Marks
variable (rulesOf : StyleMap → List PushedRule) (a : StyleAttribute) (t : Chunk)
  (ps : List (StyleAttribute × Bool × Chunk))

theorem annotated_cons_found : annotated drop rulesOf ((a, true, t) :: ps) =
    replacement drop a.source (rulesOf a.styles) ++ (t.text ++ annotated drop rulesOf ps) := by
  simp [annotated]

theorem annotated_cons_left : annotated drop rulesOf ((a, false, t) :: ps) =
    a.source ++ (t.text ++ annotated drop rulesOf ps) := by
  simp [annotated]

theorem entered_cons_found : entered ((a, true, t) :: ps) = a.styles ++ entered ps := by
  simp [entered]

theorem entered_cons_left : entered ((a, false, t) :: ps) = entered ps := by
  simp [entered]

end Marks

/-- Markup with a text in front is markup again behind a closing brace with a quote, and what annotation
does up to there is nothing. -/
structure GoesOn (drop : Bool) (t : Chunk) (r : List (StyleAttribute × Chunk)) (x rest : Text)
    (t' : Chunk) (r' : List (StyleAttribute × Chunk)) : Prop where
  length_le : r'.length ≤ r.length
  rest_eq : rest = t'.text ++ sourceOf r'
  annotated_eq : ∀ rulesOf,
    t.text ++ annotated drop rulesOf (marksFrom (decide ('\n' ∉ t.text)) r) =
      x ++ '\x7d' :: '\'' ::
        (t'.text ++ annotated drop rulesOf (marksFrom (decide ('\n' ∉ t'.text)) r'))
  entered_eq : entered (marksFrom (decide ('\n' ∉ t.text)) r) =
    entered (marksFrom (decide ('\n' ∉ t'.text)) r')

theorem goesOn_of_chunk (drop : Bool) {t t' : Chunk} (r : List (StyleAttribute × Chunk)) {x : Text}
    (hx : '\n' ∉ x) (ht : t.text = x ++ '\x7d' :: '\'' :: t'.text) :
    GoesOn drop t r x (t'.text ++ sourceOf r) t' r := by
  have hline : decide ('\n' ∉ t.text) = decide ('\n' ∉ t'.text) := by simp [ht, hx]
  refine ⟨le_rfl, rfl, fun rulesOf => ?_, ?_⟩
  · rw [hline, ht]
    simp
  · rw [hline]

theorem exists_goesOn (drop : Bool) (r : List (StyleAttribute × Chunk)) (t : Chunk)
    {x rest : Text} (h : t.text ++ sourceOf r = x ++ '\x7d' :: '\'' :: rest) (hx : '\n' ∉ x) :
    ∃ t' r', GoesOn drop t r x rest t' r' := by
  induction r generalizing t x with
  | nil =>
    rcases close_behind_chunk t [] h with ⟨t', ht, rfl⟩ | ⟨x', -, hs⟩
    · exact ⟨t', [], goesOn_of_chunk drop [] hx ht⟩
    · simp [sourceOf] at hs
  | cons p r ih =>
    obtain ⟨a, u⟩ := p
    rcases close_behind_chunk t _ h with ⟨t', ht, rfl⟩ | ⟨x', rfl, hs⟩
    · exact ⟨t', _, goesOn_of_chunk drop _ hx ht⟩
    have hnt : '\n' ∉ t.text := fun hm => hx (List.mem_append_left _ hm)
    have hnx : '\n' ∉ x' := fun hm => hx (List.mem_append_right _ hm)
    rw [sourceOf_cons] at hs
    rcases close_behind_source a hs with ⟨y, rfl, hy⟩ | ⟨hj, rfl⟩
    · have hna : '\n' ∉ a.json := fun hm => hnx (by simp [StyleAttribute.source, Piece.source, hm])
      have hny : '\n' ∉ y := fun hm => hnx (List.mem_append_right _ hm)
      obtain ⟨t', r', hgoes⟩ := ih u hy hny
      refine ⟨t', r', hgoes.length_le.trans (Nat.le_succ _), hgoes.rest_eq, fun rulesOf => ?_, ?_⟩
      · rw [decide_eq_true hnt, marksFrom_taken u r hna, annotated_cons_left, hgoes.annotated_eq]
        simp
      · rw [decide_eq_true hnt, marksFrom_taken u r hna, entered_cons_left, hgoes.entered_eq]
    · have hna : '\n' ∉ a.json := by
        intro hm
        have hmem : '\n' ∈ x' ++ ['\x7d'] := hj ▸ List.mem_append_right _ hm
        rcases List.mem_append.1 hmem with hm | hm
        · exact hnx hm
        · exact absurd hm (by decide)
      have hsrc : a.source = x' ++ '\x7d' :: ['\''] := by
        rw [StyleAttribute.source, Piece.source, ← hj]
        simp
      refine ⟨u, r, Nat.le_succ _, rfl, fun rulesOf => ?_, ?_⟩
      · rw [decide_eq_true hnt, marksFrom_taken u r hna, annotated_cons_left, hsrc]
        simp
      · rw [decide_eq_true hnt, marksFrom_taken u r hna, entered_cons_left]

theorem annotatePiece_attribute (c : StyleCompiler γ) (a : StyleAttribute) :
    annotatePiece c drop (.attribute a.json) =
      (replacement drop a.source (c.rulesOf a.styles), (c.push none a.styles).2) := by
  rw [annotatePiece, a.spells, ← (c.push_spec a.styles).1]
  rfl

theorem annotateText_sourceOf (c : StyleCompiler γ) (drop taken : Bool) (t : Chunk)
    (rest : List (StyleAttribute × Chunk))
    (htaken : taken → ¬ close <:+: line (sourceOf rest)) :
    annotateText c drop (t.text ++ sourceOf rest) =
      (t.text ++ annotated drop c.rulesOf (marksFrom taken rest),
        (c.push none (entered (marksFrom taken rest))).2) := by
  induction hn : rest.length using Nat.strong_induction_on generalizing c taken t rest with
  | _ n ih =>
    have hskip := annotateText_append c drop fun w hw hs =>
      attribute?_eq_none (not_start_of_chunk t rest hw hs)
    rw [hskip]
    cases rest with
    | nil =>
      have hempty : annotateText c drop [] = ([], c) := by
        rw [annotateText, pieces]
        rfl
      rw [sourceOf, List.flatMap_nil, hempty]
      rfl
    | cons p r =>
      obtain ⟨a, u⟩ := p
      have hr : r.length < n := by
        rw [← hn, List.length_cons]
        exact Nat.lt_succ_self _
      rw [sourceOf_cons] at htaken ⊢
      rw [marksFrom]
      rcases attribute?_source a (u.text ++ sourceOf r) with
        ⟨hnone, hno⟩ | ⟨hfound, hhead, hlast, hline, hclose⟩ |
        ⟨x, rest, hafter, hhead, hline, hx, hclose, hfound⟩
      · -- the attribute is not found, and the line is as much taken behind it as before
        have halone : ¬ a.Alone taken (u.text ++ sourceOf r) := by
          intro he
          obtain ⟨-, hhead, hlast, hline, -⟩ := he
          exact (hno hhead hline).2 hlast
        have hquiet (w : Text) (hw : w ≠ []) (hs : w <:+ a.source) :
            attribute? (w ++ (u.text ++ sourceOf r)) = none := by
          by_cases hwa : w = a.source
          · rw [hwa, hnone]
          · exact attribute?_eq_none (not_start_of_source a _ hw hs hwa)
        have hbehind := not_close_behind htaken fun hhead hline => (hno hhead hline).1
        rw [annotateText_append c drop hquiet, ih r.length hr c _ u r hbehind rfl,
          decide_eq_false halone, annotated_cons_left, entered_cons_left]
      · -- the attribute is found alone, and its map is entered
        have hfree : taken = false := by
          by_contra ht
          refine htaken (by simpa using ht) ?_
          rw [line_append_of_notMem (notMem_source hline)]
          exact (close_infix_source hlast).trans (List.prefix_append _ _).isInfix
        have halone : a.Alone taken (u.text ++ sourceOf r) := ⟨hfree, hhead, hlast, hline, hclose⟩
        have hbehind := not_close_behind htaken fun _ _ => hclose
        have hrules : (c.push none a.styles).2.rulesOf = c.rulesOf :=
          funext (c.push_spec a.styles).2
        rw [annotateText_of_attribute? c hfound, annotatePiece_attribute,
          ih r.length hr _ _ u r hbehind rfl, decide_eq_true halone, annotated_cons_found,
          entered_cons_found, StyleCompiler.snd_push_append, hrules]
      · -- the attribute takes the line as far as a later closing brace, and spells nothing so
        have hclosed : close <:+: line (u.text ++ sourceOf r) := by
          rw [hafter, line_append_of_notMem hx]
          exact ⟨x, line rest, by simp [line, close]⟩
        have halone : ¬ a.Alone taken (u.text ++ sourceOf r) := fun h => h.2.2.2.2 hclosed
        obtain ⟨t', r', hgoes⟩ := exists_goesOn drop r u hafter hx
        have hbehind : decide ('\n' ∉ t'.text) → ¬ close <:+: line (sourceOf r') := by
          intro h
          rw [hgoes.rest_eq, line_append_of_notMem (of_decide_eq_true h)] at hclose
          exact not_close_of_suffix (List.suffix_append _ _) hclose
        have hspells : StyleMap.read? (a.json ++ '\'' :: (x ++ ['\x7d'])) = none :=
          StyleMap.read?_append_eq_none a.spells (by decide) _
        have hpiece : annotatePiece c drop (.attribute (a.json ++ '\'' :: (x ++ ['\x7d']))) =
            ((Piece.attribute (a.json ++ '\'' :: (x ++ ['\x7d']))).source, c) := by
          rw [annotatePiece, hspells]
        rw [annotateText_of_attribute? c hfound, hpiece, hgoes.rest_eq,
          ih r'.length (hgoes.length_le.trans_lt hr) c _ t' r' hbehind rfl, decide_eq_false halone,
          annotated_cons_left, entered_cons_left, takenBehind_of_notMem u hline (.inr hhead),
          hgoes.annotated_eq, hgoes.entered_eq, a.source_append]
        simp [Piece.source]

def markers (rules : List PushedRule) : Text :=
  rules.flatMap fun r => ' ' :: marker r.fingerprint

theorem markers_eq_nil_iff {rules : List PushedRule} : markers rules = [] ↔ rules = [] := by
  cases rules <;> simp [markers]

theorem markers_cons (r : PushedRule) (rs : List PushedRule) :
    ' ' :: [' '].intercalate ((r :: rs).map fun r => marker r.fingerprint) = markers (r :: rs) := by
  induction rs generalizing r with
  | nil => simp [markers]
  | cons r' rs ih =>
    have h := ih r'
    simp only [List.map_cons, markers, List.flatMap_cons] at h ⊢
    rw [List.intercalate_cons_cons, ← h]
    simp

theorem not_isBlank_of_isDigit {c : Char} (h : c.isDigit) : ¬ Text.isBlank c := by
  have hn : 0x30 ≤ c.toNat ∧ c.toNat ≤ 0x39 := by
    simp only [Char.isDigit, Bool.and_eq_true, decide_eq_true_eq] at h
    exact h
  simp only [Text.isBlank, Bool.or_eq_true, Bool.and_eq_true, decide_eq_true_eq, beq_iff_eq]
  omega

theorem getLast?_marker (fingerprint : UInt64) :
    ∃ c, (marker fingerprint).getLast? = some c ∧ c.isDigit := by
  have hne : Nat.toDigits 10 fingerprint.toNat ≠ [] := Nat.toDigits_ne_nil
  have hmarker : marker fingerprint = "data-rsa-".toList ++ Nat.toDigits 10 fingerprint.toNat := rfl
  rw [hmarker]
  generalize hds : Nat.toDigits 10 fingerprint.toNat = ds at hne
  have hdigit : (ds.getLast hne).isDigit := by
    refine Nat.isDigit_of_mem_toDigits (b := 10) (n := fingerprint.toNat) (by decide) (by decide) ?_
    rw [hds]
    exact List.getLast_mem hne
  refine ⟨ds.getLast hne, ?_, hdigit⟩
  rw [List.getLast?_append_of_ne_nil _ hne, List.getLast?_eq_some_getLast hne]

theorem getLast?_markers (r : PushedRule) (rs : List PushedRule) :
    ∃ c, (markers (r :: rs)).getLast? = some c ∧ c.isDigit := by
  induction rs generalizing r with
  | nil =>
    obtain ⟨c, hc, hd⟩ := getLast?_marker r.fingerprint
    refine ⟨c, ?_, hd⟩
    rw [markers, List.flatMap_singleton, ← List.singleton_append, List.getLast?_append, hc]
    rfl
  | cons r' rs ih =>
    obtain ⟨c, hc, hd⟩ := ih r'
    refine ⟨c, ?_, hd⟩
    have hcons : markers (r :: r' :: rs) =
        ' ' :: marker r.fingerprint ++ markers (r' :: rs) := by
      simp [markers]
    rw [hcons, List.getLast?_append, hc]
    rfl

theorem replacement_false {t : Text} (hhead : t.head? = some 'd') (hlast : t.getLast? = some '\'')
    (rules : List PushedRule) : replacement false t rules = t ++ markers rules := by
  rw [replacement, if_neg (by simp)]
  cases rules with
  | nil =>
    rw [List.map_nil, List.intercalate_nil]
    simpa [markers] using
      Text.trim_append (b := [' ']) hhead hlast (by decide) (by decide) (by decide)
  | cons r rs =>
    obtain ⟨c, hc, hd⟩ := getLast?_markers r rs
    have hhead' : (t ++ markers (r :: rs)).head? = some 'd' := by
      rw [List.head?_append, hhead]
      rfl
    have hlast' : (t ++ markers (r :: rs)).getLast? = some c := by
      rw [List.getLast?_append, hc]
      rfl
    rw [markers_cons]
    simpa using Text.trim_append (b := []) hhead' hlast' (by decide) (not_isBlank_of_isDigit hd) rfl

theorem replacement_keep (a : StyleAttribute) (rules : List PushedRule) :
    replacement false a.source rules = a.source ++ markers rules :=
  replacement_false rfl List.getLast?_concat rules

def marked (rulesOf : StyleMap → List PushedRule) (rest : List (StyleAttribute × Chunk)) : Text :=
  rest.flatMap fun p => p.1.source ++ (markers (rulesOf p.1.styles) ++ p.2.text)

section Marked
variable (rulesOf : StyleMap → List PushedRule) (taken : Bool)
  (rest : List (StyleAttribute × Chunk))

theorem length_annotated_le :
    (annotated false rulesOf (marksFrom taken rest)).length ≤ (marked rulesOf rest).length := by
  induction rest generalizing taken with
  | nil => rfl
  | cons p r ih =>
    obtain ⟨a, t⟩ := p
    have hr := ih (takenBehind taken a t)
    rw [marksFrom]
    cases decide (a.Alone taken (t.text ++ sourceOf r)) with
    | true =>
      rw [annotated_cons_found, replacement_keep]
      simp only [marked, List.flatMap_cons, List.length_append] at hr ⊢
      omega
    | false =>
      rw [annotated_cons_left]
      simp only [marked, List.flatMap_cons, List.length_append] at hr ⊢
      omega

theorem annotated_eq_marked_iff :
    annotated false rulesOf (marksFrom taken rest) = marked rulesOf rest ↔
      ∀ p ∈ marksFrom taken rest, p.2.1 = true ∨ rulesOf p.1.styles = [] := by
  induction rest generalizing taken with
  | nil => simp [marksFrom, annotated, marked]
  | cons p r ih =>
    obtain ⟨a, t⟩ := p
    have hr := ih (takenBehind taken a t)
    have hmarked : marked rulesOf ((a, t) :: r) =
        a.source ++ (markers (rulesOf a.styles) ++ (t.text ++ marked rulesOf r)) := by
      simp [marked]
    rw [marksFrom, List.forall_mem_cons, ← hr, hmarked]
    cases decide (a.Alone taken (t.text ++ sourceOf r)) with
    | true =>
      rw [annotated_cons_found, replacement_keep, List.append_assoc, List.append_cancel_left_eq,
        List.append_cancel_left_eq, List.append_cancel_left_eq]
      simp
    | false =>
      rw [annotated_cons_left, List.append_cancel_left_eq]
      constructor
      · intro h
        -- what is left unmarked is never longer, so that nothing can be missing in front of it
        have hlen := congrArg List.length h
        have hle := length_annotated_le rulesOf (takenBehind taken a t) r
        simp only [List.length_append] at hlen
        have hnil : markers (rulesOf a.styles) = [] := List.eq_nil_of_length_eq_zero (by omega)
        rw [hnil, List.nil_append, List.append_cancel_left_eq] at h
        exact ⟨.inr (markers_eq_nil_iff.1 hnil), h⟩
      · intro he
        rcases he with ⟨h | h, hrest⟩
        · exact absurd h (by simp)
        · rw [h, hrest]
          rfl

end Marked

theorem rulesOf_eq_nil_iff {c : StyleCompiler γ} {m : StyleMap} :
    c.rulesOf m = [] ↔ m.declarations = [] :=
  List.map_eq_nil_iff

/-- Annotation marks exactly the attributes that are found alone. All attributes gain their markers just
when every one of them is found alone or has no declarations; and the rules of a map are the same
whatever was entered before it. -/
theorem annotate_markup (a : MarkupAnnotator γ) (d : StyledMarkup) :
    (∀ drop, a.annotate d.source drop =
      (d.first.text ++
          annotated (drop || a.compiler.config.dropAttributes) a.compiler.rulesOf d.marks,
        ⟨(a.compiler.push none (entered d.marks)).2⟩)) ∧
    (∀ m m', ((a.compiler.push none m).2.push none m').1 = a.compiler.rulesOf m') ∧
    (a.compiler.config.dropAttributes = false →
      ((a.annotate d.source false).1 = d.first.text ++ marked a.compiler.rulesOf d.rest ↔
        ∀ p ∈ d.marks, p.2.1 = true ∨ p.1.styles.declarations = [])) := by
  have hannotate (drop : Bool) : a.annotate d.source drop =
      (d.first.text ++
          annotated (drop || a.compiler.config.dropAttributes) a.compiler.rulesOf d.marks,
        ⟨(a.compiler.push none (entered d.marks)).2⟩) := by
    have htext := annotateText_sourceOf a.compiler (drop || a.compiler.config.dropAttributes)
      false d.first d.rest (by simp)
    rw [annotateText] at htext
    rw [annotate, StyledMarkup.source, htext]
    rfl
  refine ⟨hannotate, fun m m' => ?_, fun hkeep => ?_⟩
  · rw [(StyleCompiler.push_spec _ m').1, (a.compiler.push_spec m).2]
  · rw [hannotate, hkeep, List.append_cancel_left_eq, StyledMarkup.marks]
    refine (annotated_eq_marked_iff _ _ _).trans ?_
    simp only [rulesOf_eq_nil_iff]

def sideBySide : StyledMarkup where
  first := ⟨"<a ".toList, by decide⟩
  rest :=
    [(⟨"\x7b\"md\":\"color:red\"\x7d".toList, [("md".toList, .string "color:red".toList)], by rfl,
        by decide⟩, ⟨"></a><b ".toList, by decide⟩),
      (⟨"\x7b\"lt-md\":\"color:blue\"\x7d".toList, [("lt-md".toList, .string "color:blue".toList)],
        by rfl, by decide⟩, ⟨"></b>".toList, by decide⟩)]

def plainAnnotator : MarkupAnnotator Unit :=
  .ofConfig {} [] 42

theorem annotate_sideBySide_ne :
    plainAnnotator.compiler.config.dropAttributes = false ∧
      (plainAnnotator.annotate sideBySide.source false).1 ≠
        sideBySide.first.text ++ marked plainAnnotator.compiler.rulesOf sideBySide.rest := by
  have hkeep : plainAnnotator.compiler.config.dropAttributes = false := rfl
  refine ⟨hkeep, ?_⟩
  rw [ne_eq, (annotate_markup plainAnnotator sideBySide).2.2 hkeep]
  decide

end ResponsiveStyles.MarkupAnnotator
