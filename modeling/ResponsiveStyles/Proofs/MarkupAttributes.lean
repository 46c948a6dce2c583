import ResponsiveStyles.Markup.Attribute
import ResponsiveStyles.Proofs.JsonReading

/-!
# The attributes that annotation finds

A style attribute is found as far as the last closing brace that a quote follows on its line. It is
therefore found by itself only where no such brace stands behind it on its line, and where its own
value begins and ends with a brace on one line; and it is not found at all inside what an attribute
before it took.
-/
namespace ResponsiveStyles.Markup

theorem eq_of_attribute? {t json rest : Text} (h : attribute? t = some (json, rest)) :
    t = (Piece.attribute json).source ++ rest := by
  simp only [attribute?] at h
  split at h
  · rename_i r hp
    split at h
    · rename_i before after hc
      simp only [Option.some.injEq, Prod.mk.injEq] at h
      have hr := List.takeWhile_append_dropWhile (p := (· != '\n')) (l := r)
      rw [eq_of_cutAtClose? hc] at hr
      rw [← List.isPrefixOf?_eq_some_iff_append_eq.1 hp, ← h.1, ← h.2, Piece.source]
      conv => lhs; rw [← hr]
      simp
    · simp at h
  · simp at h

theorem flatMap_source_pieces (t : Text) : (pieces t).flatMap Piece.source = t := by
  fun_induction pieces t with
  | case1 => rfl
  | case2 c r json rest h _ ih => rw [List.flatMap_cons, ih, ← eq_of_attribute? h]
  | case3 c r h ih =>
    have hcons (ps : List Piece) :
        (consChar c ps).flatMap Piece.source = c :: ps.flatMap Piece.source := by
      unfold consChar
      split <;> simp [Piece.source]
    rw [hcons, ih]

def attributeName : Text := "data-rsa-style=".toList

def close : Text := ['\x7d', '\'']

def line (t : Text) : Text := t.takeWhile (· != '\n')

/-- A style attribute whose value spells a style map and holds no quote. -/
structure StyleAttribute where
  json : Text
  styles : StyleMap
  spells : StyleMap.read? json = some styles
  unquoted : '\'' ∉ json

def StyleAttribute.source (a : StyleAttribute) : Text :=
  (Piece.attribute a.json).source

structure Chunk where
  text : Text
  plain : ¬ attributeName <:+: text

def sourceOf (rest : List (StyleAttribute × Chunk)) : Text :=
  rest.flatMap fun p => p.1.source ++ p.2.text

structure StyledMarkup where
  first : Chunk
  rest : List (StyleAttribute × Chunk)

def StyledMarkup.source (d : StyledMarkup) : Text :=
  d.first.text ++ sourceOf d.rest

/-- Whether an attribute in front of a text is found by itself. The line is taken where it holds an
earlier attribute whose value begins with a brace. -/
def StyleAttribute.Alone (a : StyleAttribute) (taken : Bool) (after : Text) : Prop :=
  taken = false ∧ a.json.head? = some '\x7b' ∧ a.json.getLast? = some '\x7d' ∧ '\n' ∉ a.json ∧
    ¬ close <:+: line after

instance (a : StyleAttribute) (taken : Bool) (after : Text) : Decidable (a.Alone taken after) :=
  inferInstanceAs (Decidable (_ ∧ _ ∧ _ ∧ _ ∧ _))

def takenBehind (taken : Bool) (a : StyleAttribute) (t : Chunk) : Bool :=
  decide ('\n' ∉ a.json ++ t.text) && (taken || a.json.head? = some '\x7b')

/-- The attributes with whether each is found by itself, and the chunks behind them. -/
def marksFrom (taken : Bool) :
    List (StyleAttribute × Chunk) → List (StyleAttribute × Bool × Chunk)
  | [] => []
  | (a, t) :: r =>
    (a, decide (a.Alone taken (t.text ++ sourceOf r)), t) :: marksFrom (takenBehind taken a t) r

def StyledMarkup.marks (d : StyledMarkup) : List (StyleAttribute × Bool × Chunk) :=
  marksFrom false d.rest

section Close
variable {l b a : Text}

theorem close_prefix_iff : close <+: l ↔ ∃ r, l = '\x7d' :: '\'' :: r := by
  simp only [List.IsPrefix, close, List.cons_append, List.nil_append, eq_comm]

theorem cutAtClose?_eq_none_iff : cutAtClose? l = none ↔ ¬ close <:+: l := by
  induction l with
  | nil => simp [cutAtClose?, close]
  | cons c r ih =>
    rw [List.infix_cons_iff, close_prefix_iff, cutAtClose?.eq_def]
    dsimp only
    cases h : cutAtClose? r with
    | some p =>
      have hr : close <:+: r := by
        by_contra hr
        simp [ih.2 hr] at h
      simp [hr]
    | none =>
      have hr : ¬ close <:+: r := ih.1 h
      simp only [hr, or_false]
      split
      · simp
      · rename_i hne
        simp only [true_iff]
        intro he
        obtain ⟨r', he⟩ := he
        obtain ⟨rfl, rfl⟩ := List.cons.inj he
        exact hne r' rfl rfl

theorem not_close_of_cutAtClose? (h : cutAtClose? l = some (b, a)) : ¬ close <:+: a := by
  induction l generalizing b with
  | nil => simp [cutAtClose?] at h
  | cons c r ih =>
    rw [cutAtClose?.eq_def] at h
    dsimp only at h
    cases hr : cutAtClose? r with
    | some p =>
      obtain ⟨b', a'⟩ := p
      simp only [hr, Option.some.injEq, Prod.mk.injEq] at h
      obtain ⟨-, rfl⟩ := h
      exact ih hr
    | none =>
      simp only [hr] at h
      split at h
      · obtain ⟨-, rfl⟩ := Prod.mk.inj (Option.some.inj h)
        exact fun ha => cutAtClose?_eq_none_iff.1 hr (List.infix_cons ha)
      · simp at h

theorem cutAtClose?_append (ha : ¬ close <:+: a) :
    cutAtClose? (b ++ '\x7d' :: '\'' :: a) = some (b, a) := by
  rw [← cutAtClose?_eq_none_iff] at ha
  induction b with
  | nil => simp [cutAtClose?, ha]
  | cons c b ih => simp only [List.cons_append, cutAtClose?, ih]

end Close

section Lines
variable {u v : Text}

theorem line_append_of_mem (h : '\n' ∈ u) : line (u ++ v) = line u := by
  rw [line, List.takeWhile_append, if_neg]
  · rfl
  · intro hlen
    have hall := List.takeWhile_eq_self_iff.1 ((List.takeWhile_prefix _).eq_of_length hlen) _ h
    simp at hall

theorem line_append_of_notMem (h : '\n' ∉ u) : line (u ++ v) = u ++ line v := by
  rw [line, List.takeWhile_append_of_pos]
  · rfl
  · intro c hc
    simp only [bne_iff_ne]
    intro he
    subst he
    exact h hc

theorem takeWhile_unquoted (h : '\'' ∉ u) : (u ++ '\'' :: v).takeWhile (· != '\'') = u := by
  rw [List.takeWhile_append_of_pos]
  · simp
  · intro c hc
    simp only [bne_iff_ne]
    intro he
    subst he
    exact h hc

end Lines

section Starts
variable {t u v : Text}

theorem attribute?_eq_none (h : ¬ attributeStart <+: t) : attribute? t = none := by
  rw [attribute?]
  cases hp : attributeStart.isPrefixOf? t with
  | none => rfl
  | some r => exact absurd ⟨r, List.isPrefixOf?_eq_some_iff_append_eq.1 hp⟩ h

theorem attributeStart_eq : attributeStart = attributeName ++ ['\''] := by decide

theorem not_start_of_chunk (t : Chunk) (rest : List (StyleAttribute × Chunk)) {w : Text}
    (hw : w ≠ []) (hs : w <:+ t.text) : ¬ attributeStart <+: w ++ sourceOf rest := by
  intro he
  obtain ⟨y, hy⟩ := he
  have hno (bs : Text) : w ≠ attributeStart ++ bs := by
    intro he
    subst he
    refine t.plain (List.IsInfix.trans ?_ hs.isInfix)
    rw [attributeStart_eq, List.append_assoc]
    exact (List.prefix_append _ _).isInfix
  rcases List.append_eq_append_iff.1 hy with ⟨bs, rfl, -⟩ | ⟨bs, hbs, hsrc⟩
  · exact hno bs rfl
  by_cases h0 : bs = []
  · subst h0
    exact hno [] (by simpa using hbs.symm)
  -- the end of the name would be a beginning of the next one, but its quote stands only at its end
  have hquote : '\'' ∈ bs := by
    have hlast := congrArg List.getLast? hbs
    rw [List.getLast?_append_of_ne_nil _ h0] at hlast
    exact List.mem_of_getLast? hlast.symm
  have hlen : bs.length ≤ attributeName.length := by
    have hl := congrArg List.length hbs
    have hw' := List.length_pos_of_ne_nil hw
    rw [attributeStart_eq, List.length_append, List.length_append, List.length_singleton] at hl
    omega
  have hname : bs <+: attributeName := by
    cases rest with
    | nil => exact absurd (List.append_eq_nil_iff.1 hsrc.symm).1 h0
    | cons p r =>
      refine List.prefix_of_prefix_length_le ⟨y, hsrc.symm⟩ ?_ hlen
      simp only [sourceOf, List.flatMap_cons, StyleAttribute.source, Piece.source,
        attributeStart_eq, List.append_assoc]
      exact List.prefix_append _ _
  exact absurd (hname.subset hquote) (by decide)

theorem StyleAttribute.last_eq (a : StyleAttribute) {c : Char} (h : a.json.getLast? = some c) :
    c = '\x7d' ∨ Json.isBlank c := by
  obtain ⟨lead, body, tail, hj, -, htail, -⟩ := StyleMap.exists_braces a.spells
  rw [hj, ← List.cons_append, ← List.append_assoc, List.getLast?_append_of_ne_nil _ (by simp)] at h
  cases tail with
  | nil => exact .inl (by simpa using h.symm)
  | cons d tail =>
    rw [List.getLast?_cons_cons] at h
    exact .inr (htail c (List.mem_of_getLast? h))

theorem not_start_of_source (a : StyleAttribute) (after : Text) {w : Text} (hw : w ≠ [])
    (hs : w <:+ a.source) (hne : w ≠ a.source) : ¬ attributeStart <+: w ++ after := by
  obtain ⟨u, hu⟩ := hs
  have hu0 : u ≠ [] := by
    intro he
    subst he
    exact hne (by simpa using hu)
  intro hstart
  have hvalue (s : Text) (hs : s ++ w = a.json ++ ['\'']) : False := by
    rw [← List.dropLast_append_getLast hw, ← List.append_assoc] at hs
    obtain ⟨hj, hq⟩ := List.append_inj' hs rfl
    have hunquoted : '\'' ∉ w.dropLast := fun hm => a.unquoted (hj ▸ List.mem_append_right s hm)
    obtain ⟨y, hy⟩ := hstart
    rw [← List.dropLast_append_getLast hw, hq, attributeStart_eq, List.append_assoc,
      List.append_assoc, List.singleton_append, List.singleton_append] at hy
    have hname := congrArg (List.takeWhile (· != '\'')) hy
    rw [takeWhile_unquoted (by decide), takeWhile_unquoted hunquoted] at hname
    rw [← hname] at hj
    have hlast : a.json.getLast? = some '=' := by
      rw [← hj, List.getLast?_append_of_ne_nil _ (by decide)]
      decide
    rcases a.last_eq hlast with h | h
    · exact absurd h (by decide)
    · exact absurd h (by decide)
  simp only [StyleAttribute.source, Piece.source, List.append_assoc] at hu
  rcases List.append_eq_append_iff.1 hu with ⟨s, hs, hw'⟩ | ⟨s, hs, hw'⟩
  · cases s with
    | nil => exact hvalue [] (by simpa using hw')
    | cons c s =>
      -- the name holds its first character only once
      obtain ⟨y, hy⟩ := hstart
      have hhead : attributeStart = 'd' :: attributeStart.tail := by decide
      rw [hw', hhead] at hy
      obtain rfl : 'd' = c := (List.cons.inj hy).1
      cases u with
      | nil => exact hu0 rfl
      | cons e u =>
        have hd : 'd' ∈ attributeStart.tail := by
          rw [hs]
          simp
        exact absurd hd (by decide)
  · exact hvalue s hw'.symm

end Starts

section Found
variable {t : Text}

theorem line_append_dropWhile (t : Text) : line t ++ t.dropWhile (· != '\n') = t :=
  List.takeWhile_append_dropWhile

theorem dropWhile_append_of_notMem {u v : Text} (h : '\n' ∉ u) :
    (u ++ v).dropWhile (· != '\n') = v.dropWhile (· != '\n') := by
  have huv := line_append_dropWhile (u ++ v)
  rw [line_append_of_notMem h, List.append_assoc, List.append_cancel_left_eq] at huv
  exact List.append_cancel_left (huv.trans (line_append_dropWhile v).symm)

theorem notMem_line (t : Text) : '\n' ∉ line t := by
  intro h
  simpa using List.mem_takeWhile_imp h

theorem line_dropWhile (t : Text) : line (t.dropWhile (· != '\n')) = [] := by
  cases h : t.dropWhile (· != '\n') with
  | nil => rfl
  | cons c r =>
    have hc := List.head?_dropWhile_not (p := (· != '\n')) t
    rw [h] at hc
    obtain rfl : c = '\n' := by simpa using hc
    rfl

theorem eq_or_eq_of_close {u s x rest : Text} (hu : '\'' ∉ u)
    (h : u ++ '\'' :: s = x ++ '\x7d' :: '\'' :: rest) :
    (∃ x', x = u ++ '\'' :: x' ∧ s = x' ++ '\x7d' :: '\'' :: rest) ∨
      u = x ++ ['\x7d'] ∧ s = rest := by
  rcases List.append_eq_append_iff.1 h with ⟨bs, hx, hs⟩ | ⟨bs, hx, hs⟩
  · cases bs with
    | nil => simp at hs
    | cons c bs =>
      obtain ⟨rfl, rfl⟩ := List.cons.inj hs
      exact .inl ⟨bs, hx, rfl⟩
  · rcases bs with _ | ⟨c, _ | ⟨d, bs⟩⟩
    · simp at hs
    · obtain ⟨rfl, hs'⟩ := List.cons.inj hs
      exact .inr ⟨hx, (List.cons.inj hs').2.symm⟩
    · obtain rfl : '\'' = d := (List.cons.inj (List.cons.inj hs).2).1
      exact absurd (by simp [hx]) hu

theorem close_infix_iff {s l : Text} (hs : '\'' ∉ s) :
    close <:+: s ++ '\'' :: l ↔ s.getLast? = some '\x7d' ∨ close <:+: l := by
  constructor
  · intro he
    obtain ⟨u, v, huv⟩ := he
    simp only [close, List.append_assoc, List.cons_append, List.nil_append] at huv
    rcases eq_or_eq_of_close hs huv.symm with ⟨u', -, rfl⟩ | ⟨rfl, -⟩
    · exact .inr ⟨u', v, by simp [close]⟩
    · exact .inl List.getLast?_concat
  · intro he
    rcases he with h | h
    · obtain ⟨s', rfl⟩ := List.getLast?_eq_some_iff.1 h
      exact ⟨s', l, by simp [close]⟩
    · exact h.trans ((List.suffix_cons _ l).trans (List.suffix_append _ _)).isInfix

theorem attribute?_of_brace (s : Text) :
    attribute? (attributeStart ++ '\x7b' :: s) = (cutAtClose? (line s)).map fun p =>
      ('\x7b' :: (p.1 ++ ['\x7d']), p.2 ++ s.dropWhile (· != '\n')) := by
  have hs : attributeStart.isPrefixOf? (attributeStart ++ '\x7b' :: s) = some ('\x7b' :: s) :=
    List.isPrefixOf?_eq_some_iff_append_eq.2 rfl
  simp only [attribute?, hs, line]
  cases cutAtClose? (s.takeWhile (· != '\n')) <;> rfl

theorem attribute?_of_head_ne {s : Text} (hs : s.head? ≠ some '\x7b') :
    attribute? (attributeStart ++ s) = none := by
  rw [attribute?, List.isPrefixOf?_eq_some_iff_append_eq.2 rfl]
  split
  · rename_i r he
    rw [Option.some.inj he] at hs
    exact absurd rfl hs
  · rfl

theorem StyleAttribute.source_append (a : StyleAttribute) (after : Text) :
    a.source ++ after = attributeStart ++ (a.json ++ '\'' :: after) := by
  simp [StyleAttribute.source, Piece.source]

/-- An attribute is not found, or is found alone, or takes the line as far as a later closing brace. -/
theorem attribute?_source (a : StyleAttribute) (after : Text) :
    (attribute? (a.source ++ after) = none ∧
        (a.json.head? = some '\x7b' → '\n' ∉ a.json →
          ¬ close <:+: line after ∧ a.json.getLast? ≠ some '\x7d')) ∨
      (attribute? (a.source ++ after) = some (a.json, after) ∧ a.json.head? = some '\x7b' ∧
        a.json.getLast? = some '\x7d' ∧ '\n' ∉ a.json ∧ ¬ close <:+: line after) ∨
      ∃ x rest, after = x ++ '\x7d' :: '\'' :: rest ∧ a.json.head? = some '\x7b' ∧
        '\n' ∉ a.json ∧ '\n' ∉ x ∧ ¬ close <:+: line rest ∧
        attribute? (a.source ++ after) = some (a.json ++ '\'' :: (x ++ ['\x7d']), rest) := by
  rw [a.source_append]
  have hquote := a.unquoted
  generalize a.json = json at hquote ⊢
  by_cases hhead : json.head? = some '\x7b'
  swap
  · refine .inl ⟨attribute?_of_head_ne ?_, fun h => absurd h hhead⟩
    cases json with
    | nil => simp
    | cons c s => exact hhead
  obtain ⟨s, rfl⟩ : ∃ s, json = '\x7b' :: s := by
    cases json with
    | nil => simp at hhead
    | cons c s => exact ⟨s, by rw [Option.some.inj hhead]⟩
  have hs : '\'' ∉ s := fun h => hquote (List.mem_cons_of_mem _ h)
  rw [List.cons_append, attribute?_of_brace]
  by_cases hline : '\n' ∈ s
  · -- the value goes on in the next line, so that its quote is out of reach
    have hnone : cutAtClose? (line (s ++ '\'' :: after)) = none := by
      rw [line_append_of_mem hline, cutAtClose?_eq_none_iff]
      intro h
      have hq : '\'' ∈ line s := h.subset (by simp [close])
      exact hs ((List.takeWhile_prefix _).subset hq)
    exact .inl ⟨by rw [hnone]; rfl, fun _ h => absurd (List.mem_cons_of_mem _ hline) h⟩
  have hnl : '\n' ∉ '\x7b' :: s := by
    rw [List.mem_cons]
    intro he
    rcases he with h | h
    · exact absurd h (by decide)
    · exact hline h
  have hrest : line (s ++ '\'' :: after) = s ++ '\'' :: line after := by
    rw [line_append_of_notMem hline]
    rfl
  have hdrop : (s ++ '\'' :: after).dropWhile (· != '\n') = after.dropWhile (· != '\n') := by
    rw [dropWhile_append_of_notMem hline]
    rfl
  have hafter := line_append_dropWhile after
  have hbehind := line_dropWhile after
  rw [hrest, hdrop]
  generalize after.dropWhile (· != '\n') = behind at hafter hbehind ⊢
  by_cases hclose : close <:+: line after
  · obtain ⟨⟨x, r⟩, hcut⟩ :=
      Option.ne_none_iff_exists'.1 (mt cutAtClose?_eq_none_iff.1 (not_not.2 hclose))
    have hx := eq_of_cutAtClose? hcut
    have hnlx : '\n' ∉ x := fun h => notMem_line after (by simp [hx, h])
    have hnlr : '\n' ∉ r := fun h => notMem_line after (by simp [hx, h])
    refine .inr (.inr ⟨x, r ++ behind, ?_, hhead, hnl, hnlx, ?_, ?_⟩)
    · rw [← hafter, hx]
      simp
    · rw [line_append_of_notMem hnlr, hbehind, List.append_nil]
      exact not_close_of_cutAtClose? hcut
    · have hfound := cutAtClose?_append (b := s ++ '\'' :: x) (not_close_of_cutAtClose? hcut)
      rw [List.append_assoc, List.cons_append] at hfound
      rw [hx, hfound, Option.map_some]
      simp
  · by_cases hlast : s.getLast? = some '\x7d'
    · obtain ⟨b, rfl⟩ := List.getLast?_eq_some_iff.1 hlast
      refine .inr (.inl ⟨?_, rfl, ?_, hnl, hclose⟩)
      · rw [List.append_assoc, List.singleton_append, cutAtClose?_append hclose, Option.map_some,
          hafter]
      · rw [← List.cons_append, List.getLast?_concat]
    · refine .inl ⟨?_, fun _ _ => ⟨hclose, ?_⟩⟩
      · have hnone : cutAtClose? (s ++ '\'' :: line after) = none := by
          rw [cutAtClose?_eq_none_iff, close_infix_iff hs]
          exact not_or.2 ⟨hlast, hclose⟩
        rw [hnone]
        rfl
      · cases s with
        | nil => decide
        | cons c s => exact hlast

end Found

section Behind
variable {x rest : Text}

theorem close_behind_source (a : StyleAttribute) {s : Text}
    (h : a.source ++ s = x ++ '\x7d' :: '\'' :: rest) :
    (∃ x', x = a.source ++ x' ∧ s = x' ++ '\x7d' :: '\'' :: rest) ∨
      x ++ ['\x7d'] = attributeStart ++ a.json ∧ s = rest := by
  rw [a.source_append, attributeStart_eq, List.append_assoc, List.singleton_append] at h
  rcases eq_or_eq_of_close (by decide) h with ⟨y, rfl, hy⟩ | ⟨hname, -⟩
  · rcases eq_or_eq_of_close a.unquoted hy with ⟨x', rfl, hs⟩ | ⟨hj, hs⟩
    · refine .inl ⟨x', ?_, hs⟩
      simp [a.source_append, attributeStart_eq]
    · refine .inr ⟨?_, hs⟩
      simp [hj, attributeStart_eq]
  · have hlast := congrArg List.getLast? hname
    rw [List.getLast?_concat] at hlast
    exact absurd hlast (by decide)

theorem close_behind_chunk (t : Chunk) (r : List (StyleAttribute × Chunk))
    (h : t.text ++ sourceOf r = x ++ '\x7d' :: '\'' :: rest) :
    (∃ t' : Chunk, t.text = x ++ '\x7d' :: '\'' :: t'.text ∧ rest = t'.text ++ sourceOf r) ∨
      ∃ x', x = t.text ++ x' ∧ sourceOf r = x' ++ '\x7d' :: '\'' :: rest := by
  rcases List.append_eq_append_iff.1 h with ⟨bs, hx, hs⟩ | ⟨bs, ht, hs⟩
  · exact .inr ⟨bs, hx, hs⟩
  rcases bs with _ | ⟨c, _ | ⟨d, bs⟩⟩
  · exact .inr ⟨[], by simpa using ht.symm, by simpa using hs.symm⟩
  · -- attributes do not begin with a quote
    have hquote : sourceOf r = '\'' :: rest := (List.cons.inj hs).2.symm
    cases r with
    | nil => simp [sourceOf] at hquote
    | cons p r =>
      have hhead : attributeStart = 'd' :: attributeStart.tail := by decide
      rw [sourceOf, List.flatMap_cons, List.append_assoc, p.1.source_append, hhead] at hquote
      exact absurd (List.cons.inj hquote).1 (by decide)
  · obtain ⟨rfl, hs₁⟩ := List.cons.inj hs
    obtain ⟨rfl, hs₂⟩ := List.cons.inj hs₁
    have hsuffix : bs <:+ t.text := ⟨x ++ close, by simp [ht, close]⟩
    exact .inl ⟨⟨bs, fun h => t.plain (h.trans hsuffix.isInfix)⟩, ht, hs₂⟩

end Behind

theorem sourceOf_cons (a : StyleAttribute) (t : Chunk) (r : List (StyleAttribute × Chunk)) :
    sourceOf ((a, t) :: r) = a.source ++ (t.text ++ sourceOf r) := by
  simp [sourceOf]

theorem notMem_source {a : StyleAttribute} (h : '\n' ∉ a.json) : '\n' ∉ a.source := by
  simp only [StyleAttribute.source, Piece.source, List.mem_append, not_or]
  exact ⟨⟨by decide, h⟩, by decide⟩

theorem close_infix_source {a : StyleAttribute} (h : a.json.getLast? = some '\x7d') :
    close <:+: a.source := by
  obtain ⟨s, hs⟩ := List.getLast?_eq_some_iff.1 h
  exact ⟨attributeStart ++ s, [], by simp [StyleAttribute.source, Piece.source, hs, close]⟩

theorem takenBehind_of_notMem {taken : Bool} {a : StyleAttribute} (t : Chunk)
    (hline : '\n' ∉ a.json) (htaken : taken ∨ a.json.head? = some '\x7b') :
    takenBehind taken a t = decide ('\n' ∉ t.text) := by
  have ht : (taken || decide (a.json.head? = some '\x7b')) = true := by simpa using htaken
  simp only [takenBehind, ht, Bool.and_true, List.mem_append, hline, false_or]

theorem not_close_of_suffix {s l : Text} (hs : s <:+ l) (h : ¬ close <:+: l) : ¬ close <:+: s :=
  mt (fun hc => hc.trans hs.isInfix) h

theorem not_close_behind {taken : Bool} {a : StyleAttribute} {t : Chunk}
    {r : List (StyleAttribute × Chunk)}
    (htaken : taken → ¬ close <:+: line (a.source ++ (t.text ++ sourceOf r)))
    (hhead : a.json.head? = some '\x7b' → '\n' ∉ a.json → ¬ close <:+: line (t.text ++ sourceOf r))
    (h : takenBehind taken a t) : ¬ close <:+: line (sourceOf r) := by
  simp only [takenBehind, Bool.and_eq_true, decide_eq_true_eq, Bool.or_eq_true, List.mem_append,
    not_or] at h
  obtain ⟨⟨hna, hnt⟩, h⟩ := h
  have hline : ¬ close <:+: line (t.text ++ sourceOf r) := by
    rcases h with h | h
    · have hsource := htaken h
      rw [line_append_of_notMem (notMem_source hna)] at hsource
      exact not_close_of_suffix (List.suffix_append _ _) hsource
    · exact hhead h hna
  rw [line_append_of_notMem hnt] at hline
  exact not_close_of_suffix (List.suffix_append _ _) hline

theorem marksFrom_taken {a : StyleAttribute} (t : Chunk) (r : List (StyleAttribute × Chunk))
    (hline : '\n' ∉ a.json) :
    marksFrom true ((a, t) :: r) = (a, false, t) :: marksFrom (decide ('\n' ∉ t.text)) r := by
  rw [marksFrom, takenBehind_of_notMem t hline (.inl rfl)]
  simp [StyleAttribute.Alone]

end ResponsiveStyles.Markup
