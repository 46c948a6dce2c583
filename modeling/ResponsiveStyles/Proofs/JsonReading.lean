import ResponsiveStyles.Style.Map
import Mathlib.Data.List.Basic
import Mathlib.Data.List.Infix
import Mathlib.Data.List.TakeWhile

/-!
# How far the JSON readers look

A reader leaves an end of its text. Where it leaves something it has not looked further, so that text
after that end would be left as well; and a list looks no further than to its closing bracket. The
text of an object therefore begins and ends with a brace, up to blanks, and followed by anything but
blanks it is not the text of a value.
-/
namespace ResponsiveStyles.Json

section Blanks
variable {t w : Text}

theorem skipBlanks_suffix (t : Text) : skipBlanks t <:+ t :=
  List.dropWhile_suffix _

theorem skipBlanks_append (h : skipBlanks t ≠ []) :
    skipBlanks (t ++ w) = skipBlanks t ++ w := by
  rw [skipBlanks, List.dropWhile_append, if_neg]
  · rfl
  · simpa [skipBlanks] using h

theorem skipBlanks_eq_nil_iff : skipBlanks t = [] ↔ ∀ c ∈ t, isBlank c := by
  rw [skipBlanks, List.dropWhile_eq_nil_iff]

end Blanks

theorem readUnit?_append {t r : Text} {u : Nat} (w : Text) (h : readUnit? t = some (u, r)) :
    readUnit? (t ++ w) = some (u, r ++ w) ∧ r <:+ t := by
  rcases t with _ | ⟨a, _ | ⟨b, _ | ⟨c, _ | ⟨d, t⟩⟩⟩⟩
  case cons.cons.cons.cons =>
    simp only [readUnit?, Option.map_eq_some_iff, Prod.mk.injEq] at h
    obtain ⟨v, hv, rfl, rfl⟩ := h
    simp only [List.cons_append, readUnit?, hv, Option.map_some, true_and]
    exact List.suffix_append [a, b, c, d] t
  all_goals simp [readUnit?] at h

theorem readUnitEscape?_append {t r : Text} {c : Char} (w : Text)
    (h : readUnitEscape? t = some (c, r)) :
    readUnitEscape? (t ++ w) = some (c, r ++ w) ∧ r <:+ t := by
  rw [readUnitEscape?] at h ⊢
  cases hu : readUnit? t with
  | none => simp [hu] at h
  | some p =>
    obtain ⟨u, s⟩ := p
    obtain ⟨hw, hs⟩ := readUnit?_append w hu
    simp only [hu, hw] at h ⊢
    split_ifs at h ⊢ with hlow hhigh
    · split at h
      · rename_i s'
        cases hv : readUnit? s' with
        | none => simp [hv] at h
        | some q =>
          obtain ⟨v, s''⟩ := q
          obtain ⟨hw', hs'⟩ := readUnit?_append w hv
          simp only [hv] at h
          simp only [List.cons_append, hw']
          split_ifs at h ⊢ with hpair
          simp only [Option.some.injEq, Prod.mk.injEq] at h
          obtain ⟨rfl, rfl⟩ := h
          refine ⟨rfl, hs'.trans (List.IsSuffix.trans ?_ hs)⟩
          exact List.suffix_append ['\\', 'u'] s'
      · simp at h
    · simp only [Option.some.injEq, Prod.mk.injEq] at h
      obtain ⟨rfl, rfl⟩ := h
      exact ⟨rfl, hs⟩

theorem readChar?_append {t r : Text} {c : Char} (w : Text) (h : readChar? t = some (c, r)) :
    readChar? (t ++ w) = some (c, r ++ w) ∧ r <:+ t := by
  revert h
  fun_cases readChar? t <;> intro h
  case case1 => simp at h
  case case2 s =>
    obtain ⟨hw, hs⟩ := readUnitEscape?_append w h
    exact ⟨hw, hs.trans (List.suffix_append ['\\', 'u'] s)⟩
  case case11 => simp at h
  case case12 => simp at h
  case case13 d s _ _ hd =>
    have hne : d ≠ '\\' := by
      intro he
      subst he
      simp at hd
    obtain ⟨rfl, rfl⟩ : d = c ∧ s = r := by simpa using h
    refine ⟨?_, List.suffix_cons d s⟩
    rw [List.cons_append, readChar?, if_neg hd]
    · intro r' he
      exact absurd he hne
    · intro c' r' he
      exact absurd he hne
  all_goals
    simp only [Option.some.injEq, Prod.mk.injEq] at h
    obtain ⟨rfl, rfl⟩ := h
    exact ⟨rfl, List.suffix_append [_, _] _⟩

theorem readString?_append {n m : Nat} {t s r : Text} (w : Text) (hn : n ≤ m)
    (h : readString? n t = some (s, r)) :
    readString? m (t ++ w) = some (s, r ++ w) ∧ r <:+ t := by
  fun_induction readString? n t generalizing m s r with
  | case1 n t =>
    obtain ⟨rfl, rfl⟩ : [] = s ∧ t = r := by simpa using h
    refine ⟨?_, List.suffix_cons _ _⟩
    rw [List.cons_append, readString?]
  | case2 => simp at h
  | case3 n t hq hc => simp at h
  | case4 n t hq c t' hc ih =>
    rw [Option.map_eq_some_iff] at h
    obtain ⟨⟨s', r'⟩, hs, he⟩ := h
    obtain ⟨rfl, rfl⟩ := Prod.mk.inj he
    obtain ⟨k, rfl⟩ := Nat.exists_eq_add_of_le' hn
    obtain ⟨hw, hsuf⟩ := ih (m := k + n) (by omega) hs
    obtain ⟨hcw, hcs⟩ := readChar?_append w hc
    refine ⟨?_, hsuf.trans hcs⟩
    rw [Nat.add_succ, readString?]
    · simp only [hcw, hw, Option.map_some]
    · intro r'' he'
      cases t with
      | nil => simp [readChar?] at hc
      | cons d t =>
        obtain rfl : d = '"' := by simpa using congrArg List.head? he'
        exact hq _ rfl

/-- A reader that leaves an end of its text, and that leaves more where more stands after that end. -/
structure Local {α : Type} (f : Text → Option (α × Text)) : Prop where
  suffix : ∀ {t : Text} {a : α} {r : Text}, f t = some (a, r) → r <:+ t
  append : ∀ {t : Text} {a : α} {r : Text} (w : Text), f t = some (a, r) → r ≠ [] →
    f (t ++ w) = some (a, r ++ w)

namespace Local

variable {α β : Type} {f : Text → Option (α × Text)}

theorem map (hf : Local f) (g : α → β) : Local fun t => (f t).map fun p => (g p.1, p.2) where
  suffix := by
    intro t b r h
    obtain ⟨⟨a, r'⟩, ha, he⟩ := Option.map_eq_some_iff.1 h
    obtain ⟨-, rfl⟩ := Prod.mk.inj he
    exact hf.suffix ha
  append := by
    intro t b r w h hr
    obtain ⟨⟨a, r'⟩, ha, he⟩ := Option.map_eq_some_iff.1 h
    obtain ⟨rfl, rfl⟩ := Prod.mk.inj he
    simp only [hf.append w ha hr, Option.map_some]

theorem bind {g : α → Text → Option (β × Text)} (hf : Local f) (hg : ∀ a, Local (g a)) :
    Local fun t => (f t).bind fun p => g p.1 p.2 where
  suffix := by
    intro t b r h
    obtain ⟨⟨a, r'⟩, ha, hb⟩ := Option.bind_eq_some_iff.1 h
    exact ((hg a).suffix hb).trans (hf.suffix ha)
  append := by
    intro t b r w h hr
    obtain ⟨⟨a, r'⟩, ha, hb⟩ := Option.bind_eq_some_iff.1 h
    have hr' : r' ≠ [] := by
      intro he
      subst he
      exact hr (List.suffix_nil.1 ((hg a).suffix hb))
    simp only [hf.append w ha hr', Option.bind_some, (hg a).append w hb hr]

theorem of_append {f : Text → Option (α × Text)}
    (h : ∀ {t : Text} {a : α} {r : Text} (w : Text), f t = some (a, r) →
      f (t ++ w) = some (a, r ++ w) ∧ r <:+ t) : Local f :=
  ⟨fun ha => (h [] ha).2, fun w ha _ => (h w ha).1⟩

theorem constant (o : Option α) : Local fun t => o.map (·, t) where
  suffix := by
    intro t a r h
    obtain ⟨_, -, he⟩ := Option.map_eq_some_iff.1 h
    obtain ⟨-, rfl⟩ := Prod.mk.inj he
    exact List.suffix_rfl
  append := by
    intro t a r w h hr
    obtain ⟨_, rfl, he⟩ := Option.map_eq_some_iff.1 h
    obtain ⟨rfl, rfl⟩ := Prod.mk.inj he
    rfl

theorem of_cons {f : Text → Option (α × Text)} (hnil : ∀ {a : α} {r : Text}, f [] = some (a, r) → r = [])
    (hcons : ∀ c, (∃ g, Local g ∧ ∀ r, f (c :: r) = g r) ∨ ∃ a, ∀ r, f (c :: r) = some (a, c :: r)) :
    Local f where
  suffix := by
    intro t a r h
    cases t with
    | nil => exact hnil h ▸ List.suffix_rfl
    | cons c t =>
      rcases hcons c with ⟨g, hg, hf⟩ | ⟨b, hf⟩
      · rw [hf] at h
        exact (hg.suffix h).trans (List.suffix_cons c t)
      · rw [hf] at h
        obtain ⟨-, rfl⟩ := Prod.mk.inj (Option.some.inj h)
        exact List.suffix_rfl
  append := by
    intro t a r w h hr
    cases t with
    | nil => exact absurd (hnil h) hr
    | cons c t =>
      rcases hcons c with ⟨g, hg, hf⟩ | ⟨b, hf⟩
      · rw [hf] at h
        rw [List.cons_append, hf]
        exact hg.append w h hr
      · rw [hf] at h
        obtain ⟨rfl, rfl⟩ := Prod.mk.inj (Option.some.inj h)
        rw [List.cons_append, hf]

end Local

section Numbers
variable {t w : Text}

theorem digits_append (h : t.dropWhile Char.isDigit ≠ []) :
    (t ++ w).takeWhile Char.isDigit = t.takeWhile Char.isDigit ∧
      (t ++ w).dropWhile Char.isDigit = t.dropWhile Char.isDigit ++ w := by
  have hlen : (t.takeWhile Char.isDigit).length ≠ t.length := by
    intro hlen
    have hlist := congrArg List.length (List.takeWhile_append_dropWhile (p := Char.isDigit) (l := t))
    rw [List.length_append, hlen] at hlist
    exact h (List.eq_nil_of_length_eq_zero (by omega))
  constructor
  · rw [List.takeWhile_append, if_neg hlen]
  · rw [List.dropWhile_append, if_neg (by simpa using h)]

theorem local_digits {α : Type} (f : Text → Option α) :
    Local fun t => (f (t.takeWhile Char.isDigit)).map (·, t.dropWhile Char.isDigit) where
  suffix := by
    intro t a r h
    obtain ⟨_, -, he⟩ := Option.map_eq_some_iff.1 h
    obtain ⟨-, rfl⟩ := Prod.mk.inj he
    exact List.dropWhile_suffix _
  append := by
    intro t a r w h hr
    obtain ⟨_, ha, he⟩ := Option.map_eq_some_iff.1 h
    obtain ⟨rfl, rfl⟩ := Prod.mk.inj he
    obtain ⟨htake, hdrop⟩ := digits_append (w := w) hr
    simp only [htake, hdrop, ha, Option.map_some]

theorem local_readMinus : Local fun t => some (readMinus t) := by
  refine .of_cons (fun h => (Prod.mk.inj (Option.some.inj h)).2.symm) fun c => ?_
  by_cases hc : c = '-'
  · subst hc
    exact .inl ⟨_, .constant (some true), fun _ => rfl⟩
  · refine .inr ⟨false, fun r => ?_⟩
    rw [readMinus]
    intro r' he
    exact hc (List.cons.inj he).1

theorem local_splitSign : Local fun t => some (Decimal.splitSign t) := by
  refine .of_cons (fun h => (Prod.mk.inj (Option.some.inj h)).2.symm) fun c => ?_
  by_cases hm : c = '-'
  · subst hm
    exact .inl ⟨_, .constant (some true), fun _ => rfl⟩
  by_cases hp : c = '+'
  · subst hp
    exact .inl ⟨_, .constant (some false), fun _ => rfl⟩
  · refine .inr ⟨false, fun r => ?_⟩
    rw [Decimal.splitSign]
    · intro r' he
      exact hm (List.cons.inj he).1
    · intro r' he
      exact hp (List.cons.inj he).1

theorem local_readWhole? : Local readWhole? := by
  have h := local_digits fun digits =>
    if digits.isEmpty || (digits.head? = some '0' && 1 < digits.length) then none else some digits
  convert h using 2 with t
  rw [readWhole?]
  split_ifs <;> rfl

theorem local_readFraction? : Local readFraction? := by
  have h := local_digits fun digits => if digits.isEmpty then none else some (some digits)
  refine .of_cons (fun h => (Prod.mk.inj (Option.some.inj h)).2.symm) fun c => ?_
  by_cases hc : c = '.'
  · subst hc
    refine .inl ⟨_, h, fun r => ?_⟩
    rw [readFraction?]
    split_ifs <;> rfl
  · refine .inr ⟨none, fun r => ?_⟩
    rw [readFraction?]
    intro r' he
    exact hc (List.cons.inj he).1

theorem local_readInteger? : Local readInteger? := by
  have h (negative : Bool) := local_digits fun digits =>
    if digits.isEmpty then none
    else some (if negative then -(Decimal.digitsValue digits : Int) else Decimal.digitsValue digits)
  convert local_splitSign.bind h using 2 with t
  simp only [readInteger?, Option.bind_some]
  split_ifs <;> rfl

theorem local_readExponent? : Local readExponent? := by
  refine .of_cons (fun h => (Prod.mk.inj (Option.some.inj h)).2.symm) fun c => ?_
  by_cases hc : c = 'e' || c = 'E'
  · refine .inl ⟨_, local_readInteger?.map some, fun r => ?_⟩
    rw [readExponent?, if_pos hc]
  · refine .inr ⟨none, fun r => ?_⟩
    rw [readExponent?, if_neg hc]

theorem local_readNumber? : Local readNumber? :=
  local_readMinus.bind fun negative => local_readWhole?.bind fun whole =>
    local_readFraction?.bind fun fraction => local_readExponent?.bind fun exponent =>
      .constant (toNumber? negative whole fraction exponent)

theorem head_of_readNumber? {p : Number × Text} (h : readNumber? t = some p) :
    ∃ c r, t = c :: r ∧ (c = '-' ∨ c.isDigit) := by
  cases t with
  | nil => simp [readNumber?, readMinus, readWhole?] at h
  | cons c r =>
    refine ⟨c, r, rfl, ?_⟩
    by_contra hc
    rw [not_or] at hc
    have hminus : readMinus (c :: r) = (false, c :: r) := by
      rw [readMinus]
      intro r' he
      exact hc.1 (List.cons.inj he).1
    rw [readNumber?, hminus] at h
    simp [readWhole?, hc.2] at h

end Numbers

theorem local_readText? : Local fun t => readString? t.length t :=
  .of_append fun w h => readString?_append w (by simp) h

theorem local_readScalar? : Local readScalar? where
  suffix := by
    intro t v r h
    revert h
    fun_cases readScalar? t <;> intro h
    case case1 t => exact ((local_readText?.map Value.string).suffix h).trans (List.suffix_cons _ _)
    case case2 t =>
      obtain ⟨-, rfl⟩ := Prod.mk.inj (Option.some.inj h)
      exact List.suffix_append "null".toList t
    case case3 t =>
      obtain ⟨-, rfl⟩ := Prod.mk.inj (Option.some.inj h)
      exact List.suffix_append "true".toList t
    case case4 t =>
      obtain ⟨-, rfl⟩ := Prod.mk.inj (Option.some.inj h)
      exact List.suffix_append "false".toList t
    case case5 => exact (local_readNumber?.map Value.number).suffix h
  append := by
    intro t v r w h hr
    revert h
    fun_cases readScalar? t <;> intro h
    case case1 t => exact (local_readText?.map Value.string).append w h hr
    case case5 hq hn ht hf =>
      obtain ⟨p, hp, -⟩ := Option.map_eq_some_iff.1 h
      obtain ⟨c, s, rfl, hc⟩ := head_of_readNumber? hp
      have hne (d : Char) (hd : ¬ (d = '-' ∨ d.isDigit)) (u : Text) : c :: s ++ w ≠ d :: u := by
        intro he
        exact hd ((List.cons.inj he).1 ▸ hc)
      rw [readScalar?]
      · exact (local_readNumber?.map Value.number).append w h hr
      · exact fun u => hne '"' (by decide) u
      · exact fun u => hne 'n' (by decide) _
      · exact fun u => hne 't' (by decide) _
      · exact fun u => hne 'f' (by decide) _
    all_goals
      obtain ⟨rfl, rfl⟩ := Prod.mk.inj (Option.some.inj h)
      rfl

section Lists
variable {α : Type} {close : Char} {item : Text → Option (α × Text)}

theorem skipBlanks_ne_nil (hi : Local item) {t r : Text} {a : α}
    (h : item (skipBlanks t) = some (a, r)) (hr : r ≠ []) : skipBlanks t ≠ [] := by
  intro h0
  rw [h0] at h
  exact hr (List.suffix_nil.1 (hi.suffix h))

theorem Local.afterBlanks (hi : Local item) : Local fun t => item (skipBlanks t) where
  suffix := fun h => (hi.suffix h).trans (skipBlanks_suffix _)
  append := by
    intro t a r w h hr
    have h' := hi.append w h hr
    rw [← skipBlanks_append (skipBlanks_ne_nil hi h hr)] at h'
    exact h'

theorem readItems?_append (hi : Local item) {n m : Nat} {t r : Text} {l : List α} (w : Text)
    (hn : n ≤ m) (h : readItems? close item n t = some (l, r)) :
    readItems? close item m (t ++ w) = some (l, r ++ w) ∧ close :: r <:+ t := by
  induction n generalizing m t l r with
  | zero => simp [readItems?] at h
  | succ n ih =>
    obtain ⟨k, rfl⟩ := Nat.exists_eq_add_of_le' hn
    rw [readItems?] at h
    cases ha : item (skipBlanks t) with
    | none => simp [ha] at h
    | some p =>
      obtain ⟨a, r₁⟩ := p
      simp only [ha] at h
      cases hb : skipBlanks r₁ with
      | nil => simp [hb] at h
      | cons c r₂ =>
        simp only [hb] at h
        have hr₁ : r₁ ≠ [] := by
          intro he
          subst he
          simp [skipBlanks] at hb
        have hsuf : c :: r₂ <:+ t := by
          rw [← hb]
          exact (skipBlanks_suffix r₁).trans (hi.afterBlanks.suffix ha)
        have hw := hi.afterBlanks.append w ha hr₁
        have hbw : skipBlanks (r₁ ++ w) = c :: (r₂ ++ w) := by
          rw [skipBlanks_append (by simp [hb]), hb, List.cons_append]
        rw [Nat.add_succ, readItems?]
        simp only [hw, hbw]
        split_ifs at h ⊢ with hclose hcomma
        · obtain ⟨rfl, rfl⟩ := Prod.mk.inj (Option.some.inj h)
          exact ⟨rfl, hclose ▸ hsuf⟩
        · obtain ⟨⟨l', r'⟩, hl, he⟩ := Option.map_eq_some_iff.1 h
          obtain ⟨rfl, rfl⟩ := Prod.mk.inj he
          obtain ⟨hl', hs⟩ := ih (m := k + n) (by omega) hl
          rw [hl', Option.map_some]
          exact ⟨rfl, (hs.trans (List.suffix_cons c r₂)).trans hsuf⟩

theorem readList?_append (hi : Local item) {t r : Text} {l : List α} (w : Text)
    (h : readList? close item t = some (l, r)) :
    readList? close item (t ++ w) = some (l, r ++ w) ∧ close :: r <:+ t := by
  rw [readList?] at h
  cases hb : skipBlanks t with
  | nil => simp [hb] at h
  | cons c s =>
    have hbw : skipBlanks (t ++ w) = c :: (s ++ w) := by
      rw [skipBlanks_append (by simp [hb]), hb, List.cons_append]
    rw [readList?]
    simp only [hb, hbw] at h ⊢
    split_ifs at h ⊢ with hc
    · obtain ⟨rfl, rfl⟩ := Prod.mk.inj (Option.some.inj h)
      refine ⟨rfl, ?_⟩
      rw [← hc, ← hb]
      exact skipBlanks_suffix t
    · exact readItems?_append hi w (by simp) h

end Lists

theorem local_readMember? {value : Text → Option (Value × Text)} (hv : Local value) :
    Local (readMember? value) := by
  have hcolon : Local (readColon? value) := by
    refine .of_cons (by simp [readColon?]) fun c => .inl ?_
    by_cases hc : c = ':'
    · subst hc
      exact ⟨_, hv.afterBlanks, fun _ => rfl⟩
    · refine ⟨_, .constant none, fun r => ?_⟩
      rw [readColon?]
      · rfl
      · intro r' he
        exact hc (List.cons.inj he).1
  have hname := local_readText?.bind fun name => hcolon.afterBlanks.map fun v => (name, v)
  refine .of_cons (by simp [readMember?]) fun c => .inl ?_
  by_cases hc : c = '"'
  · subst hc
    exact ⟨_, hname, fun _ => rfl⟩
  · refine ⟨_, .constant none, fun r => ?_⟩
    rw [readMember?]
    · rfl
    · intro r' he
      exact hc (List.cons.inj he).1

theorem readValue?_append_of_brace {depth : Nat} (hv : Local (readValue? depth)) {t r : Text}
    {v : Value} (w : Text) (h : readValue? (depth + 1) ('\x7b' :: t) = some (v, r)) :
    readValue? (depth + 1) ('\x7b' :: (t ++ w)) = some (v, r ++ w) ∧ '\x7d' :: r <:+ t := by
  rw [readValue?, Option.map_eq_some_iff] at h
  obtain ⟨⟨members, r'⟩, hl, he⟩ := h
  obtain ⟨rfl, rfl⟩ := Prod.mk.inj he
  obtain ⟨hw, hs⟩ := readList?_append (local_readMember? hv) w hl
  rw [readValue?, hw]
  exact ⟨rfl, hs⟩

theorem readValue?_cases (depth : Nat) (t : Text) :
    (∃ r, t = '[' :: r ∧ ∀ w, readValue? (depth + 1) (t ++ w) =
        (readList? ']' (readValue? depth) (r ++ w)).map fun (items, r) => (.array items, r)) ∨
      (∃ r, t = '\x7b' :: r) ∨
      t = [] ∨ ∀ w, readValue? (depth + 1) (t ++ w) = readScalar? (t ++ w) := by
  rcases t with _ | ⟨c, r⟩
  · exact .inr (.inr (.inl rfl))
  by_cases ha : c = '['
  · subst ha
    exact .inl ⟨r, rfl, fun w => by rw [List.cons_append, readValue?]⟩
  by_cases ho : c = '\x7b'
  · subst ho
    exact .inr (.inl ⟨r, rfl⟩)
  · refine .inr (.inr (.inr fun w => ?_))
    rw [readValue?]
    · exact fun r he => ha (List.cons.inj he).1
    · exact fun r he => ho (List.cons.inj he).1

theorem local_readValue? (depth : Nat) : Local (readValue? depth) := by
  induction depth with
  | zero => exact local_readScalar?
  | succ depth ih =>
    have harray {r r' : Text} {v : Value} (w : Text)
        (h : (readList? ']' (readValue? depth) r).map
          (fun (items, r) => (Value.array items, r)) = some (v, r')) :
        (readList? ']' (readValue? depth) (r ++ w)).map
          (fun (items, r) => (Value.array items, r)) = some (v, r' ++ w) ∧ ']' :: r' <:+ r := by
      obtain ⟨⟨items, r''⟩, hl, he⟩ := Option.map_eq_some_iff.1 h
      obtain ⟨rfl, rfl⟩ := Prod.mk.inj he
      obtain ⟨hw, hs⟩ := readList?_append ih w hl
      rw [hw]
      exact ⟨rfl, hs⟩
    constructor
    · intro t v r h
      rcases readValue?_cases depth t with ⟨s, rfl, hs⟩ | ⟨s, rfl⟩ | rfl | hs
      · have h' := hs []
        rw [List.append_nil, List.append_nil, h] at h'
        obtain ⟨-, hsuf⟩ := harray [] h'.symm
        exact ((List.suffix_cons _ r).trans hsuf).trans (List.suffix_cons _ s)
      · obtain ⟨-, hsuf⟩ := readValue?_append_of_brace ih [] h
        exact ((List.suffix_cons _ r).trans hsuf).trans (List.suffix_cons _ s)
      · simp [readValue?, readScalar?, readNumber?, readMinus, readWhole?] at h
      · have h' := hs []
        rw [List.append_nil, h] at h'
        exact local_readScalar?.suffix h'.symm
    · intro t v r w h hr
      rcases readValue?_cases depth t with ⟨s, rfl, hs⟩ | ⟨s, rfl⟩ | rfl | hs
      · have h' := hs []
        rw [List.append_nil, List.append_nil, h] at h'
        rw [hs]
        exact (harray w h'.symm).1
      · exact (readValue?_append_of_brace ih w h).1
      · simp [readValue?, readScalar?, readNumber?, readMinus, readWhole?] at h
      · have h' := hs []
        rw [List.append_nil, h] at h'
        rw [hs]
        exact local_readScalar?.append w h'.symm hr

theorem not_object_of_readScalar? {t r : Text} {members : OrderedMap Text Value} :
    readScalar? t ≠ some (.object members, r) := by
  intro h
  revert h
  fun_cases readScalar? t <;> simp

theorem brace_of_readValue? {depth : Nat} {t r : Text} {members : OrderedMap Text Value}
    (h : readValue? (depth + 1) t = some (.object members, r)) : ∃ s, t = '\x7b' :: s := by
  rcases readValue?_cases depth t with ⟨s, rfl, hs⟩ | ht | rfl | hs
  · have h' := hs []
    rw [List.append_nil, List.append_nil, h] at h'
    obtain ⟨_, -, he⟩ := Option.map_eq_some_iff.1 h'.symm
    simp at he
  · exact ht
  · simp [readValue?, readScalar?, readNumber?, readMinus, readWhole?] at h
  · have h' := hs []
    rw [List.append_nil, h] at h'
    exact absurd h'.symm not_object_of_readScalar?

end ResponsiveStyles.Json

namespace ResponsiveStyles.StyleMap

open Json

variable {json : Text} {m : StyleMap}

theorem exists_braces (h : read? json = some m) :
    ∃ lead body tail, json = lead ++ '\x7b' :: (body ++ '\x7d' :: tail) ∧
      (∀ c ∈ lead, isBlank c) ∧ (∀ c ∈ tail, isBlank c) ∧
      ∀ w, readValue? 127 (skipBlanks (json ++ w)) = some (.object m, tail ++ w) := by
  have hread : Json.read? json = some (.object m) := by
    rw [StyleMap.read?] at h
    split at h
    · rename_i members hm
      rw [hm, Option.some.inj h]
    · simp at h
  rw [Json.read?] at hread
  split at hread
  · rename_i v tail hv
    split_ifs at hread with htail
    obtain rfl := Option.some.inj hread
    obtain ⟨s, hs⟩ := brace_of_readValue? hv
    rw [hs] at hv
    obtain ⟨-, body, hbody⟩ := readValue?_append_of_brace (local_readValue? 126) [] hv
    refine ⟨json.takeWhile isBlank, body, tail, ?_, ?_, ?_, ?_⟩
    · rw [hbody, ← hs]
      exact List.takeWhile_append_dropWhile.symm
    · exact fun c hc => List.mem_takeWhile_imp hc
    · exact skipBlanks_eq_nil_iff.1 (List.isEmpty_iff.1 htail)
    · intro w
      rw [skipBlanks_append (by simp [hs]), hs]
      exact (readValue?_append_of_brace (local_readValue? 126) w hv).1
  · simp at hread

theorem read?_append_eq_none {c : Char} (h : read? json = some m) (hc : ¬ isBlank c) (w : Text) :
    read? (json ++ c :: w) = none := by
  obtain ⟨_, _, tail, -, -, htail, happend⟩ := exists_braces h
  have hrest : skipBlanks (tail ++ c :: w) = c :: w := by
    rw [skipBlanks, List.dropWhile_append_of_pos htail]
    simp [hc]
  have hnone : Json.read? (json ++ c :: w) = none := by
    rw [Json.read?, happend]
    simp [hrest]
  rw [StyleMap.read?, hnone]

end ResponsiveStyles.StyleMap
