import ResponsiveStyles.Proofs.LengthParts
import ResponsiveStyles.Proofs.TextTrimming
import ResponsiveStyles.Proofs.WidthBounds

/-!
# Colons in media queries

A colon inside parentheses, or in front of white space, cannot be taken for the colon between a media
query and declarations. The media query of a key has no other colons, unless a media type, a clause of
the key or a length brings them in.
-/
namespace ResponsiveStyles

namespace Text

def startsBlank (t : Text) : Bool :=
  t.head?.any isBlank

/-- Whether parentheses are closed, from a depth on, and every colon outside of them stands in front
of white space, unless colons are free. -/
def encloses (free : Bool) : Nat → Text → Bool
  | d, [] => d = 0
  | d, c :: r =>
    if c = '(' then encloses free (d + 1) r
    else if c = ')' then 0 < d && encloses free (d - 1) r
    else (free || 0 < d || c ≠ ':' || startsBlank r) && encloses free d r

def Closed (t : Text) : Prop :=
  encloses true 0 t

def Enclosed (t : Text) : Prop :=
  encloses false 0 t

instance (t : Text) : Decidable (Closed t) :=
  inferInstanceAs (Decidable (_ = true))

instance (t : Text) : Decidable (Enclosed t) :=
  inferInstanceAs (Decidable (_ = true))

theorem startsBlank_append {u : Text} (h : startsBlank u) (v : Text) : startsBlank (u ++ v) := by
  cases u with
  | nil => simp [startsBlank] at h
  | cons c r => exact h

section encloses
variable {d : Nat} {u v : Text}

theorem encloses_append (free : Bool) (k : Nat) (h : encloses (free || 0 < k) d u) :
    encloses free (d + k) (u ++ v) = encloses free k v := by
  induction u generalizing d with
  | nil =>
    obtain rfl : d = 0 := by simpa [encloses] using h
    rw [List.nil_append, Nat.zero_add]
  | cons c r ih =>
    rw [encloses] at h
    rw [List.cons_append, encloses]
    split_ifs at h ⊢ with hopen hclose
    · rw [← ih h, Nat.add_right_comm]
    · obtain ⟨hd, hr⟩ : 0 < d ∧ encloses (free || 0 < k) (d - 1) r := by simpa using h
      have hdk : d + k - 1 = d - 1 + k := by omega
      rw [hdk, ih hr]
      simp [Nat.add_pos_left hd]
    · simp only [Bool.and_eq_true, Bool.or_eq_true, decide_eq_true_eq] at h
      -- A colon that stood in front of white space in `r` still does so in `r ++ v`.
      have hcolon : ((free = true ∨ 0 < d + k) ∨ c ≠ ':') ∨ startsBlank (r ++ v) = true := by
        rcases h.1 with (((hfree | hk) | hd) | hc) | hblank
        · exact .inl (.inl (.inl hfree))
        · exact .inl (.inl (.inr (by omega)))
        · exact .inl (.inl (.inr (by omega)))
        · exact .inl (.inr hc)
        · exact .inr (startsBlank_append hblank v)
      rw [ih h.2, Bool.and_eq_right_iff_imp]
      intro _
      simpa only [Bool.or_eq_true, decide_eq_true_eq] using hcolon

theorem encloses_skip (hu : '(' ∉ u ∧ ')' ∉ u) : encloses true d (u ++ v) = encloses true d v := by
  induction u with
  | nil => rfl
  | cons c r ih =>
    simp only [List.mem_cons, not_or] at hu
    rw [List.cons_append, encloses, if_neg (Ne.symm hu.1.1), if_neg (Ne.symm hu.2.1),
      ih ⟨hu.1.2, hu.2.2⟩]
    rfl

end encloses

variable {u v : Text}

theorem Enclosed.append (hu : Enclosed u) (hv : Enclosed v) : Enclosed (u ++ v) :=
  (encloses_append false 0 hu).trans hv

theorem Closed.append (hu : Closed u) (hv : Closed v) : Closed (u ++ v) :=
  (encloses_append true 0 hu).trans hv

theorem enclosed_parentheses (hu : Closed u) : Enclosed ('(' :: (u ++ [')'])) := by
  have h := encloses_append false 1 (v := [')']) hu
  rw [Enclosed, encloses, if_pos rfl, h]
  rfl

theorem Enclosed.intercalate {sep : Text} (hsep : Enclosed sep) {ts : List Text}
    (h : ∀ t ∈ ts, Enclosed t) : Enclosed (sep.intercalate ts) := by
  induction ts with
  | nil => rfl
  | cons t r ih =>
    rw [List.forall_mem_cons] at h
    cases r with
    | nil =>
      rw [List.intercalate_singleton]
      exact h.1
    | cons t' r =>
      rw [List.intercalate_cons_cons]
      exact (h.1.append hsep).append (ih h.2)

theorem Enclosed.startsBlank_of_append (hu : Enclosed u) (h : Enclosed (u ++ ':' :: v)) :
    startsBlank v := by
  have hv : encloses false 0 (':' :: v) := by
    rw [← encloses_append false 0 hu]
    exact h
  obtain ⟨hblank, -⟩ : startsBlank v ∧ encloses false 0 v := by simpa [encloses] using hv
  exact hblank

theorem closed_append_iff {b : Text} (hb : '(' ∉ b ∧ ')' ∉ b) : Closed (u ++ b) ↔ Closed u := by
  have hd (d : Nat) : encloses true d (u ++ b) = encloses true d u := by
    induction u generalizing d with
    | nil => exact List.append_nil b ▸ encloses_skip (v := []) hb
    | cons c r ih => simp only [List.cons_append, encloses, ih, Bool.true_or]
  rw [Closed, Closed, hd]

theorem closed_append_left {b : Text} (hb : '(' ∉ b ∧ ')' ∉ b) : Closed (b ++ u) ↔ Closed u := by
  rw [Closed, Closed, encloses_skip hb]

end Text

open Text

theorem isAllBlank_parentheses {b : Text} (hb : isAllBlank b) : '(' ∉ b ∧ ')' ∉ b :=
  ⟨notMem_of_isAllBlank (by decide) hb, notMem_of_isAllBlank (by decide) hb⟩

theorem closed_trim (t : Text) : Closed (trim t) ↔ Closed t := by
  obtain ⟨b, b', ht, hb, hb'⟩ := exists_blanks t
  conv_rhs => rw [ht]
  rw [closed_append_left (isAllBlank_parentheses hb),
    closed_append_iff (isAllBlank_parentheses hb')]

theorem Literal.closed {l : Text} (h : Literal l) : Closed l := by
  have hparentheses : '(' ∉ l ∧ ')' ∉ l :=
    ⟨h.notMem (by decide) (by decide), h.notMem (by decide) (by decide)⟩
  simpa using (closed_append_left (u := []) hparentheses).2 rfl

theorem closed_adjust {l : Text} (h : Closed l) (epsilon : Float) :
    Closed (Length.adjust l epsilon) := by
  unfold Length.adjust
  split_ifs
  · exact h
  split
  · rename_i number unit hsplit
    unfold Length.split? at hsplit
    split at hsplit
    · simp at hsplit
    · rename_i digits unit' hparts
      split_ifs at hsplit
      obtain ⟨x, -, he⟩ := Option.map_eq_some_iff.1 hsplit
      obtain ⟨rfl, rfl⟩ := Prod.mk.inj he
      obtain ⟨htrim, hchars⟩ := Length.numberPart?_spec hparts
      -- Neither the old number nor the new one in front of the unit has parentheses.
      have hdigits {c : Char} (hd : ¬ isDecimalDigit c) (hc : c ∉ ['.', '+', '-']) : c ∉ digits :=
        fun hm => (hchars c hm).elim hd hc
      have hplain {c : Char} (hd : ¬ c.isDigit) (hc : c ∉ ".-NaNinf".toList) :
          c ∉ Decimal.plain (x - epsilon) :=
        fun hm => (Decimal.mem_plain hm).elim hd hc
      rw [← closed_trim, htrim, closed_append_left
        ⟨hdigits (by decide) (by decide), hdigits (by decide) (by decide)⟩] at h
      exact (closed_append_left
        ⟨hplain (by decide) (by decide), hplain (by decide) (by decide)⟩).2 h
  · exact h

namespace BreakpointTable

variable {t : BreakpointTable}

def ClosedLengths (t : BreakpointTable) : Prop :=
  ∀ b ∈ t.entries, Closed b.length

instance (t : BreakpointTable) : Decidable t.ClosedLengths :=
  inferInstanceAs (Decidable (∀ b ∈ t.entries, Closed b.length))

theorem ClosedLengths.length? (ht : t.ClosedLengths) {n l : Text} (h : t.length? n = some l) :
    Closed l := by
  obtain ⟨b, hb, rfl⟩ := Option.map_eq_some_iff.1 h
  exact ht b (List.mem_of_find?_eq_some hb)

theorem ClosedLengths.lengthOf (ht : t.ClosedLengths) {X : Text} (hX : t.Operand X) :
    Closed (t.lengthOf X) := by
  rw [BreakpointTable.lengthOf]
  cases hl : t.length? X with
  | some l => exact ht.length? hl
  | none =>
    refine Literal.closed (hX.resolve_left fun hn => ?_)
    rw [← isSome_length?_iff, hl] at hn
    simp at hn

theorem ClosedLengths.range? (ht : t.ClosedLengths) {f : Text} {shape : TokenShape} {r : WidthRange}
    (hshape : t.classify f = some shape) (hr : t.range? shape = some r) :
    (∀ l ∈ r.lower, Closed l) ∧ ∀ l ∈ r.upper, Closed l := by
  have hbounds {A : Text} (hA : t.Operand A) (hn : f ∉ t.names) (hs : t.Says A f shape) :
      (∀ l ∈ r.lower, Closed l) ∧ ∀ l ∈ r.upper, Closed l := by
    cases hs with
    | between hB =>
      obtain rfl := Option.some.inj hr
      simpa using ⟨ht.lengthOf hA, ht.lengthOf hB⟩
    | up =>
      obtain rfl := Option.some.inj hr
      simpa using ht.lengthOf hA
    | down =>
      obtain rfl := Option.some.inj hr
      simpa using ht.lengthOf hA
    | alone =>
      obtain rfl := Option.some.inj hr
      simpa using (hA.resolve_left hn).closed
  have hreads := t.reads_classify f
  rw [hshape] at hreads
  cases hreads with
  | only hn =>
    obtain rfl := Option.some.inj hr
    refine ⟨fun l hl => ht.length? hl, fun l hl => ?_⟩
    obtain ⟨b, hb, rfl⟩ := Option.map_eq_some_iff.1 hl
    obtain ⟨i, -, hi⟩ := Option.bind_eq_some_iff.1 hb
    exact ht b (List.mem_of_getElem? hi)
  | @compared c X hn hc =>
    have hX := ht.lengthOf hc.1
    cases c <;> obtain rfl := Option.some.inj hr <;> simpa using hX
  | first hn hc hs =>
    rcases hs with ⟨before, A, after, hnames, hs, -⟩ | ⟨-, A, hA, hs⟩
    · exact hbounds (.inl (by simp [hnames])) hn hs
    · exact hbounds (.inr hA) hn hs
  | dangling => exact absurd hr (by simp [BreakpointTable.range?])

theorem ClosedLengths.enclosed_of_mem_mentions (ht : t.ClosedLengths) {f : Text}
    (hf : ¬ t.isToken f → IsClause f → Enclosed f) {p : Subject × Text} (hp : p ∈ t.mentions f) : Enclosed p.2 := by
  have hadjust {l : Text} {epsilon : Float} (name : Text) (hname : '(' ∉ name ∧ ')' ∉ name)
      (hl : Closed l) : Enclosed ('(' :: (name ++ Length.adjust l epsilon ++ [')'])) :=
    enclosed_parentheses ((closed_append_left hname).2 (closed_adjust hl epsilon))
  rw [mentions] at hp
  split at hp
  · rename_i ho
    obtain rfl := List.mem_singleton.1 hp
    rcases ho with rfl | rfl <;> decide
  split at hp
  · rename_i shape hshape
    cases hr : t.range? shape with
    | none => simp [hr] at hp
    | some r =>
      obtain ⟨hlower, hupper⟩ := ht.range? hshape hr
      rw [hr, Option.map_some, Option.getD_some, WidthRange.mentions] at hp
      split at hp
      · simp only [Option.mem_toList, Option.map_eq_some_iff] at hp
        obtain ⟨condition, hcondition, rfl⟩ := hp
        refine enclosed_parentheses ?_
        have hbound {sign l : Text} (hl : Closed l) (hsign : '(' ∉ sign ∧ ')' ∉ sign) :
            Closed (sign ++ l) := (closed_append_left hsign).2 hl
        cases WidthRange.spells_iff.2 hcondition with
        | between l u =>
          have hlow := (closed_append_iff (b := " < width < ".toList) (by decide)).2 (hlower l rfl)
          exact hlow.append (hupper u rfl)
        | above l => exact hbound (hlower l rfl) (by decide)
        | atLeast l => exact hbound (hlower l rfl) (by decide)
        | below u => exact hbound (hupper u rfl) (by decide)
        | atMost u => exact hbound (hupper u rfl) (by decide)
      · simp only [List.mem_append, Option.mem_toList, Option.map_eq_some_iff] at hp
        rcases hp with ⟨l, ⟨lower, hl, rfl⟩, rfl⟩ | ⟨l, ⟨upper, hl, rfl⟩, rfl⟩
        · exact hadjust "min-width: ".toList (by decide) (hlower lower hl)
        · exact hadjust "max-width: ".toList (by decide) (hupper upper hl)
  · rename_i hshape
    split at hp
    · rename_i hclause
      obtain rfl := List.mem_singleton.1 hp
      exact hf (by simp [isToken, hshape]) hclause
    · simp at hp

theorem ClosedLengths.enclosed_readBranch (ht : t.ClosedLengths) {mediaFirst : Bool}
    {fs : List Text} (hmedia : ∀ f ∈ fs.head?, NamesMedia f → Enclosed f)
    (hclause : ∀ f ∈ spokenBody fs, ¬ t.isToken f → IsClause f → Enclosed f) :
    Enclosed (t.readBranch mediaFirst fs) := by
  refine Enclosed.intercalate (by decide) fun part hpart => ?_
  rcases List.mem_append.1 hpart with hpart | hpart
  · rw [Option.mem_toList, spokenMedia, Option.or_eq_some_iff] at hpart
    rcases hpart with hpart | ⟨-, hall⟩
    · obtain ⟨hhead, hnames⟩ := Option.filter_eq_some_iff.1 hpart
      exact hmedia part hhead (by simpa using hnames)
    · split at hall
      · obtain rfl := Option.some.inj hall
        decide
      · simp at hall
  · split_ifs at hpart
    · simp at hpart
    obtain ⟨subject, -, hwrite⟩ := List.mem_filterMap.1 hpart
    obtain ⟨p, hlast, rfl⟩ := Option.map_eq_some_iff.1 hwrite
    obtain ⟨f, hf, hp⟩ := List.mem_flatMap.1 (List.mem_filter.1 (List.mem_of_getLast? hlast)).1
    exact ht.enclosed_of_mem_mentions (hclause f hf) hp

end BreakpointTable

/-- No fragment of the key calls a feature, and those that are read as media types and as clauses
enclose their colons. -/
structure QueryKey.Guarded {γ : Type} (key : Text) (s : QuerySettings γ) : Prop where
  media : ∀ b ∈ branches key, ∀ f ∈ (fragments b).head?, NamesMedia f → Enclosed f
  clause : ∀ b ∈ branches key, ∀ f ∈ spokenBody (fragments b),
    ¬ s.table.isToken f → IsClause f → Enclosed f
  uncalled : ∀ b ∈ branches key, ∀ f ∈ spokenBody (fragments b), ∀ call, ¬ s.Calls f call

namespace QuerySettings

variable {γ : Type} {s : QuerySettings γ} {key : Text}

theorem branch_of_guarded (hkey : QueryKey.Guarded key s) {b : Text}
    (hb : b ∈ QueryKey.branches key) (context : Option γ) :
    s.branch key context b = s.table.readBranch s.mediaFirst (QueryKey.fragments b) := by
  rw [← BreakpointTable.branch_eq_readBranch s.table s.mediaFirst key context]
  exact congrArg Descriptor.render (describe_withoutFeatures (hkey.uncalled b hb) key context)

/-- The media query of a guarded key encloses its colons. -/
theorem enclosed_compile (ht : s.table.ClosedLengths) (hkey : QueryKey.Guarded key s)
    (context : Option γ) : Enclosed (s.compile key context) := by
  have hprefix : Enclosed "@media ".toList := by decide
  refine hprefix.append (Enclosed.intercalate (by decide) fun part hpart => ?_)
  obtain ⟨b, hb, rfl⟩ := List.mem_map.1 hpart
  rw [branch_of_guarded hkey hb]
  exact ht.enclosed_readBranch (hkey.media b hb) (hkey.clause b hb)

end QuerySettings

end ResponsiveStyles
