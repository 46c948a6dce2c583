import ResponsiveStyles.Proofs.TokenReading
import ResponsiveStyles.Proofs.WriteHistory
import ResponsiveStyles.Query.Compiler

/-!
# The reading of a branch

A branch says a media type and some media features. It is read here fragment by fragment, without a
descriptor: every fragment mentions features with their clauses, a feature stands where it was first
mentioned, and its clause is the one that was mentioned last. A dangling range leaves the media type
alone.
-/
namespace ResponsiveStyles

/-- The word stands in the text with no word character directly before or after it. -/
def HoldsWord (word f : Text) : Prop :=
  ∃ before after, f = before ++ word ++ after ∧
    (∀ c ∈ before.getLast?, ¬ Text.isWordChar c) ∧ ∀ c ∈ after.head?, ¬ Text.isWordChar c

theorem startsWithWord_iff {word f : Text} :
    Text.startsWithWord word f ↔
      ∃ after, f = word ++ after ∧ ∀ c ∈ after.head?, ¬ Text.isWordChar c := by
  rw [Text.startsWithWord]
  constructor
  · intro h
    split at h
    · rename_i c r hp
      refine ⟨c :: r, (List.isPrefixOf?_eq_some_iff_append_eq.1 hp).symm, ?_⟩
      simpa using h
    · rename_i hp
      exact ⟨[], (List.isPrefixOf?_eq_some_iff_append_eq.1 hp).symm, by simp⟩
    · simp at h
  · intro he
    obtain ⟨after, hf, hc⟩ := he
    rw [List.isPrefixOf?_eq_some_iff_append_eq.2 hf.symm]
    cases after with
    | nil => rfl
    | cons c r => simpa using hc

theorem holdsWordAfter_iff {word : Text} (h0 : word ≠ []) {inside : Bool} {f : Text} :
    Text.holdsWordAfter word inside f ↔
      ∃ before after, f = before ++ word ++ after ∧ (before = [] → inside = false) ∧
        (∀ c ∈ before.getLast?, ¬ Text.isWordChar c) ∧
        ∀ c ∈ after.head?, ¬ Text.isWordChar c := by
  induction f generalizing inside with
  | nil => simp [Text.holdsWordAfter, h0]
  | cons c r ih =>
    rw [Text.holdsWordAfter, Bool.or_eq_true, Bool.and_eq_true, startsWithWord_iff, ih]
    constructor
    · intro he
      rcases he with ⟨hi, after, hf, hc⟩ | ⟨before, after, rfl, hb, hl, hc⟩
      · exact ⟨[], after, hf, fun _ => by simpa using hi, by simp, hc⟩
      · refine ⟨c :: before, after, rfl, by simp, ?_, hc⟩
        cases before with
        | nil => simpa using hb rfl
        | cons d s => simpa [List.getLast?_cons_cons] using hl
    · intro he
      obtain ⟨before, after, hf, hb, hl, hc⟩ := he
      cases before with
      | nil => exact .inl ⟨by simpa using hb rfl, after, hf, hc⟩
      | cons d s =>
        obtain ⟨rfl, rfl⟩ := List.cons.inj hf
        refine .inr ⟨s, after, rfl, ?_, ?_, hc⟩
        · intro he
          subst he
          simpa using hl
        · cases s with
          | nil => simp
          | cons d' s' => simpa [List.getLast?_cons_cons] using hl

theorem holdsWord_iff {word : Text} (h0 : word ≠ []) {f : Text} :
    Text.holdsWord word f ↔ HoldsWord word f := by
  rw [Text.holdsWord, holdsWordAfter_iff h0]
  simp [HoldsWord]

def NamesMedia (f : Text) : Prop :=
  '(' ∉ f ∧ ∃ word ∈ ["screen".toList, "all".toList, "print".toList, "speech".toList],
    HoldsWord word f

theorem ne_nil_of_mem_mediaWords : ∀ word ∈ QueryKey.mediaWords, word ≠ [] := by
  decide

theorem isMediaType_iff {f : Text} : QueryKey.isMediaType f ↔ NamesMedia f := by
  rw [QueryKey.isMediaType, Bool.and_eq_true, List.any_eq_true, NamesMedia]
  refine and_congr (by simp) (exists_congr fun word => and_congr_right fun hw => ?_)
  exact holdsWord_iff (ne_nil_of_mem_mediaWords word hw)

theorem NamesMedia.ne_nil {f : Text} (h : NamesMedia f) : f ≠ [] := by
  obtain ⟨-, word, hw, before, after, rfl, -⟩ := h
  have h0 := ne_nil_of_mem_mediaWords word hw
  intro h
  rw [List.append_eq_nil_iff, List.append_eq_nil_iff] at h
  exact h0 h.1.2

instance (f : Text) : Decidable (NamesMedia f) :=
  decidable_of_iff _ isMediaType_iff

def IsOrientation (f : Text) : Prop :=
  f = "landscape".toList ∨ f = "portrait".toList

theorem isOrientation_iff {f : Text} : QueryKey.isOrientation f ↔ IsOrientation f := by
  rw [QueryKey.isOrientation, Bool.or_eq_true, decide_eq_true_eq, decide_eq_true_eq,
    IsOrientation]

instance (f : Text) : Decidable (IsOrientation f) :=
  decidable_of_iff _ isOrientation_iff

def IsClause (f : Text) : Prop :=
  ∃ inner, f = '(' :: (inner ++ [')'])

theorem clause?_eq_some_iff {f inner : Text} :
    QueryKey.clause? f = some inner ↔ f = '(' :: (inner ++ [')']) := by
  unfold QueryKey.clause?
  split
  · rename_i r
    rw [List.isSuffixOf?_eq_some_iff_append_eq, eq_comm]
    simp
  · rename_i hf
    constructor
    · intro h
      simp at h
    · intro he
      subst he
      exact absurd rfl (hf _)

theorem isClause_iff {f : Text} : (QueryKey.clause? f).isSome ↔ IsClause f := by
  simp [Option.isSome_iff_exists, clause?_eq_some_iff, IsClause]

theorem clause?_eq_none_iff {f : Text} : QueryKey.clause? f = none ↔ ¬ IsClause f := by
  rw [← isClause_iff, Option.not_isSome_iff_eq_none]

instance (f : Text) : Decidable (IsClause f) :=
  decidable_of_iff _ isClause_iff

/-- What a branch may speak of, besides the media type. -/
inductive Subject where
  | orientation
  | minWidth
  | maxWidth
  | width
  | clause (fragment : Text)
deriving DecidableEq

/-- The clauses that a range of widths gives to its subjects. -/
def WidthRange.mentions (r : WidthRange) (o : RangeOptions) : List (Subject × Text) :=
  if o.rangeContext then
    (r.condition?.map fun c => (.width, '(' :: (c ++ [')']))).toList
  else
    let least := r.lower.map fun l => Length.adjust l (if r.orEqual then o.epsilon else 0.0)
    let greatest := r.upper.map fun l => Length.adjust l (if r.orEqual then 0.0 else o.epsilon)
    (least.map fun l => (.minWidth, "(min-width: ".toList ++ l ++ [')'])).toList ++
      (greatest.map fun l => (.maxWidth, "(max-width: ".toList ++ l ++ [')'])).toList

namespace BreakpointTable

/-- The clauses that a fragment gives to its subjects. -/
def mentions (t : BreakpointTable) (f : Text) : List (Subject × Text) :=
  if IsOrientation f then
    [(.orientation, "(orientation: ".toList ++ f ++ [')'])]
  else
    match t.classify f with
    | some shape => ((t.range? shape).map fun r => r.mentions t.options).getD []
    | none => if IsClause f then [(.clause f, f)] else []

/-- The fragment is read as a token that stands for no widths. -/
def Dangles (t : BreakpointTable) (f : Text) : Prop :=
  ¬ IsOrientation f ∧ t.classify f = some (.dangling f)

instance (t : BreakpointTable) (f : Text) : Decidable (t.Dangles f) :=
  inferInstanceAs (Decidable (_ ∧ _))

end BreakpointTable

/-- The media type that the first fragment names, or else that of all devices, if it is asked for. -/
def spokenMedia (mediaFirst : Bool) (fs : List Text) : Option Text :=
  (fs.head?.filter fun f => NamesMedia f).or (if mediaFirst then some "all".toList else none)

def spokenBody : List Text → List Text
  | [] => []
  | f :: r => if NamesMedia f then r else f :: r

theorem mem_of_mem_spokenBody {fs : List Text} {f : Text} (h : f ∈ spokenBody fs) : f ∈ fs := by
  cases fs with
  | nil => exact h
  | cons g r =>
    rw [spokenBody] at h
    split at h
    · exact List.mem_cons_of_mem g h
    · exact h

def QuerySettings.opened {γ : Type} (s : QuerySettings γ) (fs : List Text) : Descriptor :=
  match spokenMedia s.mediaFirst fs with
  | some media => Descriptor.setMedia {} media
  | none => {}

theorem QuerySettings.describe_eq_foldl {γ : Type} (s : QuerySettings γ) (key : Text)
    (context : Option γ) (fs : List Text) :
    s.describe key context fs = (spokenBody fs).foldl (s.read key context) (s.opened fs) := by
  obtain ⟨t, features, mediaFirst⟩ := s
  cases fs with
  | nil => cases mediaFirst <;> rfl
  | cons f r =>
    rw [describe, opened, spokenMedia, spokenBody, List.head?_cons]
    by_cases hm : NamesMedia f
    · rw [if_pos (isMediaType_iff.2 hm), if_pos hm, Option.filter_some_pos (by simpa using hm)]
      cases mediaFirst <;> rfl
    · rw [if_neg (mt isMediaType_iff.1 hm), if_neg hm, Option.filter_some_neg (by simpa using hm)]
      cases mediaFirst <;> rfl

/-- What a branch says that is made of these fragments. -/
def BreakpointTable.readBranch (t : BreakpointTable) (mediaFirst : Bool) (fs : List Text) : Text :=
  let body := spokenBody fs
  let ms := body.flatMap t.mentions
  let subjects := (ms.map Prod.fst).eraseDups
  let clauses := if ∃ f ∈ body, t.Dangles f then []
    else subjects.filterMap fun x => OrderedMap.lastWrite? x ms
  " and ".toList.intercalate ((spokenMedia mediaFirst fs).toList ++ clauses)

def Subject.key : Subject → Text
  | .orientation => "orientation".toList
  | .minWidth => "min-width".toList
  | .maxWidth => "max-width".toList
  | .width => Descriptor.slotKey rangeSlot
  | .clause f => Descriptor.slotKey f

theorem slotKey_ne_mediaKey (f : Text) : Descriptor.slotKey f ≠ Descriptor.mediaKey := by
  simp [Descriptor.slotKey, Descriptor.mediaKey]

theorem Subject.key_ne_mediaKey (x : Subject) : x.key ≠ Descriptor.mediaKey := by
  cases x with
  | orientation => decide
  | minWidth => decide
  | maxWidth => decide
  | width => exact slotKey_ne_mediaKey rangeSlot
  | clause f => exact slotKey_ne_mediaKey f

theorem not_isClause_rangeSlot : ¬ IsClause rangeSlot := by
  rw [← isClause_iff]
  decide

def Subject.ofKey (k : Text) : Subject :=
  if k = Subject.orientation.key then .orientation
  else if k = Subject.minWidth.key then .minWidth
  else if k = Subject.maxWidth.key then .maxWidth
  else if k = Subject.width.key then .width
  else .clause k.tail

theorem Subject.ofKey_key {x : Subject} (hx : ∀ g, x = .clause g → IsClause g) :
    ofKey x.key = x := by
  cases x with
  | clause f =>
    have hk (k : Text) (h : k.head? ≠ some ':') : (Subject.clause f).key ≠ k := by
      intro he
      subst he
      exact h rfl
    have hw : (Subject.clause f).key ≠ Subject.width.key := by
      intro h
      obtain rfl : f = rangeSlot := (List.cons.inj h).2
      exact not_isClause_rangeSlot (hx _ rfl)
    rw [ofKey, if_neg (hk _ (by decide)), if_neg (hk _ (by decide)), if_neg (hk _ (by decide)),
      if_neg hw]
    rfl
  | orientation => decide
  | minWidth => decide
  | maxWidth => decide
  | width => decide

def WidthRange.writes (r : WidthRange) (o : RangeOptions) : List (Text × FeatureValue) :=
  if o.rangeContext then
    (r.condition?.map fun c => (Descriptor.slotKey rangeSlot, .verbatim c)).toList
  else
    let least := r.lower.map fun l => Length.adjust l (if r.orEqual then o.epsilon else 0.0)
    let greatest := r.upper.map fun l => Length.adjust l (if r.orEqual then 0.0 else o.epsilon)
    (least.map fun l => ("min-width".toList, .text l)).toList ++
      (greatest.map fun l => ("max-width".toList, .text l)).toList

theorem FeatureRegistry.call?_eq_none {γ : Type} {features : FeatureRegistry γ} {f : Text}
    (h : ∀ call ∈ FeatureCall.ofFragment? f, features.get? call.name = none) (d : Descriptor)
    (key : Text) (context : Option γ) : features.call? d f key context = none := by
  rw [call?]
  cases hcall : FeatureCall.ofFragment? f with
  | none => rfl
  | some call => simp only [h call hcall, Option.map_none]

namespace BreakpointTable

variable {t : BreakpointTable} {γ : Type}

def writes (t : BreakpointTable) (f : Text) : List (Text × FeatureValue) :=
  if IsOrientation f then [("orientation".toList, .text f)]
  else
    match t.classify f with
    | some shape => ((t.range? shape).map fun r => r.writes t.options).getD []
    | none => ((QueryKey.clause? f).map fun c => (Descriptor.slotKey f, .verbatim c)).toList

theorem write_eq_foldl (r : WidthRange) (o : RangeOptions) (d : Descriptor) :
    r.write o d = (r.writes o).foldl (fun d p => d.insert p.1 p.2) d := by
  rw [WidthRange.write, WidthRange.writes]
  split
  · rw [WidthRange.writeCondition]
    cases r.condition? <;> rfl
  · rw [WidthRange.writeBounds]
    cases r.lower <;> cases r.upper <;> rfl

theorem foldl_insert_eq (ps : List (Text × FeatureValue)) (d : Descriptor) :
    ps.foldl (fun d p => d.insert p.1 p.2) d =
      { d with entries := ps.foldl (fun m p => m.insert p.1 p.2) d.entries } := by
  induction ps generalizing d with
  | nil => rfl
  | cons p r ih => rw [List.foldl_cons, ih, List.foldl_cons]; rfl

theorem range?_eq_none_iff_dangles {f : Text} {shape : TokenShape}
    (hc : t.classify f = some shape) : t.range? shape = none ↔ shape = .dangling f := by
  rw [range?_eq_none_iff]
  constructor
  · intro he
    obtain ⟨g, rfl⟩ := he
    have hf : TokenShape.spelling (.dangling g) = f :=
      Reads.spelling_eq (hc ▸ reads_classify t f)
    rw [← hf]
    rfl
  · intro he
    subst he
    exact ⟨f, rfl⟩

theorem read_eq (mediaFirst : Bool) (key : Text) (context : Option γ) (d : Descriptor)
    (f : Text) :
    (⟨t, [], mediaFirst⟩ : QuerySettings γ).read key context d f =
      { entries := (t.writes f).foldl (fun m p => m.insert p.1 p.2) d.entries
        unresolved := d.unresolved || decide (t.Dangles f) } := by
  by_cases ho : IsOrientation f
  · have hd : ¬ t.Dangles f := fun h => h.1 ho
    rw [QuerySettings.read, if_pos (isOrientation_iff.2 ho), writes, if_pos ho,
      decide_eq_false hd, Bool.or_false]
    rfl
  · have hd : t.Dangles f ↔ t.classify f = some (.dangling f) := and_iff_right ho
    rw [QuerySettings.read, if_neg (mt isOrientation_iff.1 ho), writes, if_neg ho, isToken,
      resolve]
    cases hc : t.classify f with
    | none =>
      have hdn : ¬ t.Dangles f := by simp [hd, hc]
      rw [decide_eq_false hdn, Bool.or_false]
      cases QueryKey.clause? f with
      | none => rw [FeatureRegistry.call?_eq_none fun _ _ => rfl]; rfl
      | some c => rfl
    | some shape =>
      have hr := range?_eq_none_iff_dangles hc
      rw [hc, Option.some.injEq, ← hr] at hd
      cases hs : t.range? shape with
      | none =>
        rw [decide_eq_true (hd.2 hs), Bool.or_true]
        simp only [hs, Option.isSome_some, if_true, Option.map_none, Option.getD_none,
          List.foldl_nil]
        rfl
      | some r =>
        have hdn : ¬ t.Dangles f := by simp [hd, hs]
        rw [decide_eq_false hdn, Bool.or_false]
        simp only [hs, Option.isSome_some, if_true, Option.map_some, Option.getD_some]
        rw [write_eq_foldl, foldl_insert_eq]

theorem foldl_read_eq (mediaFirst : Bool) (key : Text) (context : Option γ) (d : Descriptor)
    (fs : List Text) :
    fs.foldl ((⟨t, [], mediaFirst⟩ : QuerySettings γ).read key context) d =
      { entries := (fs.flatMap t.writes).foldl (fun m p => m.insert p.1 p.2) d.entries
        unresolved := d.unresolved || decide (∃ f ∈ fs, t.Dangles f) } := by
  induction fs generalizing d with
  | nil => simp
  | cons f r ih =>
    rw [List.foldl_cons, ih, read_eq, List.flatMap_cons, List.foldl_append]
    simp [Bool.or_assoc]

theorem isClause_of_mem_mentions {f : Text} {p : Subject × Text} (hp : p ∈ t.mentions f)
    {g : Text} (hg : p.1 = .clause g) : IsClause g := by
  rw [mentions] at hp
  split at hp
  · obtain rfl := List.mem_singleton.1 hp
    simp at hg
  split at hp
  · rename_i shape _
    cases hr : t.range? shape with
    | none => simp [hr] at hp
    | some r =>
      rw [hr, Option.map_some, Option.getD_some, WidthRange.mentions] at hp
      split at hp
      · simp only [Option.mem_toList, Option.map_eq_some_iff] at hp
        obtain ⟨_, _, rfl⟩ := hp
        simp at hg
      · simp only [List.mem_append, Option.mem_toList, Option.map_eq_some_iff] at hp
        rcases hp with ⟨_, _, rfl⟩ | ⟨_, _, rfl⟩ <;> simp at hg
  · split at hp
    · obtain rfl := List.mem_singleton.1 hp
      obtain rfl : f = g := by simpa using hg
      assumption
    · simp at hp

theorem WidthRange.map_writes (r : WidthRange) (o : RangeOptions) :
    (r.writes o).map (fun p => (p.1, Descriptor.clause? p.1 p.2)) =
      (r.mentions o).map fun p => (p.1.key, some p.2) := by
  rw [WidthRange.writes, WidthRange.mentions]
  split
  · cases r.condition? <;> rfl
  · cases r.lower <;> cases r.upper <;> rfl

theorem map_writes (f : Text) :
    (t.writes f).map (fun p => (p.1, Descriptor.clause? p.1 p.2)) =
      (t.mentions f).map fun p => (p.1.key, some p.2) := by
  rw [writes, mentions]
  split
  · rfl
  split
  · rename_i shape _
    cases t.range? shape with
    | none => rfl
    | some r => exact WidthRange.map_writes r t.options
  · cases hc : QueryKey.clause? f with
    | none =>
      rw [if_neg (clause?_eq_none_iff.1 hc)]
      rfl
    | some c =>
      rw [if_pos (isClause_iff.1 (by rw [hc]; rfl)), clause?_eq_some_iff.1 hc]
      rfl

theorem fst_ne_mediaKey {f : Text} {p : Text × FeatureValue} (hp : p ∈ t.writes f) :
    p.1 ≠ Descriptor.mediaKey := by
  have hm := List.mem_map_of_mem (f := fun p => (p.1, Descriptor.clause? p.1 p.2)) hp
  rw [map_writes, List.mem_map] at hm
  obtain ⟨q, -, hq⟩ := hm
  have hk : q.1.key = p.1 := congrArg Prod.fst hq
  rw [← hk]
  exact q.1.key_ne_mediaKey

theorem describe_eq (mediaFirst : Bool) (key : Text) (context : Option γ) (fs : List Text) :
    (⟨t, [], mediaFirst⟩ : QuerySettings γ).describe key context fs =
      { entries := ((spokenMedia mediaFirst fs).map fun m =>
            (Descriptor.mediaKey, FeatureValue.text m)).toList ++
          OrderedMap.ofPairs ((spokenBody fs).flatMap t.writes)
        unresolved := decide (∃ f ∈ spokenBody fs, t.Dangles f) } := by
  have hopened : (⟨t, [], mediaFirst⟩ : QuerySettings γ).opened fs =
      { entries := ((spokenMedia mediaFirst fs).map fun m =>
          (Descriptor.mediaKey, FeatureValue.text m)).toList } := by
    rw [QuerySettings.opened]
    cases spokenMedia mediaFirst fs <;> rfl
  rw [QuerySettings.describe_eq_foldl, foldl_read_eq, hopened, OrderedMap.foldl_insert_append,
    Bool.false_or]
  intro p hp hk
  obtain ⟨f, -, hf⟩ := List.mem_flatMap.1 hp
  cases hm : spokenMedia mediaFirst fs with
  | none => simp [hm, OrderedMap.keys] at hk
  | some m => exact fst_ne_mediaKey hf (by simpa [hm, OrderedMap.keys] using hk)

theorem mediaPart_eq {media : Option Text} (hm : ∀ m ∈ media, m ≠ [])
    {E : OrderedMap Text FeatureValue} (hE : Descriptor.mediaKey ∉ E.keys) (u : Bool) :
    Descriptor.mediaPart
        { entries := (media.map fun m => (Descriptor.mediaKey, FeatureValue.text m)).toList ++ E
          unresolved := u } = media.toList := by
  rw [Descriptor.mediaPart, Descriptor.media?, Descriptor.get?]
  cases media with
  | none =>
    have hnone := OrderedMap.get?_eq_none_iff.2 hE
    simp [hnone]
  | some m =>
    have h0 : m ≠ [] := hm m rfl
    simp [OrderedMap.get?, h0]

theorem filterMap_clause? {fs : List Text} :
    (OrderedMap.ofPairs (fs.flatMap t.writes)).filterMap
        (fun p => Descriptor.clause? p.1 p.2) =
      ((fs.flatMap t.mentions).map Prod.fst).eraseDups.filterMap
        fun x => OrderedMap.lastWrite? x (fs.flatMap t.mentions) := by
  have hmap : (fs.flatMap t.writes).map (fun p => (p.1, Descriptor.clause? p.1 p.2)) =
      (fs.flatMap t.mentions).map fun p => (p.1.key, some p.2) := by
    rw [List.map_flatMap, List.map_flatMap]
    simp only [map_writes]
  have hclause (x : Subject) (hx : x ∈ (fs.flatMap t.mentions).map Prod.fst) (g : Text)
      (hg : x = .clause g) : IsClause g := by
    obtain ⟨p, hp, rfl⟩ := List.mem_map.1 hx
    obtain ⟨f, -, hf⟩ := List.mem_flatMap.1 hp
    exact isClause_of_mem_mentions hf hg
  have hkey (x : Subject) (hx : x ∈ (fs.flatMap t.mentions).map Prod.fst)
      (y : Subject) (hy : y ∈ (fs.flatMap t.mentions).map Prod.fst) (h : x.key = y.key) :
      x = y := by
    rw [← Subject.ofKey_key (hclause x hx), h, Subject.ofKey_key (hclause y hy)]
  have hid (k : Text) (_ : k ∈ (fs.flatMap t.writes).map Prod.fst)
      (k' : Text) (_ : k' ∈ (fs.flatMap t.writes).map Prod.fst) (h : id k = id k') : k = k' := h
  have hw := OrderedMap.ofPairs_map (fun k v => Descriptor.clause? k v) hid
  have hm := OrderedMap.ofPairs_map (fun _ v => some v) hkey
  calc (OrderedMap.ofPairs (fs.flatMap t.writes)).filterMap
        (fun p => Descriptor.clause? p.1 p.2)
      = ((OrderedMap.ofPairs (fs.flatMap t.writes)).map
          fun p => (id p.1, Descriptor.clause? p.1 p.2)).filterMap Prod.snd := by
        rw [List.filterMap_map]
        rfl
    _ = ((OrderedMap.ofPairs (fs.flatMap t.mentions)).map
          fun p => (p.1.key, some p.2)).filterMap Prod.snd := by
        rw [← hw, ← hm]
        exact congrArg (fun ps => (OrderedMap.ofPairs ps).filterMap Prod.snd) hmap
    _ = _ := by
        rw [List.filterMap_map, OrderedMap.ofPairs_eq, List.filterMap_filterMap]
        apply List.filterMap_congr
        intro x _
        cases OrderedMap.lastWrite? x (fs.flatMap t.mentions) <;> rfl

theorem spokenMedia_ne_nil {mediaFirst : Bool} {fs : List Text} :
    ∀ m ∈ spokenMedia mediaFirst fs, m ≠ [] := by
  intro m hm
  rw [spokenMedia, Option.mem_def, Option.or_eq_some_iff] at hm
  rcases hm with hm | ⟨-, hm⟩
  · rw [Option.filter_eq_some_iff] at hm
    exact NamesMedia.ne_nil (by simpa using hm.2)
  · split at hm
    · obtain rfl := Option.some.inj hm
      decide
    · simp at hm

theorem mediaKey_notMem_keys {fs : List Text} :
    Descriptor.mediaKey ∉ (OrderedMap.ofPairs (fs.flatMap t.writes)).keys := by
  rw [OrderedMap.mem_keys_ofPairs, List.mem_map]
  intro he
  obtain ⟨p, hp, hk⟩ := he
  obtain ⟨f, -, hf⟩ := List.mem_flatMap.1 hp
  exact fst_ne_mediaKey hf hk

theorem clauses_eq {media : Option Text} {E : OrderedMap Text FeatureValue}
    (hE : Descriptor.mediaKey ∉ E.keys) (u : Bool) :
    Descriptor.clauses
        { entries := (media.map fun m => (Descriptor.mediaKey, FeatureValue.text m)).toList ++ E
          unresolved := u } =
      if u then [] else E.filterMap fun p => Descriptor.clause? p.1 p.2 := by
  have hfilter : E.filter (fun p => p.1 ≠ Descriptor.mediaKey) = E := by
    rw [List.filter_eq_self]
    intro p hp
    have : p.1 ≠ Descriptor.mediaKey := by
      intro h
      exact hE (h ▸ List.mem_map_of_mem hp)
    simpa using this
  rw [Descriptor.clauses, List.filter_append, hfilter]
  cases media <;> simp

theorem branch_eq_readBranch (t : BreakpointTable) (mediaFirst : Bool) (key : Text)
    (context : Option γ) (b : Text) :
    (⟨t, [], mediaFirst⟩ : QuerySettings γ).branch key context b =
      t.readBranch mediaFirst (QueryKey.fragments b) := by
  rw [QuerySettings.branch, describe_eq, Descriptor.render,
    mediaPart_eq spokenMedia_ne_nil mediaKey_notMem_keys, clauses_eq mediaKey_notMem_keys,
    filterMap_clause?, readBranch]
  simp only [decide_eq_true_eq]

end BreakpointTable

end ResponsiveStyles
