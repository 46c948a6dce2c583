import ResponsiveStyles.Proofs.PropertyPattern

/-!
# Stylesheets with many declarations

A stylesheet may declare breakpoints for several keys, and for one key more than once. A declaration
counts for the key that it spells and for no other one, however much of it the keys have in common;
and of the declarations for a key the last one counts.
-/
namespace ResponsiveStyles.Definition

def opening : Text := "--breakpoints-".toList

theorem property_eq (key : Text) : property key = opening ++ key := rfl

structure IsKey (key : Text) : Prop where
  ne_nil : key ≠ []
  not_isBlank : ∀ c ∈ key, ¬ Text.isBlank c
  colon_notMem : ':' ∉ key
  semicolon_notMem : ';' ∉ key
  brace_notMem : '\x7d' ∉ key

theorem isKey_iff {key : Text} :
    IsKey key ↔ key ≠ [] ∧ key.all (fun c => !Text.isBlank c) ∧ ':' ∉ key ∧ ';' ∉ key ∧
      '\x7d' ∉ key := by
  constructor
  · intro h
    have hall : key.all (fun c => !Text.isBlank c) := by simpa using h.not_isBlank
    exact ⟨h.ne_nil, hall, h.colon_notMem, h.semicolon_notMem, h.brace_notMem⟩
  · rintro ⟨hne, hall, hcolon, hsemicolon, hbrace⟩
    exact ⟨hne, by simpa using hall, hcolon, hsemicolon, hbrace⟩

instance (key : Text) : Decidable (IsKey key) :=
  decidable_of_iff' _ isKey_iff

/-- A declaration for a key, up to where it is closed. -/
structure Declaration where
  key : Text
  /-- The white space in front of the colon. -/
  before : Text
  /-- The white space behind the colon. -/
  after : Text
  value : Text
  isKey : IsKey key
  isAllBlank_before : Text.isAllBlank before
  isAllBlank_after : Text.isAllBlank after
  semicolon_notMem : ';' ∉ value
  brace_notMem : '\x7d' ∉ value

def Declaration.source (d : Declaration) : Text :=
  property d.key ++ (d.before ++ ':' :: (d.after ++ d.value))

def sourceOf (rest : List (Declaration × Text)) : Text :=
  rest.flatMap fun p => p.1.source ++ p.2

def starts : List (Declaration × Text) → List Text
  | [] => []
  | p :: r => sourceOf (p :: r) :: starts r

def AllClosed : List (Declaration × Text) → Prop
  | [] => True
  | p :: r => Closes p.2 ∧ (p.2 = [] → r = []) ∧ AllClosed r

/-- What looks like the beginning of a declaration is one of these places. -/
def OpensOnlyAt (places : List Text) (t : Text) : Prop :=
  ∀ s, s <:+ t → opening <+: s → s ∈ places

theorem opensOnlyAt_iff {places : List Text} {t : Text} :
    OpensOnlyAt places t ↔
      t.tails.all fun s => !opening.isPrefixOf s || places.contains s := by
  simp only [OpensOnlyAt, List.all_eq_true, List.mem_tails, Bool.or_eq_true, Bool.not_eq_true',
    ← Bool.not_eq_true, List.isPrefixOf_iff_prefix, List.contains_iff_mem, imp_iff_not_or]

instance (places : List Text) (t : Text) : Decidable (OpensOnlyAt places t) :=
  decidable_of_iff' _ opensOnlyAt_iff

/-- A text with declarations, closed and without further openings. -/
structure Sheet where
  first : Text
  rest : List (Declaration × Text)
  allClosed : AllClosed rest
  opensOnlyAt : OpensOnlyAt (starts rest) (first ++ sourceOf rest)

namespace Sheet

def source (s : Sheet) : Text :=
  s.first ++ sourceOf s.rest

def declarations (s : Sheet) : List Declaration :=
  s.rest.map Prod.fst

end Sheet

section Key
variable {k k' : Text}

theorem IsKey.takeWhile_eq (hk : IsKey k) {b : Text} (hb : Text.isAllBlank b) (x : Text) :
    (k ++ (b ++ ':' :: x)).takeWhile (fun c => !Text.isBlank c && c != ':') = k := by
  have hkey : ∀ c ∈ k, (!Text.isBlank c && c != ':') = true := by
    intro c hc
    have hcolon : c ≠ ':' := fun h => hk.colon_notMem (h ▸ hc)
    simp [hk.not_isBlank c hc, hcolon]
  rw [List.takeWhile_append_of_pos hkey]
  cases b with
  | nil => simp
  | cons c b =>
    have hc : Text.isBlank c := List.all_eq_true.1 hb c List.mem_cons_self
    simp [hc]

theorem declared?_eq_none (hk : IsKey k) (hk' : IsKey k') (hne : k ≠ k') {b : Text}
    (hb : Text.isAllBlank b) (x : Text) :
    declared? (property k') (property k ++ (b ++ ':' :: x)) = none := by
  cases h : declared? (property k') (property k ++ (b ++ ':' :: x)) with
  | none => rfl
  | some p =>
    obtain ⟨value, rest⟩ := p
    obtain ⟨b', x', hb', heq, -⟩ := declared?_eq_some_iff.1 h
    rw [property_eq, property_eq, List.append_assoc, List.append_assoc,
      List.append_cancel_left_eq] at heq
    have htake := hk.takeWhile_eq hb x
    rw [heq, hk'.takeWhile_eq hb' x'] at htake
    exact absurd htake.symm hne

theorem declared?_eq_none_of_not_opening {t : Text} (h : ¬ opening <+: t) :
    declared? (property k) t = none := by
  cases hd : declared? (property k) t with
  | none => rfl
  | some p =>
    obtain ⟨value, rest⟩ := p
    obtain ⟨b, x, -, rfl, -⟩ := declared?_eq_some_iff.1 hd
    rw [property_eq, List.append_assoc] at h
    exact absurd (List.prefix_append _ _) h

end Key

theorem Declaration.declared?_source (d : Declaration) {t : Text} (ht : Closes t) :
    declared? (property d.key) (d.source ++ t) = some (d.after ++ d.value, t) := by
  have hafter {c : Char} (hc : Text.isBlank c = false) (hv : c ∉ d.value) :
      c ∉ d.after ++ d.value := by
    rw [List.mem_append, not_or]
    exact ⟨Text.notMem_of_isAllBlank hc d.isAllBlank_after, hv⟩
  have hfound : declared? (property d.key)
      (property d.key ++ (d.before ++ ':' :: (d.after ++ d.value ++ t))) = _ :=
    declared?_append d.isAllBlank_before (hafter (by decide) d.semicolon_notMem)
      (hafter (by decide) d.brace_notMem) ht
  rw [Declaration.source]
  simpa only [List.append_assoc, List.cons_append] using hfound

theorem Closes.append {t : Text} {r : List (Declaration × Text)} (ht : Closes t)
    (hr : t = [] → r = []) : Closes (t ++ sourceOf r) := by
  cases t with
  | nil =>
    rw [hr rfl]
    exact ht
  | cons c t => exact ht

theorem values_append_of_quiet {p u v : Text}
    (h : ∀ w, w ≠ [] → w <:+ u → declared? p (w ++ v) = none) :
    values p (u ++ v) = values p v := by
  induction u with
  | nil => rfl
  | cons c u ih =>
    have hc := h (c :: u) (by simp) List.suffix_rfl
    rw [List.cons_append] at hc ⊢
    rw [values_cons hc, ih fun w hw hs => h w hw (hs.trans (List.suffix_cons c u))]

theorem sourceOf_cons (d : Declaration) (t : Text) (r : List (Declaration × Text)) :
    sourceOf ((d, t) :: r) = d.source ++ (t ++ sourceOf r) := by
  rw [sourceOf, List.flatMap_cons, List.append_assoc]
  rfl

theorem length_le_of_mem_starts {r : List (Declaration × Text)} {s : Text} (h : s ∈ starts r) :
    s.length ≤ (sourceOf r).length := by
  induction r with
  | nil => exact absurd h List.not_mem_nil
  | cons p r ih =>
    rcases List.mem_cons.1 h with rfl | h
    · exact le_rfl
    · have := ih h
      rw [sourceOf, List.flatMap_cons, ← sourceOf, List.length_append]
      omega

section Places
variable {r : List (Declaration × Text)} {u v : Text}

theorem OpensOnlyAt.of_suffix {places : List Text} (h : OpensOnlyAt places v) (hu : u <:+ v) :
    OpensOnlyAt places u :=
  fun s hs => h s (hs.trans hu)

theorem OpensOnlyAt.not_opening (h : OpensOnlyAt (starts r) (u ++ sourceOf r)) {w : Text}
    (hw : w ≠ []) (hs : w <:+ u) : ¬ opening <+: w ++ sourceOf r := by
  intro ho
  obtain ⟨u', rfl⟩ := hs
  have hmem := h (w ++ sourceOf r) ⟨u', (List.append_assoc _ _ _).symm⟩ ho
  have hlength := length_le_of_mem_starts hmem
  have := List.length_pos_of_ne_nil hw
  rw [List.length_append] at hlength
  omega

theorem OpensOnlyAt.tail {p : Declaration × Text} (h : OpensOnlyAt (starts (p :: r)) v)
    (hlength : v.length < (sourceOf (p :: r)).length) : OpensOnlyAt (starts r) v := by
  intro s hs ho
  rcases List.mem_cons.1 (h s hs ho) with rfl | hmem
  · exact absurd hs.length_le (Nat.not_le.2 hlength)
  · exact hmem

theorem OpensOnlyAt.behind {d : Declaration} {t w : Text}
    (h : OpensOnlyAt (starts ((d, t) :: r)) (sourceOf ((d, t) :: r))) (hw : w <:+ d.source)
    (hne : w ≠ d.source) : OpensOnlyAt (starts r) (w ++ (t ++ sourceOf r)) := by
  obtain ⟨u, hu⟩ := hw
  have hlength : 0 < u.length := by
    refine List.length_pos_of_ne_nil fun h0 => hne ?_
    rw [← hu, h0, List.nil_append]
  rw [sourceOf_cons] at h
  refine (h.of_suffix ⟨u, by rw [← hu, List.append_assoc]⟩).tail ?_
  rw [sourceOf_cons, ← hu]
  simp only [List.length_append]
  omega

end Places

section Values
variable {key t u : Text} {d : Declaration} {r : List (Declaration × Text)}

theorem values_append_sourceOf (h : OpensOnlyAt (starts r) (u ++ sourceOf r)) :
    values (property key) (u ++ sourceOf r) = values (property key) (sourceOf r) :=
  values_append_of_quiet fun _ hw hs => declared?_eq_none_of_not_opening (h.not_opening hw hs)

theorem values_source_of_ne (hkey : IsKey key) (hd : d.key ≠ key)
    (h : OpensOnlyAt (starts ((d, t) :: r)) (sourceOf ((d, t) :: r))) :
    values (property key) (d.source ++ (t ++ sourceOf r)) =
      values (property key) (t ++ sourceOf r) := by
  refine values_append_of_quiet fun w hw hs => ?_
  by_cases hwd : w = d.source
  · have hnone := declared?_eq_none d.isKey hkey hd d.isAllBlank_before
      (d.after ++ (d.value ++ (t ++ sourceOf r)))
    rw [hwd, Declaration.source]
    simpa only [List.append_assoc, List.cons_append] using hnone
  · have hbehind := h.behind hs hwd
    rw [← List.append_assoc] at hbehind ⊢
    exact declared?_eq_none_of_not_opening
      (hbehind.not_opening (List.append_ne_nil_of_left_ne_nil hw t) List.suffix_rfl)

end Values

theorem values_sourceOf {key : Text} (hkey : IsKey key) {rest : List (Declaration × Text)}
    (hclosed : AllClosed rest) {first : Text}
    (hopens : OpensOnlyAt (starts rest) (first ++ sourceOf rest)) :
    values (property key) (first ++ sourceOf rest) =
      ((rest.map Prod.fst).filter fun d => d.key = key).map fun d => d.after ++ d.value := by
  rw [values_append_sourceOf hopens]
  induction rest generalizing first with
  | nil =>
    rw [sourceOf, List.flatMap_nil, values]
    rfl
  | cons p r ih =>
    obtain ⟨d, t⟩ := p
    obtain ⟨hcloses, hend, hclosed⟩ := hclosed
    have hhere := hopens.of_suffix (List.suffix_append first (sourceOf ((d, t) :: r)))
    have hbehind : OpensOnlyAt (starts r) (t ++ sourceOf r) :=
      hhere.behind List.nil_suffix fun h => by simp [Declaration.source] at h
    have hrest := (values_append_sourceOf hbehind).trans (ih hclosed hbehind)
    rw [sourceOf_cons, List.map_cons]
    by_cases hk : d.key = key
    · have hvalue := d.declared?_source (hcloses.append hend)
      rw [hk] at hvalue
      rw [values_of_declared? hvalue, hrest, List.filter_cons_of_pos (by simpa using hk),
        List.map_cons]
    · rw [values_source_of_ne hkey hk hhere, hrest, List.filter_cons_of_neg (by simpa using hk)]

/-- The definition for a key is the trimmed value of the last declaration that spells this very key,
and there is none if no declaration does or that value is blank. -/
theorem ofStylesheet?_source (s : Sheet) {key : Text} (hkey : IsKey key) :
    ofStylesheet? s.source key =
      (s.declarations.filter fun d => d.key = key).getLast?.bind fun d =>
        if Text.isAllBlank d.value then none else some (Text.trim d.value) := by
  rw [ofStylesheet?_eq, Sheet.source, values_sourceOf hkey s.allClosed s.opensOnlyAt,
    List.getLast?_map, ← Sheet.declarations, Option.bind_map]
  congr 1
  funext d
  have hafter : Text.isAllBlank (d.after ++ d.value) = Text.isAllBlank d.value := by
    rw [Text.isAllBlank, List.all_append, ← Text.isAllBlank, d.isAllBlank_after, Bool.true_and]
    rfl
  rw [Function.comp_apply, hafter, Text.trim_append_left d.isAllBlank_after]

def similarDeclarations : List (Declaration × Text) := [
  (⟨"m.".toList, [], [' '], "[1]".toList, by decide, rfl, rfl, by decide, by decide⟩,
    ";\n".toList),
  (⟨"m.".toList, ['\t'], ['\n'], "[2] ".toList, by decide, rfl, rfl, by decide, by decide⟩,
    "\x7d q \x7b".toList),
  (⟨"x".toList, [], [' '], [], by decide, rfl, rfl, by decide, by decide⟩, [';']),
  (⟨"md".toList, [], [], "[3]".toList, by decide, rfl, rfl, by decide, by decide⟩, [';']),
  (⟨"m.2".toList, [], [], "[4]".toList, by decide, rfl, rfl, by decide, by decide⟩, [])]

theorem allClosed_similarDeclarations : AllClosed similarDeclarations := by
  simp [similarDeclarations, AllClosed, Closes, isInside]

theorem opensOnlyAt_similarDeclarations : OpensOnlyAt (starts similarDeclarations)
    ("p \x7b".toList ++ sourceOf similarDeclarations) := by
  decide +kernel

def similarKeys : Sheet where
  first := "p \x7b".toList
  rest := similarDeclarations
  allClosed := allClosed_similarDeclarations
  opensOnlyAt := opensOnlyAt_similarDeclarations

theorem ofStylesheet?_similarKeys :
    similarKeys.source =
        ("p \x7b--breakpoints-m.: [1];\n--breakpoints-m.\t:\n[2] \x7d q \x7b" ++
          "--breakpoints-x: ;--breakpoints-md:[3];--breakpoints-m.2:[4]").toList ∧
      ofStylesheet? similarKeys.source "m.".toList = some "[2]".toList ∧
      ofStylesheet? similarKeys.source "x".toList = none ∧
      ofStylesheet? similarKeys.source "m".toList = none := by
  refine ⟨by decide +kernel, ?_, ?_, ?_⟩
  · exact (ofStylesheet?_source similarKeys (by decide +kernel)).trans (by decide +kernel)
  · exact (ofStylesheet?_source similarKeys (by decide +kernel)).trans (by decide +kernel)
  · exact (ofStylesheet?_source similarKeys (by decide +kernel)).trans (by decide +kernel)

end ResponsiveStyles.Definition
