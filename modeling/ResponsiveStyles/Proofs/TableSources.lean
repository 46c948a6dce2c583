import ResponsiveStyles.Config.Basic
import ResponsiveStyles.Proofs.NameQueries
import ResponsiveStyles.Proofs.WriteHistory

/-!
# Where tables come from

A list of breakpoints is refused when it is empty, and otherwise for the fault at its earliest place that
has one. What is not refused is the table, and the places of its names can be entered while the list is
checked. A configuration gives at most one list; where it gives none that can be used, the fallback
stands in. In every table a name leads to its place, to its length and to the breakpoint after it.
-/
namespace ResponsiveStyles

namespace BreakpointTable

/-- What is wrong with the name at a place: it is blank, or it stands at an earlier place as well. -/
def faultAt? (entries : List Breakpoint) (i : Nat) : Option BreakpointError :=
  entries[i]?.bind fun b =>
    if Text.trim b.name = [] then some (.blankName i)
    else if ∃ b' ∈ entries.take i, b'.name = b.name then some (.duplicateName b.name)
    else none

structure Usable (entries : List Breakpoint) : Prop where
  nonempty : entries ≠ []
  named : ∀ b ∈ entries, Text.trim b.name ≠ []
  distinct : (entries.map Breakpoint.name).Nodup

inductive RefusedFor (entries : List Breakpoint) : BreakpointError → Prop where
  | empty (h : entries = []) : RefusedFor entries .empty
  | first {i : Nat} {e : BreakpointError} (hi : faultAt? entries i = some e)
      (hfirst : ∀ j < i, faultAt? entries j = none) : RefusedFor entries e

def enterPlaces (position : Nat) (index : OrderedMap Text Nat) :
    List Breakpoint → Except BreakpointError (OrderedMap Text Nat)
  | [] => .ok index
  | b :: r =>
    if Text.trim b.name = [] then .error (.blankName position)
    else if index.contains b.name then .error (.duplicateName b.name)
    else enterPlaces (position + 1) (index.insert b.name position) r

section Faults
variable {entries u r : List Breakpoint} {b : Breakpoint} {e : BreakpointError} {seen : List Text}

theorem named_iff {b : Breakpoint} : Text.isAllBlank b.name = false ↔ Text.trim b.name ≠ [] := by
  rw [ne_eq, Text.trim_eq_nil_iff, Bool.not_eq_true]

theorem firstFault?_cons_eq_or (hseen : ∀ n, n ∈ seen ↔ n ∈ u.map Breakpoint.name) :
    firstFault? seen u.length (b :: r) =
      (faultAt? (u ++ b :: r) u.length).or (firstFault? (b.name :: seen) (u ++ [b]).length r) := by
  have hat : faultAt? (u ++ b :: r) u.length =
      if Text.trim b.name = [] then some (.blankName u.length)
      else if b.name ∈ u.map Breakpoint.name then some (.duplicateName b.name) else none := by
    simp [faultAt?]
  rw [hat, firstFault?]
  simp only [hseen, ← Text.trim_eq_nil_iff, List.length_append, List.length_singleton]
  split_ifs <;> rfl

theorem exists_first_iff {f : Nat → Option BreakpointError} {n : Nat} :
    (∃ i, n ≤ i ∧ f i = some e ∧ ∀ j, n ≤ j → j < i → f j = none) ↔
      f n = some e ∨ f n = none ∧
        ∃ i, n + 1 ≤ i ∧ f i = some e ∧ ∀ j, n + 1 ≤ j → j < i → f j = none := by
  constructor
  · intro he
    obtain ⟨i, hi, hfound, hfirst⟩ := he
    rcases Nat.eq_or_lt_of_le hi with rfl | hi
    · exact .inl hfound
    · exact .inr ⟨hfirst n le_rfl hi, i, hi, hfound, fun j hj => hfirst j (Nat.le_of_lt hj)⟩
  · intro he
    rcases he with hfound | ⟨hnone, i, hi, hfound, hfirst⟩
    · exact ⟨n, le_rfl, hfound, fun j hj hj' => absurd hj (Nat.not_le_of_lt hj')⟩
    · refine ⟨i, Nat.le_of_lt hi, hfound, fun j hj hj' => ?_⟩
      rcases Nat.eq_or_lt_of_le hj with rfl | hj
      · exact hnone
      · exact hfirst j hj hj'

theorem firstFault?_eq_some_iff (hseen : ∀ n, n ∈ seen ↔ n ∈ u.map Breakpoint.name) :
    firstFault? seen u.length r = some e ↔
      ∃ i, u.length ≤ i ∧ faultAt? (u ++ r) i = some e ∧
        ∀ j, u.length ≤ j → j < i → faultAt? (u ++ r) j = none := by
  induction r generalizing u seen with
  | nil =>
    simp only [firstFault?, List.append_nil, reduceCtorEq, false_iff]
    intro he
    obtain ⟨i, hi, hfault, -⟩ := he
    simp [faultAt?, hi] at hfault
  | cons b r ih =>
    have hseen' (n : Text) : n ∈ b.name :: seen ↔ n ∈ (u ++ [b]).map Breakpoint.name := by
      simp [hseen, or_comm]
    have hr := ih hseen'
    rw [List.append_assoc, List.singleton_append, List.length_append, List.length_singleton] at hr
    rw [firstFault?_cons_eq_or hseen, List.length_append, List.length_singleton, exists_first_iff,
      ← hr, Option.or_eq_some_iff]

theorem firstFault?_nil_eq_some_iff :
    firstFault? [] 0 entries = some e ↔
      ∃ i, faultAt? entries i = some e ∧ ∀ j < i, faultAt? entries j = none := by
  have hseen (n : Text) : n ∈ ([] : List Text) ↔ n ∈ ([] : List Breakpoint).map Breakpoint.name := by
    simp
  simpa using firstFault?_eq_some_iff (e := e) (r := entries) hseen

theorem ofEntries?_eq_error_iff {options : RangeOptions} :
    ofEntries? entries options = .error e ↔ RefusedFor entries e := by
  unfold ofEntries?
  split
  · rename_i hnil
    subst hnil
    constructor
    · intro he
      rw [← Except.error.inj he]
      exact .empty rfl
    · intro h
      cases h with
      | empty _ => rfl
      | first hi _ => simp [faultAt?] at hi
  · rename_i hne
    have hrefused : RefusedFor entries e ↔ firstFault? [] 0 entries = some e := by
      rw [firstFault?_nil_eq_some_iff]
      constructor
      · intro h
        cases h with
        | empty h => exact absurd h hne
        | first hi hfirst => exact ⟨_, hi, hfirst⟩
      · intro he
        obtain ⟨i, hi, hfirst⟩ := he
        exact .first hi hfirst
    rw [hrefused]
    split
    · rename_i fault h
      simp [h]
    · rename_i h
      simp [h]

theorem usable_iff : Usable entries ↔ entries ≠ [] ∧ firstFault? [] 0 entries = none := by
  simp only [firstFault?_eq_none_iff, named_iff]
  constructor
  · intro h
    exact ⟨h.nonempty, h.named, h.distinct, by simp⟩
  · intro he
    obtain ⟨hnonempty, hnamed, hdistinct, -⟩ := he
    exact ⟨hnonempty, hnamed, hdistinct⟩

theorem ofEntries?_ok_iff {options : RangeOptions} {t : BreakpointTable} :
    ofEntries? entries options = .ok t ↔
      Usable entries ∧ t.entries = entries ∧ t.options = options := by
  rw [usable_iff]
  unfold ofEntries?
  split
  · rename_i hnil
    simp [hnil]
  · rename_i hne
    split
    · rename_i fault h
      simp [h]
    · rename_i h
      obtain ⟨entries', options', _, _, _⟩ := t
      simp only [h, hne, ne_eq, not_false_eq_true, true_and, Except.ok.injEq,
        BreakpointTable.mk.injEq, eq_comm]

end Faults

section Places
variable {entries : List Breakpoint} {seen : List Text} {index : OrderedMap Text Nat}

def placesFrom (position : Nat) (entries : List Breakpoint) : OrderedMap Text Nat :=
  (entries.zipIdx position).map fun p => (p.1.name, p.2)

theorem enterPlaces_eq (hseen : ∀ n, n ∈ seen ↔ n ∈ index.keys) (position : Nat) :
    enterPlaces position index entries =
      match firstFault? seen position entries with
      | some e => .error e
      | none => .ok (index ++ placesFrom position entries) := by
  induction entries generalizing seen index position with
  | nil => simp [enterPlaces, firstFault?, placesFrom]
  | cons b r ih =>
    rw [enterPlaces, firstFault?]
    simp only [← Text.trim_eq_nil_iff, hseen, OrderedMap.contains_iff]
    split_ifs with hblank hold
    · rfl
    · rfl
    · have hseen' (n : Text) : n ∈ b.name :: seen ↔
          n ∈ OrderedMap.keys (index ++ [(b.name, position)]) := by
        simp [OrderedMap.keys, hseen, or_comm]
      rw [OrderedMap.insert_of_notMem hold, ih hseen']
      cases firstFault? (b.name :: seen) (position + 1) r with
      | some e => rfl
      | none => simp [placesFrom]

theorem get?_placesFrom (n : Text) (position : Nat) :
    (placesFrom position entries).get? n =
      ((entries.map Breakpoint.name).idxOf? n).map (· + position) := by
  induction entries generalizing position with
  | nil => rfl
  | cons b r ih =>
    have hcons : placesFrom position (b :: r) =
        (b.name, position) :: placesFrom (position + 1) r := rfl
    rw [hcons, OrderedMap.get?, ih, List.map_cons, List.idxOf?_cons]
    by_cases hb : b.name = n
    · simp [hb]
    · simp [hb, Function.comp_def, Nat.add_comm, Nat.add_left_comm]

theorem map_index?_ofEntries? (entries : List Breakpoint) (options : RangeOptions) :
    (ofEntries? entries options).map index? =
      if entries = [] then .error .empty
      else (enterPlaces 0 [] entries).map fun index n => index.get? n := by
  have hseen (n : Text) : n ∈ ([] : List Text) ↔ n ∈ OrderedMap.keys ([] : OrderedMap Text Nat) := by
    simp [OrderedMap.keys]
  rw [enterPlaces_eq hseen]
  unfold ofEntries?
  split_ifs with hnil
  · rfl
  · split
    · rename_i fault h
      simp only [h]
      rfl
    · rename_i h
      simp only [h, List.nil_append, Except.map]
      congr 1
      funext n
      simp [get?_placesFrom, index?, names]

end Places

/-- What the names of a table lead to. -/
structure Consistent (t : BreakpointTable) : Prop where
  usable : Usable t.entries
  index?_eq_some_iff : ∀ n i, t.index? n = some i ↔ ∃ b : Breakpoint, t.entries[i]? = some b ∧ b.name = n
  length?_eq_some_iff : ∀ n l, t.length? n = some l ↔
    ∃ (i : Nat) (b : Breakpoint), t.entries[i]? = some b ∧ b.name = n ∧ b.length = l
  next?_eq_some_iff : ∀ n b', t.next? n = some b' ↔
    ∃ (i : Nat) (b : Breakpoint),
      t.entries[i]? = some b ∧ b.name = n ∧ t.entries[i + 1]? = some b'

theorem exists_place {t : BreakpointTable} {n : Text} (h : n ∈ t.names) :
    ∃ (i : Nat) (b : Breakpoint), t.entries[i]? = some b ∧ b.name = n := by
  obtain ⟨b, hb, hn⟩ := List.mem_map.1 h
  obtain ⟨i, hi⟩ := List.mem_iff_getElem?.1 hb
  exact ⟨i, b, hi, hn⟩

theorem mem_names_of_index? {t : BreakpointTable} {n : Text} {i : Nat} (h : t.index? n = some i) :
    n ∈ t.names := by
  obtain ⟨hlt, hn, -⟩ := List.idxOf?_eq_some_iff.1 h
  exact hn ▸ List.getElem_mem hlt

theorem consistent (t : BreakpointTable) : t.Consistent where
  usable := ⟨t.nonempty, fun b hb => named_iff.1 (t.named b hb), t.distinct⟩
  index?_eq_some_iff n i := by
    constructor
    · intro h
      obtain ⟨j, b, hb, rfl⟩ := exists_place (mem_names_of_index? h)
      obtain rfl : j = i := Option.some.inj ((index?_name hb).symm.trans h)
      exact ⟨b, hb, rfl⟩
    · intro he
      obtain ⟨b, hb, rfl⟩ := he
      exact index?_name hb
  length?_eq_some_iff n l := by
    constructor
    · intro h
      have hn : n ∈ t.names := isSome_length?_iff.1 (by rw [h]; rfl)
      obtain ⟨i, b, hb, rfl⟩ := exists_place hn
      exact ⟨i, b, hb, rfl, Option.some.inj ((length?_name hb).symm.trans h)⟩
    · intro he
      obtain ⟨i, b, hb, rfl, rfl⟩ := he
      exact length?_name hb
  next?_eq_some_iff n b' := by
    constructor
    · intro h
      obtain ⟨i, hi, -⟩ := Option.bind_eq_some_iff.1 h
      obtain ⟨i, b, hb, rfl⟩ := exists_place (mem_names_of_index? hi)
      exact ⟨i, b, hb, rfl, (next?_name hb).symm.trans h⟩
    · intro he
      obtain ⟨i, b, hb, rfl, hb'⟩ := he
      rw [next?_name hb, hb']

/-- What a list comes to: it is refused for its first fault, or it is the table. -/
structure Checked (entries : List Breakpoint) (options : RangeOptions) : Prop where
  ok_iff : ∀ t, ofEntries? entries options = .ok t ↔
    Usable entries ∧ t.entries = entries ∧ t.options = options
  error_iff : ∀ e, ofEntries? entries options = .error e ↔ RefusedFor entries e
  places_eq : (ofEntries? entries options).map index? =
    if entries = [] then .error .empty
    else (enterPlaces 0 [] entries).map fun index n => index.get? n

/-- The table of a list that is given and can be used, and otherwise the fallback. -/
structure MadeOf (given : Option (List Breakpoint)) (options : RangeOptions)
    (t : BreakpointTable) : Prop where
  options_eq : t.options = options
  entries_eq : (∃ entries, given = some entries ∧ Usable entries ∧ t.entries = entries) ∨
    (¬ ∃ entries, given = some entries ∧ Usable entries) ∧
      t.entries = [⟨"undefined".toList, "0px".toList⟩]

theorem madeOf_fallback (options : RangeOptions) : MadeOf none options (fallback options) :=
  ⟨rfl, .inr ⟨by simp, rfl⟩⟩

theorem madeOf_ofEntries (entries : List Breakpoint) (options : RangeOptions) :
    MadeOf (some entries) options (ofEntries entries options) := by
  unfold ofEntries
  split
  · rename_i t h
    obtain ⟨husable, hentries, hoptions⟩ := ofEntries?_ok_iff.1 h
    exact ⟨hoptions, .inl ⟨entries, rfl, husable, hentries⟩⟩
  · rename_i e h
    refine ⟨rfl, .inr ⟨?_, rfl⟩⟩
    intro he
    obtain ⟨_, hgiven, husable⟩ := he
    obtain rfl := Option.some.inj hgiven
    have hok : ∃ t, ofEntries? entries options = .ok t := ofEntries?_eq_ok_iff.2
      ⟨husable.nonempty, fun b hb => named_iff.2 (husable.named b hb), husable.distinct⟩
    simp [h] at hok

end BreakpointTable

def Config.given? (c : Config) : Option (List Breakpoint) :=
  match c.breakpoints with
  | some entries => some entries
  | none => c.definition.bind fun definition => (Definition.parse definition).toOption

namespace BreakpointTable

theorem madeOf_table (c : Config) : MadeOf c.given? c.range c.table := by
  rw [Config.table, Config.entries, Config.given?]
  cases c.breakpoints with
  | some entries => exact madeOf_ofEntries entries c.range
  | none =>
    cases c.definition with
    | none => exact madeOf_fallback c.range
    | some definition =>
      cases h : Definition.parse definition with
      | error e => simpa [h, Except.toOption] using madeOf_fallback c.range
      | ok entries => simpa [h, Except.toOption] using madeOf_ofEntries entries c.range

/-- However a table is made, it is that of a list without faults, and its names lead to their places. -/
theorem tables_of_lists :
    (∀ entries options, Checked entries options ∧
      MadeOf (some entries) options (ofEntries entries options)) ∧
    (∀ options, MadeOf none options (fallback options)) ∧
    (∀ c : Config, MadeOf c.given? c.range c.table) ∧
    (∀ t : BreakpointTable, t.Consistent) ∧
    ∀ i, (BreakpointError.blankName i).found? =
      some ("empty name at position ".toList ++ Text.ofNat i) := by
  refine ⟨fun entries options => ⟨?_, madeOf_ofEntries entries options⟩, madeOf_fallback,
    madeOf_table, consistent, fun i => rfl⟩
  exact ⟨fun t => ofEntries?_ok_iff, fun e => ofEntries?_eq_error_iff,
    map_index?_ofEntries? entries options⟩

-- the name that stands twice comes before the blank one
example : ofEntries? [⟨"md".toList, "768px".toList⟩, ⟨"md".toList, "1px".toList⟩,
    ⟨"\u2003".toList, "0".toList⟩] {} = .error (.duplicateName "md".toList) := by
  rfl

end BreakpointTable

end ResponsiveStyles
