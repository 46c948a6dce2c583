import ResponsiveStyles.Config.Basic
import ResponsiveStyles.Proofs.JsonRoundTrip
import ResponsiveStyles.Proofs.TableSources
import ResponsiveStyles.Proofs.TextTrimming

/-!
# Breakpoints in a stylesheet

A list of breakpoints is written as JSON, declared in a stylesheet, found there and read back. A
declaration reaches to the first semicolon or closing brace, and what it holds is not searched for
further declarations; so a definition free of these two is found whole, even where its names look like
declarations.
-/
namespace ResponsiveStyles.Definition

section Declarations
variable {p t value rest : Text}

theorem values_of_declared? (h : declared? p t = some (value, rest)) :
    values p t = value :: values p rest := by
  cases t with
  | nil => cases Nat.not_lt_zero _ (length_of_declared? h)
  | cons c r =>
    rw [values]
    split
    · rename_i h'
      rw [h] at h'
      obtain ⟨rfl, rfl⟩ := Prod.mk.inj (Option.some.inj h')
      rfl
    · rename_i h'
      simp [h] at h'

theorem values_cons (h : declared? p (c :: t) = none) : values p (c :: t) = values p t := by
  rw [values]
  split
  · rename_i h'
    simp [h] at h'
  · rfl

theorem values_append_of_notMem {d : Char} {u : Text} (h : d ∉ u) (t : Text) :
    values (d :: p) (u ++ t) = values (d :: p) t := by
  induction u with
  | nil => rfl
  | cons c u ih =>
    rw [List.mem_cons, not_or] at h
    have hnone : declared? (d :: p) (c :: (u ++ t)) = none := by
      rw [declared?, Text.isPrefixOf?_cons_cons, if_neg (by simpa using h.1)]
    rw [List.cons_append, values_cons hnone, ih h.2]

def isInside (c : Char) : Bool :=
  c != ';' && c != '\x7d'

theorem isInside_iff {c : Char} : isInside c ↔ c ≠ ';' ∧ c ≠ '\x7d' := by
  simp [isInside]

theorem dropWhile_colon {b : Text} (hb : Text.isAllBlank b) (x : Text) :
    (b ++ ':' :: x).dropWhile Text.isBlank = ':' :: x := by
  rw [List.dropWhile_append_of_pos (List.all_eq_true.1 hb), List.dropWhile_cons_of_neg (by decide)]

theorem declared?_eq_some_iff :
    declared? p t = some (value, rest) ↔
      ∃ b x, Text.isAllBlank b ∧ t = p ++ (b ++ ':' :: x) ∧ value = x.takeWhile isInside ∧
        rest = x.dropWhile isInside := by
  constructor
  · intro h
    rw [declared?] at h
    split at h
    · simp at h
    · rename_i r hp
      rw [List.isPrefixOf?_eq_some_iff_append_eq] at hp
      split at h
      · rename_i x hx
        obtain ⟨hvalue, hrest⟩ := Prod.mk.inj (Option.some.inj h)
        refine ⟨r.takeWhile Text.isBlank, x, by simp [Text.isAllBlank], ?_, hvalue.symm, hrest.symm⟩
        rw [← hp, ← hx, List.takeWhile_append_dropWhile]
      · simp at h
  · intro he
    obtain ⟨b, x, hb, rfl, rfl, rfl⟩ := he
    rw [declared?, List.isPrefixOf?_eq_some_iff_append_eq.2 rfl]
    simp only [dropWhile_colon hb]
    rfl

/-- The text ends a declaration in front of it: by a semicolon, a closing brace or its own end. -/
def Closes (t : Text) : Prop :=
  ∀ c ∈ t.head?, ¬ isInside c

theorem declared?_append {b : Text} (hb : Text.isAllBlank b) (hsemicolon : ';' ∉ value)
    (hbrace : '\x7d' ∉ value) (hrest : Closes rest) :
    declared? p (p ++ (b ++ ':' :: (value ++ rest))) = some (value, rest) := by
  have hinside : ∀ c ∈ value, isInside c := fun c hc =>
    isInside_iff.2 ⟨fun h => hsemicolon (h ▸ hc), fun h => hbrace (h ▸ hc)⟩
  have hstop : rest.takeWhile isInside = [] ∧ rest.dropWhile isInside = rest := by
    cases rest with
    | nil => exact ⟨rfl, rfl⟩
    | cons c r =>
      have hc : ¬ isInside c := hrest c rfl
      exact ⟨List.takeWhile_cons_of_neg hc, List.dropWhile_cons_of_neg hc⟩
  refine declared?_eq_some_iff.2 ⟨b, value ++ rest, hb, rfl, ?_, ?_⟩
  · rw [List.takeWhile_append_of_pos hinside, hstop.1, List.append_nil]
  · rw [List.dropWhile_append_of_pos hinside, hstop.2]

end Declarations

def write (entries : List Breakpoint) : Text :=
  (Json.Value.array (entries.map fun b => .array [.string b.name, .string b.length])).compact

theorem restored_entries (entries : List Breakpoint) (depth : Nat) :
    Json.Restored (depth + 2)
      (.array (entries.map fun b => .array [.string b.name, .string b.length])) := by
  refine Json.Restored.array fun v hv => ?_
  obtain ⟨b, -, rfl⟩ := List.mem_map.1 hv
  refine Json.Restored.array fun v hv => ?_
  rw [List.mem_pair] at hv
  rcases hv with rfl | rfl <;> exact Json.restored_string depth _

theorem trim_write (entries : List Breakpoint) : Text.trim (write entries) = write entries := by
  have hlast : (write entries).getLast? = some ']' := by
    rw [write, Json.Value.compact, ← List.cons_append, List.getLast?_concat]
  have htrim := Text.trim_append (t := write entries) (b := []) (c := '[') rfl hlast
    (by decide) (by decide) rfl
  rwa [List.append_nil] at htrim

theorem mapM_entryOf (entries : List Breakpoint) :
    (entries.map fun b => Json.Value.array [.string b.name, .string b.length]).mapM entryOf =
      .ok entries := by
  induction entries with
  | nil => rfl
  | cons b r ih =>
    rw [List.map_cons, List.mapM_cons, ih]
    rfl

theorem parse_write (entries : List Breakpoint) : parse (write entries) = .ok entries := by
  have hread : Json.read? (write entries) = some (.array _) :=
    Json.read?_compact (restored_entries entries 125)
  have hne : write entries ≠ [] := List.cons_ne_nil _ _
  rw [parse, trim_write]
  simp only [hne, if_false, hread]
  exact mapM_entryOf entries

/-- A rule with one declaration, with blanks around its colon. -/
def stylesheet (key before after definition : Text) : Text :=
  "html \x7b ".toList ++
    (property key ++ (before ++ ':' :: (after ++ definition ++ ';' :: " \x7d".toList)))

theorem values_stylesheet {key before after definition : Text} (hbefore : Text.isAllBlank before)
    (hafter : Text.isAllBlank after) (hsemicolon : ';' ∉ definition)
    (hbrace : '\x7d' ∉ definition) :
    values (property key) (stylesheet key before after definition) = [after ++ definition] := by
  have hskip {u : Text} (hu : '-' ∉ u) (t : Text) :
      values (property key) (u ++ t) = values (property key) t :=
    values_append_of_notMem (p := "-breakpoints-".toList ++ key) hu t
  have hrest : values (property key) (';' :: " \x7d".toList) = [] := by
    have hnil : values (property key) [] = [] := by rw [values]
    rw [← List.append_nil (';' :: " \x7d".toList), hskip (by decide), hnil]
  unfold stylesheet
  rw [hskip (by decide), values_of_declared? (declared?_append hbefore
    (by simpa [hsemicolon] using Text.notMem_of_isAllBlank (by decide) hafter)
    (by simpa [hbrace] using Text.notMem_of_isAllBlank (by decide) hafter)
    (by simp [Closes, isInside])), hrest]

/-- A set of breakpoints that is written into a stylesheet makes the table it would make if it were
given as a list, whatever its names and the key. -/
theorem stylesheet_round_trip (c : Config) (key : Text) {entries : List Breakpoint}
    {t : BreakpointTable} {before after : Text} (haccepted : BreakpointTable.ofEntries? entries c.range = .ok t)
    (hsemicolon : ';' ∉ write entries) (hbrace : '\x7d' ∉ write entries)
    (hbefore : Text.isAllBlank before) (hafter : Text.isAllBlank after) :
    ofStylesheet? (stylesheet key before after (write entries)) key = some (write entries) ∧
      parse (write entries) = .ok entries ∧
      { c with breakpoints := some entries }.table = t ∧
      { c with
        breakpoints := none
        definition := ofStylesheet? (stylesheet key before after (write entries)) key }.table = t ∧
      t.entries = entries := by
  have hfound : ofStylesheet? (stylesheet key before after (write entries)) key =
      some (write entries) := by
    have hne : write entries ≠ [] := List.cons_ne_nil _ _
    rw [ofStylesheet?, values_stylesheet hbefore hafter hsemicolon hbrace, List.getLast?_singleton]
    simp only [Text.trim_append_left hafter, trim_write, hne, if_false]
  have htable : BreakpointTable.ofEntries entries c.range = t := by
    rw [BreakpointTable.ofEntries, haccepted]
  refine ⟨hfound, parse_write entries, htable, ?_,
    (BreakpointTable.ofEntries?_ok_iff.1 haccepted).2.1⟩
  rw [hfound, Config.table, Config.entries]
  simp only [parse_write]
  exact htable

def lookalikes : List Breakpoint :=
  [⟨"a\"],[\"\\".toList, "0".toList⟩, ⟨"--breakpoints-K: 1".toList, "576px".toList⟩]

theorem stylesheet_round_trip_lookalikes :
    ∃ t, BreakpointTable.ofEntries? lookalikes {} = .ok t ∧
      ofStylesheet? (stylesheet "K".toList [' ', '\n'] ['\t'] (write lookalikes)) "K".toList =
        some (write lookalikes) ∧
      ({ definition := some (write lookalikes) } : Config).table = t := by
  obtain ⟨t, ht⟩ : ∃ t, BreakpointTable.ofEntries? lookalikes {} = .ok t :=
    BreakpointTable.ofEntries?_eq_ok_iff.2 ⟨by decide, by decide, by decide⟩
  have hbefore : Text.isAllBlank [' ', '\n'] := rfl
  have hafter : Text.isAllBlank ['\t'] := rfl
  obtain ⟨hfound, -, -, htable, -⟩ :=
    stylesheet_round_trip {} "K".toList ht (by decide) (by decide) hbefore hafter
  rw [hfound] at htable
  exact ⟨t, ht, hfound, htable⟩

end ResponsiveStyles.Definition
