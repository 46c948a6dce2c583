import ResponsiveStyles.Json.Printer
import ResponsiveStyles.Proofs.JsonReading
import Mathlib.Tactic.IntervalCases

/-!
# Reading back what was written

A value is restored when it is read from its compact text, whatever stands behind the text. Strings are
restored character by character, for every escape is read as the character it was written for; and a
list is restored with its items.
-/
namespace ResponsiveStyles.Json

section Strings
variable {c : Char} {s r : Text}

theorem hexDigit?_digitChar {d : Nat} (h : d < 16) : hexDigit? (Nat.digitChar d) = some d := by
  interval_cases d <;> rfl

theorem readUnit?_byte {n : Nat} (h : n < 256) (r : Text) :
    readUnit? ('0' :: '0' :: Nat.digitChar (n / 16) :: Nat.digitChar (n % 16) :: r) =
      some (n, r) := by
  have hhigh : hexDigit? (Nat.digitChar (n / 16)) = some (n / 16) := hexDigit?_digitChar (by omega)
  have hlow : hexDigit? (Nat.digitChar (n % 16)) = some (n % 16) := hexDigit?_digitChar (by omega)
  have hzero : hexDigit? '0' = some 0 := rfl
  have hsum : n / 16 * 16 + n % 16 = n := by omega
  simp [readUnit?, hexValue?, hzero, hhigh, hlow, hsum]

theorem readChar?_of_ne (hc : c ≠ '\\') (hshown : ¬ c.toNat < 0x20) (r : Text) :
    readChar? (c :: r) = some (c, r) := by
  rw [readChar?]
  · simp [hc, hshown]
  · exact fun _ h => absurd h hc
  · exact fun _ _ h => absurd h hc

theorem readChar?_escape (c : Char) (r : Text) : readChar? (escape c ++ r) = some (c, r) := by
  unfold escape
  split
  case h_8 _ hbackslash _ _ _ _ _ =>
    split
    · rename_i hcontrol
      have hread := readUnit?_byte (n := c.toNat) (by omega) r
      have hlow : ¬ 0xDC00 ≤ c.toNat := by omega
      have hhigh : ¬ 0xD800 ≤ c.toNat := by omega
      simp [readChar?, readUnitEscape?, hread, hlow, hhigh, Char.ofNat_toNat]
    · rename_i hshown
      exact readChar?_of_ne hbackslash hshown r
  all_goals rfl

theorem exists_escape_eq_cons (c : Char) : ∃ d t, escape c = d :: t ∧ d ≠ '"' := by
  unfold escape
  split
  case h_8 hquote _ _ _ _ _ _ =>
    split
    · exact ⟨_, _, rfl, by decide⟩
    · exact ⟨c, [], rfl, hquote⟩
  all_goals exact ⟨_, _, rfl, by decide⟩

theorem readString?_escape {fuel : Nat} (h : s.length ≤ fuel) (r : Text) :
    readString? fuel (s.flatMap escape ++ '"' :: r) = some (s, r) := by
  induction s generalizing fuel with
  | nil => rw [List.flatMap_nil, List.nil_append, readString?]
  | cons c s ih =>
    rw [List.length_cons] at h
    obtain ⟨n, rfl⟩ := Nat.exists_eq_add_of_le' h
    obtain ⟨d, t, hd, hne⟩ := exists_escape_eq_cons c
    rw [List.flatMap_cons, List.append_assoc, ← Nat.add_assoc, readString?]
    · simp only [readChar?_escape, ih (Nat.le_add_left _ n), Option.map_some]
    · intro r' he
      rw [hd] at he
      exact hne (List.cons.inj he).1

theorem length_le_length_escape (s : Text) : s.length ≤ (s.flatMap escape).length := by
  induction s with
  | nil => exact le_rfl
  | cons c s ih =>
    obtain ⟨d, t, hd, -⟩ := exists_escape_eq_cons c
    rw [List.flatMap_cons, List.length_append, List.length_cons, hd, List.length_cons]
    omega

theorem readScalar?_quote (s r : Text) : readScalar? (quote s ++ r) = some (.string s, r) := by
  have hlength := length_le_length_escape s
  have hfuel : s.length ≤ (s.flatMap escape ++ '"' :: r).length := by
    rw [List.length_append]
    omega
  rw [quote, List.cons_append, List.append_assoc, List.singleton_append, readScalar?,
    readString?_escape hfuel]
  rfl

end Strings

/-- A value that is read from its compact text, in front of anything and nested at most so deep. -/
structure Restored (depth : Nat) (v : Value) : Prop where
  reads : ∀ r, readValue? depth (v.compact ++ r) = some (v, r)
  starts : ∃ c t, v.compact = c :: t ∧ ¬ isBlank c ∧ c ≠ ']'

theorem restored_string (depth : Nat) (s : Text) : Restored depth (.string s) where
  reads r := by
    have hread := readScalar?_quote s r
    cases depth with
    | zero => exact hread
    | succ depth =>
      rw [Value.compact, Value.scalar, quote, List.cons_append] at *
      rw [readValue?]
      · exact hread
      · exact fun _ he => absurd (List.cons.inj he).1 (by decide)
      · exact fun _ he => absurd (List.cons.inj he).1 (by decide)
  starts := ⟨'"', _, rfl, by decide, by decide⟩

theorem compactItems_eq_map (vs : List Value) : compactItems vs = vs.map Value.compact := by
  induction vs with
  | nil => rfl
  | cons v r ih => rw [compactItems, ih, List.map_cons]

section Lists
variable {depth : Nat} {v : Value} {vs : List Value}

theorem skipBlanks_of_not_isBlank {c : Char} (hc : ¬ isBlank c) (r : Text) :
    skipBlanks (c :: r) = c :: r := by
  rw [skipBlanks, List.dropWhile_cons_of_neg hc]

theorem Restored.skipBlanks_eq (h : Restored depth v) (r : Text) :
    skipBlanks (v.compact ++ r) = v.compact ++ r := by
  obtain ⟨c, t, hv, hc, -⟩ := h.starts
  rw [hv, List.cons_append, skipBlanks_of_not_isBlank hc]

theorem readItems?_compact (h : ∀ v ∈ vs, Restored depth v) (hne : vs ≠ []) {fuel : Nat}
    (hfuel : vs.length ≤ fuel) (r : Text) :
    readItems? ']' (readValue? depth) fuel ([','].intercalate (vs.map Value.compact) ++ ']' :: r) =
      some (vs, r) := by
  induction vs generalizing fuel with
  | nil => exact absurd rfl hne
  | cons v vs ih =>
    rw [List.length_cons] at hfuel
    obtain ⟨n, rfl⟩ := Nat.exists_eq_add_of_le' hfuel
    have hv := h v List.mem_cons_self
    rw [← Nat.add_assoc, readItems?]
    cases vs with
    | nil =>
      rw [List.map_singleton, List.intercalate_singleton, hv.skipBlanks_eq]
      simp only [hv.reads, skipBlanks_of_not_isBlank (c := ']') (by decide), if_true]
    | cons v' vs =>
      have hrest := ih (fun u hu => h u (List.mem_cons_of_mem v hu)) (List.cons_ne_nil v' vs)
        (Nat.le_add_left _ n)
      rw [List.map_cons, List.map_cons, List.intercalate_cons_cons, List.append_assoc,
        List.append_assoc, hv.skipBlanks_eq]
      simp only [hv.reads, List.singleton_append, skipBlanks_of_not_isBlank (c := ',') (by decide)]
      rw [List.map_cons] at hrest
      simp only [hrest, if_neg (show ¬ ',' = ']' by decide), if_true, Option.map_some]

theorem length_le_length_intercalate (c : Char) (ts : List Text) :
    ts.length ≤ ([c].intercalate ts).length + 1 := by
  induction ts with
  | nil => exact Nat.zero_le _
  | cons t ts ih =>
    cases ts with
    | nil => exact Nat.le_add_left _ _
    | cons t' ts =>
      rw [List.intercalate_cons_cons, List.length_append, List.length_append,
        List.length_singleton, List.length_cons]
      omega

theorem readList?_compact (h : ∀ v ∈ vs, Restored depth v) (r : Text) :
    readList? ']' (readValue? depth) ([','].intercalate (vs.map Value.compact) ++ ']' :: r) =
      some (vs, r) := by
  have hfuel : vs.length ≤ ([','].intercalate (vs.map Value.compact) ++ ']' :: r).length := by
    have hcount := length_le_length_intercalate ',' (vs.map Value.compact)
    rw [List.length_map] at hcount
    rw [List.length_append, List.length_cons]
    omega
  cases vs with
  | nil =>
    rw [List.map_nil, List.intercalate_nil, List.nil_append, readList?,
      skipBlanks_of_not_isBlank (by decide)]
    rfl
  | cons v vs =>
    have hitems := readItems?_compact h (List.cons_ne_nil v vs) hfuel r
    obtain ⟨c, t, hv, hc, hclose⟩ := (h v List.mem_cons_self).starts
    obtain ⟨u, hu⟩ : ∃ u, [','].intercalate ((v :: vs).map Value.compact) = c :: u := by
      cases vs with
      | nil => exact ⟨t, by rw [List.map_singleton, List.intercalate_singleton, hv]⟩
      | cons v' vs =>
        exact ⟨_, by rw [List.map_cons, List.map_cons, List.intercalate_cons_cons, hv]; rfl⟩
    rw [hu, List.cons_append] at hitems ⊢
    rw [readList?, skipBlanks_of_not_isBlank hc]
    simp only [hclose, if_false, hitems]

theorem Restored.array (h : ∀ v ∈ vs, Restored depth v) : Restored (depth + 1) (.array vs) where
  reads r := by
    rw [Value.compact, compactItems_eq_map, List.cons_append, List.append_assoc,
      List.singleton_append, readValue?, readList?_compact h]
    rfl
  starts := ⟨'[', _, rfl, by decide, by decide⟩

end Lists

theorem read?_compact {v : Value} (h : Restored 127 v) : read? v.compact = some v := by
  have hread := h.reads []
  have hblanks := h.skipBlanks_eq []
  rw [List.append_nil] at hread hblanks
  rw [read?, hblanks, hread]
  rfl

end ResponsiveStyles.Json
