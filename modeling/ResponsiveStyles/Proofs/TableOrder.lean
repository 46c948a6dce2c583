import ResponsiveStyles.Proofs.TableSources

/-!
# The order of a table

The order of a table decides between the operands that a fragment begins with. No operand has a hyphen
where no name has one, and then a fragment begins with at most one operand that leads to a token: the
text in front of its first hyphen. Such tables read every fragment alike, whatever their order, and
only the end of the range of a name depends on what comes after it.
-/
namespace ResponsiveStyles.BreakpointTable

section Readings
variable {t : BreakpointTable} {A f : Text} {s : TokenShape}

theorem Operand.hyphen_notMem (hn : ∀ n ∈ t.names, '-' ∉ n) (hA : t.Operand A) : '-' ∉ A := by
  rcases hA with hA | hA
  · exact hn A hA
  · exact hA.hyphen_notMem

theorem saysFirst_iff (hn : ∀ n ∈ t.names, '-' ∉ n) :
    t.SaysFirst f s ↔ ∃ A, t.Operand A ∧ t.Says A f s := by
  constructor
  · rintro (⟨before, A, after, hnames, hA, -⟩ | ⟨-, A, hA, hs⟩)
    · exact ⟨A, .inl (by simp [hnames]), hA⟩
    · exact ⟨A, .inr hA, hs⟩
  · intro he
    obtain ⟨A, hA, hs⟩ := he
    have hhead : A = f.takeWhile (· ≠ '-') := hs.eq_takeWhile (hA.hyphen_notMem hn)
    have hname : ∀ n ∈ t.names, ∀ s', t.Says n f s' → n = A := by
      intro n hmem s' hs'
      exact (hs'.eq_takeWhile (hn n hmem)).trans hhead.symm
    by_cases hmem : A ∈ t.names
    · obtain ⟨before, after, hnames, hnew⟩ := List.eq_append_cons_of_mem hmem
      refine .inl ⟨before, A, after, hnames, hs, fun n hbefore s' hs' => hnew ?_⟩
      rw [← hname n (by simp [hnames, hbefore]) s' hs']
      exact hbefore
    · refine .inr ⟨fun n hn' s' hs' => hmem ?_, A, hA.resolve_left hmem, hs⟩
      rw [← hname n hn' s' hs']
      exact hn'

end Readings

section Order
variable {t t' : BreakpointTable}

theorem mem_names_of_perm (h : t.entries.Perm t'.entries) {n : Text} :
    n ∈ t.names ↔ n ∈ t'.names :=
  (h.map Breakpoint.name).mem_iff

theorem operand_of_perm (h : t.entries.Perm t'.entries) {A : Text} :
    t.Operand A ↔ t'.Operand A :=
  or_congr_left (mem_names_of_perm h)

theorem compares_of_perm (h : t.entries.Perm t'.entries) {f X : Text} {c : Comparator} :
    t.Compares f c X ↔ t'.Compares f c X :=
  and_congr_left fun _ => operand_of_perm h

theorem opens_of_perm (h : t.entries.Perm t'.entries) {f : Text} : t.Opens f ↔ t'.Opens f :=
  exists_congr fun _ => exists_congr fun _ => and_congr_left fun _ => operand_of_perm h

theorem Says.of_perm (h : t.entries.Perm t'.entries) (ho : t.options = t'.options) {A f : Text}
    {s : TokenShape} (hs : t.Says A f s) : t'.Says A f s := by
  cases hs with
  | between hB => exact .between ((operand_of_perm h).1 hB)
  | up hs => exact .up (ho ▸ hs)
  | down hs => exact .down (ho ▸ hs)
  | alone => exact .alone

theorem SaysFirst.of_perm (h : t.entries.Perm t'.entries) (ho : t.options = t'.options)
    (hn : ∀ n ∈ t.names, '-' ∉ n) {f : Text} {s : TokenShape} (hs : t.SaysFirst f s) :
    t'.SaysFirst f s := by
  have hn' : ∀ n ∈ t'.names, '-' ∉ n := fun n hmem => hn n ((mem_names_of_perm h).2 hmem)
  obtain ⟨A, hA, hs⟩ := (saysFirst_iff hn).1 hs
  exact (saysFirst_iff hn').2 ⟨A, (operand_of_perm h).1 hA, hs.of_perm h ho⟩

theorem Reads.of_perm (h : t.entries.Perm t'.entries) (ho : t.options = t'.options)
    (hn : ∀ n ∈ t.names, '-' ∉ n) {f : Text} {r : Option TokenShape} (hr : t.Reads f r) :
    t'.Reads f r := by
  have hn' : ∀ n ∈ t'.names, '-' ∉ n := fun n hmem => hn n ((mem_names_of_perm h).2 hmem)
  have hnames {n : Text} (hmem : n ∉ t.names) : n ∉ t'.names := mt (mem_names_of_perm h).2 hmem
  have hcompares (hc : ∀ c X, ¬ t.Compares f c X) (c : Comparator) (X : Text) :
      ¬ t'.Compares f c X := mt (compares_of_perm h).2 (hc c X)
  have hfirst (hs : ∀ s, ¬ t.SaysFirst f s) (s : TokenShape) : ¬ t'.SaysFirst f s :=
    mt (SaysFirst.of_perm h.symm ho.symm hn') (hs s)
  cases hr with
  | only hmem => exact .only ((mem_names_of_perm h).1 hmem)
  | compared hmem hc => exact .compared (hnames hmem) ((compares_of_perm h).1 hc)
  | first hmem hc hs => exact .first (hnames hmem) (hcompares hc) (hs.of_perm h ho hn)
  | dangling hmem hc hs hopens =>
    exact .dangling (hnames hmem) (hcompares hc) (hfirst hs) ((opens_of_perm h).1 hopens)
  | none hmem hc hs hopens =>
    exact .none (hnames hmem) (hcompares hc) (hfirst hs) (mt (opens_of_perm h).2 hopens)

theorem classify_of_perm (h : t.entries.Perm t'.entries) (ho : t.options = t'.options)
    (hn : ∀ n ∈ t.names, '-' ∉ n) (f : Text) : t.classify f = t'.classify f :=
  ((reads_classify t f).of_perm h ho hn).classify_eq.symm

theorem length?_eq_some_iff_mem {n l : Text} : t.length? n = some l ↔ ⟨n, l⟩ ∈ t.entries := by
  rw [t.consistent.length?_eq_some_iff, List.mem_iff_getElem?]
  constructor
  · rintro ⟨i, b, hb, rfl, rfl⟩
    exact ⟨i, hb⟩
  · rintro ⟨i, hi⟩
    exact ⟨i, _, hi, rfl, rfl⟩

theorem length?_of_perm (h : t.entries.Perm t'.entries) (n : Text) : t.length? n = t'.length? n := by
  apply Option.ext
  intro l
  rw [length?_eq_some_iff_mem, length?_eq_some_iff_mem, h.mem_iff]

theorem lengthOf_of_perm (h : t.entries.Perm t'.entries) (operand : Text) :
    t.lengthOf operand = t'.lengthOf operand := by
  rw [lengthOf, lengthOf, length?_of_perm h]

theorem range?_of_perm (h : t.entries.Perm t'.entries) {s : TokenShape}
    (hs : ∀ name, s ≠ .only name) : t.range? s = t'.range? s := by
  cases s with
  | only name => exact absurd rfl (hs name)
  | _ => simp only [range?, lengthOf_of_perm h]

theorem range?_only_of_perm (h : t.entries.Perm t'.entries) (name : Text) :
    (t.range? (.only name)).map (fun r => { r with upper := none }) =
      (t'.range? (.only name)).map fun r => { r with upper := none } := by
  rw [range?, range?, length?_of_perm h]
  rfl

end Order

section Lists
variable {entries entries' : List Breakpoint}

theorem Usable.of_perm (h : entries.Perm entries') (hu : Usable entries) : Usable entries' where
  nonempty h0 := by
    subst h0
    exact hu.nonempty h.eq_nil
  named b hb := hu.named b (h.mem_iff.2 hb)
  distinct := (h.map Breakpoint.name).nodup_iff.1 hu.distinct

theorem perm_ofEntries (h : entries.Perm entries') (options : RangeOptions) :
    (ofEntries entries options).entries.Perm (ofEntries entries' options).entries := by
  rcases (madeOf_ofEntries entries options).entries_eq with ⟨_, hgiven, hu, he⟩ | ⟨hu, he⟩ <;>
    rcases (madeOf_ofEntries entries' options).entries_eq with ⟨_, hgiven', hu', he'⟩ | ⟨hu', he'⟩
  · rw [he, he', ← Option.some.inj hgiven, ← Option.some.inj hgiven']
    exact h
  · obtain rfl := Option.some.inj hgiven
    exact absurd ⟨entries', rfl, hu.of_perm h⟩ hu'
  · obtain rfl := Option.some.inj hgiven'
    exact absurd ⟨entries, rfl, hu'.of_perm h.symm⟩ hu
  · rw [he, he']

theorem hyphen_notMem_ofEntries (hn : ∀ b ∈ entries, '-' ∉ b.name) (options : RangeOptions) :
    ∀ n ∈ (ofEntries entries options).names, '-' ∉ n := by
  intro n hmem
  obtain ⟨b, hb, rfl⟩ := List.mem_map.1 hmem
  rcases (madeOf_ofEntries entries options).entries_eq with ⟨_, hgiven, -, he⟩ | ⟨-, he⟩
  · obtain rfl := Option.some.inj hgiven
    exact hn b (he ▸ hb)
  · rw [he, List.mem_singleton] at hb
    rw [hb]
    decide

/-- Without hyphens in names, the order of a list decides nothing but the end of the range of a name. -/
theorem classify_order_independent (h : entries.Perm entries')
    (hn : ∀ b ∈ entries, '-' ∉ b.name) (options : RangeOptions) (f : Text) :
    let t := ofEntries entries options
    let t' := ofEntries entries' options
    t.classify f = t'.classify f ∧
      (∀ s, (∀ name, s ≠ .only name) → t.range? s = t'.range? s) ∧
      ∀ name, (t.range? (.only name)).map (fun r => { r with upper := none }) =
        (t'.range? (.only name)).map fun r => { r with upper := none } := by
  intro t t'
  have hperm : t.entries.Perm t'.entries := perm_ofEntries h options
  have ho : t.options = t'.options := by
    rw [(madeOf_ofEntries entries options).options_eq,
      (madeOf_ofEntries entries' options).options_eq]
  exact ⟨classify_of_perm hperm ho (hyphen_notMem_ofEntries hn options) f,
    fun s hs => range?_of_perm hperm hs, range?_only_of_perm hperm⟩

def overlapping : List Breakpoint :=
  [⟨"lt".toList, "1px".toList⟩, ⟨"10pxs".toList, "2px".toList⟩, ⟨"up".toList, "3px".toList⟩,
    ⟨"10px".toList, "4px".toList⟩]

theorem classify_overlapping :
    let t := ofEntries overlapping {}
    let t' := ofEntries overlapping.reverse {}
    overlapping.Perm overlapping.reverse ∧ (∀ b ∈ overlapping, '-' ∉ b.name) ∧
      t.classify "lt-10px".toList = t'.classify "lt-10px".toList ∧
      t.range? (.compared .lt "10px".toList) = t'.range? (.compared .lt "10px".toList) ∧
      t.range? (.only "lt".toList) ≠ t'.range? (.only "lt".toList) := by
  intro t t'
  have h : overlapping.Perm overlapping.reverse := (List.reverse_perm _).symm
  have hn : ∀ b ∈ overlapping, '-' ∉ b.name := by decide
  obtain ⟨hclassify, hrange, -⟩ := classify_order_independent h hn {} "lt-10px".toList
  exact ⟨h, hn, hclassify, hrange _ (by simp), by decide⟩

-- with a hyphen in names, the first one that leads to a token counts
example :
    let entries : List Breakpoint := [⟨"md".toList, "1px".toList⟩, ⟨"lg-up".toList, "2px".toList⟩,
      ⟨"md-to-lg".toList, "3px".toList⟩]
    (ofEntries entries {}).classify "md-to-lg-up".toList =
        some (.between "md".toList "lg-up".toList) ∧
      (ofEntries entries.reverse {}).classify "md-to-lg-up".toList =
        some (.up "md-to-lg".toList) := by
  decide

end Lists

end ResponsiveStyles.BreakpointTable
