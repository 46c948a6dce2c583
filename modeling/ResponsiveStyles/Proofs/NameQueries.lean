import ResponsiveStyles.Proofs.WidthBounds

/-!
# Media queries of names

A key that is a name of the table is always read as that name, whatever other token it spells. Its
media query goes from the length of the name up to that of the next one in the table.
-/
namespace ResponsiveStyles

variable {γ : Type}

namespace BreakpointTable

variable {t : BreakpointTable} {i : Nat} {b : Breakpoint}

theorem name_mem_names (hb : t.entries[i]? = some b) : b.name ∈ t.names :=
  List.mem_map_of_mem (List.mem_of_getElem? hb)

theorem eq_of_name_eq {j : Nat} {b' : Breakpoint} (hb : t.entries[i]? = some b)
    (hb' : t.entries[j]? = some b') (h : b.name = b'.name) : i = j := by
  have hi : t.names[i]? = some b.name := by rw [names, List.getElem?_map, hb]; rfl
  have hj : t.names[j]? = some b.name := by rw [names, List.getElem?_map, hb', h]; rfl
  obtain ⟨hlt, -⟩ := List.getElem?_eq_some_iff.1 hi
  exact (List.getElem?_inj hlt t.distinct).1 (hi.trans hj.symm)

theorem index?_name (hb : t.entries[i]? = some b) : t.index? b.name = some i := by
  have hi : t.names[i]? = some b.name := by rw [names, List.getElem?_map, hb]; rfl
  obtain ⟨hlt, hname⟩ := List.getElem?_eq_some_iff.1 hi
  refine List.idxOf?_eq_some_iff.2 ⟨hlt, hname, fun j hj he => ?_⟩
  have hij : j = i := List.getElem_inj t.distinct |>.1 (he.trans hname.symm)
  omega

theorem next?_name (hb : t.entries[i]? = some b) : t.next? b.name = t.entries[i + 1]? := by
  rw [next?, index?_name hb]
  rfl

theorem length?_name (hb : t.entries[i]? = some b) : t.length? b.name = some b.length := by
  obtain ⟨b', hb'⟩ : ∃ b', t.entries.find? (fun b' => b'.name = b.name) = some b' := by
    rw [← Option.isSome_iff_exists, List.find?_isSome]
    exact ⟨b, List.mem_of_getElem? hb, by simp⟩
  obtain ⟨j, hj⟩ := List.mem_iff_getElem?.1 (List.mem_of_find?_eq_some hb')
  have hname : b'.name = b.name := by simpa using List.find?_some hb'
  obtain rfl := eq_of_name_eq hj hb hname
  obtain rfl : b' = b := by simpa [hj] using hb
  rw [length?, hb']
  rfl

theorem range?_only (hb : t.entries[i]? = some b) :
    t.range? (.only b.name) =
      some { lower := some b.length, upper := (t.entries[i + 1]?).map Breakpoint.length } := by
  rw [range?, length?_name hb, next?_name hb]

end BreakpointTable

namespace QuerySettings

variable {s : QuerySettings γ}

theorem read_of_range? {f : Text} {shape : TokenShape} {r : WidthRange} (ho : ¬ IsOrientation f)
    (hshape : s.table.classify f = some shape) (hr : s.table.range? shape = some r) (key : Text)
    (context : Option γ) (d : Descriptor) :
    s.read key context d f = r.write s.table.options d := by
  have htoken : s.table.isToken f := by rw [BreakpointTable.isToken, hshape]; rfl
  rw [read, if_neg (mt isOrientation_iff.1 ho), if_pos htoken, BreakpointTable.resolve, hshape]
  simp only [hr]

end QuerySettings

namespace QueryKey

theorem branches_of_notMem {key : Text} (h : '@' ∉ key) : branches key = [key] := by
  induction key with
  | nil => rfl
  | cons c r ih =>
    rw [List.mem_cons, not_or] at h
    rw [branches, ih h.2]
    · rfl
    · intro r' hc
      exact absurd hc.symm h.1

theorem fragments_of_notMem {f : Text} (h : '@' ∉ f) :
    fragments f = [Text.trim f].filter (· ≠ []) := by
  rw [fragments, List.splitOn_eq_singleton h]
  rfl

end QueryKey

/-- The clauses for the widths from one length up to the next. -/
def bucketClauses (o : RangeOptions) (least : Text) (next : Option Text) : List Text :=
  match o.rangeContext, next with
  | false, some greatest =>
    ["(min-width: ".toList ++ least ++ ")".toList,
      "(max-width: ".toList ++ Length.adjust greatest o.epsilon ++ ")".toList]
  | false, none => ["(min-width: ".toList ++ least ++ ")".toList]
  | true, some greatest => ["(".toList ++ least ++ " < width < ".toList ++ greatest ++ ")".toList]
  | true, none => ["(width > ".toList ++ least ++ ")".toList]

namespace QuerySettings

theorem render_write (s : QuerySettings γ) (least : Text) (next : Option Text) :
    (({ lower := some least, upper := next } : WidthRange).write s.table.options s.start).render =
      " and ".toList.intercalate ((if s.mediaFirst then ["all".toList] else []) ++
        bucketClauses s.table.options least next) := by
  obtain ⟨t, features, mediaFirst⟩ := s
  have hzero : Length.adjust least 0.0 = least := Length.adjust_zero least
  rw [Descriptor.render]
  congr 1
  cases hc : t.options.rangeContext <;> cases next <;> cases mediaFirst <;>
    simp only [WidthRange.write, WidthRange.writeBounds, hc, hzero, bucketClauses,
      Bool.false_eq_true, if_false, if_true] <;> rfl

end QuerySettings

/-- A text that is the only fragment of itself, and neither an orientation nor a media type. -/
structure PlainFragment (n : Text) : Prop where
  at_notMem : '@' ∉ n
  trim_eq : Text.trim n = n
  not_orientation : ¬ IsOrientation n
  not_media : ¬ NamesMedia n

theorem plainFragment_iff {n : Text} :
    PlainFragment n ↔ '@' ∉ n ∧ Text.trim n = n ∧ ¬ IsOrientation n ∧ ¬ NamesMedia n :=
  ⟨fun h => ⟨h.1, h.2, h.3, h.4⟩, fun h => ⟨h.1, h.2.1, h.2.2.1, h.2.2.2⟩⟩

instance (n : Text) : Decidable (PlainFragment n) :=
  decidable_of_iff _ plainFragment_iff.symm

theorem PlainFragment.fragments_eq {n : Text} (h : PlainFragment n) (h0 : n ≠ []) :
    QueryKey.fragments n = [n] := by
  rw [QueryKey.fragments_of_notMem h.at_notMem, h.trim_eq]
  simp [h0]

theorem BreakpointTable.name_ne_nil {t : BreakpointTable} {b : Breakpoint} (hb : b ∈ t.entries) :
    b.name ≠ [] := by
  intro h
  have hblank := t.named b hb
  rw [h] at hblank
  exact absurd hblank (by decide)

namespace QuerySettings

theorem compile_plain (s : QuerySettings γ) {n : Text} (hn : PlainFragment n) (h0 : n ≠ [])
    (context : Option γ) :
    s.compile n context = "@media ".toList ++ (s.read n context s.start n).render := by
  have hdescribe : s.describe n context [n] = s.read n context s.start n := by
    simp only [describe, if_neg (mt isMediaType_iff.1 hn.not_media), List.foldl_nil]
  unfold compile branch
  rw [QueryKey.branches_of_notMem hn.at_notMem, List.map_singleton, List.intercalate_singleton,
    hn.fragments_eq h0, hdescribe]

theorem render_read_name (s : QuerySettings γ) {i : Nat} {b : Breakpoint}
    (hb : s.table.entries[i]? = some b) (ho : ¬ IsOrientation b.name) (key : Text)
    (context : Option γ) :
    (s.read key context s.start b.name).render = " and ".toList.intercalate
      ((if s.mediaFirst then ["all".toList] else []) ++
        bucketClauses s.table.options b.length
          ((s.table.entries[i + 1]?).map Breakpoint.length)) := by
  have honly : s.table.classify b.name = some (.only b.name) :=
    (BreakpointTable.Reads.only (BreakpointTable.name_mem_names hb)).classify_eq
  rw [read_of_range? ho honly (BreakpointTable.range?_only hb), render_write]

/-- A name selects the widths from its length up to that of the next name, also where it reads as
another token. -/
theorem compile_name (s : QuerySettings γ) {i : Nat} {b : Breakpoint}
    (hb : s.table.entries[i]? = some b) (hname : PlainFragment b.name) (context : Option γ) :
    s.compile b.name context =
      "@media ".toList ++ " and ".toList.intercalate
        ((if s.mediaFirst then ["all".toList] else []) ++
          bucketClauses s.table.options b.length
            ((s.table.entries[i + 1]?).map Breakpoint.length)) := by
  have h0 := BreakpointTable.name_ne_nil (List.mem_of_getElem? hb)
  rw [s.compile_plain hname h0, s.render_read_name hb hname.not_orientation]

def crowdedSettings : QuerySettings Unit where
  table :=
    { entries := [⟨"md".toList, "768px".toList⟩, ⟨"md-up".toList, "1000px".toList⟩,
        ⟨"a".toList, "1100px".toList⟩, ⟨"b".toList, "1200px".toList⟩,
        ⟨"a-to-b".toList, "1300px".toList⟩, ⟨"lt-md".toList, "1400px".toList⟩]
      options := {}
      nonempty := by simp
      named := by decide
      distinct := by decide }

theorem compile_crowded_names :
    crowdedSettings.compile "md-up".toList none =
        "@media all and (min-width: 1000px) and (max-width: 1099.98px)".toList ∧
      (crowdedSettings.inContext true).compile "a-to-b".toList none =
        "@media all and (1300px < width < 1400px)".toList ∧
      (crowdedSettings.inContext true).compile "lt-md".toList none =
        "@media all and (width > 1400px)".toList := by
  refine ⟨?_, ?_, ?_⟩
  · exact (compile_name crowdedSettings (i := 1) (b := ⟨"md-up".toList, "1000px".toList⟩) rfl
      (by decide +kernel) none).trans (by decide +kernel)
  · exact (compile_name (crowdedSettings.inContext true) (i := 4)
      (b := ⟨"a-to-b".toList, "1300px".toList⟩) rfl
      (by decide +kernel) none).trans (by decide +kernel)
  · exact (compile_name (crowdedSettings.inContext true) (i := 5)
      (b := ⟨"lt-md".toList, "1400px".toList⟩) rfl
      (by decide +kernel) none).trans (by decide +kernel)

end QuerySettings

end ResponsiveStyles
