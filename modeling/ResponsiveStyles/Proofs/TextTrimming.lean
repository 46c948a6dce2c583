import ResponsiveStyles.Text.Blank
import Mathlib.Data.List.DropRight

/-!
# Trimmed texts and their order

Blanks at the ends of a text do not matter to what is left when it is trimmed, and a character that is
not blank parts the trimming at the start from that at the end. Texts are cut at separators and put
together with them. The order of texts is total, so that sorting them leaves no choice.
-/
namespace ResponsiveStyles.Text

theorem trim_append_of_isAllBlank {b : Text} (hb : isAllBlank b) (t : Text) :
    trim (t ++ b) = trim t := by
  have hblank : ∀ c ∈ b.reverse, isBlank c := by simpa [isAllBlank] using hb
  have hend (s : Text) : trimEnd (s ++ b) = trimEnd s := by
    rw [trimEnd, List.reverse_append, List.dropWhile_append_of_pos hblank, trimEnd]
  rw [trim, trim, trimStart, trimStart, List.dropWhile_append]
  split
  · rename_i h
    rw [List.isEmpty_iff.1 h, dropWhile_isBlank_eq_nil_iff.2 hb]
  · exact hend _

theorem trim_append_left {b : Text} (hb : isAllBlank b) (t : Text) : trim (b ++ t) = trim t := by
  have hblank : ∀ c ∈ b, isBlank c := by simpa [isAllBlank] using hb
  rw [trim, trimStart, List.dropWhile_append_of_pos hblank]
  rfl

theorem exists_blanks (t : Text) :
    ∃ b b', t = b ++ (trim t ++ b') ∧ isAllBlank b ∧ isAllBlank b' := by
  refine ⟨t.takeWhile isBlank, (trimStart t).rtakeWhile isBlank, ?_, ?_, ?_⟩
  · have hend : trimEnd (trimStart t) ++ (trimStart t).rtakeWhile isBlank = trimStart t :=
      List.rdropWhile_append_rtakeWhile
    rw [trim, hend]
    exact List.takeWhile_append_dropWhile.symm
  · simp [isAllBlank]
  · simpa [isAllBlank] using fun c hc => List.mem_rtakeWhile_imp hc

theorem mem_of_mem_trim {c : Char} {t : Text} (h : c ∈ trim t) : c ∈ t := by
  obtain ⟨b, b', ht, -⟩ := exists_blanks t
  rw [ht]
  simp [h]

section NotBlank
variable {c : Char} (hc : isBlank c = false)
include hc

theorem trimStart_append_cons (u v : Text) : trimStart (u ++ c :: v) = trimStart u ++ c :: v := by
  rw [trimStart, trimStart, List.dropWhile_append]
  split
  · rename_i h
    simp [List.isEmpty_iff.1 h, hc]
  · rfl

theorem trimEnd_append_cons (u v : Text) : trimEnd (u ++ c :: v) = u ++ c :: trimEnd v := by
  rw [trimEnd, trimEnd, List.reverse_append, List.reverse_cons, List.append_assoc,
    List.dropWhile_append]
  split
  · rename_i h
    simp [List.isEmpty_iff.1 h, hc]
  · simp

theorem notMem_of_isAllBlank {b : Text} (hb : isAllBlank b) : c ∉ b := by
  intro hm
  have := List.all_eq_true.1 hb c hm
  simp [hc] at this

end NotBlank

theorem trimEnd_of_isAllBlank {t : Text} (h : isAllBlank t) : trimEnd t = [] :=
  List.rdropWhile_eq_nil_iff.2 (List.all_eq_true.1 h)

theorem exists_not_isBlank {t : Text} (h : ¬ isAllBlank t) :
    ∃ u c v, t = u ++ c :: v ∧ isBlank c = false := by
  obtain ⟨c, hm, hc⟩ : ∃ c ∈ t, isBlank c = false := by simpa [isAllBlank] using h
  obtain ⟨u, v, rfl⟩ := List.append_of_mem hm
  exact ⟨u, c, v, rfl, hc⟩

theorem trimStart_trimEnd (t : Text) : trimStart (trimEnd t) = trim t := by
  by_cases h : isAllBlank t
  · rw [trimEnd_of_isAllBlank h, trim_eq_nil_iff.2 h]
    rfl
  · obtain ⟨u, c, v, rfl, hc⟩ := exists_not_isBlank h
    rw [trim, trimEnd_append_cons hc, trimStart_append_cons hc, trimStart_append_cons hc,
      trimEnd_append_cons hc]

theorem not_isBlank_of_mem_head?_trim {t : Text} : ∀ c ∈ (trim t).head?, ¬ isBlank c := by
  rw [← trimStart_trimEnd]
  exact not_of_mem_head?_dropWhile

theorem not_isBlank_of_mem_getLast?_trim {t : Text} : ∀ c ∈ (trim t).getLast?, ¬ isBlank c := by
  rw [trim, trimEnd, List.getLast?_reverse]
  exact not_of_mem_head?_dropWhile

theorem trimEnd_cons {c : Char} {r : Text} (h : ¬ isAllBlank (c :: r)) :
    trimEnd (c :: r) = c :: trimEnd r := by
  obtain ⟨u, d, v, hr, hd⟩ := exists_not_isBlank h
  rw [hr, trimEnd_append_cons hd]
  cases u with
  | nil =>
    obtain ⟨rfl, rfl⟩ := List.cons.inj hr
    rfl
  | cons e u =>
    obtain ⟨rfl, rfl⟩ := List.cons.inj hr
    exact congrArg (c :: ·) (trimEnd_append_cons hd u v).symm

/-- A text is a piece without the separator, or such a piece in front of a separator and a text. -/
theorem pieces_induction (sep : Char) {motive : Text → Prop}
    (piece : ∀ t, sep ∉ t → motive t)
    (cut : ∀ u v, sep ∉ u → motive v → motive (u ++ sep :: v)) (t : Text) : motive t := by
  induction h : t.length using Nat.strong_induction_on generalizing t with
  | _ n ih =>
    by_cases hs : sep ∈ t
    · obtain ⟨u, v, rfl, hu⟩ := List.eq_append_cons_of_mem hs
      exact cut u v hu (ih v.length (by simp [← h]; omega) v rfl)
    · exact piece t hs

theorem intercalate_append_cons {sep : Text} {xs ys : List Text} (hx : xs ≠ []) (hy : ys ≠ []) :
    sep.intercalate (xs ++ ys) = sep.intercalate xs ++ sep ++ sep.intercalate ys := by
  induction xs with
  | nil => exact absurd rfl hx
  | cons x xs ih =>
    cases xs with
    | nil =>
      obtain ⟨y, ys, rfl⟩ := List.exists_cons_of_ne_nil hy
      simp
    | cons x' xs =>
      have hxs := ih (by simp)
      rw [List.cons_append] at hxs
      rw [List.cons_append, List.cons_append, List.intercalate_cons_cons, hxs,
        List.intercalate_cons_cons]
      simp only [List.append_assoc]

theorem atMost_trans {a b c : Text} (hab : atMost a b) (hbc : atMost b c) : atMost a c := by
  induction a generalizing b c with
  | nil => rfl
  | cons x a ih =>
    cases b with
    | nil => simp [atMost] at hab
    | cons y b =>
      cases c with
      | nil => simp [atMost] at hbc
      | cons z c =>
        simp only [atMost, Bool.or_eq_true, decide_eq_true_eq, Bool.and_eq_true] at hab hbc ⊢
        rcases hab with hxy | ⟨rfl, hab⟩
        · rcases hbc with hyz | ⟨rfl, -⟩
          · exact .inl (hxy.trans hyz)
          · exact .inl hxy
        · rcases hbc with hyz | ⟨rfl, hbc⟩
          · exact .inl hyz
          · exact .inr ⟨rfl, ih hab hbc⟩

theorem atMost_total (a b : Text) : atMost a b ∨ atMost b a := by
  induction a generalizing b with
  | nil => exact .inl rfl
  | cons x a ih =>
    cases b with
    | nil => exact .inr rfl
    | cons y b =>
      simp only [atMost, Bool.or_eq_true, decide_eq_true_eq, Bool.and_eq_true]
      rcases Nat.lt_trichotomy x.toNat y.toNat with h | h | h
      · exact .inl (.inl h)
      · obtain rfl := Char.toNat_inj.1 h
        rcases ih b with hab | hba
        · exact .inl (.inr ⟨rfl, hab⟩)
        · exact .inr (.inr ⟨rfl, hba⟩)
      · exact .inr (.inl h)

theorem atMost_antisymm {a b : Text} (hab : atMost a b) (hba : atMost b a) : a = b := by
  induction a generalizing b with
  | nil =>
    cases b with
    | nil => rfl
    | cons y b => simp [atMost] at hba
  | cons x a ih =>
    cases b with
    | nil => simp [atMost] at hab
    | cons y b =>
      simp only [atMost, Bool.or_eq_true, decide_eq_true_eq, Bool.and_eq_true] at hab hba
      rcases hab with hxy | ⟨rfl, hab⟩
      · rcases hba with hyx | ⟨rfl, -⟩ <;> omega
      · rcases hba with hyx | ⟨-, hba⟩
        · omega
        · rw [ih hab hba]

end ResponsiveStyles.Text
