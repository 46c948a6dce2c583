import ResponsiveStyles.Proofs.NameQueries
import ResponsiveStyles.Proofs.TextTrimming

/-!
# Places in a key

A fragment of a key stands between at signs or the ends of the key, with blanks around it. What else
the key says, in the same branch or in another one, does not depend on the fragment at such a place.
-/
namespace ResponsiveStyles.QueryKey

theorem branches_cons {c : Char} (hc : c ≠ '@') (r : Text) :
    branches (c :: r) = (branches r).modifyHead (c :: ·) := by
  rw [branches]
  intro r' he
  exact absurd he hc

theorem branches_append {f : Text} (hf : '@' ∉ f) (v : Text) :
    branches (f ++ v) = (branches v).modifyHead (f ++ ·) := by
  induction f with
  | nil => cases hv : branches v <;> simp [hv]
  | cons c r ih =>
    rw [List.mem_cons, not_or] at hf
    rw [List.cons_append, branches_cons (Ne.symm hf.1), ih hf.2, List.modifyHead_modifyHead]
    rfl

theorem exists_branches_eq_cons (v : Text) :
    ∃ b cs, branches v = b :: cs ∧ (v = b ∨ ∃ w, v = b ++ '@' :: w) := by
  fun_induction branches v with
  | case1 => exact ⟨[], [], rfl, .inl rfl⟩
  | case2 r ih => exact ⟨[], branches r, rfl, .inr ⟨_, rfl⟩⟩
  | case3 c r hc ih =>
    obtain ⟨b, cs, hr, hv⟩ := ih
    refine ⟨c :: b, cs, by rw [hr]; rfl, ?_⟩
    rcases hv with rfl | ⟨w, rfl⟩
    · exact .inl rfl
    · exact .inr ⟨w, rfl⟩

theorem exists_branches_append (u : Text) :
    ∃ bs p, (bs = [] ∧ u = p ∨ bs ≠ [] ∧ ∃ w, u = w ++ '@' :: p) ∧
      ∀ x : Text, (∀ c ∈ x.head?, c ≠ '@' ∧ c ≠ ',') →
        branches (u ++ x) = bs ++ (branches x).modifyHead (p ++ ·) := by
  fun_induction branches u with
  | case1 =>
    refine ⟨[], [], .inl ⟨rfl, rfl⟩, fun x _ => ?_⟩
    cases hx : branches x <;> simp [hx]
  | case2 r ih =>
    obtain ⟨bs, p, hp, hx⟩ := ih
    refine ⟨[] :: bs, p, .inr ⟨by simp, ?_⟩, fun x h => ?_⟩
    · rcases hp with ⟨-, rfl⟩ | ⟨-, w, rfl⟩
      · exact ⟨['@', ','], rfl⟩
      · exact ⟨'@' :: ',' :: '@' :: w, rfl⟩
    · exact congrArg ([] :: ·) (hx x h)
  | case3 c r hc ih =>
    obtain ⟨bs, p, hp, hx⟩ := ih
    have hstep (x : Text) (h : ∀ c ∈ x.head?, c ≠ '@' ∧ c ≠ ',') :
        branches (c :: r ++ x) = (branches (r ++ x)).modifyHead (c :: ·) := by
      rw [List.cons_append, branches]
      -- A separator that begins with `c` would lie in `r` or go on into `x`.
      intro r' hc' hr
      rcases r with - | ⟨d, - | ⟨e, s⟩⟩
      · rw [List.nil_append] at hr
        exact (h ',' (by rw [hr]; rfl)).2 rfl
      · rw [List.singleton_append] at hr
        obtain ⟨-, hs⟩ := List.cons.inj hr
        exact (h '@' (by rw [hs]; rfl)).1 rfl
      · obtain ⟨rfl, hs⟩ := List.cons.inj hr
        obtain ⟨rfl, -⟩ := List.cons.inj hs
        exact hc s hc' rfl
    rcases hp with ⟨rfl, rfl⟩ | ⟨h0, w, rfl⟩
    · refine ⟨[], c :: r, .inl ⟨rfl, rfl⟩, fun x h => ?_⟩
      rw [hstep x h, hx x h, List.nil_append, List.nil_append, List.modifyHead_modifyHead]
      rfl
    · obtain ⟨b, bs, rfl⟩ := List.exists_cons_of_ne_nil h0
      refine ⟨(c :: b) :: bs, p, .inr ⟨by simp, c :: w, rfl⟩, fun x h => ?_⟩
      rw [hstep x h, hx x h]
      rfl

/-- The texts around a place for a fragment: up to the nearest at sign they are blank. -/
structure Surrounds (u v : Text) : Prop where
  before : Text.isAllBlank (u.rtakeWhile (· ≠ '@'))
  after : Text.isAllBlank (v.takeWhile (· ≠ '@'))

section At
variable (u v : Text)

theorem takeWhile_append_at : (u ++ '@' :: v).takeWhile (· ≠ '@') = u.takeWhile (· ≠ '@') := by
  induction u with
  | nil => rfl
  | cons c r ih => rw [List.cons_append, List.takeWhile_cons, List.takeWhile_cons, ih]

theorem rtakeWhile_append_at : (u ++ '@' :: v).rtakeWhile (· ≠ '@') = v.rtakeWhile (· ≠ '@') := by
  rw [List.rtakeWhile, List.rtakeWhile, List.reverse_append, List.reverse_cons, List.append_assoc,
    List.singleton_append, takeWhile_append_at]

theorem eq_or_exists_takeWhile_at :
    v = v.takeWhile (· ≠ '@') ∨ ∃ w, v = v.takeWhile (· ≠ '@') ++ '@' :: w := by
  induction v with
  | nil => exact .inl rfl
  | cons c r ih =>
    by_cases hc : c = '@'
    · exact .inr ⟨r, by simp [hc]⟩
    · simpa [hc] using ih

theorem eq_or_exists_rtakeWhile_at :
    u = u.rtakeWhile (· ≠ '@') ∨ ∃ w, u = w ++ '@' :: u.rtakeWhile (· ≠ '@') := by
  rcases eq_or_exists_takeWhile_at u.reverse with h | ⟨w, h⟩
  · exact .inl (by simpa [List.rtakeWhile] using congrArg List.reverse h)
  · exact .inr ⟨w.reverse, by simpa [List.rtakeWhile] using congrArg List.reverse h⟩

end At

theorem fragments_append (u v : Text) :
    fragments (u ++ '@' :: v) = fragments u ++ fragments v := by
  rw [fragments, List.splitOn_append_cons_self, List.map_append, List.filter_append]
  rfl

theorem at_notMem_of_isAllBlank {b : Text} (hb : Text.isAllBlank b) : '@' ∉ b :=
  Text.notMem_of_isAllBlank (by decide) hb

theorem exists_fragments {u v : Text} (h : Surrounds u v) :
    ∃ fs gs, ∀ f, PlainFragment f → f ≠ [] → fragments (u ++ (f ++ v)) = fs ++ f :: gs := by
  obtain ⟨hb, hb'⟩ := h
  have hu := eq_or_exists_rtakeWhile_at u
  have hv := eq_or_exists_takeWhile_at v
  generalize u.rtakeWhile (· ≠ '@') = b at hb hu
  generalize v.takeWhile (· ≠ '@') = b' at hb' hv
  have hmiddle (f : Text) (hf : PlainFragment f) (h0 : f ≠ []) :
      fragments (b ++ (f ++ b')) = [f] := by
    rw [fragments_of_notMem, Text.trim_append_left hb, Text.trim_append_of_isAllBlank hb',
      hf.trim_eq]
    · simp [h0]
    · simp [at_notMem_of_isAllBlank hb, at_notMem_of_isAllBlank hb', hf.at_notMem]
  rcases hu with rfl | ⟨w, rfl⟩ <;> rcases hv with rfl | ⟨w', rfl⟩
  · exact ⟨[], [], hmiddle⟩
  · refine ⟨[], fragments w', fun f hf h0 => ?_⟩
    rw [← List.append_assoc, ← List.append_assoc, fragments_append, List.append_assoc,
      hmiddle f hf h0]
    rfl
  · refine ⟨fragments w, [], fun f hf h0 => ?_⟩
    rw [List.append_assoc, List.cons_append, fragments_append, hmiddle f hf h0]
  · refine ⟨fragments w, fragments w', fun f hf h0 => ?_⟩
    rw [List.append_assoc, List.cons_append, fragments_append, ← List.append_assoc,
      ← List.append_assoc, fragments_append, List.append_assoc, hmiddle f hf h0]
    rfl

/-- In a key, a fragment stands in one branch, and nothing else depends on it. -/
theorem exists_map_fragments {u v : Text} (h : Surrounds u v) :
    ∃ bs fs gs cs, ∀ f, PlainFragment f → f ≠ [] → ',' ∉ f →
      (branches (u ++ (f ++ v))).map fragments = bs ++ (fs ++ f :: gs) :: cs := by
  obtain ⟨bs, p, hp, happend⟩ := exists_branches_append u
  obtain ⟨q, cs, hv, hq⟩ := exists_branches_eq_cons v
  have hpq : Surrounds p q := by
    constructor
    · rcases hp with ⟨-, rfl⟩ | ⟨-, w, rfl⟩
      · exact h.before
      · exact rtakeWhile_append_at w p ▸ h.before
    · rcases hq with rfl | ⟨w, rfl⟩
      · exact h.after
      · exact takeWhile_append_at q w ▸ h.after
  obtain ⟨fs, gs, hfragments⟩ := exists_fragments hpq
  refine ⟨bs.map fragments, fs, gs, cs.map fragments, fun f hf h0 hcomma => ?_⟩
  have hhead : ∀ c ∈ (f ++ v).head?, c ≠ '@' ∧ c ≠ ',' := by
    intro c hc
    rw [List.head?_append_of_ne_nil _ h0] at hc
    have hm := List.mem_of_mem_head? hc
    exact ⟨fun he => hf.at_notMem (he ▸ hm), fun he => hcomma (he ▸ hm)⟩
  rw [happend _ hhead, branches_append hf.at_notMem, hv, List.modifyHead_cons,
    List.modifyHead_cons, List.map_append, List.map_cons, hfragments f hf h0]

end ResponsiveStyles.QueryKey
