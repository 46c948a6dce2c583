import ResponsiveStyles.Proofs.CanonicalForm

/-!
# Tight declarations and canonical forms

A declaration is tight when no part of it between colons begins or ends with a blank. Tight declarations
that are not empty, in their order and with semicolons between them, are a canonical form, and every
canonical form is made of such ones; so a canonical form is its own.
-/
namespace ResponsiveStyles

theorem Text.notMem_of_mem_splitOn {sep : Char} {p t : Text} (h : p ∈ t.splitOn sep) : sep ∉ p := by
  have hpiece {u : Text} (hu : sep ∉ u) (hp : p ∈ u.splitOn sep) : sep ∉ p := by
    rw [List.splitOn_eq_singleton hu, List.mem_singleton] at hp
    rwa [hp]
  induction t using pieces_induction sep with
  | piece t ht => exact hpiece ht h
  | cut u v hu ih =>
    rw [List.splitOn_append_cons_self, List.mem_append] at h
    rcases h with h | h
    · exact hpiece hu h
    · exact ih h

namespace Declarations

open Text

variable {u v : Text}

/-- No part between colons begins or ends with a blank. -/
def Tight (u : Text) : Prop := ∀ p ∈ u.splitOn ':', trim p = p

instance (u : Text) : Decidable (Tight u) := inferInstanceAs (Decidable (∀ p ∈ _, _))

theorem tight_of_notMem (h : ':' ∉ u) : Tight u ↔ trim u = u := by
  rw [Tight, List.splitOn_eq_singleton h]
  simp

theorem tight_append : Tight (u ++ ':' :: v) ↔ Tight u ∧ Tight v := by
  rw [Tight, List.splitOn_append_cons_self, List.forall_mem_append]
  rfl

theorem tight_tighten (u : Text) : Tight (tighten u) := by
  have hpiece {u : Text} (hu : ':' ∉ u) : Tight (tighten u) := by
    have hmem : ':' ∉ tighten u := fun hm => hu (mem_of_mem_tighten hm)
    rw [tight_of_notMem hmem, ← tighten_of_notMem hmem, tighten_tighten]
  induction u using pieces_induction ':' with
  | piece u hu => exact hpiece hu
  | cut u v hu ih =>
    rw [tighten_append]
    exact tight_append.2 ⟨hpiece hu, ih⟩

theorem tighten_eq_self_iff : tighten u = u ↔ Tight u := by
  constructor
  · intro h
    exact h ▸ tight_tighten u
  · intro h
    induction u using pieces_induction ':' with
    | piece u hu => rw [tighten_of_notMem hu, (tight_of_notMem hu).1 h]
    | cut u v hu ih =>
      obtain ⟨hleft, hright⟩ := tight_append.1 h
      rw [tighten_append, tighten_of_notMem hu, (tight_of_notMem hu).1 hleft, ih hright]

theorem count_trim {c : Char} (hc : isBlank c = false) (u : Text) :
    (trim u).count c = u.count c := by
  obtain ⟨b, b', hu, hb, hb'⟩ := exists_blanks u
  have hnone {w : Text} (hw : isAllBlank w) : w.count c = 0 :=
    List.count_eq_zero.2 (notMem_of_isAllBlank hc hw)
  conv_rhs => rw [hu]
  simp only [List.count_append, hnone hb, hnone hb']
  omega

theorem count_tighten {c : Char} (hc : isBlank c = false) (u : Text) :
    (tighten u).count c = u.count c := by
  induction u using pieces_induction ':' with
  | piece u hu => rw [tighten_of_notMem hu, count_trim hc]
  | cut u v hu ih =>
    rw [tighten_append, tighten_of_notMem hu]
    simp only [List.count_append, List.count_cons, count_trim hc, ih]

theorem mem_ofBlock_iff {block d : Text} :
    d ∈ ofBlock block ↔ d ≠ [] ∧ ∃ p ∈ block.splitOn ';', d = tighten p := by
  rw [ofBlock_eq_filter, List.mem_filter, List.mem_map, decide_eq_true_eq, and_comm]
  simp only [eq_comm]

/-- A canonical form made of declarations. -/
structure IsFormOf (ds : List Text) (t : Text) : Prop where
  text_eq : t = [';'].intercalate ds
  ne_nil : ∀ d ∈ ds, d ≠ []
  notMem : ∀ d ∈ ds, ';' ∉ d
  tight : ∀ d ∈ ds, Tight d
  ordered : ds.Pairwise fun d e => atMost d e

theorem isFormOf_canonical (block : Text) : IsFormOf (sort (ofBlock block)) (canonical block) := by
  have hmem {d : Text} (hd : d ∈ sort (ofBlock block)) :
      d ≠ [] ∧ ∃ p ∈ block.splitOn ';', d = tighten p :=
    mem_ofBlock_iff.1 ((sort_perm _).mem_iff.1 hd)
  constructor
  case text_eq => rfl
  case ne_nil => exact fun d hd => (hmem hd).1
  case notMem =>
    intro d hd hsemicolon
    obtain ⟨-, p, hp, rfl⟩ := hmem hd
    exact notMem_of_mem_splitOn hp (mem_of_mem_tighten hsemicolon)
  case tight =>
    intro d hd
    obtain ⟨-, p, -, rfl⟩ := hmem hd
    exact tight_tighten p
  case ordered => exact pairwise_sort _

theorem IsFormOf.ofBlock_eq {ds : List Text} {t : Text} (h : IsFormOf ds t) : ofBlock t = ds := by
  have hself (d : Text) (hd : d ∈ ds) : ofBlock d = [d] := by
    rw [ofBlock_of_notMem (h.notMem d hd), tighten_eq_self_iff.2 (h.tight d hd)]
    simpa using h.ne_nil d hd
  rw [h.text_eq, ofBlock_intercalate, List.flatMap_congr hself]
  simp

theorem sort_eq {ds es : List Text} (hperm : ds.Perm es)
    (hes : es.Pairwise fun d e => atMost d e) : sort ds = es :=
  ((sort_perm ds).trans hperm).eq_of_pairwise (fun _ _ _ _ => atMost_antisymm) (pairwise_sort ds) hes

theorem IsFormOf.canonical_eq {ds : List Text} {t : Text} (h : IsFormOf ds t) :
    canonical t = t := by
  rw [canonical, h.ofBlock_eq, sort_eq (.refl ds) h.ordered, ← h.text_eq]

theorem canonical_eq_self_iff {t : Text} : canonical t = t ↔ ∃ ds, IsFormOf ds t := by
  constructor
  · intro h
    exact ⟨_, h ▸ isFormOf_canonical t⟩
  · rintro ⟨ds, hds⟩
    exact hds.canonical_eq

theorem canonical_canonical (t : Text) : canonical (canonical t) = canonical t :=
  (isFormOf_canonical t).canonical_eq

end Declarations

end ResponsiveStyles
