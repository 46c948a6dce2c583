import ResponsiveStyles.Proofs.DegradedBranches

/-!
# How feature calls are written

A call is written as a name alone, or as a name with its arguments in parentheses. Each parenthesis is
optional on its own when a call is read, so that the rest of a fragment is taken for arguments also
where one of them, or both, are missing. A feature therefore runs on some fragments that are not
written as calls.
-/
namespace ResponsiveStyles

variable {γ : Type}

namespace FeatureCall

def IsName (name : Text) : Prop :=
  name ≠ [] ∧ ∀ c ∈ name, isNameChar c

def EndsName (rest : Text) : Prop :=
  ∀ c ∈ rest.head?, ¬ isNameChar c

/-- A name alone, or a name with its arguments in parentheses. -/
inductive SpelledBy : FeatureCall → Text → Prop where
  | alone {name : Text} (hname : IsName name) : SpelledBy ⟨name, []⟩ name
  | enclosed {name args : Text} (hname : IsName name) :
      SpelledBy ⟨name, args⟩ (name ++ '(' :: (args ++ [')']))

/-- A name and a text behind it that is not enclosed in parentheses. -/
inductive MisspelledBy : FeatureCall → Text → Prop where
  | unclosed {name args : Text} (hname : IsName name) (hclose : ¬ [')'] <:+ args) :
      MisspelledBy ⟨name, args⟩ (name ++ '(' :: args)
  | unopened {name args : Text} (hname : IsName name) (hends : EndsName (args ++ [')']))
      (hopen : ¬ ['('] <+: args) : MisspelledBy ⟨name, args⟩ (name ++ (args ++ [')']))
  | bare {name args : Text} (hname : IsName name) (hends : EndsName args) (hargs : args ≠ [])
      (hopen : ¬ ['('] <+: args) (hclose : ¬ [')'] <:+ args) :
      MisspelledBy ⟨name, args⟩ (name ++ args)

def argumentsOf (rest : Text) : Text :=
  let args := match rest with
    | '(' :: r => r
    | r => r
  ([')'].isSuffixOf? args).getD args

section Arguments
variable {args rest : Text}

theorem getD_isSuffixOf?_append : ([')'].isSuffixOf? (args ++ [')'])).getD (args ++ [')']) = args := by
  rw [List.isSuffixOf?_eq_some_iff_append_eq.2 rfl, Option.getD_some]

theorem getD_isSuffixOf?_of_not (h : ¬ [')'] <:+ args) : ([')'].isSuffixOf? args).getD args = args := by
  have hnone : [')'].isSuffixOf? args = none := by
    rw [Option.eq_none_iff_forall_ne_some]
    intro r hr
    exact h ⟨r, List.isSuffixOf?_eq_some_iff_append_eq.1 hr⟩
  rw [hnone, Option.getD_none]

theorem argumentsOf_open (r : Text) : argumentsOf ('(' :: r) = ([')'].isSuffixOf? r).getD r := rfl

theorem argumentsOf_of_not (h : ¬ ['('] <+: rest) :
    argumentsOf rest = ([')'].isSuffixOf? rest).getD rest := by
  unfold argumentsOf
  split
  · rename_i r
    exact absurd (List.prefix_append ['('] r) h
  · rfl

end Arguments

theorem endsName_open (r : Text) : EndsName ('(' :: r) := by
  have hopen : ¬ isNameChar '(' := by decide +kernel
  simpa [EndsName] using hopen

section Reading
variable {f name rest : Text} {call : FeatureCall}

theorem ofFragment?_append (hname : IsName name) (hrest : EndsName rest) :
    ofFragment? (name ++ rest) = some ⟨name, argumentsOf rest⟩ := by
  obtain ⟨htake, hdrop⟩ := Text.takeWhile_append_of_head hname.2 hrest
  simp only [ofFragment?, htake, hdrop, if_neg hname.1]
  rfl

theorem exists_rest_of_ofFragment? (h : ofFragment? f = some call) :
    ∃ rest, f = call.name ++ rest ∧ IsName call.name ∧ EndsName rest ∧
      call.args = argumentsOf rest := by
  have hname : f.takeWhile isNameChar ≠ [] := by
    intro hnil
    simp [ofFragment?, hnil] at h
  have hrest : EndsName (f.dropWhile isNameChar) := Text.not_of_mem_head?_dropWhile
  have hf : f.takeWhile isNameChar ++ f.dropWhile isNameChar = f := List.takeWhile_append_dropWhile
  have hcall := ofFragment?_append ⟨hname, fun c hc => List.mem_takeWhile_imp hc⟩ hrest
  rw [hf, h, Option.some.injEq] at hcall
  subst hcall
  exact ⟨_, hf.symm, ⟨hname, fun c hc => List.mem_takeWhile_imp hc⟩, hrest, rfl⟩

theorem SpelledBy.ofFragment?_eq (h : call.SpelledBy f) : ofFragment? f = some call := by
  cases h with
  | alone hname =>
    have hends : EndsName [] := by simp [EndsName]
    have hread := ofFragment?_append hname hends
    rwa [List.append_nil] at hread
  | enclosed hname =>
    rw [ofFragment?_append hname (endsName_open _), argumentsOf_open, getD_isSuffixOf?_append]

theorem MisspelledBy.ofFragment?_eq (h : call.MisspelledBy f) : ofFragment? f = some call := by
  cases h with
  | unclosed hname hclose =>
    rw [ofFragment?_append hname (endsName_open _), argumentsOf_open, getD_isSuffixOf?_of_not hclose]
  | @unopened name args hname hends hopen =>
    have hopen' : ¬ ['('] <+: args ++ [')'] := by
      cases args with
      | nil => decide
      | cons c r => simpa using hopen
    rw [ofFragment?_append hname hends, argumentsOf_of_not hopen', getD_isSuffixOf?_append]
  | bare hname hends _ hopen hclose =>
    rw [ofFragment?_append hname hends, argumentsOf_of_not hopen, getD_isSuffixOf?_of_not hclose]

theorem spelledBy_or_misspelledBy (h : ofFragment? f = some call) :
    call.SpelledBy f ∨ call.MisspelledBy f := by
  obtain ⟨rest, rfl, hname, hends, hargs⟩ := exists_rest_of_ofFragment? h
  obtain ⟨name, args⟩ := call
  simp only at hname hargs
  subst hargs
  by_cases hopen : ['('] <+: rest
  · obtain ⟨r, rfl⟩ := hopen
    by_cases hclose : [')'] <:+ r
    · obtain ⟨args, rfl⟩ := hclose
      rw [List.singleton_append, argumentsOf_open, getD_isSuffixOf?_append]
      exact .inl (.enclosed hname)
    · rw [List.singleton_append, argumentsOf_open, getD_isSuffixOf?_of_not hclose]
      exact .inr (.unclosed hname hclose)
  · rw [argumentsOf_of_not hopen]
    by_cases hclose : [')'] <:+ rest
    · obtain ⟨args, rfl⟩ := hclose
      rw [getD_isSuffixOf?_append]
      exact .inr (.unopened hname hends fun ho => hopen (ho.trans (List.prefix_append _ _)))
    · rw [getD_isSuffixOf?_of_not hclose]
      by_cases hnil : rest = []
      · subst hnil
        rw [List.append_nil]
        exact .inl (.alone hname)
      · exact .inr (.bare hname hends hnil hopen hclose)

theorem ofFragment?_eq_some_iff :
    ofFragment? f = some call ↔ call.SpelledBy f ∨ call.MisspelledBy f := by
  constructor
  · exact spelledBy_or_misspelledBy
  · rintro (h | h)
    · exact h.ofFragment?_eq
    · exact h.ofFragment?_eq

theorem SpelledBy.length_eq (h : call.SpelledBy f) :
    (f.length = call.name.length ∧ call.args = []) ∨
      f.length = call.name.length + call.args.length + 2 := by
  cases h with
  | alone hname => exact .inl ⟨rfl, rfl⟩
  | enclosed hname =>
    right
    simp only [List.length_append, List.length_cons, List.length_nil]
    omega

theorem MisspelledBy.length_eq (h : call.MisspelledBy f) :
    f.length = call.name.length + call.args.length + 1 ∨
      (f.length = call.name.length + call.args.length ∧ call.args ≠ []) := by
  cases h with
  | unclosed hname hclose => exact .inl (by simp [Nat.add_assoc])
  | unopened hname hends hopen => exact .inl (by simp [Nat.add_assoc])
  | bare hname hends hargs hopen hclose => exact .inr ⟨by simp, hargs⟩

theorem MisspelledBy.not_spelledBy (h : call.MisspelledBy f) : ¬ call.SpelledBy f := by
  intro hs
  -- The parentheses account for the length of the fragment.
  rcases hs.length_eq with ⟨hlength, hnil⟩ | hlength
  · rcases h.length_eq with hlength' | ⟨-, hargs⟩
    · simp only [hnil, List.length_nil] at hlength'
      omega
    · exact hargs hnil
  · rcases h.length_eq with hlength' | ⟨hlength', -⟩ <;> omega

end Reading

end FeatureCall

theorem FeatureRegistry.call?_eq_some_iff {features : FeatureRegistry γ} {d d' : Descriptor}
    {f key : Text} {context : Option γ} :
    features.call? d f key context = some d' ↔
      ∃ call feature, FeatureCall.ofFragment? f = some call ∧
        features.get? call.name = some feature ∧ d' = feature d call.args key context := by
  rw [call?]
  cases hcall : FeatureCall.ofFragment? f with
  | none => simp
  | some call =>
    simp only [Option.map_eq_some_iff, Option.some.injEq]
    constructor
    · intro he
      obtain ⟨feature, hfeature, rfl⟩ := he
      exact ⟨call, feature, rfl, hfeature, rfl⟩
    · intro he
      obtain ⟨_, feature, rfl, hfeature, rfl⟩ := he
      exact ⟨feature, hfeature, rfl⟩

namespace FeatureCall

/-- A fragment is read as the call that it spells or misspells, and so only as the call that it spells
just when it misspells none. A descriptor is changed by the feature that is read, and by nothing else. -/
theorem ofFragment?_spelled_iff (features : FeatureRegistry γ) (f : Text) :
    (∀ call, ofFragment? f = some call ↔ call.SpelledBy f ∨ call.MisspelledBy f) ∧
      ((∀ call, ofFragment? f = some call ↔ call.SpelledBy f) ↔
        ∀ call : FeatureCall, ¬ call.MisspelledBy f) ∧
      ∀ d d' key context, features.call? d f key context = some d' ↔
        ∃ (call : FeatureCall) (feature : Feature γ),
          (call.SpelledBy f ∨ call.MisspelledBy f) ∧ features.get? call.name = some feature ∧
            d' = feature d call.args key context := by
  refine ⟨fun call => ofFragment?_eq_some_iff, ?_, fun d d' key context => ?_⟩
  · constructor
    · intro h call hm
      exact hm.not_spelledBy ((h call).1 hm.ofFragment?_eq)
    · intro h call
      rw [ofFragment?_eq_some_iff, or_iff_left (h call)]
  · simp only [FeatureRegistry.call?_eq_some_iff, ofFragment?_eq_some_iff]

theorem ofFragment?_unclosed :
    let f := "dim(tv".toList
    ofFragment? f = some ⟨"dim".toList, "tv".toList⟩ ∧
      (∀ call : FeatureCall, ¬ call.SpelledBy f) ∧
      QuerySettings.dimSettings.branch [] none f = "tv".toList := by
  intro f
  have hname : IsName "dim".toList := ⟨by decide, List.all_eq_true.1 (by decide +kernel)⟩
  have hmisspelled : MisspelledBy ⟨"dim".toList, "tv".toList⟩ f := .unclosed hname (by decide)
  have hread := ((ofFragment?_spelled_iff QuerySettings.dimSettings.features f).1 _).2
    (.inr hmisspelled)
  refine ⟨hread, fun call hspelled => ?_, by decide +kernel⟩
  obtain rfl := Option.some.inj (hread.symm.trans hspelled.ofFragment?_eq)
  exact hmisspelled.not_spelledBy hspelled

end FeatureCall

end ResponsiveStyles
