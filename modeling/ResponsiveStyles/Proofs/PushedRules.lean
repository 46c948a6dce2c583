import ResponsiveStyles.Style.Compiler

/-!
# Rules do not depend on what was pushed before

Without a context a key has the media query that is remembered for it, or else the one that the key
alone decides, and remembering more changes neither. The rules of a style map are therefore the same
before and after other maps were entered.
-/
namespace ResponsiveStyles

variable {γ : Type}

def StyleMap.declarations (m : StyleMap) : List (Text × Text) :=
  m.filterMap fun p => match p.2 with
    | .string style => some (p.1, style)
    | _ => none

theorem QueryCompiler.fst_compile_compile (c : QueryCompiler γ) (key key' : Text) :
    ((c.compile key' none).2.compile key none).1 = (c.compile key none).1 := by
  cases h' : c.cache.get? key' with
  | some q => simp only [compile, h']
  | none =>
    by_cases hk : key = key'
    · subst hk
      simp only [compile, h', OrderedMap.get?_insert, if_true]
    · simp only [compile, h', OrderedMap.get?_insert, hk, if_false]
      cases c.cache.get? key <;> rfl

namespace StyleCompiler

/-- The rules of a style map. -/
def rulesOf (c : StyleCompiler γ) (m : StyleMap) : List PushedRule :=
  m.declarations.map fun p => (c.pushRule p.1 p.2 none).1

theorem rulesOf_pushRule (c : StyleCompiler γ) (key style : Text) (m : StyleMap) :
    (c.pushRule key style none).2.rulesOf m = c.rulesOf m := by
  apply List.map_congr_left
  intro p _
  have hquery := c.queries.fst_compile_compile p.1 key
  simp only [pushRule, StyleRegistry.fst_push, StyleRegistry.fingerprint, StyleRegistry.selector,
    StyleRegistry.seed_push, StyleRegistry.template_push, hquery]

theorem push_spec (c : StyleCompiler γ) (m : StyleMap) :
    (c.push none m).1 = c.rulesOf m ∧ ∀ m', (c.push none m).2.rulesOf m' = c.rulesOf m' := by
  induction m generalizing c with
  | nil => exact ⟨rfl, fun _ => rfl⟩
  | cons p r ih =>
    obtain ⟨key, v⟩ := p
    cases v with
    | string style =>
      obtain ⟨hrules, hlater⟩ := ih (c.pushRule key style none).2
      simp only [rulesOf_pushRule] at hrules hlater
      simp only [push, hrules]
      exact ⟨rfl, hlater⟩
    | _ => exact ih c

theorem snd_push_append (c : StyleCompiler γ) (m m' : StyleMap) :
    (c.push none (m ++ m')).2 = ((c.push none m).2.push none m').2 := by
  induction m generalizing c with
  | nil => rfl
  | cons p r ih =>
    obtain ⟨key, v⟩ := p
    cases v with
    | string style => exact ih (c.pushRule key style none).2
    | _ => exact ih c

end StyleCompiler

end ResponsiveStyles
