import ResponsiveStyles.Query.Descriptor
import ResponsiveStyles.Text.Alphanumeric
import ResponsiveStyles.Text.Shown

/-!
# Media features of the caller

A fragment may call a feature by its name, with arguments in parentheses. What the feature does to the
descriptor is the caller's choice; it is also told the key that is being compiled and whatever context
the caller passed along.
-/
namespace ResponsiveStyles

structure FeatureCall where
  name : Text
  args : Text
deriving DecidableEq, Repr

namespace FeatureCall

def isNameChar (c : Char) : Bool :=
  Text.isAlphanumeric c || c = '_' || c = '-' || c = '.'

/-- The call that a fragment makes: a name, then arguments. Parentheses around the arguments are not
part of them. -/
def ofFragment? (fragment : Text) : Option FeatureCall :=
  let name := fragment.takeWhile isNameChar
  if name = [] then none
  else
    let args := match fragment.dropWhile isNameChar with
      | '(' :: r => r
      | r => r
    some ⟨name, ([')'].isSuffixOf? args).getD args⟩

end FeatureCall

abbrev Feature (γ : Type) := Descriptor → (args key : Text) → Option γ → Descriptor

abbrev FeatureRegistry (γ : Type) := OrderedMap Text (Feature γ)

namespace FeatureRegistry

variable {γ : Type}

def call? (features : FeatureRegistry γ) (d : Descriptor) (fragment key : Text)
    (context : Option γ) : Option Descriptor :=
  match FeatureCall.ofFragment? fragment with
  | none => none
  | some call => (features.get? call.name).map fun feature => feature d call.args key context

def sortedNames (features : FeatureRegistry γ) : List Text :=
  features.keys.mergeSort Text.atMost

def shown (features : FeatureRegistry γ) : Text :=
  "FeatureRegistry \x7b features: [".toList ++
    ", ".toList.intercalate (features.sortedNames.map Text.shown) ++ "] \x7d".toList

end FeatureRegistry

end ResponsiveStyles
