import ResponsiveStyles.Text.Shown

/-!
# Selectors

Every rule is selected by a text that a template makes from its fingerprint: a class, an attribute,
or whatever the caller chooses.
-/
namespace ResponsiveStyles

/-- The attribute that marks an element for the rule with a fingerprint. -/
def marker (fingerprint : UInt64) : Text :=
  "data-rsa-".toList ++ Text.ofNat fingerprint.toNat

inductive SelectorTemplate where
  | byClass
  | byAttribute
  /-- Any text that depends on the fingerprint. -/
  | custom (render : UInt64 → Text)

namespace SelectorTemplate

instance : Inhabited SelectorTemplate := ⟨.byClass⟩

def selector : SelectorTemplate → UInt64 → Text
  | .byClass, fp => ".rsa-".toList ++ Text.ofNat fp.toNat
  | .byAttribute, fp => '[' :: (marker fp ++ [']'])
  | .custom render, fp => render fp

def label : SelectorTemplate → Text
  | .byClass => "class".toList
  | .byAttribute => "attribute".toList
  | .custom _ => "custom".toList

def shown (t : SelectorTemplate) : Text :=
  "SelectorTemplate(".toList ++ t.label.shown ++ [')']

end SelectorTemplate

end ResponsiveStyles
