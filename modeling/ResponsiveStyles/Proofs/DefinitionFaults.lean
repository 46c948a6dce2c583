import ResponsiveStyles.Breakpoint.Definition
import Mathlib.Data.List.Forall2

/-!
# Faults of definitions

A definition is read as a whole or not at all. What is refused is blank, no JSON, no list, or a list
with a faulty item; then the first such item alone is reported, whatever the others are.
-/
namespace ResponsiveStyles

section Traversal
variable {α β ε : Type} {f : α → Except ε β} {l : List α}

end Traversal

namespace Definition

open Json

/-- A pair of a name with a length, which is a string or a number. -/
inductive Spells : Value → Breakpoint → Prop where
  | string (name length : Text) : Spells (.array [.string name, .string length]) ⟨name, length⟩
  | number (name : Text) (n : Number) :
      Spells (.array [.string name, .number n]) ⟨name, (Value.number n).compact⟩

section Items
variable {item : Value} {b : Breakpoint} {found : Text}

end Items

section List
variable {items : List Value} {e : BreakpointError} {found : Text}

end List

section Parse
variable {t : Text} {items : List Value} {v : Value}

/-- What comes of a text. -/
inductive Reads (t : Text) : Except BreakpointError (List Breakpoint) → Prop where
  | blank (h : Text.trim t = []) : Reads t (.error .empty)
  | notJson (h0 : Text.trim t ≠ []) (h : Json.read? (Text.trim t) = none) : Reads t (.error .notJson)
  | other {v : Value} (h : Json.read? (Text.trim t) = some v) (hv : ∀ items, v ≠ .array items) :
      Reads t (.error (.notAList v.kind))
  | fault {items : List Value} {e : BreakpointError} {found : Text}
      (h : Json.read? (Text.trim t) = some (.array items)) (he : items.mapM entryOf = .error e)
      (hfound : e.found? = some found) : Reads t (.error e)
  | entries {items : List Value} {bs : List Breakpoint}
      (h : Json.read? (Text.trim t) = some (.array items)) (hbs : items.mapM entryOf = .ok bs) :
      Reads t (.ok bs)

end Parse

end Definition

end ResponsiveStyles
