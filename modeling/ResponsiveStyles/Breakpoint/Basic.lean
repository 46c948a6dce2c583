import ResponsiveStyles.Text.Basic

/-!
# Breakpoints

A breakpoint names a width. The faults of a list of breakpoints, and of the text that defines one, are
told apart by their causes; `BreakpointError.message` words them.
-/
namespace ResponsiveStyles

structure Breakpoint where
  name : Text
  length : Text
deriving DecidableEq, Repr

def Breakpoint.fallback : Breakpoint :=
  ⟨"undefined".toList, "0px".toList⟩

inductive BreakpointError where
  | missing (property : Text)
  | notJson
  | notAList (kind : Text)
  /-- An item of the list, as JSON text, is not a name with a length. -/
  | notAPair (item : Text)
  | notALength (kind name : Text)
  | blankName (position : Nat)
  | empty
  | duplicateName (name : Text)
deriving DecidableEq, Repr

namespace BreakpointError

def found? : BreakpointError → Option Text
  | .notAList kind => some kind
  | .notAPair item => some item
  | .notALength kind name => some (kind ++ " length for '".toList ++ name ++ ['\''])
  | .blankName position => some ("empty name at position ".toList ++ Text.ofNat position)
  | .missing _ => none
  | .notJson => none
  | .empty => none
  | .duplicateName _ => none

def message (e : BreakpointError) : Text :=
  match e with
  | .missing property => "No breakpoint definition found for '".toList ++ property ++ ['\'']
  | .notJson => "Breakpoint definition is not valid JSON".toList
  | .empty => "Breakpoint definition is empty".toList
  | .duplicateName name => "Duplicate breakpoint name '".toList ++ name ++ ['\'']
  | e =>
    "Breakpoint definition must be an array of [name, length] pairs, found ".toList ++
      e.found?.getD []

end BreakpointError

end ResponsiveStyles
