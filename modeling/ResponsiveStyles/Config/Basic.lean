import ResponsiveStyles.Breakpoint.Definition
import ResponsiveStyles.Breakpoint.Table
import ResponsiveStyles.Decimal.Layout
import ResponsiveStyles.Text.Blank

/-!
# Configurations

A configuration says where the breakpoints of a set come from and how keys, rules and markup are
treated. An explicit list of breakpoints counts before a definition; when neither can be used, the
fallback stands in.
-/
namespace ResponsiveStyles

structure Config where
  breakpointKey : Text := "default".toList
  /-- The element from which the set is read. -/
  breakpointSelector : Text := "html".toList
  breakpoints : Option (List Breakpoint) := none
  definition : Option Text := none
  range : RangeOptions := {}
  /-- Whether a branch begins with the media type of all devices. -/
  mediaFirst : Bool := true
  seed : Option UInt32 := none
  /-- Whether the style element is scoped. -/
  scopedStyle : Bool := true
  /-- Whether style attributes are dropped from the markup. -/
  dropAttributes : Bool := false

inductive ConfigFault where
  /-- Epsilon is negative or not finite. -/
  | epsilonOutOfRange (epsilon : Float)
  | blankKey

namespace ConfigFault

def message : ConfigFault → Text
  | .epsilonOutOfRange epsilon =>
    "min_max_subtract must be a finite, non-negative number (got ".toList ++
      Decimal.plain epsilon ++ [')']
  | .blankKey => "breakpoint_key must not be empty".toList

end ConfigFault

namespace Config

def fault? (c : Config) : Option ConfigFault :=
  if !c.range.epsilon.isFinite || c.range.epsilon < 0.0 then
    some (.epsilonOutOfRange c.range.epsilon)
  else if Text.isAllBlank c.breakpointKey then some .blankKey
  else none

def property (c : Config) : Text :=
  Definition.property c.breakpointKey

def entries (c : Config) : Except BreakpointError (List Breakpoint) :=
  match c.breakpoints, c.definition with
  | some entries, _ => .ok entries
  | none, some definition => Definition.parse definition
  | none, none => .error (.missing c.property)

/-- The table that the configuration describes, or the fallback. -/
def table (c : Config) : BreakpointTable :=
  match c.entries with
  | .ok entries => .ofEntries entries c.range
  | .error _ => .fallback c.range

end Config

end ResponsiveStyles
