import ResponsiveStyles.Breakpoint.Range
import ResponsiveStyles.Length
import ResponsiveStyles.Query.Descriptor

/-!
# Tokens in a descriptor

A token sets the least and the greatest width of the descriptor. Media queries include both bounds, so
the bound that the token leaves out is moved by epsilon: the lower one after `lte` and `gte`, and the
upper one otherwise. In range context the token is instead written as one condition on the width.
-/
namespace ResponsiveStyles

inductive TokenOutcome where
  | resolved (range : WidthRange)
  /-- The token has no range. -/
  | unresolved
  | notAToken
deriving DecidableEq, Repr

def rangeSlot : Text := "mql4rc".toList

namespace WidthRange

def writeBounds (r : WidthRange) (epsilon : Float) (d : Descriptor) : Descriptor :=
  let d := match r.lower with
    | some lower =>
      d.set "min-width".toList (Length.adjust lower (if r.orEqual then epsilon else 0.0))
    | none => d
  match r.upper with
  | some upper =>
    d.set "max-width".toList (Length.adjust upper (if r.orEqual then 0.0 else epsilon))
  | none => d

def writeCondition (r : WidthRange) (d : Descriptor) : Descriptor :=
  match r.condition? with
  | some condition => d.setVerbatim rangeSlot condition
  | none => d

def write (r : WidthRange) (options : RangeOptions) (d : Descriptor) : Descriptor :=
  if options.rangeContext then r.writeCondition d else r.writeBounds options.epsilon d

end WidthRange

namespace BreakpointTable

/-- Reads a fragment as a token and writes its range. -/
def resolve (t : BreakpointTable) (d : Descriptor) (fragment : Text) : TokenOutcome × Descriptor :=
  match t.classify fragment with
  | none => (.notAToken, d)
  | some shape =>
    match t.range? shape with
    | none => (.unresolved, d.markUnresolved)
    | some range => (.resolved range, range.write t.options d)

end BreakpointTable

end ResponsiveStyles
