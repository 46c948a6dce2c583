import ResponsiveStyles.Breakpoint.Token

/-!
# Ranges of widths

A token stands for a range of widths with a lower bound, an upper bound or both. A dangling range
stands for none.
-/
namespace ResponsiveStyles

structure WidthRange where
  lower : Option Text := none
  upper : Option Text := none
  orEqual : Bool := false
deriving DecidableEq, Repr

namespace BreakpointTable

/-- The length of an operand: that of a name, or the literal itself. -/
def lengthOf (t : BreakpointTable) (operand : Text) : Text :=
  (t.length? operand).getD operand

def range? (t : BreakpointTable) : TokenShape → Option WidthRange
  | .only name => some { lower := t.length? name, upper := (t.next? name).map Breakpoint.length }
  | .literal length => some { lower := length }
  | .compared c operand =>
    let bound := some (t.lengthOf operand)
    if c.isUpper then some { upper := bound, orEqual := c.orEqual }
    else some { lower := bound, orEqual := c.orEqual }
  | .between first last => some { lower := t.lengthOf first, upper := t.lengthOf last }
  | .up operand => some { lower := t.lengthOf operand }
  | .down operand => some { upper := t.lengthOf operand }
  | .dangling _ => none

theorem range?_eq_none_iff {t : BreakpointTable} {s : TokenShape} :
    t.range? s = none ↔ ∃ f, s = .dangling f := by
  cases s with
  | compared c operand => cases c <;> simp [range?, Comparator.isUpper]
  | _ => simp [range?]

end BreakpointTable

namespace WidthRange

def condition? (r : WidthRange) : Option Text :=
  let equals := if r.orEqual then ['='] else []
  match r.lower, r.upper with
  | some lower, some upper => some (lower ++ " < width < ".toList ++ upper)
  | some lower, none => some ("width >".toList ++ equals ++ ' ' :: lower)
  | none, some upper => some ("width <".toList ++ equals ++ ' ' :: upper)
  | none, none => none

end WidthRange

end ResponsiveStyles
