import ResponsiveStyles.Breakpoint.Token
import ResponsiveStyles.Text.Pattern

/-!
# The token grammar

The tokens of a table as patterns. One pattern spells whole tokens, and its groups hold the parts of
the token; the other spells the beginning of a range. A name that is also spelled as a longer token
is still a name.
-/
namespace ResponsiveStyles

inductive TokenGroup where
  | comparator
  | target
  | first
  | last
  | direction
deriving DecidableEq

namespace BreakpointTable

open Pattern

def letterPattern : Pattern TokenGroup := .one Char.isAlpha

def literalPattern : Pattern TokenGroup :=
  .append (.many Text.isDecimalDigit)
    (.append letterPattern (.append letterPattern (perhaps letterPattern)))

def operandPattern (t : BreakpointTable) : Pattern TokenGroup :=
  oneOf literalPattern (t.names.map .text)

def comparatorPattern : Pattern TokenGroup :=
  .append (.one fun c => c = 'l' || c = 'g')
    (.append (.one fun c => c = 't') (perhaps (.one fun c => c = 'e')))

def comparisonPattern (t : BreakpointTable) : Pattern TokenGroup :=
  .append (.group .comparator comparatorPattern)
    (.append (.text ['-']) (.group .target t.operandPattern))

def lastPattern (t : BreakpointTable) : Pattern TokenGroup :=
  .append (.text "-to-".toList) (.group .last t.operandPattern)

def directionPattern : Pattern TokenGroup :=
  .append (.text ['-']) (.group .direction (.either (.text "up".toList) (.text "down".toList)))

def tailPattern (t : BreakpointTable) : Pattern TokenGroup :=
  if t.options.suffixes then .either t.lastPattern directionPattern else t.lastPattern

def tokenPattern (t : BreakpointTable) : Pattern TokenGroup :=
  .either t.comparisonPattern (.append (.group .first t.operandPattern) (perhaps t.tailPattern))

def rangePattern (t : BreakpointTable) : Pattern TokenGroup :=
  .append t.operandPattern (.text "-to-".toList)

/-- Whether a fragment is a token, or begins like a range, by the patterns of the table. -/
def isMatched (t : BreakpointTable) (f : Text) : Bool :=
  (t.tokenPattern.whole? f).isSome || t.rangePattern.begins f

def shapeOf (t : BreakpointTable) (f : Text) (m : PatternMatch TokenGroup) : TokenShape :=
  match (m.group? .comparator).bind Comparator.ofWord?, m.group? .target with
  | some c, some operand => .compared c operand
  | _, _ =>
    let first := (m.group? .first).getD f
    match m.group? .last, m.group? .direction with
    | some last, _ => .between first last
    | none, some direction => if direction = "up".toList then .up first else .down first
    | none, none => if t.isName first then .only first else .literal first

/-- What a fragment says by the patterns of the table. -/
def matchedShape? (t : BreakpointTable) (f : Text) : Option TokenShape :=
  if t.isName f then some (.only f)
  else
    match t.tokenPattern.whole? f with
    | some m => some (t.shapeOf f m)
    | none => if t.rangePattern.begins f then some (.dangling f) else none

end BreakpointTable

end ResponsiveStyles
