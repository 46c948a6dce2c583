import ResponsiveStyles.Breakpoint.Table
import ResponsiveStyles.Text.DecimalDigit

/-!
# Breakpoint tokens

A token speaks of widths by operands: names of the table, or literals such as `900px`. A fragment that
is a name is always that name. Otherwise it may compare with an operand, and otherwise it is read from
its first operand on; where several operands begin the fragment, names come before the literal, in the
order of the table, and the first that leads to a token counts. A range whose end is no operand is
dangling.
-/
namespace ResponsiveStyles

inductive Comparator where
  | lt
  | lte
  | gt
  | gte
deriving DecidableEq, Repr

namespace Comparator

def all : List Comparator := [.lt, .lte, .gt, .gte]

def word : Comparator → Text
  | .lt => "lt".toList
  | .lte => "lte".toList
  | .gt => "gt".toList
  | .gte => "gte".toList

def orEqual : Comparator → Bool
  | .lt => false
  | .lte => true
  | .gt => false
  | .gte => true

def isUpper : Comparator → Bool
  | .lt => true
  | .lte => true
  | .gt => false
  | .gte => false

def ofWord? (w : Text) : Option Comparator :=
  all.find? fun c => c.word = w

end Comparator

inductive TokenShape where
  /-- A name alone: from its width up to that of the next name. -/
  | only (name : Text)
  /-- A literal alone: from this width on. -/
  | literal (length : Text)
  | compared (comparator : Comparator) (operand : Text)
  | between (first last : Text)
  | up (operand : Text)
  | down (operand : Text)
  /-- A range whose end is no operand. -/
  | dangling (fragment : Text)
deriving DecidableEq, Repr

namespace BreakpointTable

def isLiteral (f : Text) : Bool :=
  let letters := f.dropWhile Text.isDecimalDigit
  !(f.takeWhile Text.isDecimalDigit).isEmpty && letters.all Char.isAlpha &&
    (letters.length = 2 || letters.length = 3)

/-- The literals that a fragment begins with, the longer one first, each with what follows it. -/
def literalsBefore (f : Text) : List (Text × Text) :=
  let digits := f.takeWhile Text.isDecimalDigit
  let rest := f.dropWhile Text.isDecimalDigit
  if digits.isEmpty then []
  else ([3, 2].filter (· ≤ (rest.takeWhile Char.isAlpha).length)).map fun n =>
    (digits ++ rest.take n, rest.drop n)

def isOperand (t : BreakpointTable) (f : Text) : Bool :=
  t.isName f || isLiteral f

def operandsBefore (t : BreakpointTable) (f : Text) : List (Text × Text) :=
  (t.names.filterMap fun n => (n.isPrefixOf? f).map (n, ·)) ++ literalsBefore f

def compared? (t : BreakpointTable) (f : Text) (c : Comparator) : Option TokenShape :=
  match (c.word ++ ['-']).isPrefixOf? f with
  | some operand => if t.isOperand operand then some (.compared c operand) else none
  | none => none

def comparison? (t : BreakpointTable) (f : Text) : Option TokenShape :=
  Comparator.all.findSome? (t.compared? f)

def reading? (t : BreakpointTable) (operand rest : Text) : Option TokenShape :=
  match "-to-".toList.isPrefixOf? rest with
  | some last => if t.isOperand last then some (.between operand last) else none
  | none =>
    if rest = [] then some (.literal operand)
    else if !t.options.suffixes then none
    else if rest = "-up".toList then some (.up operand)
    else if rest = "-down".toList then some (.down operand)
    else none

/-- Whether an operand and the start of a range stand in front of the fragment. -/
def isDangling (t : BreakpointTable) (f : Text) : Bool :=
  (t.operandsBefore f).any fun (_, rest) => "-to-".toList.isPrefixOf rest

/-- What a fragment says as a token, when it is one. -/
def classify (t : BreakpointTable) (f : Text) : Option TokenShape :=
  if t.isName f then some (.only f)
  else
    match t.comparison? f with
    | some shape => some shape
    | none =>
      match (t.operandsBefore f).findSome? fun (operand, rest) => t.reading? operand rest with
      | some shape => some shape
      | none => if t.isDangling f then some (.dangling f) else none

def isToken (t : BreakpointTable) (f : Text) : Bool :=
  (t.classify f).isSome

end BreakpointTable

end ResponsiveStyles
