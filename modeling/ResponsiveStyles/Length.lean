import ResponsiveStyles.Decimal.Layout
import ResponsiveStyles.Decimal.Reader
import ResponsiveStyles.Text.Blank
import ResponsiveStyles.Text.DecimalDigit

/-!
# Lengths

A length is a number followed by a unit, such as `768px`. Its number part is an optional sign and
digits with at most one point; what follows is the unit, whatever it is, as long as it stands on one
line. The digits may belong to any script, but only ASCII digits spell a number.
-/
namespace ResponsiveStyles.Length

def unsignedPart? (t : Text) : Option (Text × Text) :=
  let whole := t.takeWhile Text.isDecimalDigit
  let rest := t.dropWhile Text.isDecimalDigit
  match whole, rest with
  | [], '.' :: r =>
    let fraction := r.takeWhile Text.isDecimalDigit
    if fraction.isEmpty then none
    else some ('.' :: fraction, r.dropWhile Text.isDecimalDigit)
  | [], _ => none
  | _, '.' :: r =>
    some (whole ++ '.' :: r.takeWhile Text.isDecimalDigit, r.dropWhile Text.isDecimalDigit)
  | _, _ => some (whole, rest)

def numberPart? : Text → Option (Text × Text)
  | '+' :: r => (unsignedPart? r).map fun (n, rest) => ('+' :: n, rest)
  | '-' :: r => (unsignedPart? r).map fun (n, rest) => ('-' :: n, rest)
  | t => unsignedPart? t

def split? (length : Text) : Option (Float × Text) :=
  match numberPart? (Text.trim length) with
  | none => none
  | some (number, unit) =>
    if unit.contains '\n' then none
    else (Decimal.read? number).map (·, unit)

/-- The length with `epsilon` taken from its number. A length without a number is left as it is, and
so is every length when `epsilon` is zero. -/
def adjust (length : Text) (epsilon : Float) : Text :=
  if epsilon == 0.0 then length
  else
    match split? length with
    | some (number, unit) => Decimal.plain (number - epsilon) ++ unit
    | none => length

theorem adjust_zero (length : Text) : adjust length 0.0 = length := by
  have h : ((0.0 : Float) == 0.0) = true := by decide
  rw [adjust, if_pos h]

theorem adjust_of_split?_eq_none {length : Text} (h : split? length = none) (epsilon : Float) :
    adjust length epsilon = length := by
  simp [adjust, h]

end ResponsiveStyles.Length
