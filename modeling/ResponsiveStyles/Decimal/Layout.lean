import ResponsiveStyles.Decimal.Shortest
import ResponsiveStyles.Text.Basic

/-!
# Layouts of decimals

A layout says how the digits of a float are written: up to which sizes with a point among them, and
what marks a whole number. `plain` is the layout of lengths and messages, `Layout.json` the one of
JSON texts.
-/
namespace ResponsiveStyles.Decimal

structure Layout where
  /-- The choice between two equally near shortest decimals. -/
  tie : Tie
  /-- Whether a number is written without an exponent when its point stands after this many digits,
  a count that is negative for zeros after the point. -/
  positional : Int → Bool
  whole : Text

def Layout.plain : Layout := ⟨.up, fun _ => true, []⟩

/-- Exponents below `0.00001` and from `10 ^ 16` on, and a zero after the point of a whole number. -/
def Layout.json : Layout := ⟨.toEven, fun p => -5 < p && p ≤ 16, ['.', '0']⟩

namespace Layout

def withPoint (layout : Layout) (digits : Text) (position : Int) : Text :=
  match position with
  | .ofNat p =>
    if digits.length ≤ p then
      digits ++ List.replicate (p - digits.length) '0' ++ layout.whole
    else if p = 0 then
      '0' :: '.' :: digits
    else
      digits.take p ++ '.' :: digits.drop p
  | .negSucc n => '0' :: '.' :: (List.replicate (n + 1) '0' ++ digits)

def withExponent (digits : Text) (exponent : Int) : Text :=
  let sign := if exponent < 0 then '-' else '+'
  let tail := 'e' :: sign :: Text.ofNat exponent.natAbs
  match digits with
  | [] => tail
  | [d] => d :: tail
  | d :: rest => d :: '.' :: (rest ++ tail)

def stripZeros (digits : Text) : Text × Nat :=
  let kept := (digits.reverse.dropWhile (· == '0')).reverse
  (kept, digits.length - kept.length)

def magnitude (layout : Layout) (v : Magnitude) : Text :=
  if v.mantissa = 0 then
    '0' :: layout.whole
  else
    let decimal := v.shortest layout.tie
    let (digits, zeros) := stripZeros (Text.ofNat decimal.digits)
    let position := digits.length + (decimal.exponent + zeros)
    if layout.positional position then layout.withPoint digits position
    else withExponent digits (position - 1)

/-- The text of a float. Minus zero keeps its sign. -/
def write (layout : Layout) (x : Float) : Text :=
  match Reading.ofFloat x with
  | .nan => "NaN".toList
  | .infinite negative => if negative then "-inf".toList else "inf".toList
  | .finite negative v =>
    if negative then '-' :: layout.magnitude v else layout.magnitude v

end Layout

def plain (x : Float) : Text :=
  Layout.plain.write x

end ResponsiveStyles.Decimal
