import ResponsiveStyles.Text.Basic

/-!
# Reading decimals

A decimal is an optional sign, digits with at most one point and at least one digit, and an optional
exponent; the words for infinity and for a value that is no number are read in any case. The nearest
float is given, so that a value out of range is an infinity and one too small is zero.
-/
namespace ResponsiveStyles.Decimal

def digitsValue (digits : Text) : Nat :=
  digits.foldl (fun n c => n * 10 + (c.toNat - '0'.toNat)) 0

/-- The float nearest to `significand * 10 ^ exponent`. Sizes far out of range are settled by the
count of digits alone. -/
def nearest (significand : Nat) (exponent : Int) : Float :=
  if significand = 0 then
    0.0
  else
    let position := (Nat.toDigits 10 significand).length + exponent
    if 310 < position then 1.0 / 0.0
    else if position < -330 then 0.0
    else Float.ofScientific significand (exponent < 0) exponent.natAbs

def splitSign : Text → Bool × Text
  | '-' :: r => (true, r)
  | '+' :: r => (false, r)
  | t => (false, t)

def readExponent? : Text → Option Int
  | [] => some 0
  | c :: r =>
    if c = 'e' || c = 'E' then
      let (negative, digits) := splitSign r
      if digits.isEmpty || !digits.all Char.isDigit then none
      else some (if negative then -(digitsValue digits : Int) else digitsValue digits)
    else none

def readUnsigned? (t : Text) : Option Float :=
  let whole := t.takeWhile Char.isDigit
  let afterWhole := t.dropWhile Char.isDigit
  let (fraction, rest) :=
    match afterWhole with
    | '.' :: r => (r.takeWhile Char.isDigit, r.dropWhile Char.isDigit)
    | r => ([], r)
  if whole.isEmpty && fraction.isEmpty then none
  else (readExponent? rest).map fun e =>
    nearest (digitsValue (whole ++ fraction)) (e - fraction.length)

def read? (t : Text) : Option Float :=
  let (negative, rest) := splitSign t
  let word := rest.map Char.toLower
  let value :=
    if word = "inf".toList || word = "infinity".toList then some (1.0 / 0.0)
    else if word = "nan".toList then some (0.0 / 0.0)
    else readUnsigned? rest
  value.map fun x => if negative then -x else x

end ResponsiveStyles.Decimal
