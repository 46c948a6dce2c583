import ResponsiveStyles.Decimal.Reader
import ResponsiveStyles.Json.Value

/-!
# Numbers in JSON texts

The digits of a number are collected in a significand of 64 bits, as many as fit; further integer
digits only raise the exponent, and further digits of the fraction are dropped. The significand is
made a float, and that float is multiplied or divided by a power of ten once, so that a long number
need not be the nearest float. A number too large is refused, and one too small is zero.
-/
namespace ResponsiveStyles.Json

/-- Adds digits to a significand as long as it stays below `2 ^ 64`, and gives back how many were
left over. -/
def collect (significand : Nat) : Text → Nat × Nat
  | [] => (significand, 0)
  | c :: r =>
    let next := significand * 10 + (c.toNat - '0'.toNat)
    if next < UInt64.size then collect next r else (significand, r.length + 1)

def powerOfTen (n : Nat) : Float :=
  Float.ofScientific 1 false n

/-- Divides by `10 ^ n`, in steps of at most `10 ^ 308`, and no further than to zero. -/
def divide (x : Float) (n : Nat) : Float :=
  if n ≤ 308 then x / powerOfTen n
  else if x == 0.0 then x
  else divide (x / powerOfTen 308) (n - 308)
termination_by n

def scale? (significand : Nat) (exponent : Int) : Option Float :=
  let x := significand.toUInt64.toFloat
  match exponent with
  | .ofNat n =>
    if significand = 0 then some x
    else if 308 < n then none
    else
      let y := x * powerOfTen n
      if y.isInf then none else some y
  | .negSucc n => some (divide x (n + 1))

def readMinus : Text → Bool × Text
  | '-' :: r => (true, r)
  | t => (false, t)

def readWhole? (t : Text) : Option (Text × Text) :=
  let digits := t.takeWhile Char.isDigit
  if digits.isEmpty || (digits.head? = some '0' && 1 < digits.length) then none
  else some (digits, t.dropWhile Char.isDigit)

def readFraction? : Text → Option (Option Text × Text)
  | '.' :: r =>
    let digits := r.takeWhile Char.isDigit
    if digits.isEmpty then none else some (some digits, r.dropWhile Char.isDigit)
  | t => some (none, t)

def readInteger? (t : Text) : Option (Int × Text) :=
  let (negative, r) := Decimal.splitSign t
  let digits := r.takeWhile Char.isDigit
  if digits.isEmpty then none
  else
    let n : Int := Decimal.digitsValue digits
    some (if negative then -n else n, r.dropWhile Char.isDigit)

def readExponent? : Text → Option (Option Int × Text)
  | [] => some (none, [])
  | c :: r =>
    if c = 'e' || c = 'E' then (readInteger? r).map fun (e, r) => (some e, r)
    else some (none, c :: r)

def toNumber? (negative : Bool) (whole : Text) (fraction : Option Text) (exponent : Option Int) :
    Option Number :=
  let (m, unread) := collect 0 whole
  let real (significand : Nat) (e : Int) : Option Number :=
    (scale? significand e).map fun x => .real (if negative then -x else x)
  match fraction, exponent with
  | none, none =>
    if unread = 0 then
      if !negative then some (.whole m)
      else if m = 0 || 0x8000000000000000 < m then real m 0
      else some (.whole (-m))
    else real m unread
  | _, _ =>
    let digits := fraction.getD []
    let (m, dropped) := collect m digits
    real m (unread - (digits.length - dropped : Nat) + exponent.getD 0)

def readNumber? (t : Text) : Option (Number × Text) :=
  let (negative, r) := readMinus t
  (readWhole? r).bind fun (whole, r) =>
    (readFraction? r).bind fun (fraction, r) =>
      (readExponent? r).bind fun (exponent, r) =>
        (toNumber? negative whole fraction exponent).map (·, r)

end ResponsiveStyles.Json
