/-!
# Shortest decimals

A finite float stands for one exact value, and reading a decimal rounds it to the nearest float.
`Magnitude.shortest` gives the decimal with the fewest digits among those that are read back as the
value, and of these the nearest. All comparisons are made on natural numbers.
-/
namespace ResponsiveStyles.Decimal

inductive Tie where
  | up
  | toEven
deriving DecidableEq, Repr

structure Magnitude where
  mantissa : Nat
  exponent : Int
  /-- The next smaller float is only half as far away as the next larger one. -/
  narrowBelow : Bool
deriving DecidableEq, Repr

structure Scientific where
  digits : Nat
  exponent : Int
deriving DecidableEq, Repr

inductive Reading where
  | nan
  | infinite (negative : Bool)
  | finite (negative : Bool) (value : Magnitude)
deriving DecidableEq, Repr

def Reading.ofBits (bits : UInt64) : Reading :=
  let negative := bits >>> 63 == 1
  let exponent := ((bits >>> 52) &&& 0x7FF).toNat
  let fraction := (bits &&& 0xFFFFFFFFFFFFF).toNat
  if exponent = 0x7FF then
    if fraction = 0 then .infinite negative else .nan
  else if exponent = 0 then
    .finite negative ⟨fraction, -1074, false⟩
  else
    .finite negative ⟨0x10000000000000 + fraction, exponent - 1075, fraction = 0 && 1 < exponent⟩

def Reading.ofFloat (x : Float) : Reading :=
  .ofBits x.toBits

namespace Magnitude

def ratio (v : Magnitude) : Nat × Nat :=
  match v.exponent with
  | .ofNat n => (v.mantissa * Nat.pow 2 n, 1)
  | .negSucc n => (v.mantissa, Nat.pow 2 (n + 1))

def steps (v : Magnitude) (k : Int) : Nat × Nat :=
  let (a, b) := v.ratio
  match k with
  | .ofNat n => (a, b * Nat.pow 10 n)
  | .negSucc n => (a * Nat.pow 10 (n + 1), b)

/-- The least `p` such that the value is below `10 ^ p`, for a value of at least `10 ^ (-330)`. -/
def pointPosition (v : Magnitude) : Int :=
  let (a, b) := v.ratio
  (Nat.toDigits 10 (a * Nat.pow 10 330 / b)).length - 330

/-- Of the two decimals in steps of `10 ^ k` that enclose the value, the nearer one that is read
back as the value. Distances are compared with half the gap to the next float, and the halves
themselves are read back only when the mantissa is even. -/
def onGrid? (tie : Tie) (v : Magnitude) (k : Int) : Option Nat :=
  let (a, b) := v.steps k
  let d := a / b
  let r := a % b
  let within (distance gap : Nat) : Bool :=
    if v.mantissa % 2 = 0 then distance ≤ gap else distance < gap
  let below := within (4 * v.mantissa * r) (if v.narrowBelow then a else 2 * a)
  let above := within (2 * v.mantissa * (b - r)) a
  match below, above with
  | true, false => some d
  | false, true => some (d + 1)
  | false, false => none
  | true, true =>
    if 2 * r < b then some d
    else if b < 2 * r then some (d + 1)
    else match tie with
      | .up => some (d + 1)
      | .toEven => some (if d % 2 = 0 then d else d + 1)

/-- The first grid with a decimal that is read back, from `count` digits on, for at most `fuel`
grids. -/
def search (tie : Tie) (v : Magnitude) (position : Int) (count : Nat) : Nat → Scientific
  | 0 => ⟨0, 0⟩
  | fuel + 1 =>
    let k := position - count
    match v.onGrid? tie k with
    | some d => ⟨d, k⟩
    | none => search tie v position (count + 1) fuel

/-- The shortest decimal of a positive value: seventeen digits are always enough. -/
def shortest (tie : Tie) (v : Magnitude) : Scientific :=
  search tie v v.pointPosition 1 17

end Magnitude

end ResponsiveStyles.Decimal
