import Multirotor.Scalar

/-!
# Binary64

The instance of `Scalar` at which the simulation runs.  Rounding to a whole number and the exact
remainder are computed here from operations that have a meaning in the logic: `Binary64.round`
through truncation to a word, `Binary64.fmod` on the exact value `± mantissa · 2 ^ exponent` that
`Dyadic.ofFloat` reads off the bits.
-/

namespace Multirotor

/-- An exact binary value, `mantissa · 2 ^ exponent` with a sign. -/
structure Dyadic where
  negative : Bool
  mantissa : Nat
  exponent : Int
  deriving DecidableEq, Repr

namespace Dyadic

/-- The exact value of a finite double. -/
def ofFloat (x : Float) : Dyadic :=
  let bits := x.toBits
  let biased := ((bits >>> 52) &&& 0x7ff).toNat
  let fraction := (bits &&& 0xfffffffffffff).toNat
  { negative := bits >>> 63 == 1
    mantissa := if biased = 0 then fraction else fraction + 0x10000000000000
    exponent := if biased = 0 then -1074 else Int.ofNat biased - 1075 }

/-- The magnitude as a quotient of natural numbers. -/
def quotient (d : Dyadic) : Nat × Nat :=
  if 0 ≤ d.exponent then (d.mantissa <<< d.exponent.toNat, 1)
  else (d.mantissa, 1 <<< (-d.exponent).toNat)

/-- The double nearest to the value. -/
def toFloat (d : Dyadic) : Float :=
  let magnitude :=
    if 0 ≤ d.exponent then Float.ofNat (d.mantissa <<< d.exponent.toNat)
    else
      -- a negative power of two is a power of five over one of ten
      let places := (-d.exponent).toNat
      Float.ofScientific (d.mantissa * Nat.pow 5 places) true places
  if d.negative then -magnitude else magnitude

/-- The remainder of the magnitudes over their common power of two, with the sign of `a`. -/
def rem (a b : Dyadic) : Dyadic :=
  let exponent := min a.exponent b.exponent
  let shifted (d : Dyadic) : Nat := d.mantissa <<< (d.exponent - exponent).toNat
  { negative := a.negative, mantissa := shifted a % shifted b, exponent := exponent }

end Dyadic

namespace Binary64

/-- Not a number. -/
def nan : Float := 0.0 / 0.0

/-- Infinity. -/
def infinity : Float := 1.0 / 0.0

/-- The nearest whole number, a half going away from zero.  From `2 ^ 52` on every double is
whole, and below it truncation to a word is exact. -/
def round (x : Float) : Float :=
  let magnitude := x.abs
  if magnitude < 4503599627370496.0 then
    let whole := magnitude.toUInt64.toFloat
    let nearest := if 0.5 ≤ magnitude - whole then whole + 1.0 else whole
    if x < 0.0 then -nearest else nearest
  else x

/-- Plus or minus one by the sign bit; NaN has none. -/
def signum (x : Float) : Float :=
  if x.isNaN then x else if x.toBits >>> 63 == 1 then -1.0 else 1.0

/-- The exact remainder, with the sign of `x`. -/
def fmod (x y : Float) : Float :=
  if !x.isFinite || y.isNaN || y == 0.0 then nan
  else if y.isInf then x
  else ((Dyadic.ofFloat x).rem (Dyadic.ofFloat y)).toFloat

end Binary64

instance : Scalar Float where
  zero := 0.0
  one := 1.0
  natCast := Float.ofNat
  decLt := inferInstance
  decLe := inferInstance
  pi := 3.141592653589793
  abs := Float.abs
  signum := Binary64.signum
  round := Binary64.round
  toUInt64 := Float.toUInt64
  isFinite := Float.isFinite
  sqrt := Float.sqrt
  log := Float.log
  sin := Float.sin
  cos := Float.cos
  asin := Float.asin
  atan2 := Float.atan2
  pow := Float.pow
  fmod := Binary64.fmod

end Multirotor
