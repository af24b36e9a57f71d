/-!
# Scalars

Every formula of the library is written over a type `α` with `[Scalar α]`: the operations of
machine arithmetic, without laws.  The simulation runs at `Float`, whose instance is in
`Multirotor.Scalar.Binary64`; exact statements about the same formulas are made at other types.

A `Scalar` may hold values that are not numbers.  Such a value is the one that differs from itself
(`Scalar.isNaN`), and the helpers of this file say what each of them makes of it: `larger` and
`smaller` pass it over, `clamp` sends it to the middle of the range, `sqrtOrZero` to zero.
-/

namespace Multirotor

/-- The operations of a machine number type. -/
class Scalar (α : Type) extends Zero α, One α, NatCast α, Neg α, Add α, Sub α, Mul α, Div α,
    OfScientific α, LT α, LE α, BEq α where
  /-- Whether one value is below another. -/
  decLt : DecidableLT α
  /-- Whether one value is at most another. -/
  decLe : DecidableLE α
  /-- Half a turn in radians. -/
  pi : α
  abs : α → α
  /-- The unit of the same sign; both zeros have a sign. -/
  signum : α → α
  /-- The nearest whole number, a half going away from zero. -/
  round : α → α
  /-- The whole part, held within the range of the word; zero for a value that is not a number. -/
  toUInt64 : α → UInt64
  /-- Neither infinite nor NaN. -/
  isFinite : α → Bool
  sqrt : α → α
  log : α → α
  sin : α → α
  cos : α → α
  asin : α → α
  /-- The angle of the point with the given ordinate and abscissa. -/
  atan2 : α → α → α
  pow : α → α → α
  /-- The exact remainder of the division that rounds its quotient toward zero. -/
  fmod : α → α → α

namespace Scalar

variable {α : Type} [Scalar α]

instance (x y : α) : Decidable (x < y) := decLt x y

instance (x y : α) : Decidable (x ≤ y) := decLe x y

/-- A value that is not a number differs from itself. -/
def isNaN (x : α) : Bool := !(x == x)

/-- The larger value, or the one that is a number. -/
def larger (x y : α) : α := if y ≤ x then x else if isNaN y then x else y

/-- The smaller value, or the one that is a number. -/
def smaller (x y : α) : α := if x ≤ y then x else if isNaN y then x else y

/-- `x` held between `low` and `high`; NaN goes to the middle. -/
def clamp (x low high : α) : α :=
  if isNaN x then (low + high) / 2.0
  else if x < low then low
  else if high < x then high
  else x

/-- The square root, or zero where there is none. -/
def sqrtOrZero (x : α) : α :=
  let root := sqrt x
  if isNaN root then 0 else root

/-- The remainder that is never negative, `x - y * n` for a whole `n`. -/
def modulo (x y : α) : α :=
  let r := fmod x y
  if r < 0 then r + abs y else r

/-- The length of the hypotenuse.  The larger side is factored out, so that squaring neither
overflows nor loses a tiny side; an infinite side wins over NaN. -/
def hypot (x y : α) : α :=
  let a := abs x
  let b := abs y
  if !isFinite a && !isNaN a then a
  else if !isFinite b && !isNaN b then b
  else
    let scale := larger a b
    if scale == 0 then a + b
    else scale * sqrt ((a / scale) * (a / scale) + (b / scale) * (b / scale))

/-- Degrees to radians. -/
def radians (deg : α) : α := deg * (pi / 180.0)

/-- Radians to degrees. -/
def degrees (rad : α) : α := rad * (180.0 / pi)

/-- The spacing of the 53-bit numbers just above one, `2⁻⁵²`. -/
def epsilon : α := 1 / 4503599627370496.0

end Scalar

end Multirotor
