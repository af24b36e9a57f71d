import Multirotor.Scalar.Binary64

/-!
# Decimals

Texts of doubles, rounded from the exact value.  Exact steps lead from a positive quotient `num / den`
to whole numbers of a decimal unit: `roundQuotient` sends a half to the even neighbour,
`leadingExponent` finds the power of ten of the first digit.  On them stand `Decimal.fixed` for a
number of places, `Decimal.scientific` for a number of significant digits, and `Decimal.shortest` for
the fewest digits that read back.
-/

namespace Multirotor.Decimal

/-- The whole number nearest to `num / den`, a half going to the even neighbour. -/
def roundQuotient (num den : Nat) : Nat :=
  let whole := num / den
  let twice := 2 * (num % den)
  if twice < den then whole
  else if den < twice then whole + 1
  else if whole % 2 = 0 then whole else whole + 1

/-- The number of decimal digits of `n`; zero has one. -/
def digitCount (n : Nat) : Nat := (Nat.toDigits 10 n).length

/-- The `e` with `10 ^ e ≤ num / den < 10 ^ (e + 1)`, for a positive quotient. -/
def leadingExponent (num den : Nat) : Int :=
  if den ≤ num then Int.ofNat (digitCount (num / den)) - 1
  else -Int.ofNat (digitCount ((den + num - 1) / num - 1))

/-- `num / den` in units of `10 ^ unit`. -/
def inUnits (num den : Nat) (unit : Int) : Nat × Nat :=
  if 0 ≤ unit then (num, den * Nat.pow 10 unit.toNat)
  else (num * Nat.pow 10 (-unit).toNat, den)

/-- The decimal digits of `n`. -/
def digits (n : Nat) : String := String.ofList (Nat.toDigits 10 n)

/-- The decimal digits of `n`, filled up with zeros on the left. -/
def digitsPadded (width n : Nat) : String :=
  let ds := Nat.toDigits 10 n
  String.ofList (List.replicate (width - ds.length) '0' ++ ds)

/-- `n / 10 ^ places` in positional notation. -/
def positional (n places : Nat) : String :=
  let scale := Nat.pow 10 places
  if places = 0 then digits n
  else digits (n / scale) ++ "." ++ digitsPadded places (n % scale)

/-- A minus sign where `negative`. -/
def signed (negative : Bool) (text : String) : String := if negative then "-" ++ text else text

/-! ## Fixed places

The sign is kept when all digits are zero. -/

/-- `x` with the given number of places. -/
def fixed (places : Nat) (x : Float) : String :=
  if x.isNaN then "NaN"
  else if x.isInf then signed (x < 0.0) "inf"
  else
    let exact := Dyadic.ofFloat x
    let (num, den) := exact.quotient
    let (num, den) := inUnits num den (-Int.ofNat places)
    signed exact.negative (positional (roundQuotient num den) places)

/-! ## Significant digits

Scientific notation, for the numbers of a document that is shown: one digit, a point, the other
digits, and the exponent after `e`. -/

/-- The digits of `num / den` as a whole number of the given count of digits, and the exponent of
the first; rounding up to the next power of ten moves the exponent. -/
def significand (count num den : Nat) : Nat × Int :=
  let e := leadingExponent num den
  let (num, den) := inUnits num den (e - (Int.ofNat count - 1))
  let n := roundQuotient num den
  if n = Nat.pow 10 count then (Nat.pow 10 (count - 1), e + 1) else (n, e)

/-- A finite `x` with the given number of significant digits. -/
def scientific (count : Nat) (x : Float) : String :=
  let exact := Dyadic.ofFloat x
  let (n, e) :=
    if exact.mantissa = 0 then (0, 0)
    else significand count exact.quotient.1 exact.quotient.2
  signed exact.negative (positional n (count - 1) ++ "e" ++ signed (e < 0) (digits e.natAbs))

/-! ## Shortest decimals

The decimal with the fewest digits that reads back as a given double, of those the nearest to it, and
of two equally near ones the larger; written positionally, without an exponent and without a point
when the value is whole.

A double stands for every real number that rounds to it.  `readsBack` decides whether a decimal is
one of them: at least half the gap to the neighbour below and at most half the gap above, the two
ends counting exactly when the significand is even. -/

/-- Whether `n · 10 ^ unit` rounds to the double with the exact value `d`. -/
def readsBack (d : Dyadic) (n : Nat) (unit : Int) : Bool :=
  -- the gap below a power of two is half as wide, so everything is counted in quarters of a gap
  let lower := 4 * d.mantissa -
    (if d.mantissa = 0x10000000000000 ∧ -1074 < d.exponent then 1 else 2)
  let upper := 4 * d.mantissa + 2
  let quarter : Dyadic := { negative := false, mantissa := 1, exponent := d.exponent - 2 }
  let (gapNum, gapDen) := quarter.quotient
  let (num, den) := inUnits n 1 (-unit)
  let value := num * gapDen
  let gap := den * gapNum
  if d.mantissa % 2 = 0 then lower * gap ≤ value ∧ value ≤ upper * gap
  else lower * gap < value ∧ value < upper * gap

/-- The nearest decimal in units of `10 ^ unit` that reads back as `d`, if there is one: one of the
two neighbours of the value on that grid, the upper one from half way on. -/
def onGrid (d : Dyadic) (unit : Int) : Option Nat :=
  let (num, den) := inUnits d.quotient.1 d.quotient.2 unit
  let below := num / den
  let nearest := if den ≤ 2 * (num % den) then below + 1 else below
  let other := if nearest = below then below + 1 else below
  if readsBack d nearest unit then some nearest
  else if readsBack d other unit then some other
  else none

/-- The first decimal that reads back, from `unit` down to ever finer grids; `fuel` grids are tried
before the value is rounded to the last of them. -/
def coarsest (d : Dyadic) : (fuel : Nat) → (unit : Int) → Nat × Int
  | 0, unit =>
    let (num, den) := inUnits d.quotient.1 d.quotient.2 unit
    (roundQuotient num den, unit)
  | fuel + 1, unit =>
    match onGrid d unit with
    | some n => (n, unit)
    | none => coarsest d fuel (unit - 1)

/-- The shortest decimal of a finite positive value, as a whole number of a power of ten.  The search
starts one place above the first digit, where a value just under a power of ten finds that power;
seventeen digits always read back. -/
def shortestDecimal (d : Dyadic) : Nat × Int :=
  coarsest d 18 (leadingExponent d.quotient.1 d.quotient.2 + 1)

/-- The shortest text of `x` that reads back as `x`. -/
def shortest (x : Float) : String :=
  if x.isNaN then "NaN"
  else if x.isInf then signed (x < 0.0) "inf"
  else
    let exact := Dyadic.ofFloat x
    let (n, unit) := if exact.mantissa = 0 then (0, 0) else shortestDecimal exact
    signed exact.negative
      (if 0 ≤ unit then digits (n * Nat.pow 10 unit.toNat) else positional n (-unit).toNat)

end Multirotor.Decimal
