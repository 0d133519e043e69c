import Switchyard.Number.Binary

/-!
The shortest decimal text of a binary number.

`shortest` finds the fewest decimal digits that lie between a magnitude and its neighbours, so that
they read back as the same number; of several such decimals it takes the nearest.  `text` lays the
digits out.
-/

set_option autoImplicit false

namespace Switchyard.Number

/-- A decimal number `digits · 10 ^ exponent`. -/
structure Decimal where
  digits : Nat
  exponent : Int
  deriving Repr, DecidableEq

namespace Decimal

def numerator (decimal : Decimal) : Nat :=
  decimal.digits * Nat.pow 10 decimal.exponent.toNat

def denominator (decimal : Decimal) : Nat :=
  Nat.pow 10 (-decimal.exponent).toNat

def trimmed : Nat → Decimal → Decimal
  | 0, decimal => decimal
  | fuel + 1, decimal =>
      if decimal.digits % 10 = 0 && decimal.digits ≠ 0 then
        trimmed fuel ⟨decimal.digits / 10, decimal.exponent + 1⟩
      else
        decimal

end Decimal

/-- The numbers that round to a magnitude: `low / unit` to `high / unit` around `middle / unit`,
with or without the two ends. -/
structure Interval where
  low : Nat
  middle : Nat
  high : Nat
  unit : Nat
  closed : Bool
  deriving Repr, DecidableEq

namespace Interval

/-- The interval around a magnitude.  The gap below a power of two is half the one above. -/
def around (format : Format) (magnitude : Magnitude) : Interval :=
  let narrow :=
    magnitude.significand = Nat.pow 2 (format.precision - 1) ∧ format.least < magnitude.exponent
  let scale := Nat.pow 2 magnitude.exponent.toNat
  { low := (4 * magnitude.significand - (if narrow then 1 else 2)) * scale
    middle := 4 * magnitude.significand * scale
    high := (4 * magnitude.significand + 2) * scale
    unit := 4 * magnitude.denominator
    closed := magnitude.significand % 2 = 0 }

def holds (interval : Interval) (decimal : Decimal) : Bool :=
  let value := decimal.numerator * interval.unit
  let low := interval.low * decimal.denominator
  let high := interval.high * decimal.denominator
  if interval.closed then low ≤ value && value ≤ high else low < value && value < high

def distance (interval : Interval) (decimal : Decimal) : Nat :=
  let value := decimal.numerator * interval.unit
  let middle := interval.middle * decimal.denominator
  (value - middle) + (middle - value)

/-- The decimal nearest to the middle among the two beside it with the exponent given, if it lies
in the interval. -/
def onGrid? (interval : Interval) (exponent : Int) : Option Decimal :=
  let below :=
    interval.middle * Nat.pow 10 (-exponent).toNat / (interval.unit * Nat.pow 10 exponent.toNat)
  let lower : Decimal := ⟨below, exponent⟩
  let upper : Decimal := ⟨below + 1, exponent⟩
  match interval.holds lower, interval.holds upper with
  | true, true =>
      let near := interval.distance lower
      let far := interval.distance upper
      if near < far then some lower
      else if far < near then some upper
      else if below % 2 = 0 then some lower else some upper
  | true, false => some lower
  | false, true => some upper
  | false, false => none

/-- The least `k` with `middle / unit < 10 ^ k`, found from an estimate that is not above it. -/
def decimalExponent (interval : Interval) : Nat → Int → Int
  | 0, estimate => estimate
  | fuel + 1, estimate =>
      if interval.middle * Nat.pow 10 (-estimate).toNat <
          interval.unit * Nat.pow 10 estimate.toNat then estimate
      else interval.decimalExponent fuel (estimate + 1)

/-- The coarsest decimal in the interval, trying grids from one digit on. -/
def coarsest (interval : Interval) (top : Int) : Nat → Nat → Decimal
  | 0, count => ((interval.onGrid? (top - count)).getD ⟨0, 0⟩)
  | fuel + 1, count =>
      match interval.onGrid? (top - count) with
      | some decimal => decimal
      | none => interval.coarsest top fuel (count + 1)

end Interval

def shortest (format : Format) (magnitude : Magnitude) : Decimal :=
  if magnitude.significand = 0 then
    ⟨0, 0⟩
  else
    let interval := Interval.around format magnitude
    let binary := Format.floorLog2 magnitude.numerator magnitude.denominator
    let top := interval.decimalExponent 4 (binary * 30103 / 100000 - 1)
    (interval.coarsest top 17 1).trimmed 20

/-- Decimal layout: positional while the leading digit stands at most five places after the point
and at most sixteen digits stand before it, and with an exponent otherwise. -/
def Decimal.text (decimal : Decimal) : String :=
  let digits := Nat.toDigits 10 decimal.digits
  let count : Int := digits.length
  let point := count + decimal.exponent
  if decimal.digits = 0 then
    "0.0"
  else if 0 ≤ decimal.exponent ∧ point ≤ 16 then
    String.ofList (digits ++ List.replicate decimal.exponent.toNat '0' ++ ['.', '0'])
  else if 0 < point ∧ point ≤ 16 then
    String.ofList (digits.take point.toNat ++ '.' :: digits.drop point.toNat)
  else if -5 < point ∧ point ≤ 0 then
    String.ofList ('0' :: '.' :: List.replicate (-point).toNat '0' ++ digits)
  else
    let fraction := if digits.length ≤ 1 then [] else '.' :: digits.drop 1
    let power := point - 1
    let sign := if power < 0 then '-' else '+'
    String.ofList
      (digits.take 1 ++ fraction ++ 'e' :: sign :: Nat.toDigits 10 power.natAbs)

def Real.text (number : Real) : String :=
  (if number.negative then "-" else "") ++ (shortest .double number.magnitude).text

end Switchyard.Number
