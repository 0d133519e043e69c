/-!
Binary floating-point numbers in exact arithmetic.

A `Format` says how many bits a significand has and which exponents there are; a `Magnitude` is a
number `significand · 2 ^ exponent` in such a format.  `Format.nearest?` rounds a quotient of
natural numbers to the nearest magnitude, a tie to the even significand, and gives nothing when
the quotient is too large.  Products and quotients of magnitudes are rounded the same way.
-/

set_option autoImplicit false

namespace Switchyard.Number

/-- The quotient of two numbers rounded to the nearest integer, a tie to the even one. -/
def roundedQuotient (numerator denominator : Nat) : Nat :=
  let quotient := numerator / denominator
  let twice := 2 * (numerator % denominator)
  if twice < denominator then quotient
  else if denominator < twice then quotient + 1
  else quotient + quotient % 2

/-- A number `significand · 2 ^ exponent`. -/
structure Magnitude where
  significand : Nat
  exponent : Int
  deriving Repr, DecidableEq

namespace Magnitude

def numerator (magnitude : Magnitude) : Nat :=
  magnitude.significand * Nat.pow 2 magnitude.exponent.toNat

def denominator (magnitude : Magnitude) : Nat :=
  Nat.pow 2 (-magnitude.exponent).toNat

def isZero (magnitude : Magnitude) : Bool :=
  magnitude.significand == 0

end Magnitude

structure Format where
  precision : Nat
  /-- The exponent of the smallest magnitudes. -/
  least : Int
  /-- The exponent of the largest magnitudes. -/
  greatest : Int
  deriving Repr, DecidableEq

namespace Format

def single : Format := ⟨24, -149, 104⟩

def double : Format := ⟨53, -1074, 971⟩

/-- The largest `k` with `2 ^ k ≤ numerator / denominator`, for numbers that are not zero. -/
def floorLog2 (numerator denominator : Nat) : Int :=
  let estimate := (numerator.log2 : Int) - (denominator.log2 : Int)
  if denominator * Nat.pow 2 estimate.toNat ≤ numerator * Nat.pow 2 (-estimate).toNat then estimate
  else estimate - 1

/-- The magnitude nearest to a quotient, or nothing when it is beyond the largest one. -/
def nearest? (format : Format) (numerator denominator : Nat) : Option Magnitude :=
  if numerator = 0 then
    some ⟨0, format.least⟩
  else
    let exponent :=
      max format.least (floorLog2 numerator denominator - (format.precision : Int) + 1)
    let significand :=
      roundedQuotient (numerator * Nat.pow 2 (-exponent).toNat)
        (denominator * Nat.pow 2 exponent.toNat)
    let rounded : Magnitude :=
      if significand = Nat.pow 2 format.precision then
        ⟨Nat.pow 2 (format.precision - 1), exponent + 1⟩
      else ⟨significand, exponent⟩
    if format.greatest < rounded.exponent then none else some rounded

def ofNat? (format : Format) (number : Nat) : Option Magnitude :=
  format.nearest? number 1

def mul? (format : Format) (left right : Magnitude) : Option Magnitude :=
  format.nearest? (left.numerator * right.numerator) (left.denominator * right.denominator)

def div? (format : Format) (left right : Magnitude) : Option Magnitude :=
  format.nearest? (left.numerator * right.denominator) (left.denominator * right.numerator)

/-- The place of a magnitude among those of its format, in increasing order from zero.  This is
the bit pattern of the number without its sign. -/
def rank (format : Format) (magnitude : Magnitude) : Nat :=
  (magnitude.exponent - format.least).toNat * Nat.pow 2 (format.precision - 1) +
    magnitude.significand

end Format

structure Real where
  negative : Bool
  magnitude : Magnitude
  deriving Repr, DecidableEq

end Switchyard.Number
