import Switchyard.Number.Binary
import Switchyard.Number.Decimal

/-!
Qualities, the weights between zero and one that a client gives to media ranges.

A quality is written as a decimal number and counts as the nearest number of 32 bits.  It is kept
as the place of that number among the magnitudes of its format, so that qualities are compared by
comparing natural numbers.
-/

set_option autoImplicit false

namespace Switchyard.Media

def oneRank : Nat := 0x3F800000

structure Quality where
  /-- The place of the weight among the magnitudes of 32 bits. -/
  rank : Nat
  /-- Whether the weight is a zero written with a minus sign. -/
  minusZero : Bool
  rank_le : rank ≤ oneRank := by decide
  rank_eq_zero : minusZero = true → rank = 0 := by decide
  deriving DecidableEq, Repr

namespace Quality

def one : Quality := { rank := oneRank, minusZero := false }

def bits (quality : Quality) : Nat :=
  quality.rank + if quality.minusZero then Nat.pow 2 31 else 0

def isPositive (quality : Quality) : Bool :=
  0 < quality.rank

/-- A decimal numeral: its sign, its digits as one number, and the power of ten of the last one. -/
structure Numeral where
  negative : Bool
  digits : Nat
  exponent : Int
  deriving DecidableEq, Repr

def signed : List Char → Bool × List Char
  | '-' :: rest => (true, rest)
  | '+' :: rest => (false, rest)
  | chars => (false, chars)

/-- The exponent that characters spell, an absent one being zero. -/
def exponent? (chars : List Char) : Option Int :=
  match chars with
  | [] => some 0
  | letter :: rest =>
      let (negative, digits) := signed rest
      if (letter == 'e' || letter == 'E') && !digits.isEmpty && digits.all Char.isDigit then
        let value : Int := Number.ofDigits digits
        some (if negative then -value else value)
      else
        none

/-- The numeral that characters spell: a sign, digits with a point among them or beside them, and
an exponent, of which only the digits have to be there. -/
def numeral? (chars : List Char) : Option Numeral :=
  let (negative, unsigned) := signed chars
  let whole := unsigned.takeWhile Char.isDigit
  let rest := unsigned.drop whole.length
  let (fraction, tail) :=
    match rest with
    | '.' :: after =>
        let fraction := after.takeWhile Char.isDigit
        (fraction, after.drop fraction.length)
    | _ => ([], rest)
  if whole.isEmpty && fraction.isEmpty then
    none
  else
    (exponent? tail).map fun exponent =>
      ⟨negative, Number.ofDigits (whole ++ fraction), exponent - fraction.length⟩

/-- The place of the number of 32 bits nearest to a numeral, sign aside, or nothing when it is
beyond one by far. -/
def Numeral.rank? (numeral : Numeral) : Option Nat :=
  let size : Int := (Nat.toDigits 10 numeral.digits).length
  if numeral.digits = 0 then some 0
  else if 2 < size + numeral.exponent then none
  else if size + numeral.exponent < -60 then some 0
  else
    (Number.Format.single.nearest? (numeral.digits * Nat.pow 10 numeral.exponent.toNat)
      (Nat.pow 10 (-numeral.exponent).toNat)).map Number.Format.single.rank

/-- The weight with a place and a sign, if it lies between zero and one. -/
def ofRank? (rank : Nat) (negative : Bool) : Option Quality :=
  if within : rank ≤ oneRank then
    if negative then
      if zero : rank = 0 then some ⟨rank, true, within, fun _ => zero⟩ else none
    else
      some ⟨rank, false, within, nofun⟩
  else
    none

def parse? (text : String) : Option Quality :=
  match numeral? text.toList with
  | none => none
  | some numeral =>
      match numeral.rank? with
      | none => none
      | some rank => ofRank? rank numeral.negative

end Quality

end Switchyard.Media
