import Switchyard.Json.Cursor
import Switchyard.Text.Ascii

/-!
The numbers of a JSON text.

A numeral without point and exponent that fits is an integer.  Any other is the product or quotient
of its significant digits and a power of ten, each rounded to 64 bits on its own.  Digits that no
longer fit into a word of 64 bits are dropped from the significand.
-/

set_option autoImplicit false

namespace Switchyard.Json

def wordLimit : Nat := UInt64.size - 1

/-- The largest exponent that is told from larger ones. -/
def exponentLimit : Nat := Nat.pow 2 31 - 1

def digitValue (octet : UInt8) : Nat :=
  octet.toNat - 48

/-- Appends digits to a number as long as it stays within `limit`; gives the number and how many
digits were taken. -/
def appendDigits (limit : Nat) (number taken : Nat) : Octets → Nat × Nat
  | [] => (number, taken)
  | octet :: rest =>
      let longer := number * 10 + digitValue octet
      if limit < longer then (number, taken)
      else appendDigits limit longer (taken + 1) rest

def powerOfTen? (exponent : Nat) : Option Number.Magnitude :=
  Number.Format.double.ofNat? (Nat.pow 10 exponent)

/-- The largest power of ten that is used in one step. -/
def largestPower : Nat := 308

def scaledOnce (magnitude : Number.Magnitude) (exponent : Int) : Option Number.Magnitude :=
  match powerOfTen? exponent.natAbs with
  | none => none
  | some power =>
      if 0 ≤ exponent then Number.Format.double.mul? magnitude power
      else Number.Format.double.div? magnitude power

/-- A magnitude scaled by a power of ten, or nothing when the result is too large.  Smaller powers
than the least one are divided out in steps, of which `fuel` are made. -/
def scaledIn : Nat → Number.Magnitude → Int → Option Number.Magnitude
  | 0, _, _ => some ⟨0, Number.Format.double.least⟩
  | fuel + 1, magnitude, exponent =>
      if exponent.natAbs ≤ largestPower then scaledOnce magnitude exponent
      else if magnitude.isZero then some magnitude
      else if 0 ≤ exponent then none
      else
        match scaledOnce magnitude (-(largestPower : Int)) with
        | none => none
        | some smaller => scaledIn fuel smaller (exponent + (largestPower : Int))

/-- A magnitude below `2 ^ 64` scaled by a power of ten; three steps down leave zero of it. -/
def scaled (magnitude : Number.Magnitude) (exponent : Int) : Option Number.Magnitude :=
  scaledIn 4 magnitude exponent

namespace Reader

def digits : Reader Octets := fun cursor =>
  let read := cursor.rest.takeWhile Text.isDigitOctet
  .ok (read, ⟨cursor.rest.drop read.length,
    ⟨cursor.place.line, cursor.place.column + read.length⟩⟩)

def realOf (negative : Bool) (significand : Nat) (exponent : Int) : Reader Num := do
  match (Number.Format.double.ofNat? significand).bind fun magnitude => scaled magnitude exponent with
  | none => stop .numberOutOfRange
  | some magnitude => return .real ⟨negative, magnitude⟩

/-- Reads the digits of an exponent after its first one.  An exponent beyond the limit stops the
reading if it makes a number too large, and gives zero otherwise. -/
def exponentDigits (negative : Bool) (significand : Nat) (shift : Int) (smaller : Bool) :
    Nat → Octets → Reader Num
  | exponent, [] =>
      realOf negative significand (if smaller then shift - exponent else shift + exponent)
  | exponent, octet :: rest => do
      let longer := exponent * 10 + digitValue octet
      skip
      if exponentLimit < longer then
        if significand ≠ 0 && !smaller then
          stop .numberOutOfRange
        else
          let _ ← digits
          return .real ⟨negative, ⟨0, Number.Format.double.least⟩⟩
      else
        exponentDigits negative significand shift smaller longer rest

def exponentPart (negative : Bool) (significand : Nat) (shift : Int) : Reader Num := do
  skip
  let sign ← peek
  if sign == some 43 || sign == some 45 then skip
  match ← next with
  | none => stop .endInValue
  | some octet =>
      if Text.isDigitOctet octet then
        let cursor ← get
        exponentDigits negative significand shift (sign == some 45) (digitValue octet)
          (cursor.rest.takeWhile Text.isDigitOctet)
      else
        stop .invalidNumber

def fractionPart (negative : Bool) (significand : Nat) (shift : Int) : Reader Num := do
  skip
  let read ← digits
  if read.isEmpty then
    match ← peek with
    | none => stopNext .endInValue
    | some _ => stopNext .invalidNumber
  else
    let (longer, taken) := appendDigits wordLimit significand 0 read
    let next ← peek
    if next == some 101 || next == some 69 then exponentPart negative longer (shift - taken)
    else realOf negative longer (shift - taken)

/-- The number of an integer numeral.  A negative zero and what does not fit are not integers. -/
def integerOf (negative : Bool) (significand : Nat) : Reader Num :=
  if !negative then return .int significand
  else if significand = 0 || Nat.pow 2 63 < significand then realOf true significand 0
  else return .int (-(significand : Int))

/-- Reads what follows the integral digits of a numeral, of which `dropped` did not fit. -/
def numeralTail (negative : Bool) (significand dropped : Nat) : Reader Num := do
  let next ← peek
  if next == some 46 then fractionPart negative significand dropped
  else if next == some 101 || next == some 69 then exponentPart negative significand dropped
  else if dropped = 0 then integerOf negative significand
  else realOf negative significand dropped

def numeral (negative : Bool) : Reader Num := do
  match ← next with
  | none => stop .endInValue
  | some first =>
      if first == 48 then
        match ← peek with
        | some octet =>
            if Text.isDigitOctet octet then stopNext .invalidNumber
            else numeralTail negative 0 0
        | none => numeralTail negative 0 0
      else if Text.isDigitOctet first then
        let read ← digits
        let (significand, taken) := appendDigits wordLimit (digitValue first) 0 read
        numeralTail negative significand (read.length - taken)
      else
        stop .invalidNumber

def signedNumeral : Reader Num := do
  if (← peek) == some 45 then
    skip
    numeral true
  else
    numeral false

def skipExponent : Reader Unit := do
  skip
  let sign ← peek
  if sign == some 43 || sign == some 45 then skip
  match ← next with
  | none => stop .invalidNumber
  | some octet =>
      if Text.isDigitOctet octet then
        let _ ← digits
      else
        stop .invalidNumber

def skipNumeral : Reader Unit := do
  match ← next with
  | none => stop .invalidNumber
  | some first =>
      if first == 48 then
        match ← peek with
        | some octet => if Text.isDigitOctet octet then stopNext .invalidNumber
        | none => pure ()
      else if Text.isDigitOctet first then
        let _ ← digits
      else
        stop .invalidNumber
      let following ← peek
      if following == some 46 then
        skip
        if (← digits).isEmpty then stopNext .invalidNumber
        let after ← peek
        if after == some 101 || after == some 69 then skipExponent
      else if following == some 101 || following == some 69 then
        skipExponent

end Reader

end Switchyard.Json
