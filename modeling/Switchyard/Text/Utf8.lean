import Switchyard.Text.Octets

/-!
UTF-8 read octet by octet.

A `Decoder` keeps the characters read so far, the character that is still incomplete, and the
first flaw it met.  It goes on after a flaw by putting the replacement character for the longest
run of octets that could begin a character.  So one pass serves both readings: `decode` refuses
text with a flaw and says where it is, `decodeLossy` keeps the replacements.
-/

set_option autoImplicit false

namespace Switchyard.Text.Utf8

/-- A run of octets that is not UTF-8: where it begins, and how many octets it has, or `none` when
the input ends inside a character. -/
structure Flaw where
  offset : Nat
  width : Option Nat
  deriving Repr, DecidableEq

def Flaw.message (flaw : Flaw) : String :=
  match flaw.width with
  | some width => s!"invalid utf-8 sequence of {width} bytes from index {flaw.offset}"
  | none => s!"incomplete utf-8 byte sequence from index {flaw.offset}"

/-- A character of which some octets have been read and `owed` are still to come. -/
structure Pending where
  code : Nat
  seen : Nat
  /-- The octets still to come, at least one. -/
  owed : Nat
  /-- The least next octet. -/
  low : UInt8
  high : UInt8
  deriving Repr, DecidableEq

inductive Progress where
  | complete (c : Char)
  | more (pending : Pending)
  | refused
  deriving Repr, DecidableEq

/-- The first octet of a character.  The second octet is restricted after `E0`, `ED`, `F0` and
`F4`, which keeps out overlong forms, surrogates and code points beyond the last one. -/
def opening (octet : UInt8) : Progress :=
  let code := octet.toNat
  if octet ≤ 0x7F then .complete (Char.ofNat code)
  else if 0xC2 ≤ octet && octet ≤ 0xDF then .more ⟨code - 0xC0, 1, 1, 0x80, 0xBF⟩
  else if octet == 0xE0 then .more ⟨0, 1, 2, 0xA0, 0xBF⟩
  else if octet == 0xED then .more ⟨13, 1, 2, 0x80, 0x9F⟩
  else if 0xE1 ≤ octet && octet ≤ 0xEF then .more ⟨code - 0xE0, 1, 2, 0x80, 0xBF⟩
  else if octet == 0xF0 then .more ⟨0, 1, 3, 0x90, 0xBF⟩
  else if 0xF1 ≤ octet && octet ≤ 0xF3 then .more ⟨code - 0xF0, 1, 3, 0x80, 0xBF⟩
  else if octet == 0xF4 then .more ⟨4, 1, 3, 0x80, 0x8F⟩
  else .refused

def Pending.take (pending : Pending) (octet : UInt8) : Progress :=
  if pending.low ≤ octet && octet ≤ pending.high then
    let code := pending.code * 64 + (octet.toNat - 0x80)
    if pending.owed ≤ 1 then .complete (Char.ofNat code)
    else .more ⟨code, pending.seen + 1, pending.owed - 1, 0x80, 0xBF⟩
  else
    .refused

structure Decoder where
  /-- The characters read so far, the last one first. -/
  reversed : List Char := []
  pending : Option Pending := none
  flaw : Option Flaw := none
  deriving Repr, DecidableEq

namespace Decoder

def replacement : Char := Char.ofNat 0xFFFD

def spoil (decoder : Decoder) (offset : Nat) (width : Option Nat) : Decoder :=
  { reversed := replacement :: decoder.reversed
    pending := none
    flaw := decoder.flaw.or (some ⟨offset, width⟩) }

def push (decoder : Decoder) (c : Char) : Decoder :=
  { decoder with reversed := c :: decoder.reversed, pending := none }

/-- Reads an octet at `offset` as the first one of a character. -/
def start (decoder : Decoder) (offset : Nat) (octet : UInt8) : Decoder :=
  match opening octet with
  | .complete c => decoder.push c
  | .more pending => { decoder with pending := some pending }
  | .refused => decoder.spoil offset (some 1)

def feed (decoder : Decoder) (offset : Nat) (octet : UInt8) : Decoder :=
  match decoder.pending with
  | none => decoder.start offset octet
  | some pending =>
      match pending.take octet with
      | .complete c => decoder.push c
      | .more next => { decoder with pending := some next }
      | .refused =>
          (decoder.spoil (offset - pending.seen) (some pending.seen)).start offset octet

def close (decoder : Decoder) (offset : Nat) : Decoder :=
  match decoder.pending with
  | none => decoder
  | some pending => decoder.spoil (offset - pending.seen) none

def run (decoder : Decoder) (offset : Nat) : Octets → Decoder
  | [] => decoder.close offset
  | octet :: rest => (decoder.feed offset octet).run (offset + 1) rest

end Decoder

def decode (octets : Octets) : Except Flaw (List Char) :=
  let decoder := ({} : Decoder).run 0 octets
  match decoder.flaw with
  | some flaw => .error flaw
  | none => .ok decoder.reversed.reverse

def decodeText (octets : Octets) : Except Flaw String :=
  (decode octets).map String.ofList

/-- The text that octets spell, with the replacement character for every run that is not UTF-8. -/
def decodeLossy (octets : Octets) : String :=
  String.ofList (({} : Decoder).run 0 octets).reversed.reverse

def encode (text : String) : Octets :=
  text.toList.flatMap String.utf8EncodeChar

end Switchyard.Text.Utf8
