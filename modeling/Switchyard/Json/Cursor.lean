import Switchyard.Json.Fault

/-!
Reading from a JSON text.

A `Cursor` holds the octets that are left and the place it has come to.  A `Reader` either yields a
value and the cursor after it, or stops at a located fault.
-/

set_option autoImplicit false

namespace Switchyard.Json

/-- The rest of a text and the place where it begins. -/
structure Cursor where
  rest : Octets
  place : Place
  deriving Repr, DecidableEq

namespace Cursor

def ofOctets (octets : Octets) : Cursor :=
  ⟨octets, .first⟩

def advanced (cursor : Cursor) : Cursor :=
  match cursor.rest with
  | [] => cursor
  | octet :: rest => ⟨rest, cursor.place.after octet⟩

def fault (cursor : Cursor) (fault : Fault) : Located :=
  ⟨fault, cursor.place⟩

def isBlank (octet : UInt8) : Bool :=
  octet == 32 || octet == 10 || octet == 9 || octet == 13

def pastBlanks (place : Place) : Octets → Cursor
  | [] => ⟨[], place⟩
  | octet :: rest =>
      if isBlank octet then pastBlanks (place.after octet) rest else ⟨octet :: rest, place⟩

def skipBlanks (cursor : Cursor) : Cursor :=
  pastBlanks cursor.place cursor.rest

end Cursor

abbrev Reader (α : Type) := StateT Cursor (Except Located) α

namespace Reader

variable {α : Type}

def stop (fault : Fault) : Reader α := fun cursor =>
  .error (cursor.fault fault)

/-- Stops with a fault at the next octet, which has not been read. -/
def stopNext (fault : Fault) : Reader α := fun cursor =>
  .error (cursor.advanced.fault fault)

def peek : Reader (Option UInt8) := fun cursor =>
  .ok (cursor.rest.head?, cursor)

def skip : Reader Unit := fun cursor =>
  .ok ((), cursor.advanced)

def next : Reader (Option UInt8) := fun cursor =>
  .ok (cursor.rest.head?, cursor.advanced)

/-- Reads blanks and gives the octet after them, which is not read. -/
def token : Reader (Option UInt8) := fun cursor =>
  let start := cursor.skipBlanks
  .ok (start.rest.head?, start)

def word : List Char → Reader Unit
  | [] => pure ()
  | letter :: letters => do
      match ← next with
      | none => stop .endInValue
      | some octet =>
          if octet.toNat = letter.toNat then word letters else stop .wordExpected

end Reader

end Switchyard.Json
