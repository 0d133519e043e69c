import Switchyard.Json.Reader

/-!
Reading JSON of a known shape: integers within bounds, texts, flags, choices among names, and
records.

A record is written as an object, whose unknown members are passed over, or as the list of its
first fields in their order.  Fields that are absent keep the value they have at the start.
`Value.record` and its companions take the same shapes out of a value that has been read already.
-/

set_option autoImplicit false

namespace Switchyard.Json

namespace Reader

variable {α : Type}

def misplaced (expected : String) : Reader α := do
  match ← peek with
  | none => stopNext .valueExpected
  | some octet =>
      match named? octet with
      | some scalar => stop (.wrongType (← scalar).found expected)
      | none =>
          if beginsNumeral octet then stop (.wrongType (.number (← signedNumeral)) expected)
          else if octet == 34 then
            skip
            stop (.wrongType (.text (← string)) expected)
          else if octet == 91 then stop (.wrongType .list expected)
          else if octet == 123 then stop (.wrongType .object expected)
          else stopNext .valueExpected

def valueAhead : Reader UInt8 := do
  match ← token with
  | none => stopNext .endInValue
  | some octet => return octet

def integer (expected : String) (low high : Int) : Reader Int := do
  if beginsNumeral (← valueAhead) then
    match ← signedNumeral with
    | .int value =>
        if low ≤ value ∧ value ≤ high then return value
        else stop (.wrongValue (.number (.int value)) expected)
    | .real value => stop (.wrongType (.number (.real value)) expected)
  else
    misplaced expected

def textValue : Reader String := do
  if (← valueAhead) == 34 then
    skip
    string
  else
    misplaced "a string"

def flag : Reader Bool := do
  let octet ← valueAhead
  if octet == 116 || octet == 102 then
    skip
    word (if octet == 116 then ['r', 'u', 'e'] else ['a', 'l', 's', 'e'])
    return octet == 116
  else
    misplaced "a boolean"

def choiceName (choices : List (String × α)) : Reader α := do
  let name ← string
  match choices.lookup name with
  | some chosen => return chosen
  | none => stop (.unknownVariant name (choices.map Prod.fst))

def choiceMember (choices : List (String × α)) : Reader α := do
  match ← token with
  | none => stopNext .endInObject
  | some 34 =>
      skip
      let chosen ← choiceName choices
      colon
      if (← valueAhead) == 110 then
        skip
        word ['u', 'l', 'l']
      else
        misplaced "unit"
      return chosen
  | some 125 => stopNext .valueExpected
  | some _ => stopNext .nameExpected

def choice (choices : List (String × α)) : Reader α := do
  match ← valueAhead with
  | 34 =>
      skip
      choiceName choices
  | 123 =>
      skip
      let chosen ← choiceMember choices
      match ← token with
      | none => stop .endInObject
      | some octet =>
          if octet == 125 then
            skip
            return chosen
          else
            stop .valueExpected
  | _ => stopNext .valueExpected

def closeList : Reader Unit := do
  match ← token with
  | none => stopNext .endInList
  | some octet =>
      if octet == 93 then skip
      else if octet == 44 then
        skip
        if (← token) == some 93 then stopNext .trailingComma else stopNext .trailingCharacters
      else
        stopNext .trailingCharacters

/-- A field of a record: its name and how its value is read into the record. -/
structure Field (α : Type) where
  name : String
  read : α → Reader α

def fieldItems (first : Bool) (record : α) : List (Field α) → Reader α
  | [] => return record
  | field :: fields => do
      if ← itemAhead first then
        fieldItems false (← field.read record) fields
      else
        return record

/-- Stops at a field that stands in a record for the second time; the closing brace is read if it
follows. -/
def duplicate (name : String) : Reader α := do
  if (← token) == some 125 then skip
  stop (.duplicateField name)

/-- Reads the fields of a record written as an object, of which `seen` have been read. -/
def fieldMembers (fields : List (Field α)) (first : Bool) (seen : List String) (record : α) :
    Nat → Reader α
  | 0 => stopNext .endInObject
  | fuel + 1 => do
      if ← memberAhead first then
        let name ← string
        match fields.find? fun field => field.name = name with
        | some field =>
            if seen.contains name then
              duplicate name
            else
              colon
              fieldMembers fields false (name :: seen) (← field.read record) fuel
        | none =>
            colon
            skipValue
            fieldMembers fields false seen record fuel
      else
        return record

def record (expected : String) (fields : List (Field α)) (start : α) : Reader α := do
  match ← valueAhead with
  | 91 =>
      skip
      let read ← fieldItems true start fields
      closeList
      return read
  | 123 =>
      skip
      let read ← fieldMembers fields true [] start (← steps)
      skip
      return read
  | _ => misplaced expected

end Reader

namespace Value

def integer (expected : String) (low high : Int) : Value → Except Fault Int
  | .num (.int value) =>
      if low ≤ value ∧ value ≤ high then .ok value
      else .error (.wrongValue (.number (.int value)) expected)
  | value => .error (.wrongType value.found expected)

def textValue : Value → Except Fault String
  | .text content => .ok content
  | value => .error (.wrongType value.found "a string")

/-- A field of a record: its name and how its value is taken into the record. -/
structure Field (α : Type) where
  name : String
  take : α → Value → Except Fault α

def fieldItems {α : Type} (expected : String) (count : Nat) (record : α) :
    List (Field α) → List Value → Except Fault α
  | [], [] => .ok record
  | [], items => .error (.wrongLength (count + items.length) "fewer elements in array")
  | _ :: _, [] => .error (.wrongLength count expected)
  | field :: fields, item :: items =>
      match field.take record item with
      | .error fault => .error fault
      | .ok taken => fieldItems expected (count + 1) taken fields items

/-- Takes the fields of a record from the members of an object, in the order of the members. -/
def fieldMembers {α : Type} (fields : List (Field α)) (record : α) :
    List (String × Value) → Except Fault α
  | [] => .ok record
  | (name, value) :: members =>
      match fields.find? fun field => field.name = name with
      | none => fieldMembers fields record members
      | some field =>
          match field.take record value with
          | .error fault => .error fault
          | .ok taken => fieldMembers fields taken members

/-- The record that a value is: an object with all the fields, or the list of their values. -/
def record {α : Type} (expected : String) (fields : List (Field α)) (start : α) :
    Value → Except Fault α
  | .list items =>
      fieldItems s!"{expected} with {fields.length} elements" 0 start fields items
  | .object members => do
      let taken ← fieldMembers fields start members
      match fields.find? fun field => (members.lookup field.name).isNone with
      | some field => .error (.missingField field.name)
      | none => .ok taken
  | value => .error (.wrongType value.found expected)

end Value

end Switchyard.Json
