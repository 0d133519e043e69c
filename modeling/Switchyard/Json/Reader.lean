import Switchyard.Json.Numeral
import Switchyard.Json.Token

/-!
Reading JSON texts.

`value` reads any value, with at most 127 containers inside one another.  `skipValue` passes over a
value without keeping it.  `document` reads a whole text.
-/

set_option autoImplicit false

namespace Switchyard.Json

namespace Reader

/-- Whether another item of a list follows.  The closing bracket is not read. -/
def itemAhead (first : Bool) : Reader Bool := do
  match ← token with
  | none => stopNext .endInList
  | some octet =>
      if octet == 93 then return false
      else if first then return true
      else if octet == 44 then
        skip
        match ← token with
        | none => stopNext .endInValue
        | some next => if next == 93 then stopNext .trailingComma else return true
      else
        stopNext .listDelimiterExpected

/-- Whether another member of an object follows; if so, the opening quote of its name is read.
The closing brace is not read. -/
def memberAhead (first : Bool) : Reader Bool := do
  match ← token with
  | none => stopNext .endInObject
  | some octet =>
      if octet == 125 then return false
      else if first then
        if octet == 34 then
          skip
          return true
        else
          stopNext .nameExpected
      else if octet == 44 then
        skip
        match ← token with
        | none => stopNext .endInValue
        | some next =>
            if next == 34 then
              skip
              return true
            else if next == 125 then stopNext .trailingComma
            else stopNext .nameExpected
      else
        stopNext .objectDelimiterExpected

def colon : Reader Unit := do
  match ← token with
  | none => stopNext .endInObject
  | some octet => if octet == 58 then skip else stopNext .colonExpected

/-- Reads a scalar other than a number or string that begins with the letter given. -/
def named? (letter : UInt8) : Option (Reader Value) :=
  if letter == 110 then some (do skip; word ['u', 'l', 'l']; return .null)
  else if letter == 116 then some (do skip; word ['r', 'u', 'e']; return .bool true)
  else if letter == 102 then some (do skip; word ['a', 'l', 's', 'e']; return .bool false)
  else none

def beginsNumeral (octet : UInt8) : Bool :=
  octet == 45 || Text.isDigitOctet octet

mutual

/-- Reads a value with fewer than `depth` containers inside one another. -/
def valueWithin (depth : Nat) : Nat → Reader Value
  | 0 => stopNext .endInValue
  | fuel + 1 => do
      match ← token with
      | none => stopNext .endInValue
      | some octet =>
          match named? octet with
          | some scalar => scalar
          | none =>
              if beginsNumeral octet then return .num (← signedNumeral)
              else if octet == 34 then
                skip
                return .text (← string)
              else if octet == 91 then
                if depth ≤ 1 then stopNext .tooDeep
                skip
                let items ← itemsWithin (depth - 1) true [] fuel
                skip
                return .list items
              else if octet == 123 then
                if depth ≤ 1 then stopNext .tooDeep
                skip
                let members ← membersWithin (depth - 1) true [] fuel
                skip
                return .object members
              else
                stopNext .valueExpected

def itemsWithin (depth : Nat) (first : Bool) (reversed : List Value) :
    Nat → Reader (List Value)
  | 0 => stopNext .endInList
  | fuel + 1 => do
      if ← itemAhead first then
        let item ← valueWithin depth fuel
        itemsWithin depth false (item :: reversed) fuel
      else
        return reversed.reverse

def membersWithin (depth : Nat) (first : Bool) (members : List (String × Value)) :
    Nat → Reader (List (String × Value))
  | 0 => stopNext .endInObject
  | fuel + 1 => do
      if ← memberAhead first then
        let name ← string
        colon
        let value ← valueWithin depth fuel
        membersWithin depth false (insertMember name value members) fuel
      else
        return members

end

/-- More steps than a reading of the rest of a text takes. -/
def steps : Reader Nat := fun cursor =>
  .ok (2 * cursor.rest.length + 2, cursor)

def value : Reader Value := do
  valueWithin 128 (← steps)

mutual

/-- Passes over a value inside open containers, of which `true` stands for an object. -/
def skipInside (frames : List Bool) : Nat → Reader Unit
  | 0 => stopNext .endInValue
  | fuel + 1 => do
      match ← token with
      | none => stopNext .endInValue
      | some octet =>
          match named? octet with
          | some scalar =>
              let _ ← scalar
              skipRest frames true fuel
          | none =>
              if octet == 45 then
                skip
                skipNumeral
                skipRest frames true fuel
              else if Text.isDigitOctet octet then
                skipNumeral
                skipRest frames true fuel
              else if octet == 34 then
                skip
                skipString
                skipRest frames true fuel
              else if octet == 91 then
                skip
                skipRest (false :: frames) false fuel
              else if octet == 123 then
                skip
                skipRest (true :: frames) false fuel
              else
                stopNext .valueExpected

/-- Passes over what is left of the open containers, after a value or after an opening. -/
def skipRest (frames : List Bool) (afterValue : Bool) : Nat → Reader Unit
  | 0 => stopNext .endInValue
  | fuel + 1 => do
      match frames with
      | [] => return ()
      | isObject :: outer =>
          match ← token with
          | none => stopNext (if isObject then .endInObject else .endInList)
          | some octet =>
              if octet == (if isObject then 125 else 93) then
                skip
                skipRest outer true fuel
              else
                if afterValue then
                  if octet == 44 then skip
                  else stopNext (if isObject then .objectDelimiterExpected
                    else .listDelimiterExpected)
                if isObject then
                  match ← token with
                  | none => stopNext .endInObject
                  | some quote =>
                      if quote == 34 then skip else stopNext .nameExpected
                      skipString
                      colon
                skipInside frames fuel

end

def skipValue : Reader Unit := do
  skipInside [] (← steps)

def finish : Reader Unit := do
  match ← token with
  | none => return ()
  | some _ => stopNext .trailingCharacters

end Reader

def document {α : Type} (reader : Reader α) (octets : Octets) : Except Located α :=
  ((do let read ← reader; Reader.finish; return read) (Cursor.ofOctets octets)).map Prod.fst

def Value.read (octets : Octets) : Except Located Value :=
  document Reader.value octets

end Switchyard.Json
