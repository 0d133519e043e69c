import Switchyard.Text.Ascii

/-!
Media types such as `text/plain; charset=utf-8`.

`MediaType.parse?` reads the grammar and `MediaType.text` writes it.  Writing keeps the spelling that
was read but for the case of letters: types, subtypes, parameter names and charsets are kept in
lower case.
-/

set_option autoImplicit false

namespace Switchyard.Media

def isTokenChar (c : Char) : Bool :=
  c.isAlphanum || "!#$%&'*+-.^_`|~".toList.contains c

def isQuotedChar (c : Char) : Bool :=
  31 < c.toNat && c.toNat ≠ 127

/-- A parameter of a media type, with its spelling. -/
structure Param where
  gap : Nat
  name : String
  value : String
  inQuotes : Bool
  /-- The spaces after the closing quote. -/
  after : Nat
  deriving Repr, DecidableEq

structure MediaType where
  type : String
  subtype : String
  params : List Param
  /-- The spaces after a final semicolon, if there is one. -/
  tail : Option Nat
  deriving Repr, DecidableEq

def charsetName : String := "charset"

def spaces (count : Nat) : String :=
  String.ofList (List.replicate count ' ')

def Param.text (param : Param) : String :=
  ";" ++ spaces param.gap ++ param.name ++ "=" ++
    if param.inQuotes then "\"" ++ param.value ++ "\"" ++ spaces param.after else param.value

namespace MediaType

def bare (type subtype : String) : MediaType :=
  ⟨type, subtype, [], none⟩

def any : MediaType := bare "*" "*"

def octetStream : MediaType := bare "application" "octet-stream"

def essence (media : MediaType) : String :=
  media.type ++ "/" ++ media.subtype

def text (media : MediaType) : String :=
  media.essence ++ String.join (media.params.map Param.text) ++
    match media.tail with
    | some count => ";" ++ spaces count
    | none => ""

/-- Characters around their last plus sign, unless that is the first character. -/
def cutSuffix (subtype : List Char) : List Char × Option (List Char) :=
  let suffix := subtype.reverse.takeWhile fun c => c ≠ '+'
  match subtype.reverse.drop suffix.length with
  | _ :: c :: base => ((c :: base).reverse, some suffix.reverse)
  | _ => (subtype, none)

def base (media : MediaType) : String :=
  String.ofList (cutSuffix media.subtype.toList).1

def suffix? (media : MediaType) : Option String :=
  (cutSuffix media.subtype.toList).2.map String.ofList

def Param.pair (param : Param) : String × String :=
  (param.name, param.value)

/-- Names and values of the parameters.  A quoted `utf-8` charset that comes first after exactly one
space, and is not the only parameter, counts as the five characters after its equality sign, which
are the opening quote and all but the last character. -/
def parameters (media : MediaType) : List (String × String) :=
  match media.params with
  | first :: second :: rest =>
      let value :=
        if first.gap = 1 ∧ first.name = charsetName ∧ first.inQuotes ∧ first.value = "utf-8" then
          "\"utf-"
        else
          first.value
      (first.name, value) :: (second :: rest).map Param.pair
  | params => params.map Param.pair

def parameter? (media : MediaType) (name : String) : Option String :=
  media.parameters.lookup name

/-- The value of a parameter and what follows it: nothing, or the characters after a semicolon. -/
structure ValueRead where
  value : List Char
  inQuotes : Bool
  after : Nat
  rest : Option (List Char)
  deriving Repr, DecidableEq

def following? : List Char → Option (Option (List Char))
  | [] => some none
  | ';' :: rest => some (some rest)
  | _ => none

/-- Reads a value in double quotes whose opening quote has been read.  It has at least one
character, which may itself be a quote. -/
def quotedValue? : List Char → Option ValueRead
  | [] => none
  | first :: rest =>
      let inner := rest.takeWhile fun c => c ≠ '"'
      match rest.drop inner.length with
      | [] => none
      | _ :: behind =>
          let trailing := behind.takeWhile fun c => c = ' '
          if (first :: inner).all isQuotedChar then
            (following? (behind.drop trailing.length)).map fun following =>
              ⟨first :: inner, true, trailing.length, following⟩
          else
            none

def tokenValue? (chars : List Char) : Option ValueRead :=
  let value := chars.takeWhile isTokenChar
  match following? (chars.drop value.length) with
  | none => none
  | some none => some ⟨value, false, 0, none⟩
  | some (some rest) => if value.isEmpty then none else some ⟨value, false, 0, some rest⟩

def value? : List Char → Option ValueRead
  | '"' :: rest => quotedValue? rest
  | chars => tokenValue? chars

def param? (chars : List Char) : Option (Param × Option (List Char)) :=
  let gap := (chars.takeWhile fun c => c = ' ').length
  let named := chars.drop gap
  let name := named.takeWhile isTokenChar
  match named.drop name.length with
  | '=' :: written =>
      if name.isEmpty then
        none
      else
        (value? written).map fun read =>
          let lower := Text.lowercase (String.ofList name)
          let value := String.ofList read.value
          (⟨gap, lower, if lower = charsetName then Text.lowercase value else value,
            read.inQuotes, read.after⟩, read.rest)
  | _ => none

/-- Reads the parameters after a semicolon, at most `fuel` of them.  Spaces alone end the list. -/
def params? : Nat → List Char → Option (List Param × Option Nat)
  | 0, _ => none
  | fuel + 1, chars =>
      if chars.all fun c => c = ' ' then
        some ([], some chars.length)
      else
        match param? chars with
        | none => none
        | some (param, none) => some ([param], none)
        | some (param, some rest) =>
            (params? fuel rest).map fun read => (param :: read.1, read.2)

def parseChars? (chars : List Char) : Option MediaType :=
  let type := chars.takeWhile isTokenChar
  match chars.drop type.length with
  | '/' :: behind =>
      let subtype := behind.takeWhile isTokenChar
      let media (params : List Param) (tail : Option Nat) : MediaType :=
        ⟨Text.lowercase (String.ofList type), Text.lowercase (String.ofList subtype), params, tail⟩
      if type.isEmpty then
        none
      else
        match behind.drop subtype.length with
        | [] => some (media [] none)
        | ';' :: rest =>
            if subtype.isEmpty then
              none
            else
              (params? (rest.length + 1) rest).map fun read =>
                media read.1 (if read.1.isEmpty then none else read.2)
        | _ => none
  | _ => none

def parse? (text : String) : Option MediaType :=
  parseChars? text.toList

end MediaType

end Switchyard.Media
