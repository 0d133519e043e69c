import Switchyard.Text.Split

/-!
Path patterns.

A pattern is cut at its slashes.  A segment `**` stands for any number of whole segments; any other
segment is made of pieces: literal text, `?` for one character, and `*` or `{name}` for any number of
characters.  `Pattern.match?` finds the first decomposition of a path, every wildcard being as short
as possible from left to right, and gives what the variables stand for.
-/

set_option autoImplicit false

namespace Switchyard.Route

inductive Piece where
  | literal (text : List Char)
  | anyChars
  | anyChar
  | variable (name : List Char)
  deriving Repr, DecidableEq

inductive Segment where
  | anySegments
  | pieces (pieces : List Piece)
  deriving Repr, DecidableEq

inductive PatternFault where
  | noLeadingSlash
  | doubleStarInside
  | malformedVariable
  | unclosedVariable
  | unopenedVariable
  deriving Repr, DecidableEq

def PatternFault.message : PatternFault → String
  | .noLeadingSlash => "pattern must start with '/'"
  | .doubleStarInside => "'**' must be a whole segment"
  | .malformedVariable => "malformed path variable"
  | .unclosedVariable => "unclosed path variable"
  | .unopenedVariable => "unopened path variable"

/-- Values of path variables, in the order of the pattern. -/
abbrev Captures := List (String × String)

namespace Piece

/-- What a segment reader is in the middle of; the characters read are reversed. -/
inductive Reading where
  | text (reversed : List Char)
  | name (reversed : List Char)
  deriving Repr, DecidableEq

def ofText (reversed : List Char) : List Piece :=
  if reversed.isEmpty then [] else [.literal reversed.reverse]

/-- The variable of a name.  Its closing brace may be missing at the end of a segment, as long as the
segment has one. -/
def ofName (closes : Bool) (reversed : List Char) : Except PatternFault Piece :=
  if reversed.isEmpty || reversed.contains '{' then .error .malformedVariable
  else if !closes then .error .unclosedVariable
  else .ok (.variable reversed.reverse)

def parseFrom (closes : Bool) : Reading → List Char → Except PatternFault (List Piece)
  | .text reversed, [] => .ok (ofText reversed)
  | .name reversed, [] => (ofName closes reversed).map fun piece => [piece]
  | .name reversed, c :: rest =>
      if c = '}' then do
        let piece ← ofName closes reversed
        let pieces ← parseFrom closes (.text []) rest
        return piece :: pieces
      else
        parseFrom closes (.name (c :: reversed)) rest
  | .text reversed, c :: rest =>
      if c = '*' then
        if rest.head? = some '*' then .error .doubleStarInside
        else (parseFrom closes (.text []) rest).map fun pieces =>
          ofText reversed ++ .anyChars :: pieces
      else if c = '?' then
        (parseFrom closes (.text []) rest).map fun pieces => ofText reversed ++ .anyChar :: pieces
      else if c = '{' then
        (parseFrom closes (.name []) rest).map fun pieces => ofText reversed ++ pieces
      else if c = '}' then
        .error .unopenedVariable
      else
        parseFrom closes (.text (c :: reversed)) rest

def parse (segment : List Char) : Except PatternFault (List Piece) :=
  parseFrom (segment.contains '}') (.text []) segment

/-- The first way to cut a text in two whose second part is accepted, the shortest first part being
tried first: the first part, which follows the characters given in reverse, and what was made of
the second part. -/
def firstCut? {β : Type} (accept : List Char → Option β) (reversed : List Char) :
    List Char → Option (List Char × β)
  | [] => (accept []).map fun made => (reversed.reverse, made)
  | c :: rest =>
      match accept (c :: rest) with
      | some made => some (reversed.reverse, made)
      | none => firstCut? accept (c :: reversed) rest

/-- The values of the variables in the first match of pieces with a whole text. -/
def captures? : List Piece → List Char → Option Captures
  | [], text => if text.isEmpty then some [] else none
  | .literal chars :: pieces, text =>
      if chars.isPrefixOf text then captures? pieces (text.drop chars.length) else none
  | .anyChar :: pieces, text =>
      match text with
      | [] => none
      | _ :: rest => captures? pieces rest
  | .anyChars :: pieces, text => (firstCut? (captures? pieces) [] text).map Prod.snd
  | .variable name :: pieces, text =>
      (firstCut? (captures? pieces) [] text).map fun cut =>
        (String.ofList name, String.ofList cut.1) :: cut.2

def isLiteral : Piece → Bool
  | .literal _ => true
  | _ => false

end Piece

namespace Segment

def parse (chars : List Char) : Except PatternFault Segment :=
  if chars = ['*', '*'] then .ok .anySegments
  else (Piece.parse chars).map .pieces

def suffixes {α : Type} : List α → List (List α)
  | [] => [[]]
  | head :: rest => (head :: rest) :: suffixes rest

def captures? : List Segment → List (List Char) → Option Captures
  | [], path => if path.isEmpty then some [] else none
  | .anySegments :: segments, path => (suffixes path).findSome? (captures? segments)
  | .pieces parts :: segments, path =>
      match path with
      | [] => none
      | first :: rest =>
          match Piece.captures? parts first with
          | none => none
          | some captures => (captures? segments rest).map fun more => captures ++ more

def isLiteral : Segment → Bool
  | .anySegments => false
  | .pieces parts => parts.all Piece.isLiteral

def variableNames : Segment → List (List Char)
  | .anySegments => []
  | .pieces parts =>
      parts.filterMap fun piece =>
        match piece with
        | .variable name => some name
        | _ => none

def singleStars : Segment → Nat
  | .anySegments => 0
  | .pieces parts => parts.count .anyChars

end Segment

def pathSegments (chars : List Char) : List (List Char) :=
  (Text.splitOn '/' chars).filter fun segment => !segment.isEmpty

def hasTrailingSlash (chars : List Char) : Bool :=
  1 < chars.length && chars.getLast? = some '/'

structure Pattern where
  text : String
  segments : List Segment
  deriving Repr, DecidableEq

namespace Pattern

def parse (text : String) : Except PatternFault Pattern :=
  if text.toList.head? = some '/' then
    ((pathSegments text.toList).mapM Segment.parse).map fun segments => ⟨text, segments⟩
  else
    .error .noLeadingSlash

def isLiteral (pattern : Pattern) : Bool :=
  pattern.segments.all Segment.isLiteral

def endsWithAnySegments (pattern : Pattern) : Bool :=
  pattern.segments.getLast? = some .anySegments

/-- Whether the pattern and a path agree on a trailing slash.  A pattern that ends with `**` takes
both; where slashes are tolerated, a path may have one that the pattern has not. -/
def agreesOnSlash (pattern : Pattern) (tolerant : Bool) (path : List Char) : Bool :=
  let expected := hasTrailingSlash pattern.text.toList
  let found := hasTrailingSlash path
  pattern.endsWithAnySegments || found == expected || (tolerant && found && !expected)

def match? (pattern : Pattern) (path : String) (tolerant : Bool) : Option Captures :=
  let chars := path.toList
  if chars.head? = some '/' && pattern.agreesOnSlash tolerant chars then
    Segment.captures? pattern.segments (pathSegments chars)
  else
    none

def matchesPath (pattern : Pattern) (path : String) (tolerant : Bool) : Bool :=
  (pattern.match? path tolerant).isSome

end Pattern

end Switchyard.Route
