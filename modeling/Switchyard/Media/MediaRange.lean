import Switchyard.Media.MediaType
import Switchyard.Media.Quality
import Switchyard.Text.Blank

/-!
Media ranges: media types, possibly with wildcards, that carry a quality.

`includes` says that a range covers another one, `isCompatible` that two ranges have a concrete type
in common.  `compareSpecificity` puts concrete types before wildcards and, among equals, the greater
quality first.
-/

set_option autoImplicit false

namespace Switchyard.Media

structure MediaRange where
  media : MediaType
  quality : Quality
  deriving Repr, DecidableEq

namespace MediaRange

def ofMedia (media : MediaType) : MediaRange :=
  ⟨media, .one⟩

def any : MediaRange := ofMedia .any

def octetStream : MediaRange := ofMedia .octetStream

def text (range : MediaRange) : String :=
  range.media.text

def qualityName : String := "q"

def unweightedText (media : MediaType) : String :=
  media.essence ++
    String.join ((media.parameters.filter fun parameter => parameter.1 ≠ qualityName).map
      fun parameter => "; " ++ parameter.1 ++ "=" ++ parameter.2)

/-- The range that a media type with its parameters stands for.  A weight is taken from the first
`q`; what is left of the parameters is then read again. -/
def ofParsed? (media : MediaType) : Option MediaRange :=
  match media.parameter? qualityName with
  | none => some (ofMedia media)
  | some weight =>
      match Quality.parse? weight with
      | none => none
      | some quality => (MediaType.parse? (unweightedText media)).map fun bare => ⟨bare, quality⟩

def parse? (text : String) : Option MediaRange :=
  (MediaType.parse? (Text.trim text)).bind ofParsed?

def isWildcardType (range : MediaRange) : Bool :=
  range.media.type = "*"

def isWildcardSubtype (range : MediaRange) : Bool :=
  range.media.base = "*"

def isConcrete (range : MediaRange) : Bool :=
  !range.isWildcardType && !range.isWildcardSubtype

/-- Zero for a single media type, one for a wildcard subtype, two for a wildcard type. -/
def specificityRank (range : MediaRange) : Nat :=
  if range.isWildcardType then 2 else if range.isWildcardSubtype then 1 else 0

def includes (range other : MediaRange) : Bool :=
  if range.isWildcardType then true
  else if range.media.type ≠ other.media.type then false
  else if range.media.subtype = other.media.subtype then true
  else if !range.isWildcardSubtype then false
  else
    match range.media.suffix? with
    | none => true
    | some suffix => other.media.suffix? = some suffix

/-- Whether a range with a suffix after its wildcard shares a type with another subtype. -/
def sharesSuffix (suffix : String) (other : MediaRange) : Bool :=
  suffix = other.media.subtype || some suffix = other.media.suffix?

def isCompatible (range other : MediaRange) : Bool :=
  if range.isWildcardType || other.isWildcardType then true
  else if range.media.type ≠ other.media.type then false
  else if range.media.subtype = other.media.subtype then true
  else if range.media.subtype = "*" ∨ other.media.subtype = "*" then true
  else
    match range.isWildcardSubtype, range.media.suffix? with
    | true, some suffix => sharesSuffix suffix other
    | _, _ =>
        match other.isWildcardSubtype, other.media.suffix? with
        | true, some suffix => sharesSuffix suffix range
        | _, _ => false

def compareSpecificity (range other : MediaRange) : Ordering :=
  (compare range.specificityRank other.specificityRank).then
    (compare other.quality.rank range.quality.rank)

/-- The more specific of an accepted and a producible range, in the weight of the accepted one. -/
def mostSpecific (accepted producible : MediaRange) : MediaRange :=
  if accepted.specificityRank ≤ producible.specificityRank then accepted
  else { producible with quality := accepted.quality }

/-- Ranges in the order of their specificity; equal ones keep their order. -/
def sorted (ranges : List MediaRange) : List MediaRange :=
  ranges.mergeSort fun left right => left.compareSpecificity right ≠ .gt

def join (ranges : List MediaRange) : String :=
  String.intercalate ", " (ranges.map text)

/-- The ranges that texts spell; texts that spell none are skipped. -/
def parseAll (texts : List String) : List MediaRange :=
  texts.filterMap parse?

end MediaRange

end Switchyard.Media
