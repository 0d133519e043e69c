import Switchyard.Route.Pattern

/-!
Which of two patterns is more specific for a path.

A pattern equal to the path comes first and `/**` comes last.  A pattern without `**` comes before one
that ends with `/**`.  Then fewer wildcards count, then more literal text, fewer `*`, and fewer
variables.
-/

set_option autoImplicit false

namespace Switchyard.Route.Pattern

def variableNames (pattern : Pattern) : List (List Char) :=
  pattern.segments.flatMap Segment.variableNames

def singleStars (pattern : Pattern) : Nat :=
  pattern.segments.foldl (fun stars segment => stars + segment.singleStars) 0

def doubleStars (pattern : Pattern) : Nat :=
  pattern.segments.count .anySegments

def octetCount (chars : List Char) : Nat :=
  chars.foldl (fun octets char => octets + char.utf8Size) 0

/-- The length of the text in octets, every variable counting as one. -/
def weight (pattern : Pattern) : Nat :=
  octetCount pattern.text.toList -
    pattern.variableNames.foldl (fun octets name => octets + (octetCount name + 1)) 0

/-- The number of wildcards and variables, `**` counting twice. -/
def wildcards (pattern : Pattern) : Nat :=
  pattern.variableNames.length + pattern.singleStars + 2 * pattern.doubleStars

def isCatchAll (pattern : Pattern) : Bool :=
  pattern.text = "/**"

def isTree (pattern : Pattern) : Bool :=
  ['*', '*', '/'].isPrefixOf pattern.text.toList.reverse

def compareCounts (pattern other : Pattern) : Ordering :=
  (compare pattern.wildcards other.wildcards).then <|
    (compare other.weight pattern.weight).then <|
      (compare pattern.singleStars other.singleStars).then
        (compare pattern.variableNames.length other.variableNames.length)

/-- The order of two patterns for a path, the more specific one being less. -/
def compareSpecificity (pattern other : Pattern) (path : String) : Ordering :=
  if pattern.isCatchAll then
    if other.isCatchAll then .eq else .gt
  else if other.isCatchAll then .lt
  else if pattern.text = path then
    if other.text = path then .eq else .lt
  else if other.text = path then .gt
  else if pattern.isTree && other.doubleStars = 0 then .gt
  else if other.isTree && pattern.doubleStars = 0 then .lt
  else pattern.compareCounts other

end Switchyard.Route.Pattern
