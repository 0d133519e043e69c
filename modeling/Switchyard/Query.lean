import Switchyard.Number.Decimal
import Switchyard.Text.Ascii
import Switchyard.Text.Percent
import Switchyard.Text.Split

/-!
Query strings read as trees of named values.

The entries stand between ampersands; empty ones are passed over.  A name may be followed by
brackets: `a[b]` is the member `b` of a table under `a`, `a[3]` an item at a position, and `a[]` a
further item.  Values that clash, such as two values for one name, spoil the place where they stand
and nothing else; where that is the whole query, nothing is left of it.  A malformed name makes the
query unreadable.  The readers take flat records of numbers and texts out of a tree.
-/

set_option autoImplicit false

namespace Switchyard

inductive Query.Step where
  | member (name : String)
  | position (index : Nat)
  | next
  deriving Repr, DecidableEq

/-- A named value, or what stands in its place. -/
inductive Query.Node where
  | unset
  | text (content : String)
  | table (members : List (String × Query.Node))
  | positions (items : List (Nat × Query.Node))
  | sequence (items : List String)
  /-- Values that exclude each other were given. -/
  | clash
  deriving Repr, Inhabited

namespace Query.Node

def alter {κ : Type} [DecidableEq κ] (entries : List (κ × Query.Node)) (key : κ)
    (value : Query.Node) : List (κ × Query.Node) :=
  match entries with
  | [] => [(key, value)]
  | (other, held) :: rest =>
      if other = key then (key, value) :: rest else (other, held) :: alter rest key value

def child {κ : Type} [DecidableEq κ] (entries : List (κ × Query.Node)) (key : κ) : Query.Node :=
  (entries.lookup key).getD .unset

def setLeaf (node : Query.Node) (value : String) : Query.Node :=
  match node with
  | .unset => .text value
  | _ => .clash

def insertLast (node : Query.Node) (step : Query.Step) (value : String) : Query.Node :=
  match node, step with
  | .table members, .member name =>
      .table (alter members name ((child members name).setLeaf value))
  | .unset, .member name => .table [(name, .text value)]
  | .positions items, .position index =>
      .positions (alter items index ((child items index).setLeaf value))
  | .unset, .position index => .positions [(index, .text value)]
  | .sequence items, .next => .sequence (items ++ [value])
  | .unset, .next => .sequence [value]
  | _, _ => .clash

/-- Puts a value under steps; fails where a step leads through something that has none. -/
def insert (node : Query.Node) (value : String) : List Query.Step → Option Query.Node
  | [] => some (node.setLeaf value)
  | [step] => some (node.insertLast step value)
  | .member name :: rest =>
      match node with
      | .unset => (insert .unset value rest).map fun inner => .table [(name, inner)]
      | .table members =>
          (insert (child members name) value rest).map fun inner =>
            .table (alter members name inner)
      | _ => none
  | .position index :: rest =>
      match node with
      | .unset => (insert .unset value rest).map fun inner => .positions [(index, inner)]
      | .positions items =>
          (insert (child items index) value rest).map fun inner =>
            .positions (alter items index inner)
      | _ => none
  | .next :: _ => none

mutual

def isSound : Query.Node → Bool
  | .text _ => true
  | .sequence _ => true
  | .table members => membersSound members
  | .positions items => itemsSound items
  | .unset => false
  | .clash => false

def membersSound : List (String × Query.Node) → Bool
  | [] => true
  | (_, node) :: rest => node.isSound && membersSound rest

def itemsSound : List (Nat × Query.Node) → Bool
  | [] => true
  | (_, node) :: rest => node.isSound && itemsSound rest

end

end Query.Node

structure Query where
  members : List (String × Query.Node)
  deriving Repr

namespace Query

/-- How many brackets may follow the name of the first entry.  Every entry allows the next one a
further bracket.  What stands deeper is a single name, brackets and all. -/
def bracketLimit : Nat := 4

def component? (octets : Octets) : Option String :=
  (Text.Utf8.decodeText (Text.percentDecode (Text.plusToSpace octets))).toOption

def beginsBracketName (octet : UInt8) : Bool :=
  32 ≤ octet && octet ≤ 126 && octet != 91

/-- The step that a name in brackets stands for: a name that begins with a digit is a position. -/
def bracketStep? (name : Octets) : Option Query.Step :=
  (component? name).bind fun text =>
    if name.head?.any Text.isDigitOctet then
      (Number.ofDigitsBelow? UInt64.size text.toList).map .position
    else
      some (.member text)

/-- Reads the brackets after a name, of which `limit` count, and gives the steps and what follows.
A closing bracket may be missing at the end of an entry, but unless another entry follows, an
opening bracket may not be the last octet. -/
def brackets? (last : Bool) (limit : Nat) (octets : Octets) : Option (List Query.Step × Octets) :=
  match limit, octets with
  | 0, 91 :: rest =>
      let name := (91 :: rest).takeWhile fun octet => octet != 61
      (component? name).map fun text => ([.member text], (91 :: rest).drop name.length)
  | _ + 1, [91] => if last then none else some ([.member ""], [])
  | _ + 1, 91 :: 93 :: rest => some ([.next], rest)
  | limit + 1, 91 :: first :: rest =>
      if beginsBracketName first then
        let name := (first :: rest).takeWhile fun octet => octet != 93
        match bracketStep? name, brackets? last limit (rest.drop name.length) with
        | some step, some (steps, tail) => some (step :: steps, tail)
        | _, _ => none
      else
        none
  | _, octets => some ([], octets)

/-- Reads the steps that an entry begins with, and gives them and what follows.  Unless it is an
opening bracket, the first octet belongs to the name whatever it is. -/
def steps? (last : Bool) (limit : Nat) (octets : Octets) : Option (List Query.Step × Octets) :=
  if octets.head? = some 91 then
    brackets? last (limit + 1) octets
  else
    let name := octets.take 1 ++ (octets.drop 1).takeWhile fun octet => octet != 61 && octet != 91
    match component? name, brackets? last limit (octets.drop name.length) with
    | some text, some (steps, tail) => some (.member text :: steps, tail)
    | _, _ => none

/-- The value that what follows the steps of an entry spells: an equality sign and a text, or an
empty text. -/
def value? : Octets → Option String
  | [] => some ""
  | octet :: rest => if octet == 61 then component? rest else none

def insertEntry (last : Bool) (limit : Nat) (tree : Query.Node) (octets : Octets) :
    Option Query.Node :=
  match steps? last limit octets with
  | none => none
  | some (steps, tail) => (value? tail).bind fun value => tree.insert value steps

def insertEntries (limit : Nat) (tree : Query.Node) : List Octets → Option Query.Node
  | [] => some tree
  | entry :: rest =>
      if entry.isEmpty then insertEntries limit tree rest
      else
        (insertEntry rest.isEmpty limit tree entry).bind fun grown =>
          insertEntries (limit + 1) grown rest

/-- The query of a tree; values that clash at the root leave nothing of it. -/
def ofTree : Query.Node → Query
  | .table members => ⟨members⟩
  | _ => ⟨[]⟩

def parse? (text : String) : Option Query :=
  (insertEntries bracketLimit (.table []) (Text.splitOn 38 (Text.Utf8.encode text))).map ofTree

/-- The texts of a query, each under its name, if there is nothing else in it. -/
def texts? (query : Query) : Option (List (String × String)) :=
  query.members.mapM fun member =>
    match member.2 with
    | .text content => some (member.1, content)
    | _ => none

/-- The number of at most 32 bits that a text spells, perhaps after a plus sign. -/
def number? (text : String) : Option Nat :=
  match text.toList with
  | '+' :: rest => Number.ofDigitsBelow? UInt32.size rest
  | chars => Number.ofDigitsBelow? UInt32.size chars

/-- Which part of a list is asked for: a page, and how many entries it has. -/
structure Paging where
  page : Nat
  size : Option Nat
  deriving Repr, DecidableEq

/-- The size that a value spells; an empty one is none. -/
def size? : Query.Node → Option (Option Nat)
  | .text content => if content.isEmpty then some none else (number? content).map some
  | _ => none

/-- The page that a query asks for.  Other names may stand in it as long as their values do not
clash. -/
def paging? (query : Query) : Option Paging :=
  if query.members.all fun member => member.2.isSound then
    match query.members.lookup "page" with
    | some (.text page) =>
        match number? page, query.members.lookup "size" with
        | some page, none => some ⟨page, none⟩
        | some page, some size => (size? size).map fun size => ⟨page, size⟩
        | none, _ => none
    | _ => none
  else
    none

end Query

end Switchyard
