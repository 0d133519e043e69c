import Switchyard.Number.Shortest

/-!
JSON values.

Numbers are integers or numbers of 64 bits, and the members of an object are kept in the order of
their names, one for each name.
-/

set_option autoImplicit false

namespace Switchyard.Json

inductive Num where
  | int (value : Int)
  | real (value : Number.Real)
  deriving Repr, DecidableEq

inductive Value where
  | null
  | bool (flag : Bool)
  | num (number : Num)
  | text (text : String)
  | list (items : List Value)
  | object (members : List (String × Value))
  deriving Repr, Inhabited

/-- Puts a member in its place among members in the order of their names; a member of the same
name is replaced. -/
def insertMember (name : String) (value : Value) :
    List (String × Value) → List (String × Value)
  | [] => [(name, value)]
  | (other, held) :: rest =>
      if name = other then (name, value) :: rest
      else if name < other then (name, value) :: (other, held) :: rest
      else (other, held) :: insertMember name value rest

namespace Value

def int (value : Int) : Value :=
  .num (.int value)

def nat (value : Nat) : Value :=
  .num (.int value)

def texts (items : List String) : Value :=
  .list (items.map .text)

/-- The object with the members given; the last one of a name counts. -/
def ofMembers (members : List (String × Value)) : Value :=
  .object (members.foldl (fun kept member => insertMember member.1 member.2 kept) [])

def get? (value : Value) (name : String) : Option Value :=
  match value with
  | .object members => members.lookup name
  | _ => none

def member (value : Value) (name : String) : Value :=
  (value.get? name).getD .null

def hasMember (value : Value) (name : String) : Bool :=
  match value.member name with
  | .null => false
  | _ => true

def text? : Value → Option String
  | .text content => some content
  | _ => none

def int? : Value → Option Int
  | .num (.int found) => some found
  | _ => none

def items : Value → List Value
  | .list found => found
  | _ => []

def members : Value → List (String × Value)
  | .object found => found
  | _ => []

def item (value : Value) (index : Nat) : Value :=
  (value.items[index]?).getD .null

end Value

end Switchyard.Json
