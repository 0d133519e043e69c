import Switchyard.Text.Ascii
import Switchyard.Text.Split

/-!
Request targets.

A target is a path with an optional query, the same after a scheme and an authority, or an
authority alone.  Paths stay percent-encoded; a fragment is dropped.
-/

set_option autoImplicit false

namespace Switchyard.Http

inductive Target where
  | origin (path : String) (query : Option String)
  | absolute (scheme authority path : String) (query : Option String)
  | authority (authority : String)
  deriving Repr, DecidableEq

namespace Target

/-- The path of a target; an authority alone has an empty one. -/
def path : Target → String
  | .origin found _ => found
  | .absolute _ _ found _ => found
  | .authority _ => ""

def query : Target → Option String
  | .origin _ found => found
  | .absolute _ _ _ found => found
  | .authority _ => none

def text (target : Target) : String :=
  let tail :=
    target.path ++
      match target.query with
      | some query => "?" ++ query
      | none => ""
  match target with
  | .origin _ _ => tail
  | .absolute scheme host _ _ => scheme ++ "://" ++ host ++ tail
  | .authority host => host

def pathAndQuery (chars : List Char) : String × Option String :=
  let (path, query) := Text.cutAtFirst '?' (Text.cutAtFirst '#' chars).1
  (if path.isEmpty then "/" else String.ofList path, query.map String.ofList)

def isSchemeChar (c : Char) : Bool :=
  c.isAlphanum || c == '+' || c == '-' || c == '.' || c == '~'

/-- The scheme that characters begin with, and what follows its `://`. -/
def scheme? (chars : List Char) : Option (String × List Char) :=
  let name := chars.takeWhile isSchemeChar
  match chars.drop name.length with
  | ':' :: '/' :: '/' :: rest =>
      let lower := name.map Char.toLower
      if lower = ['h', 't', 't', 'p'] ∨ lower = ['h', 't', 't', 'p', 's'] then
        some (String.ofList lower, rest)
      else
        some (String.ofList name, rest)
  | _ => none

def endsAuthority (c : Char) : Bool :=
  c == '/' || c == '?' || c == '#'

def ofText (text : String) : Target :=
  let chars := text.toList
  if chars.head? = some '/' ∨ chars = ['*'] then
    let (path, query) := pathAndQuery chars
    .origin path query
  else
    match scheme? chars with
    | some (scheme, rest) =>
        let authority := rest.takeWhile fun c => !endsAuthority c
        let (path, query) := pathAndQuery (rest.drop authority.length)
        .absolute scheme (String.ofList authority) path query
    | none => .authority text

end Target

end Switchyard.Http
