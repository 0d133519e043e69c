import Std.Data.HashMap
import Switchyard.Route.Specificity

/-!
Routers.

A router maps patterns to handlers.  The patterns `/` and `/*` have slots of their own: the first one
serves the root path when nothing else does, the second one every path that nothing else serves.  All
other patterns are scanned in the order of their registration, and the most specific match wins, the
first one among equals; literal patterns are also found by their text alone.
-/

set_option autoImplicit false

namespace Switchyard.Route

/-- Things that can be registered: each has a name, and an identity that tells two things of one name
apart. -/
class Registrable (H : Type) where
  name : H → String
  identity : H → Nat

inductive RouteError where
  | invalidPattern (pattern : String) (fault : PatternFault)
  | conflict (pattern existing new : String)
  deriving Repr, DecidableEq

def RouteError.message : RouteError → String
  | .invalidPattern pattern fault => s!"invalid pattern '{pattern}': {fault.message}"
  | .conflict pattern existing new =>
      s!"cannot map handler '{new}' to '{pattern}': already mapped to handler '{existing}'"

structure Entry (H : Type) where
  pattern : Pattern
  handler : H

structure Routed (H : Type) where
  handler : H
  /-- The text of the pattern that won. -/
  pattern : String
  captures : Captures

def rootText : String := "/"

def fallbackText : String := "/*"

structure Router (H : Type) where
  literals : Std.HashMap String H := {}
  entries : List (Entry H) := []
  root : Option H := none
  fallback : Option H := none
  tolerant : Bool := false

namespace Router

variable {H : Type} [Registrable H]

def same (left right : H) : Bool :=
  Registrable.identity left = Registrable.identity right

/-- The slot after a registration into it. -/
def bind (slot : Option H) (pattern : String) (handler : H) : Except RouteError H :=
  match slot with
  | none => .ok handler
  | some existing =>
      if same existing handler then .ok existing
      else .error (.conflict pattern (Registrable.name existing) (Registrable.name handler))

def insertEntry (router : Router H) (pattern : Pattern) (handler : H) :
    Except RouteError (Router H) :=
  match router.entries.find? fun entry => entry.pattern.text = pattern.text with
  | some entry => (bind (some entry.handler) pattern.text handler).map fun _ => router
  | none =>
      .ok { router with
        literals :=
          if pattern.isLiteral then router.literals.insert pattern.text handler
          else router.literals
        entries := router.entries ++ [⟨pattern, handler⟩] }

def insert (router : Router H) (pattern : Pattern) (handler : H) :
    Except RouteError (Router H) :=
  if pattern.text = rootText then
    (bind router.root rootText handler).map fun bound => { router with root := some bound }
  else if pattern.text = fallbackText then
    (bind router.fallback fallbackText handler).map fun bound =>
      { router with fallback := some bound }
  else
    router.insertEntry pattern handler

def register (router : Router H) (pattern : String) (handler : H) :
    Except RouteError (Router H) :=
  match Pattern.parse pattern with
  | .error fault => .error (.invalidPattern pattern fault)
  | .ok parsed => router.insert parsed handler

def build (registrations : List (String × H)) (tolerant : Bool) : Except RouteError (Router H) :=
  registrations.foldlM (fun router registration =>
    router.register registration.1 registration.2) { tolerant := tolerant }

omit [Registrable H] in
def better (path : String) (best : Option (Entry H × Captures)) (entry : Entry H)
    (captures : Captures) : Option (Entry H × Captures) :=
  match best with
  | none => some (entry, captures)
  | some (current, _) =>
      if entry.pattern.compareSpecificity current.pattern path = .lt then some (entry, captures)
      else best

def consider (tolerant : Bool) (path : String) (best : Option (Entry H × Captures))
    (entry : Entry H) : Option (Entry H × Captures) :=
  match entry.pattern.match? path tolerant with
  | none => best
  | some captures => better path best entry captures

def scan (router : Router H) (path : String) : Option (Entry H × Captures) :=
  router.entries.foldl (consider router.tolerant path) none

def slot? (router : Router H) (path : String) : Option (Routed H) :=
  match router.root with
  | some handler =>
      if path = rootText then some ⟨handler, rootText, []⟩
      else router.fallback.map fun fallback => ⟨fallback, fallbackText, []⟩
  | none => router.fallback.map fun fallback => ⟨fallback, fallbackText, []⟩

def at? (router : Router H) (path : String) : Option (Routed H) :=
  match router.literals[path]? with
  | some handler => some ⟨handler, path, []⟩
  | none =>
      match router.scan path with
      | some (entry, captures) => some ⟨entry.handler, entry.pattern.text, captures⟩
      | none => router.slot? path

def size (router : Router H) : Nat :=
  router.entries.length + router.root.toList.length + router.fallback.toList.length

end Router

end Switchyard.Route
