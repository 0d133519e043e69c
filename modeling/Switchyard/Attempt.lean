import Switchyard.Http.Message

/-!
What comes of calling code that may fail or break off.

A `Cause` is the reason that such code gives for its failure; an application cause also chooses the
kind and the status under which the failure is reported.
-/

set_option autoImplicit false

namespace Switchyard

inductive Attempt (ε α : Type) where
  | returned (value : α)
  | failed (error : ε)
  /-- The call broke off, with a message if it had one to give. -/
  | panicked (message : Option String)
  deriving Repr, DecidableEq

inductive Cause where
  | plain (message : String)
  | application (kind message : String) (status : Http.Status)
  deriving Repr, DecidableEq

namespace Cause

def message : Cause → String
  | .plain found => found
  | .application _ found _ => found

def kind? : Cause → Option String
  | .plain _ => none
  | .application found _ _ => some found

def status? : Cause → Option Http.Status
  | .plain _ => none
  | .application _ _ found => some found

def ofPanic (message : Option String) : Cause :=
  .plain ("panicked: " ++ message.getD "unknown panic")

end Cause

namespace Attempt

variable {ε α : Type}

/-- An attempt whose breaking off has been caught and counts as a failure. -/
def caught : Attempt Cause α → Except Cause α
  | .returned value => .ok value
  | .failed cause => .error cause
  | .panicked message => .error (.ofPanic message)

def map {β : Type} (f : α → β) : Attempt ε α → Attempt ε β
  | .returned value => .returned (f value)
  | .failed error => .failed error
  | .panicked message => .panicked message

def ofExcept : Except ε α → Attempt ε α
  | .ok value => .returned value
  | .error error => .failed error

end Attempt

end Switchyard
