import Switchyard.Attempt

/-!
Faults of scripted user code.

A script is user code given as data; what it does when it runs is said by the modules of this
folder.  Scripts write lines into a journal, which is the state they act on.
-/

set_option autoImplicit false

namespace Switchyard.Script

/-- The lines that scripted code has written, in order. -/
abbrev Journal := List String

inductive Fault where
  | fails (cause : Cause)
  | breaks (message : Option String)
  deriving Repr, DecidableEq

namespace Fault

def attempt {α : Type} : Fault → Attempt Cause α
  | .fails cause => .failed cause
  | .breaks message => .panicked message

def cause : Fault → Cause
  | .fails found => found
  | .breaks message => .ofPanic message

def attemptOr {α : Type} (fault : Option Fault) (value : α) : Attempt Cause α :=
  match fault with
  | some found => found.attempt
  | none => .returned value

end Fault

end Switchyard.Script
