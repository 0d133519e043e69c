import Switchyard.Failure
import Switchyard.Serving.Config

/-!
Pools of permits, which bound the number of requests served at once.

A pool of a configuration first starts the runtime that its workers run on.  Which threads that has,
their names and how long they may be idle are its own matter, and no permit depends on them: of the
runtime there is only whether it starts.
-/

set_option autoImplicit false

namespace Switchyard.Serving

structure Pool where
  capacity : Nat
  /-- The permits that nobody holds. -/
  available : Nat
  deriving Repr, DecidableEq

namespace Pool

def permitLimit : Nat := wordMax / 8

def ofCapacity? (capacity : Nat) : Option Pool :=
  if capacity ≤ permitLimit then some ⟨capacity, capacity⟩ else none

/-- The permits of a configuration, or nothing where opening them breaks off. -/
def ofConfig? (config : ExecutionConfig) : Option Pool :=
  ofCapacity? config.capacity

/-- Starting the runtime of a configuration that has threads of both kinds, which may fail for a
reason. -/
abbrev Runtime := ExecutionConfig → Except String Unit

/-- What starting the pool of a configuration comes to. -/
inductive Launch where
  | started (pool : Pool)
  | unstarted (reason : String)
  /-- The runtime has started, but there are not as many permits. -/
  | broken
  deriving Repr, DecidableEq

def launch (runtime : Runtime) (config : ExecutionConfig) : Launch :=
  match runtime config with
  | .error reason => .unstarted reason
  | .ok () =>
      match ofConfig? config with
      | some pool => .started pool
      | none => .broken

def take (pool : Pool) : Except Rejection Pool :=
  if pool.available = 0 then .error ⟨pool.capacity⟩
  else .ok { pool with available := pool.available - 1 }

def giveBack (pool : Pool) : Pool :=
  { pool with available := pool.available + 1 }

end Pool

end Switchyard.Serving
