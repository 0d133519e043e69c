import Switchyard.Http.Connection
import Switchyard.Http.Request

/-!
What a transport hands requests to.
-/

set_option autoImplicit false

namespace Switchyard.Http

/-- Takes one request after the other, each with the connection on which it came. -/
structure Receiver (ε : Type) where
  receive : Request → Connection → Except ε Unit × Connection

namespace Receiver

def ofResponder (respond : Request → Response) : Receiver SendError where
  receive request connection := connection.write (respond request)

end Receiver

end Switchyard.Http
