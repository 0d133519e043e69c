import Switchyard.Http.Message
import Switchyard.Media.MediaRange

/-!
The media ranges that a client accepts.
-/

set_option autoImplicit false

namespace Switchyard.Media

def acceptEntries (value : String) : List String :=
  (Text.fields ',' value).filter fun entry => !(Text.trim entry).isEmpty

/-- The ranges that a client accepts, from all its accept fields in order.  Entries that are no media
range or have no weight are skipped; if none is left, everything is accepted. -/
def acceptedRanges (fields : Http.Fields) : List MediaRange :=
  let entries := (fields.texts Http.acceptName).flatMap acceptEntries
  match (MediaRange.parseAll entries).filter fun range => range.quality.isPositive with
  | [] => [.any]
  | ranges => ranges

end Switchyard.Media
