import Switchyard.Text.Percent
import Switchyard.Text.Split

/-!
Form data: named values as they stand in a query string or in a form-encoded body, in their order.

A name may stand several times.  `Form.ofOctets` never fails: pieces between ampersands that are
empty are no entries, a piece without an equality sign has an empty value, and octets that are not
UTF-8 become the replacement character.
-/

set_option autoImplicit false

namespace Switchyard

structure Form where
  entries : List (String × String)
  deriving Repr, DecidableEq

namespace Form

def empty : Form := ⟨[]⟩

def component (octets : Octets) : String :=
  Text.Utf8.decodeLossy (Text.percentDecode (Text.plusToSpace octets))

def entryOfPiece (piece : Octets) : String × String :=
  let (name, value) := Text.cutAtFirst 61 piece
  (component name, component (value.getD []))

def ofOctets (octets : Octets) : Form :=
  ⟨((Text.splitOn 38 octets).filter fun piece => !piece.isEmpty).map entryOfPiece⟩

def ofText (text : String) : Form :=
  ofOctets (Text.Utf8.encode text)

def get? (form : Form) (name : String) : Option String :=
  (form.entries.find? fun entry => entry.1 = name).map Prod.snd

def getAll (form : Form) (name : String) : List String :=
  (form.entries.filter fun entry => entry.1 = name).map Prod.snd

def isEmpty (form : Form) : Bool :=
  form.entries.isEmpty

end Form

end Switchyard
