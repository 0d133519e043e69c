import Switchyard.Media.MediaRange
import Switchyard.Payload

/-!
Converters between the octets of a body and one kind of payload.

Reading and writing come to a result or to a reason why there is none.  Converters of the user are
assumed to do so too: other than handlers, interceptors, resolvers and adapters they never break
off.
-/

set_option autoImplicit false

namespace Switchyard.Conversion

open Media (MediaRange)

def coversAny (media : List MediaRange) (contentType : MediaRange) : Bool :=
  media.any fun supported => supported.includes contentType

def reachesAny (media : List MediaRange) (target : MediaRange) : Bool :=
  target.isWildcardType || media.any fun supported => supported.isCompatible target

/-- A converter for one kind of payload in some media types.  A converter that says nothing else
reads what its media types cover and writes what they have in common with the target. -/
structure Converter where
  name : String
  kind : PayloadKind
  media : List MediaRange
  readable : Bool := true
  writable : Bool := true
  /-- The charset that a written content type names unless it names one already. -/
  charset : Option String := none
  /-- Whether the converter reads a kind of payload from a media type. -/
  canRead : PayloadKind → MediaRange → Bool :=
    fun asked contentType => readable && asked = kind && coversAny media contentType
  /-- Whether the converter writes a kind of payload at all. -/
  canProduce : PayloadKind → Bool := fun asked => writable && asked = kind
  /-- Whether the converter writes a kind of payload in a media type. -/
  canWrite : PayloadKind → MediaRange → Bool :=
    fun asked target => writable && asked = kind && reachesAny media target
  read : Octets → MediaRange → Except String Payload
  write : Payload → Except String Octets

end Switchyard.Conversion
