import Switchyard.Media.MediaRange

/-!
Choosing the media type of a response from what the client accepts and what can be produced.
-/

set_option autoImplicit false

namespace Switchyard.Media.MediaRange

/-- The more specific one of every accepted and producible range that have a media type in common;
accepted ranges count first. -/
def candidates (accepted producible : List MediaRange) : List MediaRange :=
  accepted.flatMap fun range =>
    (producible.filter fun other => range.isCompatible other).map fun other =>
      range.mostSpecific other

/-- Whether octets may be sent for a range that names no single media type. -/
def coversOctets (range : MediaRange) : Bool :=
  range.media.essence = "*/*" || range.media.essence = "application/*"

/-- The first single media type among ranges; octets stand for a range that covers them. -/
def firstConcrete? : List MediaRange → Option MediaRange
  | [] => none
  | range :: rest =>
      if range.isConcrete then some range
      else if range.coversOctets then some .octetStream
      else firstConcrete? rest

def negotiate? (accepted producible : List MediaRange) : Option MediaRange :=
  firstConcrete? (sorted (candidates accepted producible))

end Switchyard.Media.MediaRange
