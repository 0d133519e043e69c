import Switchyard.Text.Utf8

/-!
Percent encoding.  `%` and two hexadecimal digits stand for an octet; a `%` that is not followed by
two digits stands for itself.
-/

set_option autoImplicit false

namespace Switchyard.Text


/-- The octets that percent-encoded octets stand for, after those given in reverse. -/
def percentDecodeFrom (reversed : Octets) : Octets → Octets
  | [] => reversed.reverse
  | octet :: rest =>
      match octet == 37, rest with
      | true, high :: low :: more =>
          match Octets.ofHexPair? high low with
          | some decoded => percentDecodeFrom (decoded :: reversed) more
          | none => percentDecodeFrom (octet :: reversed) (high :: low :: more)
      | _, rest => percentDecodeFrom (octet :: reversed) rest

def percentDecode (octets : Octets) : Octets :=
  percentDecodeFrom [] octets

def plusToSpace (octets : Octets) : Octets :=
  octets.map fun octet => if octet == 43 then 32 else octet

end Switchyard.Text
