/-!
Sampling of requests for detailed logs.

A gate lets the requests below a threshold through and after them one in every interval.  Its
counter and interval are words of 64 bits, and the interval is a power of two, so that a mask picks
the multiples of it.
-/

set_option autoImplicit false

namespace Switchyard.Serving

structure Gate where
  count : UInt64
  interval : UInt64
  /-- The number of requests that are all let through; every request is if it is negative. -/
  threshold : Int64
  deriving Repr, DecidableEq

namespace Gate

def defaultInterval : UInt64 := 8

def isPowerOfTwo (word : UInt64) : Bool :=
  word != 0 && word &&& (word - 1) == 0

def ofInterval (interval : UInt64) (threshold : Int64) : Gate where
  count := 0
  interval := if isPowerOfTwo interval then interval else defaultInterval
  threshold := threshold

def lets (gate : Gate) (count : UInt64) : Bool :=
  gate.threshold < 0 || count < gate.threshold.toUInt64 || count &&& (gate.interval - 1) == 0

def next (gate : Gate) : Bool × Gate :=
  (gate.lets gate.count, { gate with count := gate.count + 1 })

end Gate

end Switchyard.Serving
