import Accelerometer.Serial.Fault

/-!
# Sources

What octets and lines are read from: a source is given by its states and by what a read does in
each. Time passes only while something is read, and a read says how much.
-/

namespace Accelerometer

/-- A span of time in nanoseconds. -/
abbrev Duration := Nat

def millisecond : Duration := 1000000

def second : Duration := 1000 * millisecond

structure Read (σ ρ : Type) where
  outcome : ρ
  took : Duration
  source : σ

/-- The outcome of reading octets. No octets mean the end of the stream. -/
inductive Arrival
  | chunk (octets : List UInt8)
  | fault (fault : Fault)
  deriving DecidableEq, Repr

structure ByteSource (σ : Type) where
  read : σ → Read σ Arrival
  /-- How far ahead the clock that goes with the source can tell a moment. -/
  horizon : σ → Duration

inductive LineArrival
  | line (octets : List UInt8)
  | nothing
  | fault (fault : Fault)
  deriving DecidableEq, Repr

/-- A source of lines. Reading gives `none` if it never comes to an end, or breaks off. -/
structure LineStream (σ : Type) where
  nextLine : σ → Option (Read σ LineArrival)

end Accelerometer
