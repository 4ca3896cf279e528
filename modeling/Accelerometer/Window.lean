import Accelerometer.Decimal.Digits
import Accelerometer.Decimal.Notation
import Accelerometer.Serial.Source

/-!
# Capture windows

A number of seconds as a span of time: rounded to whole nanoseconds, and refused if that is nothing
or too much.
-/

namespace Accelerometer

inductive WindowError
  | notPositive (seconds : Float)
  | negative (seconds : Float)
  | tooLarge (seconds : Float)

def WindowError.message : WindowError → String
  | .notPositive seconds =>
    "must be a positive number of seconds, got " ++ Decimal.plain.text seconds
  | .negative seconds =>
    "is out of range (" ++ Decimal.plain.text seconds ++
      "): cannot convert float seconds to Duration: value is negative"
  | .tooLarge seconds =>
    "is out of range (" ++ Decimal.plain.text seconds ++
      "): cannot convert float seconds to Duration: value is either too big or NaN"

def durationBound : Duration := Nat.pow 2 64 * second

/-- The window of a number of seconds, to the nearest nanosecond. -/
def windowOf (seconds : Float) : Except WindowError Duration :=
  match Decimal.Binary.ofFloat seconds with
  | .nan | .infinite false => .error (.tooLarge seconds)
  | .infinite true => .error (.negative seconds)
  | .finite negative significand exponent =>
    let nanoseconds := Decimal.fixedCount significand exponent 9
    if negative ∧ significand ≠ 0 then .error (.negative seconds)
    else if nanoseconds = 0 then .error (.notPositive seconds)
    else if durationBound ≤ nanoseconds then .error (.tooLarge seconds)
    else .ok nanoseconds

end Accelerometer
