import Accelerometer.Decimal.Notation
import Accelerometer.Serial.Source

/-!
# Summaries

What a run counts, and spans of time as numbers of seconds.
-/

namespace Accelerometer

/-- The number of seconds of a span. Whole seconds and the rest are rounded separately. -/
def Duration.seconds (span : Duration) : Float :=
  Float.ofNat (span / second) + Float.ofNat (span % second) / Float.ofNat second

structure Summary where
  accepted : Nat
  dropped : Nat
  silent : Nat
  elapsed : Duration
  deriving DecidableEq, Repr

namespace Summary

def zero : Summary :=
  ⟨0, 0, 0, 0⟩

def text (summary : Summary) : String :=
  toString summary.accepted ++ " samples recorded, " ++ toString summary.dropped ++
    " malformed lines dropped, " ++ toString summary.silent ++ " empty reads in " ++
    Decimal.fixed true 1 (Duration.seconds summary.elapsed) ++ "s"

end Summary

end Accelerometer
