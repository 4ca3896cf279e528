import Accelerometer.Decimal.Notation
import Accelerometer.Signal.LowPass

/-!
# Filter specifications

What a filter is asked for, and when that can be met.
-/

namespace Accelerometer.Signal

structure LowPassSpec where
  taps : Nat
  rate : Float
  cutoff : Float

inductive InvalidSpec
  | noTaps
  | badRate (rate : Float)
  | badCutoff (cutoff nyquist : Float)

def InvalidSpec.message : InvalidSpec → String
  | .noTaps => "a filter needs at least one tap"
  | .badRate rate =>
    "sample rate must be a positive number of Hz, got " ++ Decimal.plain.text rate
  | .badCutoff cutoff nyquist =>
    "cutoff must lie strictly between 0 and the Nyquist frequency (" ++
      Decimal.plain.text nyquist ++ " Hz), got " ++ Decimal.plain.text cutoff ++ " Hz"

namespace LowPassSpec

def standard : LowPassSpec :=
  ⟨20, 400.0, 20.0⟩

/-- Checks, in this order, that there is a tap, that the sample rate is a positive number, and that
the cutoff lies between zero and the Nyquist frequency. -/
def validate (spec : LowPassSpec) : Except InvalidSpec Unit :=
  let nyquist := Signal.nyquist spec.rate
  if spec.taps = 0 then .error .noTaps
  else if ¬(spec.rate.isFinite ∧ 0.0 < spec.rate) then .error (.badRate spec.rate)
  else if ¬(0.0 < spec.cutoff ∧ spec.cutoff < nyquist) then .error (.badCutoff spec.cutoff nyquist)
  else .ok ()

def design (spec : LowPassSpec) : Except InvalidSpec (List Float) := do
  spec.validate
  return lowPass spec.taps spec.cutoff spec.rate

end LowPassSpec

end Accelerometer.Signal
