/-!
# Convolution

Discrete convolution over any arithmetic with a zero, an addition and a multiplication. The sums are
taken in the order of the signal, so that a rounding arithmetic gives a definite result.
-/

namespace Accelerometer.Signal

variable {α : Type} [Zero α] [Add α] [Mul α]

def addOnto : List α → List α → List α
  | total :: totals, term :: terms => (total + term) :: addOnto totals terms
  | totals, [] => totals
  | [], terms => terms

def overlapAdd (kernel : List α) : List α → List α → List α
  | totals, [] => totals
  | totals, entry :: signal =>
    match addOnto totals (kernel.map fun weight => entry * weight) with
    | [] => []
    | settled :: totals => settled :: overlapAdd kernel totals signal

def convolveFull (signal kernel : List α) : List α :=
  overlapAdd kernel (List.replicate (signal.length + kernel.length - 1) 0) signal

/-- The middle of the full convolution, as long as the longer of signal and kernel; empty if one of
them is. -/
def centredConvolution (signal kernel : List α) : List α :=
  if signal.isEmpty ∨ kernel.isEmpty then []
  else
    let shorter := min signal.length kernel.length
    let longer := max signal.length kernel.length
    ((convolveFull signal kernel).drop (shorter - 1 - shorter / 2)).take longer

end Accelerometer.Signal
