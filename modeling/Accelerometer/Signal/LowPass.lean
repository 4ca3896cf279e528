import Accelerometer.Signal.Arithmetic

/-!
# Low-pass filters

The design of a low-pass filter by the window method: a sinc cut off by a Hamming window, scaled so
that the coefficients sum to one.
-/

namespace Accelerometer.Signal

variable {α : Type} [Arithmetic α]

def hamming (length : Nat) : List α :=
  if length = 1 then [1.0]
  else
    let span : α := Arithmetic.ofNat (length - 1)
    (List.range length).map fun n =>
      0.54 - 0.46 * Arithmetic.cos (2.0 * Arithmetic.pi * Arithmetic.ofNat n / span)

def sinc (x : α) : α :=
  if Arithmetic.isZero x then 1.0
  else Arithmetic.sin (Arithmetic.pi * x) / (Arithmetic.pi * x)

def nyquist (rate : α) : α :=
  rate / 2.0

def unscaledTaps (taps : Nat) (cutoff : α) : List α :=
  let middle : α := 0.5 * Arithmetic.ofNat (taps - 1)
  (hamming taps).zipIdx.map fun (weight, n) =>
    cutoff * sinc (cutoff * (Arithmetic.ofNat n - middle)) * weight

def total (terms : List α) : α :=
  terms.foldl (· + ·) 0

def lowPass (taps : Nat) (cutoff rate : α) : List α :=
  let unscaled := unscaledTaps taps (cutoff / nyquist rate)
  let gain := total unscaled
  unscaled.map fun tap => tap / gain

end Accelerometer.Signal
