import Accelerometer.Decimal.Notation
import Accelerometer.Signal.Arithmetic

/-!
# Frequency response

The magnitude response of a filter on a grid of frequencies, the corner where it falls off, and its
table.
-/

namespace Accelerometer.Signal

structure ResponsePoint (α : Type) where
  hertz : α
  decibel : α

section
variable {α : Type} [Arithmetic α]

def transfer (coefficients : List α) (angle : α) : α × α :=
  coefficients.zipIdx.foldl
    (fun (re, im) (weight, n) =>
      let phase := angle * Arithmetic.ofNat n
      (re + weight * Arithmetic.cos phase, im - weight * Arithmetic.sin phase))
    (0, 0)

def responseAt (coefficients : List α) (rate : α) (points k : Nat) : ResponsePoint α :=
  let angle : α := Arithmetic.pi * Arithmetic.ofNat k / Arithmetic.ofNat points
  let (re, im) := transfer coefficients angle
  ⟨angle * rate / (2.0 * Arithmetic.pi), 20.0 * Arithmetic.log10 (Arithmetic.hypot re im)⟩

def response (coefficients : List α) (rate : α) (points : Nat) : List (ResponsePoint α) :=
  (List.range points).map (responseAt coefficients rate points)

end

def gridSize : Nat := 512

def corner? (response : List (ResponsePoint Float)) : Option Float :=
  (response.find? fun point => point.decibel ≤ -3.0).map ResponsePoint.hertz

def responseTable (response : List (ResponsePoint Float)) : String :=
  "frequency_hz,magnitude_db\n" ++ String.join (response.map fun point =>
    Decimal.plain.text point.hertz ++ "," ++ Decimal.plain.text point.decibel ++ "\n")

end Accelerometer.Signal
