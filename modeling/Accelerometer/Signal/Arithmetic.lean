import Accelerometer.Decimal.Rounding
import Accelerometer.Decimal.Binary

/-!
# Arithmetic of filter design

The operations that a filter is designed with. Formulas are written over any arithmetic, in a fixed
order of operations; doubles are one.
-/

namespace Accelerometer.Signal

class Arithmetic (α : Type) extends Zero α, Add α, Sub α, Mul α, Div α, OfScientific α where
  ofNat : Nat → α
  pi : α
  sin : α → α
  cos : α → α
  log10 : α → α
  /-- The length of the hypotenuse over two sides. -/
  hypot : α → α → α
  isZero : α → Bool

def Float.hypotenuse (x y : Float) : Float :=
  if x.isInf ∨ y.isInf then 1.0 / 0.0
  else
    let a := x.abs
    let b := y.abs
    let (great, small) := if a < b then (b, a) else (a, b)
    if great == 0.0 then great + small
    else
      let ratio := small / great
      great * (1.0 + ratio * ratio).sqrt

instance : Arithmetic Float where
  zero := 0.0
  ofNat := Float.ofNat
  pi := 3.141592653589793
  sin := Float.sin
  cos := Float.cos
  log10 := Float.log10
  hypot := Float.hypotenuse
  isZero x := x == 0.0

def Float.roundHalfAway (x : Float) : Float :=
  match Decimal.Binary.ofFloat x with
  | .finite negative significand exponent =>
    if 0 ≤ exponent then x
    else
      let magnitude := Float.ofNat (Decimal.roundDiv .up significand (Nat.pow 2 exponent.natAbs))
      if negative then -magnitude else magnitude
  | _ => x

/-- `base ^ exponent` by repeated squaring: `result` times the power of what is left. -/
def Float.powerFrom (result base : Float) : (fuel exponent : Nat) → Float
  | 0, _ => result
  | fuel + 1, exponent =>
    let result := if exponent % 2 = 1 then result * base else result
    if exponent / 2 = 0 then result
    else powerFrom result (base * base) fuel (exponent / 2)

def Float.powerOfTen (exponent : Int) : Float :=
  let size := exponent.natAbs
  let power := Float.powerFrom 1.0 10.0 (size.log2 + 1) size
  if exponent < 0 then 1.0 / power else power

end Accelerometer.Signal
