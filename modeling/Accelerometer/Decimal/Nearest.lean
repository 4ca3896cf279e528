import Accelerometer.Decimal.Binary
import Accelerometer.Decimal.Rounding

/-!
# Rounding to a double

The double nearest to a fraction of natural numbers. From half way between two, the one with an even
significand is taken.
-/

namespace Accelerometer.Decimal

def inUnits (num den : Nat) (exponent : Int) : Nat × Nat :=
  (num * Nat.pow 2 (-exponent).toNat, den * Nat.pow 2 exponent.toNat)

/-- The exponent of the doubles around a fraction: the fraction has at least `2 ^ 52` and less than
`2 ^ 53` of their units, or it lies among the smallest doubles. -/
def exponentOf (num den : Nat) : Int :=
  if num = 0 then leastExponent
  else
    let guess : Int := (num.log2 : Int) - den.log2 - 53
    let (units, one) := inUnits num den guess
    max leastExponent (if units < 2 * hiddenBit * one then guess else guess + 1)

def exponentBound : Int := 972

def Binary.nearest (negative : Bool) (num den : Nat) : Binary :=
  let exponent := exponentOf num den
  let (units, one) := inUnits num den exponent
  let significand := roundDiv .toEven units one
  let (significand, exponent) :=
    if significand = 2 * hiddenBit then (hiddenBit, exponent + 1) else (significand, exponent)
  if exponentBound ≤ exponent then .infinite negative
  else .finite negative significand exponent

end Accelerometer.Decimal
