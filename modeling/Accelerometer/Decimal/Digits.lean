import Accelerometer.Decimal.Binary
import Accelerometer.Decimal.Rounding

/-!
# Decimal digits of a double

Two choices of digits for a finite positive double: the fewest that read back as the same double,
and all of them down to a fixed place.
-/

namespace Accelerometer.Decimal

structure Digits where
  digits : List Char
  point : Int
  deriving DecidableEq, Repr

def Digits.ofGrid (count : Nat) (place : Int) : Digits :=
  let written := Nat.toDigits 10 count
  ⟨(written.reverse.dropWhile (· == '0')).reverse, place + written.length⟩

def compareGrid (count : Nat) (place : Int) (significand : Nat) (exponent : Int) : Ordering :=
  compare (count * Nat.pow 10 place.toNat * Nat.pow 2 (-exponent).toNat)
    (significand * Nat.pow 2 exponent.toNat * Nat.pow 10 (-place).toNat)

/-- Whether reading the decimal `count * 10 ^ place` gives the double
`significand * 2 ^ exponent`. Half the gap to each neighbour belongs to it, the very middle only if
its significand is even. -/
def readsBack (significand : Nat) (exponent : Int) (count : Nat) (place : Int) : Bool :=
  let narrow := significand == hiddenBit && exponent != leastExponent
  let low := if narrow then 4 * significand - 1 else 4 * significand - 2
  let above := compareGrid count place low (exponent - 2)
  let below := compareGrid count place (4 * significand + 2) (exponent - 2)
  if significand % 2 == 0 then above != .lt && below != .gt else above == .gt && below == .lt

def leadingPlace (significand : Nat) (exponent : Int) : Int :=
  let guess := ((significand.log2 : Int) + exponent) * 30103 / 100000
  if compareGrid 1 (guess + 1) significand exponent != .gt then guess + 1
  else if compareGrid 1 guess significand exponent == .gt then guess - 1
  else guess

def gridPoint? (tie : Tie) (significand : Nat) (exponent place : Int) : Option Nat :=
  let (num, den) := scaled significand exponent (-place)
  let lower := num / den
  match readsBack significand exponent lower place,
      readsBack significand exponent (lower + 1) place with
  | true, true => some (roundDiv tie num den)
  | true, false => some lower
  | false, true => some (lower + 1)
  | false, false => none

def maxDigits : Nat := 17

def shortest (tie : Tie) (significand : Nat) (exponent : Int) : Digits :=
  let leading := leadingPlace significand exponent
  let found := (List.range maxDigits).findSome? fun (more : Nat) =>
    let place := leading - more
    (gridPoint? tie significand exponent place).map fun count => Digits.ofGrid count place
  found.getD ⟨[], 0⟩

def fixedCount (significand : Nat) (exponent : Int) (places : Nat) : Nat :=
  let (num, den) := scaled significand exponent places
  roundDiv .toEven num den

end Accelerometer.Decimal
