/-!
# Binary floating point, taken apart

The value of a double as a sign and an exact binary fraction.
-/

namespace Accelerometer.Decimal

/-- What a double stands for: a finite one is `significand * 2 ^ exponent`, with its sign. -/
inductive Binary
  | nan
  | infinite (negative : Bool)
  | finite (negative : Bool) (significand : Nat) (exponent : Int)
  deriving DecidableEq, Repr

def leastExponent : Int := -1074

def hiddenBit : Nat := Nat.pow 2 52

def Binary.ofBits (bits : Nat) : Binary :=
  let negative := bits / Nat.pow 2 63 % 2 == 1
  let power := bits / hiddenBit % 2048
  let fraction := bits % hiddenBit
  if power == 2047 then
    if fraction == 0 then .infinite negative else .nan
  else if power == 0 then .finite negative fraction leastExponent
  else .finite negative (hiddenBit + fraction) (Int.ofNat power - 1075)

def Binary.toBits (value : Binary) : Nat :=
  let signed (negative : Bool) (magnitude : Nat) :=
    if negative then Nat.pow 2 63 + magnitude else magnitude
  match value with
  | .nan => 2047 * hiddenBit + hiddenBit / 2
  | .infinite negative => signed negative (2047 * hiddenBit)
  | .finite negative significand exponent =>
    signed negative ((exponent - leastExponent).toNat * hiddenBit + significand)

def Binary.ofFloat (x : Float) : Binary :=
  .ofBits x.toBits.toNat

def Binary.toFloat (value : Binary) : Float :=
  .ofBits (.ofNat value.toBits)

/--
The exact value of `significand * 2 ^ exponent * 10 ^ places` as a fraction with a positive
denominator.
-/
def scaled (significand : Nat) (exponent places : Int) : Nat × Nat :=
  (significand * Nat.pow 2 exponent.toNat * Nat.pow 10 places.toNat,
    Nat.pow 2 (-exponent).toNat * Nat.pow 10 (-places).toNat)

end Accelerometer.Decimal
