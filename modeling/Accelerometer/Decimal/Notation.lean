import Accelerometer.Decimal.Digits

/-!
# Written forms of a number

A `Notation` says how the shortest digits of a double are laid out; `fixed` writes a double with a
given number of places.
-/

namespace Accelerometer.Decimal

inductive Positional
  | always
  | between (least greatest : Int)
  deriving DecidableEq, Repr

structure Layout where
  positional : Positional
  /-- Whether a whole number is written with a fraction of zero. -/
  wholeFraction : Bool
  tie : Tie
  nan : String
  infinity : String
  negativeInfinity : String

def signText (negative : Bool) : List Char :=
  if negative then ['-'] else []

def positionalText (wholeFraction : Bool) (d : Digits) : List Char :=
  let ending := if wholeFraction then ['.', '0'] else []
  if d.digits.isEmpty then '0' :: ending
  else if d.point ≤ 0 then
    ['0', '.'] ++ List.replicate (-d.point).toNat '0' ++ d.digits
  else
    let point := d.point.toNat
    if d.digits.length ≤ point then
      d.digits ++ List.replicate (point - d.digits.length) '0' ++ ending
    else d.digits.take point ++ '.' :: d.digits.drop point

def exponentText (d : Digits) : List Char :=
  let exponent := d.point - 1
  let fraction := d.digits.drop 1
  d.digits.take 1 ++ (if fraction.isEmpty then [] else '.' :: fraction) ++
    'e' :: (if exponent < 0 then '-' else '+') :: Nat.toDigits 10 exponent.natAbs

def Layout.digitsText (layout : Layout) (d : Digits) : List Char :=
  match layout.positional with
  | .always => positionalText layout.wholeFraction d
  | .between least greatest =>
    if d.digits.isEmpty || (least ≤ d.point - 1 && d.point - 1 ≤ greatest) then
      positionalText layout.wholeFraction d
    else exponentText d

def Layout.valueText (layout : Layout) : Binary → String
  | .nan => layout.nan
  | .infinite false => layout.infinity
  | .infinite true => layout.negativeInfinity
  | .finite negative significand exponent =>
    let digits := if significand = 0 then ⟨[], 0⟩ else shortest layout.tie significand exponent
    .ofList (signText negative ++ layout.digitsText digits)

def Layout.text (layout : Layout) (x : Float) : String :=
  layout.valueText (.ofFloat x)

def plain : Layout where
  positional := .always
  wholeFraction := false
  tie := .up
  nan := "NaN"
  infinity := "inf"
  negativeInfinity := "-inf"

def fixedDigits (count places : Nat) : List Char :=
  let written := Nat.toDigits 10 count
  let padded := List.replicate (places + 1 - written.length) '0' ++ written
  let whole := padded.length - places
  padded.take whole ++ (if places = 0 then [] else '.' :: padded.drop whole)

/-- A double with exactly `places` decimals, rounded from its exact value with ties to even. A
result of zero has a sign only if `signedZero`. -/
def fixed (signedZero : Bool) (places : Nat) (x : Float) : String :=
  match Binary.ofFloat x with
  | .nan => plain.nan
  | .infinite false => plain.infinity
  | .infinite true => plain.negativeInfinity
  | .finite negative significand exponent =>
    let count := fixedCount significand exponent places
    .ofList (signText (negative && (signedZero || count != 0)) ++ fixedDigits count places)

end Accelerometer.Decimal
