import Accelerometer.Decimal.Nearest

/-!
# Reading a number

The numerals that stand for a double: an optional sign, then decimal digits with an optional point
and an optional exponent, or one of the words for infinity and not-a-number.
-/

namespace Accelerometer.Decimal

def ofDigits (digits : List Char) : Nat :=
  digits.foldl (fun value c => 10 * value + (c.toNat - 0x30)) 0

def spanDigits (text : List Char) : List Char × List Char :=
  text.span fun c => c.isDigit

def takeSign : List Char → Bool × List Char
  | '-' :: rest => (true, rest)
  | '+' :: rest => (false, rest)
  | text => (false, text)

/-- The value nearest to `count * 10 ^ place`, with a sign. Sizes far beyond all doubles are not
computed. -/
def nearest (negative : Bool) (count : Nat) (place : Int) : Binary :=
  let magnitude : Int := place + (Nat.toDigits 10 count).length
  if count = 0 ∨ magnitude < -400 then .finite negative 0 leastExponent
  else if 400 < magnitude then .infinite negative
  else .nearest negative (count * Nat.pow 10 place.toNat) (Nat.pow 10 (-place).toNat)

def named? (negative : Bool) (word : List Char) : Option Binary :=
  if word = "nan".toList then some .nan
  else if word = "inf".toList ∨ word = "infinity".toList then some (.infinite negative)
  else none

def exponentPart? : List Char → Option Int
  | [] => some 0
  | mark :: rest =>
    if mark = 'e' ∨ mark = 'E' then
      let (negative, digits) := takeSign rest
      if digits.isEmpty ∨ !digits.all Char.isDigit then none
      else if negative then some (-(ofDigits digits : Int)) else some (ofDigits digits)
    else none

def inDigits? (negative : Bool) (text : List Char) : Option Binary :=
  let (whole, rest) := spanDigits text
  let (fraction, rest) := match rest with
    | '.' :: rest => spanDigits rest
    | rest => ([], rest)
  if whole.isEmpty ∧ fraction.isEmpty then none
  else (exponentPart? rest).map fun exponent =>
    nearest negative (ofDigits (whole ++ fraction)) (exponent - fraction.length)

def value? (text : List Char) : Option Binary :=
  let (negative, magnitude) := takeSign text
  (named? negative (magnitude.map Char.toLower)).orElse fun _ => inDigits? negative magnitude

def read? (text : List Char) : Option Float :=
  (value? text).map Binary.toFloat

end Accelerometer.Decimal
