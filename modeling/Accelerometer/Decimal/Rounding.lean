/-!
# Rounding a quotient

Rounding of a fraction of natural numbers to a whole number, with a rule for the case that lies
exactly between two.
-/

namespace Accelerometer.Decimal

inductive Tie
  | toEven
  | up
  deriving DecidableEq, Repr

def roundDiv (tie : Tie) (num den : Nat) : Nat :=
  let whole := num / den
  let twice := 2 * (num % den)
  if twice < den then whole
  else if den < twice then whole + 1
  else match tie with
    | .toEven => whole + whole % 2
    | .up => whole + 1

end Accelerometer.Decimal
