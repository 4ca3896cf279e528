import Accelerometer.Decimal.Notation
import Accelerometer.Journal
import Accelerometer.Signal.Arithmetic
import Accelerometer.Storage

/-!
# Coefficient files

The file of a filter's coefficients: a flat array of numbers, rounded to six decimals.
-/

namespace Accelerometer.Signal

def keptDecimals : Int := 6

def roundedTo (decimals : Int) (coefficients : List Float) : List Float :=
  let scale := Float.powerOfTen decimals
  coefficients.map fun c => Float.roundHalfAway (c * scale) / scale

def coefficientLayout : Decimal.Layout where
  positional := .between (-5) 15
  wholeFraction := true
  tie := .toEven
  nan := "null"
  infinity := "null"
  negativeInfinity := "null"

def coefficientNumbers (coefficients : List Float) : List String :=
  (roundedTo keptDecimals coefficients).map coefficientLayout.text

def coefficientText (coefficients : List Float) : String :=
  "[" ++ ",".intercalate (coefficientNumbers coefficients) ++ "]"

def pieces (coefficients : List Float) : List String :=
  "[" :: ((coefficientNumbers coefficients).intersperse "," ++ ["]"])

def collectedSize : Nat := 8192

/-- Collects one more piece of the given length. What no longer fits goes to the file: the first number
counts the octets that have gone there, the second one those that wait. -/
def collect (size : Nat) : Nat × Nat → Nat → Nat × Nat
  | (handed, waiting), length =>
    let (handed, waiting) :=
      if size < waiting + length then (handed + waiting, 0) else (handed, waiting)
    if size ≤ length then (handed + length, waiting) else (handed, waiting + length)

def handedEarly (coefficients : List Float) : Nat :=
  let lengths := (pieces coefficients).map fun piece => (Storage.octetsOf piece).length
  (lengths.foldl (collect collectedSize) (0, 0)).1

inductive CoefficientError
  | cannotWrite (path : Path) (reason : Refusal)
  | cannotEncode (reason : Refusal)
  deriving DecidableEq, Repr

def CoefficientError.message : CoefficientError → String
  | .cannotWrite path reason => "failed to write " ++ path.text ++ ": " ++ reason.message
  | .cannotEncode reason => "failed to encode coefficients: " ++ reason.message

def CoefficientError.causes : CoefficientError → List String
  | .cannotWrite _ reason | .cannotEncode reason => [reason.message]

/-- Writes a coefficient file. What goes to the file early meets a refusal while the text is still being
encoded. -/
def storeCoefficients (storage : Storage) (path : Path) (coefficients : List Float) :
    Except CoefficientError (Storage × List Event) := do
  let octets := Storage.octetsOf (coefficientText coefficients)
  let early := handedEarly coefficients
  let (handle, storage) ← (storage.create path).mapError (.cannotWrite path)
  let (handle, storage) ← (storage.append handle (octets.take early)).mapError .cannotEncode
  let (_, storage) ← (storage.append handle (octets.drop early)).mapError (.cannotWrite path)
  return (storage, [.coefficientsWritten coefficients.length path])

end Accelerometer.Signal
