import Accelerometer.Decimal.Numeral
import Accelerometer.Text.Hex
import Accelerometer.Toml.Blank
import Accelerometer.Toml.Item

/-!
# Numbers, dates and times

The numbers of a document: decimal integers and floats, integers in other bases, and the words for
infinity and not-a-number. Dates and times are recognised beside them.
-/

namespace Accelerometer.Toml

/-! ## Digits -/

def digitRun (isDigit : Char → Bool) : List Char → List Char × List Char
  | '_' :: c :: rest =>
    if isDigit c then
      let (digits, rest) := digitRun isDigit rest
      (c :: digits, rest)
    else ([], '_' :: c :: rest)
  | c :: rest =>
    if isDigit c then
      let (digits, rest) := digitRun isDigit rest
      (c :: digits, rest)
    else ([], c :: rest)
  | [] => ([], [])

def digits? (isDigit : Char → Bool) : Reader (List Char)
  | c :: rest => if isDigit c then some (digitRun isDigit (c :: rest)) else none
  | [] => none

def whole? : Reader (List Char)
  | '0' :: rest => some (['0'], rest)
  | text => digits? Char.isDigit text

/-! ## Numbers -/

def exponent? : Reader Int
  | mark :: rest =>
    if mark = 'e' ∨ mark = 'E' then do
      let (negative, rest) := Decimal.takeSign rest
      let (digits, rest) ← digits? Char.isDigit rest
      let size : Int := Decimal.ofDigits digits
      return (if negative then -size else size, rest)
    else some (0, mark :: rest)
  | [] => some (0, [])

def integerBound : Int := Int.ofNat (Nat.pow 2 63)

def integer? (value : Int) : Option Item :=
  if -integerBound ≤ value ∧ value < integerBound then some (.integer value) else none

def float? : Decimal.Binary → Option Item
  | .infinite false => none
  | value => some (.float value.toFloat)

def special? (negative : Bool) : Reader Item
  | 'i' :: 'n' :: 'f' :: rest => some (.float (Decimal.Binary.infinite negative).toFloat, rest)
  | 'n' :: 'a' :: 'n' :: rest => some (.float Decimal.Binary.nan.toFloat, rest)
  | _ => none

def decimal? (negative : Bool) (text : List Char) : Option (Item × List Char) := do
  let (whole, rest) ← whole? text
  match rest with
  | '.' :: rest =>
    let (fraction, rest) ← digits? Char.isDigit rest
    let (exponent, rest) ← exponent? rest
    let count := Decimal.ofDigits (whole ++ fraction)
    return (← float? (Decimal.nearest negative count (exponent - fraction.length)), rest)
  | mark :: _ =>
    if mark = 'e' ∨ mark = 'E' then
      let (exponent, rest) ← exponent? rest
      return (← float? (Decimal.nearest negative (Decimal.ofDigits whole) exponent), rest)
    else
      let size : Int := Decimal.ofDigits whole
      return (← integer? (if negative then -size else size), rest)
  | [] =>
    let size : Int := Decimal.ofDigits whole
    return (← integer? (if negative then -size else size), [])

def based? (base : Nat) (text : List Char) : Option (Item × List Char) := do
  let valueOf (c : Char) := (Text.hexValue? c).filter (· < base)
  let (digits, rest) ← digits? (fun c => (valueOf c).isSome) text
  let value := digits.foldl (fun value c => base * value + (valueOf c).getD 0) 0
  return (← integer? value, rest)

def number? : Reader Item
  | '0' :: 'x' :: rest => based? 16 rest
  | '0' :: 'o' :: rest => based? 8 rest
  | '0' :: 'b' :: rest => based? 2 rest
  | '-' :: rest => (special? true rest).or (decimal? true rest)
  | '+' :: rest => (special? false rest).or (decimal? false rest)
  | text => (special? false text).or (decimal? false text)

/-! ## Dates and times -/

def field? (width least greatest : Nat) (text : List Char) : Option (Nat × List Char) :=
  let digits := text.take width
  let value := Decimal.ofDigits digits
  if digits.length = width ∧ digits.all Char.isDigit ∧ least ≤ value ∧ value ≤ greatest then
    some (value, text.drop width)
  else none

def mark? (c : Char) : List Char → Option (List Char)
  | d :: rest => if d = c then some rest else none
  | [] => none

def daysIn (year month : Nat) : Nat :=
  if month = 2 then
    if year % 4 = 0 ∧ (year % 100 ≠ 0 ∨ year % 400 = 0) then 29 else 28
  else if month = 4 ∨ month = 6 ∨ month = 9 ∨ month = 11 then 30
  else 31

def date? (text : List Char) : Option (List Char) := do
  let (year, rest) ← field? 4 0 9999 text
  let (month, rest) ← field? 2 1 12 (← mark? '-' rest)
  let (_, rest) ← field? 2 1 (daysIn year month) (← mark? '-' rest)
  return rest

def time? (text : List Char) : Option (List Char) := do
  let (_, rest) ← field? 2 0 23 text
  let (_, rest) ← field? 2 0 59 (← mark? ':' rest)
  let (_, rest) ← field? 2 0 60 (← mark? ':' rest)
  match rest with
  | '.' :: c :: more => return if c.isDigit then more.dropWhile Char.isDigit else rest
  | rest => return rest

def offset? : List Char → Option (List Char)
  | c :: rest =>
    if c = 'Z' ∨ c = 'z' then some rest
    else if c = '+' ∨ c = '-' then do
      let (_, rest) ← field? 2 0 23 rest
      let (_, rest) ← field? 2 0 59 (← mark? ':' rest)
      return rest
    else none
  | [] => none

def dateTime? (text : List Char) : Option (Item × List Char) :=
  match date? text with
  | some afterDate =>
    let afterTime := match afterDate with
      | c :: rest => if c = 'T' ∨ c = 't' ∨ c = ' ' then time? rest else none
      | [] => none
    match afterTime with
    | some rest => some (.dateTime, (offset? rest).getD rest)
    | none => some (.dateTime, afterDate)
  | none => (time? text).map fun rest => (.dateTime, rest)

end Accelerometer.Toml
