import Accelerometer.Csv.Row
import Accelerometer.Decimal.Numeral
import Accelerometer.Text.Blank

/-!
# Samples

A sample is one record of the accelerometer: the four words of a line, kept as they were sent. It
is written as a row of a session, and has a numeric view if its four fields are numerals.
-/

namespace Accelerometer

structure Sample where
  time : String
  x : String
  y : String
  z : String
  deriving DecidableEq, Repr

structure Malformed where
  words : Nat
  deriving DecidableEq, Repr

structure Measurement where
  time : Float
  x : Float
  y : Float
  z : Float

structure Columns where
  time : Nat
  x : Nat
  y : Nat
  z : Nat
  deriving DecidableEq, Repr

namespace Sample

def columnNames : List String :=
  ["time", "x", "y", "z"]

def header : String :=
  ",".intercalate columnNames ++ "\n"

def parse (line : List Char) : Except Malformed Sample :=
  match Text.words line with
  | [time, x, y, z] => .ok ⟨.ofList time, .ofList x, .ofList y, .ofList z⟩
  | words => .error ⟨words.length⟩

def fields (sample : Sample) : List String :=
  [sample.time, sample.x, sample.y, sample.z]

def row (sample : Sample) : String :=
  .ofList (Csv.row (sample.fields.map String.toList) ++ ['\n'])

def ofRow? (columns : Columns) (row : List (List Char)) : Option Sample := do
  let field (position : Nat) := row[position]?.map fun text => String.ofList (Text.trim text)
  return ⟨← field columns.time, ← field columns.x, ← field columns.y, ← field columns.z⟩

def measurement? (sample : Sample) : Option Measurement := do
  let number (field : String) := Decimal.read? field.toList
  return ⟨← number sample.time, ← number sample.x, ← number sample.y, ← number sample.z⟩

end Sample

end Accelerometer
