import Accelerometer.Text.Lines

/-!
# Rows of comma-separated fields

Writing a row, which quotes the fields that need it, and cutting a row into its fields again.
-/

namespace Accelerometer.Csv

def needsQuotes (field : List Char) : Bool :=
  field.any fun c => c == ',' || c == '"' || Text.isLineEnd c

def quote (field : List Char) : List Char :=
  if needsQuotes field then
    '"' :: field.flatMap (fun c => if c = '"' then ['"', '"'] else [c]) ++ ['"']
  else field

def row (fields : List (List Char)) : List Char :=
  [','].intercalate (fields.map quote)

def extend (c : Char) : List (List Char) → List (List Char)
  | [] => [[c]]
  | field :: fields => (c :: field) :: fields

def splitFrom : Bool → List Char → List (List Char)
  | _, [] => [[]]
  | true, '"' :: '"' :: rest => extend '"' (splitFrom true rest)
  | quoted, c :: rest =>
    if c = '"' then splitFrom (!quoted) rest
    else if c = ',' ∧ !quoted then [] :: splitFrom quoted rest
    else extend c (splitFrom quoted rest)

/-- The fields of a row. A quote opens or ends a quoted stretch, in which a comma is an ordinary
character and two quotes stand for one. -/
def split (row : List Char) : List (List Char) :=
  splitFrom false row

end Accelerometer.Csv
