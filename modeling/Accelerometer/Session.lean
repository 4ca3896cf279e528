import Accelerometer.Journal
import Accelerometer.Sample
import Accelerometer.Storage

/-!
# Recorded sessions

Reading a session back as numbers. Columns are found by the names in the header; a row that does not
give four numbers is skipped and noted down.
-/

namespace Accelerometer

structure Session where
  rows : List Measurement

inductive UnreadableSession
  | unreadable (path : Path) (reason : Refusal)
  | empty (path : Path)
  | missingColumn (path : Path) (column : String)
  deriving DecidableEq, Repr

def UnreadableSession.message : UnreadableSession → String
  | .unreadable path reason =>
    "failed to read session file " ++ path.text ++ ": " ++ reason.message
  | .empty path => "session file " ++ path.text ++ " is empty"
  | .missingColumn path column =>
    "session file " ++ path.text ++ " has no `" ++ column ++ "` column"

def UnreadableSession.causes : UnreadableSession → List String
  | .unreadable _ reason => [reason.message]
  | _ => []

namespace Session

def size (session : Session) : Nat :=
  session.rows.length

def normalizedTimes (session : Session) : List Float :=
  let origin := match session.rows with
    | first :: _ => first.time
    | [] => 0
  session.rows.map fun row => row.time - origin

def column? (names : List (List Char)) (column : String) : Option Nat :=
  names.findIdx? fun name => Text.trim name == column.toList

def columns (header : List Char) : Except String Columns := do
  let names := Csv.split header
  let find (column : String) : Except String Nat :=
    match column? names column with
    | some position => .ok position
    | none => .error column
  return ⟨← find "time", ← find "x", ← find "y", ← find "z"⟩

inductive Line
  | blank
  | row (numbers : Measurement)
  | unreadable

def parseLine (columns : Columns) (line : List Char) : Line :=
  if (Text.trim line).isEmpty then .blank
  else match (Sample.ofRow? columns (Csv.split line)).bind Sample.measurement? with
    | some numbers => .row numbers
    | none => .unreadable

def readLines (path : Path) (columns : Columns) :
    Nat → List (List Char) → List Measurement × List Event
  | _, [] => ([], [])
  | number, line :: lines =>
    let (rows, events) := readLines path columns (number + 1) lines
    match parseLine columns line with
    | .blank => (rows, events)
    | .row numbers => (numbers :: rows, events)
    | .unreadable => (rows, .rowSkipped path number (.ofList line) :: events)

def ofText (path : Path) (text : String) : Except UnreadableSession (Session × List Event) :=
  match Text.lines text.toList with
  | [] => .error (.empty path)
  | header :: lines =>
    match columns header with
    | .error column => .error (.missingColumn path column)
    | .ok columns =>
      let (rows, events) := readLines path columns 2 lines
      .ok (⟨rows⟩, events ++ [.sessionLoaded path rows.length])

def load (storage : Storage) (path : Path) : Except UnreadableSession (Session × List Event) := do
  ofText path (← (storage.readText path).mapError (.unreadable path))

end Session

end Accelerometer
