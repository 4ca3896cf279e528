import Accelerometer.Proofs.Csv.RoundTrip
import Accelerometer.Proofs.Storage.Contents
import Accelerometer.Proofs.Text.Words
import Accelerometer.Session

/-!
# Rows of a session

Whatever the lines of a session file are, each is read by itself, and what gives no row is accounted for.

* `numbersIn_blank`: a blank line gives no row.
* `readLines_eq`: the rows of some lines, and the events about the lines that are skipped.
* `load_lines`: a file, by its lines.
* `rows_stay_local`: what a file gives, from what its parts give.
-/

namespace Accelerometer.Proofs.Session
open Accelerometer.Session Accelerometer.Storage Proofs.Csv Proofs.Storage Proofs.Text

variable {storage : Storage} {path : Path} {columns : Columns} {line header : List Char}
  {lines : List (List Char)}

def numbersIn (columns : Columns) (line : List Char) : Option Measurement :=
  (Sample.ofRow? columns (Csv.split line)).bind Sample.measurement?

def IsSkipped (columns : Columns) (line : List Char) : Prop :=
  Text.trim line ≠ [] ∧ numbersIn columns line = none

instance (columns : Columns) : DecidablePred (IsSkipped columns) := fun line =>
  decidable_of_iff (Text.trim line ≠ [] ∧ (numbersIn columns line).isNone)
    (and_congr_right fun _ => Option.isNone_iff_eq_none)

def skippedLines (path : Path) (columns : Columns) (lines : List (List Char × Nat)) : List Event :=
  (lines.filter fun line => IsSkipped columns line.1).map fun line =>
    .rowSkipped path line.2 (.ofList line.1)

def columnsOf (session : Session) : List (List Float) :=
  [session.rows.map Measurement.time, session.rows.map Measurement.x, session.rows.map Measurement.y,
    session.rows.map Measurement.z]

def HoldsLines (storage : Storage) (path : Path) (lines : List (List Char)) : Prop :=
  ∃ text, storage.readText path = .ok text ∧ Text.lines text.toList = lines

/-! ## One line -/

theorem measurement?_time {sample : Sample} (empty : sample.time = "") : sample.measurement? = none := by
  have none : Decimal.read? sample.time.toList = none := by
    rw [empty]
    rfl
  simp [Sample.measurement?, none]

theorem numbersIn_blank (columns : Columns) (blank : Text.trim line = []) :
    numbersIn columns line = none := by
  have blank := trim_eq_nil.mp blank
  have empty : ∀ field ∈ Csv.split line, Text.trim field = [] := by
    intro field member
    exact trim_eq_nil.mpr fun c inside => blank c (mem_splitFrom member c inside)
  rw [numbersIn, Option.bind_eq_none_iff]
  intro sample isRow
  apply measurement?_time
  simp only [Sample.ofRow?, Option.bind_eq_bind, Option.bind_eq_some_iff, Option.map_eq_some_iff]
    at isRow
  obtain ⟨time, ⟨field, found, rfl⟩, x, -, y, -, z, -, made⟩ := isRow
  obtain rfl := Option.some.inj made
  rw [empty field (List.mem_of_getElem? found)]

theorem parseLine_eq (columns : Columns) (line : List Char) :
    parseLine columns line =
      match numbersIn columns line with
      | some numbers => .row numbers
      | none => if IsSkipped columns line then .unreadable else .blank := by
  by_cases blank : Text.trim line = []
  · have notSkipped : ¬IsSkipped columns line := fun skipped => skipped.1 blank
    simp [parseLine, blank, numbersIn_blank columns blank, notSkipped]
  · have notBlank : (Text.trim line).isEmpty = false := List.isEmpty_eq_false_iff.mpr blank
    cases numbers : numbersIn columns line with
    | none =>
        have skipped : IsSkipped columns line := ⟨blank, numbers⟩
        rw [numbersIn] at numbers
        simp [parseLine, notBlank, numbers, skipped]
    | some numbers' =>
        rw [numbersIn] at numbers
        simp [parseLine, notBlank, numbers]

/-! ## All lines -/

theorem skippedLines_cons (path : Path) (columns : Columns) (line : List Char) (number : Nat)
    (lines : List (List Char × Nat)) :
    skippedLines path columns ((line, number) :: lines) =
      if IsSkipped columns line then
        .rowSkipped path number (.ofList line) :: skippedLines path columns lines
      else skippedLines path columns lines := by
  by_cases skipped : IsSkipped columns line <;> simp [skippedLines, skipped]

theorem warnings_skippedLines (path : Path) (columns : Columns) (lines : List (List Char × Nat)) :
    ((skippedLines path columns lines).filter fun event => event.level = .warning) =
      skippedLines path columns lines := by
  rw [List.filter_eq_self]
  intro event member
  obtain ⟨line, -, rfl⟩ := List.mem_map.mp member
  rfl

theorem readLines_eq (path : Path) (columns : Columns) (number : Nat) (lines : List (List Char)) :
    readLines path columns number lines =
      (lines.filterMap (numbersIn columns), skippedLines path columns (lines.zipIdx number)) := by
  induction lines generalizing number with
  | nil => rfl
  | cons line lines ih =>
      rw [readLines, ih (number + 1), parseLine_eq, List.zipIdx_cons, skippedLines_cons]
      cases numbers : numbersIn columns line with
      | some numbers' =>
          have read : ¬IsSkipped columns line := fun skipped => by simp [skipped.2] at numbers
          simp [numbers, read]
      | none =>
          by_cases skipped : IsSkipped columns line <;> simp [numbers, skipped]

theorem load_lines (held : HoldsLines storage path (header :: lines))
    (located : Session.columns header = .ok columns) :
    load storage path =
      .ok (⟨lines.filterMap (numbersIn columns)⟩, skippedLines path columns (lines.zipIdx 2) ++
        [.sessionLoaded path (lines.filterMap (numbersIn columns)).length]) := by
  obtain ⟨text, read, cut⟩ := held
  rw [load, read]
  simp only [Except.mapError, bind, Except.bind, ofText, cut, located, readLines_eq]

/-- A file with two blocks of lines below its header gives, in each column, what the file with the first
block gives, followed by what the file with the second block gives. No line has a part in what another
line is read as, each has one row at most, and of those that have none there is a warning in the order
of the file, with the number of the line and all its characters, unless the line is blank. -/
theorem rows_stay_local (header : List Char) (above below : List (List Char)) (columns : Columns)
    (located : Session.columns header = .ok columns) (whole upper lower : Storage) (path : Path)
    (held : HoldsLines whole path (header :: (above ++ below)))
    (heldAbove : HoldsLines upper path (header :: above))
    (heldBelow : HoldsLines lower path (header :: below)) :
    ∃ session first second events events' events'',
      load whole path = .ok (session, events) ∧ load upper path = .ok (first, events') ∧
      load lower path = .ok (second, events'') ∧
      columnsOf session = List.zipWith (· ++ ·) (columnsOf first) (columnsOf second) ∧
      (∀ column ∈ columnsOf session, column.length = session.size) ∧
      session.rows = (above ++ below).filterMap (numbersIn columns) ∧
      events = skippedLines path columns ((header :: (above ++ below)).zipIdx 1).tail ++
        [.sessionLoaded path session.size] ∧
      (events.filter fun event => event.level = .warning) =
        skippedLines path columns ((header :: (above ++ below)).zipIdx 1).tail := by
  refine ⟨_, _, _, _, _, _, load_lines held located, load_lines heldAbove located,
    load_lines heldBelow located, ?_, ?_, rfl, rfl, ?_⟩
  · simp [columnsOf]
  · simp [columnsOf, Session.size]
  · rw [List.filter_append, warnings_skippedLines]
    exact List.append_nil _

def crookedRows : Storage :=
  filled emptyStorage ["run.csv"] (octetsOf "x,time,y,z\n1,\"2,3,4\n1,2,3,4\n \n5,6\n5,6,7,8\n")

def crookedUpper : Storage :=
  filled emptyStorage ["run.csv"] (octetsOf "x,time,y,z\n1,\"2,3,4\n1,2,3,4\n")

def crookedLower : Storage :=
  filled emptyStorage ["run.csv"] (octetsOf "x,time,y,z\n \n5,6\n5,6,7,8\n")

set_option maxRecDepth 1000 in
theorem crookedRows_local :
    ∃ session events, load crookedRows ⟨"run.csv"⟩ = .ok (session, events) ∧
      columnsOf session = [[2, 6], [1, 5], [3, 7], [4, 8]] ∧
      events = [.rowSkipped ⟨"run.csv"⟩ 2 "1,\"2,3,4", .rowSkipped ⟨"run.csv"⟩ 5 "5,6",
        .sessionLoaded ⟨"run.csv"⟩ 2] := by
  have located : Session.columns "x,time,y,z".toList = .ok ⟨1, 0, 2, 3⟩ := by decide
  have whole : HoldsLines crookedRows ⟨"run.csv"⟩ ("x,time,y,z".toList ::
      (["1,\"2,3,4".toList, "1,2,3,4".toList] ++ [" ".toList, "5,6".toList, "5,6,7,8".toList])) :=
    ⟨_, rfl, by decide⟩
  have upper : HoldsLines crookedUpper ⟨"run.csv"⟩ ("x,time,y,z".toList ::
      ["1,\"2,3,4".toList, "1,2,3,4".toList]) := ⟨_, rfl, by decide⟩
  have lower : HoldsLines crookedLower ⟨"run.csv"⟩ ("x,time,y,z".toList ::
      [" ".toList, "5,6".toList, "5,6,7,8".toList]) := ⟨_, rfl, by decide⟩
  obtain ⟨session, first, second, events, -, -, loads, -, -, -, -, read, noted, -⟩ :=
    rows_stay_local _ _ _ _ located _ _ _ _ whole upper lower
  have rows : session.rows = [⟨2, 1, 3, 4⟩, ⟨6, 5, 7, 8⟩] := read
  refine ⟨session, events, loads, ?_, ?_⟩
  · rw [columnsOf, rows]
    rfl
  · rw [noted, Session.size, rows]
    rfl

end Accelerometer.Proofs.Session
