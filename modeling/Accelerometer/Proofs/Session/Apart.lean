import Accelerometer.Proofs.Session.ReadBack
import Accelerometer.Proofs.Session.Rows

/-!
# Samples are read back apart from each other

A session is read line by line, and the row of a sample takes up lines of its own. So whatever the
fields of a sample hold, they do not change how another sample is read; and a sample without line feeds
gives its own numbers or none.

* `writeAll_written`: any samples can be written, as long as there is room for them.
* `ofText_rows`: what a session of any samples is read as.
* `readBack_single`: what one sample gives.
* `samples_read_apart`: both together.
* `lineFeeds_misread`: a line feed in a field loses one sample and makes up another.
-/

namespace Accelerometer.Proofs.Session
open Accelerometer.Session Accelerometer.Storage Proofs.Csv Proofs.Storage Proofs.Text

variable {sample : Sample} {samples : List Sample} {storage opened : Storage} {output : Path}
  {file : SessionFile}

def writeAll (storage : Storage) (output : Path) (samples : List Sample) :
    Except CaptureError (SessionFile × Storage) := do
  samples.foldlM (fun (file, storage) sample => file.write storage sample)
    (← SessionFile.create storage output)

def rowLines (sample : Sample) : List (List Char) :=
  ((rowText sample).splitOn '\n').map Text.dropReturn

def numbers? : Line → Option Measurement
  | .row numbers => some numbers
  | _ => none

def readBack (sample : Sample) : List Measurement :=
  (rowLines sample).filterMap fun line => numbers? (parseLine ⟨0, 1, 2, 3⟩ line)

def SingleLine (sample : Sample) : Prop :=
  ∀ field ∈ sample.fields, '\n' ∉ field.toList

instance : DecidablePred SingleLine := fun sample =>
  inferInstanceAs (Decidable (∀ field ∈ sample.fields, '\n' ∉ field.toList))

/-! ## Writing -/

theorem foldlM_written {before : List Sample} (samples : List Sample)
    (written : Written storage output before file opened)
    (takes : Takes storage output (sessionSize (before ++ samples))) :
    ∃ file' after, samples.foldlM (fun (file, storage) sample => file.write storage sample)
        (file, opened) = .ok (file', after) ∧
      Written storage output (before ++ samples) file' after := by
  induction samples generalizing before file opened with
  | nil => exact ⟨file, opened, rfl, by rwa [List.append_nil]⟩
  | cons sample samples ih =>
      rw [List.append_cons] at takes
      obtain ⟨file', after, wrote, written'⟩ :=
        write_written written sample (takes.mono (le_sessionSize_append _ samples))
      obtain ⟨last, final, others, written''⟩ := ih written' takes
      refine ⟨last, final, ?_, by rwa [List.append_assoc] at written''⟩
      simp only [List.foldlM_cons, wrote]
      exact others

theorem writeAll_written (samples : List Sample)
    (takes : Takes storage output (sessionSize samples)) :
    ∃ file after, writeAll storage output samples = .ok (file, after) ∧
      Written storage output samples file after := by
  obtain ⟨file, opened, created⟩ := create_takes (takes.mono (le_sessionSize_append [] samples))
  obtain ⟨file', after, wrote, written⟩ := foldlM_written samples (create_written created) takes
  refine ⟨file', after, ?_, written⟩
  rw [writeAll, created]
  exact wrote

/-! ## Reading -/

theorem numbers?_parseLine (columns : Columns) (line : List Char) :
    numbers? (parseLine columns line) = numbersIn columns line := by
  rw [parseLine_eq]
  cases numbersIn columns line with
  | some numbers => rfl
  | none =>
      dsimp only
      split <;> rfl

theorem lines_sessionText (samples : List Sample) :
    Text.lines (sessionText samples).toList = "time,x,y,z".toList :: samples.flatMap rowLines := by
  rw [sessionText_toList, lines_rows, List.flatMap_cons, List.flatMap_map]
  rfl

theorem ofText_rows (path : Path) (samples : List Sample) :
    ∃ events, ofText path (sessionText samples) = .ok (⟨samples.flatMap readBack⟩, events) := by
  have rows : ∀ number, (readLines path ⟨0, 1, 2, 3⟩ number (samples.flatMap rowLines)).1 =
      samples.flatMap readBack := by
    intro number
    simp only [readLines_eq, ← numbers?_parseLine, List.filterMap_flatMap]
    rfl
  simp only [ofText, lines_sessionText, columns_header, rows]
  exact ⟨_, rfl⟩

theorem rowLines_single (single : SingleLine sample) : rowLines sample = [rowText sample] := by
  have feed : '\n' ∉ rowText sample := by
    intro inside
    rcases mem_row inside with comma | quote | ⟨field, member, character⟩
    · cases comma
    · cases quote
    · obtain ⟨field, isField, rfl⟩ := List.mem_map.mp member
      exact single field isField character
  have last : (rowText sample).getLast? ≠ some '\r' := getLast?_row _
  rw [rowLines, List.splitOn_eq_singleton feed, List.map_singleton, Text.dropReturn, if_neg last]

theorem readBack_single (single : SingleLine sample) :
    readBack sample = (trimmed sample).measurement?.toList := by
  rw [readBack, rowLines_single single, List.filterMap_cons, parseLine_rowText]
  cases (trimmed sample).measurement? <;> rfl

/-- Whatever the fields of some samples hold, all can be written where there is room for them, and loading
the file gives for each sample in turn what its own row is read back as. For a sample without line feeds,
that is the numbers in its fields, or nothing if they are not four numerals. -/
theorem samples_read_apart (storage : Storage) (output : Path) (samples : List Sample)
    (takes : Takes storage output (sessionSize samples)) (noSink : ¬SinkAt storage output) :
    ∃ file after events, writeAll storage output samples = .ok (file, after) ∧
      load after output = .ok (⟨samples.flatMap readBack⟩, events) ∧
      (∀ sample ∈ samples, SingleLine sample →
        readBack sample = (trimmed sample).measurement?.toList) ∧
      ((∀ sample ∈ samples, SingleLine sample) →
        samples.flatMap readBack = samples.filterMap fun sample => (trimmed sample).measurement?) := by
  obtain ⟨file, after, wrote, written⟩ := writeAll_written samples takes
  obtain ⟨events, read⟩ := ofText_rows output samples
  have held := (holds_of_written written).1 noSink
  refine ⟨file, after, events, wrote, ?_, fun sample _ single => readBack_single single, ?_⟩
  · rw [load, readText_of_octets held]
    exact read
  · intro single
    rw [List.flatMap_congr fun sample member => readBack_single (single sample member)]
    exact (List.filterMap_eq_flatMap_toList _ _).symm

def oddFields : List Sample :=
  [⟨"1", " 1 ", "1\r", "1"⟩, ⟨"1,5", "\"2\"", "", "4"⟩]

theorem oddFields_read_apart :
    Takes emptyStorage ⟨"run.csv"⟩ (sessionSize oddFields) ∧
    ∃ file after events, writeAll emptyStorage ⟨"run.csv"⟩ oddFields = .ok (file, after) ∧
      load after ⟨"run.csv"⟩ = .ok (⟨[⟨1, 1, 1, 1⟩]⟩, events) := by
  have opens : Opens emptyStorage ⟨"run.csv"⟩ ["run.csv"] := emptyStorage_opens rfl (by decide)
  have takes := (emptyStorage_roomy opens).takes (sessionSize oddFields)
  obtain ⟨file, after, events, wrote, loads, -, rows⟩ :=
    samples_read_apart _ _ oddFields takes (emptyStorage_noSink _)
  have single : ∀ sample ∈ oddFields, SingleLine sample := by decide
  rw [rows single] at loads
  exact ⟨takes, file, after, events, wrote, loads⟩

def lineFeeds : List Sample :=
  [⟨"5\n", "2", "3", "4"⟩, ⟨"0\n1,1,1,1\n0", "y", "y", "y"⟩]

theorem lineFeeds_misread :
    ¬∀ storage output samples opened file after session events,
      SessionFile.create storage output = .ok opened → ¬SinkAt storage output →
      writeAll storage output samples = .ok (file, after) →
      load after output = .ok (session, events) →
      session.rows = samples.filterMap fun sample => (trimmed sample).measurement? := by
  intro apart
  obtain ⟨opened, created⟩ : ∃ opened,
      SessionFile.create emptyStorage ⟨"run.csv"⟩ = .ok opened := ⟨_, rfl⟩
  have noSink := emptyStorage_noSink ⟨"run.csv"⟩
  have opens : Opens emptyStorage ⟨"run.csv"⟩ ["run.csv"] := emptyStorage_opens rfl (by decide)
  obtain ⟨file, after, events, wrote, loads, -⟩ :=
    samples_read_apart _ _ lineFeeds ((emptyStorage_roomy opens).takes _) noSink
  have read : lineFeeds.flatMap readBack = [⟨1, 1, 1, 1⟩] := rfl
  have asked : lineFeeds.filterMap (fun sample => (trimmed sample).measurement?) =
      [⟨5, 2, 3, 4⟩] := rfl
  have same := apart _ _ _ _ _ _ _ _ created noSink wrote loads
  rw [asked] at same
  have times : (1 : Float) = 5 := congrArg Measurement.time (List.cons.inj (read.symm.trans same)).1
  exact absurd (congrArg Float.toBits times) (by decide)

end Accelerometer.Proofs.Session
