import Accelerometer.Proofs.Storage.Places
import Accelerometer.Session.File

/-!
# Sessions as they are written

A session file that some samples were written to holds the header and their rows, whatever it held
before.
-/

namespace Accelerometer.Proofs.Session
open Accelerometer.Storage Proofs.Storage

variable {storage opened : Storage} {output : Path} {file : SessionFile} {samples : List Sample}

def sessionText (samples : List Sample) : String :=
  Sample.header ++ String.join (samples.map Sample.row)

def sessionSize (samples : List Sample) : Nat :=
  (octetsOf (sessionText samples)).length

/-- An open session file with the rows of some samples. The tree was `storage` before the file was
made. -/
structure Written (storage : Storage) (output : Path) (samples : List Sample) (file : SessionFile)
    (after : Storage) : Prop where
  opens : Opens storage output file.handle.location
  fits : Fits storage file.handle.location (sessionSize samples)
  path : file.path = output
  offset : file.handle.offset = sessionSize samples
  rows : file.rows = samples.length
  storage_eq : after = filled storage file.handle.location (octetsOf (sessionText samples))

/-- The session of the samples stands at a path, with nothing else in the file. A sink keeps nothing
of it. -/
def Holds (storage : Storage) (output : Path) (samples : List Sample) (after : Storage) : Prop :=
  (¬SinkAt storage output → after.readOctets output = .ok (octetsOf (sessionText samples))) ∧
  (SinkAt storage output → after = storage)

theorem row_octets (sample : Sample) : octetsOf sample.row ≠ [] :=
  octetsOf_ne_nil (by simp [Sample.row])

@[simp] theorem sessionText_nil : sessionText [] = Sample.header := by
  simp [sessionText]

theorem sessionText_append (samples : List Sample) (sample : Sample) :
    sessionText (samples ++ [sample]) = sessionText samples ++ sample.row := by
  simp [sessionText, String.join_append, String.append_assoc]

theorem sessionSize_append (samples more : List Sample) :
    sessionSize (samples ++ more) =
      sessionSize samples + (octetsOf (String.join (more.map Sample.row))).length := by
  simp only [sessionSize, sessionText, List.map_append, String.join_append, octetsOf_append,
    List.length_append, Nat.add_assoc]

theorem le_sessionSize_append (samples more : List Sample) :
    sessionSize samples ≤ sessionSize (samples ++ more) :=
  sessionSize_append samples more ▸ Nat.le_add_right ..

theorem sessionSize_append_le (samples more : List Sample) :
    sessionSize (samples ++ more) ≤ sessionSize samples + sessionSize more := by
  rw [sessionSize_append]
  refine Nat.add_le_add_left ?_ _
  rw [sessionSize, sessionText, octetsOf_append, List.length_append]
  exact Nat.le_add_left ..

/-! ## Making a session file and writing to it -/

theorem create_written (created : SessionFile.create storage output = .ok (file, opened)) :
    Written storage output [] file opened := by
  unfold SessionFile.create at created
  cases made : storage.create output with
  | error refusal => simp [made, bind, Except.bind, Except.mapError] at created
  | ok pair =>
      obtain ⟨⟨location, offset⟩, empty⟩ := pair
      obtain ⟨opens, rfl, rfl⟩ := create_ok made
      simp only [made, bind, Except.bind, Except.mapError, append_created] at created
      cases refused : storage.refusal? ⟨location, 0⟩ (octetsOf Sample.header) with
      | some reason =>
          rw [refused] at created
          cases created
      | none =>
          rw [refused] at created
          obtain ⟨rfl, rfl⟩ := Prod.mk.inj (Except.ok.inj created)
          rw [created_refusal_none, ← sessionText_nil] at refused
          exact ⟨opens, refused, rfl, by simp [sessionSize], rfl, by simp⟩

theorem create_error {error : CaptureError} (failed : SessionFile.create storage output = .error error) :
    ∃ reason, error = .cannotWrite output reason ∧
      (storage.create output = .error reason ∨ Refuses storage output (sessionSize []) reason) := by
  unfold SessionFile.create at failed
  cases made : storage.create output with
  | error refusal =>
      rw [made] at failed
      exact ⟨refusal, (Except.error.inj failed).symm, .inl rfl⟩
  | ok pair =>
      obtain ⟨⟨location, offset⟩, empty⟩ := pair
      obtain ⟨opens, rfl, rfl⟩ := create_ok made
      simp only [made, bind, Except.bind, Except.mapError, append_created] at failed
      cases refused : storage.refusal? ⟨location, 0⟩ (octetsOf Sample.header) with
      | none => simp [refused, pure, Except.pure] at failed
      | some reason =>
          rw [refused] at failed
          rw [created_refusal_some, ← sessionText_nil] at refused
          exact ⟨reason, (Except.error.inj failed).symm, .inr ((refuses_iff opens).mpr refused)⟩

theorem create_takes (takes : Takes storage output (sessionSize [])) :
    ∃ file opened, SessionFile.create storage output = .ok (file, opened) := by
  cases created : SessionFile.create storage output with
  | ok opened => exact ⟨opened.1, opened.2, rfl⟩
  | error error =>
      obtain ⟨reason, -, closed | refused⟩ := create_error created
      · obtain ⟨location, opens, -⟩ := takes
        exact absurd closed (not_closed opens)
      · exact absurd refused (not_refused_of_takes takes reason)

theorem takes_of_created (created : SessionFile.create storage output = .ok (file, opened)) :
    Takes storage output (sessionSize []) :=
  have written := create_written created
  ⟨file.handle.location, written.opens, written.fits⟩

theorem appended_row (written : Written storage output samples file opened) (sample : Sample) :
    opened.appended file.handle (octetsOf sample.row) =
      filled storage file.handle.location (octetsOf (sessionText (samples ++ [sample]))) := by
  obtain ⟨path, ⟨location, offset⟩, rows⟩ := file
  obtain ⟨opens, fits, rfl, rfl, rfl, rfl⟩ := written
  rw [sessionText_append, octetsOf_append]
  exact appended_behind fits (octetsOf sample.row)

theorem write_ways (written : Written storage output samples file opened) (sample : Sample) :
    (∃ file' after, file.write opened sample = .ok (file', after) ∧
      Written storage output (samples ++ [sample]) file' after) ∨
    ∃ reason, file.write opened sample = .error (.cannotWrite output reason) ∧
      Refuses storage output (sessionSize (samples ++ [sample])) reason := by
  obtain ⟨path, ⟨location, offset⟩, rows⟩ := file
  obtain ⟨opens, fits, rfl, rfl, rfl, rfl⟩ := written
  have size : sessionSize (samples ++ [sample]) =
      sessionSize samples + (octetsOf sample.row).length := by
    simpa using sessionSize_append samples [sample]
  have appended : (filled storage location (octetsOf (sessionText samples))).append
      ⟨location, sessionSize samples⟩ (octetsOf sample.row) = _ := append_behind fits _
  rw [← octetsOf_append, ← sessionText_append] at appended
  simp only [SessionFile.write, appended]
  cases refused : storage.refusal? ⟨location, sessionSize samples⟩ (octetsOf sample.row) with
  | some reason =>
      obtain ⟨-, most, bound, beyond⟩ := refusal?_eq_some.mp refused
      rw [← size] at beyond
      refine .inr ⟨reason, ?_, location, most, opens, bound, beyond⟩
      rw [sessionSize] at refused
      rw [refused]
      rfl
  | none =>
      have room := (refusal?_eq_none.mp refused).resolve_left (row_octets sample)
      rw [← size] at room
      refine .inl ⟨⟨path, ⟨location, sessionSize (samples ++ [sample])⟩, samples.length + 1⟩, _, ?_,
        opens, room, rfl, rfl, by simp, rfl⟩
      rw [sessionSize] at refused
      rw [refused]
      rfl

theorem write_written (written : Written storage output samples file opened) (sample : Sample)
    (takes : Takes storage output (sessionSize (samples ++ [sample]))) :
    ∃ file' after, file.write opened sample = .ok (file', after) ∧
      Written storage output (samples ++ [sample]) file' after :=
  (write_ways written sample).resolve_right fun ⟨reason, _, refused⟩ =>
    not_refused_of_takes takes reason refused

theorem finish_ways (written : Written storage output samples file opened) :
    file.finish opened = .ok output ∧ Secures storage output ∨
    ∃ reason, file.finish opened = .error (.cannotWrite output reason) ∧
      Unsecured storage output reason := by
  obtain ⟨path, ⟨location, offset⟩, rows⟩ := file
  obtain ⟨opens, fits, rfl, rfl, rfl, rfl⟩ := written
  simp only [SessionFile.finish, sync_filled]
  cases secured : storage.sync ⟨location, 0⟩ with
  | ok done => exact .inl ⟨rfl, location, opens, secured⟩
  | error reason => exact .inr ⟨reason, rfl, location, opens, secured⟩

theorem holds_filled {location : Location} (opens : Opens storage output location)
    (fits : Fits storage location (sessionSize samples)) :
    Holds storage output samples (filled storage location (octetsOf (sessionText samples))) := by
  constructor
  · intro noSink
    rw [readOctets_filled opens.toLeadsTo noSink, kept_fits fits]
  · intro sink
    exact filled_of_sinkAt opens.toLeadsTo sink

theorem holds_of_written (written : Written storage output samples file opened) :
    Holds storage output samples opened := by
  rw [written.storage_eq]
  exact holds_filled written.opens written.fits

end Accelerometer.Proofs.Session
