import Accelerometer.Proofs.Recording.Ledger

/-!
# Recordings of two sources

Two sources that give the same lines at the same times are recorded in the same way.

* `step_simulation`: one step.
* `record_simulation`: a run.
* `lineStream_simulates`, `recordDevice_logged`: a log of the reads makes no difference.
* `recordDevice_writable`: what the log and the file of a recording have to do with each other.
-/

namespace Accelerometer.Proofs.Recording
open Accelerometer.Recording Proofs.Serial Proofs.Session
open Proofs.Storage (Roomy)

variable {σ τ : Type} {lines : LineStream σ} {lines' : LineStream τ} {view : σ → τ}

def viewRecording (view : σ → τ) (recording : Recording σ) : Recording τ :=
  ⟨view recording.source, recording.storage, recording.file, recording.summary, recording.events,
    recording.progress⟩

def viewResult (view : σ → τ) (result : RunResult σ) : RunResult τ :=
  ⟨result.outcome, view result.source, result.storage, result.events⟩

def Simulates (view : σ → τ) (lines : LineStream σ) (lines' : LineStream τ) : Prop :=
  ∀ source, lines'.nextLine (view source) = (lines.nextLine source).map (viewRead view)

theorem handle_simulation (settings : RecordingSettings) (recording : Recording σ)
    (arrival : LineArrival) :
    (viewRecording view recording).handle settings arrival =
      viewRecording view (recording.handle settings arrival) := by
  cases arrival with
  | nothing => rfl
  | fault fault => rfl
  | line octets =>
      simp only [handle]
      cases Sample.parse (settings.encoding.lineText octets) with
      | error malformed => rfl
      | ok sample =>
          simp only [accept, viewRecording]
          cases recording.file.write recording.storage sample <;> rfl

theorem step_simulation (simulates : Simulates view lines lines') (settings : RecordingSettings)
    (recording : Recording σ) :
    (viewRecording view recording).step lines' settings =
      viewRecording view (recording.step lines settings) := by
  have came := simulates recording.source
  obtain ⟨source, storage, file, summary, events, progress⟩ := recording
  cases progress with
  | underway =>
      simp only [step, viewRecording] at came ⊢
      by_cases past : settings.window ≤ summary.elapsed
      · simp only [past, if_true, conclude]
        cases file.finish storage <;> rfl
      · simp only [past, if_false, came]
        cases lines.nextLine source with
        | none => rfl
        | some read =>
            simp only [Option.map_some, viewRead]
            exact handle_simulation settings
              ⟨read.source, storage, file, { summary with elapsed := summary.elapsed + read.took },
                events, .underway⟩ read.outcome
  | ended => rfl
  | failed error => rfl
  | stalled => rfl

theorem advance_simulation (simulates : Simulates view lines lines') (settings : RecordingSettings)
    (steps : Nat) (recording : Recording σ) :
    (viewRecording view recording).advance lines' settings steps =
      viewRecording view (recording.advance lines settings steps) := by
  induction steps generalizing recording with
  | zero => rfl
  | succ steps ih =>
      simp only [advance, step_simulation simulates, ih]
      show (if recording.progress = .underway then _ else _) = _
      split <;> rfl

theorem record_simulation (simulates : Simulates view lines lines') (settings : RecordingSettings)
    (steps : Nat) (source : σ) (storage : Storage) (output : Path) :
    record lines' settings steps (view source) storage output =
      viewResult view (record lines settings steps source storage output) := by
  unfold record
  cases SessionFile.create storage output with
  | error error => rfl
  | ok opened =>
      have begun : begin (view source) opened.1 opened.2 =
          viewRecording view (begin source opened.1 opened.2) := rfl
      simp only [begun, advance_simulation simulates]
      rfl

def recordDevice (device : ByteSource σ) (timeout : Duration) (fuel : LineAssembler σ → Nat)
    (settings : RecordingSettings) (steps : Nat) (source : σ) (storage : Storage) (output : Path) :
    RunResult (LineAssembler σ) :=
  record (LineAssembler.lineStream device ⟨settings.encoding.unit, timeout⟩ fuel) settings steps
    ⟨source, []⟩ storage output

theorem lineStream_simulates (device : ByteSource σ) (framing : Framing)
    (fuel : LineAssembler σ → Nat) :
    Simulates unlogged (LineAssembler.lineStream (logged device) framing (fuel ∘ unlogged))
      (LineAssembler.lineStream device framing fuel) :=
  fun assembler => nextLine_unlogged device framing (fuel (unlogged assembler)) assembler

theorem recordDevice_logged (device : ByteSource σ) (timeout : Duration)
    (fuel : LineAssembler σ → Nat) (settings : RecordingSettings) (steps : Nat) (source : σ)
    (storage : Storage) (output : Path) :
    recordDevice device timeout fuel settings steps source storage output =
      viewResult unlogged
        (recordDevice (logged device) timeout (fuel ∘ unlogged) settings steps ⟨source, []⟩ storage
          output) :=
  record_simulation (lineStream_simulates device _ fuel) settings steps (fresh source) storage output

theorem recordDevice_writable (device : ByteSource σ) (timeout : Duration)
    (fuel : LineAssembler σ → Nat) (settings : RecordingSettings) (steps : Nat) (source : σ)
    (storage : Storage) (output : Path)
    (made : ∀ reason,
      (recordDevice device timeout fuel settings steps source storage output).outcome =
        .error (.cannotWrite output reason) → Roomy storage output) :
    let lines := LineAssembler.lineStream (logged device) ⟨settings.encoding.unit, timeout⟩
      (fuel ∘ unlogged)
    let run := record lines settings steps (fresh source) storage output
    recordDevice device timeout fuel settings steps source storage output = viewResult unlogged run ∧
      ∃ cues, Follows lines settings steps (fresh source) storage output cues run ∧
        Holds storage output (samplesOf settings.encoding (linesOf cues)) run.storage := by
  intro lines run
  have same := recordDevice_logged device timeout fuel settings steps source storage output
  rw [same] at made
  exact ⟨same, record_writable lines settings steps (fresh source) storage output made⟩

end Accelerometer.Proofs.Recording
