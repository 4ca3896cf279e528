import Accelerometer.Journal
import Accelerometer.Session.File

/-!
# Recording

A recording copies the samples of a source of lines into a session file for a window of time. It is
a machine that handles one line in each step.
-/

namespace Accelerometer

/-- What a recording is set to: how long it lasts, and how lines are decoded. Dropping a line may
take time too. -/
structure RecordingSettings where
  window : Duration
  encoding : Encoding
  dropTime : Duration
  deriving DecidableEq, Repr

/-- How far a recording has come. A source whose read never ends, or breaks off, stalls it. -/
inductive Progress
  | underway
  | ended
  | failed (error : CaptureError)
  | stalled
  deriving DecidableEq, Repr

structure Recording (σ : Type) where
  source : σ
  storage : Storage
  file : SessionFile
  summary : Summary
  /-- The lines dropped so far, as events, the first one first. -/
  events : List Event
  progress : Progress

namespace Recording

variable {σ : Type}

def skip (recording : Recording σ) : Recording σ :=
  { recording with
    summary := { recording.summary with silent := recording.summary.silent + 1 } }

def accept (recording : Recording σ) (sample : Sample) : Recording σ :=
  match recording.file.write recording.storage sample with
  | .error error =>
    { recording with
      storage := recording.storage.appended recording.file.handle (Storage.octetsOf sample.row)
      progress := .failed error }
  | .ok (file, storage) =>
    { recording with
      file := file
      storage := storage
      summary := { recording.summary with accepted := recording.summary.accepted + 1 } }

def drop (recording : Recording σ) (dropTime : Duration) (words : Nat) (line : List UInt8) :
    Recording σ :=
  { recording with
    events := recording.events ++ [.lineDropped words line]
    summary := { recording.summary with
      dropped := recording.summary.dropped + 1
      elapsed := recording.summary.elapsed + dropTime } }

def handle (settings : RecordingSettings) (recording : Recording σ) :
    LineArrival → Recording σ
  | .nothing => recording.skip
  | .fault fault => { recording with progress := .failed (.cannotRead fault) }
  | .line octets =>
    match Sample.parse (settings.encoding.lineText octets) with
    | .ok sample => recording.accept sample
    | .error malformed => recording.drop settings.dropTime malformed.words octets

def conclude (recording : Recording σ) : Recording σ :=
  match recording.file.finish recording.storage with
  | .error error => { recording with progress := .failed error }
  | .ok _ => { recording with progress := .ended }

def step (lines : LineStream σ) (settings : RecordingSettings) (recording : Recording σ) :
    Recording σ :=
  match recording.progress with
  | .underway =>
    if settings.window ≤ recording.summary.elapsed then recording.conclude
    else match lines.nextLine recording.source with
      | none => { recording with progress := .stalled }
      | some read =>
        handle settings
          { recording with
            source := read.source
            summary := { recording.summary with
              elapsed := recording.summary.elapsed + read.took } }
          read.outcome
  | _ => recording

def advance (lines : LineStream σ) (settings : RecordingSettings) :
    Nat → Recording σ → Recording σ
  | 0, recording => recording
  | steps + 1, recording =>
    if recording.progress = .underway then
      advance lines settings steps (recording.step lines settings)
    else recording

def begin (source : σ) (file : SessionFile) (storage : Storage) : Recording σ :=
  ⟨source, storage, file, .zero, [], .underway⟩

end Recording

structure RunResult (σ : Type) where
  outcome : Except CaptureError Summary
  source : σ
  storage : Storage
  events : List Event

/-- Records into the file at `output`, in at most `steps` steps. A run that is not over by then
counts as endless. -/
def record {σ : Type} (lines : LineStream σ) (settings : RecordingSettings) (steps : Nat)
    (source : σ) (storage : Storage) (output : Path) : RunResult σ :=
  match SessionFile.create storage output with
  | .error error =>
    ⟨.error error, source, storage.writtenTo output (Storage.octetsOf Sample.header), []⟩
  | .ok (file, storage) =>
    let recording := (Recording.begin source file storage).advance lines settings steps
    let outcome := match recording.progress with
      | .ended => .ok recording.summary
      | .failed error => .error error
      | .underway | .stalled => .error .endless
    ⟨outcome, recording.source, recording.storage,
      .recordingStarted settings.encoding output :: recording.events⟩

end Accelerometer
