import Accelerometer.Serial.Fault
import Accelerometer.Sample
import Accelerometer.Storage

/-!
# Writing a session

A session is a file with a header line and a row for each sample. A row is written whole, as soon as
it is there.
-/

namespace Accelerometer

inductive CaptureError
  | cannotOpen (device reason : String)
  | cannotWrite (output : Path) (reason : Refusal)
  | cannotRead (fault : Fault)
  /-- The device never answers, so that a capture would wait for ever, or a read of it breaks off. -/
  | endless
  deriving DecidableEq, Repr

def CaptureError.message : CaptureError → String
  | .cannotOpen device reason => "failed to open serial port " ++ device ++ ": " ++ reason
  | .cannotWrite output reason =>
    "failed to write session file " ++ output.text ++ ": " ++ reason.message
  | .cannotRead fault => "serial read failed: " ++ fault.message
  | .endless => "serial port never answers"

def CaptureError.causes : CaptureError → List String
  | .cannotOpen _ reason => [reason]
  | .cannotWrite _ reason => [reason.message]
  | .cannotRead fault => [fault.message]
  | .endless => []

def recordingPath (name : String) : Path :=
  ⟨name ++ ".csv"⟩

/-- The path of the filtered trace of a session: beside it, with `_filtered` after its stem. -/
def tracePath (session : Path) : Path :=
  let stem := match session.fileName? with
    | some name => Path.stem name
    | none => "session".toList
  session.withFileName (stem ++ "_filtered.csv".toList)

structure SessionFile where
  path : Path
  handle : Handle
  /-- The rows written, without the header. -/
  rows : Nat
  deriving DecidableEq, Repr

namespace SessionFile

def create (storage : Storage) (path : Path) : Except CaptureError (SessionFile × Storage) := do
  let (handle, storage) ← (storage.create path).mapError (.cannotWrite path)
  let (handle, storage) ←
    (storage.append handle (Storage.octetsOf Sample.header)).mapError (.cannotWrite path)
  return (⟨path, handle, 0⟩, storage)

def write (file : SessionFile) (storage : Storage) (sample : Sample) :
    Except CaptureError (SessionFile × Storage) := do
  let (handle, storage) ←
    (storage.append file.handle (Storage.octetsOf sample.row)).mapError (.cannotWrite file.path)
  return ({ file with handle := handle, rows := file.rows + 1 }, storage)

def finish (file : SessionFile) (storage : Storage) : Except CaptureError Path := do
  (storage.sync file.handle).mapError (.cannotWrite file.path)
  return file.path

end SessionFile

end Accelerometer
