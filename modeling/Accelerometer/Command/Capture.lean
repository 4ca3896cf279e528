import Accelerometer.Command
import Accelerometer.Recording

/-!
# The capture command

Records a session from a device. What it needs is checked before anything is opened or written.
-/

namespace Accelerometer

structure CaptureArguments where
  device : String
  /-- The name of the session. -/
  output : String
  seconds : Option Float
  encoding : Option Encoding

namespace CaptureArguments

def window (arguments : CaptureArguments) (settings : Settings) : Except CommandError Duration :=
  match arguments.seconds with
  | some seconds => (windowOf seconds).mapError .window
  | none => settings.window.mapError fun reason => .settings (.invalid reason)

def encodingOr (arguments : CaptureArguments) (settings : Settings) :
    Except CommandError Encoding :=
  match arguments.encoding with
  | some encoding => .ok encoding
  | none => settings.encoding.mapError fun reason => .settings (.invalid reason)

end CaptureArguments

def lineTimeout : Duration := second

def World.openDevice (world : World) (name : String) : Except CaptureError Device :=
  match world.devices.find? fun device => device.name == name with
  | some device => .ok device
  | none => .error (.cannotOpen name "No such file or directory")

namespace Command

def recordFrom (device : Device) (window : Duration) (encoding : Encoding) (output : Path) :
    Command Summary := do
  let lines := ScriptedDevice.lineStream ⟨encoding.unit, lineTimeout⟩
  let assembler : LineAssembler ScriptedDevice := ⟨device.script, []⟩
  let steps := ScriptedDevice.remainingLines window assembler
  let result :=
    record lines ⟨window, encoding, device.dropTime⟩ steps assembler (← get).storage output
  keep result.storage
  note result.events
  orFail (.capture device.name) result.outcome

def capture (arguments : CaptureArguments) (settings : Settings) : Command Summary := do
  let window ← orFail id (arguments.window settings)
  let encoding ← orFail id (arguments.encodingOr settings)
  let device ← orFail (.capture arguments.device) ((← get).openDevice arguments.device)
  note [.deviceOpened device.name, .captureStarted device.name window]
  let output := recordingPath arguments.output
  let summary ← recordFrom device window encoding output
  note [.captureEnded output summary]
  print "Done"
  return summary

end Command

end Accelerometer
