import Accelerometer.Firmware
import Accelerometer.Serial.Info
import Accelerometer.Serial.Script
import Accelerometer.Session
import Accelerometer.Session.File
import Accelerometer.Settings
import Accelerometer.Signal.Coefficients

/-!
# Commands

A command acts on a world: it changes files, prints lines and notes events down. One that fails says
why, and what it has done until then stays done.
-/

namespace Accelerometer

structure Device where
  name : String
  script : ScriptedDevice
  /-- The time that dropping one of its lines takes. -/
  dropTime : Duration

structure World where
  storage : Storage
  /-- The directory for the settings files of the user. -/
  settingsHome : Option Path
  devices : List Device
  /-- What the system tells about the devices that are attached to it. -/
  attached : List DeviceInfo
  printed : String
  journal : List Event

inductive CommandError
  | window (error : WindowError)
  | settings (error : SettingsError)
  | capture (device : String) (error : CaptureError)
  | design (error : Signal.InvalidSpec)
  | coefficients (error : Signal.CoefficientError)
  | output (path : Path) (reason : Refusal)
  | session (error : UnreadableSession)
  | firmware (error : ModuleError)

namespace CommandError

def message : CommandError → String
  | .window error => "duration " ++ error.message
  | .settings error => error.message
  | .capture device _ => "collection from " ++ device ++ " failed"
  | .design _ => "invalid filter parameters"
  | .coefficients error => error.message
  | .output path _ => "failed to write " ++ path.text
  | .session error => error.message
  | .firmware error => error.message

def causes : CommandError → List String
  | .window _ => []
  | .settings error => error.causes
  | .capture _ error => error.message :: error.causes
  | .design error => [error.message]
  | .coefficients error => error.causes
  | .output _ reason => [reason.message]
  | .session error => error.causes
  | .firmware error => error.causes

def hanging (mark : String) (indent : Nat) (text : String) : String :=
  let lines := text.toList.splitOn '\n'
  mark ++ .ofList (('\n' :: List.replicate indent ' ').intercalate lines)

def numbered (number : Nat) (cause : String) : String :=
  let digits := toString number
  let mark := .ofList (List.replicate (5 - digits.length) ' ') ++ digits ++ ": "
  hanging mark 7 cause

def listing : List String → String
  | [] => ""
  | [cause] => "\n\nCaused by:\n" ++ hanging "    " 4 cause
  | causes =>
    "\n\nCaused by:" ++ String.join (causes.zipIdx.map fun (cause, number) =>
      "\n" ++ numbered number cause)

def report (error : CommandError) : String :=
  "Error: " ++ error.message ++ listing error.causes ++ "\n"

end CommandError

abbrev Command := ExceptT CommandError (StateM World)

namespace Command

def perform {α : Type} (command : Command α) (world : World) : Except CommandError α × World :=
  command.run.run world

def print (line : String) : Command Unit :=
  modify fun world => { world with printed := world.printed ++ line ++ "\n" }

def note (events : List Event) : Command Unit :=
  modify fun world => { world with journal := world.journal ++ events }

def keep (storage : Storage) : Command Unit :=
  modify fun world => { world with storage := storage }

def orFail {ε α : Type} (failure : ε → CommandError) : Except ε α → Command α
  | .ok result => pure result
  | .error reason => throw (failure reason)

/-- Writes a file, which keeps what it has room for also if the rest is refused. -/
def write (path : Path) (text : String) : Command Unit := do
  let storage := (← get).storage
  keep (storage.writtenTo path (Storage.octetsOf text))
  discard (orFail (.output path) (storage.write path text))

end Command

end Accelerometer
