import Accelerometer.Command

/-!
# The commands that generate firmware modules and list devices
-/

namespace Accelerometer

structure ModuleArguments where
  name : String
  description : String
  author : String
  directory : Path
  deriving DecidableEq, Repr

namespace Command

def generate (arguments : ModuleArguments) : Command Unit := do
  let generated ← orFail .firmware
    (FirmwareModule.create arguments.name arguments.description arguments.author)
  let (outcome, storage) := (generated.writeInto arguments.directory).run.run (← get).storage
  keep storage
  let ((source, header), events) ← orFail .firmware outcome
  note events
  print ("Generated " ++ source.text ++ " and " ++ header.text)

def listDevices : Command Unit := do
  match (← get).attached with
  | [] => print "No serial ports found"
  | devices => devices.forM fun device => print device.text

end Command

end Accelerometer
