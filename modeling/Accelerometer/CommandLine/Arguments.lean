import Accelerometer.Command.Capture
import Accelerometer.Command.Filter
import Accelerometer.Command.Generate
import Accelerometer.CommandLine.Declaration

/-!
# The arguments of the commands

How the arguments of each command are declared, and what they come to.
-/

namespace Accelerometer.CommandLine

def captureArguments : List Argument := [
  (Argument.operand "port" .text "Serial port the board is attached to").needed,
  (Argument.operand "output" .text "Output file name without extension").needed,
  .option "duration" (some 'd') .number "Capture window in seconds",
  .option "encoding" (some 'e') .encoding
    "Text encoding of incoming lines (UTF-8, UTF-16, ASCII, GBK, GB2312, Auto)"]

def Matches.capture (found : Matches) : Except Stop CaptureArguments := do
  let device ← needed "port" (found.text? "port")
  let output ← needed "output" (found.text? "output")
  return ⟨device, output, found.number? "duration", found.encoding? "encoding"⟩

def filterArguments : List Argument := [
  .operand "session" .path "Recorded session to filter",
  .option "taps" (some 'n') .count "Number of filter taps",
  .option "sample-rate" (some 's') .number "Sample rate of the recording in Hz",
  .option "cutoff" (some 'c') .number "Cutoff frequency in Hz",
  .option "output" (some 'o') .path "Where to write the coefficient array",
  .option "response" (some 'r') .path "Also write the magnitude response as CSV"]

def Matches.filter (found : Matches) : FilterArguments where
  session := found.path? "session"
  taps := found.count? "taps"
  rate := found.number? "sample-rate"
  cutoff := found.number? "cutoff"
  output := found.path? "output"
  response := found.path? "response"

def moduleArguments : List Argument := [
  (Argument.option "module" (some 'm') .text "Module name, like i2c etc.").needed,
  (Argument.option "description" (some 'd') .text "What the module is about").needed,
  (Argument.option "author" (some 'a') .text "Name shown as author at the top of the module").needed,
  .option "out-dir" (some 'o') .path "Directory to write the files into"]

def Matches.generate (found : Matches) : Except Stop ModuleArguments := do
  let name ← needed "module" (found.text? "module")
  let description ← needed "description" (found.text? "description")
  let author ← needed "author" (found.text? "author")
  return ⟨name, description, author, (found.path? "out-dir").getD ⟨"."⟩⟩

end Accelerometer.CommandLine
