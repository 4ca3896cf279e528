import Accelerometer.CommandLine.Arguments
import Accelerometer.CommandLine.Reader

/-!
# The programs

The two programs: what each declares as its command line, what it takes from the words that it is
called with, and what it does then. The suite has a command for each task; the sampler does nothing
but capture.
-/

namespace Accelerometer.CommandLine

def version : String := "0.1.0"

def loadSettings (explicit : Option Path) : Command Settings := do
  let world ← get
  let (settings, events) ←
    Command.orFail .settings (Settings.load world.storage world.settingsHome explicit)
  Command.note events
  return settings

/-! ## The suite -/

def suite : Declaration where
  name := "accelog"
  summary := "Firmware bring-up tools for the accelerometer pipeline"
  arguments := [
    (Argument.option "verbose" (some 'v') .flag "Enable debug logging").forCommands,
    (Argument.option "config" none .path
      "Settings file (defaults to <config dir>/accelog/config.toml when present)").forCommands]
  commands := [
    ⟨"collect", "Record accelerometer samples from a serial port into <OUTPUT>.csv", captureArguments⟩,
    ⟨"ports", "List available serial ports", []⟩,
    ⟨"filter", "Design a low-pass FIR filter and optionally apply it to a session", filterArguments⟩,
    ⟨"template", "Generate a C/H file pair for a new firmware module", moduleArguments⟩]

inductive Request
  | capture (arguments : CaptureArguments)
  | filter (arguments : FilterArguments)
  | generate (arguments : ModuleArguments)
  | listDevices

def Matches.request (found : Matches) : Except Stop Request := do
  match found.command with
  | some "collect" => return .capture (← found.capture)
  | some "ports" => return .listDevices
  | some "filter" => return .filter found.filter
  | some "template" => return .generate (← found.generate)
  | _ => throw (.misuse .noCommand)

structure SuiteLine where
  request : Request
  verbose : Bool
  config : Option Path

def SuiteLine.read (parser : Parser) (words : List String) : Except Stop SuiteLine := do
  let found ← parser suite words
  return ⟨← found.request, found.has "verbose", found.path? "config"⟩

def SuiteLine.command (line : SuiteLine) : Command Unit :=
  match line.request with
  | .capture arguments => do
    let settings ← loadSettings line.config
    discard (Command.capture arguments settings)
  | .listDevices => Command.listDevices
  | .filter arguments => do
    let settings ← loadSettings line.config
    Command.filter arguments settings
  | .generate arguments => Command.generate arguments

/-! ## The sampler -/

def sampler : Declaration where
  name := "sampler"
  summary := "Collect serial accelerometer data into <OUTPUT_BASENAME>.csv"
  arguments := captureArguments ++ [
    .option "verbose" (some 'v') .flag "Enable debug logging",
    .option "config" none .path
      "Settings file (defaults to <config dir>/accelog/config.toml when present)"]
  commands := []

structure SamplerLine where
  capture : CaptureArguments
  verbose : Bool
  config : Option Path

def SamplerLine.read (parser : Parser) (words : List String) : Except Stop SamplerLine := do
  let found ← parser sampler words
  return ⟨← found.capture, found.has "verbose", found.path? "config"⟩

def SamplerLine.command (line : SamplerLine) : Command Unit := do
  let settings ← loadSettings line.config
  discard (Command.capture line.capture settings)

/-! ## Running -/

inductive Ending
  | success
  | failure (error : CommandError)
  | misuse (error : UsageError)

def Ending.status : Ending → Nat
  | .success => 0
  | .failure _ => 1
  | .misuse _ => 2

def launch (line : Except Stop (Command Unit)) (world : World) : Ending × World :=
  let say (text : String) := { world with printed := world.printed ++ text }
  match line with
  | .error (.misuse error) => (.misuse error, world)
  | .error (.help text) => (.success, say text)
  | .error (.version title) => (.success, say (title ++ " " ++ version ++ "\n"))
  | .ok command =>
    match command.perform world with
    | (.ok (), world) => (.success, world)
    | (.error error, world) => (.failure error, world)

def runSuite (parser : Parser) (words : List String) (world : World) : Ending × World :=
  launch ((SuiteLine.read parser words).map SuiteLine.command) world

def runSampler (parser : Parser) (words : List String) (world : World) : Ending × World :=
  launch ((SamplerLine.read parser words).map SamplerLine.command) world

inductive Program
  | suite
  | sampler
  deriving DecidableEq, Repr

def Program.run (program : Program) (words : List String) (world : World) : Ending × World :=
  match program with
  | .suite => runSuite reader words world
  | .sampler => runSampler reader words world

end Accelerometer.CommandLine
