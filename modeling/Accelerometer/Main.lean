import Accelerometer.CommandLine.Program

/-!
# The programs on a host

Takes a picture of the files that a command line is about, runs the program on it, and carries out
what has changed. A device is a file whose octets are taken down with the times of their arrival.
-/

namespace Accelerometer.Host

open CommandLine

/-! ## Taking a picture -/

def placeText (location : Location) : String :=
  "/" ++ "/".intercalate location

def nodeAt (location : Location) : IO (Option Node) := do
  let place := (← IO.currentDir) / placeText location
  if ← place.isDir then return some .directory
  if !(← place.pathExists) then return none
  match (← place.metadata).type with
  | .file => return some (.file (← IO.FS.readBinFile place).toList)
  | _ => return some (.sink (location = ["dev", "full"]))

def addPlace (storage : Storage) (location : Location) : IO Storage := do
  let mut storage := storage
  for depth in [0:location.length + 1] do
    let place := location.take depth
    if let some node ← nodeAt place then
      storage := storage.set place node
  return storage

def placesOf (storage : Storage) (path : Path) : List Location :=
  (List.range (Storage.names path).length).map fun count =>
    ((Storage.names path).take (count + 1)).foldl
      (fun here name =>
        if name = "." then here else if name = ".." then here.dropLast else here ++ [name])
      (storage.start path)

def addPaths (storage : Storage) (paths : List Path) : IO Storage :=
  (paths.flatMap (placesOf storage)).foldlM addPlace storage

def emptyPicture : IO Storage := do
  let here := (← IO.currentDir).components.filter fun name => name ≠ "" ∧ name ≠ "/"
  let nothing : Storage := { node := fun _ => none, workingDirectory := here }
  return nothing.makeDirectories ⟨placeText here⟩

def settingsHome : IO (Option Path) := do
  match ← IO.getEnv "XDG_CONFIG_HOME", ← IO.getEnv "HOME" with
  | some home, user =>
    if home.startsWith "/" then return some ⟨home⟩ else return user.map (Path.join ⟨·⟩ ".config")
  | none, user => return user.map (Path.join ⟨·⟩ ".config")

def paths (settings : Settings) : Request → List Path
  | .capture arguments => [recordingPath arguments.output]
  | .filter arguments =>
    arguments.outputOr settings :: arguments.response.toList ++
      arguments.session.toList.flatMap fun session => [session, tracePath session]
  | .generate arguments =>
    match FirmwareModule.create arguments.name arguments.description arguments.author with
    | .ok generated =>
      [arguments.directory.join generated.sourceName, arguments.directory.join generated.headerName]
    | .error _ => []
  | .listDevices => []

/-! ## Devices -/

/-- What a device delivers until a moment, after the cues already taken down. -/
partial def listen (device : IO.FS.Handle) (deadline last : Nat) (cues : Array (Cue Arrival)) :
    IO (List (Cue Arrival)) := do
  let octets ← device.read readSize.toUSize
  let now ← IO.monoNanosNow
  let cues := cues.push ⟨now - last, .chunk octets.toList⟩
  if octets.isEmpty || deadline ≤ now then return cues.toList
  listen device deadline now cues

def device? (arguments : CaptureArguments) (settings : Settings) : IO (Option Device) := do
  let .ok window := arguments.window settings | return none
  try
    let device ← IO.FS.Handle.mk arguments.device .read
    let now ← IO.monoNanosNow
    let cues ← listen device (now + window) now #[]
    return some ⟨arguments.device, .ofCues cues lineTimeout, 0⟩
  catch _ => return none

def attached : IO (List DeviceInfo) := do
  let directory := (← IO.currentDir) / "/dev"
  let mut found := #[]
  for entry in ← directory.readDir do
    if entry.fileName.startsWith "ttyACM" || entry.fileName.startsWith "ttyUSB" then
      found := found.push entry.path.toString
  return (found.qsort (· < ·)).toList.map (DeviceInfo.ofAttachment · .unknown)

/-! ## Running -/

def asked (program : Program) (words : List String) : Except Stop SuiteLine :=
  match program with
  | .suite => SuiteLine.read reader words
  | .sampler => (SamplerLine.read reader words).map fun line =>
    ⟨.capture line.capture, line.verbose, line.config⟩

def world (line : SuiteLine) : IO World := do
  let home ← settingsHome
  let explicit := line.config
  let picture ← addPaths (← emptyPicture) ((home.map Settings.userFile).toList ++ explicit.toList)
  let settings := match Settings.load picture home explicit with
    | .ok (settings, _) => settings
    | .error _ => .standard
  let picture ← addPaths picture (paths settings line.request)
  let devices ← match line.request with
    | .capture arguments => do pure (← device? arguments settings).toList
    | _ => pure []
  let attached ← match line.request with
    | .listDevices => attached
    | _ => pure []
  return ⟨picture, home, devices, attached, "", []⟩

def carryOut (before after : Storage) (paths : List Path) : IO Unit := do
  let root ← IO.currentDir
  for place in paths.flatMap (placesOf before) do
    if let some (.file content) := after.node place then
      if before.node place ≠ some (.file content) then
        IO.FS.writeBinFile (root / placeText place) content.toByteArray

def isShown (verbose : Bool) (event : Event) : Bool :=
  verbose || event.level ≠ .debug

def run (program : Program) (words : List String) : IO UInt32 := do
  let line := asked program words
  let world ← match line with
    | .ok line => world line
    | .error _ => pure ⟨← emptyPicture, none, [], [], "", []⟩
  let (ending, after) := program.run words world
  if let .ok line := line then
    let settings := match Settings.load world.storage world.settingsHome line.config with
      | .ok (settings, _) => settings
      | .error _ => .standard
    carryOut world.storage after.storage (paths settings line.request)
    for event in after.journal do
      if isShown line.verbose event then IO.eprintln event.text
  IO.print after.printed
  match ending with
  | .success => pure ()
  | .failure error => IO.eprint error.report
  | .misuse error => IO.eprintln ("error: " ++ error.message)
  return ending.status.toUInt32

end Accelerometer.Host

def main (words : List String) : IO UInt32 := do
  let program := match (← IO.appPath).fileName with
    | some "sampler" => Accelerometer.CommandLine.Program.sampler
    | _ => .suite
  Accelerometer.Host.run program words
