import Accelerometer.Path

/-!
# Storage

A tree of files, reached by paths from a working directory. `create`, `append`, `sync`, `write`,
`readText` and `isFile` are what a program does with it; each that can be refused says why. A file may
take less than it is given.
-/

namespace Accelerometer

inductive Refusal
  | noSuchFile
  | notDirectory
  | isDirectory
  | noSpace
  | nameTooLong
  | nulInPath
  | notUtf8
  | invalidArgument
  /-- What else the system has against it, in its own words. -/
  | other (report : String)
  deriving DecidableEq, Repr

def Refusal.message : Refusal → String
  | .noSuchFile => "No such file or directory (os error 2)"
  | .notDirectory => "Not a directory (os error 20)"
  | .isDirectory => "Is a directory (os error 21)"
  | .noSpace => "No space left on device (os error 28)"
  | .nameTooLong => "File name too long (os error 36)"
  | .nulInPath => "file name contained an unexpected NUL byte"
  | .notUtf8 => "stream did not contain valid UTF-8"
  | .invalidArgument => "Invalid argument (os error 22)"
  | .other report => report

/-- A place in the tree: the names on the way to it from the root. -/
abbrev Location := List String

/-- What stands at a place. A sink holds nothing that is written to it; a full one refuses it. -/
inductive Node
  | directory
  | file (content : List UInt8)
  | sink (full : Bool)
  deriving DecidableEq, Repr

structure Medium where
  /-- Why it cannot be opened for writing, if it cannot. -/
  closed : Option Refusal
  /-- How many octets it holds at most, if there is a bound, and why it refuses more. -/
  limit : Option (Nat × Refusal)
  /-- Why its content cannot be secured, if it cannot. -/
  unsecured : Option Refusal

def Medium.sound : Medium :=
  ⟨none, none, none⟩

structure Storage where
  node : Location → Option Node
  workingDirectory : Location
  medium : Location → Medium := fun _ => .sound

structure Handle where
  location : Location
  offset : Nat
  deriving DecidableEq, Repr

namespace Storage

def set (storage : Storage) (location : Location) (node : Node) : Storage :=
  { storage with node := fun other => if other = location then some node else storage.node other }

def maxNameSize : Nat := 255

def maxPathSize : Nat := 4095

def lookUp (storage : Storage) (here : Location) (name : String) : Except Refusal (Option Node) :=
  if maxNameSize < name.utf8ByteSize then .error .nameTooLong
  else .ok (storage.node (here ++ [name]))

def enter (storage : Storage) (here : Location) (name : String) : Except Refusal Location := do
  if name = "." then return here
  else if name = ".." then return here.dropLast
  else match ← storage.lookUp here name with
    | some .directory => return here ++ [name]
    | some _ => throw .notDirectory
    | none => throw .noSuchFile

inductive Target
  | directory (location : Location)
  /-- A name in a directory, not looked up yet; `closed` if a slash follows it. -/
  | entry (parent : Location) (name : String) (closed : Bool)
  deriving DecidableEq, Repr

def names (path : Path) : List String :=
  ((path.text.toList.splitOn '/').filter fun name => !name.isEmpty).map String.ofList

def start (storage : Storage) (path : Path) : Location :=
  if path.text.toList.head? = some '/' then [] else storage.workingDirectory

def resolve (storage : Storage) (path : Path) : Except Refusal Target := do
  let text := path.text.toList
  if text.contains '\x00' then throw .nulInPath
  if text.isEmpty then throw .noSuchFile
  if maxPathSize < path.text.utf8ByteSize then throw .nameTooLong
  let start := storage.start path
  let names := names path
  match names.getLast? with
  | none => return .directory start
  | some last =>
    if last = "." ∨ last = ".." then
      return .directory (← names.foldlM storage.enter start)
    else
      return .entry (← names.dropLast.foldlM storage.enter start) last (text.getLast? = some '/')

/-- Opens a file for writing, empty from now on. It is made if it does not exist. A name that a
slash follows is refused before it is looked up. -/
def create (storage : Storage) (path : Path) : Except Refusal (Handle × Storage) := do
  match ← storage.resolve path with
  | .directory _ | .entry _ _ true => throw .isDirectory
  | .entry parent name false =>
    let location := parent ++ [name]
    let node ← storage.lookUp parent name
    if node = some .directory then throw .isDirectory
    match (storage.medium location).closed, node with
    | some reason, _ => throw reason
    | none, some (.sink _) => return (⟨location, 0⟩, storage)
    | none, _ => return (⟨location, 0⟩, storage.set location (.file []))

def overwrite (content : List UInt8) (offset : Nat) (octets : List UInt8) : List UInt8 :=
  content.take offset ++ List.replicate (offset - content.length) 0 ++ octets ++
    content.drop (offset + octets.length)

def room (storage : Storage) (location : Location) : Option (Nat × Refusal) :=
  match storage.node location with
  | some (.sink true) => some (0, .noSpace)
  | some (.sink false) => none
  | _ => (storage.medium location).limit

def fitting (storage : Storage) (handle : Handle) (octets : List UInt8) : List UInt8 :=
  match storage.room handle.location with
  | some (most, _) => octets.take (most - handle.offset)
  | none => octets

def refusal? (storage : Storage) (handle : Handle) (octets : List UInt8) : Option Refusal :=
  match storage.room handle.location with
  | some (most, reason) =>
    if octets ≠ [] ∧ most < handle.offset + octets.length then some reason else none
  | none => none

/-- The tree once octets were handed to an open file, which keeps those it has room for. -/
def appended (storage : Storage) (handle : Handle) (octets : List UInt8) : Storage :=
  match storage.node handle.location with
  | some (.file content) =>
    let content := overwrite content handle.offset (storage.fitting handle octets)
    storage.set handle.location (.file content)
  | _ => storage

def append (storage : Storage) (handle : Handle) (octets : List UInt8) :
    Except Refusal (Handle × Storage) :=
  match storage.refusal? handle octets with
  | some reason => .error reason
  | none =>
    .ok ({ handle with offset := handle.offset + octets.length }, storage.appended handle octets)

def sync (storage : Storage) (handle : Handle) : Except Refusal Unit :=
  match storage.node handle.location with
  | some (.sink _) => .error .invalidArgument
  | _ => match (storage.medium handle.location).unsecured with
    | some reason => .error reason
    | none => .ok ()

def octetsOf (text : String) : List UInt8 :=
  text.toList.flatMap String.utf8EncodeChar

def writeOctets (storage : Storage) (path : Path) (octets : List UInt8) :
    Except Refusal Storage := do
  let (handle, storage) ← storage.create path
  return (← storage.append handle octets).2

def writtenTo (storage : Storage) (path : Path) (octets : List UInt8) : Storage :=
  match storage.create path with
  | .ok (handle, storage) => storage.appended handle octets
  | .error _ => storage

def write (storage : Storage) (path : Path) (text : String) : Except Refusal Storage :=
  storage.writeOctets path (octetsOf text)

def readOctets (storage : Storage) (path : Path) : Except Refusal (List UInt8) := do
  match ← storage.resolve path with
  | .directory _ => throw .isDirectory
  | .entry parent name closed =>
    match ← storage.lookUp parent name, closed with
    | none, _ => throw .noSuchFile
    | some .directory, _ => throw .isDirectory
    | some _, true => throw .notDirectory
    | some (.file content), false => return content
    | some (.sink _), false => return []

def readText (storage : Storage) (path : Path) : Except Refusal String := do
  match String.fromUTF8? (← storage.readOctets path).toByteArray with
  | some text => return text
  | none => throw .notUtf8

def isFile (storage : Storage) (path : Path) : Bool :=
  match storage.resolve path with
  | .ok (.entry parent name false) => match storage.lookUp parent name with
    | .ok (some (.file _)) => true
    | _ => false
  | _ => false

def makeDirectories (storage : Storage) (path : Path) : Storage :=
  ((names path).foldl
    (fun (here, storage) name =>
      if name = "." then (here, storage)
      else if name = ".." then (here.dropLast, storage)
      else
        let place := here ++ [name]
        (place, if (storage.node place).isNone then storage.set place .directory else storage))
    (storage.start path, storage)).2

end Storage

end Accelerometer
