import Accelerometer.Journal
import Accelerometer.Storage
import Accelerometer.Text.Blank
import Accelerometer.Text.LetterCase

/-!
# Firmware modules

The pair of C files that a new firmware module starts from. A module is named by a C identifier in
lower case. Its source file includes its header, and the header declares the one function that the
source file defines.
-/

namespace Accelerometer

/-! ## C texts -/

inductive Fragment
  | comment (body : String)
  | code (text : String)
  deriving DecidableEq, Repr

def Fragment.text : Fragment → String
  | .comment body => "/*" ++ body ++ "*/"
  | .code text => text

def Fragment.join (fragments : List Fragment) : String :=
  String.join (fragments.map Fragment.text)

def titleWidth : Nat := 85

def Fragment.title (left : Nat) (name gap : String) : List Fragment :=
  let stars (n : Nat) := String.ofList (List.replicate n '*')
  [.comment (stars (left - 1) ++ " " ++ name ++ " " ++ stars (titleWidth - left - name.length - 1)),
    .code gap]

/-! ## Modules -/

structure FirmwareModule where
  name : String
  description : String
  author : String
  deriving DecidableEq, Repr

inductive ModuleError
  | invalidName (name : String)
  | cannotWrite (path : Path) (reason : Refusal)
  deriving DecidableEq, Repr

def ModuleError.message : ModuleError → String
  | .invalidName name => "`" ++ name ++ "` is not a valid C identifier for a module name"
  | .cannotWrite path reason => "failed to write " ++ path.text ++ ": " ++ reason.message

def ModuleError.causes : ModuleError → List String
  | .invalidName _ => []
  | .cannotWrite _ reason => [reason.message]

namespace FirmwareModule

def startsIdentifier (c : Char) : Bool :=
  c.isAlpha || c == '_'

def continuesIdentifier (c : Char) : Bool :=
  c.isAlphanum || c == '_'

def isIdentifier : List Char → Bool
  | c :: rest => startsIdentifier c && rest.all continuesIdentifier
  | [] => false

def create (name description author : String) : Except ModuleError FirmwareModule :=
  let name := Text.lower (Text.trim name.toList)
  if isIdentifier name then
    .ok ⟨.ofList name, Text.trimmed description, Text.trimmed author⟩
  else .error (.invalidName (.ofList name))

variable (module : FirmwareModule)

def sourceName : String :=
  module.name ++ ".c"

def headerName : String :=
  module.name ++ ".h"

def initializer : String :=
  .ofList (module.name.toList.map Char.toUpper) ++ "_init"

def prototype : String :=
  "void " ++ module.initializer ++ "( void )"

def banner (file brief : String) : Fragment :=
  .comment <| "! \\file " ++ file ++ "\n*\n*  \\brief " ++ brief ++ ".\n*\n*\n*  \\author " ++
    module.author ++ "\n"

def sourceFragments : List Fragment :=
  let empty := "\n\n\n"
  [module.banner module.sourceName module.description, .code empty] ++
  Fragment.title 34 "Includes" ("\n#include \"" ++ module.headerName ++ "\"\n\n") ++
  Fragment.title 35 "Consts" empty ++
  Fragment.title 36 "Types" empty ++
  Fragment.title 35 "Macros" empty ++
  Fragment.title 31 "Global Variables" empty ++
  Fragment.title 32 "Local Variables" empty ++
  Fragment.title 30 "Functions Prototype" empty ++
  Fragment.title 30 "Functions Definition" "\n" ++
  [.comment ("*\n* \\name     " ++ module.initializer ++
      "\n* \\brief    Initialize the module variables and resources.\n*\n" ++
      "* \\param    None\n* \\retval   None\n"),
    .code ("\n" ++ module.prototype ++ "\n\x7b\n   "),
    .comment " Initialize the module here",
    .code "\n\n\x7d\n"]

def headerFragments : List Fragment :=
  let empty := "\n\n\n"
  [module.banner module.headerName
      (module.name ++ " module functions and variables declarations"),
    .code "\n\n#pragma once\n\n#ifdef __cplusplus\nextern \"C\" \x7b\n#endif\n"] ++
  Fragment.title 34 "Includes" "\n#include \"common.h\"\n\n" ++
  Fragment.title 35 "Consts" empty ++
  Fragment.title 36 "Types" empty ++
  Fragment.title 35 "Macros" empty ++
  Fragment.title 31 "Global Variables" empty ++
  Fragment.title 30 "Functions Prototype"
    ("\n" ++ module.prototype ++ ";\n\n\n#ifdef __cplusplus\n\x7d\n#endif\n")

def source : String :=
  Fragment.join module.sourceFragments

def header : String :=
  Fragment.join module.headerFragments

def put (path : Path) (text : String) : ExceptT ModuleError (StateM Storage) Unit := do
  let storage ← get
  set (storage.writtenTo path (Storage.octetsOf text))
  match storage.write path text with
  | .ok _ => pure ()
  | .error reason => throw (.cannotWrite path reason)

/-- Writes the source file and then the header into a directory, over files of the same names, and
gives their paths. If the header cannot be written, the source file is there all the same. -/
def writeInto (directory : Path) :
    ExceptT ModuleError (StateM Storage) ((Path × Path) × List Event) := do
  let source := directory.join module.sourceName
  let header := directory.join module.headerName
  put source module.source
  put header module.header
  return ((source, header), [.moduleGenerated source header])

end FirmwareModule

end Accelerometer
