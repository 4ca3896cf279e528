import Accelerometer.CommandLine.Declaration

/-!
# Reading a command line

A parser that reads words against a declaration from left to right, and ends early at a mistake, or
where help or a version is asked for.
-/

namespace Accelerometer.CommandLine

/-! ## Words -/

inductive Word
  /-- Two hyphens: every word after them is an operand. -/
  | separator
  /-- The name of an option, and the value joined to it by an equals sign. -/
  | long (name : String) (value : Option String)
  /-- The letters of options. -/
  | short (letters : List Char)
  | plain (text : String)
  deriving DecidableEq, Repr

def Word.ofString (text : String) : Word :=
  match text.toList with
  | ['-', '-'] => .separator
  | '-' :: '-' :: rest =>
    let name := String.ofList (rest.takeWhile (· != '='))
    match rest.dropWhile (· != '=') with
    | [] => .long name none
    | _ :: value => .long name (some (.ofList value))
  | '-' :: letter :: letters => .short (letter :: letters)
  | _ => .plain text

/-! ## Options and operands -/

inductive Halt
  | misuse (error : UsageError)
  | help
  | version
  deriving DecidableEq, Repr

inductive Switch
  | given (signature : Signature)
  | help
  | version
  deriving DecidableEq, Repr

def Switch.name : Switch → String
  | .given signature => signature.name
  | .help => "help"
  | .version => "version"

def Switch.takesValue : Switch → Bool
  | .given signature => signature.kind ≠ .flag
  | .help | .version => false

structure Reading where
  values : List (String × Value)
  /-- The option that the next word is the value of. -/
  awaiting : Option Signature

namespace Reading

def start : Reading :=
  ⟨[], none⟩

def add (reading : Reading) (name : String) (value : Value) : Except Halt Reading :=
  if (reading.values.lookup name).isSome then .error (.misuse (.repeated name))
  else .ok ⟨(name, value) :: reading.values, none⟩

def fill (reading : Reading) (signature : Signature) (text : String) : Except Halt Reading :=
  match signature.kind.read? text with
  | some value => reading.add signature.name value
  | none => .error (.misuse (.unusableValue signature.name text))

def settled (reading : Reading) : Except Halt Reading :=
  match reading.awaiting with
  | some signature => .error (.misuse (.noValue signature.name))
  | none => .ok reading

def take (reading : Reading) (switch : Switch) (value : Option String) : Except Halt Reading := do
  let reading ← reading.settled
  match switch, switch.takesValue, value with
  | .given signature, true, some value => reading.fill signature value
  | .given signature, true, none => return { reading with awaiting := some signature }
  | switch, _, some _ => throw (.misuse (.unwantedValue switch.name))
  | .given signature, false, none => reading.add signature.name .present
  | .help, _, none => throw .help
  | .version, _, none => throw .version

variable (signatures : List Signature)

def takeLong (reading : Reading) (name : String) (value : Option String) : Except Halt Reading :=
  if name = "help" then reading.take .help value
  else if name = "version" then reading.take .version value
  else match signatures.find? fun signature => signature.isOption && signature.name == name with
    | some signature => reading.take (.given signature) value
    | none => .error (.misuse (.unknownOption name))

def switch? (letter : Char) : Option Switch :=
  if letter = 'h' then some .help
  else if letter = 'V' then some .version
  else (signatures.find? fun signature => signature.letter == some letter).map .given

/-- Takes up the options of the given letters. What follows the letter of an option with a value is
the value, with or without an equals sign before it. -/
def takeLetters (reading : Reading) : List Char → Except Halt Reading
  | [] => .ok reading
  | letter :: letters => do
    let some switch := switch? signatures letter
      | throw (.misuse (.unknownOption (.ofList [letter])))
    match switch.takesValue, letters with
    | true, [] => reading.take switch none
    | true, '=' :: value => reading.take switch (some (.ofList value))
    | true, value => reading.take switch (some (.ofList value))
    | false, letters => takeLetters (← reading.take switch none) letters

def takeOperands : List String → List Signature → Reading → Except Halt Reading
  | [], _, reading => .ok reading
  | text :: _, [], _ => .error (.misuse (.unexpectedOperand text))
  | text :: words, operand :: operands, reading => do
    takeOperands words operands (← reading.fill operand text)

def takeWords : List String → (operands : List Signature) → Reading → Except Halt Reading
  | [], _, reading => reading.settled
  | text :: words, operands, reading =>
    match Word.ofString text with
    | .separator => do takeOperands words operands (← reading.settled)
    | .long name value => do takeWords words operands (← reading.takeLong signatures name value)
    | .short letters => do takeWords words operands (← reading.takeLetters signatures letters)
    | .plain text =>
      match reading.awaiting, operands with
      | some signature, _ => do takeWords words operands (← reading.fill signature text)
      | none, operand :: operands => do takeWords words operands (← reading.fill operand text)
      | none, [] => .error (.misuse (.unexpectedOperand text))

def ofWords (words : List String) : Except Halt (List (String × Value)) := do
  let operands := signatures.filter fun signature => !signature.isOption
  let reading ← takeWords signatures words operands start
  let missing := signatures.filter fun signature =>
    signature.required && (reading.values.lookup signature.name).isNone
  if missing.isEmpty then return reading.values
  else throw (.misuse (.missing (missing.map Signature.name)))

end Reading

/-! ## Commands -/

namespace Declaration

def usage (declaration : Declaration) : String :=
  declaration.name ++ " [OPTIONS]" ++ String.join (declaration.signatures.map fun signature =>
    match signature.isOption, signature.required with
    | true, true => " --" ++ signature.name ++ " <VALUE>"
    | true, false => ""
    | false, true => " <" ++ signature.name ++ ">"
    | false, false => " [" ++ signature.name ++ "]")

def helpLine (argument : Argument) : String :=
  let letter := match argument.letter with
    | some letter => .ofList ['-', letter, ',', ' ']
    | none => "    "
  let spelling := letter ++ "--" ++ argument.name
  "  " ++ spelling ++ .ofList (List.replicate (24 - spelling.length) ' ') ++ argument.summary ++ "\n"

def help (declaration : Declaration) : String :=
  declaration.summary ++ "\n\nUsage: " ++ declaration.usage ++ "\n\nOptions:\n" ++
    String.join ((declaration.arguments.filter fun argument => argument.isOption).map helpLine)

end Declaration

def Halt.stop (declaration : Declaration) : Halt → Stop
  | .misuse error => .misuse error
  | .help => .help declaration.help
  | .version => .version declaration.name

def readAlone (declaration : Declaration) (words : List String) :
    Except Stop (List (String × Value)) :=
  (Reading.ofWords declaration.signatures words).mapError (Halt.stop declaration)

def readHelp (declaration : Declaration) : List String → Stop
  | [] | ["help"] => .help declaration.help
  | name :: rest =>
    match declaration.commands.find? fun command => command.name == name, rest with
    | some command, [] => .help (declaration.within command).help
    | some _, name :: _ | none, _ => .misuse (.unknownCommand name)

/-- Reads words up to the name of a command, and those behind it for the command. What stands before the
name holds unless it is given again. -/
def readCommand (declaration : Declaration) : List String → Reading → Except Stop Matches
  | [], _ => .error (.misuse .noCommand)
  | text :: words, reading =>
    match Word.ofString text with
    | .separator => .error (.misuse .noCommand)
    | .long name value => do
      readCommand declaration words
        (← (reading.takeLong declaration.signatures name value).mapError (Halt.stop declaration))
    | .short letters => do
      readCommand declaration words
        (← (reading.takeLetters declaration.signatures letters).mapError (Halt.stop declaration))
    | .plain text =>
      match reading.awaiting with
      | some signature => do
        readCommand declaration words
          (← (reading.fill signature text).mapError (Halt.stop declaration))
      | none =>
        if text = "help" then .error (readHelp declaration words)
        else match declaration.commands.find? fun command => command.name == text with
          | some command => do
            let values ← readAlone (declaration.within command) words
            return ⟨some command.name, values ++ reading.values⟩
          | none => .error (.misuse (.unknownCommand text))

def reader : Parser := fun declaration words =>
  match declaration.commands with
  | [] => (readAlone declaration words).map fun values => ⟨none, values⟩
  | _ => readCommand declaration words .start

end Accelerometer.CommandLine
