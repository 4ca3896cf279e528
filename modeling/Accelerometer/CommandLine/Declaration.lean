import Accelerometer.Decimal.Numeral
import Accelerometer.Encoding
import Accelerometer.Path

/-!
# Declared command lines

A program declares which options and operands it takes, and which commands, if it has any. How words
are read against a declaration is up to a parser, which gives the values that it has found under the
names of the arguments.
-/

namespace Accelerometer.CommandLine

/-! ## Values -/

inductive Kind
  | flag
  | text
  | path
  | number
  | count
  | encoding
  deriving DecidableEq, Repr

inductive Value
  | present
  | text (text : String)
  | path (path : Path)
  | number (number : Float)
  | count (count : Nat)
  | encoding (encoding : Encoding)

def countBound : Nat := Nat.pow 2 64

def count? (text : String) : Option Nat :=
  let digits := match text.toList with
    | '+' :: digits => digits
    | digits => digits
  if digits.isEmpty || !digits.all Char.isDigit then none
  else
    let count := Decimal.ofDigits digits
    if count < countBound then some count else none

def Kind.read? : Kind → String → Option Value
  | .flag, _ => none
  | .text, word => some (.text word)
  | .path, word => if word.isEmpty then none else some (.path ⟨word⟩)
  | .number, word => (Decimal.read? word.toList).map .number
  | .count, word => (count? word).map .count
  | .encoding, word => (Encoding.ofName word).toOption.map .encoding

/-! ## Declarations -/

/-- What an argument is recognized by and what is read for it. An option is given by its name, or by a
letter if it has one; operands are given in their order. -/
structure Signature where
  name : String
  letter : Option Char
  isOption : Bool
  kind : Kind
  required : Bool
  deriving DecidableEq, Repr

structure Argument extends Signature where
  /-- Whether the argument of a program is one of each of its commands, too. -/
  everywhere : Bool
  summary : String
  deriving DecidableEq, Repr

def Argument.option (name : String) (letter : Option Char) (kind : Kind) (summary : String) : Argument :=
  ⟨⟨name, letter, true, kind, false⟩, false, summary⟩

def Argument.operand (name : String) (kind : Kind) (summary : String) : Argument :=
  ⟨⟨name, none, false, kind, false⟩, false, summary⟩

def Argument.needed (argument : Argument) : Argument :=
  { argument with required := true }

def Argument.forCommands (argument : Argument) : Argument :=
  { argument with everywhere := true }

structure CommandDeclaration where
  name : String
  summary : String
  arguments : List Argument
  deriving DecidableEq, Repr

structure Declaration extends CommandDeclaration where
  commands : List CommandDeclaration
  deriving DecidableEq, Repr

def Declaration.signatures (declaration : Declaration) : List Signature :=
  declaration.arguments.map Argument.toSignature

def Declaration.within (program : Declaration) (command : CommandDeclaration) : Declaration where
  name := program.name ++ "-" ++ command.name
  summary := command.summary
  arguments := command.arguments ++ program.arguments.filter Argument.everywhere
  commands := []

/-! ## What is found -/

structure Matches where
  command : Option String
  values : List (String × Value)

namespace Matches

variable (found : Matches) (name : String)

def has : Bool :=
  (found.values.lookup name).isSome

def text? : Option String :=
  match found.values.lookup name with
  | some (.text text) => some text
  | _ => none

def path? : Option Path :=
  match found.values.lookup name with
  | some (.path path) => some path
  | _ => none

def number? : Option Float :=
  match found.values.lookup name with
  | some (.number number) => some number
  | _ => none

def count? : Option Nat :=
  match found.values.lookup name with
  | some (.count count) => some count
  | _ => none

def encoding? : Option Encoding :=
  match found.values.lookup name with
  | some (.encoding encoding) => some encoding
  | _ => none

end Matches

/-! ## Parsers -/

inductive UsageError
  | noCommand
  | unknownCommand (name : String)
  | unknownOption (name : String)
  | unexpectedOperand (text : String)
  | missing (names : List String)
  | repeated (name : String)
  | noValue (name : String)
  | unwantedValue (name : String)
  | unusableValue (name value : String)
  deriving DecidableEq, Repr

def UsageError.message : UsageError → String
  | .noCommand => "a command is required"
  | .unknownCommand name => "unknown command `" ++ name ++ "`"
  | .unknownOption name => "unknown option `" ++ name ++ "`"
  | .unexpectedOperand text => "unexpected argument `" ++ text ++ "`"
  | .missing names => "missing: " ++ ", ".intercalate names
  | .repeated name => "`" ++ name ++ "` is given more than once"
  | .noValue name => "`" ++ name ++ "` needs a value"
  | .unwantedValue name => "`" ++ name ++ "` takes no value"
  | .unusableValue name value => "`" ++ value ++ "` is no value for `" ++ name ++ "`"

inductive Stop
  | misuse (error : UsageError)
  | help (text : String)
  | version (title : String)
  deriving DecidableEq, Repr

abbrev Parser := Declaration → List String → Except Stop Matches

def needed {α : Type} (name : String) : Option α → Except Stop α
  | some value => .ok value
  | none => .error (.misuse (.missing [name]))

end Accelerometer.CommandLine
