import Accelerometer.Text.Hex
import Accelerometer.Toml.Blank

/-!
# Quoted texts

Texts in quotes, of one line or of many, with escapes or without: how they are read, and which of
the four forms a text is written in.
-/

namespace Accelerometer.Toml

/-! ## Reading -/

def escaped? : Char → Option Char
  | 'b' => some '\x08'
  | 't' => some '\t'
  | 'n' => some '\n'
  | 'f' => some '\x0C'
  | 'r' => some '\r'
  | '"' => some '"'
  | '\\' => some '\\'
  | _ => none

def charOfCode? (code : Nat) : Option Char :=
  if code.isValidChar then some (Char.ofNat code) else none

inductive Escape
  /-- In plain text. -/
  | no
  /-- After a backslash. -/
  | begun
  /-- In a code point, with so many digits to come after the next one. -/
  | code (left value : Nat)
  deriving DecidableEq, Repr

def ahead (c : Char) : Option (List Char × List Char) → Option (List Char × List Char) :=
  Option.map fun (text, rest) => (c :: text, rest)

def readBasic : Escape → Reader (List Char)
  | _, [] => none
  | .no, c :: rest =>
    if c = '"' then some ([], rest)
    else if c = '\\' then readBasic .begun rest
    else if isPrintable c then ahead c (readBasic .no rest)
    else none
  | .begun, c :: rest =>
    if c = 'u' then readBasic (.code 3 0) rest
    else if c = 'U' then readBasic (.code 7 0) rest
    else (escaped? c).bind fun character => ahead character (readBasic .no rest)
  | .code left value, c :: rest =>
    (Text.hexValue? c).bind fun digit =>
      let value := 16 * value + digit
      match left with
      | left + 1 => readBasic (.code left value) rest
      | 0 => (charOfCode? value).bind fun character => ahead character (readBasic .no rest)

def readLiteral : Reader (List Char)
  | [] => none
  | c :: rest =>
    if c = '\'' then some ([], rest)
    else if isPrintable c then ahead c (readLiteral rest)
    else none

inductive LongEscape
  /-- In plain text, after a number of quotes. -/
  | no (quotes : Nat)
  | begun
  /-- After a backslash and blanks, before the end of the line. -/
  | breaking
  /-- In the blanks and line ends after a backslash at the end of a line. -/
  | joining
  | code (left value : Nat)
  deriving DecidableEq, Repr

def quotes (count : Nat) : List Char :=
  List.replicate count '"'

def aheadAll (text : List Char) : Option (List Char × List Char) → Option (List Char × List Char) :=
  Option.map fun (more, rest) => (text ++ more, rest)

/-- Reads a text of many lines with escapes up to its closing quotes. One or two quotes are part of
the text, also right before the three that close it. -/
def readLongBasic : LongEscape → Reader (List Char)
  | .no count, [] => if 3 ≤ count then some (quotes (count - 3), []) else none
  | _, [] => none
  | .no count, c :: rest =>
    if c = '"' then
      if count = 4 then some (quotes 2, rest) else readLongBasic (.no (count + 1)) rest
    else if 3 ≤ count then some (quotes (count - 3), c :: rest)
    else aheadAll (quotes count) <|
      if c = '\\' then readLongBasic .begun rest
      else if c = '\r' then
        match rest with
        | '\n' :: rest => ahead '\n' (readLongBasic (.no 0) rest)
        | _ => none
      else if isPrintable c ∨ c = '\n' then ahead c (readLongBasic (.no 0) rest)
      else none
  | .begun, c :: rest =>
    if c = 'u' then readLongBasic (.code 3 0) rest
    else if c = 'U' then readLongBasic (.code 7 0) rest
    else if c = '\n' then readLongBasic .joining rest
    else if isBlank c ∨ c = '\r' then
      match c, rest with
      | '\r', '\n' :: rest => readLongBasic .joining rest
      | '\r', _ => none
      | _, rest => readLongBasic .breaking rest
    else (escaped? c).bind fun character => ahead character (readLongBasic (.no 0) rest)
  | .breaking, c :: rest =>
    if c = '\n' then readLongBasic .joining rest
    else if c = '\r' then
      match rest with
      | '\n' :: rest => readLongBasic .joining rest
      | _ => none
    else if isBlank c then readLongBasic .breaking rest
    else none
  | .joining, c :: rest =>
    if isBlank c ∨ c = '\n' then readLongBasic .joining rest
    else if c = '\r' then
      match rest with
      | '\n' :: rest => readLongBasic .joining rest
      | _ => none
    else if c = '"' then readLongBasic (.no 1) rest
    else if c = '\\' then readLongBasic .begun rest
    else if isPrintable c then ahead c (readLongBasic (.no 0) rest)
    else none
  | .code left value, c :: rest =>
    (Text.hexValue? c).bind fun digit =>
      let value := 16 * value + digit
      match left with
      | left + 1 => readLongBasic (.code left value) rest
      | 0 => (charOfCode? value).bind fun character => ahead character (readLongBasic (.no 0) rest)

def readLongLiteral : (count : Nat) → Reader (List Char)
  | count, [] => if 3 ≤ count then some (List.replicate (count - 3) '\'', []) else none
  | count, c :: rest =>
    if c = '\'' then
      if count = 4 then some (['\'', '\''], rest) else readLongLiteral (count + 1) rest
    else if 3 ≤ count then some (List.replicate (count - 3) '\'', c :: rest)
    else aheadAll (List.replicate count '\'') <|
      if c = '\r' then
        match rest with
        | '\n' :: rest => ahead '\n' (readLongLiteral 0 rest)
        | _ => none
      else if isPrintable c ∨ c = '\n' then ahead c (readLongLiteral 0 rest)
      else none

def skipLineEnd (text : List Char) : List Char :=
  (lineEnd? text).getD text

def readShort : Reader (List Char)
  | '"' :: rest => readBasic .no rest
  | '\'' :: rest => readLiteral rest
  | _ => none

def readQuoted : Reader (List Char)
  | '"' :: '"' :: '"' :: rest => readLongBasic (.no 0) (skipLineEnd rest)
  | '\'' :: '\'' :: '\'' :: rest => readLongLiteral 0 (skipLineEnd rest)
  | text => readShort text

/-! ## Writing -/

inductive Form
  | basic
  | literal
  | longBasic
  | longLiteral
  deriving DecidableEq, Repr

def isControl (c : Char) : Bool :=
  (c.toNat < 0x20 && c != '\t' && c != '\n') || c.toNat == 0x7F

def longestRun (c : Char) : (run : Nat) → List Char → Nat
  | run, [] => run
  | run, d :: rest => if d = c then longestRun c (run + 1) rest else max run (longestRun c 0 rest)

/-- The form of a text: the first of the four, from the plainest on, that needs no escapes but for
tabs; if there is none, a form with escapes. -/
def formOf (text : List Char) : Form :=
  let controls := text.any isControl
  let backslash := text.contains '\\'
  let lineFeed := text.contains '\n'
  let doubles := longestRun '"' 0 text
  let singles := longestRun '\'' 0 text
  if !controls && !backslash && doubles == 0 && !lineFeed then .basic
  else if !controls && singles == 0 && !lineFeed then .literal
  else if !controls && !backslash && doubles ≤ 2 then .longBasic
  else if !controls && singles ≤ 2 then .longLiteral
  else if lineFeed then .longBasic
  else .basic

def codeEscape (c : Char) : List Char :=
  '\\' :: 'u' :: (Text.hexDigits 4 c.toNat).map Char.toUpper

/-- Writes a text with escapes. A quote is escaped if more than `allowed` come in a row, of which
`run` have come already; line feeds stand for themselves if `long`. -/
def escapeText (long : Bool) (allowed : Nat) : (run : Nat) → List Char → List Char
  | _, [] => []
  | run, c :: rest =>
    if c = '"' then
      if run < allowed then c :: escapeText long allowed (run + 1) rest
      else '\\' :: '"' :: escapeText long allowed 0 rest
    else
      let written :=
        if c = '\x08' then ['\\', 'b']
        else if c = '\t' then ['\\', 't']
        else if c = '\n' then if long then ['\n'] else ['\\', 'n']
        else if c = '\x0C' then ['\\', 'f']
        else if c = '\r' then ['\\', 'r']
        else if c = '\\' then ['\\', '\\']
        else if isControl c then codeEscape c
        else [c]
      written ++ escapeText long allowed 0 rest

def opening (text : List Char) : List Char :=
  if text.contains '\n' then ['\n'] else []

def writeQuoted (text : List Char) : List Char :=
  let triple (c : Char) := [c, c, c]
  match formOf text with
  | .basic => '"' :: escapeText false 0 0 text ++ ['"']
  | .literal => '\'' :: text ++ ['\'']
  | .longBasic => triple '"' ++ opening text ++ escapeText true 2 0 text ++ triple '"'
  | .longLiteral => triple '\'' ++ opening text ++ text ++ triple '\''

end Accelerometer.Toml
