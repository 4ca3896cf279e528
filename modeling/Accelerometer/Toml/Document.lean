import Accelerometer.Toml.Number
import Accelerometer.Toml.Quoted

/-!
# Documents

Reading a whole document: keys, values, headers and lines.
-/

namespace Accelerometer.Toml

def maxDepth : Nat := 79

def isBareKey (c : Char) : Bool :=
  c.isAlphanum || c == '_' || c == '-'

def keyPart? (text : List Char) : Option (String × List Char) :=
  let text := skipBlanks text
  match text with
  | '"' :: _ | '\'' :: _ => (readShort text).map fun (name, rest) => (.ofList name, skipBlanks rest)
  | _ =>
    let (name, rest) := text.span isBareKey
    if name.isEmpty then none else some (.ofList name, skipBlanks rest)

def keyParts? : (fuel : Nat) → Reader (List String)
  | 0, _ => none
  | fuel + 1, text => do
    let (name, rest) ← keyPart? text
    match rest with
    | '.' :: rest =>
      let (names, rest) ← keyParts? fuel rest
      return (name :: names, rest)
    | _ => return ([name], rest)

def key? (text : List Char) : Option ((List String × String) × List Char) := do
  let (names, rest) ← keyParts? maxDepth text
  return ((names.dropLast, ← names.getLast?), rest)

def word? (word : String) (item : Item) (text : List Char) : Option (Item × List Char) :=
  if word.toList.isPrefixOf text then some (item, text.drop word.length) else none

def scalar? (text : List Char) : Option (Item × List Char) :=
  match text with
  | '"' :: _ | '\'' :: _ => (readQuoted text).map fun (value, rest) => (.text (.ofList value), rest)
  | 't' :: _ => word? "true" (.boolean true) text
  | 'f' :: _ => word? "false" (.boolean false) text
  | _ => (dateTime? text).or (number? text)

mutual

def value? : (fuel depth : Nat) → Reader Item
  | 0, _, _ => none
  | fuel + 1, depth, '[' :: rest => do
    let depth + 1 := depth | none
    let (items, rest) ← elements? fuel depth rest
    return (.array items, rest)
  | fuel + 1, depth, '{' :: rest => do
    let depth + 1 := depth | none
    let rest := skipBlanks rest
    match rest with
    | '}' :: rest => return (.table .inline [], rest)
    | _ =>
      let (entries, rest) ← pairs? fuel depth [] rest
      return (.table .inline entries, rest)
  | _ + 1, _, text => scalar? text

def elements? : (fuel depth : Nat) → Reader (List Item)
  | 0, _, _ => none
  | fuel + 1, depth, text => do
    match ← skipLines false text with
    | ']' :: rest => return ([], rest)
    | text =>
      let (item, rest) ← value? fuel depth text
      match ← skipLines false rest with
      | ',' :: rest =>
        let (items, rest) ← elements? fuel depth rest
        return (item :: items, rest)
      | ']' :: rest => return ([item], rest)
      | _ => none

def pairs? : (fuel depth : Nat) → Entries → Reader Entries
  | 0, _, _, _ => none
  | fuel + 1, depth, entries, text => do
    let ((names, name), rest) ← key? text
    let (item, rest) ← value? fuel depth (skipBlanks (← mark? '=' rest))
    let entries ← entries.addKey? names name item
    match skipBlanks rest with
    | ',' :: rest => pairs? fuel depth entries rest
    | '}' :: rest => return (entries, rest)
    | _ => none

end

def enough (text : List Char) : Nat :=
  2 * text.length + 2

structure Draft where
  entries : Entries
  header : List String

def header? (draft : Draft) (text : List Char) : Option (Draft × List Char) := do
  match text with
  | '[' :: rest =>
    let ((names, name), rest) ← key? rest
    let rest ← mark? ']' (← mark? ']' rest)
    let entries ← draft.entries.within? (Entries.openElement? name) names
    return (⟨entries, names ++ [name]⟩, ← finishLine? rest)
  | _ =>
    let ((names, name), rest) ← key? text
    let rest ← mark? ']' rest
    let entries ← draft.entries.within? (Entries.openTable? name) names
    return (⟨entries, names ++ [name]⟩, ← finishLine? rest)

def keyValue? (draft : Draft) (text : List Char) : Option (Draft × List Char) := do
  let ((names, name), rest) ← key? text
  let rest := skipBlanks (← mark? '=' rest)
  let (item, rest) ← value? (enough rest) maxDepth rest
  let entries ← draft.entries.within? (Entries.addKey? names name item) draft.header
  return ({ draft with entries }, ← finishLine? rest)

def readLines? : (fuel : Nat) → Draft → List Char → Option Entries
  | 0, _, _ => none
  | fuel + 1, draft, text => do
    match skipBlanks text with
    | [] => return draft.entries
    | '#' :: rest => readLines? fuel draft (← finishLine? ('#' :: rest))
    | '[' :: rest =>
      let (draft, rest) ← header? draft rest
      readLines? fuel draft rest
    | '\n' :: rest => readLines? fuel draft rest
    | '\r' :: '\n' :: rest => readLines? fuel draft rest
    | text =>
      let (draft, rest) ← keyValue? draft text
      readLines? fuel draft rest

def dropMark : List Char → List Char
  | '\uFEFF' :: rest => rest
  | text => text

def read? (text : List Char) : Option Entries :=
  let text := dropMark text
  readLines? (text.length + 1) ⟨[], []⟩ text

end Accelerometer.Toml
