/-!
# Items of a document

The values that a document holds, and how a document grows key by key and header by header. A table
can be opened by its header once, and only the tables that dotted keys made can be added to by
dotted keys.
-/

namespace Accelerometer.Toml

inductive Origin
  /-- By its own header. -/
  | header
  /-- By the header of a table inside it. -/
  | passed
  /-- By a dotted key. -/
  | dotted
  /-- Written in braces; nothing can be added to it. -/
  | inline
  deriving DecidableEq, Repr

inductive Item
  | text (value : String)
  | integer (value : Int)
  | float (value : Float)
  | boolean (value : Bool)
  | dateTime
  | array (items : List Item)
  | table (origin : Origin) (entries : List (String × Item))
  /-- The tables that a doubled header has opened, each with its entries. -/
  | tables (elements : List (List (String × Item)))

abbrev Entries := List (String × Item)

namespace Entries

def find? (entries : Entries) (key : String) : Option Item :=
  entries.lookup key

def replace (entries : Entries) (key : String) (item : Item) : Entries :=
  entries.map fun entry => if entry.1 = key then (key, item) else entry

def add? (entries : Entries) (key : String) (item : Item) : Option Entries :=
  if (entries.find? key).isSome then none else some (entries ++ [(key, item)])

/-- Adds a key below the tables that a dotted key names. Missing ones are made; the last one must
have been made by a dotted key, and none may be closed or have a header of its own. -/
def addDotted? (key : String) (item : Item) : (dotted : Bool) → List String → Entries →
    Option Entries
  | dotted, [], entries => if dotted then entries.add? key item else none
  | _, name :: names, entries =>
    match entries.find? name with
    | none => do
      let made ← addDotted? key item true names []
      return entries ++ [(name, .table .dotted made)]
    | some (.table origin inner) =>
      if origin = .header ∨ origin = .inline then none
      else do
        let inner ← addDotted? key item (origin = .dotted) names inner
        return entries.replace name (.table origin inner)
    | some (.tables elements) => do
      let last ← addDotted? key item false names (← elements.getLast?)
      return entries.replace name (.tables (elements.dropLast ++ [last]))
    | some _ => none

def addKey? (names : List String) (key : String) (item : Item) (entries : Entries) :
    Option Entries :=
  addDotted? key item names.isEmpty names entries

/-- Changes the table that a header leads to, by way of the last element where tables are many.
Tables on the way that are missing are made. -/
def within? (change : Entries → Option Entries) : List String → Entries → Option Entries
  | [], entries => change entries
  | name :: names, entries =>
    match entries.find? name with
    | none => do
      let made ← within? change names []
      return entries ++ [(name, .table .passed made)]
    | some (.table origin inner) =>
      if origin = .inline then none
      else do
        let inner ← within? change names inner
        return entries.replace name (.table origin inner)
    | some (.tables elements) => do
      let last ← within? change names (← elements.getLast?)
      return entries.replace name (.tables (elements.dropLast ++ [last]))
    | some _ => none

def openTable? (key : String) (entries : Entries) : Option Entries :=
  match entries.find? key with
  | none => some (entries ++ [(key, .table .header [])])
  | some (.table .passed inner) => some (entries.replace key (.table .header inner))
  | some _ => none

def openElement? (key : String) (entries : Entries) : Option Entries :=
  match entries.find? key with
  | none => some (entries ++ [(key, .tables [[]])])
  | some (.tables elements) => some (entries.replace key (.tables (elements ++ [[]])))
  | some _ => none

end Entries

end Accelerometer.Toml
