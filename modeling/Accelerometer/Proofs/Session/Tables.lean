import Accelerometer.Proofs.Session.Rows
import Accelerometer.Proofs.Text.Lines

/-!
# Tables and their layouts

A session file is a table with a column for each of four quantities, and maybe others. How the table is
laid out is not seen in what is loaded: the order of the columns, blanks around cells, the kind of line
breaks and blank lines.

* `split_line`: a line of a layout, cut into its cells.
* `columns_header_line`: where the four columns are found.
* `numbersIn_line`: the row that a line gives.
* `lines_text`: the text of a layout, cut into its lines.
* `load_layout`: the file of a layout.
* `layouts_load_alike`: two layouts of one table.
-/

namespace Accelerometer.Proofs.Session
open Accelerometer.Session Accelerometer.Storage Proofs.Csv Proofs.Storage Proofs.Text

inductive Quantity
  | time
  | x
  | y
  | z
  deriving DecidableEq

def Quantity.name : Quantity → String
  | .time => "time"
  | .x => "x"
  | .y => "y"
  | .z => "z"

structure Cell where
  text : List Char
  single : (text.all fun c => !Text.isLineEnd c) = true

structure Space extends Cell where
  blank : text.all Text.isBlank = true

abbrev TableRow (κ : Type) := Quantity ⊕ κ → Cell

structure Table (κ : Type) where
  name : κ → Cell
  rows : List (TableRow κ)
  foreign : ∀ other quantity, Text.trim (name other).text ≠ (Quantity.name quantity).toList

structure Margins where
  before : Space
  opening : Space
  closing : Space
  after : Space

/-- The lines are numbered from the header on, which has the number zero. -/
structure Layout (κ : Type) where
  order : List (Quantity ⊕ κ)
  complete : ∀ column, column ∈ order
  margins : Nat → Quantity ⊕ κ → Margins
  lineBreak : Nat → LineBreak
  /-- The blank lines below a line. -/
  blankLines : Nat → List (Space × LineBreak)
  /-- Whether the last line has a break. -/
  closed : Bool

variable {κ : Type} {table : Table κ} {layout : Layout κ} {storage : Storage} {path : Path}
  {columns : Columns}

/-! ## What a table says -/

def Table.header (table : Table κ) : TableRow κ
  | .inl quantity => ⟨quantity.name.toList, by cases quantity <;> decide⟩
  | .inr other => table.name other

def sampleOf (row : TableRow κ) : Sample :=
  let field (quantity : Quantity) := String.ofList (Text.trim (row (.inl quantity)).text)
  ⟨field .time, field .x, field .y, field .z⟩

def Table.session (table : Table κ) : Session :=
  ⟨table.rows.filterMap fun row => (sampleOf row).measurement?⟩

/-! ## How it is laid out -/

def Margins.content (margins : Margins) (cell : Cell) : List Char :=
  margins.opening.text ++ (cell.text ++ margins.closing.text)

def Margins.written (margins : Margins) (cell : Cell) : List Char :=
  margins.before.text ++ (Csv.quote (margins.content cell) ++ margins.after.text)

def Margins.field (margins : Margins) (cell : Cell) : List Char :=
  margins.before.text ++ (margins.content cell ++ margins.after.text)

def Layout.line (layout : Layout κ) (number : Nat) (row : TableRow κ) : List Char :=
  [','].intercalate (layout.order.map fun column =>
    (layout.margins number column).written (row column))

def Layout.lines (layout : Layout κ) (rows : List (TableRow κ × Nat)) :
    List (List Char × LineBreak) :=
  rows.flatMap fun (row, number) =>
    (layout.line number row, layout.lineBreak number) ::
      (layout.blankLines number).map fun (space, lineBreak) => (space.text, lineBreak)

def Layout.text (layout : Layout κ) (table : Table κ) : String :=
  .ofList (joined layout.closed (layout.lines ((table.header :: table.rows).zipIdx)))

/-! ## One cell -/

theorem Cell.plain (cell : Cell) : ∀ c ∈ cell.text, Text.isLineEnd c = false := by
  simpa using cell.single

theorem Space.blanks (space : Space) : ∀ c ∈ space.text, Text.isBlank c = true :=
  List.all_eq_true.mp space.blank

theorem trim_field (margins : Margins) (cell : Cell) :
    Text.trim (margins.field cell) = Text.trim cell.text := by
  rw [Margins.field, Margins.content, trim_blanks_append margins.before.blanks,
    trim_append_blanks _ margins.after.blanks, trim_blanks_append margins.opening.blanks,
    trim_append_blanks _ margins.closing.blanks]

theorem Space.unquoted (space : Space) : Csv.needsQuotes space.text = false := by
  rw [Csv.needsQuotes, List.any_eq_false]
  intro c member
  have blank := space.blanks c member
  have plain := space.plain c member
  by_cases mark : c = ',' ∨ c = '"'
  · rcases mark with rfl | rfl <;> cases blank
  · simpa [plain] using mark

theorem writes_field (margins : Margins) (cell : Cell) :
    Writes (margins.written cell) (margins.field cell) :=
  writes_padded margins.before.unquoted margins.after.unquoted _

theorem written_plain (margins : Margins) (cell : Cell) :
    ∀ c ∈ margins.written cell, Text.isLineEnd c = false := by
  intro c member
  simp only [Margins.written, List.mem_append] at member
  rcases member with before | quoted | after
  · exact margins.before.plain c before
  · rcases mem_quote quoted with rfl | content
    · rfl
    · simp only [Margins.content, List.mem_append] at content
      rcases content with opening | cell' | closing
      · exact margins.opening.plain c opening
      · exact cell.plain c cell'
      · exact margins.closing.plain c closing
  · exact margins.after.plain c after

/-! ## One line -/

theorem split_line (layout : Layout κ) (number : Nat) (row : TableRow κ) :
    Csv.split (layout.line number row) =
      layout.order.map fun column => (layout.margins number column).field (row column) := by
  apply split_intercalate
  · intro column
    exact writes_field _ _
  · exact List.ne_nil_of_mem (layout.complete (.inl .time))

theorem line_plain (layout : Layout κ) (number : Nat) (row : TableRow κ) :
    ∀ c ∈ layout.line number row, Text.isLineEnd c = false := by
  intro c member
  rcases mem_intercalate member with rfl | ⟨written, isCell, inside⟩
  · rfl
  · obtain ⟨column, -, rfl⟩ := List.mem_map.mp isCell
    exact written_plain _ _ c inside

structure Locates (layout : Layout κ) (columns : Columns) : Prop where
  time : layout.order[columns.time]? = some (.inl .time)
  x : layout.order[columns.x]? = some (.inl .x)
  y : layout.order[columns.y]? = some (.inl .y)
  z : layout.order[columns.z]? = some (.inl .z)

theorem ofRow?_line (located : Locates layout columns) (number : Nat) (row : TableRow κ) :
    Sample.ofRow? columns (Csv.split (layout.line number row)) = some (sampleOf row) := by
  obtain ⟨time, x, y, z⟩ := located
  simp [Sample.ofRow?, split_line, time, x, y, z, trim_field, sampleOf]

theorem numbersIn_line (located : Locates layout columns) (number : Nat) (row : TableRow κ) :
    numbersIn columns (layout.line number row) = (sampleOf row).measurement? := by
  rw [numbersIn, ofRow?_line located]
  rfl

/-! ## The header -/

theorem trim_name (quantity : Quantity) :
    Text.trim quantity.name.toList = quantity.name.toList := by
  cases quantity <;> decide

theorem trim_header (table : Table κ) (column : Quantity ⊕ κ) (quantity : Quantity) :
    Text.trim (table.header column).text = quantity.name.toList ↔ column = .inl quantity := by
  cases column with
  | inl named =>
      rw [Table.header, trim_name, Sum.inl.injEq]
      cases named <;> cases quantity <;> decide
  | inr other => simpa [Table.header] using table.foreign other quantity

theorem column?_header (layout : Layout κ) (table : Table κ) (number : Nat) (quantity : Quantity) :
    ∃ position, column? (Csv.split (layout.line number table.header)) quantity.name = some position ∧
      layout.order[position]? = some (.inl quantity) := by
  let named (column : Quantity ⊕ κ) : Bool :=
    Text.trim (table.header column).text == quantity.name.toList
  have named_iff : ∀ column, named column = true ↔ column = .inl quantity := by
    intro column
    rw [beq_iff_eq, trim_header]
  have found : (layout.order.findIdx? named).isSome := by
    rw [List.findIdx?_isSome, List.any_eq_true]
    exact ⟨.inl quantity, layout.complete _, (named_iff _).mpr rfl⟩
  obtain ⟨position, first⟩ := Option.isSome_iff_exists.mp found
  refine ⟨position, ?_, ?_⟩
  · rw [column?, split_line, List.findIdx?_map, ← first]
    congr 1
    funext column
    simp only [Function.comp_apply, trim_field, named]
  · obtain ⟨bound, here, -⟩ := List.findIdx?_eq_some_iff_getElem.mp first
    rw [List.getElem?_eq_getElem bound, (named_iff _).mp here]

theorem columns_header_line (layout : Layout κ) (table : Table κ) (number : Nat) :
    ∃ columns, Session.columns (layout.line number table.header) = .ok columns ∧
      Locates layout columns := by
  obtain ⟨time, timeFound, atTime⟩ := column?_header layout table number .time
  obtain ⟨x, xFound, atX⟩ := column?_header layout table number .x
  obtain ⟨y, yFound, atY⟩ := column?_header layout table number .y
  obtain ⟨z, zFound, atZ⟩ := column?_header layout table number .z
  refine ⟨⟨time, x, y, z⟩, ?_, ⟨atTime, atX, atY, atZ⟩⟩
  simp only [Quantity.name] at timeFound xFound yFound zFound
  simp [Session.columns, timeFound, xFound, yFound, zFound, bind, Except.bind, pure, Except.pure]

theorem header_ne_nil (layout : Layout κ) (table : Table κ) : layout.line 0 table.header ≠ [] := by
  obtain ⟨columns, named, -⟩ := columns_header_line layout table 0
  intro empty
  rw [empty] at named
  cases named

/-! ## All lines -/

theorem lines_plain (layout : Layout κ) (rows : List (TableRow κ × Nat)) :
    ∀ line ∈ layout.lines rows, ∀ c ∈ line.1, Text.isLineEnd c = false := by
  intro line member
  obtain ⟨⟨row, number⟩, -, member⟩ := List.mem_flatMap.mp member
  rcases List.mem_cons.mp member with rfl | member
  · exact line_plain layout number row
  · obtain ⟨⟨space, lineBreak⟩, -, rfl⟩ := List.mem_map.mp member
    exact space.plain

theorem lines_cons (layout : Layout κ) (row : TableRow κ) (number : Nat)
    (rows : List (TableRow κ × Nat)) :
    (layout.lines ((row, number) :: rows)).map Prod.fst =
      layout.line number row :: ((layout.blankLines number).map fun line => line.1.text) ++
        (layout.lines rows).map Prod.fst := by
  simp [Layout.lines]

theorem numbersIn_spaces (columns : Columns) (spaces : List (Space × LineBreak)) :
    (spaces.map fun line => line.1.text).filterMap (numbersIn columns) = [] := by
  rw [List.filterMap_map, List.filterMap_eq_nil_iff]
  intro line member
  exact numbersIn_blank columns (trim_eq_nil.mpr line.1.blanks)

theorem numbersIn_lines (located : Locates layout columns) (rows : List (TableRow κ × Nat)) :
    ((layout.lines rows).map Prod.fst).filterMap (numbersIn columns) =
      (rows.map Prod.fst).filterMap fun row => (sampleOf row).measurement? := by
  induction rows with
  | nil => rfl
  | cons row rows ih =>
      obtain ⟨row, number⟩ := row
      rw [lines_cons, List.filterMap_append, ih, List.filterMap_cons, numbersIn_spaces,
        numbersIn_line located, List.map_cons, List.filterMap_cons]
      cases (sampleOf row).measurement? <;> rfl

theorem lines_text (layout : Layout κ) (table : Table κ) :
    ∃ below lost, Text.lines (layout.text table).toList = layout.line 0 table.header :: below ∧
      ((layout.blankLines 0).map fun line => line.1.text) ++
        (layout.lines (table.rows.zipIdx 1)).map Prod.fst = below ++ lost ∧
      ∀ line ∈ lost, line = [] := by
  obtain ⟨lost, given, empty⟩ :=
    lines_joined (lines_plain layout ((table.header :: table.rows).zipIdx)) layout.closed
  rw [List.zipIdx_cons, lines_cons, List.cons_append] at given
  rw [Layout.text, String.toList_ofList, List.zipIdx_cons]
  cases cut : Text.lines (joined layout.closed (layout.lines ((table.header, 0) ::
      table.rows.zipIdx (0 + 1)))) with
  | nil =>
      -- only empty lines are lost, and the header is not one of them
      rw [cut, List.nil_append] at given
      exact absurd (empty _ (given ▸ List.mem_cons_self)) (header_ne_nil layout table)
  | cons first below =>
      rw [cut] at given
      obtain ⟨rfl, others⟩ := List.cons.inj given
      exact ⟨below, lost, rfl, others, empty⟩

theorem load_layout (held : storage.readText path = .ok (layout.text table)) :
    ∃ events, load storage path = .ok (table.session, events) := by
  obtain ⟨columns, named, located⟩ := columns_header_line layout table 0
  obtain ⟨below, lost, cut, given, empty⟩ := lines_text layout table
  have rows : below.filterMap (numbersIn columns) =
      table.rows.filterMap fun row => (sampleOf row).measurement? := by
    have same := congrArg (List.filterMap (numbersIn columns)) given
    have nothing : lost.filterMap (numbersIn columns) = [] := by
      rw [List.filterMap_eq_nil_iff]
      intro line member
      rw [empty line member]
      exact numbersIn_blank columns rfl
    rw [List.filterMap_append, List.filterMap_append, numbersIn_spaces, numbersIn_lines located,
      List.zipIdx_map_fst, nothing, List.append_nil] at same
    exact same.symm
  have loads := load_lines ⟨_, held, cut⟩ named
  rw [rows] at loads
  exact ⟨_, loads⟩

/-- Two files with the same table give the same session, however the table is laid out in each of them:
a row for each row of the table whose cells in the four columns are numerals. -/
theorem layouts_load_alike (table : Table κ) (layout layout' : Layout κ) (storage storage' : Storage)
    (path path' : Path) (held : storage.readText path = .ok (layout.text table))
    (held' : storage'.readText path' = .ok (layout'.text table)) :
    ∃ events events', load storage path = .ok (table.session, events) ∧
      load storage' path' = .ok (table.session, events') := by
  obtain ⟨events, loads⟩ := load_layout held
  obtain ⟨events', loads'⟩ := load_layout held'
  exact ⟨events, events', loads, loads'⟩

def emptySpace : Space :=
  ⟨⟨[], by decide⟩, by decide⟩

def oneSpace : Space :=
  ⟨⟨[' '], by decide⟩, by decide⟩

def plainLayout : Layout Unit where
  order := [.inl .time, .inl .x, .inl .y, .inl .z, .inr ()]
  complete := by rintro ((_ | _ | _ | _) | _) <;> simp
  margins _ _ := ⟨emptySpace, emptySpace, emptySpace, emptySpace⟩
  lineBreak _ := .feed
  blankLines _ := []
  closed := true

def wideLayout : Layout Unit where
  order := [.inr (), .inl .z, .inl .time, .inl .y, .inl .x]
  complete := by rintro ((_ | _ | _ | _) | _) <;> simp
  margins _ _ := ⟨oneSpace, oneSpace, oneSpace, oneSpace⟩
  lineBreak _ := .returnFeed
  blankLines _ := [(oneSpace, .feed)]
  closed := false

def notedRows : Table Unit where
  name _ := ⟨"note".toList, by decide⟩
  foreign _ quantity := by cases quantity <;> decide
  rows :=
    [fun
      | .inl .time => ⟨"1".toList, by decide⟩
      | .inl .x => ⟨"2".toList, by decide⟩
      | .inl .y => ⟨"3".toList, by decide⟩
      | .inl .z => ⟨"4".toList, by decide⟩
      | .inr _ => ⟨"a, \"b\"".toList, by decide⟩,
    fun
      | .inl .time => ⟨[], by decide⟩
      | _ => ⟨"5".toList, by decide⟩]

def plainNotes : Storage :=
  filled emptyStorage ["run.csv"]
    (octetsOf "time,x,y,z,note\n1,2,3,4,\"a, \"\"b\"\"\"\n,5,5,5,5\n")

def wideNotes : Storage :=
  filled emptyStorage ["run.csv"]
    (octetsOf ("  note  ,  z  ,  time  ,  y  ,  x  \r\n \n" ++
      " \" a, \"\"b\"\" \" ,  4  ,  1  ,  3  ,  2  \r\n \n  5  ,  5  ,    ,  5  ,  5  \r\n "))

set_option maxRecDepth 1000 in
theorem notedRows_alike :
    ∃ events events', load plainNotes ⟨"run.csv"⟩ = .ok (⟨[⟨1, 2, 3, 4⟩]⟩, events) ∧
      load wideNotes ⟨"run.csv"⟩ = .ok (⟨[⟨1, 2, 3, 4⟩]⟩, events') := by
  have plain : plainNotes.readText ⟨"run.csv"⟩ = .ok (plainLayout.text notedRows) := by rfl
  have wide : wideNotes.readText ⟨"run.csv"⟩ = .ok (wideLayout.text notedRows) := by rfl
  exact layouts_load_alike notedRows plainLayout wideLayout _ _ _ _ plain wide

end Accelerometer.Proofs.Session
