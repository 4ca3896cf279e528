import Accelerometer.Proofs.Toml.Value

/-!
# Documents are read back

* `key_bare`: the name of a table or of a value.
* `within_addKey`: a value goes to the table that has been opened last.
* `read_document`: the tables of a document, whatever their values are.
-/

namespace Accelerometer.Proofs.Toml
open Accelerometer.Toml

variable {c : Char} {name table : String} {text rest : List Char} {item : Item}
  {before inner entries : Entries}

/-! ## Keys -/

@[mk_iff]
structure IsBare (name : String) : Prop where
  bare : ∀ c ∈ name.toList, isBareKey c = true
  nonempty : name.toList ≠ []

theorem isBareKey_unblank (bare : isBareKey c = true) : isBlank c = false := by
  simp only [isBlank, Bool.or_eq_false_iff, beq_eq_false_iff_ne]
  constructor
  · rintro rfl
    cases bare
  · rintro rfl
    cases bare

theorem skipBlanks_unblank (unblank : isBlank c = false) (text : List Char) :
    skipBlanks (c :: text) = c :: text := by
  rw [skipBlanks, List.dropWhile_cons_of_neg (Bool.eq_false_iff.mp unblank)]

theorem keyPart_bare (isBare : IsBare name) (stops : ∀ c ∈ rest.head?, isBareKey c = false) :
    keyPart? (name.toList ++ rest) = some (name, skipBlanks rest) := by
  have span : (name.toList ++ rest).span isBareKey = (name.toList, rest) := by
    rw [List.span_eq_takeWhile_dropWhile, List.takeWhile_append_of_pos isBare.bare,
      List.dropWhile_append_of_pos isBare.bare]
    cases rest with
    | nil => simp
    | cons d rest => simp [stops d rfl]
  have named : some (String.ofList name.toList, skipBlanks rest) = some (name, skipBlanks rest) := by
    rw [String.ofList_toList]
  have bare := isBare.bare
  rw [← named]
  obtain ⟨c, more, begins⟩ := List.exists_cons_of_ne_nil isBare.nonempty
  rw [begins] at span bare ⊢
  have first := bare c List.mem_cons_self
  have unblank := skipBlanks_unblank (isBareKey_unblank first) (more ++ rest)
  simp only [keyPart?, List.cons_append, unblank] at span ⊢
  split
  · rename_i same
    obtain ⟨rfl, -⟩ := List.cons.inj same
    cases first
  · rename_i same
    obtain ⟨rfl, -⟩ := List.cons.inj same
    cases first
  · rw [span]
    rfl

theorem key_bare (isBare : IsBare name) (stops : ∀ c ∈ rest.head?, isBareKey c = false)
    (undotted : (skipBlanks rest).head? ≠ some '.') :
    key? (name.toList ++ rest) = some (([], name), skipBlanks rest) := by
  have parts : ∀ fuel, keyParts? (fuel + 1) (name.toList ++ rest) = some ([name], skipBlanks rest) := by
    intro fuel
    rw [keyParts?, keyPart_bare isBare stops]
    cases after : skipBlanks rest with
    | nil => rfl
    | cons c more =>
        rw [after] at undotted
        have noDot : c ≠ '.' := by simpa using undotted
        simp [noDot]
  rw [key?, maxDepth, parts]
  rfl

/-! ## Entries -/

theorem find_of_not_mem (absent : name ∉ before.map Prod.fst) : before.find? name = none := by
  rw [Entries.find?, List.lookup_eq_none_iff]
  rintro entry member
  rw [bne_iff_ne]
  rintro rfl
  exact absent (List.mem_map_of_mem member)

theorem openTable_absent (absent : before.find? table = none) :
    before.openTable? table = some (before ++ [(table, .table .header [])]) := by
  rw [Entries.openTable?, absent]

theorem within_addKey {key : String} (absent : before.find? table = none)
    (new : inner.find? key = none) (item : Item) :
    Entries.within? (Entries.addKey? [] key item) [table] (before ++ [(table, .table .header inner)]) =
      some (before ++ [(table, .table .header (inner ++ [(key, item)]))]) := by
  have found : Entries.find? (before ++ [(table, .table .header inner)]) table =
      some (.table .header inner) := by
    rw [Entries.find?, List.lookup_append, ← Entries.find?, absent]
    simp
  have others : Entries.replace before table (.table .header (inner ++ [(key, item)])) = before := by
    rw [Entries.find?, List.lookup_eq_none_iff] at absent
    refine (List.map_congr_left fun entry member => if_neg ?_).trans (List.map_id _)
    rintro rfl
    simpa using absent entry member
  have added : Entries.addKey? [] key item inner = some (inner ++ [(key, item)]) := by
    simp [Entries.addKey?, Entries.addDotted?, Entries.add?, new]
  have last : Entries.replace [(table, .table .header inner)] table
      (.table .header (inner ++ [(key, item)])) = [(table, .table .header (inner ++ [(key, item)]))] := by
    simp [Entries.replace]
  have header : Origin.header ≠ .inline := by decide
  simp only [Entries.within?, found, if_neg header, added, Option.bind_eq_bind, Option.bind_some]
  rw [Entries.replace, List.map_append, ← Entries.replace, ← Entries.replace, others, last]
  rfl

/-! ## Lines -/

theorem keyValue_bare {draft : Draft} (isBare : IsBare name) (reads : ReadsAs text item)
    (rest : List Char)
    (added : draft.entries.within? (Entries.addKey? [] name item) draft.header = some entries) :
    keyValue? draft (name.toList ++ ' ' :: '=' :: ' ' :: (text ++ '\n' :: rest)) =
      some (⟨entries, draft.header⟩, rest) := by
  have key : key? (name.toList ++ ' ' :: '=' :: ' ' :: (text ++ '\n' :: rest)) = some (([], name), _) :=
    key_bare isBare (by simp; rfl) (by simp [skipBlanks, isBlank])
  have value : skipBlanks (' ' :: (text ++ '\n' :: rest)) = text ++ '\n' :: rest := by
    obtain ⟨c, more, rfl, unblank⟩ := reads.unblank
    exact skipBlanks_unblank unblank (more ++ '\n' :: rest)
  have read := reads.value (2 * (text ++ '\n' :: rest).length + 1) maxDepth rest
  have equals : mark? '=' (skipBlanks (' ' :: '=' :: ' ' :: (text ++ '\n' :: rest))) =
      some (' ' :: (text ++ '\n' :: rest)) := rfl
  simp only [keyValue?, key, equals, value, enough, read, added, Option.bind_eq_bind, Option.bind_some]
  rfl

theorem header_bare {draft : Draft} (isBare : IsBare name) (rest : List Char)
    (opened : draft.entries.openTable? name = some entries) :
    header? draft (name.toList ++ ']' :: '\n' :: rest) = some (⟨entries, [name]⟩, rest) := by
  have key : key? (name.toList ++ ']' :: '\n' :: rest) = some (([], name), _) :=
    key_bare isBare (by simp; rfl) (by simp [skipBlanks, isBlank])
  have within : draft.entries.within? (Entries.openTable? name) [] = some entries := opened
  have bare := isBare.bare
  obtain ⟨c, more, begins⟩ := List.exists_cons_of_ne_nil isBare.nonempty
  rw [begins] at key bare ⊢
  have noBracket : c ≠ '[' := by
    rintro rfl
    cases bare _ List.mem_cons_self
  unfold header?
  split
  · rename_i same
    exact absurd (List.cons.inj same).1 noBracket
  · simp only [key, within, Option.bind_eq_bind, Option.bind_some]
    rfl

/-! ## Documents -/

structure Line where
  key : String
  text : List Char
  item : Item
  isBare : IsBare key
  reads : ReadsAs text item

def Line.written (line : Line) : List Char :=
  line.key.toList ++ ' ' :: '=' :: ' ' :: (line.text ++ ['\n'])

def Line.entry (line : Line) : String × Item :=
  (line.key, line.item)

structure Table where
  name : String
  lines : List Line
  isBare : IsBare name
  distinct : (lines.map Line.key).Nodup

def Table.written (table : Table) : List Char :=
  '[' :: (table.name.toList ++ ']' :: '\n' :: table.lines.flatMap Line.written)

def Table.entry (table : Table) : String × Item :=
  (table.name, .table .header (table.lines.map Line.entry))

/-- The text goes on with a document of the given entries, whatever more lines may be read. -/
def Yields (draft : Draft) (text : List Char) (entries : Entries) : Prop :=
  ∀ fuel, text.length < fuel → readLines? fuel draft text = some entries

theorem yields_end (draft : Draft) : Yields draft [] draft.entries := by
  intro fuel enough
  obtain ⟨fuel, rfl⟩ := Nat.exists_eq_add_one.mpr enough
  rfl

theorem yields_blank {draft : Draft} (yields : Yields draft rest entries) :
    Yields draft ('\n' :: rest) entries := by
  intro fuel enough
  obtain ⟨fuel, rfl⟩ := Nat.exists_eq_add_one.mpr (Nat.zero_lt_of_lt enough)
  exact yields fuel (by simpa using enough)

theorem readLines_key {draft draft' : Draft} (bare : isBareKey c = true)
    (read : keyValue? draft (c :: text) = some (draft', rest)) (fuel : Nat) :
    readLines? (fuel + 1) draft (c :: text) = readLines? fuel draft' rest := by
  have other : ∀ {d : Char} {more : List Char}, isBareKey d = false → c :: text ≠ d :: more := by
    rintro d more noKey same
    obtain ⟨rfl, -⟩ := List.cons.inj same
    rw [bare] at noKey
    cases noKey
  simp only [readLines?, skipBlanks_unblank (isBareKey_unblank bare)]
  split
  · rename_i same
    cases same
  · rename_i same
    exact absurd same (other rfl)
  · rename_i same
    exact absurd same (other rfl)
  · rename_i same
    exact absurd same (other rfl)
  · rename_i same
    exact absurd same (other rfl)
  · rw [read]
    rfl

theorem yields_line {draft : Draft} {added : Entries} (line : Line)
    (adds : draft.entries.within? (Entries.addKey? [] line.key line.item) draft.header = some added)
    (yields : Yields ⟨added, draft.header⟩ rest entries) :
    Yields draft (line.written ++ rest) entries := by
  intro fuel enough
  obtain ⟨fuel, rfl⟩ := Nat.exists_eq_add_one.mpr (Nat.zero_lt_of_lt enough)
  have written : line.written ++ rest =
      line.key.toList ++ ' ' :: '=' :: ' ' :: (line.text ++ '\n' :: rest) := by
    simp [Line.written]
  have read := keyValue_bare line.isBare line.reads rest adds
  have shorter : rest.length < fuel := by
    rw [written] at enough
    simp at enough
    omega
  obtain ⟨c, more, first⟩ := List.exists_cons_of_ne_nil line.isBare.nonempty
  have bare := line.isBare.bare c (by simp [first])
  rw [first, List.cons_append] at read
  rw [written, first, List.cons_append, readLines_key bare read, yields fuel shorter]

theorem yields_header {draft : Draft} {added : Entries} (isBare : IsBare table)
    (opens : draft.entries.openTable? table = some added)
    (yields : Yields ⟨added, [table]⟩ rest entries) :
    Yields draft ('[' :: (table.toList ++ ']' :: '\n' :: rest)) entries := by
  intro fuel enough
  obtain ⟨fuel, rfl⟩ := Nat.exists_eq_add_one.mpr (Nat.zero_lt_of_lt enough)
  have read := header_bare isBare rest opens
  have shorter : rest.length < fuel := by
    simp at enough
    omega
  have bracket : skipBlanks ('[' :: (table.toList ++ ']' :: '\n' :: rest)) =
      '[' :: (table.toList ++ ']' :: '\n' :: rest) := rfl
  rw [readLines?, bracket]
  simp only [read, Option.bind_eq_bind, Option.bind_some]
  exact yields fuel shorter

theorem yields_lines (absent : before.find? table = none) (lines : List Line)
    (distinct : (inner.map Prod.fst ++ lines.map Line.key).Nodup)
    (yields : Yields ⟨before ++ [(table, .table .header (inner ++ lines.map Line.entry))], [table]⟩
      rest entries) :
    Yields ⟨before ++ [(table, .table .header inner)], [table]⟩ (lines.flatMap Line.written ++ rest)
      entries := by
  induction lines generalizing inner with
  | nil => simpa using yields
  | cons line lines ih =>
      have new : inner.find? line.key = none := by
        apply find_of_not_mem
        intro member
        exact List.disjoint_of_nodup_append distinct member List.mem_cons_self
      rw [List.flatMap_cons, List.append_assoc]
      refine yields_line line (within_addKey absent new line.item) (ih ?_ ?_)
      · simpa using distinct
      · simpa [Line.entry] using yields

theorem yields_table {header : List String} (table : Table) (absent : before.find? table.name = none)
    (yields : Yields ⟨before ++ [table.entry], [table.name]⟩ rest entries) :
    Yields ⟨before, header⟩ (table.written ++ rest) entries := by
  have lines : Yields ⟨before ++ [(table.name, .table .header [])], [table.name]⟩ _ entries :=
    yields_lines absent table.lines table.distinct yields
  have written : table.written ++ rest =
      '[' :: (table.name.toList ++ ']' :: '\n' :: (table.lines.flatMap Line.written ++ rest)) := by
    simp [Table.written]
  rw [written]
  exact yields_header table.isBare (openTable_absent absent) lines

theorem yields_tables {header : List String} (tables : List Table)
    (distinct : (before.map Prod.fst ++ tables.map Table.name).Nodup) :
    Yields ⟨before, header⟩ (tables.flatMap fun table => '\n' :: table.written)
      (before ++ tables.map Table.entry) := by
  induction tables generalizing before header with
  | nil => simpa using yields_end ⟨before, header⟩
  | cons table tables ih =>
      have absent : before.find? table.name = none := by
        apply find_of_not_mem
        intro member
        exact List.disjoint_of_nodup_append distinct member List.mem_cons_self
      have others : Yields ⟨before ++ [table.entry], [table.name]⟩ _ _ :=
        ih (by simpa [Table.entry] using distinct)
      rw [List.append_assoc] at others
      exact yields_blank (yields_table table absent others)

/-- A document of tables with a blank line between any two is read as the entries of its tables. -/
theorem read_document (first : Table) (others : List Table)
    (distinct : ((first :: others).map Table.name).Nodup) :
    read? (first.written ++ others.flatMap fun table => '\n' :: table.written) =
      some ((first :: others).map Table.entry) := by
  have behind : Yields ⟨[first.entry], [first.name]⟩ _ _ := yields_tables others distinct
  have whole : Yields ⟨[], []⟩ _ _ := yields_table first rfl behind
  exact whole _ (Nat.lt_succ_self _)

end Accelerometer.Proofs.Toml
