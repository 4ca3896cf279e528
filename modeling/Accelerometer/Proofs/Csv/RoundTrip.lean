import Accelerometer.Csv.Row

/-!
# Rows and their fields

Cutting a row gives back the fields it was written from, whatever they hold.

* `splitFrom_quote`: one field, with the rest of the row behind it.
* `split_intercalate`, `split_row`: a whole row.
* `mem_splitFrom`: a field has only characters of its row.
* `mem_row`: the characters of a row are those of its fields, quotes and commas.
* `getLast?_row`: a row does not end as a line break begins.
-/

namespace Accelerometer.Proofs.Csv
open Accelerometer.Csv

variable {c : Char} {field rest : List Char} {fields : List (List Char)}

def escaped (field : List Char) : List Char :=
  field.flatMap fun c => if c = '"' then ['"', '"'] else [c]

def FieldEnd (rest : List Char) : Prop :=
  rest = [] ∨ ∃ more, rest = ',' :: more

theorem FieldEnd.noQuote (ending : FieldEnd rest) : rest.head? ≠ some '"' := by
  rcases ending with rfl | ⟨more, rfl⟩
  · simp
  · simp

theorem splitFrom_nil (quoted : Bool) : splitFrom quoted [] = [[]] := by
  cases quoted <;> rfl

theorem splitFrom_comma (rest : List Char) :
    splitFrom false (',' :: rest) = [] :: splitFrom false rest := by
  rfl

theorem splitFrom_opening (rest : List Char) :
    splitFrom false ('"' :: rest) = splitFrom true rest := by
  rw [splitFrom]
  · simp
  · simp

theorem splitFrom_closing (noQuote : rest.head? ≠ some '"') :
    splitFrom true ('"' :: rest) = splitFrom false rest := by
  cases rest with
  | nil => rfl
  | cons c rest =>
      rw [splitFrom]
      · simp
      · rintro more - - begins
        exact noQuote (congrArg List.head? begins)

theorem splitFrom_doubled (rest : List Char) :
    splitFrom true ('"' :: '"' :: rest) = extend '"' (splitFrom true rest) := by
  rfl

theorem splitFrom_quoted (noQuote : c ≠ '"') (rest : List Char) :
    splitFrom true (c :: rest) = extend c (splitFrom true rest) := by
  rw [splitFrom]
  · simp [noQuote]
  · simp [noQuote]

theorem splitFrom_unquoted (noQuote : c ≠ '"') (noComma : c ≠ ',') (rest : List Char) :
    splitFrom false (c :: rest) = extend c (splitFrom false rest) := by
  rw [splitFrom]
  · simp [noQuote, noComma]
  · simp

/-! ## One field -/

theorem splitFrom_plain (plain : needsQuotes field = false) (rest : List Char) :
    splitFrom false (field ++ rest) = field.foldr extend (splitFrom false rest) := by
  induction field with
  | nil => rfl
  | cons c field ih =>
      simp only [needsQuotes, List.any_cons, Bool.or_eq_false_iff, beq_eq_false_iff_ne] at plain ih
      obtain ⟨⟨⟨noComma, noQuote⟩, -⟩, others⟩ := plain
      rw [List.cons_append, splitFrom_unquoted noQuote noComma, ih others]
      rfl

theorem splitFrom_escaped (field : List Char) (noQuote : rest.head? ≠ some '"') :
    splitFrom true (escaped field ++ '"' :: rest) = field.foldr extend (splitFrom false rest) := by
  induction field with
  | nil => exact splitFrom_closing noQuote
  | cons c field ih =>
      simp only [escaped, List.flatMap_cons, List.append_assoc, List.foldr_cons] at ih ⊢
      by_cases quote : c = '"'
      · subst quote
        rw [if_pos rfl, List.cons_append, List.singleton_append, splitFrom_doubled, ih]
      · rw [if_neg quote, List.singleton_append, splitFrom_quoted quote, ih]

theorem splitFrom_quote (field : List Char) (noQuote : rest.head? ≠ some '"') :
    splitFrom false (quote field ++ rest) = field.foldr extend (splitFrom false rest) := by
  unfold quote
  split
  · have opened := splitFrom_opening (escaped field ++ '"' :: rest)
    rw [splitFrom_escaped field noQuote] at opened
    simpa [escaped] using opened
  · rename_i plain
    exact splitFrom_plain (Bool.eq_false_iff.mpr plain) rest

theorem foldr_extend (field first : List Char) (fields : List (List Char)) :
    field.foldr extend (first :: fields) = (field ++ first) :: fields := by
  induction field with
  | nil => rfl
  | cons c field ih =>
      rw [List.foldr_cons, ih]
      rfl

def Writes (written field : List Char) : Prop :=
  ∀ rest, FieldEnd rest → splitFrom false (written ++ rest) = field.foldr extend (splitFrom false rest)

theorem writes_quote (field : List Char) : Writes (quote field) field :=
  fun _ ending => splitFrom_quote field ending.noQuote

theorem writes_padded {before after : List Char} (plain : needsQuotes before = false)
    (plain' : needsQuotes after = false) (field : List Char) :
    Writes (before ++ (quote field ++ after)) (before ++ (field ++ after)) := by
  intro rest ending
  have noQuote : (after ++ rest).head? ≠ some '"' := by
    cases after with
    | nil => exact ending.noQuote
    | cons c after =>
        intro first
        obtain rfl := Option.some.inj first
        cases plain'
  rw [List.append_assoc, List.append_assoc, splitFrom_plain plain, splitFrom_quote field noQuote,
    splitFrom_plain plain', List.foldr_append, List.foldr_append]

theorem mem_quote (member : c ∈ quote field) : c = '"' ∨ c ∈ field := by
  unfold quote at member
  split at member
  · simp only [List.mem_cons, List.mem_append, List.mem_flatMap] at member
    rcases member with (rfl | ⟨other, inside, written⟩) | rfl | none
    · exact .inl rfl
    · split at written
      · simp_all
      · rw [List.mem_singleton.mp written]
        exact .inr inside
    · exact .inl rfl
    · cases none
  · exact .inr member

theorem getLast?_quote (field : List Char) : (quote field).getLast? ≠ some '\r' := by
  unfold quote
  split
  · rw [List.getLast?_concat]
    decide
  · rename_i plain
    intro last
    have ordinary := List.any_eq_false.mp (Bool.eq_false_iff.mpr plain) '\r'
    exact ordinary (List.mem_of_getLast? last) rfl

/-! ## What fields are made of -/

theorem mem_extend (member : field ∈ extend c fields) :
    ∀ d ∈ field, d = c ∨ ∃ other ∈ fields, d ∈ other := by
  intro d inside
  cases fields with
  | nil =>
      rw [List.mem_singleton.mp member, List.mem_singleton] at inside
      exact .inl inside
  | cons first others =>
      rcases List.mem_cons.mp member with rfl | later
      · rcases List.mem_cons.mp inside with rfl | inside
        · exact .inl rfl
        · exact .inr ⟨first, List.mem_cons_self, inside⟩
      · exact .inr ⟨field, List.mem_cons_of_mem _ later, inside⟩

theorem mem_splitFrom {quoted : Bool} {row : List Char} (member : field ∈ splitFrom quoted row) :
    ∀ c ∈ field, c ∈ row := by
  fun_induction splitFrom quoted row generalizing field with
  | case1 quoted => simp_all
  | case2 rest ih =>
      intro c inside
      rcases mem_extend member c inside with rfl | ⟨other, isField, inside⟩
      · exact List.mem_cons_self
      · exact List.mem_cons_of_mem _ (List.mem_cons_of_mem _ (ih isField c inside))
  | case3 quoted rest other ih =>
      exact fun c inside => List.mem_cons_of_mem _ (ih member c inside)
  | case4 quoted c rest other noQuote comma ih =>
      rcases List.mem_cons.mp member with rfl | later
      · simp
      · exact fun c inside => List.mem_cons_of_mem _ (ih later c inside)
  | case5 quoted c rest other noQuote noComma ih =>
      intro d inside
      rcases mem_extend member d inside with rfl | ⟨other, isField, inside⟩
      · exact List.mem_cons_self
      · exact List.mem_cons_of_mem _ (ih isField d inside)

/-! ## A row -/

theorem intercalate_cons (first next : List Char) (others : List (List Char)) :
    [','].intercalate (first :: next :: others) = first ++ ',' :: [','].intercalate (next :: others) := by
  simp [List.intercalate]

theorem mem_intercalate {texts : List (List Char)} (member : c ∈ [','].intercalate texts) :
    c = ',' ∨ ∃ text ∈ texts, c ∈ text := by
  induction texts with
  | nil => cases member
  | cons text others ih =>
      cases others with
      | nil => exact .inr ⟨text, List.mem_cons_self, by simpa [List.intercalate] using member⟩
      | cons next others =>
          rw [intercalate_cons, List.mem_append, List.mem_cons] at member
          rcases member with first | comma | later
          · exact .inr ⟨text, List.mem_cons_self, first⟩
          · exact .inl comma
          · rcases ih later with comma | ⟨other, member, inside⟩
            · exact .inl comma
            · exact .inr ⟨other, List.mem_cons_of_mem _ member, inside⟩

theorem row_cons (field next : List Char) (fields : List (List Char)) :
    row (field :: next :: fields) = quote field ++ ',' :: row (next :: fields) :=
  intercalate_cons _ _ _

theorem mem_row (member : c ∈ row fields) : c = ',' ∨ c = '"' ∨ ∃ field ∈ fields, c ∈ field := by
  rcases mem_intercalate member with comma | ⟨written, isField, inside⟩
  · exact .inl comma
  · obtain ⟨field, member, rfl⟩ := List.mem_map.mp isField
    rcases mem_quote inside with quote | inside
    · exact .inr (.inl quote)
    · exact .inr (.inr ⟨field, member, inside⟩)

/-- A row never ends in a carriage return, since a field that has one is quoted. -/
theorem getLast?_row (fields : List (List Char)) : (row fields).getLast? ≠ some '\r' := by
  induction fields with
  | nil => simp [row]
  | cons field others ih =>
      cases others with
      | nil => simpa [row, List.intercalate] using getLast?_quote field
      | cons next others =>
          rw [row_cons, List.getLast?_append, List.getLast?_cons]
          cases last : (row (next :: others)).getLast? with
          | none => simp
          | some c => simpa [last] using ih

theorem split_intercalate {α : Type} {written field : α → List Char} {items : List α}
    (writes : ∀ item, Writes (written item) (field item)) (nonempty : items ≠ []) :
    split ([','].intercalate (items.map written)) = items.map field := by
  induction items with
  | nil => exact absurd rfl nonempty
  | cons item items ih =>
      cases items with
      | nil =>
          have last : splitFrom false (written item ++ []) = _ := writes item [] (.inl rfl)
          rw [List.append_nil, splitFrom_nil, foldr_extend, List.append_nil] at last
          simpa [split, List.intercalate] using last
      | cons next items =>
          have others := ih (List.cons_ne_nil next items)
          have first := writes item _ (.inr ⟨[','].intercalate ((next :: items).map written), rfl⟩)
          rw [splitFrom_comma, foldr_extend, List.append_nil] at first
          rw [split] at others
          rw [others] at first
          simpa [split, List.intercalate] using first

/-- No field is lost, split or changed by writing it into a row, be it a comma, a quote or a line end
that it holds. -/
theorem split_row (nonempty : fields ≠ []) : split (row fields) = fields := by
  have cut : split ([','].intercalate (fields.map quote)) = fields.map id :=
    split_intercalate writes_quote nonempty
  rwa [List.map_id] at cut

end Accelerometer.Proofs.Csv
