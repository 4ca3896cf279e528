import Accelerometer.Text.Lines
import Mathlib.Data.List.Basic

/-!
# Terminated lines

* `lines_rows`: rows that each end in a line feed are read one by one.
* `lines_terminated`: rows without line ends are the lines of their text.
* `lines_joined`: the same with either kind of break, and maybe none behind the last row.
-/

namespace Accelerometer.Proofs.Text
open Accelerometer.Text

variable {line : List Char}

def terminated (separator : Char) (lines : List (List Char)) : List Char :=
  lines.flatMap fun line => line ++ [separator]

theorem dropReturn_eq_self (noReturn : '\r' ∉ line) : dropReturn line = line := by
  unfold dropReturn
  split
  · rename_i last
    exact absurd (List.mem_of_getLast? last) noReturn
  · rfl

@[simp] theorem lines_nil : lines [] = [] := by
  rfl

theorem lines_append (line rest : List Char) :
    lines (line ++ '\n' :: rest) = (line.splitOn '\n').map dropReturn ++ lines rest := by
  have pieces : (line ++ '\n' :: rest).splitOn '\n' = line.splitOn '\n' ++ rest.splitOn '\n' := by
    simp only [List.splitOn_eq_splitOnP]
    exact List.splitOnP_append_cons line rest (by simp)
  have nonempty := List.splitOn_ne_nil '\n' rest
  simp only [lines, pieces, List.dropLast_append_of_ne_nil nonempty, List.map_append,
    List.getLast?_append_of_ne_nil _ nonempty]
  split
  · rw [List.append_assoc]
  · rfl

theorem lines_rows (rows : List (List Char)) :
    lines (terminated '\n' rows) = rows.flatMap fun row => (row.splitOn '\n').map dropReturn := by
  induction rows with
  | nil => rfl
  | cons row rows ih =>
      have first := lines_append row (terminated '\n' rows)
      rw [ih] at first
      simpa [terminated] using first

theorem splitOn_plain (plain : ∀ c ∈ line, isLineEnd c = false) : line.splitOn '\n' = [line] := by
  apply List.splitOn_eq_singleton
  intro feed
  cases plain '\n' feed

theorem lines_feed (plain : ∀ c ∈ line, isLineEnd c = false) (rest : List Char) :
    lines (line ++ '\n' :: rest) = line :: lines rest := by
  have noReturn : '\r' ∉ line := fun inside => by cases plain '\r' inside
  rw [lines_append, splitOn_plain plain, List.map_singleton, dropReturn_eq_self noReturn]
  rfl

theorem lines_terminated {rows : List (List Char)}
    (plain : ∀ row ∈ rows, ∀ c ∈ row, isLineEnd c = false) : lines (terminated '\n' rows) = rows := by
  induction rows with
  | nil => rfl
  | cons row rows ih =>
      obtain ⟨first, others⟩ := List.forall_mem_cons.mp plain
      have read := lines_feed first (terminated '\n' rows)
      rw [ih others] at read
      simpa [terminated] using read

/-! ## Either break, or none at the end -/

inductive LineBreak
  | feed
  | returnFeed

def LineBreak.text : LineBreak → List Char
  | .feed => ['\n']
  | .returnFeed => ['\r', '\n']

/-- Lines with the break of each behind it, but for the last one if the text is not `closed`. -/
def joined (closed : Bool) : List (List Char × LineBreak) → List Char
  | [] => []
  | [(line, lineBreak)] => line ++ if closed then lineBreak.text else []
  | (line, lineBreak) :: others => line ++ (lineBreak.text ++ joined closed others)

theorem lines_break (plain : ∀ c ∈ line, isLineEnd c = false) (lineBreak : LineBreak)
    (rest : List Char) : lines (line ++ (lineBreak.text ++ rest)) = line :: lines rest := by
  cases lineBreak with
  | feed => exact lines_feed plain rest
  | returnFeed =>
      have noFeed : '\n' ∉ line ++ ['\r'] := by
        intro inside
        rcases List.mem_append.mp inside with inside | last
        · cases plain '\n' inside
        · cases List.mem_singleton.mp last
      have read := lines_append (line ++ ['\r']) rest
      rw [List.splitOn_eq_singleton noFeed, List.map_singleton, dropReturn, if_pos List.getLast?_concat,
        List.dropLast_concat] at read
      simpa [LineBreak.text] using read

theorem lines_last (plain : ∀ c ∈ line, isLineEnd c = false) (nonempty : line ≠ []) :
    lines line = [line] := by
  obtain ⟨c, rest, rfl⟩ := List.exists_cons_of_ne_nil nonempty
  simp [lines, splitOn_plain plain]

/-- Only an empty line is lost, as the last one of a text that is not closed. -/
theorem lines_joined {given : List (List Char × LineBreak)}
    (plain : ∀ line ∈ given, ∀ c ∈ line.1, isLineEnd c = false) (closed : Bool) :
    ∃ lost, given.map Prod.fst = lines (joined closed given) ++ lost ∧ ∀ line ∈ lost, line = [] := by
  fun_induction joined closed given with
  | case1 => exact ⟨[], rfl, by simp⟩
  | case2 line lineBreak =>
      have plain := plain _ List.mem_cons_self
      cases closed with
      | true =>
          have read := lines_break plain lineBreak []
          rw [List.append_nil] at read
          exact ⟨[], by simp [read], by simp⟩
      | false =>
          by_cases empty : line = []
          · exact ⟨[[]], by simp [empty], by simp⟩
          · exact ⟨[], by simp [lines_last plain empty], by simp⟩
  | case3 line lineBreak others more ih =>
      obtain ⟨first, plain⟩ := List.forall_mem_cons.mp plain
      obtain ⟨lost, others_eq, empty⟩ := ih plain
      refine ⟨lost, ?_, empty⟩
      rw [List.map_cons, others_eq, lines_break first]
      rfl

end Accelerometer.Proofs.Text
