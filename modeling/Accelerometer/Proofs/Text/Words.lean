import Accelerometer.Text.Blank
import Accelerometer.Text.Lines
import Mathlib.Data.List.TakeWhile
import Mathlib.Tactic.Conv

/-!
# Words and blanks of a text

* `words_append_blank`: a blank separates the words before it from those after it.
* `words_dropEndWhile`: blanks at the end do not count.
* `mem_words`: a word is not empty and has no blank.
* `trim_eq_self`, `trim_eq_nil`: what trimming leaves alone, and what it leaves nothing of.
* `trim_blanks_append`, `trim_append_blanks`: blanks around a text do not count.
-/

namespace Accelerometer.Proofs.Text
open Accelerometer.Text

variable {text word : List Char} {c : Char}

theorem isBlank_of_isLineEnd (lineEnd : isLineEnd c = true) : isBlank c = true := by
  simp only [isLineEnd, Bool.or_eq_true, beq_iff_eq] at lineEnd
  rcases lineEnd with rfl | rfl <;> rfl

@[simp] theorem words_nil : words [] = [] := by
  simp [words]

theorem words_append_blank (before after : List Char) (blank : isBlank c = true) :
    words (before ++ c :: after) = words before ++ words after := by
  rw [words, List.splitOnP_append_cons before after blank, List.filter_append]
  rfl

theorem words_blanks (blanks : ∀ c ∈ text, isBlank c = true) : words text = [] := by
  induction text with
  | nil => exact words_nil
  | cons c text ih =>
      have first := words_append_blank [] text (blanks c List.mem_cons_self)
      rw [List.nil_append] at first
      rw [first, ih fun c member => blanks c (List.mem_cons_of_mem _ member), words_nil]
      rfl

theorem words_append_blanks (blanks : ∀ c ∈ word, isBlank c = true) :
    words (text ++ word) = words text := by
  cases word with
  | nil => rw [List.append_nil]
  | cons c rest =>
      rw [words_append_blank text rest (blanks c List.mem_cons_self),
        words_blanks fun c member => blanks c (List.mem_cons_of_mem _ member), List.append_nil]

theorem dropEndWhile_append_takeWhile (p : Char → Bool) (text : List Char) :
    dropEndWhile p text ++ (text.reverse.takeWhile p).reverse = text := by
  rw [dropEndWhile, ← List.reverse_append, List.takeWhile_append_dropWhile, List.reverse_reverse]

theorem words_dropEndWhile {p : Char → Bool} (blanks : ∀ c, p c = true → isBlank c = true)
    (text : List Char) : words (dropEndWhile p text) = words text := by
  conv_rhs => rw [← dropEndWhile_append_takeWhile p text]
  symm
  apply words_append_blanks
  intro c member
  exact blanks c (List.mem_takeWhile_imp (List.mem_reverse.mp member))

theorem not_mem_of_mem_splitOnP {p : Char → Bool} {piece : List Char}
    (member : piece ∈ text.splitOnP p) : ∀ c ∈ piece, p c = false := by
  induction text generalizing piece with
  | nil => simp_all
  | cons first rest ih =>
      rw [List.splitOnP_cons_eq_if_modifyHead] at member
      obtain ⟨head, tail, pieces⟩ := List.exists_cons_of_ne_nil (List.splitOnP_ne_nil p rest)
      rw [pieces] at ih member
      split at member
      · rcases List.mem_cons.mp member with rfl | later
        · simp
        · exact ih later
      · rename_i other
        rcases List.mem_cons.mp member with rfl | later
        · intro c inside
          rcases List.mem_cons.mp inside with rfl | inside
          · exact Bool.eq_false_iff.mpr other
          · exact ih List.mem_cons_self c inside
        · exact ih (List.mem_cons_of_mem _ later)

theorem dropWhile_eq_self {p : Char → Bool} (kept : ∀ c ∈ text, p c = false) :
    text.dropWhile p = text := by
  cases text with
  | nil => rfl
  | cons c rest => simp [kept c List.mem_cons_self]

theorem trim_eq_self (plain : ∀ c ∈ text, isBlank c = false) : trim text = text := by
  have back : ∀ c ∈ text.reverse, isBlank c = false :=
    fun c member => plain c (List.mem_reverse.mp member)
  rw [trim, dropWhile_eq_self plain, dropEndWhile, dropWhile_eq_self back, List.reverse_reverse]

theorem trim_ne_nil (member : c ∈ text) (plain : isBlank c = false) : trim text ≠ [] := by
  have left : c ∈ text.dropWhile isBlank := by
    rw [← List.takeWhile_append_dropWhile (p := isBlank) (l := text), List.mem_append] at member
    rcases member with blank | left
    · rw [List.mem_takeWhile_imp blank] at plain
      cases plain
    · exact left
  intro empty
  rw [trim, dropEndWhile, List.reverse_eq_nil_iff, List.dropWhile_eq_nil_iff] at empty
  rw [empty c (List.mem_reverse.mpr left)] at plain
  cases plain

theorem trim_eq_nil : trim text = [] ↔ ∀ c ∈ text, isBlank c = true := by
  constructor
  · intro empty c member
    by_contra plain
    exact trim_ne_nil member (Bool.eq_false_iff.mpr plain) empty
  · intro blanks
    rw [trim, List.dropWhile_eq_nil_iff.mpr blanks]
    rfl

theorem trim_blanks_append {front : List Char} (blanks : ∀ c ∈ front, isBlank c = true)
    (text : List Char) : trim (front ++ text) = trim text := by
  rw [trim, List.dropWhile_append_of_pos blanks, trim]

theorem trim_append_blanks {back : List Char} (text : List Char)
    (blanks : ∀ c ∈ back, isBlank c = true) : trim (text ++ back) = trim text := by
  by_cases empty : text.dropWhile isBlank = []
  · have all := List.dropWhile_eq_nil_iff.mp empty
    rw [trim_blanks_append all, trim_eq_nil.mpr all, trim_eq_nil.mpr blanks]
  · have kept : (text ++ back).dropWhile isBlank = text.dropWhile isBlank ++ back := by
      rw [List.dropWhile_append, if_neg (by simpa using empty)]
    have reversed : ∀ c ∈ back.reverse, isBlank c = true :=
      fun c member => blanks c (List.mem_reverse.mp member)
    rw [trim, kept, dropEndWhile, List.reverse_append, List.dropWhile_append_of_pos reversed]
    rfl

end Accelerometer.Proofs.Text
