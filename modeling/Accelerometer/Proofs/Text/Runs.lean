import Accelerometer.Proofs.Text.Words
import Mathlib.Data.Set.Card

/-!
# Words as maximal runs

The words of a text are taken off from the front, one by one, with the blanks before them. They are the
maximal runs of characters that are not blank, each counted once.

* `words_eq_nil`, `words_eq_cons`: what the words of a text say about it.
* `isRun_append`: the runs of a text whose first word is known.
* `encard_runs`: as many runs as words.
-/

namespace Accelerometer.Proofs.Text
open Accelerometer.Text

variable {text word rest front : List Char} {others : List (List Char)}

def Blank (text : List Char) : Prop :=
  ∀ c ∈ text, isBlank c = true

def IsWord (text : List Char) : Prop :=
  text ≠ [] ∧ ∀ c ∈ text, isBlank c = false

def Apart (text : List Char) : Prop :=
  ∀ c ∈ text.head?, isBlank c = true

/-! ## Taking words off -/

theorem words_blank_append (blank : Blank front) (rest : List Char) :
    words (front ++ rest) = words rest := by
  induction front with
  | nil => rfl
  | cons c front ih =>
      have first := words_append_blank [] (front ++ rest) (blank c List.mem_cons_self)
      rw [List.cons_append, ← List.nil_append (c :: _), first, words_nil, List.nil_append]
      exact ih fun c member => blank c (List.mem_cons_of_mem _ member)

theorem words_word (isWord : IsWord word) : words word = [word] := by
  have single : word.splitOnP isBlank = [word] :=
    List.splitOnP_eq_singleton fun c member => by simp [isWord.2 c member]
  simp [words, single, isWord.1]

theorem words_word_append (isWord : IsWord word) (apart : Apart rest) :
    words (word ++ rest) = word :: words rest := by
  cases rest with
  | nil => rw [List.append_nil, words_word isWord, words_nil]
  | cons c rest =>
      have blank : isBlank c = true := apart c rfl
      have dropped := words_append_blank [] rest blank
      rw [words_append_blank word rest blank, words_word isWord]
      simpa using dropped.symm

/-- A text begins with blanks, or with a word that nothing continues. -/
theorem exists_front (text : List Char) :
    Blank text ∨ ∃ front word rest, text = front ++ (word ++ rest) ∧ Blank front ∧ IsWord word ∧
      Apart rest := by
  induction text with
  | nil => exact .inl (by simp [Blank])
  | cons c text ih =>
      by_cases blank : isBlank c = true
      · rcases ih with all | ⟨front, word, rest, rfl, before, isWord, apart⟩
        · exact .inl (List.forall_mem_cons.mpr ⟨blank, all⟩)
        · exact .inr ⟨c :: front, word, rest, rfl, List.forall_mem_cons.mpr ⟨blank, before⟩, isWord,
            apart⟩
      · let inWord (c : Char) : Bool := !isBlank c
        have longest := List.head?_dropWhile_not inWord (c :: text)
        refine .inr ⟨[], (c :: text).takeWhile inWord, (c :: text).dropWhile inWord, ?_, ?_, ⟨?_, ?_⟩, ?_⟩
        · rw [List.nil_append, List.takeWhile_append_dropWhile]
        · simp [Blank]
        · simp [inWord, blank]
        · intro other member
          simpa [inWord] using List.mem_takeWhile_imp member
        · intro other head
          rw [Option.mem_def] at head
          rw [head] at longest
          simpa [inWord] using longest

theorem words_eq_nil : words text = [] ↔ Blank text := by
  refine ⟨?_, words_blanks⟩
  intro none
  rcases exists_front text with blank | ⟨front, word, rest, rfl, blank, isWord, apart⟩
  · exact blank
  · rw [words_blank_append blank, words_word_append isWord apart] at none
    cases none

theorem words_eq_cons (found : words text = word :: others) :
    ∃ front rest, text = front ++ (word ++ rest) ∧ Blank front ∧ IsWord word ∧ Apart rest ∧
      words rest = others := by
  rcases exists_front text with blank | ⟨front, word', rest, rfl, blank, isWord, apart⟩
  · rw [words_eq_nil.mpr blank] at found
    cases found
  · rw [words_blank_append blank, words_word_append isWord apart] at found
    obtain ⟨rfl, rfl⟩ := List.cons.inj found
    exact ⟨front, rest, rfl, blank, isWord, apart, rfl⟩

/-! ## Maximal runs -/

@[ext] structure Run where
  before : List Char
  run : List Char
  after : List Char

/-- A run of characters that are not blank, and that cannot be made longer on either side. -/
structure IsRun (text : List Char) (place : Run) : Prop where
  whole : text = place.before ++ (place.run ++ place.after)
  isWord : IsWord place.run
  before_blank : ∀ c ∈ place.before.getLast?, isBlank c = true
  after_blank : Apart place.after

def Run.behind (front : List Char) (place : Run) : Run :=
  { place with before := front ++ place.before }

theorem behind_injective (front : List Char) : Function.Injective (Run.behind front) := by
  intro place place' same
  obtain ⟨before, run, after⟩ := Run.mk.inj same
  exact Run.ext (List.append_cancel_left before) run after

theorem word_unique {word' rest' : List Char} (isWord : IsWord word) (isWord' : IsWord word')
    (apart : Apart rest) (apart' : Apart rest') (same : word ++ rest = word' ++ rest') :
    word = word' ∧ rest = rest' := by
  have words_eq : word :: words rest = word' :: words rest' := by
    rw [← words_word_append isWord apart, same, words_word_append isWord' apart']
  obtain ⟨rfl, -⟩ := List.cons.inj words_eq
  exact ⟨rfl, List.append_cancel_left same⟩

theorem not_blank_of_word {c : Char} (isWord : IsWord word) (member : c ∈ word) : isBlank c ≠ true := by
  simp [isWord.2 c member]

theorem run_begins {before begun run after : List Char} (blank : Blank front) (isWord : IsWord word)
    (apart : Apart rest) (place : IsRun (front ++ (word ++ rest)) ⟨before, run, after⟩)
    (split : front ++ word = before ++ begun) (run_eq : run ++ after = begun ++ rest) :
    (⟨before, run, after⟩ : Run) = ⟨front, word, rest⟩ := by
  obtain ⟨-, isRun, before_blank, after_blank⟩ := place
  rw [List.append_eq_append_iff] at split
  rcases split with ⟨inside, before_eq, word_eq⟩ | ⟨blanks, front_eq, begun_eq⟩
  · cases inside using List.reverseRecOn with
    | nil =>
        simp only [List.append_nil, List.nil_append] at before_eq word_eq
        subst word_eq
        obtain ⟨rfl, rfl⟩ := word_unique isRun isWord after_blank apart run_eq
        rw [before_eq]
    | append_singleton inside last _ =>
        have blank : isBlank last = true := before_blank last (by simp [before_eq])
        exact absurd blank (not_blank_of_word isWord (by simp [word_eq]))
  · cases blanks with
    | nil =>
        simp only [List.append_nil, List.nil_append] at front_eq begun_eq
        subst begun_eq
        obtain ⟨rfl, rfl⟩ := word_unique isRun isWord after_blank apart run_eq
        rw [front_eq]
    | cons c blanks =>
        obtain ⟨first, more, run_cons⟩ := List.exists_cons_of_ne_nil isRun.1
        dsimp only at run_cons
        rw [run_cons, begun_eq] at run_eq
        obtain ⟨rfl, -⟩ := List.cons.inj run_eq
        have blank : isBlank first = true := blank first (by simp [front_eq])
        exact absurd blank (not_blank_of_word isRun (by simp [run_cons]))

theorem IsRun.behind {place : Run} (isRun : IsRun rest place) (front : List Char) (apart : Apart rest) :
    IsRun (front ++ rest) (place.behind front) := by
  obtain ⟨whole, run, before_blank, after_blank⟩ := isRun
  -- the first character of what follows is blank, and so no run begins there
  have begun : place.before ≠ [] := by
    intro empty
    obtain ⟨first, more, run_cons⟩ := List.exists_cons_of_ne_nil run.1
    have blank : isBlank first = true := apart first (by simp [whole, empty, run_cons])
    exact not_blank_of_word run (by simp [run_cons]) blank
  refine ⟨by simp [whole, Run.behind], run, ?_, after_blank⟩
  intro c last
  rw [Run.behind, List.getLast?_append_of_ne_nil _ begun] at last
  exact before_blank c last

theorem isRun_append (blank : Blank front) (isWord : IsWord word) (apart : Apart rest) {place : Run} :
    IsRun (front ++ (word ++ rest)) place ↔
      place = ⟨front, word, rest⟩ ∨ ∃ later, IsRun rest later ∧ later.behind (front ++ word) = place := by
  constructor
  · intro isRun
    obtain ⟨before, run, after⟩ := place
    have whole := isRun.whole
    rw [← List.append_assoc, List.append_eq_append_iff] at whole
    rcases whole with ⟨between, split, rest_eq⟩ | ⟨begun, split, run_eq⟩
    · refine .inr ⟨⟨between, run, after⟩, ⟨rest_eq, isRun.isWord, ?_, isRun.after_blank⟩, ?_⟩
      · intro c last
        apply isRun.before_blank
        rw [split, List.getLast?_append, Option.mem_def.mp last]
        rfl
      · exact Run.ext split.symm rfl rfl
    · exact .inl (run_begins blank isWord apart isRun split run_eq)
  · rintro (rfl | ⟨later, isRun, rfl⟩)
    · exact ⟨rfl, isWord, fun c last => blank c (List.mem_of_getLast? last), apart⟩
    · rw [← List.append_assoc]
      exact isRun.behind (front ++ word) apart

theorem not_isRun_blank (blank : Blank text) (place : Run) : ¬IsRun text place := by
  rintro ⟨whole, run, -, -⟩
  obtain ⟨first, more, run_cons⟩ := List.exists_cons_of_ne_nil run.1
  exact not_blank_of_word run (by simp [run_cons]) (blank first (by simp [whole, run_cons]))

theorem encard_runs (text : List Char) : {place | IsRun text place}.encard = (words text).length := by
  generalize found : words text = all
  induction all generalizing text with
  | nil =>
      have none : {place | IsRun text place} = ∅ :=
        Set.eq_empty_of_forall_notMem (not_isRun_blank (words_eq_nil.mp found))
      rw [none, Set.encard_empty]
      rfl
  | cons word others ih =>
      obtain ⟨front, rest, rfl, blank, isWord, apart, later⟩ := words_eq_cons found
      have places : {place | IsRun (front ++ (word ++ rest)) place} =
          insert ⟨front, word, rest⟩ (Run.behind (front ++ word) '' {place | IsRun rest place}) := by
        ext place
        exact isRun_append blank isWord apart
      have new : (⟨front, word, rest⟩ : Run) ∉
          Run.behind (front ++ word) '' {place | IsRun rest place} := by
        rintro ⟨place, -, same⟩
        have length := congrArg (fun place => place.before.length) same
        have nonempty := List.length_pos_iff.mpr isWord.1
        simp only [Run.behind, List.length_append] at length
        omega
      rw [places, Set.encard_insert_of_notMem new, (behind_injective _).encard_image, ih rest later]
      simp

end Accelerometer.Proofs.Text
