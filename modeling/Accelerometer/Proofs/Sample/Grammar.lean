import Accelerometer.Proofs.Recording.Reference
import Accelerometer.Proofs.Text.Runs

/-!
# The grammar of samples

A text is a sample if it is made of four words with blanks between them, and maybe around them. Any other
text is reported with the number of its maximal runs.

* `words_eq_fields`: the four words of a text, and the blanks.
* `parse_eq_ok`: the sample that has these words.
* `parse_accepts_records`: both together, and what is reported of other texts.
-/

namespace Accelerometer.Proofs.Sample
open Proofs.Recording Proofs.Text

variable {text word gap rest : List Char} {sample : Sample}

def Gap (text : List Char) : Prop :=
  text ≠ [] ∧ Blank text

/-- The fields of a sample, just as they stand in a text, with gaps between them. -/
def IsRecord (sample : Sample) (text : List Char) : Prop :=
  ∃ front gap gap' gap'' back,
    text = front ++ (sample.time.toList ++ (gap ++ (sample.x.toList ++ (gap' ++ (sample.y.toList ++
      (gap'' ++ (sample.z.toList ++ back))))))) ∧
    Blank front ∧ Gap gap ∧ Gap gap' ∧ Gap gap'' ∧ Blank back ∧
    ∀ field ∈ sample.fields, IsWord field.toList

theorem Gap.apart (isGap : Gap gap) (rest : List Char) : Apart (gap ++ rest) := by
  intro c head
  rw [List.head?_append_of_ne_nil _ isGap.1] at head
  exact isGap.2 c (List.mem_of_mem_head? head)

theorem gap_of_apart (blank : Blank gap) (isWord : IsWord word) (apart : Apart (gap ++ (word ++ rest))) :
    Gap gap := by
  refine ⟨?_, blank⟩
  rintro rfl
  obtain ⟨first, more, rfl⟩ := List.exists_cons_of_ne_nil isWord.1
  exact not_blank_of_word isWord List.mem_cons_self (apart first rfl)

theorem words_eq_fields :
    Text.words text = sample.fields.map String.toList ↔ IsRecord sample text := by
  constructor
  · intro found
    obtain ⟨front, rest, rfl, blank, time, apart, found⟩ := words_eq_cons found
    obtain ⟨gap, rest, rfl, blank₁, x, apart₁, found⟩ := words_eq_cons found
    obtain ⟨gap', rest, rfl, blank₂, y, apart₂, found⟩ := words_eq_cons found
    obtain ⟨gap'', back, rfl, blank₃, z, apart₃, found⟩ := words_eq_cons found
    refine ⟨front, gap, gap', gap'', back, rfl, blank, gap_of_apart blank₁ x apart,
      gap_of_apart blank₂ y apart₁, gap_of_apart blank₃ z apart₂, words_eq_nil.mp found, ?_⟩
    simp [Sample.fields, time, x, y, z]
  · rintro ⟨front, gap, gap', gap'', back, rfl, blank, isGap, isGap', isGap'', last, isWord⟩
    simp only [Sample.fields, List.forall_mem_cons] at isWord
    obtain ⟨time, x, y, z, -⟩ := isWord
    have apart : Apart back := fun c head => last c (List.mem_of_mem_head? head)
    rw [words_blank_append blank, words_word_append time (isGap.apart _), words_blank_append isGap.2,
      words_word_append x (isGap'.apart _), words_blank_append isGap'.2,
      words_word_append y (isGap''.apart _), words_blank_append isGap''.2, words_word_append z apart,
      words_eq_nil.mpr last]
    rfl

theorem parse_eq_ok : Sample.parse text = .ok sample ↔ IsRecord sample text := by
  rw [← words_eq_fields, parse_eq]
  constructor
  · intro parsed
    split at parsed
    · rename_i found
      obtain rfl := Except.ok.inj parsed
      exact sampleOf?_eq_some found
    · cases parsed
  · intro four
    simp [sampleOf?, ofWords?, four, Sample.fields]

/-- A text is read as a sample just if the fields of the sample stand in it as words apart from each
other. Else the number of maximal runs is reported, which is not four. The end of a line does not
change what its text is read as. -/
theorem parse_accepts_records (text : List Char) :
    (∀ sample, Sample.parse text = .ok sample ↔ IsRecord sample text) ∧
    ((∀ sample, ¬IsRecord sample text) → ∃ malformed, Sample.parse text = .error malformed ∧
      {place | IsRun text place}.encard = malformed.words ∧ malformed.words ≠ 4) ∧
    ∀ encoding octets, Sample.parse (Encoding.lineText encoding octets) =
      Sample.parse (Encoding.decode encoding octets) := by
  refine ⟨fun sample => parse_eq_ok, ?_, ?_⟩
  · intro noRecord
    cases found : sampleOf? text with
    | some sample => exact absurd (words_eq_fields.mp (sampleOf?_eq_some found)) (noRecord sample)
    | none =>
        refine ⟨⟨(Text.words text).length⟩, ?_, encard_runs text, sampleOf?_eq_none.mp found⟩
        rw [parse_eq, found]
  · intro encoding octets
    rw [parse_lineText, parse_eq]
    rfl

/-- A line break inside a text is a gap like any other, and no-break spaces are blanks too. -/
example : Sample.parse "\u00a00010 +1.500\n-0.0\t 1e-3".toList = .ok ⟨"0010", "+1.500", "-0.0", "1e-3"⟩ := by
  decide

end Accelerometer.Proofs.Sample
