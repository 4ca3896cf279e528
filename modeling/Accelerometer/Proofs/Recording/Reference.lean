import Accelerometer.Proofs.Serial.Calls
import Accelerometer.Proofs.Text.Words
import Accelerometer.Recording
import Mathlib.Data.List.Induction

/-!
# What a recording makes of its lines

The reference for a recording: which lines are samples, and what the calls of a source amount to.

* `parse_lineText`: taking the terminator off does not change what a line is.
* `summaryOf_calls`: every call is counted once.
-/

namespace Accelerometer.Proofs.Recording
open Proofs.Serial Proofs.Text

def ofWords? : List (List Char) → Option Sample
  | [time, x, y, z] => some ⟨.ofList time, .ofList x, .ofList y, .ofList z⟩
  | _ => none

/-- The sample that a text gives, if it falls into four words. -/
def sampleOf? (text : List Char) : Option Sample :=
  ofWords? (Text.words text)

def wordCount (encoding : Encoding) (line : List UInt8) : Nat :=
  (Text.words (encoding.decode line)).length

def samplesOf (encoding : Encoding) (lines : List (List UInt8)) : List Sample :=
  lines.filterMap fun line => sampleOf? (encoding.decode line)

def droppedOf (encoding : Encoding) (lines : List (List UInt8)) : List (List UInt8) :=
  lines.filter fun line => wordCount encoding line ≠ 4

def journalOf (encoding : Encoding) (lines : List (List UInt8)) : List Event :=
  (droppedOf encoding lines).map fun line => .lineDropped (wordCount encoding line) line

def summaryOf (settings : RecordingSettings) (cues : List (Cue LineArrival)) : Summary where
  accepted := (samplesOf settings.encoding (linesOf cues)).length
  dropped := (droppedOf settings.encoding (linesOf cues)).length
  silent := cues.countP fun cue => cue.outcome = .nothing
  elapsed := cues.foldl (fun spent cue => spent + cue.wait) 0 +
    settings.dropTime * (droppedOf settings.encoding (linesOf cues)).length

def Faultless (cues : List (Cue LineArrival)) : Prop :=
  ∀ cue ∈ cues, ∀ fault, cue.outcome ≠ .fault fault

variable {encoding : Encoding} {line : List UInt8} {sample : Sample} {text : List Char}

theorem sampleOf?_eq_some (found : sampleOf? text = some sample) :
    Text.words text = sample.fields.map String.toList := by
  unfold sampleOf? ofWords? at found
  split at found
  · rename_i time x y z four
    obtain rfl := Option.some.inj found
    simp [four, Sample.fields]
  · cases found

theorem wordCount_sample (found : sampleOf? (encoding.decode line) = some sample) :
    wordCount encoding line = 4 := by
  rw [wordCount, sampleOf?_eq_some found]
  rfl

theorem sampleOf?_eq_none : sampleOf? text = none ↔ (Text.words text).length ≠ 4 := by
  unfold sampleOf? ofWords?
  split
  · rename_i four
    simp [four]
  · rename_i other
    constructor
    · intro _ length
      match words : Text.words text, length with
      | [time, x, y, z], _ => exact other time x y z words
    · intro _
      rfl

theorem parse_eq (text : List Char) :
    Sample.parse text =
      match sampleOf? text with
      | some sample => .ok sample
      | none => .error ⟨(Text.words text).length⟩ := by
  cases found : sampleOf? text with
  | some sample => simp [Sample.parse, sampleOf?_eq_some found, Sample.fields]
  | none =>
      have other := sampleOf?_eq_none.mp found
      unfold Sample.parse
      split
      · rename_i four
        rw [four] at other
        exact absurd rfl other
      · rfl

theorem parse_lineText (encoding : Encoding) (line : List UInt8) :
    Sample.parse (encoding.lineText line) =
      match sampleOf? (encoding.decode line) with
      | some sample => .ok sample
      | none => .error ⟨wordCount encoding line⟩ := by
  have same : Text.words (encoding.lineText line) = Text.words (encoding.decode line) :=
    words_dropEndWhile (fun c => isBlank_of_isLineEnd) (encoding.decode line)
  rw [parse_eq, sampleOf?, same, wordCount, sampleOf?]

/-! ## Words -/

theorem samplesOf_words (encoding : Encoding) (lines : List (List UInt8)) :
    samplesOf encoding lines =
      (lines.map fun line => Text.words (encoding.decode line)).filterMap ofWords? := by
  rw [List.filterMap_map]
  rfl

theorem droppedOf_words (encoding : Encoding) (lines : List (List UInt8)) :
    (droppedOf encoding lines).length =
      (lines.map fun line => Text.words (encoding.decode line)).countP fun words =>
        words.length ≠ 4 := by
  rw [List.countP_map, droppedOf, ← List.countP_eq_length_filter]
  rfl

/-! ## More lines -/

theorem samplesOf_append (encoding : Encoding) (lines more : List (List UInt8)) :
    samplesOf encoding (lines ++ more) = samplesOf encoding lines ++ samplesOf encoding more :=
  List.filterMap_append

theorem droppedOf_append (encoding : Encoding) (lines more : List (List UInt8)) :
    droppedOf encoding (lines ++ more) = droppedOf encoding lines ++ droppedOf encoding more :=
  List.filter_append ..

theorem samplesOf_accepted {lines : List (List UInt8)}
    (found : sampleOf? (encoding.decode line) = some sample) :
    samplesOf encoding (lines ++ [line]) = samplesOf encoding lines ++ [sample] := by
  simp [samplesOf, found]

theorem samplesOf_dropped {lines : List (List UInt8)}
    (none : sampleOf? (encoding.decode line) = none) :
    samplesOf encoding (lines ++ [line]) = samplesOf encoding lines := by
  simp [samplesOf, none]

theorem droppedOf_accepted {lines : List (List UInt8)}
    (found : sampleOf? (encoding.decode line) = some sample) :
    droppedOf encoding (lines ++ [line]) = droppedOf encoding lines := by
  simp [droppedOf, wordCount_sample found]

theorem droppedOf_dropped {lines : List (List UInt8)}
    (none : sampleOf? (encoding.decode line) = none) :
    droppedOf encoding (lines ++ [line]) = droppedOf encoding lines ++ [line] := by
  have other : wordCount encoding line ≠ 4 := sampleOf?_eq_none.mp none
  simp [droppedOf, other]

theorem samplesOf_add_droppedOf (encoding : Encoding) (lines : List (List UInt8)) :
    (samplesOf encoding lines).length + (droppedOf encoding lines).length = lines.length := by
  induction lines using List.reverseRecOn with
  | nil => rfl
  | append_singleton lines line ih =>
      cases found : sampleOf? (encoding.decode line) with
      | none =>
          rw [samplesOf_dropped found, droppedOf_dropped found, List.length_append,
            List.length_append, ← ih]
          rfl
      | some sample =>
          rw [samplesOf_accepted found, droppedOf_accepted found, List.length_append,
            List.length_append, ← ih, List.length_singleton, List.length_singleton]
          omega

theorem lines_add_silent {cues : List (Cue LineArrival)} (faultless : Faultless cues) :
    (linesOf cues).length + cues.countP (fun cue => cue.outcome = .nothing) = cues.length := by
  induction cues using List.reverseRecOn with
  | nil => rfl
  | append_singleton cues cue ih =>
      have rest := ih fun other member => faultless other (List.mem_append_left _ member)
      rw [linesOf_append, linesOf_singleton, List.countP_append, List.length_append,
        List.length_append, ← rest]
      cases outcome : cue.outcome with
      | line octets =>
          simp [line?, outcome]
          omega
      | nothing =>
          simp [line?, outcome]
          omega
      | fault fault =>
          exact absurd outcome (faultless cue (List.mem_append_right _ List.mem_cons_self) fault)

theorem summaryOf_calls {settings : RecordingSettings} {cues : List (Cue LineArrival)}
    (faultless : Faultless cues) :
    (summaryOf settings cues).accepted + (summaryOf settings cues).dropped +
      (summaryOf settings cues).silent = cues.length := by
  have lines := samplesOf_add_droppedOf settings.encoding (linesOf cues)
  have calls := lines_add_silent faultless
  simp only [summaryOf]
  omega

end Accelerometer.Proofs.Recording
