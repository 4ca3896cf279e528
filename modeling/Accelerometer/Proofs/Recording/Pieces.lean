import Accelerometer.Proofs.Recording.Simulation
import Accelerometer.Proofs.Serial.Records

/-!
# Recording a stream with broken records

A wait that ends inside a record leaves two lines of it, and either is recorded when it has four words.

* `samplesOf_records`: lines that are records have the samples of these records.
* `rows_come_from_records`: the rows of a recording.
* `shortenedNumber_recorded`: a row that no record has.
-/

namespace Accelerometer.Proofs.Recording
open Proofs.Serial Proofs.Session
open Proofs.Storage (Roomy)

variable {σ : Type} {encoding : Encoding} {stream : List UInt8} {lines : List (List UInt8)}

def SamplesWhole (encoding : Encoding) (stream : List UInt8) (lines : List (List UInt8)) : Prop :=
  ∀ before line after, lines = before ++ line :: after → wordCount encoding line = 4 →
    IsRecord encoding.unit stream before.flatten line

def PiecesDropped (framing : Framing) (encoding : Encoding) (reads : List (Cue Arrival))
    (lines : List (List UInt8)) : Prop :=
  ∀ before line after, lines = before ++ line :: after →
    BesideBreak framing reads before.flatten line → wordCount encoding line ≠ 4

theorem samplesOf_records (nonempty : ∀ line ∈ lines, line ≠ [])
    (whole : SamplesWhole encoding stream lines) {earlier later : List (List UInt8)}
    (split : records encoding.unit stream = earlier ++ later)
    (room : lines.flatten.length ≤ earlier.flatten.length) :
    (samplesOf encoding lines).Sublist (samplesOf encoding earlier) := by
  induction lines using List.reverseRecOn generalizing earlier later with
  | nil => exact List.nil_sublist _
  | append_singleton lines line ih =>
      have shorter : SamplesWhole encoding stream lines := by
        intro before other after cut
        exact whole before other (after ++ [line]) (by simp [cut])
      have nonempty' : ∀ other ∈ lines, other ≠ [] := fun other member =>
        nonempty other (List.mem_append_left _ member)
      rw [List.flatten_append, List.flatten_singleton, List.length_append] at room
      cases found : sampleOf? (encoding.decode line) with
      | none =>
          rw [samplesOf_dropped found]
          exact ih nonempty' shorter split (by omega)
      | some sample =>
          obtain ⟨front, back, split', place⟩ := whole lines line [] rfl (wordCount_sample found)
          have positive := List.length_pos_iff.mpr (nonempty line (by simp))
          have first := ih nonempty' shorter split' (by rw [place])
          -- the earlier records reach behind the line, so that it is one of them
          have reach : ∀ between, front ≠ earlier ++ between := by
            rintro between rfl
            rw [← place, List.flatten_append, List.length_append] at room
            omega
          rw [split] at split'
          rcases List.append_eq_append_iff.mp split' with ⟨between, short, -⟩ | ⟨between, rfl, rest⟩
          · exact absurd short (reach between)
          · cases between with
            | nil => exact absurd (by simp) (reach [])
            | cons next others =>
                obtain ⟨rfl, -⟩ := List.cons.inj rest
                rw [samplesOf_accepted found, samplesOf_append]
                have last : [sample].Sublist (samplesOf encoding (line :: others)) := by
                  simp [samplesOf, found]
                exact first.append last

/-! ## Recording -/

/-- The lines of a recording are records of the octets that were heard, unless a wait has ended beside
them inside a record, or before them inside a unit. If none of the others has four words, the file has
rows of records only, in order, and at most one of each. -/
theorem rows_come_from_records (device : ByteSource σ) (timeout : Duration)
    (fuel : LineAssembler σ → Nat) (settings : RecordingSettings) (steps : Nat) (source : σ)
    (storage : Storage) (output : Path)
    (made : ∀ reason,
      (recordDevice device timeout fuel settings steps source storage output).outcome =
        .error (.cannotWrite output reason) → Roomy storage output) :
    let result := recordDevice device timeout fuel settings steps source storage output
    let framing : Framing := ⟨settings.encoding.unit, timeout⟩
    let lines := LineAssembler.lineStream (logged device) framing (fuel ∘ unlogged)
    let run := record lines settings steps (fresh source) storage output
    let reads := run.source.source.reads
    ∃ cues, Follows lines settings steps (fresh source) storage output cues run ∧
      Holds storage output (samplesOf settings.encoding (linesOf cues)) result.storage ∧
      (∀ before line after, linesOf cues = before ++ line :: after →
        IsRecord framing.unit (heard reads) before.flatten line ∨
          BesideBreak framing reads before.flatten line) ∧
      (PiecesDropped framing settings.encoding reads (linesOf cues) →
        (samplesOf settings.encoding (linesOf cues)).Sublist
          (samplesOf settings.encoding (records framing.unit (heard reads)))) := by
  intro result framing lines run reads
  obtain ⟨same, cues, follows, holds⟩ :=
    recordDevice_writable device timeout fuel settings steps source storage output made
  rw [show result = viewResult unlogged run from same]
  have recorded : ∀ before line after, linesOf cues = before ++ line :: after →
      IsRecord framing.unit (heard reads) before.flatten line ∨
        BesideBreak framing reads before.flatten line :=
    fun _ _ _ split => line_is_record follows.calls split
  refine ⟨cues, follows, holds, recorded, ?_⟩
  intro dropped
  have nonempty : ∀ line ∈ linesOf cues, line ≠ [] := fun line member =>
    (calls_framed follows.calls line member).1
  have whole : SamplesWhole settings.encoding (heard reads) (linesOf cues) := by
    intro before line after split four
    rcases recorded before line after split with isRecord | beside
    · exact isRecord
    · exact absurd four (dropped before line after split beside)
  apply samplesOf_records nonempty whole (List.append_nil _).symm
  rw [flatten_records, ← calls_conserved follows.calls, List.length_append]
  exact Nat.le_add_right ..

def brokenBetweenWords : ScriptedDevice :=
  .ofCues
    [⟨1, .chunk (Storage.octetsOf "4 0.1")⟩, ⟨1, .fault ⟨.timedOut, none⟩⟩,
      ⟨1, .chunk (Storage.octetsOf " 0.2 0.9\n")⟩, ⟨1, .chunk (Storage.octetsOf "5 1 1 1\n")⟩] 1

theorem brokenBetweenWords_recorded :
    let result := recordDevice ScriptedDevice.source 9 (fun _ => 5) ⟨4, .utf8, 0⟩ 5 brokenBetweenWords
      Storage.emptyStorage ⟨"run.csv"⟩
    let stream := Storage.octetsOf "4 0.1 0.2 0.9\n5 1 1 1\n"
    result.outcome = .ok ⟨1, 2, 0, 4⟩ ∧
    ∃ samples, Holds Storage.emptyStorage ⟨"run.csv"⟩ samples result.storage ∧
      samples.Sublist (samplesOf .utf8 (records .octet stream)) := by
  intro result stream
  have outcome : result.outcome = .ok ⟨1, 2, 0, 4⟩ := rfl
  obtain ⟨cues, follows, holds, -, sublist⟩ :=
    rows_come_from_records ScriptedDevice.source 9 (fun _ => 5) ⟨4, .utf8, 0⟩ 5 brokenBetweenWords
      Storage.emptyStorage ⟨"run.csv"⟩ (roomy_of_ok outcome)
  refine ⟨outcome, _, holds, sublist ?_⟩
  let first := Storage.octetsOf "4 0.1"
  let second := Storage.octetsOf " 0.2 0.9\n"
  let third := Storage.octetsOf "5 1 1 1\n"
  have start : Calls
      (LineAssembler.lineStream (logged ScriptedDevice.source) ⟨.octet, 9⟩ ((fun _ => 5) ∘ unlogged))
      (fresh brokenBetweenWords) [] (fresh brokenBetweenWords) := .none _
  have calls := Calls.more (.more (.more start rfl) rfl) rfl
  have concluded : Concludes _ _ _ _ _ cues _ (.ok ⟨1, 2, 0, 4⟩) := follows.outcome
  obtain ⟨rfl, -⟩ := calls_unique calls follows.calls concluded.2.2.2.1
  have only : ∀ octets ∈ (watched ⟨.octet, 9⟩ brokenBetweenWords.cues).breaks, octets = first :=
    fun octets member => List.mem_singleton.mp member
  intro before line after split beside
  have lines : [first, second, third] = before ++ line :: after := split
  rcases before with _ | ⟨_, _ | ⟨_, _ | ⟨_, before⟩⟩⟩
  all_goals simp only [List.nil_append, List.cons_append, List.cons.injEq] at lines
  · rw [← lines.1]
    decide
  · rw [← lines.2.1]
    decide
  · -- the third line is a record of its own
    rw [← lines.1, ← lines.2.1, ← lines.2.2.1] at beside
    rcases beside with begins | ⟨ends, -⟩ | half
    · exact absurd (only _ begins) (by decide)
    · exact absurd (only _ ends) (by decide)
    · exact (half fun octets _ _ => Nat.one_dvd octets.length).elim
  · simp at lines

def shortenedNumber : ScriptedDevice :=
  .ofCues
    [⟨1, .chunk (Storage.octetsOf "1 2 3 4")⟩, ⟨1, .fault ⟨.timedOut, none⟩⟩,
      ⟨1, .chunk (Storage.octetsOf "5\n")⟩] 1

theorem shortenedNumber_recorded :
    ¬∀ (source : ScriptedDevice) (timeout : Duration) (settings : RecordingSettings) (steps : Nat),
      let run := record
        (LineAssembler.lineStream (logged ScriptedDevice.source) ⟨settings.encoding.unit, timeout⟩
          fun _ => 5) settings steps (fresh source) Storage.emptyStorage ⟨"run.csv"⟩
      (∃ summary, run.outcome = .ok summary) →
      ∃ samples, Holds Storage.emptyStorage ⟨"run.csv"⟩ samples run.storage ∧
        samples ⊆ samplesOf settings.encoding
          (records settings.encoding.unit (heard run.source.source.reads)) := by
  intro whole
  obtain ⟨samples, holds, inside⟩ := whole shortenedNumber 9 ⟨3, .utf8, 0⟩ 9 ⟨⟨1, 1, 0, 3⟩, rfl⟩
  have only : ∀ sample ∈ samples, sample = ⟨"1", "2", "3", "45"⟩ := fun sample member =>
    List.mem_singleton.mp (inside member)
  have content : Storage.octetsOf (sessionText [⟨"1", "2", "3", "4"⟩]) =
      Storage.octetsOf (sessionText samples) :=
    Except.ok.inj (holds.1 (Storage.emptyStorage_noSink ⟨"run.csv"⟩))
  rcases List.eq_nil_or_concat samples with rfl | ⟨front, last, rfl⟩
  · exact absurd content (by decide)
  · rw [List.concat_eq_append, sessionText_append, Storage.octetsOf_append, only last (by simp)]
      at content
    have ends := List.suffix_append (Storage.octetsOf (sessionText front))
      (Storage.octetsOf (Sample.row ⟨"1", "2", "3", "45"⟩))
    rw [← content] at ends
    exact absurd ends (by decide)

end Accelerometer.Proofs.Recording
