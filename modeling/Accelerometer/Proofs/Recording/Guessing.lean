import Accelerometer.Proofs.Encoding.Utf8
import Accelerometer.Proofs.Recording.Simulation

/-!
# Recording without a known encoding

As long as every line is UTF-8, guessing at the encoding comes to recording in UTF-8.

* `handle_guessed`: one line.
* `advance_guessed`: the steps of a run, whose calls have all been made in time.
* `utf8_lines_guessed`: a run, and the text of each line.
-/

namespace Accelerometer.Proofs.Recording
open Accelerometer.Recording Proofs.Encoding Proofs.Serial
open Accelerometer.Storage (octetsOf)

variable {σ : Type} {lines : LineStream σ} {window dropTime : Duration} {source : σ}
  {storage : Storage} {output : Path} {cues : List (Cue LineArrival)} {recording : Recording σ}

/-- Every line that is handed out while the window is open is the UTF-8 of some text. -/
def InUtf8 (lines : LineStream σ) (settings : RecordingSettings) (source : σ) : Prop :=
  ∀ cues after, Calls lines source cues after → Timely settings cues →
    ∀ line ∈ linesOf cues, ∃ text, line = octetsOf text

theorem inUtf8_of_calls {settings : RecordingSettings} {after : σ}
    (made : Calls lines source cues after)
    (full : settings.window ≤ (summaryOf settings cues).elapsed)
    (valid : ∀ line ∈ linesOf cues, ∃ text, line = octetsOf text) :
    InUtf8 lines settings source := by
  intro cues' after' made' timely' line member
  rcases Nat.lt_trichotomy cues'.length cues.length with shorter | equal | longer
  · obtain ⟨cue, more, -, rfl, -⟩ := calls_extend made' made shorter
    apply valid
    rw [linesOf_append]
    exact List.mem_append_left _ member
  · obtain ⟨rfl, -⟩ := calls_unique made' made equal
    exact valid line member
  · obtain ⟨cue, more, -, rfl, -⟩ := calls_extend made made' longer
    exact absurd (timely' cues cue more rfl).1 (Nat.not_lt.mpr full)

theorem handle_guessed (recording : Recording σ) {arrival : LineArrival}
    (valid : ∀ line, arrival = .line line → ∃ text, line = octetsOf text) :
    recording.handle ⟨window, .auto, dropTime⟩ arrival =
      recording.handle ⟨window, .utf8, dropTime⟩ arrival := by
  cases arrival with
  | nothing => rfl
  | fault fault => rfl
  | line octets =>
      obtain ⟨text, rfl⟩ := valid octets rfl
      obtain ⟨known, guessed⟩ := decode_octetsOf text
      simp only [handle, Encoding.lineText, known, guessed]

theorem step_guessed (valid : InUtf8 lines ⟨window, .utf8, dropTime⟩ source)
    (ledger : Ledger lines ⟨window, .utf8, dropTime⟩ source storage output cues recording) :
    recording.step lines ⟨window, .auto, dropTime⟩ =
      recording.step lines ⟨window, .utf8, dropTime⟩ := by
  cases progress : recording.progress with
  | underway =>
      simp only [step, progress]
      split
      · rfl
      · rename_i inTime
        split
        · rfl
        · rename_i read came
          obtain ⟨outcome, took, after⟩ := read
          -- the line that comes belongs to a call made in time, like those before it
          have standing := ledger.standing
          simp only [Standing, progress] at standing
          obtain ⟨kept, faultless⟩ := standing
          have early := Nat.lt_of_not_le inTime
          rw [kept.summary] at early
          have made := Calls.more ledger.calls came
          have timely : Timely _ (cues ++ [⟨took, outcome⟩]) :=
            timely_append ledger.timely early faultless
          apply handle_guessed
          rintro line rfl
          exact valid _ _ made timely line (by simp [line?])
  | ended => simp only [step, progress]
  | failed error => simp only [step, progress]
  | stalled => simp only [step, progress]

theorem advance_guessed (valid : InUtf8 lines ⟨window, .utf8, dropTime⟩ source)
    (ledger : Ledger lines ⟨window, .utf8, dropTime⟩ source storage output cues recording)
    (steps : Nat) :
    recording.advance lines ⟨window, .auto, dropTime⟩ steps =
      recording.advance lines ⟨window, .utf8, dropTime⟩ steps := by
  induction steps generalizing cues recording with
  | zero => rfl
  | succ steps ih =>
      simp only [advance]
      split
      · rename_i underway
        obtain ⟨more, stepped, -⟩ := step_ledger ledger underway
        rw [step_guessed valid ledger]
        exact ih stepped
      · rfl

theorem record_guessed (valid : InUtf8 lines ⟨window, .utf8, dropTime⟩ source) (steps : Nat) :
    let known := record lines ⟨window, .utf8, dropTime⟩ steps source storage output
    let guessed := record lines ⟨window, .auto, dropTime⟩ steps source storage output
    guessed.outcome = known.outcome ∧ guessed.source = known.source ∧
      guessed.storage = known.storage ∧ guessed.events.tail = known.events.tail := by
  unfold record
  cases created : SessionFile.create storage output with
  | error error => exact ⟨rfl, rfl, rfl, rfl⟩
  | ok opened =>
      have same := advance_guessed valid (begin_ledger lines _ source created) steps
      simp only [same, List.tail_cons, and_self]

/-- When all lines that a device hands out while the window is open are UTF-8, then a recording that
guesses at the encoding has the result of one in UTF-8: the same counters or the same error, the same
file, and the same journal but for the name of the encoding. Each line gives the very text it stands
for either way, a byte-order mark at its front included. -/
theorem utf8_lines_guessed (device : ByteSource σ) (timeout : Duration)
    (fuel : LineAssembler σ → Nat) (window dropTime : Duration) (steps : Nat) (source : σ)
    (storage : Storage) (output : Path)
    (valid : InUtf8 (LineAssembler.lineStream device ⟨.octet, timeout⟩ fuel)
      ⟨window, .utf8, dropTime⟩ ⟨source, []⟩) :
    let run (encoding : Encoding) :=
      recordDevice device timeout fuel ⟨window, encoding, dropTime⟩ steps source storage output
    (run .auto).outcome = (run .utf8).outcome ∧ (run .auto).source = (run .utf8).source ∧
      (run .auto).storage = (run .utf8).storage ∧
      (run .auto).events.tail = (run .utf8).events.tail ∧
      ∀ text : String, Encoding.auto.decode (octetsOf text) = text.toList ∧
        Encoding.utf8.decode (octetsOf text) = text.toList := by
  obtain ⟨outcome, position, written, journal⟩ := record_guessed valid steps
  refine ⟨outcome, position, written, journal, ?_⟩
  intro text
  exact (decode_octetsOf text).symm

def markedSample : List UInt8 :=
  [0xEF, 0xBB, 0xBF, 0x31, 0x20, 0x32, 0x20, 0x33, 0x20, 0x34, 0x0A]

def greekLine : List UInt8 :=
  [0xCF, 0x80, 0x0A]

def cutInsideMark : ScriptedDevice :=
  .ofCues [⟨1, .chunk (markedSample.take 2)⟩, ⟨1, .chunk (markedSample.drop 2 ++ greekLine)⟩] 100

theorem cutInsideMark_guessed :
    let run := recordDevice ScriptedDevice.source 20 (fun _ => 5) ⟨50, .auto, 0⟩ 9 cutInsideMark
      Storage.emptyStorage ⟨"run.csv"⟩
    run.outcome = .ok ⟨1, 1, 1, 102⟩ ∧
    run.storage.readOctets ⟨"run.csv"⟩ =
      .ok (octetsOf (Session.sessionText [⟨"\uFEFF1", "2", "3", "4"⟩])) ∧
    run.events.tail = [.lineDropped 1 greekLine] := by
  intro run
  let lines := LineAssembler.lineStream ScriptedDevice.source ⟨.octet, 20⟩ fun _ => 5
  have first : Calls lines ⟨cutInsideMark, []⟩ ([] ++ [⟨2, .line markedSample⟩])
      ⟨⟨[], [], 100, 2⟩, greekLine⟩ := .more (.none _) rfl
  have second : Calls lines ⟨cutInsideMark, []⟩ [⟨2, .line markedSample⟩, ⟨0, .line greekLine⟩]
      ⟨⟨[], [], 100, 2⟩, []⟩ := .more first rfl
  have made : Calls lines ⟨cutInsideMark, []⟩
      [⟨2, .line markedSample⟩, ⟨0, .line greekLine⟩, ⟨100, .nothing⟩] ⟨⟨[], [], 100, 3⟩, []⟩ :=
    .more second rfl
  have valid : ∀ line ∈ [markedSample, greekLine], ∃ text, line = octetsOf text := by
    simp only [List.mem_cons, List.not_mem_nil, or_false, forall_eq_or_imp, forall_eq]
    exact ⟨⟨"\uFEFF1 2 3 4\n", by decide⟩, ⟨"π\n", by decide⟩⟩
  obtain ⟨outcome, -, written, journal, -⟩ := utf8_lines_guessed ScriptedDevice.source 20
    (fun _ => 5) 50 0 9 cutInsideMark Storage.emptyStorage ⟨"run.csv"⟩
    (inUtf8_of_calls made (by decide) valid)
  refine ⟨outcome.trans ?_, (congrArg (Storage.readOctets · _) written).trans ?_, journal.trans ?_⟩
  · decide +kernel
  · decide +kernel
  · rfl

end Accelerometer.Proofs.Recording
