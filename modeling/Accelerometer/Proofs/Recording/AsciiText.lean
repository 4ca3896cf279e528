import Accelerometer.Proofs.Encoding.Ascii
import Accelerometer.Proofs.Recording.Chunking

/-!
# Recording ASCII text

The encoding makes no difference to a recording of ASCII text, as long as the device sends in it.
-/

namespace Accelerometer.Proofs.Recording
open Accelerometer.Encoding Proofs.Encoding Proofs.Serial Proofs.Session Proofs.Text
open Proofs.Storage (Roomy)

variable {σ : Type}

/-- The file and the counters of a recording of an ASCII text are what the text alone says, whichever
of the six encodings it is sent and recorded in, and wherever its octets are cut into reads: for
UTF-16 also inside a unit. -/
theorem ascii_text_recorded (device : ByteSource σ) (timeout : Duration)
    (fuel : LineAssembler σ → Nat) (settings : RecordingSettings) (steps : Nat) (source : σ)
    (storage : Storage) (output : Path) (text : List Char) (ascii : IsAsciiText text)
    (made : ∀ reason,
      (recordDevice device timeout fuel settings steps source storage output).outcome =
        .error (.cannotWrite output reason) → Roomy storage output)
    (delivered : Delivered ⟨settings.encoding.unit, timeout⟩
      (asciiOctets settings.encoding.unit text)
      (recordDevice (logged device) timeout (fuel ∘ unlogged) settings steps ⟨source, []⟩ storage
        output).source) :
    let result := recordDevice device timeout fuel settings steps source storage output
    Holds storage output ((recordsOf text).filterMap sampleOf?) result.storage ∧
    ∀ summary, result.outcome = .ok summary →
      summary.accepted = ((recordsOf text).filterMap sampleOf?).length ∧
      summary.dropped = (recordsOf text).countP fun record => (Text.words record).length ≠ 4 := by
  intro result
  obtain ⟨same, cues, follows, holds⟩ :=
    recordDevice_writable device timeout fuel settings steps source storage output made
  rw [show result = viewResult unlogged _ from same]
  obtain ⟨heard, handedOut, unbroken⟩ := delivered
  rw [← heard] at unbroken
  obtain ⟨all, framed, ended⟩ := lines_whole follows.calls handedOut unbroken
  have recorded :=
    follows_words follows holds (ascii_words settings.encoding ascii (all.trans heard) framed ended)
  exact recorded

def blankBetween : List Char :=
  "1 2 3 4\r\n\n5 6 7 \"8\"".toList

def cutInsideUnit : ScriptedDevice :=
  let octets := asciiOctets .pair blankBetween
  .ofCues
    [⟨1, .chunk (octets.take 3)⟩, ⟨1, .fault ⟨.interrupted, none⟩⟩, ⟨1, .chunk (octets.drop 3)⟩,
      ⟨1, .chunk []⟩] 100

theorem cutInsideUnit_recorded :
    let result := recordDevice ScriptedDevice.source 20 (fun _ => 5) ⟨100, .utf16, 0⟩ 9 cutInsideUnit
      Storage.emptyStorage ⟨"run.csv"⟩
    result.outcome = .ok ⟨2, 1, 1, 104⟩ ∧
    result.storage.readOctets ⟨"run.csv"⟩ =
      .ok (Storage.octetsOf (sessionText [⟨"1", "2", "3", "4"⟩, ⟨"5", "6", "7", "\"8\""⟩])) := by
  intro result
  have outcome : result.outcome = .ok ⟨2, 1, 1, 104⟩ := rfl
  have ascii : IsAsciiText blankBetween := by decide
  have delivered : Delivered ⟨.pair, 20⟩ (asciiOctets .pair blankBetween)
      (recordDevice (logged ScriptedDevice.source) 20 ((fun _ => 5) ∘ unlogged) ⟨100, .utf16, 0⟩ 9
        ⟨cutInsideUnit, []⟩ Storage.emptyStorage ⟨"run.csv"⟩).source :=
    ⟨rfl, rfl, fun before broken => List.mem_singleton.mp broken⟩
  have held := (ascii_text_recorded ScriptedDevice.source 20 (fun _ => 5) ⟨100, .utf16, 0⟩ 9
    cutInsideUnit Storage.emptyStorage ⟨"run.csv"⟩ blankBetween ascii (roomy_of_ok outcome) delivered).1.1
  exact ⟨outcome, held (Storage.emptyStorage_noSink ⟨"run.csv"⟩)⟩

end Accelerometer.Proofs.Recording
