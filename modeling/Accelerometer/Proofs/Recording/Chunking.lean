import Accelerometer.Proofs.Encoding.LineFeeds
import Accelerometer.Proofs.Recording.Simulation
import Accelerometer.Proofs.Serial.Breaks

/-!
# Recording a stream that arrives in pieces

How a device cuts what it sends does not change what is recorded.

* `decode_words`: the lines of a stream have the words of the records of its text.
* `delivered_words`: so have the lines that a recording is given.
* `recorded_as_a_whole`: the file and the counters of a recording.
-/

namespace Accelerometer.Proofs.Recording
open Accelerometer.Encoding Proofs.Encoding Proofs.Serial Proofs.Session Proofs.Text
open Proofs.Storage (Roomy)

variable {σ : Type} {encoding : Encoding} {octets : List UInt8} {lines : List (List UInt8)}

def Marked (octets : List UInt8) : Prop :=
  [0xEF, 0xBB, 0xBF] <+: octets ∨ [0xFF, 0xFE] <+: octets ∨ [0xFE, 0xFF] <+: octets

def Unmarked (octets : List UInt8) : Prop :=
  ∀ before after, octets = before ++ after → before = [] ∨ before.getLast? = some 0x0A →
    ¬Marked after

/-- The encodings that are decoded line by line. GBK and GB 2312 are, but for byte-order marks. -/
def Supported (encoding : Encoding) (octets : List UInt8) : Prop :=
  match encoding with
  | .utf8 | .ascii => True
  | .gbk | .gb2312 => Unmarked octets
  | .auto | .utf16 => False

/-- All octets have been heard and handed out, and no wait for a line has ended inside a record
before that. -/
structure Delivered (framing : Framing) (octets : List UInt8) (assembler : LineAssembler (Logged σ)) :
    Prop where
  heard : heard assembler.source.reads = octets
  handedOut : assembler.pending = []
  unbroken : ∀ before ∈ (watched framing assembler.source.reads).breaks, before = octets

theorem unmarked_of_small (small : octets.all (· < 0xEF) = true) : Unmarked octets := by
  rintro before after rfl - marked
  have first : ∀ {mark : UInt8} {others : List UInt8}, mark :: others <+: after → mark < 0xEF := by
    intro mark others starts
    have inside := List.mem_append_right before (starts.subset List.mem_cons_self)
    exact of_decide_eq_true (List.all_eq_true.mp small mark inside)
  rcases marked with utf8 | little | big
  · exact absurd (first utf8) (by decide)
  · exact absurd (first little) (by decide)
  · exact absurd (first big) (by decide)

/-! ## Decoding -/

theorem decodeMarked_of_not_marked (otherwise : List UInt8 → List Char) (unmarked : ¬Marked octets) :
    decodeMarked otherwise octets = otherwise octets := by
  unfold decodeMarked
  split
  · exact absurd (.inl (List.prefix_append [0xEF, 0xBB, 0xBF] _)) unmarked
  · exact absurd (.inr (.inl (List.prefix_append [0xFF, 0xFE] _))) unmarked
  · exact absurd (.inr (.inr (List.prefix_append [0xFE, 0xFF] _))) unmarked
  · rfl

theorem marked_append {line : List UInt8} (marked : Marked line) (rest : List UInt8) :
    Marked (line ++ rest) := by
  have grown := List.prefix_append line rest
  rcases marked with utf8 | little | big
  · exact .inl (utf8.trans grown)
  · exact .inr (.inl (little.trans grown))
  · exact .inr (.inr (big.trans grown))

theorem exists_linewise (supported : Supported encoding octets) :
    encoding.unit = .octet ∧ ∃ decode, Linewise decode ∧
      ∀ before line after, octets = before ++ (line ++ after) →
        before = [] ∨ before.getLast? = some 0x0A → encoding.decode line = decode line := by
  have unmarked : Unmarked octets → ∀ before line after, octets = before ++ (line ++ after) →
      before = [] ∨ before.getLast? = some 0x0A →
        decodeMarked Gb18030.decoder.run line = Gb18030.decoder.run line := by
    intro unmarked before line after split front
    apply decodeMarked_of_not_marked
    intro marked
    exact unmarked before (line ++ after) split front (marked_append marked after)
  cases encoding with
  | utf8 => exact ⟨rfl, _, utf8_linewise, fun _ _ _ _ _ => rfl⟩
  | ascii => exact ⟨rfl, _, ascii_linewise, fun _ _ _ _ _ => rfl⟩
  | gbk => exact ⟨rfl, _, gb18030_linewise, unmarked supported⟩
  | gb2312 => exact ⟨rfl, _, gb18030_linewise, unmarked supported⟩
  | auto => exact supported.elim
  | utf16 => exact supported.elim

theorem front_of_line {before : List (List UInt8)}
    (framed : ∀ line ∈ before, IsLine .octet line) (ended : ∀ line ∈ before, Ended .octet line) :
    before.flatten = [] ∨ before.flatten.getLast? = some 0x0A := by
  rcases List.eq_nil_or_concat before with rfl | ⟨earlier, last, rfl⟩
  · exact .inl rfl
  · right
    have member : last ∈ earlier.concat last := by simp
    obtain ⟨body, rfl, -⟩ := octets_of_ended (framed last member) (ended last member)
    simp

theorem decode_words (supported : Supported encoding lines.flatten)
    (framed : ∀ line ∈ lines, IsLine .octet line)
    (ended : ∀ before line after, lines = before ++ line :: after → after ≠ [] →
      Ended .octet line) :
    (lines.map fun line => Text.words (encoding.decode line)) =
      (recordsOf (encoding.decode lines.flatten)).map Text.words := by
  obtain ⟨-, decode, linewise, same⟩ := exists_linewise supported
  have whole := same [] lines.flatten [] (by simp) (.inl rfl)
  rw [whole, records_words linewise framed ended]
  apply List.map_congr_left
  intro line member
  obtain ⟨before, after, split⟩ := List.append_of_mem member
  have earlier : ∀ other ∈ before, Ended .octet other := by
    intro other inside
    obtain ⟨front, back, rfl⟩ := List.append_of_mem inside
    exact ended front other (back ++ line :: after) (by simp [split]) (by simp)
  have front := front_of_line
    (fun other inside => framed other (by rw [split]; exact List.mem_append_left _ inside)) earlier
  rw [same before.flatten line after.flatten (by simp [split]) front]

/-! ## Recording -/

variable {device : ByteSource σ} {framing : Framing} {fuel : LineAssembler (Logged σ) → Nat}
  {source : σ} {cues : List (Cue LineArrival)} {assembler : LineAssembler (Logged σ)}

theorem delivered_words (supported : Supported encoding octets) (unit : framing.unit = encoding.unit)
    (made : Calls (LineAssembler.lineStream (logged device) framing fuel) (fresh source) cues
      assembler)
    (delivered : Delivered framing octets assembler) :
    ((linesOf cues).map fun line => Text.words (encoding.decode line)) =
      (recordsOf (encoding.decode octets)).map Text.words := by
  obtain ⟨rfl, handedOut, unbroken⟩ := delivered
  obtain ⟨all, framed, ended⟩ := lines_whole made handedOut unbroken
  rw [unit, (exists_linewise supported).1] at framed ended
  rw [← all] at supported ⊢
  exact decode_words supported framed ended

theorem follows_words {settings : RecordingSettings} {stream : LineStream σ} {steps : Nat}
    {start : σ} {storage : Storage} {output : Path} {result : RunResult σ} {texts : List (List Char)}
    (follows : Follows stream settings steps start storage output cues result)
    (holds : Holds storage output (samplesOf settings.encoding (linesOf cues)) result.storage)
    (words : ((linesOf cues).map fun line => Text.words (settings.encoding.decode line)) =
      texts.map Text.words) :
    Holds storage output (texts.filterMap sampleOf?) result.storage ∧
    ∀ summary, result.outcome = .ok summary →
      summary.accepted = (texts.filterMap sampleOf?).length ∧
      summary.dropped = texts.countP fun text => (Text.words text).length ≠ 4 := by
  have accepted : samplesOf settings.encoding (linesOf cues) = texts.filterMap sampleOf? := by
    rw [samplesOf_words, words, List.filterMap_map]
    rfl
  have dropped : (droppedOf settings.encoding (linesOf cues)).length =
      texts.countP fun text => (Text.words text).length ≠ 4 := by
    rw [droppedOf_words, words, List.countP_map]
    rfl
  rw [← accepted, ← dropped]
  refine ⟨holds, ?_⟩
  intro summary ended
  have outcome := follows.outcome
  rw [ended] at outcome
  obtain ⟨-, -, rfl, -⟩ := outcome
  exact ⟨rfl, rfl⟩

theorem follows_delivered {settings : RecordingSettings} {timeout : Duration} {steps : Nat}
    {storage : Storage} {output : Path} {result : RunResult (LineAssembler (Logged σ))}
    (supported : Supported settings.encoding octets)
    (follows : Follows
      (LineAssembler.lineStream (logged device) ⟨settings.encoding.unit, timeout⟩ fuel) settings steps
      (fresh source) storage output cues result)
    (holds : Holds storage output (samplesOf settings.encoding (linesOf cues)) result.storage)
    (delivered : Delivered ⟨settings.encoding.unit, timeout⟩ octets result.source) :
    let records := recordsOf (settings.encoding.decode octets)
    Holds storage output (records.filterMap sampleOf?) result.storage ∧
    ∀ summary, result.outcome = .ok summary →
      summary.accepted = (records.filterMap sampleOf?).length ∧
      summary.dropped = records.countP fun record => (Text.words record).length ≠ 4 :=
  follows_words follows holds (delivered_words supported rfl follows.calls delivered)

/-- However the octets of a stream are cut into reads, and whatever else happens between its records,
the file holds the samples among the records of the text that the whole stream is decoded to, and the
other records are counted as dropped. So two devices that send the same octets give the same file. -/
theorem recorded_as_a_whole (device : ByteSource σ) (timeout : Duration)
    (fuel : LineAssembler σ → Nat) (settings : RecordingSettings) (steps : Nat) (source : σ)
    (storage : Storage) (output : Path) (octets : List UInt8)
    (supported : Supported settings.encoding octets)
    (made : ∀ reason,
      (recordDevice device timeout fuel settings steps source storage output).outcome =
        .error (.cannotWrite output reason) → Roomy storage output)
    (delivered : Delivered ⟨settings.encoding.unit, timeout⟩ octets
      (recordDevice (logged device) timeout (fuel ∘ unlogged) settings steps ⟨source, []⟩ storage
        output).source) :
    let result := recordDevice device timeout fuel settings steps source storage output
    let records := recordsOf (settings.encoding.decode octets)
    Holds storage output (records.filterMap sampleOf?) result.storage ∧
    ∀ summary, result.outcome = .ok summary →
      summary.accepted = (records.filterMap sampleOf?).length ∧
      summary.dropped = records.countP fun record => (Text.words record).length ≠ 4 := by
  intro result records
  obtain ⟨same, cues, follows, holds⟩ :=
    recordDevice_writable device timeout fuel settings steps source storage output made
  rw [show result = viewResult unlogged _ from same]
  exact follows_delivered supported follows holds delivered

def cutAnywhere : ScriptedDevice :=
  .ofCues
    [⟨1, .chunk (Storage.octetsOf "1 2")⟩, ⟨1, .fault ⟨.interrupted, none⟩⟩,
      ⟨1, .chunk (Storage.octetsOf " 3 4\n")⟩, ⟨5, .fault ⟨.timedOut, none⟩⟩,
      ⟨1, .chunk [0x31, 0x81]⟩, ⟨1, .chunk (Storage.octetsOf "\n5 6 7 8")⟩, ⟨1, .chunk []⟩] 100

theorem cutAnywhere_recorded :
    let result := recordDevice ScriptedDevice.source 20 (fun _ => 5) ⟨100, .gbk, 0⟩ 9 cutAnywhere
      Storage.emptyStorage ⟨"run.csv"⟩
    result.outcome = .ok ⟨2, 1, 2, 111⟩ ∧
    result.storage.readOctets ⟨"run.csv"⟩ =
      .ok (Storage.octetsOf (sessionText [⟨"1", "2", "3", "4"⟩, ⟨"5", "6", "7", "8"⟩])) := by
  intro result
  let octets := Storage.octetsOf "1 2 3 4\n1" ++ 0x81 :: Storage.octetsOf "\n5 6 7 8"
  have outcome : result.outcome = .ok ⟨2, 1, 2, 111⟩ := rfl
  have supported : Supported .gbk octets := unmarked_of_small (by decide)
  have delivered : Delivered ⟨.octet, 20⟩ octets
      (recordDevice (logged ScriptedDevice.source) 20 ((fun _ => 5) ∘ unlogged) ⟨100, .gbk, 0⟩ 9
        ⟨cutAnywhere, []⟩ Storage.emptyStorage ⟨"run.csv"⟩).source :=
    ⟨rfl, rfl, fun before broken => List.mem_singleton.mp broken⟩
  have held := (recorded_as_a_whole ScriptedDevice.source 20 (fun _ => 5) ⟨100, .gbk, 0⟩ 9 cutAnywhere
    Storage.emptyStorage ⟨"run.csv"⟩ octets supported
    (roomy_of_ok outcome) delivered).1.1
  exact ⟨outcome, held (Storage.emptyStorage_noSink ⟨"run.csv"⟩)⟩

end Accelerometer.Proofs.Recording
