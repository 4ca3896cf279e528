import Accelerometer.Proofs.Encoding.LineFeeds
import Accelerometer.Proofs.Encoding.Utf16
import Accelerometer.Proofs.Serial.Conservation
import Accelerometer.Sample

/-!
# Lines as they are framed, and as they are decoded

A line is cut off at the terminator of its encoding. Its text is one line too, unless a byte-order mark
at its front makes the decoder read it in another encoding, whose line feeds were not looked for.

* `utf16_feedAtEnd`: a line feed comes from no other unit than its own.
* `lineText_plain`: the text of a framed line has no line feed.
* `lines_are_single`: nor have the texts of the lines that are read from a device.
* `twoLines_framed_as_one`: with the mark of the other octet order, two lines are read as one.
-/

namespace Accelerometer.Proofs.Encoding
open Accelerometer.Encoding Accelerometer.Text Proofs.Serial

variable {text front : List Char} {octets line : List UInt8} {unit : CodeUnit}

def FeedAtEnd (text : List Char) : Prop :=
  ∃ body, '\n' ∉ body ∧ (text = body ∨ text = body ++ ['\n'])

def TerminatorAtEnd (unit : CodeUnit) (octets : List UInt8) : Prop :=
  ∀ position, TerminatedAt unit octets position → octets.length = (position + 1) * unit.width

theorem feedAtEnd_of_plain (plain : '\n' ∉ text) : FeedAtEnd text :=
  ⟨text, plain, .inl rfl⟩

theorem feedAtEnd_append (plain : '\n' ∉ front) (atEnd : FeedAtEnd text) :
    FeedAtEnd (front ++ text) := by
  obtain ⟨body, plain', rfl | rfl⟩ := atEnd
  · exact feedAtEnd_of_plain (by simp [plain, plain'])
  · exact ⟨front ++ body, by simp [plain, plain'], .inr (List.append_assoc ..).symm⟩

theorem not_mem_dropEndWhile (atEnd : FeedAtEnd text) : '\n' ∉ dropEndWhile isLineEnd text := by
  obtain ⟨body, plain, rfl | rfl⟩ := atEnd
  · intro member
    have inside := (List.dropWhile_sublist _).subset (List.mem_reverse.mp member)
    exact plain (List.mem_reverse.mp inside)
  · intro member
    rw [dropEndWhile, List.reverse_append, List.reverse_singleton, List.singleton_append,
      List.dropWhile_cons_of_pos rfl] at member
    have inside := (List.dropWhile_sublist _).subset (List.mem_reverse.mp member)
    exact plain (List.mem_reverse.mp inside)

theorem terminatorAtEnd_behind {rest : List UInt8} (mark : List UInt8) (count : Nat)
    (length : mark.length = count * unit.width) (atEnd : TerminatorAtEnd unit (mark ++ rest)) :
    TerminatorAtEnd unit rest := by
  intro position terminated
  have further : TerminatedAt unit (mark ++ rest) (count + position) := by
    rw [TerminatedAt, Nat.add_mul, ← length, ← List.drop_drop, List.drop_left]
    exact terminated
  have total := atEnd _ further
  rw [List.length_append, length, Nat.add_assoc, Nat.add_mul] at total
  exact Nat.add_left_cancel total

theorem linewise_feedAtEnd {decode : List UInt8 → List Char} (linewise : Linewise decode)
    (atEnd : TerminatorAtEnd .octet octets) : FeedAtEnd (decode octets) := by
  by_cases empty : octets = []
  · rw [empty, linewise.empty]
    exact feedAtEnd_of_plain List.not_mem_nil
  · by_cases ended : Ended .octet octets
    · obtain ⟨body, rfl, free⟩ := octets_of_ended ⟨empty, atEnd⟩ ended
      obtain ⟨text, plain, decoded⟩ := linewise.terminated body free
      refine ⟨text, plain, .inr ?_⟩
      rw [decoded [], linewise.empty]
    · have free := octets_of_not_ended ⟨empty, atEnd⟩ ended
      exact feedAtEnd_of_plain (linewise.unterminated octets free empty).1

/-! ## Decoding -/

theorem utf16_feedAtEnd (order : Utf16.Order) {octets : List UInt8} (high : Option Nat)
    (atEnd : ∀ position, feedUnit order <+: octets.drop (position * 2) →
      octets.length = (position + 1) * 2) :
    FeedAtEnd ((Utf16.decoder order).runFrom ⟨high, none⟩ octets) := by
  induction octets using unit_induction .pair generalizing high with
  | short octets short =>
      apply feedAtEnd_of_plain
      match octets, short with
      | [], _ => exact finish_plain _
      | [_], _ => exact finish_plain _
  | step first rest width ih =>
      match first, width with
      | [low, high'], _ =>
        rw [List.cons_append, List.cons_append, List.nil_append] at atEnd ⊢
        rw [runFrom_pair]
        by_cases feed : order.unit low high' = 10
        · have length := atEnd 0 (by rw [← unit_eq_feed feed]; exact List.prefix_append ..)
          obtain rfl : rest = [] := List.length_eq_zero_iff.mp (by simpa using length)
          obtain ⟨text, plain, read⟩ := readUnit_feed high
          rw [feed, read]
          exact ⟨text, plain, .inr (List.append_nil _)⟩
        · apply feedAtEnd_append (readUnit_plain feed high)
          obtain ⟨half, read⟩ : ∃ half, (Utf16.readUnit high (order.unit low high')).2 = ⟨half, none⟩ :=
            ⟨_, by rw [← readUnit_state high (order.unit low high')]⟩
          rw [read]
          apply ih
          intro position feeds
          have behind := atEnd (position + 1) (by rwa [Nat.add_mul, Nat.one_mul])
          simp only [List.length_cons] at behind
          omega

/-! ## Lines of a device -/

/-- A byte-order mark of an encoding other than the one that UTF-16 lines are framed for. -/
def ForeignMark (line : List UInt8) : Prop :=
  [0xEF, 0xBB, 0xBF] <+: line ∨ [0xFE, 0xFF] <+: line

theorem feed_in_octets (order : Utf16.Order) (atEnd : TerminatorAtEnd .octet octets) {position : Nat}
    (feeds : feedUnit order <+: octets.drop (position * 2)) :
    octets.length = (position + 1) * 2 := by
  obtain ⟨rest, behind⟩ := feeds
  cases order with
  | littleEndian =>
      have terminated : TerminatedAt .octet octets (position * 2) := by
        rw [TerminatedAt, CodeUnit.width, Nat.mul_one, ← behind]
        exact List.prefix_append [0x0A] (0x00 :: rest)
      have last := atEnd _ terminated
      have length := congrArg List.length behind
      simp only [feedUnit, List.length_append, List.length_cons, List.length_nil, List.length_drop,
        CodeUnit.width] at length last
      omega
  | bigEndian =>
      have terminated : TerminatedAt .octet octets (position * 2 + 1) := by
        rw [TerminatedAt, CodeUnit.width, Nat.mul_one, ← List.drop_drop, ← behind]
        exact List.prefix_append [0x0A] rest
      have last := atEnd _ terminated
      rw [CodeUnit.width, Nat.mul_one] at last
      omega

theorem gb18030_feedAtEnd (atEnd : TerminatorAtEnd .octet line) :
    FeedAtEnd (decodeMarked Gb18030.decoder.run line) := by
  unfold decodeMarked
  split
  · have behind := terminatorAtEnd_behind [0xEF, 0xBB, 0xBF] 3 rfl atEnd
    exact linewise_feedAtEnd utf8_linewise behind
  · have behind := terminatorAtEnd_behind [0xFF, 0xFE] 2 rfl atEnd
    exact utf16_feedAtEnd .littleEndian none fun _ => feed_in_octets .littleEndian behind
  · have behind := terminatorAtEnd_behind [0xFE, 0xFF] 2 rfl atEnd
    exact utf16_feedAtEnd .bigEndian none fun _ => feed_in_octets .bigEndian behind
  · exact linewise_feedAtEnd gb18030_linewise atEnd

theorem utf16Marked_feedAtEnd (unmarked : ¬ForeignMark line) (atEnd : TerminatorAtEnd .pair line) :
    FeedAtEnd (decodeMarked (Utf16.decoder .littleEndian).run line) := by
  unfold decodeMarked
  split
  · exact absurd (.inl (List.prefix_append [0xEF, 0xBB, 0xBF] _)) unmarked
  · exact utf16_feedAtEnd .littleEndian none (terminatorAtEnd_behind [0xFF, 0xFE] 1 rfl atEnd)
  · exact absurd (.inr (List.prefix_append [0xFE, 0xFF] _)) unmarked
  · exact utf16_feedAtEnd .littleEndian none atEnd

theorem lineText_plain {encoding : Encoding} (chosen : encoding ≠ .auto)
    (framed : IsLine encoding.unit line) (unmarked : encoding = .utf16 → ¬ForeignMark line) :
    '\n' ∉ encoding.lineText line := by
  apply not_mem_dropEndWhile
  cases encoding with
  | auto => exact absurd rfl chosen
  | utf8 => exact linewise_feedAtEnd utf8_linewise framed.2
  | utf16 => exact utf16Marked_feedAtEnd (unmarked rfl) framed.2
  | ascii => exact linewise_feedAtEnd ascii_linewise framed.2
  | gbk => exact gb18030_feedAtEnd framed.2
  | gb2312 => exact gb18030_feedAtEnd framed.2

/-- Whatever a device sends and however it is cut into reads and waits, each line that is framed for an
encoding is decoded to a text without a line feed, and so gives one record at most. Only a line framed
for UTF-16 must not begin with the mark of UTF-8 or of the other octet order. -/
theorem lines_are_single {σ : Type} (device : ByteSource σ) (encoding : Encoding) (timeout : Duration)
    (fuel : LineAssembler (Logged σ) → Nat) (source : σ) (calls : List (Cue LineArrival))
    (assembler : LineAssembler (Logged σ)) (chosen : encoding ≠ .auto)
    (made : Calls (LineAssembler.lineStream (logged device) ⟨encoding.unit, timeout⟩ fuel)
      (fresh source) calls assembler)
    (line : List UInt8) (member : line ∈ linesOf calls)
    (unmarked : encoding = .utf16 → ¬ForeignMark line) :
    '\n' ∉ encoding.lineText line :=
  lineText_plain chosen (calls_framed made line member) unmarked

def markedUnits : ScriptedDevice :=
  .ofCues [⟨1, .chunk [0xFF]⟩, ⟨1, .chunk [0xFE, 0x31, 0x0A, 0x0A, 0x00, 0x0A]⟩] 1

theorem markedUnits_single :
    ∃ assembler,
      Calls (LineAssembler.lineStream (logged ScriptedDevice.source) ⟨Encoding.utf16.unit, 9⟩ fun _ => 5)
        (fresh markedUnits) [⟨2, .line [0xFF, 0xFE, 0x31, 0x0A, 0x0A, 0x00]⟩, ⟨1, .line [0x0A]⟩]
        assembler ∧
      '\n' ∉ Encoding.utf16.lineText [0xFF, 0xFE, 0x31, 0x0A, 0x0A, 0x00] := by
  have start : Calls
      (LineAssembler.lineStream (logged ScriptedDevice.source) ⟨Encoding.utf16.unit, 9⟩ fun _ => 5)
      (fresh markedUnits) [] (fresh markedUnits) := .none _
  have made := Calls.more (.more start rfl) rfl
  have unmarked : ¬ForeignMark [0xFF, 0xFE, 0x31, 0x0A, 0x0A, 0x00] := by
    unfold ForeignMark
    decide
  exact ⟨_, made, lines_are_single _ .utf16 _ _ _ _ _ (by decide) made _ (by decide)
    fun _ => unmarked⟩

def otherOrder : List UInt8 :=
  [0xFE, 0xFF, 0x00, 0x31, 0x00, 0x20, 0x00, 0x32, 0x00, 0x0A, 0x00, 0x33, 0x00, 0x20, 0x00, 0x34]

/-- No terminator is found in them, but the mark at their front makes them two lines of text, which
together have the four words of a sample. -/
theorem twoLines_framed_as_one :
    ¬∀ (encoding : Encoding) (device : ScriptedDevice) (calls : List (Cue LineArrival))
      (assembler : LineAssembler (Logged ScriptedDevice)), encoding ≠ .auto →
      Calls (LineAssembler.lineStream (logged ScriptedDevice.source) ⟨encoding.unit, 9⟩ fun _ => 5)
        (fresh device) calls assembler →
      ∀ line ∈ linesOf calls, '\n' ∉ encoding.lineText line := by
  intro single
  let device : ScriptedDevice := .ofCues [⟨1, .chunk otherOrder⟩] 1
  have start : Calls
      (LineAssembler.lineStream (logged ScriptedDevice.source) ⟨Encoding.utf16.unit, 9⟩ fun _ => 5)
      (fresh device) [] (fresh device) := .none _
  have made := Calls.more start rfl
  have plain := single .utf16 device _ _ (by decide) made otherOrder (by decide)
  exact plain (by decide)

example : Sample.parse (Encoding.utf16.lineText otherOrder) = .ok ⟨"1", "2", "3", "4"⟩ := by
  rfl

end Accelerometer.Proofs.Encoding
