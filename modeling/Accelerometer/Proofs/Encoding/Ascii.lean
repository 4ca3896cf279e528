import Accelerometer.Proofs.Encoding.Utf16

/-!
# ASCII text in all encodings

A text of ASCII characters has the same octets in all encodings with units of one octet, and the same
with zeros in between in UTF-16. Each encoding decodes what it is sent in to the text itself.

* `decode_ascii`: decoding.
* `isLine_ascii`, `ended_ascii`: which pieces of a text are framed as lines.
* `exists_pieces`: octets that are cut between units are those of the pieces of a text.
* `ascii_words`: the lines of its octets have the words of its records.
-/

namespace Accelerometer.Proofs.Encoding
open Accelerometer.Encoding Proofs.Serial Proofs.Text

variable {σ : Type} {unit : CodeUnit} {text : List Char} {c : Char} {octets : List UInt8}
  {lines : List (List UInt8)}

def IsAsciiText (text : List Char) : Prop :=
  ∀ c ∈ text, c.toNat < 0x80

instance : DecidablePred IsAsciiText :=
  List.decidableBAll fun c : Char => c.toNat < 0x80

def asciiOctets (unit : CodeUnit) (text : List Char) : List UInt8 :=
  text.flatMap fun c => UInt8.ofNat c.toNat :: List.replicate (unit.width - 1) 0

theorem asciiOctets_cons (unit : CodeUnit) (c : Char) (text : List Char) :
    asciiOctets unit (c :: text) =
      UInt8.ofNat c.toNat :: List.replicate (unit.width - 1) 0 ++ asciiOctets unit text := rfl

theorem asciiOctets_append (unit : CodeUnit) (before after : List Char) :
    asciiOctets unit (before ++ after) = asciiOctets unit before ++ asciiOctets unit after :=
  List.flatMap_append

theorem asciiOctets_flatten (unit : CodeUnit) (pieces : List (List Char)) :
    (pieces.map (asciiOctets unit)).flatten = asciiOctets unit pieces.flatten := by
  induction pieces with
  | nil => rfl
  | cons piece pieces ih =>
      rw [List.map_cons, List.flatten_cons, ih, List.flatten_cons, asciiOctets_append]

theorem asciiOctets_length (unit : CodeUnit) (text : List Char) :
    (asciiOctets unit text).length = text.length * unit.width := by
  have positive := width_pos unit
  induction text with
  | nil => rw [List.length_nil, Nat.zero_mul]; rfl
  | cons c text ih =>
      rw [asciiOctets_cons, List.length_append, List.length_cons, List.length_replicate, ih,
        List.length_cons, Nat.add_mul, Nat.one_mul, Nat.sub_add_cancel positive, Nat.add_comm]

/-! ## Decoding -/

theorem toNat_ofNat (ascii : c.toNat < 0x80) : (UInt8.ofNat c.toNat).toNat = c.toNat :=
  UInt8.toNat_ofNat_of_lt' (Nat.lt_trans ascii (by decide))

theorem asciiChar_ofNat (ascii : c.toNat < 0x80) : asciiChar (UInt8.ofNat c.toNat) = c := by
  rw [asciiChar, toNat_ofNat ascii, Char.ofNat_toNat]

theorem asciiOctets_ascii (ascii : IsAsciiText text) :
    ∀ octet ∈ asciiOctets unit text, isAscii octet = true := by
  intro octet member
  obtain ⟨c, inside, isUnit⟩ := List.mem_flatMap.mp member
  rcases List.mem_cons.mp isUnit with rfl | zero
  · apply decide_eq_true
    rw [UInt8.lt_iff_toNat_lt, toNat_ofNat (ascii c inside)]
    exact ascii c inside
  · rw [List.eq_of_mem_replicate zero]
    rfl

theorem octet_asciiOctets (text : List Char) :
    asciiOctets .octet text = text.map fun c => UInt8.ofNat c.toNat := by
  rw [asciiOctets, ← List.flatMap_pure_eq_map]
  rfl

theorem map_asciiChar (ascii : IsAsciiText text) :
    (asciiOctets .octet text).map asciiChar = text := by
  rw [octet_asciiOctets, List.map_map]
  nth_rewrite 2 [← List.map_id text]
  exact List.map_congr_left fun c member => asciiChar_ofNat (ascii c member)

theorem run_ascii (decoder : Decoder σ)
    (step : ∀ octet, isAscii octet = true →
      decoder.step decoder.start octet = ([asciiChar octet], decoder.start))
    (idle : decoder.finish decoder.start = []) (ascii : ∀ octet ∈ octets, isAscii octet = true) :
    decoder.run octets = octets.map asciiChar := by
  induction octets with
  | nil => exact idle
  | cons octet octets ih =>
      have first := step octet (ascii octet List.mem_cons_self)
      have rest := ih fun other member => ascii other (List.mem_cons_of_mem _ member)
      rw [Decoder.run, runFrom_cons, first]
      exact congrArg _ rest

theorem utf8_ascii (ascii : IsAsciiText text) :
    Utf8.decoder.run (asciiOctets .octet text) = text := by
  rw [run_ascii Utf8.decoder _ rfl (asciiOctets_ascii ascii), map_asciiChar ascii]
  intro octet isAscii
  simp only [Utf8.decoder, Utf8.step, Utf8.first, isAscii, if_true]

theorem gb18030_ascii (ascii : IsAsciiText text) :
    Gb18030.decoder.run (asciiOctets .octet text) = text := by
  rw [run_ascii Gb18030.decoder _ rfl (asciiOctets_ascii ascii), map_asciiChar ascii]
  intro octet isAscii
  simp only [Gb18030.decoder, Gb18030.step, Gb18030.stepStart, isAscii, if_true]

theorem utf16_ascii (ascii : IsAsciiText text) :
    (Utf16.decoder .littleEndian).run (asciiOctets .pair text) = text := by
  induction text with
  | nil => rfl
  | cons c text ih =>
      have small := ascii c List.mem_cons_self
      have unit : Utf16.Order.littleEndian.unit (UInt8.ofNat c.toNat) 0 = c.toNat := by
        simp [Utf16.Order.unit, toNat_ofNat small]
      have read : Utf16.readUnit none c.toNat = ([c], ⟨none, none⟩) := by
        rw [Utf16.readUnit, Utf16.single, if_neg (by omega), if_neg (by omega), Char.ofNat_toNat]
      have rest := ih fun other member => ascii other (List.mem_cons_of_mem _ member)
      have first := runFrom_pair .littleEndian none (UInt8.ofNat c.toNat) 0 (asciiOctets .pair text)
      rw [unit, read] at first
      exact first.trans (congrArg _ rest)

theorem isUtf8_ascii (ascii : IsAsciiText text) : isUtf8 (asciiOctets .octet text) = true := by
  rw [isUtf8, ByteArray.validateUTF8_eq_true_iff]
  refine ⟨text, ?_⟩
  rw [List.utf8Encode, octet_asciiOctets, ← List.flatMap_pure_eq_map]
  congr 1
  apply List.flatMap_congr
  intro c member
  have small : c.val.toNat ≤ 0x7F := Nat.le_of_lt_succ (ascii c member)
  rw [String.utf8EncodeChar]
  exact (if_pos small).symm

theorem decodeMarked_ascii (otherwise : List UInt8 → List Char)
    (ascii : ∀ octet ∈ octets, isAscii octet = true) :
    decodeMarked otherwise octets = otherwise octets := by
  unfold decodeMarked
  split
  · exact absurd (ascii 0xEF List.mem_cons_self) (by decide)
  · exact absurd (ascii 0xFF List.mem_cons_self) (by decide)
  · exact absurd (ascii 0xFE List.mem_cons_self) (by decide)
  · rfl

theorem decode_ascii (encoding : Encoding) (ascii : IsAsciiText text) :
    encoding.decode (asciiOctets encoding.unit text) = text := by
  have plain : ∀ octet ∈ asciiOctets encoding.unit text, isAscii octet = true :=
    asciiOctets_ascii ascii
  cases encoding with
  | auto => exact (if_pos (isUtf8_ascii ascii)).trans (utf8_ascii ascii)
  | utf8 => exact utf8_ascii ascii
  | utf16 => exact (decodeMarked_ascii _ plain).trans (utf16_ascii ascii)
  | ascii =>
      refine Eq.trans (List.map_congr_left ?_) (map_asciiChar ascii)
      intro octet member
      exact if_pos (plain octet member)
  | gbk => exact (decodeMarked_ascii _ plain).trans (gb18030_ascii ascii)
  | gb2312 => exact (decodeMarked_ascii _ plain).trans (gb18030_ascii ascii)

/-! ## Lines -/

theorem asciiUnit_terminator (ascii : c.toNat < 0x80) :
    UInt8.ofNat c.toNat :: List.replicate (unit.width - 1) 0 = terminator unit ↔ c = '\n' := by
  have only : UInt8.ofNat c.toNat = 0x0A ↔ c = '\n' := by
    constructor
    · intro equal
      rw [← asciiChar_ofNat ascii, equal]
      rfl
    · rintro rfl
      rfl
  cases unit <;> simp [terminator, CodeUnit.width, only]

theorem terminatedAt_ascii (ascii : IsAsciiText text) {position : Nat} :
    TerminatedAt unit (asciiOctets unit text) position ↔ text[position]? = some '\n' := by
  induction text generalizing position with
  | nil =>
      have short : (asciiOctets unit []).length < unit.width := width_pos unit
      simpa using not_terminatedAt_short short position
  | cons c text ih =>
      have width : (UInt8.ofNat c.toNat :: List.replicate (unit.width - 1) 0).length = unit.width := by
        rw [List.length_cons, List.length_replicate, Nat.sub_add_cancel (width_pos unit)]
      rw [asciiOctets_cons]
      cases position with
      | zero =>
          rw [terminatedAt_zero width, asciiUnit_terminator (ascii c List.mem_cons_self),
            List.getElem?_cons_zero, Option.some_inj]
      | succ position =>
          rw [terminatedAt_succ width,
            ih fun other member => ascii other (List.mem_cons_of_mem _ member),
            List.getElem?_cons_succ]

theorem isLine_ascii (ascii : IsAsciiText text) :
    IsLine unit (asciiOctets unit text) ↔
      text ≠ [] ∧ ∀ position, text[position]? = some '\n' → text.length = position + 1 := by
  have nonempty : asciiOctets unit text ≠ [] ↔ text ≠ [] := by
    cases text <;> simp [asciiOctets]
  simp only [IsLine, nonempty, terminatedAt_ascii ascii, asciiOctets_length,
    Nat.mul_left_inj (Nat.ne_of_gt (width_pos unit))]

theorem ended_ascii (ascii : IsAsciiText text) :
    Ended unit (asciiOctets unit text) ↔
      ∃ position, text[position]? = some '\n' ∧ text.length = position + 1 := by
  simp only [Ended, terminatedAt_ascii ascii, asciiOctets_length,
    Nat.mul_left_inj (Nat.ne_of_gt (width_pos unit))]

theorem exists_pieces (cut : ∀ line ∈ lines, unit.width ∣ line.length)
    (all : lines.flatten = asciiOctets unit text) :
    ∃ pieces : List (List Char), lines = pieces.map (asciiOctets unit) ∧ pieces.flatten = text := by
  induction lines generalizing text with
  | nil =>
      have empty := congrArg List.length all
      rw [asciiOctets_length, List.flatten_nil, List.length_nil, eq_comm, Nat.mul_eq_zero,
        or_iff_left (Nat.ne_of_gt (width_pos unit)), List.length_eq_zero_iff] at empty
      exact ⟨[], rfl, empty.symm⟩
  | cons line lines ih =>
      obtain ⟨count, length⟩ := cut line List.mem_cons_self
      rw [← List.take_append_drop count text, asciiOctets_append, List.flatten_cons] at all
      have bound : count ≤ text.length := by
        have total := congrArg List.length all
        rw [← asciiOctets_append, List.take_append_drop, List.length_append, asciiOctets_length, length,
          Nat.mul_comm] at total
        exact Nat.le_of_mul_le_mul_right (Nat.le.intro total) (width_pos unit)
      have first : line.length = (asciiOctets unit (text.take count)).length := by
        rw [asciiOctets_length, List.length_take, Nat.min_eq_left bound, length, Nat.mul_comm]
      obtain ⟨rfl, rest⟩ := List.append_inj all first
      obtain ⟨pieces, rfl, behind⟩ :=
        ih (fun other member => cut other (List.mem_cons_of_mem _ member)) rest
      exact ⟨text.take count :: pieces, rfl, by rw [List.flatten_cons, behind, List.take_append_drop]⟩

theorem cut_between_units (whole : unit.width ∣ lines.flatten.length)
    (ended : ∀ before line after, lines = before ++ line :: after → after ≠ [] → Ended unit line) :
    ∀ line ∈ lines, unit.width ∣ line.length := by
  induction lines with
  | nil => exact fun line member => absurd member List.not_mem_nil
  | cons line lines ih =>
      have first : unit.width ∣ line.length := by
        cases lines with
        | nil => rwa [List.flatten_singleton] at whole
        | cons next lines =>
            obtain ⟨position, -, length⟩ := ended [] line (next :: lines) rfl (List.cons_ne_nil _ _)
            exact ⟨position + 1, by rw [length, Nat.mul_comm]⟩
      rw [List.flatten_cons, List.length_append, Nat.dvd_add_right first] at whole
      have rest := ih whole fun before other after split =>
        ended (line :: before) other after (by rw [split]; rfl)
      exact List.forall_mem_cons.mpr ⟨first, rest⟩

theorem ascii_words (encoding : Encoding) (ascii : IsAsciiText text)
    (all : lines.flatten = asciiOctets encoding.unit text)
    (framed : ∀ line ∈ lines, IsLine encoding.unit line)
    (ended : ∀ before line after, lines = before ++ line :: after → after ≠ [] →
      Ended encoding.unit line) :
    (lines.map fun line => Text.words (encoding.decode line)) = (recordsOf text).map Text.words := by
  have whole : encoding.unit.width ∣ lines.flatten.length := by
    rw [all, asciiOctets_length]
    exact Nat.dvd_mul_left _ _
  obtain ⟨pieces, rfl, rfl⟩ := exists_pieces (cut_between_units whole ended) all
  have inside : ∀ piece ∈ pieces, IsAsciiText piece := by
    intro piece member c within
    exact ascii c (List.mem_flatten_of_mem member within)
  -- the pieces are lines in units of one octet as well, where decoding goes line by line
  have framed' : ∀ line ∈ pieces.map (asciiOctets .octet), IsLine .octet line := by
    intro line member
    obtain ⟨piece, within, rfl⟩ := List.mem_map.mp member
    rw [isLine_ascii (inside piece within), ← isLine_ascii (inside piece within)]
    exact framed _ (List.mem_map_of_mem within)
  have ended' : ∀ before line after, pieces.map (asciiOctets .octet) = before ++ line :: after →
      after ≠ [] → Ended .octet line := by
    intro before line after split more
    obtain ⟨front, others, rfl, rfl, back⟩ := List.map_eq_append_iff.mp split
    obtain ⟨piece, behind, rfl, rfl, rfl⟩ := List.map_eq_cons_iff.mp back
    have within : piece ∈ front ++ piece :: behind := by simp
    rw [ended_ascii (inside piece within), ← ended_ascii (inside piece within)]
    exact ended (front.map (asciiOctets encoding.unit)) _ (behind.map (asciiOctets encoding.unit))
      (by simp) (by simpa using more)
  have decoded : ∀ {piece}, IsAsciiText piece →
      (asciiOctets .octet piece).map asciiOrQuestion = piece := decode_ascii .ascii
  have words := records_words ascii_linewise framed' ended'
  rw [asciiOctets_flatten, decoded ascii] at words
  rw [words, List.map_map, List.map_map]
  apply List.map_congr_left
  intro piece member
  rw [Function.comp, decode_ascii encoding (inside piece member), Function.comp,
    decoded (inside piece member)]

end Accelerometer.Proofs.Encoding
