import Accelerometer.Encoding
import Accelerometer.Storage
import Mathlib.Tactic.Linarith

/-!
# Texts in UTF-8

The decoder of UTF-8 gives back every text from its octets, whatever characters it begins with, and so
does the guess at an encoding, which finds these octets to be UTF-8.

* `runFrom_character`: one character, with more octets behind it.
* `decode_octetsOf`: whole texts, in UTF-8 and as a guess.
* `isUtf8_iff`: octets that are UTF-8 are those of some text.
-/

namespace Accelerometer.Proofs.Encoding
open Accelerometer.Encoding
open Accelerometer.Storage (octetsOf)

variable {bits following part : Nat} {least greatest : UInt8} {rest : List UInt8}

/-! ## The first octet of a character -/

theorem first_ascii : ∀ code < 0x80, Utf8.first (.ofNat code) = ([Char.ofNat code], .start) := by
  decide

theorem first_pair : ∀ bits < 0x20, 2 ≤ bits →
    Utf8.first (.ofNat (bits + 0xC0)) = ([], .inside bits 0 0x80 0xBF) := by
  decide

theorem first_triple : ∀ bits < 0x10, Utf8.first (.ofNat (bits + 0xE0)) =
    ([], .inside bits 1 (if bits = 0 then 0xA0 else 0x80) (if bits = 0xD then 0x9F else 0xBF)) := by
  decide

theorem first_quadruple : ∀ bits < 5, Utf8.first (.ofNat (bits + 0xF0)) =
    ([], .inside bits 2 (if bits = 0 then 0x90 else 0x80) (if bits = 4 then 0x8F else 0xBF)) := by
  decide

/-! ## The octets after the first one -/

theorem step_inside (small : part < 0x40) (low : least.toNat ≤ part + 0x80)
    (high : part + 0x80 ≤ greatest.toNat) :
    Utf8.step (.inside bits following least greatest) (.ofNat (part + 0x80)) =
      match following with
      | 0 => ([Char.ofNat (bits * 0x40 + part)], .start)
      | following + 1 => ([], .inside (bits * 0x40 + part) following 0x80 0xBF) := by
  have value : (UInt8.ofNat (part + 0x80)).toNat = part + 0x80 := by
    rw [UInt8.toNat_ofNat', Nat.mod_eq_of_lt (by omega)]
  have inside : least ≤ .ofNat (part + 0x80) ∧ .ofNat (part + 0x80) ≤ greatest := by
    rw [UInt8.le_iff_toNat_le, UInt8.le_iff_toNat_le, value]
    exact ⟨low, high⟩
  cases following <;> simp only [Utf8.step, if_pos inside, value, Nat.add_sub_cancel]

theorem runFrom_last (small : part < 0x40) (low : least.toNat ≤ part + 0x80)
    (high : part + 0x80 ≤ greatest.toNat) :
    Utf8.decoder.runFrom (.inside bits 0 least greatest) (.ofNat (part + 0x80) :: rest) =
      Char.ofNat (bits * 0x40 + part) :: Utf8.decoder.runFrom .start rest := by
  have stepped : Utf8.step (.inside bits 0 least greatest) (.ofNat (part + 0x80)) =
      ([Char.ofNat (bits * 0x40 + part)], .start) := step_inside small low high
  simp only [Decoder.runFrom, Utf8.decoder, stepped]
  rfl

theorem runFrom_inside (small : part < 0x40) (low : least.toNat ≤ part + 0x80)
    (high : part + 0x80 ≤ greatest.toNat) :
    Utf8.decoder.runFrom (.inside bits (following + 1) least greatest)
        (.ofNat (part + 0x80) :: rest) =
      Utf8.decoder.runFrom (.inside (bits * 0x40 + part) following 0x80 0xBF) rest := by
  have stepped : Utf8.step (.inside bits (following + 1) least greatest) (.ofNat (part + 0x80)) =
      ([], .inside (bits * 0x40 + part) following 0x80 0xBF) := step_inside small low high
  simp only [Decoder.runFrom, Utf8.decoder, stepped]
  rfl

theorem runFrom_first {octet : UInt8} {state : Utf8.State} (first : Utf8.first octet = ([], state)) :
    Utf8.decoder.runFrom .start (octet :: rest) = Utf8.decoder.runFrom state rest := by
  simp only [Decoder.runFrom, Utf8.decoder, Utf8.step, first]
  rfl

/-! ## Characters and texts -/

theorem runFrom_two {code : Nat} (least : 0x80 ≤ code) (most : code < 0x800) (rest : List UInt8) :
    Utf8.decoder.runFrom .start
        (.ofNat (code / 64 % 0x20 + 0xC0) :: .ofNat (code % 0x40 + 0x80) :: rest) =
      Char.ofNat code :: Utf8.decoder.runFrom .start rest := by
  have first := first_pair (code / 64 % 0x20) (by omega) (by omega)
  have sum : code / 64 % 0x20 * 0x40 + code % 0x40 = code := by omega
  rw [runFrom_first first, runFrom_last (by omega) (by simp) (by simp; omega), sum]

theorem runFrom_three {code : Nat} (least : 0x800 ≤ code) (most : code < 0x10000)
    (noSurrogate : code < 0xD800 ∨ 0xDFFF < code) (rest : List UInt8) :
    Utf8.decoder.runFrom .start (.ofNat (code / 4096 % 0x10 + 0xE0) ::
        .ofNat (code / 64 % 0x40 + 0x80) :: .ofNat (code % 0x40 + 0x80) :: rest) =
      Char.ofNat code :: Utf8.decoder.runFrom .start rest := by
  have first := first_triple (code / 4096 % 0x10) (by omega)
  have sum : (code / 4096 % 0x10 * 0x40 + code / 64 % 0x40) * 0x40 + code % 0x40 = code := by omega
  -- the second octet tells the characters from shorter forms and from surrogates
  have low : (if code / 4096 % 0x10 = 0 then 0xA0 else 0x80 : UInt8).toNat ≤
      code / 64 % 0x40 + 0x80 := by
    split
    · simp
      omega
    · simp
  have high : code / 64 % 0x40 + 0x80 ≤
      (if code / 4096 % 0x10 = 0xD then 0x9F else 0xBF : UInt8).toNat := by
    split
    · simp
      omega
    · simp
      omega
  rw [runFrom_first first, runFrom_inside (by omega) low high,
    runFrom_last (by omega) (by simp) (by simp; omega), sum]

theorem runFrom_four {code : Nat} (least : 0x10000 ≤ code) (most : code < 0x110000)
    (rest : List UInt8) :
    Utf8.decoder.runFrom .start (.ofNat (code / 262144 % 0x08 + 0xF0) ::
        .ofNat (code / 4096 % 0x40 + 0x80) :: .ofNat (code / 64 % 0x40 + 0x80) ::
        .ofNat (code % 0x40 + 0x80) :: rest) =
      Char.ofNat code :: Utf8.decoder.runFrom .start rest := by
  have first := first_quadruple (code / 262144 % 0x08) (by omega)
  have sum : ((code / 262144 % 0x08 * 0x40 + code / 4096 % 0x40) * 0x40 + code / 64 % 0x40) * 0x40 +
      code % 0x40 = code := by omega
  -- and here from shorter forms and from codes beyond Unicode
  have low : (if code / 262144 % 0x08 = 0 then 0x90 else 0x80 : UInt8).toNat ≤
      code / 4096 % 0x40 + 0x80 := by
    split
    · simp
      omega
    · simp
  have high : code / 4096 % 0x40 + 0x80 ≤
      (if code / 262144 % 0x08 = 4 then 0x8F else 0xBF : UInt8).toNat := by
    split
    · simp
      omega
    · simp
      omega
  rw [runFrom_first first, runFrom_inside (by omega) low high,
    runFrom_inside (by omega) (by simp) (by simp; omega),
    runFrom_last (by omega) (by simp) (by simp; omega), sum]

theorem runFrom_character (c : Char) (rest : List UInt8) :
    Utf8.decoder.runFrom .start (String.utf8EncodeChar c ++ rest) =
      c :: Utf8.decoder.runFrom .start rest := by
  have whole : Char.ofNat c.val.toNat = c := Char.ofNat_toNat c
  have valid : c.val.toNat < 0xD800 ∨ 0xDFFF < c.val.toNat ∧ c.val.toNat < 0x110000 := c.valid
  unfold String.utf8EncodeChar
  generalize c.val.toNat = code at whole valid
  subst whole
  dsimp only
  split
  · rename_i one
    have first := first_ascii code (by omega)
    simp only [List.cons_append, List.nil_append, Decoder.runFrom, Utf8.decoder, Utf8.step, first]
  · rename_i notOne
    split
    · rename_i two
      exact runFrom_two (by omega) (by omega) rest
    · rename_i notTwo
      split
      · rename_i three
        exact runFrom_three (by omega) (by omega) (by omega) rest
      · rename_i notThree
        exact runFrom_four (by omega) (by omega) rest

theorem run_octetsOf (text : String) : Utf8.decoder.run (octetsOf text) = text.toList := by
  have characters : ∀ characters : List Char,
      Utf8.decoder.runFrom .start (characters.flatMap String.utf8EncodeChar) = characters := by
    intro characters
    induction characters with
    | nil => rfl
    | cons c characters ih => rw [List.flatMap_cons, runFrom_character, ih]
  exact characters text.toList

theorem isUtf8_iff {octets : List UInt8} : isUtf8 octets = true ↔ ∃ text, octets = octetsOf text := by
  rw [isUtf8, ByteArray.validateUTF8_eq_true_iff]
  constructor
  · rintro ⟨characters, encoded⟩
    refine ⟨.ofList characters, List.toByteArray_inj.mp ?_⟩
    rw [octetsOf, String.toList_ofList]
    exact encoded
  · rintro ⟨text, rfl⟩
    exact ⟨text.toList, rfl⟩

/-- Octets that are UTF-8 give the very text they stand for, as UTF-8 and as a guess. -/
theorem decode_octetsOf (text : String) :
    Encoding.utf8.decode (octetsOf text) = text.toList ∧
      Encoding.auto.decode (octetsOf text) = text.toList := by
  have valid : isUtf8 (octetsOf text) = true := isUtf8_iff.mpr ⟨text, rfl⟩
  refine ⟨run_octetsOf text, ?_⟩
  rw [decode, if_pos valid]
  exact run_octetsOf text

end Accelerometer.Proofs.Encoding
