import Accelerometer.Encoding
import Accelerometer.Proofs.Encoding.Linewise

/-!
# Line feeds in the encodings

UTF-8, ASCII and GB 18030 are decoded line by line: a line feed is never swallowed by a character
that was cut off before it, and no other octets give one.

* `utf8_linewise`, `ascii_linewise`, `gb18030_linewise`: the three decoders.
-/

namespace Accelerometer.Proofs.Encoding
open Accelerometer.Encoding

variable {octet : UInt8}

theorem ofNat_ne_feed {code : Nat} (other : code ≠ 10) : Char.ofNat code ≠ '\n' := by
  intro same
  have value := congrArg Char.toNat same
  by_cases valid : code.isValidChar
  · rw [Char.ofNat, dif_pos valid] at value
    exact other value
  · rw [Char.ofNat, dif_neg valid] at value
    cases value

theorem asciiChar_ne_feed (other : octet ≠ 0x0A) : asciiChar octet ≠ '\n' := by
  apply ofNat_ne_feed
  intro code
  exact other (UInt8.toNat_inj.mp code)

/-! ## ASCII -/

theorem asciiOrQuestion_ne_feed (other : octet ≠ 0x0A) : asciiOrQuestion octet ≠ '\n' := by
  unfold asciiOrQuestion
  split
  · exact asciiChar_ne_feed other
  · decide

theorem ascii_plain {body : List UInt8} (free : 0x0A ∉ body) : '\n' ∉ body.map asciiOrQuestion := by
  intro member
  obtain ⟨octet, inside, feed⟩ := List.mem_map.mp member
  apply asciiOrQuestion_ne_feed _ feed
  rintro rfl
  exact free inside

theorem ascii_linewise : Linewise (List.map asciiOrQuestion) where
  empty := rfl
  terminated body free := ⟨body.map asciiOrQuestion, ascii_plain free, fun rest => by simp; rfl⟩
  unterminated body free nonempty := ⟨ascii_plain free, by simpa using nonempty⟩

/-! ## UTF-8 -/

def Utf8Sound : Utf8.State → Prop
  | .start => True
  | .inside bits following least _ => 0x80 ≤ least ∧ (1 ≤ bits ∨ 1 ≤ following ∧ 0x90 ≤ least)

theorem utf8Inside_fits {bits following : Nat} {least greatest : UInt8}
    (sound : Utf8Sound (.inside bits following least greatest)) :
    Fits Utf8.decoder Utf8Sound octet ([], .inside bits following least greatest) :=
  fits_inside sound (by simp [Utf8.decoder, Utf8.finish])

theorem utf8First_fits (octet : UInt8) :
    Fits Utf8.decoder Utf8Sound octet (Utf8.first octet) := by
  have size : ∀ {low : UInt8} {base : Nat}, low ≤ octet → base < low.toNat →
      1 ≤ octet.toNat - base := by
    intro low base above below
    have above := UInt8.le_iff_toNat_le.mp above
    omega
  unfold Utf8.first
  repeat' split
  · exact fits_character trivial asciiChar_ne_feed
  · rename_i range
    exact utf8Inside_fits ⟨by decide, .inl (size range.1 (by decide))⟩
  · exact utf8Inside_fits ⟨by decide, .inr (by decide)⟩
  · rename_i same
    exact utf8Inside_fits ⟨by decide, .inl (by rw [same]; decide)⟩
  · rename_i range
    exact utf8Inside_fits ⟨by decide, .inl (size range.1 (by decide))⟩
  · exact utf8Inside_fits ⟨by decide, .inr (by decide)⟩
  · rename_i range
    exact utf8Inside_fits ⟨by decide, .inl (size range.1 (by decide))⟩
  · rename_i same
    exact utf8Inside_fits ⟨by decide, .inl (by rw [same]; decide)⟩
  · exact fits_character trivial fun _ => by decide

theorem utf8Step_fits {state : Utf8.State} (sound : Utf8Sound state) (octet : UInt8) :
    Fits Utf8.decoder Utf8Sound octet (Utf8.step state octet) := by
  cases state with
  | start => exact utf8First_fits octet
  | inside bits following least greatest =>
      obtain ⟨low, size⟩ := sound
      have low := UInt8.le_iff_toNat_le.mp low
      simp only [Utf8.step]
      split
      · rename_i within
        have above := UInt8.le_iff_toNat_le.mp within.1
        cases following with
        | zero =>
            have code : bits * 0x40 + (octet.toNat - 0x80) ≠ 10 := by omega
            exact fits_character trivial fun _ => ofNat_ne_feed code
        | succ following =>
            have positive : 1 ≤ bits * 0x40 + (octet.toNat - 0x80) := by
              rcases size with positive | ⟨-, high⟩
              · omega
              · have high := UInt8.le_iff_toNat_le.mp high
                simp only [UInt8.reduceToNat] at high
                omega
            exact utf8Inside_fits ⟨UInt8.le_refl _, .inl positive⟩
      · exact fits_cons (by decide) (utf8First_fits octet)

theorem utf8_feed {state : Utf8.State} (sound : Utf8Sound state) :
    ∃ text, '\n' ∉ text ∧ Utf8.step state 0x0A = (text ++ ['\n'], .start) := by
  cases state with
  | start => exact ⟨[], List.not_mem_nil, rfl⟩
  | inside bits following least greatest =>
      -- no octet that continues a character is a line feed
      have beyond : ¬(least ≤ 0x0A ∧ 0x0A ≤ greatest) := by
        intro within
        have above := UInt8.le_trans sound.1 within.1
        exact absurd above (by decide)
      refine ⟨[replacement], by decide, ?_⟩
      simp only [Utf8.step, if_neg beyond]
      rfl

theorem utf8_aligned : Aligned Utf8.decoder Utf8Sound where
  start := trivial
  step _ octet sound := utf8Step_fits sound octet
  feed _ sound := utf8_feed sound
  finish state := by cases state <;> simp [Utf8.decoder, Utf8.finish, replacement]
  idle := rfl

theorem utf8_linewise : Linewise Utf8.decoder.run :=
  linewise_run utf8_aligned

/-! ## GB 18030 -/

def Gb18030Sound : Gb18030.State → Prop
  | .start | .first _ => True
  | .second _ second | .third _ second _ => Gb18030.isDigit second = true

theorem ne_feed_of_beyond {c : Char} (beyond : 0x80 ≤ c.toNat) : c ≠ '\n' := by
  rintro rfl
  exact absurd beyond (by decide)

theorem asciiChar_digit {digit : UInt8} (isDigit : Gb18030.isDigit digit = true) :
    asciiChar digit ≠ '\n' := by
  apply asciiChar_ne_feed
  rintro rfl
  cases isDigit

theorem pair?_ne_feed {lead trail : UInt8} {c : Char} (found : Gb18030.pair? lead trail = some c) :
    c ≠ '\n' := by
  have kept : ∀ column : Nat, (Gb18030.rows[lead.toNat - 0x81]?.bind fun row =>
      row.toList[column]?.bind fun character =>
        if 0x80 ≤ character.toNat then some character else none) = some c → c ≠ '\n' := by
    intro column found
    simp only [Option.bind_eq_some_iff] at found
    obtain ⟨row, -, character, -, kept⟩ := found
    split at kept
    · rename_i beyond
      rw [← Option.some.inj kept]
      exact ne_feed_of_beyond beyond
    · cases kept
  simp only [Gb18030.pair?, Option.bind_eq_bind] at found
  split at found
  · rw [Option.bind_some] at found
    exact kept (trail.toNat - 0x40) found
  · split at found
    · rw [Option.bind_some] at found
      exact kept (trail.toNat - 0x41) found
    · cases found

theorem quadruple?_ne_feed {first second third fourth : UInt8} {c : Char}
    (found : Gb18030.quadruple? first second third fourth = some c) : c ≠ '\n' := by
  simp only [Gb18030.quadruple?, Option.bind_eq_some_iff] at found
  obtain ⟨code, -, kept⟩ := found
  split at kept
  · rename_i beyond
    rw [← Option.some.inj kept]
    apply ofNat_ne_feed
    omega
  · cases kept

theorem gb18030Inside_fits {state : Gb18030.State} (sound : Gb18030Sound state)
    (inside : state ≠ .start) : Fits Gb18030.decoder Gb18030Sound octet ([], state) := by
  apply fits_inside sound
  cases state <;> simp_all [Gb18030.decoder, Gb18030.finish]

theorem gb18030Start_fits (octet : UInt8) :
    Fits Gb18030.decoder Gb18030Sound octet (Gb18030.stepStart octet) := by
  unfold Gb18030.stepStart
  repeat' split
  · exact fits_character trivial asciiChar_ne_feed
  · exact fits_character trivial fun _ => by decide
  · exact gb18030Inside_fits trivial (by simp)
  · exact fits_character trivial fun _ => by decide

theorem gb18030First_fits (lead octet : UInt8) :
    Fits Gb18030.decoder Gb18030Sound octet (Gb18030.stepFirst lead octet) := by
  unfold Gb18030.stepFirst
  split
  · rename_i digit
    exact gb18030Inside_fits digit (by simp)
  · split
    · rename_i found
      exact fits_character trivial fun _ => pair?_ne_feed found
    · split
      · exact fits_cons (by decide) (fits_character trivial asciiChar_ne_feed)
      · exact fits_character trivial fun _ => by decide

theorem gb18030Step_fits {state : Gb18030.State} (sound : Gb18030Sound state) (octet : UInt8) :
    Fits Gb18030.decoder Gb18030Sound octet (Gb18030.step state octet) := by
  cases state with
  | start => exact gb18030Start_fits octet
  | first lead => exact gb18030First_fits lead octet
  | second first second =>
      simp only [Gb18030.step]
      split
      · exact gb18030Inside_fits sound (by simp)
      · exact fits_cons (by decide) (fits_cons (asciiChar_digit sound) (gb18030Start_fits octet))
  | third first second third =>
      simp only [Gb18030.step]
      split
      · cases found : Gb18030.quadruple? first second third octet with
        | none => exact fits_character trivial fun _ => by decide
        | some c => exact fits_character trivial fun _ => quadruple?_ne_feed found
      · exact fits_cons (by decide)
          (fits_cons (asciiChar_digit sound) (gb18030First_fits third octet))

theorem gb18030First_feed (lead : UInt8) :
    Gb18030.stepFirst lead 0x0A = ([replacement, '\n'], .start) := by
  rfl

theorem gb18030_feed {state : Gb18030.State} (sound : Gb18030Sound state) :
    ∃ text, '\n' ∉ text ∧ Gb18030.step state 0x0A = (text ++ ['\n'], .start) := by
  cases state with
  | start => exact ⟨[], List.not_mem_nil, rfl⟩
  | first lead => exact ⟨[replacement], by decide, gb18030First_feed lead⟩
  | second first second =>
      refine ⟨[replacement, asciiChar second], ?_, rfl⟩
      simpa [replacement, eq_comm] using asciiChar_digit sound
  | third first second third =>
      refine ⟨[replacement, asciiChar second, replacement], ?_, rfl⟩
      simpa [replacement, eq_comm] using asciiChar_digit sound

theorem gb18030_aligned : Aligned Gb18030.decoder Gb18030Sound where
  start := trivial
  step _ octet sound := gb18030Step_fits sound octet
  feed _ sound := gb18030_feed sound
  finish state := by cases state <;> simp [Gb18030.decoder, Gb18030.finish, replacement]
  idle := rfl

theorem gb18030_linewise : Linewise Gb18030.decoder.run :=
  linewise_run gb18030_aligned

end Accelerometer.Proofs.Encoding
