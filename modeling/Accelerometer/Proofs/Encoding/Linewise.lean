import Accelerometer.Encoding.Decoder
import Accelerometer.Proofs.Serial.Framing
import Accelerometer.Proofs.Text.Records
import Accelerometer.Text.Blank

/-!
# Decoding line by line

A decoder that is back at its start after each line feed gives the same text for a stream as for its
lines one by one.

* `linewise_run`: it is enough to look at one octet at a time.
* `records_words`: the records of a decoded stream have the words of its decoded lines.
-/

namespace Accelerometer.Proofs.Encoding
open Accelerometer.Encoding Proofs.Serial Proofs.Text

variable {σ : Type} {decoder : Decoder σ} {sound : σ → Prop} {decode : List UInt8 → List Char}

/-- Every line feed of the octets ends a line of the text, and nothing else does. What comes after it
is decoded as if nothing came before. -/
structure Linewise (decode : List UInt8 → List Char) : Prop where
  empty : decode [] = []
  terminated : ∀ body, 0x0A ∉ body → ∃ text, '\n' ∉ text ∧
    ∀ rest, decode (body ++ 0x0A :: rest) = text ++ '\n' :: decode rest
  unterminated : ∀ body, 0x0A ∉ body → body ≠ [] → '\n' ∉ decode body ∧ decode body ≠ []

/-- What reading one octet may give: a sound state again, a line feed only from a line feed, and
something said about the octet, be it when the input ends. -/
structure Fits (decoder : Decoder σ) (sound : σ → Prop) (octet : UInt8) (result : List Char × σ) :
    Prop where
  sound : sound result.2
  plain : octet ≠ 0x0A → '\n' ∉ result.1
  said : result.1 ≠ [] ∨ decoder.finish result.2 ≠ []

/-- A decoder that a line feed takes back to its start from every sound state. -/
structure Aligned (decoder : Decoder σ) (sound : σ → Prop) : Prop where
  start : sound decoder.start
  step : ∀ state octet, sound state → Fits decoder sound octet (decoder.step state octet)
  feed : ∀ state, sound state →
    ∃ text, '\n' ∉ text ∧ decoder.step state 0x0A = (text ++ ['\n'], decoder.start)
  finish : ∀ state, '\n' ∉ decoder.finish state
  idle : decoder.finish decoder.start = []

/-! ## Decoders -/

theorem fits_character {octet : UInt8} {c : Char} {state : σ} (isSound : sound state)
    (plain : octet ≠ 0x0A → c ≠ '\n') : Fits decoder sound octet ([c], state) where
  sound := isSound
  plain other := by simpa [eq_comm] using plain other
  said := .inl (List.cons_ne_nil c [])

theorem fits_inside {octet : UInt8} {state : σ} (isSound : sound state)
    (said : decoder.finish state ≠ []) : Fits decoder sound octet ([], state) where
  sound := isSound
  plain _ := List.not_mem_nil
  said := .inr said

theorem fits_cons {octet : UInt8} {c : Char} {result : List Char × σ} (plain : c ≠ '\n')
    (fits : Fits decoder sound octet result) :
    Fits decoder sound octet (c :: result.1, result.2) where
  sound := fits.sound
  plain other := by
    rw [List.mem_cons, not_or]
    exact ⟨Ne.symm plain, fits.plain other⟩
  said := .inl (List.cons_ne_nil c result.1)

theorem runFrom_cons (state : σ) (octet : UInt8) (rest : List UInt8) :
    decoder.runFrom state (octet :: rest) =
      (decoder.step state octet).1 ++ decoder.runFrom (decoder.step state octet).2 rest := rfl

theorem runFrom_terminated (aligned : Aligned decoder sound) (body : List UInt8) {state : σ}
    (isSound : sound state) (free : 0x0A ∉ body) :
    ∃ text, '\n' ∉ text ∧
      ∀ rest, decoder.runFrom state (body ++ 0x0A :: rest) = text ++ '\n' :: decoder.run rest := by
  induction body generalizing state with
  | nil =>
      obtain ⟨text, plain, fed⟩ := aligned.feed state isSound
      refine ⟨text, plain, ?_⟩
      intro rest
      simp [Decoder.runFrom, Decoder.run, fed]
  | cons octet body ih =>
      rw [List.mem_cons, not_or] at free
      obtain ⟨text, plain, decoded⟩ := ih (aligned.step state octet isSound).sound free.2
      refine ⟨(decoder.step state octet).1 ++ text, ?_, ?_⟩
      · rw [List.mem_append, not_or]
        exact ⟨(aligned.step state octet isSound).plain (Ne.symm free.1), plain⟩
      · intro rest
        rw [List.cons_append, runFrom_cons, decoded, List.append_assoc]

theorem runFrom_plain (aligned : Aligned decoder sound) (body : List UInt8) {state : σ}
    (isSound : sound state) (free : 0x0A ∉ body) : '\n' ∉ decoder.runFrom state body := by
  induction body generalizing state with
  | nil => exact aligned.finish state
  | cons octet body ih =>
      rw [List.mem_cons, not_or] at free
      rw [runFrom_cons, List.mem_append, not_or]
      exact ⟨(aligned.step state octet isSound).plain (Ne.symm free.1),
        ih (aligned.step state octet isSound).sound free.2⟩

theorem runFrom_ne_nil (aligned : Aligned decoder sound) {body : List UInt8} {state : σ}
    (isSound : sound state) (nonempty : body ≠ []) : decoder.runFrom state body ≠ [] := by
  induction body generalizing state with
  | nil => exact absurd rfl nonempty
  | cons octet body ih =>
      have fits := aligned.step state octet isSound
      rw [runFrom_cons]
      intro silent
      obtain ⟨first, others⟩ := List.append_eq_nil_iff.mp silent
      cases body with
      | nil =>
          rcases fits.said with spoken | left
          · exact spoken first
          · exact left others
      | cons next body => exact ih fits.sound (List.cons_ne_nil next body) others

theorem linewise_run (aligned : Aligned decoder sound) : Linewise decoder.run where
  empty := aligned.idle
  terminated body free := runFrom_terminated aligned body aligned.start free
  unterminated body free nonempty :=
    ⟨runFrom_plain aligned body aligned.start free,
      runFrom_ne_nil aligned aligned.start nonempty⟩

/-! ## Lines -/

theorem records_words (linewise : Linewise decode) {lines : List (List UInt8)}
    (framed : ∀ line ∈ lines, IsLine .octet line)
    (ended : ∀ before line after, lines = before ++ line :: after → after ≠ [] →
      Ended .octet line) :
    (recordsOf (decode lines.flatten)).map Text.words =
      lines.map fun line => Text.words (decode line) := by
  induction lines with
  | nil => rw [List.flatten_nil, linewise.empty, recordsOf_nil, List.map_nil, List.map_nil]
  | cons line lines ih =>
      have inner := ih (fun other member => framed other (List.mem_cons_of_mem _ member))
        fun before other after split => ended (line :: before) other after (by rw [split]; rfl)
      have isLine := framed line List.mem_cons_self
      by_cases ends : Ended .octet line
      · obtain ⟨body, rfl, free⟩ := octets_of_ended isLine ends
        obtain ⟨text, plain, decoded⟩ := linewise.terminated body free
        have alone := decoded []
        rw [linewise.empty] at alone
        rw [List.flatten_cons, List.append_assoc, List.singleton_append, decoded,
          recordsOf_line plain, List.map_cons, List.map_cons, inner, alone]
        rw [words_append_blank text [] rfl, words_nil, List.append_nil]
      · have last : lines = [] := by
          by_contra more
          exact ends (ended [] line lines rfl more)
        subst last
        have decoded := linewise.unterminated line (octets_of_not_ended isLine ends) isLine.1
        rw [List.flatten_singleton, recordsOf_last decoded.1 decoded.2]
        rfl

end Accelerometer.Proofs.Encoding
