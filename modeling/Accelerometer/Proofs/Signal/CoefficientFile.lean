import Accelerometer.Proofs.Storage.Collector
import Mathlib.Algebra.BigOperators.Group.List.Basic
import Mathlib.Tactic.SplitIfs

/-!
# Coefficient files that cannot be written

A coefficient file is encoded piece by piece into what is collected for it, and the end of it is handed
on. So a file that refuses its text is met while encoding, or at the end.

* `storeByPieces_eq`: the pieces make the same file, and fail alike.
* `handedEarly_eq_zero`: a text that is collected as a whole is handed on at the end.
* `lt_length_coefficientText`: how long a text is at least.
* `unwritable_reported`: when storing fails, and how that is reported.
* `manyCoefficients_misreported`: a device that refuses a long text is not named.
-/

namespace Accelerometer.Proofs.Signal
open Accelerometer.Signal Accelerometer.Storage Accelerometer.Decimal Proofs.Storage

variable {storage : Storage} {path : Path} {location : Location} {coefficients : List Float}
  {reason : Refusal}

def storeByPieces (storage : Storage) (path : Path) (coefficients : List Float) :
    Except CoefficientError (Storage × List Event) := do
  let (handle, opened) ← (storage.create path).mapError (.cannotWrite path)
  let encoded ← (Collector.putAll collectedSize ⟨opened, handle, []⟩
    ((pieces coefficients).map octetsOf)).mapError .cannotEncode
  let written ← encoded.handOn.mapError (.cannotWrite path)
  return (written.storage, [.coefficientsWritten coefficients.length path])

/-- The path names a device that refuses all that is written to it. -/
def FullAt (storage : Storage) (path : Path) : Prop :=
  ∃ location, Opens storage path location ∧ storage.node location = some (.sink true)

/-! ## Pieces of a text -/

theorem map_intersperse {α β : Type} (f : α → β) (separator : α) (entries : List α) :
    (entries.intersperse separator).map f = (entries.map f).intersperse (f separator) := by
  induction entries with
  | nil => rfl
  | cons entry entries ih =>
      cases entries with
      | nil => rfl
      | cons next entries => simpa using ih

theorem pieces_toList (coefficients : List Float) :
    (pieces coefficients).flatMap String.toList = (coefficientText coefficients).toList := by
  simp [pieces, coefficientText, List.flatMap_def, map_intersperse, List.intercalate]

theorem pieces_octets (coefficients : List Float) :
    ((pieces coefficients).map octetsOf).flatten = octetsOf (coefficientText coefficients) := by
  rw [← List.flatMap_def, octetsOf, ← pieces_toList, List.flatMap_assoc]
  rfl

def pieceLengths (coefficients : List Float) : List Nat :=
  ((pieces coefficients).map octetsOf).map List.length

theorem pieceLengths_sum (coefficients : List Float) :
    (pieceLengths coefficients).sum = (octetsOf (coefficientText coefficients)).length := by
  rw [← pieces_octets, List.length_flatten]
  rfl

theorem handedEarly_eq (coefficients : List Float) :
    handedEarly coefficients = ((pieceLengths coefficients).foldl (collect collectedSize) (0, 0)).1 := by
  rw [handedEarly, pieceLengths, List.map_map]
  rfl

theorem handedEarly_le (coefficients : List Float) :
    handedEarly coefficients ≤ (octetsOf (coefficientText coefficients)).length := by
  have whole := foldl_collect_whole collectedSize (0, 0) (pieceLengths coefficients)
  rw [pieceLengths_sum] at whole
  rw [handedEarly_eq]
  omega

/-- The bracket at the front waits in any case, so that nothing is handed on before the size is
exceeded. -/
theorem handedEarly_eq_zero (coefficients : List Float) : handedEarly coefficients = 0 ↔
    (octetsOf (coefficientText coefficients)).length ≤ collectedSize := by
  let others := ((coefficientNumbers coefficients).intersperse "," ++ ["]"]).map octetsOf
  have lengths : pieceLengths coefficients = 1 :: others.map List.length := rfl
  have bracket : collect collectedSize (0, 0) 1 = (0, 1) := by decide
  rw [handedEarly_eq, ← pieceLengths_sum, lengths, List.foldl_cons, bracket, List.sum_cons]
  exact collected_none Nat.one_pos (by decide) _

/-! ## Storing -/

def overrun (storage : Storage) (location : Location) (count : Nat) : Option Refusal :=
  match storage.room location with
  | some (most, reason) => if most < count then some reason else none
  | none => none

theorem overrun_eq_some {count : Nat} : overrun storage location count = some reason ↔
    ∃ most, storage.room location = some (most, reason) ∧ most < count := by
  unfold overrun
  cases bound : storage.room location with
  | none => simp
  | some bound' =>
      obtain ⟨most, reason'⟩ := bound'
      simp [and_comm]

theorem overrun_eq_none {count : Nat} :
    overrun storage location count = none ↔ Fits storage location count := by
  unfold overrun
  cases bound : storage.room location with
  | none => simp [Fits, bound]
  | some bound' => simp [Fits, bound]

theorem overrun_mono {fewer count : Nat} (less : fewer ≤ count)
    (refused : overrun storage location fewer = some reason) :
    overrun storage location count = some reason := by
  obtain ⟨most, bound, beyond⟩ := overrun_eq_some.mp refused
  exact overrun_eq_some.mpr ⟨most, bound, Nat.lt_of_lt_of_le beyond less⟩

theorem refuses_iff_overrun {count : Nat} (opens : Opens storage path location) :
    Refuses storage path count reason ↔ overrun storage location count = some reason := by
  rw [refuses_iff opens, overrun_eq_some]

theorem refusal?_behind {count : Nat} (fits : Fits storage location count) (more : List UInt8) :
    storage.refusal? ⟨location, count⟩ more = overrun storage location (count + more.length) := by
  ext reason
  rw [refusal?_eq_some, overrun_eq_some, and_iff_right_iff_imp]
  rintro ⟨most, bound, beyond⟩ rfl
  exact absurd (fits _ bound) (Nat.not_le.mpr beyond)

theorem storeCoefficients_uncreated (refused : storage.create path = .error reason) :
    storeCoefficients storage path coefficients = .error (.cannotWrite path reason) := by
  rw [storeCoefficients, refused]
  rfl

theorem storeByPieces_uncreated (refused : storage.create path = .error reason) :
    storeByPieces storage path coefficients = .error (.cannotWrite path reason) := by
  rw [storeByPieces, refused]
  rfl

def storedAt (storage : Storage) (path : Path) (location : Location) (coefficients : List Float) :
    Except CoefficientError (Storage × List Event) :=
  let octets := octetsOf (coefficientText coefficients)
  match overrun storage location (handedEarly coefficients),
    overrun storage location octets.length with
  | some reason, _ => .error (.cannotEncode reason)
  | none, some reason => .error (.cannotWrite path reason)
  | none, none => .ok (filled storage location octets, [.coefficientsWritten coefficients.length path])

theorem append_first {octets : List UInt8} {early : Nat} (within : early ≤ octets.length) :
    (filled storage location []).append ⟨location, 0⟩ (octets.take early) =
      match overrun storage location early with
      | some reason => .error reason
      | none => .ok (⟨location, early⟩, filled storage location (octets.take early)) := by
  have length := List.length_take_of_le within
  have refusal : storage.refusal? ⟨location, 0⟩ (octets.take early) =
      overrun storage location early := by
    rw [refusal?_behind (fits_zero storage location), Nat.zero_add, length]
  rw [append_created, refusal]
  cases overrun storage location early with
  | some reason => rfl
  | none => simp only [length]

theorem append_rest {octets : List UInt8} {early : Nat} (within : early ≤ octets.length)
    (fits : Fits storage location early) :
    (filled storage location (octets.take early)).append ⟨location, early⟩ (octets.drop early) =
      match overrun storage location octets.length with
      | some reason => .error reason
      | none => .ok (⟨location, octets.length⟩, filled storage location octets) := by
  have length := List.length_take_of_le within
  have behind : (filled storage location (octets.take early)).append
      ⟨location, (octets.take early).length⟩ (octets.drop early) = _ :=
    append_behind (length.symm ▸ fits) _
  rwa [length, List.take_append_drop, refusal?_behind fits, List.length_drop,
    Nat.add_sub_cancel' within] at behind

theorem storeCoefficients_created (opens : Opens storage path location) :
    storeCoefficients storage path coefficients = storedAt storage path location coefficients := by
  have within := handedEarly_le coefficients
  simp only [storeCoefficients, create_opens opens, Except.mapError, bind, Except.bind, storedAt,
    append_first within]
  cases refused : overrun storage location (handedEarly coefficients) with
  | some reason => rfl
  | none =>
      simp only [append_rest within (overrun_eq_none.mp refused)]
      cases overrun storage location (octetsOf (coefficientText coefficients)).length <;> rfl

theorem storeByPieces_created (opens : Opens storage path location) :
    storeByPieces storage path coefficients = storedAt storage path location coefficients := by
  have collecting := putAll_collecting (created_collected storage location) collectedSize
    ((pieces coefficients).map octetsOf)
  rw [List.nil_append, pieces_octets, ← pieceLengths] at collecting
  have whole := foldl_collect_whole collectedSize (0, 0) (pieceLengths coefficients)
  rw [pieceLengths_sum, Nat.zero_add, Nat.zero_add] at whole
  simp only [storeByPieces, create_opens opens, Except.mapError, bind, Except.bind, storedAt,
    handedEarly_eq]
  generalize (pieceLengths coefficients).foldl (collect collectedSize) (0, 0) = counts
    at collecting whole
  cases encoded : Collector.putAll collectedSize ⟨filled storage location [], ⟨location, 0⟩, []⟩
      ((pieces coefficients).map octetsOf) with
  | error reason =>
      rw [encoded] at collecting
      rw [overrun_eq_some.mpr collecting]
  | ok collector =>
      rw [encoded] at collecting
      rw [overrun_eq_none.mpr collecting.fits]
      have last := handOn_collecting collecting
      rw [whole] at last
      simp only
      cases handed : collector.handOn with
      | error reason =>
          rw [handed] at last
          rw [overrun_eq_some.mpr last]
      | ok written =>
          rw [handed] at last
          rw [overrun_eq_none.mpr last.fits]
          obtain ⟨⟨octets, all, -, -, tree⟩, waits, -⟩ := last
          rw [List.length_eq_zero_iff.mp waits, List.append_nil] at all
          simp only [tree, all]
          rfl

theorem storeByPieces_eq (storage : Storage) (path : Path) (coefficients : List Float) :
    storeByPieces storage path coefficients = storeCoefficients storage path coefficients := by
  rcases opens_or_closed storage path with opens | ⟨reason, closed⟩
  · rw [storeByPieces_created opens, storeCoefficients_created opens]
  · rw [storeByPieces_uncreated closed, storeCoefficients_uncreated closed]

/-! ## How long a text is -/

theorem three_le_positionalText (d : Digits) : 3 ≤ (positionalText true d).length := by
  have positive : d.digits ≠ [] → 0 < d.digits.length := List.length_pos_iff.mpr
  unfold positionalText
  simp only [List.isEmpty_iff, if_true]
  split_ifs with empty below whole
  · simp
  · have := positive empty
    simp
    omega
  · have := positive empty
    simp
    omega
  · simp
    omega

theorem three_le_exponentText (d : Digits) : 3 ≤ (exponentText d).length := by
  have := @Nat.length_toDigits_pos 10 (d.point - 1).natAbs
  simp [exponentText]
  omega

theorem three_le_digitsText (d : Digits) : 3 ≤ (coefficientLayout.digitsText d).length := by
  unfold Layout.digitsText
  simp only [coefficientLayout]
  split
  · exact three_le_positionalText d
  · exact three_le_exponentText d

theorem three_le_number (x : Float) : 3 ≤ (coefficientLayout.text x).toList.length := by
  unfold Layout.text Layout.valueText
  split
  · decide
  · decide
  · decide
  · rw [String.toList_ofList, List.length_append]
    exact Nat.le_add_left_of_le (three_le_digitsText _)

theorem le_length_intercalate (texts : List (List Char)) (long : ∀ text ∈ texts, 3 ≤ text.length) :
    4 * texts.length ≤ ([','].intercalate texts).length + 1 := by
  induction texts with
  | nil => exact Nat.zero_le _
  | cons text texts ih =>
      have first := long text List.mem_cons_self
      have others := ih fun text member => long text (List.mem_cons_of_mem _ member)
      cases texts with
      | nil => simpa using first
      | cons next texts =>
          rw [List.intercalate_cons_cons, List.length_append, List.length_append]
          simp only [List.length_cons, List.length_nil] at others ⊢
          omega

theorem lt_length_coefficientText (coefficients : List Float) :
    4 * coefficients.length < (octetsOf (coefficientText coefficients)).length := by
  have numbers := le_length_intercalate
    (((roundedTo keptDecimals coefficients).map coefficientLayout.text).map String.toList)
    (by simpa using fun _ _ => three_le_number _)
  have characters : (coefficientText coefficients).toList.length ≤
      (octetsOf (coefficientText coefficients)).length := by
    rw [octetsOf, List.length_flatMap, ← List.length_map]
    apply List.length_le_sum_of_one_le
    simpa using fun c _ => c.utf8Size_pos
  simp [coefficientText, coefficientNumbers, roundedTo] at numbers characters ⊢
  omega

/-! ## Failures -/

theorem storeCoefficients_error : (∃ error, storeCoefficients storage path coefficients = .error error) ↔
    ∃ reason, storage.create path = .error reason ∨
      Refuses storage path (octetsOf (coefficientText coefficients)).length reason := by
  rcases opens_or_closed storage path with opens | ⟨reason, closed⟩
  · have within := handedEarly_le coefficients
    rw [storeCoefficients_created opens, create_opens opens, storedAt]
    simp only [refuses_iff_overrun opens]
    cases early : overrun storage (placeOf storage path) (handedEarly coefficients) with
    | some reason => simp [overrun_mono within early]
    | none =>
        cases overrun storage (placeOf storage path) (octetsOf (coefficientText coefficients)).length <;>
          simp
  · simp [storeCoefficients_uncreated closed, closed]

theorem storeCoefficients_cannotWrite {named : Path} :
    storeCoefficients storage path coefficients = .error (.cannotWrite named reason) ↔ named = path ∧
      (storage.create path = .error reason ∨
        Refuses storage path (octetsOf (coefficientText coefficients)).length reason ∧
          ¬Refuses storage path (handedEarly coefficients) reason) := by
  rcases opens_or_closed storage path with opens | ⟨reason', closed⟩
  · have within := handedEarly_le coefficients
    rw [storeCoefficients_created opens, create_opens opens, storedAt, refuses_iff_overrun opens,
      refuses_iff_overrun opens]
    cases early : overrun storage (placeOf storage path) (handedEarly coefficients) with
    | some reason' => simp [overrun_mono within early]
    | none =>
        cases overrun storage (placeOf storage path) (octetsOf (coefficientText coefficients)).length <;>
          simp [eq_comm]
  · simp [storeCoefficients_uncreated closed, closed, not_refused_of_closed closed, eq_comm]

theorem storeCoefficients_cannotEncode :
    storeCoefficients storage path coefficients = .error (.cannotEncode reason) ↔
      Refuses storage path (handedEarly coefficients) reason := by
  rcases opens_or_closed storage path with opens | ⟨reason', closed⟩
  · rw [storeCoefficients_created opens, storedAt, refuses_iff_overrun opens]
    cases overrun storage (placeOf storage path) (handedEarly coefficients) <;>
      cases overrun storage (placeOf storage path) (octetsOf (coefficientText coefficients)).length <;>
        simp
  · simp [storeCoefficients_uncreated closed, not_refused_of_closed closed]

/-- Nothing is lost by handing octets on early: what is stored is what can be written at once. -/
theorem storeCoefficients_eq_ok {after : Storage} {events : List Event} :
    storeCoefficients storage path coefficients = .ok (after, events) ↔
      storage.write path (coefficientText coefficients) = .ok after ∧
        events = [.coefficientsWritten coefficients.length path] := by
  rcases opens_or_closed storage path with opens | ⟨reason, closed⟩
  · have within := handedEarly_le coefficients
    rw [storeCoefficients_created opens, storedAt, write, writeOctets_opens opens,
      refusal?_behind (fits_zero _ _), Nat.zero_add]
    cases early : overrun storage (placeOf storage path) (handedEarly coefficients) with
    | some reason => simp [overrun_mono within early]
    | none =>
        cases overrun storage (placeOf storage path) (octetsOf (coefficientText coefficients)).length <;>
          simp [eq_comm]
  · rw [storeCoefficients_uncreated closed, write, writeOctets_closed closed]
    simp

theorem FullAt.refuses {count : Nat} (full : FullAt storage path) :
    Refuses storage path count reason ↔ 0 < count ∧ reason = .noSpace := by
  obtain ⟨location, opens, sink⟩ := full
  rw [refuses_iff opens, room_sink sink]
  simp [and_comm, eq_comm]

theorem storeCoefficients_full (full : FullAt storage path) :
    storeCoefficients storage path coefficients =
      .error (if (octetsOf (coefficientText coefficients)).length ≤ collectedSize
        then .cannotWrite path .noSpace else .cannotEncode .noSpace) := by
  split <;> rename_i length
  · have early := (handedEarly_eq_zero coefficients).mpr length
    have nonempty := lt_length_coefficientText coefficients
    rw [storeCoefficients_cannotWrite, early, full.refuses, full.refuses]
    exact ⟨rfl, .inr ⟨⟨Nat.zero_lt_of_lt nonempty, rfl⟩, fun none => absurd none.1 (Nat.lt_irrefl 0)⟩⟩
  · have early := Nat.pos_of_ne_zero fun none => length ((handedEarly_eq_zero coefficients).mp none)
    rw [storeCoefficients_cannotEncode, full.refuses]
    exact ⟨early, rfl⟩

/-- Storing coefficients comes to the same all at once and piece by piece. It fails if the file cannot be
created or refuses that much text, and not otherwise. The error says why and names the path, unless what
is handed to the file early is refused already: then it is one of encoding. Nothing is handed on early if
the text is no longer than what is collected. A text is longer than four octets for each coefficient. -/
theorem unwritable_reported (storage : Storage) (path : Path) (coefficients : List Float) :
    let count := (octetsOf (coefficientText coefficients)).length
    let early := handedEarly coefficients
    let outcome := storeCoefficients storage path coefficients
    storeByPieces storage path coefficients = outcome ∧
    ((∃ error, outcome = .error error) ↔
      ∃ reason, storage.create path = .error reason ∨ Refuses storage path count reason) ∧
    (∀ named reason, outcome = .error (.cannotWrite named reason) ↔ named = path ∧
      (storage.create path = .error reason ∨
        Refuses storage path count reason ∧ ¬Refuses storage path early reason)) ∧
    (∀ reason, outcome = .error (.cannotEncode reason) ↔ Refuses storage path early reason) ∧
    (FullAt storage path → outcome =
      .error (if count ≤ collectedSize then .cannotWrite path .noSpace else .cannotEncode .noSpace)) ∧
    (early = 0 ↔ count ≤ collectedSize) ∧ early ≤ count ∧ 4 * coefficients.length < count :=
  ⟨storeByPieces_eq .., storeCoefficients_error, fun _ _ => storeCoefficients_cannotWrite,
    fun _ => storeCoefficients_cannotEncode, storeCoefficients_full, handedEarly_eq_zero coefficients,
    handedEarly_le coefficients, lt_length_coefficientText coefficients⟩

def fullDevice : Storage where
  node location :=
    if location = [] ∨ location = ["dev"] then some .directory
    else if location = ["dev", "full"] then some (.sink true)
    else none
  workingDirectory := []

theorem fullDevice_full : FullAt fullDevice ⟨"/dev/full"⟩ :=
  ⟨["dev", "full"], ⟨⟨⟨["dev"], "full", rfl, by decide, rfl⟩, by decide⟩, rfl⟩, by decide⟩

theorem manyCoefficients_misreported :
    ¬∀ (storage : Storage) (path : Path) (coefficients : List Float),
      (∃ reason, storage.create path = .error reason) ∨ FullAt storage path →
      ∃ reason, storeCoefficients storage path coefficients = .error (.cannotWrite path reason) := by
  intro named
  obtain ⟨reason, failed⟩ := named _ _ (List.replicate 2048 1) (.inr fullDevice_full)
  have longer := lt_length_coefficientText (List.replicate 2048 1)
  rw [List.length_replicate, show 4 * 2048 = collectedSize from rfl] at longer
  rw [storeCoefficients_full fullDevice_full, if_neg (Nat.not_le.mpr longer)] at failed
  cases failed

end Accelerometer.Proofs.Signal
