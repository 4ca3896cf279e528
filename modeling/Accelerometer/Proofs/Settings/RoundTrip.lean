import Accelerometer.Proofs.Settings.Layers
import Accelerometer.Proofs.Toml.Document

/-!
# Settings are read back from the file they are written to

* `readsAs_float`: every number is read back from its written form, infinities and both zeros too.
* `render_tables`, `describes_tables`: the file as two tables, and the settings they describe.
* `rendered_read_back`: all settings.
-/

namespace Accelerometer.Proofs.Settings
open Accelerometer.Settings Proofs.Toml Proofs.Decimal Proofs.Double

variable {settings : Settings} {x : Float}

theorem readsAs_finite {negative : Bool} {m : ℕ} {e : ℤ} {whole fraction : List Char}
    (parts : Decimal.Binary.ofFloat x = .finite negative m e)
    (restored : (Decimal.Binary.ofFloat x).toFloat = x)
    (written : Decimal.positionalText true (if m = 0 then ⟨[], 0⟩ else Decimal.shortest .up m e) =
      whole ++ '.' :: fraction)
    (isDecimal : IsDecimal whole fraction)
    (read : Decimal.nearest negative (Decimal.ofDigits (whole ++ fraction)) (-(fraction.length : ℤ)) =
      .finite negative m e) :
    ReadsAs (numberLayout.text x).toList (.float x) := by
  have reads := readsAs_fraction isDecimal negative read
  rw [← parts, restored, ← written] at reads
  rwa [Decimal.Layout.text, parts, Decimal.Layout.valueText, String.toList_ofList]

theorem readsAs_float (number : x.isNaN = false) :
    ReadsAs (numberLayout.text x).toList (.float x) := by
  have parts := ofFloat_eq x
  have restored : unpacked x ≠ .notANumber → (Decimal.Binary.ofFloat x).toFloat = x := toFloat_ofFloat
  cases found : unpacked x with
  | notANumber =>
      have shown : x.isNaN = (unpacked x).isNaN := rfl
      rw [shown, found] at number
      cases number
  | infinity sign =>
      rw [found, binaryOf] at parts
      have reads := readsAs_infinite (isNegative sign)
      rw [← parts, restored (by simp [found])] at reads
      rw [Decimal.Layout.text, parts]
      cases sign with
      | positive => exact reads
      | negative => exact reads
  | zero sign =>
      rw [found, binaryOf] at parts
      have written : Decimal.positionalText true ⟨[], 0⟩ = ['0'] ++ '.' :: ['0'] := rfl
      have isDecimal : IsDecimal ['0'] ['0'] := ⟨isWhole_zero, isDigit_zeros 1, by simp⟩
      exact readsAs_finite parts (restored (by simp [found])) written isDecimal rfl
  | finite sign m e positive =>
      rw [found, binaryOf] at parts
      obtain ⟨canonical, greatest⟩ := unpacked_canonical found
      obtain ⟨whole, fraction, written, isDecimal, read⟩ :=
        positional_shortest .up canonical greatest positive
      have digits : (if m = 0 then ⟨[], 0⟩ else Decimal.shortest .up m e) = Decimal.shortest .up m e :=
        if_neg positive.ne'
      rw [← digits] at written
      exact readsAs_finite parts (restored (by simp [found])) written isDecimal (read _)

/-! ## The file -/

theorem readsAs_taps {taps : ℕ} (small : taps < 2 ^ 63) :
    ReadsAs (toString taps).toList (.integer taps) := by
  have bound : Toml.integerBound = ((2 ^ 63 : ℕ) : ℤ) := rfl
  have reads := readsAs_whole (isWhole_toDigits taps)
  rw [ofDigits_toDigits, bound] at reads
  rw [Nat.toString_eq_ofList_toDigits, String.toList_ofList]
  exact reads (by exact_mod_cast small)

theorem readsAs_text (text : String) : ReadsAs (quoted text).toList (.text text) := by
  have reads := readsAs_quoted text.toList
  rw [String.ofList_toList] at reads
  rwa [quoted, String.toList_ofList]

theorem isBare_names : ∀ name ∈ ["collect", "duration_secs", "encoding", "filter", "taps",
    "sample_rate_hz", "cutoff_hz", "output"], IsBare name := by
  simp [isBare_iff, Toml.isBareKey]

def captureTable (settings : Settings) (seconds : settings.capture.seconds.isNaN = false) : Table where
  name := "collect"
  lines := [⟨"duration_secs", _, _, isBare_names _ (by simp), readsAs_float seconds⟩,
    ⟨"encoding", _, _, isBare_names _ (by simp), readsAs_text settings.capture.encoding⟩]
  isBare := isBare_names _ (by simp)
  distinct := by simp

def filterTable (settings : Settings) (rate : settings.filter.spec.rate.isNaN = false)
    (cutoff : settings.filter.spec.cutoff.isNaN = false) (taps : settings.filter.spec.taps < 2 ^ 63) :
    Table where
  name := "filter"
  lines := [⟨"taps", _, _, isBare_names _ (by simp), readsAs_taps taps⟩,
    ⟨"sample_rate_hz", _, _, isBare_names _ (by simp), readsAs_float rate⟩,
    ⟨"cutoff_hz", _, _, isBare_names _ (by simp), readsAs_float cutoff⟩,
    ⟨"output", _, _, isBare_names _ (by simp), readsAs_text settings.filter.output.text⟩]
  isBare := isBare_names _ (by simp)
  distinct := by simp

def givenBy (settings : Settings) : Given where
  seconds := settings.capture.seconds
  encoding := settings.capture.encoding
  taps := settings.filter.spec.taps
  rate := settings.filter.spec.rate
  cutoff := settings.filter.spec.cutoff
  output := settings.filter.output.text

section

variable (seconds : settings.capture.seconds.isNaN = false)
  (rate : settings.filter.spec.rate.isNaN = false) (cutoff : settings.filter.spec.cutoff.isNaN = false)
  (taps : settings.filter.spec.taps < 2 ^ 63)

theorem render_tables :
    ∃ text, settings.render? = some text ∧ text.toList =
      (captureTable settings seconds).written ++
        [filterTable settings rate cutoff taps].flatMap fun table => '\n' :: table.written := by
  have bound : Toml.integerBound = ((2 ^ 63 : ℕ) : ℤ) := rfl
  have small : ¬Toml.integerBound ≤ settings.filter.spec.taps := by
    rw [bound]
    exact_mod_cast Nat.not_le.mpr taps
  refine ⟨_, if_neg small, ?_⟩
  simp [captureTable, filterTable, Table.written, Line.written, line]

theorem describes_tables :
    Describes [(captureTable settings seconds).entry, (filterTable settings rate cutoff taps).entry]
      (givenBy settings) := by
  constructor
  · refine ⟨_, rfl, ⟨_, rfl, .float _⟩, ⟨_, rfl, .text _⟩⟩
  · refine ⟨_, rfl, ⟨_, rfl, .integer _⟩, ⟨_, rfl, .float _⟩, ⟨_, rfl, .float _⟩, ⟨_, rfl, .text _⟩⟩

end

/-- All settings whose numbers are numbers can be written, if the taps fit into 63 bits, and the text is
read as the very same settings. Whether they are valid does not matter. -/
theorem rendered_read_back (settings : Settings) (seconds : settings.capture.seconds.isNaN = false)
    (rate : settings.filter.spec.rate.isNaN = false) (cutoff : settings.filter.spec.cutoff.isNaN = false)
    (taps : settings.filter.spec.taps < 2 ^ 63) :
    ∃ text, settings.render? = some text ∧ parse? text = some settings ∧
      settings.agree settings = true := by
  obtain ⟨text, rendered, written⟩ := render_tables seconds rate cutoff taps
  have document := read_document (captureTable settings seconds) [filterTable settings rate cutoff taps]
    (by simp [captureTable, filterTable])
  rw [← written] at document
  have parsed := parse_described document (describes_tables seconds rate cutoff taps)
  refine ⟨text, rendered, parsed, ?_⟩
  simp [agree, beq_self seconds, beq_self rate, beq_self cutoff]

end Accelerometer.Proofs.Settings
