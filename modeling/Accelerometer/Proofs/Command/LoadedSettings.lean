import Accelerometer.Proofs.Command.CaptureStart
import Accelerometer.Proofs.Command.FilterCourse
import Accelerometer.Proofs.Settings.Layers

/-!
# Loaded settings in use

What a settings file is checked for when it is loaded is all that the commands need of it. Parameters
that are asked for in place of those of the file are checked again, together with the rest.

* `capture_with_usable`: a capture whose settings passed the checks.
* `filter_by_spec`: a filter with any parameters.
* `described_file_loaded`: a settings file, from its document to the commands.
-/

namespace Accelerometer.Proofs.Command
open Accelerometer.Command Accelerometer.Signal Proofs.Settings Proofs.Signal Proofs.Storage

variable {settings : Settings} {world : World} {error : CommandError}

/-! ## Captures -/

section Capture

variable {arguments : CaptureArguments}

theorem window_unasked (usable : Usable settings) (unasked : arguments.seconds = none) :
    ∃ window, arguments.window settings = .ok window := by
  obtain ⟨window, granted⟩ := usable.window
  refine ⟨window, ?_⟩
  rw [CaptureArguments.window, unasked]
  exact mapError_eq_ok.mpr (mapError_eq_ok.mpr granted)

theorem encoding_chosen (usable : Usable settings) (arguments : CaptureArguments) :
    ∃ encoding, arguments.encodingOr settings = .ok encoding := by
  unfold CaptureArguments.encodingOr
  split
  · rename_i encoding asked
    exact ⟨encoding, rfl⟩
  · obtain ⟨encoding, known⟩ := usable.encoding
    exact ⟨encoding, mapError_eq_ok.mpr (mapError_eq_ok.mpr known)⟩

theorem capture_with_usable (usable : Usable settings) (unasked : arguments.seconds = none)
    (failed : (perform (capture arguments settings) world).1 = .error error) :
    ∃ reason, error = .capture arguments.device reason := by
  obtain ⟨window, granted⟩ := window_unasked usable unasked
  obtain ⟨encoding, known⟩ := encoding_chosen usable arguments
  cases opened : world.openDevice arguments.device with
  | error reason =>
      rw [capture_unopened granted known opened] at failed
      exact ⟨reason, (Except.error.inj failed).symm⟩
  | ok device =>
      obtain ⟨came, -⟩ := capture_opened granted known opened
      rw [failed] at came
      obtain ⟨reason, -, same⟩ := mapError_eq_error.mp came.symm
      exact ⟨reason, openDevice_name opened ▸ same⟩

end Capture

/-! ## Filters -/

section Filter

variable {arguments : FilterArguments}

theorem filter_refused {reason : InvalidSpec} (refused : Refused (arguments.spec settings) reason)
    (world : World) : perform (filter arguments settings) world = (.error (.design reason), world) := by
  have failed : perform (design (arguments.spec settings)) world = (.error (.design reason), world) :=
    perform_refused (design_refused.mpr refused) _ world
  unfold filter
  rw [perform_bind, failed]

theorem filter_by_spec (arguments : FilterArguments) (settings : Settings) (world : World) :
    let spec := arguments.spec settings
    let run := perform (filter arguments settings) world
    (∃ reason, Refused spec reason ∧ run = (.error (.design reason), world)) ∨
    Feasible spec ∧ (∀ reason, run.1 ≠ .error (.design reason)) ∧
      let coefficients := lowPass spec.taps spec.cutoff spec.rate
      match storeCoefficients world.storage (arguments.outputOr settings) coefficients with
      | .error error =>
        run.1 = .error (.coefficients error) ∧ run.2.storage = world.storage.writtenTo
          (arguments.outputOr settings) (Storage.octetsOf (coefficientText coefficients))
      | .ok (first, _) =>
        ChangesOnly (arguments.response.toList ++ (arguments.session.map tracePath).toList) first
          run.2.storage := by
  intro spec run
  cases accepted : spec.validate with
  | error reason =>
      have refused := validate_refused.mp accepted
      exact .inl ⟨reason, refused, filter_refused refused world⟩
  | ok =>
      have feasible := validate_feasible.mp accepted
      have designed := design_feasible feasible
      have course := filter_course arguments settings world
      refine .inr ⟨feasible, course_designed course designed, ?_⟩
      dsimp only
      split
      · rename_i error unstored
        exact course_unstored course designed unstored
      · rename_i first events store
        exact course_later course designed (stored_eq_ok.mpr (storeCoefficients_eq_ok.mp store).1)

end Filter

/-! ## From the file to its use -/

/-- A settings file is loaded if what it gives and the defaults of the rest pass the checks together;
else the first check that fails is reported. What is loaded makes captures and filters that are not
refused for their settings. A filter that is asked for parameters of its own has those in place of the
file's, and all of them are checked again. -/
theorem described_file_loaded (storage : Storage) (path : Path) (text : String)
    (entries : Toml.Entries) (given : Given) (stands : storage.readText path = .ok text)
    (document : Toml.read? text.toList = some entries) (describes : Describes entries given) :
    let settings := layered given
    (∀ loaded, Settings.loadFile storage path = .ok loaded ↔
      Usable settings ∧ loaded = (settings, [.settingsLoaded path])) ∧
    (∀ error, Settings.loadFile storage path = .error error ↔
      ∃ reason, Violated settings reason ∧ error = .invalid reason) ∧
    (Usable settings → ∀ (arguments : CaptureArguments) (world : World) (error : CommandError),
      arguments.seconds = none → (perform (capture arguments settings) world).1 = .error error →
      ∃ reason, error = .capture arguments.device reason) ∧
    (Usable settings → ∀ (arguments : FilterArguments) (world : World) (reason : InvalidSpec),
      arguments.taps = none → arguments.rate = none → arguments.cutoff = none →
      (perform (filter arguments settings) world).1 ≠ .error (.design reason)) ∧
    ∀ (arguments : FilterArguments) (world : World),
      let spec : LowPassSpec :=
        { taps := arguments.taps.getD (given.taps.getD 20)
          rate := arguments.rate.getD (given.rate.getD 400.0)
          cutoff := arguments.cutoff.getD (given.cutoff.getD 20.0) }
      let output : Path := arguments.output.getD ⟨given.output.getD "filter_coefficients.json"⟩
      let run := perform (filter arguments settings) world
      (∃ reason, Refused spec reason ∧ run = (.error (.design reason), world)) ∨
      Feasible spec ∧ (∀ reason, run.1 ≠ .error (.design reason)) ∧
        let coefficients := lowPass spec.taps spec.cutoff spec.rate
        match storeCoefficients world.storage output coefficients with
        | .error error =>
          run.1 = .error (.coefficients error) ∧ run.2.storage =
            world.storage.writtenTo output (Storage.octetsOf (coefficientText coefficients))
        | .ok (first, _) =>
          ChangesOnly (arguments.response.toList ++ (arguments.session.map tracePath).toList) first
            run.2.storage := by
  intro settings
  have parsed := parse_described document describes
  refine ⟨fun loaded => loadFile_ok stands parsed, fun error => loadFile_error stands parsed, ?_, ?_,
    fun arguments world => filter_by_spec arguments settings world⟩
  · intro usable arguments world error unasked failed
    exact capture_with_usable usable unasked failed
  · intro usable arguments world reason taps rate cutoff
    have own : arguments.spec settings = settings.filter.spec := by
      rw [FilterArguments.spec, taps, rate, cutoff]
      rfl
    have feasible : Feasible (arguments.spec settings) := own ▸ usable.filter
    exact course_designed (filter_course arguments settings world) (design_feasible feasible) reason

def partialSettings : Settings :=
  ⟨⟨2.5, "UTF-8"⟩, ⟨⟨31, 400.0, 20.0⟩, ⟨"filter_coefficients.json"⟩⟩⟩

theorem partialFile_loaded :
    ∃ storage path,
      storage.readText path = .ok "[collect]\nduration_secs = 2.5\n\n[filter]\ntaps = 31\n" ∧
      Settings.loadFile storage path = .ok (partialSettings, [.settingsLoaded path]) ∧
      ∀ world, perform (filter ⟨none, none, some 30.0, none, none, none⟩ partialSettings) world =
        (.error (.design (.badCutoff 20.0 (30.0 / 2.0))), world) := by
  let text := "[collect]\nduration_secs = 2.5\n\n[filter]\ntaps = 31\n"
  let storage := emptyStorage.set ["a.toml"] (.file (Storage.octetsOf text))
  have stands : storage.readText ⟨"a.toml"⟩ = .ok text := readText_of_octets rfl
  let given : Given := ⟨some 2.5, none, some 31, none, none, none⟩
  have document : ∃ entries ∈ Toml.read? text.toList, Describes entries given := by
    decide +kernel
  obtain ⟨entries, document, describes⟩ := document
  have granted : ∃ window, windowOf 2.5 = .ok window := by
    have ok : (windowOf 2.5).isOk = true := by decide +kernel
    cases granted : windowOf 2.5 with
    | ok window => exact ⟨window, rfl⟩
    | error reason =>
        rw [granted] at ok
        cases ok
  have usable : Usable (layered given) :=
    { window := granted
      encoding := ⟨.utf8, by decide +kernel⟩
      filter := ⟨by decide, by decide, by decide⟩ }
  obtain ⟨loads, -, -, -, designs⟩ :=
    described_file_loaded storage ⟨"a.toml"⟩ text entries given stands document describes
  refine ⟨storage, ⟨"a.toml"⟩, stands, (loads _).mpr ⟨usable, rfl⟩, fun world => ?_⟩
  rcases designs ⟨none, none, some 30.0, none, none, none⟩ world with
    ⟨reason, refused, run⟩ | ⟨feasible, -⟩
  · cases refused with
    | taps bad => exact absurd (by decide) bad
    | rate taps bad => exact absurd (by decide) bad
    | cutoff taps rate bad => exact run
  · exact absurd feasible.cutoff.2 (by decide)

end Accelerometer.Proofs.Command
