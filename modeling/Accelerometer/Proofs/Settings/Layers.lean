import Accelerometer.Proofs.Signal.Design
import Accelerometer.Settings

/-!
# Layers of settings

A document may give any of the settings. What it gives counts, each value for itself, and what it leaves
out keeps its default. The settings that come out of this are checked as a whole.

* `Describes`, `parse_described`: the settings of a document.
* `Feasible`, `Refused`: the parameters that make a filter, and why others do not.
* `Usable`, `Violated`: the settings that pass all checks, and the first check that fails.
* `loadFile_ok`, `loadFile_error`: loading a file.
-/

namespace Accelerometer.Proofs.Settings
open Accelerometer.Settings Accelerometer.Signal Proofs.Signal

variable {α : Type} {entries inner : Toml.Entries} {key name : String} {given : Option α}
  {Means : Toml.Item → α → Prop} {read : Toml.Item → Option α} {spec : LowPassSpec}
  {settings : Settings} {storage : Storage} {path : Path} {text : String}

/-! ## What a document gives -/

inductive IsNumber : Toml.Item → Float → Prop
  | float (value : Float) : IsNumber (.float value) value
  | integer (value : Int) : IsNumber (.integer value) (.ofInt value)

inductive IsCount : Toml.Item → Nat → Prop
  | integer (value : Nat) : IsCount (.integer value) value

inductive IsText : Toml.Item → String → Prop
  | text (value : String) : IsText (.text value) value

/-- What is given for a key: nothing if the key is missing, else what its item means. -/
def Gives (entries : Toml.Entries) (key : String) (Means : Toml.Item → α → Prop) : Option α → Prop
  | none => entries.find? key = none
  | some value => ∃ item ∈ entries.find? key, Means item value

def tableOf? (entries : Toml.Entries) (name : String) : Option Toml.Entries :=
  match entries.find? name with
  | none => some []
  | some (.table _ inner) => some inner
  | some _ => none

structure Given where
  seconds : Option Float
  encoding : Option String
  taps : Option Nat
  rate : Option Float
  cutoff : Option Float
  output : Option String

/-- A document gives these settings and no others. Whatever else it holds does not matter. -/
structure Describes (entries : Toml.Entries) (given : Given) : Prop where
  capture : ∃ inner ∈ tableOf? entries "collect",
    Gives inner "duration_secs" IsNumber given.seconds ∧
    Gives inner "encoding" IsText given.encoding
  filter : ∃ inner ∈ tableOf? entries "filter",
    Gives inner "taps" IsCount given.taps ∧
    Gives inner "sample_rate_hz" IsNumber given.rate ∧
    Gives inner "cutoff_hz" IsNumber given.cutoff ∧
    Gives inner "output" IsText given.output

def layered (given : Given) : Settings where
  capture :=
    { seconds := given.seconds.getD standard.capture.seconds
      encoding := given.encoding.getD standard.capture.encoding }
  filter :=
    { spec :=
        { taps := given.taps.getD standard.filter.spec.taps
          rate := given.rate.getD standard.filter.spec.rate
          cutoff := given.cutoff.getD standard.filter.spec.cutoff }
      output := ⟨given.output.getD standard.filter.output.text⟩ }

/-! ## Reading a document -/

theorem float?_eq_some {item : Toml.Item} {value : Float} :
    float? item = some value ↔ IsNumber item value := by
  constructor
  · intro read
    cases item with
    | float value =>
        obtain rfl := Option.some.inj read
        exact .float value
    | integer value =>
        obtain rfl := Option.some.inj read
        exact .integer value
    | _ => cases read
  · intro number
    cases number with
    | float => rfl
    | integer => rfl

theorem count?_eq_some {item : Toml.Item} {value : Nat} :
    count? item = some value ↔ IsCount item value := by
  constructor
  · intro read
    cases item with
    | integer value =>
        obtain ⟨nonnegative, read⟩ := Option.ite_none_right_eq_some.mp read
        obtain rfl := Option.some.inj read
        obtain ⟨count, rfl⟩ := Int.eq_ofNat_of_zero_le nonnegative
        exact .integer count
    | _ => cases read
  · intro count
    cases count
    rfl

theorem text?_eq_some {item : Toml.Item} {value : String} :
    text? item = some value ↔ IsText item value := by
  constructor
  · intro read
    cases item with
    | text value =>
        obtain rfl := Option.some.inj read
        exact .text value
    | _ => cases read
  · intro text
    cases text
    rfl

theorem entry_given (gives : Gives entries key Means given)
    (reads : ∀ {item value}, read item = some value ↔ Means item value) (default : α) :
    entryOr? entries key read default = some (given.getD default) := by
  cases given with
  | none =>
      have absent : entries.find? key = none := gives
      rw [entryOr?, absent, Option.getD_none]
  | some value =>
      obtain ⟨item, found, means⟩ := gives
      rw [entryOr?, Option.mem_def.mp found]
      exact reads.mpr means

theorem entry_table {default value : α} (held : inner ∈ tableOf? entries name)
    (table : ∀ origin, read (.table origin inner) = some value)
    (blank : read (.table .header []) = some default) :
    entryOr? entries name read default = some value := by
  rw [Option.mem_def, tableOf?] at held
  unfold entryOr?
  split at held
  · rename_i absent
    obtain rfl := Option.some.inj held
    rw [absent]
    exact blank.symm.trans (table .header)
  · rename_i found
    obtain rfl := Option.some.inj held
    rw [found]
    exact table _
  · cases held

theorem ofEntries_described {given : Given} (describes : Describes entries given) :
    ofEntries? entries = some (layered given) := by
  obtain ⟨⟨inner, held, seconds, encoding⟩, ⟨inner', held', taps, rate, cutoff, output⟩⟩ := describes
  have capture : ∀ origin, capture? standard.capture (.table origin inner) =
      some (layered given).capture := by
    intro origin
    simp only [capture?, entry_given seconds float?_eq_some, entry_given encoding text?_eq_some]
    rfl
  have filter : ∀ origin, filter? standard.filter (.table origin inner') =
      some (layered given).filter := by
    intro origin
    simp only [filter?, entry_given taps count?_eq_some, entry_given rate float?_eq_some,
      entry_given cutoff float?_eq_some, entry_given output text?_eq_some]
    rfl
  rw [ofEntries?, entry_table held capture rfl, entry_table held' filter rfl]
  rfl

theorem parse_described {given : Given} (document : Toml.read? text.toList = some entries)
    (describes : Describes entries given) : parse? text = some (layered given) := by
  rw [parse?, document]
  exact ofEntries_described describes

/-! ## Deciding what a document gives -/

instance (item : Toml.Item) (value : Float) : Decidable (IsNumber item value) :=
  decidable_of_iff _ float?_eq_some

instance (item : Toml.Item) (value : Nat) : Decidable (IsCount item value) :=
  decidable_of_iff _ count?_eq_some

instance (item : Toml.Item) (value : String) : Decidable (IsText item value) :=
  decidable_of_iff _ text?_eq_some

instance [∀ item value, Decidable (Means item value)] :
    ∀ given, Decidable (Gives entries key Means given)
  | none => inferInstanceAs (Decidable (entries.find? key = none))
  | some value => inferInstanceAs (Decidable (∃ item ∈ entries.find? key, Means item value))

instance (given : Given) : Decidable (Describes entries given) :=
  decidable_of_iff (_ ∧ _) ⟨fun ⟨capture, filter⟩ => ⟨capture, filter⟩,
    fun ⟨capture, filter⟩ => ⟨capture, filter⟩⟩

/-! ## Checks -/

structure Feasible (spec : LowPassSpec) : Prop where
  taps : 1 ≤ spec.taps
  rate : spec.rate.isFinite ∧ 0.0 < spec.rate
  cutoff : 0.0 < spec.cutoff ∧ spec.cutoff < spec.rate / 2.0

inductive Refused (spec : LowPassSpec) : InvalidSpec → Prop
  | taps (bad : ¬1 ≤ spec.taps) : Refused spec .noTaps
  | rate (taps : 1 ≤ spec.taps) (bad : ¬(spec.rate.isFinite ∧ 0.0 < spec.rate)) :
      Refused spec (.badRate spec.rate)
  | cutoff (taps : 1 ≤ spec.taps) (rate : spec.rate.isFinite ∧ 0.0 < spec.rate)
      (bad : ¬(0.0 < spec.cutoff ∧ spec.cutoff < spec.rate / 2.0)) :
      Refused spec (.badCutoff spec.cutoff (spec.rate / 2.0))

theorem validate_feasible : spec.validate = .ok () ↔ Feasible spec := by
  rw [validate_eq_ok, ← Nat.one_le_iff_ne_zero]
  constructor
  · rintro ⟨taps, rate, cutoff⟩
    exact ⟨taps, rate, cutoff⟩
  · rintro ⟨taps, rate, cutoff⟩
    exact ⟨taps, rate, cutoff⟩

theorem validate_refused {reason : InvalidSpec} :
    spec.validate = .error reason ↔ Refused spec reason := by
  have tap : spec.taps = 0 ↔ ¬1 ≤ spec.taps := by omega
  constructor
  · intro failed
    simp only [LowPassSpec.validate] at failed
    split at failed
    · cases failed
      exact .taps (tap.mp ‹_›)
    · have taps : 1 ≤ spec.taps := by omega
      split at failed
      · cases failed
        exact .rate taps ‹_›
      · have rate := not_not.mp ‹¬¬_›
        split at failed
        · cases failed
          exact .cutoff taps rate ‹_›
        · cases failed
  · intro refused
    cases refused with
    | taps bad => rw [LowPassSpec.validate, if_pos (tap.mpr bad)]
    | rate taps bad => rw [LowPassSpec.validate, if_neg (by omega), if_pos bad]
    | cutoff taps rate bad =>
        rw [LowPassSpec.validate, if_neg (by omega), if_neg (not_not.mpr rate)]
        exact if_pos bad

theorem design_feasible (feasible : Feasible spec) :
    spec.design = .ok (lowPass spec.taps spec.cutoff spec.rate) := by
  rw [LowPassSpec.design, validate_feasible.mpr feasible]
  rfl

theorem design_refused {reason : InvalidSpec} :
    spec.design = .error reason ↔ Refused spec reason := by
  rw [← validate_refused, LowPassSpec.design]
  cases spec.validate with
  | ok => simp [bind, Except.bind, pure, Except.pure]
  | error => simp [bind, Except.bind]

structure Usable (settings : Settings) : Prop where
  window : ∃ window, windowOf settings.capture.seconds = .ok window
  encoding : ∃ encoding, Encoding.ofName settings.capture.encoding = .ok encoding
  filter : Feasible settings.filter.spec

inductive Violated (settings : Settings) : InvalidSettings → Prop
  | window {reason : WindowError} (refused : windowOf settings.capture.seconds = .error reason) :
      Violated settings (.window reason)
  | encoding {window : Duration} {unknown : NoSuchEncoding}
      (granted : windowOf settings.capture.seconds = .ok window)
      (refused : Encoding.ofName settings.capture.encoding = .error unknown) :
      Violated settings (.encoding unknown)
  | filter {window : Duration} {encoding : Encoding} {reason : InvalidSpec}
      (granted : windowOf settings.capture.seconds = .ok window)
      (known : Encoding.ofName settings.capture.encoding = .ok encoding)
      (refused : Refused settings.filter.spec reason) : Violated settings (.filter reason)

theorem validate_eq (settings : Settings) : settings.validate =
    match windowOf settings.capture.seconds, Encoding.ofName settings.capture.encoding,
      settings.filter.spec.validate with
    | .error reason, _, _ => .error (.window reason)
    | .ok _, .error unknown, _ => .error (.encoding unknown)
    | .ok _, .ok _, .error reason => .error (.filter reason)
    | .ok _, .ok _, .ok () => .ok () := by
  rw [validate, window, encoding]
  cases windowOf settings.capture.seconds with
  | error => rfl
  | ok =>
      cases Encoding.ofName settings.capture.encoding with
      | error => rfl
      | ok =>
          cases settings.filter.spec.validate with
          | error => rfl
          | ok => rfl

theorem validate_usable : settings.validate = .ok () ↔ Usable settings := by
  rw [validate_eq]
  constructor
  · intro passed
    split at passed
    · cases passed
    · cases passed
    · cases passed
    · rename_i window encoding granted known accepted
      exact ⟨⟨window, granted⟩, ⟨encoding, known⟩, validate_feasible.mp accepted⟩
  · rintro ⟨⟨window, granted⟩, ⟨encoding, known⟩, feasible⟩
    rw [granted, known, validate_feasible.mpr feasible]

theorem validate_violated {reason : InvalidSettings} :
    settings.validate = .error reason ↔ Violated settings reason := by
  rw [validate_eq]
  constructor
  · intro failed
    split at failed
    · rename_i refused
      cases failed
      exact .window refused
    · rename_i granted refused
      cases failed
      exact .encoding granted refused
    · rename_i granted known refused
      cases failed
      exact .filter granted known (validate_refused.mp refused)
    · cases failed
  · intro violated
    cases violated with
    | window refused => rw [refused]
    | encoding granted refused => rw [granted, refused]
    | filter granted known refused => rw [granted, known, validate_refused.mpr refused]

/-! ## Loading -/

theorem loadFile_parsed (stands : storage.readText path = .ok text)
    (parsed : parse? text = some settings) :
    loadFile storage path =
      (settings.validate.mapError .invalid).map fun _ => (settings, [.settingsLoaded path]) := by
  simp only [loadFile, stands, bind, Except.bind, Except.mapError, parsed]
  cases settings.validate with
  | error => rfl
  | ok => rfl

theorem loadFile_ok (stands : storage.readText path = .ok text)
    (parsed : parse? text = some settings) {loaded : Settings × List Event} :
    loadFile storage path = .ok loaded ↔
      Usable settings ∧ loaded = (settings, [.settingsLoaded path]) := by
  rw [loadFile_parsed stands parsed, ← validate_usable]
  cases settings.validate with
  | error => simp [Except.mapError, Except.map]
  | ok => simp [Except.mapError, Except.map, eq_comm]

theorem loadFile_error (stands : storage.readText path = .ok text)
    (parsed : parse? text = some settings) {error : SettingsError} :
    loadFile storage path = .error error ↔
      ∃ reason, Violated settings reason ∧ error = .invalid reason := by
  rw [loadFile_parsed stands parsed]
  simp only [← validate_violated]
  cases settings.validate with
  | error => simp [Except.mapError, Except.map, eq_comm]
  | ok => simp [Except.mapError, Except.map]

end Accelerometer.Proofs.Settings
