import Accelerometer.Window
import Accelerometer.Encoding
import Accelerometer.Journal
import Accelerometer.Signal.LowPassSpec
import Accelerometer.Storage
import Accelerometer.Toml.Document

/-!
# Settings

The settings of a capture and of a filter: their defaults, the file they are kept in, and the checks
they have to pass.
-/

namespace Accelerometer

structure CaptureSettings where
  seconds : Float
  encoding : String

structure FilterSettings where
  spec : Signal.LowPassSpec
  output : Path

structure Settings where
  capture : CaptureSettings
  filter : FilterSettings

inductive InvalidSettings
  | window (error : WindowError)
  | encoding (unknown : NoSuchEncoding)
  | filter (error : Signal.InvalidSpec)

inductive SettingsError
  | unreadable (path : Path) (reason : Refusal)
  | malformed (path : Path)
  | invalid (reason : InvalidSettings)

def InvalidSettings.message : InvalidSettings → String
  | .window error => "invalid configuration: collect.duration_secs " ++ error.message
  | .encoding unknown => "invalid configuration: " ++ unknown.message
  | .filter error => "invalid configuration: filter: " ++ error.message

def SettingsError.message : SettingsError → String
  | .unreadable path reason => "failed to read config " ++ path.text ++ ": " ++ reason.message
  | .malformed path => "failed to parse config " ++ path.text
  | .invalid reason => reason.message

def SettingsError.causes : SettingsError → List String
  | .unreadable _ reason => [reason.message]
  | _ => []

namespace Settings

def standard : Settings where
  capture := ⟨10.0, Encoding.utf8.name⟩
  filter := ⟨.standard, ⟨"filter_coefficients.json"⟩⟩

/-! ## Checks -/

def window (settings : Settings) : Except InvalidSettings Duration :=
  (windowOf settings.capture.seconds).mapError .window

def encoding (settings : Settings) : Except InvalidSettings Encoding :=
  (Encoding.ofName settings.capture.encoding).mapError .encoding

def validate (settings : Settings) : Except InvalidSettings Unit := do
  let _ ← settings.window
  let _ ← settings.encoding
  settings.filter.spec.validate.mapError .filter

/-! ## Reading -/

open Toml in
def float? : Item → Option Float
  | .float value => some value
  | .integer value => some (Float.ofInt value)
  | _ => none

open Toml in
def text? : Item → Option String
  | .text value => some value
  | _ => none

open Toml in
def count? : Item → Option Nat
  | .integer value => if 0 ≤ value then some value.toNat else none
  | _ => none

/-- The value of a key, or a default if the key is missing; a value of the wrong kind is refused. -/
def entryOr? {α : Type} (entries : Toml.Entries) (key : String) (read : Toml.Item → Option α)
    (default : α) : Option α :=
  match entries.find? key with
  | some item => read item
  | none => some default

open Toml in
/-- The settings of a capture: a table, or an array of its values in order. A date counts as a table
that has none of them. -/
def capture? (default : CaptureSettings) : Item → Option CaptureSettings
  | .table _ entries => do
    return ⟨← entryOr? entries "duration_secs" float? default.seconds,
      ← entryOr? entries "encoding" text? default.encoding⟩
  | .array [] | .dateTime => some default
  | .array [seconds] => return ⟨← float? seconds, default.encoding⟩
  | .array (seconds :: encoding :: _) => return ⟨← float? seconds, ← text? encoding⟩
  | _ => none

open Toml in
def filter? (default : FilterSettings) : Item → Option FilterSettings
  | .table _ entries => do
    let spec : Signal.LowPassSpec :=
      ⟨← entryOr? entries "taps" count? default.spec.taps,
        ← entryOr? entries "sample_rate_hz" float? default.spec.rate,
        ← entryOr? entries "cutoff_hz" float? default.spec.cutoff⟩
    return ⟨spec, ⟨← entryOr? entries "output" text? default.output.text⟩⟩
  | .dateTime => some default
  | _ => none

/-- The settings that a document gives; what it leaves out keeps its default, and keys that are no
settings do not count. -/
def ofEntries? (entries : Toml.Entries) : Option Settings := do
  return ⟨← entryOr? entries "collect" (capture? standard.capture) standard.capture,
    ← entryOr? entries "filter" (filter? standard.filter) standard.filter⟩

def parse? (text : String) : Option Settings :=
  (Toml.read? text.toList).bind ofEntries?

/-! ## Writing -/

def numberLayout : Decimal.Layout where
  positional := .always
  wholeFraction := true
  tie := .up
  nan := "nan"
  infinity := "inf"
  negativeInfinity := "-inf"

def line (key value : String) : String :=
  key ++ " = " ++ value ++ "\n"

def quoted (text : String) : String :=
  .ofList (Toml.writeQuoted text.toList)

def render? (settings : Settings) : Option String :=
  if Toml.integerBound ≤ settings.filter.spec.taps then none
  else some <|
    "[collect]\n" ++
    line "duration_secs" (numberLayout.text settings.capture.seconds) ++
    line "encoding" (quoted settings.capture.encoding) ++
    "\n[filter]\n" ++
    line "taps" (toString settings.filter.spec.taps) ++
    line "sample_rate_hz" (numberLayout.text settings.filter.spec.rate) ++
    line "cutoff_hz" (numberLayout.text settings.filter.spec.cutoff) ++
    line "output" (quoted settings.filter.output.text)

/-- Whether two settings are equal. Floats are compared as numbers, so that one that is not a number
differs from itself. -/
def agree (a b : Settings) : Bool :=
  a.capture.seconds == b.capture.seconds && a.capture.encoding == b.capture.encoding &&
    a.filter.spec.taps == b.filter.spec.taps && a.filter.spec.rate == b.filter.spec.rate &&
    a.filter.spec.cutoff == b.filter.spec.cutoff && a.filter.output == b.filter.output

/-! ## Loading -/

def loadFile (storage : Storage) (path : Path) : Except SettingsError (Settings × List Event) := do
  let text ← (storage.readText path).mapError (.unreadable path)
  let some settings := parse? text | throw (.malformed path)
  settings.validate.mapError .invalid
  return (settings, [.settingsLoaded path])

def userFile (home : Path) : Path :=
  (home.join "accelog").join "config.toml"

/-- Loads the file at the given path, which must exist; without one the user's file, if there is
one, and else the defaults. -/
def load (storage : Storage) (home : Option Path) (explicit : Option Path) :
    Except SettingsError (Settings × List Event) :=
  match explicit, home.map userFile with
  | some path, _ => loadFile storage path
  | none, some path =>
    if storage.isFile path then loadFile storage path else .ok (standard, [])
  | none, none => .ok (standard, [])

end Settings

end Accelerometer
