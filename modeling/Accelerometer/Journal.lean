import Accelerometer.Encoding
import Accelerometer.Path
import Accelerometer.Session.Summary
import Accelerometer.Text.Hex

/-!
# Journal

The events that a program notes down while it works, their levels and their texts.
-/

namespace Accelerometer

inductive Level
  | debug
  | info
  | warning
  deriving DecidableEq, Repr

def Level.name : Level → String
  | .debug => "DEBUG"
  | .info => "INFO"
  | .warning => "WARN"

def baudRate : Nat := 115200

inductive Event
  | deviceOpened (device : String)
  | captureStarted (device : String) (window : Duration)
  | recordingStarted (encoding : Encoding) (output : Path)
  | lineDropped (words : Nat) (line : List UInt8)
  | captureEnded (output : Path) (summary : Summary)
  | rowSkipped (session : Path) (lineNumber : Nat) (row : String)
  | sessionLoaded (session : Path) (rows : Nat)
  | nothingToFilter (session : Path)
  | filterDesigned (taps : Nat) (cutoff rate : Float)
  | coefficientsWritten (count : Nat) (output : Path)
  | cornerFound (frequency : Float)
  | noCorner
  | moduleGenerated (source header : Path)
  | settingsLoaded (settings : Path)

namespace Event

def level : Event → Level
  | .captureStarted .. | .captureEnded .. | .cornerFound _ | .noCorner => .info
  | .rowSkipped .. | .nothingToFilter _ => .warning
  | _ => .debug

def message : Event → String
  | .deviceOpened device => "opened " ++ device ++ " at " ++ toString baudRate ++ " baud"
  | .captureStarted device window =>
    "connected to " ++ device ++ " at " ++ toString baudRate ++ " baud, collecting for " ++
      Decimal.fixed true 1 (Duration.seconds window) ++ "s"
  | .recordingStarted encoding output =>
    "recording " ++ encoding.name ++ " lines into " ++ output.text
  | .lineDropped words line =>
    "dropping line with " ++ toString words ++ " tokens: " ++ .ofList (Text.hexOctets line)
  | .captureEnded output summary => output.text ++ ": " ++ summary.text
  | .rowSkipped session lineNumber row =>
    session.text ++ ":" ++ toString lineNumber ++ ": skipping unparsable row `" ++ row ++ "`"
  | .sessionLoaded session rows => "loaded " ++ toString rows ++ " rows from " ++ session.text
  | .nothingToFilter session => session.text ++ " holds no samples, nothing to filter"
  | .filterDesigned taps cutoff rate =>
    "designed " ++ toString taps ++ "-tap low-pass at " ++ Decimal.plain.text cutoff ++
      " Hz (fs = " ++ Decimal.plain.text rate ++ " Hz)"
  | .coefficientsWritten count output =>
    "wrote " ++ toString count ++ " coefficients to " ++ output.text
  | .cornerFound frequency => "-3 dB point at " ++ Decimal.fixed true 2 frequency ++ " Hz"
  | .noCorner => "response stays within 3 dB up to Nyquist"
  | .moduleGenerated source header => "generated " ++ source.text ++ " and " ++ header.text
  | .settingsLoaded settings => "loaded configuration from " ++ settings.text

def text (event : Event) : String :=
  event.level.name ++ " " ++ event.message

end Event

end Accelerometer
