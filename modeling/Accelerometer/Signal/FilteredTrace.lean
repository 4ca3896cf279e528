import Accelerometer.Session
import Accelerometer.Signal.Arithmetic
import Accelerometer.Signal.Convolution

/-!
# Filtered traces

The `x` trace of a session, filtered, as a table against the time since the first sample.
-/

namespace Accelerometer.Signal

def traceRow (time x filtered : Float) : String :=
  Decimal.plain.text time ++ "," ++ Decimal.plain.text x ++ "," ++
    Decimal.plain.text filtered ++ "\n"

def traceTable (session : Session) (coefficients : List Float) : String :=
  let trace := session.rows.map Measurement.x
  let rows := (session.normalizedTimes.zip trace).zip (centredConvolution trace coefficients)
  "time,x,x_filtered\n" ++ String.join (rows.map fun ((time, x), filtered) =>
    traceRow time x filtered)

def filteredTable (storage : Storage) (path : Path) (coefficients : List Float) :
    Except UnreadableSession (Option String × List Event) := do
  let (session, events) ← Session.load storage path
  if session.rows.isEmpty then return (none, events ++ [.nothingToFilter path])
  else return (some (traceTable session coefficients), events)

end Accelerometer.Signal
