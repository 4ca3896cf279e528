import Accelerometer.Command
import Accelerometer.Signal.FilteredTrace
import Accelerometer.Signal.Response

/-!
# The filter command

Designs a filter and writes its coefficients, then its response if that is asked for, and then the
filtered trace of a session if one is given.
-/

namespace Accelerometer

structure FilterArguments where
  session : Option Path
  taps : Option Nat
  rate : Option Float
  cutoff : Option Float
  output : Option Path
  response : Option Path

namespace FilterArguments

def spec (arguments : FilterArguments) (settings : Settings) : Signal.LowPassSpec where
  taps := arguments.taps.getD settings.filter.spec.taps
  rate := arguments.rate.getD settings.filter.spec.rate
  cutoff := arguments.cutoff.getD settings.filter.spec.cutoff

def outputOr (arguments : FilterArguments) (settings : Settings) : Path :=
  arguments.output.getD settings.filter.output

end FilterArguments

namespace Command

open Signal

def design (spec : LowPassSpec) : Command (List Float) := do
  let coefficients ← orFail .design spec.design
  note [.filterDesigned spec.taps spec.cutoff spec.rate]
  return coefficients

def saveCoefficients (spec : LowPassSpec) (coefficients : List Float) (output : Path) :
    Command Unit := do
  let storage := (← get).storage
  keep (storage.writtenTo output (Storage.octetsOf (coefficientText coefficients)))
  let (_, events) ← orFail .coefficients (storeCoefficients storage output coefficients)
  note events
  print ("FIR filter coefficients (" ++ toString spec.taps ++ " taps, " ++
    Decimal.plain.text spec.cutoff ++ " Hz cutoff at " ++ Decimal.plain.text spec.rate ++
    " Hz) written to " ++ output.text)

def noteCorner (response : List (ResponsePoint Float)) : Command Unit :=
  match corner? response with
  | some frequency => note [.cornerFound frequency]
  | none => note [.noCorner]

def saveResponse (response : List (ResponsePoint Float)) (path : Path) : Command Unit := do
  write path (responseTable response)
  print ("Frequency response written to " ++ path.text)

def filterRecording (coefficients : List Float) (session : Path) : Command Unit := do
  let (table, events) ←
    orFail .session (filteredTable (← get).storage session coefficients)
  note events
  match table with
  | none => pure ()
  | some table =>
    let path := tracePath session
    write path table
    print ("Filtered data written to " ++ path.text)

def filter (arguments : FilterArguments) (settings : Settings) : Command Unit := do
  let spec := arguments.spec settings
  let coefficients ← design spec
  saveCoefficients spec coefficients (arguments.outputOr settings)
  let response := response coefficients spec.rate gridSize
  noteCorner response
  arguments.response.forM (saveResponse response)
  arguments.session.forM (filterRecording coefficients)

end Command

end Accelerometer
