import Accelerometer.Main
import Accelerometer.Proofs.Recording.Chunking
import Accelerometer.Proofs.Recording.ReadBack
import Accelerometer.Toml.Document
import Accelerometer.Proofs.Serial.Alignment
import Accelerometer.Proofs.Signal.Convolution
import Accelerometer.Proofs.Decimal.Notation
import Accelerometer.Proofs.Signal.FilteredTrace
import Accelerometer.Proofs.Serial.Records
import Accelerometer.Proofs.Session.Apart
import Accelerometer.Proofs.Recording.Pieces
import Accelerometer.Proofs.Recording.Consecutive
import Accelerometer.Proofs.Encoding.SingleLines
import Accelerometer.Proofs.Encoding.Ascii
import Accelerometer.Proofs.Recording.AsciiText
import Accelerometer.Proofs.Double.Packing
import Accelerometer.Proofs.Double.Arithmetic
import Accelerometer.Proofs.Double.Comparison
import Accelerometer.Proofs.Signal.Design
import Accelerometer.Proofs.Recording.Timing
import Accelerometer.Proofs.Recording.Termination
import Accelerometer.Proofs.Command.FilterChanges
import Accelerometer.Proofs.Command.KeptRecording
import Accelerometer.Proofs.Signal.InPlace
import Accelerometer.Proofs.CommandLine.SameCapture
import Accelerometer.Proofs.Firmware.Comments
import Accelerometer.Proofs.Sample.Grammar
import Accelerometer.Proofs.Serial.Interruptions
import Accelerometer.Proofs.Session.Tables
import Accelerometer.Proofs.Command.CaptureStart
import Accelerometer.Proofs.Signal.LinearPhase
import Accelerometer.Proofs.Firmware.Pair
import Accelerometer.Proofs.Command.LoadedSettings
import Accelerometer.Proofs.Signal.TimeOrigin
import Accelerometer.Proofs.Double.Value
import Accelerometer.Proofs.Window
import Accelerometer.Proofs.Recording.Guessing
import Accelerometer.Proofs.Session.TraceNames
import Accelerometer.Proofs.Settings.RoundTrip
import Accelerometer.Proofs.Signal.CoefficientFile
