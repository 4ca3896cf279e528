import Accelerometer.Serial.LineAssembler

/-!
# Scripted sources

Sources that follow a finite script and then stay idle: a device that delivers chunks, and a source
of whole lines.
-/

namespace Accelerometer

structure Cue (ρ : Type) where
  wait : Duration
  outcome : ρ
  deriving DecidableEq, Repr

def readSize : Nat := 256

structure ScriptedDevice where
  /-- What is left of a chunk that was too large for one read. -/
  buffered : List UInt8
  cues : List (Cue Arrival)
  /-- The time a read takes after the end of the script. -/
  idle : Duration
  /-- How often the device has been read. -/
  reads : Nat
  deriving DecidableEq, Repr

namespace ScriptedDevice

def ofCues (cues : List (Cue Arrival)) (idle : Duration) : ScriptedDevice :=
  ⟨[], cues, idle, 0⟩

def deliver (device : ScriptedDevice) (took : Duration) (octets : List UInt8) :
    Read ScriptedDevice Arrival :=
  ⟨.chunk (octets.take readSize), took, { device with buffered := octets.drop readSize }⟩

/-- Reads the device. Past its script it times out, which takes at least a nanosecond. -/
def read (device : ScriptedDevice) : Read ScriptedDevice Arrival :=
  let device := { device with reads := device.reads + 1 }
  match device.buffered, device.cues with
  | _ :: _, _ => device.deliver 0 device.buffered
  | [], cue :: cues =>
    let device := { device with cues := cues }
    match cue.outcome with
    | .chunk octets => device.deliver cue.wait octets
    | .fault fault => ⟨.fault fault, cue.wait, device⟩
  | [], [] => ⟨.fault ⟨.timedOut, none⟩, max 1 device.idle, device⟩

/-- The last moment of a clock that counts its seconds in 63 bits. -/
def clockEnd : Duration := Nat.pow 2 63 * second - 1

def source : ByteSource ScriptedDevice :=
  ⟨read, fun _ => clockEnd⟩

def Cue.size : Cue Arrival → Nat
  | ⟨_, .chunk octets⟩ => octets.length
  | ⟨_, .fault _⟩ => 0

def remainingReads (device : ScriptedDevice) : Nat :=
  device.buffered.length + device.cues.foldr (fun cue reads => Cue.size cue + 1 + reads) 0 + 1

def lineStream (framing : Framing) : LineStream (LineAssembler ScriptedDevice) :=
  LineAssembler.lineStream source framing fun assembler => assembler.source.remainingReads

def remainingLines (window : Duration) (assembler : LineAssembler ScriptedDevice) : Nat :=
  let device := assembler.source
  assembler.pending.length + device.remainingReads + window / max 1 device.idle + 2

end ScriptedDevice

structure ScriptedLines where
  cues : List (Cue LineArrival)
  /-- The time that waiting in vain takes after the end of the script. -/
  idle : Duration
  /-- How often a line has been asked for. -/
  reads : Nat
  deriving DecidableEq, Repr

namespace ScriptedLines

def nextLine (lines : ScriptedLines) : Read ScriptedLines LineArrival :=
  let lines := { lines with reads := lines.reads + 1 }
  match lines.cues with
  | cue :: cues => ⟨cue.outcome, cue.wait, { lines with cues := cues }⟩
  | [] => ⟨.nothing, max 1 lines.idle, lines⟩

def lineStream : LineStream ScriptedLines :=
  ⟨fun lines => some lines.nextLine⟩

def remainingLines (window : Duration) (lines : ScriptedLines) : Nat :=
  lines.cues.length + window / max 1 lines.idle + 2

end ScriptedLines

end Accelerometer
