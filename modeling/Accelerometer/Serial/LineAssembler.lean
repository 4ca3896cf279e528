import Accelerometer.Encoding
import Accelerometer.Serial.Source

/-!
# Reading lines

Cuts a stream of octets into lines. Octets after a terminator are kept for the next line; a line
that does not end in time is handed out as far as it has come.
-/

namespace Accelerometer

/-- How lines are found: the unit in which a terminator is looked for, and the time that one attempt
may take. -/
structure Framing where
  unit : CodeUnit
  timeout : Duration
  deriving DecidableEq, Repr

/-- Takes the first line off, with its terminator: a line feed in one unit, counted in units from
the front. -/
def CodeUnit.cutLine? : CodeUnit → List UInt8 → Option (List UInt8 × List UInt8)
  | .octet, only :: rest =>
    if only = 0x0A then some ([only], rest)
    else (cutLine? .octet rest).map fun (line, rest) => (only :: line, rest)
  | .pair, low :: high :: rest =>
    if low = 0x0A ∧ high = 0 then some ([low, high], rest)
    else (cutLine? .pair rest).map fun (line, rest) => (low :: high :: line, rest)
  | _, _ => none

structure LineAssembler (σ : Type) where
  source : σ
  pending : List UInt8
  deriving DecidableEq, Repr

namespace LineAssembler

variable {σ : Type}

def giveUp (spent : Duration) (assembler : LineAssembler σ) : Read (LineAssembler σ) LineArrival :=
  if assembler.pending.isEmpty then ⟨.nothing, spent, assembler⟩
  else ⟨.line assembler.pending, spent, { assembler with pending := [] }⟩

def handOut? (unit : CodeUnit) (spent : Duration) (assembler : LineAssembler σ) :
    Option (Read (LineAssembler σ) LineArrival) :=
  (unit.cutLine? assembler.pending).map fun (line, rest) =>
    ⟨.line line, spent, { assembler with pending := rest }⟩

inductive Attempt (σ : Type)
  | returned (read : Read (LineAssembler σ) LineArrival)
  | underway (spent : Duration) (assembler : LineAssembler σ)

def carryOn (framing : Framing) (spent : Duration) (assembler : LineAssembler σ) : Attempt σ :=
  if framing.timeout ≤ spent then .returned (assembler.giveUp spent) else .underway spent assembler

def hear (framing : Framing) (spent : Duration) (assembler : LineAssembler σ) :
    Arrival → Attempt σ
  | .chunk [] => .returned (assembler.giveUp spent)
  | .chunk octets =>
    let assembler := { assembler with pending := assembler.pending ++ octets }
    match assembler.handOut? framing.unit spent with
    | some line => .returned line
    | none => assembler.carryOn framing spent
  | .fault fault =>
    match fault.kind with
    | .timedOut => .returned (assembler.giveUp spent)
    | .interrupted => assembler.carryOn framing spent
    | _ => .returned ⟨.fault fault, spent, assembler⟩

def readOnce (device : ByteSource σ) (framing : Framing) (spent : Duration)
    (assembler : LineAssembler σ) : Attempt σ :=
  let read := device.read assembler.source
  { assembler with source := read.source }.hear framing (spent + read.took) read.outcome

/-- Reads from the source until a line is complete, the source ends or times out, or the attempt has
taken its time, of which it has `spent` some. At most `fuel` reads are made. -/
def awaitLine (device : ByteSource σ) (framing : Framing) :
    (fuel : Nat) → (spent : Duration) → LineAssembler σ → Attempt σ
  | 0, spent, assembler => .underway spent assembler
  | fuel + 1, spent, assembler =>
    match assembler.readOnce device framing spent with
    | .returned read => .returned read
    | .underway spent assembler => awaitLine device framing fuel spent assembler

/-- Hands out the next line. One that is complete already needs no read. A deadline that the clock cannot
tell breaks the attempt off before it begins. -/
def nextLine (device : ByteSource σ) (framing : Framing) (fuel : Nat)
    (assembler : LineAssembler σ) : Option (Read (LineAssembler σ) LineArrival) :=
  match assembler.handOut? framing.unit 0 with
  | some line => some line
  | none =>
    if device.horizon assembler.source < framing.timeout then none
    else match assembler.awaitLine device framing fuel 0 with
    | .returned read => some read
    | .underway .. => none

def lineStream (device : ByteSource σ) (framing : Framing) (fuel : LineAssembler σ → Nat) :
    LineStream (LineAssembler σ) where
  nextLine assembler := assembler.nextLine device framing (fuel assembler)

end LineAssembler

end Accelerometer
