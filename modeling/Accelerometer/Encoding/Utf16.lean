import Accelerometer.Encoding.Decoder

/-!
# UTF-16

The decoders of UTF-16 for both orders of the octets of a unit.
-/

namespace Accelerometer.Encoding.Utf16

inductive Order
  | littleEndian
  | bigEndian
  deriving DecidableEq, Repr

structure State where
  high : Option Nat
  octet : Option UInt8
  deriving DecidableEq, Repr

def Order.unit : Order → UInt8 → UInt8 → Nat
  | .littleEndian, first, second => first.toNat + 0x100 * second.toNat
  | .bigEndian, first, second => 0x100 * first.toNat + second.toNat

def single (unit : Nat) : List Char × State :=
  if 0xD800 ≤ unit ∧ unit < 0xDC00 then ([], ⟨some unit, none⟩)
  else if 0xDC00 ≤ unit ∧ unit < 0xE000 then ([replacement], ⟨none, none⟩)
  else ([Char.ofNat unit], ⟨none, none⟩)

def readUnit : Option Nat → Nat → List Char × State
  | none, unit => single unit
  | some high, unit =>
    if 0xDC00 ≤ unit ∧ unit < 0xE000 then
      ([Char.ofNat (0x10000 + (high - 0xD800) * 0x400 + (unit - 0xDC00))], ⟨none, none⟩)
    else
      let (characters, next) := single unit
      (replacement :: characters, next)

def step (order : Order) (state : State) (octet : UInt8) : List Char × State :=
  match state.octet with
  | none => ([], ⟨state.high, some octet⟩)
  | some first => readUnit state.high (order.unit first octet)

def finish (state : State) : List Char :=
  if state.high.isSome ∨ state.octet.isSome then [replacement] else []

def decoder (order : Order) : Decoder State :=
  ⟨⟨none, none⟩, step order, finish⟩

end Accelerometer.Encoding.Utf16
