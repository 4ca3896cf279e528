import Accelerometer.Encoding.Decoder
import Accelerometer.Encoding.ShiftJis.Table

/-!
# Shift JIS

The decoder of Shift JIS: ASCII and half-width katakana in one octet, the rest in two.
-/

namespace Accelerometer.Encoding.ShiftJis

def isLead (octet : UInt8) : Bool :=
  (0x81 ≤ octet && octet ≤ 0x9F) || (0xE0 ≤ octet && octet ≤ 0xFC)

def pair? (lead trail : UInt8) : Option Char := do
  let column ←
    if 0x40 ≤ trail ∧ trail ≤ 0x7E then some (trail.toNat - 0x40)
    else if 0x80 ≤ trail ∧ trail ≤ 0xFC then some (trail.toNat - 0x41)
    else none
  if 0xF0 ≤ lead ∧ lead ≤ 0xF9 then
    return Char.ofNat (0xE000 + (lead.toNat - 0xF0) * 188 + column)
  let row ← rows[lead.toNat - (if lead < 0xA0 then 0x81 else 0xC1)]?
  let character ← row.toList[column]?
  if character = replacement then none else some character

def step : Option UInt8 → UInt8 → List Char × Option UInt8
  | none, octet =>
    if octet ≤ 0x80 then ([asciiChar octet], none)
    else if 0xA1 ≤ octet ∧ octet ≤ 0xDF then ([Char.ofNat (0xFF61 + (octet.toNat - 0xA1))], none)
    else if isLead octet then ([], some octet)
    else ([replacement], none)
  | some lead, octet =>
    match pair? lead octet with
    | some character => ([character], none)
    | none => (replacement :: if isAscii octet then [asciiChar octet] else [], none)

def decoder : Decoder (Option UInt8) :=
  ⟨none, step, fun lead => if lead.isSome then [replacement] else []⟩

end Accelerometer.Encoding.ShiftJis
