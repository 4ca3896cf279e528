import Accelerometer.Encoding.Decoder
import Accelerometer.Encoding.EucKr.Table

/-!
# EUC-KR

The decoder of EUC-KR with all modern syllables: ASCII in one octet, the rest in two.
-/

namespace Accelerometer.Encoding.EucKr

def pair? (lead trail : UInt8) : Option Char := do
  if trail < 0x41 then none
  let row ← rows[lead.toNat - 0x81]?
  let character ← row.toList[trail.toNat - 0x41]?
  if character = replacement then none else some character

def step : Option UInt8 → UInt8 → List Char × Option UInt8
  | none, octet =>
    if isAscii octet then ([asciiChar octet], none)
    else if 0x81 ≤ octet ∧ octet ≤ 0xFE then ([], some octet)
    else ([replacement], none)
  | some lead, octet =>
    match pair? lead octet with
    | some character => ([character], none)
    | none => (replacement :: if isAscii octet then [asciiChar octet] else [], none)

def decoder : Decoder (Option UInt8) :=
  ⟨none, step, fun lead => if lead.isSome then [replacement] else []⟩

end Accelerometer.Encoding.EucKr
