import Accelerometer.Encoding.Decoder

/-!
# UTF-8

The decoder of UTF-8. A sequence ends at the first octet that cannot continue it; that octet is then
read as the first of the next one.
-/

namespace Accelerometer.Encoding.Utf8

inductive State
  /-- Between two characters. -/
  | start
  /-- Inside a character: its bits so far, the octets that follow after the next one, and the least
  and greatest that the next one may be. -/
  | inside (bits : Nat) (following : Nat) (least greatest : UInt8)
  deriving DecidableEq, Repr

def first (octet : UInt8) : List Char × State :=
  let bits := octet.toNat
  if isAscii octet then ([asciiChar octet], .start)
  else if 0xC2 ≤ octet ∧ octet ≤ 0xDF then ([], .inside (bits - 0xC0) 0 0x80 0xBF)
  else if octet = 0xE0 then ([], .inside (bits - 0xE0) 1 0xA0 0xBF)
  else if octet = 0xED then ([], .inside (bits - 0xE0) 1 0x80 0x9F)
  else if 0xE1 ≤ octet ∧ octet ≤ 0xEF then ([], .inside (bits - 0xE0) 1 0x80 0xBF)
  else if octet = 0xF0 then ([], .inside (bits - 0xF0) 2 0x90 0xBF)
  else if 0xF1 ≤ octet ∧ octet ≤ 0xF3 then ([], .inside (bits - 0xF0) 2 0x80 0xBF)
  else if octet = 0xF4 then ([], .inside (bits - 0xF0) 2 0x80 0x8F)
  else ([replacement], .start)

def step : State → UInt8 → List Char × State
  | .start, octet => first octet
  | .inside bits following least greatest, octet =>
    if least ≤ octet ∧ octet ≤ greatest then
      let bits := bits * 0x40 + (octet.toNat - 0x80)
      match following with
      | 0 => ([Char.ofNat bits], .start)
      | following + 1 => ([], .inside bits following 0x80 0xBF)
    else
      let (characters, next) := first octet
      (replacement :: characters, next)

def finish : State → List Char
  | .start => []
  | .inside .. => [replacement]

def decoder : Decoder State :=
  ⟨.start, step, finish⟩

end Accelerometer.Encoding.Utf8
