import Accelerometer.Encoding.Decoder
import Accelerometer.Encoding.Gb18030.Table

/-!
# GB 18030

The decoder of GB 18030, which also reads GBK and GB 2312: characters of one, two or four octets. A
fault takes only the octets that can stand for nothing else; an ASCII octet in a broken sequence is
read again by itself.
-/

namespace Accelerometer.Encoding.Gb18030

inductive State
  | start
  | first (octet : UInt8)
  | second (first second : UInt8)
  | third (first second third : UInt8)
  deriving DecidableEq, Repr

def isLead (octet : UInt8) : Bool :=
  0x81 ≤ octet && octet ≤ 0xFE

def isDigit (octet : UInt8) : Bool :=
  0x30 ≤ octet && octet ≤ 0x39

def pair? (lead trail : UInt8) : Option Char := do
  let column ←
    if 0x40 ≤ trail ∧ trail ≤ 0x7E then some (trail.toNat - 0x40)
    else if 0x80 ≤ trail ∧ trail ≤ 0xFE then some (trail.toNat - 0x41)
    else none
  let row ← rows[lead.toNat - 0x81]?
  let character ← row.toList[column]?
  if 0x80 ≤ character.toNat then some character else none

def place (first second third fourth : UInt8) : Nat :=
  (((first.toNat - 0x81) * 10 + (second.toNat - 0x30)) * 126 + (third.toNat - 0x81)) * 10 +
    (fourth.toNat - 0x30)

def firstPlane (place : Nat) : Nat :=
  match (ranges.takeWhile fun range => range.1 ≤ place).getLast? with
  | some (start, character) => character + (place - start)
  | none => 0x80 + place

def lastOfFirstPlane : Nat := 39419

def beyondFirstPlane : Nat := 189000

def quadruple? (first second third fourth : UInt8) : Option Char :=
  let place := place first second third fourth
  let code :=
    if place ≤ lastOfFirstPlane then some (firstPlane place)
    else if beyondFirstPlane ≤ place ∧ place < beyondFirstPlane + 0x100000 then
      some (0x10000 + (place - beyondFirstPlane))
    else none
  code.bind fun code => if 0x80 ≤ code then some (Char.ofNat code) else none

def stepStart (octet : UInt8) : List Char × State :=
  if isAscii octet then ([asciiChar octet], .start)
  else if octet = 0x80 then (['€'], .start)
  else if isLead octet then ([], .first octet)
  else ([replacement], .start)

def stepFirst (lead octet : UInt8) : List Char × State :=
  if isDigit octet then ([], .second lead octet)
  else match pair? lead octet with
    | some character => ([character], .start)
    | none =>
      if isAscii octet then ([replacement, asciiChar octet], .start)
      else ([replacement], .start)

def step : State → UInt8 → List Char × State
  | .start, octet => stepStart octet
  | .first lead, octet => stepFirst lead octet
  | .second first second, octet =>
    if isLead octet then ([], .third first second octet)
    else
      let (characters, next) := stepStart octet
      (replacement :: asciiChar second :: characters, next)
  | .third first second third, octet =>
    if isDigit octet then
      ([(quadruple? first second third octet).getD replacement], .start)
    else
      let (characters, next) := stepFirst third octet
      (replacement :: asciiChar second :: characters, next)

def finish : State → List Char
  | .start => []
  | _ => [replacement]

def decoder : Decoder State :=
  ⟨.start, step, finish⟩

end Accelerometer.Encoding.Gb18030
