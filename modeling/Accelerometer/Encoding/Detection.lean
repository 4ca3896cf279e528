import Accelerometer.Encoding.EucKr
import Accelerometer.Encoding.Gb18030
import Accelerometer.Encoding.ShiftJis
import Accelerometer.Encoding.Windows

/-!
# Telling encodings apart

A guess at the encoding of a text that is known not to be UTF-8. Each encoding that reads the text
without a fault is rated by the share of its non-ASCII characters that are everyday ones in it.
-/

namespace Accelerometer.Encoding

inductive Charset
  | eucKr
  | shiftJis
  | gb18030
  | cyrillic
  | western
  deriving DecidableEq, Repr

namespace Charset

def decode : Charset → List UInt8 → List Char
  | .eucKr => EucKr.decoder.run
  | .shiftJis => ShiftJis.decoder.run
  | .gb18030 => Gb18030.decoder.run
  | .cyrillic => (Windows.decoder Windows.cyrillic).run
  | .western => (Windows.decoder Windows.western).run

def isAlone : Charset → UInt8 → Bool
  | .shiftJis, octet => 0xA0 ≤ octet && octet ≤ 0xDF
  | .cyrillic, _ | .western, _ => true
  | _, _ => false

def characters (charset : Charset) : List UInt8 → List (UInt8 × Option UInt8)
  | [] => []
  | [octet] => if isAscii octet then [] else [(octet, none)]
  | first :: second :: rest =>
    if isAscii first then characters charset (second :: rest)
    else if charset.isAlone first then (first, none) :: characters charset (second :: rest)
    else (first, some second) :: characters charset rest

def isCommonPair : Charset → UInt8 → UInt8 → Bool
  | .eucKr, first, second =>
    ((0xA1 ≤ first && first ≤ 0xA3) || (0xB0 ≤ first && first ≤ 0xC8)) && 0xA1 ≤ second
  | .gb18030, first, second =>
    ((0xA1 ≤ first && first ≤ 0xA3) || (0xB0 ≤ first && first ≤ 0xD7)) && 0xA1 ≤ second
  | .shiftJis, first, _ => (0x81 ≤ first && first ≤ 0x83) || (0x88 ≤ first && first ≤ 0x98)
  | _, _, _ => false

def isLetter (octet : UInt8) : Bool :=
  (asciiChar octet).isAlpha || 0xC0 ≤ octet

def letterRuns (octets : List UInt8) : List (List UInt8) :=
  octets.splitOnP fun octet => !isLetter octet

def commonCount (charset : Charset) (octets : List UInt8) : Nat :=
  let accented (runs : List (List UInt8)) := runs.flatten.countP fun octet => !isAscii octet
  match charset with
  | .cyrillic => accented ((letterRuns octets).filter fun run => !run.any isAscii)
  | .western => accented ((letterRuns octets).filter fun run => run.any isAscii)
  | charset =>
    (charset.characters octets).countP fun
      | (first, some second) => charset.isCommonPair first second
      | (_, none) => false

def rating (charset : Charset) (octets : List UInt8) : Nat :=
  if (charset.decode octets).any (· == replacement) then 0
  else 1000 * charset.commonCount octets / (charset.characters octets).length

/-- The best rated encoding. The one with fewer everyday characters comes first among equals, and
the western code page stands for a text that none of them explains. -/
def guess (octets : List UInt8) : Charset :=
  let candidates := [.eucKr, .shiftJis, .gb18030, .cyrillic, .western]
  (candidates.foldl
    (fun best charset =>
      let rating := charset.rating octets
      if best.2 < rating then (charset, rating) else best)
    (Charset.western, 0)).1

end Charset

end Accelerometer.Encoding
