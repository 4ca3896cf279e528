import Accelerometer.Encoding.Detection
import Accelerometer.Encoding.Utf16
import Accelerometer.Encoding.Utf8
import Accelerometer.Text.Blank
import Accelerometer.Text.Lines

/-!
# Text encodings

The encodings a line can be sent in: their names, the width of a code unit, and decoding. Decoding
never fails.
-/

namespace Accelerometer

/-- The encodings to choose from. `auto` is UTF-8 where that is possible, else a guess. -/
inductive Encoding
  | auto
  | utf8
  | utf16
  | ascii
  | gbk
  | gb2312
  deriving DecidableEq, Repr

structure NoSuchEncoding where
  name : String
  deriving DecidableEq, Repr

def NoSuchEncoding.message (unknown : NoSuchEncoding) : String :=
  "unknown text encoding `" ++ unknown.name ++
    "` (expected one of Auto, UTF-8, UTF-16, ASCII, GBK, GB2312)"

inductive CodeUnit
  | octet
  | pair
  deriving DecidableEq, Repr

def CodeUnit.width : CodeUnit → Nat
  | .octet => 1
  | .pair => 2

namespace Encoding

def name : Encoding → String
  | .auto => "Auto"
  | .utf8 => "UTF-8"
  | .utf16 => "UTF-16"
  | .ascii => "ASCII"
  | .gbk => "GBK"
  | .gb2312 => "GB2312"

def ofName (name : String) : Except NoSuchEncoding Encoding :=
  match String.ofList ((Text.trim name.toList).map Char.toUpper) with
  | "AUTO" => .ok .auto
  | "UTF-8" | "UTF8" => .ok .utf8
  | "UTF-16" | "UTF16" => .ok .utf16
  | "ASCII" => .ok .ascii
  | "GBK" => .ok .gbk
  | "GB2312" => .ok .gb2312
  | _ => .error ⟨name⟩

def unit : Encoding → CodeUnit
  | .utf16 => .pair
  | _ => .octet

/-- Decodes by the byte-order mark at the front, which is taken off; without one by `otherwise`. -/
def decodeMarked (otherwise : List UInt8 → List Char) : List UInt8 → List Char
  | 0xEF :: 0xBB :: 0xBF :: rest => Utf8.decoder.run rest
  | 0xFF :: 0xFE :: rest => (Utf16.decoder .littleEndian).run rest
  | 0xFE :: 0xFF :: rest => (Utf16.decoder .bigEndian).run rest
  | octets => otherwise octets

def asciiOrQuestion (octet : UInt8) : Char :=
  if isAscii octet then asciiChar octet else '?'

def isUtf8 (octets : List UInt8) : Bool :=
  octets.toByteArray.validateUTF8

def decode (encoding : Encoding) (octets : List UInt8) : List Char :=
  match encoding with
  | .auto =>
    if isUtf8 octets then Utf8.decoder.run octets
    else decodeMarked (Charset.guess octets).decode octets
  | .utf8 => Utf8.decoder.run octets
  | .utf16 => decodeMarked (Utf16.decoder .littleEndian).run octets
  | .ascii => octets.map asciiOrQuestion
  | .gbk | .gb2312 => decodeMarked Gb18030.decoder.run octets

def lineText (encoding : Encoding) (octets : List UInt8) : List Char :=
  Text.dropEndWhile Text.isLineEnd (encoding.decode octets)

end Encoding

end Accelerometer
