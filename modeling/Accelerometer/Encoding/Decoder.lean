/-!
# Decoders

A decoder turns octets into characters one octet at a time. Malformed input never stops it: each
fault gives one U+FFFD.
-/

namespace Accelerometer.Encoding

def replacement : Char :=
  '\uFFFD'

/-- A machine over octets: where it starts, what one octet gives in each state, and what is left to
say when the input ends. -/
structure Decoder (σ : Type) where
  start : σ
  step : σ → UInt8 → List Char × σ
  finish : σ → List Char

namespace Decoder

variable {σ : Type} (decoder : Decoder σ)

def runFrom (state : σ) : List UInt8 → List Char
  | [] => decoder.finish state
  | octet :: rest =>
    let (characters, next) := decoder.step state octet
    characters ++ runFrom next rest

def run (octets : List UInt8) : List Char :=
  decoder.runFrom decoder.start octets

end Decoder

def isAscii (octet : UInt8) : Bool :=
  octet < 0x80

def asciiChar (octet : UInt8) : Char :=
  Char.ofNat octet.toNat

end Accelerometer.Encoding
