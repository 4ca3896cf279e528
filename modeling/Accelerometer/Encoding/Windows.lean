import Accelerometer.Encoding.Decoder

/-!
# Windows code pages

Encodings of one octet for each character: ASCII below 80, a table from there on.
-/

namespace Accelerometer.Encoding.Windows

def cyrillic : String :=
  "ЂЃ‚ѓ„…†‡€‰Љ‹ЊЌЋЏђ‘’“”•–—\u0098™љ›њќћџ\u00a0ЎўЈ¤Ґ¦§Ё©Є«¬\u00ad®Ї°±Ііґµ¶·ё№є»јЅѕїАБВГДЕЖЗИЙКЛМНОПРСТУФХЦЧШЩЪЫЬЭЮЯабвгдежзийклмнопрстуфхцчшщъыьэюя"

def western : String :=
  "€\u0081‚ƒ„…†‡ˆ‰Š‹Œ\u008dŽ\u008f\u0090‘’“”•–—˜™š›œ\u009džŸ\u00a0¡¢£¤¥¦§¨©ª«¬\u00ad®¯°±²³´µ¶·¸¹º»¼½¾¿ÀÁÂÃÄÅÆÇÈÉÊËÌÍÎÏÐÑÒÓÔÕÖ×ØÙÚÛÜÝÞßàáâãäåæçèéêëìíîïðñòóôõö÷øùúûüýþÿ"

def decoder (upper : String) : Decoder Unit where
  start := ()
  step _ octet :=
    let character :=
      if isAscii octet then asciiChar octet
      else (upper.toList[octet.toNat - 0x80]?).getD replacement
    ([character], ())
  finish _ := []

end Accelerometer.Encoding.Windows
