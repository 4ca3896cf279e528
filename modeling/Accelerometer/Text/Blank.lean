/-!
# Blank characters

Which characters count as blank, and the two ways in which a text is cut at them: `trim` drops them
from both ends, and `words` keeps the pieces between them.
-/

namespace Accelerometer.Text

def isBlank (c : Char) : Bool :=
  let code := c.toNat
  (0x9 ≤ code && code ≤ 0xD) || code == 0x20 || code == 0x85 || code == 0xA0 || code == 0x1680 ||
    (0x2000 ≤ code && code ≤ 0x200A) || code == 0x2028 || code == 0x2029 || code == 0x202F ||
    code == 0x205F || code == 0x3000

def dropEndWhile (p : Char → Bool) (text : List Char) : List Char :=
  (text.reverse.dropWhile p).reverse

def trim (text : List Char) : List Char :=
  dropEndWhile isBlank (text.dropWhile isBlank)

def words (text : List Char) : List (List Char) :=
  (text.splitOnP isBlank).filter fun piece => !piece.isEmpty

def trimmed (text : String) : String :=
  .ofList (trim text.toList)

end Accelerometer.Text
