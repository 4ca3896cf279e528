/-!
# Lines

How a text that is already decoded falls into lines, and how the terminator of one line is taken
off.
-/

namespace Accelerometer.Text

def isLineEnd (c : Char) : Bool :=
  c == '\r' || c == '\n'

def dropReturn (line : List Char) : List Char :=
  if line.getLast? = some '\r' then line.dropLast else line

/--
The lines of a text. A line feed ends a line and is no part of it, nor is a carriage return right
before it. What follows the last line feed is a line if it is not empty, and keeps its carriage
return.
-/
def lines (text : List Char) : List (List Char) :=
  let pieces := text.splitOn '\n'
  let ended := pieces.dropLast.map dropReturn
  match pieces.getLast? with
  | some (c :: rest) => ended ++ [c :: rest]
  | _ => ended

end Accelerometer.Text
