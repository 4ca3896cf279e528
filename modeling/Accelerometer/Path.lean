/-!
# Paths

Paths as texts: the name at the end, its stem, and the paths beside and below a given one. Slashes
separate; empty pieces and single dots after the front do not count.
-/

namespace Accelerometer

structure Path where
  text : String
  deriving DecidableEq, Repr

namespace Path

def isVoid (piece : List Char) : Bool :=
  piece = [] || piece = ['.']

def front : List Char → List Char
  | '/' :: _ => ['/']
  | ['.'] => ['.']
  | '.' :: '/' :: _ => ['.']
  | _ => []

def piecesFromEnd (text : List Char) : List (List Char) :=
  ((text.drop (front text).length).splitOn '/').reverse.dropWhile isVoid

def fileName? (path : Path) : Option (List Char) :=
  match piecesFromEnd path.text.toList with
  | name :: _ => if name = ['.', '.'] then none else some name
  | [] => none

/-- A file name without its extension: what stands before the last dot, unless nothing does. -/
def stem (name : List Char) : List Char :=
  let beforeDot := (name.reverse.dropWhile (· != '.')).drop 1
  if beforeDot.isEmpty then name else beforeDot.reverse

def parentText (text : List Char) : List Char :=
  let kept := ((piecesFromEnd text).drop 1).dropWhile isVoid
  front text ++ ['/'].intercalate kept.reverse

def below (base name : List Char) : List Char :=
  if base.isEmpty || base.getLast? == some '/' then base ++ name else base ++ '/' :: name

def join (base : Path) (relative : String) : Path :=
  if relative.startsWith "/" then ⟨relative⟩
  else ⟨.ofList (below base.text.toList relative.toList)⟩

def withFileName (path : Path) (name : List Char) : Path :=
  let text := path.text.toList
  let base := if path.fileName?.isSome then parentText text else text
  ⟨.ofList (below base name)⟩

end Path

end Accelerometer
