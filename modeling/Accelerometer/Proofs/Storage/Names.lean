import Accelerometer.Proofs.Path.Equivalence
import Accelerometer.Proofs.Storage.Places

/-!
# Names and places

* `placeOf_ends`: the name at the end of a path is that of its place.
* `placeOf_join`: a name below a directory is at a place in that directory.
* `placeOf_equivalent`: texts of the same path name the same place.
-/

namespace Accelerometer.Proofs.Storage
open Accelerometer.Storage Proofs.Path

variable {storage : Storage} {path : Path} {name : List Char}

theorem names_eq (path : Path) : names path = (namesIn path.text.toList).map String.ofList :=
  rfl

theorem names_getLast? : (names path).getLast? = some (String.ofList name) ↔
    Ends path.text.toList name := by
  rw [names_eq, List.getLast?_map, Ends]
  cases (namesIn path.text.toList).getLast? with
  | none => simp
  | some last => simp [String.ofList_inj]

theorem placeOf_ends (ends : Ends path.text.toList name) (dot : name ≠ ['.']) (dots : name ≠ ['.', '.']) :
    (placeOf storage path).getLast? = some (String.ofList name) := by
  have proper : ¬(String.ofList name = "." ∨ String.ofList name = "..") := by
    rintro (same | same)
    · exact dot (String.ofList_injective same)
    · exact dots (String.ofList_injective same)
  rw [placeOf_name (names_getLast?.mpr ends) proper, List.getLast?_concat]

theorem placeOf_join (storage : Storage) (directory : Path) {name : String} (plain : '/' ∉ name.toList)
    (nonempty : name ≠ "") (proper : ¬(name = "." ∨ name = "..")) :
    placeOf storage (directory.join name) = placeOf storage directory ++ [name] := by
  have some : name.toList ≠ [] := fun empty => nonempty (String.toList_injective empty)
  have begins : storage.start (directory.join name) = storage.start directory := by
    rw [join_plain directory plain, start, start, String.toList_ofList]
    simp only [below_head? _ plain]
  have further : names (directory.join name) = names directory ++ [name] := by
    rw [join_plain directory plain, names_eq, names_eq, String.toList_ofList, namesIn_below _ plain some,
      List.map_append, List.map_singleton, String.ofList_toList]
  rw [placeOf, placeOf, begins, further, List.foldl_append]
  exact descend_name proper

theorem foldl_descend_steps (here : Location) (text : List Char) :
    ((namesIn text).map String.ofList).foldl descend here =
      ((steps text).map String.ofList).foldl descend here := by
  rw [steps_namesIn]
  induction namesIn text generalizing here with
  | nil => rfl
  | cons piece pieces ih =>
      by_cases dot : piece = ['.']
      · subst dot
        exact ih here
      · simpa [List.filter_cons, dot] using ih _

theorem placeOf_equivalent {other : Path} (storage : Storage) (same : Equivalent path other) :
    placeOf storage path = placeOf storage other := by
  have begins : storage.start path = storage.start other := by
    rw [start, start]
    simp only [← front_eq_slash, same.front]
  rw [placeOf, placeOf, begins, names_eq, names_eq, foldl_descend_steps, foldl_descend_steps, same.steps]

end Accelerometer.Proofs.Storage
