import Accelerometer.Proofs.Path.Names
import Mathlib.Data.List.DropRight
import Mathlib.Tactic.SplitIfs

/-!
# Texts of the same path

Two texts are the same path if they have the same front and go through the same names: slashes in a row,
a slash at the end and single dots after the front do not count.

* `steps_append`, `front_append`: a text with a name at its end.
* `front_parentText`, `steps_parentText`: what is above a name.
* `front_below`, `steps_below`, `withFileName_text`: another name in its place.
-/

namespace Accelerometer.Proofs.Path
open Accelerometer.Path

variable {text name before : List Char} {kept : List (List Char)} {path other : Path}

def steps (text : List Char) : List (List Char) :=
  (text.splitOn '/').filter fun piece => !isVoid piece

structure Equivalent (path other : Path) : Prop where
  front : front path.text.toList = front other.text.toList
  steps : steps path.text.toList = steps other.text.toList

theorem Equivalent.symm (same : Equivalent path other) : Equivalent other path :=
  ⟨same.front.symm, same.steps.symm⟩

theorem Equivalent.trans {third : Path} (same : Equivalent path other) (same' : Equivalent other third) :
    Equivalent path third :=
  ⟨same.front.trans same'.front, same.steps.trans same'.steps⟩

/-! ## Names at the end -/

theorem steps_namesIn (text : List Char) : steps text = (namesIn text).filter (· ≠ ['.']) := by
  rw [namesIn, List.filter_filter, steps]
  congr 1
  funext piece
  cases piece <;> simp [isVoid]

theorem front_eq (text : List Char) : front text =
    if text.head? = some '/' then ['/']
    else if text.takeWhile (· != '/') = ['.'] then ['.'] else [] := by
  unfold front
  split
  · rfl
  · rfl
  · simp
  · rename_i noSlash noDot noDotSlash
    cases text with
    | nil => rfl
    | cons c rest =>
        have slash : c ≠ '/' := fun same => noSlash rest (same ▸ rfl)
        have noPiece : (c :: rest).takeWhile (· != '/') ≠ ['.'] := by
          intro piece
          obtain ⟨rfl, nothing⟩ : c = '.' ∧ rest.takeWhile (· != '/') = [] := by
            simpa [slash] using piece
          cases rest with
          | nil => exact noDot rfl
          | cons d rest =>
              obtain rfl : d = '/' := by simpa [List.takeWhile_cons] using nothing
              exact noDotSlash rest rfl
        rw [List.head?_cons, if_neg (by simpa using slash), if_neg noPiece]

theorem front_eq_slash : front text = ['/'] ↔ text.head? = some '/' := by
  rw [front_eq]
  split_ifs with slash <;> simp [slash]

theorem piece_slash (before rest : List Char) :
    (before ++ '/' :: rest).takeWhile (· != '/') = before.takeWhile (· != '/') := by
  induction before with
  | nil => rfl
  | cons c before ih => simp [List.takeWhile_cons, ih]

theorem front_cut (nonempty : before ≠ []) (rest : List Char) :
    front (before ++ '/' :: rest) = front before := by
  rw [front_eq, front_eq, piece_slash, List.head?_append_of_ne_nil _ nonempty]

theorem front_slash (before rest rest' : List Char) :
    front (before ++ '/' :: rest) = front (before ++ '/' :: rest') := by
  cases before with
  | nil => rfl
  | cons c before => rw [front_cut (List.cons_ne_nil _ _), front_cut (List.cons_ne_nil _ _)]

theorem front_plain (plain : '/' ∉ name) (dot : name ≠ ['.']) : front name = [] := by
  have noSlash : name.head? ≠ some '/' := fun slash => plain (List.mem_of_head? slash)
  have whole : name.takeWhile (· != '/') = name := by
    rw [List.takeWhile_eq_self_iff]
    intro c member
    exact bne_iff_ne.mpr fun same => plain (same ▸ member)
  rw [front_eq, if_neg noSlash, whole, if_neg dot]

theorem front_append (opened : Open before) (plain : '/' ∉ name) (solid : isVoid name = false) :
    front (before ++ name) = front before := by
  rcases opened with rfl | slash
  · refine front_plain plain ?_
    rintro rfl
    cases solid
  · obtain ⟨before, rfl⟩ := List.getLast?_eq_some_iff.mp slash
    rw [List.append_assoc, List.singleton_append]
    exact front_slash before name []

theorem steps_append_slash (before after : List Char) :
    steps (before ++ '/' :: after) = steps before ++ steps after := by
  rw [steps, List.splitOn_append_cons_self, List.filter_append]
  rfl

theorem steps_plain (plain : '/' ∉ name) (solid : isVoid name = false) : steps name = [name] := by
  simp [steps, List.splitOn_eq_singleton plain, solid]

theorem steps_append (opened : Open before) (plain : '/' ∉ name) (solid : isVoid name = false) :
    steps (before ++ name) = steps before ++ [name] := by
  rcases opened with rfl | slash
  · exact steps_plain plain solid
  · obtain ⟨before, rfl⟩ := List.getLast?_eq_some_iff.mp slash
    have nothing : steps [] = [] := rfl
    rw [List.append_assoc, List.singleton_append, steps_append_slash, steps_append_slash,
      steps_plain plain solid, nothing, List.append_nil]

/-! ## What is above a name -/

def behindFront (text : List Char) : List Char :=
  text.drop (front text).length

theorem front_behindFront (text : List Char) : front text ++ behindFront text = text := by
  unfold behindFront front
  split <;> rfl

theorem front_front (text : List Char) : front (front text) = front text := by
  rw [front_eq text]
  split_ifs <;> rfl

theorem steps_behindFront (text : List Char) : steps (behindFront text) = steps text := by
  unfold behindFront front
  split
  · exact (steps_append_slash [] _).symm
  · rfl
  · rename_i rest
    exact (steps_append_slash [] rest).trans (steps_append_slash ['.'] rest).symm
  · rfl

structure Begins (kept : List (List Char)) (text : List Char) : Prop where
  pieces : kept <+: (behindFront text).splitOn '/'
  solid : ∀ piece, kept.getLast? = some piece → isVoid piece = false

theorem intercalate_append (first second : List (List Char)) (nonempty : first ≠ [])
    (more : second ≠ []) : ['/'].intercalate (first ++ second) =
      ['/'].intercalate first ++ '/' :: ['/'].intercalate second := by
  induction first with
  | nil => exact absurd rfl nonempty
  | cons piece first ih =>
      by_cases last : first = []
      · subst last
        rw [List.singleton_append, List.intercalate_cons_of_ne_nil more, List.intercalate_singleton]
        simp
      · rw [List.cons_append, List.intercalate_cons_of_ne_nil (by simp [last]), ih last,
          List.intercalate_cons_of_ne_nil last]
        simp

theorem begins_text (begins : Begins kept text) (nonempty : kept ≠ []) :
    ∃ rest, text = front text ++ ['/'].intercalate kept ++ rest ∧
      (rest = [] ∨ ∃ others, rest = '/' :: others) := by
  obtain ⟨others, split⟩ := begins.pieces
  have whole : ['/'].intercalate ((behindFront text).splitOn '/') = behindFront text :=
    List.intercalate_splitOn '/'
  rw [← split] at whole
  by_cases last : others = []
  · rw [last, List.append_nil] at whole
    exact ⟨[], by rw [whole, List.append_nil, front_behindFront], .inl rfl⟩
  · rw [intercalate_append _ _ nonempty last] at whole
    exact ⟨_, by rw [List.append_assoc, whole, front_behindFront], .inr ⟨_, rfl⟩⟩

theorem intercalate_ne_nil (begins : Begins kept text) (nonempty : kept ≠ []) :
    ['/'].intercalate kept ≠ [] := by
  match kept with
  | [] => exact absurd rfl nonempty
  | [piece] =>
      have solid := begins.solid piece rfl
      rw [List.intercalate_singleton]
      rintro rfl
      cases solid
  | piece :: next :: others => simp [List.intercalate_cons_cons]

theorem front_rebuilt (begins : Begins kept text) :
    front (front text ++ ['/'].intercalate kept) = front text := by
  by_cases nothing : kept = []
  · rw [nothing]
    exact (congrArg front (List.append_nil _)).trans (front_front text)
  · obtain ⟨rest, split, stops⟩ := begins_text begins nothing
    conv_rhs => rw [split]
    rcases stops with rfl | ⟨others, rfl⟩
    · rw [List.append_nil]
    · rw [front_cut]
      exact List.append_ne_nil_of_right_ne_nil _ (intercalate_ne_nil begins nothing)

theorem steps_rebuilt (begins : Begins kept text) :
    steps (front text ++ ['/'].intercalate kept) = kept.filter fun piece => !isVoid piece := by
  rw [← steps_behindFront, behindFront, front_rebuilt begins, List.drop_left, steps]
  by_cases nothing : kept = []
  · rw [nothing]
    rfl
  · have plain : ∀ piece ∈ kept, '/' ∉ piece := by
      intro piece member slash
      have piece := begins.pieces.mem member
      rw [List.splitOn_eq_splitOnP] at piece
      have other := Text.not_mem_of_mem_splitOnP piece '/' slash
      simp at other
    rw [List.splitOn_intercalate '/' plain nothing]

def keptPieces (text : List Char) : List (List Char) :=
  (((piecesFromEnd text).drop 1).dropWhile isVoid).reverse

theorem keptPieces_begins (text : List Char) : Begins (keptPieces text) text := by
  constructor
  · rw [← List.reverse_suffix, keptPieces, List.reverse_reverse]
    exact (List.dropWhile_suffix _).trans ((List.drop_suffix 1 _).trans (List.dropWhile_suffix _))
  · intro piece last
    have stops := List.head?_dropWhile_not isVoid ((piecesFromEnd text).drop 1)
    rw [keptPieces, List.getLast?_reverse] at last
    rwa [last] at stops

theorem parentText_eq (text : List Char) :
    parentText text = front text ++ ['/'].intercalate (keptPieces text) :=
  rfl

theorem front_parentText (text : List Char) : front (parentText text) = front text :=
  front_rebuilt (keptPieces_begins text)

theorem filter_dropWhile_isVoid (pieces : List (List Char)) :
    (pieces.dropWhile isVoid).filter (fun piece => !isVoid piece) =
      pieces.filter fun piece => !isVoid piece := by
  induction pieces with
  | nil => rfl
  | cons piece pieces ih =>
      cases void : isVoid piece with
      | true => simpa [List.dropWhile_cons, void] using ih
      | false => simp [void]

theorem steps_piecesFromEnd (text : List Char) :
    steps text = ((piecesFromEnd text).filter fun piece => !isVoid piece).reverse := by
  rw [piecesFromEnd, filter_dropWhile_isVoid, List.filter_reverse, List.reverse_reverse]
  exact (steps_behindFront text).symm

theorem solid_of_ends (ends : Ends text name) (dot : name ≠ ['.']) : isVoid name = false := by
  have nonempty : name ≠ [] := by
    have member := List.mem_filter.mp (List.mem_of_getLast? ends)
    simpa using member.2
  simp [isVoid, nonempty, dot]

theorem steps_parentText (ends : Ends text name) (dot : name ≠ ['.']) :
    steps text = steps (parentText text) ++ [name] := by
  obtain ⟨others, split⟩ := piecesFromEnd_ends ends dot
  rw [steps_piecesFromEnd, parentText_eq, steps_rebuilt (keptPieces_begins text), keptPieces, split,
    List.drop_one, List.tail_cons, List.filter_reverse, filter_dropWhile_isVoid, List.filter_cons_of_pos,
    List.reverse_cons]
  simp [solid_of_ends ends dot]

/-! ## Another name -/

theorem front_below (base : List Char) (plain : '/' ∉ name) (solid : isVoid name = false) :
    front (below base name) = front base := by
  unfold below
  split
  · rename_i opened
    exact front_append (open_iff.mp opened) plain solid
  · rename_i closed
    have nonempty : base ≠ [] := fun empty => closed (open_iff.mpr (.inl empty))
    exact front_cut nonempty name

theorem steps_below (base : List Char) (plain : '/' ∉ name) (solid : isVoid name = false) :
    steps (below base name) = steps base ++ [name] := by
  unfold below
  split
  · rename_i opened
    exact steps_append (open_iff.mp opened) plain solid
  · rw [steps_append_slash, steps_plain plain solid]

variable {last : List Char}

theorem withFileName_text (ends : Ends path.text.toList last) (dot : last ≠ ['.'])
    (dots : last ≠ ['.', '.']) (name : List Char) :
    (path.withFileName name).text.toList = below (parentText path.text.toList) name := by
  rw [withFileName, fileName?_eq_some ends dot dots, String.toList_ofList]
  rfl

end Accelerometer.Proofs.Path
