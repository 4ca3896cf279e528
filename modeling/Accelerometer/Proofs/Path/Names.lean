import Accelerometer.Proofs.Text.Words
import Accelerometer.Session.File

/-!
# Names at the end of paths

* `fileName?_eq_some`: a path that ends in a name, whatever slashes and dots are around it.
* `withFileName_ends`: a path with another name at its end.
* `tracePath_ends`: the name of a filtered trace is not that of the session.
-/

namespace Accelerometer.Proofs.Path
open Accelerometer.Path Proofs.Text

variable {text name base : List Char} {pieces : List (List Char)} {path session : Path}

def namesIn (text : List Char) : List (List Char) :=
  (text.splitOn '/').filter fun piece => !piece.isEmpty

def Ends (text name : List Char) : Prop :=
  (namesIn text).getLast? = some name

theorem namesIn_append_slash (before after : List Char) :
    namesIn (before ++ '/' :: after) = namesIn before ++ namesIn after := by
  simp only [namesIn, List.splitOn_eq_splitOnP]
  rw [List.splitOnP_append_cons before after (by simp), List.filter_append]

theorem namesIn_slash (after : List Char) : namesIn ('/' :: after) = namesIn after :=
  namesIn_append_slash [] after

theorem namesIn_plain (plain : '/' ∉ name) (nonempty : name ≠ []) : namesIn name = [name] := by
  simp [namesIn, List.splitOn_eq_singleton plain, nonempty]

def Open (text : List Char) : Prop :=
  text = [] ∨ text.getLast? = some '/'

theorem open_iff : (text.isEmpty || text.getLast? == some '/') = true ↔ Open text := by
  simp [Open]

theorem namesIn_append (opened : Open text) (plain : '/' ∉ name) (nonempty : name ≠ []) :
    namesIn (text ++ name) = namesIn text ++ [name] := by
  rcases opened with rfl | slash
  · exact namesIn_plain plain nonempty
  · obtain ⟨before, rfl⟩ := List.getLast?_eq_some_iff.mp slash
    have nothing : namesIn [] = [] := rfl
    rw [List.append_assoc, List.singleton_append, namesIn_append_slash, namesIn_append_slash,
      namesIn_plain plain nonempty, nothing, List.append_nil]

theorem Ends.plain (ends : Ends text name) : '/' ∉ name := by
  have member : name ∈ namesIn text := List.mem_of_getLast? ends
  obtain ⟨piece, -⟩ := List.mem_filter.mp member
  rw [List.splitOn_eq_splitOnP] at piece
  intro slash
  have other := not_mem_of_mem_splitOnP piece '/' slash
  simp at other

/-! ## The name of a file -/

theorem dropWhile_isVoid (ends : (pieces.filter fun piece => !piece.isEmpty).head? = some name)
    (proper : name ≠ ['.']) : ∃ others, pieces.dropWhile isVoid = name :: others := by
  induction pieces with
  | nil => cases ends
  | cons piece pieces ih =>
      by_cases empty : piece = []
      · subst empty
        exact ih ends
      · have first : piece = name := by simpa [empty] using ends
        subst first
        exact ⟨pieces, List.dropWhile_cons_of_neg (by simp [isVoid, empty, proper])⟩

theorem ends_drop_front (ends : Ends text name) (proper : name ≠ ['.']) :
    Ends (text.drop (front text).length) name := by
  unfold Ends at ends ⊢
  unfold front
  split
  · rwa [namesIn_slash] at ends
  · rw [namesIn_plain (by simp) (by simp)] at ends
    exact absurd (Option.some.inj ends).symm proper
  · rename_i rest
    have split : namesIn ('.' :: '/' :: rest) = [['.']] ++ namesIn rest := by
      rw [← namesIn_plain (by simp) (by simp : ['.'] ≠ []), ← namesIn_append_slash]
      rfl
    rw [split, List.getLast?_append] at ends
    change (namesIn ('/' :: rest)).getLast? = some name
    rw [namesIn_slash]
    cases last : (namesIn rest).getLast? with
    | none =>
        rw [last] at ends
        exact absurd (Option.some.inj ends).symm proper
    | some other => rwa [last] at ends
  · exact ends

theorem piecesFromEnd_ends (ends : Ends text name) (dot : name ≠ ['.']) :
    ∃ others, piecesFromEnd text = name :: others := by
  have last := ends_drop_front ends dot
  rw [Ends, namesIn, ← List.head?_reverse, ← List.filter_reverse] at last
  exact dropWhile_isVoid last dot

theorem fileName?_eq_some (ends : Ends path.text.toList name) (dot : name ≠ ['.'])
    (dots : name ≠ ['.', '.']) : path.fileName? = some name := by
  obtain ⟨others, split⟩ := piecesFromEnd_ends ends dot
  rw [fileName?, split]
  exact if_neg dots

/-! ## Another name -/

theorem namesIn_below (base : List Char) (plain : '/' ∉ name) (nonempty : name ≠ []) :
    namesIn (below base name) = namesIn base ++ [name] := by
  unfold below
  split
  · rename_i opened
    exact namesIn_append (open_iff.mp opened) plain nonempty
  · rw [namesIn_append_slash, namesIn_plain plain nonempty]

theorem below_ends (base : List Char) (plain : '/' ∉ name) (nonempty : name ≠ []) :
    Ends (below base name) name := by
  rw [Ends, namesIn_below base plain nonempty, List.getLast?_concat]

theorem below_head? (base : List Char) (plain : '/' ∉ name) :
    (below base name).head? = some '/' ↔ base.head? = some '/' := by
  cases base with
  | nil =>
      cases name with
      | nil => exact Iff.rfl
      | cons c name =>
          have other : c ≠ '/' := fun slash => plain (slash ▸ List.mem_cons_self)
          simp [below, other]
  | cons c base =>
      unfold below
      split <;> simp

theorem join_plain (base : Path) {relative : String} (plain : '/' ∉ relative.toList) :
    base.join relative = ⟨.ofList (below base.text.toList relative.toList)⟩ := by
  have noFront : relative.startsWith "/" = false := by
    rw [String.startsWith_string_eq_false_iff]
    rintro ⟨rest, split⟩
    exact plain (split ▸ List.mem_cons_self)
  rw [join, noFront]
  rfl

theorem withFileName_ends (path : Path) (plain : '/' ∉ name) (nonempty : name ≠ []) :
    Ends (path.withFileName name).text.toList name := by
  unfold withFileName
  rw [String.toList_ofList]
  exact below_ends _ plain nonempty

theorem stem_prefix (name : List Char) :
    stem name = name ∨ ∃ extension, name = stem name ++ '.' :: extension := by
  unfold stem
  simp only
  split
  · exact .inl rfl
  · rename_i nonempty
    right
    refine ⟨(name.reverse.takeWhile (· != '.')).reverse, ?_⟩
    have split := List.takeWhile_append_dropWhile (p := (· != '.')) (l := name.reverse)
    cases kept : name.reverse.dropWhile (· != '.') with
    | nil => simp [kept] at nonempty
    | cons dot before =>
        have isDot : dot = '.' := by
          have stops := List.head?_dropWhile_not (· != '.') name.reverse
          rw [kept] at stops
          simpa using stops
        rw [kept, isDot] at split
        have whole := congrArg List.reverse split
        simpa using whole.symm

theorem stem_extension (nonempty : name ≠ []) {extension : List Char} (noDot : '.' ∉ extension) :
    stem (name ++ '.' :: extension) = name := by
  have none : ∀ c ∈ extension.reverse, (c != '.') = true := by
    intro c member
    exact bne_iff_ne.mpr fun dot => noDot (dot ▸ List.mem_reverse.mp member)
  have beforeDot : ((name ++ '.' :: extension).reverse.dropWhile (· != '.')).drop 1 = name.reverse := by
    rw [List.reverse_append, List.reverse_cons, List.append_assoc, List.singleton_append,
      List.dropWhile_append_of_pos none]
    rfl
  rw [stem, beforeDot]
  simp [nonempty]

theorem stem_plain (plain : '/' ∉ name) : '/' ∉ stem name := by
  rcases stem_prefix name with whole | ⟨extension, split⟩
  · rwa [whole]
  · intro slash
    apply plain
    rw [split]
    exact List.mem_append_left _ slash

/-! ## The name of a filtered trace -/

def traceName (name : List Char) : List Char :=
  stem name ++ "_filtered.csv".toList

theorem traceName_ne (name : List Char) : traceName name ≠ name := by
  intro same
  rcases stem_prefix name with whole | ⟨extension, split⟩
  · rw [traceName, whole] at same
    have longer := congrArg List.length same
    simp at longer
  · rw [traceName] at same
    -- an underscore stands where the dot was
    have suffix := List.append_cancel_left (same.trans split)
    simp at suffix

theorem traceName_length (name : List Char) : 13 ≤ (traceName name).length := by
  rw [traceName, List.length_append]
  exact Nat.le_add_left ..

theorem traceName_plain (plain : '/' ∉ name) : '/' ∉ traceName name := by
  intro slash
  rcases List.mem_append.mp slash with stem | suffix
  · exact stem_plain plain stem
  · simp at suffix

theorem tracePath_eq (ends : Ends session.text.toList name) (dot : name ≠ ['.'])
    (dots : name ≠ ['.', '.']) : tracePath session = session.withFileName (traceName name) := by
  rw [tracePath, fileName?_eq_some ends dot dots]
  rfl

theorem tracePath_ends (ends : Ends session.text.toList name) (dot : name ≠ ['.'])
    (dots : name ≠ ['.', '.']) : Ends (tracePath session).text.toList (traceName name) := by
  rw [tracePath_eq ends dot dots]
  apply withFileName_ends
  · exact traceName_plain ends.plain
  · simp [traceName]

end Accelerometer.Proofs.Path
