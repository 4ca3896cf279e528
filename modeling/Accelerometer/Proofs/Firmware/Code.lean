import Accelerometer.Proofs.Text.Words
import Mathlib.Data.List.Chain

/-!
# The code of a C text

What is left of a text for a compiler of C: lines that end in a backslash are joined to the next, and each
block comment counts as a blank.

* `Reads`: what a piece of a text gives, whatever follows it.
* `reads_comment`: a comment gives a blank, if the text in it does not close it.
* `reads_plain`, `reads_constant`: code and text constants give themselves.
* `shownLines_append`: the lines of some code, but for blank ones.
-/

namespace Accelerometer.Proofs.Firmware
open Proofs.Text

variable {c : Char} {text code body rest : List Char}

/-! ## Reading a text -/

def joinLines : List Char → List Char
  | '\\' :: '\n' :: rest => joinLines rest
  | c :: rest => c :: joinLines rest
  | [] => []

inductive Stretch
  | code
  /-- A comment between `/*` and `*/`. -/
  | comment
  /-- A comment up to the end of its line. -/
  | remark
  /-- A text or a character, up to the mark that it began with. -/
  | constant (mark : Char)

/-- A text without block comments, a blank for each of them. What opens a comment in a constant or in
another comment opens none. -/
def withoutComments : Stretch → List Char → List Char
  | _, [] => []
  | .code, '/' :: '*' :: rest => ' ' :: withoutComments .comment rest
  | .code, '/' :: '/' :: rest => '/' :: '/' :: withoutComments .remark rest
  | .code, c :: rest =>
    c :: withoutComments (if c = '"' ∨ c = '\'' then .constant c else .code) rest
  | .comment, '*' :: '/' :: rest => withoutComments .code rest
  | .comment, _ :: rest => withoutComments .comment rest
  | .remark, c :: rest => c :: withoutComments (if c = '\n' then .code else .remark) rest
  | .constant mark, '\\' :: c :: rest => '\\' :: c :: withoutComments (.constant mark) rest
  | .constant mark, c :: rest =>
    c :: withoutComments (if c = mark ∨ c = '\n' then .code else .constant mark) rest

def codeOf (text : List Char) : List Char :=
  withoutComments .code (joinLines text)

/-- A text that leaves a comment open that it stands in: no star is right before a slash. -/
def StaysInComment (text : List Char) : Prop :=
  (joinLines text).IsChain fun c next => ¬(c = '*' ∧ next = '/')

instance : DecidablePred StaysInComment := fun text =>
  inferInstanceAs (Decidable ((joinLines text).IsChain fun c next => ¬(c = '*' ∧ next = '/')))

def isPlain (c : Char) : Bool :=
  c ≠ '\\' && c ≠ '/' && c ≠ '"' && c ≠ '\''

def isInline (c : Char) : Bool :=
  isPlain c && c ≠ '\n'

/-- Where code is expected, the text gives the code and leaves what follows it to be read as code. -/
def Reads (text code : List Char) : Prop :=
  ∀ rest, codeOf (text ++ rest) = code ++ codeOf rest

/-! ## Joined lines -/

@[simp] theorem joinLines_nil : joinLines [] = [] := by
  rw [joinLines]

theorem joinLines_cons (plain : c ≠ '\\') (rest : List Char) :
    joinLines (c :: rest) = c :: joinLines rest := by
  rw [joinLines]
  simp [plain]

theorem joinLines_append (text : List Char) (noFeed : rest.head? ≠ some '\n') :
    joinLines (text ++ rest) = joinLines text ++ joinLines rest := by
  fun_induction joinLines text with
  | case1 text ih => rw [List.cons_append, List.cons_append, joinLines, ih]
  | case2 c text unjoined ih =>
      rw [List.cons_append, joinLines, ih]
      · rfl
      · intro after backslash feed
        cases text with
        | nil =>
            rw [List.nil_append] at feed
            simp [feed] at noFeed
        | cons first text =>
            rw [List.cons_append, List.cons.injEq] at feed
            exact unjoined text backslash (by rw [feed.1])
  | case3 => rfl

theorem joinLines_append_feed (text : List Char) :
    joinLines (text ++ ['\n']) <+: joinLines text ++ ['\n'] := by
  fun_induction joinLines text with
  | case1 text ih => rwa [List.cons_append, List.cons_append, joinLines]
  | case2 c text unjoined ih =>
      by_cases joined : c = '\\' ∧ text = []
      · obtain ⟨rfl, rfl⟩ := joined
        simp [joinLines]
      · rw [List.cons_append, joinLines, List.cons_append]
        · exact List.cons_prefix_cons.mpr ⟨rfl, ih⟩
        · intro after backslash feed
          cases text with
          | nil => exact joined ⟨backslash, rfl⟩
          | cons first text =>
              rw [List.cons_append, List.cons.injEq] at feed
              exact unjoined text backslash (by rw [feed.1])
  | case3 => exact List.prefix_refl _

theorem mem_joinLines (member : c ∈ joinLines text) : c ∈ text := by
  fun_induction joinLines text with
  | case1 text ih => exact List.mem_cons_of_mem _ (List.mem_cons_of_mem _ (ih member))
  | case2 first text unjoined ih =>
      rcases List.mem_cons.mp member with rfl | member
      · exact List.mem_cons_self
      · exact List.mem_cons_of_mem _ (ih member)
  | case3 => cases member

theorem joinLines_plain (plain : ∀ c ∈ text, c ≠ '\\') (rest : List Char) :
    joinLines (text ++ rest) = text ++ joinLines rest := by
  induction text with
  | nil => rfl
  | cons c text ih =>
      rw [List.cons_append, joinLines_cons (plain c List.mem_cons_self),
        ih fun other member => plain other (List.mem_cons_of_mem _ member), List.cons_append]

/-! ## Texts in comments -/

theorem stays_without_slash (noSlash : '/' ∉ text) : StaysInComment text := by
  apply List.Pairwise.isChain
  apply List.pairwise_of_forall_mem_list
  rintro c - next member ⟨-, rfl⟩
  exact noSlash (mem_joinLines member)

theorem stays_append_cons (idle : c ∉ ['\\', '\n', '*', '/']) :
    StaysInComment (text ++ c :: rest) ↔ StaysInComment text ∧ StaysInComment rest := by
  simp only [List.mem_cons, not_or] at idle
  obtain ⟨backslash, feed, star, slash, -⟩ := idle
  have joined : joinLines (text ++ c :: rest) = joinLines text ++ c :: joinLines rest := by
    rw [joinLines_append text (by simpa using feed), joinLines_cons backslash]
  rw [StaysInComment, joined, List.isChain_append, List.isChain_cons]
  constructor
  · rintro ⟨before, ⟨-, after⟩, -⟩
    exact ⟨before, after⟩
  · rintro ⟨before, after⟩
    refine ⟨before, ⟨?_, after⟩, ?_⟩
    · rintro next - ⟨same, -⟩
      exact star same
    · rintro last - next head ⟨-, rfl⟩
      exact slash (Option.some.inj head)

theorem stays_append_feed (stays : StaysInComment text) : StaysInComment (text ++ ['\n']) := by
  refine List.IsChain.prefix ?_ (joinLines_append_feed text)
  rw [List.isChain_append]
  refine ⟨stays, List.isChain_singleton _, ?_⟩
  rintro last - next head ⟨-, rfl⟩
  cases Option.some.inj head

theorem withoutComments_comment
    (stays : body.IsChain fun c next => ¬(c = '*' ∧ next = '/')) (rest : List Char) :
    withoutComments .comment (body ++ '*' :: '/' :: rest) = withoutComments .code rest := by
  induction body with
  | nil => rw [List.nil_append, withoutComments]
  | cons c body ih =>
      rw [List.isChain_cons] at stays
      rw [List.cons_append, withoutComments, ih stays.2]
      · -- the star of the closing mark may follow the last character, but its slash does not
        rintro after rfl closing
        cases body with
        | nil => cases closing
        | cons next body =>
            rw [List.cons_append, List.cons.injEq] at closing
            exact stays.1 next rfl ⟨rfl, closing.1⟩

/-! ## Pieces of a text -/

theorem Reads.append {left right leftCode rightCode : List Char} (first : Reads left leftCode)
    (second : Reads right rightCode) : Reads (left ++ right) (leftCode ++ rightCode) := by
  intro rest
  rw [List.append_assoc, first, second, List.append_assoc]

theorem reads_nil : Reads [] [] :=
  fun _ => rfl

theorem Reads.codeOf (reads : Reads text code) : codeOf text = code := by
  have alone := reads []
  rwa [List.append_nil, Firmware.codeOf, Firmware.codeOf, joinLines_nil, withoutComments,
    List.append_nil] at alone

theorem reads_comment (stays : StaysInComment body) :
    Reads ('/' :: '*' :: (body ++ ['*', '/'])) [' '] := by
  intro rest
  have joined : joinLines (body ++ '*' :: '/' :: rest) =
      joinLines body ++ '*' :: '/' :: joinLines rest := by
    rw [joinLines_append body (by simp), joinLines_cons (by decide), joinLines_cons (by decide)]
  rw [codeOf, List.cons_append, List.cons_append, List.append_assoc, joinLines_cons (by decide),
    joinLines_cons (by decide), List.cons_append, List.singleton_append, joined, withoutComments,
    withoutComments_comment stays]
  rfl

theorem withoutComments_plain (plain : isPlain c = true) (rest : List Char) :
    withoutComments .code (c :: rest) = c :: withoutComments .code rest := by
  simp only [isPlain, Bool.and_eq_true, decide_eq_true_eq] at plain
  obtain ⟨⟨⟨-, slash⟩, quote⟩, mark⟩ := plain
  rw [withoutComments, if_neg (not_or.mpr ⟨quote, mark⟩)]
  · rintro after rfl
    cases slash rfl
  · rintro after rfl
    cases slash rfl

theorem reads_plain (plain : ∀ c ∈ text, isPlain c = true) : Reads text text := by
  induction text with
  | nil => exact reads_nil
  | cons c text ih =>
      have here := plain c List.mem_cons_self
      have backslash : c ≠ '\\' := by
        rintro rfl
        cases here
      intro rest
      have others := ih (fun other member => plain other (List.mem_cons_of_mem _ member)) rest
      rw [codeOf, List.cons_append, joinLines_cons backslash, withoutComments_plain here,
        List.cons_append, ← others]
      rfl

theorem withoutComments_constant (plain : ∀ c ∈ text, c ≠ '"' ∧ c ≠ '\\' ∧ c ≠ '\n')
    (rest : List Char) :
    withoutComments (.constant '"') (text ++ '"' :: rest) =
      text ++ '"' :: withoutComments .code rest := by
  induction text with
  | nil => rfl
  | cons c text ih =>
      obtain ⟨quote, backslash, feed⟩ := plain c List.mem_cons_self
      rw [List.cons_append, withoutComments, if_neg (not_or.mpr ⟨quote, feed⟩),
        ih fun other member => plain other (List.mem_cons_of_mem _ member), List.cons_append]
      · rintro next after rfl
        cases backslash rfl

theorem reads_constant (plain : ∀ c ∈ text, c ≠ '"' ∧ c ≠ '\\' ∧ c ≠ '\n') :
    Reads ('"' :: (text ++ ['"'])) ('"' :: (text ++ ['"'])) := by
  intro rest
  have joined : joinLines (text ++ '"' :: rest) = text ++ '"' :: joinLines rest := by
    rw [joinLines_plain fun c member => (plain c member).2.1, joinLines_cons (by decide)]
  have opened : withoutComments .code ('"' :: (text ++ '"' :: joinLines rest)) =
      '"' :: withoutComments (.constant '"') (text ++ '"' :: joinLines rest) := by
    rw [withoutComments]
    · rfl
    · simp
    · simp
  rw [codeOf, List.cons_append, List.append_assoc, List.singleton_append, joinLines_cons (by decide),
    joined, opened, withoutComments_constant plain]
  simp [codeOf]

/-- Marks in a constant or behind two slashes open no comment, and one on two lines closes it. -/
example : codeOf "a/* \" *\\\n/ \"/*\" // /*\nb".toList = "a  \"/*\" // /*\nb".toList := by
  decide

/-! ## Lines of code -/

def shownLines (code : List Char) : List (List Char) :=
  (code.splitOn '\n').filter fun line => !line.all Text.isBlank

theorem shownLines_append (before after : List Char) :
    shownLines (before ++ '\n' :: after) = shownLines before ++ shownLines after := by
  have pieces : (before ++ '\n' :: after).splitOn '\n' =
      before.splitOn '\n' ++ after.splitOn '\n' := by
    simp only [List.splitOn_eq_splitOnP]
    exact List.splitOnP_append_cons before after (by simp)
  rw [shownLines, pieces, List.filter_append]
  rfl

theorem shownLines_line (noFeed : '\n' ∉ text) (shown : ∃ c ∈ text, Text.isBlank c = false) :
    shownLines text = [text] := by
  obtain ⟨c, member, ink⟩ := shown
  have kept : text.all Text.isBlank = false := List.all_eq_false.mpr ⟨c, member, by simp [ink]⟩
  rw [shownLines, List.splitOn_eq_singleton noFeed]
  simp [kept]

end Accelerometer.Proofs.Firmware
