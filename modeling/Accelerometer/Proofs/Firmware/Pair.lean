import Accelerometer.Command.Generate
import Accelerometer.Proofs.Command.Outcome
import Accelerometer.Proofs.Firmware.Comments
import Accelerometer.Proofs.Storage.Names
import Accelerometer.Proofs.Text.LetterCase

/-!
# The pair of files of a module

A module is named by a small identifier, and by that name its files find each other.

* `create_isSmall`, `create_again`: the name of a module, and the module of that name.
* `sourceBody_shown`, `headerBody_shown`: the code of the files, whatever the texts of the module are.
* `writeInto_run`: what writing the pair comes to.
* `generated_pair`: every run of the command.
-/

namespace Accelerometer.Proofs.Firmware
open FirmwareModule Accelerometer.Command Proofs.Command Proofs.Path Proofs.Storage Proofs.Text

variable {c : Char} {name description author : String} {module : FirmwareModule}

/-! ## Names -/

structure IsSmall (name : String) : Prop where
  characters : ∀ c ∈ name.toList, c.isLower = true ∨ c.isDigit = true ∨ c = '_'
  start : ∃ first rest, name.toList = first :: rest ∧ first.isDigit = false

theorem small_bound (small : c.isLower = true ∨ c.isDigit = true ∨ c = '_') : c.toNat < 0x80 := by
  simp only [Char.isLower, Char.isDigit, Bool.and_eq_true, decide_eq_true_eq] at small
  rcases small with ⟨-, lower⟩ | ⟨-, digit⟩ | rfl
  · exact Nat.lt_of_le_of_lt (UInt32.le_iff_toNat_le.mp lower) (by decide)
  · exact Nat.lt_of_le_of_lt (UInt32.le_iff_toNat_le.mp digit) (by decide)
  · decide

theorem small_plain (small : c.isLower = true ∨ c.isDigit = true ∨ c = '_') :
    c.isUpper = false ∧ Text.isBlank c = false ∧ continuesIdentifier c = true := by
  have ascii : ∀ i < 0x80, let c := Char.ofNat i
      (c.isLower = true ∨ c.isDigit = true ∨ c = '_') →
        c.isUpper = false ∧ Text.isBlank c = false ∧ continuesIdentifier c = true := by decide
  have here := ascii c.toNat (small_bound small)
  rw [Char.ofNat_toNat] at here
  exact here small

theorem small_of_continues (continues : continuesIdentifier c = true) (noCapital : c.isUpper = false) :
    c.isLower = true ∨ c.isDigit = true ∨ c = '_' := by
  simp only [continuesIdentifier, Char.isAlphanum, Char.isAlpha, noCapital, Bool.false_or,
    Bool.or_eq_true, beq_iff_eq] at continues
  exact or_assoc.mp continues

theorem create_noCapital (created : FirmwareModule.create name description author = .ok module) :
    ∀ c ∈ module.name.toList, c.isUpper = false := by
  unfold FirmwareModule.create at created
  dsimp only at created
  split at created
  · obtain rfl := Except.ok.inj created
    intro c member
    rw [String.toList_ofList] at member
    exact not_isUpper_lower member
  · cases created

theorem create_isSmall (created : FirmwareModule.create name description author = .ok module) :
    IsSmall module.name := by
  have named := (create_ok created).1
  have small : ∀ c ∈ module.name.toList, c.isLower = true ∨ c.isDigit = true ∨ c = '_' :=
    fun c member =>
      small_of_continues (continues_of_isIdentifier named c member) (create_noCapital created c member)
  refine ⟨small, ?_⟩
  cases letters : module.name.toList with
  | nil =>
      rw [letters] at named
      cases named
  | cons first rest =>
      rw [letters] at named small
      rw [isIdentifier, Bool.and_eq_true] at named
      have ascii : ∀ i < 0x80, startsIdentifier (Char.ofNat i) = true →
          (Char.ofNat i).isDigit = false := by decide
      have here := ascii first.toNat (small_bound (small first List.mem_cons_self))
      rw [Char.ofNat_toNat] at here
      exact ⟨first, rest, rfl, here named.1⟩

theorem create_again (small : IsSmall name) (identifier : isIdentifier name.toList = true) :
    FirmwareModule.create name description author =
      .ok ⟨name, Text.trimmed description, Text.trimmed author⟩ := by
  have trimmed : Text.trim name.toList = name.toList :=
    trim_eq_self fun c member => (small_plain (small.characters c member)).2.1
  have lowered : Text.lower name.toList = name.toList :=
    lower_eq_self fun c member =>
      ⟨small_bound (small.characters c member), (small_plain (small.characters c member)).1⟩
  unfold FirmwareModule.create
  simp only [trimmed, lowered, identifier, if_true, String.ofList_toList]

theorem initializer_isIdentifier (named : isIdentifier module.name.toList = true) :
    isIdentifier module.initializer.toList = true := by
  rw [initializer, String.toList_append, String.toList_ofList]
  cases letters : module.name.toList with
  | nil =>
      rw [letters] at named
      cases named
  | cons first rest =>
      rw [letters, isIdentifier, Bool.and_eq_true, List.all_eq_true] at named
      rw [List.map_cons, List.cons_append, isIdentifier, startsIdentifier_toUpper named.1, Bool.true_and,
        List.all_append, List.all_map, Bool.and_eq_true, List.all_eq_true]
      exact ⟨fun c member => continuesIdentifier_toUpper (named.2 c member), by decide⟩

/-! ## The code of the files -/

theorem shownLines_tail {fragments : List Fragment} {banner : String} {others : List Fragment}
    {rest : List Char} (split : fragments = .comment banner :: others)
    (feed : others.flatMap fragmentCode = '\n' :: rest) :
    shownLines (fragments.tail.flatMap fragmentCode) = shownLines (fragments.flatMap fragmentCode) := by
  have below : shownLines ('\n' :: rest) = shownLines rest := shownLines_append [] rest
  have above : shownLines (' ' :: '\n' :: rest) = shownLines rest := shownLines_append [' '] rest
  rw [split, List.tail_cons, List.flatMap_cons, feed, below]
  exact above.symm

section
variable (named : isIdentifier module.name.toList = true)
include named

theorem sourceBody_shown :
    shownLines (codeOf (Fragment.join module.sourceFragments.tail).toList) =
      (sourceLines module).map String.toList := by
  rw [(reads_join (sourceBody_isRead named)).codeOf, ← source_shown named]
  exact shownLines_tail rfl rfl

theorem headerBody_shown :
    shownLines (codeOf (Fragment.join module.headerFragments.tail).toList) =
      (headerLines module).map String.toList := by
  rw [(reads_join (headerBody_isRead named)).codeOf, ← header_shown named]
  exact shownLines_tail rfl rfl

end

/-! ## Writing the pair -/

theorem put_run (path : Path) (text : String) (before : Storage) :
    (put path text).run.run before =
      match before.write path text with
      | .ok after => (.ok (), after)
      | .error reason =>
        (.error (.cannotWrite path reason), before.writtenTo path (Storage.octetsOf text)) := by
  show ((match before.write path text with
    | .ok _ => pure ()
    | .error reason => throw (.cannotWrite path reason) :
      ExceptT ModuleError (StateM Storage) Unit).run.run
        (before.writtenTo path (Storage.octetsOf text)) : Except ModuleError Unit × Storage) = _
  cases wrote : before.write path text with
  | error reason => rfl
  | ok after => exact congrArg (Prod.mk _) (writeOctets_writtenTo wrote)

theorem writeInto_run (module : FirmwareModule) (directory : Path) (before : Storage) :
    let source := directory.join module.sourceName
    let header := directory.join module.headerName
    (module.writeInto directory).run.run before =
      match before.write source module.source with
      | .error reason => (.error (.cannotWrite source reason),
          before.writtenTo source (Storage.octetsOf module.source))
      | .ok first =>
        match first.write header module.header with
        | .error reason => (.error (.cannotWrite header reason),
            first.writtenTo header (Storage.octetsOf module.header))
        | .ok second => (.ok ((source, header), [.moduleGenerated source header]), second) := by
  intro source header
  change (put source module.source >>= fun _ => put header module.header >>= fun _ =>
    pure ((source, header), [Event.moduleGenerated source header])).run.run before = _
  rw [run_bind, put_run]
  cases before.write source module.source with
  | error reason => rfl
  | ok first =>
      dsimp only
      rw [run_bind, put_run]
      cases first.write header module.header <;> rfl

section
variable (named : isIdentifier module.name.toList = true) (directory : Path) (before : Storage)

theorem writeInto_changes :
    ChangesOnly [directory.join module.sourceName, directory.join module.headerName] before
      ((module.writeInto directory).run.run before).2 := by
  rw [writeInto_run]
  cases wroteSource : before.write (directory.join module.sourceName) module.source with
  | error reason => exact (writtenTo_changesOnly before _ _).mono (by simp)
  | ok first =>
      have changes := (write_wrote wroteSource).changesOnly
      dsimp only
      cases wroteHeader : first.write (directory.join module.headerName) module.header with
      | error reason => exact changes.trans (writtenTo_changesOnly first _ _)
      | ok second => exact changes.trans (write_wrote wroteHeader).changesOnly

include named

theorem placeOf_file {ending : String} (plain : '/' ∉ ending.toList) :
    placeOf before (directory.join (module.name ++ ending)) =
      placeOf before directory ++ [module.name ++ ending] := by
  obtain ⟨first, rest, written, other⟩ :
      ∃ first rest, (module.name ++ ending).toList = first :: rest ∧ first ≠ '.' := by
    rw [String.toList_append]
    cases letters : module.name.toList with
    | nil =>
        rw [letters] at named
        cases named
    | cons first rest =>
        refine ⟨first, rest ++ ending.toList, rfl, ?_⟩
        rintro rfl
        rw [letters] at named
        cases named
  apply placeOf_join
  · rw [String.toList_append, List.mem_append, not_or]
    exact ⟨slash_not_mem (name_inline named), plain⟩
  · intro empty
    rw [empty] at written
    cases written
  · rintro (dot | dots)
    · rw [dot] at written
      exact other (List.cons.inj written).1.symm
    · rw [dots] at written
      exact other (List.cons.inj written).1.symm

theorem writeInto_stands {result : (Path × Path) × List Event}
    (done : ((module.writeInto directory).run.run before).1 = .ok result) :
    let after := ((module.writeInto directory).run.run before).2
    Stands before after (directory.join module.sourceName) module.source ∧
      Stands before after (directory.join module.headerName) module.header := by
  rw [writeInto_run] at done ⊢
  cases wroteSource : before.write (directory.join module.sourceName) module.source with
  | error reason => simp [wroteSource] at done
  | ok first =>
      simp only [wroteSource] at done ⊢
      cases wroteHeader : first.write (directory.join module.headerName) module.header with
      | error reason => simp [wroteHeader] at done
      | ok second =>
          dsimp only
          have wrote := write_wrote wroteSource
          have wrote' := write_wrote wroteHeader
          constructor
          · apply wrote.stands wrote'.changesOnly
            rintro other member same
            rw [List.mem_singleton.mp member, sourceName, headerName,
              placeOf_file named directory before (by decide),
              placeOf_file named directory before (by decide)] at same
            have letters := congrArg String.toList (List.singleton_inj.mp (List.append_cancel_left same))
            rw [String.toList_append, String.toList_append] at letters
            exact absurd (List.append_cancel_left letters) (by decide)
          · exact .earlier wrote.sameWays (wrote'.stands (.refl [] second) fun other member => absurd member List.not_mem_nil)

end

/-! ## The command -/

def conclude (outcome : Except ModuleError ((Path × Path) × List Event)) (after : Storage) :
    Command Unit := do
  keep after
  let ((source, header), events) ← orFail .firmware outcome
  note events
  print ("Generated " ++ source.text ++ " and " ++ header.text)

theorem conclude_leaves (outcome : Except ModuleError ((Path × Path) × List Event))
    (before after : Storage) :
    Leaves (conclude outcome after) before ((outcome.mapError .firmware).map fun _ => ()) after := by
  apply leaves_bind_ok (keep_leaves before after)
  cases outcome with
  | error reason => exact leaves_bind_error (orFail_leaves_error rfl)
  | ok result =>
      exact leaves_bind_ok (orFail_leaves_ok rfl) (leaves_bind_ok (note_leaves _ _) (print_leaves _ _))

theorem generate_written {arguments : ModuleArguments}
    (created : FirmwareModule.create arguments.name arguments.description arguments.author = .ok module)
    (world : World) :
    let pair := (module.writeInto arguments.directory).run.run world.storage
    let run := perform (generate arguments) world
    run.1 = (pair.1.mapError .firmware).map (fun _ => ()) ∧ run.2.storage = pair.2 := by
  intro pair run
  have begun : run = perform (conclude pair.1 pair.2) world := by
    show perform (generate arguments) world = _
    unfold generate
    rw [perform_granted created, perform_get]
    rfl
  rw [begun]
  exact conclude_leaves pair.1 world.storage pair.2 world rfl

/-- The two files of a module belong together. Behind the comment on top, which alone has its other texts
in it, a source file has no code but the include of the header and the definition of one function, and
the header declares this function. -/
structure Matching (module : FirmwareModule) : Prop where
  source : ∃ body, module.source = (module.banner (module.name ++ ".c") module.description).text ++ body ∧
    shownLines (codeOf body.toList) = (sourceLines module).map String.toList
  header : ∃ brief body, module.header = (module.banner (module.name ++ ".h") brief).text ++ body ∧
    shownLines (codeOf body.toList) = (headerLines module).map String.toList
  initializer : module.initializer = .ofList (module.name.toList.map Char.toUpper) ++ "_init"
  identifier : isIdentifier module.initializer.toList = true

theorem join_cons (fragment : Fragment) (fragments : List Fragment) :
    Fragment.join (fragment :: fragments) = fragment.text ++ Fragment.join fragments :=
  String.join_cons

theorem matching_of_named (named : isIdentifier module.name.toList = true) : Matching module where
  source := ⟨_, join_cons _ _, sourceBody_shown named⟩
  header := ⟨_, _, join_cons _ _, headerBody_shown named⟩
  initializer := rfl
  identifier := initializer_isIdentifier named

/-- A run for a name that is refused changes nothing. In any other, whatever blanks, capitals and letters
beyond ASCII the name is given with, the name of the module is a small identifier that names the same
module again, and its files match; the run changes at most these two files, which are in the directory
itself, and if it succeeds, the two texts stand in them. -/
theorem generated_pair (arguments : ModuleArguments) (world : World) :
    let run := perform (generate arguments) world
    let before := world.storage
    let directory := arguments.directory
    match FirmwareModule.create arguments.name arguments.description arguments.author with
    | .error error => run = (.error (.firmware error), world)
    | .ok module =>
      let source := directory.join (module.name ++ ".c")
      let header := directory.join (module.name ++ ".h")
      IsSmall module.name ∧
      (∀ description author, FirmwareModule.create module.name description author =
        .ok ⟨module.name, Text.trimmed description, Text.trimmed author⟩) ∧
      Matching module ∧
      placeOf before source = placeOf before directory ++ [module.name ++ ".c"] ∧
      placeOf before header = placeOf before directory ++ [module.name ++ ".h"] ∧
      ChangesOnly [source, header] before run.2.storage ∧
      (run.1 = .ok () → Stands before run.2.storage source module.source ∧
        Stands before run.2.storage header module.header) := by
  intro run before directory
  cases created : FirmwareModule.create arguments.name arguments.description arguments.author with
  | error error => exact perform_refused created _ world
  | ok module =>
      have named := (create_ok created).1
      have small := create_isSmall created
      obtain ⟨came, left⟩ := generate_written created world
      refine ⟨small, fun _ _ => create_again small named, matching_of_named named,
        placeOf_file named directory before (by decide), placeOf_file named directory before (by decide),
        ?_, ?_⟩
      · rw [left]
        exact writeInto_changes directory before
      · intro done
        rw [left]
        have written : ∃ result, ((module.writeInto directory).run.run before).1 = .ok result := by
          rw [came] at done
          cases outcome : ((module.writeInto directory).run.run before).1 with
          | error reason =>
              rw [outcome] at done
              cases done
          | ok result => exact ⟨result, rfl⟩
        obtain ⟨result, written⟩ := written
        exact writeInto_stands named directory before written

def kelvinName : ModuleArguments :=
  ⟨" \u212AEY_2\n", "*/ int injected; /*", "Jane Doe", ⟨"./"⟩⟩

def keyModule : FirmwareModule :=
  ⟨"key_2", "*/ int injected; /*", "Jane Doe"⟩

theorem kelvinName_generated :
    let run := perform (generate kelvinName) ⟨emptyStorage, none, [], [], "", []⟩
    FirmwareModule.create kelvinName.name kelvinName.description kelvinName.author = .ok keyModule ∧
      run.1 = .ok () ∧ Stands emptyStorage run.2.storage ⟨"./key_2.c"⟩ keyModule.source := by
  intro run
  have created : FirmwareModule.create kelvinName.name kelvinName.description kelvinName.author =
      .ok keyModule := by decide
  have source : kelvinName.directory.join (keyModule.name ++ ".c") = ⟨"./key_2.c"⟩ := by
    rw [join_plain _ (by decide)]
    rfl
  have header : kelvinName.directory.join (keyModule.name ++ ".h") = ⟨"./key_2.h"⟩ := by
    rw [join_plain _ (by decide)]
    rfl
  have opens : Opens emptyStorage ⟨"./key_2.c"⟩ ["key_2.c"] := emptyStorage_opens rfl (by decide)
  have opens' : Opens emptyStorage ⟨"./key_2.h"⟩ ["key_2.h"] := emptyStorage_opens rfl (by decide)
  have first : emptyStorage.write ⟨"./key_2.c"⟩ keyModule.source = .ok _ := write_file opens nofun rfl
  have second : Storage.write _ ⟨"./key_2.h"⟩ keyModule.header = .ok _ :=
    write_file ((write_wrote first).sameWays.opens opens') nofun rfl
  have done : run.1 = .ok () := by
    rw [(generate_written created _).1, writeInto_run, sourceName, headerName, source, header]
    simp only [first, second]
    rfl
  have pair := generated_pair kelvinName ⟨emptyStorage, none, [], [], "", []⟩
  simp only [created, source] at pair
  obtain ⟨-, -, -, -, -, -, stand⟩ := pair
  exact ⟨created, done, (stand done).1⟩

end Accelerometer.Proofs.Firmware
