import Accelerometer.CommandLine.Program

/-!
# Captures by both programs

Each of the two programs declares its own command line and goes its own way from there. What a parser has
to do for both to come to the same is little: pass the words behind the name of a command on to it, and
not look at texts.

* `Conventional`: what is expected of a parser.
* `reader_conventional`: the parser of the programs is one.
* `collect_runs_as_sampler`: a capture by the suite and by the sampler.
-/

namespace Accelerometer.Proofs.CommandLine
open Accelerometer.CommandLine

variable {parser : Parser} {program one other : Declaration} {command : CommandDeclaration}
  {words : List String} {found : Matches}

/-- A command that its name alone calls: no operand of the program can stand in its place, and nothing
of the program has to come before it. -/
structure Called (program : Declaration) (command : CommandDeclaration) : Prop where
  named : program.commands.find? (fun other => other.name == command.name) = some command
  optional : ∀ argument ∈ program.arguments, argument.isOption = true ∧ argument.required = false
  noOption : ∃ first ∈ command.name.toList.head?, first ≠ '-'
  noHelp : command.name ≠ "help"

structure Conventional (parser : Parser) : Prop where
  /-- The words behind the name of a command are the command's, and may give what the program declares
  for its commands. What they give is found for the program. -/
  called : ∀ {program command words found}, Called program command →
    parser (program.within command) words = .ok found →
    parser program (command.name :: words) = .ok { found with command := some command.name }
  /-- A program without commands finds the same under another name and with other texts, and whether or
  not its arguments were for commands too. -/
  texts : ∀ {one other words found}, one.commands = [] → other.commands = [] →
    one.signatures = other.signatures → parser one words = .ok found → parser other words = .ok found

/-! ## The parser of the programs -/

theorem ofString_plain {text : String} {first : Char} (begins : text.toList.head? = some first)
    (noOption : first ≠ '-') : Word.ofString text = .plain text := by
  unfold Word.ofString
  split
  · rename_i letters
    rw [letters] at begins
    exact absurd (Option.some.inj begins).symm noOption
  · rename_i letters
    rw [letters] at begins
    exact absurd (Option.some.inj begins).symm noOption
  · rename_i letters
    rw [letters] at begins
    exact absurd (Option.some.inj begins).symm noOption
  · rfl

theorem reader_alone (alone : one.commands = []) :
    reader one words = .ok found ↔
      ∃ values, Reading.ofWords one.signatures words = .ok values ∧ found = ⟨none, values⟩ := by
  rw [reader, alone, readAlone]
  cases Reading.ofWords one.signatures words with
  | error halt =>
      constructor
      · intro given
        cases given
      · rintro ⟨values, read, -⟩
        cases read
  | ok values =>
      constructor
      · intro given
        exact ⟨values, rfl, (Except.ok.inj given).symm⟩
      · rintro ⟨values', read, rfl⟩
        rw [Except.ok.inj read]
        rfl

theorem reader_called (called : Called program command)
    (accepted : reader (program.within command) words = .ok found) :
    reader program (command.name :: words) = .ok { found with command := some command.name } := by
  obtain ⟨first, begins, noOption⟩ := called.noOption
  obtain ⟨values, read, rfl⟩ := (reader_alone rfl).mp accepted
  have plain := ofString_plain begins noOption
  have some : program.commands ≠ [] := by
    intro none
    have named := called.named
    rw [none] at named
    cases named
  have given : readAlone (program.within command) words = .ok values := by
    rw [readAlone, read]
    rfl
  have start : reader program (command.name :: words) =
      readCommand program (command.name :: words) .start := by
    unfold reader
    split
    · rename_i none
      exact absurd none some
    · rfl
  rw [start, readCommand, plain]
  simp only [Reading.start, if_neg called.noHelp, called.named, given, List.append_nil]
  rfl

theorem reader_conventional : Conventional reader where
  called := reader_called
  texts alone alone' same accepted := by
    rw [reader_alone alone, same, ← reader_alone alone'] at accepted
    exact accepted

/-! ## Captures -/

def collect : CommandDeclaration :=
  ⟨"collect", "Record accelerometer samples from a serial port into <OUTPUT>.csv", captureArguments⟩

theorem collect_called : Called suite collect where
  named := rfl
  optional := by decide
  noOption := ⟨'c', rfl, by decide⟩
  noHelp := by decide

theorem collect_signatures : sampler.signatures = (suite.within collect).signatures := by
  decide

theorem samplerLine_ok {line : SamplerLine} (accepted : SamplerLine.read parser words = .ok line) :
    ∃ found, parser sampler words = .ok found ∧ found.capture = .ok line.capture ∧
      found.has "verbose" = line.verbose ∧ found.path? "config" = line.config := by
  unfold SamplerLine.read at accepted
  cases parsed : parser sampler words with
  | error stop =>
      rw [parsed] at accepted
      cases accepted
  | ok found =>
      cases capture : found.capture with
      | error stop =>
          simp only [parsed, capture, bind, Except.bind] at accepted
          cases accepted
      | ok arguments =>
          simp only [parsed, capture, bind, Except.bind] at accepted
          cases accepted
          exact ⟨found, rfl, capture, rfl, rfl⟩

theorem suiteLine_collect {arguments : CaptureArguments} (called : parser suite words = .ok found)
    (named : found.command = some "collect") (given : found.capture = .ok arguments) :
    SuiteLine.read parser words =
      .ok ⟨.capture arguments, found.has "verbose", found.path? "config"⟩ := by
  simp only [SuiteLine.read, called, Matches.request, named, given, bind, Except.bind]
  rfl

theorem read_collect (conventional : Conventional parser) {line : SamplerLine}
    (accepted : SamplerLine.read parser words = .ok line) :
    SuiteLine.read parser ("collect" :: words) =
      .ok ⟨.capture line.capture, line.verbose, line.config⟩ := by
  obtain ⟨found, parsed, capture, verbose, config⟩ := samplerLine_ok accepted
  have called : parser suite ("collect" :: words) = .ok { found with command := some "collect" } :=
    conventional.called collect_called (conventional.texts rfl rfl collect_signatures parsed)
  have read := suiteLine_collect called rfl capture
  rw [← verbose, ← config]
  exact read

/-- For any words that the sampler accepts, the suite does the same when it is called for a capture with
these words: in any world it ends the same way, prints the same and leaves the same behind. -/
theorem collect_runs_as_sampler (parser : Parser) (conventional : Conventional parser)
    (words : List String) (line : SamplerLine) (accepted : SamplerLine.read parser words = .ok line) :
    SuiteLine.read parser ("collect" :: words) =
        .ok ⟨.capture line.capture, line.verbose, line.config⟩ ∧
      ∀ world, runSuite parser ("collect" :: words) world = runSampler parser words world := by
  refine ⟨read_collect conventional accepted, fun world => ?_⟩
  rw [runSuite, runSampler, read_collect conventional accepted, accepted]
  rfl

theorem attachedValues_run_as_sampler :
    let words := ["-vd2.5", "--encoding=ascii", "--config", "a.toml", "--", "/dev/ttyACM0", "-V"]
    Conventional reader ∧
      SamplerLine.read reader words =
        .ok ⟨⟨"/dev/ttyACM0", "-V", some 2.5, some .ascii⟩, true, some ⟨"a.toml"⟩⟩ ∧
      ∀ world, runSuite reader ("collect" :: words) world = runSampler reader words world := by
  intro words
  have accepted : SamplerLine.read reader words =
      .ok ⟨⟨"/dev/ttyACM0", "-V", some 2.5, some .ascii⟩, true, some ⟨"a.toml"⟩⟩ := by
    rfl
  exact ⟨reader_conventional, accepted,
    (collect_runs_as_sampler reader reader_conventional words _ accepted).2⟩

end Accelerometer.Proofs.CommandLine
