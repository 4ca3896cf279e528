import Accelerometer.Proofs.Command.FilterCourse
import Accelerometer.Proofs.Signal.Design
import Accelerometer.Proofs.Signal.FilteredTrace

/-!
# What the filter command changes

* `filter_changes`: every run, with every outcome.
* `respelledOutput_overwritten`: outputs that differ as paths may be the same file.
-/

namespace Accelerometer.Proofs.Command
open Accelerometer.Command Accelerometer.Signal Proofs.Signal Proofs.Storage

variable {before after : Storage} {arguments : FilterArguments} {settings : Settings}
  {coefficients : List Float} {text : String} {session : Path}

def OutputsApart (arguments : FilterArguments) (settings : Settings) (storage : Storage) : Prop :=
  (outputs arguments settings).Pairwise fun one other => placeOf storage one ≠ placeOf storage other

instance (storage : Storage) : Decidable (OutputsApart arguments settings storage) :=
  inferInstanceAs (Decidable (List.Pairwise _ _))

theorem earlier_stand {first second : Storage} (apart : OutputsApart arguments settings before)
    (store : stored (arguments.outputOr settings) coefficients before = (.ok (), first))
    (answer : answered arguments.response text first = (.ok (), second))
    (later : ChangesOnly (arguments.session.map tracePath).toList second after) :
    Stands before after (arguments.outputOr settings) (coefficientText coefficients) ∧
      ∀ path ∈ arguments.response, Stands before after path text := by
  obtain ⟨others, rest⟩ := List.pairwise_cons.mp apart
  obtain ⟨-, -, traces⟩ := List.pairwise_append.mp rest
  have wrote := stored_wrote store
  constructor
  · exact wrote.stands ((answered_changes answer).trans later) others
  · intro path given
    rw [given] at answer
    apply Stands.earlier wrote.sameWays
    apply (write_wrote (written_ok answer)).stands later
    intro other member
    rw [wrote.sameWays.placeOf, wrote.sameWays.placeOf]
    exact traces path (Option.mem_toList.mpr given) other member

theorem later_keep (apart : OutputsApart arguments settings before)
    (changes : ChangesOnly [arguments.outputOr settings] before after) :
    ∀ path ∈ arguments.response.toList ++ (arguments.session.map tracePath).toList,
      Keeps before after path := by
  intro path among
  apply changes.elsewhere
  intro output member
  rw [List.mem_singleton.mp member]
  exact (List.pairwise_cons.mp apart).1 path among

theorem trace_keeps (apart : OutputsApart arguments settings before) (given : session ∈ arguments.session)
    (changes : ChangesOnly (arguments.outputOr settings :: arguments.response.toList) before after) :
    Keeps before after (tracePath session) := by
  obtain ⟨others, rest⟩ := List.pairwise_cons.mp apart
  obtain ⟨-, -, traces⟩ := List.pairwise_append.mp rest
  have member : tracePath session ∈ (arguments.session.map tracePath).toList := by
    rw [given]
    exact List.mem_singleton.mpr rfl
  apply changes.elsewhere
  intro path among
  rcases List.mem_cons.mp among with rfl | responses
  · exact others _ (List.mem_append_right _ member)
  · exact traces path responses _ member

/-- A run changes only the files that its outputs name, and none at all if the filter is not valid. When
the outputs name different places, what a run could not write or read leaves the later outputs as they
were; the earlier ones stand. An output whose write is refused keeps what there is room for. -/
theorem filter_changes (arguments : FilterArguments) (settings : Settings) (world : World) :
    let before := world.storage
    let run := perform (filter arguments settings) world
    let after := run.2.storage
    let spec := arguments.spec settings
    let output := arguments.outputOr settings
    ChangesOnly (outputs arguments settings) before after ∧
    match spec.design with
    | .error reason => run.1 = .error (.design reason) ∧ after = before
    | .ok coefficients =>
      OutputsApart arguments settings before →
      match storeCoefficients before output coefficients with
      | .error error =>
        run.1 = .error (.coefficients error) ∧
        after = before.writtenTo output (Storage.octetsOf (coefficientText coefficients)) ∧
        ∀ path ∈ arguments.response.toList ++ (arguments.session.map tracePath).toList,
          Keeps before after path
      | .ok (first, _) =>
        Stands before after output (coefficientText coefficients) ∧
        match answered arguments.response (responseText spec coefficients) first with
        | (.error error, second) =>
          run.1 = .error error ∧ after = second ∧
          ∀ session ∈ arguments.session, Keeps before after (tracePath session)
        | (.ok _, second) =>
          (∀ path ∈ arguments.response, Stands before after path (responseText spec coefficients)) ∧
          match arguments.session with
          | none => run.1 = .ok () ∧ after = second
          | some session =>
            match filteredTable second session coefficients with
            | .error error =>
              run.1 = .error (.session error) ∧ after = second ∧ Keeps before after (tracePath session)
            | .ok (none, _) =>
              run.1 = .ok () ∧ after = second ∧ Keeps before after (tracePath session)
            | .ok (some text, _) =>
              after = second.writtenTo (tracePath session) (Storage.octetsOf text) ∧
              match second.write (tracePath session) text with
              | .error reason => run.1 = .error (.output (tracePath session) reason)
              | .ok _ => run.1 = .ok () ∧ Stands before after (tracePath session) text := by
  intro before run after spec output
  have course : Course arguments settings before run.1 after := filter_course arguments settings world
  refine ⟨course_changes course, ?_⟩
  generalize run.1 = outcome at course ⊢
  generalize after = after at course ⊢
  cases course with
  | invalid refused =>
      simp only [spec, refused]
      trivial
  | notStored designed refused =>
      obtain ⟨reason, failed, rfl⟩ := stored_error refused
      simp only [spec, output, designed, failed]
      exact fun apart => ⟨trivial, stored_tree refused, later_keep apart (stored_changes refused)⟩
  | notAnswered designed store refused =>
      simp only [spec, output, designed, stored_ok store, refused]
      intro apart
      have later := answered_changes refused
      have stands := (stored_wrote store).stands later fun path member =>
        (List.pairwise_cons.mp apart).1 path (List.mem_append_left _ member)
      refine ⟨stands, trivial, trivial, ?_⟩
      intro session given
      exact trace_keeps apart given ((stored_changes store).trans later)
  | ended designed store answer trace =>
      simp only [spec, output, designed, stored_ok store, answer]
      intro apart
      have stand := earlier_stand apart store answer (traced_changes trace)
      refine ⟨stand.1, stand.2, ?_⟩
      have changes := (stored_changes store).trans (answered_changes answer)
      cases given : arguments.session with
      | none =>
          rw [given] at trace
          cases trace
          exact ⟨rfl, rfl⟩
      | some session =>
          rw [given] at trace
          rcases traced_ways trace with
            ⟨reason, failed, rfl, rfl⟩ | ⟨events, empty, rfl, rfl⟩ | ⟨text, events, table, wrote⟩
          · simp only [failed]
            exact ⟨trivial, trivial, trace_keeps apart given changes⟩
          · simp only [empty]
            exact ⟨trivial, trivial, trace_keeps apart given changes⟩
          · simp only [table]
            obtain ⟨rfl, rfl⟩ := Prod.mk.inj wrote
            refine ⟨rfl, ?_⟩
            cases done : Storage.write _ (tracePath session) text with
            | error reason => rfl
            | ok third =>
                rw [writeOctets_writtenTo done]
                exact ⟨rfl, .earlier changes.sameWays ((write_wrote done).stands (.refl [] third) nofun)⟩

def wholeRun : FilterArguments :=
  ⟨some ⟨"run.csv"⟩, none, none, none, none, some ⟨"response.csv"⟩⟩

set_option maxRecDepth 1000 in
theorem wholeRun_filtered :
    let run := perform (filter wholeRun .standard) ⟨threeSamples, none, [], [], "", []⟩
    OutputsApart wholeRun .standard threeSamples ∧
      ∃ coefficients rows, LowPassSpec.standard.design = .ok coefficients ∧
        rows.map Measurement.x = [1, 2, 4] ∧ run.1 = .ok () ∧
        Stands threeSamples run.2.storage ⟨"run_filtered.csv"⟩ (traceTable ⟨rows⟩ coefficients) := by
  intro run
  have apart : OutputsApart wholeRun .standard threeSamples := by decide
  have designed : LowPassSpec.standard.design = .ok (lowPass 20 20.0 400.0) :=
    designWith_of_validate (validate_eq_ok.mpr (by decide))
  generalize lowPass 20 20.0 400.0 = coefficients at designed
  have changes := (filter_changes wholeRun .standard ⟨threeSamples, none, [], [], "", []⟩).2
  have asked : wholeRun.spec .standard = .standard := rfl
  simp only [asked, designed] at changes
  have filtered := (changes apart).2.2.2
  exact ⟨apart, coefficients, [⟨7, 1, 0, 0⟩, ⟨8, 2, 0, 0⟩, ⟨9, 4, 0, 0⟩], designed, rfl, filtered⟩

theorem course_untraced {outcome : Except CommandError Unit} {events : List Event}
    (course : Course arguments settings before outcome after)
    (designed : (arguments.spec settings).design = .ok coefficients) (unasked : arguments.response = none)
    (given : arguments.session = some session)
    (empty : filteredTable (before.writtenTo (arguments.outputOr settings)
      (Storage.octetsOf (coefficientText coefficients))) session coefficients = .ok (none, events)) :
    after = before.writtenTo (arguments.outputOr settings)
      (Storage.octetsOf (coefficientText coefficients)) := by
  cases course with
  | invalid refused =>
      rw [refused] at designed
      cases designed
  | notStored designed' refused =>
      obtain rfl := Except.ok.inj (designed.symm.trans designed')
      exact stored_tree refused
  | notAnswered designed' store refused =>
      rw [unasked] at refused
      cases refused
  | ended designed' store answer trace =>
      obtain rfl := Except.ok.inj (designed.symm.trans designed')
      rw [unasked] at answer
      obtain rfl := (Prod.mk.inj answer).2
      rw [← stored_tree store] at empty ⊢
      rw [given, traced] at trace
      simp only [empty] at trace
      exact (Prod.mk.inj trace).2.symm

def oldTrace : Storage :=
  filled (filled emptyStorage ["run.csv"] (Storage.octetsOf Sample.header)) ["run_filtered.csv"]
    (Storage.octetsOf "old\n")

/-- Coefficients that are asked for in the place of a trace, by another path, are written over it. -/
theorem respelledOutput_overwritten :
    ¬∀ (arguments : FilterArguments) (settings : Settings) (world : World) (session : Path)
        (coefficients : List Float) (events : List Event),
      (outputs arguments settings).Pairwise (· ≠ ·) →
      (arguments.spec settings).design = .ok coefficients →
      arguments.response = none → arguments.session = some session →
      -- the session as it stands once the coefficients are written
      filteredTable (world.storage.writtenTo (arguments.outputOr settings)
        (Storage.octetsOf (coefficientText coefficients))) session coefficients = .ok (none, events) →
      Keeps world.storage (perform (filter arguments settings) world).2.storage (tracePath session) := by
  intro kept
  let arguments : FilterArguments :=
    ⟨some ⟨"run.csv"⟩, none, none, none, some ⟨"./run_filtered.csv"⟩, none⟩
  let world : World := ⟨oldTrace, none, [], [], "", []⟩
  have designed : (arguments.spec .standard).design = .ok (lowPass 20 20.0 400.0) :=
    designWith_of_validate (validate_eq_ok.mpr (by decide))
  generalize lowPass 20 20.0 400.0 = coefficients at designed
  have opens : Opens oldTrace ⟨"./run_filtered.csv"⟩ ["run_filtered.csv"] :=
    ⟨⟨⟨[], "run_filtered.csv", rfl, by decide, rfl⟩, nofun⟩, rfl⟩
  have tree := writtenTo_opens opens (Storage.octetsOf (coefficientText coefficients))
  have empty : filteredTable (oldTrace.writtenTo ⟨"./run_filtered.csv"⟩
      (Storage.octetsOf (coefficientText coefficients))) ⟨"run.csv"⟩ coefficients =
        .ok (none, [.sessionLoaded ⟨"run.csv"⟩ 0, .nothingToFilter ⟨"run.csv"⟩]) := by
    rw [tree]
    rfl
  have keeps :=
    kept arguments .standard world ⟨"run.csv"⟩ coefficients _ (by decide) designed rfl rfl empty
  have left : (perform (filter arguments .standard) world).2.storage =
      filled oldTrace ["run_filtered.csv"] (Storage.octetsOf (coefficientText coefficients)) :=
    (course_untraced (filter_course arguments .standard world) designed rfl rfl empty).trans tree
  have noSink : ∀ full, oldTrace.node ["run_filtered.csv"] ≠ some (.sink full) := nofun
  rw [Keeps, left, filled_file noSink] at keeps
  have same : Node.file (Storage.octetsOf (coefficientText coefficients)) =
      .file (Storage.octetsOf "old\n") := Option.some.inj keeps
  rw [coefficientText, octetsOf_append, octetsOf_append] at same
  -- the file begins with a bracket now
  have first : some 0x5B = (Storage.octetsOf "old\n").head? :=
    congrArg List.head? (Node.file.inj same)
  exact absurd first (by decide)

end Accelerometer.Proofs.Command
