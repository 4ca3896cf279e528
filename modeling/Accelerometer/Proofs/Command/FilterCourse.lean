import Accelerometer.Command.Filter
import Accelerometer.Proofs.Command.Outcome
import Accelerometer.Proofs.Signal.CoefficientFile

/-!
# How the filter command goes

The coefficients, the response and the filtered trace are written one after the other. A write that is
refused ends the command. It leaves what the file had room for, or what was there if the file could not
even be opened.

* `saveCoefficients_acts`, `saveResponse_acts`, `filterRecording_acts`: the parts that write.
* `Course`, `filter_course`: a run.
* `course_unstored`, `course_designed`: how it can fail.
* `course_changes`: the places where it changes something.
-/

namespace Accelerometer.Proofs.Command
open Accelerometer.Command Accelerometer.Signal Proofs.Signal Proofs.Storage

variable {before after : Storage} {arguments : FilterArguments} {settings : Settings}
  {spec : LowPassSpec} {coefficients : List Float} {text : String} {path session : Path}
  {target recording : Option Path} {error : CommandError} {events : List Event}

/-! ## The parts that write nothing -/

theorem design_leaves_ok (designed : spec.design = .ok coefficients) (before : Storage) :
    Leaves (design spec) before (.ok coefficients) before :=
  leaves_bind_ok (orFail_leaves_ok designed)
    (leaves_bind_ok (note_leaves _ before) (leaves_pure coefficients before))

theorem design_leaves_error {reason : InvalidSpec} (refused : spec.design = .error reason)
    (before : Storage) : Leaves (design spec) before (.error (.design reason)) before :=
  leaves_bind_error (orFail_leaves_error refused)

theorem noteCorner_leaves (points : List (ResponsePoint Float)) (before : Storage) :
    Leaves (noteCorner points) before (.ok ()) before := by
  unfold noteCorner
  split
  · exact note_leaves _ before
  · exact note_leaves _ before

/-! ## Coefficients -/

def stored (path : Path) (coefficients : List Float) (storage : Storage) :
    Except CommandError Unit × Storage :=
  (((storeCoefficients storage path coefficients).mapError .coefficients).map fun _ => (),
    storage.writtenTo path (Storage.octetsOf (coefficientText coefficients)))

theorem stored_ok (store : stored path coefficients before = (.ok (), after)) :
    storeCoefficients before path coefficients =
      .ok (after, [.coefficientsWritten coefficients.length path]) := by
  obtain ⟨outcome, tree⟩ := Prod.mk.inj store
  cases made : storeCoefficients before path coefficients with
  | error reason =>
      rw [made] at outcome
      cases outcome
  | ok result =>
      obtain ⟨wrote, events⟩ := storeCoefficients_eq_ok.mp made
      rw [← tree, writeOctets_writtenTo wrote, ← events]

theorem stored_error (refused : stored path coefficients before = (.error error, after)) :
    ∃ reason, storeCoefficients before path coefficients = .error reason ∧
      error = .coefficients reason := by
  have outcome := (Prod.mk.inj refused).1
  cases made : storeCoefficients before path coefficients with
  | error reason =>
      rw [made] at outcome
      exact ⟨reason, rfl, (Except.error.inj outcome).symm⟩
  | ok result =>
      rw [made] at outcome
      cases outcome

theorem stored_tree {outcome : Except CommandError Unit}
    (store : stored path coefficients before = (outcome, after)) :
    after = before.writtenTo path (Storage.octetsOf (coefficientText coefficients)) :=
  (Prod.mk.inj store).2.symm

theorem stored_eq_ok : stored path coefficients before = (.ok (), after) ↔
    before.write path (coefficientText coefficients) = .ok after := by
  constructor
  · exact fun store => (storeCoefficients_eq_ok.mp (stored_ok store)).1
  · intro wrote
    rw [stored, storeCoefficients_eq_ok.mpr ⟨wrote, rfl⟩, writeOctets_writtenTo wrote]
    rfl

theorem stored_wrote (store : stored path coefficients before = (.ok (), after)) :
    Wrote before path (coefficientText coefficients) after :=
  write_wrote (stored_eq_ok.mp store)

theorem stored_changes {outcome : Except CommandError Unit}
    (store : stored path coefficients before = (outcome, after)) : ChangesOnly [path] before after := by
  rw [stored_tree store]
  exact writtenTo_changesOnly before path _

theorem saveCoefficients_acts (spec : LowPassSpec) (coefficients : List Float) (path : Path) :
    Acts (saveCoefficients spec coefficients path) (stored path coefficients) := by
  intro before
  apply leaves_get
  rintro world rfl
  apply leaves_bind_ok (keep_leaves _ _)
  rw [stored]
  cases made : storeCoefficients world.storage path coefficients with
  | error reason => exact leaves_bind_error (orFail_leaves_error rfl)
  | ok result =>
      exact leaves_bind_ok (orFail_leaves_ok rfl)
        (leaves_bind_ok (note_leaves _ _) (print_leaves _ _))

/-! ## Response -/

def answered (path : Option Path) (text : String) (storage : Storage) :
    Except CommandError Unit × Storage :=
  match path with
  | none => (.ok (), storage)
  | some path => written path text storage

theorem answered_changes {outcome : Except CommandError Unit}
    (answer : answered target text before = (outcome, after)) :
    ChangesOnly target.toList before after := by
  cases target with
  | none =>
      obtain rfl := (Prod.mk.inj answer).2
      exact .refl [] before
  | some path =>
      obtain rfl := (Prod.mk.inj answer).2
      exact writtenTo_changesOnly before path _

theorem answered_error (refused : answered target text before = (.error error, after)) :
    ∃ path reason, error = .output path reason := by
  cases target with
  | none => cases refused
  | some path =>
      obtain ⟨reason, -, same⟩ := written_error refused
      exact ⟨path, reason, same⟩

theorem saveResponse_acts (points : List (ResponsePoint Float)) (path : Option Path) :
    Acts (path.forM (saveResponse points)) (answered path (responseTable points)) := by
  cases path with
  | none => exact nothing_acts
  | some path => exact (write_acts path _).print _

/-! ## Filtered trace -/

def traced (session : Option Path) (coefficients : List Float) (storage : Storage) :
    Except CommandError Unit × Storage :=
  match session with
  | none => (.ok (), storage)
  | some session =>
    match filteredTable storage session coefficients with
    | .error error => (.error (.session error), storage)
    | .ok (none, _) => (.ok (), storage)
    | .ok (some text, _) => written (tracePath session) text storage

theorem traced_ways {outcome : Except CommandError Unit}
    (trace : traced (some session) coefficients before = (outcome, after)) :
    (∃ error, filteredTable before session coefficients = .error error ∧
      outcome = .error (.session error) ∧ after = before) ∨
    (∃ events, filteredTable before session coefficients = .ok (none, events) ∧
      outcome = .ok () ∧ after = before) ∨
    ∃ text events, filteredTable before session coefficients = .ok (some text, events) ∧
      written (tracePath session) text before = (outcome, after) := by
  unfold traced at trace
  simp only at trace
  split at trace
  · rename_i error failed
    cases trace
    exact .inl ⟨error, failed, rfl, rfl⟩
  · rename_i events empty
    cases trace
    exact .inr (.inl ⟨events, empty, rfl, rfl⟩)
  · rename_i text events table
    exact .inr (.inr ⟨text, events, table, trace⟩)

theorem traced_changes {outcome : Except CommandError Unit}
    (trace : traced recording coefficients before = (outcome, after)) :
    ChangesOnly (recording.map tracePath).toList before after := by
  cases recording with
  | none =>
      obtain rfl := (Prod.mk.inj trace).2
      exact .refl [] before
  | some session =>
      rcases traced_ways trace with ⟨-, -, -, rfl⟩ | ⟨-, -, -, rfl⟩ | ⟨text, events, -, wrote⟩
      · exact .refl _ after
      · exact .refl _ after
      · obtain rfl := (Prod.mk.inj wrote).2
        exact writtenTo_changesOnly before _ _

theorem traced_error (refused : traced recording coefficients before = (.error error, after)) :
    (∃ reason, error = .session reason) ∨ ∃ path reason, error = .output path reason := by
  cases recording with
  | none => cases refused
  | some session =>
      rcases traced_ways refused with ⟨reason, -, failed, -⟩ | ⟨-, -, done, -⟩ | ⟨text, -, -, wrote⟩
      · exact .inl ⟨reason, Except.error.inj failed⟩
      · cases done
      · obtain ⟨reason, -, same⟩ := written_error wrote
        exact .inr ⟨_, reason, same⟩

theorem filterRecording_acts (coefficients : List Float) (recording : Option Path) :
    Acts (recording.forM (filterRecording coefficients)) (traced recording coefficients) := by
  cases recording with
  | none => exact nothing_acts
  | some session =>
      intro before
      apply leaves_get
      rintro world rfl
      rw [traced]
      simp only
      split
      · rename_i reason failed
        exact leaves_bind_error (orFail_leaves_error failed)
      · rename_i events empty
        exact leaves_bind_ok (orFail_leaves_ok empty)
          (leaves_bind_ok (note_leaves events _) (leaves_pure () _))
      · rename_i text events table
        exact leaves_bind_ok (orFail_leaves_ok table)
          (leaves_bind_ok (note_leaves events _) ((write_acts _ text).print _ _))

/-! ## The whole command -/

def responseText (spec : LowPassSpec) (coefficients : List Float) : String :=
  responseTable (response coefficients spec.rate gridSize)

/-- How a run over the tree `before` goes: its outcome, and the tree it leaves. -/
inductive Course (arguments : FilterArguments) (settings : Settings) (before : Storage) :
    Except CommandError Unit → Storage → Prop
  | invalid {reason : InvalidSpec} (refused : (arguments.spec settings).design = .error reason) :
      Course arguments settings before (.error (.design reason)) before
  | notStored {coefficients : List Float} {error : CommandError} {first : Storage}
      (designed : (arguments.spec settings).design = .ok coefficients)
      (refused : stored (arguments.outputOr settings) coefficients before = (.error error, first)) :
      Course arguments settings before (.error error) first
  | notAnswered {coefficients : List Float} {first second : Storage} {error : CommandError}
      (designed : (arguments.spec settings).design = .ok coefficients)
      (store : stored (arguments.outputOr settings) coefficients before = (.ok (), first))
      (refused : answered arguments.response (responseText (arguments.spec settings) coefficients)
        first = (.error error, second)) :
      Course arguments settings before (.error error) second
  | ended {coefficients : List Float} {first second third : Storage}
      {outcome : Except CommandError Unit}
      (designed : (arguments.spec settings).design = .ok coefficients)
      (store : stored (arguments.outputOr settings) coefficients before = (.ok (), first))
      (answer : answered arguments.response (responseText (arguments.spec settings) coefficients)
        first = (.ok (), second))
      (trace : traced arguments.session coefficients second = (outcome, third)) :
      Course arguments settings before outcome third

theorem filter_course (arguments : FilterArguments) (settings : Settings) (world : World) :
    Course arguments settings world.storage (perform (filter arguments settings) world).1
      (perform (filter arguments settings) world).2.storage := by
  -- the parts are gone through in their order; the first that fails ends the run
  have course : ∃ outcome after, Course arguments settings world.storage outcome after ∧
      Leaves (filter arguments settings) world.storage outcome after := by
    let spec := arguments.spec settings
    cases designed : spec.design with
    | error reason =>
        exact ⟨_, _, .invalid designed, leaves_bind_error (design_leaves_error designed _)⟩
    | ok coefficients =>
        have begun := design_leaves_ok designed world.storage
        have saving := saveCoefficients_acts spec coefficients (arguments.outputOr settings) world.storage
        let points := response coefficients spec.rate gridSize
        rcases store : stored (arguments.outputOr settings) coefficients world.storage with
          ⟨error | ⟨⟨⟩⟩, first⟩
        · rw [store] at saving
          exact ⟨_, _, .notStored designed store, leaves_bind_ok begun (leaves_bind_error saving)⟩
        · rw [store] at saving
          have noted := noteCorner_leaves points first
          have answering := saveResponse_acts points arguments.response first
          rcases answer : answered arguments.response (responseTable points) first with
            ⟨error | ⟨⟨⟩⟩, second⟩
          · rw [answer] at answering
            exact ⟨_, _, .notAnswered designed store answer,
              leaves_bind_ok begun (leaves_bind_ok saving
                (leaves_bind_ok noted (leaves_bind_error answering)))⟩
          · rw [answer] at answering
            exact ⟨_, _, .ended designed store answer rfl,
              leaves_bind_ok begun (leaves_bind_ok saving (leaves_bind_ok noted
                (leaves_bind_ok answering (filterRecording_acts coefficients arguments.session second))))⟩
  obtain ⟨outcome, after, course, leaves⟩ := course
  obtain ⟨came, left⟩ := leaves world rfl
  rw [came, left]
  exact course

def outputs (arguments : FilterArguments) (settings : Settings) : List Path :=
  arguments.outputOr settings ::
    (arguments.response.toList ++ (arguments.session.map tracePath).toList)

theorem course_unstored {outcome : Except CommandError Unit} {reason : CoefficientError}
    (course : Course arguments settings before outcome after)
    (designed : (arguments.spec settings).design = .ok coefficients)
    (unstored : storeCoefficients before (arguments.outputOr settings) coefficients = .error reason) :
    outcome = .error (.coefficients reason) ∧ after =
      before.writtenTo (arguments.outputOr settings) (Storage.octetsOf (coefficientText coefficients)) := by
  cases course with
  | invalid refused =>
      rw [refused] at designed
      cases designed
  | notStored designed' refused =>
      obtain rfl := Except.ok.inj (designed.symm.trans designed')
      obtain ⟨reason', failed, rfl⟩ := stored_error refused
      obtain rfl := Except.error.inj (unstored.symm.trans failed)
      exact ⟨rfl, stored_tree refused⟩
  | notAnswered designed' store _ | ended designed' store _ _ =>
      obtain rfl := Except.ok.inj (designed.symm.trans designed')
      rw [stored_ok store] at unstored
      cases unstored

theorem course_designed {outcome : Except CommandError Unit}
    (course : Course arguments settings before outcome after)
    (designed : (arguments.spec settings).design = .ok coefficients) (reason : InvalidSpec) :
    outcome ≠ .error (.design reason) := by
  rintro rfl
  cases course with
  | invalid refused =>
      rw [refused] at designed
      cases designed
  | notStored designed refused =>
      obtain ⟨reason, -, same⟩ := stored_error refused
      cases same
  | notAnswered designed store refused =>
      obtain ⟨path, reason, same⟩ := answered_error refused
      cases same
  | ended designed store answer trace =>
      rcases traced_error trace with ⟨reason, same⟩ | ⟨path, reason, same⟩
      · cases same
      · cases same

theorem course_later {outcome : Except CommandError Unit} {first : Storage}
    (course : Course arguments settings before outcome after)
    (designed : (arguments.spec settings).design = .ok coefficients)
    (store : stored (arguments.outputOr settings) coefficients before = (.ok (), first)) :
    ChangesOnly (arguments.response.toList ++ (arguments.session.map tracePath).toList) first after := by
  cases course with
  | invalid refused =>
      rw [refused] at designed
      cases designed
  | notStored designed' refused =>
      obtain rfl := Except.ok.inj (designed.symm.trans designed')
      rw [refused] at store
      cases store
  | notAnswered designed' store' refused =>
      obtain rfl := Except.ok.inj (designed.symm.trans designed')
      obtain rfl := (Prod.mk.inj (store.symm.trans store')).2
      exact (answered_changes refused).mono (List.subset_append_left ..)
  | ended designed' store' answer trace =>
      obtain rfl := Except.ok.inj (designed.symm.trans designed')
      obtain rfl := (Prod.mk.inj (store.symm.trans store')).2
      exact (answered_changes answer).trans (traced_changes trace)

theorem course_changes {outcome : Except CommandError Unit}
    (course : Course arguments settings before outcome after) :
    ChangesOnly (outputs arguments settings) before after := by
  cases course with
  | invalid refused => exact .refl _ before
  | notStored designed refused => exact (stored_changes refused).mono (by simp [outputs])
  | notAnswered designed store refused =>
      exact ((stored_changes store).trans (answered_changes refused)).mono (by simp [outputs])
  | ended designed store answer trace =>
      exact (stored_changes store).trans ((answered_changes answer).trans (traced_changes trace))

end Accelerometer.Proofs.Command
