import Accelerometer.Command
import Accelerometer.Proofs.Storage.Places

/-!
# Outcomes of commands

* `Leaves`: the outcome of a command that is carried out over a tree, and the tree it leaves.
* `leaves_bind_ok`, `leaves_bind_error`: a command after another.
* `Acts`, `write_acts`: a command that leaves a tree that a function tells, also if it fails.
-/

namespace Accelerometer.Proofs.Command
open Accelerometer.Command Proofs.Storage

variable {α β ε : Type} {before middle after : Storage} {command : Command α} {next : α → Command β}
  {result : α} {error : CommandError}

/-- Whatever else there is in the world, a command over the tree `before` has the outcome and leaves the
tree `after`. -/
def Leaves (command : Command α) (before : Storage) (outcome : Except CommandError α)
    (after : Storage) : Prop :=
  ∀ world : World, world.storage = before →
    (perform command world).1 = outcome ∧ (perform command world).2.storage = after

theorem run_bind {σ : Type} (first : ExceptT ε (StateM σ) α) (next : α → ExceptT ε (StateM σ) β)
    (state : σ) :
    (first >>= next).run.run state =
      match first.run.run state with
      | (.ok result, state) => (next result).run.run state
      | (.error error, state) => (.error error, state) := by
  rw [ExceptT.run_bind, StateT.run_bind]
  change (match first.run.run state with | (a, s) => _) = _
  rcases first.run.run state with ⟨outcome, state'⟩
  cases outcome <;> rfl

theorem perform_bind (command : Command α) (next : α → Command β) (world : World) :
    perform (command >>= next) world =
      match perform command world with
      | (.ok result, world) => perform (next result) world
      | (.error error, world) => (.error error, world) := by
  unfold perform
  rw [run_bind]
  rcases command.run.run world with ⟨outcome, world'⟩
  cases outcome <;> rfl

/-! ## Sequences -/

theorem leaves_bind_ok {outcome : Except CommandError β} (first : Leaves command before (.ok result) middle)
    (rest : Leaves (next result) middle outcome after) :
    Leaves (command >>= next) before outcome after := by
  intro world here
  obtain ⟨came, left⟩ := first world here
  have split : perform command world = (.ok result, (perform command world).2) := by rw [← came]
  rw [perform_bind, split]
  exact rest _ left

theorem leaves_bind_error (failed : Leaves command before (.error error) after) :
    Leaves (command >>= next) before (.error error) after := by
  intro world here
  obtain ⟨came, left⟩ := failed world here
  have split : perform command world = (.error error, (perform command world).2) := by rw [← came]
  rw [perform_bind, split]
  exact ⟨rfl, left⟩

theorem leaves_pure (result : α) (before : Storage) :
    Leaves (pure result) before (.ok result) before :=
  fun _ here => ⟨rfl, here⟩

theorem leaves_get {next : World → Command β} {outcome : Except CommandError β}
    (rest : ∀ world, world.storage = before → Leaves (next world) before outcome after) :
    Leaves (get >>= next) before outcome after :=
  fun world here => rest world here world here

theorem orFail_leaves_ok {failure : ε → CommandError} {attempt : Except ε α}
    (succeeded : attempt = .ok result) :
    Leaves (orFail failure attempt) before (.ok result) before := by
  subst succeeded
  exact leaves_pure result before

theorem orFail_leaves_error {failure : ε → CommandError} {attempt : Except ε α} {reason : ε}
    (failed : attempt = .error reason) :
    Leaves (orFail failure attempt) before (.error (failure reason)) before := by
  subst failed
  exact fun _ here => ⟨rfl, here⟩

/-! ## Attempts -/

theorem mapError_eq_ok {δ : Type} {attempt : Except δ α} {failure : δ → ε} :
    attempt.mapError failure = .ok result ↔ attempt = .ok result := by
  constructor
  · intro succeeded
    cases attempt with
    | ok result => exact congrArg Except.ok (Except.ok.inj succeeded)
    | error reason => cases succeeded
  · rintro rfl
    rfl

theorem mapError_eq_error {δ : Type} {attempt : Except δ α} {failure : δ → ε} {reported : ε} :
    attempt.mapError failure = .error reported ↔
      ∃ reason, attempt = .error reason ∧ reported = failure reason := by
  constructor
  · intro failed
    cases attempt with
    | ok result => cases failed
    | error reason => exact ⟨reason, rfl, (Except.error.inj failed).symm⟩
  · rintro ⟨reason, rfl, rfl⟩
    rfl

theorem perform_refused {failure : ε → CommandError} {attempt : Except ε α} {reason : ε}
    (refused : attempt = .error reason) (next : α → Command β) (world : World) :
    perform (orFail failure attempt >>= next) world = (.error (failure reason), world) := by
  subst refused
  rfl

theorem perform_granted {failure : ε → CommandError} {attempt : Except ε α}
    (granted : attempt = .ok result) (next : α → Command β) (world : World) :
    perform (orFail failure attempt >>= next) world = perform (next result) world := by
  subst granted
  rfl

theorem perform_get (next : World → Command β) (world : World) :
    perform (get >>= next) world = perform (next world) world :=
  rfl

/-! ## Single actions -/

theorem print_leaves (line : String) (before : Storage) : Leaves (print line) before (.ok ()) before :=
  fun _ here => ⟨rfl, here⟩

theorem note_leaves (events : List Event) (before : Storage) :
    Leaves (note events) before (.ok ()) before :=
  fun _ here => ⟨rfl, here⟩

theorem keep_leaves (before after : Storage) : Leaves (keep after) before (.ok ()) after :=
  fun _ _ => ⟨rfl, rfl⟩

/-! ## Commands as functions of the tree -/

def Acts (command : Command Unit) (act : Storage → Except CommandError Unit × Storage) : Prop :=
  ∀ before, Leaves command before (act before).1 (act before).2

theorem nothing_acts : Acts (pure ()) fun storage => (.ok (), storage) :=
  leaves_pure ()

def written (path : Path) (text : String) (storage : Storage) : Except CommandError Unit × Storage :=
  (((storage.write path text).mapError (.output path)).map fun _ => (),
    storage.writtenTo path (Storage.octetsOf text))

theorem written_ok {path : Path} {text : String} (done : written path text before = (.ok (), after)) :
    before.write path text = .ok after := by
  obtain ⟨outcome, tree⟩ := Prod.mk.inj done
  cases wrote : before.write path text with
  | error reason =>
      rw [wrote] at outcome
      cases outcome
  | ok after' => rw [← tree, writeOctets_writtenTo wrote]

theorem written_error {path : Path} {text : String}
    (refused : written path text before = (.error error, after)) :
    ∃ reason, before.write path text = .error reason ∧ error = .output path reason := by
  have outcome := (Prod.mk.inj refused).1
  cases wrote : before.write path text with
  | error reason =>
      rw [wrote] at outcome
      exact ⟨reason, rfl, (Except.error.inj outcome).symm⟩
  | ok after' =>
      rw [wrote] at outcome
      cases outcome

theorem write_acts (path : Path) (text : String) : Acts (write path text) (written path text) := by
  intro before
  apply leaves_get
  rintro world rfl
  apply leaves_bind_ok (keep_leaves _ _)
  intro world' here
  rw [written]
  cases world.storage.write path text <;> exact ⟨rfl, here⟩

theorem Acts.print {command : Command Unit} {act : Storage → Except CommandError Unit × Storage}
    (acts : Acts command act) (line : String) : Acts (do command; print line) act := by
  intro before
  have first := acts before
  cases outcome : (act before).1 with
  | ok =>
      rw [outcome] at first
      exact leaves_bind_ok first (print_leaves line _)
  | error error =>
      rw [outcome] at first
      exact leaves_bind_error first

end Accelerometer.Proofs.Command
