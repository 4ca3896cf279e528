import Accelerometer.Proofs.Recording.Reference
import Accelerometer.Proofs.Session.Written

/-!
# A recording does what its reference says

The calls a recording has made of its source determine its counters, its journal and its file, after
each step and not only at its end.

* `handle_ledger`, `step_ledger`: what one step does.
* `advance_ledger`: what any number of steps does.
* `record_created`, `record_failed`: what a run leaves behind.
* `record_follows_reference`: both together, for every source.
-/

namespace Accelerometer.Proofs.Recording
open Accelerometer.Recording Proofs.Serial Proofs.Session
open Accelerometer.Storage (octetsOf)
open Proofs.Storage (Takes Refuses Roomy Secures Unsecured)

variable {σ : Type} {lines : LineStream σ} {settings : RecordingSettings} {source : σ}
  {storage : Storage} {output : Path} {cues : List (Cue LineArrival)} {recording : Recording σ}

def Timely (settings : RecordingSettings) (cues : List (Cue LineArrival)) : Prop :=
  ∀ before cue after, cues = before ++ cue :: after →
    (summaryOf settings before).elapsed < settings.window ∧ Faultless before

structure Kept (settings : RecordingSettings) (storage : Storage) (output : Path)
    (cues : List (Cue LineArrival)) (recording : Recording σ) : Prop where
  summary : recording.summary = summaryOf settings cues
  written : Written storage output (samplesOf settings.encoding (linesOf cues)) recording.file
    recording.storage

structure Overfull (encoding : Encoding) (storage : Storage) (output : Path)
    (cues : List (Cue LineArrival)) (reason : Refusal) : Prop where
  last : ∃ before took line sample, cues = before ++ [⟨took, .line line⟩] ∧
    sampleOf? (encoding.decode line) = some sample ∧
    Takes storage output (sessionSize (samplesOf encoding (linesOf before)))
  refused : Refuses storage output (sessionSize (samplesOf encoding (linesOf cues))) reason

def Standing (lines : LineStream σ) (settings : RecordingSettings) (storage : Storage) (output : Path)
    (cues : List (Cue LineArrival)) (recording : Recording σ) : Prop :=
  match recording.progress with
  | .underway => Kept settings storage output cues recording ∧ Faultless cues
  | .ended => Kept settings storage output cues recording ∧ Faultless cues ∧
      settings.window ≤ (summaryOf settings cues).elapsed ∧ Secures storage output
  | .failed (.cannotRead fault) => Kept settings storage output cues recording ∧
      ∃ before took, cues = before ++ [⟨took, .fault fault⟩]
  | .failed (.cannotWrite path reason) => path = output ∧ Faultless cues ∧
      (Kept settings storage output cues recording ∧
          settings.window ≤ (summaryOf settings cues).elapsed ∧ Unsecured storage output reason ∨
        Overfull settings.encoding storage output cues reason)
  | .failed _ => False
  | .stalled => Kept settings storage output cues recording ∧ Faultless cues ∧
      (summaryOf settings cues).elapsed < settings.window ∧
      lines.nextLine recording.source = none

structure Ledger (lines : LineStream σ) (settings : RecordingSettings) (source : σ)
    (storage : Storage) (output : Path) (cues : List (Cue LineArrival)) (recording : Recording σ) :
    Prop where
  calls : Calls lines source cues recording.source
  timely : Timely settings cues
  events : recording.events = journalOf settings.encoding (linesOf cues)
  tree : recording.storage =
    storage.writtenTo output (octetsOf (sessionText (samplesOf settings.encoding (linesOf cues))))
  standing : Standing lines settings storage output cues recording

theorem Kept.tree (kept : Kept settings storage output cues recording) :
    recording.storage =
      storage.writtenTo output (octetsOf (sessionText (samplesOf settings.encoding (linesOf cues)))) := by
  rw [kept.written.storage_eq, Storage.writtenTo_opens kept.written.opens]

/-! ## One more call -/

theorem timely_append {cue : Cue LineArrival} (timely : Timely settings cues)
    (inTime : (summaryOf settings cues).elapsed < settings.window) (faultless : Faultless cues) :
    Timely settings (cues ++ [cue]) := by
  intro before last after split
  rcases append_singleton_split split with ⟨rfl, rfl, rfl⟩ | ⟨rest, rfl, earlier⟩
  · exact ⟨inTime, faultless⟩
  · exact timely before last rest earlier

theorem faultless_append {cue : Cue LineArrival} (faultless : Faultless cues)
    (good : ∀ fault, cue.outcome ≠ .fault fault) : Faultless (cues ++ [cue]) := by
  intro other member
  rcases List.mem_append.mp member with old | new
  · exact faultless other old
  · rw [List.mem_singleton.mp new]
    exact good

theorem summaryOf_nothing (took : Duration) :
    summaryOf settings (cues ++ [⟨took, .nothing⟩]) =
      { summaryOf settings cues with
        silent := (summaryOf settings cues).silent + 1
        elapsed := (summaryOf settings cues).elapsed + took } := by
  simp [summaryOf, line?]
  exact Nat.add_right_comm ..

theorem summaryOf_fault (took : Duration) (fault : Fault) :
    summaryOf settings (cues ++ [⟨took, .fault fault⟩]) =
      { summaryOf settings cues with elapsed := (summaryOf settings cues).elapsed + took } := by
  simp [summaryOf, line?]
  exact Nat.add_right_comm ..

theorem summaryOf_accepted (took : Duration) {line : List UInt8} {sample : Sample}
    (found : sampleOf? (settings.encoding.decode line) = some sample) :
    summaryOf settings (cues ++ [⟨took, .line line⟩]) =
      { summaryOf settings cues with
        accepted := (summaryOf settings cues).accepted + 1
        elapsed := (summaryOf settings cues).elapsed + took } := by
  simp [summaryOf, line?, samplesOf_accepted found, droppedOf_accepted found]
  exact Nat.add_right_comm ..

theorem summaryOf_dropped (took : Duration) {line : List UInt8}
    (none : sampleOf? (settings.encoding.decode line) = none) :
    summaryOf settings (cues ++ [⟨took, .line line⟩]) =
      { summaryOf settings cues with
        dropped := (summaryOf settings cues).dropped + 1
        elapsed := (summaryOf settings cues).elapsed + took + settings.dropTime } := by
  simp [summaryOf, line?, samplesOf_dropped none, droppedOf_dropped none, Nat.mul_add]
  rw [← Nat.add_assoc, Nat.add_right_comm _ took]

/-! ## One step -/

@[simp] theorem accept_source (recording : Recording σ) (sample : Sample) :
    (recording.accept sample).source = recording.source := by
  unfold accept
  split <;> rfl

@[simp] theorem accept_events (recording : Recording σ) (sample : Sample) :
    (recording.accept sample).events = recording.events := by
  unfold accept
  split <;> rfl

theorem conclude_same (recording : Recording σ) :
    recording.conclude.source = recording.source ∧ recording.conclude.events = recording.events ∧
      recording.conclude.storage = recording.storage ∧
      recording.conclude.progress ≠ .underway := by
  unfold conclude
  split <;> exact ⟨rfl, rfl, rfl, nofun⟩

theorem begin_ledger (lines : LineStream σ) (settings : RecordingSettings) (source : σ)
    {file : SessionFile} {opened : Storage}
    (created : SessionFile.create storage output = .ok (file, opened)) :
    Ledger lines settings source storage output [] (begin source file opened) := by
  have kept : Kept settings storage output [] (begin source file opened) :=
    ⟨rfl, create_written created⟩
  exact ⟨.none source, by simp [Timely], rfl, kept.tree, kept, by simp [Faultless]⟩

theorem accept_standing (lines : LineStream σ) {took : Duration} {line : List UInt8} {sample : Sample}
    (found : sampleOf? (settings.encoding.decode line) = some sample)
    (underway : recording.progress = .underway)
    (summary : recording.summary =
      { summaryOf settings cues with elapsed := (summaryOf settings cues).elapsed + took })
    (written : Written storage output (samplesOf settings.encoding (linesOf cues)) recording.file
      recording.storage)
    (faultless : Faultless (cues ++ [⟨took, .line line⟩])) :
    Standing lines settings storage output (cues ++ [⟨took, .line line⟩]) (recording.accept sample) ∧
      (recording.accept sample).storage = storage.writtenTo output
        (octetsOf (sessionText
          (samplesOf settings.encoding (linesOf (cues ++ [⟨took, .line line⟩]))))) := by
  have samples : samplesOf settings.encoding (linesOf (cues ++ [⟨took, .line line⟩])) =
      samplesOf settings.encoding (linesOf cues) ++ [sample] := by
    simp [line?, samplesOf_accepted found]
  rcases write_ways written sample with ⟨file, after, wrote, written'⟩ | ⟨reason, failed, refused⟩
  · have kept : Kept settings storage output (cues ++ [⟨took, .line line⟩])
        (recording.accept sample) := by
      refine ⟨?_, ?_⟩
      · simp only [accept, wrote, summary]
        exact (summaryOf_accepted took found).symm
      · rw [samples]
        simpa only [accept, wrote] using written'
    have goesOn : (recording.accept sample).progress = .underway := by
      simp only [accept, wrote, underway]
    refine ⟨?_, kept.tree⟩
    simp only [Standing, goesOn]
    exact ⟨kept, faultless⟩
  · have stops : (recording.accept sample).progress = .failed (.cannotWrite output reason) := by
      simp only [accept, failed]
    have tree : (recording.accept sample).storage =
        recording.storage.appended recording.file.handle (octetsOf sample.row) := by
      simp only [accept, failed]
    refine ⟨?_, by rw [samples, tree, appended_row written, Storage.writtenTo_opens written.opens]⟩
    simp only [Standing, stops]
    refine ⟨trivial, faultless, .inr ⟨⟨cues, took, line, sample, rfl, found, ?_⟩, ?_⟩⟩
    · exact ⟨_, written.opens, written.fits⟩
    · rwa [samples]

theorem handle_ledger (ledger : Ledger lines settings source storage output cues recording)
    (underway : recording.progress = .underway)
    (inTime : recording.summary.elapsed < settings.window) {read : Read σ LineArrival}
    (came : lines.nextLine recording.source = some read) :
    Ledger lines settings source storage output (cues ++ [⟨read.took, read.outcome⟩])
      (handle settings
        { recording with
          source := read.source
          summary := { recording.summary with elapsed := recording.summary.elapsed + read.took } }
        read.outcome) := by
  obtain ⟨calls, timely, events, tree, standing⟩ := ledger
  obtain ⟨outcome, took, next⟩ := read
  -- the call itself is the same for every outcome; file, journal and counters differ
  simp only [Standing, underway] at standing
  obtain ⟨⟨summary, written⟩, faultless⟩ := standing
  rw [summary] at inTime ⊢
  have calls' := Calls.more calls came
  have timely' : Timely settings (cues ++ [⟨took, outcome⟩]) := timely_append timely inTime faultless
  cases outcome with
  | nothing =>
      have none : linesOf (cues ++ [⟨took, .nothing⟩]) = linesOf cues := by simp [line?]
      refine ⟨calls', timely', ?_, ?_, ?_⟩
      · simpa [handle, skip, none] using events
      · simpa [handle, skip, none] using tree
      · simp only [handle, skip, Standing, underway]
        exact ⟨⟨(summaryOf_nothing took).symm, by simpa [none] using written⟩,
          faultless_append faultless (by simp)⟩
  | fault fault =>
      have none : linesOf (cues ++ [⟨took, .fault fault⟩]) = linesOf cues := by simp [line?]
      refine ⟨calls', timely', ?_, ?_, ?_⟩
      · simpa [handle, none] using events
      · simpa [handle, none] using tree
      · simp only [handle, Standing]
        exact ⟨⟨(summaryOf_fault took fault).symm, by simpa [none] using written⟩, cues, took, rfl⟩
  | line octets =>
      have faultless' : Faultless (cues ++ [⟨took, .line octets⟩]) :=
        faultless_append faultless (by simp)
      simp only [handle, parse_lineText]
      cases found : sampleOf? (settings.encoding.decode octets) with
      | none =>
          have same : samplesOf settings.encoding (linesOf (cues ++ [⟨took, .line octets⟩])) =
              samplesOf settings.encoding (linesOf cues) := by
            simp [line?, samplesOf_dropped found]
          refine ⟨calls', timely', ?_, ?_, ?_⟩
          · simp [drop, events, journalOf, line?, droppedOf_dropped found]
          · rw [same]
            exact tree
          · simp only [drop, Standing, underway]
            exact ⟨⟨(summaryOf_dropped took found).symm, same ▸ written⟩, faultless'⟩
      | some sample =>
          let elapsed := (summaryOf settings cues).elapsed + took
          let summary := { summaryOf settings cues with elapsed }
          have underway' : { recording with source := next, summary }.progress = .underway := underway
          obtain ⟨standing', tree'⟩ := accept_standing lines found underway' rfl written faultless'
          refine ⟨?_, timely', ?_, tree', standing'⟩
          · simpa only [accept_source] using calls'
          · rw [accept_events]
            simp [events, journalOf, line?, droppedOf_accepted found]

theorem conclude_standing (lines : LineStream σ) (kept : Kept settings storage output cues recording)
    (faultless : Faultless cues) (past : settings.window ≤ (summaryOf settings cues).elapsed) :
    Standing lines settings storage output cues recording.conclude := by
  rcases finish_ways kept.written with ⟨done, secures⟩ | ⟨reason, failed, unsecured⟩
  · simp only [conclude, done, Standing]
    exact ⟨⟨kept.summary, kept.written⟩, faultless, past, secures⟩
  · simp only [conclude, failed, Standing]
    exact ⟨trivial, faultless, .inl ⟨⟨kept.summary, kept.written⟩, past, unsecured⟩⟩

theorem step_ledger (ledger : Ledger lines settings source storage output cues recording)
    (underway : recording.progress = .underway) :
    ∃ more, Ledger lines settings source storage output (cues ++ more)
        (recording.step lines settings) ∧
      ((recording.step lines settings).progress = .underway → more.length = 1) := by
  have standing := ledger.standing
  simp only [Standing, underway] at standing
  obtain ⟨kept, faultless⟩ := standing
  simp only [step, underway]
  by_cases past : settings.window ≤ recording.summary.elapsed
  · rw [if_pos past]
    obtain ⟨source', events, tree, stops⟩ := conclude_same recording
    refine ⟨[], ?_, fun still => absurd still stops⟩
    rw [List.append_nil]
    rw [kept.summary] at past
    exact ⟨source' ▸ ledger.calls, ledger.timely, events.trans ledger.events, tree.trans ledger.tree,
      conclude_standing lines kept faultless past⟩
  · rw [if_neg past]
    have inTime := Nat.lt_of_not_le past
    cases came : lines.nextLine recording.source with
    | none =>
        refine ⟨[], ?_, nofun⟩
        rw [List.append_nil]
        exact { ledger with
          standing := ⟨⟨kept.summary, kept.written⟩, faultless, kept.summary ▸ inTime, came⟩ }
    | some read =>
        refine ⟨[⟨read.took, read.outcome⟩], ?_, fun _ => rfl⟩
        have handled := handle_ledger ledger underway inTime came
        rwa [underway] at handled

/-! ## A run -/

theorem advance_past (past : recording.progress ≠ .underway) (steps : Nat) :
    recording.advance lines settings steps = recording := by
  cases steps with
  | zero => rfl
  | succ steps => exact if_neg past

theorem advance_ledger (ledger : Ledger lines settings source storage output cues recording)
    (steps : Nat) :
    ∃ more, Ledger lines settings source storage output (cues ++ more)
        (recording.advance lines settings steps) ∧
      ((recording.advance lines settings steps).progress = .underway → more.length = steps) := by
  induction steps generalizing cues recording with
  | zero => exact ⟨[], by simpa [advance] using ledger, fun _ => rfl⟩
  | succ steps ih =>
      unfold advance
      split
      · rename_i underway
        obtain ⟨one, stepped, single⟩ := step_ledger ledger underway
        obtain ⟨more, ran, length⟩ := ih stepped
        refine ⟨one ++ more, by rwa [← List.append_assoc], ?_⟩
        intro still
        -- a recording that is still underway has been so after its first step
        have first : (recording.step lines settings).progress = .underway := by
          by_contra past
          rw [advance_past past] at still
          exact past still
        rw [List.length_append, length still, single first, Nat.add_comm]
      · rename_i past
        exact ⟨[], by simpa using ledger, fun underway => absurd underway past⟩

def Concludes (lines : LineStream σ) (settings : RecordingSettings) (steps : Nat) (storage : Storage)
    (output : Path) (cues : List (Cue LineArrival)) (after : σ) : Except CaptureError Summary → Prop
  | .ok summary => Faultless cues ∧ settings.window ≤ summary.elapsed ∧
      summary = summaryOf settings cues ∧
      summary.accepted + summary.dropped + summary.silent = cues.length ∧ Secures storage output
  | .error (.cannotRead fault) => ∃ before took, cues = before ++ [⟨took, .fault fault⟩]
  | .error (.cannotWrite path reason) => path = output ∧ Faultless cues ∧
      (settings.window ≤ (summaryOf settings cues).elapsed ∧ Unsecured storage output reason ∨
        Overfull settings.encoding storage output cues reason)
  | .error .endless => Faultless cues ∧
      (cues.length = steps ∨
        (summaryOf settings cues).elapsed < settings.window ∧ lines.nextLine after = none)
  | .error (.cannotOpen ..) => False

/-- What a run leaves behind is what the reference makes of the given calls. Its file has all rows, unless
the last one was refused: then it has the front of them that there is room for. -/
structure Follows (lines : LineStream σ) (settings : RecordingSettings) (steps : Nat) (source : σ)
    (storage : Storage) (output : Path) (cues : List (Cue LineArrival)) (result : RunResult σ) :
    Prop where
  calls : Calls lines source cues result.source
  timely : Timely settings cues
  tree : result.storage =
    storage.writtenTo output (octetsOf (sessionText (samplesOf settings.encoding (linesOf cues))))
  content : Holds storage output (samplesOf settings.encoding (linesOf cues)) result.storage ∨
    ∃ reason, result.outcome = .error (.cannotWrite output reason) ∧
      Overfull settings.encoding storage output cues reason
  events : result.events = .recordingStarted settings.encoding output ::
    journalOf settings.encoding (linesOf cues)
  texts : result.events.tail.map Event.text =
    (droppedOf settings.encoding (linesOf cues)).map fun line =>
      "DEBUG dropping line with " ++ toString (wordCount settings.encoding line) ++ " tokens: " ++
        .ofList (Text.hexOctets line)
  outcome : Concludes lines settings steps storage output cues result.source result.outcome

theorem lineDropped_text (words : Nat) (line : List UInt8) :
    (Event.lineDropped words line).text =
      "DEBUG dropping line with " ++ toString words ++ " tokens: " ++
        .ofList (Text.hexOctets line) := by
  have front : "DEBUG" ++ " " ++ "dropping line with " = "DEBUG dropping line with " := by decide
  show "DEBUG" ++ " " ++ ("dropping line with " ++ toString words ++ " tokens: " ++
    .ofList (Text.hexOctets line)) = _
  rw [← String.append_assoc, ← String.append_assoc, ← String.append_assoc, front]

theorem record_failed (lines : LineStream σ) (settings : RecordingSettings) (source : σ)
    {error : CaptureError} (failed : SessionFile.create storage output = .error error) (steps : Nat) :
    record lines settings steps source storage output =
      ⟨.error error, source, storage.writtenTo output (octetsOf Sample.header), []⟩ := by
  rw [record, failed]

theorem standing_concludes (steps : Nat)
    (ledger : Ledger lines settings source storage output cues recording)
    (length : recording.progress = .underway → cues.length = steps) :
    let outcome : Except CaptureError Summary := match recording.progress with
      | .ended => .ok recording.summary
      | .failed error => .error error
      | .underway | .stalled => .error .endless
    Concludes lines settings steps storage output cues recording.source outcome ∧
      (Holds storage output (samplesOf settings.encoding (linesOf cues)) recording.storage ∨
        ∃ reason, outcome = .error (.cannotWrite output reason) ∧
          Overfull settings.encoding storage output cues reason) := by
  have standing := ledger.standing
  unfold Standing at standing
  cases progress : recording.progress with
  | underway =>
      rw [progress] at standing
      exact ⟨⟨standing.2, .inl (length progress)⟩, .inl (holds_of_written standing.1.written)⟩
  | ended =>
      rw [progress] at standing
      obtain ⟨kept, faultless, past, secures⟩ := standing
      refine ⟨?_, .inl (holds_of_written kept.written)⟩
      simp only [kept.summary]
      exact ⟨faultless, past, rfl, summaryOf_calls faultless, secures⟩
  | failed error =>
      rw [progress] at standing
      cases error with
      | cannotRead fault => exact ⟨standing.2, .inl (holds_of_written standing.1.written)⟩
      | cannotWrite path reason =>
          obtain ⟨rfl, faultless, ⟨kept, past, unsecured⟩ | overfull⟩ := standing
          · exact ⟨⟨rfl, faultless, .inl ⟨past, unsecured⟩⟩, .inl (holds_of_written kept.written)⟩
          · exact ⟨⟨rfl, faultless, .inr overfull⟩, .inr ⟨reason, rfl, overfull⟩⟩
      | cannotOpen device reason => exact standing.elim
      | endless => exact standing.elim
  | stalled =>
      rw [progress] at standing
      exact ⟨⟨standing.2.1, .inr standing.2.2⟩, .inl (holds_of_written standing.1.written)⟩

theorem record_created (lines : LineStream σ) (settings : RecordingSettings) (source : σ)
    {file : SessionFile} {opened : Storage}
    (created : SessionFile.create storage output = .ok (file, opened)) (steps : Nat) :
    ∃ cues, Follows lines settings steps source storage output cues
      (record lines settings steps source storage output) := by
  obtain ⟨cues, ledger, length⟩ := advance_ledger (begin_ledger lines settings source created) steps
  simp only [record, created]
  generalize (begin source file opened).advance lines settings steps = last at ledger length
  rw [List.nil_append] at ledger
  obtain ⟨outcome, content⟩ := standing_concludes steps ledger length
  refine ⟨cues, ledger.calls, ledger.timely, ledger.tree, content, by rw [ledger.events], ?_, outcome⟩
  rw [ledger.events, journalOf, List.tail_cons, List.map_map]
  apply List.map_congr_left
  intro line _
  exact lineDropped_text (wordCount settings.encoding line) line

theorem record_takes (lines : LineStream σ) (settings : RecordingSettings) (steps : Nat) (source : σ)
    (takes : Takes storage output (sessionSize [])) :
    ∃ cues, Follows lines settings steps source storage output cues
      (record lines settings steps source storage output) :=
  have ⟨_, _, created⟩ := create_takes takes
  record_created lines settings source created steps

/-- What a run has written holds the rows of all its samples, unless it has failed for want of room. -/
theorem follows_holds {result : RunResult σ} {steps : Nat}
    (follows : Follows lines settings steps source storage output cues result)
    (made : ∀ reason, result.outcome = .error (.cannotWrite output reason) → Roomy storage output) :
    Holds storage output (samplesOf settings.encoding (linesOf cues)) result.storage := by
  refine follows.content.resolve_right ?_
  rintro ⟨reason, failed, overfull⟩
  exact Storage.not_refused_of_takes ((made reason failed).takes _) reason overfull.refused

theorem record_writable (lines : LineStream σ) (settings : RecordingSettings) (steps : Nat)
    (source : σ) (storage : Storage) (output : Path)
    (made : ∀ reason, (record lines settings steps source storage output).outcome =
      .error (.cannotWrite output reason) → Roomy storage output) :
    ∃ cues, Follows lines settings steps source storage output cues
        (record lines settings steps source storage output) ∧
      Holds storage output (samplesOf settings.encoding (linesOf cues))
        (record lines settings steps source storage output).storage := by
  cases created : SessionFile.create storage output with
  | error error =>
      obtain ⟨reason, rfl, refused⟩ := create_error created
      rw [record_failed lines settings source created] at made
      obtain ⟨file, opened, created'⟩ := create_takes ((made reason rfl).takes (sessionSize []))
      rw [created] at created'
      cases created'
  | ok opened =>
      obtain ⟨cues, follows⟩ := record_created lines settings source created steps
      exact ⟨cues, follows, follows_holds follows made⟩

theorem roomy_of_ok {result : RunResult σ} {summary : Summary} (ended : result.outcome = .ok summary)
    (reason : Refusal) (failed : result.outcome = .error (.cannotWrite output reason)) :
    Roomy storage output := by
  rw [ended] at failed
  cases failed

/-- Whatever the source does, a run that cannot make its file, or not write the header, reports that and
asks for no line. Otherwise it asks for a line exactly as long as its window is open and no call or row has
failed; and after any number of steps the file holds the header and the rows of the samples so far, in
order, while the journal and the counters speak of the same calls. In the end the content is secured, or
the run fails. -/
theorem record_follows_reference (lines : LineStream σ) (settings : RecordingSettings) (steps : Nat)
    (source : σ) (storage : Storage) (output : Path) :
    let run := record lines settings steps source storage output
    (¬Takes storage output (sessionSize []) → ∃ reason,
      (storage.create output = .error reason ∨ Refuses storage output (sessionSize []) reason) ∧
      run = ⟨.error (.cannotWrite output reason), source,
        storage.writtenTo output (octetsOf Sample.header), []⟩) ∧
    (Takes storage output (sessionSize []) →
      ∃ cues, Follows lines settings steps source storage output cues run) := by
  intro run
  refine ⟨?_, record_takes lines settings steps source⟩
  intro refused
  cases created : SessionFile.create storage output with
  | ok opened => exact absurd (takes_of_created created) refused
  | error error =>
      obtain ⟨reason, rfl, why⟩ := create_error created
      exact ⟨reason, why, record_failed lines settings source created steps⟩

end Accelerometer.Proofs.Recording
