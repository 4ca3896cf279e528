import Accelerometer.Proofs.Recording.Ledger

/-!
# One recording after the other

Two recordings of one source, the second of which begins where the first has ended, make the same
calls as one recording whose window is over with the second.

* `follows_calls`: calls that fill a window are those of a run with this window.
* `timely_joined`: the calls of two windows, as calls of one.
* `consecutive_runs_joined`: both runs, and the run that joins them.
-/

namespace Accelerometer.Proofs.Recording
open Proofs.Serial Proofs.Session
open Proofs.Storage (Opens Roomy Secures Takes)

variable {σ : Type} {lines : LineStream σ} {settings : RecordingSettings} {source after : σ}
  {storage : Storage} {output : Path} {cues more : List (Cue LineArrival)} {steps : Nat}

def callCount (summary : Summary) : Nat :=
  summary.accepted + summary.dropped + summary.silent

def joined (earlier later : Summary) : Summary where
  accepted := earlier.accepted + later.accepted
  dropped := earlier.dropped + later.dropped
  silent := earlier.silent + later.silent
  elapsed := earlier.elapsed + later.elapsed

theorem waits_from (start : Duration) (cues : List (Cue LineArrival)) :
    cues.foldl (fun spent cue => spent + cue.wait) start =
      start + cues.foldl (fun spent cue => spent + cue.wait) 0 := by
  induction cues generalizing start with
  | nil => rfl
  | cons cue cues ih =>
      rw [List.foldl_cons, List.foldl_cons, ih (start + cue.wait), ih (0 + cue.wait), Nat.zero_add,
        Nat.add_assoc]

theorem summaryOf_append (settings : RecordingSettings) (cues more : List (Cue LineArrival)) :
    summaryOf settings (cues ++ more) = joined (summaryOf settings cues) (summaryOf settings more) := by
  simp only [summaryOf, joined, linesOf_append, samplesOf_append, droppedOf_append,
    List.length_append, List.countP_append, List.foldl_append, Summary.mk.injEq, true_and]
  rw [waits_from, Nat.mul_add]
  exact Nat.add_add_add_comm ..

/-! ## The calls of a run -/

theorem ok_of_concludes {outcome : Except CaptureError Summary}
    (concludes : Concludes lines settings steps storage output cues after outcome)
    (takes : Takes storage output (sessionSize (samplesOf settings.encoding (linesOf cues))))
    (secures : Secures storage output) (faultless : Faultless cues) (enough : cues.length < steps)
    (goesOn : settings.window ≤ (summaryOf settings cues).elapsed ∨ lines.nextLine after ≠ none) :
    outcome = .ok (summaryOf settings cues) ∧
      settings.window ≤ (summaryOf settings cues).elapsed := by
  cases outcome with
  | ok summary =>
      obtain ⟨-, full, rfl, -⟩ := concludes
      exact ⟨rfl, full⟩
  | error error =>
      cases error with
      | cannotRead fault =>
          obtain ⟨before, took, rfl⟩ := concludes
          exact absurd rfl (faultless ⟨took, .fault fault⟩ (by simp) fault)
      | endless =>
          rcases concludes.2 with out | ⟨early, silent⟩
          · exact absurd out (Nat.ne_of_lt enough)
          · rcases goesOn with full | came
            · exact absurd early (Nat.not_lt.mpr full)
            · exact absurd silent came
      | cannotOpen device reason => exact concludes.elim
      | cannotWrite path reason =>
          rcases concludes.2.2 with ⟨-, unsecured⟩ | overfull
          · exact absurd unsecured (Storage.not_unsecured secures reason)
          · exact absurd overfull.refused (Storage.not_refused_of_takes takes reason)

theorem follows_calls
    (takes : Takes storage output (sessionSize (samplesOf settings.encoding (linesOf cues))))
    (secures : Secures storage output) (made : Calls lines source cues after)
    (timely : Timely settings cues) (faultless : Faultless cues)
    (full : settings.window ≤ (summaryOf settings cues).elapsed) (enough : cues.length < steps) :
    let run := record lines settings steps source storage output
    run.outcome = .ok (summaryOf settings cues) ∧ run.source = after ∧
      Follows lines settings steps source storage output cues run := by
  intro run
  have start := takes.mono (le_sessionSize_append [] _)
  obtain ⟨cues', follows⟩ := record_takes lines settings steps source start
  -- the run stops neither behind the last of the calls nor before it
  have same : cues = cues' ∧ after = run.source := by
    rcases Nat.lt_trichotomy cues.length cues'.length with longer | equal | shorter
    · obtain ⟨cue, rest, -, rfl, -⟩ := calls_extend made follows.calls longer
      exact absurd (follows.timely cues cue rest rfl).1 (Nat.not_lt.mpr full)
    · exact calls_unique made follows.calls equal
    · obtain ⟨cue, rest, next, rfl, came⟩ := calls_extend follows.calls made shorter
      obtain ⟨early, faultless'⟩ := timely cues' cue rest rfl
      rw [linesOf_append, samplesOf_append] at takes
      have ended := ok_of_concludes follows.outcome (takes.mono (le_sessionSize_append ..)) secures
        faultless' (Nat.lt_trans shorter enough) (.inr (by rw [came]; exact Option.some_ne_none _))
      exact absurd early (Nat.not_lt.mpr ended.2)
  obtain ⟨rfl, rfl⟩ := same
  have ended := ok_of_concludes follows.outcome takes secures faultless enough (.inl full)
  exact ⟨ended.1, rfl, follows⟩

theorem ended_holds {summary : Summary}
    (ended : (record lines settings steps source storage output).outcome = .ok summary) :
    let run := record lines settings steps source storage output
    ∃ cues, Follows lines settings steps source storage output cues run ∧
      Concludes lines settings steps storage output cues run.source (.ok summary) ∧
      run.storage.readOctets output =
        .ok (Storage.octetsOf (sessionText (samplesOf settings.encoding (linesOf cues)))) := by
  intro run
  obtain ⟨cues, follows, holds⟩ :=
    record_writable lines settings steps source storage output (roomy_of_ok ended)
  have concludes := follows.outcome
  rw [ended] at concludes
  exact ⟨cues, follows, concludes, holds.1 concludes.2.2.2.2.noSink⟩

/-! ## Two windows -/

theorem faultless_joined (faultless : Faultless cues) (faultless' : Faultless more) :
    Faultless (cues ++ more) := by
  intro cue member
  rcases List.mem_append.mp member with old | new
  · exact faultless cue old
  · exact faultless' cue new

variable {window window' dropTime : Duration} {encoding : Encoding}

theorem timely_joined (timely : Timely ⟨window, encoding, dropTime⟩ cues)
    (faultless : Faultless cues)
    (full : window ≤ (summaryOf ⟨window, encoding, dropTime⟩ cues).elapsed)
    (timely' : Timely ⟨window', encoding, dropTime⟩ more) :
    Timely ⟨(summaryOf ⟨window, encoding, dropTime⟩ cues).elapsed + window', encoding, dropTime⟩
      (cues ++ more) := by
  have later : ∀ between cue rest, more = between ++ cue :: rest →
      (summaryOf ⟨window, encoding, dropTime⟩ (cues ++ between)).elapsed <
        (summaryOf ⟨window, encoding, dropTime⟩ cues).elapsed + window' ∧
      Faultless (cues ++ between) := by
    intro between cue rest split
    obtain ⟨inTime, faultless'⟩ := timely' between cue rest split
    rw [summaryOf_append]
    exact ⟨Nat.add_lt_add_left inTime _, faultless_joined faultless faultless'⟩
  intro before cue rest split
  rcases List.append_eq_append_iff.mp split with ⟨between, rfl, split'⟩ | ⟨between, split', rest'⟩
  · exact later between cue rest split'
  · cases between with
    | nil =>
        rw [List.append_nil] at split'
        subst split'
        have begun := later [] cue rest rest'.symm
        rwa [List.append_nil] at begun
    | cons first others =>
        obtain ⟨inTime, faultless'⟩ := timely before first others split'
        exact ⟨Nat.lt_of_lt_of_le inTime (Nat.le_add_right_of_le full), faultless'⟩

/-- A source that is recorded twice, the second time from where the first recording has left it, is
recorded by one run as well, whose window is the time that the first one has taken and the window of
the second, if its output has room for what the two files hold and can be secured. It makes the calls of
the first and then those of the second, so that its file has the samples of the first file and then those
of the second, its counters are the sums, and it leaves the source in the same state. -/
theorem consecutive_runs_joined (lines : LineStream σ) (encoding : Encoding)
    (dropTime window window' : Duration) (steps steps' enough : Nat) (source : σ)
    (storage storage' wholeStorage : Storage) (output output' wholeOutput : Path)
    (summary summary' : Summary)
    (ended : (record lines ⟨window, encoding, dropTime⟩ steps source storage output).outcome =
      .ok summary)
    (ended' : (record lines ⟨window', encoding, dropTime⟩ steps'
      (record lines ⟨window, encoding, dropTime⟩ steps source storage output).source storage'
        output').outcome = .ok summary')
    (takes : ∀ content content',
      (record lines ⟨window, encoding, dropTime⟩ steps source storage output).storage.readOctets
        output = .ok content →
      (record lines ⟨window', encoding, dropTime⟩ steps'
        (record lines ⟨window, encoding, dropTime⟩ steps source storage output).source storage'
          output').storage.readOctets output' = .ok content' →
      Takes wholeStorage wholeOutput (content.length + content'.length))
    (secures : Secures wholeStorage wholeOutput)
    (room : callCount summary + callCount summary' < enough) :
    let first := record lines ⟨window, encoding, dropTime⟩ steps source storage output
    let second := record lines ⟨window', encoding, dropTime⟩ steps' first.source storage' output'
    let settings : RecordingSettings := ⟨summary.elapsed + window', encoding, dropTime⟩
    let whole := record lines settings enough source wholeStorage wholeOutput
    let session (samples : List Sample) := Storage.octetsOf (sessionText samples)
    whole.outcome = .ok (joined summary summary') ∧ whole.source = second.source ∧
    ∃ cues cues',
      Follows lines ⟨window, encoding, dropTime⟩ steps source storage output cues first ∧
      Follows lines ⟨window', encoding, dropTime⟩ steps' first.source storage' output' cues' second ∧
      Follows lines settings enough source wholeStorage wholeOutput (cues ++ cues') whole ∧
      first.storage.readOctets output = .ok (session (samplesOf encoding (linesOf cues))) ∧
      second.storage.readOctets output' = .ok (session (samplesOf encoding (linesOf cues'))) ∧
      whole.storage.readOctets wholeOutput = .ok (session
        (samplesOf encoding (linesOf cues) ++ samplesOf encoding (linesOf cues'))) := by
  intro first second settings whole session
  obtain ⟨cues, follows, concluded, content⟩ := ended_holds ended
  obtain ⟨cues', follows', concluded', content'⟩ := ended_holds ended'
  obtain ⟨faultless, full, rfl, calls, -⟩ := concluded
  obtain ⟨faultless', full', rfl, calls', -⟩ := concluded'
  have length : (cues ++ cues').length < enough := by
    rw [List.length_append, ← calls, ← calls']
    exact room
  have sum : summaryOf settings (cues ++ cues') = joined (summaryOf settings cues)
    (summaryOf settings cues') := summaryOf_append settings cues cues'
  have past : settings.window ≤ (summaryOf settings (cues ++ cues')).elapsed := by
    rw [sum]
    exact Nat.add_le_add_left full' _
  have takes' : Takes wholeStorage wholeOutput
      (sessionSize (samplesOf settings.encoding (linesOf (cues ++ cues')))) := by
    apply (takes _ _ content content').mono
    rw [linesOf_append, samplesOf_append]
    exact sessionSize_append_le ..
  obtain ⟨outcome, rest, follows''⟩ := follows_calls takes' secures
    (calls_append follows.calls follows'.calls)
    (timely_joined follows.timely faultless full follows'.timely)
    (faultless_joined faultless faultless') past length
  have holds := follows_holds follows'' (roomy_of_ok outcome)
  rw [linesOf_append, samplesOf_append] at holds
  exact ⟨outcome.trans (congrArg _ sum), rest, cues, cues', follows, follows', follows'', content,
    content', holds.1 secures.noSink⟩

def longChunk : ScriptedDevice :=
  .ofCues [⟨1, .chunk (Storage.octetsOf "1 2 3 4\n5 6 7 8\nno")⟩,
    ⟨1, .chunk (Storage.octetsOf " sample\n9 ")⟩] 5

def longChunkRead : LineAssembler ScriptedDevice :=
  ⟨⟨[], longChunk.cues.tail, 5, 1⟩, Storage.octetsOf "5 6 7 8\nno"⟩

theorem longChunk_joined :
    let lines := LineAssembler.lineStream ScriptedDevice.source ⟨.octet, 9⟩ fun _ => 5
    let first := record lines ⟨1, .utf8, 0⟩ 9 ⟨longChunk, []⟩ Storage.emptyStorage ⟨"1.csv"⟩
    let second := record lines ⟨2, .utf8, 0⟩ 9 first.source Storage.emptyStorage ⟨"2.csv"⟩
    let whole := record lines ⟨1 + 2, .utf8, 0⟩ 5 ⟨longChunk, []⟩ Storage.emptyStorage ⟨"all.csv"⟩
    first.outcome = .ok ⟨1, 0, 0, 1⟩ ∧ first.source = longChunkRead ∧
    second.outcome = .ok ⟨1, 2, 0, 6⟩ ∧ whole.outcome = .ok ⟨2, 2, 0, 7⟩ ∧
    whole.source = second.source := by
  intro lines first second whole
  have ended : first.outcome = .ok ⟨1, 0, 0, 1⟩ := rfl
  have left : first.source = longChunkRead := rfl
  have ended' : second.outcome = .ok ⟨1, 2, 0, 6⟩ := by
    show (record lines _ 9 first.source _ _).outcome = _
    rw [left]
    rfl
  have opens : Opens Storage.emptyStorage ⟨"all.csv"⟩ ["all.csv"] :=
    Storage.emptyStorage_opens rfl (by decide)
  have room : callCount ⟨1, 0, 0, 1⟩ + callCount ⟨1, 2, 0, 6⟩ < 5 := by decide
  obtain ⟨outcome, rest, -⟩ := consecutive_runs_joined lines .utf8 0 1 2 9 9 5 ⟨longChunk, []⟩
    Storage.emptyStorage Storage.emptyStorage Storage.emptyStorage ⟨"1.csv"⟩ ⟨"2.csv"⟩ ⟨"all.csv"⟩
    ⟨1, 0, 0, 1⟩ ⟨1, 2, 0, 6⟩ ended ended'
    (fun _ _ _ _ => (Storage.emptyStorage_roomy opens).takes _) (Storage.emptyStorage_secures opens) room
  exact ⟨ended, left, ended', outcome, rest⟩

end Accelerometer.Proofs.Recording
