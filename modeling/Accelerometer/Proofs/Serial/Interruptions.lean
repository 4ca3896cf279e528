import Accelerometer.Proofs.Serial.Termination

/-!
# Interrupted reads

Reads that are interrupted at once make no difference to the calls of an assembler, however many there are
and wherever they come.

* `past_interruptions`: an attempt goes on behind interruptions as if there were none.
* `awaitLine_alongside`, `nextLine_alongside`: one call of two devices that differ in interruptions only.
* `scripted_follows`, `calls_alongside`: scripts, and any number of calls.
* `interruptions_unseen`: the calls that can be made are the same.
-/

namespace Accelerometer.Proofs.Serial
open LineAssembler

variable {σ τ : Type} {device : ByteSource σ} {device' : ByteSource τ} {same : σ → τ → Prop}
  {framing : Framing} {spent later : Duration} {assembler next : LineAssembler σ}
  {assembler' : LineAssembler τ} {read : Read (LineAssembler σ) LineArrival}

/-- A script with interruptions that take no time put between its entries. -/
inductive Interrupted : List (Cue Arrival) → List (Cue Arrival) → Prop
  | none : Interrupted [] []
  | entry {cues cues' : List (Cue Arrival)} (cue : Cue Arrival) :
      Interrupted cues cues' → Interrupted (cue :: cues) (cue :: cues')
  | interruption {cues cues' : List (Cue Arrival)} (detail : Option String) :
      Interrupted cues cues' → Interrupted cues (⟨0, .fault ⟨.interrupted, detail⟩⟩ :: cues')

inductive Gives (device' : ByteSource τ) (same : σ → τ → Prop) (read : Read σ Arrival) : τ → Prop
  | now {source : τ} :
      (device'.read source).outcome = read.outcome → (device'.read source).took = read.took →
        same read.source (device'.read source).source → Gives device' same read source
  | interrupted {source : τ} (detail : Option String) :
      (device'.read source).outcome = .fault ⟨.interrupted, detail⟩ →
        (device'.read source).took = 0 → Gives device' same read (device'.read source).source →
          Gives device' same read source

structure Follows (device : ByteSource σ) (device' : ByteSource τ) (same : σ → τ → Prop) : Prop where
  gives : ∀ source source', same source source' → Gives device' same (device.read source) source'
  horizon : ∀ source source', same source source' → device'.horizon source' = device.horizon source

structure Alongside (same : σ → τ → Prop) (assembler : LineAssembler σ)
    (assembler' : LineAssembler τ) : Prop where
  source : same assembler.source assembler'.source
  pending : assembler'.pending = assembler.pending

structure Agree (same : σ → τ → Prop) (read : Read (LineAssembler σ) LineArrival)
    (read' : Read (LineAssembler τ) LineArrival) : Prop where
  outcome : read'.outcome = read.outcome
  took : read'.took = read.took
  alongside : Alongside same read.source read'.source

def Awaits (device : ByteSource σ) (framing : Framing) (spent : Duration) (assembler : LineAssembler σ)
    (read : Read (LineAssembler σ) LineArrival) : Prop :=
  ∃ count, ∀ fuel, count < fuel → assembler.awaitLine device framing fuel spent = .returned read

/-! ## One read -/

theorem awaits_returned (attempt : assembler.readOnce device framing spent = .returned read) :
    Awaits device framing spent assembler read :=
  ⟨0, fun _ enough => awaitLine_returned attempt enough⟩

theorem awaits_underway (attempt : assembler.readOnce device framing spent = .underway later next)
    (awaits : Awaits device framing later next read) : Awaits device framing spent assembler read := by
  obtain ⟨count, returned⟩ := awaits
  exact ⟨count + 1, fun _ enough => awaitLine_underway attempt returned enough⟩

theorem readOnce_interrupted {detail : Option String}
    (outcome : (device.read assembler.source).outcome = .fault ⟨.interrupted, detail⟩)
    (took : (device.read assembler.source).took = 0) (early : spent < framing.timeout) :
    assembler.readOnce device framing spent =
      .underway spent { assembler with source := (device.read assembler.source).source } := by
  simp [readOnce, hear, carryOn, outcome, took, early]

theorem readOnce_alongside {source : τ} (framing : Framing) (spent : Duration)
    (outcome : (device'.read source).outcome = (device.read assembler.source).outcome)
    (took : (device'.read source).took = (device.read assembler.source).took) :
    readOnce device' framing spent ⟨source, assembler.pending⟩ =
      viewAttempt (fun _ => (device'.read source).source) (assembler.readOnce device framing spent) := by
  simp only [readOnce, ← hear_view, viewAssembler, outcome, took]

/-- An interruption takes no time, and so the time of an attempt is not over behind it either. -/
theorem past_interruptions {source : τ} {given : Read σ Arrival} (gives : Gives device' same given source)
    (early : spent < framing.timeout) (pending : List UInt8) :
    ∃ source', (device'.read source').outcome = given.outcome ∧
      (device'.read source').took = given.took ∧ same given.source (device'.read source').source ∧
      ∀ read, Awaits device' framing spent ⟨source', pending⟩ read →
        Awaits device' framing spent ⟨source, pending⟩ read := by
  induction gives with
  | @now source outcome took related => exact ⟨source, outcome, took, related, fun _ awaits => awaits⟩
  | @interrupted source detail outcome took _ ih =>
      obtain ⟨source', outcome', took', related, onward⟩ := ih
      refine ⟨source', outcome', took', related, ?_⟩
      intro read awaits
      have attempt : readOnce device' framing spent ⟨source, pending⟩ = _ :=
        readOnce_interrupted outcome took early
      exact awaits_underway attempt (onward read awaits)

/-! ## One call -/

theorem awaitLine_alongside (follows : Follows device device' same) {fuel : Nat}
    (early : spent < framing.timeout) (alongside : Alongside same assembler assembler')
    (returned : assembler.awaitLine device framing fuel spent = .returned read) :
    ∃ read', Awaits device' framing spent assembler' read' ∧ Agree same read read' := by
  -- one read of the first device for one of the other behind its interruptions; an attempt that goes on
  -- has time left, so that the next interruptions find it underway as well
  induction fuel generalizing spent assembler assembler' with
  | zero => cases returned
  | succ fuel ih =>
      obtain ⟨source, pending⟩ := assembler'
      obtain ⟨related, rfl⟩ := alongside
      obtain ⟨source', outcome, took, related', onward⟩ :=
        past_interruptions (follows.gives _ _ related) early assembler.pending
      have attempt' := readOnce_alongside framing spent outcome took
      have reached_source := readOnce_source device framing spent assembler
      rw [awaitLine] at returned
      cases attempt : assembler.readOnce device framing spent with
      | returned read =>
          rw [attempt] at returned attempt' reached_source
          obtain rfl := Attempt.returned.inj returned
          rw [← reached_source] at related'
          exact ⟨_, onward _ (awaits_returned attempt'), rfl, rfl, related', rfl⟩
      | underway later next =>
          rw [attempt] at returned attempt' reached_source
          rw [← reached_source] at related'
          have alongside' : Alongside same next
              (viewAssembler (fun _ => (device'.read source').source) next) := ⟨related', rfl⟩
          obtain ⟨read', awaits, agree⟩ := ih (hear_underway attempt) alongside' returned
          exact ⟨read', onward _ (awaits_underway attempt' awaits), agree⟩

theorem nextLine_alongside (follows : Follows device device' same) {fuel : Nat}
    (waits : 0 < framing.timeout) (alongside : Alongside same assembler assembler')
    (came : assembler.nextLine device framing fuel = some read) :
    ∃ read' count, (∀ fuel, count < fuel → assembler'.nextLine device' framing fuel = some read') ∧
      Agree same read read' := by
  obtain ⟨source, pending⟩ := assembler'
  obtain ⟨related, rfl⟩ := alongside
  have handed' : handOut? framing.unit 0 ⟨source, assembler.pending⟩ =
      (assembler.handOut? framing.unit 0).map (viewRead (viewAssembler fun _ => source)) :=
    handOut?_view (fun _ => source) framing.unit 0 assembler
  rcases nextLine_ways came with handed | ⟨none, told, returned⟩
  · rw [handed] at handed'
    have unread := handOut?_source handed
    refine ⟨viewRead (viewAssembler fun _ => source) read, 0, ?_, rfl, rfl, ?_, rfl⟩
    · intro fuel _
      rw [nextLine, handed']
      rfl
    · rw [unread]
      exact related
  · rw [none] at handed'
    rw [← follows.horizon _ _ related] at told
    obtain ⟨read', ⟨count, returned'⟩, agree⟩ :=
      awaitLine_alongside follows waits ⟨related, rfl⟩ returned
    exact ⟨read', count, fun fuel enough => nextLine_returned handed' told (returned' fuel enough),
      agree⟩

/-! ## Devices that follow a script -/

variable {start start' : LineAssembler ScriptedDevice} {calls : List (Cue LineArrival)}

structure Disturbed (device device' : ScriptedDevice) : Prop where
  buffered : device'.buffered = device.buffered
  cues : Interrupted device.cues device'.cues
  idle : device'.idle = device.idle

theorem scripted_follows : Follows ScriptedDevice.source ScriptedDevice.source Disturbed := by
  refine ⟨?_, fun _ _ _ => rfl⟩
  rintro ⟨buffered, cues, idle, reads⟩ ⟨buffered', cues', idle', reads'⟩ ⟨rfl, interrupted, rfl⟩
  dsimp only at interrupted
  cases buffered' with
  | cons octet octets => exact .now rfl rfl ⟨rfl, interrupted, rfl⟩
  | nil =>
      induction interrupted generalizing reads' with
      | none => exact .now rfl rfl ⟨rfl, .none, rfl⟩
      | entry cue interrupted =>
          obtain ⟨wait, outcome⟩ := cue
          cases outcome <;> exact .now rfl rfl ⟨rfl, interrupted, rfl⟩
      | interruption detail _ ih => exact .interrupted detail rfl rfl (ih _)

theorem scripted_nextLine {assembler : LineAssembler ScriptedDevice}
    (told : ¬BreaksOff ScriptedDevice.source framing assembler) :
    ∃ read count, (ScriptedDevice.lineStream framing).nextLine assembler = some read ∧
      ∀ fuel, count < fuel → assembler.nextLine ScriptedDevice.source framing fuel = some read := by
  obtain ⟨count, quiet, brings⟩ := scripted_quiet assembler.source
  obtain ⟨read, returned, -⟩ := nextLine_returns framing quiet told
  exact ⟨read, count, returned _ (Nat.lt_of_le_of_lt (count_le_brings _ _ _) brings), returned⟩

theorem scripted_alongside (waits : 0 < framing.timeout) (alongside : Alongside Disturbed start start')
    {read : Read (LineAssembler ScriptedDevice) LineArrival}
    (came : (ScriptedDevice.lineStream framing).nextLine start = some read) :
    ∃ read', (ScriptedDevice.lineStream framing).nextLine start' = some read' ∧
      Agree Disturbed read read' := by
  obtain ⟨read', count', given, agree⟩ := nextLine_alongside scripted_follows waits alongside came
  have told := not_breaksOff (given (count' + 1) (Nat.lt_succ_self count'))
  obtain ⟨read'', count, came', returned⟩ := scripted_nextLine told
  have unique : some read' = some read'' := by
    rw [← given (count + count' + 1) (by omega), returned (count + count' + 1) (by omega)]
  obtain rfl := Option.some.inj unique
  exact ⟨read', came', agree⟩

theorem breaksOff_alongside (alongside : Alongside Disturbed start start')
    (breaks : BreaksOff ScriptedDevice.source framing start) :
    BreaksOff ScriptedDevice.source framing start' := by
  refine ⟨?_, breaks.2⟩
  rw [handOut?_eq_none, alongside.pending]
  exact handOut?_eq_none.mp breaks.1

theorem scripted_calls (framing : Framing) (start : LineAssembler ScriptedDevice) (count : Nat) :
    ∃ calls after, Calls (ScriptedDevice.lineStream framing) start calls after ∧
      (calls.length = count ∨
        calls.length < count ∧ BreaksOff ScriptedDevice.source framing after) := by
  induction count with
  | zero => exact ⟨[], start, .none start, .inl rfl⟩
  | succ count ih =>
      obtain ⟨calls, after, made, length | ⟨fewer, breaks⟩⟩ := ih
      · by_cases breaks : BreaksOff ScriptedDevice.source framing after
        · exact ⟨calls, after, made, .inr ⟨length ▸ Nat.lt_succ_self count, breaks⟩⟩
        · obtain ⟨read, -, came, -⟩ := scripted_nextLine breaks
          exact ⟨_, _, .more made came, .inl (by rw [List.length_append, length]; rfl)⟩
      · exact ⟨calls, after, made, .inr ⟨Nat.lt_succ_of_lt fewer, breaks⟩⟩

theorem calls_alongside (waits : 0 < framing.timeout) (alongside : Alongside Disturbed start start')
    {after : LineAssembler ScriptedDevice}
    (made : Calls (ScriptedDevice.lineStream framing) start calls after) :
    ∃ after', Calls (ScriptedDevice.lineStream framing) start' calls after' := by
  suffices alongside : ∃ after', Calls (ScriptedDevice.lineStream framing) start' calls after' ∧
      Alongside Disturbed after after' by
    obtain ⟨after', made', -⟩ := alongside
    exact ⟨after', made'⟩
  induction made with
  | none => exact ⟨start', .none start', alongside⟩
  | more _ came ih =>
      obtain ⟨before', made', alongside'⟩ := ih
      obtain ⟨⟨outcome, took, after'⟩, came', rfl, rfl, alongside''⟩ :=
        scripted_alongside waits alongside' came
      exact ⟨after', .more made' came', alongside''⟩

theorem calls_without (waits : 0 < framing.timeout) (alongside : Alongside Disturbed start start')
    {after' : LineAssembler ScriptedDevice}
    (made : Calls (ScriptedDevice.lineStream framing) start' calls after') :
    ∃ after, Calls (ScriptedDevice.lineStream framing) start calls after := by
  suffices alongside : ∃ after, Calls (ScriptedDevice.lineStream framing) start calls after ∧
      Alongside Disturbed after after' by
    obtain ⟨after, made', -⟩ := alongside
    exact ⟨after, made'⟩
  induction made with
  | none => exact ⟨start, .none start, alongside⟩
  | more _ came' ih =>
      obtain ⟨before, made', alongside'⟩ := ih
      -- the call has returned, and so it returns without interruptions, and alike
      have told := mt (breaksOff_alongside alongside') (not_breaksOff came')
      obtain ⟨⟨outcome, took, after⟩, -, came, -⟩ := scripted_nextLine told
      obtain ⟨read', came'', agree⟩ := scripted_alongside waits alongside' came
      obtain rfl := Option.some.inj (came'.symm.trans came'')
      obtain ⟨rfl, rfl, alongside''⟩ := agree
      exact ⟨after, .more made' came, alongside''⟩

/-- Any number of calls can be made of a device that follows a script, up to one whose deadline its clock
cannot tell. Interruptions that take no time do not change what the calls bring or when they return. -/
theorem interruptions_unseen (framing : Framing) (waits : 0 < framing.timeout)
    (script disturbed : List (Cue Arrival)) (interrupted : Interrupted script disturbed)
    (idle : Duration) :
    (∀ count, ∃ calls after,
      Calls (ScriptedDevice.lineStream framing) ⟨.ofCues script idle, []⟩ calls after ∧
      (calls.length = count ∨
        calls.length < count ∧ BreaksOff ScriptedDevice.source framing after)) ∧
    ∀ calls,
      (∃ after, Calls (ScriptedDevice.lineStream framing) ⟨.ofCues script idle, []⟩ calls after) ↔
        ∃ after, Calls (ScriptedDevice.lineStream framing) ⟨.ofCues disturbed idle, []⟩ calls after := by
  have alongside : Alongside Disturbed ⟨.ofCues script idle, []⟩ ⟨.ofCues disturbed idle, []⟩ :=
    ⟨⟨rfl, interrupted, rfl⟩, rfl⟩
  refine ⟨scripted_calls framing _, fun calls => ⟨?_, ?_⟩⟩
  · rintro ⟨after, made⟩
    exact calls_alongside waits alongside made
  · rintro ⟨after', made'⟩
    exact calls_without waits alongside made'

def twoChunks : List (Cue Arrival) :=
  [⟨1, .chunk [0x31, 0x00, 0x0A]⟩, ⟨1, .chunk [0x00, 0x32]⟩]

def interruption : Cue Arrival :=
  ⟨0, .fault ⟨.interrupted, none⟩⟩

theorem twoChunks_interrupted :
    Interrupted twoChunks
      [interruption, ⟨1, .chunk [0x31, 0x00, 0x0A]⟩, interruption, interruption,
        ⟨1, .chunk [0x00, 0x32]⟩, interruption] ∧
    ∃ after, Calls (ScriptedDevice.lineStream ⟨.pair, 3⟩)
      ⟨.ofCues [interruption, ⟨1, .chunk [0x31, 0x00, 0x0A]⟩, interruption, interruption,
        ⟨1, .chunk [0x00, 0x32]⟩, interruption] 4, []⟩
      [⟨2, .line [0x31, 0x00, 0x0A, 0x00]⟩, ⟨4, .line [0x32]⟩, ⟨4, .nothing⟩] after := by
  have interrupted := Interrupted.interruption none (.entry ⟨1, .chunk [0x31, 0x00, 0x0A]⟩
    (.interruption none (.interruption none (.entry ⟨1, .chunk [0x00, 0x32]⟩
      (.interruption none .none)))))
  have start : Calls (ScriptedDevice.lineStream ⟨.pair, 3⟩) ⟨.ofCues twoChunks 4, []⟩ [] _ := .none _
  have made := Calls.more (.more (.more start rfl) rfl) rfl
  obtain ⟨-, same⟩ := interruptions_unseen ⟨.pair, 3⟩ (by decide) twoChunks _ interrupted 4
  exact ⟨interrupted, (same _).mp ⟨_, made⟩⟩

end Accelerometer.Proofs.Serial
