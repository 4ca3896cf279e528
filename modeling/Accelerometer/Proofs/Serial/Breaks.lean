import Accelerometer.Proofs.Serial.Conservation
import Accelerometer.Proofs.Serial.Watch

/-!
# Lines without a terminator

A line without a terminator is handed out only where a wait ends inside a record.

* `hear_inStep`, `nextLine_inStep`: a call ends its wait where the reads say so.
* `calls_watched`: what that means for the lines of any number of calls.
* `lines_whole`: lines of a device that never breaks a record before its last octet.
-/

namespace Accelerometer.Proofs.Serial
open LineAssembler

variable {σ : Type} {framing : Framing}

/-! ## One call -/

/-- Between two calls: no wait has begun, and of what is pending only an unfinished record has been
noticed as such. -/
def Idle (framing : Framing) (assembler : LineAssembler (Logged σ)) : Prop :=
  (watched framing assembler.source.reads).spent = 0 ∧
  (watched framing assembler.source.reads).begun = unfinished framing.unit assembler.pending

def InStep (framing : Framing) (reads : List (Cue Arrival)) : Attempt (Logged σ) → Prop
  | .returned read =>
      reads <+: read.source.source.reads ∧ Idle framing read.source ∧
      ∀ line, read.outcome = .line line → Ended framing.unit line ∨
        read.source.pending = [] ∧
          heard read.source.source.reads ∈ (watched framing read.source.source.reads).breaks
  | .underway spent assembler =>
      reads <+: assembler.source.reads ∧
      (watched framing assembler.source.reads).spent = spent ∧
      (watched framing assembler.source.reads).begun = assembler.pending ∧
      framing.unit.cutLine? assembler.pending = none

variable {watch : Watch} {spent : Duration} {assembler : LineAssembler (Logged σ)}

theorem giveUp_inStep (sees : watched framing assembler.source.reads = watch.giveUp)
    (begun : watch.begun = assembler.pending) :
    InStep framing assembler.source.reads (.returned (assembler.giveUp spent)) := by
  have idle : ∀ rest : LineAssembler (Logged σ), rest.source = assembler.source →
      rest.pending = [] → Idle framing rest := by
    intro rest same empty
    rw [Idle, same, sees, empty, unfinished_nil]
    exact ⟨rfl, rfl⟩
  unfold giveUp
  split
  · rename_i empty
    refine ⟨List.prefix_rfl, idle assembler rfl (List.isEmpty_iff.mp empty), ?_⟩
    intro line given
    cases given
  · rename_i nonempty
    refine ⟨List.prefix_rfl, idle _ rfl rfl, ?_⟩
    intro line given
    right
    have inside : watch.begun ≠ [] := by simpa [begun] using nonempty
    refine ⟨rfl, ?_⟩
    rw [← watched_heard framing, sees]
    simp [Watch.giveUp, inside]

theorem carryOn_inStep (sees : watched framing assembler.source.reads = watch.carryOn framing)
    (time : watch.spent = spent) (begun : watch.begun = assembler.pending)
    (unterminated : framing.unit.cutLine? assembler.pending = none) :
    InStep framing assembler.source.reads (assembler.carryOn framing spent) := by
  unfold carryOn
  rw [Watch.carryOn, time] at sees
  split
  · rename_i late
    rw [if_pos late] at sees
    exact giveUp_inStep sees begun
  · rename_i early
    rw [if_neg early] at sees
    exact ⟨List.prefix_rfl, by rw [sees, time], by rw [sees, begun], unterminated⟩

theorem hear_inStep (arrival : Arrival)
    (sees : watched framing assembler.source.reads = watch.hear framing arrival)
    (time : watch.spent = spent) (begun : watch.begun = assembler.pending)
    (unterminated : framing.unit.cutLine? assembler.pending = none) :
    InStep framing assembler.source.reads (assembler.hear framing spent arrival) := by
  cases arrival with
  | chunk octets =>
      cases octets with
      | nil => exact giveUp_inStep sees begun
      | cons octet octets =>
          let more : LineAssembler (Logged σ) :=
            { assembler with pending := assembler.pending ++ octet :: octets }
          simp only [Watch.hear, begun] at sees
          simp only [hear, handOut?]
          cases cut : framing.unit.cutLine? (assembler.pending ++ octet :: octets) with
          | none =>
              rw [cut] at sees
              have carried : InStep framing more.source.reads (more.carryOn framing spent) :=
                carryOn_inStep sees time rfl cut
              exact carried
          | some parts =>
              obtain ⟨line, rest⟩ := parts
              rw [cut] at sees
              refine ⟨List.prefix_rfl, ⟨by simp [sees], ?_⟩, ?_⟩
              · simp only [sees, Option.isSome_some, if_true]
                exact unfinished_of_some cut
              · intro line' given
                obtain rfl := LineArrival.line.inj given
                exact .inl (cutLine?_eq_some cut).2.2
  | fault fault =>
      simp only [Watch.hear] at sees
      simp only [hear]
      split
      · rename_i kind
        rw [kind] at sees
        exact giveUp_inStep sees begun
      · rename_i kind
        rw [kind] at sees
        exact carryOn_inStep sees time begun unterminated
      · split at sees
        · contradiction
        · contradiction
        · refine ⟨List.prefix_rfl, ⟨by rw [sees], ?_⟩, ?_⟩
          · rw [sees, unfinished_of_none unterminated]
            exact begun
          · intro line given
            cases given

theorem inStep_of_prefix {reads later : List (Cue Arrival)} {attempt : Attempt (Logged σ)}
    (grown : reads <+: later) (inStep : InStep framing later attempt) :
    InStep framing reads attempt := by
  cases attempt with
  | returned read => exact ⟨grown.trans inStep.1, inStep.2⟩
  | underway spent assembler => exact ⟨grown.trans inStep.1, inStep.2⟩

theorem readOnce_inStep (device : ByteSource σ) {reads : List (Cue Arrival)}
    (inStep : InStep framing reads (.underway spent assembler)) :
    InStep framing reads (assembler.readOnce (logged device) framing spent) := by
  obtain ⟨grown, time, begun, unterminated⟩ := inStep
  let read := (logged device).read assembler.source
  let heard : LineAssembler (Logged σ) := { assembler with source := read.source }
  have sees : watched framing heard.source.reads =
      (watched framing assembler.source.reads).read framing ⟨read.took, read.outcome⟩ :=
    watched_append framing assembler.source.reads ⟨read.took, read.outcome⟩
  have stepped : InStep framing heard.source.reads
      (heard.hear framing (spent + read.took) read.outcome) :=
    hear_inStep read.outcome sees (by rw [time]) begun unterminated
  exact inStep_of_prefix (grown.trans (List.prefix_append ..)) stepped

theorem awaitLine_inStep (device : ByteSource σ) {reads : List (Cue Arrival)} (fuel : Nat)
    (inStep : InStep framing reads (.underway spent assembler)) :
    InStep framing reads (assembler.awaitLine (logged device) framing fuel spent) := by
  induction fuel generalizing spent assembler with
  | zero => exact inStep
  | succ fuel ih =>
      have stepped := readOnce_inStep device inStep
      unfold awaitLine
      cases attempt : assembler.readOnce (logged device) framing spent with
      | returned read => rwa [attempt] at stepped
      | underway later next =>
          rw [attempt] at stepped
          exact ih stepped

theorem nextLine_inStep (device : ByteSource σ) {fuel : Nat}
    {read : Read (LineAssembler (Logged σ)) LineArrival} (idle : Idle framing assembler)
    (came : assembler.nextLine (logged device) framing fuel = some read) :
    InStep framing assembler.source.reads (.returned read) := by
  obtain ⟨time, begun⟩ := idle
  rcases nextLine_ways came with handed | ⟨none, -, returned⟩
  · obtain ⟨⟨line, rest⟩, cut, rfl⟩ := Option.map_eq_some_iff.mp handed
    rw [unfinished_of_some cut] at begun
    refine ⟨List.prefix_rfl, ⟨time, begun⟩, ?_⟩
    intro line' given
    obtain rfl := LineArrival.line.inj given
    exact .inl (cutLine?_eq_some cut).2.2
  · have unterminated := handOut?_eq_none.mp none
    rw [unfinished_of_none unterminated] at begun
    have start : InStep framing assembler.source.reads (.underway 0 assembler) :=
      ⟨List.prefix_rfl, time, begun, unterminated⟩
    have inStep := awaitLine_inStep device fuel start
    rwa [returned] at inStep

/-! ## Any number of calls -/

variable {device : ByteSource σ} {fuel : LineAssembler (Logged σ) → Nat} {source : σ}
  {cues : List (Cue LineArrival)}

theorem calls_watched
    (made : Calls (lineStream (logged device) framing fuel) (fresh source) cues assembler) :
    Idle framing assembler ∧
    ∀ before line after, linesOf cues = before ++ line :: after → Ended framing.unit line ∨
      (before ++ [line]).flatten ∈ (watched framing assembler.source.reads).breaks := by
  induction made with
  | none => exact ⟨⟨rfl, unfinished_nil.symm⟩, by simp⟩
  | @more earlier assembler cues outcome took calls came ih =>
      obtain ⟨idle, old⟩ := ih
      obtain ⟨⟨more, grown⟩, idle', new⟩ := nextLine_inStep device idle came
      have all := calls_conserved (.more calls came)
      refine ⟨idle', ?_⟩
      intro before line after split
      -- a line handed out before keeps its break, since the reads have only grown
      have kept : ∀ after', linesOf cues = before ++ line :: after' → Ended framing.unit line ∨
          (before ++ [line]).flatten ∈ (watched framing assembler.source.reads).breaks := by
        intro after' split'
        rcases old before line after' split' with ended | broken
        · exact .inl ended
        · right
          rw [← grown]
          exact watched_breaks framing _ more broken
      cases given : line? outcome with
      | none =>
          rw [linesOf_append, linesOf_singleton, given, Option.toList_none, List.append_nil] at split
          exact kept after split
      | some last =>
          rw [linesOf_append, linesOf_singleton, given, Option.toList_some] at split all
          rcases append_singleton_split split with ⟨rfl, rfl, rfl⟩ | ⟨rest, rfl, earlier⟩
          · have isLine : outcome = .line last := by
              cases outcome <;> simp_all [line?]
            rcases new last isLine with ended | ⟨empty, broken⟩
            · exact .inl ended
            · right
              rw [empty, List.append_nil] at all
              rwa [all]
          · exact kept rest earlier

/-- If no wait ends inside a record before all has been heard, and all has been handed out, then
every line but the last has its terminator. -/
theorem lines_whole
    (made : Calls (lineStream (logged device) framing fuel) (fresh source) cues assembler)
    (returned : assembler.pending = [])
    (unbroken : ∀ before ∈ (watched framing assembler.source.reads).breaks,
      before = heard assembler.source.reads) :
    (linesOf cues).flatten = heard assembler.source.reads ∧
    (∀ line ∈ linesOf cues, IsLine framing.unit line) ∧
    ∀ before line after, linesOf cues = before ++ line :: after → after ≠ [] →
      Ended framing.unit line := by
  have all := calls_conserved made
  rw [returned, List.append_nil] at all
  have framed := calls_framed made
  refine ⟨all, framed, ?_⟩
  intro before line after split more
  rcases (calls_watched made).2 before line after split with ended | broken
  · exact ended
  · -- all has been handed out with this line, so that no octet is left for the next one
    have whole := unbroken _ broken
    rw [← all, split, List.flatten_append, List.flatten_append, List.flatten_cons, List.flatten_cons,
      List.flatten_nil, List.append_nil, List.append_right_inj, List.self_eq_append_right] at whole
    obtain ⟨next, others, rfl⟩ := List.exists_cons_of_ne_nil more
    have nonempty := (framed next (by simp [split])).1
    rw [List.flatten_cons, List.append_eq_nil_iff] at whole
    exact absurd whole.1 nonempty

end Accelerometer.Proofs.Serial
