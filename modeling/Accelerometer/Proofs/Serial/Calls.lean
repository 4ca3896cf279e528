import Accelerometer.Serial.Script

/-!
# Calls and reads

What has been asked of a source so far: the calls of a source of lines, and the reads of a device.
-/

namespace Accelerometer.Proofs.Serial
open LineAssembler

variable {σ : Type}

/-- Successive calls of a source of lines: one after the other they bring the cues, and they lead
from the first state to the last. -/
inductive Calls (lines : LineStream σ) : σ → List (Cue LineArrival) → σ → Prop
  | none (source : σ) : Calls lines source [] source
  | more {source before after : σ} {cues : List (Cue LineArrival)} {outcome : LineArrival}
      {took : Duration} :
      Calls lines source cues before → lines.nextLine before = some ⟨outcome, took, after⟩ →
        Calls lines source (cues ++ [⟨took, outcome⟩]) after

theorem calls_unique {lines : LineStream σ} {source after after' : σ}
    {cues cues' : List (Cue LineArrival)} (made : Calls lines source cues after)
    (made' : Calls lines source cues' after') (length : cues.length = cues'.length) :
    cues = cues' ∧ after = after' := by
  induction made generalizing cues' after' with
  | none =>
      cases made' with
      | none => exact ⟨rfl, rfl⟩
      | more => simp at length
  | more _ came ih =>
      cases made' with
      | none => simp at length
      | more made' came' =>
          rw [List.length_append, List.length_append] at length
          obtain ⟨rfl, rfl⟩ := ih made' (Nat.add_right_cancel length)
          obtain ⟨rfl, rfl, rfl⟩ := Read.mk.inj (Option.some.inj (came.symm.trans came'))
          exact ⟨rfl, rfl⟩

theorem calls_append {lines : LineStream σ} {source middle after : σ}
    {cues more : List (Cue LineArrival)} (made : Calls lines source cues middle)
    (made' : Calls lines middle more after) : Calls lines source (cues ++ more) after := by
  induction made' with
  | none => rwa [List.append_nil]
  | more _ came ih =>
      rw [← List.append_assoc]
      exact .more ih came

theorem calls_cons {lines : LineStream σ} {source after : σ} {cue : Cue LineArrival}
    {more : List (Cue LineArrival)} (made : Calls lines source (cue :: more) after) :
    ∃ next, lines.nextLine source = some ⟨cue.outcome, cue.wait, next⟩ ∧
      Calls lines next more after := by
  generalize all : cue :: more = cues at made
  induction made generalizing more with
  | none => cases all
  | @more before after cues outcome took earlier came ih =>
      cases cues with
      | nil =>
          obtain ⟨rfl, rfl⟩ := List.cons.inj all
          obtain ⟨-, rfl⟩ := calls_unique (.none _) earlier rfl
          exact ⟨after, came, .none after⟩
      | cons first rest =>
          obtain ⟨rfl, rfl⟩ := List.cons.inj all
          obtain ⟨next, begun, back⟩ := ih rfl
          exact ⟨next, begun, .more back came⟩

theorem calls_split {lines : LineStream σ} {source after : σ} {cues more : List (Cue LineArrival)}
    (made : Calls lines source (cues ++ more) after) :
    ∃ middle, Calls lines source cues middle ∧ Calls lines middle more after := by
  induction cues generalizing source with
  | nil => exact ⟨source, .none source, made⟩
  | cons cue cues ih =>
      obtain ⟨next, begun, rest⟩ := calls_cons made
      obtain ⟨middle, front, back⟩ := ih rest
      exact ⟨middle, calls_append (.more (.none source) begun) front, back⟩

theorem calls_extend {lines : LineStream σ} {source after after' : σ}
    {cues cues' : List (Cue LineArrival)} (made : Calls lines source cues after)
    (made' : Calls lines source cues' after') (shorter : cues.length < cues'.length) :
    ∃ cue more next, cues' = cues ++ cue :: more ∧
      lines.nextLine after = some ⟨cue.outcome, cue.wait, next⟩ := by
  rw [← List.take_append_drop cues.length cues'] at made'
  obtain ⟨middle, front, back⟩ := calls_split made'
  have length : cues.length = (cues'.take cues.length).length := by
    rw [List.length_take_of_le (Nat.le_of_lt shorter)]
  obtain ⟨same, rfl⟩ := calls_unique made front length
  obtain ⟨cue, more, rest⟩ := List.exists_cons_of_length_pos (l := cues'.drop cues.length)
    (by rw [List.length_drop]; omega)
  rw [rest] at back
  obtain ⟨next, came, -⟩ := calls_cons back
  refine ⟨cue, more, next, ?_, came⟩
  calc
    cues' = cues'.take cues.length ++ cues'.drop cues.length := (List.take_append_drop ..).symm
    _ = cues ++ cue :: more := by rw [← same, rest]

def line? : LineArrival → Option (List UInt8)
  | .line octets => some octets
  | _ => none

def linesOf (cues : List (Cue LineArrival)) : List (List UInt8) :=
  cues.filterMap fun cue => line? cue.outcome

def arrived : Arrival → List UInt8
  | .chunk octets => octets
  | .fault _ => []

def heard (reads : List (Cue Arrival)) : List UInt8 :=
  reads.flatMap fun cue => arrived cue.outcome

structure Logged (σ : Type) where
  device : σ
  reads : List (Cue Arrival)

def logged (device : ByteSource σ) : ByteSource (Logged σ) where
  read state :=
    let read := device.read state.device
    ⟨read.outcome, read.took, ⟨read.source, state.reads ++ [⟨read.took, read.outcome⟩]⟩⟩
  horizon state := device.horizon state.device

def fresh (source : σ) : LineAssembler (Logged σ) :=
  ⟨⟨source, []⟩, []⟩

@[simp] theorem linesOf_nil : linesOf [] = [] := rfl

@[simp] theorem linesOf_append (before after : List (Cue LineArrival)) :
    linesOf (before ++ after) = linesOf before ++ linesOf after :=
  List.filterMap_append

@[simp] theorem linesOf_singleton (cue : Cue LineArrival) :
    linesOf [cue] = (line? cue.outcome).toList := by
  cases h : line? cue.outcome <;> simp [linesOf, h]

@[simp] theorem heard_nil : heard [] = [] := rfl

@[simp] theorem heard_append (before after : List (Cue Arrival)) :
    heard (before ++ after) = heard before ++ heard after :=
  List.flatMap_append

@[simp] theorem heard_singleton (cue : Cue Arrival) : heard [cue] = arrived cue.outcome := by
  simp [heard]

theorem append_singleton_split {α : Type} {front before after : List α} {last entry : α}
    (split : front ++ [last] = before ++ entry :: after) :
    front = before ∧ last = entry ∧ after = [] ∨
      ∃ rest, after = rest ++ [last] ∧ front = before ++ entry :: rest := by
  rcases List.eq_nil_or_concat after with rfl | ⟨rest, final, rfl⟩
  · obtain ⟨same, equal⟩ := List.append_inj' split rfl
    exact .inl ⟨same, (List.cons.inj equal).1, rfl⟩
  · right
    rw [List.concat_eq_append, ← List.cons_append, ← List.append_assoc] at split
    obtain ⟨same, equal⟩ := List.append_inj' split rfl
    exact ⟨rest, by rw [List.concat_eq_append, (List.cons.inj equal).1], same⟩

/-! ## Assemblers of different sources -/

variable {τ : Type}

def viewRead {σ τ ρ : Type} (view : σ → τ) (read : Read σ ρ) : Read τ ρ :=
  ⟨read.outcome, read.took, view read.source⟩

def viewAssembler (view : σ → τ) (assembler : LineAssembler σ) : LineAssembler τ :=
  ⟨view assembler.source, assembler.pending⟩

def viewAttempt (view : σ → τ) : Attempt σ → Attempt τ
  | .returned read => .returned (viewRead (viewAssembler view) read)
  | .underway spent assembler => .underway spent (viewAssembler view assembler)

theorem giveUp_view (view : σ → τ) (spent : Duration) (assembler : LineAssembler σ) :
    (viewAssembler view assembler).giveUp spent =
      viewRead (viewAssembler view) (assembler.giveUp spent) := by
  by_cases empty : assembler.pending.isEmpty <;> simp [giveUp, viewAssembler, viewRead, empty]

theorem handOut?_view (view : σ → τ) (unit : CodeUnit) (spent : Duration) (assembler : LineAssembler σ) :
    (viewAssembler view assembler).handOut? unit spent =
      (assembler.handOut? unit spent).map (viewRead (viewAssembler view)) := by
  rw [handOut?, handOut?, Option.map_map]
  rfl

theorem carryOn_view (view : σ → τ) (framing : Framing) (spent : Duration) (assembler : LineAssembler σ) :
    (viewAssembler view assembler).carryOn framing spent =
      viewAttempt view (assembler.carryOn framing spent) := by
  by_cases late : framing.timeout ≤ spent <;> simp [carryOn, giveUp_view, viewAttempt, late]

theorem hear_view (view : σ → τ) (framing : Framing) (spent : Duration) (assembler : LineAssembler σ)
    (arrival : Arrival) :
    (viewAssembler view assembler).hear framing spent arrival =
      viewAttempt view (assembler.hear framing spent arrival) := by
  cases arrival with
  | chunk octets =>
      cases octets with
      | nil => simp only [hear, giveUp_view, viewAttempt]
      | cons octet octets =>
          let more : LineAssembler σ :=
            { assembler with pending := assembler.pending ++ octet :: octets }
          have handed := handOut?_view view framing.unit spent more
          have carried := carryOn_view view framing spent more
          simp only [hear, viewAssembler, more] at handed carried ⊢
          rw [handed, carried]
          cases handOut? framing.unit spent _ <;> rfl
  | fault fault =>
      simp only [hear]
      split
      · rw [giveUp_view, viewAttempt]
      · rw [carryOn_view]
      · rfl

/-! ## How a call returns -/

theorem nextLine_ways {device : ByteSource σ} {framing : Framing} {fuel : Nat}
    {assembler : LineAssembler σ} {read : Read (LineAssembler σ) LineArrival}
    (came : assembler.nextLine device framing fuel = some read) :
    assembler.handOut? framing.unit 0 = some read ∨
      assembler.handOut? framing.unit 0 = none ∧
        framing.timeout ≤ device.horizon assembler.source ∧
        assembler.awaitLine device framing fuel 0 = .returned read := by
  unfold nextLine at came
  split at came
  · rename_i handed
    exact .inl (handed.trans came)
  · rename_i none
    split at came
    · cases came
    · rename_i told
      split at came
      · rename_i returned
        exact .inr ⟨none, Nat.le_of_not_lt told, returned.trans (congrArg _ (Option.some.inj came))⟩
      · cases came

theorem nextLine_returned {device : ByteSource σ} {framing : Framing} {fuel : Nat}
    {assembler : LineAssembler σ} {read : Read (LineAssembler σ) LineArrival}
    (none : assembler.handOut? framing.unit 0 = none)
    (told : framing.timeout ≤ device.horizon assembler.source)
    (returned : assembler.awaitLine device framing fuel 0 = .returned read) :
    assembler.nextLine device framing fuel = some read := by
  simp only [nextLine, none, if_neg (Nat.not_lt.mpr told), returned]

/-- No line is complete, and the clock cannot tell the deadline of a read. -/
def BreaksOff (device : ByteSource σ) (framing : Framing) (assembler : LineAssembler σ) : Prop :=
  assembler.handOut? framing.unit 0 = none ∧ device.horizon assembler.source < framing.timeout

theorem nextLine_breaksOff {device : ByteSource σ} {framing : Framing} {assembler : LineAssembler σ}
    (breaks : BreaksOff device framing assembler) (fuel : Nat) :
    assembler.nextLine device framing fuel = none := by
  simp only [nextLine, breaks.1, if_pos breaks.2]

theorem not_breaksOff {device : ByteSource σ} {framing : Framing} {fuel : Nat}
    {assembler : LineAssembler σ} {read : Read (LineAssembler σ) LineArrival}
    (came : assembler.nextLine device framing fuel = some read) :
    ¬BreaksOff device framing assembler := by
  intro breaks
  rw [nextLine_breaksOff breaks] at came
  cases came

/-! ## The log changes nothing -/

def unlogged (assembler : LineAssembler (Logged σ)) : LineAssembler σ :=
  ⟨assembler.source.device, assembler.pending⟩

theorem awaitLine_unlogged (device : ByteSource σ) (framing : Framing) (fuel : Nat) (spent : Duration)
    (assembler : LineAssembler (Logged σ)) :
    (unlogged assembler).awaitLine device framing fuel spent =
      viewAttempt Logged.device (assembler.awaitLine (logged device) framing fuel spent) := by
  induction fuel generalizing spent assembler with
  | zero => rfl
  | succ fuel ih =>
      have same : (unlogged assembler).readOnce device framing spent =
          viewAttempt Logged.device (assembler.readOnce (logged device) framing spent) := by
        simp only [readOnce, ← hear_view]
        rfl
      simp only [awaitLine, same]
      cases assembler.readOnce (logged device) framing spent with
      | returned read => rfl
      | underway later next => exact ih later next

theorem nextLine_unlogged (device : ByteSource σ) (framing : Framing) (fuel : Nat)
    (assembler : LineAssembler (Logged σ)) :
    (unlogged assembler).nextLine device framing fuel =
      (assembler.nextLine (logged device) framing fuel).map (viewRead unlogged) := by
  have handed : (unlogged assembler).handOut? framing.unit 0 =
      (assembler.handOut? framing.unit 0).map (viewRead unlogged) :=
    handOut?_view Logged.device framing.unit 0 assembler
  have horizon : device.horizon (unlogged assembler).source =
      (logged device).horizon assembler.source := rfl
  simp only [nextLine, handed, horizon, awaitLine_unlogged]
  cases assembler.handOut? framing.unit 0 with
  | some line => rfl
  | none =>
      dsimp only [Option.map_none]
      split
      · rfl
      · cases assembler.awaitLine (logged device) framing fuel 0 <;> rfl

end Accelerometer.Proofs.Serial
