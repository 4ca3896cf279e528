import Accelerometer.Proofs.Serial.Calls
import Accelerometer.Proofs.Serial.Framing
import Mathlib.Data.List.Induction

/-!
# Waits for lines

The reads of a device alone decide where a wait for a line ends: at a terminator, at a time-out, at
the end of the stream, or when its time is over.

* `unfinishedFrom_cutLine?`: what is left of octets when their lines have been cut off.
* `watched_heard`, `watched_breaks`: what a watch keeps of the reads.
-/

namespace Accelerometer.Proofs.Serial

variable {unit : CodeUnit} {framing : Framing}

def unfinishedFrom : CodeUnit → List UInt8 → List UInt8 → List UInt8
  | .octet, begun, only :: rest =>
    if only = 0x0A then unfinishedFrom .octet [] rest
    else unfinishedFrom .octet (begun ++ [only]) rest
  | .pair, begun, low :: high :: rest =>
    if low = 0x0A ∧ high = 0 then unfinishedFrom .pair [] rest
    else unfinishedFrom .pair (begun ++ [low, high]) rest
  | _, begun, short => begun ++ short

def unfinished (unit : CodeUnit) (octets : List UInt8) : List UInt8 :=
  unfinishedFrom unit [] octets

/-- Where some reads have led: the time that the wait for a line has taken, all octets so far, those
of the record that has begun, and what had been heard whenever a wait ended inside a record. -/
structure Watch where
  spent : Duration
  heard : List UInt8
  begun : List UInt8
  breaks : List (List UInt8)

def Watch.giveUp (watch : Watch) : Watch :=
  { watch with
    spent := 0
    begun := []
    breaks := if watch.begun = [] then watch.breaks else watch.breaks ++ [watch.heard] }

def Watch.carryOn (framing : Framing) (watch : Watch) : Watch :=
  if framing.timeout ≤ watch.spent then watch.giveUp else watch

def Watch.hear (framing : Framing) (watch : Watch) : Arrival → Watch
  | .chunk [] => watch.giveUp
  | .chunk octets =>
    let begun := watch.begun ++ octets
    let watch := { watch with heard := watch.heard ++ octets, begun := begun }
    if (framing.unit.cutLine? begun).isSome then
      { watch with spent := 0, begun := unfinished framing.unit begun }
    else watch.carryOn framing
  | .fault fault =>
    match fault.kind with
    | .timedOut => watch.giveUp
    | .interrupted => watch.carryOn framing
    | _ => { watch with spent := 0 }

def Watch.read (framing : Framing) (watch : Watch) (cue : Cue Arrival) : Watch :=
  { watch with spent := watch.spent + cue.wait }.hear framing cue.outcome

def watched (framing : Framing) (reads : List (Cue Arrival)) : Watch :=
  reads.foldl (Watch.read framing) ⟨0, [], [], []⟩

theorem unfinishedFrom_short {octets : List UInt8} (short : octets.length < unit.width)
    (begun : List UInt8) : unfinishedFrom unit begun octets = begun ++ octets := by
  match unit, octets, short with
  | .octet, [], _ => rfl
  | .pair, [], _ => rfl
  | .pair, [only], _ => rfl

theorem unfinishedFrom_append {first : List UInt8} (width : first.length = unit.width)
    (begun rest : List UInt8) :
    unfinishedFrom unit begun (first ++ rest) =
      if first = terminator unit then unfinishedFrom unit [] rest
      else unfinishedFrom unit (begun ++ first) rest := by
  match unit, first, width with
  | .octet, [only], _ => simp [unfinishedFrom, terminator]
  | .pair, [low, high], _ => simp [unfinishedFrom, terminator]

theorem unfinishedFrom_cutLine? (octets begun : List UInt8) :
    unfinishedFrom unit begun octets =
      match unit.cutLine? octets with
      | none => begun ++ octets
      | some (_, rest) => unfinishedFrom unit [] rest := by
  induction octets using unit_induction unit generalizing begun with
  | short octets short => rw [unfinishedFrom_short short, cutLine?_short short]
  | step first rest width ih =>
      rw [unfinishedFrom_append width, cutLine?_append width]
      split
      · rfl
      · rw [ih]
        cases unit.cutLine? rest with
        | none => exact List.append_assoc ..
        | some parts => rfl

theorem unfinished_of_none {octets : List UInt8} (cut : unit.cutLine? octets = none) :
    unfinished unit octets = octets := by
  rw [unfinished, unfinishedFrom_cutLine?, cut]
  rfl

theorem unfinished_of_some {octets line rest : List UInt8}
    (cut : unit.cutLine? octets = some (line, rest)) :
    unfinished unit octets = unfinished unit rest := by
  rw [unfinished, unfinishedFrom_cutLine?, cut]
  rfl

theorem unfinished_nil : unfinished unit [] = [] := by
  cases unit <;> rfl

theorem watched_append (framing : Framing) (reads : List (Cue Arrival)) (cue : Cue Arrival) :
    watched framing (reads ++ [cue]) = (watched framing reads).read framing cue := by
  rw [watched, List.foldl_append]
  rfl

/-! ## The watch of a log -/

theorem carryOn_heard (watch : Watch) : (watch.carryOn framing).heard = watch.heard := by
  unfold Watch.carryOn
  split <;> rfl

theorem hear_heard (watch : Watch) (arrival : Arrival) :
    (watch.hear framing arrival).heard = watch.heard ++ arrived arrival := by
  cases arrival with
  | chunk octets =>
      cases octets with
      | nil => simp [Watch.hear, Watch.giveUp, arrived]
      | cons octet octets =>
          simp only [Watch.hear, arrived]
          split
          · rfl
          · rw [carryOn_heard]
  | fault fault =>
      simp only [Watch.hear, arrived, List.append_nil]
      split
      · rfl
      · rw [carryOn_heard]
      · rfl

theorem watched_heard (framing : Framing) (reads : List (Cue Arrival)) :
    (watched framing reads).heard = heard reads := by
  induction reads using List.reverseRecOn with
  | nil => rfl
  | append_singleton reads cue ih =>
      rw [watched_append, Watch.read, hear_heard, ih, heard_append, heard_singleton]

theorem giveUp_breaks (watch : Watch) : watch.breaks ⊆ watch.giveUp.breaks := by
  unfold Watch.giveUp
  split
  · exact List.Subset.refl _
  · exact List.subset_append_left ..

theorem carryOn_breaks (framing : Framing) (watch : Watch) :
    watch.breaks ⊆ (watch.carryOn framing).breaks := by
  unfold Watch.carryOn
  split
  · exact giveUp_breaks watch
  · exact List.Subset.refl _

theorem hear_breaks (framing : Framing) (watch : Watch) (arrival : Arrival) :
    watch.breaks ⊆ (watch.hear framing arrival).breaks := by
  cases arrival with
  | chunk octets =>
      cases octets with
      | nil => exact giveUp_breaks watch
      | cons octet octets =>
          let more : Watch := { watch with
            heard := watch.heard ++ octet :: octets
            begun := watch.begun ++ octet :: octets }
          simp only [Watch.hear]
          split
          · exact List.Subset.refl _
          · exact carryOn_breaks framing more
  | fault fault =>
      simp only [Watch.hear]
      split
      · exact giveUp_breaks watch
      · exact carryOn_breaks framing watch
      · exact List.Subset.refl _

theorem watched_breaks (framing : Framing) (reads more : List (Cue Arrival)) :
    (watched framing reads).breaks ⊆ (watched framing (reads ++ more)).breaks := by
  induction more using List.reverseRecOn with
  | nil => simp
  | append_singleton more cue ih =>
      rw [← List.append_assoc, watched_append]
      have grown := hear_breaks framing
        { watched framing (reads ++ more) with
          spent := (watched framing (reads ++ more)).spent + cue.wait } cue.outcome
      exact List.Subset.trans ih grown

end Accelerometer.Proofs.Serial
