import Accelerometer.Proofs.Storage.Places
import Accelerometer.Signal.Coefficients
import Mathlib.Algebra.GroupWithZero.Nat
import Mathlib.Tactic.SplitIfs

/-!
# Octets collected for a file

Pieces of a text wait to be handed to an open file, as many as fit into a given size.

* `put_collecting`, `putAll_collecting`: after one piece, and after all of them, the file and what waits
  hold the pieces so far, and `collect` counts them. It fails as soon as the file has no room for what
  is handed to it.
* `handOn_collecting`: what waits in the end goes to the file, or is refused there.
* `collected_none`: nothing is handed to the file as long as all fits into the size.
-/

namespace Accelerometer.Proofs.Storage
open Accelerometer.Storage Accelerometer.Signal

variable {size : Nat} {storage : Storage} {location : Location} {octets piece : List UInt8}
  {counts : Nat × Nat}

structure Collector where
  storage : Storage
  handle : Handle
  waiting : List UInt8

namespace Collector

def write (collector : Collector) (octets : List UInt8) : Except Refusal Collector := do
  let (handle, storage) ← collector.storage.append collector.handle octets
  return { collector with storage, handle }

def handOn (collector : Collector) : Except Refusal Collector := do
  return { ← collector.write collector.waiting with waiting := [] }

def takeUp (size : Nat) (collector : Collector) (piece : List UInt8) : Except Refusal Collector :=
  if size ≤ piece.length then collector.write piece
  else .ok { collector with waiting := collector.waiting ++ piece }

def put (size : Nat) (collector : Collector) (piece : List UInt8) : Except Refusal Collector := do
  if size < collector.waiting.length + piece.length then (← collector.handOn).takeUp size piece
  else collector.takeUp size piece

def putAll (size : Nat) (collector : Collector) (pieces : List (List UInt8)) :
    Except Refusal Collector :=
  pieces.foldlM (put size) collector

end Collector

structure Collected (storage : Storage) (location : Location) (octets : List UInt8)
    (counts : Nat × Nat) (collector : Collector) : Prop where
  handed : ∃ written, written ++ collector.waiting = octets ∧ written.length = counts.1 ∧
    collector.handle = ⟨location, written.length⟩ ∧ collector.storage = filled storage location written
  waits : collector.waiting.length = counts.2
  fits : Fits storage location counts.1

/-- How collecting has gone once the given octets were put: the first count says how many the file was
handed. -/
def Collecting (storage : Storage) (location : Location) (octets : List UInt8) (counts : Nat × Nat) :
    Except Refusal Collector → Prop
  | .ok collector => Collected storage location octets counts collector
  | .error reason => ∃ most, storage.room location = some (most, reason) ∧ most < counts.1

variable {collector : Collector}

/-! ## Counting -/

theorem collect_whole (size : Nat) (counts : Nat × Nat) (length : Nat) :
    (collect size counts length).1 + (collect size counts length).2 = counts.1 + counts.2 + length := by
  simp only [collect]
  split_ifs <;> simp only <;> omega

theorem le_collect (size : Nat) (counts : Nat × Nat) (length : Nat) :
    counts.1 ≤ (collect size counts length).1 := by
  simp only [collect]
  split_ifs <;> simp only <;> omega

theorem le_foldl_collect (size : Nat) (counts : Nat × Nat) (lengths : List Nat) :
    counts.1 ≤ (lengths.foldl (collect size) counts).1 := by
  induction lengths generalizing counts with
  | nil => exact Nat.le_refl _
  | cons length lengths ih => exact Nat.le_trans (le_collect size counts length) (ih _)

theorem foldl_collect_whole (size : Nat) (counts : Nat × Nat) (lengths : List Nat) :
    (lengths.foldl (collect size) counts).1 + (lengths.foldl (collect size) counts).2 =
      counts.1 + counts.2 + lengths.sum := by
  induction lengths generalizing counts with
  | nil => rfl
  | cons length lengths ih =>
      rw [List.foldl_cons, ih, collect_whole, List.sum_cons, Nat.add_assoc]

theorem collected_none {waiting : Nat} (some : 0 < waiting) (within : waiting ≤ size)
    (lengths : List Nat) :
    (lengths.foldl (collect size) (0, waiting)).1 = 0 ↔ waiting + lengths.sum ≤ size := by
  induction lengths generalizing waiting with
  | nil => simpa using within
  | cons length lengths ih =>
      rw [List.foldl_cons, List.sum_cons, ← Nat.add_assoc]
      by_cases fits : waiting + length ≤ size
      · have waits : collect size (0, waiting) length = (0, waiting + length) := by
          simp only [collect, if_neg (Nat.not_lt.mpr fits)]
          rw [if_neg (by omega)]
        rw [waits]
        exact ih (Nat.lt_add_right _ some) fits
      · have handed : 0 < (collect size (0, waiting) length).1 := by
          simp only [collect, if_pos (Nat.not_le.mp fits)]
          split_ifs <;> simp only <;> omega
        have more := le_foldl_collect size (collect size (0, waiting) length) lengths
        omega

/-! ## Handing on -/

theorem write_collecting (collected : Collected storage location octets counts collector)
    (before : collector.waiting = []) (piece : List UInt8) :
    Collecting storage location (octets ++ piece) (counts.1 + piece.length, counts.2)
      (collector.write piece) := by
  obtain ⟨⟨written, whole, length, handle, tree⟩, waits, fits⟩ := collected
  rw [before, List.append_nil] at whole
  subst whole
  rw [← length] at fits ⊢
  rw [Collector.write, handle, tree, append_behind fits]
  cases refused : storage.refusal? ⟨location, written.length⟩ piece with
  | some reason => exact (refusal?_eq_some.mp refused).2
  | none =>
      have fits' : Fits storage location (written.length + piece.length) := by
        rcases refusal?_eq_none.mp refused with rfl | fits'
        · exact fits
        · exact fits'
      exact ⟨⟨written ++ piece, by simp [before], List.length_append, rfl, rfl⟩, waits, fits'⟩

theorem handOn_collecting (collected : Collected storage location octets counts collector) :
    Collecting storage location octets (counts.1 + counts.2, 0) collector.handOn := by
  obtain ⟨⟨written, whole, length, handle, tree⟩, waits, fits⟩ := collected
  have before : Collected storage location written (counts.1, 0) { collector with waiting := [] } :=
    ⟨⟨written, List.append_nil written, length, handle, tree⟩, rfl, fits⟩
  have handed := write_collecting before rfl collector.waiting
  rw [whole, waits] at handed
  have same : collector.handOn =
      (Collector.write { collector with waiting := [] } collector.waiting).map
        fun next => { next with waiting := [] } := by
    simp only [Collector.handOn, Collector.write]
    cases collector.storage.append collector.handle collector.waiting <;> rfl
  rw [same]
  cases wrote : Collector.write { collector with waiting := [] } collector.waiting with
  | error reason =>
      rw [wrote] at handed
      exact handed
  | ok next =>
      rw [wrote] at handed
      obtain ⟨⟨written', whole', length', handle', tree'⟩, waits', fits'⟩ := handed
      rw [List.length_eq_zero_iff.mp waits'] at whole'
      exact ⟨⟨written', whole', length', handle', tree'⟩, rfl, fits'⟩

/-! ## Putting pieces -/

theorem takeUp_collecting (collected : Collected storage location octets counts collector)
    (alone : size ≤ piece.length → collector.waiting = []) :
    Collecting storage location (octets ++ piece)
      (if size ≤ piece.length then (counts.1 + piece.length, counts.2)
        else (counts.1, counts.2 + piece.length))
      (collector.takeUp size piece) := by
  by_cases whole : size ≤ piece.length
  · rw [Collector.takeUp, if_pos whole, if_pos whole]
    exact write_collecting collected (alone whole) piece
  · rw [Collector.takeUp, if_neg whole, if_neg whole]
    obtain ⟨⟨written, rfl, length, handle, tree⟩, waits, fits⟩ := collected
    refine ⟨⟨written, (List.append_assoc ..).symm, length, handle, tree⟩, ?_, fits⟩
    rw [List.length_append, waits]

theorem put_collecting (collected : Collected storage location octets counts collector)
    (size : Nat) (piece : List UInt8) :
    Collecting storage location (octets ++ piece) (collect size counts piece.length)
      (collector.put size piece) := by
  simp only [Collector.put, collect, collected.waits]
  by_cases fits : counts.2 + piece.length ≤ size
  · rw [if_neg (Nat.not_lt.mpr fits), if_neg (Nat.not_lt.mpr fits)]
    refine takeUp_collecting collected fun whole => List.length_eq_zero_iff.mp ?_
    rw [collected.waits]
    omega
  · rw [if_pos (Nat.not_le.mp fits), if_pos (Nat.not_le.mp fits)]
    have handed := handOn_collecting collected
    cases gone : collector.handOn with
    | error reason =>
        rw [gone] at handed
        obtain ⟨most, bound, beyond⟩ := handed
        refine ⟨most, bound, ?_⟩
        split_ifs <;> simp only <;> omega
    | ok next =>
        rw [gone] at handed
        exact takeUp_collecting handed fun _ => List.length_eq_zero_iff.mp handed.waits

theorem putAll_collecting (collected : Collected storage location octets counts collector)
    (size : Nat) (pieces : List (List UInt8)) :
    Collecting storage location (octets ++ pieces.flatten)
      ((pieces.map List.length).foldl (collect size) counts) (collector.putAll size pieces) := by
  -- Over the pieces, with what was collected general. A refused piece ends it, and the counts only grow.
  induction pieces generalizing octets counts collector with
  | nil =>
      rw [List.flatten_nil, List.append_nil]
      exact collected
  | cons piece pieces ih =>
      have first := put_collecting collected size piece
      rw [Collector.putAll, List.foldlM_cons, List.flatten_cons, ← List.append_assoc, List.map_cons,
        List.foldl_cons]
      cases put : collector.put size piece with
      | ok next =>
          rw [put] at first
          exact ih first
      | error refusal =>
          rw [put] at first
          obtain ⟨most, bound, beyond⟩ := first
          exact ⟨most, bound, Nat.lt_of_lt_of_le beyond (le_foldl_collect ..)⟩

theorem created_collected (storage : Storage) (location : Location) :
    Collected storage location [] (0, 0) ⟨filled storage location [], ⟨location, 0⟩, []⟩ :=
  ⟨⟨[], rfl, rfl, rfl, rfl⟩, rfl, fits_zero storage location⟩

end Accelerometer.Proofs.Storage
