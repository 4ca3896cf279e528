import Accelerometer.Proofs.Csv.RoundTrip
import Accelerometer.Proofs.Decimal.Notation
import Accelerometer.Proofs.Signal.Convolution
import Accelerometer.Proofs.Storage.Contents
import Accelerometer.Proofs.Text.Lines
import Accelerometer.Signal.FilteredTrace

/-!
# Rows of a filtered trace

The table of a session has a row for each of its samples, with an entry of the convolution that stands
as far behind the sample as the shorter of session and filter asks for.

* `traceRow_toList`: a row, as fields.
* `traceTable_toList`: the table, as lines.
* `filtered_rows`: what filtering the session at a path gives.
* `oneSample_lost`: in a session shorter than the filter, the delay of the filter is not made up for.
-/

namespace Accelerometer.Proofs.Signal
open Accelerometer.Signal Proofs.Csv Proofs.Decimal Proofs.Storage Proofs.Text

variable {session : Session} {first : Measurement} {others : List Measurement}
  {coefficients : List Float}

def traceLine (time x filtered : Float) : List Char :=
  Csv.row ([time, x, filtered].map fun number => (Decimal.plain.text number).toList)

def traceLines (first : Measurement) (rows : List Measurement) (coefficients : List Float)
    (delay : Nat) : List (List Char) :=
  rows.mapIdx fun i row =>
    traceLine (row.time - first.time) row.x
      (convolutionEntry (rows.map Measurement.x) coefficients (i + delay))

/-! ## One row -/

theorem traceRow_toList (time x filtered : Float) :
    (traceRow time x filtered).toList = traceLine time x filtered ++ ['\n'] := by
  have plain : ∀ number, Csv.quote (Decimal.plain.text number).toList =
      (Decimal.plain.text number).toList := by
    intro number
    rw [Csv.quote, needsQuotes_plain]
    rfl
  simp [traceRow, traceLine, Csv.row, List.intercalate, plain]

theorem traceLine_plain (time x filtered : Float) :
    ∀ c ∈ traceLine time x filtered, Text.isLineEnd c = false := by
  intro c member
  rcases mem_row member with rfl | rfl | ⟨field, inside, character⟩
  · rfl
  · rfl
  · obtain ⟨number, -, rfl⟩ := List.mem_map.mp inside
    have plain := List.any_eq_false.mp (needsQuotes_plain number) c character
    rw [Bool.or_eq_true, not_or] at plain
    exact Bool.eq_false_iff.mpr plain.2

/-! ## All rows -/

theorem zip_trace (rows : session.rows = first :: others) (taps : coefficients ≠ []) :
    (((session.normalizedTimes.zip (session.rows.map Measurement.x)).zip
        (centredConvolution (session.rows.map Measurement.x) coefficients)).map
      fun ((time, x), filtered) => traceLine time x filtered) =
      traceLines first session.rows coefficients
        (centringDelay (min session.rows.length coefficients.length)) := by
  have trace : session.rows.map Measurement.x ≠ [] := by simp [rows]
  have times : session.normalizedTimes = session.rows.map fun row => row.time - first.time := by
    simp [Session.normalizedTimes, rows]
  apply List.ext_getElem?
  intro i
  rw [traceLines, List.getElem?_mapIdx, List.getElem?_map, times, List.zip_eq_zipWith,
    List.getElem?_zipWith, List.zip_eq_zipWith, List.getElem?_zipWith, List.getElem?_map,
    List.getElem?_map]
  cases row : session.rows[i]? with
  | none => rfl
  | some row' =>
      have bound : i < max (session.rows.map Measurement.x).length coefficients.length := by
        rw [List.length_map]
        exact Nat.lt_of_lt_of_le (List.getElem?_eq_some_iff.mp row).1 (Nat.le_max_left ..)
      have middle := centredConvolution_getElem? trace taps bound
      rw [List.length_map] at middle
      simp only [middle, Option.map_some]

theorem traceTable_toList (rows : session.rows = first :: others) (taps : coefficients ≠ []) :
    (traceTable session coefficients).toList =
      terminated '\n' ("time,x,x_filtered".toList ::
        traceLines first session.rows coefficients
          (centringDelay (min session.rows.length coefficients.length))) := by
  have header : "time,x,x_filtered\n".toList = "time,x,x_filtered".toList ++ ['\n'] := by decide
  unfold traceTable terminated
  simp only [String.toList_append, String.toList_join, header, ← zip_trace rows taps,
    List.flatMap_cons, List.flatMap_map, traceRow_toList]

theorem lines_traceTable (rows : session.rows = first :: others) (taps : coefficients ≠ []) :
    Text.lines (traceTable session coefficients).toList =
      "time,x,x_filtered".toList ::
        traceLines first session.rows coefficients
          (centringDelay (min session.rows.length coefficients.length)) := by
  rw [traceTable_toList rows taps]
  apply lines_terminated
  intro line member
  rcases List.mem_cons.mp member with rfl | member
  · have names : ("time,x,x_filtered".toList.all fun c => !Text.isLineEnd c) = true := by decide
    simpa using List.all_eq_true.mp names
  · obtain ⟨i, bound, rfl⟩ := List.mem_mapIdx.mp member
    exact traceLine_plain _ _ _

/-- Filtering a session that has samples gives a table with a line for each of them. What stands in it
beside a sample is the entry of the convolution half a filter further on, so that the delay of the
filter is made up for; only in a session shorter than the filter it is half a session further on. -/
theorem filtered_rows (storage : Storage) (path : Path) (session : Session) (events : List Event)
    (first : Measurement) (others : List Measurement) (coefficients : List Float)
    (loaded : Session.load storage path = .ok (session, events))
    (rows : session.rows = first :: others) (taps : coefficients ≠ []) :
    ∃ table, filteredTable storage path coefficients = .ok (some table, events) ∧
      Text.lines table.toList = "time,x,x_filtered".toList ::
        traceLines first session.rows coefficients
          (centringDelay (min session.rows.length coefficients.length)) ∧
      (coefficients.length ≤ session.rows.length →
        Text.lines table.toList = "time,x,x_filtered".toList ::
          traceLines first session.rows coefficients ((coefficients.length - 1) / 2)) := by
  have lines := lines_traceTable rows taps
  refine ⟨traceTable session coefficients, ?_, lines, ?_⟩
  · simp [filteredTable, loaded, rows, bind, Except.bind, pure, Except.pure]
  · intro long
    rw [lines, Nat.min_eq_right long, centringDelay]

def threeSamples : Storage :=
  filled emptyStorage ["run.csv"] (Storage.octetsOf "time,x,y,z\n7,1,0,0\n8,2,0,0\n9,4,0,0\n")

set_option maxRecDepth 1000 in
theorem threeSamples_filtered :
    ∃ table, filteredTable threeSamples ⟨"run.csv"⟩ [0, 0, 1] =
        .ok (some table, [.sessionLoaded ⟨"run.csv"⟩ 3]) ∧
      Text.lines table.toList =
        ["time,x,x_filtered".toList, "0,1,0".toList, "1,2,1".toList, "2,4,2".toList] := by
  have loaded : Session.load threeSamples ⟨"run.csv"⟩ =
      .ok (⟨[⟨7, 1, 0, 0⟩, ⟨8, 2, 0, 0⟩, ⟨9, 4, 0, 0⟩]⟩, [.sessionLoaded ⟨"run.csv"⟩ 3]) := rfl
  obtain ⟨table, given, -, lines⟩ := filtered_rows _ _ _ _ _ _ [0, 0, 1] loaded rfl (by simp)
  exact ⟨table, given, lines (by decide)⟩

def oneSample : Storage :=
  filled emptyStorage ["run.csv"] (Storage.octetsOf "time,x,y,z\n0,1,0,0\n")

/-- A filter of three taps that only delays its input, by one sample, loses the only sample of a
session. -/
theorem oneSample_lost :
    ¬∀ storage path session events first others coefficients table,
      Session.load storage path = .ok (session, events) → session.rows = first :: others →
      coefficients ≠ [] → filteredTable storage path coefficients = .ok (some table, events) →
      Text.lines table.toList = "time,x,x_filtered".toList ::
        traceLines first session.rows coefficients ((coefficients.length - 1) / 2) := by
  intro centred
  have loaded : Session.load oneSample ⟨"run.csv"⟩ =
      .ok (⟨[⟨0, 1, 0, 0⟩]⟩, [.sessionLoaded ⟨"run.csv"⟩ 1]) := rfl
  have taps : ([0, 1, 0] : List Float) ≠ [] := by simp
  have given : filteredTable oneSample ⟨"run.csv"⟩ [0, 1, 0] =
      .ok (some (traceTable ⟨[⟨0, 1, 0, 0⟩]⟩ [0, 1, 0]), [.sessionLoaded ⟨"run.csv"⟩ 1]) := rfl
  have asked := centred _ _ _ _ _ _ _ _ loaded rfl taps given
  have lost : traceLines ⟨0, 1, 0, 0⟩ [⟨0, 1, 0, 0⟩] [0, 1, 0] 0 = ["0,1,0".toList] := rfl
  have kept : traceLines ⟨0, 1, 0, 0⟩ [⟨0, 1, 0, 0⟩] [0, 1, 0] 1 = ["0,1,1".toList] := rfl
  have same : traceLines ⟨0, 1, 0, 0⟩ [⟨0, 1, 0, 0⟩] [0, 1, 0] 0 =
      traceLines ⟨0, 1, 0, 0⟩ [⟨0, 1, 0, 0⟩] [0, 1, 0] 1 :=
    (List.cons.inj ((lines_traceTable rfl taps).symm.trans asked)).2
  rw [lost, kept] at same
  exact absurd same (by decide)

end Accelerometer.Proofs.Signal
