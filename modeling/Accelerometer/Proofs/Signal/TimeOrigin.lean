import Accelerometer.Proofs.Double.Arithmetic
import Accelerometer.Proofs.Signal.FilteredTrace
import Accelerometer.Proofs.Signal.InPlace

/-!
# The origin of time

The times of a session are counted from its first row, if that has a time to count from: the word for
infinity is a numeral, and so are digits beyond all doubles, but no time is a finite span away from
infinity.

* `normalizedTimes_head?`: the first of the times.
* `firstTime?_trace`: the time in the first row of a filtered trace.
* `times_begin_at_zero`: both are zero if the first time is finite, and no numbers if it is not.
* `overflowingTime_not_zero`: a session of the second kind.
-/

namespace Accelerometer.Proofs.Signal
open Accelerometer.Signal Proofs.Csv Proofs.Double Proofs.Storage Proofs.Text

variable {session : Session} {first : Measurement} {others : List Measurement}
  {coefficients : List Float}

def firstTime? (table : String) : Option (List Char) :=
  (Text.lines table.toList)[1]?.bind fun line => (Csv.split line).head?

theorem normalizedTimes_head? (rows : session.rows = first :: others) :
    session.normalizedTimes.head? = some (first.time - first.time) := by
  simp [Session.normalizedTimes, rows]

theorem split_traceLine (time x filtered : Float) :
    Csv.split (traceLine time x filtered) =
      [time, x, filtered].map fun number => (Decimal.plain.text number).toList :=
  split_row (by simp)

theorem firstTime?_trace (rows : session.rows = first :: others) (taps : coefficients ≠ []) :
    firstTime? (traceTable session coefficients) =
      some (Decimal.plain.text (first.time - first.time)).toList := by
  rw [firstTime?, lines_traceTable rows taps, rows, traceLines, List.mapIdx_cons,
    List.getElem?_cons_succ, List.getElem?_cons_zero, Option.bind_some, split_traceLine,
    List.map_cons, List.head?_cons]

theorem firstTime?_unfiltered (session : Session) : firstTime? (traceTable session []) = none := by
  have empty : centredConvolution (session.rows.map Measurement.x) ([] : List Float) = [] :=
    centredConvolution_eq_nil.mpr (.inr rfl)
  unfold traceTable
  simp only [empty, List.zip_nil_right, List.map_nil]
  rw [String.join_nil, String.append_empty]
  rfl

/-- In every session that has rows, the first time is zero and the first row of the filtered trace
begins with 0 if the first row of the session has a finite time. If it has not, then neither the first
time nor what the trace begins with is a number. -/
theorem times_begin_at_zero (storage : Storage) (path : Path) (session : Session)
    (events : List Event) (first : Measurement) (others : List Measurement)
    (coefficients : List Float) (loaded : Session.load storage path = .ok (session, events))
    (rows : session.rows = first :: others) :
    ∃ table, filteredTable storage path coefficients = .ok (some table, events) ∧
      (coefficients = [] → firstTime? table = none) ∧
      (first.time.isFinite = true →
        session.normalizedTimes.head? = some 0.0 ∧
        (coefficients ≠ [] → firstTime? table = some "0".toList)) ∧
      (first.time.isFinite = false →
        session.normalizedTimes.head? = some (0.0 / 0.0) ∧
        (coefficients ≠ [] → firstTime? table = some "NaN".toList)) := by
  refine ⟨traceTable session coefficients, ?_, ?_, ?_, ?_⟩
  · simp [filteredTable, loaded, rows, bind, Except.bind, pure, Except.pure]
  · rintro rfl
    exact firstTime?_unfiltered session
  · intro finite
    have origin := sub_self_of_isFinite finite
    refine ⟨by rw [normalizedTimes_head? rows, origin], ?_⟩
    intro taps
    rw [firstTime?_trace rows taps, origin]
    rfl
  · intro infinite
    have origin := sub_self_of_not_isFinite infinite
    refine ⟨by rw [normalizedTimes_head? rows, origin], ?_⟩
    intro taps
    rw [firstTime?_trace rows taps, origin]
    rfl

def lateOrigin : Storage :=
  filled emptyStorage ["run.csv"] (Storage.octetsOf "time,x,y,z\nt,1,0,0\n-2.5e3,2,0,0\n8,4,0,0\n")

theorem lateOrigin_at_zero :
    ∃ session events table, Session.load lateOrigin ⟨"run.csv"⟩ = .ok (session, events) ∧
      session.normalizedTimes.head? = some 0.0 ∧
      filteredTable lateOrigin ⟨"run.csv"⟩ [1, 1] = .ok (some table, events) ∧
      firstTime? table = some "0".toList := by
  have loaded : Session.load lateOrigin ⟨"run.csv"⟩ =
      .ok (⟨[⟨-2500, 2, 0, 0⟩, ⟨8, 4, 0, 0⟩]⟩,
        [.rowSkipped ⟨"run.csv"⟩ 2 "t,1,0,0", .sessionLoaded ⟨"run.csv"⟩ 2]) := rfl
  obtain ⟨table, given, -, zero, -⟩ := times_begin_at_zero _ _ _ _ _ _ [1, 1] loaded rfl
  obtain ⟨origin, first⟩ := zero rfl
  exact ⟨_, _, table, loaded, origin, given, first (by simp)⟩

def overflowingTime : Storage :=
  filled emptyStorage ["run.csv"] (Storage.octetsOf "time,x,y,z\n1e400,1,2,3\n")

theorem overflowingTime_not_zero :
    ¬∀ storage path session events, Session.load storage path = .ok (session, events) →
      session.rows ≠ [] →
      ∃ time, session.normalizedTimes.head? = some time ∧ (time == 0.0) = true := by
  intro zero
  have loaded : Session.load overflowingTime ⟨"run.csv"⟩ =
      .ok (⟨[⟨1.0 / 0.0, 1, 2, 3⟩]⟩, [.sessionLoaded ⟨"run.csv"⟩ 1]) := rfl
  obtain ⟨time, origin, isZero⟩ := zero _ _ _ _ loaded (by simp)
  rw [normalizedTimes_head? rfl, sub_self_of_not_isFinite rfl] at origin
  obtain rfl := Option.some.inj origin
  cases isZero

end Accelerometer.Proofs.Signal
