import Mathlib.Data.List.Sort
import Mathlib.Algebra.Order.Field.Basic
import Mathlib.Tactic.NormNum
import Mathlib.Tactic.Linarith

/-!
# Average log throughput of a metrics file

`aggregate_log_throughput` drops the first row of the metrics file, refuses
tables that are then left with at most one row, and divides the records of
the remaining rows by the time from the start of the first remaining row to
the end of the last one.  Values are exact rationals; reading the file and
stripping its column names are left to the caller.
-/

namespace TerrierScript
namespace LogThroughput

/-- One row of a metrics file: the columns `METRICS_START_TIME_COL`,
`METRICS_ELAPSED_TIME_COL` and `METRICS_NUM_RECORDS_COL`. -/
structure MetricsRow where
  startTime : ℚ
  elapsedTime : ℚ
  numRecords : ℚ
  deriving DecidableEq, Repr

/-- The line `aggregate_log_throughput` logs. -/
inductive ThroughputLog where
  | error (msg : String)
  | info (avgThroughput : ℚ)
  deriving DecidableEq, Repr

def notEnoughData : String := "Not enough data to calculate log throughput"

def aggregateLogThroughput (df : List MetricsRow) : ThroughputLog :=
  -- the first row is dropped: the database was idle before it
  match df.drop 1 with
  | first :: second :: rest =>
      let last := (second :: rest).getLast (List.cons_ne_nil _ _)
      let endTime := last.startTime + last.elapsedTime
      let totalTime := endTime - first.startTime
      let totalRecords := ((first :: second :: rest).map MetricsRow.numRecords).sum
      .info (totalRecords / totalTime * 1000)
  | _ => .error notEnoughData

/-- The precondition of the aggregation: rows ordered by strictly increasing
start time. -/
def StartTimesIncreasing (rows : List MetricsRow) : Prop :=
  (rows.map MetricsRow.startTime).Sorted (· < ·)

theorem aggregateLogThroughput_of_length_lt {rows : List MetricsRow} (h : rows.length < 3) :
    aggregateLogThroughput rows = .error notEnoughData := by
  match rows, h with
  | [], _ | [_], _ | [_, _], _ => rfl

theorem aggregateLogThroughput_cons_cons_cons (a b c : MetricsRow) (rest : List MetricsRow) :
    aggregateLogThroughput (a :: b :: c :: rest) =
      .info (((b :: c :: rest).map MetricsRow.numRecords).sum /
        (((c :: rest).getLast (List.cons_ne_nil _ _)).startTime +
          ((c :: rest).getLast (List.cons_ne_nil _ _)).elapsedTime - b.startTime) * 1000) := by
  rfl

theorem getLast_startTime_gt {b : MetricsRow} {rest : List MetricsRow} (hne : rest ≠ [])
    (hsorted : StartTimesIncreasing (b :: rest)) : b.startTime < (rest.getLast hne).startTime := by
  have hfirst := (List.sorted_cons.mp hsorted).1
  exact hfirst _ (List.mem_map_of_mem _ (List.getLast_mem hne))

/-- For a table of strictly increasing start times and positive elapsed times,
with at least three rows the aggregation reports the records of rows
`1, …, n-1` per millisecond of the window from the start of row `1` to the end
of the last row, a window of positive length; with fewer rows it reports that
there is not enough data. -/
theorem aggregateLogThroughput_window (rows : List MetricsRow)
    (hstart : StartTimesIncreasing rows) (helapsed : ∀ r ∈ rows, 0 < r.elapsedTime) :
    (∀ h : 3 ≤ rows.length,
      (0 : ℚ) < rows[rows.length - 1].startTime + rows[rows.length - 1].elapsedTime -
        rows[1].startTime ∧
      aggregateLogThroughput rows =
        .info (((rows.drop 1).map MetricsRow.numRecords).sum /
          (rows[rows.length - 1].startTime + rows[rows.length - 1].elapsedTime -
            rows[1].startTime) * 1000)) ∧
    (rows.length < 3 → aggregateLogThroughput rows = .error notEnoughData) := by
  refine ⟨fun h => ?_, aggregateLogThroughput_of_length_lt⟩
  match rows, h, hstart, helapsed with
  | a :: b :: c :: rest, _, hstart, helapsed =>
      have hlast : (a :: b :: c :: rest)[(a :: b :: c :: rest).length - 1] =
          (c :: rest).getLast (List.cons_ne_nil _ _) := by
        simp [List.getLast_eq_getElem]
      have hgt := getLast_startTime_gt (List.cons_ne_nil c rest) (List.sorted_cons.mp hstart).2
      have hpos := helapsed _ (.tail _ (.tail _ (List.getLast_mem (List.cons_ne_nil c rest))))
      refine ⟨?_, ?_⟩
      · rw [hlast]
        show 0 < _ - b.startTime
        linarith
      · rw [aggregateLogThroughput_cons_cons_cons, hlast]
        rfl

/-- The example of the specification: 95 records over the 300 µs from the
start of the second row to the end of the third. -/
theorem aggregateLogThroughput_window_example :
    StartTimesIncreasing [⟨0, 100, 5⟩, ⟨100, 100, 50⟩, ⟨300, 100, 45⟩] ∧
      (∀ r ∈ [MetricsRow.mk 0 100 5, ⟨100, 100, 50⟩, ⟨300, 100, 45⟩],
        0 < r.elapsedTime) ∧
      aggregateLogThroughput [⟨0, 100, 5⟩, ⟨100, 100, 50⟩, ⟨300, 100, 45⟩] =
        .info (950 / 3) := by
  have hstart : StartTimesIncreasing [⟨0, 100, 5⟩, ⟨100, 100, 50⟩, ⟨300, 100, 45⟩] := by
    norm_num [StartTimesIncreasing]
  have helapsed : ∀ r ∈ [MetricsRow.mk 0 100 5, ⟨100, 100, 50⟩, ⟨300, 100, 45⟩],
      0 < r.elapsedTime := by
    norm_num
  refine ⟨hstart, helapsed, ?_⟩
  rw [((aggregateLogThroughput_window _ hstart helapsed).1 (by decide)).2]
  norm_num

/-- Two rows meet the precondition, but dropping the first leaves a single row
and the aggregation reports that there is not enough data. -/
theorem aggregateLogThroughput_two_rows_refused :
    StartTimesIncreasing [⟨0, 100, 5⟩, ⟨100, 100, 50⟩] ∧
      (∀ r ∈ [MetricsRow.mk 0 100 5, ⟨100, 100, 50⟩], 0 < r.elapsedTime) ∧
      aggregateLogThroughput [⟨0, 100, 5⟩, ⟨100, 100, 50⟩] = .error notEnoughData :=
  ⟨by norm_num [StartTimesIncreasing], by norm_num, rfl⟩

end LogThroughput
end TerrierScript
