import TerrierScript.Testing.PyStr
import TerrierScript.MicroBench.ArtifactProcessor

/-!
# `GBenchRunResult`: the tests of one Google Benchmark result file

`testing/micro_bench/gbench_run_result.py` reads the JSON of a result file
into a dict of test results keyed by `(suite_name, test_name)`, stamping every
entry with the date of the run, and takes the benchmark's name from the path
of its executable.

`GBenchTestResult`, `datetime.now()` and `datetime.strptime` are not in the
sources: `GBenchEnv` gives them.  `_get_datetime` reads the clock on each of
its calls, one per entry, so the clock is read at the number of the call.  A benchmark entry is a `BenchEntry` of the
micro-benchmark model; the dict is a list of pairs in insertion order.

The result is a store property: every successful population files each test
result under its key once, and a later entry with the same key replaces an
earlier one, so the dict holds the last result of every key and nothing else.
-/

namespace TerrierScript
namespace Testing

open MicroBench (BenchEntry dictSet)

/-- The `context` of a result file, at the keys the script reads. -/
structure Context where
  date : Option String := none
  executable : Option String := none
  deriving DecidableEq, Repr

/-- The JSON of a result file, at the keys the script reads. -/
structure RunResults where
  benchmarks : Option (List BenchEntry) := none
  context : Option Context := none
  deriving DecidableEq, Repr

/-- What the class reads through code outside the sources: the current time as
`datetime.now().strftime(date_format)` at the `n`-th call of `_get_datetime`,
`datetime.strptime`, and `GBenchTestResult` of an entry stamped with a time,
with the names it reads. -/
structure GBenchEnv (τ T : Type) where
  now : ℕ → String
  strptime : String → String → Except String τ
  gbenchTestResult : BenchEntry → τ → Except String T
  suiteName : T → String
  testName : T → String

variable {τ T : Type} (env : GBenchEnv τ T)

def dateFormat : String := "%Y-%m-%dT%H:%M:%S"

def oldDateFormat : String := "%Y-%m-%d %H:%M:%S"

/-- `_get_datetime`, called for the `n`-th time: the `date` of the context
without its last six characters, in the current format, or the whole `date` in
the old one; the time of the call when there is no `date`. -/
def getDatetime (results : RunResults) (n : ℕ) : Except String τ :=
  let defaultDate := env.now n ++ "+00:00"
  let dateStr := ((results.context.getD {}).date).getD defaultDate
  match env.strptime (String.mk (dateStr.toList.take (dateStr.length - 6))) dateFormat with
  | .ok d => .ok d
  | .error _ => env.strptime dateStr oldDateFormat

/-- `bench['timestamp'] = self._get_datetime()`, then `GBenchTestResult(bench)`,
for the `n`-th entry. -/
def testResultOf (results : RunResults) (n : ℕ) (bench : BenchEntry) : Except String T := do
  let timestamp ← getDatetime env results n
  env.gbenchTestResult bench timestamp

def GBenchEnv.key (r : T) : String × String := (env.suiteName r, env.testName r)

/-- `_populate_benchmark_results`: `benchmarks[key] = test_result` for every
entry of `results.get('benchmarks', [])`, in order. -/
def populateBenchmarkResults (results : RunResults) : Except String (List ((String × String) × T)) :=
  (results.benchmarks.getD []).enum.foldlM (fun benchmarks nb => do
    let testResult ← testResultOf env results nb.1 nb.2
    pure (dictSet benchmarks (env.key testResult) testResult)) []

/-- `_get_benchmark_name`: `os.path.basename` of the context's `executable`. -/
def getBenchmarkName (results : RunResults) : Except String String :=
  match results.context with
  | none => .error "AttributeError: 'NoneType' object has no attribute 'get'"
  | some context =>
      match context.executable with
      | none => .error "TypeError: expected str, bytes or os.PathLike object, not NoneType"
      | some executable => .ok (basename executable)

structure GBenchRunResult (T : Type) where
  results : RunResults
  benchmarks : List ((String × String) × T)
  benchmarkName : String

/-- `GBenchRunResult(json_results)`. -/
def GBenchRunResult.init (jsonResults : RunResults) : Except String (GBenchRunResult T) := do
  let benchmarks ← populateBenchmarkResults env jsonResults
  let benchmarkName ← getBenchmarkName jsonResults
  pure ⟨jsonResults, benchmarks, benchmarkName⟩

/-! ## The dict holds the last result of every key -/

section Store

variable {κ ν : Type} [BEq κ] [LawfulBEq κ]

/-- Filing values one after another: a key holds the last value filed under
it, or what it held before. -/
theorem lookup_foldl_dictSet (key : ν → κ) (vs : List ν) (d : List (κ × ν)) (k : κ) :
    (vs.foldl (fun d v => dictSet d (key v) v) d).lookup k =
      (vs.reverse.find? (fun v => key v == k)).or (d.lookup k) := by
  induction vs generalizing d with
  | nil => rfl
  | cons v vs ih =>
      rw [List.foldl_cons, ih, MicroBench.lookup_dictSet, List.reverse_cons, List.find?_append,
        Option.or_assoc]
      by_cases hk : key v = k
      · simp [hk]
      · simp [hk, Ne.symm hk]

theorem nodup_foldl_dictSet (key : ν → κ) (vs : List ν) {d : List (κ × ν)}
    (hd : (d.map Prod.fst).Nodup) : ((vs.foldl (fun d v => dictSet d (key v) v) d).map Prod.fst).Nodup := by
  induction vs generalizing d with
  | nil => exact hd
  | cons v vs ih => exact ih (MicroBench.nodup_map_fst_dictSet _ _ hd)

end Store

/-- A successful loop of fallible steps that each file one value: the values
the steps computed, filed in order. -/
theorem foldlM_dictSet_eq_ok {α κ ν : Type} [BEq κ] {f : α → Except String ν} {key : ν → κ} :
    ∀ {xs : List α} {d d' : List (κ × ν)},
      xs.foldlM (fun d x => do let v ← f x; pure (dictSet d (key v) v)) d = .ok d' →
      ∃ vs, List.Forall₂ (fun x v => f x = .ok v) xs vs ∧
        d' = vs.foldl (fun d v => dictSet d (key v) v) d
  | [], _, _, h => ⟨[], .nil, (Except.ok.inj h).symm⟩
  | x :: xs, d, d', h => by
      rw [List.foldlM_cons, MicroBench.bind_eq_ok] at h
      obtain ⟨d₁, h₁, hrest⟩ := h
      rw [MicroBench.bind_eq_ok] at h₁
      obtain ⟨v, hv, hset⟩ := h₁
      obtain ⟨vs, hvs, rfl⟩ := foldlM_dictSet_eq_ok hrest
      cases MicroBench.pure_eq_ok.mp hset
      exact ⟨v :: vs, .cons hv hvs, rfl⟩

/-- Every successful `_populate_benchmark_results` files the test result of
each entry, stamped at its own call of `_get_datetime`, under its
`(suite_name, test_name)`, each key once, and a key holds the result of the
last entry with that key. -/
theorem populateBenchmarkResults_last_wins {results : RunResults}
    {benchmarks : List ((String × String) × T)}
    (h : populateBenchmarkResults env results = .ok benchmarks) :
    ∃ testResults, List.Forall₂ (fun nb r => testResultOf env results nb.1 nb.2 = .ok r)
        (results.benchmarks.getD []).enum testResults ∧
      (benchmarks.map Prod.fst).Nodup ∧
      ∀ k, benchmarks.lookup k = testResults.reverse.find? (fun r => env.key r == k) := by
  obtain ⟨testResults, hrel, rfl⟩ := foldlM_dictSet_eq_ok h
  refine ⟨testResults, hrel, nodup_foldl_dictSet _ _ List.nodup_nil, fun k => ?_⟩
  rw [lookup_foldl_dictSet]
  cases testResults.reverse.find? (fun r => env.key r == k) <;> rfl

/-- Test results that are the entries themselves, keyed by the parts of their
names. -/
def entryEnv : GBenchEnv Unit BenchEntry :=
  ⟨fun _ => "2020-01-01T00:00:00", fun _ _ => .ok (), fun bench _ => .ok bench,
    fun r => (MicroBench.splitName r.name).headD "",
    fun r => ((MicroBench.splitName r.name).drop 1).headD ""⟩

/-- Two entries of `Suite/Test`. -/
def twoEntries : RunResults :=
  { benchmarks := some [MicroBench.buildEntry 1, MicroBench.buildEntry 3] }

theorem populateBenchmarkResults_last_wins_twoEntries :
    populateBenchmarkResults entryEnv twoEntries = .ok [(("Suite", "Test"), MicroBench.buildEntry 3)] ∧
      ∃ testResults, List.Forall₂ (fun nb r => testResultOf entryEnv twoEntries nb.1 nb.2 = .ok r)
          (twoEntries.benchmarks.getD []).enum testResults ∧
        ([(("Suite", "Test"), MicroBench.buildEntry 3)].map Prod.fst).Nodup ∧
        ∀ k, [(("Suite", "Test"), MicroBench.buildEntry 3)].lookup k =
          testResults.reverse.find? (fun r => entryEnv.key r == k) :=
  have h : populateBenchmarkResults entryEnv twoEntries =
      .ok [(("Suite", "Test"), MicroBench.buildEntry 3)] := rfl
  ⟨h, populateBenchmarkResults_last_wins entryEnv h⟩

end Testing
end TerrierScript
