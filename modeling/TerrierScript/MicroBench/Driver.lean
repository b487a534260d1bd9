import Mathlib.Data.List.Forall2
import TerrierScript.MicroBench.Report

/-!
# Running the micro-benchmarks

`run_all_benchmarks` runs each benchmark of its list with `subprocess.call`,
and `run_single_benchmark` then converts the JSON the benchmark wrote into a
JUnit file with `GBenchToJUnit`.  The loop returns 0 when every benchmark
exits with 0 and otherwise the exit code of the last one that did not, and
prints a line for each of those; a conversion that raises ends the loop, and
the benchmarks after it never run.

The JUnit file has a `testsuite` element whose `tests` attribute counts its
`testcase` children, one per benchmark entry, in order.

The exit codes, the `benchmarks` list of each JSON file, and Python's `str`
of a float come from outside: an oracle `BenchEnv` gives them.
-/

namespace TerrierScript
namespace MicroBench

/-- The `testsuite` dict of `read_gb_results`, once `_annotate_test_suite`
has set its counters. -/
structure TestSuite where
  testcases : List GBBenchResult
  name : String
  errors : String
  failures : String
  skipped : String
  tests : String
  deriving DecidableEq, Repr

def annotateTestSuite (testcases : List GBBenchResult) (name : String) : TestSuite :=
  ⟨testcases, name, "0", "0", "0", toString testcases.length⟩

/-- `read_gb_results` on the `benchmarks` of the file: one `GBBenchResult` per
entry, and the suite named after the first. -/
def readGbResults (benchList : List BenchEntry) : Except String TestSuite := do
  let testcases ← benchList.mapM GBBenchResult.ofEntry
  match testcases with
  | [] => .error "AssertionError"
  | first :: _ => pure (annotateTestSuite testcases first.suiteName)

/-- A `testcase` element and its attributes. -/
structure TestCaseElement where
  classname : String
  name : String
  time : String
  deriving DecidableEq, Repr

/-- The `testsuite` element: its attributes in the order `write_output` sets
them, and its `testcase` children. -/
structure TestSuiteElement where
  attrs : List (String × String)
  testcases : List TestCaseElement
  deriving DecidableEq, Repr

/-- The body of the loop of `write_output`: a `testcase` timed by `str` of the
result's `real_time`, a plain key, so a numeric field of the entry or nothing. -/
def testCaseOf (strFloat : ℚ → String) (test : GBBenchResult) :
    Except String TestCaseElement :=
  match test.entry.fields.lookup "real_time" with
  | some realTime => .ok ⟨test.suiteName, test.testName, realTime.str strFloat⟩
  | none => .error (attributeError "real_time")

/-- `write_output`: the suite's attributes, and a `testcase` per result. -/
def writeOutput (strFloat : ℚ → String) (suite : TestSuite) :
    Except String TestSuiteElement := do
  let attrs := [("errors", suite.errors), ("failures", suite.failures),
    ("skipped", suite.skipped), ("tests", suite.tests), ("name", suite.name)]
  let testcases ← suite.testcases.mapM (testCaseOf strFloat)
  pure ⟨attrs, testcases⟩

/-- `GBenchToJUnit(input_file, output_file)` on the `benchmarks` of the input
file: the element written to the output file. -/
def gbenchToJUnit (strFloat : ℚ → String) (benchList : List BenchEntry) :
    Except String TestSuiteElement := do
  let suite ← readGbResults benchList
  writeOutput strFloat suite

theorem mapM_eq_ok_forall₂ {α β ε : Type} {f : α → Except ε β} :
    ∀ {as : List α} {bs : List β}, as.mapM f = .ok bs →
      List.Forall₂ (fun a b => f a = .ok b) as bs
  | [], _, h => by
      cases h
      exact .nil
  | _ :: _, _, h => by
      obtain ⟨_, _, hb, hbs, rfl⟩ := mapM_cons_eq_ok h
      exact .cons hb (mapM_eq_ok_forall₂ hbs)

theorem ofEntry_eq_ok {entry : BenchEntry} {r : GBBenchResult}
    (h : GBBenchResult.ofEntry entry = .ok r) :
    r.entry = entry ∧ ∃ rest, splitName entry.name = r.suiteName :: r.testName :: rest := by
  unfold GBBenchResult.ofEntry at h
  split at h
  · next suiteName testName rest hsplit =>
      cases h
      exact ⟨rfl, rest, hsplit⟩
  · cases h

theorem testCaseOf_eq_ok {strFloat : ℚ → String} {r : GBBenchResult} {tc : TestCaseElement}
    (h : testCaseOf strFloat r = .ok tc) :
    tc.classname = r.suiteName ∧ tc.name = r.testName ∧
      ∃ t, r.entry.fields.lookup "real_time" = some t ∧ tc.time = t.str strFloat := by
  unfold testCaseOf at h
  split at h
  · next t hlookup =>
      cases h
      exact ⟨rfl, rfl, t, hlookup, rfl⟩
  · cases h

/-- A JUnit element written from a benchmark entry: its class and test name
are the first two parts of the entry's name, and its time is the entry's
`real_time`. -/
def WrittenFrom (strFloat : ℚ → String) (entry : BenchEntry) (tc : TestCaseElement) : Prop :=
  (∃ rest, splitName entry.name = tc.classname :: tc.name :: rest) ∧
    ∃ t, entry.fields.lookup "real_time" = some t ∧ tc.time = t.str strFloat

theorem forall₂_writtenFrom {strFloat : ℚ → String} {entries : List BenchEntry}
    {rs : List GBBenchResult} {tcs : List TestCaseElement}
    (hrs : List.Forall₂ (fun e r => GBBenchResult.ofEntry e = .ok r) entries rs)
    (htcs : List.Forall₂ (fun r tc => testCaseOf strFloat r = .ok tc) rs tcs) :
    List.Forall₂ (WrittenFrom strFloat) entries tcs := by
  induction hrs generalizing tcs with
  | nil =>
      cases htcs
      exact .nil
  | cons hr _ ih =>
      cases htcs with
      | cons htc htcs =>
          obtain ⟨hentry, rest, hsplit⟩ := ofEntry_eq_ok hr
          obtain ⟨hclass, hname, t, ht, htime⟩ := testCaseOf_eq_ok htc
          exact .cons ⟨⟨rest, hclass ▸ hname ▸ hsplit⟩, t, hentry ▸ ht, htime⟩
            (ih htcs)

/-- What `GBenchToJUnit` writes, when it succeeds: the counters `0`, a `tests`
attribute equal to the number of `testcase` elements, the suite named after
the first of them, and one `testcase` per entry, in order, written from it. -/
theorem gbenchToJUnit_wellFormed {strFloat : ℚ → String} {benchList : List BenchEntry}
    {el : TestSuiteElement} (h : gbenchToJUnit strFloat benchList = .ok el) :
    (∃ tc rest, el.testcases = tc :: rest ∧
      el.attrs = [("errors", "0"), ("failures", "0"), ("skipped", "0"),
        ("tests", toString el.testcases.length), ("name", tc.classname)]) ∧
      List.Forall₂ (WrittenFrom strFloat) benchList el.testcases := by
  rw [gbenchToJUnit, bind_eq_ok] at h
  obtain ⟨suite, hread, hwrite⟩ := h
  rw [readGbResults, bind_eq_ok] at hread
  obtain ⟨testcases, hparse, hsuite⟩ := hread
  rcases testcases with _ | ⟨first, rest⟩
  · cases hsuite
  · rw [pure_eq_ok] at hsuite
    subst hsuite
    rw [writeOutput, bind_eq_ok] at hwrite
    obtain ⟨tcs, htcs, hel⟩ := hwrite
    rw [pure_eq_ok] at hel
    subst hel
    cases mapM_eq_ok_forall₂ htcs with
    | cons htc hrest =>
        refine ⟨⟨_, _, rfl, ?_⟩,
          forall₂_writtenFrom (mapM_eq_ok_forall₂ hparse) (.cons htc hrest)⟩
        simp [annotateTestSuite, hrest.length_eq, (testCaseOf_eq_ok htc).1]

/-- The sample entry of the docstring of `GBBenchResult`. -/
def simpleInsert : BenchEntry :=
  ⟨"DataTableBenchmark/SimpleInsert/real_time", "ms", [("iterations", .int 5),
    ("real_time", .float 1209), ("cpu_time", .float 1209), ("items_per_second", .float 8265115)],
    by decide, by decide⟩

theorem gbenchToJUnit_wellFormed_simpleInsert :
    gbenchToJUnit (fun _ => "1209.0") [simpleInsert] =
        .ok ⟨[("errors", "0"), ("failures", "0"), ("skipped", "0"), ("tests", "1"),
          ("name", "DataTableBenchmark")],
          [⟨"DataTableBenchmark", "SimpleInsert", "1209.0"⟩]⟩ ∧
      List.Forall₂ (WrittenFrom fun _ => "1209.0") [simpleInsert]
        [⟨"DataTableBenchmark", "SimpleInsert", "1209.0"⟩] :=
  have h : gbenchToJUnit (fun _ => "1209.0") [simpleInsert] =
      .ok ⟨[("errors", "0"), ("failures", "0"), ("skipped", "0"), ("tests", "1"),
        ("name", "DataTableBenchmark")],
        [⟨"DataTableBenchmark", "SimpleInsert", "1209.0"⟩]⟩ := rfl
  ⟨h, (gbenchToJUnit_wellFormed h).2⟩

/-! ### Which inputs convert -/

/-- `RunMicroBenchmarks`: the benchmarks to run and `--benchmark_min_time`. -/
structure RunMicroBenchmarks where
  benchmarkList : List String
  minTime : ℕ
  deriving DecidableEq, Repr

def RunMicroBenchmarks.init : RunMicroBenchmarks :=
  ⟨["data_table_benchmark", "tuple_access_strategy_benchmark"], 10⟩

/-- What the benchmarks give back: the exit code of each shell command, the
`benchmarks` of each JSON file read back (or the exception of reading it), and
Python's `str` of a float. -/
structure BenchEnv where
  exitCode : String → Int
  readBenchmarks : String → Except String (List BenchEntry)
  strFloat : ℚ → String

/-- The JSON output of the benchmark reads back and converts to JUnit. -/
def BenchEnv.Converts (env : BenchEnv) (benchmarkName : String) : Prop :=
  ∃ testsuite, (env.readBenchmarks (benchmarkName ++ ".json") >>= gbenchToJUnit env.strFloat) =
    .ok testsuite

/-- The calls of `run_all_benchmarks` outside the script. -/
inductive DriverCall where
  | subprocessCall (cmd : String)
  | writeJUnit (outputFile : String) (testsuite : TestSuiteElement)
  | print (line : String)
  deriving DecidableEq, Repr

def DriverCall.command? : DriverCall → Option String
  | .subprocessCall cmd => some cmd
  | _ => none

def DriverCall.printed? : DriverCall → Option String
  | .print line => some line
  | _ => none

/-- The shell command of `run_single_benchmark`. -/
def benchmarkCommand (minTime : ℕ) (benchmarkName : String) : String :=
  "../../build/release/" ++ benchmarkName ++ " --benchmark_min_time=" ++ toString minTime ++
    "  --benchmark_format=json --benchmark_out=" ++ benchmarkName ++ ".json"

/-- The line printed for a benchmark that exits with a nonzero code. -/
def terminatedLine (benchmarkName : String) (retVal : Int) : String :=
  benchmarkName ++ " terminated with " ++ toString retVal

namespace RunMicroBenchmarks

variable (rb : RunMicroBenchmarks) (env : BenchEnv)

/-- `run_single_benchmark`: the command, then the conversion of the JSON it
wrote; the calls made, and the exit code or the exception of the conversion. -/
def runSingleBenchmark (benchmarkName : String) : List DriverCall × Except String Int :=
  let cmd := benchmarkCommand rb.minTime benchmarkName
  match env.readBenchmarks (benchmarkName ++ ".json") >>= gbenchToJUnit env.strFloat with
  | .ok testsuite =>
      ([.subprocessCall cmd, .writeJUnit (benchmarkName ++ ".xml") testsuite],
        .ok (env.exitCode cmd))
  | .error e => ([.subprocessCall cmd], .error e)

/-- The loop of `run_all_benchmarks`, from the value `ret_val` holds. -/
def runAllBenchmarksFrom : Int → List String → List DriverCall × Except String Int
  | retVal, [] => ([], .ok retVal)
  | retVal, benchmarkName :: rest =>
      match rb.runSingleBenchmark env benchmarkName with
      | (calls, .error e) => (calls, .error e)
      | (calls, .ok benchRetVal) =>
          if benchRetVal ≠ 0 then
            let next := runAllBenchmarksFrom benchRetVal rest
            (calls ++ .print (terminatedLine benchmarkName benchRetVal) :: next.1, next.2)
          else
            let next := runAllBenchmarksFrom retVal rest
            (calls ++ next.1, next.2)

def runAllBenchmarks : List DriverCall × Except String Int :=
  rb.runAllBenchmarksFrom env 0 rb.benchmarkList

/-- The exit code of a benchmark's command. -/
def exitCodeOf (benchmarkName : String) : Int :=
  env.exitCode (benchmarkCommand rb.minTime benchmarkName)

variable {env}

theorem runSingleBenchmark_of_converts {benchmarkName : String}
    (h : env.Converts benchmarkName) :
    ∃ testsuite, rb.runSingleBenchmark env benchmarkName =
      ([.subprocessCall (benchmarkCommand rb.minTime benchmarkName),
        .writeJUnit (benchmarkName ++ ".xml") testsuite],
        .ok (rb.exitCodeOf env benchmarkName)) := by
  obtain ⟨testsuite, h⟩ := h
  exact ⟨testsuite, by simp only [runSingleBenchmark, h, exitCodeOf]⟩

theorem runSingleBenchmark_of_error {benchmarkName : String} {e : String}
    (h : (env.readBenchmarks (benchmarkName ++ ".json") >>= gbenchToJUnit env.strFloat) =
      .error e) :
    rb.runSingleBenchmark env benchmarkName =
      ([.subprocessCall (benchmarkCommand rb.minTime benchmarkName)], .error e) := by
  simp only [runSingleBenchmark, h]

theorem getLast?_getD_filter_cons {α : Type} (p : α → Bool) (a : α) (l : List α) (d : α) :
    ((a :: l).filter p).getLast?.getD d = (l.filter p).getLast?.getD (if p a then a else d) := by
  by_cases h : p a <;> simp [List.filter_cons, h, List.getLast?_cons]

/-- When every conversion succeeds, the loop from `ret_val` ends with the exit
code of the last benchmark that exited with a nonzero code, or `ret_val` if
none did; it runs every command in order and prints a line for each nonzero
code. -/
theorem runAllBenchmarksFrom_of_converts (retVal : Int) (names : List String)
    (hconv : ∀ n ∈ names, env.Converts n) :
    (rb.runAllBenchmarksFrom env retVal names).2 =
        .ok (((names.map (rb.exitCodeOf env)).filter (· ≠ 0)).getLast?.getD retVal) ∧
      (rb.runAllBenchmarksFrom env retVal names).1.filterMap DriverCall.command? =
        names.map (benchmarkCommand rb.minTime) ∧
      (rb.runAllBenchmarksFrom env retVal names).1.filterMap DriverCall.printed? =
        (names.filter (rb.exitCodeOf env · ≠ 0)).map fun n =>
          terminatedLine n (rb.exitCodeOf env n) := by
  induction names generalizing retVal with
  | nil => exact ⟨rfl, rfl, rfl⟩
  | cons n ns ih =>
      obtain ⟨testsuite, hn⟩ := rb.runSingleBenchmark_of_converts (hconv n (.head _))
      have ih' := fun r => ih r fun m hm => hconv m (.tail _ hm)
      rw [runAllBenchmarksFrom, hn, List.map_cons, getLast?_getD_filter_cons, List.filter_cons]
      by_cases hcode : rb.exitCodeOf env n = 0
      · obtain ⟨hret, hcmd, hprint⟩ := ih' retVal
        simp only [hcode, ne_eq, not_true_eq_false, decide_False, if_false, Bool.false_eq_true]
        refine ⟨hret, ?_, ?_⟩ <;>
          simp [hcmd, hprint, DriverCall.command?, DriverCall.printed?]
      · obtain ⟨hret, hcmd, hprint⟩ := ih' (rb.exitCodeOf env n)
        simp only [hcode, ne_eq, not_false_eq_true, decide_True, if_true]
        refine ⟨hret, ?_, ?_⟩ <;>
          simp [hcmd, hprint, DriverCall.command?, DriverCall.printed?]

/-- A conversion that raises ends the loop with its exception: the commands
run are those of the benchmarks before it and its own. -/
theorem runAllBenchmarksFrom_of_error (retVal : Int) (pre : List String) {n : String}
    (post : List String) {e : String} (hpre : ∀ m ∈ pre, env.Converts m)
    (hn : (env.readBenchmarks (n ++ ".json") >>= gbenchToJUnit env.strFloat) = .error e) :
    (rb.runAllBenchmarksFrom env retVal (pre ++ n :: post)).2 = .error e ∧
      (rb.runAllBenchmarksFrom env retVal (pre ++ n :: post)).1.filterMap DriverCall.command? =
        (pre ++ [n]).map (benchmarkCommand rb.minTime) := by
  induction pre generalizing retVal with
  | nil => simp [runAllBenchmarksFrom, rb.runSingleBenchmark_of_error hn, DriverCall.command?]
  | cons m ms ih =>
      obtain ⟨testsuite, hm⟩ := rb.runSingleBenchmark_of_converts (hpre m (.head _))
      have ih' := fun r => ih r fun m' hm' => hpre m' (.tail _ hm')
      rw [List.cons_append, runAllBenchmarksFrom, hm]
      by_cases hcode : rb.exitCodeOf env m = 0
      · obtain ⟨hret, hcmd⟩ := ih' retVal
        simp only [hcode, ne_eq, not_true_eq_false, if_false]
        exact ⟨hret, by simp [hcmd, DriverCall.command?]⟩
      · obtain ⟨hret, hcmd⟩ := ih' (rb.exitCodeOf env m)
        simp only [hcode, ne_eq, not_false_eq_true, if_true]
        exact ⟨hret, by simp [hcmd, DriverCall.command?]⟩

/-- When every benchmark's JSON converts, `run_all_benchmarks` returns `0` if
every benchmark exits with `0`, and otherwise the exit code of the last one
that does not; it runs every benchmark's command once, in order, and prints a
line for each nonzero exit code. -/
theorem runAllBenchmarks_returns_last_failure (hconv : ∀ n ∈ rb.benchmarkList, env.Converts n) :
    (rb.runAllBenchmarks env).2 =
        .ok (((rb.benchmarkList.map (rb.exitCodeOf env)).filter (· ≠ 0)).getLast?.getD 0) ∧
      (rb.runAllBenchmarks env).1.filterMap DriverCall.command? =
        rb.benchmarkList.map (benchmarkCommand rb.minTime) ∧
      (rb.runAllBenchmarks env).1.filterMap DriverCall.printed? =
        (rb.benchmarkList.filter (rb.exitCodeOf env · ≠ 0)).map fun n =>
          terminatedLine n (rb.exitCodeOf env n) :=
  rb.runAllBenchmarksFrom_of_converts 0 rb.benchmarkList hconv

/-- A conversion that raises ends `run_all_benchmarks` with its exception, and
the benchmarks after it never run. -/
theorem runAllBenchmarks_stops_at_failed_conversion {pre post : List String} {n e : String}
    (hlist : rb.benchmarkList = pre ++ n :: post) (hpre : ∀ m ∈ pre, env.Converts m)
    (hn : (env.readBenchmarks (n ++ ".json") >>= gbenchToJUnit env.strFloat) = .error e) :
    (rb.runAllBenchmarks env).2 = .error e ∧
      (rb.runAllBenchmarks env).1.filterMap DriverCall.command? =
        (pre ++ [n]).map (benchmarkCommand rb.minTime) := by
  rw [runAllBenchmarks, hlist]
  exact rb.runAllBenchmarksFrom_of_error 0 pre post hpre hn

end RunMicroBenchmarks

/-- The first benchmark exits with `1`, the second with `0`; each writes the
sample entry. -/
def firstFails : BenchEnv :=
  ⟨fun cmd => if cmd = benchmarkCommand 10 "data_table_benchmark" then 1 else 0,
    fun _ => .ok [simpleInsert], fun _ => "1209.0"⟩

theorem runAllBenchmarks_returns_last_failure_firstFails :
    (∀ n ∈ RunMicroBenchmarks.init.benchmarkList, firstFails.Converts n) ∧
      (RunMicroBenchmarks.init.runAllBenchmarks firstFails).2 = .ok 1 := by
  have hconv : ∀ n ∈ RunMicroBenchmarks.init.benchmarkList, firstFails.Converts n :=
    fun _ _ => ⟨_, rfl⟩
  refine ⟨hconv, ?_⟩
  rw [(RunMicroBenchmarks.runAllBenchmarks_returns_last_failure _ hconv).1]
  exact congrArg Except.ok (by decide)

/-- The first benchmark crashes without writing its JSON file. -/
def firstMissing : BenchEnv :=
  ⟨fun _ => 134,
    fun file => if file = "data_table_benchmark.json" then
      .error "IOError: [Errno 2] No such file or directory: 'data_table_benchmark.json'"
      else .ok [simpleInsert],
    fun _ => "1209.0"⟩

theorem runAllBenchmarks_stops_at_failed_conversion_firstMissing :
    RunMicroBenchmarks.init.benchmarkList =
        [] ++ "data_table_benchmark" :: ["tuple_access_strategy_benchmark"] ∧
      (firstMissing.readBenchmarks ("data_table_benchmark" ++ ".json") >>=
          gbenchToJUnit firstMissing.strFloat) =
        .error "IOError: [Errno 2] No such file or directory: 'data_table_benchmark.json'" ∧
      (RunMicroBenchmarks.init.runAllBenchmarks firstMissing).1.filterMap DriverCall.command? =
        [benchmarkCommand 10 "data_table_benchmark"] :=
  have hlist : RunMicroBenchmarks.init.benchmarkList =
      [] ++ "data_table_benchmark" :: ["tuple_access_strategy_benchmark"] := rfl
  have hn : (firstMissing.readBenchmarks ("data_table_benchmark" ++ ".json") >>=
      gbenchToJUnit firstMissing.strFloat) =
      .error "IOError: [Errno 2] No such file or directory: 'data_table_benchmark.json'" := rfl
  ⟨hlist, hn, (RunMicroBenchmarks.runAllBenchmarks_stops_at_failed_conversion _ hlist
    (fun _ h => by cases h) hn).2⟩

end MicroBench
end TerrierScript
