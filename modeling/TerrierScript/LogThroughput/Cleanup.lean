import TerrierScript.LogThroughput.Orchestrator

/-!
# Teardown under every failure pattern

Which servers `log_throughput` tears down, and in which order, for every
outcome of every external call.  The handler of the `try` block catches
`RuntimeError` only and tears down the servers that report running; an
exception of another class leaves the invocation with no teardown at all.
After a successful start every server is torn down in list order, which is
the order of their setup, so the primary of a replicated run goes first.
-/

namespace TerrierScript
namespace LogThroughput

/-- The calls made only once the `try` block has returned: the
synchronisation with its warning, and the collection of the metrics file. -/
def Call.afterStart : Call → Bool
  | .replicaSync .. | .logWarn _ | .createResultsDir | .deleteMetricsFiles _
  | .moveMetricsFileToResultsDir .. | .aggregateLogThroughput _ => true
  | _ => false

section Finish

variable {env : Env} {servers : List NodeServer} {metricsFile outputFile : String}
  {otherMetricsFiles : List String}

theorem finishServers_teardowns_sublist :
    (teardowns (finishServers env servers metricsFile outputFile otherMetricsFiles).calls).Sublist
      (List.range servers.length) := by
  simp only [finishServers, Run.teardowns_seq, trySyncServers_teardowns,
    collectMetrics_teardowns, List.nil_append, List.append_nil]
  split_ifs <;> simp [teardownServers_teardowns_sublist]

theorem finishServers_of_raised_none (hsync : env.replicaSync.all PyExc.isException)
    (hteardown : ∀ i < servers.length, env.teardown i = none) :
    finishServers env servers metricsFile outputFile otherMetricsFiles =
      ⟨(trySyncServers servers env.replicaSync).calls ++
          (teardownServers env servers.length).calls ++
          (collectMetrics env metricsFile outputFile otherMetricsFiles).calls,
        (collectMetrics env metricsFile outputFile otherMetricsFiles).raised⟩ := by
  simp [finishServers, trySyncServers_raised servers hsync, teardownServers_raised hteardown]

end Finish

section Start

variable {env : Env} {servers : List NodeServer} {metricsFile outputFile : String}
  {otherMetricsFiles : List String} {e : PyExc}

theorem runServers_of_runtimeError
    (hstart : (startServers env servers.length metricsFile).raised = some e)
    (hkind : e.kind = .runtimeError) :
    runServers env servers metricsFile outputFile otherMetricsFiles =
      (startServers env servers.length metricsFile).handled
        ((Run.call (.logError e.msg) none).seq (stopRunningServers env servers.length)) := by
  simp [runServers, hstart, hkind]

theorem runServers_of_other_exception
    (hstart : (startServers env servers.length metricsFile).raised = some e)
    (hkind : e.kind ≠ .runtimeError) :
    runServers env servers metricsFile outputFile otherMetricsFiles =
      startServers env servers.length metricsFile := by
  simp [runServers, hstart, hkind]

theorem runServers_of_started
    (hstart : (startServers env servers.length metricsFile).raised = none) :
    runServers env servers metricsFile outputFile otherMetricsFiles =
      (startServers env servers.length metricsFile).seq
        (finishServers env servers metricsFile outputFile otherMetricsFiles) := by
  simp [runServers, hstart]

theorem startServers_afterStart {n : ℕ} :
    (startServers env n metricsFile).AllCalls (·.afterStart = false) :=
  startServers_allCalls (fun _ => rfl) rfl fun _ => rfl

theorem stopRunningServers_afterStart {n : ℕ} :
    (stopRunningServers env n).AllCalls (·.afterStart = false) :=
  stopRunningServers_allCalls (fun _ => rfl) fun _ => rfl

/-- Every server is torn down at most once, in list order. -/
theorem runServers_teardowns_sublist :
    (teardowns (runServers env servers metricsFile outputFile otherMetricsFiles).calls).Sublist
      (List.range servers.length) := by
  cases hstart : (startServers env servers.length metricsFile).raised with
  | none =>
      rw [runServers_of_started hstart, Run.teardowns_seq, startServers_teardowns, if_pos hstart]
      exact finishServers_teardowns_sublist
  | some e =>
      by_cases hkind : e.kind = .runtimeError
      · rw [runServers_of_runtimeError hstart hkind]
        simpa [Run.teardowns_seq, Call.teardownOf?] using stopRunningServers_teardowns_sublist
      · simp [runServers_of_other_exception hstart hkind]

theorem runServers_afterStart_of_raised
    (hstart : (startServers env servers.length metricsFile).raised = some e) :
    (runServers env servers metricsFile outputFile otherMetricsFiles).AllCalls
      (·.afterStart = false) := by
  by_cases hkind : e.kind = .runtimeError
  · rw [runServers_of_runtimeError hstart hkind]
    exact startServers_afterStart.handled
      ((Run.AllCalls.call (by rfl) _).seq stopRunningServers_afterStart)
  · rw [runServers_of_other_exception hstart hkind]
    exact startServers_afterStart

theorem runServers_teardowns_of_runtimeError
    (hstart : (startServers env servers.length metricsFile).raised = some e)
    (hkind : e.kind = .runtimeError) (hteardown : ∀ i < servers.length, env.teardown i = none) :
    teardowns (runServers env servers metricsFile outputFile otherMetricsFiles).calls =
      (List.range servers.length).filter env.isRunning := by
  simp [runServers_of_runtimeError hstart hkind, Run.teardowns_seq, Call.teardownOf?,
    stopRunningServers_teardowns hteardown]

theorem runServers_of_started_teardowns
    (hstart : (startServers env servers.length metricsFile).raised = none)
    (hsync : env.replicaSync.all PyExc.isException)
    (hteardown : ∀ i < servers.length, env.teardown i = none) :
    teardowns (runServers env servers metricsFile outputFile otherMetricsFiles).calls =
      List.range servers.length := by
  simp [runServers_of_started hstart, hstart, finishServers_of_raised_none hsync hteardown,
    teardownServers_teardowns hteardown]

/-- After a successful start, with no teardown raising and no bare
`BaseException` out of the synchronisation, the run ends with the four calls
of the collection. -/
theorem runServers_of_started_collects
    (hstart : (startServers env servers.length metricsFile).raised = none)
    (hsync : env.replicaSync.all PyExc.isException)
    (hteardown : ∀ i < servers.length, env.teardown i = none)
    (hcreate : env.createResultsDir = none) (hdelete : env.deleteMetricsFiles = none)
    (hmove : env.moveMetricsFileToResultsDir = none) :
    (runServers env servers metricsFile outputFile otherMetricsFiles).calls =
      (startServers env servers.length metricsFile).calls ++
        (trySyncServers servers env.replicaSync).calls ++
        (teardownServers env servers.length).calls ++
        [.createResultsDir, .deleteMetricsFiles otherMetricsFiles,
          .moveMetricsFileToResultsDir metricsFile outputFile,
          .aggregateLogThroughput outputFile] := by
  simp [runServers_of_started hstart, hstart, finishServers_of_raised_none hsync hteardown,
    collectMetrics_of_raised_none hcreate hdelete hmove]

end Start

theorem Args.servers_primary_index (args : Args) {i : ℕ}
    (h : (args.servers[i]?).any NodeServer.isPrimary) : i = 0 := by
  rcases args with ⟨_ | _, _, _ | _, _, _, _, _, _, _⟩ <;> rcases i with _ | _ | i <;>
    simp_all [Args.servers, getServers, TestType.value, NodeServer.isPrimary]

/-! ## The teardown contract -/

/-- What the driver guarantees about teardown over `n` servers, for the
outcomes `env` of its external calls: no server is torn down twice; a start
that raised is followed by neither the synchronisation nor the collection; a
`RuntimeError` there tears down exactly the servers reporting running, any
other exception propagates with no teardown; and a successful start tears
down every server once and, if only the synchronisation fails with an
`Exception`, still moves and aggregates the metrics file. -/
structure TeardownContract (env : Env) (n : ℕ) (metricsFile outputFile : String)
    (run : Run) : Prop where
  nodup : (teardowns run.calls).Nodup
  failedStart_noCollect : ∀ e, (startServers env n metricsFile).raised = some e →
    run.AllCalls (·.afterStart = false)
  runtimeError_stopsRunning : ∀ e, (startServers env n metricsFile).raised = some e →
    e.kind = .runtimeError → (∀ i < n, env.teardown i = none) →
      teardowns run.calls = (List.range n).filter env.isRunning
  otherException_propagates : ∀ e, (startServers env n metricsFile).raised = some e →
    e.kind ≠ .runtimeError → teardowns run.calls = [] ∧ run.raised = some e
  started_tearsDownAll : (startServers env n metricsFile).raised = none →
    (∀ i < n, env.teardown i = none) → env.replicaSync.all PyExc.isException →
      teardowns run.calls = List.range n
  started_collects : (startServers env n metricsFile).raised = none →
    (∀ i < n, env.teardown i = none) → env.replicaSync.all PyExc.isException →
    env.createResultsDir = none → env.deleteMetricsFiles = none →
    env.moveMetricsFileToResultsDir = none →
      .moveMetricsFileToResultsDir metricsFile outputFile ∈ run.calls ∧
        .aggregateLogThroughput outputFile ∈ run.calls

theorem runServers_teardownContract (env : Env) (servers : List NodeServer)
    (metricsFile outputFile : String) (otherMetricsFiles : List String) :
    TeardownContract env servers.length metricsFile outputFile
      (runServers env servers metricsFile outputFile otherMetricsFiles) where
  nodup := (List.nodup_range _).sublist runServers_teardowns_sublist
  failedStart_noCollect _ hstart := runServers_afterStart_of_raised hstart
  runtimeError_stopsRunning _ hstart hkind hteardown :=
    runServers_teardowns_of_runtimeError hstart hkind hteardown
  otherException_propagates _ hstart hkind := by
    rw [runServers_of_other_exception hstart hkind]
    exact ⟨startServers_teardowns _, hstart⟩
  started_tearsDownAll hstart hteardown hsync :=
    runServers_of_started_teardowns hstart hsync hteardown
  started_collects hstart hteardown hsync hcreate hdelete hmove := by
    simp [runServers_of_started_collects hstart hsync hteardown hcreate hdelete hmove]

/-- The contract holds of `log_throughput` for every test configuration and
every outcome of every external call, once `get_servers` has been reached. -/
theorem logThroughput_teardown_contract (names : MetricsNames) (args : Args) (env : Env)
    (metricsFiles : List String) (hmem : names.metricsFile args.testType ∈ metricsFiles) :
    TeardownContract env args.servers.length (names.metricsFile args.testType)
      (args.resolvedOutputFile env.time) (logThroughput names args env metricsFiles).2 := by
  rw [logThroughput_of_mem hmem]
  exact runServers_teardownContract _ _ _ _ _

/-- Metrics file names for the runs below; `constants.py` is not among the
sources, so any two distinct names do. -/
def exampleNames : MetricsNames := ⟨"log_serializer_task.csv", "recovery_manager_task.csv"⟩

def exampleMetricsFiles : List String := ["log_serializer_task.csv", "recovery_manager_task.csv"]

/-- A primary test with replication: a primary and a replica. -/
def replicatedPrimary : Args :=
  ⟨.primary, "release", true, false, "ycsb", 1, "messages.txt", 4, some "out.csv"⟩

/-- Every external call returns and every server reports running. -/
def okEnv : Env :=
  ⟨0, fun _ => none, fun _ => none, fun _ => true, fun _ => none, none, none, none, none, none,
    none⟩

theorem logThroughput_teardown_contract_replicated :
    exampleNames.metricsFile replicatedPrimary.testType ∈ exampleMetricsFiles ∧
      TeardownContract okEnv replicatedPrimary.servers.length
        (exampleNames.metricsFile replicatedPrimary.testType)
        (replicatedPrimary.resolvedOutputFile okEnv.time)
        (logThroughput exampleNames replicatedPrimary okEnv exampleMetricsFiles).2 :=
  ⟨by decide, logThroughput_teardown_contract _ _ _ _ (by decide)⟩

/-- The replica's `setup()` raises a `ValueError`, an `Exception` that is not a
`RuntimeError`. -/
def replicaSetupFails : Env :=
  { okEnv with
    setup := fun i => if i = 1 then some ⟨.exception, "replica setup failed"⟩ else none }

/-- The primary's `setup()` raises a `RuntimeError`. -/
def primarySetupRaises : Env :=
  { okEnv with setup := fun i => if i = 0 then some ⟨.runtimeError, "setup failed"⟩ else none }

/-- The primary's `setup()` returned, yet the `ValueError` of the replica's
leaves the invocation with no teardown of the primary. -/
theorem logThroughput_valueError_skips_teardown :
    Call.setup 0 ∈ (logThroughput exampleNames replicatedPrimary replicaSetupFails
        exampleMetricsFiles).2.calls ∧
      replicaSetupFails.setup 0 = none ∧
      (teardowns (logThroughput exampleNames replicatedPrimary replicaSetupFails
        exampleMetricsFiles).2.calls).count 0 = 0 := by
  decide

/-- Teardowns are issued in the order of the list `get_servers` built, which
is the order of setup, on every path; so a primary is torn down before any
replica of the same run. -/
theorem logThroughput_teardown_in_setup_order (names : MetricsNames) (args : Args) (env : Env)
    (metricsFiles : List String) :
    let run := (logThroughput names args env metricsFiles).2
    (teardowns run.calls).Sorted (· < ·) ∧
    ∀ i ∈ teardowns run.calls, ∀ j ∈ teardowns run.calls,
      (args.servers[i]?).any NodeServer.isPrimary →
        (args.servers[j]?).any NodeServer.isReplica → i < j := by
  refine ⟨?_, fun i _ j _ hi hj => ?_⟩
  · by_cases hmem : names.metricsFile args.testType ∈ metricsFiles
    · rw [logThroughput_of_mem hmem]
      exact (List.pairwise_lt_range _).sublist runServers_teardowns_sublist
    · rw [logThroughput_of_not_mem hmem]
      simp
  · obtain rfl := args.servers_primary_index hi
    rcases j with _ | j
    · cases h : args.servers[0]? <;> simp_all [NodeServer.isReplica]
    · omega

/-- In a replicated run where everything succeeds, the primary is set up
first and torn down first. -/
theorem logThroughput_replicated_tears_down_primary_first :
    replicatedPrimary.servers.map NodeServer.isPrimary = [true, false] ∧
      (logThroughput exampleNames replicatedPrimary okEnv exampleMetricsFiles).2.calls.take 2 =
        [.setup 0, .setup 1] ∧
      teardowns (logThroughput exampleNames replicatedPrimary okEnv exampleMetricsFiles).2.calls =
        [0, 1] := by
  decide

end LogThroughput
end TerrierScript
