import TerrierScript.LogThroughput.Basic

/-!
# The `log_throughput` driver

`log_throughput` picks the metrics file of the test type, removes it from the
process-wide `METRICS_FILES`, builds the servers with `get_servers`, and then
runs three blocks: the `try` block that sets up, clears the startup metrics
and runs every server, with an `except RuntimeError` handler that tears down
the servers reporting running and returns; the synchronisation, whose
failures of class `Exception` are logged; and the final teardown followed by
the collection of the metrics file.

The outcomes of the external calls of one invocation are an oracle `Env`.
-/

namespace TerrierScript
namespace LogThroughput

/-- The outcomes of the external calls of one invocation: `none` is a normal
return, `some e` an exception `e`.  `time` is `int(time.time())`. -/
structure Env where
  time : ℕ
  setup : ℕ → Option PyExc
  run : ℕ → Option PyExc
  isRunning : ℕ → Bool
  teardown : ℕ → Option PyExc
  deleteMetricsFile : Option PyExc
  replicaSync : Option PyExc
  createResultsDir : Option PyExc
  deleteMetricsFiles : Option PyExc
  moveMetricsFileToResultsDir : Option PyExc
  aggregateLogThroughput : Option PyExc

def multiplePrimaries : PyExc :=
  ⟨.runtimeError, "Should never have multiple primaries running at once"⟩

def syncServers (servers : List NodeServer) (replicaSync : Option PyExc) : Run :=
  if servers.length < 2 then .ok
  else
    match servers.filter NodeServer.isPrimary with
    | [] => .ok
    | [primary] => .call (.replicaSync primary (servers.filter NodeServer.isReplica)) replicaSync
    | _ :: _ :: _ => .raise multiplePrimaries

/-- `try: sync_servers(servers)  except Exception as e: LOG.warn(...)`. -/
def trySyncServers (servers : List NodeServer) (replicaSync : Option PyExc) : Run :=
  (syncServers servers replicaSync).tryExcept PyExc.isException fun e =>
    .call (.logWarn ("Syncing databases failed: " ++ e.msg)) none

section Phases

variable (env : Env) (n : ℕ)

/-- The `try` block: every `setup()`, then `delete_metrics_file`, then every `run()`. -/
def startServers (metricsFile : String) : Run :=
  (Run.forEach (List.range n) fun i => .call (.setup i) (env.setup i)).seq <|
    (Run.call (.deleteMetricsFile metricsFile) env.deleteMetricsFile).seq <|
      Run.forEach (List.range n) fun i => .call (.run i) (env.run i)

/-- The loop of the `except RuntimeError` handler. -/
def stopRunningServers : Run :=
  Run.forEach (List.range n) fun i =>
    (Run.call (.isRunning i) none).seq
      (if env.isRunning i then .call (.teardown i) (env.teardown i) else .ok)

/-- The unconditional teardown loop after the synchronisation. -/
def teardownServers : Run :=
  Run.forEach (List.range n) fun i => .call (.teardown i) (env.teardown i)

end Phases

/-- `create_results_dir`, `delete_metrics_files`, the move and the aggregation. -/
def collectMetrics (env : Env) (metricsFile outputFile : String)
    (otherMetricsFiles : List String) : Run :=
  (Run.call .createResultsDir env.createResultsDir).seq <|
    (Run.call (.deleteMetricsFiles otherMetricsFiles) env.deleteMetricsFiles).seq <|
    (Run.call (.moveMetricsFileToResultsDir metricsFile outputFile)
      env.moveMetricsFileToResultsDir).seq <|
    Run.call (.aggregateLogThroughput outputFile) env.aggregateLogThroughput

/-- Everything after a `try` block that raised nothing. -/
def finishServers (env : Env) (servers : List NodeServer) (metricsFile outputFile : String)
    (otherMetricsFiles : List String) : Run :=
  (trySyncServers servers env.replicaSync).seq <|
    (teardownServers env servers.length).seq <|
    collectMetrics env metricsFile outputFile otherMetricsFiles

/-- `log_throughput` from its `try` block on, over the servers `get_servers` built. -/
def runServers (env : Env) (servers : List NodeServer) (metricsFile outputFile : String)
    (otherMetricsFiles : List String) : Run :=
  let started := startServers env servers.length metricsFile
  match started.raised with
  | some e =>
      if e.kind = .runtimeError then
        started.handled
          ((Run.call (.logError e.msg) none).seq (stopRunningServers env servers.length))
      else started
  | none => started.seq (finishServers env servers metricsFile outputFile otherMetricsFiles)

/-- The arguments of `log_throughput`. -/
structure Args where
  testType : TestType
  buildType : String
  replicationEnabled : Bool
  asyncCommit : Bool
  oltpBenchmark : String
  scaleFactor : ℕ
  logMessagesFile : String
  connectionThreads : ℕ
  outputFile : Option String
  deriving DecidableEq, Repr

def Args.servers (args : Args) : List NodeServer :=
  getServers args.testType args.buildType args.replicationEnabled args.asyncCommit
    args.oltpBenchmark args.scaleFactor args.logMessagesFile args.connectionThreads

/-- The names `LOG_SERIALIZER_CSV` and `RECOVERY_MANAGER_CSV` of `constants.py`,
which is not among the sources. -/
structure MetricsNames where
  logSerializerCsv : String
  recoveryManagerCsv : String
  deriving DecidableEq, Repr

def MetricsNames.metricsFile (names : MetricsNames) (testType : TestType) : String :=
  if testType.value = TestType.primary.value then names.logSerializerCsv
  else names.recoveryManagerCsv

def Args.resolvedOutputFile (args : Args) (time : ℕ) : String :=
  args.outputFile.getD (args.testType.value ++ "-log-throughput-" ++ toString time ++ ".csv")

/-- `log_throughput`, taking and returning the process-wide `METRICS_FILES`.
`other_metrics_files = METRICS_FILES` binds a second name to the global list,
so the `remove` that follows changes `METRICS_FILES` itself. -/
def logThroughput (names : MetricsNames) (args : Args) (env : Env)
    (metricsFiles : List String) : List String × Run :=
  let outputFile := args.resolvedOutputFile env.time
  let metricsFile := names.metricsFile args.testType
  if metricsFile ∈ metricsFiles then
    let otherMetricsFiles := metricsFiles.erase metricsFile
    (otherMetricsFiles, runServers env args.servers metricsFile outputFile otherMetricsFiles)
  else (metricsFiles, .raise valueError)

/-! ## One lemma per phase -/

theorem logThroughput_of_mem {names : MetricsNames} {args : Args} {env : Env}
    {metricsFiles : List String} (hmem : names.metricsFile args.testType ∈ metricsFiles) :
    logThroughput names args env metricsFiles =
      (metricsFiles.erase (names.metricsFile args.testType),
        runServers env args.servers (names.metricsFile args.testType)
          (args.resolvedOutputFile env.time)
          (metricsFiles.erase (names.metricsFile args.testType))) := by
  simp [logThroughput, hmem]

theorem logThroughput_of_not_mem {names : MetricsNames} {args : Args} {env : Env}
    {metricsFiles : List String} (hmem : names.metricsFile args.testType ∉ metricsFiles) :
    logThroughput names args env metricsFiles = (metricsFiles, .raise valueError) := by
  simp [logThroughput, hmem]

section PhaseLemmas

variable {env : Env} {n : ℕ}

@[simp] theorem startServers_teardowns (metricsFile : String) :
    teardowns (startServers env n metricsFile).calls = [] := by
  simp [startServers, Run.teardowns_seq, Run.forEach_teardowns_eq_nil, Call.teardownOf?]

theorem stopRunningServers_body_teardowns (i : ℕ) :
    teardowns ((Run.call (.isRunning i) none).seq
      (if env.isRunning i then .call (.teardown i) (env.teardown i) else .ok)).calls =
      if env.isRunning i then [i] else [] := by
  split <;> simp [Call.teardownOf?]

theorem stopRunningServers_teardowns_sublist :
    (teardowns (stopRunningServers env n).calls).Sublist (List.range n) :=
  Run.forEach_teardowns_sublist fun i => by
    rw [stopRunningServers_body_teardowns]
    split <;> simp

theorem stopRunningServers_teardowns (hteardown : ∀ i < n, env.teardown i = none) :
    teardowns (stopRunningServers env n).calls = (List.range n).filter env.isRunning :=
  Run.forEach_teardowns_of_raised_none stopRunningServers_body_teardowns fun i hi => by
    have hi : i < n := List.mem_range.mp hi
    split <;> simp [hteardown i hi]

theorem teardownServers_teardowns_sublist :
    (teardowns (teardownServers env n).calls).Sublist (List.range n) :=
  Run.forEach_teardowns_sublist fun i => by simp [Call.teardownOf?]

theorem teardownServers_raised (hteardown : ∀ i < n, env.teardown i = none) :
    (teardownServers env n).raised = none :=
  Run.forEach_raised_none fun i hi => hteardown i (List.mem_range.mp hi)

theorem teardownServers_teardowns (hteardown : ∀ i < n, env.teardown i = none) :
    teardowns (teardownServers env n).calls = List.range n := by
  have h : teardowns (teardownServers env n).calls = (List.range n).filter fun _ => true :=
    Run.forEach_teardowns_of_raised_none (by simp [Call.teardownOf?])
      fun i hi => hteardown i (List.mem_range.mp hi)
  simpa using h

@[simp] theorem syncServers_teardowns (servers : List NodeServer) (o : Option PyExc) :
    teardowns (syncServers servers o).calls = [] := by
  unfold syncServers
  split
  · rfl
  · split <;> simp [Call.teardownOf?]

/-- `sync_servers` raises nothing but the outcome of `replica_sync` and its own
`RuntimeError`. -/
theorem syncServers_raised (servers : List NodeServer) (o : Option PyExc) :
    (syncServers servers o).raised = none ∨ (syncServers servers o).raised = o ∨
      (syncServers servers o).raised = some multiplePrimaries := by
  unfold syncServers
  split
  · simp
  · split <;> simp

@[simp] theorem trySyncServers_teardowns (servers : List NodeServer) (o : Option PyExc) :
    teardowns (trySyncServers servers o).calls = [] := by
  unfold trySyncServers Run.tryExcept
  split
  · split <;> simp [Call.teardownOf?]
  · simp

/-- Only a `BaseException` that is not an `Exception` gets through the handler. -/
theorem trySyncServers_raised (servers : List NodeServer) {o : Option PyExc}
    (ho : o.all PyExc.isException) : (trySyncServers servers o).raised = none := by
  have hexc : ∀ e, (syncServers servers o).raised = some e → e.isException := by
    intro e he
    rcases syncServers_raised servers o with h | h | h <;> rw [h] at he
    · cases he
    · simpa [he] using ho
    · cases he
      rfl
  unfold trySyncServers Run.tryExcept
  split
  · next e he => simp [hexc e he]
  · assumption

@[simp] theorem collectMetrics_teardowns (metricsFile outputFile : String)
    (otherMetricsFiles : List String) :
    teardowns (collectMetrics env metricsFile outputFile otherMetricsFiles).calls = [] := by
  simp [collectMetrics, Run.teardowns_seq, Call.teardownOf?]

/-- When nothing before it fails, the collection makes its four calls. -/
theorem collectMetrics_of_raised_none {metricsFile outputFile : String}
    {otherMetricsFiles : List String} (hcreate : env.createResultsDir = none)
    (hdelete : env.deleteMetricsFiles = none) (hmove : env.moveMetricsFileToResultsDir = none) :
    collectMetrics env metricsFile outputFile otherMetricsFiles =
      ⟨[.createResultsDir, .deleteMetricsFiles otherMetricsFiles,
        .moveMetricsFileToResultsDir metricsFile outputFile, .aggregateLogThroughput outputFile],
        env.aggregateLogThroughput⟩ := by
  simp [collectMetrics, hcreate, hdelete, hmove]

end PhaseLemmas

/-! ## Which calls each phase makes -/

section Inventory

variable {P : Call → Prop} {env : Env} {n : ℕ}

theorem startServers_allCalls {metricsFile : String} (hsetup : ∀ i, P (.setup i))
    (hdelete : P (.deleteMetricsFile metricsFile)) (hrun : ∀ i, P (.run i)) :
    (startServers env n metricsFile).AllCalls P :=
  .seq (.forEach fun i => .call (hsetup i) _)
    (.seq (.call hdelete _) (.forEach fun i => .call (hrun i) _))

theorem stopRunningServers_allCalls (hisRunning : ∀ i, P (.isRunning i))
    (hteardown : ∀ i, P (.teardown i)) : (stopRunningServers env n).AllCalls P :=
  .forEach fun i => .seq (.call (hisRunning i) _) (.ite (.call (hteardown i) _) .ok)

theorem trySyncServers_allCalls (servers : List NodeServer) (o : Option PyExc)
    (hsync : ∀ primary replicas, P (.replicaSync primary replicas))
    (hwarn : ∀ msg, P (.logWarn msg)) : (trySyncServers servers o).AllCalls P := by
  refine .tryExcept ?_ fun _ => .call (hwarn _) _
  unfold syncServers
  split
  · exact .ok
  · split
    · exact .ok
    · exact .call (hsync _ _) _
    · exact .raise _

theorem collectMetrics_allCalls {metricsFile outputFile : String}
    {otherMetricsFiles : List String}
    (hcollect : ∀ c ∈ [.createResultsDir, .deleteMetricsFiles otherMetricsFiles,
      .moveMetricsFileToResultsDir metricsFile outputFile, .aggregateLogThroughput outputFile],
      P c) :
    (collectMetrics env metricsFile outputFile otherMetricsFiles).AllCalls P :=
  .seq (.call (hcollect _ (by simp)) _) <| .seq (.call (hcollect _ (by simp)) _) <|
    .seq (.call (hcollect _ (by simp)) _) (.call (hcollect _ (by simp)) _)

end Inventory

end LogThroughput
end TerrierScript
