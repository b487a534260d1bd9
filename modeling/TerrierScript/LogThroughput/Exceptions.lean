import TerrierScript.LogThroughput.Cleanup

/-!
# The exceptions that leave `log_throughput`

Apart from the `ValueError` of `list.remove`, `log_throughput` raises nothing
of its own: every exception that leaves it is the outcome of one of its
external calls that no handler caught.  The `except RuntimeError` of the
`try` block keeps a `RuntimeError` of `setup()`, `run()` or
`delete_metrics_file` in, and the `except Exception` around `sync_servers`
keeps in its own `RuntimeError` about two primaries and every failure of
`replica_sync` but a bare `BaseException`; the teardowns and the collection
of the metrics file are guarded by nothing.
-/

namespace TerrierScript
namespace LogThroughput

/-- The outcomes of the external calls of an invocation over `n` servers that
can leave `log_throughput`. -/
inductive Escapes (env : Env) (n : ℕ) : PyExc → Prop
  | setup {i : ℕ} {e : PyExc} : i < n → env.setup i = some e → e.kind ≠ .runtimeError →
      Escapes env n e
  | deleteMetricsFile {e : PyExc} : env.deleteMetricsFile = some e → e.kind ≠ .runtimeError →
      Escapes env n e
  | run {i : ℕ} {e : PyExc} : i < n → env.run i = some e → e.kind ≠ .runtimeError →
      Escapes env n e
  | teardown {i : ℕ} {e : PyExc} : i < n → env.teardown i = some e → Escapes env n e
  | replicaSync {e : PyExc} : env.replicaSync = some e → e.isException = false → Escapes env n e
  | createResultsDir {e : PyExc} : env.createResultsDir = some e → Escapes env n e
  | deleteMetricsFiles {e : PyExc} : env.deleteMetricsFiles = some e → Escapes env n e
  | moveMetricsFileToResultsDir {e : PyExc} : env.moveMetricsFileToResultsDir = some e →
      Escapes env n e
  | aggregateLogThroughput {e : PyExc} : env.aggregateLogThroughput = some e → Escapes env n e

/-! ## What each phase raises -/

section Phases

variable {env : Env} {n : ℕ} {e : PyExc}

theorem startServers_raised_eq_some {metricsFile : String}
    (h : (startServers env n metricsFile).raised = some e) :
    (∃ i < n, env.setup i = some e) ∨ env.deleteMetricsFile = some e ∨
      ∃ i < n, env.run i = some e := by
  rw [startServers, Run.seq_raised_eq_some, Run.seq_raised_eq_some] at h
  rcases h with h | ⟨-, h | ⟨-, h⟩⟩
  · obtain ⟨i, hi, h⟩ := Run.forEach_raised_eq_some h
    exact .inl ⟨i, List.mem_range.mp hi, h⟩
  · exact .inr (.inl h)
  · obtain ⟨i, hi, h⟩ := Run.forEach_raised_eq_some h
    exact .inr (.inr ⟨i, List.mem_range.mp hi, h⟩)

/-- `is_running()` returns, so the handler's loop raises only what a
`teardown()` raised. -/
theorem stopRunningServers_raised_eq_some (h : (stopRunningServers env n).raised = some e) :
    ∃ i < n, env.teardown i = some e := by
  obtain ⟨i, hi, h⟩ := Run.forEach_raised_eq_some h
  refine ⟨i, List.mem_range.mp hi, ?_⟩
  rw [Run.seq_raised_eq_some, Run.call_raised] at h
  rcases h with h | ⟨-, h⟩
  · cases h
  · split at h
    · exact h
    · cases h

theorem teardownServers_raised_eq_some (h : (teardownServers env n).raised = some e) :
    ∃ i < n, env.teardown i = some e := by
  obtain ⟨i, hi, h⟩ := Run.forEach_raised_eq_some h
  exact ⟨i, List.mem_range.mp hi, h⟩

/-- Only a `BaseException` of `replica_sync` that is not an `Exception` gets
through the handler around `sync_servers`. -/
theorem trySyncServers_raised_eq_some (servers : List NodeServer) {o : Option PyExc}
    (h : (trySyncServers servers o).raised = some e) : o = some e ∧ e.isException = false := by
  unfold trySyncServers Run.tryExcept at h
  split at h
  · next e' he' =>
      split at h
      · simp at h
      · next hcatch =>
          rw [he'] at h
          cases h
          rcases syncServers_raised servers o with h | h | h <;> rw [he'] at h
          · cases h
          · exact ⟨h.symm, by simpa using hcatch⟩
          · cases h
            exact absurd rfl hcatch
  · next he => rw [he] at h; cases h

theorem collectMetrics_raised_eq_some {metricsFile outputFile : String}
    {otherMetricsFiles : List String}
    (h : (collectMetrics env metricsFile outputFile otherMetricsFiles).raised = some e) :
    env.createResultsDir = some e ∨ env.deleteMetricsFiles = some e ∨
      env.moveMetricsFileToResultsDir = some e ∨ env.aggregateLogThroughput = some e := by
  simp only [collectMetrics, Run.seq_raised_eq_some, Run.call_raised] at h
  rcases h with h | ⟨-, h | ⟨-, h | ⟨-, h⟩⟩⟩
  exacts [.inl h, .inr (.inl h), .inr (.inr (.inl h)), .inr (.inr (.inr h))]

theorem finishServers_raised_eq_some {servers : List NodeServer}
    {metricsFile outputFile : String} {otherMetricsFiles : List String}
    (h : (finishServers env servers metricsFile outputFile otherMetricsFiles).raised = some e) :
    Escapes env servers.length e := by
  rw [finishServers, Run.seq_raised_eq_some, Run.seq_raised_eq_some] at h
  rcases h with h | ⟨-, h | ⟨-, h⟩⟩
  · obtain ⟨ho, hexc⟩ := trySyncServers_raised_eq_some servers h
    exact .replicaSync ho hexc
  · obtain ⟨i, hi, h⟩ := teardownServers_raised_eq_some h
    exact .teardown hi h
  · rcases collectMetrics_raised_eq_some h with h | h | h | h
    exacts [.createResultsDir h, .deleteMetricsFiles h, .moveMetricsFileToResultsDir h,
      .aggregateLogThroughput h]

end Phases

/-! ## The whole driver -/

theorem runServers_raised_eq_some {env : Env} {servers : List NodeServer}
    {metricsFile outputFile : String} {otherMetricsFiles : List String} {e : PyExc}
    (h : (runServers env servers metricsFile outputFile otherMetricsFiles).raised = some e) :
    Escapes env servers.length e := by
  cases hstart : (startServers env servers.length metricsFile).raised with
  | none =>
      rw [runServers_of_started hstart, Run.seq_raised_eq_some, hstart] at h
      rcases h with h | ⟨-, h⟩
      · cases h
      · exact finishServers_raised_eq_some h
  | some e' =>
      by_cases hkind : e'.kind = .runtimeError
      · rw [runServers_of_runtimeError hstart hkind, Run.handled_raised,
          Run.seq_raised_eq_some, Run.call_raised] at h
        rcases h with h | ⟨-, h⟩
        · cases h
        · obtain ⟨i, hi, h⟩ := stopRunningServers_raised_eq_some h
          exact .teardown hi h
      · rw [runServers_of_other_exception hstart hkind, hstart] at h
        cases h
        rcases startServers_raised_eq_some hstart with ⟨i, hi, h⟩ | h | ⟨i, hi, h⟩
        exacts [.setup hi h hkind, .deleteMetricsFile h hkind, .run hi h hkind]

/-- For every configuration and every outcome of every external call, an
exception that leaves `log_throughput` is the `ValueError` of `list.remove` or
an outcome of an external call that escapes its handlers. -/
theorem logThroughput_raised_escapes (names : MetricsNames) (args : Args) (env : Env)
    (metricsFiles : List String) {e : PyExc}
    (h : (logThroughput names args env metricsFiles).2.raised = some e) :
    e = valueError ∨ Escapes env args.servers.length e := by
  by_cases hmem : names.metricsFile args.testType ∈ metricsFiles
  · rw [logThroughput_of_mem hmem] at h
    exact .inr (runServers_raised_eq_some h)
  · rw [logThroughput_of_not_mem hmem] at h
    cases h
    exact .inl rfl

/-- The `RuntimeError` of the primary's `setup()` is caught: the invocation
returns normally. -/
example : (logThroughput exampleNames replicatedPrimary primarySetupRaises
    exampleMetricsFiles).2.raised = none := by
  decide

theorem logThroughput_raised_escapes_replicaSetupFails :
    (logThroughput exampleNames replicatedPrimary replicaSetupFails exampleMetricsFiles).2.raised =
        some ⟨.exception, "replica setup failed"⟩ ∧
      (⟨.exception, "replica setup failed"⟩ = valueError ∨
        Escapes replicaSetupFails replicatedPrimary.servers.length
          ⟨.exception, "replica setup failed"⟩) :=
  ⟨by decide, logThroughput_raised_escapes exampleNames replicatedPrimary replicaSetupFails
    exampleMetricsFiles (by decide)⟩

end LogThroughput
end TerrierScript
