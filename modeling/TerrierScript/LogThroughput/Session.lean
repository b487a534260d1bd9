import TerrierScript.LogThroughput.Cleanup

/-!
# Several invocations in one process

`METRICS_FILES` is a module-level list of `constants.py`.  Each invocation of
`log_throughput` removes its own metrics file from that list itself, since
`other_metrics_files` is only a second name for it.  Over a sequence of
invocations the list therefore shrinks, later invocations delete fewer files,
and an invocation whose metrics file an earlier one removed raises the
`ValueError` of `list.remove` before it builds any server
(`runSession_invocation`).
-/

namespace TerrierScript
namespace LogThroughput

/-- One call of `log_throughput`: its arguments and the outcomes of its
external calls. -/
structure Invocation where
  args : Args
  env : Env

/-- Invocations run one after another in one process, from the given
`METRICS_FILES`; the list of runs and the final `METRICS_FILES`. -/
def runSession (names : MetricsNames) : List String → List Invocation → List Run × List String
  | metricsFiles, [] => ([], metricsFiles)
  | metricsFiles, inv :: invs =>
      let step := logThroughput names inv.args inv.env metricsFiles
      let rest := runSession names step.1 invs
      (step.2 :: rest.1, rest.2)

@[simp] theorem runSession_nil (names : MetricsNames) (metricsFiles : List String) :
    runSession names metricsFiles [] = ([], metricsFiles) := rfl

@[simp] theorem runSession_cons (names : MetricsNames) (metricsFiles : List String)
    (inv : Invocation) (invs : List Invocation) :
    runSession names metricsFiles (inv :: invs) =
      ((logThroughput names inv.args inv.env metricsFiles).2 ::
          (runSession names (logThroughput names inv.args inv.env metricsFiles).1 invs).1,
        (runSession names (logThroughput names inv.args inv.env metricsFiles).1 invs).2) := rfl

/-- One invocation leaves `METRICS_FILES` without its own metrics file,
whether or not the `remove` raised. -/
@[simp] theorem logThroughput_metricsFiles (names : MetricsNames) (args : Args) (env : Env)
    (metricsFiles : List String) :
    (logThroughput names args env metricsFiles).1 =
      metricsFiles.erase (names.metricsFile args.testType) := by
  by_cases hmem : names.metricsFile args.testType ∈ metricsFiles
  · rw [logThroughput_of_mem hmem]
  · rw [logThroughput_of_not_mem hmem, List.erase_of_not_mem hmem]

/-- A second invocation of the same test type finds its metrics file gone
from `METRICS_FILES` and raises the `ValueError` of `list.remove`, before
`get_servers` and with no external call. -/
theorem logThroughput_same_type_again_raises (names : MetricsNames) (args args' : Args)
    (env env' : Env) (metricsFiles : List String) (hsame : args'.testType = args.testType)
    (hcount : metricsFiles.count (names.metricsFile args.testType) ≤ 1) :
    (logThroughput names args' env' (logThroughput names args env metricsFiles).1).2 =
      .raise valueError := by
  have hgone : names.metricsFile args.testType ∉
      metricsFiles.erase (names.metricsFile args.testType) := by
    rw [← List.count_eq_zero, List.count_erase_self]
    omega
  rw [logThroughput_metricsFiles, logThroughput_of_not_mem (hsame ▸ hgone)]

theorem logThroughput_same_type_again_raises_primary :
    replicatedPrimary.testType = replicatedPrimary.testType ∧
      exampleMetricsFiles.count (exampleNames.metricsFile replicatedPrimary.testType) ≤ 1 ∧
      (logThroughput exampleNames replicatedPrimary okEnv
        (logThroughput exampleNames replicatedPrimary okEnv exampleMetricsFiles).1).2 =
          .raise valueError :=
  ⟨rfl, by decide, logThroughput_same_type_again_raises _ _ _ _ _ _ rfl (by decide)⟩

/-- Two replicated primary tests in one process: the first leaves only the
recovery-manager file in `METRICS_FILES`, and the second raises at the
`remove` instead of deleting that file. -/
theorem runSession_two_primary_tests :
    (runSession exampleNames exampleMetricsFiles
        [⟨replicatedPrimary, okEnv⟩, ⟨replicatedPrimary, okEnv⟩]).2 =
      ["recovery_manager_task.csv"] ∧
    (runSession exampleNames exampleMetricsFiles
        [⟨replicatedPrimary, okEnv⟩, ⟨replicatedPrimary, okEnv⟩]).1.map Run.raised =
      [none, some valueError] := by
  decide

end LogThroughput
end TerrierScript
