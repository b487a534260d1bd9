import TerrierScript.LogThroughput.Cleanup

/-!
# The life of one server

Projected on one server, the calls of `log_throughput` follow the life of a
node, `setup()`, `run()`, `is_running()`, `teardown()`: each at most once and
in this order, whatever the outcomes of the external calls.  A server runs
only once its `setup()` was called, and it is torn down only once it ran or
was asked whether it is running.

Every phase of the driver is a loop over the servers that may stop at an
exception, and its body for a server acts on that server alone: a server's
calls in a phase are those of its body, made in full, or none at all.
-/

namespace TerrierScript
namespace LogThroughput

/-- The server a call acts on. -/
def Call.server? : Call → Option ℕ
  | .setup i | .run i | .isRunning i | .teardown i => some i
  | _ => none

/-- The calls of a trace on the server `i`, in order. -/
def nodeCalls (i : ℕ) (calls : List Call) : List Call :=
  calls.filter fun c => c.server? = some i

/-- The order in which a node's methods may be called. -/
def lifecycle (i : ℕ) : List Call := [.setup i, .run i, .isRunning i, .teardown i]

/-- The calls on the server `i` respect its life: they are an ordered
selection of `lifecycle i`, `run()` comes only after `setup()`, and
`teardown()` only after `run()` or `is_running()`. -/
structure FollowsLifecycle (i : ℕ) (trace : List Call) : Prop where
  ordered : trace.Sublist (lifecycle i)
  setup_of_run : Call.run i ∈ trace → Call.setup i ∈ trace
  checked_of_teardown :
    Call.teardown i ∈ trace → Call.run i ∈ trace ∨ Call.isRunning i ∈ trace

instance (i : ℕ) (trace : List Call) : Decidable (FollowsLifecycle i trace) :=
  decidable_of_iff (trace.Sublist (lifecycle i) ∧
      (Call.run i ∈ trace → Call.setup i ∈ trace) ∧
      (Call.teardown i ∈ trace → Call.run i ∈ trace ∨ Call.isRunning i ∈ trace))
    ⟨fun ⟨h₁, h₂, h₃⟩ => ⟨h₁, h₂, h₃⟩, fun ⟨h₁, h₂, h₃⟩ => ⟨h₁, h₂, h₃⟩⟩

section NodeCalls

variable {i : ℕ}

@[simp] theorem nodeCalls_nil : nodeCalls i [] = [] := rfl

@[simp] theorem nodeCalls_cons (c : Call) (cs : List Call) :
    nodeCalls i (c :: cs) =
      if c.server? = some i then c :: nodeCalls i cs else nodeCalls i cs := by
  simp [nodeCalls, List.filter_cons]

@[simp] theorem nodeCalls_append (xs ys : List Call) :
    nodeCalls i (xs ++ ys) = nodeCalls i xs ++ nodeCalls i ys :=
  List.filter_append _ _

theorem nodeCalls_seq (r k : Run) :
    nodeCalls i (r.seq k).calls =
      nodeCalls i r.calls ++ if r.raised = none then nodeCalls i k.calls else [] := by
  cases h : r.raised <;> simp [h]

theorem nodeCalls_eq_nil_of_allCalls {r : Run} (h : r.AllCalls (·.server? = none)) :
    nodeCalls i r.calls = [] :=
  List.filter_eq_nil_iff.mpr fun c hc => by simp [h c hc]

/-- A stretch whose calls on `i` are `p` whenever it returns, followed by one
whose calls on `i` begin `q`, makes calls on `i` that begin `p ++ q`. -/
theorem nodeCalls_seq_of_prefixes {r k : Run} {p q : List Call} (hr : nodeCalls i r.calls <+: p)
    (hdone : r.raised = none → nodeCalls i r.calls = p) (hk : nodeCalls i k.calls <+: q) :
    nodeCalls i (r.seq k).calls <+: p ++ q := by
  rw [nodeCalls_seq]
  split
  · next h => rwa [hdone h, List.prefix_append_right_inj]
  · simpa using hr.trans (List.prefix_append p q)

end NodeCalls

/-! ## Loops over the servers -/

section Loops

variable {i : ℕ}

/-- Over distinct servers, only the body for `i` acts on `i`. -/
theorem nodeCalls_flatMap {is : List ℕ} {f : ℕ → List Call} (hnodup : is.Nodup)
    (hf : ∀ j, j ≠ i → nodeCalls i (f j) = []) :
    nodeCalls i (is.flatMap f) = if i ∈ is then nodeCalls i (f i) else [] := by
  induction is with
  | nil => simp
  | cons j js ih =>
      obtain ⟨hj, hjs⟩ := List.nodup_cons.mp hnodup
      rw [List.flatMap_cons, nodeCalls_append, ih hjs]
      by_cases hji : j = i
      · subst hji
        simp [hj]
      · simp [hf j hji, Ne.symm hji]

/-- A loop over distinct servers, left at the first exception, acts on `i`
not at all or with the whole body for `i`. -/
theorem nodeCalls_forEach {is : List ℕ} {body : ℕ → Run} (hnodup : is.Nodup)
    (hbody : ∀ j, j ≠ i → nodeCalls i (body j).calls = []) :
    nodeCalls i (Run.forEach is body).calls = [] ∨
      i ∈ is ∧ nodeCalls i (Run.forEach is body).calls = nodeCalls i (body i).calls := by
  induction is with
  | nil => simp
  | cons j js ih =>
      obtain ⟨hj, hjs⟩ := List.nodup_cons.mp hnodup
      rw [Run.forEach_cons, nodeCalls_seq]
      by_cases hji : j = i
      · subst hji
        have hrest : nodeCalls j (Run.forEach js body).calls = [] :=
          (ih hjs).resolve_right fun h => hj h.1
        simp [hrest]
      · rw [hbody j hji, List.nil_append]
        split
        · rcases ih hjs with h | ⟨hmem, h⟩
          · exact .inl h
          · exact .inr ⟨.tail _ hmem, h⟩
        · exact .inl rfl

variable (i n : ℕ) (c : ℕ → Call) (o : ℕ → Option PyExc)

theorem nodeCalls_call_of_ne (hc : ∀ j, (c j).server? = some j) {j : ℕ} (hj : j ≠ i) :
    nodeCalls i (Run.call (c j) (o j)).calls = [] := by
  simp [hc, hj]

/-- A loop making one call on each server makes at most the call on `i`. -/
theorem nodeCalls_forEach_call (hc : ∀ j, (c j).server? = some j) :
    nodeCalls i (Run.forEach (List.range n) fun j => Run.call (c j) (o j)).calls <+:
      if i < n then [c i] else [] := by
  rcases nodeCalls_forEach (List.nodup_range n) fun j => nodeCalls_call_of_ne i c o hc with
    h | ⟨hi, h⟩
  · simp [h]
  · simp [h, List.mem_range.mp hi, hc]

/-- Such a loop that raised nothing made the call on `i` if `i` is a server. -/
theorem nodeCalls_forEach_call_of_raised_none (hc : ∀ j, (c j).server? = some j)
    (h : (Run.forEach (List.range n) fun j => Run.call (c j) (o j)).raised = none) :
    nodeCalls i (Run.forEach (List.range n) fun j => Run.call (c j) (o j)).calls =
      if i < n then [c i] else [] := by
  rw [Run.forEach_calls_of_raised_none h,
    nodeCalls_flatMap (List.nodup_range n) fun j => nodeCalls_call_of_ne i c o hc]
  simp [hc]

end Loops

/-! ## One lemma per phase -/

section Phases

variable {env : Env} {n i : ℕ}

theorem startServers_nodeCalls (metricsFile : String) :
    nodeCalls i (startServers env n metricsFile).calls <+: [.setup i, .run i] := by
  refine (nodeCalls_seq_of_prefixes (nodeCalls_forEach_call i n Call.setup env.setup fun _ => rfl)
    (nodeCalls_forEach_call_of_raised_none i n Call.setup env.setup fun _ => rfl)
    (nodeCalls_seq_of_prefixes (p := []) (by simp [Call.server?]) (fun _ => by simp [Call.server?])
      (nodeCalls_forEach_call i n Call.run env.run fun _ => rfl))).trans ?_
  by_cases hi : i < n <;> simp [hi]

/-- A start that raised nothing set up and ran every server. -/
theorem startServers_nodeCalls_of_raised_none {metricsFile : String}
    (h : (startServers env n metricsFile).raised = none) :
    nodeCalls i (startServers env n metricsFile).calls =
      if i < n then [.setup i, .run i] else [] := by
  rw [startServers, Run.seq_raised_eq_none, Run.seq_raised_eq_none] at h
  rw [startServers, nodeCalls_seq, nodeCalls_seq, if_pos h.1, if_pos h.2.1,
    nodeCalls_forEach_call_of_raised_none i n Call.setup env.setup (fun _ => rfl) h.1,
    nodeCalls_forEach_call_of_raised_none i n Call.run env.run (fun _ => rfl) h.2.2]
  by_cases hi : i < n <;> simp [hi, Call.server?]

theorem stopRunningServers_nodeCalls :
    nodeCalls i (stopRunningServers env n).calls <+: [.isRunning i, .teardown i] := by
  have hbody : ∀ j, j ≠ i → nodeCalls i ((Run.call (.isRunning j) none).seq
      (if env.isRunning j then .call (.teardown j) (env.teardown j) else .ok)).calls = [] := by
    intro j hj
    split <;> simp [Call.server?, hj]
  unfold stopRunningServers
  rcases nodeCalls_forEach (List.nodup_range n) hbody with h | ⟨-, h⟩ <;> rw [h]
  · exact List.nil_prefix
  · split <;> simp [Call.server?]

theorem finishServers_nodeCalls {servers : List NodeServer} {metricsFile outputFile : String}
    {otherMetricsFiles : List String} :
    nodeCalls i (finishServers env servers metricsFile outputFile otherMetricsFiles).calls <+:
      if i < servers.length then [.teardown i] else [] := by
  have hsync : nodeCalls i (trySyncServers servers env.replicaSync).calls = [] :=
    nodeCalls_eq_nil_of_allCalls
      (trySyncServers_allCalls servers env.replicaSync (fun _ _ => rfl) fun _ => rfl)
  have hcollect :
      nodeCalls i (collectMetrics env metricsFile outputFile otherMetricsFiles).calls = [] :=
    nodeCalls_eq_nil_of_allCalls (collectMetrics_allCalls (by simp [Call.server?]))
  simpa using nodeCalls_seq_of_prefixes (List.prefix_nil.mpr hsync) (fun _ => hsync)
    (nodeCalls_seq_of_prefixes
      (nodeCalls_forEach_call i servers.length Call.teardown env.teardown fun _ => rfl)
      (nodeCalls_forEach_call_of_raised_none i servers.length Call.teardown env.teardown
        fun _ => rfl)
      (List.prefix_nil.mpr hcollect))

end Phases

/-! ## The life of every server -/

section Lifecycle

variable {i : ℕ} {A B : List Call}

theorem head_mem_of_prefix_pair {a b : Call} (h : A <+: [a, b]) (hb : b ∈ A) : a ∈ A := by
  cases A with
  | nil => cases hb
  | cons x xs =>
      rw [(List.cons_prefix_cons.mp h).1]
      exact .head _

/-- A start cut short, followed by the loop of the `RuntimeError` handler. -/
theorem FollowsLifecycle.startStop (hA : A <+: [.setup i, .run i])
    (hB : B <+: [.isRunning i, .teardown i]) : FollowsLifecycle i (A ++ B) where
  ordered := hA.sublist.append hB.sublist
  setup_of_run h := by
    rcases List.mem_append.mp h with h | h
    · exact List.mem_append_left _ (head_mem_of_prefix_pair hA h)
    · simpa using hB.sublist.subset h
  checked_of_teardown h := by
    rcases List.mem_append.mp h with h | h
    · simpa using hA.sublist.subset h
    · exact .inr (List.mem_append_right _ (head_mem_of_prefix_pair hB h))

/-- A complete start, followed by the final teardown. -/
theorem FollowsLifecycle.started (hB : B <+: [.teardown i]) :
    FollowsLifecycle i ([.setup i, .run i] ++ B) where
  ordered := hB.sublist.trans (by simp) |>.append_left _
  setup_of_run _ := by simp
  checked_of_teardown _ := .inl (by simp)

theorem runServers_followsLifecycle (env : Env) (servers : List NodeServer)
    (metricsFile outputFile : String) (otherMetricsFiles : List String) :
    FollowsLifecycle i
      (nodeCalls i (runServers env servers metricsFile outputFile otherMetricsFiles).calls) := by
  cases hstart : (startServers env servers.length metricsFile).raised with
  | none =>
      have hfinish : nodeCalls i
          (finishServers env servers metricsFile outputFile otherMetricsFiles).calls <+:
            if i < servers.length then [.teardown i] else [] :=
        finishServers_nodeCalls
      rw [runServers_of_started hstart, nodeCalls_seq, if_pos hstart,
        startServers_nodeCalls_of_raised_none hstart]
      by_cases hi : i < servers.length
      · rw [if_pos hi] at hfinish ⊢
        exact .started hfinish
      · rw [if_neg hi] at hfinish ⊢
        exact .startStop List.nil_prefix (hfinish.trans List.nil_prefix)
  | some e =>
      by_cases hkind : e.kind = .runtimeError
      · rw [runServers_of_runtimeError hstart hkind, Run.handled_calls, nodeCalls_append,
          nodeCalls_seq]
        simpa [Call.server?] using FollowsLifecycle.startStop
          (startServers_nodeCalls metricsFile) stopRunningServers_nodeCalls
      · rw [runServers_of_other_exception hstart hkind]
        simpa using FollowsLifecycle.startStop (startServers_nodeCalls metricsFile) List.nil_prefix

/-- For every configuration and every outcome of every external call, the
calls `log_throughput` makes on each server follow the server's life. -/
theorem logThroughput_follows_lifecycle (names : MetricsNames) (args : Args) (env : Env)
    (metricsFiles : List String) (i : ℕ) :
    FollowsLifecycle i (nodeCalls i (logThroughput names args env metricsFiles).2.calls) := by
  by_cases hmem : names.metricsFile args.testType ∈ metricsFiles
  · rw [logThroughput_of_mem hmem]
    exact runServers_followsLifecycle _ _ _ _ _
  · rw [logThroughput_of_not_mem hmem]
    exact .startStop List.nil_prefix List.nil_prefix

end Lifecycle

/-- The handler asks the replica, which was never set up, whether it is
running, and tears it down. -/
example : nodeCalls 1 (logThroughput exampleNames replicatedPrimary primarySetupRaises
    exampleMetricsFiles).2.calls = [.isRunning 1, .teardown 1] := by
  decide

end LogThroughput
end TerrierScript
