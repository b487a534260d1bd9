import Mathlib.Data.List.Sort

/-!
# Nodes, external calls and runs of the log-throughput script

`log_throughput.py` drives server processes that it does not implement.  The
model keeps the script's own control flow and replaces every call into
`node_server.py`, `metrics_file_util.py` and `utils_sql.py` by an entry of a
call trace whose outcome comes from an oracle: a `Run` is the list of calls a
stretch of the script made and the exception it ended with, if any.
-/

namespace TerrierScript
namespace LogThroughput

/-- The three classes of Python exception that the handlers of
`log_throughput` tell apart: `except RuntimeError` catches the first,
`except Exception` the first two. -/
inductive ExcKind where
  | runtimeError
  | exception
  | baseException
  deriving DecidableEq, Repr

structure PyExc where
  kind : ExcKind
  msg : String
  deriving DecidableEq, Repr

/-- `isinstance(e, Exception)`. -/
def PyExc.isException (e : PyExc) : Bool := e.kind != .baseException

/-- What `list.remove` raises when the element is absent. -/
def valueError : PyExc := ⟨.exception, "list.remove(x): x not in list"⟩

/-- Modelled from the spec: `test_type.py` is not among the sources; the
command line offers the two values `primary` and `replica`. -/
inductive TestType where
  | primary
  | replica
  deriving DecidableEq, Repr

def TestType.value : TestType → String
  | .primary => "primary"
  | .replica => "replica"

/-- The two classes of `node_server.py`, with the arguments `get_servers`
passes to their constructors. -/
inductive NodeServer where
  | primaryNode (buildType : String) (replicationEnabled asyncCommit : Bool)
      (oltpBenchmark : String) (scaleFactor connectionThreads : ℕ)
  | replicaNode (testType : TestType) (buildType : String) (asyncCommit : Bool)
      (logMessagesFile : String) (connectionThreads : ℕ)
  deriving DecidableEq, Repr

/-- `isinstance(server, PrimaryNode)`. -/
def NodeServer.isPrimary : NodeServer → Bool
  | .primaryNode .. => true
  | .replicaNode .. => false

/-- `isinstance(server, ReplicaNode)`. -/
def NodeServer.isReplica (server : NodeServer) : Bool := !server.isPrimary

def getServers (testType : TestType) (buildType : String)
    (replicationEnabled asyncCommit : Bool) (oltpBenchmark : String)
    (scaleFactor : ℕ) (logMessagesFile : String) (connectionThreads : ℕ) :
    List NodeServer :=
  if testType.value = TestType.primary.value then
    .primaryNode buildType replicationEnabled asyncCommit oltpBenchmark scaleFactor
        connectionThreads ::
      if replicationEnabled then
        [.replicaNode testType buildType asyncCommit logMessagesFile connectionThreads]
      else []
  else if testType.value = TestType.replica.value then
    [.replicaNode testType buildType asyncCommit logMessagesFile connectionThreads]
  else []

/-- The calls the script makes outside its own code, servers named by their
position in the list `get_servers` returned. -/
inductive Call where
  | setup (server : ℕ)
  | run (server : ℕ)
  | isRunning (server : ℕ)
  | teardown (server : ℕ)
  | deleteMetricsFile (file : String)
  | replicaSync (primary : NodeServer) (replicas : List NodeServer)
  | createResultsDir
  | deleteMetricsFiles (files : List String)
  | moveMetricsFileToResultsDir (file outputFile : String)
  | aggregateLogThroughput (outputFile : String)
  | logError (msg : String)
  | logWarn (msg : String)
  deriving DecidableEq, Repr

def Call.teardownOf? : Call → Option ℕ
  | .teardown server => some server
  | _ => none

/-- The servers a trace tears down, in the order of the calls. -/
def teardowns (calls : List Call) : List ℕ := calls.filterMap Call.teardownOf?

@[simp] theorem teardowns_nil : teardowns [] = [] := rfl

@[simp] theorem teardowns_append (xs ys : List Call) :
    teardowns (xs ++ ys) = teardowns xs ++ teardowns ys :=
  List.filterMap_append _ _ _

@[simp] theorem teardowns_cons (c : Call) (cs : List Call) :
    teardowns (c :: cs) = c.teardownOf?.toList ++ teardowns cs := by
  cases h : c.teardownOf? <;> simp [teardowns, h]

/-- The external calls a stretch of the script made, and the exception it
ended with (`none` when it returned normally). -/
structure Run where
  calls : List Call
  raised : Option PyExc

namespace Run

def ok : Run := ⟨[], none⟩

def raise (e : PyExc) : Run := ⟨[], some e⟩

/-- One external call whose outcome is `outcome`. -/
def call (c : Call) (outcome : Option PyExc) : Run := ⟨[c], outcome⟩

/-- `r` followed by `k`, which runs only when `r` returned normally. -/
def seq (r k : Run) : Run :=
  match r.raised with
  | none => ⟨r.calls ++ k.calls, k.raised⟩
  | some _ => r

/-- `r` raised and the handler `h` ran after it. -/
def handled (r h : Run) : Run := ⟨r.calls ++ h.calls, h.raised⟩

/-- `try: r  except <catches> as e: handler e`. -/
def tryExcept (r : Run) (catches : PyExc → Bool) (handler : PyExc → Run) : Run :=
  match r.raised with
  | some e => if catches e then r.handled (handler e) else r
  | none => r

/-- `for i in servers: body i`, leaving the loop at the first exception. -/
def forEach : List ℕ → (ℕ → Run) → Run
  | [], _ => ok
  | i :: is, body => (body i).seq (forEach is body)

@[simp] theorem ok_calls : ok.calls = [] := rfl
@[simp] theorem ok_raised : ok.raised = none := rfl
@[simp] theorem raise_calls (e : PyExc) : (raise e).calls = [] := rfl
@[simp] theorem raise_raised (e : PyExc) : (raise e).raised = some e := rfl
@[simp] theorem call_calls (c : Call) (o : Option PyExc) : (call c o).calls = [c] := rfl
@[simp] theorem call_raised (c : Call) (o : Option PyExc) : (call c o).raised = o := rfl
@[simp] theorem handled_calls (r h : Run) : (r.handled h).calls = r.calls ++ h.calls := rfl
@[simp] theorem handled_raised (r h : Run) : (r.handled h).raised = h.raised := rfl

@[simp] theorem seq_of_raised_none {r : Run} (h : r.raised = none) (k : Run) :
    r.seq k = ⟨r.calls ++ k.calls, k.raised⟩ := by
  simp [seq, h]

@[simp] theorem seq_of_raised_some {r : Run} {e : PyExc} (h : r.raised = some e) (k : Run) :
    r.seq k = r := by
  simp [seq, h]

@[simp] theorem forEach_nil (body : ℕ → Run) : forEach [] body = ok := rfl

@[simp] theorem forEach_cons (i : ℕ) (is : List ℕ) (body : ℕ → Run) :
    forEach (i :: is) body = (body i).seq (forEach is body) := rfl

theorem seq_raised_none {r k : Run} (hr : r.raised = none) (hk : k.raised = none) :
    (r.seq k).raised = none := by
  simp [hr, hk]

/-- Whatever a sequence tears down, its first part or its second did. -/
theorem teardowns_seq (r k : Run) :
    teardowns (r.seq k).calls =
      teardowns r.calls ++ if r.raised = none then teardowns k.calls else [] := by
  cases h : r.raised <;> simp [h]

/-- Every call `r` made satisfies `P`. -/
def AllCalls (P : Call → Prop) (r : Run) : Prop := ∀ c ∈ r.calls, P c

namespace AllCalls

variable {P : Call → Prop} {r k : Run}

theorem ok : Run.ok.AllCalls P := fun _ h => by simp at h

theorem raise (e : PyExc) : (Run.raise e).AllCalls P := fun _ h => by simp at h

theorem call {c : Call} (hc : P c) (o : Option PyExc) : (Run.call c o).AllCalls P :=
  fun _ h => by simp_all

theorem seq (hr : r.AllCalls P) (hk : k.AllCalls P) : (r.seq k).AllCalls P := by
  cases h : r.raised
  · simpa [AllCalls, h, or_imp, forall_and] using And.intro hr hk
  · simpa [h] using hr

theorem handled (hr : r.AllCalls P) (hk : k.AllCalls P) : (r.handled k).AllCalls P := by
  simpa [AllCalls, or_imp, forall_and] using And.intro hr hk

theorem tryExcept {catches : PyExc → Bool} {handler : PyExc → Run} (hr : r.AllCalls P)
    (hh : ∀ e, (handler e).AllCalls P) : (r.tryExcept catches handler).AllCalls P := by
  unfold Run.tryExcept
  split
  · split
    · exact hr.handled (hh _)
    · exact hr
  · exact hr

theorem forEach {is : List ℕ} {body : ℕ → Run} (hbody : ∀ i, (body i).AllCalls P) :
    (Run.forEach is body).AllCalls P := by
  induction is with
  | nil => exact ok
  | cons i is ih => exact (hbody i).seq ih

theorem ite {b : Bool} {r k : Run} (hr : r.AllCalls P) (hk : k.AllCalls P) :
    (if b then r else k).AllCalls P := by
  split
  · exact hr
  · exact hk

end AllCalls

theorem forEach_raised_none {is : List ℕ} {body : ℕ → Run}
    (hbody : ∀ i ∈ is, (body i).raised = none) : (forEach is body).raised = none := by
  induction is with
  | nil => rfl
  | cons i is ih =>
      exact seq_raised_none (hbody i (.head _)) (ih fun j hj => hbody j (.tail _ hj))

theorem seq_raised_eq_none {r k : Run} :
    (r.seq k).raised = none ↔ r.raised = none ∧ k.raised = none := by
  cases h : r.raised <;> simp [h]

theorem seq_raised_eq_some {r k : Run} {e : PyExc} :
    (r.seq k).raised = some e ↔ r.raised = some e ∨ r.raised = none ∧ k.raised = some e := by
  cases h : r.raised <;> simp [h]

/-- A loop raised what one of its bodies raised. -/
theorem forEach_raised_eq_some {is : List ℕ} {body : ℕ → Run} {e : PyExc}
    (h : (forEach is body).raised = some e) : ∃ i ∈ is, (body i).raised = some e := by
  induction is with
  | nil => cases h
  | cons i is ih =>
      rw [forEach_cons, seq_raised_eq_some] at h
      rcases h with h | ⟨-, h⟩
      · exact ⟨i, .head _, h⟩
      · obtain ⟨j, hj, h⟩ := ih h
        exact ⟨j, .tail _ hj, h⟩

/-- A loop that raised nothing ran every body to its end. -/
theorem forEach_calls_of_raised_none {is : List ℕ} {body : ℕ → Run}
    (h : (forEach is body).raised = none) :
    (forEach is body).calls = is.flatMap fun i => (body i).calls := by
  induction is with
  | nil => rfl
  | cons i is ih =>
      rw [forEach_cons, seq_raised_eq_none] at h
      simp [h.1, ih h.2]

/-- A loop whose body for `i` tears down at most `i` tears down an ordered
selection of its indices: it may skip some and stop early at an exception. -/
theorem forEach_teardowns_sublist {is : List ℕ} {body : ℕ → Run}
    (hbody : ∀ i, (teardowns (body i).calls).Sublist [i]) :
    (teardowns (forEach is body).calls).Sublist is := by
  induction is with
  | nil => simp
  | cons i is ih =>
      rw [forEach_cons, teardowns_seq]
      split
      · exact (hbody i).append ih
      · simpa using (hbody i).trans (List.singleton_sublist.mpr (.head _))

/-- A loop none of whose bodies raises tears down the indices its bodies
select, in loop order. -/
theorem forEach_teardowns_of_raised_none {is : List ℕ} {body : ℕ → Run} {p : ℕ → Bool}
    (hbody : ∀ i, teardowns (body i).calls = if p i then [i] else [])
    (hraised : ∀ i ∈ is, (body i).raised = none) :
    teardowns (forEach is body).calls = is.filter p := by
  induction is with
  | nil => rfl
  | cons i is ih =>
      rw [forEach_cons, teardowns_seq, hbody, if_pos (hraised i (.head _)),
        ih fun j hj => hraised j (.tail _ hj), List.filter_cons]
      split <;> rfl

theorem forEach_teardowns_eq_nil {is : List ℕ} {body : ℕ → Run}
    (hbody : ∀ i, teardowns (body i).calls = []) : teardowns (forEach is body).calls = [] := by
  induction is with
  | nil => rfl
  | cons i is ih => simp [teardowns_seq, hbody, ih]

end Run

end LogThroughput
end TerrierScript
