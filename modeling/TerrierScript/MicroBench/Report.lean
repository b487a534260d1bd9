import TerrierScript.MicroBench.ArtifactProcessor

/-!
# The report of `run_micro_bench.py`

The `__main__` block adds every artifact file of the successful Jenkins builds
to one `ArtifactProcessor` and then, for every key of `ap.results`, calls
`get_result` and prints the processor's names, mean time and count.

Whatever the artifacts, a processor that the loop has stored holds the suite
and test names of its key and at least one result, and no key is stored
twice: `add_gbresult` runs before the loop moves on, and a failing one ends
the script.  So the report loop never raises, neither the `RuntimeError` of a
missing key nor a division by zero in `get_mean_time`.

Python 2 iterates over a dict in an order fixed by the hashes of its keys,
not in insertion order; the loop is stated for every such order.
-/

namespace TerrierScript
namespace MicroBench

/-- A property that every step of a fold keeps holds after the fold, when the
fold succeeds. -/
theorem foldlM_invariant {α β ε : Type} {P : β → Prop} {f : β → α → Except ε β}
    (hstep : ∀ b a b', P b → f b a = .ok b' → P b') :
    ∀ {xs : List α} {b b' : β}, P b → xs.foldlM f b = .ok b' → P b'
  | [], _, _, hb, h => by
      rw [List.foldlM_nil, pure_eq_ok] at h
      exact h ▸ hb
  | x :: _, b, _, hb, h => by
      rw [List.foldlM_cons, bind_eq_ok] at h
      obtain ⟨b₁, h₁, h'⟩ := h
      exact foldlM_invariant hstep (hstep b x b₁ hb h₁) h'

/-- A check that passes leaves the field holding the value checked. -/
theorem checkOrSet_eq_ok {field field' : Option String} {v : String}
    (h : checkOrSet field v = .ok field') : field' = some v := by
  unfold checkOrSet at h
  split_ifs at h with htruthy hfield
  · cases h
    exact hfield
  · cases h
    rfl

/-- A successful `add_gbresult` holds the result's names and one result more. -/
theorem addGbresult_eq_ok {p p' : GBBenchResultProcessor} {r : GBBenchResult}
    (h : p.addGbresult r = .ok p') :
    p'.testSuite = some r.suiteName ∧ p'.testName = some r.testName ∧
      p'.numResults = p.numResults + 1 := by
  simp only [GBBenchResultProcessor.addGbresult, bind_eq_ok, pure_eq_ok] at h
  obtain ⟨testSuite, hsuite, testName, htest, _, _, _, _, _, _, _, _, rfl⟩ := h
  exact ⟨checkOrSet_eq_ok hsuite, checkOrSet_eq_ok htest, rfl⟩

namespace ArtifactProcessor

/-- What every successful run keeps true of `results`: no key twice, and the
processor of `(suite_name, test_name)` holds those names and at least one
result. -/
structure Valid (ap : ArtifactProcessor) : Prop where
  nodup : (ap.results.map Prod.fst).Nodup
  processor : ∀ k p, (k, p) ∈ ap.results →
    p.testSuite = some k.1 ∧ p.testName = some k.2 ∧ 0 < p.numResults

theorem valid_init : ArtifactProcessor.init.Valid :=
  ⟨List.nodup_nil, fun _ _ h => nomatch h⟩

theorem Valid.addBenchResult {ap ap' : ArtifactProcessor} {r : GBBenchResult} (hv : ap.Valid)
    (h : ap.addBenchResult r = .ok ap') : ap'.Valid := by
  simp only [ArtifactProcessor.addBenchResult, bind_eq_ok, pure_eq_ok] at h
  obtain ⟨p', hp', rfl⟩ := h
  obtain ⟨hsuite, htest, hnum⟩ := addGbresult_eq_ok hp'
  refine ⟨nodup_map_fst_dictSet _ _ hv.nodup, fun k p hk => ?_⟩
  rcases mem_dictSet hk with heq | hk
  · cases heq
    exact ⟨hsuite, htest, by omega⟩
  · exact hv.processor k p hk

theorem Valid.addArtifactFile {ap ap' : ArtifactProcessor} {data : List BenchEntry}
    (hv : ap.Valid) (h : ap.addArtifactFile data = .ok ap') : ap'.Valid := by
  rw [ArtifactProcessor.addArtifactFile, bind_eq_ok] at h
  obtain ⟨_, _, h⟩ := h
  exact foldlM_invariant (fun _ _ _ hv h => Valid.addBenchResult hv h) hv h

end ArtifactProcessor

theorem addArtifactFiles_valid {files : List (List BenchEntry)} {ap : ArtifactProcessor}
    (h : addArtifactFiles files = .ok ap) : ap.Valid :=
  foldlM_invariant (fun _ _ _ hv h => ArtifactProcessor.Valid.addArtifactFile hv h)
    ArtifactProcessor.valid_init h

/-- A Jenkins build as `__main__` reads it: its number, its result, and the
`benchmarks` of each of its artifact files, in order. -/
structure Build where
  number : ℕ
  result : String
  artifacts : List (List BenchEntry)
  deriving DecidableEq, Repr

/-- The loop of `__main__` over the builds whose result is `SUCCESS`, adding
every artifact file of each to one processor. -/
def processBuilds (builds : List Build) : Except String ArtifactProcessor :=
  (builds.filter (·.result = "SUCCESS")).foldlM
    (fun ap build => build.artifacts.foldlM ArtifactProcessor.addArtifactFile ap) .init

/-- The loop over the builds is the loop over all their artifact files. -/
theorem processBuilds_eq (builds : List Build) :
    processBuilds builds =
      addArtifactFiles ((builds.filter (·.result = "SUCCESS")).flatMap Build.artifacts) := by
  unfold processBuilds addArtifactFiles
  generalize (ArtifactProcessor.init) = ap
  induction builds.filter (·.result = "SUCCESS") generalizing ap with
  | nil => rfl
  | cons b bs ih =>
      simp only [List.foldlM_cons, List.flatMap_cons, List.foldlM_append]
      congr 1
      funext ap'
      exact ih ap'

/-- What the report loop prints for one key. -/
structure ReportEntry where
  key : String × String
  suiteName : Option String
  testName : Option String
  meanTime : ℚ
  numItems : ℕ
  deriving DecidableEq, Repr

/-- The body of the report loop for one key: `get_result` and the values
printed.  `get_mean_time` divides by `num_results`, which Python refuses when
it is zero. -/
def reportKey (ap : ArtifactProcessor) (key : String × String) : Except String ReportEntry := do
  let v ← ap.getResult key.1 key.2
  if v.getNumItems = 0 then .error "ZeroDivisionError: float division by zero"
  else pure ⟨key, v.getSuiteName, v.getTestName, v.getMeanTime, v.getNumItems⟩

/-- The order in which Python 2 iterates over a dict: a permutation of its
entries. -/
structure IterOrder (α : Type) where
  arrange : List α → List α
  perm : ∀ l, (arrange l).Perm l

/-- Insertion order, one order Python 2 may take. -/
def IterOrder.insertion {α : Type} : IterOrder α := ⟨id, fun _ => .refl _⟩

/-- An order of iteration over `ap.results`. -/
abbrev ResultsOrder := IterOrder ((String × String) × GBBenchResultProcessor)

/-- The report loop over `ap.results.keys()`, in the order `order`. -/
def reportResults (order : ResultsOrder) (ap : ArtifactProcessor) :
    Except String (List ReportEntry) :=
  ((order.arrange ap.results).map Prod.fst).mapM (reportKey ap)

/-- The entry printed for a stored processor. -/
def ReportEntry.ofResult (e : (String × String) × GBBenchResultProcessor) : ReportEntry :=
  ⟨e.1, e.2.getSuiteName, e.2.getTestName, e.2.getMeanTime, e.2.getNumItems⟩

theorem lookup_of_mem_of_nodup {κ ν : Type} [BEq κ] [LawfulBEq κ] {d : List (κ × ν)} {k : κ}
    {v : ν} (hmem : (k, v) ∈ d) (hnodup : (d.map Prod.fst).Nodup) : d.lookup k = some v := by
  induction d with
  | nil => cases hmem
  | cons e d ih =>
      obtain ⟨k₀, v₀⟩ := e
      obtain ⟨hk₀, hd⟩ := List.nodup_cons.mp hnodup
      rcases List.mem_cons.mp hmem with heq | hmem'
      · cases heq
        simp [List.lookup_cons]
      · have hne : k ≠ k₀ := by
          rintro rfl
          exact hk₀ (List.mem_map.mpr ⟨(k, v), hmem', rfl⟩)
        rw [lookup_cons_of_ne hne, ih hmem' hd]

theorem reportKey_of_mem {ap : ArtifactProcessor} (hv : ap.Valid)
    {e : (String × String) × GBBenchResultProcessor} (hmem : e ∈ ap.results) :
    reportKey ap e.1 = .ok (ReportEntry.ofResult e) := by
  obtain ⟨⟨suiteName, testName⟩, p⟩ := e
  obtain ⟨-, -, hpos⟩ := hv.processor _ p hmem
  have hget : ap.getResult suiteName testName = .ok p := by
    simp [ArtifactProcessor.getResult, lookup_of_mem_of_nodup hmem hv.nodup]
  simp [reportKey, hget, GBBenchResultProcessor.getNumItems, Nat.pos_iff_ne_zero.mp hpos,
    ReportEntry.ofResult, bind, Except.bind, pure, Except.pure]

/-- On a valid processor the report loop succeeds and prints, key by key, the
processor stored under it. -/
theorem reportResults_of_valid (order : ResultsOrder) {ap : ArtifactProcessor} (hv : ap.Valid) :
    reportResults order ap = .ok ((order.arrange ap.results).map ReportEntry.ofResult) := by
  suffices h : ∀ l ⊆ ap.results,
      (l.map Prod.fst).mapM (reportKey ap) = .ok (l.map ReportEntry.ofResult) from
    h _ (order.perm _).subset
  intro l hl
  induction l with
  | nil => rfl
  | cons e l ih =>
      obtain ⟨he, hl⟩ := List.cons_subset.mp hl
      rw [List.map_cons, List.mapM_cons, reportKey_of_mem hv he, ih hl]
      rfl

/-- The end of `__main__`: the builds' artifacts added to one processor, then
the report loop. -/
def reportBuilds (order : ResultsOrder) (builds : List Build) : Except String (List ReportEntry) := do
  let ap ← processBuilds builds
  reportResults order ap

/-- Once the artifact files of the builds are added, the report loop does not
raise, in whatever order Python 2 iterates over `results`: it prints every
stored key once, in that order, with the suite and test names of that key and
a count of at least one. -/
theorem reportBuilds_of_processBuilds (order : ResultsOrder) (builds : List Build)
    {ap : ArtifactProcessor} (h : processBuilds builds = .ok ap) :
    reportBuilds order builds = .ok ((order.arrange ap.results).map ReportEntry.ofResult) ∧
      (ap.results.map Prod.fst).Nodup ∧
      ∀ k p, (k, p) ∈ ap.results →
        p.getSuiteName = some k.1 ∧ p.getTestName = some k.2 ∧ 0 < p.getNumItems := by
  have hv : ap.Valid := addArtifactFiles_valid (processBuilds_eq builds ▸ h)
  refine ⟨?_, hv.nodup, hv.processor⟩
  rw [reportBuilds, h]
  exact reportResults_of_valid order hv

/-- A successful build of `Suite/Test` and a failed one, which the loop skips. -/
def twoBuilds : List Build :=
  [⟨8, "SUCCESS", [[buildEntry 1]]⟩, ⟨9, "FAILURE", [[buildEntry 3]]⟩]

theorem reportBuilds_of_processBuilds_twoBuilds :
    processBuilds twoBuilds =
        .ok ⟨[(("Suite", "Test"), ⟨some "Suite", some "Test", some "ms", 1, 1, .float 1⟩)]⟩ ∧
      reportBuilds .insertion twoBuilds = .ok [⟨("Suite", "Test"), some "Suite", some "Test", 1, 1⟩] := by
  have hsplit : splitName "Suite/Test" = ["Suite", "Test"] := by decide
  have hproc : processBuilds twoBuilds =
      .ok ⟨[(("Suite", "Test"), ⟨some "Suite", some "Test", some "ms", 1, 1, .float 1⟩)]⟩ := by
    simp [processBuilds, twoBuilds, ArtifactProcessor.addArtifactFile, GBBenchResult.ofEntry,
      buildEntry, hsplit, ArtifactProcessor.addBenchResult, ArtifactProcessor.init,
      GBBenchResult.key, GBBenchResultProcessor.addGbresult, checkOrSet, truthy,
      GBBenchResult.getTime, GBBenchResult.getItemsPerSecond, GBBenchResult.getattr, addToFloat,
      PyNum.toRat,
      GBBenchResultProcessor.init, dictSet, bind, Except.bind, pure, Except.pure, List.mapM.loop,
      List.foldlM, List.lookup_cons]
  refine ⟨hproc, ?_⟩
  rw [(reportBuilds_of_processBuilds _ _ hproc).1]
  simp [IterOrder.insertion, ReportEntry.ofResult, GBBenchResultProcessor.getSuiteName,
    GBBenchResultProcessor.getTestName, GBBenchResultProcessor.getMeanTime,
    GBBenchResultProcessor.getNumItems]

end MicroBench
end TerrierScript
