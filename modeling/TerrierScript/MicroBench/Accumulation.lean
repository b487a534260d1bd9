import Mathlib.Algebra.BigOperators.Group.List
import TerrierScript.MicroBench.ArtifactProcessor

/-!
# What the artifact processor accumulates

Once every benchmark name splits into at least two parts, every result has
the time field it names and an `items_per_second`, and the results of one key
agree on their time unit, every step of the loop succeeds and the processor
of each key `k` holds: the suite and test names of `k`, the time unit of its
first result, the number of its results, the sum of their times, and the
`items_per_second` of its last result only, which `get_mean_items_per_second`
floor-divides by the count when it is an `int`.
-/

namespace TerrierScript
namespace MicroBench

/-- What a successful `add_gbresult` does to a processor that already holds
the result's names and time unit. -/
def GBBenchResultProcessor.record (p : GBBenchResultProcessor) (t : ℚ) (i : PyNum) :
    GBBenchResultProcessor :=
  { p with numResults := p.numResults + 1, sumTime := p.sumTime + t, sumItemsPerSecond := i }

section Summary

variable (time ips : GBBenchResult → PyNum)

/-- The processor the loop builds for the key `k` from the results `rs`. -/
def keySummary (k : String × String) (rs : List GBBenchResult) :
    Option GBBenchResultProcessor :=
  match rs.filter (·.key = k) with
  | [] => none
  | r :: g =>
      some ⟨some k.1, some k.2, some r.entry.timeUnit, g.length + 1,
        ((r :: g).map fun r => (time r).toRat).sum, ips ((r :: g).getLast (List.cons_ne_nil _ _))⟩

@[simp] theorem keySummary_nil (k : String × String) : keySummary time ips k [] = none := rfl

/-- One more result changes the summary of its own key only. -/
theorem keySummary_append_singleton (k : String × String) (rs : List GBBenchResult)
    (r : GBBenchResult) :
    keySummary time ips k (rs ++ [r]) =
      if r.key = k then
        some (match keySummary time ips k rs with
          | none => ⟨some k.1, some k.2, some r.entry.timeUnit, 1, (time r).toRat, ips r⟩
          | some p => p.record (time r).toRat (ips r))
      else keySummary time ips k rs := by
  unfold keySummary
  rw [List.filter_append]
  by_cases hr : r.key = k
  · cases hg : rs.filter (·.key = k) with
    | nil => simp [hr]
    | cons r₀ g =>
        simp [hr, GBBenchResultProcessor.record, List.sum_append, add_comm, add_left_comm]
  · simp [hr]

theorem keySummary_eq_some {k : String × String} {rs : List GBBenchResult}
    {p : GBBenchResultProcessor} (h : keySummary time ips k rs = some p) :
    p.testSuite = some k.1 ∧ p.testName = some k.2 ∧
      ∃ r ∈ rs, r.key = k ∧ p.timeUnit = some r.entry.timeUnit := by
  unfold keySummary at h
  split at h
  · cases h
  · next r g hg =>
      cases h
      have hr : r ∈ rs.filter (·.key = k) := hg ▸ List.mem_cons_self r g
      simp only [List.mem_filter, decide_eq_true_eq] at hr
      exact ⟨rfl, rfl, r, hr.1, hr.2, rfl⟩

/-- The results agree with `time` and `ips` and, key by key, on their time
unit. -/
structure WellFormedResults (rs : List GBBenchResult) : Prop where
  getTime : ∀ r ∈ rs, r.getTime = .ok (.num (time r))
  getItemsPerSecond : ∀ r ∈ rs, r.getItemsPerSecond = .ok (ips r)
  timeUnit : ∀ r ∈ rs, ∀ r' ∈ rs, r.key = r'.key → r.entry.timeUnit = r'.entry.timeUnit

theorem WellFormedResults.mono {rs rs' : List GBBenchResult} (h : WellFormedResults time ips rs')
    (hsub : rs ⊆ rs') : WellFormedResults time ips rs :=
  ⟨fun r hr => h.getTime r (hsub hr), fun r hr => h.getItemsPerSecond r (hsub hr),
    fun r hr r' hr' => h.timeUnit r (hsub hr) r' (hsub hr')⟩

/-- One step of the loop from a processor that summarises the results before. -/
theorem addBenchResult_of_summary {ap : ArtifactProcessor} {pre : List GBBenchResult}
    {r : GBBenchResult} (hap : ∀ k, ap.results.lookup k = keySummary time ips k pre)
    (hwf : WellFormedResults time ips (pre ++ [r])) :
    ∃ ap', ap.addBenchResult r = .ok ap' ∧
      ∀ k, ap'.results.lookup k = keySummary time ips k (pre ++ [r]) := by
  have hr : r ∈ pre ++ [r] := List.mem_append_right _ (List.mem_singleton_self r)
  have htime := hwf.getTime r hr
  have hips := hwf.getItemsPerSecond r hr
  refine ⟨⟨dictSet ap.results r.key (match keySummary time ips r.key pre with
      | none => ⟨some r.suiteName, some r.testName, some r.entry.timeUnit, 1, (time r).toRat, ips r⟩
      | some p => p.record (time r).toRat (ips r))⟩, ?_, fun k => ?_⟩
  · cases hs : keySummary time ips r.key pre with
    | none =>
        simp [ArtifactProcessor.addBenchResult, hap, hs, GBBenchResultProcessor.addGbresult,
          GBBenchResultProcessor.init, htime, hips, addToFloat, bind, Except.bind, pure, Except.pure]
    | some p =>
        obtain ⟨hsuite, htest, r₀, hr₀, hkey, hunit⟩ := keySummary_eq_some time ips hs
        have hunit' : p.timeUnit = some r.entry.timeUnit := by
          rw [hunit, hwf.timeUnit r₀ (List.mem_append_left _ hr₀) r hr hkey]
        simp only [GBBenchResult.key] at hsuite htest
        simp [ArtifactProcessor.addBenchResult, hap, hs, GBBenchResultProcessor.addGbresult,
          hsuite, htest, hunit', htime, hips, GBBenchResultProcessor.record, addToFloat,
          bind, Except.bind, pure, Except.pure]
  · rw [lookup_dictSet, keySummary_append_singleton, hap]
    by_cases hk : r.key = k
    · subst hk
      simp [GBBenchResult.key]
    · simp [hk, Ne.symm hk]

/-- The loop of `add_artifact_file`, from a processor that summarises the
results before, succeeds and summarises them all. -/
theorem foldlM_addBenchResult (rs : List GBBenchResult) {pre : List GBBenchResult}
    {ap : ArtifactProcessor} (hap : ∀ k, ap.results.lookup k = keySummary time ips k pre)
    (hwf : WellFormedResults time ips (pre ++ rs)) :
    ∃ ap', rs.foldlM ArtifactProcessor.addBenchResult ap = .ok ap' ∧
      ∀ k, ap'.results.lookup k = keySummary time ips k (pre ++ rs) := by
  induction rs generalizing pre ap with
  | nil => exact ⟨ap, rfl, by simpa using hap⟩
  | cons r rs ih =>
      have hwf₁ : WellFormedResults time ips (pre ++ [r]) :=
        hwf.mono time ips (((List.nil_sublist rs).cons₂ r).append_left pre).subset
      obtain ⟨ap₁, h₁, hap₁⟩ := addBenchResult_of_summary time ips hap hwf₁
      obtain ⟨ap', h', hap'⟩ := ih hap₁ (by simpa using hwf)
      refine ⟨ap', ?_, by simpa using hap'⟩
      rw [List.foldlM_cons, h₁]
      exact h'

/-- Adding artifact files one after another, from a processor that
summarises the results before. -/
theorem foldlM_addArtifactFile (files : List (List BenchEntry)) {rss : List (List GBBenchResult)}
    {pre : List GBBenchResult} {ap : ArtifactProcessor}
    (hparse : files.mapM (·.mapM GBBenchResult.ofEntry) = .ok rss)
    (hap : ∀ k, ap.results.lookup k = keySummary time ips k pre)
    (hwf : WellFormedResults time ips (pre ++ rss.flatten)) :
    ∃ ap', files.foldlM ArtifactProcessor.addArtifactFile ap = .ok ap' ∧
      ∀ k, ap'.results.lookup k = keySummary time ips k (pre ++ rss.flatten) := by
  induction files generalizing rss pre ap with
  | nil =>
      cases hparse
      exact ⟨ap, rfl, by simpa using hap⟩
  | cons data files ih =>
      obtain ⟨rs, rss', hrs, hrss', rfl⟩ := mapM_cons_eq_ok hparse
      have hwf₁ : WellFormedResults time ips (pre ++ rs) :=
        hwf.mono time ips ((List.sublist_append_left rs _).append_left pre).subset
      obtain ⟨ap₁, h₁, hap₁⟩ := foldlM_addBenchResult time ips rs hap hwf₁
      obtain ⟨ap', h', hap'⟩ := ih hrss' hap₁ (by simpa using hwf)
      refine ⟨ap', ?_, by simpa using hap'⟩
      rw [List.foldlM_cons, ArtifactProcessor.addArtifactFile, hrs]
      show (rs.foldlM ArtifactProcessor.addBenchResult ap >>= _) = _
      rw [h₁]
      exact h'

end Summary

/-- What `get_result` reports after adding artifact files to a fresh
processor, when every benchmark name has at least two parts (`hparse`),
every result has the time field its name selects and an `items_per_second`,
and the results of one key agree on their time unit: a key with no result is
not present, and the processor of any other key holds its suite and test
names, the number of its results, the mean of their times, and the
`items_per_second` of its last result over that number, floor-divided when it
is an `int`. -/
theorem addArtifactFiles_getResult (files : List (List BenchEntry))
    (rss : List (List GBBenchResult)) (time ips : GBBenchResult → PyNum)
    (hparse : files.mapM (·.mapM GBBenchResult.ofEntry) = .ok rss)
    (hwf : WellFormedResults time ips rss.flatten) :
    ∃ ap, addArtifactFiles files = .ok ap ∧ ∀ suiteName testName,
      (rss.flatten.filter (·.key = (suiteName, testName)) = [] →
        ap.getResult suiteName testName =
          .error ("RuntimeError: key ('" ++ suiteName ++ "', '" ++ testName ++
            "') not present")) ∧
      ∀ hg : rss.flatten.filter (·.key = (suiteName, testName)) ≠ [],
        ∃ p, ap.getResult suiteName testName = .ok p ∧
          p.getSuiteName = some suiteName ∧ p.getTestName = some testName ∧
          p.getNumItems = (rss.flatten.filter (·.key = (suiteName, testName))).length ∧
          p.getMeanTime = ((rss.flatten.filter (·.key = (suiteName, testName))).map
              fun r => (time r).toRat).sum /
            (rss.flatten.filter (·.key = (suiteName, testName))).length ∧
          p.getMeanItemsPerSecond =
            (ips ((rss.flatten.filter (·.key = (suiteName, testName))).getLast hg)).divNat
              (rss.flatten.filter (·.key = (suiteName, testName))).length := by
  have hinit : ∀ k, ArtifactProcessor.init.results.lookup k = keySummary time ips k [] :=
    fun _ => rfl
  obtain ⟨ap, hap, hlookup⟩ :=
    foldlM_addArtifactFile time ips files hparse hinit (by simpa using hwf)
  refine ⟨ap, hap, fun suiteName testName => ⟨fun hg => ?_, fun hg => ?_⟩⟩
  · simp [ArtifactProcessor.getResult, hlookup, keySummary, hg]
  · simp only [ArtifactProcessor.getResult, hlookup, List.nil_append, keySummary]
    obtain ⟨r, g, hrg⟩ := List.exists_cons_of_ne_nil hg
    simp only [hrg]
    refine ⟨_, rfl, rfl, rfl, rfl, ?_, ?_⟩ <;>
      simp [GBBenchResultProcessor.getMeanTime, GBBenchResultProcessor.getMeanItemsPerSecond]

/-- The two builds of `buildEntry`: the hypotheses hold, and the mean of
`items_per_second` reported is the last value over two. -/
theorem addArtifactFiles_getResult_two_builds :
    [[buildEntry 1], [buildEntry 3]].mapM (·.mapM GBBenchResult.ofEntry) =
        .ok [[⟨buildEntry 1, "Suite", "Test", none⟩],
          [⟨buildEntry 3, "Suite", "Test", none⟩]] ∧
      WellFormedResults (fun _ => .float 1)
        (fun r => (r.entry.fields.lookup "items_per_second").getD (.float 0))
        [⟨buildEntry 1, "Suite", "Test", none⟩, ⟨buildEntry 3, "Suite", "Test", none⟩] ∧
      ∃ ap, addArtifactFiles [[buildEntry 1], [buildEntry 3]] = .ok ap ∧
        ∃ p, ap.getResult "Suite" "Test" = .ok p ∧ p.getMeanItemsPerSecond = 3 / 2 := by
  have hsplit : splitName "Suite/Test" = ["Suite", "Test"] := by decide
  have hparse : [[buildEntry 1], [buildEntry 3]].mapM (·.mapM GBBenchResult.ofEntry) =
      .ok [[⟨buildEntry 1, "Suite", "Test", none⟩],
        [⟨buildEntry 3, "Suite", "Test", none⟩]] := by
    simp [GBBenchResult.ofEntry, buildEntry, hsplit, List.mapM.loop, bind, Except.bind, pure,
      Except.pure]
  have hwf : WellFormedResults (fun _ => .float 1)
      (fun r => (r.entry.fields.lookup "items_per_second").getD (.float 0))
      [⟨buildEntry 1, "Suite", "Test", none⟩, ⟨buildEntry 3, "Suite", "Test", none⟩] :=
    ⟨by simp [GBBenchResult.getTime, GBBenchResult.getattr, buildEntry, List.lookup_cons],
      by simp [GBBenchResult.getItemsPerSecond, buildEntry, List.lookup_cons],
      by simp [buildEntry]⟩
  obtain ⟨ap, hap, hget⟩ := addArtifactFiles_getResult _ _ _ _ hparse hwf
  obtain ⟨p, hp, -, -, -, -, hmean⟩ := (hget "Suite" "Test").2 (by simp [GBBenchResult.key])
  refine ⟨hparse, hwf, ap, hap, p, hp, ?_⟩
  have hfield : ("items_per_second" == "cpu_time") = false := by decide
  rw [hmean]
  norm_num [GBBenchResult.key, buildEntry, List.lookup_cons, hfield, PyNum.divNat]

end MicroBench
end TerrierScript
