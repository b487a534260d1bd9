import TerrierScript.MicroBench.Driver
import TerrierScript.Script

/-!
# The Jenkins client and the `__main__` block of `run_micro_bench.py`

After running the benchmarks, `__main__` asks Jenkins for the builds of the
`micro_bench` job of `pa_terrier`, keeps the successful ones, downloads every
artifact file of each and adds it to one `ArtifactProcessor`, prints the
report and exits with the code `run_all_benchmarks` returned.

The pages come from outside: an oracle `Http` answers each url with the
dictionary that `eval` (of an `api/python` page) or `json.loads` (of an
artifact file) makes of the document, at the keys the script reads, or with
the exception of the request.  A run of the script is a `Script`: the events
it causes (the calls of the benchmark driver, the urls it opens, the lines it
prints) and its value or the exception that ends it.

The main result is a refinement.  Against a Jenkins that hosts a list of
builds, the loop of `__main__` computes `processBuilds` (`Report`) of those
builds, read as `Build`s: `Script.Runs` says that a computation of the script
has the value of an `Except` computation and causes the given events (a
prefix of them when it raises), and each loop of the script runs as the loop
of `processBuilds` that it implements.  The events say that only the artifact
files of the successful builds are downloaded, each once, in order.
-/

namespace TerrierScript
namespace MicroBench

/-! ## The script's events -/

/-- An effect of the script outside the model. -/
inductive Event
  | run (call : DriverCall)
  | urlopen (url : String)
  | print (line : String)
  deriving DecidableEq, Repr

/-- A run of the benchmark driver, its calls as events. -/
def ofRun {α : Type} (run : List DriverCall × Except String α) : Script Event α :=
  ⟨run.1.map Event.run, run.2⟩

/-- Python 2's `print` statement. -/
def printLine (line : String) : Script Event Unit := Script.emit (Event.print line)

/-! ## Pages of the Jenkins API -/

/-- A dictionary in a list of a page: an entry of a job's `builds` or of a
build's `artifacts`, at the keys the script reads; `none` for a key it lacks. -/
structure ApiItem where
  url : Option String := none
  fileName : Option String := none
  relativePath : Option String := none
  deriving DecidableEq, Repr

/-- The dictionary a fetched document evaluates to, at the keys the script
reads: `builds` of a job's page; `url`, `number`, `result` and `artifacts` of
a build's page; `benchmarks` of an artifact file.  A build that is still
running has `None` as its `result`, which compares unequal to `"SUCCESS"` as
any other value does. -/
structure Page where
  builds : Option (List ApiItem) := none
  url : Option String := none
  number : Option ℕ := none
  result : Option String := none
  artifacts : Option (List ApiItem) := none
  benchmarks : Option (List BenchEntry) := none
  deriving DecidableEq, Repr

/-- `eval(urllib.urlopen(url).read())`, or `json.loads` of it: the dictionary,
or the exception of the request or of the evaluation. -/
abbrev Http := String → Except String Page

/-- `urllib.urlopen(url).read()`, evaluated. -/
def urlopen (http : Http) (url : String) : Script Event Page := ⟨[.urlopen url], http url⟩

/-- `"{}/api/python".format(url)`. -/
def apiUrl (url : String) : String := url ++ "/api/python"

/-- `"{}artifact/{}".format(build_url, relativePath)`. -/
def artifactUrl (buildUrl relativePath : String) : String :=
  buildUrl ++ "artifact/" ++ relativePath

/-- Iterating over `None`. -/
def noneNotIterable : String := "TypeError: 'NoneType' object is not iterable"

namespace Jenkins

/-! ## The classes of the client -/

/-- `Artifact`: the url of its build and its dictionary. -/
structure Artifact where
  buildUrl : String
  artifactDict : ApiItem
  deriving DecidableEq, Repr

def Artifact.getFileName (artifact : Artifact) : Except String String :=
  getKey "fileName" artifact.artifactDict.fileName

/-- `get_data`: the contents of the artifact file. -/
def Artifact.getData (http : Http) (artifact : Artifact) : Script Event Page := do
  let relativePath ← Script.lift (getKey "relativePath" artifact.artifactDict.relativePath)
  urlopen http (artifactUrl artifact.buildUrl relativePath)

/-- `Build`: the dictionary of its page, and `artifact_list`, `None` until
`get_artifacts` runs. -/
structure Build where
  buildDict : Page
  artifactList : Option (List Artifact) := none
  deriving DecidableEq, Repr

def Build.getBuildUrl (build : Build) : Except String String := getKey "url" build.buildDict.url

def Build.getNumber (build : Build) : Except String ℕ := getKey "number" build.buildDict.number

def Build.getResult (build : Build) : Except String String :=
  getKey "result" build.buildDict.result

/-- `get_artifacts`: fetch the build's page again and turn its `artifacts`
into `Artifact`s; the build with `artifact_list` set, and the list. -/
def Build.getArtifacts (http : Http) (build : Build) : Script Event (Build × List Artifact) := do
  let buildUrl ← Script.lift build.getBuildUrl
  let data ← urlopen http (apiUrl buildUrl)
  let artifactsLod ← Script.lift (getKey "artifacts" data.artifacts)
  let artifactList := artifactsLod.map (Artifact.mk buildUrl)
  Pure.pure ({ build with artifactList := some artifactList }, artifactList)

/-- The loop of `get_artifact_by_fileName`. -/
def firstWithFileName (fileName : String) : List Artifact → Except String (Option Artifact)
  | [] => .ok none
  | artifact :: artifacts => do
      let name ← artifact.getFileName
      if name = fileName then Pure.pure (some artifact) else firstWithFileName fileName artifacts

def Build.getArtifactByFileName (build : Build) (fileName : String) :
    Except String (Option Artifact) :=
  match build.artifactList with
  | none => .error noneNotIterable
  | some artifacts => firstWithFileName fileName artifacts

/-- The loop of `has_artifact_fileName`. -/
def anyWithFileName (fileName : String) : List Artifact → Except String Bool
  | [] => .ok false
  | artifact :: artifacts => do
      let name ← artifact.getFileName
      if name = fileName then Pure.pure true else anyWithFileName fileName artifacts

def Build.hasArtifactFileName (build : Build) (fileName : String) : Except String Bool :=
  match build.artifactList with
  | none => .error noneNotIterable
  | some artifacts => anyWithFileName fileName artifacts

/-- The two lookups of a build agree: `has_artifact_fileName` answers whether
`get_artifact_by_fileName` finds an artifact, and raises what it raises, on
every build, before `get_artifacts` as after it. -/
theorem hasArtifactFileName_eq_isSome (build : Build) (fileName : String) :
    build.hasArtifactFileName fileName = Option.isSome <$> build.getArtifactByFileName fileName := by
  unfold Build.hasArtifactFileName Build.getArtifactByFileName
  cases build.artifactList with
  | none => rfl
  | some artifacts =>
      induction artifacts with
      | nil => rfl
      | cons artifact artifacts ih =>
          simp only [anyWithFileName, firstWithFileName]
          cases artifact.getFileName with
          | error e => rfl
          | ok name =>
              by_cases hname : name = fileName
              · simp [hname, bind, Except.bind, Pure.pure, Except.pure, Functor.map, Except.map]
              · simpa [hname, bind, Except.bind] using ih

end Jenkins

/-- `Jenkins`: the server's base url. -/
structure Jenkins where
  baseUrl : String
  deriving DecidableEq, Repr

namespace Jenkins

def init : Jenkins := ⟨"http://jenkins.db.cs.cmu.edu:8080"⟩

/-- `"{}/job/{}/job/{}".format(self.base_url, project, branch)`. -/
def jobUrl (h : Jenkins) (project branch : String) : String :=
  h.baseUrl ++ "/job/" ++ project ++ "/job/" ++ branch

/-- The loop of `get_builds`: fetch the page of each listed build. -/
def getBuildsFrom (http : Http) : List ApiItem → Script Event (List Build)
  | [] => Pure.pure []
  | item :: items => do
      let itemUrl ← Script.lift (getKey "url" item.url)
      let data ← urlopen http (apiUrl itemUrl)
      let retList ← getBuildsFrom http items
      Pure.pure (⟨data, none⟩ :: retList)

def getBuilds (h : Jenkins) (http : Http) (project branch : String) : Script Event (List Build) := do
  let data ← urlopen http (apiUrl (h.jobUrl project branch))
  let items ← Script.lift (getKey "builds" data.builds)
  getBuildsFrom http items

/-- `get_artifact_list`, deprecated: the `artifacts` of a build's page. -/
def getArtifactList (http : Http) (buildDict : Page) : Script Event (List ApiItem) := do
  let url ← Script.lift (getKey "url" buildDict.url)
  let data ← urlopen http (apiUrl url)
  Script.lift (getKey "artifacts" data.artifacts)

/-- The loop of `has_artifact_name`. -/
def anyWithName (artifactName : String) : List ApiItem → Except String Bool
  | [] => .ok false
  | artifact :: artifacts => do
      let name ← getKey "fileName" artifact.fileName
      if name = artifactName then Pure.pure true else anyWithName artifactName artifacts

/-- `has_artifact_name`, deprecated. -/
def hasArtifactName (http : Http) (buildDict : Page) (artifactName : String) : Script Event Bool := do
  let artifactList ← getArtifactList http buildDict
  Script.lift (anyWithName artifactName artifactList)

theorem anyWithName_eq_anyWithFileName (artifactName buildUrl : String) (items : List ApiItem) :
    anyWithName artifactName items =
      anyWithFileName artifactName (items.map (Artifact.mk buildUrl)) := by
  induction items with
  | nil => rfl
  | cons item items ih =>
      simp only [anyWithName, anyWithFileName, List.map_cons, Artifact.getFileName, ih]

/-- The deprecated `has_artifact_name` of a build's dictionary opens the page
that `get_artifacts` opens and answers as `has_artifact_fileName` then does,
raising what they raise, whatever the dictionary and the server's answer. -/
theorem hasArtifactName_eq_getArtifacts (http : Http) (buildDict : Page) (artifactName : String) :
    hasArtifactName http buildDict artifactName = (do
      let (build, _) ← Build.getArtifacts http ⟨buildDict, none⟩
      Script.lift (build.hasArtifactFileName artifactName)) := by
  simp only [hasArtifactName, getArtifactList, Build.getArtifacts, Build.getBuildUrl,
    Build.hasArtifactFileName, Script.lift, urlopen]
  rcases hurl : buildDict.url with _ | url
  · rfl
  rcases hpage : http (apiUrl url) with e | data
  · simp [getKey, hpage]
  rcases hitems : data.artifacts with _ | items
  · simp [getKey, hpage, hitems]
  · simp [getKey, hpage, hitems, anyWithName_eq_anyWithFileName _ url]

end Jenkins

/-! ## `__main__` -/

/-- `[build for build in builds if build.get_result() == "SUCCESS"]`. -/
def successfulBuilds : List Jenkins.Build → Except String (List Jenkins.Build)
  | [] => .ok []
  | build :: builds => do
      let result ← build.getResult
      let rest ← successfulBuilds builds
      Pure.pure (if result = "SUCCESS" then build :: rest else rest)

/-- `add_artifact_file` of the raw contents: `GBResult` reads their
`benchmarks`. -/
def ArtifactProcessor.addArtifactData (ap : ArtifactProcessor) (data : Page) :
    Except String ArtifactProcessor := do
  let benchmarks ← getKey "benchmarks" data.benchmarks
  ap.addArtifactFile benchmarks

/-- The body of the loop over the artifacts of a build. -/
def addArtifact (http : Http) (ap : ArtifactProcessor) (artifact : Jenkins.Artifact) :
    Script Event ArtifactProcessor := do
  let artifactFilename ← Script.lift artifact.getFileName
  printLine ("artifact: " ++ artifactFilename)
  let data ← artifact.getData http
  Script.lift (ap.addArtifactData data)

/-- The line printed for a build. -/
def buildLine (number : ℕ) (result : String) : String :=
  "build " ++ toString number ++ ", status " ++ result

/-- The body of the loop over the successful builds. -/
def addBuild (http : Http) (ap : ArtifactProcessor) (build : Jenkins.Build) :
    Script Event ArtifactProcessor := do
  let number ← Script.lift build.getNumber
  let result ← Script.lift build.getResult
  printLine (buildLine number result)
  let (_, artifacts) ← build.getArtifacts http
  artifacts.foldlM (addArtifact http) ap

/-- From `h.get_builds("pa_terrier", "micro_bench")` to the end of the loop
over the builds. -/
def collectArtifacts (h : Jenkins) (http : Http) : Script Event ArtifactProcessor := do
  let builds ← h.getBuilds http "pa_terrier" "micro_bench"
  let builds ← Script.lift (successfulBuilds builds)
  builds.foldlM (addBuild http) .init

/-- `__main__`: the benchmarks, the artifacts of Jenkins, the report in the
order Python 2 iterates over `ap.results`; the printed report and the exit
code. -/
def main (env : BenchEnv) (http : Http) (order : ResultsOrder) :
    Script Event (List ReportEntry × Int) := do
  let ret ← ofRun (RunMicroBenchmarks.init.runAllBenchmarks env)
  let ap ← collectArtifacts Jenkins.init http
  let report ← Script.lift (reportResults order ap)
  Pure.pure (report, ret)

/-! ## A Jenkins that hosts builds -/

/-- An artifact file as Jenkins hosts it. -/
structure HostedArtifact where
  fileName : String
  relativePath : String
  benchmarks : List BenchEntry
  deriving DecidableEq, Repr

/-- A build as Jenkins hosts it: the url of its page, its number and result,
and its artifact files. -/
structure HostedBuild where
  url : String
  number : ℕ
  result : String
  artifacts : List HostedArtifact
  deriving DecidableEq, Repr

def HostedArtifact.item (a : HostedArtifact) : ApiItem :=
  { fileName := some a.fileName, relativePath := some a.relativePath }

def HostedArtifact.page (a : HostedArtifact) : Page := { benchmarks := some a.benchmarks }

def HostedBuild.item (b : HostedBuild) : ApiItem := { url := some b.url }

def HostedBuild.page (b : HostedBuild) : Page :=
  { url := some b.url, number := some b.number, result := some b.result,
    artifacts := some (b.artifacts.map HostedArtifact.item) }

def jobPage (builds : List HostedBuild) : Page := { builds := some (builds.map HostedBuild.item) }

/-- The abstraction: a hosted build as `processBuilds` reads it. -/
def HostedBuild.toBuild (b : HostedBuild) : Build :=
  ⟨b.number, b.result, b.artifacts.map HostedArtifact.benchmarks⟩

/-- `http` answers as a Jenkins that hosts `builds` under the job at `jobUrl`:
the job's page lists the builds, each build's page describes it, and each
artifact file of a successful build holds its benchmarks. -/
structure Serves (http : Http) (jobUrl : String) (builds : List HostedBuild) : Prop where
  job : http (apiUrl jobUrl) = .ok (jobPage builds)
  build : ∀ b ∈ builds, http (apiUrl b.url) = .ok b.page
  artifact : ∀ b ∈ builds, b.result = "SUCCESS" → ∀ a ∈ b.artifacts,
    http (artifactUrl b.url a.relativePath) = .ok a.page

/-- The events of the loop over one artifact file of a build. -/
def HostedArtifact.events (buildUrl : String) (a : HostedArtifact) : List Event :=
  [.print ("artifact: " ++ a.fileName), .urlopen (artifactUrl buildUrl a.relativePath)]

/-- The events of the loop over one successful build. -/
def HostedBuild.events (b : HostedBuild) : List Event :=
  .print (buildLine b.number b.result) :: .urlopen (apiUrl b.url) ::
    b.artifacts.flatMap (HostedArtifact.events b.url)

/-- The events of `collectArtifacts`: the job's page, every build's page, then
the loop over the successful builds. -/
def collectEvents (jobUrl : String) (builds : List HostedBuild) : List Event :=
  .urlopen (apiUrl jobUrl) :: builds.map (fun b => .urlopen (apiUrl b.url)) ++
    (builds.filter (·.result = "SUCCESS")).flatMap HostedBuild.events

section Hosted

variable {http : Http} {jobUrl : String} {builds : List HostedBuild}

/-- The object `get_builds` makes of a hosted build. -/
def HostedBuild.fetched (b : HostedBuild) : Jenkins.Build := ⟨b.page, none⟩

theorem getBuildsFrom_of_serves (hs : Serves http jobUrl builds) :
    ∀ bs ⊆ builds, Jenkins.getBuildsFrom http (bs.map HostedBuild.item) =
      ⟨bs.map (fun b => .urlopen (apiUrl b.url)), .ok (bs.map HostedBuild.fetched)⟩
  | [], _ => rfl
  | b :: bs, hsub => by
      obtain ⟨hb, hsub⟩ := List.cons_subset.mp hsub
      simp [Jenkins.getBuildsFrom, Script.lift, getKey, HostedBuild.item, urlopen, hs.build b hb,
        getBuildsFrom_of_serves hs bs hsub, HostedBuild.fetched]

theorem getBuilds_of_serves {h : Jenkins} {project branch : String}
    (hs : Serves http (h.jobUrl project branch) builds) :
    h.getBuilds http project branch =
      ⟨.urlopen (apiUrl (h.jobUrl project branch)) :: builds.map (fun b => .urlopen (apiUrl b.url)),
        .ok (builds.map HostedBuild.fetched)⟩ := by
  simp [Jenkins.getBuilds, urlopen, hs.job, jobPage, Script.lift, getKey,
    getBuildsFrom_of_serves hs builds (List.Subset.refl _)]

theorem successfulBuilds_map_fetched (bs : List HostedBuild) :
    successfulBuilds (bs.map HostedBuild.fetched) =
      .ok ((bs.filter (·.result = "SUCCESS")).map HostedBuild.fetched) := by
  induction bs with
  | nil => rfl
  | cons b bs ih =>
      by_cases hb : b.result = "SUCCESS" <;>
        simp [successfulBuilds, ih, hb, Jenkins.Build.getResult, HostedBuild.fetched,
          HostedBuild.page, getKey, List.filter_cons, bind, Except.bind, Pure.pure, Except.pure]

theorem addArtifact_runs {b : HostedBuild} (hb : b ∈ builds) (hsuccess : b.result = "SUCCESS")
    (hs : Serves http jobUrl builds) (ap : ArtifactProcessor) {a : HostedArtifact}
    (ha : a ∈ b.artifacts) :
    (addArtifact http ap ⟨b.url, a.item⟩).Runs (a.events b.url) (ap.addArtifactFile a.benchmarks) := by
  have hpage := hs.artifact b hb hsuccess a ha
  simp only [addArtifact, Jenkins.Artifact.getFileName, Jenkins.Artifact.getData,
    HostedArtifact.item, Script.lift, getKey, urlopen, printLine, Script.mk_ok_bind, hpage]
  exact Script.runs_mk _ _

theorem addBuild_runs {b : HostedBuild} (hb : b ∈ builds) (hsuccess : b.result = "SUCCESS")
    (hs : Serves http jobUrl builds) (ap : ArtifactProcessor) :
    (addBuild http ap b.fetched).Runs b.events
      (b.toBuild.artifacts.foldlM ArtifactProcessor.addArtifactFile ap) := by
  have hloop : (b.artifacts.foldlM (fun ap a => addArtifact http ap ⟨b.url, a.item⟩) ap).Runs
      (b.artifacts.flatMap (HostedArtifact.events b.url))
      (b.artifacts.foldlM (fun ap a => ap.addArtifactFile a.benchmarks) ap) :=
    Script.Runs.foldlM (fun ap a ha => addArtifact_runs hb hsuccess hs ap (a := a) ha) ap
  simp only [addBuild, Jenkins.Build.getNumber, Jenkins.Build.getResult,
    Jenkins.Build.getArtifacts, Jenkins.Build.getBuildUrl, HostedBuild.fetched, HostedBuild.page,
    HostedBuild.toBuild, Script.lift, getKey, urlopen, printLine, Script.mk_ok_bind,
    hs.build b hb, List.foldlM_map, Script.pure_eq, List.nil_append, List.append_nil,
    List.singleton_append, List.cons_append]
  exact hloop.append_left [_, _]

/-- Against a Jenkins that hosts `builds`, the loop of `__main__` has the value
of `processBuilds` of the builds it hosts: it opens the job's page and every
build's page, then, for each successful build in order, the build's page once
more and each of its artifact files in order, and nothing else. -/
theorem collectArtifacts_runs {h : Jenkins}
    (hs : Serves http (h.jobUrl "pa_terrier" "micro_bench") builds) :
    (collectArtifacts h http).Runs (collectEvents (h.jobUrl "pa_terrier" "micro_bench") builds)
      (processBuilds (builds.map HostedBuild.toBuild)) := by
  have hloop : ((builds.filter (·.result = "SUCCESS")).foldlM
      (fun ap b => addBuild http ap b.fetched) .init).Runs
      ((builds.filter (·.result = "SUCCESS")).flatMap HostedBuild.events)
      ((builds.filter (·.result = "SUCCESS")).foldlM
        (fun ap b => b.toBuild.artifacts.foldlM ArtifactProcessor.addArtifactFile ap) .init) :=
    Script.Runs.foldlM (fun ap b hb => addBuild_runs (List.mem_filter.mp hb).1
      (by simpa using (List.mem_filter.mp hb).2) hs ap) .init
  rw [collectArtifacts, getBuilds_of_serves hs, Script.mk_ok_bind, Script.lift,
    successfulBuilds_map_fetched, Script.mk_ok_bind, List.foldlM_map, List.nil_append, processBuilds,
    List.filter_map, List.foldlM_map]
  exact hloop.append_left _

end Hosted

/-- Whatever the benchmarks do and in whatever order Python 2 iterates over
the results, against a Jenkins that hosts `builds`, `__main__` runs the
benchmarks, then has the value of `reportBuilds` of the builds it hosts, and
exits with the code of `run_all_benchmarks`. -/
theorem main_runs {http : Http} {builds : List HostedBuild} (env : BenchEnv)
    (order : ResultsOrder)
    (hs : Serves http (Jenkins.init.jobUrl "pa_terrier" "micro_bench") builds) :
    (main env http order).Runs
      ((RunMicroBenchmarks.init.runAllBenchmarks env).1.map Event.run ++
        collectEvents (Jenkins.init.jobUrl "pa_terrier" "micro_bench") builds)
      (do
        let ret ← (RunMicroBenchmarks.init.runAllBenchmarks env).2
        let report ← reportBuilds order (builds.map HostedBuild.toBuild)
        pure (report, ret)) := by
  have hrun := (Script.runs_mk ((RunMicroBenchmarks.init.runAllBenchmarks env).1.map Event.run)
    (RunMicroBenchmarks.init.runAllBenchmarks env).2).bind fun ret _ =>
      (collectArtifacts_runs hs).bind fun ap _ =>
        (Script.runs_mk [] (reportResults order ap)).bind fun report _ =>
          Script.runs_mk [] (.ok (report, ret))
  simpa [reportBuilds] using hrun

/-- The answers of a Jenkins that hosts `builds` under the job at `jobUrl`,
and a `404` for any other url. -/
def hostedHttp (jobUrl : String) (builds : List HostedBuild) : Http := fun url =>
  if url = apiUrl jobUrl then .ok (jobPage builds) else
  match builds.find? (fun b => apiUrl b.url == url) with
  | some b => .ok b.page
  | none =>
      match (builds.flatMap fun b =>
          b.artifacts.map fun a => (artifactUrl b.url a.relativePath, a)).lookup url with
      | some a => .ok a.page
      | none => .error "HTTPError: HTTP Error 404: Not Found"

/-- The successful build 8 and the failed build 9 of the job, each with one
artifact file of `Suite/Test`. -/
def exampleBuilds : List HostedBuild :=
  [⟨"http://jenkins.db.cs.cmu.edu:8080/job/pa_terrier/job/micro_bench/8/", 8, "SUCCESS",
      [⟨"data_table_benchmark.json", "script/micro_bench/data_table_benchmark.json",
        [buildEntry 1]⟩]⟩,
    ⟨"http://jenkins.db.cs.cmu.edu:8080/job/pa_terrier/job/micro_bench/9/", 9, "FAILURE",
      [⟨"data_table_benchmark.json", "script/micro_bench/data_table_benchmark.json",
        [buildEntry 3]⟩]⟩]

def exampleHttp : Http :=
  hostedHttp (Jenkins.init.jobUrl "pa_terrier" "micro_bench") exampleBuilds

theorem main_runs_exampleBuilds :
    Serves exampleHttp (Jenkins.init.jobUrl "pa_terrier" "micro_bench") exampleBuilds ∧
      (main firstFails exampleHttp .insertion).Runs
        ((RunMicroBenchmarks.init.runAllBenchmarks firstFails).1.map Event.run ++
          collectEvents (Jenkins.init.jobUrl "pa_terrier" "micro_bench") exampleBuilds)
        (do
          let ret ← (RunMicroBenchmarks.init.runAllBenchmarks firstFails).2
          let report ← reportBuilds .insertion (exampleBuilds.map HostedBuild.toBuild)
          pure (report, ret)) :=
  have hs : Serves exampleHttp (Jenkins.init.jobUrl "pa_terrier" "micro_bench") exampleBuilds :=
    ⟨rfl, by
        simp only [exampleBuilds, List.mem_cons, List.not_mem_nil, or_false]
        rintro b (rfl | rfl) <;> rfl,
      by
        simp only [exampleBuilds, List.mem_cons, List.not_mem_nil, or_false]
        rintro b (rfl | rfl) hb a ha
        · obtain rfl := List.mem_singleton.mp ha
          rfl
        · exact absurd hb (by decide)⟩
  ⟨hs, main_runs firstFails .insertion hs⟩

end MicroBench
end TerrierScript
