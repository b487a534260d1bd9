import TerrierScript.Testing.Common
import TerrierScript.Testing.JsonValue

/-!
# `TestOLTPBench`: the OLTP benchmark test

`testing/util/test_oltpbench.py` configures an OLTP benchmark run from its
argument dict, installs the benchmark before the test (`git clean`, `git
clone`, the `ant` builds), writes its XML configuration, and after the test
checks the histograms of unexpected results in the benchmark's JSON output.

The install steps call `run_command(command, error_msg)`: the message lands in
`run_command`'s second parameter, `stdout`, and `subprocess.Popen` asks the
string for `fileno()`.  So `run_pre_test` logs the clean command and raises,
before any process starts: `shlex.split`'s `ValueError` when the command does
not split, and `AttributeError` otherwise.

After the test, `validate_json_result` subscripts the value `json.load` gives
twice and loops over the keys of the histogram it finds; a value that is not
`0` prints the histogram and exits.  `validateJsonResult_eq` says what that
does for every value the file can hold: the exception of each subscript and of
`keys()` on a value of the wrong kind, and otherwise one print and
`SystemExit` exactly when some count is not `0`.

`TestServer`, whose `__init__` runs first, and `constants.py` are not in the
sources: the constants are the fields of `OltpConstants`, and the outcome of
the XML editing and of reading the JSON output come from `OltpFiles`.
-/

namespace TerrierScript
namespace Testing

/-- A value of the argument dict: `None`, an `int` or a `str`. -/
inductive PyValue
  | none
  | int (n : ℤ)
  | str (s : String)
  deriving DecidableEq, Repr

/-- `str(v)`. -/
def PyValue.asStr : PyValue → String
  | .none => "None"
  | .int n => toString n
  | .str s => s

/-- `int(v)`. -/
def PyValue.asInt : PyValue → Except String ℤ
  | .none =>
      .error ("TypeError: int() argument must be a string, a bytes-like object or a real number, " ++
        "not 'NoneType'")
  | .int n => .ok n
  | .str s => pyInt s

/-- The truth value of `v`. -/
def PyValue.truthy : PyValue → Bool
  | .none => false
  | .int n => n ≠ 0
  | .str s => s ≠ ""

/-- `os.path.join(a, b)`: `b` when it is absolute, else `a` and `b` with one
`/` between them. -/
def pathJoin (a b : String) : String :=
  if b.startsWith "/" then b else if a = "" || a.endsWith "/" then a ++ b else a ++ "/" ++ b

/-- The values of `constants.py` that the class reads. -/
structure OltpConstants where
  defaultScalefactor : ℤ
  defaultTerminals : ℤ
  defaultTime : ℤ
  defaultTransactionIsolation : String
  dirConfig : String
  gitLocalPath : String
  defaultBin : String
  defaultCommandFlags : String
  testErrorMsg : String
  gitCleanCommand : String
  gitCommand : String
  antCommands : List String
  dirTestResult : String
  errorCodeError : ℤ

/-- What the file system gives: the outcome of editing and writing the XML
configuration, whether the result directory exists, and what `json.load`
returns on the JSON output, or the exception of opening or decoding it. -/
structure OltpFiles where
  configXml : Except String Unit
  resultDirExists : Bool
  jsonResult : Except String JsonValue

structure TestOLTPBench where
  benchmark : String
  scalefactor : ℤ
  terminals : ℤ
  time : ℤ
  weights : String
  transactionIsolation : String
  xmlConfig : String
  xmlTemplate : String
  testOutputFile : String
  testOutputJsonFile : String
  jsonResult : String
  testCommand : String
  testCommandCwd : String
  testErrorMsg : String
  deriving DecidableEq, Repr

/-- The default name of a result file: `"{prefix}_{WEIGHTS}_{SCALEFACTOR}"`
with the commas of the weights replaced by underscores. -/
def resultFileName (pre weights : String) (scalefactor : ℤ) : String :=
  pre ++ "_" ++ weights.map (fun ch => if ch = ',' then '_' else ch) ++ "_" ++ toString scalefactor

/-- `self.args.get(key, default)`. -/
def argGet (args : List (String × PyValue)) (key : String) (default : PyValue) : PyValue :=
  (args.lookup key).getD default

/-- `TestOLTPBench.__init__`, after `TestServer.__init__`. -/
def TestOLTPBench.init (c : OltpConstants) (args : List (String × PyValue)) :
    Except String TestOLTPBench := do
  let benchmark := (argGet args "benchmark" .none).asStr
  let scalefactor ← (argGet args "scalefactor" (.int c.defaultScalefactor)).asInt
  let terminals ← (argGet args "terminals" (.int c.defaultTerminals)).asInt
  let time ← (argGet args "client_time" (.int c.defaultTime)).asInt
  let weights := (argGet args "weights" .none).asStr
  let transactionIsolation :=
    (argGet args "transaction_isolation" (.str c.defaultTransactionIsolation)).asStr
  let xmlFile := benchmark ++ "_config.xml"
  let testOutputFile :=
    if (argGet args "test_output_file" .none).truthy then (argGet args "test_output_file" .none).asStr
    else resultFileName "outputfile" weights scalefactor
  let testOutputJsonFile :=
    if (argGet args "test_output_json_file" .none).truthy then
      (argGet args "test_output_json_file" .none).asStr
    else resultFileName "resultjsonfile" weights scalefactor
  let xmlConfig := pathJoin c.dirConfig xmlFile
  pure {
    benchmark, scalefactor, terminals, time, weights, transactionIsolation, xmlConfig,
    xmlTemplate := pathJoin c.dirConfig ("sample_" ++ xmlFile),
    testOutputFile, testOutputJsonFile,
    jsonResult := pathJoin c.gitLocalPath testOutputJsonFile,
    testCommand := c.defaultBin ++ " -b " ++ benchmark ++ " -c " ++ xmlConfig ++ " " ++
      c.defaultCommandFlags ++ " -o " ++ testOutputFile ++ " -json-histograms " ++ testOutputJsonFile,
    testCommandCwd := c.gitLocalPath,
    testErrorMsg := c.testErrorMsg }

/-! ## Before the test -/

section PreTest

variable (sh : Shell) (c : OltpConstants)

/-- One install step: `run_command(command, error_msg)`, and on a nonzero exit
code `print(stderr)` and `sys.exit(rc)`. -/
def installStep (command errorMsg : String) : Script Effect Unit := do
  let (rc, _, stderr) ← runCommandWith sh command (.text errorMsg) false
  if rc ≠ 0 then
    Script.emit (.print stderr)
    Script.lift (.error ("SystemExit: " ++ toString rc))

def cleanOltp : Script Effect Unit :=
  installStep sh c.gitCleanCommand "Error: unable to clean OLTP repo"

def downloadOltp : Script Effect Unit :=
  installStep sh c.gitCommand "Error: unable to git clone OLTP source code"

def buildOltp : Script Effect Unit :=
  c.antCommands.forM fun command =>
    installStep sh command ("Error: unable to run \"" ++ command ++ "\"")

def installOltp : Script Effect Unit := do
  cleanOltp sh c
  downloadOltp sh c
  buildOltp sh c

/-- `config_xml_file`: the template edited and written to `xml_config`. -/
def configXmlFile (files : OltpFiles) (test : TestOLTPBench) : Script Effect Unit := do
  Script.lift files.configXml
  Script.emit (.writeXml test.xmlConfig)

def createResultDir (files : OltpFiles) : Script Effect Unit :=
  if files.resultDirExists then pure () else Script.emit (.mkdir c.dirTestResult)

def runPreTest (files : OltpFiles) (test : TestOLTPBench) : Script Effect Unit := do
  installOltp sh c
  configXmlFile files test
  createResultDir c files

end PreTest

/-! ## After the test -/

section PostTest

variable (r : PyRepr) (c : OltpConstants)

/-- One iteration of `validate_json_result`'s loop: a value that is not `0`
prints the histogram and exits with `ErrorCode.ERROR`. -/
def checkKey (histogram : JsonValue) (key : String) : Script Effect Unit := do
  let value ← Script.lift (histogram.getItem r.printable key)
  if value.neZero then
    Script.emit (.print (histogram.repr r))
    Script.lift (.error ("SystemExit: " ++ toString c.errorCodeError))

/-- `validate_json_result` (`run_post_test`). -/
def validateJsonResult (files : OltpFiles) : Script Effect Unit := do
  let jrData ← Script.lift files.jsonResult
  let jrUnexpected ← Script.lift (jrData.getItem r.printable "unexpected")
  let jrHitogram ← Script.lift (jrUnexpected.getItem r.printable "HISTOGRAM")
  let keys ← Script.lift jrHitogram.keys
  keys.forM (checkKey r c jrHitogram)

/-- The histogram `validate_json_result` reads: `["unexpected"]["HISTOGRAM"]`
of what `json.load` returns. -/
def histogramOf (files : OltpFiles) : Except String JsonValue := do
  let jrData ← files.jsonResult
  let jrUnexpected ← jrData.getItem r.printable "unexpected"
  jrUnexpected.getItem r.printable "HISTOGRAM"

/-- What the histogram's loop does, over any keys of the histogram: it prints
the histogram and exits at the first value that is not `0`, and does nothing
when there is none. -/
theorem forM_checkKey {keys : List String} (nodup : keys.Nodup)
    (vals : {k // k ∈ keys} → JsonValue) :
    ∀ ks : List {k // k ∈ keys},
      ks.unattach.forM (checkKey r c (.dict keys nodup vals)) =
        if ks.any fun k => (vals k).neZero then
          ⟨[.print ((JsonValue.dict keys nodup vals).repr r)],
            .error ("SystemExit: " ++ toString c.errorCodeError)⟩
        else ⟨[], .ok ()⟩
  | [] => rfl
  | k :: ks => by
      cases hk : (vals k).neZero
      · by_cases hks : ks.any fun k => (vals k).neZero <;>
          simp [checkKey, hk, hks, forM_checkKey nodup vals ks, Script.lift]
      · simp [checkKey, hk, Script.lift, Script.emit]

/-- `run_post_test` on every value the JSON output can hold: the exception of
opening or decoding the file, or of a subscript on a missing key or on a value
that is not a `dict`; `AttributeError` when the histogram is not a `dict`;
otherwise the histogram printed once and `SystemExit(ErrorCode.ERROR)` exactly
when one of its values is not `0`, and no effect at all when every value is. -/
theorem validateJsonResult_eq (files : OltpFiles) :
    validateJsonResult r c files =
      match histogramOf r files with
      | .error e => ⟨[], .error e⟩
      | .ok (.dict keys nodup vals) =>
          if keys.attach.any fun k => (vals k).neZero then
            ⟨[.print ((JsonValue.dict keys nodup vals).repr r)],
              .error ("SystemExit: " ++ toString c.errorCodeError)⟩
          else ⟨[], .ok ()⟩
      | .ok histogram =>
          ⟨[], .error ("AttributeError: '" ++ histogram.typeName ++ "' object has no attribute 'keys'")⟩ := by
  have hread : validateJsonResult r c files = Script.lift (histogramOf r files) >>= fun h =>
      Script.lift h.keys >>= fun keys => keys.forM (checkKey r c h) := by
    simp only [validateJsonResult, histogramOf, Script.lift_bind, bind_assoc]
  rw [hread]
  rcases histogramOf r files with e | (_ | _ | _ | _ | _ | _ | ⟨keys, nodup, vals⟩)
  case dict =>
    have hloop := forM_checkKey r c nodup vals keys.attach
    rw [List.unattach_attach] at hloop
    exact hloop
  all_goals rfl

end PostTest

end Testing
end TerrierScript
