import TerrierScript.Script
import TerrierScript.Testing.PyStr
import TerrierScript.Testing.Shlex
import TerrierScript.MicroBench.ArtifactProcessor

/-!
# The subprocess helpers of `testing/util/common.py`

The test harness runs commands through `run_command` and reads back what they
print: `kill_pids_on_port` kills the processes that `lsof` lists on a port,
`run_collect_mem_info` reads the memory of a process from a helper script,
and `update_mem_info` files each reading in a dict under the time it was
taken.

The shell is an oracle: `Shell` gives the user id, and for every command line
the `OSError` of a spawn that fails or the exit code and output of the
process.  `run_command` itself splits the command with `shlex.split` and asks
`Popen` for the handles of its streams first, so a command that `shlex`
refuses, or a `stdout` that is not a stream, raises before any process starts.
The values of `constants.py` (not in the sources) are the fields of
`Constants`; `ErrorCode.SUCCESS` is `0`.

The results: `kill_pids_on_port` kills, in order, exactly the pids `int()`
reads from `lsof`'s lines, up to and including the first kill that fails to
start or exits with another code, and it runs no command unless it is root and
`lsof` succeeded; the line that `run_collect_mem_info` reads is a two-field
format that round-trips; a dict that only `update_mem_info` fills, at a
positive interval, holds every reading under its own time.
-/

namespace TerrierScript
namespace Testing

open MicroBench (dictSet)

/-- An effect of the helpers. -/
inductive Effect
  | logInfo (msg : String)
  | logError (msg : String)
  | print (line : String)
  | popen (command : String)
  | getstatusoutput (cmd : String)
  | writeXml (path : String)
  | mkdir (path : String)
  deriving DecidableEq, Repr

def Effect.popen? : Effect → Option String
  | .popen command => some command
  | _ => none

/-- The `OSError` of a program `Popen` cannot start (missing, or not
executable): its `errno`, its message and the program. -/
structure SpawnError where
  errno : ℕ
  strerror : String
  program : String
  deriving DecidableEq, Repr

/-- The subclass of `OSError` Python raises for an `errno`. -/
def SpawnError.className (e : SpawnError) : String :=
  if e.errno = 1 ∨ e.errno = 13 then "PermissionError"
  else if e.errno = 2 then "FileNotFoundError"
  else if e.errno = 20 then "NotADirectoryError"
  else if e.errno = 21 then "IsADirectoryError"
  else "OSError"

def SpawnError.text (e : SpawnError) : String :=
  e.className ++ ": [Errno " ++ toString e.errno ++ "] " ++ e.strerror ++ ": '" ++ e.program ++ "'"

/-- The machine: the user id; for each command line, what `Popen` gives, the
`OSError` of a spawn that fails or the exit code and the output `run_command`
leaves in its pipes; and what `getstatusoutput` returns. -/
structure Shell where
  uid : ℕ
  run : String → Except SpawnError (ℤ × String × String)
  statusOutput : String → ℤ × String

/-- The values of `constants.py` that the helpers read. -/
structure Constants where
  lsofPathLinux : String
  fileCheckPids : String
  fileKillServer : String
  fileCollectMemInfo : String
  memInfoSplitter : Char
  commandLineTrue : String

/-- Values for the examples. -/
def exampleConstants : Constants :=
  ⟨"lsof", "check_pids.py", "kill_server.py", "collect_mem_info.py", ',', "True"⟩

/-- The class of an exception, the text before its first `:`. -/
def excClass (e : String) : String := String.mk (e.toList.takeWhile (· ≠ ':'))

/-- `except ValueError`: `ValueError` and `UnicodeDecodeError`, its subclass
that `print_pipe` can raise. -/
def isValueError (e : String) : Bool := excClass e ∈ ["ValueError", "UnicodeDecodeError"]

/-! ## Running commands -/

/-- The `stdout` argument of `run_command`, as `subprocess.Popen` takes it:
`PIPE`, `None`, a file descriptor, or any other object, such as a `str`. -/
inductive StdoutArg
  | pipe
  | none
  | fd (n : ℕ)
  | text (s : String)
  deriving DecidableEq, Repr

/-- `subprocess.Popen`'s handle for `stdout` (CPython's `_get_handles`):
`None`, `PIPE` and a descriptor are taken as they are, any other object is
asked for `fileno()`, which a `str` does not have. -/
def StdoutArg.handle : StdoutArg → Except String Unit
  | .text _ => .error "AttributeError: 'str' object has no attribute 'fileno'"
  | _ => .ok ()

/-- `run_command(command, stdout, printable=False, silent_start=silentStart)`:
the log line, `shlex.split`, the handles, the program (`args[0]`, which an
empty list lacks), then the process: its `OSError`, or its exit code with what
is left in its pipes.  The lines a printable run streams to the log while it
polls depend on timing and are left out. -/
def runCommandWith (sh : Shell) (command : String) (stdout : StdoutArg) (silentStart : Bool) :
    Script Effect (ℤ × String × String) := do
  if !silentStart then Script.emit (.logInfo ("Running: " ++ command))
  let args ← Script.lift (shlexSplit command)
  Script.lift stdout.handle
  if args = [] then Script.lift (.error "IndexError: list index out of range")
  Script.emit (.popen command)
  Script.lift ((sh.run command).mapError SpawnError.text)

/-- `run_command` with its default `stdout=subprocess.PIPE`. -/
def runCommand (sh : Shell) (command : String) (silentStart : Bool) :
    Script Effect (ℤ × String × String) :=
  runCommandWith sh command .pipe silentStart

/-- With a pipe for `stdout`, on a command that `shlex.split` reads as a
program and its arguments, `run_command` starts the process and returns its
outcome, after the log line unless it is silent. -/
theorem runCommand_eq (sh : Shell) {command : String} (silentStart : Bool) {program : String}
    {args : List String} (hsplit : shlexSplit command = .ok (program :: args)) :
    runCommand sh command silentStart =
      ⟨(if silentStart then [] else [.logInfo ("Running: " ++ command)]) ++ [.popen command],
        (sh.run command).mapError SpawnError.text⟩ := by
  cases silentStart <;> simp [runCommand, runCommandWith, hsplit, StdoutArg.handle, Script.lift,
    Script.emit]

/-- `run_as_root`. -/
def runAsRoot (sh : Shell) (command : String) (silentStart : Bool) :
    Script Effect (ℤ × String × String) :=
  runCommand sh ("sudo " ++ command) silentStart

/-- `if stdout:` on what `communicate()` returns for a stream: `None` and
`b''` are false. -/
def truthyBytes : Option (List UInt8) → Bool
  | some bytes => !bytes.isEmpty
  | none => false

/-- `bytes.decode("utf-8")`: a `UnicodeDecodeError` on bytes that are not
UTF-8. -/
def decodeUtf8 (bytes : List UInt8) : Except String String :=
  match String.fromUTF8? ⟨bytes.toArray⟩ with
  | some s => .ok s
  | none => .error "UnicodeDecodeError: 'utf-8' codec can't decode the output"

/-- `stdout.decode("utf-8").rstrip("\n").split("\n")`; `None` has no
`decode`. -/
def pipeLines : Option (List UInt8) → Except String (List String)
  | some bytes => (decodeUtf8 bytes).map fun s => pySplit (rstripNewlines s) '\n'
  | none => .error "AttributeError: 'NoneType' object has no attribute 'decode'"

/-- `print_pipe`, on the outcome of `p.communicate()`: its exception, or the
bytes of `stdout` and `stderr` (`None` for a stream that is not a pipe).  The
`stderr` branch logs the lines of `stdout`, and a `ValueError`, of
`communicate` or of the decoding, is answered by two error lines. -/
def printPipe (communicated : Except String (Option (List UInt8) × Option (List UInt8))) :
    Script Effect Unit :=
  Script.tryCatch (do
      let (stdout, stderr) ← Script.lift communicated
      if truthyBytes stdout then
        let lines ← Script.lift (pipeLines stdout)
        lines.forM fun line => Script.emit (.logInfo line)
      if truthyBytes stderr then
        let lines ← Script.lift (pipeLines stdout)
        lines.forM fun line => Script.emit (.logError line))
    isValueError
    (do
      Script.emit (.logError "Error in subprocess communicate")
      Script.emit (.logError ("Known issue in CPython https://bugs.python.org/issue35182. " ++
        "Please upgrade the Python version.")))

/-! ## `kill_pids_on_port` -/

/-- `print_or_log`: the logger's `info` when one is given. -/
def printOrLog (msg : String) (logger : Bool) : Script Effect Unit :=
  Script.emit (if logger then .logInfo msg else .print msg)

def lsofCommand (lsofPath : String) (port : ℕ) : String :=
  lsofPath ++ " -i:" ++ toString port ++ " | grep 'LISTEN' | awk '\x7b print $2 \x7d'"

def killCommand (pid : ℤ) : String := "kill -9 " ++ toString pid

def killError (pid rc : ℤ) : String :=
  "Exception: Error in killing PID=" ++ toString pid ++ ", [RC=" ++ toString rc ++ "]"

/-- The body of the loop over the lines of `lsof`'s output, inside its
`try ... except ValueError: continue`. -/
def killPidLine (sh : Shell) (pidStr : String) : Script Effect Unit :=
  Script.tryCatch (do
      let pid ← Script.lift (pyInt (strip pidStr))
      Script.emit (.print (killCommand pid))
      let (rc, _, _) ← runCommand sh (killCommand pid) false
      if rc ≠ 0 then Script.lift (.error (killError pid rc)))
    isValueError (pure ())

def killPidsOnPort (sh : Shell) (c : Constants) (port : ℕ) (logger : Bool) :
    Script Effect Unit := do
  if sh.uid ≠ 0 then
    printOrLog ("not root user, uid = " ++ toString sh.uid) logger
    Script.lift (.error "Exception: Cannot call this function unless running as root!")
  let cmd := lsofCommand c.lsofPathLinux port
  Script.emit (.getstatusoutput cmd)
  let (rc, stdout) := sh.statusOutput cmd
  Script.emit (.print (cmd ++ " " ++ toString rc ++ " " ++ stdout))
  if rc ≠ 0 then
    Script.lift (.error ("Exception: Error in running 'lsof' to get processes listening to PORT=" ++
      toString port ++ ", [RC=" ++ toString rc ++ "]"))
  (pySplit stdout '\n').forM (killPidLine sh)

/-- The pid `int()` reads from a line, if it reads one. -/
def pidOf (pidStr : String) : Option ℤ := (pyInt (strip pidStr)).toOption

/-- The kill of `pid` starts and exits with `0`. -/
def Shell.kills (sh : Shell) (pid : ℤ) : Bool :=
  match sh.run (killCommand pid) with
  | .ok (rc, _, _) => rc = 0
  | .error _ => false

/-- The exception of a kill that fails: the `OSError` of its spawn, or the
exception `kill_pids_on_port` raises for its exit code. -/
def killFailure (sh : Shell) (pid : ℤ) : String :=
  match sh.run (killCommand pid) with
  | .ok (rc, _, _) => killError pid rc
  | .error e => e.text

/-- The outcome of killing `pids` after the ones that succeeded: the first
failure, if any. -/
def killOutcome (sh : Shell) : List ℤ → Except String Unit
  | [] => .ok ()
  | pid :: _ => .error (killFailure sh pid)

/-! ### Which exceptions the loop catches -/

theorem excClass_eq {e c : String} {rest : List Char} (he : e.toList = c.toList ++ ':' :: rest)
    (hc : ':' ∉ c.toList) : excClass e = c := by
  have hall : ∀ ch ∈ c.toList, decide (ch ≠ ':') = true := fun ch h => by
    simp only [decide_eq_true_eq]
    rintro rfl
    exact hc h
  rw [excClass, he, List.takeWhile_append_of_pos hall]
  simp

theorem isValueError_of_pyInt {s e : String} (h : pyInt s = .error e) : isValueError e := by
  unfold pyInt at h
  split at h
  · cases h
  · cases h
    have hclass : excClass ("ValueError: invalid literal for int() with base 10: '" ++ s ++ "'") =
        "ValueError" :=
      @excClass_eq _ _ (" invalid literal for int() with base 10: '" ++ s ++ "'").toList rfl
        (by decide)
    simp [isValueError, hclass]

theorem not_isValueError_killError (pid rc : ℤ) : isValueError (killError pid rc) = false := by
  have hclass : excClass (killError pid rc) = "Exception" :=
    @excClass_eq _ _ (" Error in killing PID=" ++ toString pid ++ ", [RC=" ++ toString rc ++
      "]").toList rfl (by decide)
  simp [isValueError, hclass]

theorem not_isValueError_text (e : SpawnError) : isValueError e.text = false := by
  have hclass : ∀ c ∈ ["PermissionError", "FileNotFoundError", "NotADirectoryError",
      "IsADirectoryError", "OSError"],
      ':' ∉ c.toList ∧ c ∉ ["ValueError", "UnicodeDecodeError"] := by decide
  have hmem : e.className ∈ ["PermissionError", "FileNotFoundError", "NotADirectoryError",
      "IsADirectoryError", "OSError"] := by
    unfold SpawnError.className
    split_ifs <;> simp
  obtain ⟨hcolon, hnot⟩ := hclass _ hmem
  have htext : e.text.toList = e.className.toList ++ ':' :: (" [Errno " ++ toString e.errno ++
      "] " ++ e.strerror ++ ": '" ++ e.program ++ "'").toList := by
    simp only [SpawnError.text, String.toList, String.data_append, List.append_assoc]
    rfl
  simpa [isValueError, excClass_eq htext hcolon] using hnot

/-- `shlex.split` reads a kill command as `kill`, `-9` and the pid. -/
theorem shlexSplit_killCommand (pid : ℤ) :
    shlexSplit (killCommand pid) = .ok ["kill", "-9", toString pid] := by
  have hpid : ∀ ch ∈ (toString pid).toList, isWordChar ch := fun ch h => by
    rcases mem_toString_int h with hd | rfl
    · have := toNat_of_isDigit hd
      have hsp : ch ≠ ' ' ∧ ch ≠ '\t' ∧ ch ≠ '\r' ∧ ch ≠ '\n' ∧ ch ≠ '\'' ∧ ch ≠ '"' ∧
          ch ≠ '\\' := by
        refine ⟨?_, ?_, ?_, ?_, ?_, ?_, ?_⟩ <;> rintro rfl <;> revert this <;> decide
      simp [isWordChar, isShlexSpace, isShlexQuote, hsp]
    · decide
  have hne : (toString pid).toList ≠ [] := fun h =>
    toString_int_ne_empty pid (congrArg String.mk h)
  have hlist : (killCommand pid).toList =
      "kill".toList ++ ' ' :: ("-9".toList ++ ' ' :: (toString pid).toList) := rfl
  have hchars : ∀ ch ∈ (killCommand pid).toList, isShlexQuote ch = false ∧ ch ≠ '\\' := by
    rw [hlist]
    intro ch h
    simp only [List.mem_append, List.mem_cons] at h
    rcases h with h | h | h | h | h
    · revert ch; decide
    · subst h; decide
    · revert ch; decide
    · subst h; decide
    · have := hpid ch h
      simp only [isWordChar, Bool.and_eq_true, Bool.not_eq_true', decide_eq_true_eq] at this
      exact ⟨this.1.2, this.2⟩
  have hsplit := shlexFrom_of_forall _ hchars [] (by simp)
  simp only [List.isEmpty_nil, if_true, List.nil_append] at hsplit
  rw [shlexSplit, hsplit, hlist, splitWords,
    List.splitOnP_first isShlexSpace _ (by decide) ' ' rfl,
    List.splitOnP_first isShlexSpace _ (by decide) ' ' rfl,
    List.splitOnP_eq_single isShlexSpace _ fun ch h => not_isShlexSpace_of_isWordChar (hpid ch h)]
  simp [show (toString pid).data ≠ [] from hne]

theorem killPidLine_of_pidOf_none {sh : Shell} {pidStr : String} (h : pidOf pidStr = none) :
    killPidLine sh pidStr = ⟨[], .ok ()⟩ := by
  unfold pidOf at h
  cases hp : pyInt (strip pidStr) with
  | error e => simp [killPidLine, hp, Script.tryCatch, Script.lift, isValueError_of_pyInt hp]
  | ok pid => simp [hp, Except.toOption] at h

theorem killPidLine_of_pidOf_some {sh : Shell} {pidStr : String} {pid : ℤ}
    (h : pidOf pidStr = some pid) :
    killPidLine sh pidStr =
      ⟨[.print (killCommand pid), .logInfo ("Running: " ++ killCommand pid), .popen (killCommand pid)],
        if sh.kills pid then .ok () else .error (killFailure sh pid)⟩ := by
  have hp : pyInt (strip pidStr) = .ok pid := by
    unfold pidOf at h
    cases hp : pyInt (strip pidStr) <;> simp_all [Except.toOption]
  rcases hrun : sh.run (killCommand pid) with e | ⟨rc, out, err⟩
  · simp [killPidLine, hp, runCommand_eq _ _ (shlexSplit_killCommand pid), hrun, Script.tryCatch,
      Script.lift, Script.emit, Shell.kills, killFailure, not_isValueError_text, Except.mapError]
  · by_cases hrc : rc = 0 <;>
      simp [killPidLine, hp, runCommand_eq _ _ (shlexSplit_killCommand pid), hrun, hrc,
        Script.tryCatch, Script.lift, Script.emit, Shell.kills, killFailure,
        not_isValueError_killError, Except.mapError]

/-- The loop over the lines kills the pids they hold in order, up to and
including the first kill that fails, and raises that failure. -/
theorem forM_killPidLine (sh : Shell) (lines : List String) :
    ((lines.forM (killPidLine sh)).events.filterMap Effect.popen? =
        ((lines.filterMap pidOf).takeWhile sh.kills ++
          ((lines.filterMap pidOf).dropWhile sh.kills).take 1).map killCommand) ∧
      (lines.forM (killPidLine sh)).result = killOutcome sh ((lines.filterMap pidOf).dropWhile sh.kills) := by
  induction lines with
  | nil => exact ⟨rfl, rfl⟩
  | cons line lines ih =>
      rw [List.forM, List.filterMap_cons]
      cases hpid : pidOf line with
      | none => rw [killPidLine_of_pidOf_none hpid, Script.mk_ok_bind]; exact ih
      | some pid =>
          rw [killPidLine_of_pidOf_some hpid]
          by_cases hkill : sh.kills pid
          · simp only [hkill, if_true, Script.mk_ok_bind, List.filterMap_append, List.takeWhile_cons,
              List.dropWhile_cons, ih.1, ih.2]
            simp [Effect.popen?]
          · simp [hkill, Effect.popen?, killOutcome]

section Kill

variable (sh : Shell) (c : Constants) (port : ℕ) (logger : Bool)

/-- The pids `int()` reads from `lsof`'s output. -/
def listedPids : List ℤ :=
  (pySplit (sh.statusOutput (lsofCommand c.lsofPathLinux port)).2 '\n').filterMap pidOf

/-- The lines of `lsof`'s output. -/
def lsofLines : List String := pySplit (sh.statusOutput (lsofCommand c.lsofPathLinux port)).2 '\n'

theorem killPidsOnPort_of_not_root (hroot : sh.uid ≠ 0) :
    killPidsOnPort sh c port logger =
      ⟨[if logger then .logInfo ("not root user, uid = " ++ toString sh.uid)
          else .print ("not root user, uid = " ++ toString sh.uid)],
        .error "Exception: Cannot call this function unless running as root!"⟩ := by
  simp [killPidsOnPort, hroot, printOrLog, Script.emit, Script.lift]

theorem killPidsOnPort_of_lsof_failed (hroot : sh.uid = 0)
    (hlsof : (sh.statusOutput (lsofCommand c.lsofPathLinux port)).1 ≠ 0) :
    (killPidsOnPort sh c port logger).events.filterMap Effect.popen? = [] ∧
      ∃ e, (killPidsOnPort sh c port logger).result = .error e := by
  simp [killPidsOnPort, hroot, hlsof, Script.emit, Script.lift, Effect.popen?]

theorem killPidsOnPort_of_lsof (hroot : sh.uid = 0)
    (hlsof : (sh.statusOutput (lsofCommand c.lsofPathLinux port)).1 = 0) :
    (killPidsOnPort sh c port logger).events.filterMap Effect.popen? =
        ((lsofLines sh c port).forM (killPidLine sh)).events.filterMap Effect.popen? ∧
      (killPidsOnPort sh c port logger).result =
        ((lsofLines sh c port).forM (killPidLine sh)).result := by
  simp only [killPidsOnPort, hroot, hlsof, ne_eq, not_true_eq_false, if_false, Script.emit,
    Script.pure_eq, Script.mk_ok_bind, List.nil_append, List.filterMap_cons, Effect.popen?,
    lsofLines, List.singleton_append, and_true]

/-- `kill_pids_on_port` runs no command unless it runs as root and `lsof`
succeeded, and every command it runs is `kill -9` of a pid that `int()` read
from a line of `lsof`'s output. -/
theorem killPidsOnPort_popen_only_listed {cmd : String}
    (h : cmd ∈ (killPidsOnPort sh c port logger).events.filterMap Effect.popen?) :
    sh.uid = 0 ∧ (sh.statusOutput (lsofCommand c.lsofPathLinux port)).1 = 0 ∧
      ∃ pid ∈ listedPids sh c port, cmd = killCommand pid := by
  by_cases hroot : sh.uid = 0
  · by_cases hlsof : (sh.statusOutput (lsofCommand c.lsofPathLinux port)).1 = 0
    · refine ⟨hroot, hlsof, ?_⟩
      rw [(killPidsOnPort_of_lsof sh c port logger hroot hlsof).1,
        (forM_killPidLine sh _).1] at h
      obtain ⟨pid, hpid, rfl⟩ := List.mem_map.mp h
      rcases List.mem_append.mp hpid with hpid | hpid
      · exact ⟨pid, (List.takeWhile_prefix _).subset hpid, rfl⟩
      · exact ⟨pid, (List.dropWhile_suffix _).subset (List.mem_of_mem_take hpid), rfl⟩
    · rw [(killPidsOnPort_of_lsof_failed sh c port logger hroot hlsof).1] at h
      cases h
  · rw [killPidsOnPort_of_not_root sh c port logger hroot] at h
    split_ifs at h <;> cases h

end Kill

/-- `lsof` lists `123`, a header and `456`; the kill of `456` fails. -/
def killShell : Shell :=
  ⟨0, fun cmd => .ok (if cmd = killCommand 456 then 1 else 0, "", ""), fun _ => (0, "123\nPID\n456")⟩

theorem killPidsOnPort_popen_only_listed_killShell :
    "kill -9 456" ∈ (killPidsOnPort killShell exampleConstants 5432 false).events.filterMap
        Effect.popen? ∧
      (killShell.uid = 0 ∧ (killShell.statusOutput (lsofCommand exampleConstants.lsofPathLinux 5432)).1 = 0 ∧
        ∃ pid ∈ listedPids killShell exampleConstants 5432, "kill -9 456" = killCommand pid) :=
  have h : "kill -9 456" ∈ (killPidsOnPort killShell exampleConstants 5432 false).events.filterMap
      Effect.popen? := by decide
  ⟨h, killPidsOnPort_popen_only_listed killShell exampleConstants 5432 false h⟩

/-! ## The helpers run as root -/

def checkPidsCommand (c : Constants) (pid : ℕ) : String :=
  "python3 " ++ c.fileCheckPids ++ " " ++ toString pid

/-- `run_check_pids`: whether the helper script, run as root, says the pid
exists; `False` when it fails. -/
def runCheckPids (sh : Shell) (c : Constants) (pid : ℕ) : Script Effect Bool := do
  let cmd := checkPidsCommand c pid
  let (rc, stdout, _) ← runAsRoot sh cmd true
  if rc ≠ 0 then
    Script.emit (.logError ("Error occured in run_check_pid_exists for [PID=" ++ toString pid ++ "]"))
    pure false
  else pure (firstLine stdout = c.commandLineTrue)

def killServerCommand (c : Constants) (port : ℕ) : String :=
  "python3 " ++ c.fileKillServer ++ " " ++ toString port

/-- `run_kill_server`: the helper script, run as root, kills what listens on
the port; a failure raises. -/
def runKillServer (sh : Shell) (c : Constants) (port : ℕ) : Script Effect Unit := do
  let cmd := killServerCommand c port
  let (rc, _, _) ← runAsRoot sh cmd false
  if rc ≠ 0 then
    Script.lift (.error ("Exception: Error occurred in run_kill_server for [PORT=" ++ toString port ++ "]"))

/-! ## Reading and filing memory information -/

/-- `MemoryInfo(rss, vms)`. -/
structure MemoryInfo where
  rss : Option ℤ
  vms : Option ℤ
  deriving DecidableEq, Repr

/-- `int(x) if x else None`. -/
def intOrNone (x : String) : Except String (Option ℤ) :=
  if x = "" then .ok none else (pyInt x).map some

/-- `rss, vms = res_str.split(constants.MEM_INFO_SPLITTER)`, then each field
read with `intOrNone`; unpacking anything but two fields raises. -/
def parseMemInfo (splitter : Char) (resStr : String) : Except String MemoryInfo :=
  match pySplit resStr splitter with
  | [rss, vms] => do
      let rss ← intOrNone rss
      let vms ← intOrNone vms
      pure ⟨rss, vms⟩
  | [_] => .error "ValueError: not enough values to unpack (expected 2, got 1)"
  | _ => .error "ValueError: too many values to unpack (expected 2)"

def collectMemInfoCommand (c : Constants) (pid : ℕ) : String :=
  "python3 " ++ c.fileCollectMemInfo ++ " " ++ toString pid

/-- `run_collect_mem_info`: the reading of the helper script, or `False`
(here `none`) when the helper fails. -/
def runCollectMemInfo (sh : Shell) (c : Constants) (pid : ℕ) :
    Script Effect (Option MemoryInfo) := do
  let cmd := collectMemInfoCommand c pid
  let (rc, stdout, _) ← runCommand sh cmd true
  if rc ≠ 0 then
    Script.emit (.logError ("Error occurred in run_collect_mem_info for [PID=" ++ toString pid ++ "]"))
    pure none
  else
    let memInfo ← Script.lift (parseMemInfo c.memInfoSplitter (firstLine stdout))
    pure (some memInfo)

/-- The text of one field of the helper's line: empty for `None`. -/
def fieldText : Option ℤ → String
  | none => ""
  | some z => toString z

/-- The line that `run_collect_mem_info` reads as `m`. -/
def memInfoLine (splitter : Char) (m : MemoryInfo) : String :=
  fieldText m.rss ++ String.singleton splitter ++ fieldText m.vms

theorem intOrNone_fieldText (o : Option ℤ) : intOrNone (fieldText o) = .ok o := by
  cases o with
  | none => rfl
  | some z => rw [fieldText, intOrNone, if_neg (toString_int_ne_empty z), pyInt_toString]; rfl

/-- The line of the helper round-trips: for a splitter that is neither a digit
nor a minus sign, `parseMemInfo` reads `memInfoLine m` as `m`. -/
theorem parseMemInfo_memInfoLine {splitter : Char} (hdigit : ¬splitter.isDigit)
    (hminus : splitter ≠ '-') (m : MemoryInfo) :
    parseMemInfo splitter (memInfoLine splitter m) = .ok m := by
  have hnot : ∀ o : Option ℤ, splitter ∉ (fieldText o).toList := by
    rintro (_ | z) h
    · cases h
    · rcases mem_toString_int h with h | h
      exacts [hdigit h, hminus h]
  have hsplit : pySplit (memInfoLine splitter m) splitter = [fieldText m.rss, fieldText m.vms] := by
    have h := List.splitOn_intercalate [(fieldText m.rss).toList, (fieldText m.vms).toList] splitter
      (by simpa using ⟨hnot m.rss, hnot m.vms⟩) (by simp)
    have hint : [splitter].intercalate [(fieldText m.rss).toList, (fieldText m.vms).toList] =
        (fieldText m.rss).toList ++ splitter :: (fieldText m.vms).toList := by
      simp [List.intercalate]
    have hline : (memInfoLine splitter m).toList =
        (fieldText m.rss).toList ++ splitter :: (fieldText m.vms).toList := by
      simp [memInfoLine, String.toList]
    rw [pySplit, hline, ← hint, h]
    rfl
  rw [parseMemInfo, hsplit]
  simp only [intOrNone_fieldText, bind, Except.bind, pure, Except.pure]

/-- When `shlex.split` reads the helper's command line as a program and its
arguments, and the helper starts, exits with `0` and prints the line of `m`
first, `run_collect_mem_info` returns `m`, for a splitter that is neither a
digit nor a minus sign. -/
theorem runCollectMemInfo_of_line {sh : Shell} {c : Constants} {pid : ℕ} {m : MemoryInfo}
    {program : String} {args : List String} {out err : String}
    (hdigit : ¬c.memInfoSplitter.isDigit) (hminus : c.memInfoSplitter ≠ '-')
    (hsplit : shlexSplit (collectMemInfoCommand c pid) = .ok (program :: args))
    (hrun : sh.run (collectMemInfoCommand c pid) = .ok (0, out, err))
    (hline : firstLine out = memInfoLine c.memInfoSplitter m) :
    (runCollectMemInfo sh c pid).result = .ok (some m) := by
  simp [runCollectMemInfo, runCommand_eq _ _ hsplit, hrun, hline, Script.lift, Except.mapError,
    parseMemInfo_memInfoLine hdigit hminus]

/-- A helper that prints `1024,2048`. -/
def memInfoShell : Shell :=
  ⟨0, fun _ => .ok (0, "1024,2048\n", ""), fun _ => (0, "")⟩

theorem runCollectMemInfo_of_line_memInfoShell :
    ¬exampleConstants.memInfoSplitter.isDigit ∧ exampleConstants.memInfoSplitter ≠ '-' ∧
      shlexSplit (collectMemInfoCommand exampleConstants 7) =
        .ok ["python3", "collect_mem_info.py", "7"] ∧
      memInfoShell.run (collectMemInfoCommand exampleConstants 7) = .ok (0, "1024,2048\n", "") ∧
      firstLine "1024,2048\n" = memInfoLine exampleConstants.memInfoSplitter ⟨some 1024, some 2048⟩ ∧
      (runCollectMemInfo memInfoShell exampleConstants 7).result = .ok (some ⟨some 1024, some 2048⟩) :=
  have hdigit : ¬exampleConstants.memInfoSplitter.isDigit := by decide
  have hminus : exampleConstants.memInfoSplitter ≠ '-' := by decide
  have hsplit : shlexSplit (collectMemInfoCommand exampleConstants 7) =
      .ok ["python3", "collect_mem_info.py", "7"] := rfl
  have hrun : memInfoShell.run (collectMemInfoCommand exampleConstants 7) =
      .ok (0, "1024,2048\n", "") := rfl
  have hline : firstLine "1024,2048\n" =
      memInfoLine exampleConstants.memInfoSplitter ⟨some 1024, some 2048⟩ := by decide
  ⟨hdigit, hminus, hsplit, hrun, hline, runCollectMemInfo_of_line hdigit hminus hsplit hrun hline⟩

/-- `update_mem_info`: the reading of `run_collect_mem_info`, filed under
`len(mem_info_dict) * interval`. -/
def updateMemInfo (sh : Shell) (c : Constants) (pid interval : ℕ)
    (memInfoDict : List (ℕ × Option MemoryInfo)) :
    Script Effect (List (ℕ × Option MemoryInfo)) := do
  let curr := memInfoDict.length * interval
  let memInfo ← runCollectMemInfo sh c pid
  pure (dictSet memInfoDict curr memInfo)

theorem updateMemInfo_result {sh : Shell} {c : Constants} {pid interval : ℕ}
    {memInfoDict : List (ℕ × Option MemoryInfo)} {r : Option MemoryInfo}
    (h : (runCollectMemInfo sh c pid).result = .ok r) :
    (updateMemInfo sh c pid interval memInfoDict).result =
      .ok (dictSet memInfoDict (memInfoDict.length * interval) r) :=
  Script.result_bind_of_ok h _

/-- The keys of a dict that holds one reading per interval: `0`, `interval`,
`2 * interval`, and so on, in order. -/
def SampledEvery {α : Type} (interval : ℕ) (memInfoDict : List (ℕ × α)) : Prop :=
  memInfoDict.map Prod.fst = (List.range memInfoDict.length).map (· * interval)

theorem dictSet_of_not_mem {κ ν : Type} [BEq κ] [LawfulBEq κ] {d : List (κ × ν)} {k : κ}
    (h : k ∉ d.map Prod.fst) (v : ν) : dictSet d k v = d ++ [(k, v)] := by
  induction d with
  | nil => rfl
  | cons e d ih =>
      obtain ⟨k₀, v₀⟩ := e
      have hk : k₀ ≠ k := fun hk => h (hk ▸ List.mem_cons_self _ _)
      rw [dictSet, if_neg (by simpa using hk), ih (fun hd => h (List.mem_cons_of_mem _ hd))]
      rfl

/-- With a positive interval, the key of the next reading is new: the reading
is appended, and the dict still holds one reading per interval. -/
theorem SampledEvery.dictSet {α : Type} {interval : ℕ} {d : List (ℕ × α)}
    (hd : SampledEvery interval d) (hpos : 0 < interval) (v : α) :
    dictSet d (d.length * interval) v = d ++ [(d.length * interval, v)] ∧
      SampledEvery interval (d ++ [(d.length * interval, v)]) := by
  have hnew : d.length * interval ∉ d.map Prod.fst := by
    rw [hd]
    simp only [List.mem_map, List.mem_range, not_exists, not_and]
    intro i hi heq
    exact absurd heq (Nat.ne_of_lt (Nat.mul_lt_mul_of_pos_right hi hpos))
  refine ⟨dictSet_of_not_mem hnew v, ?_⟩
  unfold SampledEvery at hd ⊢
  rw [List.length_append, List.length_singleton, List.range_succ, List.map_append, List.map_append,
    hd]
  rfl

section Sampling

variable {c : Constants} {pid interval : ℕ}

/-- The readings of `run_collect_mem_info` on each machine state, in order. -/
def Collects (c : Constants) (pid : ℕ) (shs : List Shell) (readings : List (Option MemoryInfo)) :
    Prop :=
  List.Forall₂ (fun sh r => (runCollectMemInfo sh c pid).result = .ok r) shs readings

theorem foldlM_updateMemInfo_sampled (hpos : 0 < interval) {shs : List Shell}
    {readings : List (Option MemoryInfo)} (h : Collects c pid shs readings) :
    ∀ d, SampledEvery interval d → ∃ d',
      (shs.foldlM (fun d sh => updateMemInfo sh c pid interval d) d).result = .ok d' ∧
        SampledEvery interval d' ∧ d'.map Prod.snd = d.map Prod.snd ++ readings := by
  induction h with
  | nil => exact fun d hd => ⟨d, rfl, hd, (List.append_nil _).symm⟩
  | @cons sh r shs readings hr _ ih =>
      intro d hd
      obtain ⟨hset, hd'⟩ := hd.dictSet hpos r
      obtain ⟨d', hrun, hsampled, hsnd⟩ := ih _ hd'
      refine ⟨d', ?_, hsampled, by simp [hsnd]⟩
      rw [List.foldlM_cons, Script.result_bind_of_ok (updateMemInfo_result hr), hset, hrun]

/-- Called once per reading from an empty dict with a positive interval,
`update_mem_info` keeps every reading, in order, under the time it was taken:
`0`, `interval`, `2 * interval`, and so on. -/
theorem updateMemInfo_keeps_every_reading (hpos : 0 < interval) {shs : List Shell}
    {readings : List (Option MemoryInfo)} (h : Collects c pid shs readings) :
    (shs.foldlM (fun d sh => updateMemInfo sh c pid interval d) []).result =
      .ok (((List.range readings.length).map (· * interval)).zip readings) := by
  obtain ⟨d, hrun, hsampled, hsnd⟩ := foldlM_updateMemInfo_sampled hpos h [] rfl
  rw [List.map_nil, List.nil_append] at hsnd
  rw [hrun, ← hsnd, List.length_map, ← hsampled, ← List.unzip_fst, ← List.unzip_snd,
    List.zip_unzip]

theorem memInfoShell_collects :
    Collects exampleConstants 7 [memInfoShell, memInfoShell]
      [some ⟨some 1024, some 2048⟩, some ⟨some 1024, some 2048⟩] :=
  have h : (runCollectMemInfo memInfoShell exampleConstants 7).result =
      .ok (some ⟨some 1024, some 2048⟩) := rfl
  .cons h (.cons h .nil)

theorem updateMemInfo_keeps_every_reading_memInfoShell :
    0 < 5 ∧ Collects exampleConstants 7 [memInfoShell, memInfoShell]
        [some ⟨some 1024, some 2048⟩, some ⟨some 1024, some 2048⟩] ∧
      ([memInfoShell, memInfoShell].foldlM
          (fun d sh => updateMemInfo sh exampleConstants 7 5 d) []).result =
        .ok (((List.range 2).map (· * 5)).zip
          [some ⟨some 1024, some 2048⟩, some ⟨some 1024, some 2048⟩]) :=
  ⟨by decide, memInfoShell_collects,
    updateMemInfo_keeps_every_reading (by decide) memInfoShell_collects⟩

end Sampling

end Testing
end TerrierScript
