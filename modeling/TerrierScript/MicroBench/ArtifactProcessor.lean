import Mathlib.Data.List.Nodup
import Mathlib.Algebra.Order.Field.Basic
import Mathlib.Tactic.NormNum

/-!
# Summary statistics of Google Benchmark artifacts

`run_micro_bench.py` reads the JSON output of Google Benchmark, builds one
`GBBenchResult` per benchmark entry, and groups the entries of every artifact
file it is given by `(suite_name, test_name)` in an `ArtifactProcessor`.  Each
group is a `GBBenchResultProcessor` that checks the names and the time unit of
every result against the first one and accumulates a count, a sum of times and
a value of `items_per_second`.

The script is Python 2: `json` reads a number with a fraction or an exponent
as a `float` and any other as an `int`, and `/` floor-divides two `int`s.
Floats are exact rationals.  A Python exception ends the script (nothing
catches it), so a failing step returns `Except.error` with the exception's
text and no state.

`GBBenchResult.__init__` copies every key of the entry onto the object with
`setattr`.  A key named like an attribute or a method of the object would
replace it (and `attrs`, `__class__` or a method called later would raise), and
Python 2 encodes the name as ASCII.  A `BenchEntry` carries as fields that its
keys do neither, so on every entry of the model the copy only adds the entry's
own keys.
-/

namespace TerrierScript
namespace MicroBench

/-! ## Inverting successful `Except` computations -/

theorem bind_eq_ok {α β ε : Type} {x : Except ε α} {f : α → Except ε β} {b : β} :
    x >>= f = .ok b ↔ ∃ a, x = .ok a ∧ f a = .ok b := by
  cases x <;> simp [bind, Except.bind]

theorem pure_eq_ok {α ε : Type} {a b : α} : (pure a : Except ε α) = .ok b ↔ a = b := by
  simp [pure, Except.pure]

theorem mapM_cons_eq_ok {α β ε : Type} {f : α → Except ε β} {a : α} {as : List α}
    {bs : List β} (h : (a :: as).mapM f = .ok bs) :
    ∃ b bs', f a = .ok b ∧ as.mapM f = .ok bs' ∧ bs = b :: bs' := by
  simp only [List.mapM_cons, bind_eq_ok, pure_eq_ok] at h
  obtain ⟨b, hb, bs', hbs', rfl⟩ := h
  exact ⟨b, bs', hb, hbs', rfl⟩

/-! ## The benchmark results -/

/-- A JSON number as Python 2's `json` reads it. -/
inductive PyNum
  | int (n : ℤ)
  | float (q : ℚ)
  deriving DecidableEq, Repr

def PyNum.toRat : PyNum → ℚ
  | .int n => n
  | .float q => q

/-- `x / n` for a positive `int` `n`: floor division when `x` is an `int`. -/
def PyNum.divNat (x : PyNum) (n : ℕ) : ℚ :=
  match x with
  | .int m => ((m / (n : ℤ) : ℤ) : ℚ)
  | .float q => q / n

/-- Python 2's `str` of a number, with `strFloat` for a float. -/
def PyNum.str (strFloat : ℚ → String) : PyNum → String
  | .int n => toString n
  | .float q => strFloat q

/-- The names a `GBBenchResult` has besides the keys of its entry's numeric
fields: `name` and `time_unit`, the attributes `__init__` and `_process_name`
set, the methods of the class, and the attributes of every Python 2 object. -/
def reservedKeys : List String :=
  ["name", "time_unit", "attrs", "suite_name", "test_name", "time_type", "_process_name",
    "get_suite_name", "get_test_name", "get_time", "get_time_unit", "get_items_per_second",
    "__init__", "__str__", "__class__", "__delattr__", "__dict__", "__doc__", "__format__",
    "__getattribute__", "__hash__", "__module__", "__new__", "__reduce__", "__reduce_ex__",
    "__repr__", "__setattr__", "__sizeof__", "__subclasshook__", "__weakref__"]

/-- A key that `setattr` adds to the object as a new attribute: ASCII, and
not one of its names. -/
def PlainKey (k : String) : Prop := (∀ c ∈ k.toList, c.toNat < 128) ∧ k ∉ reservedKeys

instance : DecidablePred PlainKey := fun _ => inferInstanceAs (Decidable (_ ∧ _))

/-- One entry of the `benchmarks` list of a JSON artifact: its `name`, its
`time_unit`, and its numeric fields (`real_time`, `cpu_time`,
`items_per_second`, `iterations`, ...), a dict with plain keys. -/
structure BenchEntry where
  name : String
  timeUnit : String
  fields : List (String × PyNum)
  nodup : (fields.map Prod.fst).Nodup
  plain : ∀ k ∈ fields.map Prod.fst, PlainKey k
  deriving DecidableEq, Repr

/-- `str.split("/")`. -/
def splitName (name : String) : List String := (name.toList.splitOn '/').map String.mk

/-- A `GBBenchResult`: the entry with the names `_process_name` set. -/
structure GBBenchResult where
  entry : BenchEntry
  suiteName : String
  testName : String
  timeType : Option String
  deriving DecidableEq, Repr

/-- `GBBenchResult.__init__`, which runs `_process_name`: `parts[1]` raises on
a name of one part, and `time_type` is set only for a name of three parts. -/
def GBBenchResult.ofEntry (entry : BenchEntry) : Except String GBBenchResult :=
  match splitName entry.name with
  | suiteName :: testName :: rest =>
      .ok ⟨entry, suiteName, testName, if rest.length = 1 then rest.head? else none⟩
  | _ => .error "IndexError: list index out of range"

/-! ### Benchmark names -/

/-- `getattr(self, attr)` for an attribute of the object that no plain key
can name: the Python 2 type of its value, if the object has it. -/
def GBBenchResult.reservedType (r : GBBenchResult) (attr : String) : Option String :=
  if attr ∈ ["name", "time_unit", "suite_name", "test_name"] then some "unicode"
  else if attr = "time_type" then r.timeType.map fun _ => "unicode"
  else if attr = "attrs" then some "set"
  else if attr ∈ ["_process_name", "get_suite_name", "get_test_name", "get_time",
      "get_time_unit", "get_items_per_second", "__init__", "__str__"] then some "instancemethod"
  else if attr = "__class__" then some "type"
  else if attr = "__dict__" then some "dict"
  else if attr ∈ ["__doc__", "__module__"] then some "str"
  else if attr = "__weakref__" then some "NoneType"
  else if attr ∈ ["__delattr__", "__getattribute__", "__hash__", "__repr__", "__setattr__"] then
    some "method-wrapper"
  else if attr ∈ ["__format__", "__new__", "__reduce__", "__reduce_ex__", "__sizeof__",
      "__subclasshook__"] then some "builtin_function_or_method"
  else none

/-- A value `getattr` returns: a numeric field, or another attribute, of the
type named. -/
inductive AttrValue
  | num (v : PyNum)
  | other (typeName : String)
  deriving DecidableEq, Repr

def attributeError (attr : String) : String :=
  "AttributeError: 'GBBenchResult' object has no attribute '" ++ attr ++ "'"

/-- `getattr(self, attr)`. -/
def GBBenchResult.getattr (r : GBBenchResult) (attr : String) : Except String AttrValue :=
  match r.entry.fields.lookup attr with
  | some v => .ok (.num v)
  | none =>
      match r.reservedType attr with
      | some typeName => .ok (.other typeName)
      | none => .error (attributeError attr)

/-- `getattr(self, time_attr)`, where `time_attr` is the third part of the name
or `cpu_time`. -/
def GBBenchResult.getTime (r : GBBenchResult) : Except String AttrValue :=
  r.getattr (r.timeType.getD "cpu_time")

/-- `self.items_per_second`: a plain key, so a numeric field or nothing. -/
def GBBenchResult.getItemsPerSecond (r : GBBenchResult) : Except String PyNum :=
  match r.entry.fields.lookup "items_per_second" with
  | some v => .ok v
  | none => .error (attributeError "items_per_second")

/-- `sum += value` on a float: a number adds, any other value raises. -/
def addToFloat (sum : ℚ) : AttrValue → Except String ℚ
  | .num v => .ok (sum + v.toRat)
  | .other typeName =>
      .error ("TypeError: unsupported operand type(s) for +=: 'float' and '" ++ typeName ++ "'")

def GBBenchResult.key (r : GBBenchResult) : String × String := (r.suiteName, r.testName)

structure GBBenchResultProcessor where
  testSuite : Option String
  testName : Option String
  timeUnit : Option String
  numResults : ℕ
  sumTime : ℚ
  sumItemsPerSecond : PyNum
  deriving DecidableEq, Repr

def GBBenchResultProcessor.init : GBBenchResultProcessor := ⟨none, none, none, 0, 0, .float 0⟩

/-- Python truthiness of an attribute that is `None` or a string. -/
def truthy : Option String → Bool
  | some s => !s.isEmpty
  | none => false

/-- `if self.x: assert(self.x == v)  else: self.x = v`. -/
def checkOrSet (field : Option String) (v : String) : Except String (Option String) :=
  if truthy field then
    if field = some v then .ok field else .error "AssertionError"
  else .ok (some v)

@[simp] theorem checkOrSet_none (v : String) : checkOrSet none v = .ok (some v) := rfl

/-- A field already holding the value passes its check, whether or not it is truthy. -/
@[simp] theorem checkOrSet_some_self (v : String) : checkOrSet (some v) v = .ok (some v) := by
  unfold checkOrSet
  split <;> simp

/-- `add_gbresult`.  The time is added to `sum_time`, but `items_per_second`
is assigned to `sum_items_per_second`, not added. -/
def GBBenchResultProcessor.addGbresult (p : GBBenchResultProcessor) (r : GBBenchResult) :
    Except String GBBenchResultProcessor := do
  let testSuite ← checkOrSet p.testSuite r.suiteName
  let testName ← checkOrSet p.testName r.testName
  let timeUnit ← checkOrSet p.timeUnit r.entry.timeUnit
  let time ← r.getTime
  let sumTime ← addToFloat p.sumTime time
  let itemsPerSecond ← r.getItemsPerSecond
  pure ⟨testSuite, testName, timeUnit, p.numResults + 1, sumTime, itemsPerSecond⟩

/-- `sum_time / num_results`: `sum_time` starts as `0.0`, so a float. -/
def GBBenchResultProcessor.getMeanTime (p : GBBenchResultProcessor) : ℚ :=
  p.sumTime / p.numResults

def GBBenchResultProcessor.getMeanItemsPerSecond (p : GBBenchResultProcessor) : ℚ :=
  p.sumItemsPerSecond.divNat p.numResults

def GBBenchResultProcessor.getNumItems (p : GBBenchResultProcessor) : ℕ := p.numResults

def GBBenchResultProcessor.getSuiteName (p : GBBenchResultProcessor) : Option String :=
  p.testSuite

def GBBenchResultProcessor.getTestName (p : GBBenchResultProcessor) : Option String := p.testName

def GBBenchResultProcessor.getTimeUnit (p : GBBenchResultProcessor) : Option String := p.timeUnit

/-- `d[k] = v` on a dict kept as a list of pairs in insertion order. -/
def dictSet {κ ν : Type} [BEq κ] : List (κ × ν) → κ → ν → List (κ × ν)
  | [], k, v => [(k, v)]
  | (k', v') :: rest, k, v => if k' == k then (k, v) :: rest else (k', v') :: dictSet rest k v

theorem lookup_cons_of_ne {κ ν : Type} [BEq κ] [LawfulBEq κ] {k k' : κ} {v : ν}
    {es : List (κ × ν)} (h : k' ≠ k) : ((k, v) :: es).lookup k' = es.lookup k' := by
  simp [List.lookup_cons, beq_eq_false_iff_ne.mpr h]

@[simp] theorem lookup_dictSet {κ ν : Type} [BEq κ] [LawfulBEq κ] (d : List (κ × ν))
    (k k' : κ) (v : ν) : (dictSet d k v).lookup k' = if k' == k then some v else d.lookup k' := by
  induction d with
  | nil => by_cases h : k' = k <;> simp [dictSet, h, lookup_cons_of_ne]
  | cons e d ih =>
      obtain ⟨k₀, v₀⟩ := e
      by_cases h₀ : k₀ = k
      · subst h₀
        by_cases h : k' = k₀ <;> simp [dictSet, h, lookup_cons_of_ne]
      · by_cases h : k' = k₀
        · subst h
          simp [dictSet, h₀]
        · simp_all [dictSet, lookup_cons_of_ne]

/-- Setting a key twice keeps the second value. -/
@[simp] theorem dictSet_dictSet_self {κ ν : Type} [BEq κ] [LawfulBEq κ] (d : List (κ × ν))
    (k : κ) (v v' : ν) : dictSet (dictSet d k v) k v' = dictSet d k v' := by
  induction d with
  | nil => simp [dictSet]
  | cons e d ih =>
      obtain ⟨k₀, v₀⟩ := e
      by_cases h₀ : k₀ = k
      · subst h₀
        simp [dictSet]
      · simp [dictSet, h₀, ih]

/-- An entry of the dict after `d[k] = v` is the new one or an old one. -/
theorem mem_dictSet {κ ν : Type} [BEq κ] [LawfulBEq κ] {d : List (κ × ν)} {k : κ} {v : ν}
    {e : κ × ν} (he : e ∈ dictSet d k v) : e = (k, v) ∨ e ∈ d := by
  induction d with
  | nil => simpa [dictSet] using he
  | cons e₀ d ih =>
      obtain ⟨k₀, v₀⟩ := e₀
      by_cases h₀ : k₀ = k
      · simp only [dictSet, h₀, beq_self_eq_true, if_true, List.mem_cons] at he
        exact he.imp_right (.tail _)
      · simp only [dictSet, beq_false_of_ne h₀, Bool.false_eq_true, if_false,
          List.mem_cons] at he
        rcases he with rfl | he
        · exact .inr (.head _)
        · exact (ih he).imp_right (.tail _)

/-- `d[k] = v` keeps the keys in place and appends a new key at the end. -/
theorem map_fst_dictSet {κ ν : Type} [BEq κ] [LawfulBEq κ] (d : List (κ × ν)) (k : κ)
    (v : ν) :
    (dictSet d k v).map Prod.fst =
      if k ∈ d.map Prod.fst then d.map Prod.fst else d.map Prod.fst ++ [k] := by
  induction d with
  | nil => simp [dictSet]
  | cons e d ih =>
      obtain ⟨k₀, v₀⟩ := e
      by_cases h₀ : k₀ = k
      · simp [dictSet, h₀]
      · simp only [dictSet, beq_false_of_ne h₀, Bool.false_eq_true, if_false, List.map_cons, ih,
          List.mem_cons, Ne.symm h₀, false_or]
        split_ifs <;> rfl

theorem nodup_map_fst_dictSet {κ ν : Type} [BEq κ] [LawfulBEq κ] {d : List (κ × ν)} (k : κ)
    (v : ν) (h : (d.map Prod.fst).Nodup) : ((dictSet d k v).map Prod.fst).Nodup := by
  rw [map_fst_dictSet]
  split_ifs with hk
  · exact h
  · exact h.append (List.nodup_singleton k) (List.disjoint_singleton.mpr hk)

structure ArtifactProcessor where
  results : List ((String × String) × GBBenchResultProcessor)
  deriving DecidableEq, Repr

def ArtifactProcessor.init : ArtifactProcessor := ⟨[]⟩

/-- One iteration of the loop of `add_artifact_file`: get or create the
processor of the result's key and add the result to it. -/
def ArtifactProcessor.addBenchResult (ap : ArtifactProcessor) (r : GBBenchResult) :
    Except String ArtifactProcessor := do
  let p := (ap.results.lookup r.key).getD .init
  let p ← p.addGbresult r
  pure ⟨dictSet ap.results r.key p⟩

/-- `add_artifact_file`: `GBResult` builds every `GBBenchResult` of the file
first, then the loop adds them in order. -/
def ArtifactProcessor.addArtifactFile (ap : ArtifactProcessor) (data : List BenchEntry) :
    Except String ArtifactProcessor := do
  let benchmarks ← data.mapM GBBenchResult.ofEntry
  benchmarks.foldlM ArtifactProcessor.addBenchResult ap

def ArtifactProcessor.getResult (ap : ArtifactProcessor) (suiteName testName : String) :
    Except String GBBenchResultProcessor :=
  match ap.results.lookup (suiteName, testName) with
  | some p => .ok p
  | none =>
      .error ("RuntimeError: key ('" ++ suiteName ++ "', '" ++ testName ++ "') not present")

/-- The artifact files of the builds, added one after another to one processor. -/
def addArtifactFiles (files : List (List BenchEntry)) : Except String ArtifactProcessor :=
  files.foldlM ArtifactProcessor.addArtifactFile .init

/-- The entry of the benchmark `Suite/Test` in one build: `1.0` millisecond of
CPU time and the given float `items_per_second`. -/
def buildEntry (itemsPerSecond : ℚ) : BenchEntry :=
  ⟨"Suite/Test", "ms", [("cpu_time", .float 1), ("items_per_second", .float itemsPerSecond)],
    (by decide : ["cpu_time", "items_per_second"].Nodup),
    (by decide : ∀ k ∈ ["cpu_time", "items_per_second"], PlainKey k)⟩

/-- Two builds whose `items_per_second` are `1.0` and `3.0`: the processor
reports `1.5`, the last value over the count, where the mean is `2.0`. -/
theorem addArtifactFiles_two_builds_items_per_second :
    ((addArtifactFiles [[buildEntry 1], [buildEntry 3]]).bind
      fun ap => ap.getResult "Suite" "Test").map
      (fun p => (p.getNumItems, p.getMeanTime, p.getMeanItemsPerSecond)) = .ok (2, 1, 3 / 2) := by
  have hsplit : splitName "Suite/Test" = ["Suite", "Test"] := by decide
  simp [addArtifactFiles, ArtifactProcessor.addArtifactFile, GBBenchResult.ofEntry, buildEntry,
    hsplit, ArtifactProcessor.addBenchResult, ArtifactProcessor.init, GBBenchResult.key,
    GBBenchResultProcessor.addGbresult, checkOrSet, truthy, GBBenchResult.getTime,
    GBBenchResult.getItemsPerSecond, GBBenchResult.getattr, addToFloat, PyNum.toRat,
    PyNum.divNat, GBBenchResultProcessor.init, dictSet,
    ArtifactProcessor.getResult, GBBenchResultProcessor.getNumItems,
    GBBenchResultProcessor.getMeanTime, GBBenchResultProcessor.getMeanItemsPerSecond, bind,
    Except.bind, Except.map, pure, Except.pure, List.mapM.loop, List.foldlM, List.lookup_cons]

end MicroBench
end TerrierScript
