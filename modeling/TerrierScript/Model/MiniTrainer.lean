import Mathlib.Data.Rat.Defs
import Mathlib.Algebra.Order.Ring.Rat
import TerrierScript.Script
import TerrierScript.MicroBench.ArtifactProcessor

/-!
# The mini-model trainer

`MiniTrainer.train` trains, for every operating unit of the mini-runner data,
one regressor per pair of a target transformer and a learning method, writes
each one's percentage errors to the unit's metrics file, and keeps in
`model_map` the regressor whose test error on `ELAPSED_US` is the smallest
seen so far below a running bound that starts at `1`, counting only the
regressors of the last transformer of the unit's list.

Training, prediction and the percentage errors are external: an oracle gives,
for every unit and candidate, the error vectors on the train and test splits
and the test predictions.  Indexing a test error vector past its end raises
`IndexError`, which nothing catches.

Whatever else `train` calls outside the script may raise too, and nothing
catches that either: `train_test_split` on a unit's data, the subscripts of
the tables of `data_transform` and `data_info` (which are not in the sources)
for the unit and for `ELAPSED_US`, building, training and evaluating a
regressor, and each call to the writers of `training_util` and `io_util`.
`TrainerFailures` says which of these raise, and with what.
-/

namespace TerrierScript
namespace Model

open MicroBench (dictSet)

/-- A mini-runner data entry: its operating unit and the samples `x`, `y`
that only the external training reads. -/
structure OpUnitData (OpUnit X : Type) where
  opunit : OpUnit
  samples : X

/-- The regressor `model.Model(method, modeling_transformer=transformer)`,
named by its transformer (`None` or one) and its method. -/
structure Regressor (Tf : Type) where
  transformer : Option Tf
  method : String
  deriving DecidableEq, Repr

/-- What training a regressor of a unit on the train split and predicting on
both splits yields: the `percentage_error` vectors and the test `y_pred`. -/
structure Evaluation (Pred : Type) where
  trainError : List ℚ
  testError : List ℚ
  testPrediction : Pred

/-- The external calls of `train`. -/
inductive TrainerCall (Pred : Type) where
  | createMetricsAndPredictionFiles (metricsPath predictionPath : String)
  | writeCsvResult (path label : String) (results : List (Option ℚ))
  | recordPredictions (predResults : Option Pred) (predictionPath : String)
  deriving DecidableEq, Repr

/-- What raises outside the script, and with which exception: `none` where
the call returns.  `trainRaises` covers `model.Model(...)`, `train`, both
`predict`s and the percentage errors of a regressor. -/
structure TrainerFailures (OpUnit X Tf Pred : Type) where
  splitRaises : OpUnitData OpUnit X → Option String
  transformerKeyError : OpUnit → Option String
  elapsedUsKeyError : Option String
  trainRaises : OpUnitData OpUnit X → Option Tf → String → Option String
  callRaises : TrainerCall Pred → Option String

/-- Nothing outside the script raises. -/
def TrainerFailures.never {OpUnit X Tf Pred : Type} : TrainerFailures OpUnit X Tf Pred :=
  ⟨fun _ => none, fun _ => none, none, fun _ _ _ => none, fun _ => none⟩

/-- Raise the exception a call raises, if it raises. -/
def raiseIf : Option String → Except String Unit
  | some e => .error e
  | none => .ok ()

/-- The `IndexError` numpy raises for `a[index]` on a vector of `size` entries. -/
def indexError (index size : ℕ) : String :=
  "IndexError: index " ++ toString index ++ " is out of bounds for axis 0 with size " ++
    toString size

/-- A `MiniTrainer` with the tables of `data_info` and `data_transform` it
reads: the arithmetic units, the modelling transformer of each unit, the
column of `ELAPSED_US`, and the name of each unit. -/
structure MiniTrainer (OpUnit Tf : Type) where
  modelMetricsPath : String
  mlModels : List String
  arithmeticOpunits : List OpUnit
  opunitModelingTrainsformerMap : OpUnit → Option Tf
  elapsedUsIndex : ℕ
  opunitName : OpUnit → String

/-- The locals and the result `train` carries through its loops. -/
structure TrainState (OpUnit Tf Pred : Type) where
  modelMap : List (OpUnit × Regressor Tf)
  minPercentageError : ℚ
  predResults : Option Pred
  calls : List (TrainerCall Pred)

variable {OpUnit X Tf Pred : Type}

def TrainState.log (st : TrainState OpUnit Tf Pred) (c : TrainerCall Pred) :
    TrainState OpUnit Tf Pred :=
  { st with calls := st.calls ++ [c] }

@[simp] theorem TrainState.log_modelMap (st : TrainState OpUnit Tf Pred) (c : TrainerCall Pred) :
    (st.log c).modelMap = st.modelMap := rfl

@[simp] theorem TrainState.log_minPercentageError (st : TrainState OpUnit Tf Pred)
    (c : TrainerCall Pred) : (st.log c).minPercentageError = st.minPercentageError := rfl

@[simp] theorem TrainState.log_predResults (st : TrainState OpUnit Tf Pred) (c : TrainerCall Pred) :
    (st.log c).predResults = st.predResults := rfl

@[simp] theorem TrainState.log_calls (st : TrainState OpUnit Tf Pred) (c : TrainerCall Pred) :
    (st.log c).calls = st.calls ++ [c] := rfl

/-- A call to a writer: it raises, or it is made. -/
def TrainState.call (fails : TrainerFailures OpUnit X Tf Pred) (st : TrainState OpUnit Tf Pred)
    (c : TrainerCall Pred) : Except String (TrainState OpUnit Tf Pred) := do
  raiseIf (fails.callRaises c)
  pure (st.log c)

@[simp] theorem raiseIf_none : raiseIf none = .ok () := rfl

@[simp] theorem TrainState.call_of_none {fails : TrainerFailures OpUnit X Tf Pred}
    {c : TrainerCall Pred} (h : fails.callRaises c = none) (st : TrainState OpUnit Tf Pred) :
    st.call fails c = .ok (st.log c) := by
  simp only [TrainState.call, h]
  rfl

namespace MiniTrainer

variable [DecidableEq OpUnit] [DecidableEq Tf] (trainer : MiniTrainer OpUnit Tf)
  (evaluate : OpUnitData OpUnit X → Option Tf → String → Evaluation Pred)
  (fails : TrainerFailures OpUnit X Tf Pred)

/-- `str.lower()`, character by character. -/
def lower (s : String) : String := String.mk (s.toList.map Char.toLower)

/-- The `results` row of a regressor: the train errors, a blank cell, the test
errors, a blank cell. -/
def resultsRow (ev : Evaluation Pred) : List (Option ℚ) :=
  ev.trainError.map some ++ [none] ++ ev.testError.map some ++ [none]

def transformLabel (transformer : Option Tf) : String :=
  if transformer.isSome then " transform" else " "

/-- The body of `for method in methods`: train, evaluate on both splits,
record the regressor if its test `ELAPSED_US` error beats the bound and its
transformer is the last one, and write its row. -/
def trainMethod (data : OpUnitData OpUnit X) (metricsPath : String)
    (lastTransformer : Option (Option Tf)) (transformer : Option Tf)
    (st : TrainState OpUnit Tf Pred) (method : String) :
    Except String (TrainState OpUnit Tf Pred) := do
  raiseIf (fails.trainRaises data transformer method)
  let ev := evaluate data transformer method
  match ev.testError[trainer.elapsedUsIndex]? with
  | none => .error (indexError trainer.elapsedUsIndex ev.testError.length)
  | some err =>
      let st :=
        if err < st.minPercentageError ∧ some transformer = lastTransformer then
          { st with minPercentageError := err,
                    modelMap := dictSet st.modelMap data.opunit ⟨transformer, method⟩,
                    predResults := some ev.testPrediction }
        else st
      st.call fails (.writeCsvResult metricsPath (method ++ transformLabel transformer)
        (resultsRow ev))

/-- The body of `for transformer in transformers`. -/
def trainTransformer (data : OpUnitData OpUnit X) (metricsPath : String) (methods : List String)
    (lastTransformer : Option (Option Tf)) (st : TrainState OpUnit Tf Pred)
    (transformer : Option Tf) : Except String (TrainState OpUnit Tf Pred) := do
  let st ← methods.foldlM (trainer.trainMethod evaluate fails data metricsPath lastTransformer
    transformer) st
  st.call fails (.writeCsvResult metricsPath "" [])

def methodsOf (opunit : OpUnit) : List String :=
  if opunit ∈ trainer.arithmeticOpunits then ["lr"] else trainer.mlModels

def transformersOf (opunit : OpUnit) : List (Option Tf) :=
  none :: (trainer.opunitModelingTrainsformerMap opunit).toList.map some

def metricsPathOf (opunit : OpUnit) : String :=
  trainer.modelMetricsPath ++ "/" ++ lower (trainer.opunitName opunit) ++ ".csv"

def predictionPathOf (opunit : OpUnit) : String :=
  trainer.modelMetricsPath ++ "/" ++ lower (trainer.opunitName opunit) ++ "_prediction.csv"

/-- The body of `for data in data_list`. -/
def trainOpunit (st : TrainState OpUnit Tf Pred) (data : OpUnitData OpUnit X) :
    Except String (TrainState OpUnit Tf Pred) := do
  raiseIf (fails.splitRaises data)
  let metricsPath := trainer.metricsPathOf data.opunit
  let predictionPath := trainer.predictionPathOf data.opunit
  let st ← st.call fails (.createMetricsAndPredictionFiles metricsPath predictionPath)
  raiseIf (fails.transformerKeyError data.opunit)
  let transformers := trainer.transformersOf data.opunit
  let st := { st with minPercentageError := 1, predResults := none }
  raiseIf fails.elapsedUsKeyError
  let st ← transformers.foldlM (trainer.trainTransformer evaluate fails data metricsPath
    (trainer.methodsOf data.opunit) transformers.getLast?) st
  st.call fails (.recordPredictions st.predResults predictionPath)

/-- `train` over the operating units of the mini-runner data, in order: the
returned `model_map` and the external calls made. -/
def train (dataList : List (OpUnitData OpUnit X)) :
    Except String (List (OpUnit × Regressor Tf) × List (TrainerCall Pred)) := do
  let st ← dataList.foldlM (trainer.trainOpunit evaluate fails) ⟨[], 1, none, []⟩
  pure (st.modelMap, st.calls)

end MiniTrainer

/-- One arithmetic-free unit trained with linear regression only. -/
def seqScanTrainer : MiniTrainer String String :=
  ⟨"results", ["lr"], [], fun _ => none, 0, id⟩

/-- The only candidate of the unit predicts `ELAPSED_US` with a test error of
200 %. -/
def poorFit : OpUnitData String Unit → Option String → String → Evaluation (List ℚ) :=
  fun _ _ _ => ⟨[1 / 2], [2], [5]⟩

/-- A unit whose every candidate errs by 1 or more never beats the initial
bound: it is left out of `model_map`, and `record_predictions` gets `None`. -/
theorem train_poorFit_leaves_unit_out :
    seqScanTrainer.train poorFit .never [⟨"SEQ_SCAN", ()⟩] =
      .ok ([], [.createMetricsAndPredictionFiles "results/seq_scan.csv"
          "results/seq_scan_prediction.csv",
        .writeCsvResult "results/seq_scan.csv" "lr " [some (1 / 2), none, some 2, none],
        .writeCsvResult "results/seq_scan.csv" "" [],
        .recordPredictions none "results/seq_scan_prediction.csv"]) := by
  have hlower : MiniTrainer.lower "SEQ_SCAN" = "seq_scan" := by decide
  simp [MiniTrainer.train, MiniTrainer.trainOpunit, MiniTrainer.trainTransformer,
    MiniTrainer.trainMethod, MiniTrainer.transformersOf, MiniTrainer.methodsOf,
    MiniTrainer.resultsRow, MiniTrainer.transformLabel, MiniTrainer.metricsPathOf,
    MiniTrainer.predictionPathOf, TrainState.log, TrainState.call, TrainerFailures.never, raiseIf,
    seqScanTrainer, poorFit, hlower, bind, Except.bind, pure, Except.pure]

end Model
end TerrierScript
