import Mathlib.Order.Basic
import Mathlib.Algebra.Order.Ring.Rat
import TerrierScript.Model.MiniTrainer

/-!
# The selection loop of the trainer

The abstract scan `selectBelow` keeps a running bound and the element that set
it, replacing both whenever an element's error is strictly below the bound.
From the bound `m₀` it ends either where it started, when no element beats
`m₀`, or at the first element of least error, when that error is below `m₀`.
The trainer's loop over the methods of a unit's last transformer is this scan
from the bound `1`; the loops over other transformers leave it unchanged.
-/

namespace TerrierScript
namespace Model

section Scan

variable {α : Type} (err : α → ℚ)

/-- `best` is the first element of `cands` at which `err` is least: strictly
below every element before it, at most every element after it. -/
def IsFirstMin (cands : List α) (best : α) : Prop :=
  ∃ pre post, cands = pre ++ best :: post ∧ (∀ c ∈ pre, err best < err c) ∧
    ∀ c ∈ post, err best ≤ err c

def selectStep (state : ℚ × Option α) (c : α) : ℚ × Option α :=
  if err c < state.1 then (err c, some c) else state

/-- The running-minimum scan from a bound and a current choice. -/
def selectBelow (state : ℚ × Option α) (cands : List α) : ℚ × Option α :=
  cands.foldl (selectStep err) state

theorem IsFirstMin.cons_of_lt {c b : α} {cs : List α} (hb : IsFirstMin err cs b)
    (hlt : err b < err c) : IsFirstMin err (c :: cs) b := by
  obtain ⟨pre, post, rfl, hpre, hpost⟩ := hb
  exact ⟨c :: pre, post, rfl, by simpa [hlt] using hpre, hpost⟩

theorem IsFirstMin.head {c : α} {cs : List α} (hc : ∀ c' ∈ cs, err c ≤ err c') :
    IsFirstMin err (c :: cs) c :=
  ⟨[], cs, rfl, by simp, hc⟩

/-- The scan either keeps its state, when nothing beats the bound, or ends at
the first least element, whose error is below the bound. -/
theorem selectBelow_spec (cands : List α) (m₀ : ℚ) (b₀ : Option α) :
    ((∀ c ∈ cands, m₀ ≤ err c) ∧ selectBelow err (m₀, b₀) cands = (m₀, b₀)) ∨
      ∃ b, IsFirstMin err cands b ∧ err b < m₀ ∧
        selectBelow err (m₀, b₀) cands = (err b, some b) := by
  induction cands generalizing m₀ b₀ with
  | nil => exact .inl ⟨by simp, rfl⟩
  | cons c cs ih =>
      simp only [selectBelow, List.foldl_cons, selectStep]
      by_cases hc : err c < m₀
      · rw [if_pos hc]
        rcases ih (err c) (some c) with ⟨hall, heq⟩ | ⟨b, hb, hlt, heq⟩
        · exact .inr ⟨c, IsFirstMin.head err hall, hc, heq⟩
        · exact .inr ⟨b, hb.cons_of_lt err hlt, hlt.trans hc, heq⟩
      · rw [if_neg hc]
        have hc : m₀ ≤ err c := not_lt.mp hc
        rcases ih m₀ b₀ with ⟨hall, heq⟩ | ⟨b, hb, hlt, heq⟩
        · exact .inl ⟨by simpa [hc] using hall, heq⟩
        · exact .inr ⟨b, hb.cons_of_lt err (hlt.trans_le hc), hlt, heq⟩

end Scan

section OkOrError

variable {β ε : Type}

/-- `x` returns when `P` holds, and otherwise raises an exception that `E`
allows. -/
def OkOrError (P : Prop) (E : ε → Prop) (x : Except ε β) : Prop :=
  (P ∧ ∃ b, x = .ok b) ∨ (¬P ∧ ∃ e, E e ∧ x = .error e)

theorem OkOrError.imp {P P' : Prop} {E E' : ε → Prop} {x : Except ε β} (hP : P ↔ P')
    (hE : ∀ e, E e → E' e) (h : OkOrError P E x) : OkOrError P' E' x := by
  rcases h with ⟨hp, hx⟩ | ⟨hp, e, he, hx⟩
  · exact .inl ⟨hP.mp hp, hx⟩
  · exact .inr ⟨mt hP.mpr hp, e, hE e he, hx⟩

/-- A step that returns when `P` holds, then one that returns when `Q` holds
(which it may know from `P` and the value of the first). -/
theorem OkOrError.bind {γ : Type} {P Q : Prop} {E₁ E₂ : ε → Prop} {x : Except ε β}
    {f : β → Except ε γ} (hx : OkOrError P E₁ x) (hf : P → ∀ b, x = .ok b → OkOrError Q E₂ (f b)) :
    OkOrError (P ∧ Q) (fun e => E₁ e ∨ E₂ e) (x >>= f) := by
  rcases hx with ⟨hp, b, rfl⟩ | ⟨hp, e, he, rfl⟩
  · rcases hf hp b rfl with ⟨hq, c, hc⟩ | ⟨hq, e, he, hc⟩
    · exact .inl ⟨⟨hp, hq⟩, c, hc⟩
    · exact .inr ⟨fun h => hq h.2, e, .inr he, hc⟩
  · exact .inr ⟨fun h => hp h.1, e, .inl he, rfl⟩

theorem OkOrError.map {γ : Type} {P : Prop} {E : ε → Prop} {x : Except ε β} (g : β → γ)
    (h : OkOrError P E x) : OkOrError P E (x >>= fun b => pure (g b)) := by
  rcases h with ⟨hP, b, rfl⟩ | ⟨hP, e, he, rfl⟩
  · exact .inl ⟨hP, g b, rfl⟩
  · exact .inr ⟨hP, e, he, rfl⟩

/-- A fold whose step returns on the elements satisfying `P` and raises what
`E` allows on the others returns exactly when every element satisfies `P`. -/
theorem foldlM_okOrError {α : Type} {f : β → α → Except ε β} {P : α → Prop} {E : α → ε → Prop}
    (hstep : ∀ s a, OkOrError (P a) (E a) (f s a)) (l : List α) (b : β) :
    OkOrError (∀ a ∈ l, P a) (fun e => ∃ a ∈ l, E a e) (l.foldlM f b) := by
  induction l generalizing b with
  | nil => exact .inl ⟨by simp, b, rfl⟩
  | cons a as ih =>
      rw [List.foldlM_cons]
      refine ((hstep b a).bind fun _ s _ => ih s).imp List.forall_mem_cons.symm ?_
      rintro e (he | ⟨a', ha', he⟩)
      exacts [⟨a, .head _, he⟩, ⟨a', .tail _ ha', he⟩]

end OkOrError

theorem raiseIf_okOrError (o : Option String) :
    OkOrError (o = none) (fun e => o = some e) (raiseIf o) := by
  cases o
  · exact .inl ⟨rfl, (), rfl⟩
  · exact .inr ⟨nofun, _, rfl, rfl⟩

theorem TrainState.call_okOrError {OpUnit X Tf Pred : Type}
    (fails : TrainerFailures OpUnit X Tf Pred) (st : TrainState OpUnit Tf Pred)
    (c : TrainerCall Pred) :
    OkOrError (fails.callRaises c = none) (fun e => fails.callRaises c = some e)
      (st.call fails c) :=
  ((raiseIf_okOrError _).bind fun _ _ _ => .inl ⟨trivial, _, rfl⟩).imp ⟨And.left, fun h => ⟨h, trivial⟩⟩
    fun _ he => he.elim id False.elim

namespace MiniTrainer

open MicroBench (dictSet)

variable {OpUnit X Tf Pred : Type} [DecidableEq OpUnit] [DecidableEq Tf]
  (trainer : MiniTrainer OpUnit Tf)
  (evaluate : OpUnitData OpUnit X → Option Tf → String → Evaluation Pred)
  (fails : TrainerFailures OpUnit X Tf Pred)

/-- The test `ELAPSED_US` percentage error of a regressor. -/
def elapsedError (data : OpUnitData OpUnit X) (transformer : Option Tf) (method : String) : ℚ :=
  (evaluate data transformer method).testError.getD trainer.elapsedUsIndex 0

/-- The row `trainMethod` writes for a regressor. -/
def rowCall (data : OpUnitData OpUnit X) (metricsPath : String) (transformer : Option Tf)
    (method : String) : TrainerCall Pred :=
  .writeCsvResult metricsPath (method ++ transformLabel transformer)
    (resultsRow (evaluate data transformer method))

/-- The trainer's locals follow a state of the scan over the methods of the
last transformer `lastT`: the bound is the scan's, and the scan's choice is
the regressor of the unit in `model_map` and its predictions in
`pred_results`. -/
def Tracks (data : OpUnitData OpUnit X) (lastT : Option Tf)
    (modelMap₀ : List (OpUnit × Regressor Tf)) (st : TrainState OpUnit Tf Pred)
    (state : ℚ × Option String) : Prop :=
  st.minPercentageError = state.1 ∧
    st.predResults = state.2.map (fun m => (evaluate data lastT m).testPrediction) ∧
    st.modelMap = state.2.elim modelMap₀ fun m => dictSet modelMap₀ data.opunit ⟨lastT, m⟩

/-- The method of the regressor the trainer keeps for a unit: the scan from
the bound `1` over the unit's methods, with the unit's modelling transformer,
the last of its transformers. -/
def chosenMethod (data : OpUnitData OpUnit X) : Option String :=
  (selectBelow (trainer.elapsedError evaluate data
    (trainer.opunitModelingTrainsformerMap data.opunit)) (1, none)
    (trainer.methodsOf data.opunit)).2

/-- `pred_results` after a unit: the test predictions of the chosen regressor. -/
def chosenPredictions (data : OpUnitData OpUnit X) : Option Pred :=
  (trainer.chosenMethod evaluate data).map fun m =>
    (evaluate data (trainer.opunitModelingTrainsformerMap data.opunit) m).testPrediction

/-- `model_map` after a unit: the unit's entry set to the chosen regressor, if
there is one. -/
def recordChoice (modelMap : List (OpUnit × Regressor Tf)) (data : OpUnitData OpUnit X) :
    List (OpUnit × Regressor Tf) :=
  (trainer.chosenMethod evaluate data).elim modelMap fun m =>
    dictSet modelMap data.opunit ⟨trainer.opunitModelingTrainsformerMap data.opunit, m⟩

/-- The calls of the loops over a unit's transformers and methods: a row per
regressor and a blank row per transformer. -/
def loopCalls (data : OpUnitData OpUnit X) : List (TrainerCall Pred) :=
  (trainer.transformersOf data.opunit).flatMap fun t =>
    (trainer.methodsOf data.opunit).map (rowCall evaluate data (trainer.metricsPathOf data.opunit) t) ++
      [.writeCsvResult (trainer.metricsPathOf data.opunit) "" []]

/-- The external calls of the loop body for one unit: the files, the loops'
rows, and the predictions of the chosen regressor. -/
def unitCalls (data : OpUnitData OpUnit X) : List (TrainerCall Pred) :=
  .createMetricsAndPredictionFiles (trainer.metricsPathOf data.opunit)
      (trainer.predictionPathOf data.opunit) ::
    trainer.loopCalls evaluate data ++
    [.recordPredictions (trainer.chosenPredictions evaluate data)
      (trainer.predictionPathOf data.opunit)]

/-- Every regressor of the unit has a test error on `ELAPSED_US`. -/
def IndexesElapsed (data : OpUnitData OpUnit X) : Prop :=
  ∀ t ∈ trainer.transformersOf data.opunit, ∀ m ∈ trainer.methodsOf data.opunit,
    trainer.elapsedUsIndex < (evaluate data t m).testError.length

instance (data : OpUnitData OpUnit X) : Decidable (trainer.IndexesElapsed evaluate data) :=
  inferInstanceAs (Decidable (∀ t ∈ trainer.transformersOf data.opunit,
    ∀ m ∈ trainer.methodsOf data.opunit,
      trainer.elapsedUsIndex < (evaluate data t m).testError.length))

/-- Nothing the loop body for a unit calls outside the script raises:
`train_test_split`, the two table subscripts, the training and evaluation of
each of its regressors, and each call it makes to the writers. -/
def NothingRaises (data : OpUnitData OpUnit X) : Prop :=
  fails.splitRaises data = none ∧ fails.transformerKeyError data.opunit = none ∧
    fails.elapsedUsKeyError = none ∧
    (∀ t ∈ trainer.transformersOf data.opunit, ∀ m ∈ trainer.methodsOf data.opunit,
      fails.trainRaises data t m = none) ∧
    ∀ c ∈ trainer.unitCalls evaluate data, fails.callRaises c = none

/-- The exceptions the loop body for a unit can raise: what raises outside the
script at one of its points, or the `IndexError` of a regressor whose test
error vector has no entry for `ELAPSED_US`. -/
def RaisedBy (data : OpUnitData OpUnit X) (e : String) : Prop :=
  fails.splitRaises data = some e ∨ fails.transformerKeyError data.opunit = some e ∨
    fails.elapsedUsKeyError = some e ∨
    (∃ t ∈ trainer.transformersOf data.opunit, ∃ m ∈ trainer.methodsOf data.opunit,
      fails.trainRaises data t m = some e ∨
        (evaluate data t m).testError.length ≤ trainer.elapsedUsIndex ∧
          e = indexError trainer.elapsedUsIndex (evaluate data t m).testError.length) ∨
    ∃ c ∈ trainer.unitCalls evaluate data, fails.callRaises c = some e

/-- A regressor is trained and evaluated, its test error vector has an entry
for `ELAPSED_US`, and its row is written. -/
def MethodReturns (data : OpUnitData OpUnit X) (metricsPath : String) (t : Option Tf)
    (m : String) : Prop :=
  fails.trainRaises data t m = none ∧
    trainer.elapsedUsIndex < (evaluate data t m).testError.length ∧
    fails.callRaises (rowCall evaluate data metricsPath t m) = none

variable {trainer evaluate fails}

section Calls

variable {data : OpUnitData OpUnit X}

omit [DecidableEq Tf] in
theorem rowCall_mem_loopCalls {t : Option Tf} {m : String}
    (ht : t ∈ trainer.transformersOf data.opunit) (hm : m ∈ trainer.methodsOf data.opunit) :
    rowCall evaluate data (trainer.metricsPathOf data.opunit) t m ∈
      trainer.loopCalls evaluate data :=
  List.mem_flatMap.mpr ⟨t, ht, List.mem_append_left _ (List.mem_map_of_mem _ hm)⟩

omit [DecidableEq Tf] in
theorem blank_mem_loopCalls :
    .writeCsvResult (trainer.metricsPathOf data.opunit) "" [] ∈ trainer.loopCalls evaluate data :=
  List.mem_flatMap.mpr ⟨none, List.mem_cons_self _ _, List.mem_append_right _ (.head _)⟩

omit [DecidableEq Tf] in
theorem forall_mem_loopCalls {P : TrainerCall Pred → Prop} :
    (∀ c ∈ trainer.loopCalls evaluate data, P c) ↔
      (∀ t ∈ trainer.transformersOf data.opunit, ∀ m ∈ trainer.methodsOf data.opunit,
        P (rowCall evaluate data (trainer.metricsPathOf data.opunit) t m)) ∧
      P (.writeCsvResult (trainer.metricsPathOf data.opunit) "" []) := by
  refine ⟨fun h => ⟨fun t ht m hm => h _ (rowCall_mem_loopCalls ht hm), h _ blank_mem_loopCalls⟩,
    fun ⟨hrow, hblank⟩ c hc => ?_⟩
  obtain ⟨t, ht, hc⟩ := List.mem_flatMap.mp hc
  rcases List.mem_append.mp hc with hc | hc
  · obtain ⟨m, hm, rfl⟩ := List.mem_map.mp hc
    exact hrow t ht m hm
  · rw [List.mem_singleton.mp hc]
    exact hblank

omit [DecidableEq Tf] in
theorem mem_unitCalls {c : TrainerCall Pred} :
    c ∈ trainer.unitCalls evaluate data ↔
      c = .createMetricsAndPredictionFiles (trainer.metricsPathOf data.opunit)
          (trainer.predictionPathOf data.opunit) ∨
        c ∈ trainer.loopCalls evaluate data ∨
        c = .recordPredictions (trainer.chosenPredictions evaluate data)
          (trainer.predictionPathOf data.opunit) := by
  simp [unitCalls, or_assoc]

end Calls

omit [DecidableEq OpUnit] [DecidableEq Tf] in
theorem testError_getElem? {data : OpUnitData OpUnit X} {t : Option Tf} {method : String}
    (hidx : trainer.elapsedUsIndex < (evaluate data t method).testError.length) :
    (evaluate data t method).testError[trainer.elapsedUsIndex]? =
      some (trainer.elapsedError evaluate data t method) := by
  simp [elapsedError, List.getD_eq_getElem?_getD, List.getElem?_eq_getElem hidx]

/-! ### Runs in which the unit's regressors and calls return -/

/-- A regressor of the last transformer is one step of the scan. -/
theorem trainMethod_last {data : OpUnitData OpUnit X} (metricsPath : String) {lastT : Option Tf}
    {st : TrainState OpUnit Tf Pred} {method : String} {state : ℚ × Option String}
    {modelMap₀ : List (OpUnit × Regressor Tf)}
    (hret : trainer.MethodReturns evaluate fails data metricsPath lastT method)
    (htrack : Tracks evaluate data lastT modelMap₀ st state) :
    ∃ st', trainer.trainMethod evaluate fails data metricsPath (some lastT) lastT st method =
        .ok st' ∧
      Tracks evaluate data lastT modelMap₀ st'
        (selectStep (trainer.elapsedError evaluate data lastT) state method) ∧
      st'.calls = st.calls ++ [rowCall evaluate data metricsPath lastT method] := by
  obtain ⟨hraise, hidx, hcall⟩ := hret
  obtain ⟨hmin, hpred, hmap⟩ := htrack
  simp only [trainMethod, hraise, raiseIf_none, except_ok_bind, testError_getElem? hidx,
    selectStep, ← hmin, and_true]
  split_ifs with hlt
  · refine ⟨_, TrainState.call_of_none hcall _, ⟨rfl, rfl, ?_⟩, rfl⟩
    cases hb : state.2 <;> simp [hmap, hb]
  · exact ⟨_, TrainState.call_of_none hcall _, ⟨hmin, hpred, hmap⟩, rfl⟩

/-- A regressor of another transformer only writes its row. -/
theorem trainMethod_not_last {data : OpUnitData OpUnit X} {metricsPath : String}
    {lastT t : Option Tf} {st : TrainState OpUnit Tf Pred} {method : String}
    (hret : trainer.MethodReturns evaluate fails data metricsPath t method) (ht : t ≠ lastT) :
    trainer.trainMethod evaluate fails data metricsPath (some lastT) t st method =
      .ok (st.log (rowCall evaluate data metricsPath t method)) := by
  simp only [trainMethod, hret.1, raiseIf_none, except_ok_bind, testError_getElem? hret.2.1,
    Option.some.injEq, ht, and_false, if_false]
  exact TrainState.call_of_none hret.2.2 _

/-- The methods of the last transformer run the scan. -/
theorem foldlM_trainMethod_last {data : OpUnitData OpUnit X} (metricsPath : String)
    {lastT : Option Tf} {modelMap₀ : List (OpUnit × Regressor Tf)} (methods : List String)
    {st : TrainState OpUnit Tf Pred} {state : ℚ × Option String}
    (hret : ∀ m ∈ methods, trainer.MethodReturns evaluate fails data metricsPath lastT m)
    (htrack : Tracks evaluate data lastT modelMap₀ st state) :
    ∃ st', methods.foldlM
        (trainer.trainMethod evaluate fails data metricsPath (some lastT) lastT) st = .ok st' ∧
      Tracks evaluate data lastT modelMap₀ st'
        (selectBelow (trainer.elapsedError evaluate data lastT) state methods) ∧
      st'.calls = st.calls ++ methods.map (rowCall evaluate data metricsPath lastT) := by
  induction methods generalizing st state with
  | nil => exact ⟨st, rfl, htrack, by simp⟩
  | cons m ms ih =>
      obtain ⟨st₁, h₁, htrack₁, hcalls₁⟩ := trainMethod_last metricsPath (hret m (.head _)) htrack
      obtain ⟨st', h', htrack', hcalls'⟩ := ih (fun m' hm' => hret m' (.tail _ hm')) htrack₁
      refine ⟨st', ?_, htrack', by simp [hcalls', hcalls₁]⟩
      rw [List.foldlM_cons, h₁]
      exact h'

/-- The methods of any other transformer only write their rows. -/
theorem foldlM_trainMethod_not_last {data : OpUnitData OpUnit X} {metricsPath : String}
    {lastT t : Option Tf} (methods : List String) {st : TrainState OpUnit Tf Pred}
    (hret : ∀ m ∈ methods, trainer.MethodReturns evaluate fails data metricsPath t m)
    (ht : t ≠ lastT) :
    methods.foldlM (trainer.trainMethod evaluate fails data metricsPath (some lastT) t) st =
      .ok { st with calls := st.calls ++ methods.map (rowCall evaluate data metricsPath t) } := by
  induction methods generalizing st with
  | nil => simp [pure, Except.pure]
  | cons m ms ih =>
      rw [List.foldlM_cons, trainMethod_not_last (hret m (.head _)) ht, except_ok_bind,
        ih fun m' hm' => hret m' (.tail _ hm')]
      simp [TrainState.log]

/-- The body of the loop over transformers, for the last transformer. -/
theorem trainTransformer_last {data : OpUnitData OpUnit X} (metricsPath : String)
    {methods : List String} {lastT : Option Tf} {modelMap₀ : List (OpUnit × Regressor Tf)}
    {st : TrainState OpUnit Tf Pred} {state : ℚ × Option String}
    (hret : ∀ m ∈ methods, trainer.MethodReturns evaluate fails data metricsPath lastT m)
    (hblank : fails.callRaises (.writeCsvResult metricsPath "" []) = none)
    (htrack : Tracks evaluate data lastT modelMap₀ st state) :
    ∃ st', trainer.trainTransformer evaluate fails data metricsPath methods (some lastT) st lastT =
        .ok st' ∧
      Tracks evaluate data lastT modelMap₀ st'
        (selectBelow (trainer.elapsedError evaluate data lastT) state methods) ∧
      st'.calls = st.calls ++ methods.map (rowCall evaluate data metricsPath lastT) ++
        [.writeCsvResult metricsPath "" []] := by
  obtain ⟨st₁, h₁, htrack₁, hcalls₁⟩ := foldlM_trainMethod_last metricsPath methods hret htrack
  exact ⟨st₁.log (.writeCsvResult metricsPath "" []),
    by rw [trainTransformer, h₁, except_ok_bind, TrainState.call_of_none hblank], htrack₁,
    by simp [hcalls₁]⟩

/-- The body of the loop over transformers, for another transformer. -/
theorem trainTransformer_not_last {data : OpUnitData OpUnit X} {metricsPath : String}
    {methods : List String} {lastT t : Option Tf} {st : TrainState OpUnit Tf Pred}
    (hret : ∀ m ∈ methods, trainer.MethodReturns evaluate fails data metricsPath t m)
    (hblank : fails.callRaises (.writeCsvResult metricsPath "" []) = none) (ht : t ≠ lastT) :
    trainer.trainTransformer evaluate fails data metricsPath methods (some lastT) st t =
      .ok { st with calls := st.calls ++ methods.map (rowCall evaluate data metricsPath t) ++
        [.writeCsvResult metricsPath "" []] } := by
  rw [trainTransformer, foldlM_trainMethod_not_last methods hret ht, except_ok_bind,
    TrainState.call_of_none hblank]
  rfl

/-- The loop over a unit's transformers, whose last one, `lastT`, occurs only
at the end. -/
theorem foldlM_trainTransformer {data : OpUnitData OpUnit X} (metricsPath : String)
    {methods : List String} {lastT : Option Tf} {modelMap₀ : List (OpUnit × Regressor Tf)}
    {pre : List (Option Tf)} (hpre : lastT ∉ pre)
    (hret : ∀ t ∈ pre ++ [lastT], ∀ m ∈ methods,
      trainer.MethodReturns evaluate fails data metricsPath t m)
    (hblank : fails.callRaises (.writeCsvResult metricsPath "" []) = none)
    {st : TrainState OpUnit Tf Pred} {state : ℚ × Option String}
    (htrack : Tracks evaluate data lastT modelMap₀ st state) :
    ∃ st', (pre ++ [lastT]).foldlM
        (trainer.trainTransformer evaluate fails data metricsPath methods (some lastT)) st =
          .ok st' ∧
      Tracks evaluate data lastT modelMap₀ st'
        (selectBelow (trainer.elapsedError evaluate data lastT) state methods) ∧
      st'.calls = st.calls ++ (pre ++ [lastT]).flatMap fun t =>
        methods.map (rowCall evaluate data metricsPath t) ++
          [.writeCsvResult metricsPath "" []] := by
  induction pre generalizing st with
  | nil =>
      obtain ⟨st', h', htrack', hcalls'⟩ :=
        trainTransformer_last metricsPath (hret lastT (by simp)) hblank htrack
      refine ⟨st', ?_, htrack', by simp [hcalls']⟩
      rw [List.nil_append, List.foldlM_cons, h']
      rfl
  | cons t pre ih =>
      have htrack₁ : Tracks evaluate data lastT modelMap₀
          { st with calls := st.calls ++ methods.map (rowCall evaluate data metricsPath t) ++
              [.writeCsvResult metricsPath "" []] } state :=
        htrack
      obtain ⟨st', h', htrack', hcalls'⟩ := ih (List.not_mem_of_not_mem_cons hpre)
        (fun t' ht' => hret t' (.tail _ ht')) htrack₁
      refine ⟨st', ?_, htrack', by simp [hcalls']⟩
      rw [List.cons_append, List.foldlM_cons,
        trainTransformer_not_last (hret t (.head _)) hblank (List.ne_of_not_mem_cons hpre).symm]
      exact h'

omit [DecidableEq OpUnit] [DecidableEq Tf] in
/-- The transformers of a unit end with its modelling transformer, which
occurs nowhere else. -/
theorem transformersOf_eq_append (u : OpUnit) :
    ∃ pre, trainer.transformersOf u = pre ++ [trainer.opunitModelingTrainsformerMap u] ∧
      trainer.opunitModelingTrainsformerMap u ∉ pre := by
  cases h : trainer.opunitModelingTrainsformerMap u with
  | none => exact ⟨[], by simp [transformersOf, h], by simp⟩
  | some t => exact ⟨[none], by simp [transformersOf, h], by simp⟩

/-- The loops over a unit's transformers and methods, from the bound `1`:
`model_map` and `pred_results` end at the unit's choice. -/
theorem foldlM_trainTransformer_unit (st : TrainState OpUnit Tf Pred)
    {data : OpUnitData OpUnit X}
    (hret : ∀ t ∈ trainer.transformersOf data.opunit, ∀ m ∈ trainer.methodsOf data.opunit,
      trainer.MethodReturns evaluate fails data (trainer.metricsPathOf data.opunit) t m)
    (hblank : fails.callRaises (.writeCsvResult (trainer.metricsPathOf data.opunit) "" []) = none) :
    ∃ st', (trainer.transformersOf data.opunit).foldlM
        (trainer.trainTransformer evaluate fails data (trainer.metricsPathOf data.opunit)
          (trainer.methodsOf data.opunit) (trainer.transformersOf data.opunit).getLast?)
        { st with minPercentageError := 1, predResults := none } = .ok st' ∧
      st'.predResults = trainer.chosenPredictions evaluate data ∧
      st'.modelMap = trainer.recordChoice evaluate st.modelMap data ∧
      st'.calls = st.calls ++ trainer.loopCalls evaluate data := by
  obtain ⟨pre, hts, hpre⟩ := trainer.transformersOf_eq_append data.opunit
  have htrack₀ : Tracks evaluate data (trainer.opunitModelingTrainsformerMap data.opunit)
      st.modelMap { st with minPercentageError := 1, predResults := none } (1, none) :=
    ⟨rfl, rfl, rfl⟩
  obtain ⟨st', h', ⟨-, hpred, hmm⟩, hcalls⟩ := foldlM_trainTransformer
    (trainer.metricsPathOf data.opunit) hpre (hts ▸ hret) hblank htrack₀
  refine ⟨st', by rw [hts, List.getLast?_concat]; exact h', hpred, hmm, ?_⟩
  rw [hcalls, loopCalls, hts]

/-- One unit whose regressors and calls return: its entry of `model_map` is
set to the chosen regressor, if any, and it makes the calls of `unitCalls`. -/
theorem trainOpunit_eq (st : TrainState OpUnit Tf Pred) {data : OpUnitData OpUnit X}
    (hidx : trainer.IndexesElapsed evaluate data)
    (hquiet : trainer.NothingRaises evaluate fails data) :
    ∃ st', trainer.trainOpunit evaluate fails st data = .ok st' ∧
      st'.modelMap = trainer.recordChoice evaluate st.modelMap data ∧
      st'.calls = st.calls ++ trainer.unitCalls evaluate data := by
  obtain ⟨hsplit, hkey, helapsed, hraise, hcalls⟩ := hquiet
  have hloop (c) (hc : c ∈ trainer.loopCalls evaluate data) := hcalls c (mem_unitCalls.mpr (.inr (.inl hc)))
  obtain ⟨st₁, h₁, hpred, hmm, hcalls₁⟩ := foldlM_trainTransformer_unit
    (st.log (.createMetricsAndPredictionFiles (trainer.metricsPathOf data.opunit)
      (trainer.predictionPathOf data.opunit)))
    (fun t ht m hm => ⟨hraise t ht m hm, hidx t ht m hm, hloop _ (rowCall_mem_loopCalls ht hm)⟩)
    (hloop _ blank_mem_loopCalls)
  refine ⟨st₁.log (.recordPredictions st₁.predResults (trainer.predictionPathOf data.opunit)),
    ?_, by simp [hmm], by simp [hcalls₁, unitCalls, hpred]⟩
  simp only [trainOpunit, hsplit, hkey, helapsed, raiseIf_none, except_ok_bind,
    TrainState.call_of_none (hcalls _ (mem_unitCalls.mpr (.inl rfl))), h₁, hpred,
    TrainState.call_of_none (hcalls _ (mem_unitCalls.mpr (.inr (.inr rfl))))]

/-- The loop over the units of the mini-runner data. -/
theorem foldlM_trainOpunit (dataList : List (OpUnitData OpUnit X))
    (hidx : ∀ data ∈ dataList, trainer.IndexesElapsed evaluate data)
    (hquiet : ∀ data ∈ dataList, trainer.NothingRaises evaluate fails data)
    (st : TrainState OpUnit Tf Pred) :
    ∃ st', dataList.foldlM (trainer.trainOpunit evaluate fails) st = .ok st' ∧
      st'.modelMap = dataList.foldl (trainer.recordChoice evaluate) st.modelMap ∧
      st'.calls = st.calls ++ dataList.flatMap (trainer.unitCalls evaluate) := by
  induction dataList generalizing st with
  | nil => exact ⟨st, rfl, rfl, by simp⟩
  | cons data ds ih =>
      obtain ⟨st₁, h₁, hmap₁, hcalls₁⟩ := trainOpunit_eq st (hidx data (.head _))
        (hquiet data (.head _))
      obtain ⟨st', h', hmap', hcalls'⟩ :=
        ih (fun d hd => hidx d (.tail _ hd)) (fun d hd => hquiet d (.tail _ hd)) st₁
      refine ⟨st', ?_, by simp [hmap', hmap₁], by simp [hcalls', hcalls₁]⟩
      rw [List.foldlM_cons, h₁]
      exact h'

/-- When every regressor has a test error on `ELAPSED_US` and nothing outside
the script raises, `train` returns `model_map` with each unit's choice
recorded in turn and makes the units' calls in order. -/
theorem train_eq (dataList : List (OpUnitData OpUnit X))
    (hidx : ∀ data ∈ dataList, trainer.IndexesElapsed evaluate data)
    (hquiet : ∀ data ∈ dataList, trainer.NothingRaises evaluate fails data) :
    trainer.train evaluate fails dataList =
      .ok (dataList.foldl (trainer.recordChoice evaluate) [],
        dataList.flatMap (trainer.unitCalls evaluate)) := by
  obtain ⟨st', h', hmap', hcalls'⟩ := foldlM_trainOpunit dataList hidx hquiet ⟨[], 1, none, []⟩
  calc trainer.train evaluate fails dataList = .ok (st'.modelMap, st'.calls) := by
        simp only [train, h']
        rfl
    _ = _ := by
        rw [hmap', hcalls']
        rfl

/-! ### When `train` raises -/

theorem trainMethod_okOrError (data : OpUnitData OpUnit X) (metricsPath : String)
    (lastTransformer : Option (Option Tf)) (t : Option Tf) (st : TrainState OpUnit Tf Pred)
    (m : String) :
    OkOrError (trainer.MethodReturns evaluate fails data metricsPath t m)
      (fun e => fails.trainRaises data t m = some e ∨
        (evaluate data t m).testError.length ≤ trainer.elapsedUsIndex ∧
          e = indexError trainer.elapsedUsIndex (evaluate data t m).testError.length ∨
        fails.callRaises (rowCall evaluate data metricsPath t m) = some e)
          (trainer.trainMethod evaluate fails data metricsPath lastTransformer t st m) := by
  rcases hraise : fails.trainRaises data t m with _ | e
  · by_cases hidx : trainer.elapsedUsIndex < (evaluate data t m).testError.length
    · simp only [trainMethod, hraise, raiseIf_none, except_ok_bind, testError_getElem? hidx]
      exact (TrainState.call_okOrError fails _ _).imp ⟨fun h => ⟨hraise, hidx, h⟩, fun h => h.2.2⟩
        fun _ he => .inr (.inr he)
    · refine .inr ⟨fun h => hidx h.2.1, _, .inr (.inl ⟨not_lt.mp hidx, rfl⟩), ?_⟩
      simp [trainMethod, hraise, List.getElem?_eq_none (not_lt.mp hidx)]
  · exact .inr ⟨(fun h => nomatch hraise.symm.trans h.1), e, .inl rfl,
      by simp [trainMethod, hraise, raiseIf]⟩

theorem trainTransformer_okOrError (data : OpUnitData OpUnit X) (metricsPath : String)
    (methods : List String) (lastTransformer : Option (Option Tf)) (st : TrainState OpUnit Tf Pred)
    (t : Option Tf) :
    OkOrError ((∀ m ∈ methods, trainer.MethodReturns evaluate fails data metricsPath t m) ∧
        fails.callRaises (.writeCsvResult metricsPath "" []) = none)
      (fun e => (∃ m ∈ methods, fails.trainRaises data t m = some e ∨
          (evaluate data t m).testError.length ≤ trainer.elapsedUsIndex ∧
            e = indexError trainer.elapsedUsIndex (evaluate data t m).testError.length ∨
          fails.callRaises (rowCall evaluate data metricsPath t m) = some e) ∨
        fails.callRaises (.writeCsvResult metricsPath "" []) = some e)
      (trainer.trainTransformer evaluate fails data metricsPath methods lastTransformer st t) :=
  (foldlM_okOrError (fun s m => trainMethod_okOrError data metricsPath lastTransformer t s m)
    methods st).bind fun _ s _ => TrainState.call_okOrError fails s _

omit [DecidableEq OpUnit] [DecidableEq Tf] in
theorem none_mem_transformersOf (u : OpUnit) : none ∈ trainer.transformersOf u :=
  List.mem_cons_self _ _

/-- The call that ends a unit, `record_predictions`, after the loops over its
transformers from the bound `1`: the loops leave `pred_results` at the unit's
chosen predictions, so it returns exactly when that call does. -/
theorem recordPredictions_okOrError {data : OpUnitData OpUnit X} (st₁ : TrainState OpUnit Tf Pred)
    (hloops : ∀ t ∈ trainer.transformersOf data.opunit,
      (∀ m ∈ trainer.methodsOf data.opunit,
        trainer.MethodReturns evaluate fails data (trainer.metricsPathOf data.opunit) t m) ∧
      fails.callRaises (.writeCsvResult (trainer.metricsPathOf data.opunit) "" []) = none)
    {st₂ : TrainState OpUnit Tf Pred}
    (h₂ : (trainer.transformersOf data.opunit).foldlM
        (trainer.trainTransformer evaluate fails data (trainer.metricsPathOf data.opunit)
          (trainer.methodsOf data.opunit) (trainer.transformersOf data.opunit).getLast?)
        { st₁ with minPercentageError := 1, predResults := none } = .ok st₂) :
    OkOrError (fails.callRaises (.recordPredictions (trainer.chosenPredictions evaluate data)
        (trainer.predictionPathOf data.opunit)) = none)
      (fun e => fails.callRaises (.recordPredictions (trainer.chosenPredictions evaluate data)
        (trainer.predictionPathOf data.opunit)) = some e)
      (st₂.call fails (.recordPredictions st₂.predResults (trainer.predictionPathOf data.opunit))) := by
  obtain ⟨st', h', hpred, -, -⟩ := foldlM_trainTransformer_unit st₁
    (fun t ht => (hloops t ht).1) (hloops none (none_mem_transformersOf _)).2
  obtain rfl : st₂ = st' := Except.ok.inj (h₂.symm.trans h')
  rw [hpred]
  exact TrainState.call_okOrError fails _ _

/-- The loop body for a unit returns exactly when every regressor has a test
error on `ELAPSED_US` and nothing it calls outside the script raises, and
otherwise raises one of the exceptions of `RaisedBy`. -/
theorem trainOpunit_okOrError (st : TrainState OpUnit Tf Pred) (data : OpUnitData OpUnit X) :
    OkOrError (trainer.IndexesElapsed evaluate data ∧ trainer.NothingRaises evaluate fails data)
      (trainer.RaisedBy evaluate fails data) (trainer.trainOpunit evaluate fails st data) := by
  refine (((raiseIf_okOrError _).bind fun _ _ _ => (TrainState.call_okOrError fails st _).bind
    fun _ st₁ _ => (raiseIf_okOrError _).bind fun _ _ _ => (raiseIf_okOrError _).bind fun _ _ _ =>
      (foldlM_okOrError (fun s t => trainTransformer_okOrError data _ _ _ s t) _ _).bind
        fun hloops _ h₂ => recordPredictions_okOrError st₁ hloops h₂).imp ?_ ?_)
  · constructor
    · rintro ⟨hsplit, hcreate, hkey, helapsed, hloops, hrec⟩
      refine ⟨fun t ht m hm => ((hloops t ht).1 m hm).2.1, hsplit, hkey, helapsed,
        fun t ht m hm => ((hloops t ht).1 m hm).1, fun c hc => ?_⟩
      rcases mem_unitCalls.mp hc with rfl | hc | rfl
      · exact hcreate
      · exact forall_mem_loopCalls (P := fun c => fails.callRaises c = none) |>.mpr
          ⟨fun t ht m hm => ((hloops t ht).1 m hm).2.2,
          (hloops none (none_mem_transformersOf _)).2⟩ c hc
      · exact hrec
    · rintro ⟨hidx, hsplit, hkey, helapsed, hraise, hcalls⟩
      have hloop := forall_mem_loopCalls.mp fun c hc => hcalls c (mem_unitCalls.mpr (.inr (.inl hc)))
      exact ⟨hsplit, hcalls _ (mem_unitCalls.mpr (.inl rfl)), hkey, helapsed,
        fun t ht => ⟨fun m hm => ⟨hraise t ht m hm, hidx t ht m hm, hloop.1 t ht m hm⟩, hloop.2⟩,
        hcalls _ (mem_unitCalls.mpr (.inr (.inr rfl)))⟩
  · have hcall {c e} (hc : c ∈ trainer.loopCalls evaluate data) (h : fails.callRaises c = some e) :
        trainer.RaisedBy evaluate fails data e :=
      .inr (.inr (.inr (.inr ⟨c, mem_unitCalls.mpr (.inr (.inl hc)), h⟩)))
    rintro e (h | h | h | h | ⟨t, ht, ⟨m, hm, h | h | h⟩ | h⟩ | h)
    · exact .inl h
    · exact .inr (.inr (.inr (.inr ⟨_, mem_unitCalls.mpr (.inl rfl), h⟩)))
    · exact .inr (.inl h)
    · exact .inr (.inr (.inl h))
    · exact .inr (.inr (.inr (.inl ⟨t, ht, m, hm, .inl h⟩)))
    · exact .inr (.inr (.inr (.inl ⟨t, ht, m, hm, .inr h⟩)))
    · exact hcall (rowCall_mem_loopCalls ht hm) h
    · exact hcall blank_mem_loopCalls h
    · exact .inr (.inr (.inr (.inr ⟨_, mem_unitCalls.mpr (.inr (.inr rfl)), h⟩)))

/-- `train` returns exactly when, for every unit of the data, every regressor
it trains has a test error on `ELAPSED_US` and nothing it calls outside the
script raises; otherwise it raises, with an exception one of those units
raises at one of its points. -/
theorem train_ok_or_raises (dataList : List (OpUnitData OpUnit X)) :
    ((∀ data ∈ dataList, trainer.IndexesElapsed evaluate data ∧
          trainer.NothingRaises evaluate fails data) ∧
        ∃ r, trainer.train evaluate fails dataList = .ok r) ∨
      (¬(∀ data ∈ dataList, trainer.IndexesElapsed evaluate data ∧
          trainer.NothingRaises evaluate fails data) ∧
        ∃ e, (∃ data ∈ dataList, trainer.RaisedBy evaluate fails data e) ∧
          trainer.train evaluate fails dataList = .error e) :=
  (foldlM_okOrError (fun s data => trainOpunit_okOrError s data) dataList _).map _

omit [DecidableEq Tf] in
@[simp] theorem lookup_recordChoice (modelMap : List (OpUnit × Regressor Tf))
    (data : OpUnitData OpUnit X) (u : OpUnit) :
    (trainer.recordChoice evaluate modelMap data).lookup u =
      if u = data.opunit then
        (trainer.chosenMethod evaluate data).elim (modelMap.lookup u) fun m =>
          some ⟨trainer.opunitModelingTrainsformerMap data.opunit, m⟩
      else modelMap.lookup u := by
  unfold recordChoice
  cases trainer.chosenMethod evaluate data <;> by_cases hu : u = data.opunit <;> simp [hu]

omit [DecidableEq Tf] in
/-- Units absent from the data keep their entry of `model_map`. -/
theorem lookup_foldl_recordChoice_of_not_mem {dataList : List (OpUnitData OpUnit X)} {u : OpUnit}
    (hu : u ∉ dataList.map OpUnitData.opunit) (modelMap : List (OpUnit × Regressor Tf)) :
    (dataList.foldl (trainer.recordChoice evaluate) modelMap).lookup u = modelMap.lookup u := by
  induction dataList generalizing modelMap with
  | nil => rfl
  | cons d ds ih =>
      have hne : u ≠ d.opunit := fun h => hu (h ▸ .head _)
      rw [List.foldl_cons, ih (fun h => hu (.tail _ h)), lookup_recordChoice, if_neg hne]

omit [DecidableEq Tf] in
/-- When no unit occurs twice in the data, a unit's entry of `model_map` is its
own choice. -/
theorem lookup_foldl_recordChoice {dataList : List (OpUnitData OpUnit X)}
    (hnodup : (dataList.map OpUnitData.opunit).Nodup) {data : OpUnitData OpUnit X}
    (hdata : data ∈ dataList) (modelMap : List (OpUnit × Regressor Tf)) :
    (dataList.foldl (trainer.recordChoice evaluate) modelMap).lookup data.opunit =
      (trainer.chosenMethod evaluate data).elim (modelMap.lookup data.opunit) fun m =>
        some ⟨trainer.opunitModelingTrainsformerMap data.opunit, m⟩ := by
  induction dataList generalizing modelMap with
  | nil => cases hdata
  | cons d ds ih =>
      obtain ⟨hd, hds⟩ := List.nodup_cons.mp hnodup
      rw [List.foldl_cons]
      rcases List.mem_cons.mp hdata with rfl | hdata
      · rw [lookup_foldl_recordChoice_of_not_mem hd, lookup_recordChoice, if_pos rfl]
      · have hne : data.opunit ≠ d.opunit := fun h => hd (h ▸ List.mem_map_of_mem _ hdata)
        rw [ih hds hdata, lookup_recordChoice, if_neg hne]

omit [DecidableEq Tf] in
theorem nothingRaises_never (data : OpUnitData OpUnit X) :
    trainer.NothingRaises evaluate .never data :=
  ⟨rfl, rfl, rfl, fun _ _ _ _ => rfl, fun _ _ => rfl⟩

/-- For data in which no unit occurs twice, every regressor has a test error
on `ELAPSED_US` and nothing outside the script raises, `train` succeeds, and
for each unit, over the regressors of its modelling transformer: either every
method errs by at least `1`, the unit has no entry in `model_map` and
`record_predictions` gets `None`; or `model_map` holds the first method of
least error, an error below `1`, and `record_predictions` gets that
regressor's test predictions. -/
theorem train_keeps_first_least_error (dataList : List (OpUnitData OpUnit X))
    (hnodup : (dataList.map OpUnitData.opunit).Nodup)
    (hidx : ∀ data ∈ dataList, trainer.IndexesElapsed evaluate data)
    (hquiet : ∀ data ∈ dataList, trainer.NothingRaises evaluate fails data) :
    ∃ modelMap calls, trainer.train evaluate fails dataList = .ok (modelMap, calls) ∧
      ∀ data ∈ dataList,
        let lastT := trainer.opunitModelingTrainsformerMap data.opunit
        let err := trainer.elapsedError evaluate data lastT
        ((∀ m ∈ trainer.methodsOf data.opunit, 1 ≤ err m) ∧
            modelMap.lookup data.opunit = none ∧
            .recordPredictions none (trainer.predictionPathOf data.opunit) ∈ calls) ∨
          ∃ m, IsFirstMin err (trainer.methodsOf data.opunit) m ∧ err m < 1 ∧
            modelMap.lookup data.opunit = some ⟨lastT, m⟩ ∧
            .recordPredictions (some (evaluate data lastT m).testPrediction)
              (trainer.predictionPathOf data.opunit) ∈ calls := by
  refine ⟨_, _, train_eq dataList hidx hquiet, fun data hdata => ?_⟩
  intro lastT err
  rw [lookup_foldl_recordChoice hnodup hdata]
  have hrec : TrainerCall.recordPredictions (trainer.chosenPredictions evaluate data)
      (trainer.predictionPathOf data.opunit) ∈ dataList.flatMap (trainer.unitCalls evaluate) :=
    List.mem_flatMap.mpr ⟨data, hdata, mem_unitCalls.mpr (.inr (.inr rfl))⟩
  rcases selectBelow_spec err (trainer.methodsOf data.opunit) 1 none with
    ⟨hall, hsel⟩ | ⟨b, hb, hlt, hsel⟩
  · have hchosen : trainer.chosenMethod evaluate data = none := by rw [chosenMethod, hsel]
    rw [chosenPredictions, hchosen] at hrec
    rw [hchosen]
    exact .inl ⟨hall, rfl, hrec⟩
  · have hchosen : trainer.chosenMethod evaluate data = some b := by rw [chosenMethod, hsel]
    rw [chosenPredictions, hchosen] at hrec
    rw [hchosen]
    exact .inr ⟨b, hb, hlt, rfl, hrec⟩

end MiniTrainer

/-- Three methods, and a modelling transformer for sequential scans only. -/
def scanJoinTrainer : MiniTrainer String String :=
  ⟨"results", ["lr", "rf", "nn"], [], fun u => if u = "SEQ_SCAN" then some "log" else none, 0,
    id⟩

/-- Random forests and neural networks tie for the best scan model; every join
model errs by 200 %. -/
def scanJoinFit : OpUnitData String Unit → Option String → String → Evaluation (List ℚ) :=
  fun data _ m =>
    ⟨[1 / 10], [if data.opunit = "HASH_JOIN" then 2 else if m = "lr" then 3 / 10 else 1 / 10],
      [7]⟩

theorem train_keeps_first_least_error_scanJoin :
    ([OpUnitData.mk "SEQ_SCAN" (), ⟨"HASH_JOIN", ()⟩].map OpUnitData.opunit).Nodup ∧
      (∀ data ∈ [OpUnitData.mk "SEQ_SCAN" (), ⟨"HASH_JOIN", ()⟩],
        scanJoinTrainer.IndexesElapsed scanJoinFit data) ∧
      (∀ data ∈ [OpUnitData.mk "SEQ_SCAN" (), ⟨"HASH_JOIN", ()⟩],
        scanJoinTrainer.NothingRaises scanJoinFit .never data) ∧
      ∃ modelMap calls,
        scanJoinTrainer.train scanJoinFit .never [⟨"SEQ_SCAN", ()⟩, ⟨"HASH_JOIN", ()⟩] =
          .ok (modelMap, calls) ∧
        ∀ data ∈ [OpUnitData.mk "SEQ_SCAN" (), ⟨"HASH_JOIN", ()⟩],
          let lastT := scanJoinTrainer.opunitModelingTrainsformerMap data.opunit
          let err := scanJoinTrainer.elapsedError scanJoinFit data lastT
          ((∀ m ∈ scanJoinTrainer.methodsOf data.opunit, 1 ≤ err m) ∧
              modelMap.lookup data.opunit = none ∧
              .recordPredictions none (scanJoinTrainer.predictionPathOf data.opunit) ∈ calls) ∨
            ∃ m, IsFirstMin err (scanJoinTrainer.methodsOf data.opunit) m ∧ err m < 1 ∧
              modelMap.lookup data.opunit = some ⟨lastT, m⟩ ∧
              .recordPredictions (some (scanJoinFit data lastT m).testPrediction)
                (scanJoinTrainer.predictionPathOf data.opunit) ∈ calls :=
  have hnodup :
      ([OpUnitData.mk "SEQ_SCAN" (), ⟨"HASH_JOIN", ()⟩].map OpUnitData.opunit).Nodup := by
    decide
  have hidx : ∀ data ∈ [OpUnitData.mk "SEQ_SCAN" (), ⟨"HASH_JOIN", ()⟩],
      scanJoinTrainer.IndexesElapsed scanJoinFit data := by
    decide
  have hquiet : ∀ data ∈ [OpUnitData.mk "SEQ_SCAN" (), ⟨"HASH_JOIN", ()⟩],
      scanJoinTrainer.NothingRaises scanJoinFit .never data :=
    fun data _ => MiniTrainer.nothingRaises_never data
  ⟨hnodup, hidx, hquiet, MiniTrainer.train_keeps_first_least_error _ hnodup hidx hquiet⟩

end Model
end TerrierScript
