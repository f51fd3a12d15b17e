/-
# Strategy.WalkForward -- train, test, step, and a sealed holdout

`run_walk_forward` slides a window over a series: some training bars for the strategy, the bars
after them for a backtest, then on by a step, until no window fits before the holdout.  The
holdout is run last, by a strategy that was trained on nothing.

* `walkWindows_eq` -- the loop's windows are the ones that fit, in closed form;
* `valid_slice` -- a slice of a valid series is valid once it has two bars;
* `walkForward_ok_iff` -- a walk over enough bars returns exactly when its test windows and its
  holdout have the two bars a backtest needs;
* `window_ordered` -- training bars come before test bars, and those before the holdout.
-/
import AlgoTrader.Strategy.Accounting

namespace AlgoTrader.Strategy

open AlgoTrader.Core Brokers Theory Backtester

set_option autoImplicit false
set_option linter.dupNamespace false

/-- Window sizes for expanding, stepwise walk-forward evaluation. -/
structure WalkForwardConfig where
  trainBars : Nat
  testBars : Nat
  stepBars : Option Nat := none
  holdoutBars : Nat := 0
  trains : 0 < trainBars
  tests : 0 < testBars
  steps : ∀ step, stepBars = some step → 0 < step

/-- `default_step`: windows that do not overlap. -/
def WalkForwardConfig.step (config : WalkForwardConfig) : Nat := config.stepBars.getD config.testBars

theorem WalkForwardConfig.step_pos (config : WalkForwardConfig) : 0 < config.step := by
  unfold step
  cases given : config.stepBars with
  | none => exact config.tests
  | some step => exact config.steps step given

/-- One training/test slice in a walk-forward run. -/
structure WalkForwardWindow where
  trainStart : Timestamp
  trainEnd : Timestamp
  testStart : Timestamp
  testEnd : Timestamp
  report : BacktestReport

structure WalkForwardReport where
  windows : List WalkForwardWindow
  holdout : Option BacktestReport

/-- `series[start:stop]`. -/
def slice (series : List Candle) (start stop : Nat) : List Candle := (series.take stop).drop start

def opened (bars : List Candle) : Timestamp := (bars.head?.map Candle.openedAt).getD 0

def closed (bars : List Candle) : Timestamp := (bars.getLast?.map Candle.closedAt).getD 0

section Walk

variable (backtest : BacktestConfig) (factory : List Candle → Strategy)
  (config : WalkForwardConfig) (series : List Candle)

/-- The bars a strategy is trained on in the window at `start`. -/
def trainingAt (start : Nat) : List Candle := slice series start (start + config.trainBars)

/-- The bars it is tested on. -/
def testingAt (start : Nat) : List Candle :=
  slice series (start + config.trainBars) (start + config.trainBars + config.testBars)

/-- The pass of the loop at `start`. -/
def walkWindow (start : Nat) : Except Exc WalkForwardWindow := do
  let training := trainingAt config series start
  let testing := testingAt config series start
  let report ← run backtest (factory training) testing
  return { trainStart := opened training, trainEnd := closed training
           testStart := opened testing, testEnd := closed testing, report }

/-- The loop from `start` on. -/
def walkWindows (available start : Nat) : Except Exc (List WalkForwardWindow) :=
  if start + config.trainBars + config.testBars ≤ available then do
    let window ← walkWindow backtest factory config series start
    let later ← walkWindows available (start + config.step)
    return window :: later
  else .ok []
termination_by available + 1 - start
decreasing_by
  have onward := config.step_pos
  omega

/-- The bars after the last window, by a strategy that was trained on nothing. -/
def runHoldout (available : Nat) : Except Exc (Option BacktestReport) :=
  if config.holdoutBars = 0 then .ok none
  else (run backtest (factory []) (series.drop available)).map some

/-- `run_walk_forward`. -/
def runWalkForward : Except Exc WalkForwardReport := do
  let available : Int := series.length - config.holdoutBars
  if available < config.trainBars + config.testBars then
    .error (.valueError "not enough candles for the requested walk-forward windows")
  else
    let windows ← walkWindows backtest factory config series available.toNat 0
    let holdout ← runHoldout backtest factory config series available.toNat
    return { windows, holdout }

end Walk

/-! ## The windows that fit -/

/-- How many windows fit from `start` on. -/
def windowsFrom (config : WalkForwardConfig) (available start : Nat) : Nat :=
  if start + config.trainBars + config.testBars ≤ available then
    1 + (available - start - config.trainBars - config.testBars) / config.step
  else 0

theorem windowsFrom_step (config : WalkForwardConfig) {available start : Nat}
    (fits : start + config.trainBars + config.testBars ≤ available) :
    windowsFrom config available start = windowsFrom config available (start + config.step) + 1 := by
  have onward := config.step_pos
  unfold windowsFrom
  rw [if_pos fits]
  by_cases next : start + config.step + config.trainBars + config.testBars ≤ available
  · rw [if_pos next]
    have rest : available - start - config.trainBars - config.testBars =
        available - (start + config.step) - config.trainBars - config.testBars + config.step := by
      omega
    rw [rest, Nat.add_div_right _ onward]
    omega
  · rw [if_neg next, Nat.div_eq_of_lt (by omega)]

section Closed

variable {backtest : BacktestConfig} {factory : List Candle → Strategy}
  {config : WalkForwardConfig} {series : List Candle}

/-- The loop makes the windows that fit, each a step on from the one before. -/
theorem walkWindows_eq (available start : Nat) :
    walkWindows backtest factory config series available start =
      ((List.range (windowsFrom config available start)).map fun k => start + k * config.step).mapM
        (walkWindow backtest factory config series) := by
  induction start using walkWindows.induct config available with
  | case1 start fits ih =>
      have later : ((List.range (windowsFrom config available start)).map fun k =>
          start + k * config.step) = start ::
            (List.range (windowsFrom config available (start + config.step))).map fun k =>
              start + config.step + k * config.step := by
        rw [windowsFrom_step config fits, List.range_succ_eq_map, List.map_cons, List.map_map]
        congr 1
        · omega
        · refine List.map_congr_left fun k _ => ?_
          show start + (k + 1) * config.step = _
          rw [Nat.succ_mul]
          omega
      rw [walkWindows, if_pos fits, later, mapM_cons_bind, ih]
      rfl
  | case2 start past =>
      rw [walkWindows, if_neg past, windowsFrom, if_neg past]
      rfl

end Closed

/-! ## Slices of a valid series -/

/-- A slice of a valid series is valid once it has two bars. -/
theorem valid_slice {series part : List Candle} (valid : validateSeries series = .ok ())
    (within : part <:+: series) : validateSeries part = .ok () ↔ 2 ≤ part.length := by
  obtain ⟨before, after, rfl⟩ := within
  have chain := (validateSeries_iff.1 valid).2
  rw [validateSeries_iff]
  exact and_iff_left chain.left_of_append.right_of_append

theorem slice_within (series : List Candle) (start stop : Nat) : slice series start stop <:+: series :=
  (List.drop_suffix start _).isInfix.trans (List.take_prefix stop series).isInfix

theorem slice_length {series : List Candle} {start size : Nat} (within : start + size ≤ series.length) :
    (slice series start (start + size)).length = size := by
  rw [slice, List.length_drop, List.length_take, Nat.min_eq_left within]
  omega

theorem mem_slice {series : List Candle} {start stop : Nat} {bar : Candle} :
    bar ∈ slice series start stop ↔ ∃ n, start ≤ n ∧ n < stop ∧ series[n]? = some bar := by
  rw [slice, List.mem_iff_getElem?]
  constructor
  · rintro ⟨n, here⟩
    rw [List.getElem?_drop, List.getElem?_take] at here
    split at here
    · rename_i inside
      exact ⟨start + n, by omega, inside, here⟩
    · cases here
  · rintro ⟨n, after, before, here⟩
    refine ⟨n - start, ?_⟩
    rw [List.getElem?_drop, Nat.add_sub_cancel' after, List.getElem?_take, if_pos before, here]

/-- Bars of a valid series that stand apart do not overlap. -/
theorem bars_apart {series : List Candle} (valid : validateSeries series = .ok ()) {m n : Nat}
    {bar later : Candle} (here : series[m]? = some bar) (there : series[n]? = some later)
    (before : m < n) : bar.closedAt ≤ later.openedAt := by
  obtain ⟨_, rfl⟩ := List.getElem?_eq_some_iff.1 here
  obtain ⟨_, rfl⟩ := List.getElem?_eq_some_iff.1 there
  exact List.pairwise_iff_getElem.1 (validateSeries_apart valid).2 m n _ _ before

/-! ## Whole walks -/

/-- The bars of a window, and those held out, in the order of time. -/
structure Ordered (config : WalkForwardConfig) (series : List Candle) (available start : Nat) :
    Prop where
  trainFirst : ∀ bar ∈ trainingAt config series start, ∀ later ∈ testingAt config series start,
    bar.closedAt ≤ later.openedAt
  holdoutLast : ∀ bar ∈ testingAt config series start, ∀ later ∈ series.drop available,
    bar.closedAt ≤ later.openedAt

/-- Over some bars a strategy can pay for what it orders, and for the fees of the last sale. -/
def Affords (backtest : BacktestConfig) (strategy : Strategy) (bars : List Candle) : Prop :=
  ∃ sim, simulate backtest strategy bars = .ok sim ∧ 0 ≤ money sim.account.cash

section Whole

variable {backtest : BacktestConfig} {factory : List Candle → Strategy}
  {config : WalkForwardConfig} {series : List Candle}

/-- The strategies of a walk over `available` bars can pay for what they order, in each window and
in the holdout. -/
structure AffordsAll (backtest : BacktestConfig) (factory : List Candle → Strategy)
    (config : WalkForwardConfig) (series : List Candle) (available : Nat) : Prop where
  windows : ∀ k < windowsFrom config available 0,
    Affords backtest (factory (trainingAt config series (k * config.step)))
      (testingAt config series (k * config.step))
  holdout : Affords backtest (factory []) (series.drop available)

/-- Window `k` fits. -/
theorem window_fits {available k : Nat} (inside : k < windowsFrom config available 0) :
    k * config.step + config.trainBars + config.testBars ≤ available := by
  unfold windowsFrom at inside
  split at inside
  · rename_i fits
    have within : k ≤ (available - 0 - config.trainBars - config.testBars) / config.step := by omega
    have reach := (Nat.le_div_iff_mul_le config.step_pos).1 within
    omega
  · cases inside

theorem window_ordered (valid : validateSeries series = .ok ()) {available start : Nat}
    (fits : start + config.trainBars + config.testBars ≤ available) :
    Ordered config series available start := by
  constructor
  · intro bar trained later tested
    obtain ⟨m, _, before, here⟩ := mem_slice.1 trained
    obtain ⟨n, after, _, there⟩ := mem_slice.1 tested
    exact bars_apart valid here there (by omega)
  · intro bar tested later held
    obtain ⟨m, _, before, here⟩ := mem_slice.1 tested
    obtain ⟨n, there⟩ := List.mem_iff_getElem?.1 held
    rw [List.getElem?_drop] at there
    exact bars_apart valid here there (by omega)

theorem walkWindow_ok {start : Nat} {window : WalkForwardWindow}
    (walked : walkWindow backtest factory config series start = .ok window) :
    run backtest (factory (trainingAt config series start)) (testingAt config series start) =
        .ok window.report ∧
      window.trainStart = opened (trainingAt config series start) ∧
      window.trainEnd = closed (trainingAt config series start) ∧
      window.testStart = opened (testingAt config series start) ∧
      window.testEnd = closed (testingAt config series start) := by
  obtain ⟨report, ran, done⟩ := bind_eq_ok.1 walked
  cases done
  exact ⟨ran, rfl, rfl, rfl, rfl⟩

/-- A backtest of part of a valid series needs two bars, and no more where it is afforded. -/
theorem run_part {strategy : Strategy} {part : List Candle} (valid : validateSeries series = .ok ())
    (within : part <:+: series) (affords : Affords backtest strategy part) :
    (∃ report, run backtest strategy part = .ok report) ↔ 2 ≤ part.length := by
  rw [← valid_slice valid within]
  constructor
  · rintro ⟨report, ran⟩
    exact (run_ok ran).1
  · intro series_
    obtain ⟨sim, simulated, solvent⟩ := affords
    have reported : ∃ report, Backtester.report backtest strategy part sim = .ok report :=
      ⟨_, dif_pos solvent⟩
    obtain ⟨report, made⟩ := reported
    exact ⟨report, bind_eq_ok.2 ⟨(), series_, bind_eq_ok.2 ⟨sim, simulated, made⟩⟩⟩

theorem testing_within (start : Nat) : testingAt config series start <:+: series := slice_within _ _ _

theorem runWalkForward_eq
    (fits : config.trainBars + config.testBars + config.holdoutBars ≤ series.length) :
    runWalkForward backtest factory config series =
      (walkWindows backtest factory config series (series.length - config.holdoutBars) 0).bind
        fun windows =>
          (runHoldout backtest factory config series (series.length - config.holdoutBars)).bind
            fun holdout => .ok { windows, holdout } := by
  have enough : ¬ (series.length : Int) - config.holdoutBars < config.trainBars + config.testBars := by
    omega
  have whole : ((series.length : Int) - config.holdoutBars).toNat =
      series.length - config.holdoutBars := by omega
  unfold runWalkForward
  simp only [if_neg enough, whole]
  rfl

/-- What a walk that returns has made: the windows that fit, one after the other. -/
theorem walkForward_windows {report : WalkForwardReport}
    (fits : config.trainBars + config.testBars + config.holdoutBars ≤ series.length)
    (walked : runWalkForward backtest factory config series = .ok report) :
    report.windows.length = windowsFrom config (series.length - config.holdoutBars) 0 ∧
      ∀ k < windowsFrom config (series.length - config.holdoutBars) 0,
        ∃ window, report.windows[k]? = some window ∧
          walkWindow backtest factory config series (k * config.step) = .ok window := by
  rw [runWalkForward_eq fits] at walked
  obtain ⟨windows, made, rest⟩ := bind_eq_ok.1 walked
  obtain ⟨holdout, _, done⟩ := bind_eq_ok.1 rest
  cases done
  rw [walkWindows_eq] at made
  obtain ⟨long, places⟩ := mapM_places made
  refine ⟨by simpa using long, fun k inside => ?_⟩
  obtain ⟨window, there, walked⟩ := places k (0 + k * config.step) (by simp [inside])
  rw [Nat.zero_add] at walked
  exact ⟨window, there, walked⟩

/-- A window is walked exactly when it has the two bars a backtest needs. -/
theorem walkWindow_ok_iff (valid : validateSeries series = .ok ()) {start : Nat}
    (fits : start + config.trainBars + config.testBars ≤ series.length)
    (affords : Affords backtest (factory (trainingAt config series start))
      (testingAt config series start)) :
    (∃ window, walkWindow backtest factory config series start = .ok window) ↔
      2 ≤ config.testBars := by
  have long : (testingAt config series start).length = config.testBars := slice_length fits
  rw [← long, ← run_part valid (testing_within start) affords]
  constructor
  · rintro ⟨window, walked⟩
    exact ⟨_, (walkWindow_ok walked).1⟩
  · rintro ⟨report, ran⟩
    exact ⟨_, bind_eq_ok.2 ⟨report, ran, rfl⟩⟩

/-- The holdout runs when there is none, or it has two bars. -/
theorem runHoldout_ok_iff (valid : validateSeries series = .ok ())
    (fits : config.holdoutBars ≤ series.length)
    (affords : Affords backtest (factory []) (series.drop (series.length - config.holdoutBars))) :
    (∃ holdout, runHoldout backtest factory config series (series.length - config.holdoutBars) =
        .ok holdout) ↔
      config.holdoutBars ≠ 1 := by
  have long : (series.drop (series.length - config.holdoutBars)).length = config.holdoutBars := by
    rw [List.length_drop]
    omega
  have runs_ := run_part valid (List.drop_suffix _ series).isInfix affords
  rw [long] at runs_
  unfold runHoldout
  by_cases none : config.holdoutBars = 0
  · rw [if_pos none]
    exact iff_of_true ⟨_, rfl⟩ (by omega)
  · rw [if_neg none]
    constructor
    · rintro ⟨holdout, returned⟩
      obtain ⟨report, ran, _⟩ := map_eq_ok.1 returned
      have two := runs_.1 ⟨report, ran⟩
      omega
    · intro notOne
      obtain ⟨report, ran⟩ := runs_.2 (by omega)
      exact ⟨some report, map_eq_ok.2 ⟨report, ran, rfl⟩⟩

/-- A walk over a valid series that is long enough returns exactly when its windows and its
holdout are long enough for a backtest. -/
theorem walkForward_ok_iff (valid : validateSeries series = .ok ())
    (fits : config.trainBars + config.testBars + config.holdoutBars ≤ series.length)
    (affords : AffordsAll backtest factory config series (series.length - config.holdoutBars)) :
    (∃ report, runWalkForward backtest factory config series = .ok report) ↔
      2 ≤ config.testBars ∧ config.holdoutBars ≠ 1 := by
  have tested : ∀ k < windowsFrom config (series.length - config.holdoutBars) 0,
      ((∃ window, walkWindow backtest factory config series (k * config.step) = .ok window) ↔
        2 ≤ config.testBars) := by
    intro k inside
    have reaches := window_fits inside
    exact walkWindow_ok_iff valid (by omega) (affords.windows k inside)
  have first : 0 < windowsFrom config (series.length - config.holdoutBars) 0 := by
    rw [windowsFrom, if_pos (by omega)]
    exact Nat.add_pos_left Nat.one_pos _
  rw [runWalkForward_eq fits, ← runHoldout_ok_iff valid (by omega) affords.holdout]
  constructor
  · rintro ⟨report, returned⟩
    obtain ⟨windows, made, rest⟩ := bind_eq_ok.1 returned
    obtain ⟨holdout, ran, _⟩ := bind_eq_ok.1 rest
    refine ⟨?_, holdout, ran⟩
    rw [walkWindows_eq] at made
    obtain ⟨_, places⟩ := mapM_places made
    obtain ⟨window, _, walked⟩ := places 0 (0 + 0 * config.step) (by simp [first])
    rw [Nat.zero_add] at walked
    exact (tested 0 first).1 ⟨window, walked⟩
  · rintro ⟨two, holdout, ran⟩
    obtain ⟨windows, made⟩ : ∃ windows, walkWindows backtest factory config series
        (series.length - config.holdoutBars) 0 = .ok windows := by
      rw [walkWindows_eq]
      refine mapM_ok fun start member => ?_
      obtain ⟨k, inside, rfl⟩ := List.mem_map.1 member
      rw [Nat.zero_add]
      exact (tested k (List.mem_range.1 inside)).2 two
    exact ⟨_, bind_eq_ok.2 ⟨windows, made, bind_eq_ok.2 ⟨holdout, ran, rfl⟩⟩⟩

end Whole

end AlgoTrader.Strategy
