/-
# Strategy.Backtest -- closed-bar backtesting

The backtester consults a strategy on each closed bar, fills its signal at the open
of the next one, and liquidates what is still held at the final close.  It knows
nothing of brokers or stores.

What a run adds to from bar to bar is a `Simulation`; `Backtester.after` is the one
that the first bars leave, so that two runs can be compared bar by bar.

* `after_equityCurve` -- each bar adds one point to the equity curve;
* `simulate_keeps` -- a later bar, and the liquidation, leave the points before.
-/
import Mathlib.Algebra.Order.Floor.Ring
import Mathlib.Data.Rat.Floor
import Mathlib.Tactic.Linarith
import Mathlib.Tactic.Positivity
import AlgoTrader.Brokers.Http
import AlgoTrader.Theory.Dict
import AlgoTrader.Theory.Raising

namespace AlgoTrader.Strategy

open AlgoTrader.Core Brokers Theory

set_option autoImplicit false
set_option linter.dupNamespace false

/-- A strategy observes a market state and returns a signal or no signal.  What it
remembers from one call to the next starts fresh in every run. -/
structure Strategy where
  Memory : Type
  fresh : Memory
  onMarketState : MarketState → Memory → Except Exc (Option Signal × Memory)
  version : String

def bps : Decimal := 10000

/-- Explicit execution assumptions used by a backtest. -/
structure CostAssumptions where
  makerFeeRate : NonNegativeDecimal := ⟨0, decimal_zero⟩
  takerFeeRate : NonNegativeDecimal := ⟨0, decimal_zero⟩
  spreadBps : NonNegativeDecimal := ⟨0, decimal_zero⟩
  slippageBps : NonNegativeDecimal := ⟨0, decimal_zero⟩
  feeAsset : String := "USD"
  partialFillRatio : Decimal := 1
  feeAssetNamed : feeAsset ≠ "" := by decide
  partialFillBounds : 0 < partialFillRatio ∧ partialFillRatio ≤ 1 := by decide
  /-- Spread and slippage leave a sell a positive execution price. -/
  executionPriceValid : spreadBps.1 / (bps * 2) + slippageBps.1 / bps < 1 := by decide +kernel

structure BacktestConfig where
  initialCash : PositiveDecimal := ⟨100000, by decide +kernel⟩
  dataSource : String := "coinbase-advanced-trade"
  granularity : String := "ONE_MINUTE"
  quoteAsset : String := "USD"
  costs : CostAssumptions := {}
  enforceClosedBarGuard : Bool := true
  named : dataSource ≠ "" ∧ granularity ≠ "" ∧ quoteAsset ≠ "" := by decide

/-! ## Execution prices -/

/-- Round to cents, halves away from zero. -/
def money (value : Decimal) : Decimal :=
  if 0 ≤ value then ⌊value * 100 + 1 / 2⌋ / 100 else -(⌊-value * 100 + 1 / 2⌋ / 100)

/-- The fraction a fill moves against the trader: half the spread plus slippage. -/
def executionCostRate (costs : CostAssumptions) : Decimal :=
  costs.spreadBps.1 / (bps * 2) + costs.slippageBps.1 / bps

theorem executionCostRate_nonneg (costs : CostAssumptions) : 0 ≤ executionCostRate costs := by
  have spread : 0 ≤ costs.spreadBps.1 := costs.spreadBps.2
  have slippage : 0 ≤ costs.slippageBps.1 := costs.slippageBps.2
  unfold executionCostRate bps
  positivity

theorem executionCostRate_lt_one (costs : CostAssumptions) : executionCostRate costs < 1 :=
  costs.executionPriceValid

def executionPrice (price : PositiveDecimal) (side : OrderSide) (costs : CostAssumptions) :
    PositiveDecimal :=
  match side with
  | .buy => ⟨price * (1 + executionCostRate costs),
      mul_pos price.2 (by linarith [executionCostRate_nonneg costs])⟩
  | .sell => ⟨price * (1 - executionCostRate costs),
      mul_pos price.2 (by linarith [executionCostRate_lt_one costs])⟩

/-! ## The series -/

/-- Each bar against the one before it. -/
def validatePairs (symbol : String) : List Candle → Except Exc Unit
  | previous :: current :: rest =>
      if current.symbol ≠ symbol then .error (.valueError "a backtest cannot mix symbols")
      else if current.openedAt ≤ previous.openedAt then
        .error (.valueError "candles must be strictly ordered")
      else if current.openedAt < previous.closedAt then
        .error (.valueError "candles must not overlap")
      else validatePairs symbol (current :: rest)
  | _ => .ok ()

/-- Require one symbol and at least two strictly ordered, non-overlapping bars. -/
def validateSeries : List Candle → Except Exc Unit
  | first :: second :: rest => validatePairs first.symbol (first :: second :: rest)
  | _ => .error (.valueError "a backtest requires at least two closed candles")

/-- The symbol of a series, that of its first bar. -/
def symbolOf (series : List Candle) : String := (series.head?.map Candle.symbol).getD ""

/-! ## A run -/

/-- A completed round trip, including execution costs. -/
structure Trade where
  symbol : String
  quantity : PositiveDecimal
  entryAt : Timestamp
  exitAt : Timestamp
  entryPrice : PositiveDecimal
  exitPrice : PositiveDecimal
  entryFee : NonNegativeDecimal
  exitFee : NonNegativeDecimal
  feeAsset : String
  pnl : Decimal

/-- An open position and what it was entered at. -/
structure Holding where
  quantity : PositiveDecimal
  entryPrice : PositiveDecimal
  entryFee : NonNegativeDecimal
  entryAt : Timestamp

/-- The variable `position`: zero when nothing is held. -/
def position (holding : Option Holding) : Decimal := (holding.map fun h => h.quantity.1).getD 0

/-- What a run holds and has traded. -/
structure Account where
  cash : Decimal
  holding : Option Holding
  trades : List Trade

namespace Backtester

variable (config : BacktestConfig)

/-- `quantity * price * taker_fee_rate`. -/
def takerFee (quantity price : PositiveDecimal) : NonNegativeDecimal :=
  ⟨quantity * price * config.costs.takerFeeRate,
    mul_nonneg (mul_pos quantity.2 price.2).le config.costs.takerFeeRate.2⟩

/-- `_buy`, at the open of a bar. -/
def buy (requested : PositiveDecimal) (candle : Candle) (account : Account) : Except Exc Account :=
  let quantity : PositiveDecimal :=
    ⟨requested * config.costs.partialFillRatio, mul_pos requested.2 config.costs.partialFillBounds.1⟩
  let price := executionPrice candle.openPrice .buy config.costs
  let fee := takerFee config quantity price
  let total := quantity * price + fee.1
  if account.cash < total then
    .error (.valueError "strategy requested a buy larger than available cash")
  else
    .ok { account with
      cash := account.cash - total
      holding := some ⟨quantity, price, fee, candle.openedAt⟩ }

/-- `_sell`: the whole position leaves. -/
def sell (symbol : String) (holding : Holding) (marketPrice : PositiveDecimal) (exitAt : Timestamp)
    (account : Account) : Account :=
  let price := executionPrice marketPrice .sell config.costs
  let fee := takerFee config holding.quantity price
  let proceeds := holding.quantity * price - fee.1
  { cash := account.cash + proceeds
    holding := none
    trades := account.trades ++
      [{ symbol, quantity := holding.quantity, entryAt := holding.entryAt, exitAt
         entryPrice := holding.entryPrice, exitPrice := price, entryFee := holding.entryFee
         exitFee := fee, feeAsset := config.costs.feeAsset
         pnl := holding.quantity * (price.1 - holding.entryPrice) - holding.entryFee - fee }] }

/-- Fill a signal at the open of the next bar.  A buy while holding and a sell while
flat are passed over. -/
def fill (symbol : String) (upcoming : Candle) (signal : Option Signal) (account : Account) :
    Except Exc Account :=
  match signal with
  | none => .ok account
  | some signal =>
      if signal.symbol ≠ symbol then
        .error (.valueError "strategy signal symbol does not match the backtest series")
      else
        match signal.side, account.holding with
        | .buy, none => buy config signal.quantity upcoming account
        | .sell, some holding =>
            .ok (sell config symbol holding upcoming.openPrice upcoming.openedAt account)
        | _, _ => .ok account

/-- The bars a strategy is shown with the bar at `index`. -/
def visible (series : List Candle) (index : Nat) : List Candle :=
  if config.enforceClosedBarGuard then series.take (index + 1) else series

/-- The market state of a closed bar. -/
def marketState (symbol : String) (candle : Candle) (candles : List Candle) : MarketState where
  symbol
  quote :=
    { symbol, bid := candle.close, ask := candle.close, asOf := candle.closedAt,
      source := config.dataSource, receivedAt := candle.closedAt, askNotBelowBid := le_refl _ }
  candles
  observedAt := candle.closedAt

end Backtester

/-- What a run adds to from bar to bar. -/
structure Simulation (strategy : Strategy) where
  account : Account
  memory : strategy.Memory
  equityCurve : List Decimal
  timestamps : List Timestamp
  positionFlags : List Bool

/-- The value of an account at a price. -/
def Account.equity (account : Account) (price : PositiveDecimal) : Decimal :=
  account.cash + position account.holding * price

namespace Backtester

variable (config : BacktestConfig) (strategy : Strategy)

def start : Simulation strategy where
  account := ⟨config.initialCash, none, []⟩
  memory := strategy.fresh
  equityCurve := []
  timestamps := []
  positionFlags := []

/-- Consult the strategy on a bar that is not the last, and fill its signal. -/
def trade (series : List Candle) (index : Nat) (candle : Candle) (account : Account)
    (memory : strategy.Memory) : Except Exc (Account × strategy.Memory) :=
  match series[index + 1]? with
  | none => .ok (account, memory)
  | some upcoming => do
      let symbol := symbolOf series
      let state := marketState config symbol candle (visible config series index)
      let (signal, memory) ← strategy.onMarketState state memory
      let account ← fill config symbol upcoming signal account
      return (account, memory)

/-- One pass of the loop. -/
def bar (series : List Candle) (index : Nat) (candle : Candle) (sim : Simulation strategy) :
    Except Exc (Simulation strategy) := do
  let (account, memory) ← trade config strategy series index candle sim.account sim.memory
  return {
    account, memory
    equityCurve := sim.equityCurve ++ [account.equity candle.close]
    timestamps := sim.timestamps ++ [candle.closedAt]
    positionFlags := sim.positionFlags ++ [sim.account.holding.isSome] }

/-- The pass at an index. -/
def pass (series : List Candle) (index : Nat) (sim : Simulation strategy) :
    Except Exc (Simulation strategy) :=
  match series[index]? with
  | none => .ok sim
  | some candle => bar config strategy series index candle sim

/-- The run after its first bars. -/
def after (series : List Candle) : Nat → Except Exc (Simulation strategy) :=
  loop (pass config strategy series) (start config strategy)

/-- A position still open at the end is liquidated at the final close. -/
def liquidate (series : List Candle) (sim : Simulation strategy) : Simulation strategy :=
  match sim.account.holding, series.getLast? with
  | some holding, some last =>
      let account := sell config (symbolOf series) holding last.close last.closedAt sim.account
      { sim with account, equityCurve := sim.equityCurve.dropLast ++ [account.cash] }
  | _, _ => sim

/-- The loop and the liquidation. -/
def simulate (series : List Candle) : Except Exc (Simulation strategy) := do
  let sim ← after config strategy series series.length
  return liquidate config strategy series sim

end Backtester

/-! ## The report -/

/-- `Field(ge=0, le=1)`. -/
abbrev Share := {q : Decimal // 0 ≤ q ∧ q ≤ 1}

/-- The share of the flags that are set. -/
def share (flags : List Bool) : Share :=
  ⟨flags.count true / flags.length, by
    have fewer : (flags.count true : Decimal) ≤ flags.length := by
      exact_mod_cast List.count_le_length
    exact ⟨by positivity, div_le_one_of_le₀ fewer (by positivity)⟩⟩

/-- Summary statistics for the per-bar equity return distribution. -/
structure ReturnDistribution where
  count : Nat
  minimum : Decimal
  maximum : Decimal
  mean : Decimal
  median : Decimal
  positiveCount : Nat
  negativeCount : Nat

def returnDistribution (values : List Decimal) : ReturnDistribution :=
  let ordered := values.mergeSort
  let midpoint := ordered.length / 2
  let upper := ordered.getD midpoint 0
  { count := values.length
    minimum := values.min?.getD 0
    maximum := values.max?.getD 0
    mean := values.sum / values.length
    median := if ordered.length % 2 = 0 then (ordered.getD (midpoint - 1) 0 + upper) / 2 else upper
    positiveCount := values.countP (0 < ·)
    negativeCount := values.countP (· < 0) }

/-- The return of each bar on the one before it, where that is worth something. -/
def returns : List Decimal → List Decimal
  | previous :: current :: rest =>
      let later := returns (current :: rest)
      if previous = 0 then later else (current - previous) / previous :: later
  | _ => []

/-- How far below its peak a curve has been, and for how long. -/
structure Drawdown where
  peak : Decimal
  peakAt : Timestamp
  largest : NonNegativeDecimal
  duration : Duration

namespace Drawdown

/-- The pass over one point. -/
def observe (d : Drawdown) (value : Decimal) (timestamp : Timestamp) : Drawdown :=
  let d := if d.peak < value then { d with peak := value, peakAt := timestamp } else d
  if 0 < d.peak then
    let drawdown := (d.peak - value) / d.peak
    if larger : d.largest.1 < drawdown then
      { d with
        largest := ⟨drawdown, d.largest.2.trans larger.le⟩
        duration := timestamp - d.peakAt }
    else d
  else d

end Drawdown

/-- `_max_drawdown`. -/
def maxDrawdown (equity : List Decimal) (timestamps : List Timestamp) : Drawdown :=
  (equity.zip timestamps).foldl (fun d point => d.observe point.1 point.2)
    ⟨0, timestamps.headD 0, ⟨0, decimal_zero⟩, 0⟩

/-- A compact result for one calendar year or market regime. -/
structure PeriodResult where
  period : String
  returnPct : Decimal
  tradeCount : Nat
  exposure : Share
  maxDrawdown : NonNegativeDecimal

/-- The peak so far and the largest share of it that was lost. -/
def periodDrawdown (start : Decimal) (equity : List Decimal) : Decimal × NonNegativeDecimal :=
  equity.foldl (fun (peak, drawdown) value =>
    let peak := max peak value
    (peak, if 0 < peak then
      ⟨max drawdown.1 ((peak - value) / peak), le_max_of_le_left drawdown.2⟩ else drawdown))
    (start, ⟨0, decimal_zero⟩)

/-- `_period_result`. -/
def periodResult (period : String) (equity : List Decimal) (tradeCount : Nat) (exposure : Share) :
    PeriodResult :=
  match equity with
  | [] => { period, returnPct := 0, tradeCount, exposure, maxDrawdown := ⟨0, decimal_zero⟩ }
  | start :: rest =>
      let last := rest.getLastD start
      { period
        returnPct := if start = 0 then 0 else (last - start) / start
        tradeCount, exposure
        maxDrawdown := (periodDrawdown start equity).2 }

/-- The calendar year of a moment, in the proleptic Gregorian calendar: years counted
from March, in eras of 400. -/
def yearOf (at_ : Timestamp) : Int :=
  let days := at_ / 86400000000 + 719468
  let era := days / 146097
  let dayOfEra := days - era * 146097
  let yearOfEra := (dayOfEra - dayOfEra / 1460 + dayOfEra / 36524 - dayOfEra / 146096) / 365
  let dayOfYear := dayOfEra - (365 * yearOfEra + yearOfEra / 4 - yearOfEra / 100)
  let march := yearOfEra + era * 400
  if (5 * dayOfYear + 2) / 153 < 10 then march else march + 1

/-- The group of a bar: its year, or whether it closed above the bar before. -/
def periodKey (byYear : Bool) (series : List Candle) (index : Nat) (candle : Candle) : String :=
  if byYear then toString (yearOf candle.closedAt)
  else
    match index with
    | 0 => "flat"
    | before + 1 =>
        match series[before]? with
        | some previous => if previous.close ≤ candle.close then "up" else "down"
        | none => "flat"

/-- The bars of each group, under the groups in the order they first occur. -/
def periodIndexes (byYear : Bool) (series : List Candle) : Dict String (List Nat) :=
  series.zipIdx.foldl (fun indexes (candle, index) =>
    let key := periodKey byYear series index candle
    indexes.set key ((indexes.get? key).getD [] ++ [index])) .empty

/-- `_group_periods`; trades are counted by year only. -/
def groupPeriods (series : List Candle) (equity : List Decimal) (trades : List Trade)
    (positionFlags : List Bool) (byYear : Bool) : List (String × PeriodResult) :=
  (periodIndexes byYear series).entries.map fun (key, indexes) =>
    (key, periodResult key (indexes.map (equity.getD · 0))
      (if byYear then trades.countP fun t => toString (yearOf t.entryAt) = key else 0)
      (share (indexes.map (positionFlags.getD · false))))

/-- The reproducible report; the hash of the strategy's version is left out. -/
structure BacktestReport where
  dataSource : String
  windowStart : Timestamp
  windowEnd : Timestamp
  symbols : List String
  granularity : String
  costAssumptions : CostAssumptions
  tradeCount : Nat
  exposure : Share
  returnDistribution : ReturnDistribution
  maxDrawdown : NonNegativeDecimal
  maxDrawdownDuration : Duration
  perYear : List (String × PeriodResult)
  perRegime : List (String × PeriodResult)
  strategyVersion : String
  initialCash : PositiveDecimal
  finalEquity : NonNegativeDecimal
  totalReturnPct : Decimal
  trades : List Trade

namespace Backtester

variable (config : BacktestConfig) (strategy : Strategy)

/-- What the model validators raise on a report no model accepts. -/
def invalidReport : Exc :=
  { kind := .valueError, typeName := "ValidationError", message := "the report is not valid" }

def report (series : List Candle) (sim : Simulation strategy) : Except Exc BacktestReport :=
  let drawdown := maxDrawdown sim.equityCurve sim.timestamps
  let group := groupPeriods series sim.equityCurve sim.account.trades sim.positionFlags
  let finalEquity := money sim.account.cash
  if valid : 0 ≤ finalEquity then
    .ok
      { dataSource := config.dataSource
        windowStart := (series.head?.map Candle.openedAt).getD 0
        windowEnd := (series.getLast?.map Candle.closedAt).getD 0
        symbols := [symbolOf series]
        granularity := config.granularity
        costAssumptions := config.costs
        tradeCount := sim.account.trades.length
        exposure := share sim.positionFlags
        returnDistribution := returnDistribution (returns sim.equityCurve)
        maxDrawdown := drawdown.largest
        maxDrawdownDuration := drawdown.duration
        perYear := group true
        perRegime := group false
        strategyVersion := strategy.version
        initialCash := config.initialCash
        finalEquity := ⟨finalEquity, valid⟩
        totalReturnPct := (finalEquity - config.initialCash) / config.initialCash
        trades := sim.account.trades }
  else .error invalidReport

/-- `Backtester.run`. -/
def run (series : List Candle) : Except Exc BacktestReport := do
  validateSeries series
  let sim ← simulate config strategy series
  report config strategy series sim

end Backtester

/-! ## Bar by bar -/

namespace Backtester

section

variable {config : BacktestConfig} {strategy : Strategy} {series : List Candle} {index : Nat}

theorem pass_at {candle : Candle} (here : series[index]? = some candle) :
    pass config strategy series index = bar config strategy series index candle := by
  funext sim
  simp only [pass, here]

/-- What one bar leaves. -/
theorem bar_ok {candle : Candle} {sim sim' : Simulation strategy} :
    bar config strategy series index candle sim = .ok sim' ↔
      ∃ account memory, trade config strategy series index candle sim.account sim.memory =
          .ok (account, memory) ∧
        sim' = { account, memory,
                 equityCurve := sim.equityCurve ++ [account.equity candle.close],
                 timestamps := sim.timestamps ++ [candle.closedAt],
                 positionFlags := sim.positionFlags ++ [sim.account.holding.isSome] } := by
  refine Iff.trans bind_eq_ok ?_
  constructor
  · rintro ⟨⟨account, memory⟩, traded, done⟩
    cases done
    exact ⟨account, memory, traded, rfl⟩
  · rintro ⟨account, memory, traded, rfl⟩
    exact ⟨(account, memory), traded, rfl⟩

/-- On a bar that is not the last, the strategy is consulted and its signal filled. -/
theorem trade_ok {candle upcoming : Candle} {account account' : Account}
    {memory memory' : strategy.Memory} (next : series[index + 1]? = some upcoming) :
    trade config strategy series index candle account memory = .ok (account', memory') ↔
      ∃ signal, strategy.onMarketState
          (marketState config (symbolOf series) candle (visible config series index)) memory =
            .ok (signal, memory') ∧
        fill config (symbolOf series) upcoming signal account = .ok account' := by
  simp only [trade, next]
  refine Iff.trans bind_eq_ok ?_
  constructor
  · rintro ⟨⟨signal, left⟩, answered, rest⟩
    obtain ⟨filled, fills, done⟩ := bind_eq_ok.1 rest
    cases done
    exact ⟨signal, answered, fills⟩
  · rintro ⟨signal, answered, fills⟩
    exact ⟨(signal, memory'), answered, bind_eq_ok.2 ⟨account', fills, rfl⟩⟩

/-- A buy pays for the position it opens, out of the cash there is. -/
theorem buy_opens {requested : PositiveDecimal} {upcoming : Candle} {account account' : Account}
    (bought : buy config requested upcoming account = .ok account') :
    ∃ held : Holding, held.entryAt = upcoming.openedAt ∧
      account' = { account with
        cash := account.cash - (held.quantity * held.entryPrice + held.entryFee.1)
        holding := some held } ∧
      0 ≤ account'.cash := by
  simp only [buy] at bought
  split at bought
  · cases bought
  · rename_i enough
    cases bought
    let quantity : PositiveDecimal :=
      ⟨requested * config.costs.partialFillRatio, mul_pos requested.2 config.costs.partialFillBounds.1⟩
    let price := executionPrice upcoming.openPrice .buy config.costs
    exact ⟨⟨quantity, price, takerFee config quantity price, upcoming.openedAt⟩, rfl, rfl,
      sub_nonneg.2 (not_lt.1 enough)⟩

/-- A fill buys from nothing, sells what is held or leaves the account alone. -/
theorem fill_cases {symbol : String} {upcoming : Candle} {signal : Option Signal}
    {account account' : Account} (filled : fill config symbol upcoming signal account = .ok account') :
    (∃ given, signal = some given ∧ given.side = .buy ∧ account.holding = none ∧
        buy config given.quantity upcoming account = .ok account') ∨
      (∃ given held, signal = some given ∧ given.side = .sell ∧ account.holding = some held ∧
        account' = sell config symbol held upcoming.openPrice upcoming.openedAt account) ∨
      (account' = account ∧ ∀ given, signal = some given → given.side = .buy →
        account.holding ≠ none) := by
  cases signal with
  | none =>
      cases filled
      exact .inr (.inr ⟨rfl, fun _ never => nomatch never⟩)
  | some given =>
      simp only [fill] at filled
      split at filled
      · cases filled
      cases side : given.side with
      | buy =>
          cases holding : account.holding with
          | none =>
              simp only [side, holding] at filled
              exact .inl ⟨given, rfl, side, rfl, filled⟩
          | some held =>
              simp only [side, holding] at filled
              cases filled
              exact .inr (.inr ⟨rfl, fun _ _ _ => Option.some_ne_none held⟩)
      | sell =>
          cases holding : account.holding with
          | none =>
              simp only [side, holding] at filled
              cases filled
              refine .inr (.inr ⟨rfl, ?_⟩)
              rintro _ ⟨⟩ buys
              rw [side] at buys
              cases buys
          | some held =>
              simp only [side, holding] at filled
              cases filled
              exact .inr (.inl ⟨given, held, rfl, side, rfl, rfl⟩)

/-- A pass leaves the account and the strategy alone where no bar follows, and otherwise consults
the strategy and fills its signal at the bar that follows. -/
theorem pass_cases {sim sim' : Simulation strategy}
    (passed : pass config strategy series index sim = .ok sim') :
    (series[index + 1]? = none ∧ sim'.account = sim.account ∧ sim'.memory = sim.memory) ∨
      ∃ candle upcoming signal, series[index]? = some candle ∧ series[index + 1]? = some upcoming ∧
        strategy.onMarketState
            (marketState config (symbolOf series) candle (visible config series index)) sim.memory =
          .ok (signal, sim'.memory) ∧
        fill config (symbolOf series) upcoming signal sim.account = .ok sim'.account := by
  unfold pass at passed
  cases here : series[index]? with
  | none =>
      rw [here] at passed
      cases passed
      have outside : series.length ≤ index := List.getElem?_eq_none_iff.1 here
      exact .inl ⟨List.getElem?_eq_none_iff.2 (outside.trans (Nat.le_succ index)), rfl, rfl⟩
  | some candle =>
      rw [here] at passed
      obtain ⟨account, memory, traded, rfl⟩ := bar_ok.1 passed
      cases next : series[index + 1]? with
      | none =>
          -- The last bar: the strategy is not consulted.
          simp only [trade, next] at traded
          cases traded
          exact .inl ⟨rfl, rfl, rfl⟩
      | some upcoming =>
          obtain ⟨signal, answered, filled⟩ := (trade_ok next).1 traded
          exact .inr ⟨candle, upcoming, signal, rfl, rfl, answered, filled⟩

/-- Each bar adds one point to the equity curve. -/
theorem after_equityCurve {sim : Simulation strategy} {n : Nat}
    (reached : after config strategy series n = .ok sim) (within : n ≤ series.length) :
    sim.equityCurve.length = n := by
  refine loop_invariant (fun m s => m ≤ series.length → s.equityCurve.length = m) (fun _ => rfl)
    ?_ reached within
  intro m s s' held passed more
  obtain ⟨candle, here⟩ : ∃ candle, series[m]? = some candle :=
    ⟨series[m], List.getElem?_eq_getElem (by omega)⟩
  rw [pass_at here] at passed
  obtain ⟨account, memory, _, rfl⟩ := bar_ok.1 passed
  have before := held (by omega)
  simp [before]

/-- Later bars add to the curve of the earlier ones. -/
theorem after_extends {sim later : Simulation strategy} {m n : Nat} (earlier : m ≤ n)
    (reached : after config strategy series m = .ok sim)
    (reachedLater : after config strategy series n = .ok later) :
    sim.equityCurve <+: later.equityCurve := by
  refine loop_onward (fun s => sim.equityCurve <+: s.equityCurve) earlier reached
    (List.prefix_refl _) ?_ reachedLater
  intro k s s' before passed
  unfold pass at passed
  split at passed
  · cases passed
    exact before
  · obtain ⟨account, memory, _, rfl⟩ := bar_ok.1 passed
    exact before.trans (List.prefix_append _ _)

/-- The liquidation leaves every point but the last. -/
theorem liquidate_keeps {sim : Simulation strategy} {n : Nat} (earlier : n < sim.equityCurve.length) :
    (liquidate config strategy series sim).equityCurve.take n = sim.equityCurve.take n := by
  unfold liquidate
  split
  · have short : n ≤ sim.equityCurve.dropLast.length := by
      rw [List.length_dropLast]
      omega
    show (sim.equityCurve.dropLast ++ _).take n = _
    rw [List.take_append_of_le_length short, List.dropLast_eq_take, List.take_take]
    congr 1
    omega
  · rfl

/-- A run that ends has recorded, for its first bars, what the loop recorded for them. -/
theorem simulate_keeps {sim : Simulation strategy} {n : Nat}
    (ran : simulate config strategy series = .ok sim) (earlier : n < series.length) :
    ∃ before, after config strategy series n = .ok before ∧
      sim.equityCurve.take n = before.equityCurve := by
  obtain ⟨last, through, done⟩ := bind_eq_ok.1 ran
  cases done
  obtain ⟨before, reached⟩ := loop_earlier through earlier.le
  have points := after_equityCurve through (le_refl _)
  have fewer := after_equityCurve reached earlier.le
  have extends_ := after_extends earlier.le reached through
  refine ⟨before, reached, ?_⟩
  rw [liquidate_keeps (by omega), ← fewer]
  exact (List.prefix_iff_eq_take.1 extends_).symm

end

end Backtester

end AlgoTrader.Strategy
