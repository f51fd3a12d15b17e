/-
# Strategy.Reference -- the moving-average cross

The strategy compares two averages of closes, on the last bar and on the one before it.  Both
are taken from the end of the history by slices with negative bounds, so of a long history
only the last bars matter.

* `sliceBetween_suffix`, `sliceFrom_suffix` -- a slice that is counted from the end is that of any
  suffix long enough to hold it;
* `onMarketState_suffix` -- so the signal is that of any suffix with a bar more than the slow
  average needs;
* `same_signal` -- and the modes of trading, which keep histories of different lengths, agree.
-/
import AlgoTrader.Data.Candles
import AlgoTrader.Strategy.Accounting

namespace AlgoTrader.Strategy

open AlgoTrader.Core Brokers Data Theory Backtester

set_option autoImplicit false
set_option linter.dupNamespace false

/-! ## Slices -/

section Slices

variable {α : Type}

/-- Where a bound of a slice falls: counted from the end when it is negative, and within. -/
def sliceBound (length : Nat) (bound : Int) : Nat :=
  if bound < 0 then (length + bound).toNat else min bound.toNat length

/-- `xs[start:]`. -/
def sliceFrom (xs : List α) (start : Int) : List α := xs.drop (sliceBound xs.length start)

/-- `xs[start:stop]`. -/
def sliceBetween (xs : List α) (start stop : Int) : List α :=
  (xs.take (sliceBound xs.length stop)).drop (sliceBound xs.length start)

theorem sliceBound_append (before length : Nat) {bound : Int} (behind : bound < 0)
    (within : 0 ≤ length + bound) :
    sliceBound (before + length) bound = before + sliceBound length bound := by
  rw [sliceBound, sliceBound, if_pos behind, if_pos behind]
  omega

theorem sliceFrom_suffix {xs ys : List α} (suffix : ys <:+ xs) {start : Int} (behind : start < 0)
    (within : 0 ≤ ys.length + start) : sliceFrom xs start = sliceFrom ys start := by
  obtain ⟨before, rfl⟩ := suffix
  rw [sliceFrom, sliceFrom, List.length_append, sliceBound_append _ _ behind within,
    List.drop_length_add_append]

theorem sliceBetween_suffix {xs ys : List α} (suffix : ys <:+ xs) {start stop : Int} (behind : start < 0)
    (within : 0 ≤ ys.length + start) (stopBehind : stop < 0) (stopWithin : 0 ≤ ys.length + stop) :
    sliceBetween xs start stop = sliceBetween ys start stop := by
  obtain ⟨before, rfl⟩ := suffix
  rw [sliceBetween, sliceBetween, List.length_append, sliceBound_append _ _ behind within,
    sliceBound_append _ _ stopBehind stopWithin, List.take_length_add_append, List.drop_length_add_append]

theorem sliceFrom_isSuffix (xs : List α) (start : Int) : sliceFrom xs start <:+ xs := List.drop_suffix ..

end Slices

/-! ## The strategy -/

/-- One quantity serves every symbol; a mapping leaves any symbol it does not name without a
signal. -/
inductive QuantitySetting where
  | one (quantity : PositiveDecimal)
  | each (quantities : Dict String PositiveDecimal)

structure MovingAverageCrossStrategy where
  fast : Nat
  slow : Nat
  quantity : QuantitySetting
  fastPositive : 1 ≤ fast
  slower : fast < slow
  named : ∀ quantities, quantity = .each quantities → quantities.keys ≠ []

/-- What names a signal: `uuid5` in the namespace of URLs, and `datetime.isoformat`. -/
structure Naming where
  uuid5 : String → Uuid
  isoformat : Timestamp → String

/-- `_mean`. -/
def mean (values : List Decimal) : Decimal := values.sum / values.length

/-- The side of a signal, of the distance between the averages before the bar and after it. -/
def crossing (before after : Decimal) : Option OrderSide :=
  if before ≤ 0 ∧ 0 < after then some .buy
  else if 0 ≤ before ∧ after < 0 then some .sell
  else none

def sideValue : OrderSide → String
  | .buy => "buy"
  | .sell => "sell"

namespace MovingAverageCrossStrategy

variable (naming : Naming) (strategy : MovingAverageCrossStrategy)

/-- `strategy_version`. -/
def version : String := s!"ma-cross-{strategy.fast}-{strategy.slow}-v1"

/-- `_quantity_for`. -/
def quantityFor (symbol : String) : Option PositiveDecimal :=
  match strategy.quantity with
  | .one quantity => some quantity
  | .each quantities => quantities.get? symbol

/-- The signal on a bar. -/
def signal (symbol : String) (quantity : PositiveDecimal) (side : OrderSide) (bar : Candle) : Signal :=
  let key := s!"{strategy.version}|{symbol}|{naming.isoformat bar.closedAt}|{sideValue side}"
  { signalId := naming.uuid5 s!"algorithmic-crypto-trader:signal:{key}"
    symbol
    side
    quantity
    strategyVersion := strategy.version
    createdAt := bar.closedAt
    correlationId := naming.uuid5 s!"algorithmic-crypto-trader:correlation:{key}" }

/-- How far the fast average is above the slow one, before the last close and after it. -/
def distances (closes : List Decimal) : Decimal × Decimal :=
  (mean (sliceBetween closes (-strategy.fast - 1) (-1)) - mean (sliceBetween closes (-strategy.slow - 1) (-1)),
    mean (sliceFrom closes (-strategy.fast)) - mean (sliceFrom closes (-strategy.slow)))

/-- `on_market_state`. -/
def onMarketState (state : MarketState) : Option Signal := do
  let quantity ← strategy.quantityFor state.symbol
  let closes := state.candles.map fun candle => candle.close.1
  if closes.length ≤ strategy.slow then none
  else
    let distance := strategy.distances closes
    let side ← crossing distance.1 distance.2
    let bar ← state.candles.getLast?
    return strategy.signal naming state.symbol quantity side bar

variable {naming strategy}

theorem onMarketState_short {state : MarketState} (short : state.candles.length ≤ strategy.slow) :
    strategy.onMarketState naming state = none := by
  unfold onMarketState
  cases strategy.quantityFor state.symbol with
  | none => rfl
  | some quantity =>
      rw [Option.bind_eq_bind, Option.bind_some]
      dsimp only
      rw [List.length_map, if_pos short]

theorem distances_suffix {xs ys : List Decimal} (suffix : ys <:+ xs) (long : strategy.slow + 1 ≤ ys.length) :
    strategy.distances xs = strategy.distances ys := by
  have first := strategy.fastPositive
  have slower := strategy.slower
  unfold distances
  rw [sliceBetween_suffix suffix (by omega) (by omega) (by omega) (by omega),
    sliceBetween_suffix suffix (by omega) (by omega) (by omega) (by omega),
    sliceFrom_suffix suffix (by omega) (by omega), sliceFrom_suffix suffix (by omega) (by omega)]

/-- The signal of a history is that of any suffix with a bar more than the slow average needs. -/
theorem onMarketState_suffix {state state' : MarketState} (symbol : state'.symbol = state.symbol)
    (suffix : state'.candles <:+ state.candles) (long : strategy.slow + 1 ≤ state'.candles.length) :
    strategy.onMarketState naming state' = strategy.onMarketState naming state := by
  have longer := suffix.length_le
  have distances := strategy.distances_suffix (suffix.map fun candle => candle.close.1)
    (by rw [List.length_map]; exact long)
  have last : state.candles.getLast? = state'.candles.getLast? := by
    obtain ⟨before, whole⟩ := suffix
    have some : state'.candles ≠ [] := List.ne_nil_of_length_pos (by omega)
    rw [← whole, List.getLast?_append_of_ne_nil _ some]
  unfold onMarketState
  dsimp only
  rw [symbol, distances, last]
  congr 1
  funext quantity
  rw [List.length_map, List.length_map, if_neg (by omega), if_neg (by omega)]

end MovingAverageCrossStrategy

/-! ## The modes -/

/-- What a paper runtime is configured with: the strategy's windows, and how many bars it
keeps for them. -/
structure PaperWindows where
  historyBars : Nat
  fastWindow : Nat
  slowWindow : Nat
  fastPositive : 1 ≤ fastWindow
  slower : fastWindow < slowWindow
  longEnough : slowWindow + 1 ≤ historyBars

/-- `WEBSOCKET_CANDLE_INTERVAL`. -/
def candleInterval : String := "FIVE_MINUTE"

/-- `INTERVAL`. -/
def barDuration : Duration := 5 * 60 * 1000000

namespace PaperWindows

variable (windows : PaperWindows)

/-- The history that the strategy is shown with a closed live candle. -/
def closedHistory (store : CandleStore) (candle : Candle) : Except Exc (List Candle) := do
  let prior ← store.latest candle.symbol candleInterval (windows.historyBars - 1)
  let candles := sliceFrom (prior ++ [candle]) (-windows.historyBars)
  if candles.length < windows.slowWindow + 1 then
    .error (.valueError "closed-candle history is incomplete")
  else MarketDataValidator.standard.validateCandles candles barDuration

/-- The market state of a paper cycle. -/
def paperState (candle : Candle) (candles : List Candle) (quote : Quote) (observedAt : Timestamp) :
    MarketState where
  symbol := candle.symbol
  quote
  candles
  observedAt

variable {windows} {store : CandleStore} {candle : Candle} {earlier history : List Candle}

/-- The history is the end of what is stored and the candle, with as many bars as the slow
average needs and one more. -/
theorem closedHistory_ok (stored : store.read candle.symbol candleInterval <:+ earlier)
    (kept : windows.closedHistory store candle = .ok history) :
    history <:+ earlier ++ [candle] ∧ windows.slowWindow + 1 ≤ history.length := by
  obtain ⟨prior, latest, kept⟩ := bind_eq_ok.1 kept
  have part : prior <:+ earlier := by
    unfold CandleStore.latest at latest
    split at latest
    · cases latest
    · cases latest
      exact (List.drop_suffix ..).trans stored
  dsimp only at kept
  split at kept
  · cases kept
  · rename_i enough
    obtain ⟨rfl, _⟩ := MarketDataValidator.validateCandles_ok kept
    refine ⟨(sliceFrom_isSuffix _ _).trans ?_, not_lt.1 enough⟩
    obtain ⟨before, rfl⟩ := part
    exact ⟨before, (List.append_assoc ..).symm⟩

end PaperWindows

/-- Every bar of a valid series is of its symbol. -/
theorem symbol_of_continues {first : Candle} {rest : List Candle}
    (chain : (first :: rest).IsChain Continues) : ∀ bar ∈ first :: rest, bar.symbol = first.symbol := by
  induction rest generalizing first with
  | nil => simp
  | cons second rest ih =>
      obtain ⟨next, chain⟩ := List.isChain_cons_cons.1 chain
      intro bar member
      rcases List.mem_cons.1 member with rfl | later
      · rfl
      · exact (ih chain bar later).trans next.1

theorem symbolOf_valid {series : List Candle} (valid : validateSeries series = .ok ()) :
    ∀ bar ∈ series, bar.symbol = symbolOf series := by
  cases series with
  | nil => simp
  | cons first rest => exact symbol_of_continues (validateSeries_iff.1 valid).2

/-- **The same signal in every mode.**  The signal of a history is that of any suffix with at
least one bar more than the slow average needs, and there is none where the history is no
longer than that; so at each bar of a series the backtest behind its guard, the replay, which
shows the same bars, and the paper runtime, which has stored the last of the bars before, give one signal. -/
theorem same_signal (naming : Naming) (strategy : MovingAverageCrossStrategy) :
    (∀ state state' : MarketState, state'.symbol = state.symbol → state'.candles <:+ state.candles →
      strategy.slow + 1 ≤ state'.candles.length →
      strategy.onMarketState naming state' = strategy.onMarketState naming state) ∧
    (∀ state : MarketState, state.candles.length ≤ strategy.slow →
      strategy.onMarketState naming state = none) ∧
    ∀ (config : BacktestConfig) (windows : PaperWindows) (store : CandleStore) (series : List Candle)
      (index : Nat) (candle : Candle), config.enforceClosedBarGuard = true →
      windows.fastWindow = strategy.fast → windows.slowWindow = strategy.slow →
      validateSeries series = .ok () → series[index]? = some candle →
      store.read candle.symbol candleInterval <:+ series.take index →
      ∀ history, windows.closedHistory store candle = .ok history →
      ∀ quote observedAt,
        strategy.onMarketState naming (PaperWindows.paperState candle history quote observedAt) =
          strategy.onMarketState naming
            (marketState config (symbolOf series) candle (visible config series index)) := by
  refine ⟨fun _ _ => MovingAverageCrossStrategy.onMarketState_suffix,
    fun _ => MovingAverageCrossStrategy.onMarketState_short, ?_⟩
  intro config windows store series index candle guarded _ slow valid here stored history kept quote observedAt
  obtain ⟨suffix, long⟩ := PaperWindows.closedHistory_ok stored kept
  have shown : visible config series index = series.take index ++ [candle] := by
    rw [visible, if_pos guarded, List.take_add_one, here]
    rfl
  refine MovingAverageCrossStrategy.onMarketState_suffix ?_ ?_ ?_
  · exact symbolOf_valid valid candle (List.mem_of_getElem? here)
  · show history <:+ visible config series index
    rw [shown]
    exact suffix
  · rw [← slow]
    exact long

/-- Two bars against one. -/
def oneTwo : MovingAverageCrossStrategy where
  fast := 1
  slow := 2
  quantity := .one ⟨1, decimal_one⟩
  fastPositive := le_refl 1
  slower := Nat.lt_succ_self 1
  named _ never := nomatch never

def unnamed : Naming := ⟨fun _ => ⟨0⟩, fun _ => ""⟩

def fourHours : List Candle :=
  [NoLookAhead.still 0 ⟨110, NoLookAhead.decimal_higher⟩, NoLookAhead.still 1 ⟨110, NoLookAhead.decimal_higher⟩,
    NoLookAhead.still 2 ⟨100, decimal_hundred⟩, NoLookAhead.still 3 ⟨110, NoLookAhead.decimal_higher⟩]

def stateOf (config : BacktestConfig) (candles : List Candle) : MarketState :=
  marketState config "BTC-USD" (NoLookAhead.still 3 ⟨110, NoLookAhead.decimal_higher⟩) candles

/-- The price falls below its average and rises again: a buy, whatever came before. -/
theorem same_signal_rising :
    oneTwo.onMarketState unnamed (stateOf {} (fourHours.drop 1)) =
        oneTwo.onMarketState unnamed (stateOf {} fourHours) ∧
      (oneTwo.onMarketState unnamed (stateOf {} fourHours)).map Signal.side = some .buy :=
  ⟨(same_signal unnamed oneTwo).1 _ _ rfl (List.drop_suffix 1 fourHours) (by decide), by decide +kernel⟩

end AlgoTrader.Strategy
