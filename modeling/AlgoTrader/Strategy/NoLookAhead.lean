/-
# Strategy.NoLookAhead -- what an equity point may depend on

Two series that agree on their bars up to one and both go on after it: a point of
the equity curve up to that bar should not tell them apart.  A signal given on a bar
is filled at the open of the next one before the bar's own point is recorded, so the
point of the bar does tell them apart when it makes a fill.

* `after_alike` -- before that bar nothing does;
* `equity_fill` -- on it, the points agree exactly when `FillsAlike` holds;
* `unforeseen_iff` -- the equity curves agree up to the bar exactly then.
-/
import AlgoTrader.Strategy.Backtest

namespace AlgoTrader.Strategy

open AlgoTrader.Core Brokers Theory Backtester

set_option autoImplicit false
set_option linter.dupNamespace false

/-- What the strategy answers on a bar of either series is the same. -/
def AnswersAlike (config : BacktestConfig) (strategy : Strategy) (series series' : List Candle)
    (index : Nat) : Prop :=
  ∀ candle memory, series[index]? = some candle →
    strategy.onMarketState
        (marketState config (symbolOf series) candle (visible config series index)) memory =
      strategy.onMarketState
        (marketState config (symbolOf series') candle (visible config series' index)) memory

/-- A signal has the same effect at the open of either bar: it makes no fill, the bars
open at one price, or the fee takes all that a sale brings. -/
def FillsAlike (costs : CostAssumptions) (signal : Option Signal) (holding : Option Holding)
    (upcoming upcoming' : Candle) : Prop :=
  ∀ given, signal = some given →
    match given.side, holding with
    | .buy, none => upcoming.openPrice = upcoming'.openPrice
    | .sell, some _ => upcoming.openPrice = upcoming'.openPrice ∨ costs.takerFeeRate.1 = 1
    | _, _ => True

/-- What the points up to a bar are recorded from does not depend on what comes after it:
the strategy answers alike up to the bar, and the signal it gives on the bar, from the
state before it, is filled alike. -/
structure Unforeseen (config : BacktestConfig) (strategy : Strategy) (series series' : List Candle)
    (index : Nat) : Prop where
  answers : ∀ earlier ≤ index, AnswersAlike config strategy series series' earlier
  fills : ∀ sim candle upcoming upcoming' signal memory,
    after config strategy series index = .ok sim → series[index]? = some candle →
    series[index + 1]? = some upcoming → series'[index + 1]? = some upcoming' →
    strategy.onMarketState
        (marketState config (symbolOf series) candle (visible config series index)) sim.memory =
      .ok (signal, memory) →
    FillsAlike config.costs signal sim.account.holding upcoming upcoming'

section

variable {config : BacktestConfig} {strategy : Strategy} {series series' : List Candle}
  {index : Nat}

/-! ## Before the bar -/

theorem getElem?_alike (agree : series.take (index + 1) = series'.take (index + 1)) {earlier : Nat}
    (within : earlier ≤ index) : series[earlier]? = series'[earlier]? := by
  have same := congrArg (fun bars => bars[earlier]?) agree
  simpa [List.getElem?_take, Nat.lt_succ_of_le within] using same

theorem symbol_alike (agree : series.take (index + 1) = series'.take (index + 1)) :
    symbolOf series = symbolOf series' := by
  have first := getElem?_alike agree (Nat.zero_le index)
  unfold symbolOf
  rw [List.head?_eq_getElem?, List.head?_eq_getElem?, first]

/-- With the guard, a strategy is shown nothing of what comes after a bar. -/
theorem answersAlike_of_guard (guarded : config.enforceClosedBarGuard = true)
    (agree : series.take (index + 1) = series'.take (index + 1)) {earlier : Nat}
    (within : earlier ≤ index) : AnswersAlike config strategy series series' earlier := by
  intro candle memory _
  have shown : series.take (earlier + 1) = series'.take (earlier + 1) := by
    have shorter := congrArg (List.take (earlier + 1)) agree
    simpa [List.take_take, Nat.min_eq_left (Nat.succ_le_succ within)] using shorter
  simp only [visible, guarded, if_true, shown, symbol_alike agree]

/-- Up to a bar both series lead to the same state. -/
theorem after_alike (agree : series.take (index + 1) = series'.take (index + 1))
    (answers : ∀ earlier ≤ index, AnswersAlike config strategy series series' earlier) :
    after config strategy series index = after config strategy series' index := by
  refine loop_congr fun earlier before => ?_
  have here := getElem?_alike agree before.le
  have next := getElem?_alike agree before
  have symbol := symbol_alike agree
  funext sim
  unfold Backtester.pass
  rw [← here]
  cases found : series[earlier]? with
  | none => rfl
  | some candle =>
      have answer := answers earlier before.le candle sim.memory found
      simp only [bar, trade]
      rw [← next, ← symbol]
      rw [← symbol] at answer
      rw [answer]

/-! ## On the bar -/

/-- What a buy costs, for each unit of the opening price. -/
def buyRate (config : BacktestConfig) (requested : PositiveDecimal) : Decimal :=
  requested * config.costs.partialFillRatio * (1 + executionCostRate config.costs) *
    (1 + config.costs.takerFeeRate)

theorem buyRate_pos (requested : PositiveDecimal) : 0 < buyRate config requested := by
  have quantity : 0 < requested.1 * config.costs.partialFillRatio :=
    mul_pos requested.2 config.costs.partialFillBounds.1
  have price : 0 < 1 + executionCostRate config.costs := by
    linarith [executionCostRate_nonneg config.costs]
  have fee : 0 < 1 + config.costs.takerFeeRate.1 := by
    linarith [config.costs.takerFeeRate.2]
  exact mul_pos (mul_pos quantity price) fee

/-- What a sale brings, for each unit of the opening price. -/
def sellRate (config : BacktestConfig) (holding : Holding) : Decimal :=
  holding.quantity * (1 - executionCostRate config.costs) * (1 - config.costs.takerFeeRate)

theorem sellRate_eq_zero (holding : Holding) :
    sellRate config holding = 0 ↔ config.costs.takerFeeRate.1 = 1 := by
  have quantity : holding.quantity.1 ≠ 0 := holding.quantity.2.ne'
  have price : 1 - executionCostRate config.costs ≠ 0 := by
    have below := executionCostRate_lt_one config.costs
    intro zero
    linarith
  constructor
  · intro zero
    rcases mul_eq_zero.1 zero with left | fee
    · exact absurd left (mul_ne_zero quantity price)
    · linarith
  · intro all
    unfold sellRate
    rw [all, sub_self, mul_zero]

theorem buy_ok {requested : PositiveDecimal} {upcoming : Candle} {account account' : Account}
    (bought : buy config requested upcoming account = .ok account') :
    account'.cash = account.cash - buyRate config requested * upcoming.openPrice ∧
      position account'.holding = requested * config.costs.partialFillRatio := by
  simp only [buy] at bought
  split at bought
  · cases bought
  · cases bought
    refine ⟨?_, rfl⟩
    show account.cash - _ = _
    simp only [buyRate, takerFee, executionPrice]
    ring

theorem sell_cash (symbol : String) (holding : Holding) (price : PositiveDecimal) (at_ : Timestamp)
    (account : Account) :
    (sell config symbol holding price at_ account).cash =
      account.cash + sellRate config holding * price := by
  show account.cash + _ = _
  simp only [sellRate, takerFee, executionPrice]
  ring

/-- Bought at the open of one bar or of another, the account is worth the same exactly at one price. -/
theorem equity_buy {requested : PositiveDecimal} {account left left' : Account} {upcoming upcoming' : Candle}
    (price : PositiveDecimal) (bought : buy config requested upcoming account = .ok left)
    (bought' : buy config requested upcoming' account = .ok left') :
    left.equity price = left'.equity price ↔ upcoming.openPrice = upcoming'.openPrice := by
  obtain ⟨cash, held⟩ := buy_ok bought
  obtain ⟨cash', held'⟩ := buy_ok bought'
  have rate : 0 < buyRate config requested := buyRate_pos requested
  unfold Account.equity
  rw [cash, cash', held, held']
  constructor
  · intro same
    have costs : buyRate config requested * upcoming.openPrice =
        buyRate config requested * upcoming'.openPrice := by linarith
    exact Subtype.ext (mul_left_cancel₀ rate.ne' costs)
  · intro same
    rw [same]

/-- Sold at one price or at another, the account is worth the same only if the fee takes everything. -/
theorem equity_sell (symbol : String) (holding : Holding) (opened opened' price : PositiveDecimal)
    (at_ at' : Timestamp) (account : Account) :
    (sell config symbol holding opened at_ account).equity price =
        (sell config symbol holding opened' at' account).equity price ↔
      opened = opened' ∨ config.costs.takerFeeRate.1 = 1 := by
  have flat : ∀ opened at_, position (sell config symbol holding opened at_ account).holding = 0 :=
    fun _ _ => rfl
  unfold Account.equity
  rw [sell_cash, sell_cash, flat opened, flat opened', ← sellRate_eq_zero holding]
  constructor
  · intro same
    have brought : sellRate config holding * opened = sellRate config holding * opened' := by linarith
    by_cases zero : sellRate config holding = 0
    · exact .inr zero
    · exact .inl (Subtype.ext (mul_left_cancel₀ zero brought))
  · rintro (same | zero)
    · rw [same]
    · simp only [zero, zero_mul]

/-- Where a signal is filled at the open of one bar or of another, the account is worth
the same exactly when the fills are alike. -/
theorem equity_fill {symbol : String} {signal : Option Signal} {account left left' : Account}
    {upcoming upcoming' : Candle} (price : PositiveDecimal)
    (filled : fill config symbol upcoming signal account = .ok left)
    (filled' : fill config symbol upcoming' signal account = .ok left') :
    left.equity price = left'.equity price ↔
      FillsAlike config.costs signal account.holding upcoming upcoming' := by
  cases signal with
  | none =>
      cases filled
      cases filled'
      exact ⟨fun _ given => by rintro ⟨⟩, fun _ => rfl⟩
  | some given =>
      have alike_iff : FillsAlike config.costs (some given) account.holding upcoming upcoming' ↔
          match given.side, account.holding with
          | .buy, none => upcoming.openPrice = upcoming'.openPrice
          | .sell, some _ =>
              upcoming.openPrice = upcoming'.openPrice ∨ config.costs.takerFeeRate.1 = 1
          | _, _ => True := by
        constructor
        · intro alike
          exact alike given rfl
        · rintro alike _ ⟨⟩
          exact alike
      rw [alike_iff]
      simp only [fill] at filled filled'
      split at filled
      · cases filled
      · rename_i own
        rw [if_neg own] at filled'
        cases side : given.side with
        | buy =>
            cases held : account.holding with
            | some holding =>
                simp only [side, held] at filled filled' ⊢
                cases filled
                cases filled'
                simp
            | none =>
                simp only [side, held] at filled filled' ⊢
                exact equity_buy price filled filled'
        | sell =>
            cases held : account.holding with
            | none =>
                simp only [side, held] at filled filled' ⊢
                cases filled
                cases filled'
                simp
            | some holding =>
                simp only [side, held] at filled filled' ⊢
                cases filled
                cases filled'
                exact equity_sell ..

/-! ## The equity curve up to a bar -/

/-- The account the strategy's signal leaves on a bar that is not the last, and the point
recorded for it. -/
theorem after_point {sim : Simulation strategy}
    (reached : after config strategy series (index + 1) = .ok sim)
    (goesOn : index + 1 < series.length) :
    ∃ before candle upcoming signal account memory,
      after config strategy series index = .ok before ∧ series[index]? = some candle ∧
      series[index + 1]? = some upcoming ∧
      strategy.onMarketState
          (marketState config (symbolOf series) candle (visible config series index))
          before.memory = .ok (signal, memory) ∧
      fill config (symbolOf series) upcoming signal before.account = .ok account ∧
      sim.equityCurve = before.equityCurve ++ [account.equity candle.close] := by
  have here : series[index]? = some series[index] := List.getElem?_eq_getElem (by omega)
  have next : series[index + 1]? = some series[index + 1] := List.getElem?_eq_getElem goesOn
  obtain ⟨before, through, passed⟩ := loop_succ.1 reached
  rw [pass_at here] at passed
  obtain ⟨account, memory, traded, rfl⟩ := bar_ok.1 passed
  obtain ⟨signal, answered, filled⟩ := (trade_ok next).1 traded
  exact ⟨before, _, _, signal, account, memory, through, here, next, answered, filled, rfl⟩

/-- **The points up to a bar agree when they are unforeseen**, and with the closed-bar
guard only then. -/
theorem unforeseen_iff {sim sim' : Simulation strategy}
    (goesOn : index + 1 < series.length) (goesOn' : index + 1 < series'.length)
    (agree : series.take (index + 1) = series'.take (index + 1))
    (reached : after config strategy series (index + 1) = .ok sim)
    (reached' : after config strategy series' (index + 1) = .ok sim') :
    (Unforeseen config strategy series series' index → sim.equityCurve = sim'.equityCurve) ∧
      (config.enforceClosedBarGuard = true → sim.equityCurve = sim'.equityCurve →
        Unforeseen config strategy series series' index) := by
  obtain ⟨before, candle, upcoming, signal, account, memory, through, here, next, answered, filled,
    curve⟩ := after_point reached goesOn
  obtain ⟨before', candle', upcoming', signal', account', memory', through', here', next',
    answered', filled', curve'⟩ := after_point reached' goesOn'
  have symbol := symbol_alike agree
  have bars := getElem?_alike agree (le_refl index)
  rw [here, here'] at bars
  cases bars
  -- Where the answers are alike the two runs stand in one state and take one signal.
  have alike : (∀ earlier ≤ index, AnswersAlike config strategy series series' earlier) →
      before' = before ∧ signal' = signal := by
    intro answers
    have same := after_alike agree answers
    rw [through, through'] at same
    cases same
    have answer := answers index (le_refl index) candle before.memory here
    rw [answered, answered'] at answer
    cases answer
    exact ⟨rfl, rfl⟩
  constructor
  · intro unforeseen
    obtain ⟨rfl, rfl⟩ := alike unforeseen.answers
    rw [← symbol] at filled'
    have fills := unforeseen.fills _ _ _ _ _ _ through here next next' answered
    rw [curve, curve', (equity_fill candle.close filled filled').2 fills]
  · intro guarded same
    have answers : ∀ earlier ≤ index, AnswersAlike config strategy series series' earlier :=
      fun earlier within => answersAlike_of_guard guarded agree within
    obtain ⟨rfl, rfl⟩ := alike answers
    rw [← symbol] at filled'
    rw [curve, curve'] at same
    have point : account.equity candle.close = account'.equity candle.close := by
      simpa using same
    have fills := (equity_fill candle.close filled filled').1 point
    refine ⟨answers, ?_⟩
    intro sim₁ candle₁ a a' signal₁ memory₁ through₁ here₁ next₁ next₁' answered₁
    rw [through] at through₁
    cases through₁
    rw [here] at here₁
    cases here₁
    rw [next] at next₁
    cases next₁
    rw [next'] at next₁'
    cases next₁'
    rw [answered] at answered₁
    cases answered₁
    exact fills

end

/-! ## Two series that part after their first bar -/

namespace NoLookAhead

/-- An hour during which the price stands still. -/
def still (hour : Int) (price : PositiveDecimal) : Candle where
  symbol := "BTC-USD"
  interval := "ONE_HOUR"
  openedAt := hour * 3600000000
  closedAt := (hour + 1) * 3600000000
  openPrice := price
  high := price
  low := price
  close := price
  volume := ⟨0, decimal_zero⟩
  source := "coinbase-advanced-trade"
  asOf := (hour + 1) * 3600000000
  ingestedAt := (hour + 1) * 3600000000
  closeAfterOpen := Int.mul_lt_mul_of_pos_right (Int.lt_succ hour) (by decide)
  highIsHigh := le_refl _
  lowIsLow := le_refl _
  closeIsWithinBar := ⟨le_refl _, le_refl _⟩

theorem decimal_higher : (0 : Decimal) < 110 := by decide

/-- The price rises after the first hour. -/
def rising : List Candle :=
  [still 0 ⟨100, decimal_hundred⟩, still 1 ⟨110, decimal_higher⟩, still 2 ⟨110, decimal_higher⟩]

/-- The price stays. -/
def level : List Candle :=
  [still 0 ⟨100, decimal_hundred⟩, still 1 ⟨100, decimal_hundred⟩, still 2 ⟨100, decimal_hundred⟩]

/-- Buy one unit on the first bar. -/
def buyOnce : Strategy where
  Memory := Bool
  fresh := false
  onMarketState state emitted :=
    if emitted then .ok (none, true)
    else .ok (some
      { signalId := ⟨1⟩, symbol := state.symbol, side := .buy, quantity := ⟨1, decimal_one⟩
        strategyVersion := "always-buy-v1", createdAt := state.observedAt, correlationId := ⟨2⟩ },
      true)
  version := "always-buy-v1"

/-- The first points of the loop over a series. -/
def points (series : List Candle) (n : Nat) : Option (List Decimal) :=
  (after {} buyOnce series n).toOption.map Simulation.equityCurve

/-- The points of a run that ended. -/
def curve (series : List Candle) : Option (List Decimal) :=
  (simulate {} buyOnce series).toOption.map Simulation.equityCurve

theorem ok_of_map {σ : Type} {x : Except Exc σ} {read : σ → List Decimal} {points : List Decimal}
    (ran : x.toOption.map read = some points) : ∃ s, x = .ok s ∧ read s = points := by
  cases x with
  | error exc => cases ran
  | ok s => exact ⟨s, rfl, Option.some.inj ran⟩

end NoLookAhead

open NoLookAhead in
/-- The first bar's fill is foreseen where the price is about to rise. -/
theorem unforeseen_iff_rising : ¬ Unforeseen {} buyOnce rising level 0 := by
  have rose : points rising 1 = some [99990] := by decide +kernel
  have stayed : points level 1 = some [100000] := by decide +kernel
  obtain ⟨sim, reached, read⟩ := ok_of_map rose
  obtain ⟨sim', reached', read'⟩ := ok_of_map stayed
  intro unforeseen
  have first : rising.take (0 + 1) = level.take (0 + 1) := rfl
  have same := (unforeseen_iff (by decide) (by decide) first reached reached').1 unforeseen
  rw [read, read'] at same
  exact absurd same (by decide)

open NoLookAhead in
/-- The equity of the first bar tells where the second one opens. -/
theorem equityForesees :
    ¬ ∀ (config : BacktestConfig) (strategy : Strategy) (series series' : List Candle)
        (index : Nat) (sim sim' : Simulation strategy),
      validateSeries series = .ok () → validateSeries series' = .ok () →
      index + 1 < series.length → index + 1 < series'.length →
      series.take (index + 1) = series'.take (index + 1) →
      (run config strategy series).isOk = true → (run config strategy series').isOk = true →
      simulate config strategy series = .ok sim → simulate config strategy series' = .ok sim' →
      sim.equityCurve.take (index + 1) = sim'.equityCurve.take (index + 1) := by
  intro blind
  have rose : curve rising = some [99990, 100000, 100000] := by decide +kernel
  have stayed : curve level = some [100000, 100000, 100000] := by decide +kernel
  obtain ⟨sim, ran, read⟩ := ok_of_map rose
  obtain ⟨sim', ran', read'⟩ := ok_of_map stayed
  have same := blind {} buyOnce rising level 0 sim sim' rfl rfl (by decide) (by decide) rfl
    (by decide +kernel) (by decide +kernel) ran ran'
  rw [read, read'] at same
  exact absurd same (by decide)

end AlgoTrader.Strategy
