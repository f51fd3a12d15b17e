/-
# Strategy.Periods -- a run told by year and by regime

A report groups the bars of a series by the year they close in, and by whether they close
above the bar before.  A trade is counted in the year it was entered in, and in no regime.

* `grouped` -- each grouping has every bar in exactly one group;
* `year_counts_iff` -- the years count every trade exactly when each was entered in a year
  that some bar closes in;
* `traded_iff` -- a run trades exactly when the strategy asks for a buy before the last bar;
* `groupings_count_iff` -- so both groupings count every trade exactly when it never does.
-/
import AlgoTrader.Strategy.Accounting
import AlgoTrader.Theory.Grouping

namespace AlgoTrader.Strategy

open AlgoTrader.Core Brokers Theory Backtester

set_option autoImplicit false
set_option linter.dupNamespace false

/-! ## Groups of bars -/

/-- Some results are those of the groups of a series, and each bar is in exactly one group,
that of its key. -/
structure Partitions (byYear : Bool) (series : List Candle) (periods : List (String × PeriodResult)) :
    Prop where
  named : periods.map Prod.fst = (periodIndexes byYear series).keys
  once : (periodIndexes byYear series).values.flatten.Perm (List.range series.length)
  keyed : ∀ key indexes, (key, indexes) ∈ (periodIndexes byYear series).entries →
    ∀ index, index ∈ indexes ↔ ∃ bar, series[index]? = some bar ∧
      periodKey byYear series index bar = key

theorem periodIndexes_groups (byYear : Bool) (series : List Candle) :
    periodIndexes byYear series =
      .groups (fun e => periodKey byYear series e.2 e.1) Prod.snd series.zipIdx := rfl

theorem grouped (byYear : Bool) (series : List Candle) (equity : List Decimal) (trades : List Trade)
    (flags : List Bool) :
    Partitions byYear series (groupPeriods series equity trades flags byYear) where
  named := by
    rw [groupPeriods, List.map_map]
    rfl
  once := by
    have all : (periodIndexes byYear series).values.flatten.Perm (series.zipIdx.map Prod.snd) :=
      Dict.groups_flatten series.zipIdx
    rw [List.zipIdx_map_snd, ← List.range_eq_range'] at all
    exact all
  keyed := by
    intro key indexes group index
    rw [periodIndexes_groups] at group
    obtain ⟨members, _⟩ := Dict.mem_groups group
    rw [members]
    simp only [List.mem_map, List.mem_filter, decide_eq_true_eq, Prod.exists, List.mem_zipIdx_iff_getElem?]
    constructor
    · rintro ⟨bar, _, ⟨here, own⟩, rfl⟩
      exact ⟨bar, here, own⟩
    · rintro ⟨bar, here, own⟩
      exact ⟨bar, index, ⟨here, own⟩, rfl⟩

/-! ## Counting trades -/

/-- The trades some periods count. -/
def tradesIn (periods : List (String × PeriodResult)) : Nat :=
  (periods.map fun period => period.2.tradeCount).sum

theorem period_count (series : List Candle) (equity : List Decimal) (trades : List Trade)
    (flags : List Bool) (byYear : Bool) :
    tradesIn (groupPeriods series equity trades flags byYear) =
      ((periodIndexes byYear series).keys.map fun key =>
        if byYear then trades.countP fun t => toString (yearOf t.entryAt) = key else 0).sum := by
  rw [tradesIn, groupPeriods, List.map_map, Dict.keys, List.map_map]
  congr 1
  refine List.map_congr_left fun e _ => ?_
  show (periodResult _ _ _ _).tradeCount = _
  unfold periodResult
  split
  · rfl
  · rfl

/-- A regime counts no trade. -/
theorem regime_count (series : List Candle) (equity : List Decimal) (trades : List Trade)
    (flags : List Bool) : tradesIn (groupPeriods series equity trades flags false) = 0 := by
  rw [period_count]
  simp

theorem mem_years {series : List Candle} {key : String} :
    key ∈ (periodIndexes true series).keys ↔ ∃ bar ∈ series, toString (yearOf bar.closedAt) = key := by
  rw [periodIndexes_groups, Dict.mem_keys_groups]
  constructor
  · rintro ⟨⟨bar, index⟩, member, own⟩
    obtain ⟨_, _, here⟩ := List.mem_zipIdx member
    exact ⟨bar, List.mem_of_getElem? (List.mem_zipIdx_iff_getElem?.1 member), own⟩
  · rintro ⟨bar, member, own⟩
    obtain ⟨index, here⟩ := List.mem_iff_getElem?.1 member
    exact ⟨(bar, index), List.mem_zipIdx_iff_getElem?.2 here, own⟩

/-- The years count every trade exactly when each was entered in a year some bar closes in. -/
theorem year_counts_iff (series : List Candle) (equity : List Decimal) (trades : List Trade)
    (flags : List Bool) :
    tradesIn (groupPeriods series equity trades flags true) = trades.length ↔
      ∀ trade ∈ trades, ∃ bar ∈ series,
        toString (yearOf bar.closedAt) = toString (yearOf trade.entryAt) := by
  have counts := sum_countP_keys (fun t : Trade => toString (yearOf t.entryAt)) trades
    (periodIndexes true series).nodup
  rw [period_count]
  simp only [if_true]
  rw [Dict.keys, counts, List.countP_eq_length]
  refine forall₂_congr fun trade _ => ?_
  rw [decide_eq_true_eq, ← mem_years]
  rfl

/-! ## Whether a run trades -/

/-- The strategy consulted on one bar, if that is not the last. -/
def consult (config : BacktestConfig) (strategy : Strategy) (series : List Candle) (index : Nat)
    (told : strategy.Memory × List Signal) : Except Exc (strategy.Memory × List Signal) :=
  match series[index]?, series[index + 1]? with
  | some candle, some _ => do
      let state := marketState config (symbolOf series) candle (visible config series index)
      let (signal, memory) ← strategy.onMarketState state told.1
      return (memory, told.2 ++ signal.toList)
  | _, _ => .ok told

/-- The signals a strategy gives when it is consulted on the bars of a series. -/
def signals (config : BacktestConfig) (strategy : Strategy) (series : List Candle) :
    Except Exc (List Signal) :=
  (loop (consult config strategy series) (strategy.fresh, []) series.length).map Prod.snd

/-- The strategy asks for no buy on any bar but the last. -/
def NeverBuys (config : BacktestConfig) (strategy : Strategy) (series : List Candle) : Prop :=
  ∀ given, signals config strategy series = .ok given → ∀ signal ∈ given, signal.side ≠ .buy

/-- Something was bought. -/
def Traded (account : Account) : Prop := account.trades ≠ [] ∨ account.holding ≠ none

section Trading

variable {config : BacktestConfig} {strategy : Strategy} {series : List Candle}

/-- A signal that can be filled starts trading exactly when it asks for a buy. -/
theorem fill_traded {symbol : String} {upcoming : Candle} {signal : Option Signal}
    {account account' : Account} (filled : fill config symbol upcoming signal account = .ok account') :
    Traded account' ↔ Traded account ∨ ∃ given ∈ signal.toList, given.side = .buy := by
  rcases fill_cases filled with
    ⟨given, rfl, buys, _, bought⟩ | ⟨given, held, rfl, _, holding, rfl⟩ | ⟨rfl, holds⟩
  · obtain ⟨held, _, rfl, _⟩ := buy_opens bought
    exact iff_of_true (.inr (Option.some_ne_none held)) (.inr ⟨given, by simp, buys⟩)
  · exact iff_of_true (.inl (by simp [sell])) (.inl (.inr (by simp [holding])))
  · refine (or_iff_left_of_imp ?_).symm
    rintro ⟨given, member, buys⟩
    exact .inr (holds given (Option.mem_toList.1 member) buys)

/-- The loop consults the strategy as `signals` does, and has traded exactly when one of its
answers was a buy. -/
theorem reached_traded {n : Nat} {sim : Simulation strategy}
    (reached : after config strategy series n = .ok sim) :
    ∃ given, loop (consult config strategy series) (strategy.fresh, []) n = .ok (sim.memory, given) ∧
      (Traded sim.account ↔ ∃ signal ∈ given, signal.side = .buy) := by
  refine loop_invariant (fun m s => ∃ given,
    loop (consult config strategy series) (strategy.fresh, []) m = .ok (s.memory, given) ∧
      (Traded s.account ↔ ∃ signal ∈ given, signal.side = .buy)) ?_ ?_ reached
  · exact ⟨[], rfl, by simp [Traded, start]⟩
  · rintro m s s' ⟨given, consulted, traded⟩ passed
    rcases pass_cases passed with
      ⟨past, same, unasked⟩ | ⟨candle, upcoming, signal, here, next, answered, filled⟩
    · refine ⟨given, loop_succ.2 ⟨_, consulted, ?_⟩, by rw [same]; exact traded⟩
      simp only [consult, past, unasked]
      cases series[m]? with
      | none => rfl
      | some candle => rfl
    · refine ⟨given ++ signal.toList, loop_succ.2 ⟨_, consulted, ?_⟩, ?_⟩
      · simp only [consult, here, next]
        exact bind_eq_ok.2 ⟨(signal, s'.memory), answered, rfl⟩
      · refine (fill_traded filled).trans ?_
        rw [traded]
        simp only [List.mem_append, or_and_right, exists_or]

/-- A run completes a trade exactly when the strategy asks for a buy. -/
theorem traded_iff (valid : validateSeries series = .ok ()) {sim : Simulation strategy}
    (ran : simulate config strategy series = .ok sim) :
    sim.account.trades = [] ↔ NeverBuys config strategy series := by
  obtain ⟨through, reached, done⟩ := bind_eq_ok.1 ran
  obtain ⟨given, consulted, traded⟩ := reached_traded reached
  have asked : signals config strategy series = .ok given := by
    rw [signals, consulted]
    rfl
  have never : NeverBuys config strategy series ↔ ¬Traded through.account := by
    rw [traded]
    constructor
    · rintro never ⟨signal, member, buys⟩
      exact never given asked signal member buys
    · intro never given' asked' signal member buys
      cases asked.symm.trans asked'
      exact never ⟨signal, member, buys⟩
  rw [never]
  obtain ⟨last, final⟩ : ∃ last, series.getLast? = some last := by
    cases series with
    | nil => cases (validateSeries_apart valid).1
    | cons first rest => exact ⟨_, List.getLast?_eq_some_getLast (List.cons_ne_nil _ _)⟩
  cases holding : through.account.holding with
  | none =>
      simp only [liquidate, holding] at done
      cases done
      simp [Traded, holding]
  | some held =>
      simp only [liquidate, holding, final] at done
      cases done
      simp [Traded, holding, sell]

/-- Each grouping has every bar once; they count every trade exactly when there is none, because
a regime counts none. -/
theorem groupings_count_iff {report : BacktestReport}
    (ran : run config strategy series = .ok report) :
    ((Partitions true series report.perYear ∧ Partitions false series report.perRegime) ∧
        tradesIn report.perYear = report.tradeCount ∧
        tradesIn report.perRegime = report.tradeCount) ↔
      NeverBuys config strategy series := by
  obtain ⟨valid, sim, simulated, told⟩ := run_ok ran
  obtain ⟨_, _, count, years, regimes⟩ := report_ok told
  rw [← traded_iff valid simulated, years, regimes, count, regime_count]
  constructor
  · rintro ⟨_, _, none⟩
    exact List.length_eq_zero_iff.1 none.symm
  · intro none
    refine ⟨⟨grouped _ _ _ _ _, grouped _ _ _ _ _⟩, ?_, ?_⟩
    · rw [year_counts_iff, none]
      intro trade member
      cases member
    · rw [none]
      rfl

end Trading

/-! ## A strategy that buys, and one that never does -/

open NoLookAhead in
/-- One trade, and every regime says there is none. -/
theorem regimesCountNothing :
    ¬ ∀ (config : BacktestConfig) (strategy : Strategy) (series : List Candle) (report : BacktestReport),
      run config strategy series = .ok report →
      (Partitions true series report.perYear ∧ Partitions false series report.perRegime) ∧
        tradesIn report.perYear = report.tradeCount ∧
        tradesIn report.perRegime = report.tradeCount := by
  intro counted
  have once : (run {} buyOnce rising).map BacktestReport.tradeCount = .ok 1 := by decide +kernel
  obtain ⟨report, ran, one⟩ := map_eq_ok.1 once
  obtain ⟨_, _, regimes⟩ := counted {} buyOnce rising report ran
  obtain ⟨_, sim, _, told⟩ := run_ok ran
  obtain ⟨_, _, _, _, groups⟩ := report_ok told
  rw [groups, regime_count, one] at regimes
  cases regimes

/-- A strategy that only watches. -/
def watchOnly : Strategy where
  Memory := Unit
  fresh := ()
  onMarketState _ _ := .ok (none, ())
  version := "watch-only-v1"

open NoLookAhead in
theorem groupings_count_iff_watchOnly : ∃ report, run {} watchOnly rising = .ok report ∧
    (Partitions true rising report.perYear ∧ Partitions false rising report.perRegime) ∧
      tradesIn report.perYear = report.tradeCount ∧
      tradesIn report.perRegime = report.tradeCount := by
  have returns : (run {} watchOnly rising).map (fun _ => ()) = .ok () := by decide +kernel
  obtain ⟨report, ran, _⟩ := map_eq_ok.1 returns
  have never : NeverBuys {} watchOnly rising := by
    intro given asked signal member
    have silent : signals {} watchOnly rising = .ok [] := rfl
    cases silent.symm.trans asked
    cases member
  exact ⟨report, ran, (groupings_count_iff ran).2 never⟩

end AlgoTrader.Strategy
