/-
# App.WatchFeedRuns -- what a cycle of the watch-only feed does to each symbol

A cycle that runs to its end leaves every watched symbol with the status its own
answers give it (`expected`): reset, put off, or untouched because it was not due.
Nothing of one symbol enters another's.  It runs to its end unless one of the steps
outside the guard raises.

* `visit_spec` -- one turn of the loop;
* `visitAll_spec` -- the loop, by induction on the symbols that are left;
* `cycle_isolated_iff` -- when a cycle does what the feed is for.
-/
import Mathlib.Algebra.Order.Ring.Int
import AlgoTrader.App.WatchFeed
import AlgoTrader.Theory.Raising

namespace AlgoTrader.App.WatchFeed

open AlgoTrader.Core
open AlgoTrader.Data
open AlgoTrader.Theory

set_option autoImplicit false

/-! ## The back-off -/

theorem delayOf_small {doublings : Nat} (small : doublings ≤ 40) :
    delayOf doublings = some (firstBackoff * 2 ^ doublings) := by
  have power : (2 : Int) ^ doublings ≤ 2 ^ 40 := pow_le_pow_right₀ (by decide) small
  have bound : firstBackoff * 2 ^ 40 ≤ maxDelta := by decide
  refine if_pos (Int.le_trans ?_ bound)
  exact Int.mul_le_mul_of_nonneg_left power (by decide)

theorem delayOf_large {doublings : Nat} (large : 41 ≤ doublings) : delayOf doublings = none := by
  have power : (2 : Int) ^ 41 ≤ 2 ^ doublings := pow_le_pow_right₀ (by decide) large
  have bound : maxDelta < firstBackoff * 2 ^ 41 := by decide
  refine if_neg (Int.not_le.2 (Int.lt_of_lt_of_le bound ?_))
  exact Int.mul_le_mul_of_nonneg_left power (by decide)

/-- Thirty minutes, or 2^(n-1) of them if that is less. -/
def delayAfter (failures : Nat) : Duration := min (30 * minute) (2 ^ (failures - 1) * minute)

/-- The status of a symbol whose collection has failed once more. -/
def putOff (env : Surroundings) (status : SymbolFeedStatus) (e : FeedError) : SymbolFeedStatus :=
  { symbol := status.symbol
    lastCandleAt := status.lastCandleAt
    failures := status.failures + 1
    lastError := some (describe e)
    nextAttemptAt := some (env.now + delayAfter (status.failures + 1)) }

theorem fail_small {env : Surroundings} {status : SymbolFeedStatus} (e : FeedError)
    (small : status.failures ≤ 40) : fail env status e = (putOff env status e, none) := by
  have delay : delayOf (status.failures + 1 - 1) = _ := delayOf_small (by omega)
  simp only [fail, delay, putOff, delayAfter, maxBackoff, firstBackoff, Int.mul_comm]

theorem fail_large {env : Surroundings} {status : SymbolFeedStatus} (e : FeedError)
    (large : 41 ≤ status.failures) : (fail env status e).2 = some .overflowError := by
  have delay : delayOf (status.failures + 1 - 1) = none := delayOf_large (by omega)
  simp only [fail, delay]

/-! ## One symbol -/

/-- What a symbol's own answers make of its status. -/
def expected (env : Surroundings) (status : SymbolFeedStatus) : SymbolFeedStatus :=
  if due env status then
    match (collect env status.symbol).2 with
    | .ok last => ⟨status.symbol, last, 0, none, none⟩
    | .error e => putOff env status e
  else status

/-- The symbol has a status, and 41 failures behind it only if it is not due or its
collection succeeds. -/
def Steady (env : Surroundings) (symbol : String) (kept : Option SymbolFeedStatus) : Prop :=
  ∃ status, statusOf env symbol kept = .ok status ∧
    (due env status = true → 41 ≤ status.failures →
      ∃ last, (collect env status.symbol).2 = .ok last)

namespace Feed

variable {feed : Feed}

theorem status?_symbol {symbol : String} {status : SymbolFeedStatus}
    (kept : feed.status? symbol = some status) : status.symbol = symbol :=
  feed.keyed _ (Dict.get?_eq_some.1 kept)

theorem status?_put (status : SymbolFeedStatus) (symbol : String) :
    (feed.put status).status? symbol =
      if symbol = status.symbol then some status else feed.status? symbol :=
  Dict.get?_set _ _ _ _

theorem status?_drop (gone symbol : String) :
    (feed.drop gone).status? symbol = if symbol = gone then none else feed.status? symbol :=
  Dict.get?_erase _ _ _

theorem status?_foldl_drop {gone : List String} {symbol : String} (stays : symbol ∉ gone) :
    (gone.foldl drop feed).status? symbol = feed.status? symbol := by
  induction gone generalizing feed with
  | nil => rfl
  | cons first rest ih =>
    simp only [List.mem_cons, not_or] at stays
    rw [List.foldl_cons, ih stays.2, status?_drop, if_neg stays.1]

theorem status?_keepOnly {symbols : List String} {symbol : String} (watched : symbol ∈ symbols) :
    (feed.keepOnly symbols).status? symbol = feed.status? symbol :=
  status?_foldl_drop fun gone => by simp [watched] at gone

theorem nextPrune_keepOnly (symbols : List String) :
    (feed.keepOnly symbols).nextPrune = feed.nextPrune := by
  have same : ∀ (gone : List String) (feed : Feed),
      (gone.foldl drop feed).nextPrune = feed.nextPrune := by
    intro gone
    induction gone with
    | nil => exact fun _ => rfl
    | cons first rest ih => exact fun feed => ih (feed.drop first)
  exact same _ feed

end Feed

theorem statusOf_symbol {env : Surroundings} {feed : Feed} {symbol : String}
    {status : SymbolFeedStatus} (opened : statusOf env symbol (feed.status? symbol) = .ok status) :
    status.symbol = symbol := by
  cases kept : feed.status? symbol with
  | some known =>
    rw [kept] at opened
    cases opened
    exact Feed.status?_symbol kept
  | none =>
    rw [kept] at opened
    obtain ⟨last, _, rfl⟩ := map_eq_ok.1 opened
    rfl

section Turns

variable {env : Surroundings} {symbol : String} {cycle : Cycle}

/-- A turn changes the symbol's own status as expected, calls for it alone if it is
due, and leaves the time of the next pruning. -/
structure Turned (env : Surroundings) (symbol : String) (status : SymbolFeedStatus)
    (before after : Cycle) : Prop where
  own : after.feed.status? symbol = some (expected env status)
  others : ∀ other, other ≠ symbol → after.feed.status? other = before.feed.status? other
  calls : after.calls = before.calls ++ if due env status then [.collect symbol] else []
  nextPrune : after.feed.nextPrune = before.feed.nextPrune

theorem turned_put {status new : SymbolFeedStatus} {feed : Feed} {calls : List Call}
    (named : status.symbol = symbol) (same : new = expected env status)
    (statuses : feed.statuses = (cycle.feed.put status).statuses)
    (nextPrune : feed.nextPrune = cycle.feed.nextPrune) (newSymbol : new.symbol = symbol)
    (made : calls = cycle.calls ++ if due env status then [.collect symbol] else []) :
    Turned env symbol status cycle ⟨feed.put new, calls⟩ where
  own := by rw [Feed.status?_put, if_pos newSymbol.symm, same]
  others other differ := by
    rw [Feed.status?_put, if_neg (newSymbol ▸ differ)]
    have put : (cycle.feed.put status).status? other = _ := Feed.status?_put status other
    rw [if_neg (named ▸ differ)] at put
    rw [← put, Feed.status?, Feed.status?, statuses]
  calls := made
  nextPrune := nextPrune

/-- A turn that gets a status ends the cycle only when its collection fails once too
often. -/
theorem visit_spec {status : SymbolFeedStatus}
    (opened : statusOf env symbol (cycle.feed.status? symbol) = .ok status) :
    (Steady env symbol (cycle.feed.status? symbol) ∧
      ∃ after, visit env symbol cycle = (after, none) ∧ Turned env symbol status cycle after) ∨
    (¬Steady env symbol (cycle.feed.status? symbol) ∧
      ∃ after, visit env symbol cycle = (after, some .overflowError)) := by
  have named := statusOf_symbol opened
  have steady : Steady env symbol (cycle.feed.status? symbol) ↔
      (due env status = true → 41 ≤ status.failures →
        ∃ last, (collect env status.symbol).2 = .ok last) := by
    rw [Steady, opened]
    simp
  rw [visit, opened, steady]
  by_cases isDue : due env status = true
  swap
  · refine .inl ⟨fun is => absurd is isDue, _, if_neg isDue, ?_⟩
    refine ⟨?_, fun other differ => ?_, ?_, rfl⟩
    · rw [Feed.status?_put, if_pos named.symm, expected, if_neg isDue]
    · rw [Feed.status?_put, if_neg (named ▸ differ)]
    · simp [isDue]
  dsimp only
  rw [if_pos isDue, attempt]
  cases outcome : (collect env status.symbol).2 with
  | ok last =>
    refine .inl ⟨fun _ _ => ⟨last, rfl⟩, _, rfl, ?_⟩
    refine turned_put named ?_ rfl rfl named ?_
    · rw [expected, if_pos isDue, outcome]
      rfl
    · rw [if_pos isDue, named]
  | error e =>
    by_cases large : 41 ≤ status.failures
    · refine .inr ⟨fun succeeds => ?_, _, Prod.ext rfl (fail_large e large)⟩
      obtain ⟨last, never⟩ := succeeds isDue large
      cases never
    · simp only [settle, fail_small e (Nat.le_of_not_lt large)]
      refine .inl ⟨fun _ is => absurd is large, _, rfl, ?_⟩
      refine turned_put named ?_ rfl rfl named ?_
      · rw [expected, if_pos isDue, outcome]
      · rw [if_pos isDue, named]

end Turns

/-! ## The loop -/

/-- Whether a symbol is due, from the status kept of it. -/
def dueNow (env : Surroundings) (kept : Option SymbolFeedStatus) : Bool := kept.all (due env)

theorem due_statusOf {env : Surroundings} {symbol : String} {kept : Option SymbolFeedStatus}
    {status : SymbolFeedStatus} (opened : statusOf env symbol kept = .ok status) :
    due env status = dueNow env kept := by
  cases kept with
  | some known =>
    cases opened
    rfl
  | none =>
    obtain ⟨last, _, rfl⟩ := map_eq_ok.1 opened
    rfl

/-- Every symbol of the loop has the status its own answers give it, and those that
were due have been collected. -/
structure Passed (env : Surroundings) (symbols : List String) (before after : Cycle) : Prop where
  own : ∀ symbol ∈ symbols, ∃ status,
    statusOf env symbol (before.feed.status? symbol) = .ok status ∧
      after.feed.status? symbol = some (expected env status)
  others : ∀ other, other ∉ symbols → after.feed.status? other = before.feed.status? other
  calls : after.calls = before.calls ++
    (symbols.filter fun symbol => dueNow env (before.feed.status? symbol)).map .collect
  nextPrune : after.feed.nextPrune = before.feed.nextPrune

theorem Passed.cons {env : Surroundings} {symbol : String} {rest : List String}
    {status : SymbolFeedStatus} {before middle after : Cycle}
    (opened : statusOf env symbol (before.feed.status? symbol) = .ok status)
    (alone : symbol ∉ rest) (turn : Turned env symbol status before middle)
    (passed : Passed env rest middle after) : Passed env (symbol :: rest) before after where
  own := by
    intro other member
    rcases List.mem_cons.1 member with rfl | later
    · exact ⟨status, opened, by rw [passed.others other alone, turn.own]⟩
    · obtain ⟨status, opened, reached⟩ := passed.own other later
      rw [turn.others other fun same => alone (same ▸ later)] at opened
      exact ⟨status, opened, reached⟩
  others := by
    intro other absent
    simp only [List.mem_cons, not_or] at absent
    rw [passed.others other absent.2, turn.others other absent.1]
  calls := by
    have same : rest.filter (fun other => dueNow env (middle.feed.status? other)) =
        rest.filter fun other => dueNow env (before.feed.status? other) := by
      refine List.filter_congr fun other later => ?_
      rw [turn.others other fun same => alone (same ▸ later)]
    rw [passed.calls, turn.calls, due_statusOf opened, same, List.filter_cons]
    by_cases isDue : dueNow env (before.feed.status? symbol) = true
    · simp [isDue]
    · simp [isDue]
  nextPrune := passed.nextPrune.trans turn.nextPrune

/-- The loop runs to its end exactly when every symbol is steady. -/
theorem visitAll_spec (env : Surroundings) {symbols : List String} (distinct : symbols.Nodup)
    (cycle : Cycle) :
    ((∀ symbol ∈ symbols, Steady env symbol (cycle.feed.status? symbol)) ∧
      ∃ after, visitAll env symbols cycle = (after, none) ∧ Passed env symbols cycle after) ∨
    (¬(∀ symbol ∈ symbols, Steady env symbol (cycle.feed.status? symbol)) ∧
      ∃ after escape, visitAll env symbols cycle = (after, some escape)) := by
  induction symbols generalizing cycle with
  | nil => exact .inl ⟨nofun, cycle, rfl, ⟨nofun, fun _ _ => rfl, by simp, rfl⟩⟩
  | cons symbol rest ih =>
    obtain ⟨alone, distinct⟩ := List.nodup_cons.1 distinct
    cases opened : statusOf env symbol (cycle.feed.status? symbol) with
    | error e =>
      refine .inr ⟨fun all => ?_, cycle, .failed e, ?_⟩
      · obtain ⟨status, never, -⟩ := all symbol List.mem_cons_self
        cases opened.symm.trans never
      · rw [visitAll, visit, opened]
    | ok status =>
      rcases visit_spec opened with ⟨steady, middle, visited, turn⟩ | ⟨unsteady, middle, visited⟩
      swap
      · exact .inr ⟨fun all => unsteady (all symbol List.mem_cons_self), middle, .overflowError,
          by rw [visitAll, visited]⟩
      have step : visitAll env (symbol :: rest) cycle = visitAll env rest middle := by
        rw [visitAll, visited]
      have carried : (∀ other ∈ rest, Steady env other (middle.feed.status? other)) ↔
          ∀ other ∈ rest, Steady env other (cycle.feed.status? other) := by
        refine forall₂_congr fun other later => ?_
        rw [turn.others other fun same => alone (same ▸ later)]
      rw [step, List.forall_mem_cons, ← carried, and_iff_right steady]
      rcases ih distinct middle with ⟨all, after, done, passed⟩ | ⟨some, after, escape, done⟩
      · exact .inl ⟨all, after, done, passed.cons opened alone turn⟩
      · exact .inr ⟨some, after, escape, done⟩

/-! ## The cycle -/

/-- A cycle over these symbols runs to its end: it collects every symbol that is due
and, when it is time, prunes every symbol; each ends with the status its own answers
give it. -/
structure Isolated (config : Config) (env : Surroundings) (feed : Feed) (symbols : List String)
    (outcome : Cycle × Option Escape) : Prop where
  finished : outcome.2 = none
  attempted : ∀ symbol ∈ symbols, dueNow env (feed.status? symbol) = true →
    .collect symbol ∈ outcome.1.calls
  statuses : ∀ symbol ∈ symbols, ∃ status,
    statusOf env symbol (feed.status? symbol) = .ok status ∧
      outcome.1.feed.status? symbol = some (expected env status)
  pruned : pruneDue env feed = true → ∀ symbol ∈ symbols,
    .prune symbol (bucketStart env.now - config.retention) pruneBatch ∈ outcome.1.calls

theorem prune_status? (config : Config) (env : Surroundings) (symbols : List String)
    (cycle : Cycle) (symbol : String) :
    (prune config env symbols cycle).feed.status? symbol = cycle.feed.status? symbol := by
  unfold prune
  split <;> rfl

theorem prune_calls {config : Config} {env : Surroundings} {symbols : List String}
    {cycle : Cycle} {call : Call} (made : call ∈ cycle.calls) :
    call ∈ (prune config env symbols cycle).calls := by
  unfold prune
  split
  · exact List.mem_append_left _ made
  · exact made

theorem prune_asked {config : Config} {env : Surroundings} {symbols : List String}
    {cycle : Cycle} {symbol : String} (isDue : pruneDue env cycle.feed = true)
    (listed : symbol ∈ symbols) (untraded : symbol ∉ config.tradingSymbols) :
    .prune symbol (bucketStart env.now - config.retention) pruneBatch ∈
      (prune config env symbols cycle).calls := by
  rw [prune, if_pos isDue]
  refine List.mem_append_right _ (List.mem_map.2 ⟨symbol, ?_, rfl⟩)
  exact List.mem_filter.2 ⟨listed, by simpa using untraded⟩

/-- A cycle isolates its symbols exactly when the watchlist can be read, each symbol
without a status can be looked up, and no symbol that is due fails after 41 failures in a
row. -/
theorem cycle_isolated_iff (config : Config) (env : Surroundings) (feed : Feed) :
    (∃ listed, env.symbols = .ok listed ∧
      Isolated config env feed (watchOnly config listed.1) (runCycle config env feed)) ↔
    ∃ listed, env.symbols = .ok listed ∧
      ∀ symbol ∈ watchOnly config listed.1, Steady env symbol (feed.status? symbol) := by
  cases symbols : env.symbols with
  | error e =>
    constructor
    · rintro ⟨_, never, -⟩
      cases never
    · rintro ⟨_, never, -⟩
      cases never
  | ok listed =>
    have distinct : (watchOnly config listed.1).Nodup := listed.2.filter _
    have kept : ∀ symbol ∈ watchOnly config listed.1,
        (feed.keepOnly (watchOnly config listed.1)).status? symbol = feed.status? symbol :=
      fun symbol watched => Feed.status?_keepOnly watched
    have steady : (∀ symbol ∈ watchOnly config listed.1,
          Steady env symbol ((feed.keepOnly (watchOnly config listed.1)).status? symbol)) ↔
        ∀ symbol ∈ watchOnly config listed.1, Steady env symbol (feed.status? symbol) :=
      forall₂_congr fun symbol watched => by rw [kept symbol watched]
    have loop := visitAll_spec env distinct
      ⟨feed.keepOnly (watchOnly config listed.1), []⟩
    simp only [Except.ok.injEq, exists_eq_left']
    rw [← steady]
    rcases loop with ⟨all, after, done, passed⟩ | ⟨some, after, escape, done⟩
    · refine ⟨fun _ => all, fun _ => ?_⟩
      have outcome : runCycle config env feed =
          (prune config env (watchOnly config listed.1) after, none) := by
        rw [runCycle, symbols]
        dsimp only
        rw [done]
      have pruneTime : pruneDue env after.feed = pruneDue env feed := by
        rw [pruneDue, passed.nextPrune, Feed.nextPrune_keepOnly]
        rfl
      rw [outcome]
      refine ⟨rfl, ?_, ?_, ?_⟩
      · intro symbol watched isDue
        refine prune_calls ?_
        rw [passed.calls, ← kept symbol watched] at *
        exact List.mem_append_right _ (List.mem_map_of_mem (List.mem_filter.2 ⟨watched, isDue⟩))
      · intro symbol watched
        obtain ⟨status, opened, reached⟩ := passed.own symbol watched
        rw [kept symbol watched] at opened
        exact ⟨status, opened, by rw [prune_status?, reached]⟩
      · intro isDue symbol watched
        refine prune_asked (pruneTime ▸ isDue) watched ?_
        simpa [watchOnly] using (List.mem_filter.1 watched).2
    · refine ⟨fun isolated => ?_, fun all => absurd all some⟩
      have ended : (runCycle config env feed).2 = .some escape := by
        rw [runCycle, symbols]
        dsimp only
        rw [done]
      cases ended.symm.trans isolated.finished

/-- The feed after some cycles. -/
def feedAfter (config : Config) (history : List Surroundings) : Feed :=
  history.foldl (fun feed env => (runCycle config env feed).1.feed) Feed.fresh

/-- Half an hour after half an hour, the venue does not answer for one of two symbols. -/
def outage (cycle : Nat) : Surroundings where
  now := cycle * maxBackoff
  symbols := .ok ⟨["ADA-USD", "ETH-USD"], by decide⟩
  latest _ symbol := .ok (if symbol = "ADA-USD" then none else some (cycle * maxBackoff))
  getCandles _ _ _ := .error .timeout
  upsertMany _ := .ok 0

def untraded : Config := ⟨[], 30 * day⟩

/-- The 42nd cycle of an outage ends in its own failure handler. -/
theorem long_outage_ends_cycle :
    ¬∃ listed, (outage 41).symbols = .ok listed ∧
      Isolated untraded (outage 41) (feedAfter untraded ((List.range 41).map outage))
        (watchOnly untraded listed.1)
        (runCycle untraded (outage 41) (feedAfter untraded ((List.range 41).map outage))) := by
  rintro ⟨listed, -, isolated⟩
  have ended : (runCycle untraded (outage 41)
      (feedAfter untraded ((List.range 41).map outage))).2 = some .overflowError := by
    decide +kernel
  cases ended.symm.trans isolated.finished

end AlgoTrader.App.WatchFeed
