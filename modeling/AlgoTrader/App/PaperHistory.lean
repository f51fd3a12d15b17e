/-
# App.PaperHistory -- the closed-candle history of the paper runtime

The runtime backfills its history at the start and hands the stream the newest candle of each
symbol.  From then on the stream calls back: a closed candle is stored when the history with it is
valid and the quote is fresh, and a gap is filled over REST from the bucket after the one the stream
passed last.

* `onCandle_stores` -- when a closed candle is stored, and that nothing else of a call is;
* `gapFill_fills` -- what a gap fill that returns leaves in the store;
* `start_seeds` -- what the start leaves there, and in the stream;
* `Accounts` -- what the calls of a run of the stream do to the store, one after another.
-/
import AlgoTrader.App.Trading
import AlgoTrader.Data.Backfill
import AlgoTrader.Data.GapFills
import AlgoTrader.Strategy.Reference

namespace AlgoTrader.App.PaperHistory

open AlgoTrader.Core AlgoTrader.Brokers AlgoTrader.Data AlgoTrader.Strategy AlgoTrader.Theory

set_option autoImplicit false

/-! ## The requests -/

/-- What the runtime's callbacks ask of the store, the venue, the stream, the trading cycle and the
operator. -/
inductive PaperOp where
  | latest (symbol interval : String) (limit : Int)
  | latestOpenedAt (symbol interval : String)
  | upsertMany (candles : List Candle)
  | backfill (symbol : String) (start end_ : Timestamp) (granularity : String) (refreshExisting : Bool)
  | requireFreshQuote (symbol : String)
  | utcNow
  | clearRecoveredStorm
  | onMarketState (state : MarketState)
  | trip (reason : String)
  | heartbeat (status detail : String)
  | setRuntime (status detail : String)
  | recordOutcome (outcome : CycleOutcome)
  | alertOnce (condition message severity : String)
  | clearAlert (condition : String)
  | recordGapFill (symbol : String) (from_ : Option Timestamp) (end_ : Timestamp)

abbrev PaperOp.Reply : PaperOp → Type
  | .latest .. => List Candle
  | .latestOpenedAt .. => Option Timestamp
  | .upsertMany _ => Nat
  | .backfill .. => Nat
  | .requireFreshQuote _ => Quote
  | .utcNow => Timestamp
  | .onMarketState _ => CycleOutcome
  | _ => Unit

abbrev papering : Signature := ⟨PaperOp, PaperOp.Reply⟩

/-- A program of the runtime. -/
abbrev Paper (α : Type) := Prog papering Exc α

abbrev issue (op : PaperOp) : Paper op.Reply := Prog.call (S := papering) op

/-- What the runtime is set up with; `journal` when it records system events. -/
structure Setup where
  windows : PaperWindows
  symbols : List String
  journal : Bool

def startupGuardError (message : String) : Exc :=
  { kind := .provider, typeName := "StartupGuardError", message }

/-! ## The callbacks -/

/-- The history with the candle, if it is long enough and valid. -/
def shownHistory (windows : PaperWindows) (prior : List Candle) (candle : Candle) : Except Exc (List Candle) :=
  let candles := sliceFrom (prior ++ [candle]) (-windows.historyBars)
  if candles.length < windows.slowWindow + 1 then
    .error (.valueError "closed-candle history is incomplete")
  else MarketDataValidator.standard.validateCandles candles barDuration

def lift {α : Type} : Except Exc α → Paper α
  | .ok value => pure value
  | .error exc => .raise exc

/-- The first `try` of `on_candle`. -/
def storeCandle (windows : PaperWindows) (candle : Candle) : Paper (List Candle × Quote) := do
  let prior ← issue (.latest candle.symbol websocketCandleInterval (windows.historyBars - 1))
  let candles ← lift (shownHistory windows prior candle)
  let quote ← issue (.requireFreshQuote candle.symbol)
  let _ ← issue (.upsertMany [candle])
  return (candles, quote)

/-- The second one. -/
def runCycle (candle : Candle) (candles : List Candle) (quote : Quote) : Paper CycleOutcome := do
  let observedAt ← issue .utcNow
  issue (.onMarketState (PaperWindows.paperState candle candles quote observedAt))

def candleRefused : Paper Unit := do
  issue (.heartbeat "unhealthy" "closed candle could not be validated")
  issue (.setRuntime "degraded" "closed candle could not be validated")
  issue (.alertOnce "market_data_processing_failed"
    "A closed live candle could not be persisted or validated; no order was submitted" "critical")

def cycleFailed : Paper Unit := do
  issue (.trip "paper trading cycle failed unexpectedly")
  issue (.heartbeat "unhealthy" "trading cycle failed unexpectedly")
  issue (.setRuntime "halted" "trading cycle failed; provider review required")
  issue (.alertOnce "trading_cycle_failed"
    "The trading cycle failed unexpectedly; trading was halted and broker state must be reviewed" "critical")

def cycleEnded (outcome : CycleOutcome) : Paper Unit := do
  issue (.clearAlert "market_data_disconnected")
  issue (.clearAlert "market_data_processing_failed")
  issue (.recordOutcome outcome)

/-- `on_candle`. -/
def onCandle (windows : PaperWindows) (candle : Candle) : Paper Unit := do
  issue .clearRecoveredStorm
  match ← (storeCandle windows candle).attempt with
  | .error _ => candleRefused
  | .ok (candles, quote) =>
      match ← (runCycle candle candles quote).attempt with
      | .error _ => cycleFailed
      | .ok outcome => cycleEnded outcome

/-- Where a gap fill starts. -/
def gapStart (windows : PaperWindows) (lastClosed : Option Timestamp) (end_ : Timestamp) : Timestamp :=
  match lastClosed with
  | some closed => closed + barDuration
  | none => end_ - barDuration * windows.historyBars

/-- `gap_fill`. -/
def gapFill (setup : Setup) (symbol : String) (lastClosed : Option Timestamp) (end_ : Timestamp) : Paper Unit := do
  issue (.heartbeat "degraded" "market-data reconnecting")
  issue (.alertOnce "market_data_disconnected"
    "Live market data disconnected; closed bars are being gap-filled before reconnect" "warning")
  let start := gapStart setup.windows lastClosed end_
  Prog.when setup.journal (issue (.recordGapFill symbol (lastClosed.map fun _ => start) end_))
  Prog.when (start < end_) (issue (.backfill symbol start end_ websocketCandleInterval false)).discard

/-- The first bucket that `start` backfills. -/
def firstBackfilled (setup : Setup) (now : Timestamp) : Timestamp :=
  bucketStart now - barDuration * setup.windows.historyBars

/-- `for symbol in self.config.symbols`: the newest candle of each symbol is what the stream has
passed of it. -/
def seed (setup : Setup) (now : Timestamp) :
    List String → Dict String Timestamp → Paper (Dict String Timestamp)
  | [], passed => pure passed
  | symbol :: rest, passed => do
      let _ ← issue (.backfill symbol (firstBackfilled setup now) (bucketStart now) websocketCandleInterval true)
      match ← issue (.latestOpenedAt symbol websocketCandleInterval) with
      | none => .raise (startupGuardError ("no closed market history is available for " ++ symbol))
      | some latest => seed setup now rest (passed.set symbol latest)

/-- `start`, at this reading of the clock, with what it leaves in `ingestor.last_candle_at`. -/
def start (setup : Setup) (now : Timestamp) : Paper (Dict String Timestamp) := do
  let passed ← seed setup now setup.symbols .empty
  issue (.setRuntime "running" "waiting for the next closed live candle")
  issue (.heartbeat "starting" "live feed connected task started")
  return passed

/-! ## The store of the runtime -/

/-- Only the runtime writes the store.  A write takes place as a whole or not at all, and may take
place although an error comes back. -/
def PaperServe : Service papering Exc CandleStore
  | .latest symbol interval limit, store, reply, store' =>
      store' = store ∧ ((∃ exc, reply = .error exc) ∨ reply = store.latest symbol interval limit)
  | .latestOpenedAt symbol interval, store, reply, store' =>
      store' = store ∧ ((∃ exc, reply = .error exc) ∨ reply = .ok (store.latestOpenedAt symbol interval))
  | .upsertMany candles, store, reply, store' =>
      (reply = .ok (store.inserted candles) ∧ store' = store.upsertMany candles) ∨
        ((∃ exc, reply = .error exc) ∧ (store' = store ∨ store' = store.upsertMany candles))
  | .backfill symbol start end_ granularity refreshExisting, store, reply, store' =>
      ∃ final, (HistoricalCandleBackfiller.run .standard symbol start end_ granularity refreshExisting).Runs
        SoleServe ⟨store, []⟩ reply final ∧ final.world = store'
  | .clearRecoveredStorm, store, reply, store' => reply = .ok () ∧ store' = store
  | _, store, _, store' => store' = store

/-! ## What a closed candle comes to -/

/-- The request was granted that a candle cannot be stored without. -/
def Grants : Event papering Exc CandleStore → Prop
  | ⟨.latest .., .error _, _, _⟩ => False
  | ⟨.requireFreshQuote _, .error _, _, _⟩ => False
  | ⟨.upsertMany candles, _, before, after⟩ => after = before.upsertMany candles
  | _ => True

/-- The candle may be stored: the history with it is long enough and valid, the store answers and
takes it, and the quote is fresh. -/
def Storable (windows : PaperWindows) (store : CandleStore) (candle : Candle)
    (events : List (Event papering Exc CandleStore)) : Prop :=
  (∃ history, windows.closedHistory store candle = .ok history) ∧ ∀ e ∈ events, Grants e

/-- Requests on which nothing hangs for the store. -/
def PaperOp.aside : PaperOp → Bool
  | .latest .. => false
  | .upsertMany _ => false
  | .backfill .. => false
  | .requireFreshQuote _ => false
  | _ => true

theorem aside_served {op : PaperOp} {store store' : CandleStore} {reply : Except Exc op.Reply}
    (aside : op.aside = true) (served : PaperServe op store reply store') :
    store' = store ∧ Grants ⟨op, reply, store, store'⟩ := by
  cases op with
  | latest symbol interval limit => cases aside
  | upsertMany candles => cases aside
  | backfill symbol start end_ granularity refreshExisting => cases aside
  | requireFreshQuote symbol => cases aside
  | latestOpenedAt symbol interval => exact ⟨served.1, by cases reply <;> trivial⟩
  | clearRecoveredStorm => exact ⟨served.2, by cases reply <;> trivial⟩
  | _ => exact ⟨served, by cases reply <;> trivial⟩

abbrev paperLogic : Logic papering Exc (Moment papering Exc CandleStore) :=
  (Contract.plain PaperServe fun _ => True).logic

section Candles

variable {windows : PaperWindows} {store : CandleStore} {candle : Candle}

/-- The store holds the candle in addition exactly when it may be stored. -/
def Settled (windows : PaperWindows) (store : CandleStore) (candle : Candle)
    (m : Moment papering Exc CandleStore) : Prop :=
  (Storable windows store candle m.events ∧ m.world = store.upsertMany [candle]) ∨
    (¬ Storable windows store candle m.events ∧ m.world = store)

theorem closedHistory_eq (windows : PaperWindows) (store : CandleStore) (candle : Candle) :
    windows.closedHistory store candle =
      (store.latest candle.symbol websocketCandleInterval (windows.historyBars - 1)).bind fun prior =>
        shownHistory windows prior candle := rfl

theorem sustains_settled {op : PaperOp} (aside : op.aside = true) :
    Sustains paperLogic (Settled windows store candle) (issue op) := by
  intro m settled
  refine wp_served fun reply after served _ => ?_
  obtain ⟨rfl, grants⟩ := aside_served aside served
  rcases settled with ⟨storable, is⟩ | ⟨refused, is⟩
  · exact .inl ⟨⟨storable.1, List.forall_mem_cons.2 ⟨grants, storable.2⟩⟩, is⟩
  · exact .inr ⟨fun storable => refused ⟨storable.1, (List.forall_mem_cons.1 storable.2).2⟩, is⟩

/-- A request that is not granted. -/
theorem settled_refused {m : Moment papering Exc CandleStore} {e : Event papering Exc CandleStore}
    (member : e ∈ m.events) (refuses : ¬ Grants e) (is : m.world = store) : Settled windows store candle m :=
  .inr ⟨fun storable => refuses (storable.2 e member), is⟩

theorem wp_written {α : Type} {value : α} {m : Moment papering Exc CandleStore} (is : m.world = store)
    (valid : ∃ history, windows.closedHistory store candle = .ok history) (granted : ∀ e ∈ m.events, Grants e) :
    wp paperLogic (fun _ => Settled windows store candle)
      (do let _ ← issue (.upsertMany [candle]); return value) m := by
  subst is
  refine wp_bind.2 (wp_served fun reply after served _ => ?_)
  have settled : Settled windows m.world candle (m.push (.upsertMany [candle]) reply after) := by
    by_cases taken : after = m.world.upsertMany [candle]
    · exact .inl ⟨⟨valid, List.forall_mem_cons.2 ⟨taken, granted⟩⟩, taken⟩
    · obtain ⟨_, done⟩ | ⟨_, lost | done⟩ := served
      · exact absurd done taken
      · exact settled_refused (List.mem_cons_self ..) taken lost
      · exact absurd done taken
  cases reply <;> exact settled

theorem wp_storeCandle {m : Moment papering Exc CandleStore} (is : m.world = store)
    (granted : ∀ e ∈ m.events, Grants e) :
    wp paperLogic (fun _ => Settled windows store candle) (storeCandle windows candle) m := by
  subst is
  refine wp_bind.2 (wp_served fun reply after served _ => ?_)
  obtain ⟨rfl, answer⟩ := served
  cases reply with
  | error exc => exact settled_refused (List.mem_cons_self ..) id rfl
  | ok prior =>
    obtain ⟨_, ⟨⟩⟩ | answer := answer
    have history := closedHistory_eq windows m.world candle
    rw [← answer, Except.bind] at history
    refine wp_bind.2 ?_
    cases shown : shownHistory windows prior candle with
    | error exc =>
      rw [shown] at history
      refine .inr ⟨fun storable => ?_, rfl⟩
      obtain ⟨valid, fine⟩ := storable.1
      cases history.symm.trans fine
    | ok candles =>
      rw [shown] at history
      refine wp_bind.2 (wp_served fun reply after served _ => ?_)
      cases served
      cases reply with
      | error exc => exact settled_refused (List.mem_cons_self ..) id rfl
      | ok quote =>
        refine wp_written rfl ⟨candles, history⟩ ?_
        exact List.forall_mem_cons.2 ⟨trivial, List.forall_mem_cons.2 ⟨trivial, granted⟩⟩

theorem wp_onCandle :
    wp paperLogic (fun _ => Settled windows store candle) (onCandle windows candle) ⟨store, []⟩ := by
  refine wp_bind.2 (wp_served fun reply after served _ => ?_)
  obtain ⟨rfl, is⟩ := served
  refine wp_bind.2 (wp_attempt.2 (wp_mono (wp_storeCandle is ?_) fun result m settled => ?_))
  · exact List.forall_mem_cons.2 ⟨trivial, fun e member => by cases member⟩
  cases result with
  | error exc =>
    refine Sustains.bind (sustains_settled rfl) (fun _ => ?_) m settled
    exact (sustains_settled rfl).bind fun _ => sustains_settled rfl
  | ok stored =>
    have cycles : Sustains paperLogic (Settled windows store candle) (runCycle candle stored.1 stored.2) :=
      (sustains_settled rfl).bind fun _ => sustains_settled rfl
    refine Sustains.bind cycles.attempt (fun ended => ?_) m settled
    cases ended with
    | error exc =>
      refine (sustains_settled rfl).bind fun _ => (sustains_settled rfl).bind fun _ => ?_
      exact (sustains_settled rfl).bind fun _ => sustains_settled rfl
    | ok outcome => exact (sustains_settled rfl).bind fun _ => (sustains_settled rfl).bind fun _ => sustains_settled rfl

/-- A closed candle is stored exactly when it may be, and nothing else is. -/
theorem onCandle_stores {reply : Except Exc Unit} {final : Moment papering Exc CandleStore}
    (run : (onCandle windows candle).Runs PaperServe ⟨store, []⟩ reply final) :
    Settled windows store candle final :=
  run_ends run wp_onCandle

end Candles

/-! ## What a backfill comes to -/

/-- The runtime keeps a bar of the symbol that opened then. -/
def Held (store : CandleStore) (symbol : String) (openedAt : Timestamp) : Prop :=
  store.Holds symbol websocketCandleInterval openedAt

theorem fiveMinutes : granularitySeconds websocketCandleInterval = some 300 := rfl

theorem interval_pos : 0 < interval := by decide

/-- What a backfill of a symbol leaves: nothing is lost, and what is new is of the symbol and within the
window. -/
structure Backfilled (symbol : String) (start end_ : Timestamp) (before after : CandleStore) : Prop where
  keeps : before.Keeps after
  added : AddedWithin symbol websocketCandleInterval interval start end_ before after

section Backfills

variable {symbol other : String} {from_ end_ : Timestamp} {before after : CandleStore}

theorem Backfilled.others (filled : Backfilled symbol from_ end_ before after) (different : other ≠ symbol)
    (openedAt : Timestamp) : Held after other openedAt ↔ Held before other openedAt := by
  refine ⟨fun held => ?_, filled.keeps _ _ _⟩
  rcases filled.added _ _ _ held with old | ⟨same, _⟩
  · exact old
  · exact absurd same different

/-- One that returns has filled the window from the cursor on, the start of it or after the newest bar. -/
theorem backfill_served {refreshExisting : Bool} {reply : Except Exc Nat}
    (served : PaperServe (.backfill symbol from_ end_ websocketCandleInterval refreshExisting) before reply after) :
    Backfilled symbol from_ end_ before after ∧ ∀ total, reply = .ok total → from_ < end_ →
      ∃ latest, (∀ bucket, ToFill refreshExisting (before.latestOpenedAt symbol websocketCandleInterval) bucket →
          ∀ newest, latest = some newest → newest < bucket) ∧
        FilledFrom symbol websocketCandleInterval interval end_
          (HistoricalCandleBackfiller.resumeFrom interval from_ latest) after := by
  obtain ⟨final, run, rfl⟩ := served
  obtain ⟨keeps, filled⟩ := run_ends run (wp_sole (wp_run fiveMinutes))
  exact ⟨⟨keeps, run_ends run (wp_run_adds fiveMinutes)⟩, filled⟩

end Backfills

/-! ## What a gap fill comes to -/

theorem sustains_unwritten {op : PaperOp} {store : CandleStore} (aside : op.aside = true) :
    Sustains paperLogic (fun m => m.world = store) (issue op) :=
  fun _ is => wp_served fun _ _ served _ => (aside_served aside served).1.trans is

/-- A gap fill adds candles of its symbol only, from its start to its end; one that returns has had the
backfill run to its end. -/
structure GapFilled (windows : PaperWindows) (symbol : String) (lastClosed : Option Timestamp) (end_ : Timestamp)
    (before : CandleStore) (reply : Except Exc Unit) (after : CandleStore) : Prop where
  filled : Backfilled symbol (gapStart windows lastClosed end_) end_ before after
  returned : reply = .ok () → gapStart windows lastClosed end_ < end_ → ∃ total,
    PaperServe (.backfill symbol (gapStart windows lastClosed end_) end_ websocketCandleInterval false)
      before (.ok total) after

section Gaps

variable {setup : Setup} {symbol : String} {lastClosed : Option Timestamp} {end_ : Timestamp} {store : CandleStore}

theorem gapFilled_raised {windows : PaperWindows} (error : Exc) (m : Moment papering Exc CandleStore)
    (is : m.world = store) : GapFilled windows symbol lastClosed end_ store (.error error) m.world :=
  ⟨is.symm ▸ ⟨fun _ _ _ held => held, fun _ _ _ held => .inl held⟩, fun failed => nomatch failed⟩

theorem wp_gapFill {m : Moment papering Exc CandleStore} (is : m.world = store) :
    wp paperLogic (fun reply m' => GapFilled setup.windows symbol lastClosed end_ store reply m'.world)
      (gapFill setup symbol lastClosed end_) m := by
  refine Sustains.andThen (sustains_unwritten rfl) is gapFilled_raised fun _ m₁ is₁ => ?_
  refine Sustains.andThen (sustains_unwritten rfl) is₁ gapFilled_raised fun _ m₂ is₂ => ?_
  refine Sustains.andThen (sustains_when (sustains_unwritten rfl)) is₂ gapFilled_raised fun _ m₃ is₃ => ?_
  refine wp_when (fun _ => ?_) fun empty => ?_
  · refine wp_bind.2 (wp_served fun reply after served _ => ?_)
    rw [is₃] at served
    cases reply with
    | error exc => exact ⟨(backfill_served served).1, fun failed => nomatch failed⟩
    | ok total => exact ⟨(backfill_served served).1, fun _ _ => ⟨total, served⟩⟩
  · refine ⟨is₃.symm ▸ ⟨fun _ _ _ held => held, fun _ _ _ held => .inl held⟩, fun _ ahead => ?_⟩
    exact absurd ahead (of_decide_eq_false empty)

theorem gapFill_fills {reply : Except Exc Unit} {final : Moment papering Exc CandleStore}
    (run : (gapFill setup symbol lastClosed end_).Runs PaperServe ⟨store, []⟩ reply final) :
    GapFilled setup.windows symbol lastClosed end_ store reply final.world :=
  run_ends run (wp_gapFill rfl)

end Gaps

/-! ## What the start leaves -/

section Start

variable {setup : Setup} {now : Timestamp} {began store : CandleStore}

/-- Since the start nothing is lost, and what is new is within the backfilled window. -/
structure Restocked (setup : Setup) (now : Timestamp) (began store : CandleStore) : Prop where
  keeps : began.Keeps store
  added : ∀ symbol openedAt, Held store symbol openedAt → Held began symbol openedAt ∨
    firstBackfilled setup now ≤ openedAt ∧ openedAt + interval ≤ bucketStart now

/-- The bars of the symbol reach from the first backfilled bucket to the one in progress, and the newest of
them is what the stream has passed. -/
structure Seeded (setup : Setup) (now : Timestamp) (symbol : String) (passed : Dict String Timestamp)
    (store : CandleStore) : Prop where
  whole : ∀ bucket, Aligned bucket → firstBackfilled setup now ≤ bucket → bucket < bucketStart now →
    Held store symbol bucket
  marked : ∃ mark, passed.get? symbol = some mark ∧ Held store symbol mark ∧
    ∀ openedAt, Held store symbol openedAt → openedAt ≤ mark

theorem Restocked.step {symbol : String} {after : CandleStore} (restocked : Restocked setup now began store)
    (filled : Backfilled symbol (firstBackfilled setup now) (bucketStart now) store after) :
    Restocked setup now began after where
  keeps := restocked.keeps.trans filled.keeps
  added symbol' openedAt held := by
    rcases filled.added _ _ _ held with old | ⟨_, _, within⟩
    · exact restocked.added symbol' openedAt old
    · exact .inr within

theorem Seeded.others {symbol other : String} {passed : Dict String Timestamp} {latest : Timestamp}
    {after : CandleStore} (seeded : Seeded setup now other passed store) (different : other ≠ symbol)
    (filled : Backfilled symbol (firstBackfilled setup now) (bucketStart now) store after) :
    Seeded setup now other (passed.set symbol latest) after where
  whole bucket aligned from_ before := filled.keeps _ _ _ (seeded.whole bucket aligned from_ before)
  marked := by
    obtain ⟨mark, is, held, newest⟩ := seeded.marked
    refine ⟨mark, (Dict.get?_set_ne _ _ different).trans is, filled.keeps _ _ _ held, fun openedAt there => ?_⟩
    exact newest openedAt ((filled.others different openedAt).1 there)

theorem aligned_firstBackfilled (setup : Setup) (now : Timestamp) : Aligned (firstBackfilled setup now) :=
  Int.dvd_sub (aligned_bucketStart now) (Int.dvd_mul_right _ _)

theorem firstBackfilled_lt (setup : Setup) (now : Timestamp) : firstBackfilled setup now < bucketStart now := by
  have bars : 0 < (setup.windows.historyBars : Int) := by
    have := setup.windows.longEnough
    omega
  exact sub_lt_self _ (mul_pos (by decide) bars)

/-- A refreshing backfill that returns has filled its whole window. -/
theorem whole_refreshed {symbol : String} {total : Nat} {after : CandleStore}
    (served : PaperServe (.backfill symbol (firstBackfilled setup now) (bucketStart now) websocketCandleInterval
      true) store (.ok total) after) (bucket : Timestamp) (aligned : Aligned bucket)
    (from_ : firstBackfilled setup now ≤ bucket) (before : bucket < bucketStart now) : Held after symbol bucket := by
  obtain ⟨latest, passes, filled⟩ := (backfill_served served).2 total rfl (firstBackfilled_lt setup now)
  obtain ⟨n, is⟩ := Int.dvd_sub (aligned_bucketStart now) aligned
  have positive : 0 < n := by
    by_contra none_
    have := mul_nonpos_of_nonneg_of_nonpos interval_pos.le (not_lt.1 none_)
    linarith
  obtain ⟨left, rfl⟩ : ∃ left : Nat, n = left + 1 := ⟨(n - 1).toNat, by omega⟩
  have cursor :
      HistoricalCandleBackfiller.resumeFrom interval (firstBackfilled setup now) latest - interval < bucket := by
    refine resumeFrom_before interval_pos from_ fun newest is => ?_
    exact passes bucket (.inl rfl) newest is
  exact filled.bucket interval_pos (by linarith) cursor

/-- All of these symbols are seeded, if it came to that. -/
def AllSeeded (setup : Setup) (now : Timestamp) (began : CandleStore) (symbols : String → Prop)
    (result : Except Exc (Dict String Timestamp)) (m : Moment papering Exc CandleStore) : Prop :=
  ∀ passed, result = .ok passed → Restocked setup now began m.world ∧
    ∀ symbol, symbols symbol → Seeded setup now symbol passed m.world

theorem wp_seed (symbols : List String) (done : String → Prop) {passed : Dict String Timestamp}
    {m : Moment papering Exc CandleStore} (restocked : Restocked setup now began m.world)
    (seeded : ∀ symbol, done symbol → Seeded setup now symbol passed m.world) :
    wp paperLogic (AllSeeded setup now began fun symbol => done symbol ∨ symbol ∈ symbols)
      (seed setup now symbols passed) m := by
  induction symbols generalizing done passed m with
  | nil =>
    rintro passed' ⟨⟩
    exact ⟨restocked, fun symbol there => seeded symbol (there.resolve_right List.not_mem_nil)⟩
  | cons symbol rest ih =>
    refine wp_bind.2 (wp_served fun reply after served _ => ?_)
    cases reply with
    | error exc => exact fun _ failed => nomatch failed
    | ok total =>
      have filled := (backfill_served served).1
      refine wp_bind.2 (wp_served fun reply after' read _ => ?_)
      obtain ⟨rfl, answer⟩ := read
      cases reply with
      | error exc => exact fun _ failed => nomatch failed
      | ok newest =>
        obtain ⟨_, ⟨⟩⟩ | answer := answer
        cases newest with
        | none => exact fun _ failed => nomatch failed
        | some latest =>
          obtain ⟨held, newest⟩ := CandleStore.latestOpenedAt_newest (Except.ok.inj answer).symm
          refine wp_mono (ih (fun other => done other ∨ other = symbol) (restocked.step filled) ?_)
            fun result m' ended passed' is => ?_
          · intro other there
            by_cases same : other = symbol
            · rw [same]
              exact ⟨whole_refreshed served, latest, Dict.get?_set_self .., held, newest⟩
            · exact (seeded other (there.resolve_right same)).others same filled
          · obtain ⟨restocked', all⟩ := ended passed' is
            refine ⟨restocked', fun other there => all other ?_⟩
            rcases there with before | member
            · exact .inl (.inl before)
            · rcases List.mem_cons.1 member with same | later
              · exact .inl (.inr same)
              · exact .inr later

theorem wp_start : wp paperLogic (AllSeeded setup now began (· ∈ setup.symbols)) (start setup now) ⟨began, []⟩ := by
  have untouched : Restocked setup now began began := ⟨fun _ _ _ held => held, fun _ _ held => .inl held⟩
  refine wp_bind.2 (wp_mono (wp_seed setup.symbols (fun _ => False) untouched fun _ never => never.elim)
    fun result m ended => ?_)
  cases result with
  | error exc => exact fun _ failed => nomatch failed
  | ok seeded =>
    obtain ⟨restocked, all⟩ := ended seeded rfl
    have raised (error : Exc) (m' : Moment papering Exc CandleStore) (_ : m'.world = m.world) :
        AllSeeded setup now began (· ∈ setup.symbols) (.error error) m' := fun _ failed => nomatch failed
    refine Sustains.andThen (sustains_unwritten rfl) rfl raised fun _ m₁ is₁ => ?_
    refine Sustains.andThen (sustains_unwritten rfl) is₁ raised fun _ m₂ is₂ => ?_
    rintro passed' ⟨⟩
    rw [is₂]
    exact ⟨restocked, fun symbol member => all symbol (.inr member)⟩

/-- For each symbol the history is whole from the first backfilled bucket on, and its newest bar is what the
stream has passed. -/
theorem start_seeds {passed : Dict String Timestamp} {final : Moment papering Exc CandleStore}
    (run : (start setup now).Runs PaperServe ⟨began, []⟩ (.ok passed) final) :
    Restocked setup now began final.world ∧ ∀ symbol ∈ setup.symbols, Seeded setup now symbol passed final.world :=
  run_ends run wp_start passed rfl

end Start

/-! ## The calls of a run -/

/-- One call of `on_candle`: the candle, the store it found, and what came of its requests. -/
structure CandleCall where
  candle : Candle
  store : CandleStore
  events : List (Event papering Exc CandleStore)

/-- The requests of the stream that are served by the runtime's store. -/
def callsBack : StreamOp → Bool
  | .onCandle _ => true
  | .gapFill .. => true
  | _ => false

/-- What the calls of the stream's events did: the calls of `on_candle`, newest first, and the store. -/
inductive Accounts (setup : Setup) (began : CandleStore) : List Streamed → List CandleCall → CandleStore → Prop
  | began : Accounts setup began [] [] began
  | candle {earlier : List Streamed} {calls : List CandleCall} {store : CandleStore} {candle : Candle}
      {reply : Except Exc Unit} {w w' : FeedWorld} {final : Moment papering Exc CandleStore}
      (before : Accounts setup began earlier calls store)
      (run : (onCandle setup.windows candle).Runs PaperServe ⟨store, []⟩ reply final) :
      Accounts setup began (⟨.onCandle candle, reply, w, w'⟩ :: earlier)
        (⟨candle, store, final.events⟩ :: calls) final.world
  | gap {earlier : List Streamed} {calls : List CandleCall} {store : CandleStore} {symbol : String}
      {lastClosed : Option Timestamp} {end_ : Timestamp} {reply : Except Exc Unit} {w w' : FeedWorld}
      {final : Moment papering Exc CandleStore} (before : Accounts setup began earlier calls store)
      (run : (gapFill setup symbol lastClosed end_).Runs PaperServe ⟨store, []⟩ reply final) :
      Accounts setup began (⟨.gapFill symbol lastClosed end_, reply, w, w'⟩ :: earlier) calls final.world
  | other {e : Streamed} {earlier : List Streamed} {calls : List CandleCall} {store : CandleStore}
      (before : Accounts setup began earlier calls store) (silent : callsBack e.op = false) :
      Accounts setup began (e :: earlier) calls store

end AlgoTrader.App.PaperHistory
