/-
# App.WatchFeed -- the feed of the coins that are watched but not traded

One cycle goes through the watched symbols that the trading feed does not collect,
collects those that are due, and prunes once an hour.  A collection that fails puts
off its symbol's next attempt by 1, 2, 4, ... minutes, at most thirty; everything
else goes on.

What a cycle reads and asks for is answered by its surroundings, each call with a
value or with an exception.  Three steps are outside the guard of the loop: the
read of the watchlist, the first read of a symbol that has no status yet, and the
arithmetic of the back-off, which leaves the range of `timedelta` at the 42nd
failure in a row (`delayOf_some_iff`).
-/
import AlgoTrader.Data.Candles
import AlgoTrader.Data.Stream

namespace AlgoTrader.App.WatchFeed

open AlgoTrader.Core
open AlgoTrader.Data
open AlgoTrader.Theory

set_option autoImplicit false

def minute : Duration := 60 * second

def day : Duration := 24 * 60 * minute

def backfillDays : Int := 30

def firstBackoff : Duration := minute

def maxBackoff : Duration := 30 * minute

def pruneEvery : Duration := 60 * minute

def pruneBatch : Nat := 5000

/-- `MAX_CANDLES_PER_REQUEST`. -/
def maxCandles : Int := 300

/-- The exceptions of a collection, as `_describe` tells them apart. -/
inductive FeedError where
  | circuitOpen
  | rateLimitExceeded
  | httpStatus (code : Int)
  | timeout
  | httpError
  | marketDataValidation
  | other
  deriving DecidableEq, Repr

def describe : FeedError → String
  | .circuitOpen => "Coinbase requests paused after repeated failures"
  | .rateLimitExceeded => "request budget was not available; waiting"
  | .httpStatus code =>
      if code = 429 then "Coinbase is rate limiting this feed (429)"
      else "Coinbase answered HTTP " ++ toString code
  | .timeout => "Coinbase did not answer in time"
  | .httpError => "Coinbase could not be reached"
  | .marketDataValidation => "Coinbase returned a candle that failed validation"
  | .other => "the candle request failed"

structure SymbolFeedStatus where
  symbol : String
  lastCandleAt : Option Timestamp
  failures : Nat
  lastError : Option String
  nextAttemptAt : Option Timestamp
  deriving DecidableEq

structure Config where
  tradingSymbols : List String
  retention : Duration

/-- The three reads of a symbol's newest candle a cycle may make: for its first
status, before it is collected, and after. -/
inductive Read where
  | first
  | before
  | after

/-- What the clock, the watchlist, the store and the venue answer in one cycle.  The
watchlist's symbols are its primary key. -/
structure Surroundings where
  now : Timestamp
  symbols : Except FeedError {listed : List String // listed.Nodup}
  latest : Read → String → Except FeedError (Option Timestamp)
  getCandles : String → Timestamp → Timestamp → Except FeedError (List Candle)
  upsertMany : List Candle → Except FeedError Nat

/-- A call the cycle has made for a symbol. -/
inductive Call where
  | collect (symbol : String)
  | prune (symbol : String) (cutoff : Timestamp) (limit : Nat)
  deriving DecidableEq

/-- The feed's statuses are kept under their own symbols. -/
structure Feed where
  statuses : Dict String SymbolFeedStatus
  keyed : ∀ entry ∈ statuses.entries, entry.2.symbol = entry.1
  requests : Nat
  nextPrune : Option Timestamp

namespace Feed

def fresh : Feed := ⟨Dict.empty, nofun, 0, none⟩

def status? (feed : Feed) (symbol : String) : Option SymbolFeedStatus := feed.statuses.get? symbol

/-- Keep a status, new or changed in place. -/
def put (feed : Feed) (status : SymbolFeedStatus) : Feed where
  statuses := feed.statuses.set status.symbol status
  keyed := by
    rintro ⟨symbol, kept⟩ member
    rcases Dict.mem_set.1 member with ⟨rfl, rfl⟩ | ⟨-, old⟩
    · rfl
    · exact feed.keyed _ old
  requests := feed.requests
  nextPrune := feed.nextPrune

def drop (feed : Feed) (symbol : String) : Feed where
  statuses := feed.statuses.erase symbol
  keyed entry member := feed.keyed entry (List.mem_filter.1 member).1
  requests := feed.requests
  nextPrune := feed.nextPrune

/-- `for gone in [s for s in self.statuses if s not in symbols]: del self.statuses[gone]`. -/
def keepOnly (feed : Feed) (symbols : List String) : Feed :=
  (feed.statuses.keys.filter fun symbol => symbol ∉ symbols).foldl drop feed

end Feed

/-! ## Collecting one symbol -/

section Cycle

variable (config : Config) (env : Surroundings)

/-- The candle on its own, as the validator sees it. -/
def validateOne (candle : Candle) : Except FeedError Unit :=
  match MarketDataValidator.standard.validateCandles [candle] interval with
  | .ok _ => .ok ()
  | .error _ => .error .marketDataValidation

/-- Check and store what a page holds of the symbol between its bounds. -/
def storePage (symbol : String) (cursor pageEnd : Timestamp) (fetched : List Candle) :
    Except FeedError Unit := do
  let page := fetched.filter fun candle =>
    cursor ≤ candle.openedAt ∧ candle.openedAt < pageEnd ∧ candle.symbol = symbol
  page.forM validateOne
  if page.isEmpty then return ()
  else (env.upsertMany page).map fun _ => ()

/-- `while cursor < end`, with the number of requests made. -/
def collectPages (symbol : String) (end_ : Timestamp) (requests : Nat) (cursor : Timestamp) :
    Nat × Except FeedError Unit :=
  if _ : cursor < end_ then
    let pageEnd := min end_ (cursor + interval * maxCandles)
    match (env.getCandles symbol cursor pageEnd).bind (storePage env symbol cursor pageEnd) with
    | .error e => (requests + 1, .error e)
    | .ok _ => collectPages symbol end_ (requests + 1) pageEnd
  else (requests, .ok ())
termination_by (end_ - cursor).toNat
decreasing_by
  have more : cursor < end_ := ‹_›
  have span : 0 < interval * maxCandles := by decide
  have forward := lt_min more (Int.lt_add_of_pos_right cursor span)
  exact (Int.toNat_lt_toNat (Int.sub_pos_of_lt more)).2 (Int.sub_lt_sub_left forward end_)

/-- `_collect`: the requests made, and the newest candle there is now. -/
def collect (symbol : String) : Nat × Except FeedError (Option Timestamp) :=
  let end_ := bucketStart env.now
  let earliest := end_ - backfillDays * day
  match env.latest .before symbol with
  | .error e => (0, .error e)
  | .ok latest =>
    let cursor := (latest.map fun newest => max earliest (newest + interval)).getD earliest
    match collectPages env symbol end_ 0 cursor with
    | (requests, .error e) => (requests, .error e)
    | (requests, .ok ()) => (requests, env.latest .after symbol)

/-- `timedelta.max`, in microseconds. -/
def maxDelta : Duration := 1000000000 * day - 1

/-- `FIRST_BACKOFF * 2 ** doublings`, where that is a `timedelta`. -/
def delayOf (doublings : Nat) : Option Duration :=
  if firstBackoff * 2 ^ doublings ≤ maxDelta then some (firstBackoff * 2 ^ doublings) else none

/-- What ends a cycle: an exception outside the guard. -/
inductive Escape where
  | failed (e : FeedError)
  | overflowError
  deriving DecidableEq

/-- `_fail`: the status, and what the handler itself raises. -/
def fail (status : SymbolFeedStatus) (e : FeedError) : SymbolFeedStatus × Option Escape :=
  let counted :=
    { status with failures := status.failures + 1, lastError := some (describe e) }
  match delayOf (counted.failures - 1) with
  | none => (counted, some .overflowError)
  | some delay => ({ counted with nextAttemptAt := some (env.now + min maxBackoff delay) }, none)

/-! ## One cycle -/

structure Cycle where
  feed : Feed
  calls : List Call

/-- The symbol's status, or a first one. -/
def statusOf (symbol : String) (kept : Option SymbolFeedStatus) :
    Except FeedError SymbolFeedStatus :=
  match kept with
  | some status => .ok status
  | none => (env.latest .first symbol).map fun last => ⟨symbol, last, 0, none, none⟩

def due (status : SymbolFeedStatus) : Bool := status.nextAttemptAt.all (· ≤ env.now)

/-- What a collection makes of the status, and what its handler raises. -/
def settle (status : SymbolFeedStatus) :
    Except FeedError (Option Timestamp) → SymbolFeedStatus × Option Escape
  | .ok last => (⟨status.symbol, last, 0, none, none⟩, none)
  | .error e => fail env status e

/-- Collect a symbol that is due. -/
def attempt (status : SymbolFeedStatus) (cycle : Cycle) : Cycle × Option Escape :=
  let collected := collect env status.symbol
  let settled := settle env status collected.2
  let feed := { cycle.feed with requests := cycle.feed.requests + collected.1 }
  (⟨feed.put settled.1, cycle.calls ++ [.collect status.symbol]⟩, settled.2)

def visit (symbol : String) (cycle : Cycle) : Cycle × Option Escape :=
  match statusOf env symbol (cycle.feed.status? symbol) with
  | .error e => (cycle, some (.failed e))
  | .ok status =>
    let kept := { cycle with feed := cycle.feed.put status }
    if due env status then attempt env status kept else (kept, none)

/-- `for symbol in symbols`: an exception outside the guard ends the loop. -/
def visitAll : List String → Cycle → Cycle × Option Escape
  | [], cycle => (cycle, none)
  | symbol :: rest, cycle =>
      match visit env symbol cycle with
      | (cycle, some escape) => (cycle, some escape)
      | (cycle, none) => visitAll rest cycle

def pruneDue (feed : Feed) : Bool := feed.nextPrune.all (· ≤ env.now)

/-- `_prune`: the store is asked for each symbol, whatever it answers for the others. -/
def prune (symbols : List String) (cycle : Cycle) : Cycle :=
  if pruneDue env cycle.feed then
    let cutoff := bucketStart env.now - config.retention
    { feed := { cycle.feed with nextPrune := some (env.now + pruneEvery) }
      calls := cycle.calls ++ (symbols.filter (· ∉ config.tradingSymbols)).map fun symbol =>
        .prune symbol cutoff pruneBatch }
  else cycle

def watchOnly (listed : List String) : List String := listed.filter (· ∉ config.tradingSymbols)

def runCycle (feed : Feed) : Cycle × Option Escape :=
  match env.symbols with
  | .error e => (⟨feed, []⟩, some (.failed e))
  | .ok listed =>
    let symbols := watchOnly config listed.1
    match visitAll env symbols ⟨feed.keepOnly symbols, []⟩ with
    | (cycle, some escape) => (cycle, some escape)
    | (cycle, none) => (prune config env symbols cycle, none)

end Cycle

end AlgoTrader.App.WatchFeed
