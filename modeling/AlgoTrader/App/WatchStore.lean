/-
# App.WatchStore -- the watch-only feed over its store

What the feed of the watched coins does to the candle store: it collects a symbol page by page,
after the newest candle it has of it, and prunes old candles once in a while.  The venue and the
store may refuse anything; a write takes place as a whole or not at all.

* `collect_plays` -- with the answers of one cycle, a collection comes to what `WatchFeed.collect`
  says it does;
* `runCycle_tasks` -- and a cycle does nothing to the store but collect and prune.
-/
import AlgoTrader.App.WatchFeed
import AlgoTrader.Theory.Frames

namespace AlgoTrader.App.WatchStore

open AlgoTrader.Core AlgoTrader.Data AlgoTrader.Theory
open WatchFeed (Config FeedError Surroundings Call Cycle Escape backfillDays day maxCandles pruneBatch validateOne)

set_option autoImplicit false

/-! ## The requests -/

inductive WatchOp where
  | clock
  | latestOpenedAt (read : WatchFeed.Read) (symbol interval : String)
  | getCandles (product : String) (start end_ : Timestamp) (granularity : String)
  | upsertMany (candles : List Candle)
  | pruneBefore (symbol interval : String) (cutoff : Timestamp) (limit : Nat)

abbrev WatchOp.Reply : WatchOp → Type
  | .clock => Timestamp
  | .latestOpenedAt .. => Option Timestamp
  | .getCandles .. => List Candle
  | .upsertMany _ => Nat
  | .pruneBefore .. => Nat

abbrev watching : Signature := ⟨WatchOp, WatchOp.Reply⟩

/-- A program of the feed. -/
abbrev Watch (α : Type) := Prog watching FeedError α

abbrev issue (op : WatchOp) : Watch op.Reply := Prog.call (S := watching) op

/-! ## Collecting and pruning -/

/-- `for candle in page`: the first that is refused ends the collection. -/
def validate : Except FeedError Unit → Watch Unit
  | .ok _ => pure ()
  | .error e => .raise e

def pageOf (symbol : String) (cursor pageEnd : Timestamp) (fetched : List Candle) : List Candle :=
  fetched.filter fun candle => cursor ≤ candle.openedAt ∧ candle.openedAt < pageEnd ∧ candle.symbol = symbol

def storePage (page : List Candle) : Watch Unit := do
  validate (page.forM validateOne)
  if page.isEmpty then return ()
  else do
    let _ ← issue (.upsertMany page)
    return ()

/-- `while cursor < end`. -/
def collectPages (symbol : String) (end_ cursor : Timestamp) : Watch Unit :=
  if _ : cursor < end_ then do
    let pageEnd := min end_ (cursor + interval * maxCandles)
    let fetched ← issue (.getCandles symbol cursor pageEnd websocketCandleInterval)
    storePage (pageOf symbol cursor pageEnd fetched)
    collectPages symbol end_ pageEnd
  else pure ()
termination_by (end_ - cursor).toNat
decreasing_by
  have more : cursor < end_ := ‹_›
  have span : 0 < interval * maxCandles := by decide
  have forward := lt_min more (Int.lt_add_of_pos_right cursor span)
  exact (Int.toNat_lt_toNat (Int.sub_pos_of_lt more)).2 (Int.sub_lt_sub_left forward end_)

/-- The edge of the backfill: thirty days before the bucket in progress. -/
def earliest (now : Timestamp) : Timestamp := bucketStart now - backfillDays * day

def resumeAt (now : Timestamp) (latest : Option Timestamp) : Timestamp :=
  (latest.map fun newest => max (earliest now) (newest + interval)).getD (earliest now)

/-- `_collect`. -/
def collect (now : Timestamp) (symbol : String) : Watch (Option Timestamp) := do
  let latest ← issue (.latestOpenedAt .before symbol websocketCandleInterval)
  collectPages symbol (bucketStart now) (resumeAt now latest)
  issue (.latestOpenedAt .after symbol websocketCandleInterval)

/-- What a cycle does to the store. -/
inductive Task where
  | collect (symbol : String)
  | prune (symbol : String)

def minRetentionDays : Int := 30

def maxRetentionDays : Int := 365

/-- The retention `WatchFeedConfig.from_env` makes of a number of days. -/
def retentionOf (days : Int) : Except String Duration :=
  if minRetentionDays ≤ days ∧ days ≤ maxRetentionDays then .ok (days * day)
  else .error "WATCH_FEED_RETENTION_DAYS must be between 30 and 365"

/-- The cutoff of `_prune`. -/
def cutoff (config : Config) (now : Timestamp) : Timestamp := bucketStart now - config.retention

/-- A failure of one symbol is one of its own. -/
def Task.program (config : Config) (now : Timestamp) : Task → Watch Unit
  | .collect symbol => (WatchStore.collect now symbol).attempt.discard
  | .prune symbol =>
      (issue (.pruneBefore symbol websocketCandleInterval (cutoff config now) pruneBatch)).attempt.discard

/-- A cycle, with one reading of the clock. -/
def cycle (config : Config) (tasks : List Task) : Watch Unit := do
  let now ← issue .clock
  Prog.visit (Task.program config now) tasks

/-! ## The store and the source -/

/-- The source answers a window with exactly its candles in it. -/
def Answers (source : Set Candle) (product : String) (start end_ : Timestamp) (granularity : String)
    (fetched : List Candle) : Prop :=
  ∀ candle, candle ∈ fetched ↔ candle ∈ source ∧ candle.symbol = product ∧ candle.interval = granularity ∧
    start ≤ candle.openedAt ∧ candle.openedAt < end_

def WatchServe (source : Set Candle) : Service watching FeedError CandleStore
  | .clock, store, reply, store' => (∃ now, reply = .ok now) ∧ store' = store
  | .latestOpenedAt _ symbol interval, store, reply, store' =>
      (reply = .ok (store.latestOpenedAt symbol interval) ∨ ∃ e, reply = .error e) ∧ store' = store
  | .getCandles product start end_ granularity, store, reply, store' =>
      ((∃ fetched, reply = .ok fetched ∧ Answers source product start end_ granularity fetched) ∨
        ∃ e, reply = .error e) ∧ store' = store
  | .upsertMany candles, store, reply, store' =>
      (∃ e, reply = .error e) ∧ store' = store ∨
        (reply = .ok (store.inserted candles) ∨ ∃ e, reply = .error e) ∧ store' = store.upsertMany candles
  | .pruneBefore symbol interval cutoff limit, store, reply, store' =>
      (∃ e, reply = .error e) ∧ store' = store ∨
        ∃ count, (reply = .ok count ∨ ∃ e, reply = .error e) ∧
          store.pruneBefore symbol interval cutoff limit = .ok (count, store')

/-- The feed over a store that nothing else writes: any cycles, each abandoned anywhere, and restarts. -/
def watchSystem (config : Config) (source : Set Candle) : System watching FeedError CandleStore where
  Entry := List Task
  program := cycle config
  serve := WatchServe source
  restart before after := after = before
  initial := (· = .empty)

/-! ## The cycles of the feed -/

/-- The answers of one cycle. -/
def answers (env : Surroundings) : Script watching FeedError CandleStore
  | .clock, m => (.ok env.now, m.world)
  | .latestOpenedAt read symbol _, m => (env.latest read symbol, m.world)
  | .getCandles product start end_ _, m => (env.getCandles product start end_, m.world)
  | .upsertMany candles, m => (env.upsertMany candles, m.world)
  | .pruneBefore .., m => (.error .other, m.world)

section Played

variable {env : Surroundings} {m : Moment watching FeedError CandleStore}

theorem storePage_eq (symbol : String) (cursor pageEnd : Timestamp) (fetched : List Candle) :
    WatchFeed.storePage env symbol cursor pageEnd fetched =
      ((pageOf symbol cursor pageEnd fetched).forM validateOne).bind fun _ =>
        if (pageOf symbol cursor pageEnd fetched).isEmpty then .ok ()
        else (env.upsertMany (pageOf symbol cursor pageEnd fetched)).map fun _ => () := rfl

theorem storePage_plays (symbol : String) (cursor pageEnd : Timestamp) (fetched : List Candle) :
    ((storePage (pageOf symbol cursor pageEnd fetched)).play (answers env) m).1 =
      WatchFeed.storePage env symbol cursor pageEnd fetched := by
  rw [storePage_eq]
  generalize pageOf symbol cursor pageEnd fetched = page
  rw [storePage, play_bind_fst]
  cases page.forM validateOne with
  | error e =>
      rw [validate, play_raise]
      rfl
  | ok _ =>
      rw [validate, Prog.play_pure]
      dsimp only [Except.bind]
      by_cases none_ : page.isEmpty = true
      · rw [if_pos none_, if_pos none_]
        exact congrArg Prod.fst (Prog.play_pure _ _)
      · rw [if_neg none_, if_neg none_, play_bind_fst, Prog.play_call]
        dsimp only [answers]
        cases env.upsertMany page with
        | error e => rfl
        | ok count => exact congrArg Prod.fst (Prog.play_pure _ _)

theorem collectPages_plays (symbol : String) (end_ cursor : Timestamp) (requests : Nat) :
    ((collectPages symbol end_ cursor).play (answers env) m).1 =
      (WatchFeed.collectPages env symbol end_ requests cursor).2 := by
  induction cursor using collectPages.induct end_ generalizing m requests with
  | case1 cursor more pageEnd =>
      rename_i ih
      rw [collectPages, WatchFeed.collectPages, dif_pos more, dif_pos more, play_bind_fst, Prog.play_call]
      dsimp only [answers]
      cases env.getCandles symbol cursor _ with
      | error e => rfl
      | ok fetched =>
          dsimp only [Except.bind]
          rw [play_bind_fst, storePage_plays]
          cases WatchFeed.storePage env symbol cursor _ fetched with
          | error e => rfl
          | ok _ => exact ih _
  | case2 cursor done =>
      rw [collectPages, WatchFeed.collectPages, dif_neg done, dif_neg done]
      exact congrArg Prod.fst (Prog.play_pure _ _)

/-- What a collection comes to, with the answers of a cycle. -/
theorem collect_plays (symbol : String) :
    ((collect env.now symbol).play (answers env) m).1 = (WatchFeed.collect env symbol).2 := by
  rw [collect, WatchFeed.collect, play_bind_fst, Prog.play_call]
  dsimp only [answers]
  cases env.latest .before symbol with
  | error e => rfl
  | ok latest =>
      dsimp only [Except.bind]
      rw [play_bind_fst, collectPages_plays symbol (bucketStart env.now) (resumeAt env.now latest) 0, resumeAt,
        earliest]
      rcases WatchFeed.collectPages env symbol (bucketStart env.now) 0 _ with ⟨requests, _ | _⟩
      · rfl
      · exact congrArg Prod.fst (Prog.play_call _ _)

end Played

/-! ## The calls of a cycle -/

/-- The call of a task. -/
def Task.call (config : Config) (now : Timestamp) : Task → Call
  | .collect symbol => .collect symbol
  | .prune symbol => .prune symbol (cutoff config now) pruneBatch

section Calls

variable (config : Config) (env : Surroundings)

theorem visit_tasks (symbol : String) (before : Cycle) : ∃ tasks : List Task,
    (WatchFeed.visit env symbol before).1.calls = before.calls ++ tasks.map (Task.call config env.now) := by
  unfold WatchFeed.visit
  split
  · exact ⟨[], (List.append_nil _).symm⟩
  · rename_i status _
    dsimp only
    split
    · exact ⟨[.collect status.symbol], rfl⟩
    · exact ⟨[], (List.append_nil _).symm⟩

theorem visitAll_tasks (symbols : List String) (before : Cycle) : ∃ tasks : List Task,
    (WatchFeed.visitAll env symbols before).1.calls = before.calls ++ tasks.map (Task.call config env.now) := by
  induction symbols generalizing before with
  | nil => exact ⟨[], (List.append_nil _).symm⟩
  | cons symbol rest ih =>
      obtain ⟨first, made⟩ := visit_tasks config env symbol before
      unfold WatchFeed.visitAll
      split
      · rename_i after escape visited
        rw [visited] at made
        exact ⟨first, made⟩
      · rename_i after visited
        rw [visited] at made
        obtain ⟨others, later⟩ := ih after
        exact ⟨first ++ others, by rw [later, made, List.map_append, List.append_assoc]⟩

/-- A cycle of the feed does nothing to the store but collect and prune, at one reading of the clock. -/
theorem runCycle_tasks (feed : WatchFeed.Feed) : ∃ tasks : List Task,
    (WatchFeed.runCycle config env feed).1.calls = tasks.map (Task.call config env.now) := by
  unfold WatchFeed.runCycle
  split
  · exact ⟨[], rfl⟩
  rename_i listed _
  obtain ⟨tasks, made⟩ := visitAll_tasks config env (WatchFeed.watchOnly config listed.1)
    ⟨feed.keepOnly (WatchFeed.watchOnly config listed.1), []⟩
  rw [List.nil_append] at made
  dsimp only
  split
  · rename_i visited
    rw [visited] at made
    exact ⟨tasks, made⟩
  rename_i visited
  rw [visited] at made
  unfold WatchFeed.prune
  split
  · refine ⟨tasks ++ ((WatchFeed.watchOnly config listed.1).filter (· ∉ config.tradingSymbols)).map .prune, ?_⟩
    rw [List.map_append, List.map_map, ← made]
    rfl
  · exact ⟨tasks, made⟩

end Calls

end AlgoTrader.App.WatchStore
