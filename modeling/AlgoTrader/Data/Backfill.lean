/-
# Data.Backfill -- filling the store from the venue's history

The backfiller asks for pages of at most 300 candles, and stores a page only when it is a
series without issues that reaches from edge to edge.  Unless it is told to refresh what
is there, it starts after the newest candle the store has: what is missing before that
stays missing.

* `checkPage_ok` -- a page that is stored holds a candle for each of its buckets;
* `wp_fillPages` -- so do all the pages up to the end, page by page;
* `run_fills_from_cursor` -- what a backfill that returns leaves in the store;
* `older_hole_stays` -- a hole that is older than the newest candle.
-/
import Mathlib.Tactic.Linarith
import AlgoTrader.Data.Candles
import AlgoTrader.Theory.Logic

namespace AlgoTrader.Data

open AlgoTrader.Core Brokers Theory

set_option autoImplicit false

/-- `GRANULARITY_SECONDS`. -/
def granularitySeconds : String → Option Nat
  | "ONE_MINUTE" => some 60
  | "FIVE_MINUTE" => some 300
  | "FIFTEEN_MINUTE" => some 900
  | "THIRTY_MINUTE" => some 1800
  | "ONE_HOUR" => some 3600
  | "TWO_HOUR" => some 7200
  | "SIX_HOUR" => some 21600
  | "ONE_DAY" => some 86400
  | _ => none

def maxCandlesPerRequest : Nat := 300

/-- `timedelta(seconds=seconds)`. -/
def intervalOf (seconds : Nat) : Duration := seconds * 1000000

/-- The requests of the backfiller: to the store and to the venue's client. -/
inductive HistoryOp where
  | latestOpenedAt (symbol interval : String)
  | upsertMany (candles : List Candle)
  | getCandles (product : String) (start end_ : Timestamp) (granularity : String)

abbrev HistoryOp.Reply : HistoryOp → Type
  | .latestOpenedAt .. => Option Timestamp
  | .upsertMany _ => Nat
  | .getCandles .. => List Candle

abbrev history : Signature := ⟨HistoryOp, HistoryOp.Reply⟩

/-- A program of the backfiller. -/
abbrev Fetch (α : Type) := Prog history Exc α

abbrev fetch (op : HistoryOp) : Fetch op.Reply := Prog.call (S := history) op

def runtimeError (message : String) : Exc :=
  { kind := .provider, typeName := "RuntimeError", message }

def keyError (key : String) : Exc := { kind := .provider, typeName := "KeyError", message := key }

namespace HistoricalCandleBackfiller

/-- The candles of a page, if they may be stored. -/
def checkPage (validator : MarketDataValidator) (interval : Duration) (cursor pageEnd : Timestamp)
    (candles : List Candle) : Except Exc (List Candle) :=
  if candles.isEmpty then
    .error (runtimeError "Coinbase returned no candles for a non-empty backfill page")
  else
    match validator.validateCandles candles interval with
    | .error exc => .error exc
    | .ok normalized =>
        let page := normalized.filter fun candle =>
          cursor ≤ candle.openedAt ∧ candle.openedAt < pageEnd
        match page.head?, page.getLast? with
        | some first, some last =>
            if first.openedAt ≠ cursor ∨ last.openedAt ≠ pageEnd - interval then
              .error (runtimeError "Coinbase candle page contains an unexplained edge gap")
            else .ok page
        | _, _ => .error (runtimeError "Coinbase candle page did not overlap the requested window")

def pageEndOf (interval : Duration) (end_ cursor : Timestamp) : Timestamp :=
  min end_ (cursor + interval * maxCandlesPerRequest)

/-- `while cursor < end`, for at most so many pages. -/
def fillPages (validator : MarketDataValidator) (product : String) (interval : Duration)
    (granularity : String) (end_ : Timestamp) : Nat → Timestamp → Nat → Fetch Nat
  | 0, _, written => pure written
  | n + 1, cursor, written =>
      if cursor < end_ then do
        let pageEnd := pageEndOf interval end_ cursor
        let candles ← fetch (.getCandles product cursor pageEnd granularity)
        match checkPage validator interval cursor pageEnd candles with
        | .error exc => .raise exc
        | .ok page => do
            let stored ← fetch (.upsertMany page)
            fillPages validator product interval granularity end_ n pageEnd (written + stored)
      else pure written

/-- Where a backfill starts. -/
def resumeFrom (interval : Duration) (start : Timestamp) (latest : Option Timestamp) : Timestamp :=
  (latest.map fun newest => max start (newest + interval)).getD start

/-- More pages than there can be up to the end: each has a candle at least. -/
def pageBound (interval : Duration) (cursor end_ : Timestamp) : Nat :=
  ((end_ - cursor) / interval).toNat + 1

/-- `run`. -/
def run (validator : MarketDataValidator) (product : String) (start end_ : Timestamp)
    (granularity : String) (refreshExisting : Bool) : Fetch Nat :=
  if end_ ≤ start then pure 0
  else
    match granularitySeconds granularity with
    | none => .raise (keyError granularity)
    | some seconds => do
        let interval := intervalOf seconds
        let latest ← if refreshExisting then pure none else
          fetch (.latestOpenedAt product granularity)
        let cursor := resumeFrom interval start latest
        fillPages validator product interval granularity end_ (pageBound interval cursor end_) cursor 0

end HistoricalCandleBackfiller

/-! ## The store and the client -/

/-- Everything kept before is kept after. -/
def CandleStore.Keeps (before after : CandleStore) : Prop :=
  ∀ symbol interval openedAt, before.Holds symbol interval openedAt →
    after.Holds symbol interval openedAt

/-- A write takes place as a whole or not at all, and may take place although an error comes
back.  While the client is awaited, others may add candles; it may answer anything. -/
def HistoryServe : Service history Exc CandleStore
  | .latestOpenedAt symbol interval, store, reply, store' =>
      store' = store ∧ ∀ latest, reply = .ok latest → latest = store.latestOpenedAt symbol interval
  | .upsertMany candles, store, reply, store' =>
      (reply = .ok (store.inserted candles) ∧ store' = store.upsertMany candles) ∨
        ((∃ exc, reply = .error exc) ∧ (store' = store ∨ store' = store.upsertMany candles))
  | .getCandles .., store, _, store' => store.Keeps store'

/-- The client answers with candles of the product and granularity it was asked for. -/
def OwnCandles : Event history Exc CandleStore → Prop
  | ⟨.getCandles product _ _ granularity, .ok candles, _, _⟩ =>
      ∀ candle ∈ candles, candle.symbol = product ∧ candle.interval = granularity
  | _ => True

/-! ## Series without gaps -/

section Series

variable {interval : Duration}

/-- In a series of candles one interval apart, each is where its place says. -/
theorem openedAt_of_chain {first : Candle} {rest : List Candle}
    (chain : (first :: rest).IsChain fun earlier later =>
      later.openedAt - earlier.openedAt = interval) (n : Nat) {candle : Candle}
    (there : (first :: rest)[n]? = some candle) :
    candle.openedAt = first.openedAt + n * interval := by
  induction rest generalizing first n with
  | nil =>
    cases n with
    | zero =>
      cases there
      simp
    | succ n => simp at there
  | cons second others ih =>
    obtain ⟨next, chain⟩ := List.isChain_cons_cons.1 chain
    cases n with
    | zero =>
      cases there
      simp
    | succ n =>
      have placed := ih chain n there
      have moved : second.openedAt = first.openedAt + interval := by
        rw [← next]
        exact (add_sub_cancel _ _).symm
      rw [placed, moved]
      push_cast
      ring

/-- One interval more for each place. -/
theorem places_le (positive : 0 < interval) {base : Timestamp} {i m : Nat}
    (before : base + i * interval ≤ base + m * interval) : i ≤ m := by
  have scaled : (i : Int) * interval ≤ m * interval := by linarith
  exact_mod_cast le_of_mul_le_mul_right scaled positive

open HistoricalCandleBackfiller in
/-- A page that may be stored holds a candle of the answer for each of its buckets. -/
theorem checkPage_ok {validator : MarketDataValidator} {cursor pageEnd : Timestamp}
    {candles page : List Candle} (positive : 0 < interval)
    (checked : checkPage validator interval cursor pageEnd candles = .ok page) :
    (∃ n : Nat, pageEnd = cursor + (n + 1) * interval ∧
      ∀ j : Nat, j ≤ n → ∃ candle ∈ page, candle.openedAt = cursor + j * interval) ∧
      ∀ candle ∈ page, candle ∈ candles := by
  unfold checkPage at checked
  split at checked
  · cases checked
  split at checked
  · cases checked
  rename_i normalized valid
  obtain ⟨rfl, chain⟩ := MarketDataValidator.validateCandles_ok valid
  dsimp only at checked
  split at checked
  swap
  · cases checked
  rename_i first last isFirst isLast
  split at checked
  · cases checked
  rename_i edges
  obtain ⟨starts, ends⟩ := not_or.1 edges
  cases checked
  refine ⟨?_, fun candle member => (List.mem_filter.1 member).1⟩
  have firstKept := List.mem_filter.1 (List.mem_of_mem_head? isFirst)
  have lastKept := List.mem_filter.1 (List.mem_of_getLast? isLast)
  cases normalized with
  | nil => cases firstKept.1
  | cons oldest rest =>
    obtain ⟨i, atFirst⟩ := List.mem_iff_getElem?.1 firstKept.1
    obtain ⟨m, atLast⟩ := List.mem_iff_getElem?.1 lastKept.1
    have firstPlace := openedAt_of_chain chain i atFirst
    have lastPlace := openedAt_of_chain chain m atLast
    have ordered : i ≤ m := by
      have after := (of_decide_eq_true lastKept.2).1
      rw [← not_not.1 starts, firstPlace, lastPlace] at after
      exact places_le positive after
    obtain ⟨n, rfl⟩ := Nat.exists_eq_add_of_le ordered
    have pageEnds : pageEnd = cursor + (n + 1) * interval := by
      have left := not_not.1 ends
      rw [lastPlace] at left
      rw [← not_not.1 starts, firstPlace]
      push_cast at left
      linarith
    refine ⟨n, pageEnds, fun j inside => ?_⟩
    have short : i + j < (oldest :: rest).length := by
      have := (List.getElem?_eq_some_iff.1 atLast).1
      omega
    have placed := openedAt_of_chain chain (i + j) (List.getElem?_eq_getElem short)
    have opens : (oldest :: rest)[i + j].openedAt = cursor + j * interval := by
      rw [placed, ← not_not.1 starts, firstPlace]
      push_cast
      ring
    refine ⟨_, List.mem_filter.2 ⟨List.getElem_mem short, decide_eq_true ⟨?_, ?_⟩⟩, opens⟩
    · rw [opens]
      have := mul_nonneg (Int.natCast_nonneg j) positive.le
      linarith
    · rw [opens, pageEnds]
      have within : (j : Int) < n + 1 := by omega
      have := mul_lt_mul_of_pos_right within positive
      linarith

open HistoricalCandleBackfiller in
/-- No candle of a page that may be stored reaches beyond its edges. -/
theorem checkPage_within {validator : MarketDataValidator} {cursor pageEnd : Timestamp}
    {candles page : List Candle} (positive : 0 < interval)
    (checked : checkPage validator interval cursor pageEnd candles = .ok page) :
    ∀ candle ∈ page, cursor ≤ candle.openedAt ∧ candle.openedAt + interval ≤ pageEnd := by
  unfold checkPage at checked
  split at checked
  · cases checked
  split at checked
  · cases checked
  rename_i normalized valid
  obtain ⟨rfl, chain⟩ := MarketDataValidator.validateCandles_ok valid
  dsimp only at checked
  split at checked
  swap
  · cases checked
  rename_i first last isFirst isLast
  split at checked
  · cases checked
  rename_i edges
  cases checked
  intro candle member
  have kept := List.mem_filter.1 member
  have lastKept := List.mem_filter.1 (List.mem_of_getLast? isLast)
  have inside := of_decide_eq_true kept.2
  refine ⟨inside.1, ?_⟩
  cases normalized with
  | nil => cases kept.1
  | cons oldest rest =>
    obtain ⟨i, at_⟩ := List.mem_iff_getElem?.1 kept.1
    obtain ⟨m, atLast⟩ := List.mem_iff_getElem?.1 lastKept.1
    have place := openedAt_of_chain chain i at_
    have lastPlace := openedAt_of_chain chain m atLast
    have ends := not_not.1 (not_or.1 edges).2
    have before : oldest.openedAt + i * interval ≤ oldest.openedAt + m * interval := by
      by_contra past
      have apart : (m : Int) * interval < i * interval := by linarith
      have later : (m : Int) + 1 ≤ i := lt_of_mul_lt_mul_right apart positive.le
      have scaled := mul_le_mul_of_nonneg_right later positive.le
      linarith [inside.2]
    linarith

/-- From the cursor on there are whole buckets up to the end, and a candle for each. -/
def FilledFrom (product granularity : String) (interval : Duration) (end_ cursor : Timestamp)
    (store : CandleStore) : Prop :=
  cursor < end_ → ∃ k : Nat, end_ = cursor + k * interval ∧
    ∀ j < k, store.Holds product granularity (cursor + j * interval)

theorem CandleStore.Keeps.trans {first second third : CandleStore} (one : first.Keeps second)
    (two : second.Keeps third) : first.Keeps third :=
  fun symbol interval openedAt held => two _ _ _ (one symbol interval openedAt held)

theorem CandleStore.keeps_upsertMany (store : CandleStore) (candles : List Candle) :
    store.Keeps (store.upsertMany candles) :=
  fun _ _ _ held => CandleStore.holds_upsertMany.2 (.inl held)

variable {product granularity : String} {end_ : Timestamp}

/-- One page more in front: its buckets, then those of the pages after it. -/
theorem FilledFrom.page {cursor pageEnd : Timestamp} {n : Nat} {paged store : CandleStore}
    (upTo : pageEnd ≤ end_) (ends : pageEnd = cursor + (n + 1) * interval)
    (held : ∀ j ≤ n, paged.Holds product granularity (cursor + j * interval))
    (keeps : paged.Keeps store) (rest : FilledFrom product granularity interval end_ pageEnd store) :
    FilledFrom product granularity interval end_ cursor store := by
  intro _
  by_cases last : end_ ≤ pageEnd
  · refine ⟨n + 1, ?_, fun j inside => keeps _ _ _ (held j (by omega))⟩
    rw [le_antisymm last upTo, ends]
    push_cast
    rfl
  · obtain ⟨k, reaches, others⟩ := rest (not_le.1 last)
    refine ⟨n + 1 + k, ?_, fun j inside => ?_⟩
    · rw [reaches, ends]
      push_cast
      ring
    · by_cases here : j ≤ n
      · exact keeps _ _ _ (held j here)
      · have later := others (j - (n + 1)) (by omega)
        have place : pageEnd + ((j - (n + 1) : Nat) : Int) * interval = cursor + j * interval := by
          rw [ends, Nat.cast_sub (by omega)]
          push_cast
          ring
        rwa [place] at later

open HistoricalCandleBackfiller

variable {validator : MarketDataValidator}

/-- The candles of a checked page, once written. -/
theorem holds_page {cursor : Timestamp} {n : Nat} {candles page : List Candle} {store : CandleStore}
    (own : ∀ candle ∈ candles, candle.symbol = product ∧ candle.interval = granularity)
    (covers : ∀ j ≤ n, ∃ candle ∈ page, candle.openedAt = cursor + (j : Nat) * interval)
    (within : ∀ candle ∈ page, candle ∈ candles) :
    ∀ j ≤ n, (store.upsertMany page).Holds product granularity (cursor + (j : Nat) * interval) := by
  intro j inside
  obtain ⟨candle, member, opens⟩ := covers j inside
  obtain ⟨symbol, span⟩ := own candle (within candle member)
  refine CandleStore.holds_upsertMany.2 (.inr ⟨candle, member, ?_⟩)
  rw [candleKey, symbol, span, opens]

/-- What is left of the pages, once one is written. -/
theorem pages_left {cursor : Timestamp} {n fuel : Nat} (positive : 0 < interval)
    (enough : end_ - cursor ≤ (fuel + 1 : Nat) * interval) :
    end_ - (cursor + (n + 1) * interval) ≤ fuel * interval := by
  have := mul_nonneg (Int.natCast_nonneg n) positive.le
  push_cast at enough
  linarith

/-- **Page by page.**  With fuel for as many pages as there are buckets, a run that comes
to its end has filled every bucket from the cursor on. -/
theorem wp_fillPages (positive : 0 < interval) (fuel : Nat) {cursor : Timestamp} {written : Nat}
    {m : Moment history Exc CandleStore} (enough : end_ - cursor ≤ fuel * interval) :
    wp (Contract.plain HistoryServe OwnCandles).logic
      (fun result m' => m.world.Keeps m'.world ∧ ∀ total, result = .ok total →
        FilledFrom product granularity interval end_ cursor m'.world)
      (fillPages validator product interval granularity end_ fuel cursor written) m := by
  induction fuel generalizing cursor written m with
  | zero =>
    refine ⟨fun _ _ _ held => held, fun total _ ahead => ?_⟩
    simp only [Nat.cast_zero, zero_mul] at enough
    exact absurd ahead (not_lt.2 (by linarith))
  | succ fuel ih =>
    unfold fillPages
    split
    swap
    · rename_i done
      exact ⟨fun _ _ _ held => held, fun total _ ahead => absurd ahead done⟩
    refine wp_bind.2 (wp_served fun reply after keeps own => ?_)
    cases reply with
    | error exc => exact ⟨keeps, fun total failed => by cases failed⟩
    | ok candles =>
      show wp _ _ (match checkPage _ _ _ _ candles with | .error exc => _ | .ok page => _) _
      split
      · exact ⟨keeps, fun total failed => by cases failed⟩
      rename_i page checked
      obtain ⟨⟨n, ends, covers⟩, within⟩ := checkPage_ok positive checked
      refine wp_bind.2 (wp_served fun reply stored wrote _ => ?_)
      obtain ⟨rfl, rfl⟩ | ⟨⟨exc, rfl⟩, lost | done⟩ := wrote
      · have left := ends ▸ pages_left (n := n) positive enough
        refine wp_mono (ih left) fun result m' rest => ?_
        obtain ⟨keptOn, filled⟩ := rest
        refine ⟨(keeps.trans (CandleStore.keeps_upsertMany _ _)).trans keptOn, fun total is => ?_⟩
        exact .page (min_le_left ..) ends (holds_page own covers within) keptOn
          (filled total is)
      · exact ⟨lost ▸ keeps, fun total failed => by cases failed⟩
      · exact ⟨done ▸ keeps.trans (CandleStore.keeps_upsertMany _ _), fun total failed => by
          cases failed⟩

theorem granularitySeconds_pos {seconds : Nat} (known : granularitySeconds granularity = some seconds) :
    0 < intervalOf seconds := by
  unfold granularitySeconds at known
  split at known <;> cases known <;> decide

/-- The pages up to the end are no more than the bound. -/
theorem pageBound_enough (positive : 0 < interval) (cursor : Timestamp) :
    end_ - cursor ≤ pageBound interval cursor end_ * interval := by
  have whole := Int.emod_add_mul_ediv (end_ - cursor) interval
  have rest := Int.emod_lt_of_pos (end_ - cursor) positive
  have fits : (end_ - cursor) / interval ≤ (((end_ - cursor) / interval).toNat : Int) :=
    Int.self_le_toNat _
  have scaled := mul_le_mul_of_nonneg_right fits positive.le
  unfold pageBound
  push_cast
  linarith

/-- What is filled from a cursor on is every bucket of the window that is not before it. -/
theorem FilledFrom.bucket {cursor bucket : Timestamp} {store : CandleStore} (positive : 0 < interval)
    (filled : FilledFrom product granularity interval end_ cursor store) {left : Nat}
    (whole : end_ = bucket + (left + 1) * interval) (notBefore : cursor - interval < bucket) :
    store.Holds product granularity bucket := by
  have room := mul_nonneg (Int.natCast_nonneg left) positive.le
  obtain ⟨k, reaches, held⟩ := filled (by linarith)
  have scaled : (left : Int) * interval < k * interval := by linarith
  have inside : (left : Int) < k := lt_of_mul_lt_mul_right scaled positive.le
  have there := held (k - (left + 1)) (by omega)
  have place : cursor + ((k - (left + 1) : Nat) : Int) * interval = bucket := by
    rw [Nat.cast_sub (by omega)]
    push_cast
    linarith
  rwa [place] at there

/-- A bucket that a backfill is to fill: any of the window when it refreshes, else only
those after the newest candle. -/
def ToFill (refreshExisting : Bool) (latest : Option Timestamp) (bucket : Timestamp) : Prop :=
  refreshExisting = true ∨ ∀ newest, latest = some newest → newest < bucket

theorem resumeFrom_before {start bucket : Timestamp} {latest : Option Timestamp}
    (positive : 0 < interval) (inWindow : start ≤ bucket)
    (after : ∀ newest, latest = some newest → newest < bucket) :
    resumeFrom interval start latest - interval < bucket := by
  unfold resumeFrom
  cases latest with
  | none => exact lt_of_lt_of_le (sub_lt_self _ positive) inWindow
  | some newest =>
    have later := after newest rfl
    show max start (newest + interval) - interval < bucket
    rcases max_cases start (newest + interval) with ⟨is, -⟩ | ⟨is, -⟩
    · rw [is]
      exact lt_of_lt_of_le (sub_lt_self _ positive) inWindow
    · rw [is, add_sub_cancel_right]
      exact later

/-- A backfill loses nothing, and fills the pages from some cursor on: one that passes over
no bucket that is to be filled. -/
theorem wp_run {start : Timestamp} {refreshExisting : Bool} {seconds : Nat} {store : CandleStore}
    (known : granularitySeconds granularity = some seconds) :
    wp (Contract.plain HistoryServe OwnCandles).logic
      (fun result m' => store.Keeps m'.world ∧ ∀ total, result = .ok total → start < end_ →
        ∃ latest, (∀ bucket, ToFill refreshExisting (store.latestOpenedAt product granularity) bucket →
            ∀ newest, latest = some newest → newest < bucket) ∧
          FilledFrom product granularity (intervalOf seconds) end_
            (resumeFrom (intervalOf seconds) start latest) m'.world)
      (run validator product start end_ granularity refreshExisting) ⟨store, []⟩ := by
  have positive := granularitySeconds_pos known
  have pages (latest : Option Timestamp) (m : Moment history Exc CandleStore) :
      wp (Contract.plain HistoryServe OwnCandles).logic
        (fun result m' => m.world.Keeps m'.world ∧ ∀ total, result = .ok total →
          FilledFrom product granularity (intervalOf seconds) end_
            (resumeFrom (intervalOf seconds) start latest) m'.world)
        (fillPages validator product (intervalOf seconds) granularity end_
          (pageBound (intervalOf seconds) (resumeFrom (intervalOf seconds) start latest) end_)
          (resumeFrom (intervalOf seconds) start latest) 0) m :=
    wp_fillPages positive _ (pageBound_enough positive _)
  unfold run
  split
  · rename_i empty
    exact ⟨fun _ _ _ held => held, fun _ _ ahead => absurd ahead (not_lt.2 empty)⟩
  rw [known]
  cases refreshExisting with
  | true =>
    refine wp_mono (pages none _) fun result m' ended => ?_
    refine ⟨ended.1, fun total is _ => ⟨none, fun bucket _ newest some_ => ?_, ended.2 total is⟩⟩
    cases some_
  | false =>
    refine wp_bind.2 (wp_served fun reply after served _ => ?_)
    obtain ⟨rfl, read⟩ := served
    cases reply with
    | error exc => exact ⟨fun _ _ _ held => held, fun total failed => by cases failed⟩
    | ok latest =>
      refine wp_mono (pages latest _) fun result m' ended => ?_
      refine ⟨ended.1, fun total is _ => ⟨latest, fun bucket toFill newest some_ => ?_, ended.2 total is⟩⟩
      obtain refresh | after := toFill
      · cases refresh
      · exact after newest ((read latest rfl).symm.trans some_)

/-- **A backfill that returns.**  Nothing is lost, and there is a candle for each bucket of
the window that was to be filled. -/
theorem run_fills_from_cursor {start : Timestamp} {refreshExisting : Bool} {seconds buckets total : Nat}
    {store : CandleStore} {final : Moment history Exc CandleStore}
    (ran : (run validator product start end_ granularity refreshExisting).Runs HistoryServe
      ⟨store, []⟩ (.ok total) final)
    (own : ∀ e ∈ final.events, OwnCandles e)
    (known : granularitySeconds granularity = some seconds)
    (aligned : end_ = start + buckets * intervalOf seconds) :
    store.Keeps final.world ∧ ∀ i < buckets,
      ToFill refreshExisting (store.latestOpenedAt product granularity)
        (start + i * intervalOf seconds) →
      final.world.Holds product granularity (start + i * intervalOf seconds) := by
  have positive := granularitySeconds_pos known
  obtain ⟨keeps, ended⟩ := plain_run ran own (wp_run known)
  refine ⟨keeps, fun i inside toFill => ?_⟩
  obtain ⟨left, rfl⟩ := Nat.exists_eq_add_of_lt inside
  have room := mul_nonneg (Int.natCast_nonneg left) positive.le
  have offset := mul_nonneg (Int.natCast_nonneg i) positive.le
  push_cast at aligned
  obtain ⟨latest, passed, filled⟩ := ended total rfl (by linarith)
  have whole : end_ = start + i * intervalOf seconds + (left + 1) * intervalOf seconds := by
    linarith
  exact filled.bucket positive whole (resumeFrom_before positive (by linarith) (passed _ toFill))

end Series

/-! ## A store that nothing else writes -/

/-- The client answers with candles of the product and granularity it was asked for. -/
def SoleServe : Service history Exc CandleStore
  | .getCandles product _ _ granularity, store, reply, store' =>
      store' = store ∧ ∀ candles, reply = .ok candles →
        ∀ candle ∈ candles, candle.symbol = product ∧ candle.interval = granularity
  | op, store, reply, store' => HistoryServe op store reply store'

section Sole

variable {validator : MarketDataValidator} {product granularity : String} {start end_ : Timestamp}

/-- What holds where others may write holds where nobody else does. -/
theorem wp_sole {α : Type} {p : Fetch α} {post : Except Exc α → Moment history Exc CandleStore → Prop}
    {m : Moment history Exc CandleStore} (obligation : wp (Contract.plain HistoryServe OwnCandles).logic post p m) :
    wp (Contract.plain SoleServe fun _ => True).logic post p m := by
  refine wp_refine Eq ?_ (fun _ _ _ ended same => same ▸ ended) rfl obligation
  rintro op s _ k k' rfl ⟨_, replied⟩ go
  refine ⟨trivial, fun reply after served _ => ⟨trivial, go reply _ _ (replied reply after ?_ ?_).2 rfl⟩⟩
  · cases op with
    | getCandles product start end_ granularity => exact served.1 ▸ fun _ _ _ held => held
    | _ => exact served
  · cases op with
    | getCandles product start end_ granularity =>
      cases reply with
      | error exc => trivial
      | ok candles => exact served.2 candles rfl
    | _ => cases reply <;> trivial

/-- What was not there before is a candle of the product, within the window. -/
def AddedWithin (product granularity : String) (interval : Duration) (start end_ : Timestamp)
    (before after : CandleStore) : Prop :=
  ∀ symbol span openedAt, after.Holds symbol span openedAt → before.Holds symbol span openedAt ∨
    symbol = product ∧ span = granularity ∧ start ≤ openedAt ∧ openedAt + interval ≤ end_

open HistoricalCandleBackfiller

theorem AddedWithin.page {interval : Duration} {cursor : Timestamp} {candles page : List Candle}
    {before store : CandleStore} (positive : 0 < interval) (from_ : start ≤ cursor)
    (added : AddedWithin product granularity interval start end_ before store)
    (own : ∀ candle ∈ candles, candle.symbol = product ∧ candle.interval = granularity)
    (checked : checkPage validator interval cursor (pageEndOf interval end_ cursor) candles = .ok page) :
    AddedWithin product granularity interval start end_ before (store.upsertMany page) := by
  intro symbol span openedAt held
  rcases CandleStore.holds_upsertMany.1 held with old | ⟨candle, member, is⟩
  · exact added symbol span openedAt old
  · obtain ⟨named, spans⟩ := own candle ((checkPage_ok positive checked).2 candle member)
    obtain ⟨after, inside⟩ := checkPage_within positive checked candle member
    cases is
    exact .inr ⟨named, spans, from_.trans after, inside.trans (min_le_left ..)⟩

theorem wp_fillPages_adds {interval : Duration} (positive : 0 < interval) (fuel : Nat) {cursor : Timestamp}
    {written : Nat} {before : CandleStore} {m : Moment history Exc CandleStore} (from_ : start ≤ cursor)
    (added : AddedWithin product granularity interval start end_ before m.world) :
    wp (Contract.plain SoleServe fun _ => True).logic
      (fun _ m' => AddedWithin product granularity interval start end_ before m'.world)
      (fillPages validator product interval granularity end_ fuel cursor written) m := by
  induction fuel generalizing cursor written m with
  | zero => exact added
  | succ fuel ih =>
    unfold fillPages
    split
    swap
    · exact added
    rename_i more
    refine wp_bind.2 (wp_served fun reply after served _ => ?_)
    obtain ⟨rfl, returns⟩ := served
    cases reply with
    | error exc => exact added
    | ok candles =>
      show wp _ _ (match checkPage _ _ _ _ candles with | .error exc => _ | .ok page => _) _
      split
      · exact added
      rename_i page checked
      have paged := added.page positive from_ (returns candles rfl) checked
      refine wp_bind.2 (wp_served fun reply stored wrote _ => ?_)
      obtain ⟨rfl, rfl⟩ | ⟨⟨exc, rfl⟩, rfl | rfl⟩ := wrote
      · have forward : cursor ≤ pageEndOf interval end_ cursor :=
          le_min more.le (le_add_of_nonneg_right (mul_nonneg positive.le (by decide)))
        exact ih (from_.trans forward) paged
      · exact added
      · exact paged

/-- A backfill adds candles of its product only, and within its window. -/
theorem wp_run_adds {refreshExisting : Bool} {seconds : Nat} {store : CandleStore}
    (known : granularitySeconds granularity = some seconds) :
    wp (Contract.plain SoleServe fun _ => True).logic
      (fun _ m' => AddedWithin product granularity (intervalOf seconds) start end_ store m'.world)
      (run validator product start end_ granularity refreshExisting) ⟨store, []⟩ := by
  have positive := granularitySeconds_pos known
  have nothing : AddedWithin product granularity (intervalOf seconds) start end_ store store :=
    fun _ _ _ held => .inl held
  have from_ (latest : Option Timestamp) : start ≤ resumeFrom (intervalOf seconds) start latest := by
    cases latest with
    | none => exact le_refl start
    | some newest => exact le_max_left ..
  unfold run
  split
  · exact nothing
  rw [known]
  cases refreshExisting with
  | true => exact wp_fillPages_adds positive _ (from_ none) nothing
  | false =>
    refine wp_bind.2 (wp_served fun reply after served _ => ?_)
    obtain ⟨rfl, _⟩ := served
    cases reply with
    | error exc => exact nothing
    | ok latest => exact wp_fillPages_adds positive _ (from_ latest) nothing

end Sole

/-! ## A hole that stays -/

/-- A candle of a minute in which the price did not move. -/
def minuteCandle (index : Nat) : Candle where
  symbol := "BTC-USD"
  interval := "ONE_MINUTE"
  openedAt := index * intervalOf 60
  closedAt := index * intervalOf 60 + intervalOf 60
  openPrice := ⟨100, by decide⟩
  high := ⟨100, by decide⟩
  low := ⟨100, by decide⟩
  close := ⟨100, by decide⟩
  volume := ⟨1, by decide⟩
  source := "coinbase-advanced-trade"
  asOf := index * intervalOf 60 + intervalOf 60
  ingestedAt := index * intervalOf 60 + intervalOf 60
  closeAfterOpen := lt_add_of_pos_right _ (by decide)
  highIsHigh := le_refl _
  lowIsLow := le_refl _
  closeIsWithinBar := ⟨le_refl _, le_refl _⟩

/-- The candles of minutes 0 and 2, and none between. -/
def holed : CandleStore := CandleStore.empty.upsertMany [minuteCandle 0, minuteCandle 2]

open HistoricalCandleBackfiller

/-- The answer of the venue: all three minutes. -/
def threeMinutes : List Candle := [minuteCandle 0, minuteCandle 1, minuteCandle 2]

theorem threeMinutes_page : checkPage .standard (intervalOf 60) 0 (3 * intervalOf 60) threeMinutes =
    .ok threeMinutes := by
  have fine : MarketDataValidator.standard.issues (intervalOf 60) none [] threeMinutes = [] := by
    decide +kernel
  have valid : MarketDataValidator.standard.validateCandles threeMinutes (intervalOf 60) =
      .ok threeMinutes := by
    unfold MarketDataValidator.validateCandles
    rw [fine]
    rfl
  unfold checkPage
  rw [valid]
  rfl

theorem threeMinutes_inserted : holed.inserted threeMinutes = 1 := by decide

/-- After the three minutes are refreshed. -/
def refreshed : Moment history Exc CandleStore :=
  ((⟨holed, []⟩ : Moment history Exc CandleStore).push
    (.getCandles "BTC-USD" 0 (3 * intervalOf 60) "ONE_MINUTE") (.ok threeMinutes) holed).push
      (.upsertMany threeMinutes) (.ok 1) (holed.upsertMany threeMinutes)

theorem holed_refreshes : (run .standard "BTC-USD" 0 (3 * intervalOf 60) "ONE_MINUTE" true).Runs
    HistoryServe ⟨holed, []⟩ (.ok 1) refreshed := by
  refine .answered threeMinutes holed (fun _ _ _ held => held) ?_
  show (match checkPage .standard (intervalOf 60) 0 (3 * intervalOf 60) threeMinutes with
    | .error exc => .raise exc
    | .ok page => fetch (.upsertMany page) >>= fun stored =>
        fillPages .standard "BTC-USD" (intervalOf 60) "ONE_MINUTE" (3 * intervalOf 60) 3
          (3 * intervalOf 60) (0 + stored) : Fetch Nat).Runs _ _ _ _
  rw [threeMinutes_page]
  exact .answered 1 _ (.inl ⟨congrArg Except.ok threeMinutes_inserted.symm, rfl⟩) (.pure _ _)

theorem refreshed_own : ∀ e ∈ refreshed.events, OwnCandles e := by
  intro e member
  obtain rfl | rfl : e = _ ∨ e = _ := by simpa [refreshed] using member
  · trivial
  · intro candle there
    obtain rfl | rfl | rfl : candle = _ ∨ candle = _ ∨ candle = _ := by
      simpa [threeMinutes] using there
    all_goals exact ⟨rfl, rfl⟩

/-- The hole of the middle minute is filled. -/
theorem holed_filled : holed.Keeps refreshed.world ∧ ∀ i < 3,
    ToFill true (holed.latestOpenedAt "BTC-USD" "ONE_MINUTE") (0 + (i : Nat) * intervalOf 60) →
      refreshed.world.Holds "BTC-USD" "ONE_MINUTE" (0 + (i : Nat) * intervalOf 60) :=
  run_fills_from_cursor holed_refreshes refreshed_own rfl (by decide)

/-- Without the refresh nothing is asked for, and the hole stays. -/
theorem older_hole_stays : ∃ final,
    (run .standard "BTC-USD" 0 (3 * intervalOf 60) "ONE_MINUTE" false).Runs
      HistoryServe ⟨holed, []⟩ (.ok 0) final ∧ (∀ e ∈ final.events, OwnCandles e) ∧
      ¬final.world.Holds "BTC-USD" "ONE_MINUTE" (0 + 1 * intervalOf 60) := by
  have newest : holed.latestOpenedAt "BTC-USD" "ONE_MINUTE" = some (2 * intervalOf 60) := by
    decide
  refine ⟨(⟨holed, []⟩ : Moment history Exc CandleStore).push
    (.latestOpenedAt "BTC-USD" "ONE_MINUTE") (.ok (some (2 * intervalOf 60))) holed, ?_, ?_, ?_⟩
  · refine .answered (some (2 * intervalOf 60)) holed ⟨rfl, fun latest is => ?_⟩ (.pure _ _)
    rw [newest]
    exact (Except.ok.inj is).symm
  · intro e member
    obtain rfl : e = _ := by simpa using member
    trivial
  · unfold CandleStore.Holds
    decide

end AlgoTrader.Data
