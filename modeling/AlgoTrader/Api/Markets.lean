/-
# Api.Markets -- bars of stored candles

A read of the candles covers a window that is cut into bars.  The database groups the stored
five-minute candles of each symbol and bar; a second read takes the newest candle of each symbol,
and a third the open and the close of the candles that a bar begins and ends with.  The bars, and
the gaps between them, are put together of the three.

* `groupsOf_spec`, `edgeCandles_spec` -- what the answers are collected to, whatever their order;
* `Found.bar` -- so a bar is the aggregate of exactly the candles between its edges;
* `mem_gaps` -- a gap is a maximal stretch of finished bars without a candle;
* `candles_shown` -- and so it is with every payload of a read.
-/
import Mathlib.Algebra.Order.Ring.Rat
import AlgoTrader.Theory.Dict
import AlgoTrader.Theory.Grouping
import AlgoTrader.Theory.Raising
import AlgoTrader.Theory.Stretches
import AlgoTrader.Core.Calendar
import AlgoTrader.Data.Watchlist

namespace AlgoTrader.Api.Markets

open AlgoTrader.Core Calendar AlgoTrader.Theory
open AlgoTrader.Data.Watchlist (watchlistLimit)

set_option autoImplicit false

/-! ## The query -/

def minutes (n : Int) : Duration := n * 60 * 1000000

def sourceInterval : String := "FIVE_MINUTE"

def sourceStep : Duration := minutes 5

def staleAfter : Duration := sourceStep * 3

def maxPoints : Nat := 300

/-- `INTERVALS`. -/
inductive Interval where
  | minutes15
  | hour1
  | hours6
  | day1
  deriving DecidableEq

def Interval.step : Interval → Duration
  | minutes15 => minutes 15
  | hour1 => minutes 60
  | hours6 => minutes (6 * 60)
  | day1 => minutes (24 * 60)

/-- `WINDOWS`. -/
inductive Window where
  | hours24
  | days7
  | days30
  | days90
  deriving DecidableEq

def Window.span : Window → Duration
  | hours24 => minutes (24 * 60)
  | days7 => minutes (7 * 24 * 60)
  | days30 => minutes (30 * 24 * 60)
  | days90 => minutes (90 * 24 * 60)

inductive Raised where
  /-- `CandleQueryRefused`. -/
  | refused (errors : List String)
  | typeError
  | overflowError
  deriving DecidableEq

structure CandleQuery where
  symbols : List String
  window : Window
  interval : Interval
  edges : List Timestamp
  now : UtcInstant

namespace CandleQuery

variable (query : CandleQuery)

def step : Duration := query.interval.step

def since : Timestamp := query.edges.head?.getD 0

/-- `until`, which is a word of the language here. -/
def until_ : Timestamp := query.edges.getLast?.getD 0

/-- `edges[i]`. -/
def edge (i : Nat) : Timestamp := query.edges[i]?.getD 0

def points : Nat := query.edges.length - 1

/-- Five-minute candles in one complete bar. -/
def expected : Nat := (query.step / sourceStep).toNat

end CandleQuery

/-- `candle_query`.  An edge outside the calendar raises. -/
def candleQuery (symbols : List String) (window : Window) (interval : Interval) (now : UtcInstant) :
    Except Raised CandleQuery :=
  let count := (window.span / interval.step).toNat
  if maxPoints < count ∨ count < 1 then
    .error (.refused [s!"A series can have at most {maxPoints} points."])
  else if symbols = [] ∨ watchlistLimit < symbols.length ∨ ¬ symbols.Nodup then
    .error (.refused [s!"A request names one to {watchlistLimit} different symbols."])
  else
    let edges := alignedEdges interval.step now.1 count
    if ¬ ∀ edge ∈ edges, InCalendar edge then .error .overflowError
    else .ok ⟨symbols, window, interval, edges, now⟩

/-! ## The table and the reads of it -/

structure MarketCandleRecord where
  symbol : String
  interval : String
  openedAt : Timestamp
  openPrice : Decimal
  high : Decimal
  low : Decimal
  close : Decimal
  volume : Decimal
  source : String

/-- The stored candles, with what `uq_market_candles_key` says of them. -/
structure MarketCandles where
  rows : List MarketCandleRecord
  keyed : (rows.map fun row => (row.symbol, row.interval, row.openedAt)).Nodup

structure Group where
  count : Nat
  firstAt : Timestamp
  lastAt : Timestamp
  high : Decimal
  low : Decimal
  volume : Decimal

/-- The aggregates of the rows of a group, of which there is one at least. -/
def aggregate (rows : List MarketCandleRecord) : Group where
  count := rows.length
  firstAt := ((rows.map (·.openedAt)).min?).getD 0
  lastAt := ((rows.map (·.openedAt)).max?).getD 0
  high := ((rows.map (·.high)).max?).getD 0
  low := ((rows.map (·.low)).min?).getD 0
  volume := (rows.map (·.volume)).sum

section Reads

variable (query : CandleQuery) (table : MarketCandles)

/-- The five-minute candles of the symbols. -/
def ofSymbols : List MarketCandleRecord :=
  table.rows.filter fun row => row.symbol ∈ query.symbols ∧ row.interval = sourceInterval

/-- Those of them that the range has. -/
def inRange : List MarketCandleRecord :=
  (ofSymbols query table).filter fun row => query.since ≤ row.openedAt ∧ row.openedAt < query.until_

/-- Symbol and bar. -/
abbrev BarKey := String × Option Nat

def barKey (row : MarketCandleRecord) : BarKey := (row.symbol, bucketOf query.edges row.openedAt)

/-- What the database answers to the three reads; the third asks for some opening times. -/
structure Answers where
  groups : List (BarKey × Group)
  latest : List (String × Timestamp)
  edges : List Timestamp → List MarketCandleRecord

structure Answers.Of (answers : Answers) : Prop where
  groups : Grouped (barKey query) aggregate (inRange query table) answers.groups
  latest : Grouped (·.symbol) (fun rows => ((rows.map (·.openedAt)).max?).getD 0) (ofSymbols query table)
    answers.latest
  edges : ∀ times, (answers.edges times).Perm ((ofSymbols query table).filter (·.openedAt ∈ times))

end Reads

abbrev Bars := Dict Nat Group

def groupTurn (row : BarKey × Group) (groups : Dict String Bars) : Except Raised (Dict String Bars) :=
  match row.1.2 with
  | none => .error .typeError
  | some index => .ok (groups.set row.1.1 (((groups.get? row.1.1).getD .empty).set index row.2))

/-- `_groups`, of what the database answers. -/
def groupsOf (answer : List (BarKey × Group)) : Except Raised (Dict String Bars) :=
  runs groupTurn answer .empty

/-- `_latest`, of what the database answers. -/
def latestOf (answer : List (String × Timestamp)) : Dict String Timestamp := .ofList answer

structure EdgeCandle where
  openPrice : Decimal
  close : Decimal
  source : String

/-- A symbol and an opening time. -/
abbrev CandleAt := String × Timestamp

def wantedOf (groups : Dict String Bars) (latest : Dict String Timestamp) : List CandleAt :=
  latest.entries ++ groups.entries.flatMap fun (symbol, bars) =>
    bars.values.flatMap fun group => [(symbol, group.firstAt), (symbol, group.lastAt)]

namespace MarketCandleRecord

variable (row : MarketCandleRecord)

def candleAt : CandleAt := (row.symbol, row.openedAt)

def edgeCandle : EdgeCandle := ⟨row.openPrice, row.close, row.source⟩

end MarketCandleRecord

/-- `_edge_candles`, of what the database answers. -/
def edgeCandles (wanted : List CandleAt) (answer : List Timestamp → List MarketCandleRecord) :
    Dict CandleAt EdgeCandle :=
  if wanted = [] then .empty
  else (answer (wanted.map Prod.snd)).foldl (fun found row =>
    if row.candleAt ∈ wanted then found.set row.candleAt row.edgeCandle else found) .empty

/-! ## The payload -/

inductive BarState where
  | complete
  | partial_
  | inProgress
  | gap
  deriving DecidableEq

/-- A bar of the payload.  The prices are numbers here; the payload has their plain texts. -/
structure Bar where
  openedAt : Timestamp
  closedAt : Timestamp
  state : BarState
  candles : Nat
  expected : Nat
  openPrice : Option Decimal
  high : Option Decimal
  low : Option Decimal
  close : Option Decimal
  volume : Option Decimal

/-- What the watch-only feed reports of a symbol. -/
structure Feed where
  state : Option String
  detail : Option String

inductive FreshnessState where
  | fresh
  | stale
  | notCollected
  | unavailable
  deriving DecidableEq

structure Freshness where
  state : FreshnessState
  lastCandleAt : Option Timestamp
  detail : Option String

structure InWindow where
  candles : Nat
  expected : Nat
  empty : Bool

structure Gap where
  from_ : Timestamp
  to_ : Timestamp
  bars : Nat
  deriving DecidableEq

structure SymbolPayload where
  symbol : String
  source : Option String
  freshness : Freshness
  inWindow : InWindow
  bars : List Bar
  gaps : List Gap

structure Payload where
  query : CandleQuery
  symbols : List SymbolPayload

/-- `a or b`. -/
def orElse (text : Option String) (default : String) : String :=
  match text with
  | none => default
  | some text => if text = "" then default else text

/-- `_freshness`.  A time beyond the calendar raises. -/
def freshness (lastCandleAt : Option Timestamp) (now : Timestamp) (feed : Option Feed) :
    Except Raised Freshness :=
  if feed.bind Feed.state = some "unavailable" then
    .ok ⟨.unavailable, lastCandleAt,
      some (orElse (feed.bind Feed.detail) "the feed for this symbol is failing")⟩
  else match lastCandleAt with
    | none => .ok ⟨.notCollected, none, some "no candle has been stored for this symbol yet"⟩
    | some last =>
        if ¬ InCalendar (last + sourceStep) then .error .overflowError
        else if staleAfter < now - (last + sourceStep) then
          .ok ⟨.stale, some last, some "the newest stored candle is older than three candle intervals"⟩
        else .ok ⟨.fresh, some last, none⟩

section Symbols

variable (query : CandleQuery)

/-- `_gaps`. -/
def gaps (bars : List Bar) : List Gap :=
  (stretches (· = BarState.gap) (bars.map Bar.state ++ [.complete])).map fun (start, stop) =>
    ⟨query.edge start, query.edge stop, stop - start⟩

/-- The bar as it is before its candles are looked for. -/
def bareBar (index : Nat) : Bar where
  openedAt := query.edge index
  closedAt := query.edge (index + 1)
  state := if index = query.points - 1 then .inProgress else .gap
  candles := 0
  expected := query.expected
  openPrice := none
  high := none
  low := none
  close := none
  volume := none

/-- The group of a bar and its first and its last candle, if all three are there. -/
def foundOf (symbol : String) (groups : Bars) (edges : Dict CandleAt EdgeCandle) (index : Nat) :
    Option (Group × EdgeCandle × EdgeCandle) := do
  let group ← groups.get? index
  let first ← edges.get? (symbol, group.firstAt)
  let last ← edges.get? (symbol, group.lastAt)
  return (group, first, last)

def fillBar (bar : Bar) (inProgress : Bool) (found : Group × EdgeCandle × EdgeCandle) : Bar :=
  let (group, first, last) := found
  { bar with
    state :=
      if inProgress then bar.state
      else if bar.expected ≤ group.count then .complete
      else .partial_
    candles := group.count
    openPrice := some first.openPrice
    high := some group.high
    low := some group.low
    close := some last.close
    volume := some group.volume }

/-- A turn of the loop over the bars of a symbol. -/
def barTurn (symbol : String) (groups : Bars) (edges : Dict CandleAt EdgeCandle)
    (turn : List Bar × Nat) (index : Nat) : List Bar × Nat :=
  match foundOf symbol groups edges index with
  | none => (turn.1 ++ [bareBar query index], turn.2)
  | some found =>
      (turn.1 ++ [fillBar (bareBar query index) (index = query.points - 1) found], turn.2 + found.1.count)

/-- `_symbol_payload`. -/
def symbolPayload (symbol : String) (groups : Bars) (lastCandleAt : Option Timestamp)
    (edges : Dict CandleAt EdgeCandle) (feed : Option Feed) : Except Raised SymbolPayload := do
  let (bars, candles) := (List.range query.points).foldl (barTurn query symbol groups edges) ([], 0)
  let newest := lastCandleAt.bind fun last => edges.get? (symbol, last)
  let fresh ← freshness lastCandleAt query.now.1 feed
  return ⟨symbol, newest.map (·.source), fresh,
    ⟨candles, query.points * query.expected, candles = 0⟩, bars, gaps query bars⟩

/-- `SqlAlchemyCandleReads.read`, of what the database answers. -/
def read (answers : Answers) (feedStates : Option (Dict String Feed)) : Except Raised Payload := do
  let groups ← groupsOf answers.groups
  let latest := latestOf answers.latest
  let edges := edgeCandles (wantedOf groups latest) answers.edges
  let symbols ← query.symbols.mapM fun symbol =>
    symbolPayload query symbol ((groups.get? symbol).getD .empty) (latest.get? symbol) edges
      (feedStates.bind fun states => states.get? symbol)
  return ⟨query, symbols⟩

end Symbols

/-! ## What the answers are collected to -/

variable {query : CandleQuery} {table : MarketCandles} {answers : Answers}

/-- The five-minute candles of a symbol that were opened in a range. -/
def candlesIn (table : MarketCandles) (symbol : String) (start stop : Timestamp) :
    List MarketCandleRecord :=
  table.rows.filter fun row =>
    row.symbol = symbol ∧ row.interval = sourceInterval ∧ start ≤ row.openedAt ∧ row.openedAt < stop

/-- The group of a bar of a symbol. -/
def barAt (groups : Dict String Bars) (symbol : String) (index : Nat) : Option Group :=
  ((groups.get? symbol).getD .empty).get? index

theorem barAt_set (groups : Dict String Bars) (symbol s : String) (index i : Nat) (group : Group) :
    barAt (groups.set symbol (((groups.get? symbol).getD .empty).set index group)) s i =
      if s = symbol ∧ i = index then some group else barAt groups s i := by
  rw [barAt, Dict.get?_set]
  by_cases own : s = symbol
  · subst own
    simp only [if_true, Option.getD_some, Dict.get?_set, true_and, barAt]
  · simp only [own, if_false, false_and, barAt]

/-- Groups of distinct keys that all have a bar are collected under them. -/
theorem groupsOf_collects {answer : List (BarKey × Group)} (distinct : (answer.map Prod.fst).Nodup)
    (placed : ∀ row ∈ answer, row.1.2 ≠ none) :
    ∃ groups, groupsOf answer = .ok groups ∧ ∀ symbol index group,
      barAt groups symbol index = some group ↔ ((symbol, some index), group) ∈ answer := by
  induction answer using List.reverseRecOn with
  | nil => exact ⟨.empty, rfl, fun _ _ _ => ⟨nofun, nofun⟩⟩
  | append_singleton before row ih =>
      rw [List.map_append, List.map_singleton] at distinct
      obtain ⟨earlier, -, apart⟩ := List.nodup_append.1 distinct
      obtain ⟨groups, collected, are⟩ := ih earlier fun r member => placed r (List.mem_append_left _ member)
      obtain ⟨⟨symbol, index⟩, group⟩ := row
      cases index with
      | none => exact absurd rfl (placed _ (List.mem_append_right _ (List.mem_singleton_self _)))
      | some index =>
          refine ⟨_, runs_snoc_ok.2 ⟨groups, collected, rfl⟩, fun s i g => ?_⟩
          rw [barAt_set, List.mem_append, ← are s i g, List.mem_singleton]
          by_cases own : s = symbol ∧ i = index
          · obtain ⟨rfl, rfl⟩ := own
            have new : barAt groups s i ≠ some g := fun found =>
              apart (s, some i) (List.mem_map_of_mem ((are s i g).1 found)) _ (List.mem_singleton_self _) rfl
            simp [new, eq_comm]
          · have other : ((s, some i), g) ≠ ((symbol, some index), group) := by
              rintro same
              cases same
              exact own ⟨rfl, rfl⟩
            simp [own, other]

theorem mem_ofSymbols {row : MarketCandleRecord} : row ∈ ofSymbols query table ↔
    row ∈ table.rows ∧ row.symbol ∈ query.symbols ∧ row.interval = sourceInterval := by
  simp [ofSymbols]

/-- No two of the candles of the symbols have their place in common. -/
theorem candleAt_nodup (query : CandleQuery) (table : MarketCandles) :
    ((ofSymbols query table).map (·.candleAt)).Nodup := by
  have rows : table.rows.Nodup := .of_map _ table.keyed
  refine (rows.filter _).map_on fun row member other there same => ?_
  obtain ⟨stored, -, interval⟩ := mem_ofSymbols.1 member
  obtain ⟨stored', -, interval'⟩ := mem_ofSymbols.1 there
  obtain ⟨symbol, openedAt⟩ := Prod.mk.inj same
  refine List.inj_on_of_nodup_map table.keyed stored stored' ?_
  rw [symbol, openedAt, interval, interval']

/-- A candle that is wanted is found if it is stored. -/
theorem edgeCandles_spec (answered : answers.Of query table) {wanted : List CandleAt} {place : CandleAt}
    (member : place ∈ wanted) {candle : EdgeCandle} :
    (edgeCandles wanted answers.edges).get? place = some candle ↔
      ∃ row ∈ ofSymbols query table, row.candleAt = place ∧ row.edgeCandle = candle := by
  have asked := answered.edges (wanted.map Prod.snd)
  have listed : edgeCandles wanted answers.edges = .ofList
      (((answers.edges (wanted.map Prod.snd)).filter fun row => row.candleAt ∈ wanted).map
        fun row => (row.candleAt, row.edgeCandle)) := by
    rw [edgeCandles, if_neg (List.ne_nil_of_mem member), Dict.ofList, List.foldl_map, List.foldl_filter]
    simp only [decide_eq_true_eq]
  have distinct : ((((answers.edges (wanted.map Prod.snd)).filter fun row => row.candleAt ∈ wanted).map
      fun row => (row.candleAt, row.edgeCandle)).map Prod.fst).Nodup := by
    rw [List.map_map]
    refine (((asked.filter _).map _).nodup_iff).2 ((candleAt_nodup query table).sublist ?_)
    exact (List.filter_sublist.trans List.filter_sublist).map _
  rw [listed, Dict.get?_ofList_of_nodup distinct, List.mem_map]
  simp only [List.mem_filter, asked.mem_iff, decide_eq_true_eq, Prod.mk.injEq]
  constructor
  · rintro ⟨row, ⟨⟨stored, -⟩, -⟩, same, rfl⟩
    exact ⟨row, stored, same, rfl⟩
  · rintro ⟨row, stored, rfl, rfl⟩
    exact ⟨row, ⟨⟨stored, List.mem_map_of_mem member⟩, member⟩, rfl, rfl⟩

theorem mem_wanted_group {groups : Dict String Bars} (latest : Dict String Timestamp) {symbol : String}
    {index : Nat} {group : Group} (here : barAt groups symbol index = some group) :
    (symbol, group.firstAt) ∈ wantedOf groups latest ∧ (symbol, group.lastAt) ∈ wantedOf groups latest := by
  rw [barAt] at here
  cases held : groups.get? symbol with
  | none =>
      rw [held] at here
      cases here
  | some bars =>
      rw [held] at here
      have entry := Dict.get?_eq_some.1 held
      have value : group ∈ bars.values := Dict.mem_values.2 ⟨index, here⟩
      constructor
      · exact List.mem_append_right _ (List.mem_flatMap.2 ⟨_, entry, List.mem_flatMap.2 ⟨_, value, .head _⟩⟩)
      · exact List.mem_append_right _
          (List.mem_flatMap.2 ⟨_, entry, List.mem_flatMap.2 ⟨_, value, .tail _ (.head _)⟩⟩)

/-- The newest candle of a symbol. -/
theorem latestOf_spec (answered : answers.Of query table) {symbol : String} {last : Timestamp}
    (newest : (latestOf answers.latest).get? symbol = some last) :
    ∃ row ∈ ofSymbols query table, row.symbol = symbol ∧ row.openedAt = last ∧
      ∀ other ∈ ofSymbols query table, other.symbol = symbol → other.openedAt ≤ last := by
  rw [latestOf, Dict.get?_ofList_of_nodup answered.latest.nodup, answered.latest.mem] at newest
  obtain ⟨⟨row, stored, own⟩, rfl⟩ := newest
  have under : ∀ other, other ∈ rowsUnder (·.symbol) (ofSymbols query table) symbol ↔
      other ∈ ofSymbols query table ∧ other.symbol = symbol := by simp [rowsUnder]
  obtain ⟨last, member, is, greatest⟩ := exists_greatest MarketCandleRecord.openedAt 0
    (List.ne_nil_of_mem ((under row).2 ⟨stored, own⟩))
  rw [is]
  exact ⟨last, ((under last).1 member).1, ((under last).1 member).2, rfl,
    fun other there same => greatest other ((under other).2 ⟨there, same⟩)⟩

/-! ## The bars -/

theorem inBucket_iff {i : Nat} (inside : i < query.points) {t : Timestamp} :
    InBucket query.edges i t ↔ query.edge i ≤ t ∧ t < query.edge (i + 1) := by
  have next : i + 1 < query.edges.length := Nat.add_lt_of_lt_sub inside
  simp [InBucket, CandleQuery.edge, List.getElem?_eq_getElem next,
    List.getElem?_eq_getElem (Nat.lt_of_succ_lt next)]

/-- The candles of a bar of a symbol. -/
def candlesOf (query : CandleQuery) (table : MarketCandles) (symbol : String) (i : Nat) :
    List MarketCandleRecord :=
  candlesIn table symbol (query.edge i) (query.edge (i + 1))

theorem mem_candlesOf {symbol : String} (requested : symbol ∈ query.symbols) {i : Nat}
    {row : MarketCandleRecord} : row ∈ candlesOf query table symbol i ↔
      row ∈ ofSymbols query table ∧ row.symbol = symbol ∧
        query.edge i ≤ row.openedAt ∧ row.openedAt < query.edge (i + 1) := by
  rw [mem_ofSymbols]
  simp only [candlesOf, candlesIn, List.mem_filter, decide_eq_true_eq]
  constructor
  · rintro ⟨stored, rfl, interval, between⟩
    exact ⟨⟨stored, requested, interval⟩, rfl, between⟩
  · rintro ⟨⟨stored, _, interval⟩, own, between⟩
    exact ⟨stored, own, interval, between⟩

theorem rowsUnder_bar (edged : Edged query.edges) {symbol : String} (requested : symbol ∈ query.symbols)
    {i : Nat} (inside : i < query.points) :
    rowsUnder (barKey query) (inRange query table) (symbol, some i) = candlesOf query table symbol i := by
  rw [rowsUnder, inRange, ofSymbols, List.filter_filter, List.filter_filter, candlesOf, candlesIn]
  refine List.filter_congr fun row _ => ?_
  rw [Bool.eq_iff_iff]
  simp only [Bool.and_eq_true, decide_eq_true_eq, barKey, Prod.mk.injEq]
  constructor
  · rintro ⟨⟨⟨own, bucket⟩, since, _⟩, _, interval⟩
    have here := (bucketOf_eq_some edged.ascending (edged.head 0) since).1 bucket
    exact ⟨own, interval, (inBucket_iff inside).1 here⟩
  · rintro ⟨rfl, interval, between⟩
    have here := (inBucket_iff inside).2 between
    have range := here.bounds edged.ascending (edged.head 0) (edged.last 0)
    have bucket := (bucketOf_eq_some edged.ascending (edged.head 0) range.1).2 here
    exact ⟨⟨⟨rfl, bucket⟩, range⟩, requested, interval⟩

/-- The groups are collected, and that of a bar is the aggregate of its candles, if it has any. -/
theorem groupsOf_spec (edged : Edged query.edges) (answered : answers.Of query table) :
    ∃ groups, groupsOf answers.groups = .ok groups ∧
      ∀ symbol ∈ query.symbols, ∀ i < query.points, ∀ group, barAt groups symbol i = some group ↔
        candlesOf query table symbol i ≠ [] ∧ group = aggregate (candlesOf query table symbol i) := by
  obtain ⟨groups, collected, are⟩ := groupsOf_collects answered.groups.nodup fun row member => by
    obtain ⟨⟨candle, stored, key⟩, -⟩ := answered.groups.mem.1 member
    have range := of_decide_eq_true (List.mem_filter.1 stored).2
    obtain ⟨i, bucket, -⟩ := bucketOf_some (edged.last 0) range.2 edged.some_
    rw [← key, barKey, bucket]
    exact Option.some_ne_none i
  refine ⟨groups, collected, fun symbol requested i inside group => ?_⟩
  rw [are, answered.groups.mem, ← rowsUnder_bar edged requested inside]
  refine and_congr_left fun _ => ?_
  rw [rowsUnder, ne_eq, List.filter_eq_nil_iff]
  simp

/-- The first of some candles. -/
def IsFirst (candles : List MarketCandleRecord) (first : MarketCandleRecord) : Prop :=
  first ∈ candles ∧ ∀ candle ∈ candles, first.openedAt ≤ candle.openedAt

/-- The last of some candles. -/
def IsLast (candles : List MarketCandleRecord) (last : MarketCandleRecord) : Prop :=
  last ∈ candles ∧ ∀ candle ∈ candles, candle.openedAt ≤ last.openedAt

/-- A bar says of some candles what it should; without any it says nothing. -/
structure Aggregates (candles : List MarketCandleRecord) (bar : Bar) : Prop where
  count : bar.candles = candles.length
  openPrice : ∀ price, bar.openPrice = some price ↔ ∃ first, IsFirst candles first ∧ first.openPrice = price
  high : ∀ price, bar.high = some price ↔
    (∃ candle ∈ candles, candle.high = price) ∧ ∀ candle ∈ candles, candle.high ≤ price
  low : ∀ price, bar.low = some price ↔
    (∃ candle ∈ candles, candle.low = price) ∧ ∀ candle ∈ candles, price ≤ candle.low
  close : ∀ price, bar.close = some price ↔ ∃ last, IsLast candles last ∧ last.close = price
  volume : ∀ sum, bar.volume = some sum ↔ candles ≠ [] ∧ (candles.map (·.volume)).sum = sum

theorem aggregates_none {bar : Bar} (count : bar.candles = 0) (openPrice : bar.openPrice = none)
    (high : bar.high = none) (low : bar.low = none) (close : bar.close = none)
    (volume : bar.volume = none) : Aggregates [] bar := by
  constructor <;> simp [IsFirst, IsLast, *]

/-- The candles of a bar have places of their own. -/
theorem candlesOf_inj {symbol : String} (requested : symbol ∈ query.symbols) {i : Nat}
    {row other : MarketCandleRecord} (member : row ∈ candlesOf query table symbol i)
    (there : other ∈ candlesOf query table symbol i) (same : row.openedAt = other.openedAt) : row = other := by
  obtain ⟨stored, own, _⟩ := (mem_candlesOf requested).1 member
  obtain ⟨stored', own', _⟩ := (mem_candlesOf requested).1 there
  refine List.inj_on_of_nodup_map (candleAt_nodup query table) stored stored' ?_
  simp only [MarketCandleRecord.candleAt, own, own', same]

/-- A bar that is filled in aggregates its candles. -/
theorem aggregates_fill {symbol : String} (requested : symbol ∈ query.symbols) {i : Nat} (bar : Bar)
    (inProgress : Bool) {first last : MarketCandleRecord} (isFirst : IsFirst (candlesOf query table symbol i) first)
    (isLast : IsLast (candlesOf query table symbol i) last) :
    Aggregates (candlesOf query table symbol i)
      (fillBar bar inProgress (aggregate (candlesOf query table symbol i), first.edgeCandle, last.edgeCandle)) := by
  have more : candlesOf query table symbol i ≠ [] := List.ne_nil_of_mem isFirst.1
  refine ⟨rfl, fun price => ?_, fun price => ?_, fun price => ?_, fun price => ?_, fun sum => ?_⟩
  · refine Option.some_inj.trans ⟨fun same => ⟨first, isFirst, same⟩, ?_⟩
    rintro ⟨other, also, rfl⟩
    have same := le_antisymm (isFirst.2 other also.1) (also.2 first isFirst.1)
    exact congrArg (·.openPrice) (candlesOf_inj requested isFirst.1 also.1 same)
  · exact Option.some_inj.trans (max_getD_iff MarketCandleRecord.high 0 more)
  · exact Option.some_inj.trans (min_getD_iff MarketCandleRecord.low 0 more)
  · refine Option.some_inj.trans ⟨fun same => ⟨last, isLast, same⟩, ?_⟩
    rintro ⟨other, also, rfl⟩
    have same := le_antisymm (also.2 last isLast.1) (isLast.2 other also.1)
    exact congrArg (·.close) (candlesOf_inj requested isLast.1 also.1 same)
  · exact Option.some_inj.trans ⟨fun same => ⟨more, same⟩, And.right⟩

section Bars

variable {groups : Dict String Bars} {edges : Dict CandleAt EdgeCandle} {symbol : String}

/-- What the reads found of the bars and of the candles that they begin and end with. -/
structure Found (query : CandleQuery) (table : MarketCandles) (groups : Dict String Bars)
    (edges : Dict CandleAt EdgeCandle) : Prop where
  group : ∀ symbol ∈ query.symbols, ∀ i < query.points, ∀ group, barAt groups symbol i = some group ↔
    candlesOf query table symbol i ≠ [] ∧ group = aggregate (candlesOf query table symbol i)
  edge : ∀ symbol i group, barAt groups symbol i = some group → ∀ t, t = group.firstAt ∨ t = group.lastAt →
    ∀ candle, edges.get? (symbol, t) = some candle ↔
      ∃ row ∈ ofSymbols query table, row.candleAt = (symbol, t) ∧ row.edgeCandle = candle

theorem Found.edge_of (found : Found query table groups edges) (requested : symbol ∈ query.symbols) {i : Nat}
    {group : Group} (here : barAt groups symbol i = some group) {t : Timestamp}
    (either : t = group.firstAt ∨ t = group.lastAt) {row : MarketCandleRecord}
    (member : row ∈ candlesOf query table symbol i) (at_ : row.openedAt = t) :
    edges.get? (symbol, t) = some row.edgeCandle := by
  obtain ⟨stored, own, _⟩ := (mem_candlesOf requested).1 member
  refine (found.edge symbol i group here t either _).2 ⟨row, stored, ?_, rfl⟩
  rw [MarketCandleRecord.candleAt, own, at_]

theorem Found.none_ (found : Found query table groups edges) (requested : symbol ∈ query.symbols) {i : Nat}
    (inside : i < query.points) (empty : candlesOf query table symbol i = []) :
    foundOf symbol ((groups.get? symbol).getD .empty) edges i = none := by
  have nothing : barAt groups symbol i = none := Option.eq_none_iff_forall_ne_some.2 fun group here =>
    ((found.group symbol requested i inside group).1 here).1 empty
  rw [barAt] at nothing
  rw [foundOf, nothing]
  rfl

theorem Found.some_ (found : Found query table groups edges) (requested : symbol ∈ query.symbols) {i : Nat}
    (inside : i < query.points) (more : candlesOf query table symbol i ≠ []) :
    ∃ first last, IsFirst (candlesOf query table symbol i) first ∧ IsLast (candlesOf query table symbol i) last ∧
      foundOf symbol ((groups.get? symbol).getD .empty) edges i =
        some (aggregate (candlesOf query table symbol i), first.edgeCandle, last.edgeCandle) := by
  have here := (found.group symbol requested i inside _).2 ⟨more, rfl⟩
  obtain ⟨first, member, isFirst, least⟩ := exists_least MarketCandleRecord.openedAt 0 more
  obtain ⟨last, there, isLast, greatest⟩ := exists_greatest MarketCandleRecord.openedAt 0 more
  have opens := found.edge_of requested here (.inl rfl) member isFirst.symm
  have closes := found.edge_of requested here (.inr rfl) there isLast.symm
  refine ⟨first, last, ⟨member, least⟩, ⟨there, greatest⟩, ?_⟩
  rw [barAt] at here
  simp only [foundOf, here, opens, closes, Option.bind_eq_bind, Option.bind_some, Option.pure_def]

/-- The bar that a turn of the loop adds. -/
def barOf (query : CandleQuery) (symbol : String) (groups : Bars) (edges : Dict CandleAt EdgeCandle)
    (index : Nat) : Bar :=
  match foundOf symbol groups edges index with
  | none => bareBar query index
  | some found => fillBar (bareBar query index) (index = query.points - 1) found

theorem barTurn_eq (bars : Bars) (turn : List Bar × Nat) (i : Nat) : barTurn query symbol bars edges turn i =
    (turn.1 ++ [barOf query symbol bars edges i], turn.2 + (barOf query symbol bars edges i).candles) := by
  rw [barTurn, barOf]
  cases foundOf symbol bars edges i with
  | none => rfl
  | some found => rfl

theorem foldl_barTurn (bars : Bars) (xs : List Nat) :
    xs.foldl (barTurn query symbol bars edges) ([], 0) =
      (xs.map (barOf query symbol bars edges), (xs.map fun i => (barOf query symbol bars edges i).candles).sum) := by
  induction xs using List.reverseRecOn with
  | nil => rfl
  | append_singleton xs i ih =>
      rw [List.foldl_concat, ih, barTurn_eq, List.map_append, List.map_append, List.sum_append]
      simp

/-- A bar of a payload says what the candles between its edges come to. -/
structure BarShown (query : CandleQuery) (table : MarketCandles) (symbol : String) (i : Nat) (bar : Bar) :
    Prop where
  openedAt : bar.openedAt = query.edge i
  closedAt : bar.closedAt = query.edge (i + 1)
  expected : bar.expected = query.expected
  aggregates : Aggregates (candlesOf query table symbol i) bar
  state : bar.state =
    if i + 1 = query.points then .inProgress
    else if candlesOf query table symbol i = [] then .gap
    else if query.expected ≤ (candlesOf query table symbol i).length then .complete
    else .partial_

theorem Found.bar (found : Found query table groups edges) (requested : symbol ∈ query.symbols) {i : Nat}
    (inside : i < query.points) :
    BarShown query table symbol i (barOf query symbol ((groups.get? symbol).getD .empty) edges i) := by
  have ends : i = query.points - 1 ↔ i + 1 = query.points := by omega
  by_cases empty : candlesOf query table symbol i = []
  · rw [barOf, found.none_ requested inside empty]
    refine ⟨rfl, rfl, rfl, ?_, ?_⟩
    · rw [empty]
      exact aggregates_none rfl rfl rfl rfl rfl rfl
    · simp only [bareBar, ends, empty, if_true]
  · obtain ⟨first, last, isFirst, isLast, is⟩ := found.some_ requested inside empty
    rw [barOf, is]
    refine ⟨rfl, rfl, rfl, aggregates_fill requested _ _ isFirst isLast, ?_⟩
    by_cases last : i + 1 = query.points
    · simp [fillBar, bareBar, ends, last]
    · simp [fillBar, bareBar, ends, last, empty, aggregate]

end Bars

/-! ## The payload of a symbol -/

/-- A finished bar of a symbol that has no candle. -/
def Missing (query : CandleQuery) (table : MarketCandles) (symbol : String) (i : Nat) : Prop :=
  i + 1 < query.points ∧ candlesOf query table symbol i = []

/-- What the payload of a symbol says of the stored candles. -/
structure Shows (query : CandleQuery) (table : MarketCandles) (payload : SymbolPayload) : Prop where
  length : payload.bars.length = query.points
  bars : ∀ i bar, payload.bars[i]? = some bar → BarShown query table payload.symbol i bar
  total : (payload.bars.map Bar.candles).sum = payload.inWindow.candles
  stored : payload.inWindow.candles = (candlesIn table payload.symbol query.since query.until_).length
  gaps : ∀ gap, gap ∈ payload.gaps ↔ ∃ start stop, Stretch (Missing query table payload.symbol) start stop ∧
    gap = ⟨query.edge start, query.edge stop, stop - start⟩
  ordered : payload.gaps.Pairwise fun earlier later => earlier.to_ < later.from_

theorem edge_lt (edged : Edged query.edges) {i j : Nat} (before : i < j) (inside : j ≤ query.points) :
    query.edge i < query.edge j := by
  have within : j < query.edges.length := by
    have := edged.some_
    rw [CandleQuery.points] at inside
    omega
  have less := List.pairwise_iff_getElem.1 edged.ascending i j (before.trans within) within before
  rwa [CandleQuery.edge, CandleQuery.edge, List.getElem?_eq_getElem within,
    List.getElem?_eq_getElem (before.trans within)]

section Finished

variable {symbol : String} {bars : List Bar}

/-- The state of a bar is a gap where a finished bar has no candle. -/
theorem holdsAt_gap (length : bars.length = query.points)
    (shown : ∀ i bar, bars[i]? = some bar → BarShown query table symbol i bar) (i : Nat) :
    HoldsAt (· = BarState.gap) (bars.map Bar.state) i ↔ Missing query table symbol i := by
  by_cases inside : i < bars.length
  · have is := (shown i _ (List.getElem?_eq_getElem inside)).state
    have holds : HoldsAt (· = BarState.gap) (bars.map Bar.state) i ↔ bars[i].state = .gap := by
      simp [HoldsAt, inside]
    rw [holds, is, Missing]
    rw [length] at inside
    by_cases last : i + 1 = query.points
    · simp [last]
    · have finished : i + 1 < query.points := Nat.lt_of_le_of_ne inside last
      by_cases empty : candlesOf query table symbol i = []
      · simp [last, finished, empty]
      · have states : (if query.expected ≤ (candlesOf query table symbol i).length then BarState.complete
            else .partial_) ≠ .gap := by split <;> decide
        simp [last, empty, states]
  · constructor
    · intro here
      exact absurd (by simpa using here.inside) inside
    · rintro ⟨finished, _⟩
      rw [length] at inside
      omega

theorem mem_gaps (length : bars.length = query.points)
    (shown : ∀ i bar, bars[i]? = some bar → BarShown query table symbol i bar) (gap : Gap) :
    gap ∈ gaps query bars ↔ ∃ start stop, Stretch (Missing query table symbol) start stop ∧
      gap = ⟨query.edge start, query.edge stop, stop - start⟩ := by
  have found : ∀ start stop, (start, stop) ∈ stretches (· = BarState.gap) (bars.map Bar.state ++ [.complete]) ↔
      Stretch (Missing query table symbol) start stop := fun start stop =>
    (mem_stretches (by decide)).trans (Stretch.congr (holdsAt_gap length shown))
  rw [gaps, List.mem_map]
  constructor
  · rintro ⟨⟨start, stop⟩, member, rfl⟩
    exact ⟨start, stop, (found start stop).1 member, rfl⟩
  · rintro ⟨start, stop, stretch, rfl⟩
    exact ⟨(start, stop), (found start stop).2 stretch, rfl⟩

theorem gaps_ordered (edged : Edged query.edges) (length : bars.length = query.points) :
    (gaps query bars).Pairwise fun earlier later => earlier.to_ < later.from_ := by
  rw [gaps, List.pairwise_map]
  refine (stretches_ordered _).imp_of_mem fun {earlier later} _ member before => ?_
  have stretch := (mem_stretches (by decide)).1 member
  have inside : later.2 ≤ query.points := by simpa [length] using stretch.stop_le
  exact edge_lt edged before (stretch.some_.le.trans inside)

end Finished

/-- The candles of the range, bar by bar. -/
theorem sum_candlesOf (edged : Edged query.edges) (symbol : String) :
    ((List.range query.points).map fun i => (candlesOf query table symbol i).length).sum =
      (candlesIn table symbol query.since query.until_).length := by
  have between : ∀ row ∈ candlesIn table symbol query.since query.until_,
      query.since ≤ row.openedAt ∧ row.openedAt < query.until_ := fun row member =>
    (of_decide_eq_true (List.mem_filter.1 member).2).2.2
  rw [← edged.sum_inBucket MarketCandleRecord.openedAt (edged.head 0) (edged.last 0) between]
  congr 1
  refine List.map_congr_left fun i member => ?_
  have inside : i < query.points := List.mem_range.1 member
  rw [candlesOf, candlesIn, candlesIn, List.countP_filter, List.countP_eq_length_filter]
  congr 1
  refine List.filter_congr fun row _ => ?_
  rw [Bool.eq_iff_iff]
  simp only [Bool.and_eq_true, decide_eq_true_eq, inBucket_iff inside]
  constructor
  · rintro ⟨own, interval, here⟩
    exact ⟨here, own, interval,
      ((inBucket_iff inside).2 here).bounds edged.ascending (edged.head 0) (edged.last 0)⟩
  · rintro ⟨here, own, interval, _⟩
    exact ⟨own, interval, here⟩

theorem freshness_cases (lastCandleAt : Option Timestamp) (now : Timestamp) (feed : Option Feed) :
    (∃ fresh, freshness lastCandleAt now feed = .ok fresh) ∨
    (freshness lastCandleAt now feed = .error .overflowError ∧
      ∃ last, lastCandleAt = some last ∧ ¬ InCalendar (last + sourceStep)) := by
  by_cases failing : feed.bind Feed.state = some "unavailable"
  · exact .inl ⟨_, if_pos failing⟩
  · cases lastCandleAt with
    | none => exact .inl ⟨_, if_neg failing⟩
    | some last =>
        by_cases inside : InCalendar (last + sourceStep)
        · by_cases late : staleAfter < now - (last + sourceStep)
          · exact .inl ⟨_, (if_neg failing).trans ((if_neg (not_not.2 inside)).trans (if_pos late))⟩
          · exact .inl ⟨_, (if_neg failing).trans ((if_neg (not_not.2 inside)).trans (if_neg late))⟩
        · exact .inr ⟨(if_neg failing).trans (if_pos inside), last, rfl, inside⟩

theorem symbolPayload_symbol {symbol : String} {groups : Bars} {lastCandleAt : Option Timestamp}
    {edges : Dict CandleAt EdgeCandle} {feed : Option Feed} {payload : SymbolPayload}
    (done : symbolPayload query symbol groups lastCandleAt edges feed = .ok payload) :
    payload.symbol = symbol := by
  obtain ⟨fresh, -, is⟩ := bind_eq_ok.1 done
  cases is
  rfl

theorem Found.payload {groups : Dict String Bars} {edges : Dict CandleAt EdgeCandle}
    (found : Found query table groups edges) (edged : Edged query.edges) {symbol : String}
    (requested : symbol ∈ query.symbols) {lastCandleAt : Option Timestamp} {feed : Option Feed}
    {payload : SymbolPayload} (done : symbolPayload query symbol ((groups.get? symbol).getD .empty)
      lastCandleAt edges feed = .ok payload) : Shows query table payload := by
  rw [symbolPayload, foldl_barTurn] at done
  obtain ⟨fresh, -, is⟩ := bind_eq_ok.1 done
  cases is
  have length : ((List.range query.points).map
      (barOf query symbol ((groups.get? symbol).getD .empty) edges)).length = query.points := by simp
  have shown : ∀ i bar, ((List.range query.points).map
      (barOf query symbol ((groups.get? symbol).getD .empty) edges))[i]? = some bar →
        BarShown query table symbol i bar := by
    intro i bar place
    obtain ⟨inside, rfl⟩ := List.getElem?_eq_some_iff.1 place
    rw [length] at inside
    simpa using found.bar requested inside
  refine ⟨length, shown, ?_, ?_, mem_gaps length shown, gaps_ordered edged length⟩
  · rw [List.map_map]
    rfl
  · rw [← sum_candlesOf edged]
    exact congrArg List.sum (List.map_congr_left fun i member =>
      (found.bar requested (List.mem_range.1 member)).aggregates.count)

/-! ## Every read -/

/-- A read shows every symbol that was asked for, unless the newest candle of one is at the end of
the calendar. -/
theorem read_shows (edged : Edged query.edges) (answered : answers.Of query table)
    (feedStates : Option (Dict String Feed)) :
    (∃ payload, read query answers feedStates = .ok payload ∧ payload.query = query ∧
      payload.symbols.map (·.symbol) = query.symbols ∧ ∀ shown ∈ payload.symbols, Shows query table shown) ∨
    (read query answers feedStates = .error .overflowError ∧
      ∃ row ∈ ofSymbols query table, ¬ InCalendar (row.openedAt + sourceStep)) := by
  obtain ⟨groups, collected, are⟩ := groupsOf_spec edged answered
  have found : Found query table groups
      (edgeCandles (wantedOf groups (latestOf answers.latest)) answers.edges) := by
    refine ⟨are, fun symbol i group here t either candle => edgeCandles_spec answered ?_⟩
    obtain ⟨first, last⟩ := mem_wanted_group (latestOf answers.latest) here
    rcases either with rfl | rfl
    · exact first
    · exact last
  cases outcome : query.symbols.mapM fun symbol =>
      symbolPayload query symbol ((groups.get? symbol).getD .empty) ((latestOf answers.latest).get? symbol)
        (edgeCandles (wantedOf groups (latestOf answers.latest)) answers.edges)
        (feedStates.bind fun states => states.get? symbol) with
  | ok payloads =>
      have done : read query answers feedStates = .ok ⟨query, payloads⟩ :=
        bind_eq_ok.2 ⟨groups, collected, bind_eq_ok.2 ⟨payloads, outcome, rfl⟩⟩
      refine .inl ⟨_, done, rfl, ?_, ?_⟩
      · exact mapM_ok_map (fun symbol payload done => symbolPayload_symbol done) outcome
      · intro shown member
        obtain ⟨symbol, requested, done⟩ := (mapM_members outcome).2 shown member
        exact found.payload edged requested done
  | error e =>
      obtain ⟨symbol, requested, raised⟩ := mapM_error outcome
      rcases bind_eq_error.1 raised with early | ⟨_, _, done⟩
      · rcases freshness_cases ((latestOf answers.latest).get? symbol) query.now.1
          (feedStates.bind fun states => states.get? symbol) with
          ⟨fresh, returned⟩ | ⟨late, last, newest, outside⟩
        · rw [returned] at early
          cases early
        · obtain ⟨row, stored, _, rfl, _⟩ := latestOf_spec answered newest
          have same : e = .overflowError := Except.error.inj (early.symm.trans late)
          refine .inr ⟨bind_eq_error.2 (.inr ⟨groups, collected, ?_⟩), row, stored, outside⟩
          exact bind_eq_error.2 (.inl (same ▸ outcome))
      · cases done

theorem Interval.step_pos (interval : Interval) : 0 < interval.step := by
  cases interval <;> decide

/-- A query that is made has its bars side by side, each as wide as the interval and aligned to it,
and the last one has the time in it. -/
theorem candleQuery_ok {symbols : List String} {window : Window} {interval : Interval} {now : UtcInstant}
    (made : candleQuery symbols window interval now = .ok query) :
    query = ⟨symbols, window, interval, alignedEdges interval.step now.1 query.points, now⟩ ∧
      0 < query.points ∧ Edged query.edges := by
  rw [candleQuery] at made
  dsimp only at made
  split at made
  · cases made
  · rename_i few
    split at made
    · cases made
    · split at made
      · cases made
      · cases made
        have length : (alignedEdges interval.step now.1 (window.span / interval.step).toNat).length - 1 =
            (window.span / interval.step).toNat := by rw [alignedEdges_length, Nat.add_sub_cancel]
        have some_ : 0 < (window.span / interval.step).toNat := by omega
        refine ⟨by rw [CandleQuery.points, length], by rwa [CandleQuery.points, length], ?_⟩
        exact ⟨alignedEdges_ascending interval.step_pos now.1, by rw [alignedEdges_length]; omega⟩

/-- Whatever is stored, and in whatever order the database answers, every payload of a read shows
the candles that are stored; only a newest candle at the end of the calendar raises. -/
theorem candles_shown {symbols : List String} {window : Window} {interval : Interval} {now : UtcInstant}
    (made : candleQuery symbols window interval now = .ok query) (answered : answers.Of query table)
    (feedStates : Option (Dict String Feed)) :
    (∃ payload, read query answers feedStates = .ok payload ∧ payload.query = query ∧
      payload.symbols.map (·.symbol) = symbols ∧ ∀ shown ∈ payload.symbols, Shows query table shown) ∨
    (read query answers feedStates = .error .overflowError ∧
      ∃ row ∈ ofSymbols query table, ¬ InCalendar (row.openedAt + sourceStep)) := by
  obtain ⟨is, -, edged⟩ := candleQuery_ok made
  have requested : query.symbols = symbols := by rw [is]
  rw [← requested]
  exact read_shows edged answered feedStates

namespace Sixths

/-- Noon of a day in September 2026. -/
def noon : UtcInstant := ⟨1790596800000000, by decide⟩

def today : CandleQuery :=
  ⟨["BTC-USD"], .hours24, .hours6, alignedEdges (minutes (6 * 60)) noon.1 4, noon⟩

def candle (openedAt : Timestamp) : MarketCandleRecord :=
  ⟨"BTC-USD", sourceInterval, openedAt, 10, 12, 9, 11, 5, "coinbase"⟩

/-- Two candles of the bar in progress, the first at its edge, and the last one of the bar before. -/
def stored : MarketCandles :=
  ⟨[candle noon.1, candle (noon.1 - minutes 5), candle (noon.1 + minutes 5)], by decide⟩

/-- An answer of the database in the order of the rows. -/
def answered : Answers where
  groups := ((inRange today stored).map (barKey today)).dedup.map fun key =>
    (key, aggregate (rowsUnder (barKey today) (inRange today stored) key))
  latest := ((ofSymbols today stored).map (·.symbol)).dedup.map fun symbol =>
    (symbol, ((rowsUnder (·.symbol) (ofSymbols today stored) symbol).map (·.openedAt)).max?.getD 0)
  edges times := (ofSymbols today stored).filter (·.openedAt ∈ times)

theorem today_made : candleQuery ["BTC-USD"] .hours24 .hours6 noon = .ok today := by
  rw [candleQuery]
  dsimp only
  rw [if_neg (by decide), if_neg (by decide), if_neg (by decide)]
  rfl

theorem answers_of : answered.Of today stored := ⟨.refl _, .refl _, fun _ => .refl _⟩

end Sixths

open Sixths in
theorem candles_shown_sixths : ∃ payload, read today answered none = .ok payload ∧
    payload.symbols.map (·.symbol) = ["BTC-USD"] ∧ ∀ shown ∈ payload.symbols, shown.inWindow.candles = 3 := by
  rcases candles_shown today_made answers_of none with
    ⟨payload, done, _, names, shows⟩ | ⟨_, row, member, outside⟩
  · refine ⟨payload, done, names, fun shown member => ?_⟩
    have named : shown.symbol = "BTC-USD" := by
      have listed := List.mem_map_of_mem (f := (·.symbol)) member
      rw [names] at listed
      exact List.mem_singleton.1 listed
    rw [(shows shown member).stored, named]
    decide
  · have inside : ∀ row ∈ ofSymbols today stored, InCalendar (row.openedAt + sourceStep) := by decide
    exact absurd (inside row member) outside

end AlgoTrader.Api.Markets
