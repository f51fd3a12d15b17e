/-
# Api.Trends -- counts per bucket of time

A read of the trends covers a window that is cut into buckets, aligned to hours or days; the last
one has the present in it.  The database counts the rows of each bucket and series and lists the
counts in no particular order.  What is drawn of them is a chart for each table: its listed
series, and behind them whatever else was counted.

* `counts_spec` -- what the counts are collected to, in whatever order they were listed;
* `chart_charted` -- a chart whose series are distinct and leave nothing out counts every row once;
* `trends_counted` -- and so do the charts of a read.
-/
import Mathlib.Data.List.Sort
import AlgoTrader.Theory.Dict
import AlgoTrader.Theory.Grouping
import AlgoTrader.Theory.Raising
import AlgoTrader.Brokers.Http
import AlgoTrader.Api.History

namespace AlgoTrader.Api.Trends

open AlgoTrader.Core Calendar AlgoTrader.Theory
open AlgoTrader.Brokers (Exc)
open AlgoTrader.Api.History (Raised hour discrepancyTypes textLimit)

set_option autoImplicit false

/-! ## The window -/

/-- `WINDOWS`: the last 24 hours by the hour, 7 days by six hours, or 30 days by the day. -/
inductive Window where
  | hours24
  | days7
  | days30
  deriving DecidableEq

namespace Window

def span : Window → Duration
  | hours24 => 24 * hour
  | days7 => 7 * 24 * hour
  | days30 => 30 * 24 * hour

def step : Window → Duration
  | hours24 => hour
  | days7 => 6 * hour
  | days30 => 24 * hour

/-- `span // step`. -/
def count (window : Window) : Nat := (window.span / window.step).toNat

end Window

def maxDays : Nat := 30

def maxBuckets : Nat := 30

structure TrendsQuery where
  window : Window
  step : Duration
  edges : List Timestamp
  now : UtcInstant

namespace TrendsQuery

variable (query : TrendsQuery)

def since : Timestamp := query.edges.head?.getD 0

/-- `until`, which is a word of the language here. -/
def until_ : Timestamp := query.edges.getLast?.getD 0

def buckets : Nat := query.edges.length - 1

end TrendsQuery

/-- `trends_query`.  An edge outside the calendar raises. -/
def trendsQuery (window : Window) (now : UtcInstant) : Except Raised TrendsQuery :=
  let query : TrendsQuery :=
    ⟨window, window.step, alignedEdges window.step now.1 window.count, now⟩
  if ¬ ∀ edge ∈ query.edges, InCalendar edge then .error .overflowError
  else if maxDays * 24 * hour < query.until_ - query.since ∨ maxBuckets < window.count then
    .error (.refused [s!"A trends window can be at most {maxDays} days."])
  else .ok query

/-! ## The tables -/

structure PortfolioSnapshotRecord where
  source : String
  recordedAt : Timestamp

structure DiscrepancyRecord where
  entityType : String
  createdAt : Timestamp

structure RiskDecisionRecord where
  approved : Bool
  failedGate : Option String
  decidedAt : Timestamp

structure Tables where
  portfolioSnapshots : List PortfolioSnapshotRecord
  discrepancies : List DiscrepancyRecord
  riskDecisions : List RiskDecisionRecord

/-- What `_counts` is called with: the time of a row, its series key if the rows have one, and
the condition they are filtered by. -/
structure Measure (ρ : Type) where
  at_ : ρ → Timestamp
  key : Option (ρ → Option String)
  keeps : ρ → Bool

def brokerSource : String := "broker"

def reconciliationRuns : Measure PortfolioSnapshotRecord :=
  ⟨(·.recordedAt), none, fun row => row.source = brokerSource⟩

def discrepancies : Measure DiscrepancyRecord :=
  ⟨(·.createdAt), some fun row => some row.entityType, fun _ => true⟩

def refusals : Measure RiskDecisionRecord :=
  ⟨(·.decidedAt), some (·.failedGate), fun row => !row.approved⟩

/-! ## The counts -/

/-- A row of the answer: a bucket, a series key, and how many rows they have. -/
abbrev GroupRow := (Option Nat × Option String) × Nat

abbrev Counts := Dict (Option String) (List Nat)

namespace Measure

variable {ρ : Type} (measure : Measure ρ) (query : TrendsQuery)

/-- The rows of the range that match the condition. -/
def selected (rows : List ρ) : List ρ :=
  rows.filter fun row =>
    query.since ≤ measure.at_ row ∧ measure.at_ row < query.until_ ∧ measure.keeps row

/-- The columns that the rows are grouped by; without a key the second one is not there. -/
def grouping (row : ρ) : Option Nat × Option String :=
  (bucketOf query.edges (measure.at_ row), measure.key.bind fun key => key row)

/-- What the database may answer. -/
def Answers (rows : List ρ) (answer : List GroupRow) : Prop :=
  Grouped (measure.grouping query) List.length (measure.selected query rows) answer

/-- The name of a group. -/
def name (series : Option String) : Option String :=
  if measure.key.isSome then series else some "completed"

/-- The name that a row is counted under. -/
def nameOf (row : ρ) : Option String := measure.name (measure.key.bind fun key => key row)

def typeError : Exc :=
  { kind := .provider
    typeName := "TypeError"
    message := "int() argument must be a string, a bytes-like object or a real number, not 'NoneType'" }

def indexError : Exc :=
  { kind := .provider, typeName := "IndexError", message := "list index out of range" }

/-- A turn of the loop over the answer. -/
def tally (row : GroupRow) (counts : Counts) : Except Exc Counts :=
  let name := measure.name row.1.2
  let series := (counts.get? name).getD (List.replicate query.buckets 0)
  match row.1.1 with
  | none => .error typeError
  | some bucket =>
      if bucket < series.length then .ok (counts.set name (series.modify bucket (· + row.2)))
      else .error indexError

/-- `_counts`, of what the database answers. -/
def counts (answer : List GroupRow) : Except Exc Counts := runs (measure.tally query) answer .empty

end Measure

/-! ## The charts -/

structure Series where
  key : Option String
  label : String
  position : Option Nat := none
  recognised : Bool := true

structure ChartRow where
  key : Option String
  label : String
  position : Option Nat
  recognised : Bool
  counts : List Nat
  total : Nat

structure Bucket where
  start : Timestamp
  stop : Timestamp
  inProgress : Bool

/-- The table a chart is drawn from, the condition on its rows, and their time. -/
structure Source where
  table : String
  where_ : Option String
  time : String

structure Chart where
  key : String
  title : String
  source : Source
  note : String
  buckets : List Bucket
  series : List ChartRow
  totals : List Nat
  total : Nat

/-- `_text(value)`. -/
def shown : Option String → Option String
  | none => none
  | some value => if value = "" then none else some (String.ofList (value.toList.take textLimit))

/-- `_unlisted`: what was counted under a key that is not listed. -/
def unlisted (counts : Counts) (known : List String) (label : String) : List Series :=
  ((counts.keys.filter fun name => name ∉ known.map some).insertionSort
    fun a b => a.getD "" ≤ b.getD "").map fun name =>
      { key := name
        label := if name.getD "" ≠ "" then label else "No gate recorded"
        recognised := false }

variable (query : TrendsQuery)

def chartRow (counts : Counts) (item : Series) : ChartRow :=
  let values := (counts.get? item.key).getD (List.replicate query.buckets 0)
  ⟨shown item.key, item.label, item.position, item.recognised, values, values.sum⟩

/-- `_chart`. -/
def chart (key title : String) (source : Source) (note : String) (series : List Series)
    (counts : Counts) : Chart :=
  let rows := series.map (chartRow query counts)
  let totals := (List.range query.buckets).map fun index =>
    (rows.map fun row => row.counts[index]?.getD 0).sum
  { key, title, source, note
    buckets := (query.edges.zip query.edges.tail).mapIdx fun index edges =>
      ⟨edges.1, edges.2, index = query.buckets - 1⟩
    series := rows
    totals
    total := totals.sum }

/-- The gates of `RISK_GATES` and their labels. -/
def riskGates : List (String × String) :=
  [("kill_switch", "Kill switch"),
    ("operator_pause_window", "Operator pause and trading window"),
    ("broker_health", "Broker health"),
    ("stale_price", "Stale or future quote"),
    ("abnormal_volatility", "Abnormal volatility"),
    ("price_reference", "Expected and reference price divergence"),
    ("duplicate_prevention", "Duplicate signal or order"),
    ("symbol_cooldown", "Symbol cooldown"),
    ("maximum_open_positions", "Maximum open positions"),
    ("trade_notional", "Maximum trade notional"),
    ("symbol_position", "Per-symbol position, no shorting"),
    ("aggregate_allocation", "Aggregate allocation"),
    ("cash_reserve", "Minimum cash reserve"),
    ("daily_loss", "Daily loss"),
    ("drawdown", "Drawdown"),
    ("slippage", "Estimated slippage"),
    ("exchange_constraints", "Exchange quantity, price, and notional constraints")]

/-- `UNGATED`. -/
def ungated : List (String × String) := [("risk_inputs", "Risk inputs could not be assembled")]

def runsChart (counts : Counts) : Chart :=
  chart query "reconciliation_runs" "Reconciliation runs"
    ⟨"portfolio_snapshots", some s!"source = '{brokerSource}'", "recorded_at"⟩
    ("Completed reconciliations, at startup and on schedule. Each one saves the " ++
      "broker's state once. A run that could not read the broker saves nothing, so " ++
      "it is not counted here; the dashboard counts those since the process started.")
    [{ key := some "completed", label := "Completed runs" }] counts

def discrepanciesChart (counts : Counts) : Chart :=
  chart query "discrepancies" "Discrepancies by type"
    ⟨"discrepancies", none, "created_at"⟩
    ("Differences reconciliation found between local and broker state. Each " ++
      "difference is one row, so one run can record several.")
    ((discrepancyTypes.map fun kind => { key := some kind, label := kind }) ++
      unlisted counts discrepancyTypes "Unrecognised type") counts

def gateSeries : List Series :=
  riskGates.mapIdx (fun position gate =>
    { key := some gate.1, label := gate.2, position := some (position + 1) }) ++
  ungated.map fun gate => { key := some gate.1, label := "Before the gates: " ++ gate.2 }

def refusalsChart (counts : Counts) : Chart :=
  chart query "refusals" "Risk refusals by gate"
    ⟨"risk_decisions", some "approved is false", "decided_at"⟩
    ("Each refusal counts once, under the first gate that stopped it. A missing " ++
      "input is a refusal, never a pass.")
    (gateSeries ++ unlisted counts (riskGates.map Prod.fst ++ ungated.map Prod.fst) "Unrecognised gate")
    counts

/-- What the database answers to the three reads. -/
structure Answers where
  runs : List GroupRow
  discrepancies : List GroupRow
  refusals : List GroupRow

structure Answers.Of (answers : Answers) (query : TrendsQuery) (tables : Tables) : Prop where
  runs : reconciliationRuns.Answers query tables.portfolioSnapshots answers.runs
  discrepancies : Trends.discrepancies.Answers query tables.discrepancies answers.discrepancies
  refusals : Trends.refusals.Answers query tables.riskDecisions answers.refusals

/-- `SqlAlchemyTrends.read`, as far as its charts are drawn; those that are not started follow. -/
def read (answers : Answers) : Except Exc (List Chart) := do
  let runs ← reconciliationRuns.counts query answers.runs
  let discrepancies ← discrepancies.counts query answers.discrepancies
  let refusals ← refusals.counts query answers.refusals
  return [runsChart query runs, discrepanciesChart query discrepancies, refusalsChart query refusals]

example : riskGates.map Prod.fst = Risk.riskGates.map Prod.fst := rfl

/-! ## The buckets of a row -/

variable {query} {ρ : Type} {measure : Measure ρ} {rows : List ρ}

theorem mem_selected {row : ρ} : row ∈ measure.selected query rows ↔ row ∈ rows ∧
    query.since ≤ measure.at_ row ∧ measure.at_ row < query.until_ ∧ measure.keeps row = true := by
  simp [Measure.selected]

theorem bucket_iff (edged : Edged query.edges) {row : ρ}
    (selected : row ∈ measure.selected query rows) {i : Nat} :
    bucketOf query.edges (measure.at_ row) = some i ↔ InBucket query.edges i (measure.at_ row) :=
  bucketOf_eq_some edged.ascending (edged.head 0) (mem_selected.1 selected).2.1

theorem bucket_selected (edged : Edged query.edges) {row : ρ}
    (selected : row ∈ measure.selected query rows) :
    ∃ i, bucketOf query.edges (measure.at_ row) = some i ∧ i < query.buckets := by
  obtain ⟨i, found, inside⟩ := bucketOf_some (edged.last 0) (mem_selected.1 selected).2.2.1 edged.some_
  exact ⟨i, found, Nat.lt_sub_of_add_lt inside⟩

/-! ## What the counts are -/

namespace Measure

/-- The counts of some groups under a name, bucket by bucket. -/
def cellsOf (measure : Measure ρ) (buckets : Nat) (groups : List GroupRow) (name : Option String) :
    List Nat :=
  (List.range buckets).map fun i =>
    ((groups.filter fun group => group.1.1 = some i ∧ measure.name group.1.2 = name).map Prod.snd).sum

/-- The rows of each bucket under a name. -/
def cells (measure : Measure ρ) (query : TrendsQuery) (rows : List ρ) (name : Option String) : List Nat :=
  (List.range query.buckets).map fun i => (measure.selected query rows).countP fun row =>
    measure.nameOf row = name ∧ InBucket query.edges i (measure.at_ row)

/-- What is counted after some groups. -/
def Tallied (measure : Measure ρ) (query : TrendsQuery) (before : List GroupRow) (counts : Counts) : Prop :=
  ∀ name, counts.get? name = if name ∈ before.map (fun group => measure.name group.1.2) then
    some (measure.cellsOf query.buckets before name) else none

theorem cellsOf_absent {buckets : Nat} {groups : List GroupRow} {name : Option String}
    (absent : name ∉ groups.map fun group => measure.name group.1.2) :
    measure.cellsOf buckets groups name = List.replicate buckets 0 := by
  have none_ : ∀ i, (groups.filter fun group => group.1.1 = some i ∧ measure.name group.1.2 = name) = [] := by
    intro i
    refine List.filter_eq_nil_iff.2 fun group member holds => absent ?_
    simp only [decide_eq_true_eq] at holds
    exact List.mem_map.2 ⟨group, member, holds.2⟩
  simp only [cellsOf, none_, List.map_nil, List.sum_nil]
  simp

theorem Tallied.series {before : List GroupRow} {counts : Counts} (tallied : measure.Tallied query before counts)
    (name : Option String) :
    (counts.get? name).getD (List.replicate query.buckets 0) = measure.cellsOf query.buckets before name := by
  rw [tallied name]
  split
  · rfl
  · rename_i absent
    exact (cellsOf_absent absent).symm

/-- One more group adds to its own bucket under its own name. -/
theorem cellsOf_snoc {buckets b n : Nat} {series : Option String} (groups : List GroupRow)
    (name : Option String) :
    measure.cellsOf buckets (groups ++ [((some b, series), n)]) name =
      if measure.name series = name then (measure.cellsOf buckets groups name).modify b (· + n)
      else measure.cellsOf buckets groups name := by
  refine List.ext_getElem? fun i => ?_
  by_cases own : measure.name series = name
  · by_cases inside : i < buckets
    · by_cases here : b = i
      · simp [cellsOf, own, inside, here]
      · simp [cellsOf, own, inside, here]
    · simp [cellsOf, own, inside]
  · simp [cellsOf, own]

theorem Tallied.snoc {before : List GroupRow} {counts : Counts} (tallied : measure.Tallied query before counts)
    {b n : Nat} {series : Option String} (inside : b < query.buckets) :
    ∃ next, measure.tally query ((some b, series), n) counts = .ok next ∧
      measure.Tallied query (before ++ [((some b, series), n)]) next := by
  have length : (measure.cellsOf query.buckets before (measure.name series)).length = query.buckets := by
    simp [cellsOf]
  refine ⟨counts.set (measure.name series)
    ((measure.cellsOf query.buckets before (measure.name series)).modify b (· + n)), ?_, fun name => ?_⟩
  · simp only [tally, tallied.series]
    rw [if_pos (by rwa [length])]
  · rw [Dict.get?_set, cellsOf_snoc]
    by_cases own : name = measure.name series
    · rw [if_pos own, if_pos (by simp [own]), if_pos own.symm, own]
    · rw [if_neg own, if_neg (Ne.symm own), tallied name]
      simp only [List.map_append, List.map_singleton, List.mem_append, List.mem_singleton, own, or_false]

/-- The rows of the range are collected under their names. -/
def Counted (measure : Measure ρ) (query : TrendsQuery) (rows : List ρ) (counts : Counts) : Prop :=
  ∀ name, counts.get? name = if name ∈ (measure.selected query rows).map measure.nameOf then
    some (measure.cells query rows name) else none

/-- The counts of any answer. -/
theorem counts_tallied (answer : List GroupRow)
    (placed : ∀ group ∈ answer, ∃ b, group.1.1 = some b ∧ b < query.buckets) :
    ∃ counts, measure.counts query answer = .ok counts ∧ measure.Tallied query answer counts := by
  induction answer using List.reverseRecOn with
  | nil => exact ⟨.empty, rfl, fun name => by simp⟩
  | append_singleton before group ih =>
      obtain ⟨counts, counted, tallied⟩ := ih fun other member =>
        placed other (List.mem_append_left _ member)
      obtain ⟨⟨bucket, series⟩, n⟩ := group
      obtain ⟨b, rfl, inside⟩ := placed _ (List.mem_append_right _ (List.mem_singleton_self _))
      obtain ⟨next, stepped, after⟩ := tallied.snoc inside
      exact ⟨next, runs_snoc_ok.2 ⟨counts, counted, stepped⟩, after⟩

/-- So are those of an answer to the read, in whatever order it lists them. -/
theorem counts_spec (edged : Edged query.edges) {answer : List GroupRow}
    (answers : measure.Answers query rows answer) :
    ∃ counts, measure.counts query answer = .ok counts ∧ measure.Counted query rows counts := by
  have keys : ∀ key, key ∈ answer.map Prod.fst ↔
      ∃ row ∈ measure.selected query rows, measure.grouping query row = key := by
    intro key
    rw [answers.keys_perm.mem_iff, List.mem_dedup, List.mem_map]
  obtain ⟨counts, counted, tallied⟩ := measure.counts_tallied answer fun group member => by
    obtain ⟨row, selected, same⟩ := (keys group.1).1 (List.mem_map_of_mem member)
    rw [← same]
    exact bucket_selected edged selected
  refine ⟨counts, counted, fun name => ?_⟩
  have names : name ∈ answer.map (fun group => measure.name group.1.2) ↔
      name ∈ (measure.selected query rows).map measure.nameOf := by
    simp only [List.mem_map]
    constructor
    · rintro ⟨group, member, rfl⟩
      obtain ⟨row, selected, same⟩ := (keys group.1).1 (List.mem_map_of_mem member)
      exact ⟨row, selected, by rw [nameOf, ← same, grouping]⟩
    · rintro ⟨row, selected, rfl⟩
      obtain ⟨group, member, same⟩ := List.mem_map.1 ((keys _).2 ⟨row, selected, rfl⟩)
      exact ⟨group, member, by rw [nameOf, same, grouping]⟩
  have same : measure.cellsOf query.buckets answer name = measure.cells query rows name := by
    refine List.map_congr_left fun i _ => ?_
    rw [answers.sum_counts fun key => key.1 = some i ∧ measure.name key.2 = name]
    refine List.countP_congr fun row selected => ?_
    simp only [decide_eq_true_eq, ← bucket_iff edged selected]
    rw [nameOf, grouping, and_comm]
  rw [tallied name, same]
  simp only [names]

theorem Counted.values {counts : Counts} (counted : measure.Counted query rows counts) (name : Option String) :
    (counts.get? name).getD (List.replicate query.buckets 0) = measure.cells query rows name := by
  rw [counted name]
  split
  · rfl
  · rename_i absent
    have none_ : ∀ i, ((measure.selected query rows).countP fun row =>
        measure.nameOf row = name ∧ InBucket query.edges i (measure.at_ row)) = 0 := by
      intro i
      refine List.countP_eq_zero.2 fun row selected holds => absent ?_
      simp only [decide_eq_true_eq] at holds
      exact List.mem_map.2 ⟨row, selected, holds.1⟩
    simp only [cells, none_]
    simp

theorem Counted.mem_keys {counts : Counts} (counted : measure.Counted query rows counts)
    {name : Option String} :
    name ∈ counts.keys ↔ name ∈ (measure.selected query rows).map measure.nameOf := by
  rw [← Dict.isSome_get?, counted name]
  split <;> simp [*]

end Measure

/-! ## What a chart shows -/

/-- Every row of the range is in one bucket; the series have distinct names, leave no row out, and
show the rows of each bucket under their name; and the totals are those of the rows. -/
structure Charted (measure : Measure ρ) (query : TrendsQuery) (rows : List ρ) (chart : Chart) : Prop where
  once : ∀ row ∈ measure.selected query rows, ∃! i, InBucket query.edges i (measure.at_ row)
  series : ∃ names : List (Option String), names.Nodup ∧
    (∀ row ∈ measure.selected query rows, measure.nameOf row ∈ names) ∧
    chart.series.map (fun row => (row.key, row.counts)) =
      names.map fun name => (shown name, measure.cells query rows name)
  totals : chart.totals = (List.range query.buckets).map fun i =>
    (measure.selected query rows).countP fun row => InBucket query.edges i (measure.at_ row)
  total : chart.total = (measure.selected query rows).length

/-- The rows of a bucket, name by name. -/
theorem sum_cells {names : List (Option String)} (distinct : names.Nodup)
    (all : ∀ row ∈ measure.selected query rows, measure.nameOf row ∈ names) {i : Nat}
    (inside : i < query.buckets) :
    (names.map fun name => (measure.cells query rows name)[i]?.getD 0).sum =
      (measure.selected query rows).countP fun row => InBucket query.edges i (measure.at_ row) := by
  let here := (measure.selected query rows).filter fun row => InBucket query.edges i (measure.at_ row)
  have cell : ∀ name, (measure.cells query rows name)[i]?.getD 0 =
      here.countP fun row => measure.nameOf row = name := by
    intro name
    simp [Measure.cells, inside, here, List.countP_filter]
  simp only [cell]
  rw [sum_countP_keys measure.nameOf here distinct, List.countP_eq_length_filter (l := measure.selected query rows)]
  refine List.countP_eq_length.2 fun row member => ?_
  simpa using all row (List.mem_of_mem_filter member)

/-- The rows of the range, bucket by bucket. -/
theorem sum_buckets (edged : Edged query.edges) :
    ((List.range query.buckets).map fun i => (measure.selected query rows).countP fun row =>
      InBucket query.edges i (measure.at_ row)).sum = (measure.selected query rows).length := by
  refine edged.sum_inBucket measure.at_ (edged.head 0) (edged.last 0) fun row selected => ?_
  obtain ⟨_, from_, upTo, _⟩ := mem_selected.1 selected
  exact ⟨from_, upTo⟩

theorem chart_charted (edged : Edged query.edges) {counts : Counts}
    (counted : measure.Counted query rows counts) {series : List Series}
    (distinct : (series.map Series.key).Nodup)
    (covers : ∀ name ∈ counts.keys, name ∈ series.map Series.key) {key title note : String}
    {source : Source} : Charted measure query rows (chart query key title source note series counts) := by
  have all : ∀ row ∈ measure.selected query rows, measure.nameOf row ∈ series.map Series.key :=
    fun row selected => covers _ (counted.mem_keys.2 (List.mem_map_of_mem selected))
  have totals : (chart query key title source note series counts).totals =
      (List.range query.buckets).map fun i => (measure.selected query rows).countP fun row =>
        InBucket query.edges i (measure.at_ row) := by
    refine List.map_congr_left fun i member => ?_
    rw [← sum_cells distinct all (List.mem_range.1 member), List.map_map, List.map_map]
    congr 1
    refine List.map_congr_left fun item _ => ?_
    simp only [Function.comp_apply, chartRow, counted.values]
  refine ⟨fun row selected => ?_, ⟨_, distinct, all, ?_⟩, totals, ?_⟩
  · obtain ⟨i, found, _⟩ := bucket_selected edged selected
    refine ⟨i, (bucket_iff edged selected).1 found, fun j here => ?_⟩
    exact Option.some.inj (((bucket_iff edged selected).2 here).symm.trans found)
  · show (series.map (chartRow query counts)).map _ = _
    rw [List.map_map, List.map_map]
    refine List.map_congr_left fun item _ => ?_
    simp only [Function.comp_apply, chartRow, counted.values]
  · show (chart query key title source note series counts).totals.sum = _
    rw [totals, sum_buckets edged]

/-! ## Listed and unlisted series -/

theorem unlisted_keys (counts : Counts) (known : List String) (label : String) :
    ((unlisted counts known label).map Series.key).Perm
      (counts.keys.filter fun name => name ∉ known.map some) := by
  rw [unlisted, List.map_map]
  exact ((List.perm_insertionSort _ _).map _).trans (.of_eq (List.map_id _))

section Listed

variable {listed : List Series} {known : List String}

theorem listed_distinct (counts : Counts) (label : String) (same : listed.map Series.key = known.map some)
    (distinct : known.Nodup) : ((listed ++ unlisted counts known label).map Series.key).Nodup := by
  rw [List.map_append, same]
  refine List.nodup_append.2 ⟨distinct.map fun _ _ => Option.some.inj, ?_, ?_⟩
  · exact (unlisted_keys counts known label).nodup_iff.2 (counts.nodup.filter _)
  · rintro name member _ other rfl
    have extra := (unlisted_keys counts known label).mem_iff.1 other
    exact absurd member (by simpa using (List.mem_filter.1 extra).2)

theorem listed_covers (counts : Counts) (label : String) (same : listed.map Series.key = known.map some)
    {name : Option String} (counted : name ∈ counts.keys) :
    name ∈ (listed ++ unlisted counts known label).map Series.key := by
  rw [List.map_append, same, List.mem_append]
  by_cases member : name ∈ known.map some
  · exact .inl member
  · exact .inr ((unlisted_keys counts known label).mem_iff.2
      (List.mem_filter.2 ⟨counted, by simpa using member⟩))

end Listed

theorem gateSeries_keys :
    gateSeries.map Series.key = (riskGates.map Prod.fst ++ ungated.map Prod.fst).map some := rfl

theorem gates_distinct : (riskGates.map Prod.fst ++ ungated.map Prod.fst).Nodup := by
  simp [riskGates, ungated]

theorem discrepancyTypes_distinct : discrepancyTypes.Nodup := by
  simp [discrepancyTypes]

theorem read_charted (edged : Edged query.edges) {tables : Tables} {answers : Answers}
    (answered : answers.Of query tables) : ∃ runs differences refused,
      read query answers = .ok [runs, differences, refused] ∧
      Charted reconciliationRuns query tables.portfolioSnapshots runs ∧
      Charted discrepancies query tables.discrepancies differences ∧
      Charted refusals query tables.riskDecisions refused := by
  obtain ⟨runs, countedRuns, runsAre⟩ := Measure.counts_spec edged answered.runs
  obtain ⟨differences, countedDifferences, differencesAre⟩ := Measure.counts_spec edged answered.discrepancies
  obtain ⟨refused, countedRefused, refusedAre⟩ := Measure.counts_spec edged answered.refusals
  refine ⟨_, _, _, bind_eq_ok.2 ⟨runs, countedRuns, bind_eq_ok.2 ⟨differences, countedDifferences,
    bind_eq_ok.2 ⟨refused, countedRefused, rfl⟩⟩⟩, ?_, ?_, ?_⟩
  · refine chart_charted edged runsAre (by simp) fun name member => ?_
    obtain ⟨row, _, rfl⟩ := List.mem_map.1 (runsAre.mem_keys.1 member)
    exact List.mem_singleton_self _
  · have same : (discrepancyTypes.map fun kind => ({ key := some kind, label := kind } : Series)).map
        Series.key = discrepancyTypes.map some := rfl
    exact chart_charted edged differencesAre (listed_distinct _ _ same discrepancyTypes_distinct)
      fun _ => listed_covers _ _ same
  · exact chart_charted edged refusedAre (listed_distinct _ _ gateSeries_keys gates_distinct)
      fun _ => listed_covers _ _ gateSeries_keys

/-! ## Every read -/

/-- Buckets of one width, a step apart and on multiples of the step; the last one has the time in
it. -/
structure Cut (query : TrendsQuery) : Prop where
  count : query.buckets = query.window.count
  contiguous : ∀ i a b, query.edges[i]? = some a → query.edges[i + 1]? = some b →
    b = a + query.window.step
  aligned : ∀ edge ∈ query.edges, query.window.step ∣ edge
  current : InBucket query.edges (query.buckets - 1) query.now.1

theorem Window.step_pos (window : Window) : 0 < window.step := by
  cases window <;> decide

theorem Window.count_pos (window : Window) : 0 < window.count ∧ window.count ≤ maxBuckets ∧
    window.step * window.count ≤ maxDays * 24 * hour := by
  cases window <;> decide

theorem cut_aligned (window : Window) (now : UtcInstant) :
    let query : TrendsQuery := ⟨window, window.step, alignedEdges window.step now.1 window.count, now⟩
    Cut query ∧ Edged query.edges := by
  obtain ⟨contiguous, aligned, current⟩ := @alignedEdges_spec window.step window.count window.step_pos now.1
  have buckets : (alignedEdges window.step now.1 window.count).length - 1 = window.count := by
    rw [alignedEdges_length, Nat.add_sub_cancel]
  refine ⟨⟨buckets, contiguous, aligned, ?_⟩, alignedEdges_ascending window.step_pos now.1, ?_⟩
  · rw [TrendsQuery.buckets, buckets]
    exact current window.count_pos.1
  · rw [alignedEdges_length]
    exact Nat.succ_lt_succ window.count_pos.1

/-- Unless an edge lies outside the calendar, the buckets are cut to end with the one that has
the time in it, and whatever the tables hold and in whatever order the database counts, every
matching row of the range is counted in one bucket of one series of its chart. -/
theorem trends_counted (window : Window) (now : UtcInstant) :
    (trendsQuery window now = .error .overflowError ∧
      ∃ edge ∈ alignedEdges window.step now.1 window.count, ¬ InCalendar edge) ∨
    ∃ query, trendsQuery window now = .ok query ∧ query.window = window ∧ query.now = now ∧ Cut query ∧
      ∀ tables (answers : Answers), answers.Of query tables → ∃ runs differences refused,
        read query answers = .ok [runs, differences, refused] ∧
        Charted reconciliationRuns query tables.portfolioSnapshots runs ∧
        Charted discrepancies query tables.discrepancies differences ∧
        Charted refusals query tables.riskDecisions refused := by
  obtain ⟨cut, edged⟩ := cut_aligned window now
  by_cases inside : ∀ edge ∈ alignedEdges window.step now.1 window.count, InCalendar edge
  · refine .inr ⟨_, ?_, rfl, rfl, cut, fun tables answers => read_charted edged⟩
    have span : ∀ first last, (alignedEdges window.step now.1 window.count).head? = some first →
        (alignedEdges window.step now.1 window.count).getLast? = some last →
        last - first = window.step * window.count := by
      intro first last head ends
      rw [List.head?_eq_getElem?, alignedEdges_get now.1 (Nat.zero_le _)] at head
      rw [List.getLast?_eq_getElem?, alignedEdges_length, Nat.add_sub_cancel,
        alignedEdges_get now.1 (le_refl _)] at ends
      rw [← Option.some.inj head, ← Option.some.inj ends]
      simp
    have within := window.count_pos
    rw [← span _ _ (edged.head 0) (edged.last 0)] at within
    simp only [trendsQuery]
    rw [if_neg (not_not.2 inside), if_neg]
    rintro (long | many)
    · exact absurd within.2.2 (not_le.2 long)
    · exact absurd within.2.1 (not_le.2 many)
  · refine .inl ⟨if_pos inside, ?_⟩
    simpa only [not_forall, exists_prop] using inside

namespace Unlisted

/-- Noon of a day in September 2026. -/
def noon : UtcInstant := ⟨1790510400000000, by decide⟩

def today : TrendsQuery := ⟨.hours24, hour, alignedEdges hour noon.1 24, noon⟩

/-- A refusal without a gate, one at a gate nobody knows, and an approval. -/
def tables : Tables := ⟨[], [], [⟨false, none, noon.1⟩, ⟨false, some "volume", noon.1 - 1⟩, ⟨true, none, noon.1⟩]⟩

def answers : Answers := ⟨[], [], [((some 22, some "volume"), 1), ((some 23, none), 1)]⟩

theorem today_made : trendsQuery .hours24 noon = .ok today := by
  simp only [trendsQuery]
  rw [if_neg (by decide), if_neg (by decide)]
  rfl

theorem answers_of : answers.Of today tables := by
  constructor <;> unfold Measure.Answers Grouped <;> decide

end Unlisted

open Unlisted in
theorem trends_counted_unlisted : ∃ refused runs differences,
    read today answers = .ok [runs, differences, refused] ∧ refused.total = 2 := by
  rcases trends_counted .hours24 noon with ⟨_, edge, member, outside⟩ | ⟨made, is, _, _, _, counted⟩
  · have inside : ∀ edge ∈ alignedEdges hour noon.1 24, InCalendar edge := by decide
    exact absurd (inside edge member) outside
  · obtain rfl : today = made := Except.ok.inj (today_made.symm.trans is)
    obtain ⟨runs, differences, refused, drawn, _, _, charted⟩ := counted tables answers answers_of
    exact ⟨refused, runs, differences, drawn, charted.total⟩

end AlgoTrader.Api.Trends
