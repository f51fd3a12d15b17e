/-
# Api.SoakDigest -- the days of the soak

The digest shows the last thirty UTC days, a row a day.  A read makes one query after another while the service goes
on writing, so each query may find the tables in another state.

* `dailyCounts_of`, `uptime_of`, `storms_of`, `equity_of` -- what the queries of a read come to, day by day;
* `Sound.writeAll` -- what is written after a day leaves of it;
* `Reading.row_shows` -- a day that is over is read as it stood when it was over;
* `finished_day_settled` -- two reads agree on a day that is over;
* `finished_day_passes_iff` -- what it takes such a day to pass.
-/
import AlgoTrader.Api.Soak
import AlgoTrader.Api.Trends
import AlgoTrader.Api.Uptime
import AlgoTrader.Portfolio.TodayPnl

namespace AlgoTrader.Api.SoakDigest

open AlgoTrader.Core AlgoTrader.Theory AlgoTrader.App
open AlgoTrader.Api.Soak AlgoTrader.Api.Trends
open AlgoTrader.Api.History (hour)
open AlgoTrader.Portfolio (Basis)
open AlgoTrader.Portfolio.EquityHistory (Snapshot)

set_option autoImplicit false

/-! ## The tables -/

def killSwitchEvent : String := "kill_switch_transition"

def heartbeatEvent : String := "heartbeat"

def restartEvent : String := "restart"

def disconnectEvent : String := "disconnect"

def gapFillEvent : String := "gap_fill"

/-- A row of `system_events`, of whose payload the digest reads the kind. -/
structure SystemEventRecord where
  eventType : String
  createdAt : Timestamp
  kind : Option String

/-- What the digest reads; of a fill its time. -/
structure Tables where
  fills : List Timestamp
  riskDecisions : List RiskDecisionRecord
  portfolioSnapshots : List PortfolioSnapshotRecord
  discrepancies : List DiscrepancyRecord
  systemEvents : List SystemEventRecord
  curve : List Snapshot
  records : Records

def trades : Measure Timestamp := ⟨id, none, fun _ => true⟩

/-- Restarts that were a recovery. -/
def recoveries : Measure SystemEventRecord :=
  ⟨(·.createdAt), none, fun row => row.eventType = restartEvent ∧ row.kind = some "recovered"⟩

def eventsOf (eventType : String) : Measure SystemEventRecord := ⟨(·.createdAt), none, (·.eventType = eventType)⟩

/-- When the events of a type were. -/
def Tables.moments (tables : Tables) (eventType : String) : List Timestamp :=
  (tables.systemEvents.filter (·.eventType = eventType)).map SystemEventRecord.createdAt

/-! ## The queries -/

/-- A list with some of its places filled in. -/
def fillIn {α : Type} (answer : List (Nat × α)) (values : List α) : List α :=
  answer.foldl (fun values row => values.set row.1 row.2) values

/-- `_daily_counts`, of what the database lists for each bucket. -/
def dailyCounts (query : TrendsQuery) (answer : List (Nat × Nat)) : List Nat :=
  fillIn answer (List.replicate query.buckets 0)

/-- `_daily_reconnect_storms`. -/
def dailyStorms (threshold : Int) (window : Duration) (query : TrendsQuery) (moments : List Timestamp) : List Bool :=
  dailyReconnectStorms moments query.since query.edges.tail threshold window

/-- The bucket a moment lies in. -/
def dayOf (edges : List Timestamp) (ts : Timestamp) : Option Nat :=
  (edges.zip edges.tail).findIdx? fun (start, stop) => start ≤ ts && ts < stop

/-- A turn of the loop over the restarts. -/
def countRestart (edges : List Timestamp) (counts : List Nat × List Nat) (row : Timestamp × Option String) :
    List Nat × List Nat :=
  match dayOf edges row.1 with
  | none => counts
  | some index =>
      (counts.1.modify index (· + 1), if row.2 = some "recovered" then counts.2.modify index (· + 1) else counts.2)

/-- `_daily_restart_counts`. -/
def dailyRestartCounts (query : TrendsQuery) (rows : List (Timestamp × Option String)) : List Nat × List Nat :=
  rows.foldl (countRestart query.edges) (List.replicate query.buckets 0, List.replicate query.buckets 0)

/-- Opened before the end of a day and not closed before it. -/
def openAt (stop : Timestamp) (incident : Timestamp × Option Timestamp) : Bool :=
  incident.1 < stop && (incident.2.isNone || incident.2.any (stop ≤ ·))

/-- `_daily_open_incidents`. -/
def dailyOpenIncidents (query : TrendsQuery) (rows : List (Timestamp × Option Timestamp)) : List Nat :=
  query.edges.tail.map fun stop => rows.countP (openAt stop)

/-- A day's last row of the equity curve. -/
structure FinalRow where
  snapshotId : Nat
  equity : Option Decimal
  isPartial : Bool

/-- A holding of a row that was not priced afresh. -/
structure HoldingRow where
  snapshotId : Nat
  symbol : String
  basis : Basis
  priceAgeSeconds : Option Int
  deriving DecidableEq

@[ext]
structure DayEquity where
  equity : Option Decimal
  isPartial : Bool
  holdings : List (String × Basis × Option Int)

/-- `_daily_last_equity`, of the last rows and of their holdings. -/
def dailyLastEquity (query : TrendsQuery) (finals : List (Nat × FinalRow)) (held : List HoldingRow) :
    List (Option DayEquity) :=
  let holdings : Dict Nat (List (String × Basis × Option Int)) :=
    Dict.groups HoldingRow.snapshotId (fun row => (row.symbol, row.basis, row.priceAgeSeconds)) held
  fillIn
    (finals.map fun (bucket, row) =>
      (bucket, some ⟨row.equity, row.isPartial, (holdings.get? row.snapshotId).getD []⟩))
    (List.replicate query.buckets none)

/-- `_latest_evidence`: of the rows of a criterion the last one read. -/
def latestEvidence (rows : List EvidenceRecord) : Dict (List Char) EvidenceRecord :=
  rows.foldl (fun latest record => latest.set record.criterion record) .empty

/-! ## A day -/

/-- `LAST_PRICE_MAX_AGE`. -/
def lastPriceMaxAge : Duration := 24 * 3600 * 1000000

/-- `_age_text`. -/
def ageText (seconds : Int) : String :=
  if seconds < 3600 then s!"{seconds / 60} min" else s!"{seconds / 3600} h"

/-- Valued at a price as old as the limit, or older. -/
def overdue : String × Basis × Option Int → Bool
  | (_, .lastKnown, some age) => lastPriceMaxAge ≤ age * 1000000
  | _ => false

/-- What a holding adds to the notes. -/
def holdingNote : String × Basis × Option Int → Option String
  | (symbol, .unpriced, _) => some s!"{symbol} has never had a price, so equity could not be valued"
  | (symbol, .lastKnown, some age) =>
      if lastPriceMaxAge ≤ age * 1000000 then
        some (s!"{symbol} is valued at its last price, {ageText age} old; " ++
          s!"the limit is {ageText (lastPriceMaxAge / 1000000)}")
      else some s!"includes {symbol} at its last price, {ageText age} old"
  | _ => none

/-- What `_equity_field` gives back. -/
structure EquityField where
  value : Option Decimal
  notes : List String
  approximate : Bool
  missing : List String

/-- `_equity_field`. -/
def equityField : Option DayEquity → EquityField
  | none => ⟨none, [], false, ["equity"]⟩
  | some equity =>
      { value := equity.equity
        notes := equity.holdings.filterMap holdingNote
        approximate := equity.equity.isSome && equity.holdings.any (·.2.1 = .lastKnown)
        missing :=
          (if equity.holdings.any overdue then ["equity_price_age"] else []) ++
            if equity.equity.isNone then ["equity"] else [] }

/-- `_decimal`. -/
def decimalText (value : Decimal) : List Char :=
  let (whole, fraction) := Portfolio.TodayPnl.fixedPoint value
  RawDecimal.sign (value < 0) ++ whole ++ if fraction = [] then [] else '.' :: fraction

/-- A row of the digest; of its date the start. -/
structure Day where
  start : Timestamp
  inProgress : Bool
  trades : Nat
  refusals : Nat
  reconciliationRuns : Nat
  divergences : Nat
  killSwitchEvents : Nat
  heartbeats : Nat
  restarts : Nat
  recoveredRestarts : Nat
  disconnects : Nat
  gapFills : Nat
  reconnectStorm : Bool
  review : Option String
  openIncidents : Nat
  equity : Option (List Char)
  equityApproximate : Bool
  equityNotes : List String
  missing : List String
  status : String

/-- `_day`. -/
def day (start : Timestamp) (trades refusals reconciliationRuns divergences killSwitchEvents : Nat)
    (equity : Option DayEquity) (inProgress : Bool) (heartbeats : Nat) (uptimeOk : Bool)
    (restarts recoveredRestarts disconnects gapFills : Nat) (reconnectStorm : Bool) (openIncidents : Nat) : Day :=
  let field := equityField equity
  let missing := field.missing ++ (if uptimeOk then [] else ["uptime"]) ++
    (if 0 < openIncidents then ["incidents"] else []) ++ (if reconnectStorm then ["reconnect_storm"] else [])
  { start, inProgress, trades, refusals, reconciliationRuns, divergences, killSwitchEvents, heartbeats, restarts,
    recoveredRestarts, disconnects, gapFills, reconnectStorm
    review := if reconnectStorm then some "reconnect storm" else none
    openIncidents
    equity := field.value.map decimalText
    equityApproximate := field.approximate
    equityNotes := field.notes
    missing
    status := if missing = [] then "pass" else "incomplete" }

/-! ## The read -/

structure CriterionView where
  key : String
  label : String
  status : List Char
  evidence : Option EvidenceRecord

/-- `_criterion`. -/
def criterionView (latest : Dict (List Char) EvidenceRecord) (criterion : String × String) : CriterionView :=
  let record := latest.get? criterion.1.toList
  ⟨criterion.1, criterion.2, (record.map EvidenceRecord.status).getD "incomplete".toList, record⟩

/-- What the database answered to the queries of a read. -/
structure Answers where
  trades : List (Nat × Nat)
  refusals : List (Nat × Nat)
  reconciliationRuns : List (Nat × Nat)
  divergences : List (Nat × Nat)
  killSwitchEvents : List (Nat × Nat)
  heartbeats : List (Nat × Nat)
  samples : List Timestamp
  restarts : List (Timestamp × Option String)
  disconnects : List (Nat × Nat)
  stormMoments : List Timestamp
  gapFills : List (Nat × Nat)
  incidents : List (Timestamp × Option Timestamp)
  finals : List (Nat × FinalRow)
  holdings : List HoldingRow
  evidence : List EvidenceRecord
  openIncidents : List IncidentRecord

structure Digest where
  days : List Day
  soak : List CriterionView
  readiness : List CriterionView
  openIncidents : List IncidentRecord

structure SqlAlchemySoak where
  reconnectStormThreshold : Int
  reconnectStormWindow : Duration
  bounded : 2 ≤ reconnectStormThreshold
  positive : 0 < reconnectStormWindow

/-- `read`, of what the database answered. -/
def SqlAlchemySoak.read (soak : SqlAlchemySoak) (query : TrendsQuery) (answers : Answers) : Digest :=
  let trades := dailyCounts query answers.trades
  let refusals := dailyCounts query answers.refusals
  let reconciliationRuns := dailyCounts query answers.reconciliationRuns
  let divergences := dailyCounts query answers.divergences
  let killSwitchEvents := dailyCounts query answers.killSwitchEvents
  let heartbeats := dailyCounts query answers.heartbeats
  let uptime := uptimeOk answers.samples query.since query.edges.tail query.now.1
  let (restarts, recovered) := dailyRestartCounts query answers.restarts
  let disconnects := dailyCounts query answers.disconnects
  let storms := dailyStorms soak.reconnectStormThreshold soak.reconnectStormWindow query answers.stormMoments
  let gapFills := dailyCounts query answers.gapFills
  let incidents := dailyOpenIncidents query answers.incidents
  let equity := dailyLastEquity query answers.finals answers.holdings
  let latest := latestEvidence answers.evidence
  let at_ (values : List Nat) (index : Nat) := (values[index]?).getD 0
  { days := (List.range query.buckets).map fun index =>
      day ((query.edges[index]?).getD 0) (at_ trades index) (at_ refusals index) (at_ reconciliationRuns index)
        (at_ divergences index) (at_ killSwitchEvents index) ((equity[index]?).getD none)
        (index = query.buckets - 1) (at_ heartbeats index) ((uptime[index]?).getD false) (at_ restarts index)
        (at_ recovered index) (at_ disconnects index) (at_ gapFills index) ((storms[index]?).getD false)
        (at_ incidents index)
    soak := soakCriteria.map (criterionView latest)
    readiness := readinessGates.map (criterionView latest)
    openIncidents := answers.openIncidents }

/-! ## What the database answers -/

/-- The queries of a read. -/
inductive Question where
  | trades
  | refusals
  | reconciliationRuns
  | divergences
  | killSwitchEvents
  | heartbeats
  | uptime
  | restarts
  | disconnects
  | storms
  | gapFills
  | incidents
  | finals
  | holdings
  | evidence
  | openIncidents

section Queries

variable (query : TrendsQuery)

def InRange (ts : Timestamp) : Prop := query.since ≤ ts ∧ ts < query.until_

instance (ts : Timestamp) : Decidable (InRange query ts) := inferInstanceAs (Decidable (_ ∧ _))

/-- What a count of the rows of each bucket lists. -/
def CountsOf {ρ : Type} (measure : Measure ρ) (rows : List ρ) (answer : List (Nat × Nat)) : Prop :=
  Grouped (fun row => bucketOf query.edges (measure.at_ row)) List.length (measure.selected query rows)
    (answer.map fun group => (some group.1, group.2))

/-- Of each bucket that has rows a last one. -/
structure FinalsOf (curve : List Snapshot) (answer : List (Nat × FinalRow)) : Prop where
  distinct : (answer.map Prod.fst).Nodup
  last : ∀ group ∈ answer, ∃ snapshot ∈ curve,
    group.2 = ⟨snapshot.snapshotId, snapshot.equity, snapshot.isPartial⟩ ∧
    InBucket query.edges group.1 snapshot.asOf ∧
    ∀ other ∈ curve, InBucket query.edges group.1 other.asOf → other.asOf ≤ snapshot.asOf
  every : ∀ snapshot ∈ curve, ∀ bucket, InBucket query.edges bucket snapshot.asOf → bucket ∈ answer.map Prod.fst

def holdingRows (snapshot : Snapshot) : List HoldingRow :=
  snapshot.holdings.map fun holding => ⟨snapshot.snapshotId, holding.symbol, holding.basis, holding.ageSeconds⟩

/-- The holdings of some rows, in the order that the database has for symbols. -/
structure HoldingsOf (collation : String → String → Prop) (ids : List Nat) (curve : List Snapshot)
    (answer : List HoldingRow) : Prop where
  rows : answer.Perm ((curve.filter (·.snapshotId ∈ ids)).flatMap holdingRows)
  ordered : answer.Pairwise fun a b => collation a.symbol b.symbol

/-- What the database may answer to the queries of a read, each of which sees the tables as they are then. -/
structure Answers.Of (collation : String → String → Prop) (seen : Question → Tables) (answers : Answers) : Prop where
  trades : CountsOf query SoakDigest.trades (seen .trades).fills answers.trades
  refusals : CountsOf query Trends.refusals (seen .refusals).riskDecisions answers.refusals
  reconciliationRuns :
    CountsOf query Trends.reconciliationRuns (seen .reconciliationRuns).portfolioSnapshots answers.reconciliationRuns
  divergences : CountsOf query Trends.discrepancies (seen .divergences).discrepancies answers.divergences
  killSwitchEvents :
    CountsOf query (eventsOf killSwitchEvent) (seen .killSwitchEvents).systemEvents answers.killSwitchEvents
  heartbeats : CountsOf query (eventsOf heartbeatEvent) (seen .heartbeats).systemEvents answers.heartbeats
  samples : answers.samples.Perm (((seen .uptime).moments heartbeatEvent).filter (InRange query))
  restarts : answers.restarts.Perm ((((seen .restarts).systemEvents.filter fun row =>
    row.eventType = restartEvent ∧ InRange query row.createdAt)).map fun row => (row.createdAt, row.kind))
  disconnects : CountsOf query (eventsOf disconnectEvent) (seen .disconnects).systemEvents answers.disconnects
  stormMoments : answers.stormMoments.Perm (((seen .storms).moments disconnectEvent).filter (InRange query))
  gapFills : CountsOf query (eventsOf gapFillEvent) (seen .gapFills).systemEvents answers.gapFills
  incidents : answers.incidents.Perm ((((seen .incidents).records.incidents.filter fun record =>
    record.openedAt < query.until_)).map fun record => (record.openedAt, record.closedAt))
  finals : FinalsOf query (seen .finals).curve answers.finals
  holdings :
    HoldingsOf collation (answers.finals.map (·.2.snapshotId)) (seen .holdings).curve answers.holdings
  evidence : answers.evidence.Perm ((seen .evidence).records.evidence.filter fun record =>
    Among (criteria.map Prod.fst) record.criterion)
  evidenceOrder : answers.evidence.Pairwise fun a b => a.criterion = b.criterion → a.recordedAt ≤ b.recordedAt
  openIncidents : answers.openIncidents.Perm ((seen .openIncidents).records.incidents.filter (·.closedAt.isNone))
  openOrder : answers.openIncidents.Pairwise fun a b => a.openedAt ≤ b.openedAt

end Queries

/-! ## Day by day -/

/-- A day of the range. -/
structure Bounds (query : TrendsQuery) (index : Nat) (start stop : Timestamp) : Prop where
  edged : Edged query.edges
  starts : query.edges[index]? = some start
  stops : query.edges[index + 1]? = some stop

section Fill

variable {α : Type} {answer : List (Nat × α)} {values : List α} {index : Nat}

theorem fillIn_absent (absent : index ∉ answer.map Prod.fst) : (fillIn answer values)[index]? = values[index]? := by
  unfold fillIn
  induction answer generalizing values with
  | nil => rfl
  | cons row answer ih =>
    rw [List.map_cons, List.mem_cons, not_or] at absent
    rw [List.foldl_cons, ih absent.2, List.getElem?_set_ne (Ne.symm absent.1)]

theorem fillIn_present {value : α} (distinct : (answer.map Prod.fst).Nodup) (member : (index, value) ∈ answer)
    (inside : index < values.length) : (fillIn answer values)[index]? = some value := by
  induction answer generalizing values with
  | nil => cases member
  | cons row answer ih =>
    obtain ⟨alone, rest⟩ := List.nodup_cons.1 distinct
    change (fillIn answer (values.set row.1 row.2))[index]? = some value
    rcases List.mem_cons.1 member with rfl | member
    · rw [fillIn_absent alone, List.getElem?_set_self inside]
    · exact ih rest member (by rwa [List.length_set])

end Fill

section Days

variable {query : TrendsQuery} {index : Nat} {start stop : Timestamp}

theorem Bounds.inside (bounds : Bounds query index start stop) : index < query.buckets := by
  obtain ⟨inside, _⟩ := List.getElem?_eq_some_iff.1 bounds.stops
  unfold TrendsQuery.buckets
  omega

theorem Bounds.inBucket (bounds : Bounds query index start stop) (ts : Timestamp) :
    InBucket query.edges index ts ↔ start ≤ ts ∧ ts < stop := by
  simp [InBucket, bounds.starts, bounds.stops]

/-- What lies in the day lies in the range. -/
theorem Bounds.inRange (bounds : Bounds query index start stop) {ts : Timestamp} (since : start ≤ ts)
    (before : ts < stop) : InRange query ts :=
  ((bounds.inBucket ts).2 ⟨since, before⟩).bounds bounds.edged.ascending (bounds.edged.head 0) (bounds.edged.last 0)

theorem Bounds.edges_eq (bounds : Bounds query index start stop) : query.since :: query.edges.tail = query.edges := by
  have head := bounds.edged.head 0
  unfold TrendsQuery.since
  cases is : query.edges with
  | nil =>
    rw [is] at head
    cases head
  | cons first rest => rfl

/-- The rows of a day. -/
def countIn {ρ : Type} (measure : Measure ρ) (start stop : Timestamp) (rows : List ρ) : Nat :=
  rows.countP fun row => start ≤ measure.at_ row ∧ measure.at_ row < stop ∧ measure.keeps row

theorem dailyCounts_of (bounds : Bounds query index start stop) {ρ : Type} {measure : Measure ρ} {rows : List ρ}
    {answer : List (Nat × Nat)} (counts : CountsOf query measure rows answer) :
    (dailyCounts query answer)[index]? = some (countIn measure start stop rows) := by
  have inside : index < (List.replicate query.buckets 0).length := by
    rw [List.length_replicate]
    exact bounds.inside
  have distinct : (answer.map Prod.fst).Nodup := by
    have keys := counts.nodup
    rw [List.map_map] at keys
    exact List.Nodup.of_map some (by rwa [List.map_map])
  have place : ∀ row ∈ measure.selected query rows, bucketOf query.edges (measure.at_ row) = some index ↔
      start ≤ measure.at_ row ∧ measure.at_ row < stop := fun row selected =>
    (bucket_iff bounds.edged selected).trans (bounds.inBucket _)
  have under : (rowsUnder (fun row => bucketOf query.edges (measure.at_ row)) (measure.selected query rows)
      (some index)).length = countIn measure start stop rows := by
    unfold rowsUnder countIn
    rw [← List.countP_eq_length_filter, Measure.selected, List.countP_filter]
    refine List.countP_congr fun row member => ?_
    simp only [Bool.and_eq_true, decide_eq_true_eq]
    constructor
    · rintro ⟨found, since, before, keeps⟩
      have within := (place row (mem_selected.2 ⟨member, since, before, keeps⟩)).1 found
      exact ⟨within.1, within.2, keeps⟩
    · rintro ⟨since, before, keeps⟩
      obtain ⟨lower, upper⟩ := bounds.inRange since before
      exact ⟨(place row (mem_selected.2 ⟨member, lower, upper, keeps⟩)).2 ⟨since, before⟩, lower, upper, keeps⟩
  unfold dailyCounts
  by_cases some_ : ∃ row ∈ measure.selected query rows, bucketOf query.edges (measure.at_ row) = some index
  · have listed := counts.mem.2 ⟨some_, rfl⟩
    rw [under] at listed
    obtain ⟨group, member, is⟩ := List.mem_map.1 listed
    obtain ⟨first, second⟩ := Prod.mk.inj is
    refine fillIn_present distinct ?_ inside
    rwa [← second, ← Option.some.inj first]
  · rw [fillIn_absent, List.getElem?_replicate_of_lt bounds.inside, ← under]
    · have none_ : rowsUnder (fun row => bucketOf query.edges (measure.at_ row)) (measure.selected query rows)
          (some index) = [] := by
        refine List.filter_eq_nil_iff.2 fun row selected found => some_ ⟨row, selected, ?_⟩
        simpa using found
      rw [none_, List.length_nil]
    · intro member
      obtain ⟨group, there, rfl⟩ := List.mem_map.1 member
      have listed : (some group.1, group.2) ∈ answer.map fun group => (some group.1, group.2) :=
        List.mem_map_of_mem there
      exact some_ (counts.mem.1 listed).1

theorem Bounds.dayOf_iff (bounds : Bounds query index start stop) (ts : Timestamp) :
    dayOf query.edges ts = some index ↔ start ≤ ts ∧ ts < stop := by
  have sorted := List.pairwise_iff_getElem.1 bounds.edged.ascending
  obtain ⟨within, rfl⟩ := List.getElem?_eq_some_iff.1 bounds.starts
  obtain ⟨inside, rfl⟩ := List.getElem?_eq_some_iff.1 bounds.stops
  have length : (query.edges.zip query.edges.tail).length = query.edges.length - 1 := by
    rw [List.length_zip, List.length_tail]
    omega
  unfold dayOf
  rw [List.findIdx?_eq_some_iff_getElem]
  simp only [List.getElem_zip, List.getElem_tail, Bool.and_eq_true, decide_eq_true_eq]
  constructor
  · rintro ⟨_, here, _⟩
    exact here
  · intro here
    refine ⟨by omega, here, fun earlier sooner found => ?_⟩
    -- The end of an earlier day is no later than the start of this one.
    have next_ : earlier + 1 < query.edges.length := by omega
    have upTo : query.edges[earlier + 1] ≤ query.edges[index] := by
      rcases Nat.lt_or_ge (earlier + 1) index with apart | next
      · exact (sorted (earlier + 1) index _ _ apart).le
      · have same : index = earlier + 1 := by omega
        subst same
        exact le_refl _
    exact absurd (found.2.trans_le upTo) (not_lt.2 here.1)

theorem countRestarts_get (edges : List Timestamp) (rows : List (Timestamp × Option String))
    (counts : List Nat × List Nat) (index : Nat) :
    (rows.foldl (countRestart edges) counts).1[index]? =
        counts.1[index]?.map (· + rows.countP fun row => dayOf edges row.1 = some index) ∧
      (rows.foldl (countRestart edges) counts).2[index]? =
        counts.2[index]?.map
          (· + rows.countP fun row => dayOf edges row.1 = some index ∧ row.2 = some "recovered") := by
  induction rows generalizing counts with
  | nil => simp
  | cons row rows ih =>
    rw [List.foldl_cons, (ih _).1, (ih _).2, List.countP_cons, List.countP_cons]
    unfold countRestart
    cases found : dayOf edges row.1 with
    | none => simp
    | some place =>
      by_cases same : place = index
      · subst same
        by_cases recovered : row.2 = some "recovered"
        · simp [recovered, List.getElem?_modify_eq, Function.comp_def, Nat.add_assoc, Nat.add_comm 1]
        · simp [recovered, List.getElem?_modify_eq, Function.comp_def, Nat.add_assoc, Nat.add_comm 1]
      · by_cases recovered : row.2 = some "recovered"
        · simp [recovered, same, List.getElem?_modify_ne]
        · simp [recovered, same, List.getElem?_modify_ne]

theorem dailyRestartCounts_of (bounds : Bounds query index start stop) {events : List SystemEventRecord}
    {rows : List (Timestamp × Option String)}
    (answer : rows.Perm ((events.filter fun row => row.eventType = restartEvent ∧ InRange query row.createdAt).map
      fun row => (row.createdAt, row.kind))) :
    (dailyRestartCounts query rows).1[index]? = some (countIn (eventsOf restartEvent) start stop events) ∧
      (dailyRestartCounts query rows).2[index]? = some (countIn recoveries start stop events) := by
  have zero : (List.replicate query.buckets 0)[index]? = some 0 := List.getElem?_replicate_of_lt bounds.inside
  obtain ⟨total, recovered⟩ :=
    countRestarts_get query.edges rows (List.replicate query.buckets 0, List.replicate query.buckets 0) index
  unfold dailyRestartCounts
  rw [total, recovered, zero, Option.map_some, Option.map_some, Nat.zero_add, Nat.zero_add, answer.countP_eq,
    answer.countP_eq, List.countP_map, List.countP_map, List.countP_filter, List.countP_filter]
  refine ⟨congrArg some (List.countP_congr fun row _ => ?_), congrArg some (List.countP_congr fun row _ => ?_)⟩
  · simp only [Function.comp_apply, Bool.and_eq_true, decide_eq_true_eq, bounds.dayOf_iff, eventsOf]
    constructor
    · rintro ⟨⟨since, before⟩, restart, _⟩
      exact ⟨since, before, restart⟩
    · rintro ⟨since, before, restart⟩
      exact ⟨⟨since, before⟩, restart, bounds.inRange since before⟩
  · simp only [Function.comp_apply, Bool.and_eq_true, decide_eq_true_eq, bounds.dayOf_iff, recoveries]
    constructor
    · rintro ⟨⟨⟨since, before⟩, recovered⟩, restart, _⟩
      exact ⟨since, before, restart, recovered⟩
    · rintro ⟨since, before, restart, recovered⟩
      exact ⟨⟨⟨since, before⟩, recovered⟩, restart, bounds.inRange since before⟩

/-- Every interval of the day has a sample. -/
def Sampled (start stop : Timestamp) (heartbeats : List Timestamp) : Prop :=
  ∀ hour < expectedIntervals start stop, ∃ ts ∈ heartbeats,
    start ≤ ts ∧ ts < stop ∧ (ts - start) / heartbeatInterval = hour

theorem Bounds.tail (bounds : Bounds query index start stop) : query.edges.tail[index]? = some stop := by
  rw [List.getElem?_tail]
  exact bounds.stops

theorem Bounds.ordered (bounds : Bounds query index start stop) :
    (query.since :: query.edges.tail).Pairwise (· ≤ ·) := by
  rw [bounds.edges_eq]
  exact bounds.edged.ascending.imp le_of_lt

theorem uptime_of (bounds : Bounds query index start stop) (over_ : stop ≤ query.now.1)
    {heartbeats samples : List Timestamp}
    (answer : samples.Perm (heartbeats.filter (InRange query))) :
    ∃ ok, (uptimeOk samples query.since query.edges.tail query.now.1)[index]? = some ok ∧
      (ok = true ↔ Sampled start stop heartbeats) := by
  have starts : (query.since :: query.edges.tail)[index]? = some start := by
    rw [bounds.edges_eq]
    exact bounds.starts
  refine ⟨_, uptimeOk_day starts bounds.tail, ?_⟩
  have complete : (uptimeOk samples query.since query.edges.tail query.now.1)[index]? = some true ↔ _ :=
    complete_iff bounds.ordered starts bounds.tail
  rw [uptimeOk_day starts bounds.tail, Option.some.injEq, min_eq_left over_] at complete
  rw [complete]
  refine forall₂_congr fun hour _ => exists_congr fun ts => ?_
  rw [answer.mem_iff, List.mem_filter, decide_eq_true_eq]
  constructor
  · rintro ⟨⟨member, _⟩, within⟩
    exact ⟨member, within⟩
  · rintro ⟨member, since, before, index⟩
    exact ⟨⟨member, bounds.inRange since before⟩, since, before, index⟩

/-- At some disconnect of the day, so many lie in the window that ends with it, not counting what came before the
range. -/
def Stormy (threshold : Int) (window : Duration) (first start stop : Timestamp) (disconnects : List Timestamp) : Prop :=
  ∃ at_ ∈ disconnects, start ≤ at_ ∧ at_ < stop ∧
    threshold ≤ (disconnects.countP fun other => first ≤ other ∧ at_ - window ≤ other ∧ other ≤ at_ : Nat)

/-- In order, those up to the last one of a time are those no later. -/
theorem countP_upTo {moments before after_ : List Timestamp} {at_ : Timestamp} (sorted : moments.Pairwise (· ≤ ·))
    (split : moments = before ++ at_ :: after_) (window : Duration) (some_ : 0 < window) :
    heldAt window before at_ ≤ moments.countP (fun other => at_ - window ≤ other ∧ other ≤ at_) ∧
      (at_ ∉ after_ → moments.countP (fun other => at_ - window ≤ other ∧ other ≤ at_) = heldAt window before at_) := by
  subst split
  obtain ⟨_, behind, upTo⟩ := List.pairwise_append.1 sorted
  have front : before.countP (fun other => at_ - window ≤ other ∧ other ≤ at_) =
      (before.filter (at_ - window ≤ ·)).length := by
    rw [← List.countP_eq_length_filter]
    refine List.countP_congr fun other member => ?_
    simp [upTo other member at_ (List.mem_cons_self ..)]
  have here : (at_ :: after_).countP (fun other => at_ - window ≤ other ∧ other ≤ at_) =
      after_.countP (fun other => at_ - window ≤ other ∧ other ≤ at_) + 1 :=
    List.countP_cons_of_pos (decide_eq_true ⟨(sub_le_self_iff at_).2 some_.le, le_refl _⟩)
  rw [List.countP_append, here, front]
  unfold heldAt
  refine ⟨by omega, fun last => ?_⟩
  have none_ : after_.countP (fun other => at_ - window ≤ other ∧ other ≤ at_) = 0 := by
    refine List.countP_eq_zero.2 fun other member found => ?_
    simp only [decide_eq_true_eq] at found
    have later := (List.pairwise_cons.1 behind).1 other member
    exact last (le_antisymm found.2 later ▸ member)
  omega

theorem Bounds.getLast_eq (bounds : Bounds query index start stop) :
    (query.since :: query.edges.tail).getLast (List.cons_ne_nil _ _) = query.until_ := by
  have last : ∀ (edges : List Timestamp) (some_ : edges ≠ []), edges = query.edges →
      edges.getLast some_ = query.until_ := by
    rintro _ some_ rfl
    rw [TrendsQuery.until_, List.getLast?_eq_some_getLast some_, Option.getD_some]
  exact last _ _ bounds.edges_eq

/-- The disconnects of the range, in order. -/
theorem inRange_perm (bounds : Bounds query index start stop) {disconnects moments : List Timestamp}
    (answer : moments.Perm (disconnects.filter (InRange query))) :
    (inRange moments query.since ((query.since :: query.edges.tail).getLast (List.cons_ne_nil _ _))).Perm
      (disconnects.filter (InRange query)) := by
  rw [bounds.getLast_eq]
  refine (List.perm_insertionSort _ _).trans ((answer.filter _).trans ?_)
  have same : ((disconnects.filter (InRange query)).filter fun row => query.since ≤ row ∧ row < query.until_) =
      disconnects.filter (InRange query) := List.filter_eq_self.2 fun row member => (List.mem_filter.1 member).2
  rw [same]

theorem storms_of (bounds : Bounds query index start stop) {threshold : Int} {window : Duration} (positive : 0 < window)
    {disconnects moments : List Timestamp} (answer : moments.Perm (disconnects.filter (InRange query))) :
    (dailyStorms threshold window query moments)[index]? = some true ↔
      Stormy threshold window query.since start stop disconnects := by
  obtain ⟨inside, _⟩ := List.getElem?_eq_some_iff.1 bounds.tail
  have perm := inRange_perm bounds answer
  have sorted : (inRange moments query.since ((query.since :: query.edges.tail).getLast
      (List.cons_ne_nil _ _))).Pairwise (· ≤ ·) := List.pairwise_insertionSort (· ≤ ·) _
  unfold dailyStorms dailyReconnectStorms
  dsimp only
  generalize inRange moments query.since ((query.since :: query.edges.tail).getLast (List.cons_ne_nil _ _)) = read
    at perm sorted ⊢
  have within : ∀ ts ∈ read, ts ∈ disconnects ∧ query.since ≤ ts ∧ ts < query.until_ := by
    intro ts member
    obtain ⟨there, range⟩ := List.mem_filter.1 (perm.mem_iff.1 member)
    exact ⟨there, of_decide_eq_true range⟩
  -- The window that ends in the day holds what the table has of it.
  have counted : ∀ at_, at_ < stop → start ≤ at_ →
      read.countP (fun other => at_ - window ≤ other ∧ other ≤ at_) =
        disconnects.countP fun other => query.since ≤ other ∧ at_ - window ≤ other ∧ other ≤ at_ := by
    intro at_ before since
    rw [perm.countP_eq, List.countP_filter]
    refine List.countP_congr fun other _ => ?_
    simp only [Bool.and_eq_true, decide_eq_true_eq]
    constructor
    · rintro ⟨held, range⟩
      exact ⟨range.1, held⟩
    · rintro ⟨first, held⟩
      exact ⟨held, first, held.2.trans_lt (bounds.inRange since before).2⟩
  have place : ∀ ts ∈ read, dayIndex query.edges.tail ts = some index ↔ start ≤ ts ∧ ts < stop := by
    intro ts member
    rw [dayIndex_iff bounds.ordered (within ts member).2.1, InDay, bounds.edges_eq]
    simp [bounds.starts, bounds.tail]
  rw [counted_storms sorted (.none window query.since) (fun ts member => (within ts member).2.1)
    (by simpa using inside)]
  have fresh : (List.replicate query.edges.tail.length false)[index]? ≠ some true := by
    rw [List.getElem?_replicate_of_lt inside]
    exact fun is => Bool.false_ne_true (Option.some.inj is)
  rw [or_iff_right fresh]
  constructor
  · rintro ⟨⟨at_, held⟩, member, enough, found⟩
    obtain ⟨before, after_, split, rfl⟩ := mem_heldTrace.1 member
    have here : at_ ∈ read := by
      rw [split]
      exact List.mem_append_right _ (List.mem_cons_self ..)
    obtain ⟨since, upTo⟩ := (place at_ here).1 found
    refine ⟨at_, (within at_ here).1, since, upTo, ?_⟩
    rw [← counted at_ upTo since]
    exact enough.trans (Int.ofNat_le.2 (countP_upTo sorted split window positive).1)
  · rintro ⟨at_, member, since, upTo, enough⟩
    have here : at_ ∈ read :=
      perm.mem_iff.2 (List.mem_filter.2 ⟨member, decide_eq_true (bounds.inRange since upTo)⟩)
    -- The last of those at that time.
    obtain ⟨after_, before, reversed, last⟩ := List.eq_append_cons_of_mem (List.mem_reverse.2 here)
    have split : read = before.reverse ++ at_ :: after_.reverse := by
      have both := congrArg List.reverse reversed
      rw [List.reverse_reverse] at both
      rw [both]
      simp
    refine ⟨(at_, heldAt window before.reverse at_), mem_heldTrace.2 ⟨_, _, split, rfl⟩, ?_,
      (place at_ here).2 ⟨since, upTo⟩⟩
    rw [← (countP_upTo sorted split window positive).2 (fun later => last (List.mem_reverse.1 later)),
      counted at_ upTo since]
    exact enough

theorem incidents_of (bounds : Bounds query index start stop) {incidents : List IncidentRecord}
    {rows : List (Timestamp × Option Timestamp)}
    (answer : rows.Perm ((incidents.filter fun record => record.openedAt < query.until_).map fun record =>
      (record.openedAt, record.closedAt))) :
    (dailyOpenIncidents query rows)[index]? =
      some (incidents.countP fun record => openAt stop (record.openedAt, record.closedAt)) := by
  unfold dailyOpenIncidents
  rw [List.getElem?_map, bounds.tail, Option.map_some, answer.countP_eq, List.countP_map, List.countP_filter]
  refine congrArg some (List.countP_congr fun record _ => ?_)
  simp only [Function.comp_apply, Bool.and_eq_true, decide_eq_true_eq]
  refine and_iff_left_of_imp fun open_ => ?_
  rw [openAt, Bool.and_eq_true, decide_eq_true_eq] at open_
  have last : stop ≤ query.until_ := by
    rw [← bounds.getLast_eq]
    exact bounds.ordered.rel_getLast (List.mem_cons_of_mem _ (List.mem_of_getElem? bounds.tail))
  exact open_.1.trans_le last

/-- In the day. -/
def During (start stop : Timestamp) (snapshot : Snapshot) : Prop := start ≤ snapshot.asOf ∧ snapshot.asOf < stop

/-- The columns of a holding that the digest shows. -/
def shownHolding (holding : Portfolio.ValuedHolding) : String × Basis × Option Int :=
  (holding.symbol, holding.basis, holding.ageSeconds)

/-- The last row of the day, with its holdings in order; or there is none. -/
def EquityOf (collation : String → String → Prop) (start stop : Timestamp) (curve : List Snapshot) :
    Option DayEquity → Prop
  | none => ∀ snapshot ∈ curve, ¬ During start stop snapshot
  | some equity => ∃ snapshot ∈ curve, During start stop snapshot ∧
      (∀ other ∈ curve, During start stop other → other.asOf ≤ snapshot.asOf) ∧
      equity.equity = snapshot.equity ∧ equity.isPartial = snapshot.isPartial ∧
      equity.holdings.Perm (snapshot.holdings.map shownHolding) ∧
      equity.holdings.Pairwise fun a b => collation a.1 b.1

/-- The rows of one of several snapshots. -/
theorem holdingRows_of {snapshot : Snapshot} {curve : List Snapshot} (distinct : (curve.map Snapshot.snapshotId).Nodup)
    (member : snapshot ∈ curve) :
    (curve.flatMap holdingRows).filter (·.snapshotId = snapshot.snapshotId) = holdingRows snapshot := by
  have all : ∀ snapshot : Snapshot, (holdingRows snapshot).filter (·.snapshotId = snapshot.snapshotId) =
      holdingRows snapshot := fun snapshot => List.filter_eq_self.2 fun row there => by
    obtain ⟨_, _, rfl⟩ := List.mem_map.1 there
    exact decide_eq_true rfl
  have none_ : ∀ other : Snapshot, other.snapshotId ≠ snapshot.snapshotId →
      (holdingRows other).filter (·.snapshotId = snapshot.snapshotId) = [] := fun other apart =>
    List.filter_eq_nil_iff.2 fun row there => by
      obtain ⟨_, _, rfl⟩ := List.mem_map.1 there
      simpa using apart
  induction curve with
  | nil => cases member
  | cons first rest ih =>
    obtain ⟨alone, distinct⟩ := List.nodup_cons.1 distinct
    rw [List.flatMap_cons, List.filter_append]
    rcases List.mem_cons.1 member with rfl | member
    · have behind : (rest.flatMap holdingRows).filter (·.snapshotId = snapshot.snapshotId) = [] := by
        refine List.filter_eq_nil_iff.2 fun row there => ?_
        obtain ⟨other, inside, there⟩ := List.mem_flatMap.1 there
        obtain ⟨_, _, rfl⟩ := List.mem_map.1 there
        have apart : other.snapshotId ≠ snapshot.snapshotId := fun same => alone (same ▸ List.mem_map_of_mem inside)
        simpa using apart
      rw [all, behind, List.append_nil]
    · have apart : first.snapshotId ≠ snapshot.snapshotId := fun same => alone (same ▸ List.mem_map_of_mem member)
      rw [none_ first apart, List.nil_append, ih distinct member]

theorem equity_of (bounds : Bounds query index start stop) {collation : String → String → Prop}
    {curve later : List Snapshot} {finals : List (Nat × FinalRow)} {held : List HoldingRow}
    (last : FinalsOf query curve finals) (holdings : HoldingsOf collation (finals.map (·.2.snapshotId)) later held)
    (distinct : (later.map Snapshot.snapshotId).Nodup)
    (kept : ∀ snapshot ∈ curve, snapshot.asOf < stop → snapshot ∈ later) :
    ∃ equity, (dailyLastEquity query finals held)[index]? = some equity ∧
      EquityOf collation start stop curve equity := by
  have day : ∀ snapshot : Snapshot, InBucket query.edges index snapshot.asOf ↔ During start stop snapshot :=
    fun snapshot => bounds.inBucket snapshot.asOf
  have inside : index < (List.replicate query.buckets (none : Option DayEquity)).length := by
    rw [List.length_replicate]
    exact bounds.inside
  unfold dailyLastEquity
  dsimp only
  by_cases listed : index ∈ finals.map Prod.fst
  · obtain ⟨⟨_, row⟩, member, rfl⟩ := List.mem_map.1 listed
    obtain ⟨snapshot, there, rfl, within, newest⟩ := last.last _ member
    have during := (day snapshot).1 within
    have here : snapshot ∈ later := kept snapshot there during.2
    refine ⟨_, fillIn_present ?_ (List.mem_map_of_mem member) inside, snapshot, there, during, ?_, rfl, rfl, ?_, ?_⟩
    · rw [List.map_map]
      exact last.distinct
    · exact fun other there' during' => newest other there' ((day other).2 during')
    · rw [Dict.getD_groups]
      have chosen : snapshot ∈ later.filter (·.snapshotId ∈ finals.map (·.2.snapshotId)) :=
        List.mem_filter.2 ⟨here, decide_eq_true (List.mem_map.2 ⟨_, member, rfl⟩)⟩
      have rows := (holdings.rows.filter (·.snapshotId = snapshot.snapshotId)).map
        fun row => (row.symbol, row.basis, row.priceAgeSeconds)
      rw [holdingRows_of (distinct.sublist (List.filter_sublist.map _)) chosen, holdingRows, List.map_map] at rows
      exact rows
    · rw [Dict.getD_groups]
      exact List.pairwise_map.2 (holdings.ordered.filter _)
  · refine ⟨none, ?_, fun snapshot there during => ?_⟩
    · rw [fillIn_absent, List.getElem?_replicate_of_lt bounds.inside]
      rw [List.map_map]
      exact listed
    · exact listed (last.every snapshot there index ((day snapshot).2 during))

/-- The rows of the day are told apart by their times, and their holdings by their symbols. -/
structure Separate (start stop : Timestamp) (curve : List Snapshot) : Prop where
  times : ∀ snapshot ∈ curve, ∀ other ∈ curve, During start stop snapshot → During start stop other →
    snapshot.asOf = other.asOf → snapshot = other
  symbols : ∀ snapshot ∈ curve, During start stop snapshot →
    (snapshot.holdings.map Portfolio.ValuedHolding.symbol).Nodup

theorem EquityOf.unique {collation : String → String → Prop} (antisymm : ∀ a b, collation a b → collation b a → a = b)
    {curve : List Snapshot} (separate : Separate start stop curve) {equity equity' : Option DayEquity}
    (first : EquityOf collation start stop curve equity) (second : EquityOf collation start stop curve equity') :
    equity = equity' := by
  cases equity with
  | none =>
    cases equity' with
    | none => rfl
    | some _ =>
      obtain ⟨snapshot, member, during, _⟩ := second
      exact absurd during (first snapshot member)
  | some equity =>
    cases equity' with
    | none =>
      obtain ⟨snapshot, member, during, _⟩ := first
      exact absurd during (second snapshot member)
    | some equity' =>
      obtain ⟨snapshot, member, during, newest, value, whole, holdings, ordered⟩ := first
      obtain ⟨other, member', during', newest', value', whole', holdings', ordered'⟩ := second
      obtain rfl : snapshot = other := separate.times snapshot member other member' during during'
        (le_antisymm (newest' snapshot member during) (newest other member' during'))
      have symbols := separate.symbols snapshot member during
      have names : (equity.holdings.map Prod.fst).Nodup := by
        have same := holdings.map Prod.fst
        rw [List.map_map] at same
        exact same.nodup_iff.2 symbols
      have same : equity.holdings = equity'.holdings := by
        refine (holdings.trans holdings'.symm).eq_of_pairwise (fun a b inside inside' below above => ?_)
          ordered ordered'
        exact List.inj_on_of_nodup_map names inside ((holdings.trans holdings'.symm).mem_iff.2 inside')
          (antisymm _ _ below above)
      exact congrArg some (DayEquity.ext (value.trans value'.symm) (whole.trans whole'.symm) same)

end Days

/-! ## What is written afterwards -/

/-- A row that some part of the service writes, or a request of an administrator. -/
inductive Write where
  | fill (occurredAt : Timestamp)
  | decision (row : RiskDecisionRecord)
  | portfolioSnapshot (row : PortfolioSnapshotRecord)
  | discrepancy (row : DiscrepancyRecord)
  | event (row : SystemEventRecord)
  | snapshot (row : Snapshot)
  | request (turn : Turn)

namespace Write

/-- The time that a write puts on its row. -/
def stamp : Write → Timestamp
  | fill occurredAt => occurredAt
  | decision row => row.decidedAt
  | portfolioSnapshot row => row.recordedAt
  | discrepancy row => row.createdAt
  | event row => row.createdAt
  | snapshot row => row.asOf
  | request turn => turn.now

/-- What a write leaves; a snapshot whose identifier is taken raises. -/
def apply (words : Redaction.Words) : Write → Tables → Tables
  | fill occurredAt, tables => { tables with fills := tables.fills ++ [occurredAt] }
  | decision row, tables => { tables with riskDecisions := tables.riskDecisions ++ [row] }
  | portfolioSnapshot row, tables => { tables with portfolioSnapshots := tables.portfolioSnapshots ++ [row] }
  | discrepancy row, tables => { tables with discrepancies := tables.discrepancies ++ [row] }
  | event row, tables => { tables with systemEvents := tables.systemEvents ++ [row] }
  | snapshot row, tables =>
      if row.snapshotId ∈ tables.curve.map Snapshot.snapshotId then tables
      else { tables with curve := tables.curve ++ [row] }
  | request turn, tables => { tables with records := (serve words turn tables.records).2 }

end Write

def writeAll (words : Redaction.Words) (writes : List Write) (tables : Tables) : Tables :=
  writes.foldl (fun tables write => write.apply words tables) tables

/-- What the primary keys of the tables see to, and what the forms do. -/
structure Sound (words : Redaction.Words) (tables : Tables) : Prop where
  documented : Documented words tables.records
  snapshotIds : (tables.curve.map Snapshot.snapshotId).Nodup

/-- Rows were only added, and none of a time before this one. -/
def Appended {ρ : Type} (at_ : ρ → Timestamp) (stop : Timestamp) (rows rows' : List ρ) : Prop :=
  ∃ new, rows' = rows ++ new ∧ ∀ row ∈ new, stop ≤ at_ row

/-- The incidents that were open at a time. -/
def openCount (edge : Timestamp) (incidents : List IncidentRecord) : Nat :=
  incidents.countP fun record => openAt edge (record.openedAt, record.closedAt)

/-- What later writes leave of the tables. -/
structure Grown (stop : Timestamp) (before after_ : Tables) : Prop where
  fills : Appended id stop before.fills after_.fills
  decisions : Appended RiskDecisionRecord.decidedAt stop before.riskDecisions after_.riskDecisions
  portfolioSnapshots :
    Appended PortfolioSnapshotRecord.recordedAt stop before.portfolioSnapshots after_.portfolioSnapshots
  discrepancies : Appended DiscrepancyRecord.createdAt stop before.discrepancies after_.discrepancies
  events : Appended SystemEventRecord.createdAt stop before.systemEvents after_.systemEvents
  curve : Appended Snapshot.asOf stop before.curve after_.curve
  incidents : openCount stop after_.records.incidents = openCount stop before.records.incidents

section Appending

variable {ρ : Type} {at_ : ρ → Timestamp} {stop : Timestamp} {rows rows' rows'' : List ρ}

theorem Appended.refl : Appended at_ stop rows rows :=
  ⟨[], (List.append_nil _).symm, fun _ member => absurd member List.not_mem_nil⟩

theorem Appended.single {row : ρ} (late : stop ≤ at_ row) : Appended at_ stop rows (rows ++ [row]) :=
  ⟨[row], rfl, fun _ member => List.mem_singleton.1 member ▸ late⟩

theorem Appended.trans (first : Appended at_ stop rows rows') (second : Appended at_ stop rows' rows'') :
    Appended at_ stop rows rows'' := by
  obtain ⟨new, rfl, late⟩ := first
  obtain ⟨new', rfl, late'⟩ := second
  refine ⟨new ++ new', List.append_assoc .., fun row member => ?_⟩
  rcases List.mem_append.1 member with member | member
  · exact late row member
  · exact late' row member

/-- What is before the time was there. -/
theorem Appended.mem_iff (appended : Appended at_ stop rows rows') {row : ρ} (before : at_ row < stop) :
    row ∈ rows' ↔ row ∈ rows := by
  obtain ⟨new, rfl, late⟩ := appended
  rw [List.mem_append]
  exact or_iff_left fun member => absurd before (not_lt.2 (late row member))

theorem Appended.countP_eq (appended : Appended at_ stop rows rows') {holds : ρ → Bool}
    (before : ∀ row, holds row = true → at_ row < stop) : rows'.countP holds = rows.countP holds := by
  obtain ⟨new, rfl, late⟩ := appended
  rw [List.countP_append, List.countP_eq_zero.2 fun row member found =>
    absurd (before row found) (not_lt.2 (late row member)), Nat.add_zero]

theorem Appended.countIn_eq (measure : Measure ρ) (appended : Appended measure.at_ stop rows rows')
    (start : Timestamp) : countIn measure start stop rows' = countIn measure start stop rows :=
  appended.countP_eq fun _ found => (of_decide_eq_true found).2.1

theorem Appended.moments {tables tables' : Tables}
    (events : Appended SystemEventRecord.createdAt stop tables.systemEvents tables'.systemEvents) (eventType : String) :
    Appended id stop (tables.moments eventType) (tables'.moments eventType) := by
  obtain ⟨new, is, late⟩ := events
  refine ⟨(new.filter (·.eventType = eventType)).map SystemEventRecord.createdAt, ?_, ?_⟩
  · unfold Tables.moments
    rw [is, List.filter_append, List.map_append]
  · intro ts member
    obtain ⟨row, there, rfl⟩ := List.mem_map.1 member
    exact late row (List.mem_filter.1 there).1

theorem Appended.sampled {moments moments' : List Timestamp} (appended : Appended id stop moments moments')
    (start : Timestamp) : Sampled start stop moments' ↔ Sampled start stop moments := by
  refine forall₂_congr fun hour _ => exists_congr fun ts => ?_
  constructor
  · rintro ⟨member, since, before, index⟩
    exact ⟨(appended.mem_iff before).1 member, since, before, index⟩
  · rintro ⟨member, since, before, index⟩
    exact ⟨(appended.mem_iff before).2 member, since, before, index⟩

theorem Appended.stormy {moments moments' : List Timestamp} (appended : Appended id stop moments moments')
    (threshold : Int) (window : Duration) (first start : Timestamp) :
    Stormy threshold window first start stop moments' ↔ Stormy threshold window first start stop moments := by
  have same : ∀ at_, at_ < stop →
      moments'.countP (fun other => first ≤ other ∧ at_ - window ≤ other ∧ other ≤ at_) =
        moments.countP fun other => first ≤ other ∧ at_ - window ≤ other ∧ other ≤ at_ := fun at_ before =>
    appended.countP_eq fun _ found => (of_decide_eq_true found).2.2.trans_lt before
  refine exists_congr fun at_ => ?_
  constructor
  · rintro ⟨member, since, before, enough⟩
    exact ⟨(appended.mem_iff before).1 member, since, before, same at_ before ▸ enough⟩
  · rintro ⟨member, since, before, enough⟩
    exact ⟨(appended.mem_iff before).2 member, since, before, (same at_ before).symm ▸ enough⟩

theorem Appended.equityOf {curve curve' : List Snapshot} (appended : Appended Snapshot.asOf stop curve curve')
    {collation : String → String → Prop} {start : Timestamp} {equity : Option DayEquity}
    (found : EquityOf collation start stop curve' equity) : EquityOf collation start stop curve equity := by
  cases equity with
  | none =>
    exact fun snapshot member during => found snapshot ((appended.mem_iff during.2).2 member) during
  | some equity =>
    obtain ⟨snapshot, member, during, newest, shown⟩ := found
    exact ⟨snapshot, (appended.mem_iff during.2).1 member, during, fun other there during' =>
      newest other ((appended.mem_iff during'.2).2 there) during', shown⟩

end Appending

section Later

variable {words : Redaction.Words} {stop : Timestamp} {tables tables' tables'' : Tables}

theorem Grown.refl : Grown stop tables tables := ⟨.refl, .refl, .refl, .refl, .refl, .refl, rfl⟩

theorem Grown.trans (first : Grown stop tables tables') (second : Grown stop tables' tables'') :
    Grown stop tables tables'' where
  fills := first.fills.trans second.fills
  decisions := first.decisions.trans second.decisions
  portfolioSnapshots := first.portfolioSnapshots.trans second.portfolioSnapshots
  discrepancies := first.discrepancies.trans second.discrepancies
  events := first.events.trans second.events
  curve := first.curve.trans second.curve
  incidents := second.incidents.trans first.incidents

/-- Whether an incident was open at a time is not decided any more after it. -/
theorem serve_openCount {records : Records} (documented : Documented words records) {turn : Turn}
    (late : stop ≤ turn.now) :
    openCount stop (serve words turn records).2.incidents = openCount stop records.incidents := by
  rcases serve_incidents documented turn with is | ⟨record, opened, is⟩ | ⟨id, note, open_, is⟩
  · rw [is]
  · have notYet : openAt stop (record.openedAt, record.closedAt) = false := by
      simp [openAt, opened, late]
    rw [is, openCount, List.countP_append, List.countP_singleton, notYet]
    rfl
  · rw [is, openCount, List.countP_map]
    refine List.countP_congr fun record member => ?_
    rw [Function.comp_apply]
    split
    · rename_i same
      rw [openAt, openAt, closed, open_ record member same]
      simp [late]
    · rfl

theorem Sound.apply (sound : Sound words tables) (write : Write) : Sound words (write.apply words tables) := by
  cases write with
  | snapshot row =>
    unfold Write.apply
    dsimp only
    split
    · exact sound
    · rename_i free
      refine ⟨sound.documented, ?_⟩
      rw [List.map_append]
      refine List.nodup_append.2 ⟨sound.snapshotIds, List.nodup_singleton _, ?_⟩
      rintro taken member _ new rfl
      exact free (List.mem_singleton.1 new ▸ member)
  | request turn => exact ⟨serve_documented sound.documented turn, sound.snapshotIds⟩
  | fill | decision | portfolioSnapshot | discrepancy | event => exact ⟨sound.documented, sound.snapshotIds⟩

theorem Sound.grown (sound : Sound words tables) {write : Write} (late : stop ≤ write.stamp) :
    Grown stop tables (write.apply words tables) := by
  cases write with
  | fill => exact { Grown.refl with fills := .single late }
  | decision => exact { Grown.refl with decisions := .single late }
  | portfolioSnapshot => exact { Grown.refl with portfolioSnapshots := .single late }
  | discrepancy => exact { Grown.refl with discrepancies := .single late }
  | event => exact { Grown.refl with events := .single late }
  | snapshot =>
    unfold Write.apply
    dsimp only
    split
    · exact .refl
    · exact { Grown.refl with curve := .single late }
  | request turn => exact { Grown.refl with incidents := serve_openCount sound.documented late }

theorem Sound.writeAll (sound : Sound words tables) {writes : List Write}
    (late : ∀ write ∈ writes, stop ≤ write.stamp) :
    Sound words (writeAll words writes tables) ∧ Grown stop tables (writeAll words writes tables) := by
  unfold SoakDigest.writeAll
  induction writes generalizing tables with
  | nil => exact ⟨sound, .refl⟩
  | cons write writes ih =>
    have grown := sound.grown (late write (List.mem_cons_self ..))
    obtain ⟨sound', grown'⟩ := ih (sound.apply write) fun other member => late other (List.mem_cons_of_mem _ member)
    exact ⟨sound', grown.trans grown'⟩

end Later

/-! ## A day that is over -/

/-- A read when a day is over.  Each of its queries finds the tables with some of what was written since. -/
structure Reading (words : Redaction.Words) (collation : String → String → Prop) (tables : Tables)
    (start stop : Timestamp) where
  now : UtcInstant
  query : TrendsQuery
  made : trendsQuery .days30 now = .ok query
  index : Nat
  starts : query.edges[index]? = some start
  stops : query.edges[index + 1]? = some stop
  ended : stop ≤ now.1
  seen : Question → Tables
  since : ∀ question, ∃ writes : List Write,
    (∀ write ∈ writes, stop ≤ write.stamp) ∧ seen question = writeAll words writes tables
  answers : Answers
  of : answers.Of query collation seen

/-- A row that shows what the tables have of the day. -/
def Shows (soak : SqlAlchemySoak) (collation : String → String → Prop) (first start stop : Timestamp) (tables : Tables)
    (row : Day) : Prop :=
  ∃ uptimeOk storm equity,
    row = day start (countIn trades start stop tables.fills) (countIn Trends.refusals start stop tables.riskDecisions)
      (countIn Trends.reconciliationRuns start stop tables.portfolioSnapshots)
      (countIn Trends.discrepancies start stop tables.discrepancies)
      (countIn (eventsOf killSwitchEvent) start stop tables.systemEvents) equity false
      (countIn (eventsOf heartbeatEvent) start stop tables.systemEvents) uptimeOk
      (countIn (eventsOf restartEvent) start stop tables.systemEvents)
      (countIn recoveries start stop tables.systemEvents)
      (countIn (eventsOf disconnectEvent) start stop tables.systemEvents)
      (countIn (eventsOf gapFillEvent) start stop tables.systemEvents) storm
      (openCount stop tables.records.incidents) ∧
    (uptimeOk = true ↔ Sampled start stop (tables.moments heartbeatEvent)) ∧
    (storm = true ↔ Stormy soak.reconnectStormThreshold soak.reconnectStormWindow first start stop
      (tables.moments disconnectEvent)) ∧
    EquityOf collation start stop tables.curve equity

namespace Reading

variable {words : Redaction.Words} {collation : String → String → Prop} {tables : Tables} {start stop : Timestamp}

/-- The row of the day. -/
def row (reading : Reading words collation tables start stop) (soak : SqlAlchemySoak) : Option Day :=
  (soak.read reading.query reading.answers).days[reading.index]?

theorem cut (reading : Reading words collation tables start stop) :
    reading.query.now = reading.now ∧ Cut reading.query ∧ Edged reading.query.edges := by
  have made := reading.made
  simp only [trendsQuery] at made
  split at made
  · cases made
  · split at made
    · cases made
    · rw [← Except.ok.inj made]
      exact ⟨rfl, cut_aligned .days30 reading.now⟩

theorem bounds (reading : Reading words collation tables start stop) :
    Bounds reading.query reading.index start stop :=
  ⟨reading.cut.2.2, reading.starts, reading.stops⟩

/-- The last day of the range has the present in it. -/
theorem finished (reading : Reading words collation tables start stop) :
    reading.index ≠ reading.query.buckets - 1 := by
  obtain ⟨now, cut, _⟩ := reading.cut
  intro last
  have current := cut.current
  rw [← last, now, reading.bounds.inBucket] at current
  exact absurd current.2 (not_lt.2 reading.ended)

theorem later (reading : Reading words collation tables start stop) (sound : Sound words tables) (question : Question) :
    Sound words (reading.seen question) ∧ Grown stop tables (reading.seen question) := by
  obtain ⟨writes, late, is⟩ := reading.since question
  rw [is]
  exact sound.writeAll late

/-- A day that is over is read as it stood when it was over. -/
theorem row_shows (reading : Reading words collation tables start stop) (sound : Sound words tables)
    (soak : SqlAlchemySoak) :
    ∃ row, reading.row soak = some row ∧ Shows soak collation reading.query.since start stop tables row := by
  have bounds := reading.bounds
  have of := reading.of
  have ended : stop ≤ reading.query.now.1 := reading.cut.1 ▸ reading.ended
  have grown := fun question => (reading.later sound question).2
  obtain ⟨ok, uptime, sampled⟩ := uptime_of bounds ended of.samples
  obtain ⟨restarts, recovered⟩ := dailyRestartCounts_of bounds of.restarts
  have storms := @storms_of _ _ _ _ bounds soak.reconnectStormThreshold _ soak.positive _ _ of.stormMoments
  have incidents := (incidents_of bounds of.incidents).trans (congrArg some (grown .incidents).incidents)
  -- The last row of the day is still there when its holdings are read.
  have kept : ∀ snapshot ∈ (reading.seen .finals).curve, snapshot.asOf < stop →
      snapshot ∈ (reading.seen .holdings).curve := fun snapshot member before =>
    ((grown .holdings).curve.mem_iff before).2 (((grown .finals).curve.mem_iff before).1 member)
  obtain ⟨equity, last, worth⟩ :=
    equity_of bounds of.finals of.holdings (reading.later sound .holdings).1.snapshotIds kept
  refine ⟨_, ?_, ok, ((dailyStorms soak.reconnectStormThreshold soak.reconnectStormWindow reading.query
    reading.answers.stormMoments)[reading.index]?).getD false, equity, rfl, ?_, ?_, ?_⟩
  · unfold Reading.row SqlAlchemySoak.read
    dsimp only
    rw [List.getElem?_map, List.getElem?_range bounds.inside, Option.map_some, bounds.starts,
      dailyCounts_of bounds of.trades, (grown .trades).fills.countIn_eq trades,
      dailyCounts_of bounds of.refusals, (grown .refusals).decisions.countIn_eq Trends.refusals,
      dailyCounts_of bounds of.reconciliationRuns,
      (grown .reconciliationRuns).portfolioSnapshots.countIn_eq Trends.reconciliationRuns,
      dailyCounts_of bounds of.divergences, (grown .divergences).discrepancies.countIn_eq Trends.discrepancies,
      dailyCounts_of bounds of.killSwitchEvents,
      (grown .killSwitchEvents).events.countIn_eq (eventsOf killSwitchEvent),
      dailyCounts_of bounds of.heartbeats, (grown .heartbeats).events.countIn_eq (eventsOf heartbeatEvent),
      restarts, (grown .restarts).events.countIn_eq (eventsOf restartEvent), recovered,
      (grown .restarts).events.countIn_eq recoveries,
      dailyCounts_of bounds of.disconnects, (grown .disconnects).events.countIn_eq (eventsOf disconnectEvent),
      dailyCounts_of bounds of.gapFills, (grown .gapFills).events.countIn_eq (eventsOf gapFillEvent),
      incidents, uptime, last, decide_eq_false reading.finished]
    rfl
  · exact sampled.trans (((grown .uptime).events.moments heartbeatEvent).sampled start)
  · rw [← ((grown .storms).events.moments disconnectEvent).stormy, ← storms]
    cases (dailyStorms soak.reconnectStormThreshold soak.reconnectStormWindow reading.query
      reading.answers.stormMoments)[reading.index]? with
    | none => simp
    | some storm => simp
  · exact (grown .finals).curve.equityOf worth

end Reading

section Finished

variable {collation : String → String → Prop} {start stop first first' : Timestamp} {tables : Tables}
  {soak : SqlAlchemySoak}

/-- What came before the range does not matter where the storm window does not reach so far. -/
theorem stormy_first {threshold : Int} {window : Duration} {disconnects : List Timestamp}
    (inner : window ≤ start - first) (inner' : window ≤ start - first') :
    Stormy threshold window first start stop disconnects ↔ Stormy threshold window first' start stop disconnects := by
  refine exists_congr fun at_ => and_congr_right fun _ => and_congr_right fun since => and_congr_right fun _ => ?_
  have same : (disconnects.countP fun other => first ≤ other ∧ at_ - window ≤ other ∧ other ≤ at_) =
      disconnects.countP fun other => first' ≤ other ∧ at_ - window ≤ other ∧ other ≤ at_ := by
    refine List.countP_congr fun other _ => ?_
    simp only [decide_eq_true_eq]
    constructor
    · rintro ⟨_, held, upTo⟩
      exact ⟨by linarith, held, upTo⟩
    · rintro ⟨_, held, upTo⟩
      exact ⟨by linarith, held, upTo⟩
  rw [same]

theorem Shows.unique (antisymm : ∀ a b, collation a b → collation b a → a = b)
    (separate : Separate start stop tables.curve) (inner : soak.reconnectStormWindow ≤ start - first)
    (inner' : soak.reconnectStormWindow ≤ start - first') {row row' : Day}
    (shows_ : Shows soak collation first start stop tables row)
    (shows' : Shows soak collation first' start stop tables row') : row = row' := by
  obtain ⟨ok, storm, equity, rfl, sampled, stormy, worth⟩ := shows_
  obtain ⟨ok', storm', equity', rfl, sampled', stormy', worth'⟩ := shows'
  have up : ok = ok' := Bool.eq_iff_iff.2 (sampled.trans sampled'.symm)
  have storms : storm = storm' := Bool.eq_iff_iff.2 (stormy.trans ((stormy_first inner inner').trans stormy'.symm))
  rw [up, storms, worth.unique antisymm separate worth']

/-- The last snapshot of the day is whole, with no holding at a price older than it may be. -/
def Valued (start stop : Timestamp) (curve : List Snapshot) : Prop :=
  ∃ snapshot ∈ curve, During start stop snapshot ∧
    (∀ other ∈ curve, During start stop other → other.asOf ≤ snapshot.asOf) ∧
    snapshot.equity.isSome = true ∧ ∀ holding ∈ snapshot.holdings, overdue (shownHolding holding) = false

theorem day_passes (start : Timestamp) (trades refusals reconciliationRuns divergences killSwitchEvents : Nat)
    (equity : Option DayEquity) (inProgress : Bool) (heartbeats : Nat) (uptimeOk : Bool)
    (restarts recoveredRestarts disconnects gapFills : Nat) (reconnectStorm : Bool) (openIncidents : Nat) :
    (day start trades refusals reconciliationRuns divergences killSwitchEvents equity inProgress heartbeats uptimeOk
      restarts recoveredRestarts disconnects gapFills reconnectStorm openIncidents).status = "pass" ↔
      (equityField equity).missing = [] ∧ uptimeOk = true ∧ openIncidents = 0 ∧ ¬ reconnectStorm = true := by
  unfold day
  dsimp only
  have words : ∀ p : Prop, [Decidable p] → ((if p then "pass" else "incomplete") = "pass" ↔ p) := by
    intro p _
    by_cases holds : p
    · rw [if_pos holds]
      exact iff_of_true rfl holds
    · rw [if_neg holds]
      exact iff_of_false (by decide) holds
  rw [words, List.append_eq_nil_iff, List.append_eq_nil_iff, List.append_eq_nil_iff, and_assoc, and_assoc]
  cases uptimeOk <;> cases reconnectStorm <;> simp

theorem equityField_missing (equity : Option DayEquity) :
    (equityField equity).missing = [] ↔
      ∃ some_, equity = some some_ ∧ some_.equity.isSome = true ∧
        ∀ holding ∈ some_.holdings, overdue holding = false := by
  cases equity with
  | none => simp [equityField]
  | some equity =>
    cases value : equity.equity with
    | none => simp [equityField, value]
    | some _ => simp [equityField, value]

theorem EquityOf.valued_iff (times : ∀ snapshot ∈ tables.curve, ∀ other ∈ tables.curve, During start stop snapshot →
      During start stop other → snapshot.asOf = other.asOf → snapshot = other) {equity : Option DayEquity}
    (worth : EquityOf collation start stop tables.curve equity) :
    (equityField equity).missing = [] ↔ Valued start stop tables.curve := by
  rw [equityField_missing]
  constructor
  · rintro ⟨equity, rfl, whole, fresh⟩
    obtain ⟨snapshot, member, during, newest, value, _, holdings, _⟩ := worth
    refine ⟨snapshot, member, during, newest, value ▸ whole, fun holding there => ?_⟩
    exact fresh _ (holdings.mem_iff.2 (List.mem_map_of_mem there))
  · rintro ⟨snapshot, member, during, newest, whole, fresh⟩
    cases equity with
    | none => exact absurd during (worth snapshot member)
    | some equity =>
      obtain ⟨other, member', during', newest', value, _, holdings, _⟩ := worth
      obtain rfl : snapshot = other := times snapshot member other member' during during'
        (le_antisymm (newest' snapshot member during) (newest other member' during'))
      refine ⟨equity, rfl, value ▸ whole, fun holding there => ?_⟩
      obtain ⟨held, inside, rfl⟩ := List.mem_map.1 (holdings.mem_iff.1 there)
      exact fresh held inside

/-- **Settled.**  Two reads show one row of a day that is over, whatever is written between their queries at a time
after the day, as long as the storm window of the day's start lies in both ranges. -/
theorem finished_day_settled {words : Redaction.Words} (antisymm : ∀ a b, collation a b → collation b a → a = b)
    (sound : Sound words tables) (separate : Separate start stop tables.curve)
    (reading reading' : Reading words collation tables start stop)
    (inner : soak.reconnectStormWindow ≤ start - reading.query.since)
    (inner' : soak.reconnectStormWindow ≤ start - reading'.query.since) :
    ∃ row, reading.row soak = some row ∧ reading'.row soak = some row := by
  obtain ⟨row, is, shows_⟩ := reading.row_shows sound soak
  obtain ⟨row', is', shows'⟩ := reading'.row_shows sound soak
  exact ⟨row, is, (shows_.unique antisymm separate inner inner' shows') ▸ is'⟩

/-- A day that is over passes if it has a whole and fresh valuation to end with, a heartbeat in each interval, no
incident that was open at its end and no reconnect storm; and not otherwise. -/
theorem finished_day_passes_iff {words : Redaction.Words} (sound : Sound words tables)
    (times : ∀ snapshot ∈ tables.curve, ∀ other ∈ tables.curve, During start stop snapshot →
      During start stop other → snapshot.asOf = other.asOf → snapshot = other)
    (reading : Reading words collation tables start stop) :
    ∃ row, reading.row soak = some row ∧ (row.status = "pass" ↔
      Valued start stop tables.curve ∧ Sampled start stop (tables.moments heartbeatEvent) ∧
      openCount stop tables.records.incidents = 0 ∧
      ¬ Stormy soak.reconnectStormThreshold soak.reconnectStormWindow reading.query.since start stop
        (tables.moments disconnectEvent)) := by
  obtain ⟨row, is, ok, storm, equity, rfl, sampled, stormy, worth⟩ := reading.row_shows sound soak
  refine ⟨_, is, ?_⟩
  rw [← worth.valued_iff times, ← sampled, ← stormy]
  exact day_passes ..

end Finished

namespace Settled

def midnight : Timestamp := Unlisted.noon.1 - 12 * hour

/-- The end of the day, and a heartbeat of the day after it. -/
def last : Snapshot := ⟨1, some 1, midnight - hour, false, []⟩

def tables : Tables := ⟨[], [], [], [], [], [last], {}⟩

def heartbeat : Write := .event ⟨heartbeatEvent, midnight + hour, none⟩

def soak : SqlAlchemySoak := ⟨3, 300000000, by decide, by decide⟩

theorem sound : Sound Redaction.asciiWords tables := ⟨documented_none, List.nodup_singleton _⟩

theorem separate : Separate (midnight - 24 * hour) midnight tables.curve where
  times _ member _ member' _ _ _ := (List.mem_singleton.1 member).trans (List.mem_singleton.1 member').symm
  symbols _ member _ := List.mem_singleton.1 member ▸ List.nodup_nil

theorem finals_last {query : TrendsQuery} (edged : Edged query.edges) (since : query.since ≤ last.asOf) {index : Nat}
    (found : bucketOf query.edges last.asOf = some index) :
    FinalsOf query [last] [(index, ⟨1, some 1, false⟩)] where
  distinct := List.nodup_singleton _
  last group member := by
    rw [List.mem_singleton.1 member]
    refine ⟨last, List.mem_singleton_self _, rfl, (bucketOf_eq_some edged.ascending (edged.head 0) since).1 found, ?_⟩
    exact fun other there _ => (List.mem_singleton.1 there ▸ le_refl _)
  every snapshot member bucket within := by
    rw [List.mem_singleton.1 member, ← bucketOf_eq_some edged.ascending (edged.head 0) since, found] at within
    exact List.mem_singleton.2 (Option.some.inj within).symm

def queryAt (now : UtcInstant) : TrendsQuery :=
  ⟨.days30, 24 * hour, alignedEdges (24 * hour) now.1 30, now⟩

def tomorrow : UtcInstant := ⟨Unlisted.noon.1 + 24 * hour, by decide⟩

theorem made_noon : trendsQuery .days30 Unlisted.noon = .ok (queryAt Unlisted.noon) := by
  simp only [trendsQuery]
  rw [if_neg (by decide), if_neg (by decide)]
  rfl

theorem made_tomorrow : trendsQuery .days30 tomorrow = .ok (queryAt tomorrow) := by
  simp only [trendsQuery]
  rw [if_neg (by decide), if_neg (by decide)]
  rfl

/-- Read at noon of the next day. -/
def first : Reading Redaction.asciiWords (· ≤ ·) tables (midnight - 24 * hour) midnight where
  now := Unlisted.noon
  query := queryAt Unlisted.noon
  made := made_noon
  index := 28
  starts := by decide
  stops := by decide
  ended := by decide
  seen _ := tables
  since _ := ⟨[], fun _ member => absurd member List.not_mem_nil, rfl⟩
  answers := ⟨[], [], [], [], [], [], [], [], [], [], [], [], [(28, ⟨1, some 1, false⟩)], [], [], []⟩
  of := by
    have edged : Edged (queryAt Unlisted.noon).edges := (cut_aligned .days30 Unlisted.noon).2
    exact
      { trades := by unfold CountsOf Grouped; decide
        refusals := by unfold CountsOf Grouped; decide
        reconciliationRuns := by unfold CountsOf Grouped; decide
        divergences := by unfold CountsOf Grouped; decide
        killSwitchEvents := by unfold CountsOf Grouped; decide
        heartbeats := by unfold CountsOf Grouped; decide
        samples := .nil
        restarts := .nil
        disconnects := by unfold CountsOf Grouped; decide
        stormMoments := .nil
        gapFills := by unfold CountsOf Grouped; decide
        incidents := .nil
        finals := finals_last edged (by decide) (by decide)
        holdings := ⟨.nil, .nil⟩
        evidence := .nil
        evidenceOrder := .nil
        openIncidents := .nil
        openOrder := .nil }

/-- Read a day later, while the heartbeat is written. -/
def second : Reading Redaction.asciiWords (· ≤ ·) tables (midnight - 24 * hour) midnight where
  now := tomorrow
  query := queryAt tomorrow
  made := made_tomorrow
  index := 27
  starts := by decide
  stops := by decide
  ended := by decide
  seen
    | .trades => tables
    | _ => writeAll Redaction.asciiWords [heartbeat] tables
  since
    | .trades => ⟨[], fun _ member => absurd member List.not_mem_nil, rfl⟩
    | .refusals | .reconciliationRuns | .divergences | .killSwitchEvents | .heartbeats | .uptime | .restarts
    | .disconnects | .storms | .gapFills | .incidents | .finals | .holdings | .evidence | .openIncidents =>
      ⟨[heartbeat], fun _ member => List.mem_singleton.1 member ▸ (by decide), rfl⟩
  answers :=
    ⟨[], [], [], [], [], [(28, 1)], [midnight + hour], [], [], [], [], [], [(27, ⟨1, some 1, false⟩)], [], [], []⟩
  of := by
    have edged : Edged (queryAt tomorrow).edges := (cut_aligned .days30 tomorrow).2
    exact
      { trades := by unfold CountsOf Grouped; decide
        refusals := by unfold CountsOf Grouped; decide
        reconciliationRuns := by unfold CountsOf Grouped; decide
        divergences := by unfold CountsOf Grouped; decide
        killSwitchEvents := by unfold CountsOf Grouped; decide
        heartbeats := by unfold CountsOf Grouped; decide
        samples := by decide
        restarts := by decide
        disconnects := by unfold CountsOf Grouped; decide
        stormMoments := by decide
        gapFills := by unfold CountsOf Grouped; decide
        incidents := .nil
        finals := finals_last edged (by decide) (by decide)
        holdings := ⟨.nil, .nil⟩
        evidence := .nil
        evidenceOrder := .nil
        openIncidents := .nil
        openOrder := .nil }

end Settled

open Settled in
theorem finished_day_settled_midnight : ∃ row, first.row soak = some row ∧ second.row soak = some row :=
  finished_day_settled (fun _ _ => Std.le_antisymm) sound separate first second (by decide) (by decide)

open Settled in
theorem finished_day_passes_iff_midnight :
    ∃ row, first.row soak = some row ∧ (row.status = "pass" ↔
      Valued (midnight - 24 * hour) midnight tables.curve ∧
      Sampled (midnight - 24 * hour) midnight (tables.moments heartbeatEvent) ∧
      openCount midnight tables.records.incidents = 0 ∧
      ¬ Stormy soak.reconnectStormThreshold soak.reconnectStormWindow first.query.since (midnight - 24 * hour) midnight
        (tables.moments disconnectEvent)) :=
  finished_day_passes_iff sound separate.times first

end AlgoTrader.Api.SoakDigest
