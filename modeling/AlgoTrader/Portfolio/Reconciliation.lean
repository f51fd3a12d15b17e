/-
# Portfolio.Reconciliation -- the comparison with the broker, and its safety response

`reconcile` reads the broker's balances, positions, orders and fills, compares them with
a local state, reports every discrepancy, halts trading when there is one, and saves what
the broker said.  The discrepancies of a list of answers are pure functions here; the
program is a run over the requests of `DeskOp`, each of which may fail.

The switch's `trip` is one request of the desk, served by a complete run of the switch's
own program (`Trips`), so that what the switch guarantees is used and not assumed.

* `trips_halts` -- however a trip ends, the switch is halted;
* `reconcile_result` -- a reconciliation that returns, returns what the comparison of the
  broker's answers gives.
-/
import AlgoTrader.Portfolio.Ledger
import AlgoTrader.Risk.SwitchFailures
import AlgoTrader.Theory.Loops

namespace AlgoTrader.Portfolio

open AlgoTrader.Core Brokers Theory Process Risk

set_option autoImplicit false

/-! ## Discrepancies -/

inductive EntityType where
  | order
  | position
  | balance
  | fill
  deriving DecidableEq, Repr

/-- What one side of a discrepancy holds. -/
inductive Reading where
  | absent
  | status (value : String)
  | progress (status : String) (filled : Decimal)
  | position (item : Position)
  | balance (item : Balance)
  | fill (item : Fill)

structure Discrepancy where
  entityType : EntityType
  entityKey : String
  local_ : Reading
  broker : Reading

structure ReconciliationResult where
  authoritative : PortfolioState
  discrepancies : List Discrepancy
  safetyTripped : Bool

/-! ## The comparison -/

/-- `{item.symbol: item for item in rows}`: of several rows of one key the last one is kept. -/
def keyed {α : Type} (key : α → String) (rows : List α) : Dict String α :=
  .ofList (rows.map fun item => (key item, item))

/-- `sorted(set(left) | set(right))`. -/
def unionKeys {α β : Type} (left : Dict String α) (right : Dict String β) : List String :=
  ((left.keys ++ right.keys).dedup).insertionSort (· ≤ ·)

def compareOrder (key : String) (localOrder brokerOrder : Order) : List Discrepancy :=
  if brokerOrder.status ≠ localOrder.status ∨
      brokerOrder.filledQuantity ≠ localOrder.filledQuantity then
    [{ entityType := .order
       entityKey := key
       local_ := .progress localOrder.status.value localOrder.filledQuantity
       broker := .progress brokerOrder.status.value brokerOrder.filledQuantity }]
  else []

def missingOrder (key : String) (localOrder : Order) : Discrepancy where
  entityType := .order
  entityKey := key
  local_ := .status localOrder.status.value
  broker := .absent

/-- Both prices are known and they differ. -/
def pricesDiffer (ours theirs : Option NonNegativeDecimal) : Prop :=
  ∃ price ∈ ours, ∃ price' ∈ theirs, price ≠ price'

instance (ours theirs : Option NonNegativeDecimal) : Decidable (pricesDiffer ours theirs) :=
  match ours, theirs with
  | none, _ => .isFalse fun ⟨_, member, _⟩ => nomatch member
  | some _, none => .isFalse fun ⟨_, _, _, member, _⟩ => nomatch member
  | some price, some price' => decidable_of_iff (price ≠ price') (by simp [pricesDiffer])

def PositionsDiffer : Option Position → Option Position → Prop
  | some ours, some theirs =>
      ours.quantity ≠ theirs.quantity ∨ pricesDiffer ours.averagePrice theirs.averagePrice
  | _, _ => True

def BalancesDiffer : Option Balance → Option Balance → Prop
  | some ours, some theirs => ours.available ≠ theirs.available ∨ ours.hold ≠ theirs.hold
  | _, _ => True

instance : (ours theirs : Option Position) → Decidable (PositionsDiffer ours theirs)
  | some ours, some theirs =>
      inferInstanceAs (Decidable (ours.quantity ≠ theirs.quantity ∨ pricesDiffer _ _))
  | none, _ => .isTrue trivial
  | some _, none => .isTrue trivial

instance : (ours theirs : Option Balance) → Decidable (BalancesDiffer ours theirs)
  | some ours, some theirs =>
      inferInstanceAs (Decidable (ours.available ≠ theirs.available ∨ ours.hold ≠ theirs.hold))
  | none, _ => .isTrue trivial
  | some _, none => .isTrue trivial

/-- One side of a discrepancy, when there may be nothing there. -/
def sideOf {α : Type} (read : α → Reading) : Option α → Reading
  | some item => read item
  | none => .absent

/-- The keys on which two sides differ, each with what the sides hold. -/
def compareRows {α : Type} (entityType : EntityType) (read : α → Reading)
    (differ : Option α → Option α → Prop) [∀ ours theirs, Decidable (differ ours theirs)]
    (ours theirs : Dict String α) : List Discrepancy :=
  ((unionKeys ours theirs).filter fun key => differ (ours.get? key) (theirs.get? key)).map fun key =>
    { entityType
      entityKey := key
      local_ := sideOf read (ours.get? key)
      broker := sideOf read (theirs.get? key) }

def comparePositions (ours theirs : List Position) : List Discrepancy :=
  compareRows .position .position PositionsDiffer (keyed Position.symbol ours)
    (keyed Position.symbol theirs)

def compareBalances (ours theirs : List Balance) : List Discrepancy :=
  compareRows .balance .balance BalancesDiffer (keyed Balance.asset ours)
    (keyed Balance.asset theirs)

/-- The fills only one side has; the order of a set is left to the dictionary. -/
def compareFills (ours theirs : Dict String Fill) : List Discrepancy :=
  (ours.entries.filter fun e => e.1 ∉ theirs.keys).map (fun e =>
    { entityType := .fill, entityKey := e.1, local_ := .fill e.2, broker := .absent }) ++
  (theirs.entries.filter fun e => e.1 ∉ ours.keys).map (fun e =>
    { entityType := .fill, entityKey := e.1, local_ := .absent, broker := .fill e.2 })

/-! ## Requests -/

/-- The reads of `BrokerInterface` a comparison awaits. -/
inductive ReadOp where
  | getBalances
  | getPositions
  | getOrder (clientOrderId : String)
  | getFills (clientOrderId : String)

abbrev ReadOp.Reply : ReadOp → Type
  | .getBalances => List Balance
  | .getPositions => List Position
  | .getOrder _ => Option Order
  | .getFills _ => List Fill

inductive SafetyAction where
  | halted
  | none

/-- What reporting and saving call. -/
inductive ReportOp where
  | logDiscrepancy (discrepancy : Discrepancy)
  | alert (discrepancy : Discrepancy)
  | saveSnapshot (state : PortfolioState)
  | saveDiscrepancy (discrepancy : Discrepancy) (safetyAction : SafetyAction)

inductive RunResult where
  | notRun
  | clean
  | diverged
  | unavailable

structure ReconciliationStatus where
  startedAt : Timestamp
  runs : Nat
  cleanRuns : Nat
  divergedRuns : Nat
  unavailableRuns : Nat
  lastRunAt : Option Timestamp
  lastResult : RunResult
  lastDiscrepancies : Nat

/-- What a `ScheduledReconciler` remembers: the baseline, the orders and fills it follows,
and the fills the baseline already includes. -/
structure Tracking where
  baselinePositions : List Position
  baselineBalances : List Balance
  orders : Dict String Order
  fills : Dict String Fill
  appliedFillIds : List String
  status : ReconciliationStatus

namespace Tracking

/-- The recorded fills of an order: broker fills carry the venue's order id, locally
recorded ones the client's. -/
def fillsOf (tracking : Tracking) (clientOrderId : String) (order : Order) : List Fill :=
  tracking.fills.values.filter fun fill =>
    fill.orderId.str = clientOrderId ∨ fill.orderId.str = order.orderId.str

def recorded (tracking : Tracking) (clientOrderId : String) (order : Order) : Decimal :=
  ((tracking.fillsOf clientOrderId order).map fun fill => fill.quantity.1).sum

/-- `_needs_refresh`: an open order, or a filled one whose fills are not all recorded. -/
def needsRefresh (tracking : Tracking) (clientOrderId : String) (order : Order) : Bool :=
  if order.status.terminal = false then true
  else if order.status ≠ .filled then false
  else tracking.recorded clientOrderId order < order.filledQuantity.1

end Tracking

/-- The scheduler's own requests: its memory, its clock, the refresh and the hooks. -/
inductive ScheduleOp where
  | load
  | save (tracking : Tracking)
  | needsRefresh (clientOrderId : String) (order : Order)
  | refreshOrder (clientOrderId : String)
  | utcNow
  | onDivergence (discrepancies : List Discrepancy)
  | onUnavailable (detail : String)
  | onReconciled (state : PortfolioState)

abbrev ScheduleOp.Reply : ScheduleOp → Type
  | .load => Tracking
  | .needsRefresh .. => Bool
  | .utcNow => Timestamp
  | .save .. | .refreshOrder .. | .onDivergence .. | .onUnavailable .. | .onReconciled .. => Unit

inductive DeskOp where
  | read (op : ReadOp)
  | report (op : ReportOp)
  | schedule (op : ScheduleOp)
  | trip (reason : String)

abbrev DeskOp.Reply : DeskOp → Type
  | .read op => op.Reply
  | .report _ => Unit
  | .schedule op => op.Reply
  | .trip _ => Unit

abbrev deskEffects : Signature := ⟨DeskOp, DeskOp.Reply⟩

/-- A program of the reconciliation desk. -/
abbrev Desk (α : Type) := Prog deskEffects Exc α

abbrev desk (op : DeskOp) : Desk op.Reply := Prog.call (S := deskEffects) op

/-! ## The reconciler -/

/-- How a reconciler and its schedule are set up: the optional parts, and the units the
broker settles balances in. -/
structure Wiring where
  alert : Bool
  store : Bool
  onDivergence : Bool
  onUnavailable : Bool
  onReconciled : Bool
  balanceIncrements : Dict String Decimal

/-- Halt, and raise `ReconciliationUnavailable`. -/
def unavailable {α : Type} (reason message : String) : Desk α := do
  desk (.trip reason)
  .raise (.reconciliationUnavailable message)

/-- What the loop over the tracked orders has read and found. -/
structure OrdersRead where
  orders : Dict String Order
  fills : Dict String Fill
  discrepancies : List Discrepancy

namespace OrdersRead

def none : OrdersRead := ⟨.empty, .empty, []⟩

def missing (read : OrdersRead) (key : String) (localOrder : Order) : OrdersRead :=
  { read with discrepancies := read.discrepancies ++ [missingOrder key localOrder] }

def found (read : OrdersRead) (key : String) (localOrder brokerOrder : Order) : OrdersRead :=
  { read with
    orders := read.orders.set key brokerOrder
    discrepancies := read.discrepancies ++ compareOrder key localOrder brokerOrder }

def filled (read : OrdersRead) (fills : List Fill) : OrdersRead :=
  { read with fills := fills.foldl (fun known fill => known.set fill.fillId fill) read.fills }

end OrdersRead

def readOrder (key : String) (localOrder : Order) (read : OrdersRead) : Desk OrdersRead := do
  match ← (desk (.read (.getOrder key))).attempt with
  | .error _ =>
      unavailable "broker unavailable during order reconciliation"
        "broker order state could not be read"
  | .ok none => return read.missing key localOrder
  | .ok (some brokerOrder) => do
      match ← (desk (.read (.getFills key))).attempt with
      | .error _ =>
          unavailable "broker unavailable during fill reconciliation"
            "broker fill state could not be read"
      | .ok fills => return (read.found key localOrder brokerOrder).filled fills

def readOrders : List (String × Order) → OrdersRead → Desk OrdersRead
  | [], read => pure read
  | (key, localOrder) :: rest, read => do
      let next ← readOrder key localOrder read
      readOrders rest next

/-- Balances first: adapters that derive positions from balances reuse that read. -/
def readHoldings : Desk (List Balance × List Position) := do
  let balances ← desk (.read .getBalances)
  let positions ← desk (.read .getPositions)
  return (balances, positions)

/-- One line in the log, which never changes whether trading halts, and one alert. -/
def reportOne (wiring : Wiring) (discrepancy : Discrepancy) : Desk Unit := do
  let _ ← (desk (.report (.logDiscrepancy discrepancy))).attempt
  Prog.when wiring.alert (desk (.report (.alert discrepancy)))

def saveAll (authoritative : PortfolioState) (discrepancies : List Discrepancy) : Desk Unit := do
  let safetyAction := if discrepancies.isEmpty then .none else .halted
  desk (.report (.saveSnapshot authoritative))
  Prog.visit (fun discrepancy => desk (.report (.saveDiscrepancy discrepancy safetyAction)))
    discrepancies

def persistResult (wiring : Wiring) (authoritative : PortfolioState)
    (discrepancies : List Discrepancy) : Desk Unit :=
  Prog.when wiring.store do
    match ← (saveAll authoritative discrepancies).attempt with
    | .ok _ => pure ()
    | .error _ =>
        unavailable "portfolio persistence unavailable during reconciliation"
          "authoritative portfolio state could not be persisted"

/-- Everything a comparison found, in the order it is reported. -/
def discrepanciesOf (local_ : PortfolioState) (balances : List Balance) (positions : List Position)
    (read : OrdersRead) : List Discrepancy :=
  read.discrepancies ++ comparePositions local_.positions positions ++
    compareBalances local_.balances balances ++ compareFills local_.fills read.fills

/-- Report, halt, and save what was found. -/
def respond (wiring : Wiring) (authoritative : PortfolioState)
    (discrepancies : List Discrepancy) : Desk ReconciliationResult := do
  Prog.visit (reportOne wiring) discrepancies
  Prog.when (!discrepancies.isEmpty) (desk (.trip "broker-authoritative reconciliation divergence"))
  persistResult wiring authoritative discrepancies
  return { authoritative, discrepancies, safetyTripped := !discrepancies.isEmpty }

def reconcile (wiring : Wiring) (local_ : PortfolioState) : Desk ReconciliationResult := do
  match ← readHoldings.attempt with
  | .error _ =>
      unavailable "broker unavailable during reconciliation" "broker state could not be read"
  | .ok (balances, positions) => do
      let read ← readOrders local_.orders.entries .none
      respond wiring { orders := read.orders, fills := read.fills, positions, balances }
        (discrepanciesOf local_ balances positions read)

/-! ## The world of the desk -/

structure DeskWorld where
  switch : SwitchWorld
  tracking : Tracking
  /-- The fills that have happened at the venue. -/
  venue : List Fill

/-- What surrounds the desk: how the switch is set up, what the broker may answer and
where, what may happen while the desk waits, and what refreshing an order does. -/
structure Surroundings where
  switch : KillSwitch.Config
  answers : (op : ReadOp) → DeskWorld → Except Exc op.Reply → Prop
  meanwhile : DeskWorld → DeskWorld → Prop
  refreshes : String → DeskWorld → Except Exc Unit → DeskWorld → Prop

/-- A complete run of the switch's own `trip`, under its lock. -/
inductive Trips (config : KillSwitch.Config) (reason : String) :
    SwitchWorld → Except Exc Unit → SwitchWorld → Prop
  | run {world : World} {final : Instant} {result : Except Exc Unit}
      (run : (KillSwitch.trip config reason).Runs (Serve KillSwitch.locked) ⟨world, []⟩ result final) :
      Trips config reason world.switch result final.world.switch

/-- The state the switch of the desk is in. -/
def DeskWorld.state (world : DeskWorld) : KillSwitchState := world.switch.memory.state

def ScheduleServe (around : Surroundings) :
    (op : ScheduleOp) → DeskWorld → Except Exc op.Reply → DeskWorld → Prop
  | .load, w, reply, w' => reply = .ok w.tracking ∧ w' = w
  | .save tracking, w, reply, w' => reply = .ok () ∧ w' = { w with tracking }
  | .needsRefresh key order, w, reply, w' =>
      reply = .ok (w.tracking.needsRefresh key order) ∧ w' = w
  | .refreshOrder key, w, reply, w' => around.refreshes key w reply w'
  | .utcNow, w, reply, w' => (∃ now, reply = .ok now) ∧ around.meanwhile w w'
  | .onDivergence _, w, _, w' => around.meanwhile w w'
  | .onUnavailable _, w, _, w' => around.meanwhile w w'
  | .onReconciled _, w, _, w' => around.meanwhile w w'

def DeskServe (around : Surroundings) : Service deskEffects Exc DeskWorld
  | .read op, w, reply, w' => around.meanwhile w w' ∧ around.answers op w' reply
  | .report _, w, _, w' => around.meanwhile w w'
  | .schedule op, w, reply, w' => ScheduleServe around op w reply w'
  | .trip reason, w, reply, w' => ∃ switch, Trips around.switch reason w.switch reply switch ∧
      w' = { w with switch }

abbrev DeskEvent := Event deskEffects Exc DeskWorld

abbrev DeskMoment := Moment deskEffects Exc DeskWorld

/-- However a trip ends, the switch is halted. -/
theorem trips_halts {config : KillSwitch.Config} {reason : String} {before after : SwitchWorld}
    {result : Except Exc Unit} (trips : Trips config reason before result after) :
    after.memory.state = .halted := by
  cases trips with
  | run run =>
      have sets : KillSwitch.Sets (fun _ => True) _ _ _ _ _ _ :=
        KillSwitch.trip_outcome (fun _ _ => trivial) run
      exact sets.halts

/-! ## Obligations of the desk -/

/-- The desk in its surroundings, with an assumption on every event. -/
def deskContract (around : Surroundings) (assume : DeskEvent → Prop) :
    Contract deskEffects Exc DeskWorld where
  serve := DeskServe around
  assume e _ := assume e
  guard _ _ := True
  invariant _ := True

section Obligations

variable {around : Surroundings} {assume : DeskEvent → Prop}

abbrev deskLogic (around : Surroundings) (assume : DeskEvent → Prop) :
    Logic deskEffects Exc DeskMoment := (deskContract around assume).logic

/-- One request of the desk, whatever its reply. -/
theorem wp_desk {op : DeskOp} {m : DeskMoment} {post : Except Exc op.Reply → DeskMoment → Prop}
    (replied : ∀ reply after, DeskServe around op m.world reply after →
      assume (m.event (S := deskEffects) op reply after) →
      post reply (m.push (S := deskEffects) op reply after)) :
    wp (deskLogic around assume) post (desk op) m :=
  wp_served replied

/-- Every program meets the obligation that asks nothing. -/
theorem wp_any {α : Type} (p : Desk α) (m : DeskMoment) :
    wp (deskLogic around assume) (fun _ _ => True) p m :=
  wp_nothing p m

/-- Two obligations of one program are one. -/
theorem wp_both {α : Type} {post post' : Except Exc α → DeskMoment → Prop} {p : Desk α}
    {m : DeskMoment} (first : wp (deskLogic around assume) post p m)
    (second : wp (deskLogic around assume) post' p m) :
    wp (deskLogic around assume) (fun result m' => post result m' ∧ post' result m') p m :=
  wp_conj first second

/-- What an obligation of the desk says of a complete run from a world. -/
theorem desk_run {α : Type} {post : Except Exc α → DeskMoment → Prop} {p : Desk α}
    {world : DeskWorld} {final : DeskMoment} {result : Except Exc α}
    (run : p.Runs (DeskServe around) ⟨world, []⟩ result final)
    (assumed : ∀ e ∈ final.events, assume e)
    (obligation : wp (deskLogic around assume) post p ⟨world, []⟩) : post result final :=
  plain_run run assumed obligation

/-- An exit through `unavailable`: an error, behind a trip. -/
theorem wp_unavailable {α : Type} {reason message : String} {m : DeskMoment}
    {post : Except Exc α → DeskMoment → Prop}
    (exits : ∀ exc reply after, DeskServe around (.trip reason) m.world reply after →
      assume (m.event (S := deskEffects) (.trip reason) reply after) →
      post (.error exc) (m.push (S := deskEffects) (.trip reason) reply after)) :
    wp (deskLogic around assume) post (unavailable reason message) m := by
  refine wp_bind.2 (wp_desk fun reply after served assumed => ?_)
  cases reply with
  | ok value => exact exits _ _ after served assumed
  | error exc => exact exits exc _ after served assumed

/-- Reporting and saving return what was found, whatever happens on the way. -/
theorem respond_returns (wiring : Wiring) (authoritative : PortfolioState)
    (discrepancies : List Discrepancy) {m : DeskMoment} :
    wp (deskLogic around assume) (fun result _ => ∀ value, result = .ok value →
        value.discrepancies = discrepancies ∧ value.authoritative = authoritative)
      (respond wiring authoritative discrepancies) m := by
  have raised : ∀ {exc : Exc} (value : ReconciliationResult), Except.error exc = .ok value →
      value.discrepancies = discrepancies ∧ value.authoritative = authoritative := by
    intro exc value never
    cases never
  refine wp_bind.2 (wp_mono (wp_any _ m) ?_)
  rintro (exc | _) m₁ _
  · exact raised
  refine wp_bind.2 (wp_mono (wp_any _ m₁) ?_)
  rintro (exc | _) m₂ _
  · exact raised
  refine wp_bind.2 (wp_mono (wp_any _ m₂) ?_)
  rintro (exc | _) m₃ _
  · exact raised
  · rintro value ⟨⟩
    exact ⟨rfl, rfl⟩

end Obligations

/-! ## Playing a run out -/

/-- What a cast leaves to fix: what the broker answers and the fills it has by then, what
the callbacks and the hooks do, and what refreshing an order does. -/
structure DeskCast where
  read : (op : ReadOp) → DeskMoment → Except Exc op.Reply × List Fill
  report : ReportOp → Except Exc Unit := fun _ => .ok ()
  refresh : String → DeskMoment → Except Exc Unit × Tracking := fun _ m => (.ok (), m.world.tracking)

namespace DeskCast

variable (cast : DeskCast)

/-- A trip of the switch with nothing in its way. -/
def tripped (reason : String) (switch : SwitchWorld) : Except Exc Unit × Instant :=
  (KillSwitch.trip KillSwitch.allConfigured reason).play KillSwitch.quiet.script
    ⟨{ KillSwitch.haltedWorld with switch }, []⟩

def schedule : (op : ScheduleOp) → DeskMoment → Except Exc op.Reply × DeskWorld
  | .load, m => (.ok m.world.tracking, m.world)
  | .save tracking, m => (.ok (), { m.world with tracking })
  | .needsRefresh key order, m => (.ok (m.world.tracking.needsRefresh key order), m.world)
  | .refreshOrder key, m => ((cast.refresh key m).1, { m.world with tracking := (cast.refresh key m).2 })
  | .utcNow, m => (.ok 0, m.world)
  | .onDivergence _, m => (.ok (), m.world)
  | .onUnavailable _, m => (.ok (), m.world)
  | .onReconciled _, m => (.ok (), m.world)

def script : Script deskEffects Exc DeskWorld
  | .read op, m => ((cast.read op m).1, { m.world with venue := (cast.read op m).2 })
  | .report op, m => (cast.report op, m.world)
  | .schedule op, m => cast.schedule op m
  | .trip reason, m => ((tripped reason m.world.switch).1,
      { m.world with switch := (tripped reason m.world.switch).2.world.switch })

variable {cast}

theorem tripped_trips (reason : String) (switch : SwitchWorld) :
    Trips KillSwitch.allConfigured reason switch (tripped reason switch).1
      (tripped reason switch).2.world.switch :=
  .run (Prog.play_runs KillSwitch.quiet_sound _ ⟨{ KillSwitch.haltedWorld with switch }, []⟩)

theorem sound {around : Surroundings} (configured : around.switch = KillSwitch.allConfigured)
    (still : ∀ world, around.meanwhile world world)
    (reads : ∀ op (m : DeskMoment), around.meanwhile m.world { m.world with venue := (cast.read op m).2 } ∧
      around.answers op { m.world with venue := (cast.read op m).2 } (cast.read op m).1)
    (refreshes : ∀ key m, around.refreshes key m.world (cast.refresh key m).1
      { m.world with tracking := (cast.refresh key m).2 }) :
    cast.script.Sound (DeskServe around) := by
  intro op m
  cases op with
  | read op => exact reads op m
  | report op => exact still _
  | schedule op =>
      cases op with
      | load => exact ⟨rfl, rfl⟩
      | save tracking => exact ⟨rfl, rfl⟩
      | needsRefresh key order => exact ⟨rfl, rfl⟩
      | refreshOrder key => exact refreshes key m
      | utcNow => exact ⟨⟨0, rfl⟩, still _⟩
      | onDivergence discrepancies => exact still _
      | onUnavailable detail => exact still _
      | onReconciled state => exact still _
  | trip reason => exact ⟨_, configured ▸ tripped_trips reason _, rfl⟩

end DeskCast

/-- The broker may answer anything; the callbacks may do anything but re-arm the switch. -/
def unreliable : Surroundings where
  switch := KillSwitch.allConfigured
  answers _ _ _ := True
  meanwhile before after := KillSwitch.severity before.state ≤ KillSwitch.severity after.state
  refreshes _ before _ after := KillSwitch.severity before.state ≤ KillSwitch.severity after.state

theorem unreliable_sound (cast : DeskCast) : cast.script.Sound (DeskServe unreliable) :=
  DeskCast.sound rfl (fun _ => le_refl _) (fun _ _ => ⟨le_refl _, trivial⟩) fun _ _ => le_refl _

def Tracking.start : Tracking where
  baselinePositions := []
  baselineBalances := []
  orders := .empty
  fills := .empty
  appliedFillIds := []
  status := ⟨0, 0, 0, 0, 0, none, .notRun, 0⟩

/-- A running switch, and nothing tracked. -/
def DeskWorld.start : DeskWorld := ⟨⟨⟨.running, [], []⟩, none, []⟩, .start, []⟩

end AlgoTrader.Portfolio
