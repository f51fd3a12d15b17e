/-
# Api.OperatorState -- what the operator sees, written by many

The operator's page is one immutable snapshot.  Alerts that are sent, dismissals, refreshes,
heartbeats and the runtime all replace it, and every one of them may wait in between: for a broker,
for a thread, for a notification to go out.

The methods are programs over the services they use; `awaits` says at which requests they give way.
An await that does not suspend is one after which the same program goes on at once.

* `emitAlert_meets`, `dismissAlerts_meets`, `unchanged_meets` -- what each turn of each method does
  to the alerts;
* `alerts_emitted`, `kept_run` -- what they are after any turns of any methods;
* `alerts_kept` -- no alert is lost, and none is marked but by a dismissal that covers it.
-/
import AlgoTrader.Core.Calendar
import AlgoTrader.Core.Models
import AlgoTrader.Theory.Dict
import AlgoTrader.Theory.Tasks
import AlgoTrader.Theory.Frames

namespace AlgoTrader.Api.OperatorState

open AlgoTrader.Core
open AlgoTrader.Theory

set_option autoImplicit false

/-! ## The snapshot -/

/-- `datetime.isoformat`, in UTC. -/
def isoformat (t : DateTime) : String :=
  String.ofList (DateTime.decimals 4 t.year ++ '-' :: DateTime.decimals 2 t.month ++
    '-' :: DateTime.decimals 2 t.day ++ 'T' :: DateTime.decimals 2 t.hour ++
    ':' :: DateTime.decimals 2 t.minute ++ ':' :: DateTime.decimals 2 t.second ++
    (if t.microsecond = 0 then [] else '.' :: DateTime.decimals 6 t.microsecond) ++ "+00:00".toList)

structure Alert where
  condition : String
  severity : String
  message : String
  createdAt : DateTime

structure AlertDelivery where
  destination : String
  status : String
  error : Option String

structure Dismissal where
  dismissedAt : String
  dismissedBy : String
  deriving DecidableEq

/-- An alert as the snapshot holds it. -/
structure AlertRecord where
  condition : String
  severity : String
  message : String
  createdAt : String
  deliveries : List (String × String)
  dismissed : Option Dismissal
  deriving DecidableEq

structure ErrorRecord where
  condition : String
  message : String
  createdAt : String

structure StrategyHeartbeat where
  name : String
  version : String
  status : String
  lastSeen : Option DateTime
  detail : String

structure DayPnl where
  status : String
  detail : String
  amount : Option Decimal
  asOf : Option DateTime

structure FillCost where
  symbol : String
  quantity : Decimal
  averagePrice : Option Decimal
  reason : Option String

structure OperatorSnapshot where
  connectivityStatus : String
  connectivityDetail : String
  connectivityCheckedAt : Option DateTime
  portfolioStatus : String
  portfolioDetail : String
  balances : List Balance
  positions : List Position
  pnlStatus : String
  pnlDetail : String
  pnlAsOf : Option DateTime
  positionCosts : List FillCost
  orders : List Order
  fills : List Fill
  signals : List Signal
  strategyVersion : String
  strategyHeartbeats : List StrategyHeartbeat
  runtimeStatus : String
  runtimeDetail : String
  runtimeLastCycleAt : Option DateTime
  runtimeLastCycleStatus : Option String
  alerts : List AlertRecord
  errors : List ErrorRecord
  updatedAt : DateTime

def StrategyHeartbeat.registered (name version : String) : StrategyHeartbeat :=
  ⟨name, version, "unknown", none, "heartbeat has not been received"⟩

/-- The snapshot `OperatorState.__init__` makes. -/
def OperatorSnapshot.new (strategyVersion : String) (now : DateTime) : OperatorSnapshot where
  connectivityStatus := "not_configured"
  connectivityDetail := "no broker is configured"
  connectivityCheckedAt := none
  portfolioStatus := "unavailable"
  portfolioDetail := "portfolio data is unavailable"
  balances := []
  positions := []
  pnlStatus := "unavailable"
  pnlDetail := "valuation data is unavailable"
  pnlAsOf := none
  positionCosts := []
  orders := []
  fills := []
  signals := []
  strategyVersion := strategyVersion
  strategyHeartbeats := [.registered "primary" strategyVersion]
  runtimeStatus := "not_started"
  runtimeDetail := "paper runtime has not started"
  runtimeLastCycleAt := none
  runtimeLastCycleStatus := none
  alerts := []
  errors := []
  updatedAt := now

def DayPnl.unavailable (reason : String) : DayPnl := ⟨"unavailable", reason, none, none⟩

def FillCost.unknown (symbol : String) (quantity : Decimal) (reason : String) : FillCost :=
  ⟨symbol, quantity, none, some reason⟩

/-! ## The services -/

/-- The payload of an `alerts_dismissed` event. -/
structure DismissalEvent where
  actor : String
  count : Nat
  newestAlertAt : String

inductive Op where
  /-- Reading `self.snapshot`. -/
  | snapshot
  /-- Assigning to `self.snapshot`. -/
  | assign (snapshot : OperatorSnapshot)
  | utcNow
  /-- Whether a destination of alerts is configured. -/
  | sink (destination : String)
  | send (destination : String) (alert : Alert)
  /-- `journal.record`. -/
  | record (eventType : String) (payload : DismissalEvent) (now : DateTime)
  /-- `self.broker is not None`. -/
  | broker
  | getBalances
  | getPositions
  /-- `self.day_pnl is not None`. -/
  | dayPnl
  /-- `self.day_pnl.read`, in a thread. -/
  | readDayPnl
  /-- `self.fill_costs is not None`. -/
  | fillCosts
  /-- `self.fill_costs.read`, in a thread. -/
  | readFillCosts (positions : List Position)
  /-- `request.body()`. -/
  | body

abbrev Services : Signature where
  Op := Op
  Reply
    | .snapshot => OperatorSnapshot
    | .assign _ => Unit
    | .utcNow => DateTime
    | .sink _ => Bool
    | .send _ _ => Unit
    | .record _ _ _ => Unit
    | .broker => Bool
    | .getBalances => List Balance
    | .getPositions => List Position
    | .dayPnl => Bool
    | .readDayPnl => DayPnl
    | .fillCosts => Bool
    | .readFillCosts _ => Dict String FillCost
    | .body => Unit

inductive Raised where
  /-- What an `except Exception` catches. -/
  | exception
  | http (statusCode : Nat) (detail : String)
  /-- `asyncio.CancelledError`, which is no `Exception`. -/
  | cancelled
  deriving DecidableEq, Repr

abbrev Method (α : Type) := Prog Services Raised α

/-- A write to the journal, and whether the event was saved. -/
structure Attempt where
  eventType : String
  payload : DismissalEvent
  now : DateTime
  saved : Bool

/-- The snapshot, and what the journal was asked to save. -/
structure World where
  snapshot : OperatorSnapshot
  journal : List Attempt

def World.tried (world : World) (attempt : Attempt) : World :=
  { world with journal := world.journal ++ [attempt] }

/-- Reading and assigning an attribute and asking the clock are exact and do not fail; everything else
may reply anything, and nothing but an assignment changes the snapshot. -/
def serve : Service Services Raised World
  | .snapshot, world, reply, after_ => reply = .ok world.snapshot ∧ after_ = world
  | .assign snapshot, world, reply, after_ => reply = .ok () ∧ after_ = { world with snapshot }
  | .utcNow, world, reply, after_ => (∃ now, reply = .ok now) ∧ after_ = world
  | .sink _, world, reply, after_ => (∃ configured, reply = .ok configured) ∧ after_ = world
  | .broker, world, reply, after_ => (∃ configured, reply = .ok configured) ∧ after_ = world
  | .dayPnl, world, reply, after_ => (∃ configured, reply = .ok configured) ∧ after_ = world
  | .fillCosts, world, reply, after_ => (∃ configured, reply = .ok configured) ∧ after_ = world
  | .record eventType payload now, world, reply, after_ =>
      reply ≠ .error .cancelled ∧ after_ = world.tried ⟨eventType, payload, now, reply.isOk⟩
  | .send _ _, world, _, after_ => after_ = world
  | .getBalances, world, _, after_ => after_ = world
  | .getPositions, world, _, after_ => after_ = world
  | .readDayPnl, world, _, after_ => after_ = world
  | .readFillCosts _, world, _, after_ => after_ = world
  | .body, world, _, after_ => after_ = world

/-- The requests that are awaited. -/
def awaits : Op → Bool
  | .send _ _ | .getBalances | .getPositions | .readDayPnl | .readFillCosts _ | .body => true
  | _ => false

def loop : Loop Services Raised World := ⟨serve, awaits⟩

/-- `except Exception`. -/
def orElse {α : Type} (p : Method α) (handler : Method α) : Method α := do
  match ← p.attempt with
  | .ok value => return value
  | .error .cancelled => .raise .cancelled
  | .error _ => handler

/-! ## The methods -/

def ask (op : Op) : Method (Services.Reply op) := Prog.call (S := Services) op

/-- `self.snapshot = replace(self.snapshot, ...)`: the snapshot is read, what it is replaced with is
worked out, and it is assigned. -/
def replace (change : OperatorSnapshot → DateTime → OperatorSnapshot) : Method Unit := do
  let snapshot ← ask .snapshot
  let now ← ask .utcNow
  ask (.assign (change snapshot now))

def registerStrategy (name version : String) : Method Unit := do
  let snapshot ← ask .snapshot
  let heartbeats := snapshot.strategyHeartbeats.filter (·.name ≠ name)
  let snapshot ← ask .snapshot
  ask (.assign { snapshot with strategyHeartbeats := heartbeats ++ [.registered name version] })

def heartbeat (name status detail : String) : Method Unit := do
  let snapshot ← ask .snapshot
  let heartbeats ← Prog.each (fun item : StrategyHeartbeat =>
    if item.name = name then do
      let now ← ask .utcNow
      return { item with status, lastSeen := some now, detail }
    else return item) snapshot.strategyHeartbeats
  if snapshot.strategyHeartbeats.any (·.name = name) then
    let snapshot ← ask .snapshot
    ask (.assign { snapshot with strategyHeartbeats := heartbeats })
  else
    let now ← ask .utcNow
    let snapshot ← ask .snapshot
    ask (.assign { snapshot with
      strategyHeartbeats := heartbeats ++ [⟨name, "unknown", status, some now, detail⟩] })

def setLocalData (orders : List Order) (fills : List Fill) (signals : List Signal)
    (strategyVersion : Option String) : Method Unit :=
  replace fun snapshot now => { snapshot with
    orders, fills, signals
    strategyVersion := (strategyVersion.filter (· ≠ "")).getD snapshot.strategyVersion
    updatedAt := now }

def setRuntime (status detail : String) (cycleStatus : Option String) (cycleAt : Option DateTime) :
    Method Unit :=
  replace fun snapshot now => { snapshot with
    runtimeStatus := status
    runtimeDetail := detail
    runtimeLastCycleStatus := cycleStatus
    runtimeLastCycleAt := cycleAt
    updatedAt := now }

def refreshPortfolio : Method Unit := do
  let now ← ask .utcNow
  if ← ask .broker then
    let read : Method (List Balance × List Position) := do
      let balances ← ask .getBalances
      let positions ← ask .getPositions
      return (balances, positions)
    match ← read.attempt with
    | .ok (balances, positions) =>
        let snapshot ← ask .snapshot
        ask (.assign { snapshot with
          connectivityStatus := "healthy"
          connectivityDetail := "broker state refreshed"
          connectivityCheckedAt := some now
          portfolioStatus := "current"
          portfolioDetail := "broker-authoritative snapshot"
          balances, positions
          updatedAt := now })
    | .error .cancelled => .raise .cancelled
    | .error _ =>
        let snapshot ← ask .snapshot
        ask (.assign { snapshot with
          connectivityStatus := "unavailable"
          connectivityDetail := "broker is unavailable; portfolio data is not current"
          connectivityCheckedAt := some now
          portfolioStatus := "unavailable"
          portfolioDetail := "last-known values are retained for diagnosis only"
          errors := snapshot.errors ++
            [⟨"broker_unavailable", "broker refresh failed", isoformat now⟩]
          updatedAt := now })
  else
    let snapshot ← ask .snapshot
    ask (.assign { snapshot with
      connectivityStatus := "not_configured"
      connectivityDetail := "no broker is configured"
      connectivityCheckedAt := some now
      portfolioStatus := "unavailable"
      portfolioDetail := "broker portfolio data is unavailable"
      updatedAt := now })

def refreshPnl : Method Unit := do
  if ← ask .dayPnl then
    let result ← orElse (ask .readDayPnl)
      (return .unavailable "the saved equity history could not be read")
    let snapshot ← ask .snapshot
    ask (.assign { snapshot with
      pnlStatus := result.status
      pnlDetail := result.detail
      pnlAsOf := result.asOf })
  else return

def refreshFillCosts : Method Unit := do
  if ← ask .fillCosts then
    let positions := (← ask .snapshot).positions
    let costs ← orElse (ask (.readFillCosts positions))
      (return Dict.ofList ((positions.filter (·.averagePrice = none)).map fun item =>
        (item.symbol, FillCost.unknown item.symbol item.quantity "our saved fills could not be read")))
    let snapshot ← ask .snapshot
    ask (.assign { snapshot with positionCosts := costs.values })
  else return

def refresh : Method OperatorSnapshot := do
  refreshPortfolio
  refreshPnl
  refreshFillCosts
  ask .snapshot

/-- The attempt at one destination of `AlertRouter.route`. -/
def deliver (alert : Alert) (destination : String) : Method (List AlertDelivery) := do
  if ← ask (.sink destination) then
    orElse (do ask (.send destination alert); return [⟨destination, "sent", none⟩])
      (return [⟨destination, "failed", some "delivery failed"⟩])
  else return []

/-- `AlertRouter.route`. -/
def route (alert : Alert) : Method (List AlertDelivery) := do
  let deliveries ← Prog.each (deliver alert) ["phone_push", "email"]
  return deliveries.flatten

def alertRecord (alert : Alert) (deliveries : List AlertDelivery) : AlertRecord where
  condition := alert.condition
  severity := alert.severity
  message := alert.message
  createdAt := isoformat alert.createdAt
  deliveries := deliveries.map fun item => (item.destination, item.status)
  dismissed := none

def emitAlert (alert : Alert) : Method (List AlertDelivery) := do
  let deliveries ← route alert
  replace fun snapshot now => { snapshot with
    alerts := snapshot.alerts ++ [alertRecord alert deliveries]
    updatedAt := now }
  return deliveries

/-- How many alerts a dismissal covers: the length of `alerts[: max(through, 0)]`. -/
def covered (alerts : List AlertRecord) (through : Int) : Nat := min (max through 0).toNat alerts.length

/-- The alerts of those that are not marked. -/
def fresh (alerts : List AlertRecord) : List AlertRecord := alerts.filter (·.dismissed = none)

def newest (alerts : List AlertRecord) : String :=
  (alerts.map (·.createdAt)).foldl (fun a b => if a < b then b else a) ""

def marked (alerts : List AlertRecord) (through : Int) (now : DateTime) (actor : String) :
    List AlertRecord :=
  alerts.mapIdx fun index alert =>
    if index < covered alerts through ∧ alert.dismissed = none then
      { alert with dismissed := some ⟨isoformat now, actor⟩ }
    else alert

def dismissAlerts (through : Int) (actor : String) : Method Nat := do
  let alerts := (← ask .snapshot).alerts
  let new := fresh (alerts.take (covered alerts through))
  if new.isEmpty then return 0
  else
    let now ← ask .utcNow
    ask (.record "alerts_dismissed" ⟨actor, new.length, newest new⟩ now)
    let snapshot ← ask .snapshot
    ask (.assign { snapshot with alerts := marked alerts through now actor, updatedAt := now })
    return new.length

/-- The route: what `_authorize` says of the request, the count `_parse_dismiss_through` reads in its
body, and whether there is a journal. -/
def dismissAlertsRoute (role : Except Raised String) (through : Option Nat) (journal : Bool) :
    Method Nat := do
  match role with
  | .error refused => .raise refused
  | .ok role =>
      ask .body
      match through with
      | none => .raise (.http 422 "through must be the number of alerts the page showed")
      | some through =>
          if journal then
            orElse (dismissAlerts through role)
              (.raise (.http 503 "alerts were not dismissed: the event could not be saved"))
          else .raise (.http 503 "alerts were not dismissed: the event journal is unavailable")

/-- What the rest of the application calls. -/
inductive Call where
  | registerStrategy (name version : String)
  | heartbeat (name status detail : String)
  | setLocalData (orders : List Order) (fills : List Fill) (signals : List Signal)
      (strategyVersion : Option String)
  | setRuntime (status detail : String) (cycleStatus : Option String) (cycleAt : Option DateTime)
  | refresh
  | emitAlert (alert : Alert)
  | dismissAlerts (through : Int) (actor : String)
  | dismissAlertsRoute (role : Except Raised String) (through : Option Nat) (journal : Bool)

inductive Returned where
  | none
  | snapshot (snapshot : OperatorSnapshot)
  | deliveries (deliveries : List AlertDelivery)
  | dismissed (count : Nat)

def method : Call → Method Returned
  | .registerStrategy name version => do
      registerStrategy name version
      return .none
  | .heartbeat name status detail => do
      heartbeat name status detail
      return .none
  | .setLocalData orders fills signals strategyVersion => do
      setLocalData orders fills signals strategyVersion
      return .none
  | .setRuntime status detail cycleStatus cycleAt => do
      setRuntime status detail cycleStatus cycleAt
      return .none
  | .refresh => do return .snapshot (← refresh)
  | .emitAlert alert => do return .deliveries (← emitAlert alert)
  | .dismissAlerts through actor => do return .dismissed (← dismissAlerts through actor)
  | .dismissAlertsRoute role through journal => do
      return .dismissed (← dismissAlertsRoute role through journal)

abbrev Turn := Taken Raised Call Returned

abbrev State := Pool Services Raised World Call Returned

/-! ## What a turn does to the alerts -/

namespace Call

/-- The count and the actor of a dismissal. -/
def dismissal : Call → Option (Int × String)
  | dismissAlerts through actor => some (through, actor)
  | dismissAlertsRoute (.ok role) (some through) _ => some (through, role)
  | _ => none

end Call

inductive Effect where
  | appends (alert : AlertRecord)
  | marks (through : Int) (actor : String)
  | nothing

def Effect.On : Effect → List AlertRecord → List AlertRecord → Prop
  | .appends alert, alerts, after_ => after_ = alerts ++ [alert]
  | .marks through actor, alerts, after_ => ∃ now, after_ = marked alerts through now actor
  | .nothing, alerts, after_ => after_ = alerts

def Effect.appended : Effect → Option AlertRecord
  | .appends alert => some alert
  | _ => none

/-- An emission that completes appends its alert, a dismissal that completes marks those it covers, and
no other turn does anything to the alerts. -/
def effect (call : Call) (outcome : Option (Except Raised Returned)) : Effect :=
  match call, call.dismissal, outcome with
  | .emitAlert alert, _, some (.ok (.deliveries deliveries)) => .appends (alertRecord alert deliveries)
  | _, some (through, actor), some (.ok _) => .marks through actor
  | _, _, _ => .nothing

/-- What every turn is obliged to. -/
structure Changes (call : Call) (outcome : Option (Except Raised Returned)) (world after_ : World) :
    Prop where
  alerts : (effect call outcome).On world.snapshot.alerts after_.snapshot.alerts
  raised : call.dismissal.isSome → ∀ error, outcome = some (.error error) →
    after_.snapshot = world.snapshot
  journal : call.dismissal.isSome → ∃ tried, after_.journal = world.journal ++ tried ∧
    (∀ attempt ∈ tried, attempt.saved = false → after_.snapshot = world.snapshot) ∧
    (after_.snapshot = world.snapshot ∨ ∃ attempt ∈ tried, attempt.saved = true)

/-- The alerts of the emissions that have completed, in the order they did. -/
def emitted (turns : List Turn) : List AlertRecord :=
  turns.filterMap fun taken => (effect taken.call taken.outcome).appended

section Programs

variable {α β : Type}

abbrev SameAlerts (world after_ : World) : Prop := after_.snapshot.alerts = world.snapshot.alerts

/-- A program that leaves the alerts as they are, in every turn. -/
def Plain (p : Method α) : Prop :=
  ∀ turn : World × World, SameAlerts turn.1 turn.2 →
    wp (loop.logic SameAlerts) (fun _ turn => SameAlerts turn.1 turn.2) p turn

theorem plain_pure (value : α) : Plain (pure value) := fun _ same => same

theorem plain_raise (error : Raised) : Plain (.raise error : Method α) := fun _ same => same

theorem plain_bind {p : Method α} {f : α → Method β} (first : Plain p) (rest : ∀ value, Plain (f value)) :
    Plain (p >>= f) := Sustains.bind first rest

theorem plain_attempt {p : Method α} (inside : Plain p) : Plain p.attempt := Sustains.attempt inside

theorem plain_orElse {p handler : Method α} (inside : Plain p) (handles : Plain handler) :
    Plain (orElse p handler) := by
  refine plain_bind (plain_attempt inside) fun result => ?_
  cases result with
  | ok value => exact plain_pure value
  | error error =>
      cases error with
      | cancelled => exact plain_raise _
      | exception => exact handles
      | http statusCode detail => exact handles

theorem plain_each {γ : Type} {f : γ → Method β} (xs : List γ) (body : ∀ x, Plain (f x)) :
    Plain (Prog.each f xs) := sustains_each body xs

/-- Neither an assignment nor a write to the journal. -/
def Op.quiet : Op → Bool
  | .assign _ | .record _ _ _ => false
  | _ => true

theorem serve_quiet {op : Op} {world after_ : World} {reply : Except Raised (Services.Reply op)}
    (quiet : op.quiet = true) (served : serve op world reply after_) : after_ = world := by
  cases op with
  | assign snapshot => cases quiet
  | record eventType payload now => cases quiet
  | snapshot => exact served.2
  | utcNow => exact served.2
  | sink destination => exact served.2
  | broker => exact served.2
  | dayPnl => exact served.2
  | fillCosts => exact served.2
  | send destination alert => exact served
  | getBalances => exact served
  | getPositions => exact served
  | readDayPnl => exact served
  | readFillCosts positions => exact served
  | body => exact served

theorem plain_ask {op : Op} (quiet : op.quiet = true) : Plain (ask op) := by
  intro turn same
  cases waits : loop.waits op with
  | true =>
      refine (Loop.wp_waits waits).2 ⟨same, fun before reply after_ served => ?_⟩
      rw [serve_quiet quiet served]
  | false =>
      refine (Loop.wp_keeps waits).2 fun reply after_ served => ?_
      rw [serve_quiet quiet served]
      exact same

theorem wp_snapshot {gives : World → World → Prop}
    {post : Except Raised β → World × World → Prop} {f : OperatorSnapshot → Method β}
    {turn : World × World} :
    wp (loop.logic gives) post (ask .snapshot >>= f) turn ↔
      wp (loop.logic gives) post (f turn.2.snapshot) turn := by
  rw [wp_bind, ask, Loop.wp_keeps rfl]
  constructor
  · intro replied
    exact replied (.ok turn.2.snapshot) turn.2 ⟨rfl, rfl⟩
  · rintro obligation _ _ ⟨rfl, rfl⟩
    exact obligation

theorem wp_utcNow {gives : World → World → Prop}
    {post : Except Raised β → World × World → Prop} {f : DateTime → Method β}
    {turn : World × World} (each : ∀ now, wp (loop.logic gives) post (f now) turn) :
    wp (loop.logic gives) post (ask .utcNow >>= f) turn := by
  rw [wp_bind, ask, Loop.wp_keeps rfl]
  rintro _ _ ⟨⟨now, rfl⟩, rfl⟩
  exact each now

theorem wp_assign {gives : World → World → Prop}
    {post : Except Raised Unit → World × World → Prop} {snapshot : OperatorSnapshot}
    {turn : World × World} (assigned : post (.ok ()) (turn.1, { turn.2 with snapshot })) :
    wp (loop.logic gives) post (ask (.assign snapshot)) turn := by
  refine (Loop.wp_keeps rfl).2 ?_
  rintro _ _ ⟨rfl, rfl⟩
  exact assigned

/-- The snapshot is read and replaced within one turn. -/
theorem plain_update {change : OperatorSnapshot → OperatorSnapshot}
    (same : ∀ snapshot, (change snapshot).alerts = snapshot.alerts) :
    Plain (do let snapshot ← ask .snapshot; ask (.assign (change snapshot))) :=
  fun turn so => wp_snapshot.2 (wp_assign ((same turn.2.snapshot).trans so))

theorem wp_replace {gives : World → World → Prop}
    {post : Except Raised Unit → World × World → Prop}
    {change : OperatorSnapshot → DateTime → OperatorSnapshot} {turn : World × World}
    (replaced : ∀ now, post (.ok ()) (turn.1, { turn.2 with snapshot := change turn.2.snapshot now })) :
    wp (loop.logic gives) post (replace change) turn :=
  wp_snapshot.2 (wp_utcNow fun now => wp_assign (replaced now))

end Programs

/-! ## The methods that leave the alerts as they are -/

theorem registerStrategy_plain (name version : String) : Plain (registerStrategy name version) :=
  plain_bind (plain_ask rfl) fun _ => plain_update fun _ => rfl

theorem heartbeat_plain (name status detail : String) : Plain (heartbeat name status detail) := by
  refine plain_bind (plain_ask rfl) fun snapshot => ?_
  refine plain_bind (plain_each _ fun item => ?_) fun heartbeats => ?_
  · split
    · exact plain_bind (plain_ask rfl) fun _ => plain_pure _
    · exact plain_pure _
  · split
    · exact plain_update fun _ => rfl
    · exact plain_bind (plain_ask rfl) fun _ => plain_update fun _ => rfl

theorem plain_replace {change : OperatorSnapshot → DateTime → OperatorSnapshot}
    (same : ∀ snapshot now, (change snapshot now).alerts = snapshot.alerts) : Plain (replace change) :=
  fun turn so => wp_replace fun now => (same turn.2.snapshot now).trans so

theorem setLocalData_plain (orders : List Order) (fills : List Fill) (signals : List Signal)
    (strategyVersion : Option String) : Plain (setLocalData orders fills signals strategyVersion) :=
  plain_replace fun _ _ => rfl

theorem setRuntime_plain (status detail : String) (cycleStatus : Option String)
    (cycleAt : Option DateTime) : Plain (setRuntime status detail cycleStatus cycleAt) :=
  plain_replace fun _ _ => rfl

theorem refreshPortfolio_plain : Plain refreshPortfolio := by
  refine plain_bind (plain_ask rfl) fun now => ?_
  refine plain_bind (plain_ask rfl) fun configured => ?_
  split
  · refine plain_bind (plain_attempt ?_) fun read => ?_
    · exact plain_bind (plain_ask rfl) fun _ =>
        plain_bind (plain_ask rfl) fun _ => plain_pure _
    · split
      · exact plain_update fun _ => rfl
      · exact plain_raise _
      · exact plain_update fun _ => rfl
  · exact plain_update fun _ => rfl

theorem refreshPnl_plain : Plain refreshPnl := by
  refine plain_bind (plain_ask rfl) fun configured => ?_
  split
  · exact plain_bind (plain_orElse (plain_ask rfl) (plain_pure _)) fun _ =>
      plain_update fun _ => rfl
  · exact plain_pure _

theorem refreshFillCosts_plain : Plain refreshFillCosts := by
  refine plain_bind (plain_ask rfl) fun configured => ?_
  split
  · refine plain_bind (plain_ask rfl) fun snapshot => ?_
    exact plain_bind (plain_orElse (plain_ask rfl) (plain_pure _)) fun _ =>
      plain_update fun _ => rfl
  · exact plain_pure _

theorem refresh_plain : Plain refresh :=
  plain_bind refreshPortfolio_plain fun _ => plain_bind refreshPnl_plain fun _ =>
    plain_bind refreshFillCosts_plain fun _ => plain_ask rfl

theorem route_plain (alert : Alert) : Plain (route alert) := by
  refine plain_bind (plain_each _ fun destination => ?_) fun _ => plain_pure _
  refine plain_bind (plain_ask rfl) fun configured => ?_
  split
  · refine plain_orElse (plain_bind (plain_ask rfl) fun _ => plain_pure _) (plain_pure _)
  · exact plain_pure _

/-! ## What each call is obliged to -/

/-- A call without a dismissal is obliged to its effect only. -/
theorem changes_of_effect {call : Call} {outcome : Option (Except Raised Returned)} {world after_ : World}
    (noDismissal : call.dismissal = none)
    (on : (effect call outcome).On world.snapshot.alerts after_.snapshot.alerts) :
    Changes call outcome world after_ := by
  have never : ¬call.dismissal.isSome := by simp [noDismissal]
  exact ⟨on, fun dismisses => absurd dismisses never, fun dismisses => absurd dismisses never⟩

/-- A turn without an effect that leaves the world as it is does what it is obliged to. -/
theorem changes_of_same {call : Call} {outcome : Option (Except Raised Returned)} {world : World}
    (noEffect : effect call outcome = .nothing) : Changes call outcome world world := by
  refine ⟨?_, fun _ _ _ => rfl, fun _ => ⟨[], (List.append_nil _).symm, fun _ _ _ => rfl, .inl rfl⟩⟩
  rw [noEffect]
  rfl

/-- A call without a dismissal, whose turns leave the alerts as they are. -/
theorem plain_meets {call : Call} {p : Method Returned} (plain : Plain p)
    (noDismissal : call.dismissal = none) (noEffect : ∀ outcome, effect call outcome = .nothing)
    (world : World) : loop.Meets Changes call p (world, world) := by
  have changes : ∀ outcome (w w' : World), SameAlerts w w' → Changes call outcome w w' := by
    intro outcome w w' same
    refine changes_of_effect noDismissal ?_
    rw [noEffect]
    exact same
  exact Loop.wp_gives (changes none)
    (wp_mono (plain (world, world) rfl) fun result turn same => changes (some result) turn.1 turn.2 same)

theorem emitAlert_meets (alert : Alert) (world : World) :
    loop.Meets Changes (.emitAlert alert) (method (.emitAlert alert)) (world, world) := by
  have gives : ∀ w w' : World, SameAlerts w w' → Changes (.emitAlert alert) none w w' :=
    fun w w' same => changes_of_effect rfl same
  refine wp_bind.2 (wp_bind.2 ?_)
  refine wp_mono (Loop.wp_gives gives (route_plain alert (world, world) rfl)) ?_
  rintro result ⟨start, here⟩ same
  have same : here.snapshot.alerts = start.snapshot.alerts := same
  cases result with
  | error error => exact changes_of_effect rfl same
  | ok deliveries =>
      refine wp_bind.2 (wp_replace fun now => changes_of_effect rfl ?_)
      show here.snapshot.alerts ++ [alertRecord alert deliveries] =
        start.snapshot.alerts ++ [alertRecord alert deliveries]
      rw [same]

theorem marked_of_none_fresh {alerts : List AlertRecord} {through : Int}
    (none_ : (fresh (alerts.take (covered alerts through))).isEmpty) (now : DateTime) (actor : String) :
    marked alerts through now actor = alerts := by
  have all : ∀ alert ∈ alerts.take (covered alerts through), alert.dismissed ≠ none := by
    simpa [fresh] using none_
  refine List.ext_getElem (by simp [marked]) fun i inside within => ?_
  simp only [marked, List.getElem_mapIdx]
  refine if_neg fun both => all _ ?_ both.2
  exact List.mem_take_iff_getElem.2 ⟨i, lt_min both.1 within, rfl⟩

/-- How a dismissal ends: there was nothing new, or what it covers is marked and that was saved before,
or it could not be saved. -/
inductive Dismissed (through : Int) (actor : String) (world : World) :
    Except Raised Nat → World → Prop where
  | nothing {now : DateTime}
      (same : marked world.snapshot.alerts through now actor = world.snapshot.alerts) :
      Dismissed through actor world (.ok 0) world
  | done {count : Nat} {now : DateTime} {attempt : Attempt} {after_ : World}
      (saved : attempt.saved = true) (journal : after_.journal = world.journal ++ [attempt])
      (alerts : after_.snapshot.alerts = marked world.snapshot.alerts through now actor) :
      Dismissed through actor world (.ok count) after_
  | failed {error : Raised} {attempt : Attempt} (notSaved : attempt.saved = false) :
      Dismissed through actor world (.error error) (world.tried attempt)

/-- A dismissal does all it does in one turn. -/
theorem dismissAlerts_wp {gives : World → World → Prop} (through : Int) (actor : String) (world : World) :
    wp (loop.logic gives) (fun result turn => turn.1 = world ∧
      Dismissed through actor world result turn.2) (dismissAlerts through actor) (world, world) := by
  refine wp_snapshot.2 ?_
  dsimp only
  split
  · rename_i none_
    exact ⟨rfl, .nothing (marked_of_none_fresh none_ world.snapshot.updatedAt actor)⟩
  · refine wp_utcNow fun now => wp_bind.2 ((Loop.wp_keeps rfl).2 ?_)
    rintro reply _ ⟨_, rfl⟩
    cases reply with
    | error error => exact ⟨rfl, .failed rfl⟩
    | ok _ => exact wp_snapshot.2 (wp_bind.2 (wp_assign ⟨rfl, .done rfl rfl rfl⟩))

/-- Whatever dismissal it was, its turn did what it is obliged to. -/
theorem Dismissed.changes {call : Call} {through : Int} {actor : String} {world after_ : World}
    {result : Except Raised Nat} (ended : Dismissed through actor world result after_)
    (completes : ∀ returned, effect call (some (.ok returned)) = .marks through actor)
    (raises : ∀ error, effect call (some (.error error)) = .nothing) :
    Changes call (some (result.map Returned.dismissed)) world after_ := by
  cases ended with
  | @nothing now same =>
      refine ⟨?_, fun _ error never => (by cases never),
        fun _ => ⟨[], (List.append_nil _).symm, fun _ _ _ => rfl, .inl rfl⟩⟩
      rw [show effect call (some (Except.map Returned.dismissed (.ok 0))) = _ from completes _]
      exact ⟨now, same.symm⟩
  | @done count now attempt _ saved journal alerts =>
      refine ⟨?_, fun _ error never => (by cases never),
        fun _ => ⟨[attempt], journal, ?_, .inr ⟨attempt, by simp, saved⟩⟩⟩
      · rw [show effect call (some (Except.map Returned.dismissed (.ok count))) = _ from completes _]
        exact ⟨now, alerts⟩
      · intro other member notSaved
        rw [List.mem_singleton.1 member, saved] at notSaved
        cases notSaved
  | @failed error attempt notSaved =>
      refine ⟨?_, fun _ _ _ => rfl, fun _ => ⟨[attempt], rfl, fun _ _ _ => rfl, .inl rfl⟩⟩
      rw [show effect call (some (Except.map Returned.dismissed (.error error))) = _ from raises _]
      rfl

theorem dismissAlerts_meets (through : Int) (actor : String) (world : World) :
    loop.Meets Changes (.dismissAlerts through actor) (method (.dismissAlerts through actor))
      (world, world) := by
  refine wp_bind.2 (wp_mono (dismissAlerts_wp through actor world) ?_)
  rintro result ⟨start, here⟩ ⟨began, ended⟩
  dsimp only at began ended
  subst began
  have changes : Changes (.dismissAlerts through actor) _ start here :=
    ended.changes (fun _ => rfl) fun _ => rfl
  cases result with
  | ok count => exact changes
  | error error => exact changes

theorem dismissAlertsRoute_meets (role : Except Raised String) (through : Option Nat) (journal : Bool)
    (world : World) : loop.Meets Changes (.dismissAlertsRoute role through journal)
      (method (.dismissAlertsRoute role through journal)) (world, world) := by
  have raises : ∀ error, effect (.dismissAlertsRoute role through journal) (some (.error error)) =
      .nothing := by
    intro error
    cases role <;> cases through <;> rfl
  have gives : effect (.dismissAlertsRoute role through journal) none = .nothing := by
    cases role <;> cases through <;> rfl
  refine wp_bind.2 ?_
  cases role with
  | error refused => exact changes_of_same (raises refused)
  | ok role =>
      refine wp_bind.2 ((Loop.wp_waits rfl).2 ⟨changes_of_same gives, ?_⟩)
      rintro _ reply before rfl
      cases reply with
      | error error => exact changes_of_same (raises error)
      | ok _ =>
          cases through with
          | none => exact changes_of_same (raises _)
          | some through =>
              cases journal with
              | false => exact changes_of_same (raises _)
              | true =>
                  refine wp_bind.2 (wp_attempt.2 (wp_mono (dismissAlerts_wp through role before) ?_))
                  rintro result ⟨start, here⟩ ⟨began, ended⟩
                  dsimp only at began ended
                  subst began
                  have changes : Changes (.dismissAlertsRoute (.ok role) (some through) true) _ start here :=
                    ended.changes (fun _ => rfl) fun _ => rfl
                  cases result with
                  | ok count => exact changes
                  | error error =>
                      -- What is raised in its place has the same effect.
                      have same : ∀ other, Changes (.dismissAlertsRoute (.ok role) (some through) true)
                          (some (.error other)) start here := fun other =>
                        ⟨changes.alerts, fun so _ _ => changes.raised so error rfl, changes.journal⟩
                      cases error with
                      | cancelled => exact same _
                      | exception => exact same _
                      | http statusCode detail => exact same _

theorem method_meets (call : Call) (world : World) :
    loop.Meets Changes call (method call) (world, world) := by
  cases call with
  | registerStrategy name version =>
      exact plain_meets (plain_bind (registerStrategy_plain name version) fun _ => plain_pure _) rfl
        (fun _ => rfl) world
  | heartbeat name status detail =>
      exact plain_meets (plain_bind (heartbeat_plain name status detail) fun _ => plain_pure _) rfl
        (fun _ => rfl) world
  | setLocalData orders fills signals strategyVersion =>
      exact plain_meets (plain_bind (setLocalData_plain orders fills signals strategyVersion)
        fun _ => plain_pure _) rfl (fun _ => rfl) world
  | setRuntime status detail cycleStatus cycleAt =>
      exact plain_meets (plain_bind (setRuntime_plain status detail cycleStatus cycleAt)
        fun _ => plain_pure _) rfl (fun _ => rfl) world
  | refresh =>
      exact plain_meets (plain_bind refresh_plain fun _ => plain_pure _) rfl (fun _ => rfl) world
  | emitAlert alert => exact emitAlert_meets alert world
  | dismissAlerts through actor => exact dismissAlerts_meets through actor world
  | dismissAlertsRoute role through journal => exact dismissAlertsRoute_meets role through journal world

/-! ## What the alerts are, after any turns -/

namespace AlertRecord

def unmarked (alert : AlertRecord) : AlertRecord := { alert with dismissed := none }

end AlertRecord

theorem marked_getElem? (alerts : List AlertRecord) (through : Int) (now : DateTime) (actor : String)
    (i : Nat) : (marked alerts through now actor)[i]? = alerts[i]?.map fun alert =>
      if i < covered alerts through ∧ alert.dismissed = none then
        { alert with dismissed := some ⟨isoformat now, actor⟩ }
      else alert := List.getElem?_mapIdx

theorem marked_unmarked (alerts : List AlertRecord) (through : Int) (now : DateTime) (actor : String) :
    (marked alerts through now actor).map AlertRecord.unmarked = alerts.map AlertRecord.unmarked := by
  apply List.ext_getElem?
  intro i
  rw [List.getElem?_map, List.getElem?_map, marked_getElem?, Option.map_map]
  congr 1
  funext alert
  dsimp only [Function.comp]
  split
  · rfl
  · rfl

/-- Every alert stands where it stood, and those that are marked stay as they are. -/
def Kept (alerts after_ : List AlertRecord) : Prop :=
  ∀ (i : Nat) (alert : AlertRecord), alerts[i]? = some alert → ∃ alert', after_[i]? = some alert' ∧
    alert'.unmarked = alert.unmarked ∧ (alert.dismissed.isSome → alert' = alert)

theorem Kept.refl (alerts : List AlertRecord) : Kept alerts alerts :=
  fun _ alert here => ⟨alert, here, rfl, fun _ => rfl⟩

theorem Kept.trans {alerts middle after_ : List AlertRecord} (first : Kept alerts middle)
    (rest : Kept middle after_) : Kept alerts after_ := by
  intro i alert here
  obtain ⟨alert', here', same, stays⟩ := first i alert here
  obtain ⟨alert'', here'', same', stays'⟩ := rest i alert' here'
  refine ⟨alert'', here'', same'.trans same, fun dismissed => ?_⟩
  have unchanged := stays dismissed
  subst unchanged
  exact stays' dismissed

theorem Effect.kept {effect : Effect} {alerts after_ : List AlertRecord} (on : effect.On alerts after_) :
    Kept alerts after_ := by
  cases effect with
  | nothing =>
      rw [show after_ = alerts from on]
      exact Kept.refl alerts
  | appends alert =>
      rw [show after_ = alerts ++ [alert] from on]
      intro i alert here
      have inside := (List.getElem?_eq_some_iff.1 here).1
      exact ⟨alert, (List.getElem?_append_left inside).trans here, rfl, fun _ => rfl⟩
  | marks through actor =>
      obtain ⟨now, rfl⟩ := on
      intro i alert here
      refine ⟨_, by rw [marked_getElem?, here]; rfl, ?_, fun dismissed => ?_⟩
      · dsimp only
        split
        · rfl
        · rfl
      · refine if_neg fun both => ?_
        rw [both.2] at dismissed
        cases dismissed

theorem Effect.unmarked {effect : Effect} {alerts after_ : List AlertRecord}
    (on : effect.On alerts after_) (new : ∀ alert ∈ effect.appended, alert.dismissed = none) :
    after_.map AlertRecord.unmarked =
      alerts.map AlertRecord.unmarked ++ effect.appended.toList := by
  cases effect with
  | nothing =>
      rw [show after_ = alerts from on]
      exact (List.append_nil _).symm
  | appends alert =>
      have bare : alert.unmarked = alert := by
        rw [AlertRecord.unmarked, ← new alert rfl]
      rw [show after_ = alerts ++ [alert] from on, List.map_append, List.map_singleton, bare]
      rfl
  | marks through actor =>
      obtain ⟨now, rfl⟩ := on
      rw [marked_unmarked]
      exact (List.append_nil _).symm

/-- An emission's alert comes unmarked. -/
theorem appended_unmarked (call : Call) (outcome : Option (Except Raised Returned)) :
    ∀ alert ∈ (effect call outcome).appended, alert.dismissed = none := by
  intro alert appended
  unfold effect at appended
  split at appended
  · cases appended
    rfl
  · cases appended
  · cases appended

theorem emitted_snoc (turns : List Turn) (taken : Turn) :
    emitted (turns ++ [taken]) =
      emitted turns ++ (effect taken.call taken.outcome).appended.toList := by
  rw [emitted, List.filterMap_append]
  cases found : (effect taken.call taken.outcome).appended with
  | none => simp [emitted, found]
  | some alert => simp [emitted, found]

section Runs

variable {strategyVersion : String} {now : DateTime} {turns : List Turn} {pool : State}

/-- The process as it starts. -/
def initial (strategyVersion : String) (now : DateTime) : State := ⟨⟨.new strategyVersion now, []⟩, []⟩

theorem initial_sound (strategyVersion : String) (now : DateTime) :
    loop.Sound Changes (initial strategyVersion now) := Loop.sound_empty _

/-- What is held, the marks aside, is what was emitted. -/
theorem alerts_emitted (run : loop.Run method (initial strategyVersion now) turns pool) :
    pool.world.snapshot.alerts.map AlertRecord.unmarked = emitted turns := by
  refine run.invariant
    (I := fun turns world => world.snapshot.alerts.map AlertRecord.unmarked = emitted turns)
    method_meets ?_ (initial_sound strategyVersion now) rfl
  intro turns taken world after_ so changes
  rw [emitted_snoc, ← so]
  exact Effect.unmarked changes.alerts (appended_unmarked taken.call taken.outcome)

theorem kept_run {more : List Turn} {later : State} (sound : loop.Sound Changes pool)
    (run : loop.Run method pool more later) :
    Kept pool.world.snapshot.alerts later.world.snapshot.alerts :=
  run.related (R := fun world after_ => Kept world.snapshot.alerts after_.snapshot.alerts) method_meets
    (fun world => Kept.refl world.snapshot.alerts) (fun first rest => first.trans rest)
    (fun _ _ _ _ changes => Effect.kept changes.alerts) sound

/-- A mark that was not there is that of the turn's dismissal, which covers the alert. -/
theorem Changes.mark {call : Call} {outcome : Option (Except Raised Returned)} {world after_ : World}
    (changes : Changes call outcome world after_) {i : Nat} {alert : AlertRecord}
    (here : after_.snapshot.alerts[i]? = some alert) (dismissed : alert.dismissed.isSome) :
    world.snapshot.alerts[i]? = some alert ∨ ∃ through actor at_ returned,
      call.dismissal = some (through, actor) ∧ outcome = some (.ok returned) ∧ (i : Int) < through ∧
        alert.dismissed = some ⟨isoformat at_, actor⟩ := by
  have on := changes.alerts
  unfold effect at on
  split at on
  · left
    rw [show after_.snapshot.alerts = _ from on] at here
    rcases Nat.lt_or_ge i world.snapshot.alerts.length with inside | beyond
    · rwa [List.getElem?_append_left inside] at here
    · rw [List.getElem?_append_right beyond] at here
      obtain ⟨_, rfl⟩ := List.mem_singleton.1 (List.mem_of_getElem? here)
      cases dismissed
  · rename_i through actor returned _ dismisses
    obtain ⟨at_, marks⟩ := on
    rw [marks, marked_getElem?] at here
    obtain ⟨before, was, is⟩ := Option.map_eq_some_iff.1 here
    split at is
    · rename_i covers
      right
      refine ⟨through, actor, at_, returned, dismisses, rfl, ?_, by rw [← is]⟩
      have upTo : covered world.snapshot.alerts through ≤ (max through 0).toNat := min_le_left _ _
      omega
    · exact .inl (is ▸ was)
  · left
    rwa [show after_.snapshot.alerts = world.snapshot.alerts from on] at here

/-- Whatever the methods do and in whatever order their turns come: every alert whose emission
completed is held once, in the order of completion; none is removed, and none is unmarked or marked
again; one is marked only by a dismissal that completes and covers it; and a dismissal that raises, or
whose write to the journal fails, changes nothing. -/
theorem alerts_kept (run : loop.Run method (initial strategyVersion now) turns pool) :
    pool.world.snapshot.alerts.map AlertRecord.unmarked = emitted turns ∧
    (∀ more later, loop.Run method pool more later →
      Kept pool.world.snapshot.alerts later.world.snapshot.alerts) ∧
    ∀ taken next, loop.Step method pool taken next →
      (∀ (i : Nat) alert, next.world.snapshot.alerts[i]? = some alert → alert.dismissed.isSome →
        pool.world.snapshot.alerts[i]? = some alert ∨ ∃ through actor at_ returned,
          taken.call.dismissal = some (through, actor) ∧ taken.outcome = some (.ok returned) ∧
            (i : Int) < through ∧ alert.dismissed = some ⟨isoformat at_, actor⟩) ∧
      (taken.call.dismissal.isSome →
        (∀ error, taken.outcome = some (.error error) → next.world.snapshot = pool.world.snapshot) ∧
        ∃ tried, next.world.journal = pool.world.journal ++ tried ∧
          (∀ attempt ∈ tried, attempt.saved = false → next.world.snapshot = pool.world.snapshot) ∧
          (next.world.snapshot = pool.world.snapshot ∨ ∃ attempt ∈ tried, attempt.saved = true)) := by
  have sound := run.sound method_meets (initial_sound strategyVersion now)
  refine ⟨alerts_emitted run, fun more later => kept_run sound, fun taken next step => ?_⟩
  have changes := (step.guaranteed method_meets sound).1
  exact ⟨fun i alert => changes.mark, fun dismisses =>
    ⟨changes.raised dismisses, changes.journal dismisses⟩⟩

end Runs

/-! ## An alert that is pushed, and dismissed -/

namespace Pushed

theorem noon_inYears : 1 ≤ 2026 ∧ 2026 ≤ 9999 := by decide

theorem noon_inYear : 1 ≤ 9 ∧ 9 ≤ 12 := by decide

theorem noon_inMonth : 1 ≤ 27 ∧ 27 ≤ Calendar.daysInMonth 2026 9 := by decide

theorem noon_inDay : 12 < 24 ∧ 0 < 60 ∧ 0 < 60 ∧ 0 < 1000000 := by decide

def noon : DateTime where
  year := 2026
  month := 9
  day := 27
  hour := 12
  minute := 0
  second := 0
  microsecond := 0
  inYears := noon_inYears
  inYear := noon_inYear
  inMonth := noon_inMonth
  inDay := noon_inDay

def alert : Alert := ⟨"reconnect_storm", "warning", "the feed reconnects", noon⟩

/-- The phone is configured and nothing else, the clock stands still, and the journal saves. -/
def answer : (op : Op) → World → Except Raised (Services.Reply op) × World
  | .snapshot, world => (.ok world.snapshot, world)
  | .assign snapshot, world => (.ok (), { world with snapshot })
  | .utcNow, world => (.ok noon, world)
  | .sink destination, world => (.ok (destination = "phone_push"), world)
  | .record eventType payload now, world => (.ok (), world.tried ⟨eventType, payload, now, true⟩)
  | .broker, world => (.ok false, world)
  | .dayPnl, world => (.ok false, world)
  | .fillCosts, world => (.ok false, world)
  | .send _ _, world => (.ok (), world)
  | .getBalances, world => (.ok [], world)
  | .getPositions, world => (.ok [], world)
  | .readDayPnl, world => (.ok (.unavailable ""), world)
  | .readFillCosts _, world => (.ok .empty, world)
  | .body, world => (.ok (), world)

theorem answers (op : Op) (world : World) : loop.serve op world (answer op world).1 (answer op world).2 := by
  cases op with
  | snapshot => exact ⟨rfl, rfl⟩
  | assign snapshot => exact ⟨rfl, rfl⟩
  | utcNow => exact ⟨⟨_, rfl⟩, rfl⟩
  | sink destination => exact ⟨⟨_, rfl⟩, rfl⟩
  | record eventType payload now => exact ⟨by simp [answer], rfl⟩
  | broker => exact ⟨⟨_, rfl⟩, rfl⟩
  | dayPnl => exact ⟨⟨_, rfl⟩, rfl⟩
  | fillCosts => exact ⟨⟨_, rfl⟩, rfl⟩
  | send destination alert => exact rfl
  | getBalances => exact rfl
  | getPositions => exact rfl
  | readDayPnl => exact rfl
  | readFillCosts positions => exact rfl
  | body => exact rfl

/-- The emission waits for the phone, goes on, and its alert is dismissed. -/
def turns : List Turn :=
  [⟨.emitAlert alert, none⟩,
    ⟨.emitAlert alert, some (.ok (.deliveries [⟨"phone_push", "sent", none⟩]))⟩,
    ⟨.dismissAlerts 1 "admin", some (.ok (.dismissed 1))⟩]

def held : AlertRecord :=
  { alertRecord alert [⟨"phone_push", "sent", none⟩] with dismissed := some ⟨isoformat noon, "admin"⟩ }

def choices : List (Call ⊕ Nat) := [.inl (.emitAlert alert), .inr 0, .inl (.dismissAlerts 1 "admin")]

theorem run : ∃ pool, loop.Run method (initial "v1" noon) turns pool ∧
    pool.world.snapshot.alerts = [held] := by
  have played : ∃ pool : State, loop.playRun answer method choices (initial "v1" noon) = some (turns, pool) ∧
      pool.world.snapshot.alerts = [held] := ⟨_, rfl, rfl⟩
  obtain ⟨pool, schedule, is⟩ := played
  exact ⟨pool, Loop.run_playRun answers schedule, is⟩

end Pushed

/-- The alert that was dismissed is the one that was emitted. -/
theorem alerts_kept_pushed : ∃ pool : State, pool.world.snapshot.alerts = [Pushed.held] ∧
    pool.world.snapshot.alerts.map AlertRecord.unmarked = emitted Pushed.turns := by
  obtain ⟨pool, run, held⟩ := Pushed.run
  exact ⟨pool, held, (alerts_kept run).1⟩

end AlgoTrader.Api.OperatorState
