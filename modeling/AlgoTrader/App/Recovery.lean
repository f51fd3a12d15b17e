/-
# App.Recovery -- restart recovery, before the service accepts any work

`recover_on_startup` resolves the persisted orders, loads the last snapshot, counts the fills
saved since, and reconciles with the broker.  Its docstring says that every failure path leaves
the kill switch halted.  Two do not: what the ledger raises that is no `ValueError`, such as a
division by zero, and what the alert callback raises go past every handler, and nothing was
tripped before them.

* `reconcile_raises` -- what a reconciliation raises is behind a trip, or an alert raised it;
* `recover_closed_iff` -- when a start is closed: exactly when neither of the two was the last
  thing to happen, over a switch that was not halted already.
-/
import AlgoTrader.Execution.Engine
import AlgoTrader.Portfolio.Halts
import AlgoTrader.Theory.Parts

namespace AlgoTrader.App

open AlgoTrader.Core Brokers Risk Execution Theory Process Portfolio

set_option autoImplicit false

/-! ## Requests -/

/-- What the recovery calls: the two stores, the broker's capabilities, the clock, and
through its reconciler the desk. -/
inductive StartupOp where
  | pending
  /-- `ExecutionEngine(broker, order_store).recover_pending()`. -/
  | recoverPending
  | latestState
  | openOrders
  | fillsFor (orders : List Order)
  | latestRecordedAt
  | fillsAfter (at_ : Timestamp)
  | balanceIncrements
  /-- The clock, as `apply_fills` reads it. -/
  | asOf
  /-- The clock, as the result is stamped. -/
  | completedAt
  | desk (op : DeskOp)

abbrev StartupOp.Reply : StartupOp → Type
  | .pending => List Order
  | .recoverPending => List Order
  | .latestState => Option PortfolioState
  | .openOrders => List Order
  | .fillsFor _ => List Fill
  | .latestRecordedAt => Option Timestamp
  | .fillsAfter _ => List Fill
  | .balanceIncrements => Dict String Decimal
  | .asOf | .completedAt => Timestamp
  | .desk op => op.Reply

abbrev startupEffects : Signature := ⟨StartupOp, StartupOp.Reply⟩

abbrev Startup (α : Type) := Prog startupEffects Exc α

abbrev startup (op : StartupOp) : Startup op.Reply := Prog.call (S := startupEffects) op

/-- The desk, as a part of the recovery. -/
def deskPart : Part deskEffects startupEffects := ⟨.desk, id⟩

/-! ## The recovery -/

inductive RecoveryStatus where
  | halted
  | noBroker
  | reconciled
  deriving DecidableEq, Repr

structure StartupRecoveryResult where
  status : RecoveryStatus
  detail : String
  pendingOrders : Nat
  recoveredOrders : Nat
  discrepancies : Nat
  completedAt : Timestamp

/-- The counts of a result; what a path does not count is zero. -/
structure Counts where
  pendingOrders : Nat := 0
  recoveredOrders : Nat := 0
  discrepancies : Nat := 0

/-- `_result`. -/
def recoveryResult (status : RecoveryStatus) (detail : String) (counts : Counts) :
    Startup StartupRecoveryResult := do
  let completedAt ← startup .completedAt
  return { status, detail, pendingOrders := counts.pendingOrders
           recoveredOrders := counts.recoveredOrders, discrepancies := counts.discrepancies
           completedAt }

/-- `_halt`. -/
def halt (reason : String) (counts : Counts) : Startup StartupRecoveryResult := do
  startup (.desk (.trip s!"startup recovery: {reason}"))
  recoveryResult .halted reason counts

/-- What is loaded from the stores. -/
structure Persisted where
  baseline : Option PortfolioState
  orders : List Order
  fills : List Fill
  later : List Fill

/-- `latest_recorded_at`, where there is a baseline. -/
def snapshotTime : Option PortfolioState → Startup (Option Timestamp)
  | some _ => startup .latestRecordedAt
  | none => pure none

def savedSince : Option Timestamp → Startup (List Fill)
  | some at_ => startup (.fillsAfter at_)
  | none => pure []

def loadPersisted : Startup Persisted := do
  let baseline ← startup .latestState
  let orders ← startup .openOrders
  let fills ← startup (.fillsFor orders)
  let snapshotAt ← snapshotTime baseline
  let later ← savedSince snapshotAt
  return { baseline, orders, fills, later }

/-- A fill this start itself recovered is not counted: its order is known by the client's id. -/
def notRecovered (recovered : List Order) (fills : List Fill) : List Fill :=
  fills.filter fun fill => fill.orderId ∉ recovered.map fun order => order.request.clientOrderId

/-- The baseline with the fills saved after it. -/
def projectBaseline (baseline : PortfolioState) (later : List Fill) : Startup PortfolioState := do
  let increments ← startup .balanceIncrements
  let now ← startup .asOf
  match applyFills baseline later now increments with
  | .ok projected => return projected
  | .error exc => .raise exc

/-- The reconciler of the recovery: the store is always there, the alert callback may be. -/
def startupWiring (alert : Bool) : Wiring := ⟨alert, true, false, false, false, .empty⟩

def localState (persisted : Persisted) (positions : List Position) (balances : List Balance) :
    PortfolioState where
  orders := .ofList (persisted.orders.map fun order => (order.request.clientOrderId.str, order))
  fills := .ofList (persisted.fills.map fun fill => (fill.fillId, fill))
  positions
  balances

def divergedDetail (baseline : Option PortfolioState) : String :=
  "broker-authoritative reconciliation diverged from persisted state" ++
    if baseline.isNone then "; no persisted portfolio baseline existed" else ""

def matchedDetail (later : List Fill) : String :=
  "persisted orders and portfolio state match the broker" ++
    if later.isEmpty then ""
    else s!" (counting {later.length} fill(s) saved after the last snapshot)"

def reconcileStartup (alert : Bool) (persisted : Persisted) (later : List Fill) (counts : Counts)
    (positions : List Position) (balances : List Balance) : Startup StartupRecoveryResult := do
  let compares := reconcile (startupWiring alert) (localState persisted positions balances)
  match ← (compares.within deskPart).attempt with
  | .error exc =>
      if exc.kind = .reconciliationUnavailable then
        halt "broker reconciliation was unavailable during startup recovery" counts
      else .raise exc
  | .ok reconciliation =>
      if reconciliation.safetyTripped then
        halt (divergedDetail persisted.baseline)
          { counts with discrepancies := reconciliation.discrepancies.length }
      else recoveryResult .reconciled (matchedDetail later) counts

/-- The comparison with what was loaded, the fills saved later counted. -/
def compareStartup (alert : Bool) (recovered : List Order) (persisted : Persisted) (counts : Counts) :
    Startup StartupRecoveryResult := do
  let later := notRecovered recovered persisted.later
  match persisted.baseline with
  | none => reconcileStartup alert persisted later counts [] []
  | some baseline =>
      if later.isEmpty then
        reconcileStartup alert persisted later counts baseline.positions baseline.balances
      else
        match ← (projectBaseline baseline later).attempt with
        | .error exc =>
            if exc.kind = .valueError then
              halt "fills saved after the last snapshot could not be applied to it" counts
            else .raise exc
        | .ok projected =>
            reconcileStartup alert persisted later counts projected.positions projected.balances

/-- Resolve what is pending at the broker: the orders recovered, and those that still are not. -/
def resolvePending : Startup (List Order × List Order) := do
  let recovered ← startup .recoverPending
  let unresolved ← startup .pending
  return (recovered, unresolved)

def recoverWithBroker (alert : Bool) (pending : List Order) : Startup StartupRecoveryResult := do
  match ← resolvePending.attempt with
  | .error _ =>
      halt "pending orders could not be queried by client_order_id during startup recovery"
        { pendingOrders := pending.length }
  | .ok (recovered, unresolved) =>
      let counts : Counts :=
        { pendingOrders := pending.length, recoveredOrders := recovered.length }
      if !unresolved.isEmpty then
        halt "broker has no record of persisted pending orders; operator review required" counts
      else
        match ← loadPersisted.attempt with
        | .error _ =>
            halt "persisted portfolio state could not be loaded during startup recovery" counts
        | .ok persisted => compareStartup alert recovered persisted counts

/-- `recover_on_startup`, with or without a broker and an alert callback. -/
def recoverOnStartup (broker alert : Bool) : Startup StartupRecoveryResult := do
  match ← (startup .pending).attempt with
  | .error _ => halt "persisted orders could not be read during startup recovery" {}
  | .ok pending =>
      if broker then recoverWithBroker alert pending
      else if !pending.isEmpty then
        halt "persisted pending orders cannot be resolved without a configured broker"
          { pendingOrders := pending.length }
      else
        recoveryResult .noBroker
          "no broker is configured and no orders are pending; reconciliation not performed" {}

/-! ## The world of a start -/

/-- A store or broker that may answer any request of the engine with anything. -/
def Anything : Service effects Exc World := fun _ _ _ _ => True

/-- What recovering the pending orders may end with: a run of the engine's own program. -/
def RecoversPending (reply : Except Exc (List Order)) : Prop :=
  ∃ world final, (ExecutionEngine.recoverPending ⟨false, false⟩).Runs Anything ⟨world, []⟩ reply final

/-- The stores answer with anything, and anything the surroundings allow happens meanwhile. -/
def StartupServe (around : Surroundings) : Service startupEffects Exc DeskWorld
  | .recoverPending, w, reply, w' => RecoversPending reply ∧ around.meanwhile w w'
  | .asOf, w, reply, w' => (∃ now, reply = .ok now) ∧ w' = w
  | .completedAt, w, reply, w' => (∃ now, reply = .ok now) ∧ w' = w
  | .desk op, w, reply, w' => DeskServe around op w reply w'
  | _, w, _, w' => around.meanwhile w w'

abbrev StartupEvent := Event startupEffects Exc DeskWorld

abbrev StartupMoment := Moment startupEffects Exc DeskWorld

abbrev startupLogic (around : Surroundings) : Logic startupEffects Exc StartupMoment :=
  (Contract.plain (StartupServe around) fun _ => True).logic

/-- A start is closed: a halted outcome, and any exception, leaves the switch halted. -/
def Closed : Except Exc StartupRecoveryResult → StartupMoment → Prop
  | .ok result, m => result.status = .halted → m.world.state = .halted
  | .error _, m => m.world.state = .halted

/-! ## What goes past the handlers -/

def baselineRead : StartupEvent → Option PortfolioState
  | ⟨.latestState, .ok baseline, _, _⟩ => baseline
  | _ => none

def recoveredRead : StartupEvent → Option (List Order)
  | ⟨.recoverPending, .ok recovered, _, _⟩ => some recovered
  | _ => none

def laterRead : StartupEvent → Option (List Fill)
  | ⟨.fillsAfter _, .ok later, _, _⟩ => some later
  | _ => none

def incrementsRead : StartupEvent → Option (Dict String Decimal)
  | ⟨.balanceIncrements, .ok increments, _, _⟩ => some increments
  | _ => none

/-- The projection of what was answered. -/
def projection (now : Timestamp) (events : List StartupEvent) : Option (Except Exc PortfolioState) := do
  let baseline ← events.findSome? baselineRead
  let recovered ← events.findSome? recoveredRead
  let later ← events.findSome? laterRead
  let increments ← events.findSome? incrementsRead
  return applyFills baseline (notRecovered recovered later) now increments

/-- What an exception is, unless it is of the class its handler names. -/
def unlessOf (handled : ExcClass) (exc : Exc) : Option Exc :=
  if exc.kind = handled then none else some exc

theorem unlessOf_isSome {handled : ExcClass} {exc : Exc} :
    (unlessOf handled exc).isSome ↔ exc.kind ≠ handled := by
  unfold unlessOf
  split <;> simp [*]

/-- What goes past every handler after this event: what an alert raises, what reading the
broker's increments raises, and what the projection of the answers raises. -/
def escaping : StartupEvent → List StartupEvent → Option Exc
  | ⟨.desk (.report (.alert _)), .error exc, _, _⟩, _ => unlessOf .reconciliationUnavailable exc
  | ⟨.balanceIncrements, .error exc, _, _⟩, _ => unlessOf .valueError exc
  | ⟨.asOf, .ok now, _, _⟩, earlier =>
      match projection now earlier with
      | some (.error exc) => unlessOf .valueError exc
      | _ => none
  | _, _ => none

/-- The last thing to happen goes past every handler, over a switch that is not halted. -/
def FailsOpen (events : List StartupEvent) : Prop :=
  ∃ e earlier, events = e :: earlier ∧ (escaping e earlier).isSome ∧ e.after.state ≠ .halted

/-- The exit is closed unless it fails open. -/
def Judged (result : Except Exc StartupRecoveryResult) (m : StartupMoment) : Prop :=
  m.Latest → (Closed result m ↔ ¬FailsOpen m.events)

section Exits

variable {m : StartupMoment}

theorem not_failsOpen_of_halted (latest : m.Latest) (halted : m.world.state = .halted) :
    ¬FailsOpen m.events := by
  rintro ⟨e, earlier, events, _, running⟩
  have last : e.after = m.world := latest e (by rw [events]; rfl)
  rw [last] at running
  exact running halted

theorem judged_halted {result : Except Exc StartupRecoveryResult} (halted : m.world.state = .halted) :
    Judged result m := by
  intro latest
  refine iff_of_true ?_ (not_failsOpen_of_halted latest halted)
  cases result with
  | ok result => exact fun _ => halted
  | error exc => exact halted

/-- What escaped, escaped over the switch as the newest event left it. -/
theorem judged_escaped {exc : Exc} {e : StartupEvent} {earlier : List StartupEvent}
    (events : m.events = e :: earlier) (escaped : (escaping e earlier).isSome) :
    Judged (.error exc) m := by
  intro latest
  have last : e.after = m.world := latest e (by rw [events]; rfl)
  constructor
  · exact fun closed => not_failsOpen_of_halted latest closed
  · intro shut
    by_contra running
    exact shut ⟨e, earlier, events, escaped, last ▸ running⟩

variable {around : Surroundings}

theorem recoveryResult_judged {status : RecoveryStatus} (detail : String) (counts : Counts)
    (known : status = .halted → m.world.state = .halted) :
    wp (startupLogic around) Judged (recoveryResult status detail counts) m := by
  refine wp_bind.2 (wp_served ?_)
  rintro _ after ⟨⟨completedAt, rfl⟩, rfl⟩ _
  refine fun _ => iff_of_true known ?_
  rintro ⟨e, earlier, events, escaped, _⟩
  cases events
  cases escaped

theorem halt_judged (reason : String) (counts : Counts) :
    wp (startupLogic around) Judged (halt reason counts) m := by
  refine wp_bind.2 (wp_served fun reply after served _ => ?_)
  have halted : after.state = .halted := tripped served
  cases reply with
  | error exc => exact judged_halted halted
  | ok value => exact recoveryResult_judged _ _ fun _ => halted

end Exits

/-! ## What a reconciliation raises -/

section Reconciling

variable {around : Surroundings} {assume : DeskEvent → Prop}

/-- A raise is behind a trip, or it is an alert's. -/
def Broken (exc : Exc) (m : DeskMoment) : Prop :=
  m.world.state = .halted ∨ ∃ e ∈ m.events.head?, alertFailed e = some exc

/-- Where a part of the reconciliation goes on nothing is asked. -/
abbrev breaks {α : Type} : Except Exc α → DeskMoment → Prop := stepPost (fun _ => True) Broken

theorem unavailable_breaks {α : Type} {reason message : String} {m : DeskMoment} :
    wp (deskLogic around assume) breaks (unavailable (α := α) reason message) m :=
  wp_unavailable fun _ _ _ served _ => .inl (tripped served)

theorem readOrder_breaks (key : String) (localOrder : Order) (read : OrdersRead) {m : DeskMoment} :
    wp (deskLogic around assume) breaks (readOrder key localOrder read) m := by
  refine wp_bind.2 (wp_attempt.2 (wp_mono (wp_any _ m) ?_))
  rintro (exc | _ | brokerOrder) m₁ _
  · exact unavailable_breaks
  · trivial
  refine wp_bind.2 (wp_attempt.2 (wp_mono (wp_any _ m₁) ?_))
  rintro (exc | fills) m₂ _
  · exact unavailable_breaks
  · trivial

theorem readOrders_breaks (orders : List (String × Order)) (read : OrdersRead) {m : DeskMoment} :
    wp (deskLogic around assume) breaks (readOrders orders read) m := by
  induction orders generalizing read m with
  | nil => trivial
  | cons first rest ih => exact wp_step (readOrder_breaks first.1 first.2 read) fun next _ _ => ih next

theorem reportOne_breaks (wiring : Wiring) (discrepancy : Discrepancy) {m : DeskMoment} :
    wp (deskLogic around assume) breaks (reportOne wiring discrepancy) m := by
  refine wp_bind.2 (wp_attempt.2 (wp_mono (wp_any _ m) fun _ m₁ _ => ?_))
  refine wp_when (fun _ => wp_desk fun reply after _ _ => ?_) fun _ => trivial
  cases reply with
  | ok value => trivial
  | error exc => exact .inr ⟨_, rfl, rfl⟩

theorem persistResult_breaks (wiring : Wiring) (authoritative : PortfolioState)
    (discrepancies : List Discrepancy) {m : DeskMoment} :
    wp (deskLogic around assume) breaks (persistResult wiring authoritative discrepancies) m := by
  refine wp_when (fun _ => wp_bind.2 (wp_attempt.2 (wp_mono (wp_any _ m) ?_))) fun _ => trivial
  rintro (exc | _) m₁ _
  · exact unavailable_breaks
  · trivial

theorem respond_breaks (wiring : Wiring) (authoritative : PortfolioState)
    (discrepancies : List Discrepancy) {m : DeskMoment} :
    wp (deskLogic around assume) breaks (respond wiring authoritative discrepancies) m := by
  have reports : wp (deskLogic around assume) breaks (Prog.visit (reportOne wiring) discrepancies) m :=
    wp_visit (fun _ _ => True) Broken _ (fun _ discrepancy _ _ _ _ => reportOne_breaks wiring discrepancy)
      trivial
  have trips : ∀ m, wp (deskLogic around assume) breaks (Prog.when (!discrepancies.isEmpty)
      (desk (.trip "broker-authoritative reconciliation divergence"))) m := by
    refine fun m => wp_when (fun _ => wp_desk fun reply after served _ => ?_) fun _ => trivial
    cases reply with
    | ok value => trivial
    | error exc => exact .inl (tripped served)
  refine wp_step reports fun _ m₁ _ => wp_step (trips m₁) fun _ m₂ _ => ?_
  exact wp_step (persistResult_breaks wiring authoritative discrepancies) fun _ _ _ => trivial

/-- What a reconciliation raises is behind a trip, or an alert raised it just now.  Nothing is
assumed of the store, the broker or the callback. -/
theorem reconcile_raises (wiring : Wiring) (local_ : PortfolioState) {m : DeskMoment} :
    wp (deskLogic around assume) breaks (reconcile wiring local_) m := by
  refine wp_bind.2 (wp_attempt.2 (wp_mono (wp_any _ m) ?_))
  rintro (exc | ⟨balances, positions⟩) m₁ _
  · exact unavailable_breaks
  · exact wp_step (readOrders_breaks _ _) fun read _ _ => respond_breaks wiring _ _

end Reconciling

/-! ## The desk inside the recovery -/

def deskEvent (e : DeskEvent) : StartupEvent := ⟨.desk e.op, e.reply, e.before, e.after⟩

section Recovering

variable {around : Surroundings} {m : StartupMoment} {alert : Bool}

theorem reconciles (wiring : Wiring) (local_ : PortfolioState) :
    wp (startupLogic around) (fun result M => ∃ d, breaks result d ∧ Carries deskEvent m.events d M)
      ((reconcile wiring local_).within deskPart) m := by
  have raises : wp (deskLogic around fun _ => True) breaks (reconcile wiring local_) ⟨m.world, []⟩ :=
    reconcile_raises wiring local_
  refine wp_within_events deskEvent ?_ ?_ (fun _ _ => trivial) m raises
  · intro op reply before after
    cases reply <;> rfl
  · intro op w reply w' served
    cases reply <;> exact served

theorem escaping_alert {e : DeskEvent} {exc : Exc} {earlier : List StartupEvent}
    (alerted : alertFailed e = some exc) (other : ¬exc.kind = .reconciliationUnavailable) :
    escaping (deskEvent e) earlier = some exc := by
  unfold alertFailed at alerted
  split at alerted
  · cases alerted
    exact if_neg other
  · cases alerted

theorem reconcileStartup_judged (persisted : Persisted) (later : List Fill) (counts : Counts)
    (positions : List Position) (balances : List Balance) :
    wp (startupLogic around) Judged
      (reconcileStartup alert persisted later counts positions balances) m := by
  refine wp_bind.2 (wp_attempt.2 (wp_mono (reconciles _ _) ?_))
  rintro (exc | reconciliation) m₁ ⟨d, broke, carries⟩
  · show wp _ Judged (if exc.kind = .reconciliationUnavailable then halt _ _ else .raise exc) m₁
    split
    · exact halt_judged _ _
    rename_i other
    rcases broke with halted | ⟨e, newest, alerted⟩
    · exact judged_halted (carries.world ▸ halted)
    obtain ⟨rest, events⟩ := List.head?_eq_some_iff.1 newest
    have here : m₁.events = deskEvent e :: (rest.map deskEvent ++ m.events) := by
      rw [carries.events, events]
      rfl
    refine judged_escaped here ?_
    rw [escaping_alert alerted other]
    rfl
  · show wp _ Judged (if reconciliation.safetyTripped then halt _ _ else _) m₁
    split
    · exact halt_judged _ _
    · exact recoveryResult_judged _ _ fun never => nomatch never

/-! ## What was loaded -/

/-- What the program holds is what was answered. -/
structure Loaded (recovered : List Order) (persisted : Persisted) (m : StartupMoment) : Prop where
  recovered : m.events.findSome? recoveredRead = some recovered
  baseline : m.events.findSome? baselineRead = persisted.baseline
  later : persisted.later ≠ [] → m.events.findSome? laterRead = some persisted.later

theorem loadPersisted_loaded {recovered : List Order}
    (known : m.events.findSome? recoveredRead = some recovered)
    (fresh : m.events.findSome? baselineRead = none) :
    wp (startupLogic around) (fun result m' => ∀ persisted, result = .ok persisted →
      Loaded recovered persisted m') loadPersisted m := by
  refine wp_bind.2 (wp_served ?_)
  rintro (exc | baseline) _ _ _
  · exact fun _ never => nomatch never
  refine wp_bind.2 (wp_served ?_)
  rintro (exc | orders) _ _ _
  · exact fun _ never => nomatch never
  refine wp_bind.2 (wp_served ?_)
  rintro (exc | fills) _ _ _
  · exact fun _ never => nomatch never
  cases baseline with
  | none =>
      rintro persisted ⟨⟩
      exact ⟨known, fresh, fun some => absurd rfl some⟩
  | some baseline =>
      refine wp_bind.2 (wp_served ?_)
      rintro (exc | _ | at_) _ _ _
      · exact fun _ never => nomatch never
      · rintro persisted ⟨⟩
        exact ⟨known, rfl, fun some => absurd rfl some⟩
      refine wp_bind.2 (wp_served ?_)
      rintro (exc | later) _ _ _
      · exact fun _ never => nomatch never
      · rintro persisted ⟨⟩
        exact ⟨known, rfl, fun _ => rfl⟩

theorem Loaded.projection {recovered : List Order} {persisted : Persisted} {baseline : PortfolioState}
    (loaded : Loaded recovered persisted m) (held : persisted.baseline = some baseline)
    (saved : persisted.later ≠ []) (now : Timestamp) (increments : Dict String Decimal)
    (after : DeskWorld) :
    App.projection now
        (m.push (S := startupEffects) .balanceIncrements (.ok increments) after).events =
      some (applyFills baseline (notRecovered recovered persisted.later) now increments) := by
  have others : ∀ {α : Type} (read : StartupEvent → Option α) (e : StartupEvent), read e = none →
      (e :: m.events).findSome? read = m.events.findSome? read := by
    intro α read e other
    rw [List.findSome?_cons, other]
  unfold App.projection
  rw [Moment.push_events, others baselineRead _ rfl, others recoveredRead _ rfl, others laterRead _ rfl,
    loaded.baseline, held, loaded.recovered, loaded.later saved]
  rfl

/-- The projection raises what it raises of the answers. -/
theorem compareStartup_judged {recovered : List Order} {persisted : Persisted} (counts : Counts)
    (loaded : Loaded recovered persisted m) :
    wp (startupLogic around) Judged (compareStartup alert recovered persisted counts) m := by
  unfold compareStartup
  dsimp only
  cases held : persisted.baseline with
  | none => exact reconcileStartup_judged _ _ _ _ _
  | some baseline =>
      dsimp only
      split
      · exact reconcileStartup_judged _ _ _ _ _
      rename_i counted
      have saved : persisted.later ≠ [] := by
        intro none
        rw [none] at counted
        exact counted rfl
      refine wp_bind.2 (wp_attempt.2 (wp_bind.2 (wp_served ?_)))
      rintro (exc | increments) after _ _
      · show wp _ Judged (if exc.kind = .valueError then halt _ _ else .raise exc) _
        split
        · exact halt_judged _ _
        · rename_i other
          exact judged_escaped rfl (unlessOf_isSome.2 other)
      refine wp_bind.2 (wp_served ?_)
      rintro _ _ ⟨⟨now, rfl⟩, rfl⟩ _
      have answered := loaded.projection held saved now increments
      dsimp only [andThen]
      cases raised : applyFills baseline (notRecovered recovered persisted.later) now increments with
      | ok projected => exact reconcileStartup_judged _ _ _ _ _
      | error exc =>
          show wp _ Judged (if exc.kind = .valueError then halt _ _ else .raise exc) _
          split
          · exact halt_judged _ _
          · rename_i other
            rw [raised] at answered
            refine judged_escaped rfl ?_
            show Option.isSome (match projection now _ with
              | some (.error exc) => unlessOf .valueError exc
              | _ => none)
            rw [answered]
            exact unlessOf_isSome.2 other

theorem recoverWithBroker_judged (pending : List Order)
    (fresh : m.events.findSome? baselineRead = none) :
    wp (startupLogic around) Judged (recoverWithBroker alert pending) m := by
  refine wp_bind.2 (wp_attempt.2 (wp_bind.2 (wp_served ?_)))
  rintro (exc | recovered) _ _ _
  · exact halt_judged _ _
  refine wp_bind.2 (wp_served ?_)
  rintro (exc | unresolved) _ _ _
  · exact halt_judged _ _
  show wp _ Judged (if !unresolved.isEmpty then halt _ _ else _) _
  split
  · exact halt_judged _ _
  have found : ∀ unresolved after after', ((m.push (S := startupEffects) .recoverPending (.ok recovered)
      after).push (S := startupEffects) .pending (.ok unresolved) after').events.findSome? recoveredRead =
        some recovered := fun _ _ _ => rfl
  refine wp_bind.2 (wp_attempt.2 (wp_mono (loadPersisted_loaded (found _ _ _) fresh) ?_))
  rintro (exc | persisted) m₁ loaded
  · exact halt_judged _ _
  · exact compareStartup_judged _ (loaded persisted rfl)

theorem recoverOnStartup_judged (broker : Bool) {world : DeskWorld} :
    wp (startupLogic around) Judged (recoverOnStartup broker alert) ⟨world, []⟩ := by
  refine wp_bind.2 (wp_attempt.2 (wp_served ?_))
  rintro (exc | pending) _ _ _
  · exact halt_judged _ _
  show wp _ Judged (if broker then recoverWithBroker alert pending else _) _
  split
  · exact recoverWithBroker_judged pending rfl
  show wp _ Judged (if !pending.isEmpty then halt _ _ else _) _
  split
  · exact halt_judged _ _
  · exact recoveryResult_judged _ _ fun never => nomatch never

end Recovering

/-- A start is closed exactly when it does not fail open: when the last thing to happen went
past no handler, or the switch was halted then. -/
theorem recover_closed_iff {around : Surroundings} {broker alert : Bool} {world : DeskWorld}
    {final : StartupMoment} {result : Except Exc StartupRecoveryResult}
    (run : (recoverOnStartup broker alert).Runs (StartupServe around) ⟨world, []⟩ result final) :
    Closed result final ↔ ¬FailsOpen final.events :=
  plain_run run (fun _ _ => trivial) (recoverOnStartup_judged broker) (run.latest fun _ never => nomatch never)

/-! ## A start with fills that cannot be counted -/

/-- What the stores hold at a start, beside the desk's cast. -/
structure StartupCast where
  desk : DeskCast
  baseline : Option PortfolioState
  later : List Fill

def StartupCast.script (cast : StartupCast) : Script startupEffects Exc DeskWorld
  | .pending, m => (.ok [], m.world)
  | .recoverPending, m => (.ok [], m.world)
  | .latestState, m => (.ok cast.baseline, m.world)
  | .openOrders, m => (.ok [], m.world)
  | .fillsFor _, m => (.ok [], m.world)
  | .latestRecordedAt, m => (.ok (some 0), m.world)
  | .fillsAfter _, m => (.ok cast.later, m.world)
  | .balanceIncrements, m => (.ok .empty, m.world)
  | .asOf, m => (.ok 0, m.world)
  | .completedAt, m => (.ok 0, m.world)
  | .desk op, m => cast.desk.script op ⟨m.world, []⟩

/-- Nothing is pending, so nothing is asked of the broker. -/
theorem recoversPending_nothing : RecoversPending (.ok []) := by
  let world : World := emptyWorld (.sqlAlchemy .empty) (.sqlAlchemy .empty .empty)
  have answered : Anything (.store .pending) world (.ok []) world := trivial
  exact ⟨world, Moment.push (S := effects) ⟨world, []⟩ (.store .pending) (.ok []) world,
    .request answered (.pure [] _)⟩

theorem StartupCast.sound (cast : StartupCast) : cast.script.Sound (StartupServe unreliable) := by
  intro op m
  cases op with
  | recoverPending => exact ⟨recoversPending_nothing, le_refl _⟩
  | asOf => exact ⟨⟨0, rfl⟩, rfl⟩
  | completedAt => exact ⟨⟨0, rfl⟩, rfl⟩
  | desk op => exact unreliable_sound cast.desk op ⟨m.world, []⟩
  | _ => exact le_refl _

/-- The snapshot has one coin; two were sold since and one bought back. -/
def afterOversold : StartupCast := ⟨deafOperator, some oneCoin, oversold⟩

def oversoldStart : Except Exc StartupRecoveryResult × StartupMoment :=
  (recoverOnStartup true false).play afterOversold.script ⟨.start, []⟩

theorem oversoldStart_runs : (recoverOnStartup true false).Runs (StartupServe unreliable) ⟨.start, []⟩
    oversoldStart.1 oversoldStart.2 := Prog.play_runs afterOversold.sound _ _

theorem recover_closed_iff_oversold :
    Closed oversoldStart.1 oversoldStart.2 ↔ ¬FailsOpen oversoldStart.2.events :=
  recover_closed_iff oversoldStart_runs

/-- The division by what is left of the short ends the start, and the switch is running. -/
theorem oversold_start_open : ∃ result final,
    (recoverOnStartup true false).Runs (StartupServe unreliable) ⟨.start, []⟩ result final ∧
      ¬Closed result final := by
  have raised : oversoldStart.1.toBool = false := by decide +kernel
  have running : oversoldStart.2.world.state = .running := by decide +kernel
  refine ⟨_, _, oversoldStart_runs, fun closed => ?_⟩
  cases outcome : oversoldStart.1 with
  | ok result =>
      rw [outcome] at raised
      cases raised
  | error exc =>
      rw [outcome] at closed
      have halted : oversoldStart.2.world.state = .halted := closed
      rw [running] at halted
      cases halted

end AlgoTrader.App
