/-
# Portfolio.Scheduler -- unattended reconciliation, one run after another

The expected portfolio is the last broker-authoritative state plus the fills this process
recorded since then.  Each run refreshes the orders that need it, projects, compares, and
adopts the broker's state as the new baseline.  `iteration` is one turn of the loop around
it: whatever escapes a run halts trading.

* `needsRefresh_lagging` -- which of the orders with missing fills are re-read;
* `refreshed_iff` -- what has been re-read when the comparison begins.
-/
import AlgoTrader.Portfolio.Halts
import AlgoTrader.Theory.Lives

namespace AlgoTrader.Portfolio

open AlgoTrader.Core Brokers Theory Process Risk

set_option autoImplicit false

/-! ## What the scheduler remembers -/

namespace Tracking

/-- `observe`: record an order and its fills as the execution engine persists them. -/
def observe (tracking : Tracking) (order : Order) (fills : List Fill) : Tracking :=
  { tracking with
    orders := tracking.orders.set order.request.clientOrderId.str order
    fills := fills.foldl (fun known fill => known.set fill.fillId fill) tracking.fills }

/-- `forget_order`: stop following an order the venue never received. -/
def forgetOrder (tracking : Tracking) (clientOrderId : String) : Tracking :=
  { tracking with orders := tracking.orders.erase clientOrderId }

/-- What a scheduler starts from: open and incompletely recorded orders stay tracked. -/
def ofBaseline (baseline : PortfolioState) (now : Timestamp) : Tracking :=
  let untracked : Tracking :=
    { baselinePositions := baseline.positions
      baselineBalances := baseline.balances
      orders := .empty
      fills := baseline.fills
      appliedFillIds := baseline.fills.keys
      status := ⟨now, 0, 0, 0, 0, none, .notRun, 0⟩ }
  { untracked with
    orders := baseline.orders.filter fun entry => untracked.needsRefresh entry.1 entry.2 }

def baseline (tracking : Tracking) : PortfolioState where
  orders := .empty
  fills := .empty
  positions := tracking.baselinePositions
  balances := tracking.baselineBalances

/-- The recorded fills the baseline does not include yet. -/
def newFills (tracking : Tracking) : List Fill :=
  (tracking.fills.entries.filter fun entry => entry.1 ∉ tracking.appliedFillIds).map Prod.snd

def expectedState (tracking : Tracking) (increments : Dict String Decimal) (now : Timestamp) :
    Except Exc PortfolioState := do
  let projected ← applyFills tracking.baseline tracking.newFills now increments
  return { orders := tracking.orders, fills := tracking.fills
           positions := projected.positions, balances := projected.balances }

/-- `_adopt`: the broker's state is the new baseline; settled orders and their fills leave
the working set. -/
def adopt (tracking : Tracking) (authoritative local_ : PortfolioState) : Tracking :=
  let openOrders := authoritative.orders.filter fun entry => !entry.2.status.terminal
  let openIds := openOrders.keys ++ openOrders.values.map fun order => order.orderId.str
  { tracking with
    baselinePositions := authoritative.positions
    baselineBalances := authoritative.balances
    appliedFillIds := tracking.appliedFillIds ++ local_.fills.keys ++ authoritative.fills.keys
    orders := openOrders
    fills := authoritative.fills.filter fun entry => entry.2.orderId.str ∈ openIds }

end Tracking

namespace ReconciliationStatus

def ofRun (status : ReconciliationStatus) (now : Timestamp) (discrepancies : Nat) :
    ReconciliationStatus :=
  { status with
    runs := status.runs + 1
    cleanRuns := status.cleanRuns + if discrepancies = 0 then 1 else 0
    divergedRuns := status.divergedRuns + if discrepancies = 0 then 0 else 1
    lastRunAt := some now
    lastResult := if discrepancies = 0 then .clean else .diverged
    lastDiscrepancies := discrepancies }

def ofUnavailable (status : ReconciliationStatus) (now : Timestamp) : ReconciliationStatus :=
  { status with
    runs := status.runs + 1
    unavailableRuns := status.unavailableRuns + 1
    lastRunAt := some now
    lastResult := .unavailable
    lastDiscrepancies := 0 }

end ReconciliationStatus

/-! ## One run -/

def loadTracking : Desk Tracking := desk (.schedule .load)

def modifyTracking (change : Tracking → Tracking) : Desk Unit := do
  let tracking ← loadTracking
  desk (.schedule (.save (change tracking)))

def refreshOne (entry : String × Order) : Desk Unit := do
  let needed ← desk (.schedule (.needsRefresh entry.1 entry.2))
  Prog.when needed (desk (.schedule (.refreshOrder entry.1)))

/-- `_refresh_tracked_orders`, over the orders as they were when the run began. -/
def refreshTrackedOrders : Desk Unit := do
  let tracking ← loadTracking
  Prog.visit refreshOne tracking.orders.entries

/-- A run that could not compare, and why. -/
def tripUnavailable (detail : String) : Desk (Except String ReconciliationResult) := do
  desk (.trip detail)
  return .error detail

def compareAndAdopt (wiring : Wiring) (local_ : PortfolioState) :
    Desk (Except String ReconciliationResult) := do
  match ← (reconcile wiring local_).attempt with
  | .error exc =>
      if exc.kind = .reconciliationUnavailable then return .error exc.message else .raise exc
  | .ok result => do
      modifyTracking fun tracking => tracking.adopt result.authoritative local_
      return .ok result

def projectAndCompare (wiring : Wiring) : Desk (Except String ReconciliationResult) := do
  let tracking ← loadTracking
  let now ← desk (.schedule .utcNow)
  match tracking.expectedState wiring.balanceIncrements now with
  | .error exc =>
      if exc.kind = .valueError then tripUnavailable "expected portfolio could not be projected"
      else .raise exc
  | .ok local_ => compareAndAdopt wiring local_

/-- `_compare`: refresh, project, and reconcile; a text says why the run was unavailable. -/
def compare (wiring : Wiring) : Desk (Except String ReconciliationResult) := do
  match ← refreshTrackedOrders.attempt with
  | .error _ => tripUnavailable "open orders could not be refreshed"
  | .ok _ => projectAndCompare wiring

def modifyStatus (change : ReconciliationStatus → Timestamp → ReconciliationStatus) :
    Desk Unit := do
  let now ← desk (.schedule .utcNow)
  modifyTracking fun tracking => { tracking with status := change tracking.status now }

def reportRun (wiring : Wiring) (result : ReconciliationResult) : Desk ReconciliationResult := do
  modifyStatus fun status now => status.ofRun now result.discrepancies.length
  Prog.when (!result.discrepancies.isEmpty && wiring.onDivergence)
    (desk (.schedule (.onDivergence result.discrepancies)))
  return result

def reportUnavailable (wiring : Wiring) (detail : String) : Desk Unit := do
  modifyStatus fun status now => status.ofUnavailable now
  Prog.when wiring.onUnavailable (desk (.schedule (.onUnavailable detail)))

/-- Hand the broker's state to a read-only consumer; its failure never affects the run. -/
def reconciled (wiring : Wiring) (authoritative : PortfolioState) : Desk Unit :=
  Prog.when wiring.onReconciled (desk (.schedule (.onReconciled authoritative))).attempt.discard

def runOnce (wiring : Wiring) : Desk (Option ReconciliationResult) := do
  match ← compare wiring with
  | .error detail => do
      reportUnavailable wiring detail
      return none
  | .ok outcome => do
      let reported ← reportRun wiring outcome
      reconciled wiring outcome.authoritative
      return some reported

/-- One turn of `run`, with what `run_once` gave: an unexpected failure halts trading but
keeps the schedule. -/
def iteration (wiring : Wiring) : Desk (Option ReconciliationResult) := do
  match ← (runOnce wiring).attempt with
  | .ok reported => return reported
  | .error _ => do
      desk (.trip "scheduled reconciliation failed")
      return none

/-! ## What a comparison asks for -/

/-- Requests that leave the scheduler's own state alone. -/
def Outward (op : DeskOp) : Prop := ∀ own, op ≠ .schedule own

/-- Requests that refresh no order. -/
def NoRefresh (op : DeskOp) : Prop := ∀ key, op ≠ .schedule (.refreshOrder key)

section Outward

variable {α : Type}

theorem outward_read (op : ReadOp) : Issues Outward (desk (.read op)) := issues_call fun _ => by simp

theorem outward_trip (reason : String) : Issues Outward (desk (.trip reason)) :=
  issues_call fun _ => by simp

theorem unavailable_outward (reason message : String) :
    Issues Outward (unavailable (α := α) reason message) :=
  issues_bind (outward_trip reason) fun _ => issues_raise _

theorem readOrder_outward (key : String) (localOrder : Order) (read : OrdersRead) :
    Issues Outward (readOrder key localOrder read) := by
  refine issues_bind (issues_attempt (outward_read _)) fun reply => ?_
  match reply with
  | .error exc => exact unavailable_outward _ _
  | .ok none => exact issues_pure _
  | .ok (some brokerOrder) =>
      refine issues_bind (issues_attempt (outward_read _)) fun reply' => ?_
      cases reply' with
      | error exc => exact unavailable_outward _ _
      | ok fills => exact issues_pure _

theorem readOrders_outward (orders : List (String × Order)) (read : OrdersRead) :
    Issues Outward (readOrders orders read) := by
  induction orders generalizing read with
  | nil => exact issues_pure _
  | cons first rest ih => exact issues_bind (readOrder_outward _ _ _) fun next => ih next

/-- Requests of reporting, saving and halting. -/
def Responding (op : DeskOp) : Prop := (∃ report, op = .report report) ∨ ∃ reason, op = .trip reason

theorem respond_responding (wiring : Wiring) (authoritative : PortfolioState)
    (discrepancies : List Discrepancy) :
    Issues Responding (respond wiring authoritative discrepancies) := by
  have report : ∀ op, Issues Responding (desk (.report op)) := fun op => issues_call (.inl ⟨op, rfl⟩)
  have trip : ∀ reason, Issues Responding (desk (.trip reason)) :=
    fun reason => issues_call (.inr ⟨reason, rfl⟩)
  refine issues_bind (visit_issues discrepancies fun discrepancy => ?_) fun _ => ?_
  · exact issues_bind (issues_attempt (report _)) fun _ => issues_when fun _ => report _
  refine issues_bind (issues_when fun _ => trip _) fun _ => ?_
  refine issues_bind (issues_when fun _ => ?_) fun _ => issues_pure _
  refine issues_bind (issues_attempt ?_) fun outcome => ?_
  · exact issues_bind (report _) fun _ => visit_issues _ fun _ => report _
  · cases outcome with
    | ok value => exact issues_pure _
    | error exc => exact issues_bind (trip _) fun _ => issues_raise _

theorem respond_outward (wiring : Wiring) (authoritative : PortfolioState)
    (discrepancies : List Discrepancy) :
    Issues Outward (respond wiring authoritative discrepancies) := by
  refine issues_mono (respond_responding wiring authoritative discrepancies) ?_
  rintro op (⟨report, rfl⟩ | ⟨reason, rfl⟩) own same
  · cases same
  · cases same

theorem reconcile_outward (wiring : Wiring) (local_ : PortfolioState) :
    Issues Outward (reconcile wiring local_) := by
  refine issues_bind (issues_attempt ?_) fun outcome => ?_
  · exact issues_bind (outward_read _) fun _ => issues_bind (outward_read _) fun _ => issues_pure _
  · cases outcome with
    | error exc => exact unavailable_outward _ _
    | ok holdings =>
        exact issues_bind (readOrders_outward _ _) fun _ => respond_outward _ _ _

theorem compareAndAdopt_noRefresh (wiring : Wiring) (local_ : PortfolioState) :
    Issues NoRefresh (compareAndAdopt wiring local_) := by
  have reconciles := issues_mono (reconcile_outward wiring local_)
    fun op outward key => outward (.refreshOrder key)
  refine issues_bind (issues_attempt reconciles) fun outcome => ?_
  cases outcome with
  | error exc =>
      dsimp only
      split
      · exact issues_pure _
      · exact issues_raise _
  | ok result =>
      refine issues_bind (issues_bind (issues_call fun _ => by simp) fun _ => ?_) fun _ => issues_pure _
      exact issues_call fun _ => by simp

end Outward

/-! ## The refresh -/

/-- The recorded fills of an order fall short of what the venue says it filled. -/
def Tracking.Lags (tracking : Tracking) (clientOrderId : String) (order : Order) : Prop :=
  tracking.recorded clientOrderId order < order.filledQuantity.1

/-- Of the orders with missing fills, the canceled and the rejected ones are not re-read. -/
theorem needsRefresh_lagging {tracking : Tracking} {clientOrderId : String} {order : Order}
    (lags : tracking.Lags clientOrderId order) :
    tracking.needsRefresh clientOrderId order = true ↔
      order.status ≠ .canceled ∧ order.status ≠ .rejected := by
  have short : tracking.recorded clientOrderId order < order.filledQuantity.1 := lags
  unfold Tracking.needsRefresh
  cases order.status <;> simp [OrderStatus.terminal, short]

def asksToRefresh (key : String) (e : DeskEvent) : Prop := e.op = .schedule (.refreshOrder key)

/-- The order had its turn, and was re-read exactly when it needed to be. -/
def HadTurn (events : List DeskEvent) (entry : String × Order) : Prop :=
  ∃ turn ∈ events, turn.op = .schedule (.needsRefresh entry.1 entry.2) ∧
    ((∃ e ∈ events, asksToRefresh entry.1 e) ↔
      turn.before.tracking.needsRefresh entry.1 entry.2 = true)

/-- These orders have had their turns, and no others have been re-read. -/
structure Refreshed (visited : List (String × Order)) (events : List DeskEvent) : Prop where
  turns : ∀ entry ∈ visited, HadTurn events entry
  only : ∀ key, ∀ e ∈ events, asksToRefresh key e → key ∈ visited.map Prod.fst

theorem Refreshed.push {visited : List (String × Order)} {events : List DeskEvent}
    (refreshed : Refreshed visited events) {e : DeskEvent} (quiet : ∀ key, ¬asksToRefresh key e) :
    Refreshed visited (e :: events) := by
  constructor
  · intro entry member
    obtain ⟨turn, happened, asks, exact_⟩ := refreshed.turns entry member
    refine ⟨turn, List.mem_cons_of_mem _ happened, asks, ?_⟩
    rw [← exact_]
    simp [quiet entry.1]
  · intro key e' member asks
    rcases List.mem_cons.1 member with rfl | older
    · exact absurd asks (quiet key)
    · exact refreshed.only key e' older asks

/-- An order that is re-read at its turn. -/
theorem Refreshed.snoc {visited : List (String × Order)} {events : List DeskEvent}
    (refreshed : Refreshed visited events) {entry : String × Order}
    (fresh : entry.1 ∉ visited.map Prod.fst) {turn e : DeskEvent}
    (asked : turn.op = .schedule (.needsRefresh entry.1 entry.2))
    (needed : turn.before.tracking.needsRefresh entry.1 entry.2 = true)
    (rereads : asksToRefresh entry.1 e) : Refreshed (visited ++ [entry]) (e :: turn :: events) := by
  have later : Refreshed visited (turn :: events) := refreshed.push fun key => by
    simp [asksToRefresh, asked]
  constructor
  · intro entry' member
    rcases List.mem_append.1 member with before | last
    · obtain ⟨turn', happened, asks, exact_⟩ := later.turns entry' before
      have other : ¬asksToRefresh entry'.1 e := by
        intro same
        have key : DeskOp.schedule (.refreshOrder entry.1) = .schedule (.refreshOrder entry'.1) :=
          rereads.symm.trans same
        simp only [DeskOp.schedule.injEq, ScheduleOp.refreshOrder.injEq] at key
        exact fresh (key ▸ List.mem_map_of_mem before)
      refine ⟨turn', List.mem_cons_of_mem _ happened, asks, ?_⟩
      rw [← exact_]
      simp [other]
    · cases List.mem_singleton.1 last
      refine ⟨turn, by simp, asked, ?_⟩
      simp [rereads, needed]
  · intro key e' member asks
    rw [List.map_append, List.mem_append]
    rcases List.mem_cons.1 member with rfl | older
    · have key' : DeskOp.schedule (.refreshOrder entry.1) = .schedule (.refreshOrder key) :=
        rereads.symm.trans asks
      simp only [DeskOp.schedule.injEq, ScheduleOp.refreshOrder.injEq] at key'
      exact .inr (by simp [key'])
    · exact .inl (later.only key e' older asks)

/-- An order that is passed over at its turn. -/
theorem Refreshed.pass {visited : List (String × Order)} {events : List DeskEvent}
    (refreshed : Refreshed visited events) {entry : String × Order}
    (fresh : entry.1 ∉ visited.map Prod.fst) {turn : DeskEvent}
    (asked : turn.op = .schedule (.needsRefresh entry.1 entry.2))
    (settled : turn.before.tracking.needsRefresh entry.1 entry.2 = false) :
    Refreshed (visited ++ [entry]) (turn :: events) := by
  have later : Refreshed visited (turn :: events) := refreshed.push fun key => by
    simp [asksToRefresh, asked]
  constructor
  · intro entry' member
    rcases List.mem_append.1 member with before | last
    · exact later.turns entry' before
    · cases List.mem_singleton.1 last
      refine ⟨turn, by simp, asked, ?_⟩
      have never : ¬∃ e ∈ turn :: events, asksToRefresh entry.1 e := by
        rintro ⟨e, member', asks⟩
        exact fresh (later.only _ e member' asks)
      rw [settled]
      exact ⟨fun found => absurd found never, fun wrong => by cases wrong⟩
  · intro key e member asks
    rw [List.map_append, List.mem_append]
    exact .inl (later.only key e member asks)

section Begins

variable {around : Surroundings}

/-- The balances are asked for only when every order had its turn. -/
def refreshContract (around : Surroundings) (orders : Dict String Order) :
    Contract deskEffects Exc DeskWorld where
  serve := DeskServe around
  assume _ _ := True
  guard op m := op = .read .getBalances → Refreshed orders.entries m.events
  invariant _ := True

variable {orders : Dict String Order}

theorem wp_asked {op : DeskOp} {m : DeskMoment} {post : Except Exc op.Reply → DeskMoment → Prop}
    (other : op ≠ .read .getBalances)
    (replied : ∀ reply after, DeskServe around op m.world reply after →
      post reply (m.push (S := deskEffects) op reply after)) :
    wp (refreshContract around orders).logic post (desk op) m :=
  wp_call.2 ⟨fun same => absurd same other, fun reply after served _ =>
    ⟨trivial, replied reply after served⟩⟩

theorem refreshOne_refreshed {visited : List (String × Order)} {entry : String × Order}
    (fresh : entry.1 ∉ visited.map Prod.fst) {m : DeskMoment}
    (refreshed : Refreshed visited m.events) :
    wp (refreshContract around orders).logic
      (stepPost (fun m' => Refreshed (visited ++ [entry]) m'.events) fun _ _ => True)
      (refreshOne entry) m := by
  refine wp_bind.2 (wp_asked (by simp) ?_)
  rintro reply after ⟨rfl, rfl⟩
  refine wp_when (fun needed => wp_asked (by simp) fun reply' after' _ => ?_) fun settled => ?_
  · cases reply' with
    | error exc => trivial
    | ok value => exact refreshed.snoc fresh rfl needed rfl
  · exact refreshed.pass fresh rfl settled

theorem refreshTrackedOrders_refreshed {world : DeskWorld} :
    wp (refreshContract around world.tracking.orders).logic
      (stepPost (fun m' => Refreshed world.tracking.orders.entries m'.events) fun _ _ => True)
      refreshTrackedOrders ⟨world, []⟩ := by
  refine wp_bind.2 (wp_asked (by simp) ?_)
  rintro reply world ⟨rfl, rfl⟩
  refine wp_visit (fun visited (m : DeskMoment) => Refreshed visited m.events) (fun _ _ => True)
    refreshOne ?_ ?_
  · intro before entry rest m split refreshed
    refine refreshOne_refreshed ?_ refreshed
    have keys := world.tracking.orders.nodup
    rw [split, List.map_append, List.map_cons] at keys
    intro visited
    exact (List.nodup_append.1 keys).2.2 _ visited _ (List.mem_cons_self ..) rfl
  · constructor
    · intro entry member
      cases member
    · intro key e member asks
      rcases List.mem_cons.1 member with rfl | older
      · cases asks
      · cases older

theorem projectAndCompare_begins (wiring : Wiring) {m : DeskMoment}
    (refreshed : Refreshed orders.entries m.events) :
    wp (refreshContract around orders).logic (fun _ _ => True) (projectAndCompare wiring) m := by
  have keeps : ∀ {α : Type} {p : Desk α} {m : DeskMoment}, Issues NoRefresh p →
      Refreshed orders.entries m.events → wp (refreshContract around orders).logic
        (fun _ m' => Refreshed orders.entries m'.events) p m := by
    intro α p m quiet before
    refine wp_kept (C := refreshContract around orders)
      (fun m => Refreshed orders.entries m.events) (fun _ _ _ held _ => held) ?_ quiet before
    intro op m reply after noRefresh held _ _
    exact ⟨held.push fun key => noRefresh key, trivial⟩
  have load : Issues NoRefresh loadTracking := issues_call fun _ => by simp
  have clock : Issues NoRefresh (desk (.schedule .utcNow)) := issues_call fun _ => by simp
  refine wp_bind.2 (wp_mono (keeps load refreshed) ?_)
  rintro (exc | tracking) m₁ refreshed₁
  · trivial
  refine wp_bind.2 (wp_mono (keeps clock refreshed₁) ?_)
  rintro (exc | now) m₂ refreshed₂
  · trivial
  dsimp only [andThen]
  cases tracking.expectedState wiring.balanceIncrements now with
  | error exc =>
      dsimp only
      split
      · exact wp_bind.2 (wp_asked (by simp) fun reply _ _ => by cases reply <;> trivial)
      · trivial
  | ok local_ =>
      exact wp_mono (keeps (compareAndAdopt_noRefresh wiring local_) refreshed₂) fun _ _ _ => trivial

theorem compare_begins (wiring : Wiring) {world : DeskWorld} :
    wp (refreshContract around world.tracking.orders).logic (fun _ _ => True) (compare wiring)
      ⟨world, []⟩ := by
  refine wp_bind.2 (wp_attempt.2 (wp_mono refreshTrackedOrders_refreshed ?_))
  rintro (exc | _) m refreshed
  · exact wp_bind.2 (wp_asked (by simp) fun reply _ _ => by cases reply <;> trivial)
  · exact projectAndCompare_begins wiring refreshed

end Begins

/-- When a comparison begins to read the broker, every tracked order had its turn; one whose
recorded fills fell short by then has been re-read exactly when it is neither canceled nor
rejected. -/
theorem refreshed_iff {around : Surroundings} {wiring : Wiring} {world : DeskWorld}
    {p : Desk (Except String ReconciliationResult)} {m : DeskMoment}
    (reached : (compare wiring).Reaches (DeskServe around) ⟨world, []⟩ p m)
    (begins : p.asks = some (.read .getBalances)) :
    ∀ entry ∈ world.tracking.orders.entries, ∃ turn ∈ m.events,
      turn.op = .schedule (.needsRefresh entry.1 entry.2) ∧
      (turn.before.tracking.Lags entry.1 entry.2 →
        ((∃ e ∈ m.events, asksToRefresh entry.1 e) ↔
          entry.2.status ≠ .canceled ∧ entry.2.status ≠ .rejected)) := by
  obtain ⟨next, rfl⟩ := Prog.request_of_asks begins
  have along : Along (refreshContract around world.tracking.orders).assume m.events :=
    along_of_forall fun _ _ => trivial
  have left := wp_reaches (C := refreshContract around world.tracking.orders) reached along
    (compare_begins wiring)
  intro entry member
  obtain ⟨turn, happened, asks, exact_⟩ := (left.1 rfl).turns entry member
  exact ⟨turn, happened, asks, fun lags => exact_.trans (needsRefresh_lagging lags)⟩

theorem decimal_half : (0 : Decimal) ≤ 1 / 2 := by decide +kernel

/-- An order the venue canceled after half of it was filled. -/
def halfFilled : Order := reportOf (marketBuy ⟨1⟩ ⟨2⟩) .canceled ⟨1 / 2, decimal_half⟩

/-- The scheduler knows of the order, but not of its fill yet. -/
def awaitingFill : DeskWorld :=
  { DeskWorld.start with tracking := Tracking.start.observe halfFilled [] }

def quietBroker : DeskCast where
  read
    | .getBalances, m => (.ok [], m.world.venue)
    | .getPositions, m => (.ok [], m.world.venue)
    | .getOrder _, m => (.ok (some halfFilled), m.world.venue)
    | .getFills _, m => (.ok [], m.world.venue)

/-- The comparison, up to its first read of the broker. -/
def atFirstRead : Desk (Except String ReconciliationResult) × DeskMoment :=
  (compare ⟨false, false, false, false, false, .empty⟩).advance quietBroker.script 4
    ⟨awaitingFill, []⟩

theorem atFirstRead_reached : (compare ⟨false, false, false, false, false, .empty⟩).Reaches
    (DeskServe unreliable) ⟨awaitingFill, []⟩ atFirstRead.1 atFirstRead.2 :=
  Prog.advance_reaches (unreliable_sound quietBroker) 4

theorem atFirstRead_asks : atFirstRead.1.asks = some (.read .getBalances) := by rfl

theorem refreshed_iff_halfFilled : ∃ turn ∈ atFirstRead.2.events,
    turn.op = .schedule (.needsRefresh halfFilled.request.clientOrderId.str halfFilled) ∧
      (turn.before.tracking.Lags halfFilled.request.clientOrderId.str halfFilled →
        ((∃ e ∈ atFirstRead.2.events, asksToRefresh halfFilled.request.clientOrderId.str e) ↔
          halfFilled.status ≠ .canceled ∧ halfFilled.status ≠ .rejected)) :=
  refreshed_iff atFirstRead_reached atFirstRead_asks
    (halfFilled.request.clientOrderId.str, halfFilled) List.mem_cons_self

/-- The order an event re-reads. -/
def reread : DeskEvent → Option String
  | ⟨.schedule (.refreshOrder key), _, _, _⟩ => some key
  | _ => none

theorem reread_of_asks {key : String} {e : DeskEvent} (asks : asksToRefresh key e) :
    reread e = some key := by
  obtain ⟨op, reply, before, after⟩ := e
  cases asks
  rfl

/-- Half of the order's quantity is not on record, and the comparison begins without a
re-read of it. -/
theorem halfFilled_not_refreshed : ∃ p m,
    (compare ⟨false, false, false, false, false, .empty⟩).Reaches (DeskServe unreliable)
      ⟨awaitingFill, []⟩ p m ∧ p.asks = some (.read .getBalances) ∧
      ∃ entry ∈ awaitingFill.tracking.orders.entries,
        (∀ e ∈ m.events, e.before.tracking.Lags entry.1 entry.2) ∧
          ¬∃ e ∈ m.events, asksToRefresh entry.1 e := by
  have tracked : ((halfFilled.request.clientOrderId.str, halfFilled) : String × Order) ∈
      awaitingFill.tracking.orders.entries := by decide +kernel
  have lags : ∀ e ∈ atFirstRead.2.events,
      e.before.tracking.Lags halfFilled.request.clientOrderId.str halfFilled := by
    unfold Tracking.Lags
    decide +kernel
  have none : ∀ e ∈ atFirstRead.2.events, reread e = none := by decide
  refine ⟨_, _, atFirstRead_reached, atFirstRead_asks, _, tracked, lags, ?_⟩
  rintro ⟨e, member, asks⟩
  have silent := none e member
  rw [reread_of_asks asks] at silent
  cases silent

end AlgoTrader.Portfolio
