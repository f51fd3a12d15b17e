/-
# Execution.Engine -- persistence-first execution and ambiguity recovery

`ExecutionEngine` saves an order before it calls the venue, asks the venue about
every pending or unknown order before it (re)submits it, and keeps a saved order
recoverable until every fill the venue reports has been read and stored.

The methods are programs over the requests of `Process.Effects`.  Their control
flow is stated once, as an automaton (`Edge`): at which stage of the work on an
order which request may be issued, and where each reply leads.

* `submit_follows`, `recover_follows`, `recoverPending_follows` -- the methods
  follow the automaton, whatever the replies.
-/
import AlgoTrader.Process.Rehearsal
import AlgoTrader.Theory.Logic

namespace AlgoTrader.Execution

open AlgoTrader.Core Brokers Theory Process

set_option autoImplicit false

/-- The observers an engine is set up with. -/
structure Hooks where
  onRecorded : Bool
  onOrderClosed : Bool

/-- The fills of a provider, linked to the saved order by its own id. -/
def linkedToLocalOrder (order : Order) (fills : List Fill) : List Fill :=
  let localId := order.request.clientOrderId
  fills.map fun fill => if fill.orderId = localId then fill else { fill with orderId := localId }

def quantityOf (fills : List Fill) : Decimal := (fills.map fun fill => fill.quantity.1).sum

def modifyMemory (change : Memory → Memory) : Proc Unit := do
  let memory ← ask (.host .readMemory)
  ask (.host (.writeMemory (change memory)))

namespace ExecutionEngine

variable (hooks : Hooks)

/-- `_record`. -/
def record (order : Order) : Proc Order := do
  let fills ← ask (.broker (.getFills order.request.clientOrderId.str))
  let linked := linkedToLocalOrder order fills
  Prog.when (!linked.isEmpty) (ask (.store (.addFills linked)))
  -- The saved order keeps its status while the venue reports more than its fills cover.
  Prog.when (order.filledQuantity.1 ≤ quantityOf linked) (ask (.store (.update order)))
  Prog.when hooks.onRecorded (ask (.host (.onRecorded order linked)))
  return order

def neverSentRecord (order : Order) (failure : Exc) (closedAt : Timestamp) : OrderClosureRecord where
  order
  previousStatus := order.status
  actor := "system"
  reason := s!"Pre-submit order-status lookup failed: {describeProviderFailure failure}"
  closedAt
  brokerLookup := s!"failed ({failure.typeName})"

/-- `_close_never_sent`: audit-close a row this call created when its lookup fails. -/
def closeNeverSent (order : Order) (failure : Exc) : Proc Unit := do
  let closedAt ← ask (.host .utcNow)
  let closed ← ask (.store (.closeUnreceived order.request.clientOrderId.str orderClosedEvent
    (neverSentRecord order failure closedAt).toPayload closedAt))
  if !closed then
    .raise (.persistenceUnavailable
      "new pending order was already resolved elsewhere, so it was not audit-closed")
  else do
    modifyMemory fun memory =>
      { memory with consecutiveNeverSent := memory.consecutiveNeverSent + 1 }
    Prog.when hooks.onOrderClosed (ask (.host (.onOrderClosed order failure))).attempt.discard

/-- Keep the order a failed submission carries, then let the failure go on. -/
def submissionFailed (failure : Exc) : Proc Order :=
  match failure.order with
  | some order => do
      ask (.store (.update order))
      .raise failure
  | none => .raise failure

def send (request : OrderRequest) (approval : RiskApproval) : Proc Order := do
  match ← (ask (.broker (.submitOrder request approval))).attempt with
  | .error failure => submissionFailed failure
  | .ok result => record hooks result

/-- Ask the venue by `client_order_id` before any (re)submission. -/
def lookupThenSend (request : OrderRequest) (approval : RiskApproval) (persisted : Order)
    (created : Bool) : Proc Order := do
  match ← (ask (.broker (.getOrder request.clientOrderId.str))).attempt with
  | .error failure => do
      Prog.when created (closeNeverSent hooks persisted failure)
      .raise failure
  | .ok existing => do
      -- Any answer, found or not, shows the status lookup works again.
      modifyMemory fun memory => { memory with consecutiveNeverSent := 0 }
      match existing with
      | some order => record hooks order
      | none => send hooks request approval

def submit (request : OrderRequest) (approval : RiskApproval) : Proc Order :=
  if request.signalId ≠ approval.signalId then
    .raise (.valueError "risk approval does not belong to order request")
  else if approval.approved = false then
    .raise (.permissionError "order is not approved by risk engine")
  else do
    let (persisted, created) ← ask (.store (.reserveWithCreated request approval))
    if persisted.status.unresolved then
      lookupThenSend hooks request approval persisted created
    else
      return persisted

def recover (clientOrderId : String) : Proc (Option Order) := do
  match ← ask (.broker (.getOrder clientOrderId)) with
  | none => ask (.store (.get clientOrderId))
  | some existing => do
      let order ← record hooks existing
      return some order

def recoverPending : Proc (List Order) := do
  let orders ← ask (.store .pending)
  let results ← Prog.each (fun order => recover hooks order.request.clientOrderId.str) orders
  return results.filterMap id

end ExecutionEngine

/-! ## The control flow -/

/-- How far the work on an order has come. -/
inductive Stage where
  | idle
  /-- Nothing is saved yet. -/
  | ordering (request : OrderRequest) (approval : RiskApproval)
  /-- The order is saved and unresolved, and the venue is to be asked about it. -/
  | reserved (request : OrderRequest) (approval : RiskApproval) (persisted : Order) (created : Bool)
  /-- The venue could not be asked about an order this call created. -/
  | unsent (order : Order) (failure : Exc)
  /-- The venue has no record of the order. -/
  | absent (request : OrderRequest) (approval : RiskApproval)
  /-- A failed submission carried this order. -/
  | failed (order : Order)
  /-- The venue reported this order. -/
  | answered (order : Order)
  | fetched (order : Order) (fills : List Fill)
  /-- Every fill the venue returned is saved. -/
  | covered (order : Order) (fills : List Fill)

/-- A point of the automaton: the ids recovery may ask about, and the stage. -/
structure EnginePoint where
  asking : List String
  stage : Stage

/-- Requests that move no order: the clock, this process's memory, the observers. -/
inductive Quiet : Op → Prop
  | utcNow : Quiet (.host .utcNow)
  | clock : Quiet (.host .clock)
  | readMemory : Quiet (.host .readMemory)
  | writeMemory (memory : Memory) : Quiet (.host (.writeMemory memory))
  | observe (state : MarketState) : Quiet (.host (.observe state))
  | onRecorded (order : Order) (fills : List Fill) : Quiet (.host (.onRecorded order fills))
  | onOrderClosed (order : Order) (failure : Exc) : Quiet (.host (.onOrderClosed order failure))
  | onHalt (reason : String) : Quiet (.host (.onHalt reason))

theorem Quiet.offStore {op : Op} (quiet : Quiet op) : op.onStore = false := by
  cases quiet <;> rfl

def clientIds (orders : List Order) : List String :=
  orders.map fun order => order.request.clientOrderId.str

section Replies

variable (ids : List String)

def afterReserve (request : OrderRequest) (approval : RiskApproval) :
    Except Exc (Order × Bool) → EnginePoint
  | .ok (persisted, created) =>
      if persisted.status.unresolved then ⟨ids, .reserved request approval persisted created⟩
      else ⟨ids, .idle⟩
  | .error _ => ⟨ids, .idle⟩

def afterLookup (request : OrderRequest) (approval : RiskApproval) (persisted : Order)
    (created : Bool) : Except Exc (Option Order) → EnginePoint
  | .ok (some order) => ⟨ids, .answered order⟩
  | .ok none => ⟨ids, .absent request approval⟩
  | .error failure => if created then ⟨ids, .unsent persisted failure⟩ else ⟨ids, .idle⟩

def afterSubmit : Except Exc Order → EnginePoint
  | .ok order => ⟨ids, .answered order⟩
  | .error failure =>
      match failure.order with
      | some order => ⟨ids, .failed order⟩
      | none => ⟨ids, .idle⟩

def afterFills (order : Order) : Except Exc (List Fill) → EnginePoint
  | .ok [] => ⟨ids, .covered order []⟩
  | .ok fills => ⟨ids, .fetched order fills⟩
  | .error _ => ⟨ids, .idle⟩

def afterAddFills (order : Order) (fills : List Fill) : Except Exc Unit → EnginePoint
  | .ok _ => ⟨ids, .covered order fills⟩
  | .error _ => ⟨ids, .idle⟩

def afterRecover : Except Exc (Option Order) → EnginePoint
  | .ok (some order) => ⟨ids, .answered order⟩
  | _ => ⟨ids, .idle⟩

def afterPending : Except Exc (List Order) → EnginePoint
  | .ok orders => ⟨clientIds orders, .idle⟩
  | .error _ => ⟨ids, .idle⟩

end Replies

/-! Where each reply leads to, for any property of the stages. -/

section Stages

variable {P : Stage → Prop} {ids : List String} {request : OrderRequest} {approval : RiskApproval}
  {order : Order} {fills : List Fill}

theorem afterReserve_stage {reply : Except Exc (Order × Bool)} (idle : P .idle)
    (reserved : ∀ persisted created, reply = .ok (persisted, created) →
      persisted.status.unresolved = true → P (.reserved request approval persisted created)) :
    P (afterReserve ids request approval reply).stage := by
  cases reply with
  | error refused => exact idle
  | ok value =>
      obtain ⟨persisted, created⟩ := value
      simp only [afterReserve]
      split
      · exact reserved persisted created rfl ‹_›
      · exact idle

theorem afterLookup_stage {persisted : Order} {created : Bool} {reply : Except Exc (Option Order)}
    (idle : P .idle) (answered : ∀ order, reply = .ok (some order) → P (.answered order))
    (absent : reply = .ok none → P (.absent request approval))
    (unsent : ∀ failure, reply = .error failure → created = true → P (.unsent persisted failure)) :
    P (afterLookup ids request approval persisted created reply).stage := by
  cases reply with
  | error failure =>
      simp only [afterLookup]
      split
      · exact unsent failure rfl ‹_›
      · exact idle
  | ok found =>
      cases found with
      | none => exact absent rfl
      | some order => exact answered order rfl

theorem afterSubmit_stage {reply : Except Exc Order} (idle : P .idle)
    (answered : ∀ order, reply = .ok order → P (.answered order))
    (failed : ∀ failure order, reply = .error failure → failure.order = some order → P (.failed order)) :
    P (afterSubmit ids reply).stage := by
  cases reply with
  | ok order => exact answered order rfl
  | error failure =>
      simp only [afterSubmit]
      split
      · exact failed failure _ rfl ‹_›
      · exact idle

theorem afterFills_stage {reply : Except Exc (List Fill)} (idle : P .idle)
    (covered : reply = .ok [] → P (.covered order []))
    (fetched : ∀ fills, reply = .ok fills → P (.fetched order fills)) :
    P (afterFills ids order reply).stage := by
  cases reply with
  | error failure => exact idle
  | ok fills =>
      cases fills with
      | nil => exact covered rfl
      | cons fill rest => exact fetched _ rfl

theorem afterAddFills_stage {reply : Except Exc Unit} (idle : P .idle)
    (covered : reply = .ok () → P (.covered order fills)) : P (afterAddFills ids order fills reply).stage := by
  cases reply with
  | error refused => exact idle
  | ok value => exact covered rfl

theorem afterRecover_stage {reply : Except Exc (Option Order)} (idle : P .idle)
    (answered : ∀ order, reply = .ok (some order) → P (.answered order)) : P (afterRecover ids reply).stage := by
  cases reply with
  | error failure => exact idle
  | ok found =>
      cases found with
      | none => exact idle
      | some order => exact answered order rfl

@[simp] theorem afterPending_stage (reply : Except Exc (List Order)) : (afterPending ids reply).stage = .idle := by
  cases reply <;> rfl

@[simp] theorem afterReserve_asking (reply : Except Exc (Order × Bool)) :
    (afterReserve ids request approval reply).asking = ids := by
  unfold afterReserve
  split
  · split <;> rfl
  · rfl

@[simp] theorem afterLookup_asking (persisted : Order) (created : Bool) (reply : Except Exc (Option Order)) :
    (afterLookup ids request approval persisted created reply).asking = ids := by
  unfold afterLookup
  split
  · rfl
  · rfl
  · split <;> rfl

@[simp] theorem afterSubmit_asking (reply : Except Exc Order) : (afterSubmit ids reply).asking = ids := by
  unfold afterSubmit
  split
  · rfl
  · split <;> rfl

@[simp] theorem afterFills_asking (reply : Except Exc (List Fill)) : (afterFills ids order reply).asking = ids := by
  unfold afterFills
  split <;> rfl

@[simp] theorem afterAddFills_asking (reply : Except Exc Unit) :
    (afterAddFills ids order fills reply).asking = ids := by
  unfold afterAddFills
  split <;> rfl

@[simp] theorem afterRecover_asking (reply : Except Exc (Option Order)) : (afterRecover ids reply).asking = ids := by
  unfold afterRecover
  split <;> rfl

end Stages

inductive Edge : Flow effects Exc EnginePoint
  | reserve (ids : List String) (request : OrderRequest) (approval : RiskApproval)
      (own : request.signalId = approval.signalId) (approved : approval.approved = true) :
      Edge ⟨ids, .ordering request approval⟩ (.store (.reserveWithCreated request approval))
        (afterReserve ids request approval)
  | lookup (ids : List String) (request : OrderRequest) (approval : RiskApproval)
      (persisted : Order) (created : Bool) :
      Edge ⟨ids, .reserved request approval persisted created⟩
        (.broker (.getOrder request.clientOrderId.str))
        (afterLookup ids request approval persisted created)
  | closeNeverSent (ids : List String) (order : Order) (failure : Exc) (closedAt : Timestamp) :
      Edge ⟨ids, .unsent order failure⟩
        (.store (.closeUnreceived order.request.clientOrderId.str orderClosedEvent
          (ExecutionEngine.neverSentRecord order failure closedAt).toPayload closedAt))
        (fun _ => ⟨ids, .idle⟩)
  | submitOrder (ids : List String) (request : OrderRequest) (approval : RiskApproval) :
      Edge ⟨ids, .absent request approval⟩ (.broker (.submitOrder request approval))
        (afterSubmit ids)
  | saveFailed (ids : List String) (order : Order) :
      Edge ⟨ids, .failed order⟩ (.store (.update order)) (fun _ => ⟨ids, .idle⟩)
  | getFills (ids : List String) (order : Order) :
      Edge ⟨ids, .answered order⟩ (.broker (.getFills order.request.clientOrderId.str))
        (afterFills ids order)
  | addFills (ids : List String) (order : Order) (fills : List Fill) :
      Edge ⟨ids, .fetched order fills⟩ (.store (.addFills (linkedToLocalOrder order fills)))
        (afterAddFills ids order fills)
  | settle (ids : List String) (order : Order) (fills : List Fill)
      (enough : order.filledQuantity.1 ≤ quantityOf (linkedToLocalOrder order fills)) :
      Edge ⟨ids, .covered order fills⟩ (.store (.update order)) (fun _ => ⟨ids, .idle⟩)
  | recover (ids : List String) (stage : Stage) (id : String) (asked : id ∈ ids) :
      Edge ⟨ids, stage⟩ (.broker (.getOrder id)) (afterRecover ids)
  | get (ids : List String) (stage : Stage) (id : String) :
      Edge ⟨ids, stage⟩ (.store (.get id)) (fun _ => ⟨ids, .idle⟩)
  | pending (ids : List String) (stage : Stage) :
      Edge ⟨ids, stage⟩ (.store .pending) (afterPending ids)
  | quiet (pt : EnginePoint) (op : Op) (quiet : Quiet op) : Edge pt op (fun _ => pt)

/-! ## The methods follow the automaton -/

abbrev engineFlow : Logic effects Exc EnginePoint := Logic.flow Edge

theorem flow_call {P : Type} {edge : Flow effects Exc P} {op : Op}
    {post : Except Exc op.Reply → P → Prop} {pt : P} {next : Except Exc op.Reply → P}
    (taken : edge pt op next) (replied : ∀ reply, post reply (next reply)) :
    wp (Logic.flow edge) post (ask op) pt :=
  wp_call.2 ⟨next, taken, replied⟩

theorem modifyMemory_quiet (change : Memory → Memory) : Issues Quiet (modifyMemory change) :=
  issues_bind (issues_call .readMemory) fun _ => issues_call (.writeMemory _)

theorem quiet_stays {α : Type} {p : Proc α} {pt : EnginePoint} (issues : Issues Quiet p) :
    wp engineFlow (fun _ pt' => pt' = pt) p pt :=
  wp_stays (fun op quiet => .quiet pt op quiet) issues

namespace ExecutionEngine

variable {hooks : Hooks} {ids : List String}

/-- After any step recovery still asks about the same orders. -/
def Asking {α : Type} (ids : List String) : Except Exc α → EnginePoint → Prop :=
  fun _ pt => pt.asking = ids

theorem observed_follows (order : Order) (linked : List Fill) (stage : Stage) :
    wp engineFlow (Asking ids) (do
      Prog.when hooks.onRecorded (ask (.host (.onRecorded order linked)))
      return order) ⟨ids, stage⟩ := by
  have observed : Issues Quiet (do
      Prog.when hooks.onRecorded (ask (.host (.onRecorded order linked)))
      return order : Proc Order) :=
    issues_bind (issues_when fun _ => issues_call (.onRecorded _ _)) fun _ => issues_pure _
  exact wp_mono (quiet_stays observed) fun _ _ still => still ▸ rfl

theorem record_follows (order : Order) :
    wp engineFlow (Asking ids) (record hooks order) ⟨ids, .answered order⟩ := by
  refine wp_bind.2 (flow_call (.getFills ids order) ?_)
  rintro (failure | fills)
  · exact rfl
  have settled : wp engineFlow (Asking ids) (do
      Prog.when (order.filledQuantity.1 ≤ quantityOf (linkedToLocalOrder order fills))
        (ask (.store (.update order)))
      Prog.when hooks.onRecorded
        (ask (.host (.onRecorded order (linkedToLocalOrder order fills))))
      return order) ⟨ids, .covered order fills⟩ := by
    refine wp_bind.2 (wp_when ?_ fun _ => observed_follows ..)
    intro enough
    refine flow_call (.settle ids order fills (of_decide_eq_true enough)) ?_
    rintro (failure | _)
    · exact rfl
    · exact observed_follows ..
  refine wp_bind.2 ?_
  cases fills with
  | nil => exact settled
  | cons fill rest =>
      refine flow_call (.addFills ids order (fill :: rest)) ?_
      rintro (failure | _)
      · exact rfl
      · exact settled

theorem closeNeverSent_follows (order : Order) (failure : Exc) :
    wp engineFlow (Asking ids) (closeNeverSent hooks order failure) ⟨ids, .unsent order failure⟩ := by
  refine wp_bind.2 (flow_call (.quiet _ _ .utcNow) ?_)
  rintro (refused | closedAt)
  · exact rfl
  refine wp_bind.2 (flow_call (.closeNeverSent ids order failure closedAt) ?_)
  rintro (refused | closed)
  · exact rfl
  have counted : Issues Quiet (do
      modifyMemory fun memory =>
        { memory with consecutiveNeverSent := memory.consecutiveNeverSent + 1 }
      Prog.when hooks.onOrderClosed (ask (.host (.onOrderClosed order failure))).attempt.discard :
        Proc Unit) :=
    issues_bind (modifyMemory_quiet _) fun _ => issues_when fun _ =>
      issues_bind (issues_attempt (issues_call (.onOrderClosed _ _))) fun _ => issues_pure _
  cases closed with
  | true => exact wp_mono (quiet_stays counted) fun _ _ still => still ▸ rfl
  | false => exact rfl

theorem submissionFailed_follows (failure : Exc) :
    wp engineFlow (Asking ids) (submissionFailed failure) (afterSubmit ids (.error failure)) := by
  cases carried : failure.order with
  | none =>
      simp only [submissionFailed, afterSubmit, carried]
      exact rfl
  | some order =>
      simp only [submissionFailed, afterSubmit, carried]
      refine wp_bind.2 (flow_call (.saveFailed ids order) ?_)
      rintro (refused | _) <;> exact rfl

theorem send_follows (request : OrderRequest) (approval : RiskApproval) :
    wp engineFlow (Asking ids) (send hooks request approval) ⟨ids, .absent request approval⟩ := by
  refine wp_bind.2 (wp_attempt.2 (flow_call (.submitOrder ids request approval) ?_))
  rintro (failure | result)
  · exact submissionFailed_follows failure
  · exact record_follows result

theorem lookupThenSend_follows (request : OrderRequest) (approval : RiskApproval)
    (persisted : Order) (created : Bool) :
    wp engineFlow (Asking ids) (lookupThenSend hooks request approval persisted created)
      ⟨ids, .reserved request approval persisted created⟩ := by
  refine wp_bind.2 (wp_attempt.2 (flow_call (.lookup ids request approval persisted created) ?_))
  rintro (failure | existing)
  · refine wp_bind.2 ?_
    cases created with
    | false => exact rfl
    | true =>
        refine wp_mono (closeNeverSent_follows persisted failure) ?_
        rintro (refused | _) pt asking <;> exact asking
  · refine wp_bind.2 (wp_mono (quiet_stays (modifyMemory_quiet _)) ?_)
    rintro result pt rfl
    cases result with
    | error refused => cases existing <;> exact rfl
    | ok value =>
        cases existing with
        | none => exact send_follows request approval
        | some order => exact record_follows order

theorem submit_follows (request : OrderRequest) (approval : RiskApproval) :
    wp engineFlow (Asking ids) (submit hooks request approval) ⟨ids, .ordering request approval⟩ := by
  unfold submit
  split
  · exact rfl
  · rename_i own
    split
    · exact rfl
    · rename_i approved
      refine wp_bind.2 (flow_call
        (.reserve ids request approval (not_not.1 own) (by simpa using approved)) ?_)
      rintro (refused | ⟨persisted, created⟩)
      · exact rfl
      · by_cases unresolved : persisted.status.unresolved = true
        · simp only [andThen, afterReserve, unresolved, if_true]
          exact lookupThenSend_follows request approval persisted created
        · simp only [andThen, afterReserve, unresolved]
          exact rfl

theorem recover_follows (id : String) (asked : id ∈ ids) (stage : Stage) :
    wp engineFlow (Asking ids) (recover hooks id) ⟨ids, stage⟩ := by
  refine wp_bind.2 (flow_call (.recover ids stage id asked) ?_)
  rintro (failure | existing)
  · exact rfl
  · cases existing with
    | none => exact flow_call (.get ids .idle id) fun _ => rfl
    | some order =>
        refine wp_bind.2 (wp_mono (record_follows order) ?_)
        rintro (failure | value) pt asking <;> exact asking

theorem recoverPending_follows (stage : Stage) :
    wp engineFlow (fun _ _ => True) (recoverPending hooks) ⟨ids, stage⟩ := by
  refine wp_bind.2 (flow_call (.pending ids stage) ?_)
  rintro (failure | orders)
  · trivial
  · refine wp_bind.2 (wp_mono (wp_each (fun pt => pt.asking = clientIds orders) orders ?_ rfl) ?_)
    · rintro order member ⟨asking, stage⟩ rfl
      exact recover_follows _ (List.mem_map_of_mem member) stage
    · rintro (failure | results) pt _ <;> trivial

end ExecutionEngine

/-! ## Calls, one at a time -/

inductive EngineCall where
  | submit (request : OrderRequest) (approval : RiskApproval)
  | recover (clientOrderId : String)
  | recoverPending

def EngineCall.program (hooks : Hooks) : EngineCall → Proc Unit
  | .submit request approval => (ExecutionEngine.submit hooks request approval).discard
  | .recover clientOrderId => (ExecutionEngine.recover hooks clientOrderId).discard
  | .recoverPending => (ExecutionEngine.recoverPending hooks).discard

/-- Where a call enters the automaton. -/
def EngineCall.point : EngineCall → EnginePoint
  | .submit request approval => ⟨[], .ordering request approval⟩
  | .recover clientOrderId => ⟨[clientOrderId], .idle⟩
  | .recoverPending => ⟨[], .idle⟩

theorem EngineCall.follows (hooks : Hooks) (call : EngineCall) :
    wp engineFlow (fun _ _ => True) (call.program hooks) call.point := by
  cases call with
  | submit request approval =>
      refine wp_discard (wp_mono (ExecutionEngine.submit_follows request approval) ?_)
      exact fun _ _ _ => trivial
  | recover clientOrderId =>
      refine wp_discard (wp_mono
        (ExecutionEngine.recover_follows clientOrderId (List.mem_singleton_self _) .idle) ?_)
      exact fun _ _ _ => trivial
  | recoverPending => exact wp_discard (ExecutionEngine.recoverPending_follows .idle)

/-- A new process over the same stores and the same venue. -/
def Restart (before after : World) : Prop :=
  after.store = before.store ∧ after.audit = before.audit ∧ after.memory = .fresh ∧
    after.venue = before.venue

/-- An engine whose calls are made one at a time, as the trading lock makes them. -/
def engineSystem (env : Environment) (hooks : Hooks) (initial : World → Prop) : Runtime where
  Entry := EngineCall
  program := EngineCall.program hooks
  serve := Serve env
  restart := Restart
  initial

/-- Every reachable state of an engine meets a contract its stages are annotated for. -/
theorem engineSystem_upheld {env : Environment} {hooks : Hooks} {initial : World → Prop}
    {C : Contract effects Exc World} {means : EnginePoint → Instant → Prop}
    (same : C.serve = Serve env) (annotated : Annotation C Edge means)
    (initially : ∀ world, initial world → C.invariant ⟨world, []⟩)
    (enter : ∀ (call : EngineCall) m, C.invariant m → means call.point m)
    (restarts : ∀ m world, C.invariant m → Restart m.world world →
      C.invariant ⟨world, m.events⟩)
    {c : Config effects Exc World} (reached : (engineSystem env hooks initial).Reachable c)
    (assumed : Along C.assume c.moment.events) : Upheld C c :=
  System.sound same initially
    (fun (call : EngineCall) m held => annotated.wp (call.follows hooks) (enter call m held)) restarts reached
    assumed

/-! ## One call, from empty books -/

/-- One call to submit a market buy, from empty tables, played out. -/
def submitOnce (cast : Cast) : Proc Unit × Instant :=
  let request := marketBuy ⟨1⟩ ⟨2⟩
  ((EngineCall.submit request (approvalOf request)).program ⟨false, false⟩).advance cast.script 12
    ⟨emptyWorld (.sqlAlchemy .empty) (.sqlAlchemy .empty .empty), []⟩

/-- The system of `submitOnce`. -/
def oneEngine : Runtime :=
  engineSystem oneAtATime ⟨false, false⟩
    (· = emptyWorld (.sqlAlchemy .empty) (.sqlAlchemy .empty .empty))

theorem submitOnce_reached {cast : Cast}
    (still : ∀ op m, (cast.meanwhile op m).store = m.world.store ∧
      (cast.meanwhile op m).audit = m.world.audit ∧
      (cast.meanwhile op m).memory = m.world.memory) :
    oneEngine.Reachable ⟨(submitOnce cast).2, some (submitOnce cast).1⟩ :=
  System.Reachable.advance (Cast.sound oneAtATime (fun _ => trivial) still) 12
    (show oneEngine.Reachable ⟨_, some (oneEngine.program
      (EngineCall.submit (marketBuy ⟨1⟩ ⟨2⟩) (approvalOf (marketBuy ⟨1⟩ ⟨2⟩))))⟩ from
      .started rfl _)

end AlgoTrader.Execution
