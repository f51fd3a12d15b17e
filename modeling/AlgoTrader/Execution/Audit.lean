/-
# Execution.Audit -- signals, risk decisions, and the lineage of an order

Each order must link to the signal that produced it, that signal's strategy
version, the risk decision it cites, and its fills.  The signals and decisions
are kept in an audit store of one of two kinds; either keeps the first record
under an id and ignores every later one.

* `AuditStore.recordSignal_cases`, `AuditStore.recordRiskDecision_cases` -- what
  the two writes do to what is on record;
* `OrderLineage.gaps` -- what an order is missing.
-/
import AlgoTrader.Execution.Book

namespace AlgoTrader.Execution

open AlgoTrader.Core Brokers Theory

set_option autoImplicit false

def orderClosedEvent : String := "order_closed_never_received"

def neverReceived : String := "never received by the venue"

/-- Who closed a never-received order, when, why, and what the venue said then. -/
structure OrderClosureRecord where
  order : Order
  previousStatus : OrderStatus
  actor : String
  reason : String
  closedAt : Timestamp
  brokerLookup : String

/-- The `system_events` payload; the order store adds the risk decision's id. -/
def OrderClosureRecord.toPayload (record : OrderClosureRecord) : Payload :=
  let request := record.order.request
  [ ("client_order_id", .text request.clientOrderId.str),
    ("order_id", .text record.order.orderId.str),
    ("signal_id", .text request.signalId.str),
    ("strategy_version", .text request.strategyVersion),
    ("symbol", .text request.symbol),
    ("side", .text (match request.side with | .buy => "buy" | .sell => "sell")),
    ("quantity", .decimal request.quantity),
    ("previous_status", .text record.previousStatus.value),
    ("new_status", .text OrderStatus.canceled.value),
    ("actor", .text record.actor),
    ("reason", .text record.reason),
    ("closed_at", .moment record.closedAt),
    ("broker_lookup", .text record.brokerLookup),
    ("broker_fills", .number 0),
    ("outcome", .text neverReceived) ]

/-- A value of a payload. -/
def Payload.get? (payload : Payload) (key : String) : Option PayloadValue :=
  (payload.find? fun e => e.1 = key).map Prod.snd

/-! ## The audit stores -/

/-- A row of `signals`. -/
structure SignalRecord where
  symbol : String
  strategyVersion : String
  side : OrderSide
  quantity : PositiveDecimal
  createdAt : Timestamp

/-- A row of `risk_decisions`. -/
structure RiskDecisionRecord where
  signalId : Uuid
  approved : Bool
  reason : String
  failedGate : Option String
  correlationId : Uuid
  decidedAt : Timestamp

/-- Signals by their id, risk decisions by the approval an order cites. -/
inductive AuditStore where
  | sqlAlchemy (signals : Dict Uuid SignalRecord) (decisions : Dict Uuid RiskDecisionRecord)
  | inMemory (signals : Dict Uuid Signal) (decisions : Dict Uuid RiskApproval)

namespace AuditStore

def recordSignal (signal : Signal) : AuditStore → Except Exc Unit × AuditStore
  | .sqlAlchemy signals decisions =>
      (.ok (), .sqlAlchemy (signals.setDefault signal.signalId
        ⟨signal.symbol, signal.strategyVersion, signal.side, signal.quantity, signal.createdAt⟩)
        decisions)
  | .inMemory signals decisions =>
      (.ok (), .inMemory (signals.setDefault signal.signalId signal) decisions)

def recordRiskDecision (decision : RiskApproval) : AuditStore → Except Exc Unit × AuditStore
  | .sqlAlchemy signals decisions =>
      (.ok (), .sqlAlchemy signals (decisions.setDefault decision.approvalId
        ⟨decision.signalId, decision.approved, decision.reason, decision.failedGate,
          decision.correlationId, decision.approvedAt⟩))
  | .inMemory signals decisions =>
      (.ok (), .inMemory signals (decisions.setDefault decision.approvalId decision))

/-- The strategy version of a recorded signal. -/
def signalVersion (id : Uuid) : AuditStore → Option String
  | .sqlAlchemy signals _ => (signals.get? id).map SignalRecord.strategyVersion
  | .inMemory signals _ => (signals.get? id).map Signal.strategyVersion

/-- The signal a recorded risk decision is for, and whether it approved it. -/
def decision (approvalId : Uuid) : AuditStore → Option (Uuid × Bool)
  | .sqlAlchemy _ decisions => (decisions.get? approvalId).map fun d => (d.signalId, d.approved)
  | .inMemory _ decisions => (decisions.get? approvalId).map fun d => (d.signalId, d.approved)

theorem recordSignal_cases (store : AuditStore) (signal : Signal) :
    (∀ id, (store.recordSignal signal).2.decision id = store.decision id) ∧
      ∀ id, (store.recordSignal signal).2.signalVersion id =
        if id = signal.signalId then some ((store.signalVersion id).getD signal.strategyVersion)
        else store.signalVersion id := by
  cases store with
  | sqlAlchemy signals decisions =>
      exact ⟨fun _ => rfl, fun id => Dict.map_get?_setDefault SignalRecord.strategyVersion signals _ id _⟩
  | inMemory signals decisions =>
      exact ⟨fun _ => rfl, fun id => Dict.map_get?_setDefault Signal.strategyVersion signals _ id _⟩

theorem recordRiskDecision_cases (store : AuditStore) (made : RiskApproval) :
    (∀ id, (store.recordRiskDecision made).2.signalVersion id = store.signalVersion id) ∧
      ∀ id, (store.recordRiskDecision made).2.decision id =
        if id = made.approvalId then some ((store.decision id).getD (made.signalId, made.approved))
        else store.decision id := by
  cases store with
  | sqlAlchemy signals decisions =>
      exact ⟨fun _ => rfl, fun id =>
        Dict.map_get?_setDefault (fun d : RiskDecisionRecord => (d.signalId, d.approved)) decisions _ id _⟩
  | inMemory signals decisions =>
      exact ⟨fun _ => rfl, fun id =>
        Dict.map_get?_setDefault (fun d : RiskApproval => (d.signalId, d.approved)) decisions _ id _⟩

/-- What was on record still is. -/
structure Extends (before after : AuditStore) : Prop where
  signals : ∀ {id version}, before.signalVersion id = some version →
    after.signalVersion id = some version
  decisions : ∀ {id decision}, before.decision id = some decision → after.decision id = some decision

theorem Extends.refl (store : AuditStore) : store.Extends store := ⟨fun held => held, fun held => held⟩

theorem recordSignal_extends (store : AuditStore) (signal : Signal) :
    store.Extends (store.recordSignal signal).2 := by
  obtain ⟨decisions, signals⟩ := store.recordSignal_cases signal
  refine ⟨fun {id version} held => ?_, fun {id decision} held => (decisions id).trans held⟩
  rw [signals id, held]
  split <;> rfl

theorem recordRiskDecision_extends (store : AuditStore) (made : RiskApproval) :
    store.Extends (store.recordRiskDecision made).2 := by
  obtain ⟨signals, decisions⟩ := store.recordRiskDecision_cases made
  refine ⟨fun {id version} held => (signals id).trans held, fun {id decision} held => ?_⟩
  rw [decisions id, held]
  split <;> rfl

end AuditStore

/-! ## Lineage -/

/-- What one order links to, as `lineage()` reports it. -/
structure OrderLineage where
  clientOrderId : String
  status : OrderStatus
  signalRecorded : Bool
  strategyVersionMatches : Bool
  riskDecisionRecorded : Bool
  riskDecisionApproved : Bool
  fillCount : Nat
  filledQuantity : Decimal

/-- The links an order is missing. -/
def OrderLineage.gaps (lineage : OrderLineage) : List String :=
  (if !lineage.signalRecorded then ["signal"]
   else if !lineage.strategyVersionMatches then ["strategy_version"] else []) ++
  (if !lineage.riskDecisionRecorded then ["risk_decision"]
   else if !lineage.riskDecisionApproved then ["risk_decision_not_approved"] else []) ++
  -- A canceled or expired order can still have executed in part.
  (if (lineage.status = .filled ∨ lineage.status = .partiallyFilled ∨ 0 < lineage.filledQuantity) ∧
      lineage.fillCount = 0 then ["fills"] else [])

end AlgoTrader.Execution
