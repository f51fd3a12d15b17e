/-
# Execution.Store -- where orders are kept

The engine writes through one protocol, `OrderStore`, with two implementations:
`SqlAlchemyOrderStore`, rows of tables under the constraints of the schema, and
`InMemoryOrderStore`, dictionaries keyed by `str(client_order_id)`.  Each method
is a function from the store to its reply and the store it leaves; what an
exception leaves behind is the unchanged store, as a transaction does.

The two keep different data and look ids up differently: the tables read any
spelling of a UUID, the dictionary only the key itself.  `Execution.Book` says
what they have in common.
-/
import Mathlib.Data.List.Count
import AlgoTrader.Brokers.Http
import AlgoTrader.Theory.Dict

namespace AlgoTrader.Execution

open AlgoTrader.Core Brokers Theory

set_option autoImplicit false

/-- A value in the payload of an audit event. -/
inductive PayloadValue where
  | text (value : String)
  | number (value : Int)
  | decimal (value : Decimal)
  | moment (value : Timestamp)
  deriving DecidableEq

abbrev Payload := List (String × PayloadValue)

/-! ## The store of tests and replays -/

structure InMemoryOrderStore where
  orders : Dict String Order
  keyed : ∀ {key order}, orders.get? key = some order → key = order.request.clientOrderId.str
  fills : Dict String Fill
  approvals : Dict String RiskApproval
  closures : List (String × Payload)

namespace InMemoryOrderStore

def empty : InMemoryOrderStore where
  orders := .empty
  keyed found := by simp at found
  fills := .empty
  approvals := .empty
  closures := []

variable (store : InMemoryOrderStore)

/-- `self.orders[str(order.request.client_order_id)] = order`. -/
def put (order : Order) : InMemoryOrderStore :=
  { store with
    orders := store.orders.set order.request.clientOrderId.str order
    keyed := fun {key held} found => by
      rw [Dict.get?_set] at found
      split at found
      · rename_i same
        cases found
        exact same
      · exact store.keyed found }

def reserveWithCreated (now : Timestamp) (request : OrderRequest) (approval : RiskApproval) :
    Except Exc (Order × Bool) × InMemoryOrderStore :=
  let key := request.clientOrderId.str
  match store.orders.get? key with
  | some existing =>
      if existing.request ≠ request then
        (.error (.valueError "client_order_id is already bound to a different order request"), store)
      else
        (.ok (existing, false), store)
  | none =>
      let order : Order :=
        { orderId := request.clientOrderId, request, status := .pendingSubmit,
          filledQuantity := ⟨0, decimal_zero⟩, averageFillPrice := none,
          createdAt := now, updatedAt := now }
      (.ok (order, true), { store.put order with approvals := store.approvals.set key approval })

def update (order : Order) : Except Exc Unit × InMemoryOrderStore :=
  (.ok (), store.put order)

def addFills (fills : List Fill) : Except Exc Unit × InMemoryOrderStore :=
  (.ok (), { store with fills := fills.foldl (fun kept fill => kept.set fill.fillId fill) store.fills })

def get (clientOrderId : String) : Except Exc (Option Order) :=
  .ok (store.orders.get? clientOrderId)

def pending : Except Exc (List Order) :=
  .ok (store.orders.values.filter fun order => order.status.unresolved)

/-- End a still-unresolved order as `canceled` and journal why, or change nothing. -/
def closeUnreceived (clientOrderId : String) (eventType : String) (payload : Payload)
    (at_ : Timestamp) : Except Exc Bool × InMemoryOrderStore :=
  match store.orders.get? clientOrderId with
  | none => (.ok false, store)
  | some order =>
      if order.status.unresolved then
        (.ok true,
          { store.put { order with status := .canceled, updatedAt := at_ } with
            closures := store.closures ++ [(eventType, payload)] })
      else
        (.ok false, store)

end InMemoryOrderStore

/-! ## The tables -/

/-- A row of `orders`; the columns an older row may lack are optional. -/
structure OrderRecord where
  orderId : Uuid
  signalId : Uuid
  clientOrderId : Uuid
  strategyVersion : String
  riskApprovalId : Uuid
  symbol : Option String
  side : Option OrderSide
  orderType : Option Core.OrderType
  quantity : Option Decimal
  limitPrice : Option Decimal
  correlationId : Option Uuid
  status : OrderStatus
  createdAt : Timestamp

/-- A row of `fills`, which only ever comes from a valid fill; the surrogate key, a
hash of the broker's id, is left out. -/
structure FillRecord where
  orderId : Uuid
  brokerFillId : String
  quantity : PositiveDecimal
  price : PositiveDecimal
  fee : NonNegativeDecimal
  occurredAt : Timestamp

/-- A row of `system_events`; the random key is left out. -/
structure SystemEventRecord where
  eventType : String
  correlationId : Uuid
  payload : Payload
  createdAt : Timestamp

namespace OrderRecord

def missing : Exc := .persistenceUnavailable "persisted order is missing recovery fields"

/-- What the model validators raise on a row no model accepts. -/
def invalid : Exc :=
  { kind := .valueError, typeName := "ValidationError", message := "persisted order is not valid" }

/-- A stored limit price as the model reads it; `none` is a refusal. -/
def readLimitPrice : Option Decimal → Option (Option NonNegativeDecimal)
  | none => some none
  | some price => if bound : 0 ≤ price then some (some ⟨price, bound⟩) else none

/-- `SqlAlchemyOrderStore._to_order`. -/
def toOrder (now : Timestamp) (record : OrderRecord) : Except Exc Order :=
  match record.symbol, record.side, record.orderType, record.quantity, record.correlationId with
  | some symbol, some side, some orderType, some quantity, some correlationId =>
      if symbol = "" ∨ quantity = 0 then .error missing
      else
        match readLimitPrice record.limitPrice with
        | none => .error invalid
        | some limitPrice =>
            if valid : 0 < quantity ∧ PriceValid orderType limitPrice then
              .ok
                { orderId := record.orderId
                  request :=
                    { signalId := record.signalId, strategyVersion := record.strategyVersion,
                      symbol, side, orderType, quantity := ⟨quantity, valid.1⟩, limitPrice,
                      clientOrderId := record.clientOrderId, correlationId,
                      priceValid := valid.2 }
                  status := record.status
                  filledQuantity := ⟨0, decimal_zero⟩
                  averageFillPrice := none
                  createdAt := record.createdAt
                  updatedAt := now }
            else .error invalid
  | _, _, _, _, _ => .error missing

theorem toOrder_ok {now : Timestamp} {record : OrderRecord} {order : Order}
    (read : record.toOrder now = .ok order) :
    order.request.clientOrderId = record.clientOrderId ∧ order.status = record.status := by
  unfold toOrder at read
  split at read
  · split at read
    · cases read
    · split at read
      · cases read
      · split at read
        · cases read
          exact ⟨rfl, rfl⟩
        · cases read
  · cases read

/-- The row a reservation inserts. -/
def reserved (now : Timestamp) (request : OrderRequest) (approval : RiskApproval) : OrderRecord where
  orderId := request.clientOrderId
  signalId := request.signalId
  clientOrderId := request.clientOrderId
  strategyVersion := request.strategyVersion
  riskApprovalId := approval.approvalId
  symbol := some request.symbol
  side := some request.side
  orderType := some request.orderType
  quantity := some request.quantity
  limitPrice := request.limitPrice.map Subtype.val
  correlationId := some request.correlationId
  status := .pendingSubmit
  createdAt := now

end OrderRecord

structure SqlAlchemyOrderStore where
  orders : List OrderRecord
  orderIds : (orders.map OrderRecord.orderId).Nodup
  clientOrderIds : (orders.map OrderRecord.clientOrderId).Nodup
  fills : List FillRecord
  brokerFillIds : (fills.map FillRecord.brokerFillId).Nodup
  events : List SystemEventRecord

namespace SqlAlchemyOrderStore

def empty : SqlAlchemyOrderStore := ⟨[], List.nodup_nil, List.nodup_nil, [], List.nodup_nil, []⟩

variable (store : SqlAlchemyOrderStore)

/-- The row with a client order id, of which the schema allows one. -/
def find (clientOrderId : Uuid) : Option OrderRecord :=
  store.orders.find? fun record => record.clientOrderId = clientOrderId

/-- `UPDATE orders SET status = ... WHERE ...`. -/
def setStatus (filter : OrderRecord → Bool) (status : OrderStatus) : SqlAlchemyOrderStore :=
  let set := fun record => if filter record then { record with status } else record
  { store with
    orders := store.orders.map set
    orderIds := by
      have same : OrderRecord.orderId ∘ set = OrderRecord.orderId := by
        funext record
        simp only [Function.comp, set]
        split <;> rfl
      rw [List.map_map, same]
      exact store.orderIds
    clientOrderIds := by
      have same : OrderRecord.clientOrderId ∘ set = OrderRecord.clientOrderId := by
        funext record
        simp only [Function.comp, set]
        split <;> rfl
      rw [List.map_map, same]
      exact store.clientOrderIds }

def reserveWithCreated (now : Timestamp) (request : OrderRequest) (approval : RiskApproval) :
    Except Exc (Order × Bool) × SqlAlchemyOrderStore :=
  match found : store.find request.clientOrderId with
  | some record => ((record.toOrder now).map fun order => (order, false), store)
  | none =>
      let record := OrderRecord.reserved now request approval
      if unused : record.orderId ∉ store.orders.map OrderRecord.orderId then
        -- The row is committed before it is read back, so a refusal to read it leaves it there.
        ((record.toOrder now).map fun order => (order, true),
          { store with
            orders := store.orders ++ [record]
            orderIds := by
              rw [List.map_append]
              exact List.nodup_append.2 ⟨store.orderIds, List.nodup_singleton _,
                fun id member id' member' same => unused (by
                  rw [List.mem_singleton.1 member'] at same
                  exact same ▸ member)⟩
            clientOrderIds := by
              rw [List.map_append]
              refine List.nodup_append.2 ⟨store.clientOrderIds, List.nodup_singleton _, ?_⟩
              intro id member id' member' same
              obtain ⟨held, kept, rfl⟩ := List.mem_map.1 member
              rw [List.mem_singleton.1 member'] at same
              simpa [OrderRecord.reserved, record, same] using List.find?_eq_none.1 found held kept })
      else
        (.error (.persistenceUnavailable "database unavailable before order submission"), store)

def update (order : Order) : Except Exc Unit × SqlAlchemyOrderStore :=
  match store.find order.request.clientOrderId with
  | none => (.error (.persistenceUnavailable "database unavailable while updating order"), store)
  | some _ =>
      (.ok (), store.setStatus (fun r => r.clientOrderId = order.request.clientOrderId) order.status)

/-- The row a fill is inserted as. -/
def fillRecord (fill : Fill) : FillRecord where
  orderId := fill.orderId
  brokerFillId := fill.fillId
  quantity := fill.quantity
  price := fill.price
  fee := fill.fee
  occurredAt := fill.occurredAt

/-- The rows a batch of fills adds: those whose broker id is not on record yet. -/
def newFills (fills : List Fill) : List FillRecord :=
  (fills.filter fun fill => fill.fillId ∉ store.fills.map FillRecord.brokerFillId).map fillRecord

/-- Nothing is flushed before the commit, so one batch cannot insert an id twice. -/
def addFills (fills : List Fill) : Except Exc Unit × SqlAlchemyOrderStore :=
  if unique : ((store.fills ++ store.newFills fills).map FillRecord.brokerFillId).Nodup then
    (.ok (), { store with fills := store.fills ++ store.newFills fills, brokerFillIds := unique })
  else
    (.error (.persistenceUnavailable "database unavailable while recording fills"), store)

def get (now : Timestamp) (clientOrderId : String) : Except Exc (Option Order) :=
  let unavailable := Exc.persistenceUnavailable "database unavailable while reading order"
  match Uuid.parse clientOrderId with
  | none => .error unavailable
  | some id =>
      match store.find id with
      | none => .ok none
      | some record =>
          match record.toOrder now with
          | .ok order => .ok (some order)
          | .error exc => .error (if exc.kind = .valueError then unavailable else exc)

def pending (now : Timestamp) : Except Exc (List Order) :=
  (store.orders.filter fun record => record.status.unresolved).mapM (OrderRecord.toOrder now)

/-- End a still-unresolved order as `canceled` and journal why, in one transaction. -/
def closeUnreceived (clientOrderId : String) (eventType : String) (payload : Payload)
    (at_ : Timestamp) : Except Exc Bool × SqlAlchemyOrderStore :=
  match Uuid.parse clientOrderId with
  | none => (.error (.persistenceUnavailable "database unavailable while closing order"), store)
  | some id =>
      match store.find id with
      | none => (.ok false, store)
      | some record =>
          let matched := fun r : OrderRecord => r.orderId = record.orderId && r.status.unresolved
          if store.orders.countP matched ≠ 1 then
            (.ok false, store)
          else
            (.ok true,
              { store.setStatus matched .canceled with
                events := store.events ++
                  [{ eventType
                     correlationId := record.correlationId.getD record.clientOrderId
                     payload := payload ++ [("risk_approval_id", .text record.riskApprovalId.str)]
                     createdAt := at_ }] })

end SqlAlchemyOrderStore

/-! ## The protocol -/

inductive OrderStore where
  | sqlAlchemy (store : SqlAlchemyOrderStore)
  | inMemory (store : InMemoryOrderStore)

namespace OrderStore

def reserveWithCreated (now : Timestamp) (request : OrderRequest) (approval : RiskApproval) :
    OrderStore → Except Exc (Order × Bool) × OrderStore
  | .sqlAlchemy s => (s.reserveWithCreated now request approval).map id .sqlAlchemy
  | .inMemory s => (s.reserveWithCreated now request approval).map id .inMemory

def update (order : Order) : OrderStore → Except Exc Unit × OrderStore
  | .sqlAlchemy s => (s.update order).map id .sqlAlchemy
  | .inMemory s => (s.update order).map id .inMemory

def addFills (fills : List Fill) : OrderStore → Except Exc Unit × OrderStore
  | .sqlAlchemy s => (s.addFills fills).map id .sqlAlchemy
  | .inMemory s => (s.addFills fills).map id .inMemory

def get (now : Timestamp) (clientOrderId : String) : OrderStore → Except Exc (Option Order)
  | .sqlAlchemy s => s.get now clientOrderId
  | .inMemory s => s.get clientOrderId

def pending (now : Timestamp) : OrderStore → Except Exc (List Order)
  | .sqlAlchemy s => s.pending now
  | .inMemory s => s.pending

def closeUnreceived (clientOrderId : String) (eventType : String) (payload : Payload)
    (at_ : Timestamp) : OrderStore → Except Exc Bool × OrderStore
  | .sqlAlchemy s => (s.closeUnreceived clientOrderId eventType payload at_).map id .sqlAlchemy
  | .inMemory s => (s.closeUnreceived clientOrderId eventType payload at_).map id .inMemory

end OrderStore

end AlgoTrader.Execution
