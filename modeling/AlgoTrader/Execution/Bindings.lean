/-
# Execution.Bindings -- the order a client order id is bound to

A store binds a client order id to the request it was first reserved for.  The two
stores keep that binding differently: the tables write a request once and never
compare it again, the dictionary compares it but takes over whatever request an
update carries.

* `Bindings` -- the abstract state: for each id the request it is bound to, the
  request the last update carried, and the status;
* `simulates_apply` -- what one call does to a store, it does to the bindings;
* `simulates_through` -- so both stores keep the bindings through any history.
-/
import AlgoTrader.Execution.Book
import AlgoTrader.Process.World

namespace AlgoTrader.Execution

open AlgoTrader.Core Brokers Theory Process

set_option autoImplicit false

/-! ## Bindings -/

structure Binding where
  /-- The request the id was reserved for. -/
  bound : OrderRequest
  /-- The request of the last update. -/
  written : OrderRequest
  status : OrderStatus

namespace Binding

def reserved (request : OrderRequest) : Binding := ⟨request, request, .pendingSubmit⟩

def updated (order : Order) (held : Binding) : Binding :=
  { held with written := order.request, status := order.status }

def closed (held : Binding) : Binding :=
  if held.status.unresolved then { held with status := .canceled } else held

end Binding

abbrev Bindings := Uuid → Option Binding

namespace Bindings

def empty : Bindings := fun _ => none

/-- What a call does to the bindings. -/
def after (bindings : Bindings) : StoreOp → Bindings
  | .reserveWithCreated request _ => fun id =>
      if id = request.clientOrderId then some ((bindings id).getD (.reserved request))
      else bindings id
  | .update order => fun id =>
      if id = order.request.clientOrderId then (bindings id).map (.updated order) else bindings id
  | .closeUnreceived text .. => fun id =>
      if id.str = text then (bindings id).map Binding.closed else bindings id
  | .addFills _ | .get _ | .pending => bindings

/-- Updates and closures are of existing orders, by the id as it is written. -/
def Existing (bindings : Bindings) : StoreOp → Prop
  | .update order => (bindings order.request.clientOrderId).isSome
  | .closeUnreceived text .. => ∃ id : Uuid, text = id.str ∧ (bindings id).isSome
  | _ => True

end Bindings

/-! ## Calls one after another -/

/-- Calls on a store and when they are made. -/
abbrev History := List (Timestamp × StoreOp)

namespace History

/-- The bindings after the calls, oldest first. -/
def bindingsFrom (bindings : Bindings) : History → Bindings
  | [] => bindings
  | call :: rest => bindingsFrom (bindings.after call.2) rest

def ExistingFrom (bindings : Bindings) : History → Prop
  | [] => True
  | call :: rest => bindings.Existing call.2 ∧ ExistingFrom (bindings.after call.2) rest

def bindings (history : History) : Bindings := bindingsFrom .empty history

/-- Every update and every closure of the history is of an order reserved before. -/
def OnExisting (history : History) : Prop := ExistingFrom .empty history

end History

namespace OrderStore

/-- The store after the calls. -/
def through (store : OrderStore) : History → OrderStore
  | [] => store
  | call :: rest => through (call.2.apply call.1 store).2 rest

/-- The request on record for an id. -/
def persisted (id : Uuid) : OrderStore → Option OrderRequest
  | .sqlAlchemy store =>
      (store.find id).bind fun record => (record.toOrder 0).toOption.map Order.request
  | .inMemory store => (store.orders.get? id.str).map Order.request

end OrderStore

def tables (history : History) : OrderStore := (OrderStore.sqlAlchemy .empty).through history

def dictionary (history : History) : OrderStore := (OrderStore.inMemory .empty).through history

/-! ## Rows -/

namespace OrderRecord

/-- The row of an order: as it was reserved, with the status since. -/
def Keeps (record : OrderRecord) (held : Binding) : Prop :=
  ∃ now approval, record = { reserved now held.bound approval with status := held.status }

theorem readLimitPrice_map (price : Option NonNegativeDecimal) :
    readLimitPrice (price.map Subtype.val) = some price := by
  cases price with
  | none => rfl
  | some price => exact dif_pos price.2

theorem toOrder_keeps {record : OrderRecord} {held : Binding} (keeps : record.Keeps held)
    (now : Timestamp) (named : held.bound.symbol ≠ "") :
    ∃ order, record.toOrder now = .ok order ∧ order.request = held.bound ∧
      order.status = held.status := by
  obtain ⟨at_, approval, rfl⟩ := keeps
  have quantity := held.bound.quantity.2
  have valid : 0 < held.bound.quantity.1 ∧ PriceValid held.bound.orderType held.bound.limitPrice :=
    ⟨quantity, held.bound.priceValid⟩
  have present : ¬(held.bound.symbol = "" ∨ held.bound.quantity.1 = 0) :=
    not_or.2 ⟨named, ne_of_gt quantity⟩
  unfold toOrder reserved
  dsimp only
  rw [if_neg present, readLimitPrice_map]
  dsimp only
  rw [dif_pos valid]
  exact ⟨_, rfl, rfl, rfl⟩

theorem toOrder_blank {record : OrderRecord} {held : Binding} (keeps : record.Keeps held)
    (now : Timestamp) (blank : held.bound.symbol = "") : record.toOrder now = .error missing := by
  obtain ⟨at_, approval, rfl⟩ := keeps
  exact if_pos (.inl blank)

end OrderRecord

namespace SqlAlchemyOrderStore

variable {store : SqlAlchemyOrderStore} {request : OrderRequest}

theorem reserve_found {record : OrderRecord} (found : store.find request.clientOrderId = some record)
    (now : Timestamp) (approval : RiskApproval) :
    store.reserveWithCreated now request approval =
      ((record.toOrder now).map fun order => (order, false), store) := by
  unfold reserveWithCreated
  split
  · rename_i held same
    rw [found] at same
    cases same
    rfl
  · rename_i absent
    rw [found] at absent
    cases absent

/-- A reservation of an unused id appends its row. -/
theorem reserve_free (free : store.find request.clientOrderId = none)
    (unused : request.clientOrderId ∉ store.orders.map OrderRecord.orderId) (now : Timestamp)
    (approval : RiskApproval) :
    (store.reserveWithCreated now request approval).1 =
        ((OrderRecord.reserved now request approval).toOrder now).map (fun order => (order, true)) ∧
      (store.reserveWithCreated now request approval).2.orders =
        store.orders ++ [OrderRecord.reserved now request approval] := by
  unfold reserveWithCreated
  split
  · rename_i record found
    rw [free] at found
    cases found
  · dsimp only
    rw [dif_pos (show (OrderRecord.reserved now request approval).orderId ∉ _ from unused)]
    exact ⟨rfl, rfl⟩

end SqlAlchemyOrderStore

/-! ## The tables simulate the bindings -/

/-- The tables have the row of every bound id and no other. -/
structure Tables (bindings : Bindings) (store : SqlAlchemyOrderStore) : Prop where
  row : ∀ id held, bindings id = some held → ∃ record, store.find id = some record ∧ record.Keeps held
  absent : ∀ id, bindings id = none → store.find id = none
  own : ∀ record ∈ store.orders, record.orderId = record.clientOrderId

namespace Tables

variable {bindings : Bindings} {store : SqlAlchemyOrderStore}

theorem keeps_status (tables : Tables bindings store) {id : Uuid} {held : Binding}
    {record : OrderRecord} (binds : bindings id = some held) (found : store.find id = some record) :
    record.Keeps held ∧ record.status = held.status := by
  obtain ⟨kept, same, keeps⟩ := tables.row id held binds
  obtain rfl := Option.some.inj (found.symm.trans same)
  refine ⟨keeps, ?_⟩
  obtain ⟨at_, approval, rfl⟩ := keeps
  rfl

/-- Setting statuses in the rows is setting them in the bindings. -/
theorem setStatus (tables : Tables bindings store) {filter : OrderRecord → Bool}
    {status : OrderStatus} {bindings' : Bindings}
    (unbound : ∀ id, bindings id = none → bindings' id = none)
    (set : ∀ id held record, bindings id = some held → store.find id = some record →
      ∃ held', bindings' id = some held' ∧ held'.bound = held.bound ∧
        held'.status = if filter record then status else held.status) :
    Tables bindings' (store.setStatus filter status) where
  row id held' binds' := by
    cases binds : bindings id with
    | none =>
      rw [unbound id binds] at binds'
      cases binds'
    | some held =>
      obtain ⟨record, found, at_, approval, kept⟩ := tables.row id held binds
      obtain ⟨same', binds'', bound, written⟩ := set id held record binds found
      obtain rfl := Option.some.inj (binds'.symm.trans binds'')
      refine ⟨_, by rw [SqlAlchemyOrderStore.find_setStatus, found]; rfl, at_, approval, ?_⟩
      rw [bound, written]
      by_cases hit : filter record = true
      · simp only [hit, if_true]
        rw [kept]
      · simp only [hit]
        exact kept
  absent id unbound' := by
    rw [SqlAlchemyOrderStore.find_setStatus]
    cases binds : bindings id with
    | none => rw [tables.absent id binds]; rfl
    | some held =>
      obtain ⟨record, found, -⟩ := tables.row id held binds
      obtain ⟨held', binds', -⟩ := set id held record binds found
      rw [unbound'] at binds'
      cases binds'
  own record member := by
    obtain ⟨old, kept, rfl⟩ := List.mem_map.1 member
    have same := tables.own old kept
    split <;> exact same

/-- The journal is no part of the simulation. -/
theorem events (tables : Tables bindings store) (events : List SystemEventRecord) :
    Tables bindings { store with events } :=
  ⟨tables.row, tables.absent, tables.own⟩

/-- A row's primary key is its client order id, so both are free together. -/
theorem unused (tables : Tables bindings store) {id : Uuid} (free : store.find id = none) :
    id ∉ store.orders.map OrderRecord.orderId := by
  intro member
  obtain ⟨record, kept, same⟩ := List.mem_map.1 member
  rw [tables.own record kept] at same
  have found := SqlAlchemyOrderStore.find_of_mem kept
  rw [same, free] at found
  cases found

theorem reserve (tables : Tables bindings store) (now : Timestamp) (request : OrderRequest)
    (approval : RiskApproval) :
    Tables (bindings.after (.reserveWithCreated request approval))
      (store.reserveWithCreated now request approval).2 := by
  cases binds : bindings request.clientOrderId with
  | some held =>
    obtain ⟨record, found, -⟩ := tables.row _ held binds
    have same : bindings.after (.reserveWithCreated request approval) = bindings := by
      funext id
      by_cases own : id = request.clientOrderId
      · simp [Bindings.after, own, binds]
      · simp [Bindings.after, own]
    rw [same, SqlAlchemyOrderStore.reserve_found found]
    exact tables
  | none =>
    have free := tables.absent _ binds
    obtain ⟨-, orders⟩ := SqlAlchemyOrderStore.reserve_free free (tables.unused free) now approval
    have finds : ∀ id, (store.reserveWithCreated now request approval).2.find id =
        if id = request.clientOrderId then some (OrderRecord.reserved now request approval)
        else store.find id := by
      intro id
      rw [SqlAlchemyOrderStore.find, orders, List.find?_append]
      by_cases own : id = request.clientOrderId
      · have nothing : store.orders.find? (fun record => record.clientOrderId = id) = none := own ▸ free
        rw [nothing]
        simp [own, OrderRecord.reserved]
      · have other : ¬request.clientOrderId = id := fun same => own same.symm
        simp [own, other, OrderRecord.reserved, SqlAlchemyOrderStore.find]
    refine ⟨?_, ?_, ?_⟩
    · intro id held' binds'
      rw [finds]
      by_cases own : id = request.clientOrderId
      · simp only [Bindings.after, own, if_true, binds, Option.getD_none] at binds'
        obtain rfl := Option.some.inj binds'
        exact ⟨_, if_pos own, now, approval, rfl⟩
      · simp only [Bindings.after, own, if_false] at binds' ⊢
        exact tables.row id held' binds'
    · intro id unbound
      rw [finds]
      by_cases own : id = request.clientOrderId
      · simp [Bindings.after, own] at unbound
      · simp only [Bindings.after, own, if_false] at unbound ⊢
        exact tables.absent id unbound
    · intro record member
      rw [orders, List.mem_append] at member
      rcases member with old | new
      · exact tables.own record old
      · obtain rfl := List.mem_singleton.1 new
        rfl

theorem update (tables : Tables bindings store) (order : Order)
    (existing : (bindings order.request.clientOrderId).isSome) :
    Tables (bindings.after (.update order)) (store.update order).2 := by
  obtain ⟨held, binds⟩ := Option.isSome_iff_exists.1 existing
  obtain ⟨record, found, -⟩ := tables.row _ held binds
  have done : (store.update order).2 = store.setStatus
      (fun r => r.clientOrderId = order.request.clientOrderId) order.status := by
    simp only [SqlAlchemyOrderStore.update, found]
  rw [done]
  refine tables.setStatus ?_ ?_
  · intro id unbound
    simp [Bindings.after, unbound]
  · intro id held record binds found
    have key := (SqlAlchemyOrderStore.mem_of_find found).2
    by_cases own : id = order.request.clientOrderId
    · refine ⟨held.updated order, ?_, rfl, by simp [key, own, Binding.updated]⟩
      simp only [Bindings.after]
      rw [if_pos own, binds]
      rfl
    · exact ⟨held, by simp [Bindings.after, own, binds], rfl, by simp [key, own]⟩

/-- The conditional update of a closure hits the row of the order exactly when it is unresolved. -/
theorem countP_own (store : SqlAlchemyOrderStore) {record : OrderRecord}
    (member : record ∈ store.orders) :
    store.orders.countP (fun r => r.orderId = record.orderId && r.status.unresolved) = 1 ↔
      record.status.unresolved = true := by
  have owner : ∀ r ∈ store.orders, r.orderId = record.orderId → r = record :=
    fun r kept same => List.inj_on_of_nodup_map store.orderIds kept member same
  constructor
  · intro one
    obtain ⟨r, kept, hit⟩ := List.countP_pos_iff.1 (one ▸ Nat.one_pos)
    rw [Bool.and_eq_true, decide_eq_true_iff] at hit
    exact owner r kept hit.1 ▸ hit.2
  · intro unresolved
    have some_ : 0 < store.orders.countP fun r => r.orderId = record.orderId && r.status.unresolved :=
      List.countP_pos_iff.2 ⟨record, member, by simp [unresolved]⟩
    have atMost : store.orders.countP (fun r => r.orderId = record.orderId && r.status.unresolved) ≤
        (store.orders.map OrderRecord.orderId).count record.orderId := by
      rw [List.count_eq_countP, List.countP_map]
      refine List.countP_mono_left fun r _ hit => ?_
      simp only [Bool.and_eq_true, decide_eq_true_eq] at hit
      simp [hit.1]
    have once := List.nodup_iff_count_le_one.1 store.orderIds record.orderId
    omega

theorem close (tables : Tables bindings store) {id : Uuid} (existing : (bindings id).isSome)
    (eventType : String) (payload : Payload) (at_ : Timestamp) :
    Tables (bindings.after (.closeUnreceived id.str eventType payload at_))
      (store.closeUnreceived id.str eventType payload at_).2 := by
  obtain ⟨held, binds⟩ := Option.isSome_iff_exists.1 existing
  obtain ⟨record, found, -⟩ := tables.row _ held binds
  obtain ⟨member, key⟩ := SqlAlchemyOrderStore.mem_of_find found
  obtain ⟨-, status⟩ := tables.keeps_status binds found
  have one := countP_own store member
  have others : ∀ other : Uuid, other ≠ id → ¬other.str = id.str :=
    fun other different same => different (Uuid.str_injective same)
  simp only [SqlAlchemyOrderStore.closeUnreceived, Uuid.parse_str, found]
  by_cases unresolved : record.status.unresolved = true
  · rw [if_neg (not_not.2 (one.2 unresolved))]
    refine (tables.setStatus ?_ ?_).events _
    · intro other unbound
      simp [Bindings.after, unbound]
    · intro other held' record' binds' found'
      by_cases own : other = id
      · subst own
        obtain rfl := Option.some.inj (binds.symm.trans binds')
        obtain rfl := Option.some.inj (found.symm.trans found')
        refine ⟨held.closed, by simp [Bindings.after, binds], ?_, ?_⟩
        · unfold Binding.closed
          split <;> rfl
        · simp [Binding.closed, ← status, unresolved]
      · have miss : record'.orderId ≠ record.orderId := by
          intro same
          obtain ⟨kept, key'⟩ := SqlAlchemyOrderStore.mem_of_find found'
          exact own (by rw [← key', ← key, ← tables.own _ kept, ← tables.own _ member, same])
        exact ⟨held', by simp [Bindings.after, others other own, binds'], rfl, by simp [miss]⟩
  · rw [if_pos (mt one.1 unresolved)]
    have same : bindings.after (.closeUnreceived id.str eventType payload at_) = bindings := by
      funext other
      by_cases own : other = id
      · subst own
        simp [Bindings.after, binds, Binding.closed, ← status, unresolved]
      · simp [Bindings.after, others other own]
    rw [same]
    exact tables

end Tables

/-! ## The dictionary simulates the bindings -/

/-- The dictionary holds, for every bound id and no other, the request that was written last. -/
def Dictionary (bindings : Bindings) (store : InMemoryOrderStore) : Prop :=
  ∀ id : Uuid, (store.orders.get? id.str).map (fun order => (order.request, order.status)) =
    (bindings id).map fun held => (held.written, held.status)

namespace Dictionary

variable {bindings : Bindings} {store : InMemoryOrderStore}

theorem held (dictionary : Dictionary bindings store) {id : Uuid} {held : Binding}
    (binds : bindings id = some held) :
    ∃ order, store.orders.get? id.str = some order ∧ order.request = held.written ∧
      order.status = held.status := by
  have here := dictionary id
  rw [binds, Option.map_some] at here
  obtain ⟨order, found, same⟩ := Option.map_eq_some_iff.1 here
  exact ⟨order, found, congrArg Prod.fst same, congrArg Prod.snd same⟩

theorem absent (dictionary : Dictionary bindings store) {id : Uuid} (unbound : bindings id = none) :
    store.orders.get? id.str = none := by
  have here := dictionary id
  rw [unbound, Option.map_none] at here
  exact Option.map_eq_none_iff.1 here

/-- Putting an order in writes its binding. -/
theorem put (dictionary : Dictionary bindings store) {order : Order} {bindings' : Bindings}
    {approvals : Dict String RiskApproval} {closures : List (String × Payload)}
    (own : (bindings' order.request.clientOrderId).map (fun held => (held.written, held.status)) =
      some (order.request, order.status))
    (others : ∀ id, id ≠ order.request.clientOrderId → bindings' id = bindings id) :
    Dictionary bindings' { store.put order with approvals, closures } := by
  intro id
  by_cases same : id = order.request.clientOrderId
  · subst same
    rw [own]
    simp [InMemoryOrderStore.put]
  · have other : id.str ≠ order.request.clientOrderId.str := fun h => same (Uuid.str_injective h)
    rw [others id same, ← dictionary id]
    simp [InMemoryOrderStore.put, Dict.get?_set_ne _ _ other]

theorem reserve (dictionary : Dictionary bindings store) (now : Timestamp) (request : OrderRequest)
    (approval : RiskApproval) :
    Dictionary (bindings.after (.reserveWithCreated request approval))
      (store.reserveWithCreated now request approval).2 := by
  cases binds : bindings request.clientOrderId with
  | some held =>
    have same : bindings.after (.reserveWithCreated request approval) = bindings := by
      funext id
      by_cases own : id = request.clientOrderId
      · simp [Bindings.after, own, binds]
      · simp [Bindings.after, own]
    obtain ⟨order, found, -⟩ := dictionary.held binds
    rw [same]
    simp only [InMemoryOrderStore.reserveWithCreated, found]
    split <;> exact dictionary
  | none =>
    simp only [InMemoryOrderStore.reserveWithCreated, dictionary.absent binds]
    refine dictionary.put ?_ ?_
    · simp [Bindings.after, binds, Binding.reserved]
    · intro id other
      simp only [Bindings.after]
      exact if_neg other

theorem update (dictionary : Dictionary bindings store) (order : Order)
    (existing : (bindings order.request.clientOrderId).isSome) :
    Dictionary (bindings.after (.update order)) (store.update order).2 := by
  obtain ⟨held, binds⟩ := Option.isSome_iff_exists.1 existing
  refine dictionary.put ?_ ?_
  · simp [Bindings.after, binds, Binding.updated]
  · intro id other
    simp only [Bindings.after]
    exact if_neg other

theorem close (dictionary : Dictionary bindings store) {id : Uuid} (existing : (bindings id).isSome)
    (eventType : String) (payload : Payload) (at_ : Timestamp) :
    Dictionary (bindings.after (.closeUnreceived id.str eventType payload at_))
      (store.closeUnreceived id.str eventType payload at_).2 := by
  obtain ⟨held, binds⟩ := Option.isSome_iff_exists.1 existing
  obtain ⟨order, found, request, status⟩ := dictionary.held binds
  have key : order.request.clientOrderId = id := (Uuid.str_injective (store.keyed found)).symm
  have others : ∀ other : Uuid, other ≠ id → ¬other.str = id.str :=
    fun other different same => different (Uuid.str_injective same)
  simp only [InMemoryOrderStore.closeUnreceived, found]
  by_cases unresolved : order.status.unresolved = true
  · rw [if_pos unresolved]
    refine dictionary.put ?_ ?_
    · simp only [Bindings.after]
      rw [if_pos (congrArg Uuid.str key), key, binds]
      simp [Binding.closed, ← status, unresolved, request]
    · intro other different
      simp only [Bindings.after]
      exact if_neg (others other fun same => different (same.trans key.symm))
  · rw [if_neg unresolved]
    have same : bindings.after (.closeUnreceived id.str eventType payload at_) = bindings := by
      funext other
      by_cases own : other = id
      · subst own
        simp [Bindings.after, binds, Binding.closed, ← status, unresolved]
      · simp [Bindings.after, others other own]
    rw [same]
    exact dictionary

end Dictionary

/-! ## Through a history -/

/-- A store and the bindings it keeps. -/
def Simulates (bindings : Bindings) : OrderStore → Prop
  | .sqlAlchemy store => Tables bindings store
  | .inMemory store => Dictionary bindings store

/-- A closure of an existing order names it by its id. -/
theorem Bindings.existing_close {bindings : Bindings} {text eventType : String} {payload : Payload}
    {at_ : Timestamp} (existing : bindings.Existing (.closeUnreceived text eventType payload at_)) :
    ∃ id : Uuid, text = id.str ∧ (bindings id).isSome := existing

theorem Tables.apply {bindings : Bindings} {store : SqlAlchemyOrderStore}
    (tables : Tables bindings store) {op : StoreOp} (existing : bindings.Existing op)
    (now : Timestamp) : Simulates (bindings.after op) (op.apply now (.sqlAlchemy store)).2 := by
  cases op with
  | reserveWithCreated request approval =>
    rw [StoreOp.apply, OrderStore.reserveWithCreated, Prod.map_snd]
    exact tables.reserve now request approval
  | update order =>
    rw [StoreOp.apply, OrderStore.update, Prod.map_snd]
    exact tables.update order existing
  | closeUnreceived text eventType payload at_ =>
    obtain ⟨id, same, bound⟩ := Bindings.existing_close existing
    rw [same, StoreOp.apply, OrderStore.closeUnreceived, Prod.map_snd]
    exact tables.close bound eventType payload at_
  | addFills fills =>
    rw [StoreOp.apply, OrderStore.addFills, Prod.map_snd, SqlAlchemyOrderStore.addFills]
    split
    · exact ⟨tables.row, tables.absent, tables.own⟩
    · exact tables
  | get text => exact tables
  | pending => exact tables

theorem Dictionary.apply {bindings : Bindings} {store : InMemoryOrderStore}
    (dictionary : Dictionary bindings store) {op : StoreOp} (existing : bindings.Existing op)
    (now : Timestamp) : Simulates (bindings.after op) (op.apply now (.inMemory store)).2 := by
  cases op with
  | reserveWithCreated request approval =>
    rw [StoreOp.apply, OrderStore.reserveWithCreated, Prod.map_snd]
    exact dictionary.reserve now request approval
  | update order =>
    rw [StoreOp.apply, OrderStore.update, Prod.map_snd]
    exact dictionary.update order existing
  | closeUnreceived text eventType payload at_ =>
    obtain ⟨id, same, bound⟩ := Bindings.existing_close existing
    rw [same, StoreOp.apply, OrderStore.closeUnreceived, Prod.map_snd]
    exact dictionary.close bound eventType payload at_
  | addFills fills => exact dictionary
  | get text => exact dictionary
  | pending => exact dictionary

/-- **One call.** -/
theorem simulates_apply {bindings : Bindings} {store : OrderStore} (simulates : Simulates bindings store)
    {op : StoreOp} (existing : bindings.Existing op) (now : Timestamp) :
    Simulates (bindings.after op) (op.apply now store).2 := by
  cases store with
  | sqlAlchemy store => exact Tables.apply simulates existing now
  | inMemory store => exact Dictionary.apply simulates existing now

/-- **Any calls.** -/
theorem simulates_through {bindings : Bindings} {store : OrderStore}
    (simulates : Simulates bindings store) (history : History)
    (existing : History.ExistingFrom bindings history) :
    Simulates (history.bindingsFrom bindings) (store.through history) := by
  induction history generalizing bindings store with
  | nil => exact simulates
  | cons call rest ih => exact ih (simulates_apply simulates existing.1 call.1) existing.2

theorem tables_simulates {history : History} (existing : history.OnExisting) :
    Simulates history.bindings (tables history) :=
  have start : Simulates .empty (.sqlAlchemy .empty) :=
    ⟨fun _ _ binds => by simp [Bindings.empty] at binds, fun _ _ => rfl, fun _ member => by
      simp [SqlAlchemyOrderStore.empty] at member⟩
  simulates_through start history existing

theorem dictionary_simulates {history : History} (existing : history.OnExisting) :
    Simulates history.bindings (dictionary history) :=
  have start : Simulates .empty (.inMemory .empty) := fun _ => rfl
  simulates_through start history existing

end AlgoTrader.Execution
