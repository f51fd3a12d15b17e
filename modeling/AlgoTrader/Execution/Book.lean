/-
# Execution.Book -- what an order store is for

A store answers for three things: what is on record of each order, which fills
are recorded, and which closures were journalled.  That is its `Book`; the two
implementations keep more, and keep it differently, but every method of either
does one of a few things to the book.

* `reserve_cases` -- a new entry for an unused id, or nothing;
* `update_cases` -- the status of one entry, or nothing; only a store in memory
  replaces the rest of the entry as well;
* `addFills_cases` -- nothing but the fills;
* `close_cases` -- one unresolved entry ends `canceled` together with one journal
  entry, or nothing;
* `get_ok`, `pending_ok` -- what the reads report is what is on record.
-/
import Mathlib.Logic.Function.Basic
import AlgoTrader.Execution.Store
import AlgoTrader.Theory.Raising

namespace AlgoTrader.Execution

open AlgoTrader.Core Brokers Theory

set_option autoImplicit false

/-- What is on record of an order. -/
structure Entry where
  status : OrderStatus
  signalId : Uuid
  strategyVersion : String
  /-- The risk decision the order cites. -/
  approvalId : Option Uuid
  deriving DecidableEq

/-- What is on record of a fill. -/
structure RecordedFill where
  fillId : String
  orderId : Uuid
  quantity : PositiveDecimal
  deriving DecidableEq

@[ext] structure Book where
  entry : Uuid → Option Entry
  fills : List RecordedFill
  journal : List (String × Payload)

namespace Book

def set (book : Book) (id : Uuid) (entry : Entry) : Book :=
  { book with entry := Function.update book.entry id (some entry) }

/-- One order ends `canceled`, and one event is journalled with it. -/
def close (book : Book) (id : Uuid) (entry : Entry) (event : String × Payload) : Book :=
  { book.set id { entry with status := .canceled } with journal := book.journal ++ [event] }

/-- The status on record of an order. -/
def status (book : Book) (id : Uuid) : Option OrderStatus := (book.entry id).map Entry.status

/-- The outcome of an order at the venue is not known. -/
def Unresolved (book : Book) (id : Uuid) : Prop :=
  ∃ status, book.status id = some status ∧ status.unresolved = true

/-- The quantity of an order that recorded fills account for. -/
def recorded (book : Book) (orderId : Uuid) : Decimal :=
  ((book.fills.filter fun fill => fill.orderId = orderId).map fun fill => fill.quantity.1).sum

theorem recorded_congr {book book' : Book} (same : book'.fills = book.fills) (id : Uuid) :
    book'.recorded id = book.recorded id := by
  unfold recorded
  rw [same]

variable (book : Book) (id : Uuid) (entry : Entry)

@[simp] theorem set_fills : (book.set id entry).fills = book.fills := rfl

@[simp] theorem set_journal : (book.set id entry).journal = book.journal := rfl

theorem set_entry (id' : Uuid) :
    (book.set id entry).entry id' = if id' = id then some entry else book.entry id' := by
  simp [set, Function.update_apply]

theorem set_status (id' : Uuid) :
    (book.set id entry).status id' = if id' = id then some entry.status else book.status id' := by
  unfold status
  rw [set_entry]
  split <;> rfl

@[simp] theorem close_fills (event : String × Payload) :
    (book.close id entry event).fills = book.fills := rfl

theorem close_status (event : String × Payload) (id' : Uuid) :
    (book.close id entry event).status id' =
      if id' = id then some .canceled else book.status id' :=
  set_status book id { entry with status := .canceled } id'

theorem unresolved_set {book : Book} {id id' : Uuid} {entry : Entry} :
    (book.set id entry).Unresolved id' ↔
      (id' = id ∧ entry.status.unresolved = true) ∨ (id' ≠ id ∧ book.Unresolved id') := by
  unfold Unresolved
  rw [set_status]
  by_cases same : id' = id <;> simp [same]

end Book

/-- The entry a reservation makes. -/
def Entry.reserved (request : OrderRequest) (approval : RiskApproval) : Entry :=
  ⟨.pendingSubmit, request.signalId, request.strategyVersion, some approval.approvalId⟩

/-! ## The books of the two stores -/

def OrderRecord.entry (record : OrderRecord) : Entry :=
  ⟨record.status, record.signalId, record.strategyVersion, some record.riskApprovalId⟩

def SqlAlchemyOrderStore.book (store : SqlAlchemyOrderStore) : Book where
  entry id := (store.find id).map OrderRecord.entry
  fills := store.fills.map fun fill => ⟨fill.brokerFillId, fill.orderId, fill.quantity⟩
  journal := store.events.map fun event => (event.eventType, event.payload)

/-- What the fills in memory are on record as. -/
def recordedIn (fills : Dict String Fill) : List RecordedFill :=
  fills.entries.map fun e => ⟨e.1, e.2.orderId, e.2.quantity⟩

def InMemoryOrderStore.book (store : InMemoryOrderStore) : Book where
  entry id := (store.orders.get? id.str).map fun order =>
    ⟨order.status, order.request.signalId, order.request.strategyVersion,
      (store.approvals.get? id.str).map RiskApproval.approvalId⟩
  fills := recordedIn store.fills
  journal := store.closures

namespace OrderStore

def book : OrderStore → Book
  | .sqlAlchemy s => s.book
  | .inMemory s => s.book

/-- The order a spelling of an id leads to. -/
def Names (text : String) (id : Uuid) : OrderStore → Prop
  | .sqlAlchemy _ => Uuid.parse text = some id
  | .inMemory _ => text = id.str

/-- An update leaves everything of an order but its status. -/
def KeepsRequests : OrderStore → Prop
  | .sqlAlchemy _ => True
  | .inMemory _ => False

instance (store : OrderStore) : Decidable store.KeepsRequests := by
  cases store with
  | sqlAlchemy s => exact .isTrue trivial
  | inMemory s => exact .isFalse id

theorem names_str (store : OrderStore) (id : Uuid) : store.Names id.str id := by
  cases store with
  | sqlAlchemy s => exact Uuid.parse_str id
  | inMemory s => rfl

theorem names_unique {store : OrderStore} {text : String} {id id' : Uuid}
    (first : store.Names text id) (second : store.Names text id') : id = id' := by
  cases store with
  | sqlAlchemy s =>
      unfold Names at first second
      rw [first] at second
      exact Option.some.inj second
  | inMemory s => exact Uuid.str_injective (first.symm.trans second)

end OrderStore

/-! ## The tables -/

namespace SqlAlchemyOrderStore

variable {store : SqlAlchemyOrderStore}

theorem mem_of_find {id : Uuid} {record : OrderRecord} (found : store.find id = some record) :
    record ∈ store.orders ∧ record.clientOrderId = id :=
  ⟨List.mem_of_find?_eq_some found, by simpa using List.find?_some found⟩

theorem find_of_mem {record : OrderRecord} (member : record ∈ store.orders) :
    store.find record.clientOrderId = some record := by
  cases found : store.find record.clientOrderId with
  | none => simpa using List.find?_eq_none.1 found record member
  | some held =>
      obtain ⟨kept, same⟩ := mem_of_find found
      rw [List.inj_on_of_nodup_map store.clientOrderIds kept member same]

theorem find_setStatus (filter : OrderRecord → Bool) (status : OrderStatus) (id : Uuid) :
    (store.setStatus filter status).find id =
      (store.find id).map fun record => if filter record then { record with status } else record := by
  have same : ((fun record : OrderRecord => decide (record.clientOrderId = id)) ∘
      fun record => if filter record then { record with status } else record) =
      fun record => decide (record.clientOrderId = id) := by
    funext record
    simp only [Function.comp]
    split <;> rfl
  unfold find setStatus
  rw [List.find?_map, same]

/-- An update that hits exactly the row of one order sets one entry of the book. -/
theorem book_setStatus {filter : OrderRecord → Bool} {status : OrderStatus} {id : Uuid}
    {record : OrderRecord} (found : store.find id = some record)
    (only : ∀ r ∈ store.orders, filter r = true ↔ r.clientOrderId = id) :
    (store.setStatus filter status).book = store.book.set id { record.entry with status } := by
  have entries : (store.setStatus filter status).book.entry =
      (store.book.set id { record.entry with status }).entry := by
    funext id'
    rw [Book.set_entry]
    show ((store.setStatus filter status).find id').map OrderRecord.entry = _
    rw [find_setStatus]
    by_cases same : id' = id
    · obtain ⟨member, key⟩ := mem_of_find found
      have hit : filter record = true := (only record member).2 key
      simp [same, found, hit, OrderRecord.entry]
    · cases other : store.find id' with
      | none => simp [same, book, other]
      | some r =>
          obtain ⟨member, key⟩ := mem_of_find other
          have miss : filter r = false := by
            rw [Bool.eq_false_iff, Ne, only r member, key]
            exact same
          simp [same, miss, book, other]
  exact congrArg (Book.mk · _ _) entries

theorem reserve_cases {now : Timestamp} {request : OrderRequest} {approval : RiskApproval}
    {reply : Except Exc (Order × Bool)} {after : SqlAlchemyOrderStore}
    (done : store.reserveWithCreated now request approval = (reply, after)) :
    (after = store ∧ ∀ order created, reply = .ok (order, created) →
        created = false ∧ order.request.clientOrderId = request.clientOrderId ∧
          store.book.status request.clientOrderId = some order.status) ∨
      (store.book.entry request.clientOrderId = none ∧
        after.book = store.book.set request.clientOrderId (.reserved request approval) ∧
        ∀ order created, reply = .ok (order, created) →
          created = true ∧ order.request.clientOrderId = request.clientOrderId ∧
            order.status = .pendingSubmit) := by
  unfold reserveWithCreated at done
  split at done
  · rename_i record found
    cases done
    refine .inl ⟨rfl, fun order created replied => ?_⟩
    obtain ⟨read, converted, same⟩ := map_eq_ok.1 replied
    cases same
    obtain ⟨key, status⟩ := OrderRecord.toOrder_ok converted
    exact ⟨rfl, key.trans (mem_of_find found).2, by simp [Book.status, book, found, status,
      OrderRecord.entry]⟩
  · rename_i found
    dsimp only at done
    split at done
    · cases done
      refine .inr ⟨by simp [book, found], ?_, fun order created replied => ?_⟩
      · refine congrArg (Book.mk · _ _) ?_
        funext id
        by_cases same : id = request.clientOrderId
        · subst same
          have absent : store.orders.find? (fun r => r.clientOrderId = request.clientOrderId) = none :=
            found
          simp [book, find, List.find?_append, absent, OrderRecord.reserved, Entry.reserved,
            OrderRecord.entry]
        · have other : ¬ request.clientOrderId = id := fun h => same h.symm
          simp [book, find, List.find?_append, OrderRecord.reserved, other, same]
      · obtain ⟨read, converted, same⟩ := map_eq_ok.1 replied
        cases same
        obtain ⟨key, status⟩ := OrderRecord.toOrder_ok converted
        exact ⟨rfl, key, status⟩
    · cases done
      exact .inl ⟨rfl, fun order created replied => by cases replied⟩

theorem update_cases {order : Order} {reply : Except Exc Unit} {after : SqlAlchemyOrderStore}
    (done : store.update order = (reply, after)) :
    after = store ∨ ∃ old, store.book.entry order.request.clientOrderId = some old ∧
      after.book =
        store.book.set order.request.clientOrderId { old with status := order.status } := by
  unfold update at done
  split at done
  · cases done
    exact .inl rfl
  · rename_i record found
    cases done
    exact .inr ⟨record.entry, by simp [book, found],
      book_setStatus found fun r _ => decide_eq_true_iff⟩

theorem addFills_cases {fills : List Fill} {reply : Except Exc Unit}
    {after : SqlAlchemyOrderStore} (done : store.addFills fills = (reply, after)) :
    (after = store ∧ ∀ value, reply ≠ .ok value) ∨
      after.book = { store.book with fills := after.book.fills } := by
  unfold addFills at done
  split at done
  · cases done
    exact .inr rfl
  · cases done
    exact .inl ⟨rfl, fun value => by simp⟩

theorem get_ok {now : Timestamp} {text : String} {found : Option Order}
    (read : store.get now text = .ok found) :
    ∃ id, Uuid.parse text = some id ∧
      (∀ order, found = some order → order.request.clientOrderId = id) ∧
        found.map Order.status = store.book.status id := by
  unfold get at read
  dsimp only at read
  split at read
  · cases read
  · rename_i id parsed
    split at read
    · rename_i absent
      cases read
      exact ⟨id, parsed, fun order h => (by cases h), by simp [Book.status, book, absent]⟩
    · rename_i record held
      split at read
      · rename_i order converted
        cases read
        obtain ⟨key, status⟩ := OrderRecord.toOrder_ok converted
        refine ⟨id, parsed, fun order' h => ?_, ?_⟩
        · cases h
          exact key.trans (mem_of_find held).2
        · simp [Book.status, book, held, status, OrderRecord.entry]
      · cases read

theorem unresolved_iff {id : Uuid} :
    store.book.Unresolved id ↔
      ∃ record ∈ store.orders, record.clientOrderId = id ∧ record.status.unresolved = true := by
  constructor
  · rintro ⟨status, held, unresolved⟩
    obtain ⟨entry, found, rfl⟩ := Option.map_eq_some_iff.1 held
    obtain ⟨record, row, rfl⟩ := Option.map_eq_some_iff.1 found
    exact ⟨record, (mem_of_find row).1, (mem_of_find row).2, unresolved⟩
  · rintro ⟨record, member, rfl, unresolved⟩
    exact ⟨record.status, by simp [Book.status, book, find_of_mem member, OrderRecord.entry],
      unresolved⟩

theorem pending_ok {now : Timestamp} {orders : List Order}
    (read : store.pending now = .ok orders) (id : Uuid) :
    store.book.Unresolved id ↔ ∃ order ∈ orders, order.request.clientOrderId = id := by
  obtain ⟨forward, backward⟩ := mapM_members read
  rw [unresolved_iff]
  constructor
  · rintro ⟨record, member, rfl, unresolved⟩
    obtain ⟨order, listed, converted⟩ := forward record (List.mem_filter.2 ⟨member, unresolved⟩)
    exact ⟨order, listed, (OrderRecord.toOrder_ok converted).1⟩
  · rintro ⟨order, listed, rfl⟩
    obtain ⟨record, member, converted⟩ := backward order listed
    obtain ⟨kept, unresolved⟩ := List.mem_filter.1 member
    exact ⟨record, kept, (OrderRecord.toOrder_ok converted).1.symm, unresolved⟩

theorem close_cases {text eventType : String} {payload : Payload} {at_ : Timestamp}
    {reply : Except Exc Bool} {after : SqlAlchemyOrderStore}
    (done : store.closeUnreceived text eventType payload at_ = (reply, after)) :
    (after = store ∧ reply ≠ .ok true) ∨
      ∃ id old extra, reply = .ok true ∧ Uuid.parse text = some id ∧
        store.book.entry id = some old ∧ old.status.unresolved = true ∧
        after.book = store.book.close id old (eventType, payload ++ extra) := by
  unfold closeUnreceived at done
  split at done
  · cases done
    exact .inl ⟨rfl, by simp⟩
  · rename_i id parsed
    split at done
    · cases done
      exact .inl ⟨rfl, by simp⟩
    · rename_i record found
      dsimp only at done
      split at done
      · cases done
        exact .inl ⟨rfl, by simp⟩
      · rename_i one
        obtain ⟨member, key⟩ := mem_of_find found
        have owner : ∀ r ∈ store.orders, r.orderId = record.orderId → r = record :=
          fun r kept same => List.inj_on_of_nodup_map store.orderIds kept member same
        -- The one row the statement hits is the row that was read, so that row is unresolved.
        have unresolved : record.status.unresolved = true := by
          obtain ⟨r, kept, hit⟩ := List.countP_pos_iff.1
            (show 0 < store.orders.countP fun r : OrderRecord =>
              r.orderId = record.orderId && r.status.unresolved by omega)
          rw [Bool.and_eq_true, decide_eq_true_iff] at hit
          exact owner r kept hit.1 ▸ hit.2
        have only : ∀ r ∈ store.orders,
            (r.orderId = record.orderId && r.status.unresolved) = true ↔ r.clientOrderId = id := by
          intro r kept
          rw [Bool.and_eq_true, decide_eq_true_iff]
          constructor
          · rintro ⟨same, _⟩
            rw [owner r kept same, key]
          · intro same
            have equal : r = record :=
              List.inj_on_of_nodup_map store.clientOrderIds kept member (same.trans key.symm)
            exact ⟨equal ▸ rfl, equal ▸ unresolved⟩
        cases done
        refine .inr ⟨id, record.entry, [("risk_approval_id", .text record.riskApprovalId.str)],
          rfl, parsed, by simp [book, found], unresolved, ?_⟩
        have closed := congrArg Book.entry (@book_setStatus _ _ .canceled _ _ found only)
        exact Book.ext closed rfl (by simp [book, Book.close])

end SqlAlchemyOrderStore

/-! ## The dictionaries -/

namespace InMemoryOrderStore

variable {store : InMemoryOrderStore}

/-- The approval kept for an order. -/
def approvalId (store : InMemoryOrderStore) (id : Uuid) : Option Uuid :=
  (store.approvals.get? id.str).map RiskApproval.approvalId

theorem book_put (order : Order) :
    (store.put order).book = store.book.set order.request.clientOrderId
      ⟨order.status, order.request.signalId, order.request.strategyVersion,
        store.approvalId order.request.clientOrderId⟩ := by
  refine congrArg (Book.mk · _ _) ?_
  funext id
  by_cases same : id = order.request.clientOrderId
  · simp [put, same, Function.update, approvalId]
  · have other : id.str ≠ order.request.clientOrderId.str := fun h => same (Uuid.str_injective h)
    simp [put, same, Function.update, Dict.get?_set_ne _ _ other, book]

theorem get_ok {text : String} {order : Order} (held : store.orders.get? text = some order) :
    text = order.request.clientOrderId.str ∧
      store.book.entry order.request.clientOrderId =
        some ⟨order.status, order.request.signalId, order.request.strategyVersion,
          store.approvalId order.request.clientOrderId⟩ := by
  have key := store.keyed held
  refine ⟨key, ?_⟩
  rw [key] at held
  simp [book, held, approvalId]

theorem reserve_cases {now : Timestamp} {request : OrderRequest} {approval : RiskApproval}
    {reply : Except Exc (Order × Bool)} {after : InMemoryOrderStore}
    (done : store.reserveWithCreated now request approval = (reply, after)) :
    (after = store ∧ ∀ order created, reply = .ok (order, created) →
        created = false ∧ order.request.clientOrderId = request.clientOrderId ∧
          store.book.status request.clientOrderId = some order.status) ∨
      (store.book.entry request.clientOrderId = none ∧
        after.book = store.book.set request.clientOrderId (.reserved request approval) ∧
        ∀ order created, reply = .ok (order, created) →
          created = true ∧ order.request.clientOrderId = request.clientOrderId ∧
            order.status = .pendingSubmit) := by
  unfold reserveWithCreated at done
  dsimp only at done
  split at done
  · rename_i existing held
    split at done
    · cases done
      exact .inl ⟨rfl, fun order created replied => by cases replied⟩
    · rename_i same
      cases done
      refine .inl ⟨rfl, fun order created replied => ?_⟩
      cases replied
      rw [not_not] at same
      have kept := (get_ok held).2
      rw [same] at kept
      exact ⟨rfl, by rw [same], by simp [Book.status, kept]⟩
  · rename_i absent
    cases done
    refine .inr ⟨by simp [book, absent], ?_, fun order created replied => ?_⟩
    · refine congrArg (Book.mk · _ _) ?_
      funext id
      by_cases same : id = request.clientOrderId
      · simp [put, same, Function.update, Entry.reserved]
      · have other : id.str ≠ request.clientOrderId.str := fun h => same (Uuid.str_injective h)
        simp [put, same, Function.update, Dict.get?_set_ne _ _ other, book]
    · cases replied
      exact ⟨rfl, rfl, rfl⟩

theorem pending_ok {orders : List Order} (read : store.pending = .ok orders) (id : Uuid) :
    store.book.Unresolved id ↔ ∃ order ∈ orders, order.request.clientOrderId = id := by
  cases read
  constructor
  · rintro ⟨status, held, unresolved⟩
    obtain ⟨entry, found, rfl⟩ := Option.map_eq_some_iff.1 held
    obtain ⟨order, row, rfl⟩ := Option.map_eq_some_iff.1 found
    exact ⟨order, List.mem_filter.2 ⟨Dict.mem_values.2 ⟨_, row⟩, unresolved⟩,
      (Uuid.str_injective (store.keyed row)).symm⟩
  · rintro ⟨order, listed, rfl⟩
    obtain ⟨member, unresolved⟩ := List.mem_filter.1 listed
    obtain ⟨key, held⟩ := Dict.mem_values.1 member
    exact ⟨order.status, by simp [Book.status, (get_ok held).2], unresolved⟩

theorem close_cases {text eventType : String} {payload : Payload} {at_ : Timestamp}
    {reply : Except Exc Bool} {after : InMemoryOrderStore}
    (done : store.closeUnreceived text eventType payload at_ = (reply, after)) :
    (after = store ∧ reply ≠ .ok true) ∨
      ∃ id old extra, reply = .ok true ∧ text = id.str ∧
        store.book.entry id = some old ∧ old.status.unresolved = true ∧
        after.book = store.book.close id old (eventType, payload ++ extra) := by
  unfold closeUnreceived at done
  split at done
  · cases done
    exact .inl ⟨rfl, by simp⟩
  · rename_i order held
    obtain ⟨key, kept⟩ := get_ok held
    split at done
    · rename_i unresolved
      cases done
      refine .inr ⟨_, _, [], rfl, key, kept, unresolved, ?_⟩
      have closed := congrArg Book.entry
        (@book_put store { order with status := .canceled, updatedAt := at_ })
      exact Book.ext closed rfl (by simp [book, Book.close])
    · cases done
      exact .inl ⟨rfl, by simp⟩

end InMemoryOrderStore

/-! ## Either store -/

namespace OrderStore

variable {store after : OrderStore}

theorem reserve_cases {now : Timestamp} {request : OrderRequest} {approval : RiskApproval}
    {reply : Except Exc (Order × Bool)}
    (done : store.reserveWithCreated now request approval = (reply, after)) :
    (after = store ∧ ∀ order created, reply = .ok (order, created) →
        created = false ∧ order.request.clientOrderId = request.clientOrderId ∧
          store.book.status request.clientOrderId = some order.status) ∨
      (store.book.entry request.clientOrderId = none ∧
        after.book = store.book.set request.clientOrderId (.reserved request approval) ∧
        ∀ order created, reply = .ok (order, created) →
          created = true ∧ order.request.clientOrderId = request.clientOrderId ∧
            order.status = .pendingSubmit) := by
  cases store with
  | sqlAlchemy s =>
      cases done
      refine (SqlAlchemyOrderStore.reserve_cases (Eq.refl (s.reserveWithCreated now request approval))).imp_left ?_
      exact fun kept => ⟨congrArg OrderStore.sqlAlchemy kept.1, kept.2⟩
  | inMemory s =>
      cases done
      refine (InMemoryOrderStore.reserve_cases (Eq.refl (s.reserveWithCreated now request approval))).imp_left ?_
      exact fun kept => ⟨congrArg OrderStore.inMemory kept.1, kept.2⟩

/-- The entry an update leaves.  Rows keep all but the status; a store in memory
keeps the whole order it is given, and the approval it already had. -/
theorem update_cases {order : Order} {reply : Except Exc Unit}
    (done : store.update order = (reply, after)) :
    after = store ∨ ∃ entry : Entry,
      after.book = store.book.set order.request.clientOrderId entry ∧
        entry.status = order.status ∧
        (store.KeepsRequests ∧ (∃ old, store.book.entry order.request.clientOrderId = some old ∧
            entry = { old with status := order.status }) ∨
          ¬ store.KeepsRequests ∧ entry.signalId = order.request.signalId ∧
            entry.strategyVersion = order.request.strategyVersion ∧
            ∀ old, store.book.entry order.request.clientOrderId = some old →
              entry.approvalId = old.approvalId) := by
  cases store with
  | sqlAlchemy s =>
      cases done
      rcases SqlAlchemyOrderStore.update_cases (Eq.refl (s.update order)) with same | ⟨old, held, set⟩
      · exact .inl (congrArg OrderStore.sqlAlchemy same)
      · exact .inr ⟨_, set, rfl, .inl ⟨trivial, old, held, rfl⟩⟩
  | inMemory s =>
      cases done
      refine .inr ⟨_, InMemoryOrderStore.book_put order, rfl, .inr ⟨id, rfl, rfl, ?_⟩⟩
      intro old held
      obtain ⟨kept, row, rfl⟩ := Option.map_eq_some_iff.1 held
      rfl

theorem addFills_cases {fills : List Fill} {reply : Except Exc Unit}
    (done : store.addFills fills = (reply, after)) :
    (after = store ∧ ∀ value, reply ≠ .ok value) ∨
      after.book = { store.book with fills := after.book.fills } := by
  cases store with
  | sqlAlchemy s =>
      cases done
      refine (SqlAlchemyOrderStore.addFills_cases (Eq.refl (s.addFills fills))).imp_left ?_
      exact fun kept => ⟨congrArg OrderStore.sqlAlchemy kept.1, kept.2⟩
  | inMemory s =>
      cases done
      exact .inr rfl

theorem get_ok {now : Timestamp} {text : String} {found : Option Order}
    (read : store.get now text = .ok found) :
    (∀ order, found = some order →
        store.Names text order.request.clientOrderId ∧
          store.book.status order.request.clientOrderId = some order.status) ∧
      (found = none → ∀ id, store.Names text id → store.book.entry id = none) := by
  cases store with
  | sqlAlchemy s =>
      obtain ⟨id, parsed, named, status⟩ := SqlAlchemyOrderStore.get_ok read
      constructor
      · rintro order rfl
        obtain rfl := named order rfl
        exact ⟨parsed, status.symm⟩
      · rintro rfl id' names
        rw [show Uuid.parse text = some id' from names] at parsed
        cases parsed
        exact Option.map_eq_none_iff.1 status.symm
  | inMemory s =>
      cases read
      constructor
      · intro order held
        obtain ⟨key, kept⟩ := InMemoryOrderStore.get_ok held
        exact ⟨key, by simp [Book.status, book, kept]⟩
      · intro absent id names
        rw [show text = id.str from names] at absent
        simp [book, InMemoryOrderStore.book, absent]

theorem pending_ok {now : Timestamp} {orders : List Order} (read : store.pending now = .ok orders)
    (id : Uuid) :
    store.book.Unresolved id ↔ ∃ order ∈ orders, order.request.clientOrderId = id := by
  cases store with
  | sqlAlchemy s => exact SqlAlchemyOrderStore.pending_ok read id
  | inMemory s => exact InMemoryOrderStore.pending_ok read id

theorem close_cases {text eventType : String} {payload : Payload} {at_ : Timestamp}
    {reply : Except Exc Bool}
    (done : store.closeUnreceived text eventType payload at_ = (reply, after)) :
    (after = store ∧ reply ≠ .ok true) ∨
      ∃ id old extra, reply = .ok true ∧ store.Names text id ∧
        store.book.entry id = some old ∧ old.status.unresolved = true ∧
        after.book = store.book.close id old (eventType, payload ++ extra) := by
  cases store with
  | sqlAlchemy s =>
      cases done
      refine (SqlAlchemyOrderStore.close_cases (Eq.refl (s.closeUnreceived text eventType payload at_))).imp_left ?_
      exact fun kept => ⟨congrArg OrderStore.sqlAlchemy kept.1, kept.2⟩
  | inMemory s =>
      cases done
      refine (InMemoryOrderStore.close_cases (Eq.refl (s.closeUnreceived text eventType payload at_))).imp_left ?_
      exact fun kept => ⟨congrArg OrderStore.inMemory kept.1, kept.2⟩

end OrderStore

end AlgoTrader.Execution
