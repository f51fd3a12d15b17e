/-
# Execution.NeverSent -- a closed order is not sent

The engine closes an order whose lookup failed before it was sent, and the closer
ends one the venue says it never received.  What a close rests on is a stored
status, and the status is all that stops a later call from sending the order.

Along every run the two stay true to each other as long as no report of the
venue takes a closed order back to an unresolved status:

* `closesHonoured` -- what the engine closed as never sent had not been passed to
  the venue, and what was closed, either way, is not passed to it afterwards;
* `closeUndone` -- a late report of an order that was sent, timed out and was
  closed is written over the close, and the next call sends the order again.
-/
import AlgoTrader.Execution.Engine
import AlgoTrader.Execution.Closure

namespace AlgoTrader.Execution

open AlgoTrader.Core Brokers Theory Process

set_option autoImplicit false

/-! ## What a run says -/

/-- The event ends an unresolved order `canceled`. -/
def closing (id : Uuid) (e : Served) : Bool :=
  match e.op with
  | .store (.closeUnreceived ..) =>
      (e.before.store.book.status id).any OrderStatus.unresolved &&
        decide (e.after.store.book.status id = some .canceled)
  | _ => false

/-- The closer records that the venue has no record of the order; the engine, that
it could not ask. -/
def closingNeverSent (id : Uuid) (e : Served) : Bool :=
  match e.op with
  | .store (.closeUnreceived _ _ payload _) =>
      closing id e && decide (payload.get? "broker_lookup" ≠ some (.text lookupNotFound))
  | _ => false

def Closed (id : Uuid) (events : List Served) : Prop := ∃ e ∈ events, closing id e = true

def Passed (id : Uuid) (events : List Served) : Prop :=
  ∃ e ∈ events, ∃ request, sent e = some request ∧ request.clientOrderId = id

/-- No order is closed as never sent after it was passed to the venue, and none is
passed to the venue after it was closed. -/
structure CloseHonoured (e : Served) (earlier : List Served) : Prop where
  neverSent : ∀ id, closingNeverSent id e = true → ¬ Passed id earlier
  notResent : ∀ request, sent e = some request → ¬ Closed request.clientOrderId earlier

/-- The venue does not report a closed order as unresolved. -/
def LeavesClosed (e : Served) (earlier : List Served) : Prop :=
  ∀ order, reported e = some order → Closed order.request.clientOrderId earlier →
    order.status.unresolved = false

/-! ## Orders that are done with -/

/-- The outcome of an order is on record. -/
def Book.Settled (book : Book) (id : Uuid) : Prop :=
  ∃ status, book.status id = some status ∧ status.unresolved = false

namespace NeverSent

section Books

variable {store : OrderStore} {op : StoreOp} {book : Book} {id : Uuid}

theorem not_settled_of_unresolved (unresolved : book.Unresolved id) : ¬ book.Settled id := by
  rintro ⟨status, here, resolved⟩
  obtain ⟨status', same, open_⟩ := unresolved
  rw [here] at same
  cases same
  rw [resolved] at open_
  cases open_

theorem entry_of_unresolved (unresolved : book.Unresolved id) : (book.entry id).isSome := by
  obtain ⟨status, here, _⟩ := unresolved
  have known := congrArg Option.isSome here
  rw [Book.status, Option.isSome_map] at known
  exact known

/-- Nothing removes an order. -/
theorem entry_kept (change : op.Change store book) (here : (store.book.entry id).isSome) :
    (book.entry id).isSome := by
  have put : ∀ id' entry, ((store.book.set id' entry).entry id).isSome := by
    intro id' entry
    rw [Book.set_entry]
    split
    · rfl
    · exact here
  cases change with
  | none => exact here
  | reserved request approval unused => exact put _ _
  | updated order entry written rest => exact put _ _
  | filled fills recorded => exact here
  | closed text eventType payload extra at_ id' old named row open_ => exact put _ _

/-- Only an order that is written as unresolved becomes unresolved again. -/
theorem settled_kept (change : op.Change store book) (settled : store.book.Settled id)
    (resolves : ∀ order, op.updates = some order → order.request.clientOrderId = id →
      order.status.unresolved = false) : book.Settled id := by
  cases change with
  | none => exact settled
  | filled fills recorded => exact settled
  | reserved request approval unused =>
      obtain ⟨status, here, resolved⟩ := settled
      refine ⟨status, ?_, resolved⟩
      rw [Book.set_status]
      split
      · rename_i same
        simp [Book.status, same, unused] at here
      · exact here
  | updated order entry written rest =>
      obtain ⟨status, here, resolved⟩ := settled
      by_cases same : id = order.request.clientOrderId
      · refine ⟨order.status, ?_, resolves order rfl same.symm⟩
        rw [Book.set_status, if_pos same, written]
      · exact ⟨status, by rw [Book.set_status, if_neg same]; exact here, resolved⟩
  | closed text eventType payload extra at_ id' old named row open_ =>
      obtain ⟨status, here, resolved⟩ := settled
      by_cases same : id = id'
      · exact ⟨.canceled, by rw [Book.close_status, if_pos same], rfl⟩
      · exact ⟨status, by rw [Book.close_status, if_neg same]; exact here, resolved⟩

/-- The order a close ends is the one its spelling leads to. -/
theorem named_of_closed {text eventType : String} {payload : Payload} {at_ : Timestamp}
    (change : (StoreOp.closeUnreceived text eventType payload at_).Change store book)
    (open_ : (store.book.status id).any OrderStatus.unresolved = true)
    (canceled : book.status id = some .canceled) : store.Names text id := by
  have moved : store.book.status id ≠ some .canceled := by
    intro same
    rw [same] at open_
    cases open_
  cases change with
  | none => exact absurd canceled moved
  | closed _ _ _ extra _ id' old named row unresolved =>
      rw [Book.close_status] at canceled
      split at canceled
      · rename_i same
        exact same ▸ named
      · exact absurd canceled moved

end Books

/-! ## Reading a step -/

section Steps

variable {m : Instant} {op : Op} {reply : Except Exc op.Reply} {after : World} {id : Uuid}

theorem not_closing (off : op.onStore = false) : closing id (m.event op reply after) = false := by
  cases op with
  | store call => cases off
  | _ => rfl

theorem not_closingNeverSent (off : op.onStore = false) :
    closingNeverSent id (m.event op reply after) = false := by
  cases op with
  | store call => cases off
  | _ => rfl

theorem settled_of_closing {e : Served} (closed : closing id e = true) :
    e.after.store.book.Settled id := by
  unfold closing at closed
  split at closed
  · rw [Bool.and_eq_true, decide_eq_true_iff] at closed
    exact ⟨.canceled, closed.2, rfl⟩
  · cases closed

theorem closing_of_neverSent {e : Served} (closed : closingNeverSent id e = true) :
    closing id e = true := by
  unfold closingNeverSent at closed
  split at closed
  · exact (Bool.and_eq_true_iff.1 closed).1
  · cases closed

theorem closed_push (off : op.onStore = false) (closed : Closed id (m.push op reply after).events) :
    Closed id m.events := by
  obtain ⟨e, _ | ⟨_, member⟩, here⟩ := closed
  · rw [not_closing off] at here
    cases here
  · exact ⟨e, member, here⟩

theorem passed_push (silent : sent (m.event op reply after) = none)
    (passed : Passed id (m.push op reply after).events) : Passed id m.events := by
  obtain ⟨e, _ | ⟨_, member⟩, request, here, key⟩ := passed
  · rw [silent] at here
    cases here
  · exact ⟨e, member, request, here, key⟩

end Steps

/-! ## What is true between steps -/

structure Kept (m : Instant) : Prop where
  /-- What was passed to the venue is on record. -/
  saved : ∀ id, Passed id m.events → (m.world.store.book.entry id).isSome
  /-- What was closed stays done with. -/
  ended : ∀ id, Closed id m.events → m.world.store.book.Settled id
  honoured : Along CloseHonoured m.events

/-- What is known of the order at each stage. -/
def Aware (m : Instant) : Stage → Prop
  | .reserved request _ persisted created =>
      persisted.request.clientOrderId = request.clientOrderId ∧
        m.world.store.book.Unresolved request.clientOrderId ∧
        (created = true → ¬ Passed request.clientOrderId m.events)
  | .unsent order _ => ¬ Passed order.request.clientOrderId m.events
  | .absent request _ => m.world.store.book.Unresolved request.clientOrderId
  | .failed order | .answered order | .fetched order _ | .covered order _ =>
      Closed order.request.clientOrderId m.events → order.status.unresolved = false
  | _ => True

def means (pt : EnginePoint) (m : Instant) : Prop := Kept m ∧ Aware m pt.stage

def contract (env : Environment) : Contract effects Exc World where
  serve := Serve env
  assume := LeavesClosed
  guard _ _ := True
  invariant := Kept

section Push

variable {m : Instant} {op : Op} {reply : Except Exc op.Reply} {after : World}

/-- An event that neither sends nor writes. -/
theorem Kept.still (held : Kept m) (same : after.store = m.world.store) (off : op.onStore = false)
    (silent : sent (m.event op reply after) = none) : Kept (m.push op reply after) := by
  refine ⟨fun id passed => ?_, fun id closed => ?_, ⟨?_, ?_⟩, held.honoured⟩
  · rw [Moment.push_world, same]
    exact held.saved id (passed_push silent passed)
  · rw [Moment.push_world, same]
    exact held.ended id (closed_push off closed)
  · intro id closed
    rw [not_closingNeverSent off] at closed
    cases closed
  · intro request sending
    rw [silent] at sending
    cases sending

theorem Aware.still {stage : Stage} (aware : Aware m stage) (same : after.store = m.world.store)
    (off : op.onStore = false) (silent : sent (m.event op reply after) = none) :
    Aware (m.push op reply after) stage := by
  cases stage with
  | idle => trivial
  | ordering request approval => trivial
  | reserved request approval persisted created =>
      obtain ⟨own, unresolved, unsent⟩ := aware
      refine ⟨own, ?_, fun new passed => unsent new (passed_push silent passed)⟩
      rw [Moment.push_world, same]
      exact unresolved
  | unsent order failure => exact fun passed => aware (passed_push silent passed)
  | absent request approval =>
      simp only [Aware, Moment.push_world, same] at aware ⊢
      exact aware
  | failed order => exact fun closed => aware (closed_push off closed)
  | answered order => exact fun closed => aware (closed_push off closed)
  | fetched order fills => exact fun closed => aware (closed_push off closed)
  | covered order fills => exact fun closed => aware (closed_push off closed)

variable {call : StoreOp} {reply : Except Exc call.Reply}

/-- A call on the store that leaves closed orders closed. -/
theorem Kept.write (held : Kept m) (change : call.Change m.world.store after.store.book)
    (resolves : ∀ order, call.updates = some order →
      Closed order.request.clientOrderId m.events → order.status.unresolved = false)
    (unsent : ∀ id, closingNeverSent id (m.event (.store call) reply after) = true →
      ¬ Passed id m.events) :
    Kept (m.push (.store call) reply after) := by
  refine ⟨fun id passed => ?_, ?_, ⟨unsent, fun request sending => by cases sending⟩, held.honoured⟩
  · exact entry_kept change (held.saved id (passed_push rfl passed))
  · rintro id ⟨e, _ | ⟨_, member⟩, here⟩
    · exact settled_of_closing here
    · have closed : Closed id m.events := ⟨e, member, here⟩
      refine settled_kept change (held.ended id closed) fun order same own => ?_
      exact resolves order same (own ▸ closed)

/-- A call that closes nothing as never sent, and writes over no order. -/
theorem Kept.writeOther (held : Kept m) (change : call.Change m.world.store after.store.book)
    (fresh : call.updates = none)
    (other : ∀ id, closingNeverSent id (m.event (.store call) reply after) = false) :
    Kept (m.push (.store call) reply after) := by
  refine held.write change (fun order same => ?_) fun id closed => ?_
  · rw [fresh] at same
    cases same
  · rw [other id] at closed
    cases closed

/-- Writing an order that is not unresolved if it was closed. -/
theorem Kept.writeOrder {order : Order} {reply : Except Exc Unit} (held : Kept m)
    (change : (StoreOp.update order).Change m.world.store after.store.book)
    (resolves : Closed order.request.clientOrderId m.events → order.status.unresolved = false) :
    Kept (m.push (.store (.update order)) reply after) := by
  refine held.write change (fun order' same => ?_) fun id closed => by cases closed
  cases same
  exact resolves

/-- A new order that is unresolved is on record, and was never passed to the venue. -/
theorem Kept.reserved {env : Environment} {request : OrderRequest} {approval : RiskApproval}
    {reply : Except Exc (Order × Bool)} (held : Kept m) (ids : List String)
    (served : Serve env (.store (.reserveWithCreated request approval)) m.world reply after) :
    Aware (m.push (.store (.reserveWithCreated request approval)) reply after)
      (afterReserve ids request approval reply).stage := by
  refine afterReserve_stage trivial ?_
  rintro persisted created rfl unresolved
  obtain ⟨now, done⟩ := served.store_call.applied
  rcases OrderStore.reserve_cases done with ⟨same, old⟩ | ⟨unused, set, new⟩
  · obtain ⟨known, key, status⟩ := old persisted created rfl
    refine ⟨key, ⟨_, ?_, unresolved⟩, fun created => ?_⟩
    · rw [Moment.push_world, same]
      exact status
    · rw [known] at created
      cases created
  · obtain ⟨_, key, status⟩ := new persisted created rfl
    refine ⟨key, ⟨.pendingSubmit, ?_, rfl⟩, fun _ passed => ?_⟩
    · rw [Moment.push_world, set, Book.set_status, if_pos rfl]
      rfl
    · have saved := held.saved _ (passed_push rfl passed)
      rw [unused] at saved
      cases saved

/-- Passing an unresolved order to the venue. -/
theorem Kept.submit {request : OrderRequest} {approval : RiskApproval} {reply : Except Exc Order}
    (held : Kept m) (unresolved : m.world.store.book.Unresolved request.clientOrderId)
    (same : after.store = m.world.store) :
    Kept (m.push (.broker (.submitOrder request approval)) reply after) := by
  have open_ : ¬ Closed request.clientOrderId m.events :=
    fun closed => not_settled_of_unresolved unresolved (held.ended _ closed)
  refine ⟨fun id passed => ?_, fun id closed => ?_, ⟨fun id closed => (by cases closed), ?_⟩, held.honoured⟩
  · rw [Moment.push_world, same]
    obtain ⟨e, _ | ⟨_, member⟩, request', here, rfl⟩ := passed
    · cases here
      exact entry_of_unresolved unresolved
    · exact held.saved _ ⟨e, member, request', here, rfl⟩
  · rw [Moment.push_world, same]
    exact held.ended id (closed_push rfl closed)
  · intro request' sending
    cases sending
    exact open_

end Push

/-! ## Every step keeps it -/

theorem annotated {env : Environment} (serialized : env.Serialized) :
    Annotation (contract env) Edge means := by
  refine ⟨fun pt m held => held.1, ?_⟩
  rintro pt op next edge m ⟨held, aware⟩
  refine ⟨trivial, fun reply after (served : Serve env op m.world reply after)
    (leaves : LeavesClosed _ _) => ?_⟩
  -- A report of the venue, read at the stage it leads to.
  have told : op.onStore = false → ∀ order, reported (m.event op reply after) = some order →
      Closed order.request.clientOrderId (m.push op reply after).events →
        order.status.unresolved = false :=
    fun off order report closed => leaves order report (closed_push off closed)
  cases edge with
  | reserve ids request approval own approved =>
      exact ⟨held.writeOther served.change rfl fun _ => rfl, held.reserved ids served⟩
  | lookup ids request approval persisted created =>
      have same := served.store_kept serialized rfl
      obtain ⟨own, unresolved, unsent⟩ := aware
      refine ⟨held.still same rfl rfl, afterLookup_stage trivial ?_ ?_ ?_⟩
      · rintro order rfl
        exact told rfl order rfl
      · rintro rfl
        rw [Aware, Moment.push_world, same]
        exact unresolved
      · rintro failure rfl new passed
        rw [own] at passed
        exact unsent new (passed_push rfl passed)
  | closeNeverSent ids order failure closedAt =>
      refine ⟨held.write served.change (fun order' same => by cases same) fun id closed => ?_,
        trivial⟩
      have ends := closing_of_neverSent closed
      simp only [closing, Moment.event, Bool.and_eq_true] at ends
      have named := named_of_closed served.change ends.1 (of_decide_eq_true ends.2)
      rw [OrderStore.names_unique named (OrderStore.names_str _ order.request.clientOrderId)]
      exact aware
  | submitOrder ids request approval =>
      refine ⟨held.submit aware (served.store_kept serialized rfl), afterSubmit_stage trivial ?_ ?_⟩
      · rintro order rfl
        exact told rfl order rfl
      · rintro failure order rfl carries
        exact told rfl order carries
  | saveFailed ids order =>
      exact ⟨held.writeOrder served.change aware, trivial⟩
  | settle ids order fills enough =>
      exact ⟨held.writeOrder served.change aware, trivial⟩
  | getFills ids order =>
      have known : Closed order.request.clientOrderId (m.push _ reply after).events →
          order.status.unresolved = false := fun closed => aware (closed_push rfl closed)
      exact ⟨held.still (served.store_kept serialized rfl) rfl rfl,
        afterFills_stage trivial (fun _ => known) fun _ _ => known⟩
  | addFills ids order fills =>
      refine ⟨held.writeOther served.change rfl fun _ => rfl, afterAddFills_stage trivial fun _ => ?_⟩
      rintro ⟨e, _ | ⟨_, member⟩, here⟩
      · cases here
      · exact aware ⟨e, member, here⟩
  | recover ids stage id asked =>
      refine ⟨held.still (served.store_kept serialized rfl) rfl rfl, afterRecover_stage trivial ?_⟩
      rintro order rfl
      exact told rfl order rfl
  | get ids stage id =>
      exact ⟨held.writeOther served.change rfl fun _ => rfl, trivial⟩
  | pending ids stage =>
      refine ⟨held.writeOther served.change rfl fun _ => rfl, ?_⟩
      rw [afterPending_stage]
      trivial
  | quiet pt op quiet =>
      have same := served.store_kept serialized quiet.offStore
      have silent : sent (m.event op reply after) = none := by
        cases quiet <;> rfl
      exact ⟨held.still same quiet.offStore silent, aware.still same quiet.offStore silent⟩

/-- What the closer records is what the venue answered. -/
theorem closureRecord_lookup (actor reason : String) (order : Order) (closedAt : Timestamp) :
    (OrderCloser.closureRecord actor reason order closedAt).toPayload.get? "broker_lookup" =
      some (.text lookupNotFound) := by
  simp [Payload.get?, OrderClosureRecord.toPayload, OrderCloser.closureRecord]

theorem close_annotated {env : Environment} (serialized : env.Serialized)
    (clientOrderId actor reason : String) :
    Annotation (contract env) (CloseEdge clientOrderId actor reason) (fun _ => Kept) := by
  refine ⟨fun _ m held => held, ?_⟩
  intro pt op next edge m held
  refine ⟨trivial, fun reply after (served : Serve env op m.world reply after) _ => ?_⟩
  cases edge with
  | get => exact held.writeOther served.change rfl fun _ => rfl
  | lookup order => exact held.still (served.store_kept serialized rfl) rfl rfl
  | fills order => exact held.still (served.store_kept serialized rfl) rfl rfl
  | clock order => exact held.still (served.store_kept serialized rfl) rfl rfl
  | close order closedAt =>
      refine held.writeOther served.change rfl fun id => ?_
      simp [closingNeverSent, Moment.event, closureRecord_lookup]

end NeverSent

/-! ## Submitting and closing, one at a time -/

inductive OrderCall where
  | engine (call : EngineCall)
  | close (clientOrderId actor reason : String)

def OrderCall.program (hooks : Hooks) : OrderCall → Proc Unit
  | .engine call => call.program hooks
  | .close clientOrderId actor reason => (OrderCloser.close clientOrderId actor reason).discard

/-- An engine and a closer over one store, under one lock. -/
def orderSystem (env : Environment) (hooks : Hooks) (initial : World → Prop) : Runtime where
  Entry := OrderCall
  program := OrderCall.program hooks
  serve := Serve env
  restart := Restart
  initial

/-- **A closed order is not sent**, in every run whose reports leave closed orders
closed. -/
theorem closesHonoured {env : Environment} {hooks : Hooks} {initial : World → Prop}
    (serialized : env.Serialized)
    {c : Config effects Exc World} (reached : (orderSystem env hooks initial).Reachable c)
    (leaves : Along LeavesClosed c.moment.events) : Along CloseHonoured c.moment.events := by
  have upheld : Upheld (NeverSent.contract env) c := by
    refine System.sound rfl (fun world _ => ?_) (fun call m held => ?_) ?_ reached leaves
    · exact ⟨fun id ⟨e, member, _⟩ => (by cases member), fun id ⟨e, member, _⟩ => (by cases member),
        trivial⟩
    · cases call with
      | engine call =>
          refine (NeverSent.annotated serialized).wp (call.follows hooks) ⟨held, ?_⟩
          cases call <;> trivial
      | close clientOrderId actor reason =>
          exact wp_discard ((NeverSent.close_annotated serialized clientOrderId actor reason).wp
            OrderCloser.close_follows held)
    · rintro m world held ⟨same, _⟩
      refine ⟨fun id passed => ?_, fun id closed => ?_, held.honoured⟩
      · exact same ▸ held.saved id passed
      · exact same ▸ held.ended id closed
  exact upheld.1.honoured

/-! ## Calls played out -/

/-- An engine and a closer over empty tables. -/
def oneDesk : Runtime :=
  orderSystem oneAtATime ⟨false, false⟩
    (· = emptyWorld (.sqlAlchemy .empty) (.sqlAlchemy .empty .empty))

def desk (cast : Cast) (calls : List (OrderCall × Nat)) : Instant :=
  oneDesk.rehearse cast.script calls ⟨emptyWorld (.sqlAlchemy .empty) (.sqlAlchemy .empty .empty), []⟩

theorem desk_reached {cast : Cast} (still : ∀ op m, cast.meanwhile op m = m.world)
    (calls : List (OrderCall × Nat)) : oneDesk.Reachable ⟨desk cast calls, none⟩ := by
  have sound : cast.script.Sound oneDesk.serve := by
    refine Cast.sound oneAtATime (fun _ => trivial) fun op m => ?_
    rw [still]
    exact ⟨rfl, rfl, rfl⟩
  have opening : oneDesk.initial (emptyWorld (.sqlAlchemy .empty) (.sqlAlchemy .empty .empty)) := rfl
  exact System.rehearse_reachable sound calls (.init opening)

def submitFirst : OrderCall :=
  .engine (.submit (marketBuy ⟨1⟩ ⟨2⟩) (approvalOf (marketBuy ⟨1⟩ ⟨2⟩)))

namespace NeverSent

/-- The venue cannot be reached. -/
def unreachable : Cast where
  broker
    | .getOrder _, _ =>
        .error { kind := .provider, typeName := "ProviderError", message := "unavailable" }
    | .submitOrder _ _, _ =>
        .error { kind := .provider, typeName := "ProviderError", message := "unavailable" }
    | .getFills _, _ =>
        .error { kind := .provider, typeName := "ProviderError", message := "unavailable" }

theorem unreachable_leaves (op : Op) (m : Instant) :
    LeavesClosed (m.event op (unreachable.script op m).1 (unreachable.script op m).2) m.events := by
  have silent : reported (m.event op (unreachable.script op m).1 (unreachable.script op m).2) =
      none := by
    cases op with
    | broker call => cases call <;> rfl
    | _ => rfl
  intro order report
  rw [silent] at report
  cases report

/-- The venue says it has no record of the order, but on the third time it is asked. -/
def lateReport : Cast where
  broker
    | .getOrder _, m =>
        if (m.events.filterMap answered).length = 2 then
          .ok (some (reportOf (marketBuy ⟨1⟩ ⟨2⟩) .unknown ⟨0, decimal_zero⟩))
        else .ok none
    | .submitOrder request _, _ =>
        .error { kind := .provider, typeName := "SubmissionTimeoutError"
                 message := "submission timed out"
                 order := some (reportOf request .unknown ⟨0, decimal_zero⟩) }
    | .getFills _, _ => .ok []

end NeverSent

open NeverSent in
/-- Closed as never sent, then submitted again. -/
theorem closesHonoured_unreachable :
    Along CloseHonoured (desk unreachable [(submitFirst, 12), (submitFirst, 12)]).events := by
  have leaves : Along LeavesClosed (desk unreachable [(submitFirst, 12), (submitFirst, 12)]).events := by
    unfold desk
    exact oneDesk.rehearse_along unreachable_leaves _ trivial
  exact closesHonoured oneAtATime_serialized (desk_reached (fun _ _ => rfl) _) leaves

/-- The venue reports only orders that were submitted to it. -/
def ReportsSubmitted (e : Served) (earlier : List Served) : Prop :=
  ∀ order ∈ reported e, ∃ e' ∈ e :: earlier, sent e' = some order.request

instance (e : Served) (earlier : List Served) : Decidable (ReportsSubmitted e earlier) := by
  unfold ReportsSubmitted
  infer_instance

namespace NeverSent

/-- Submitted, timed out, closed, recovered, submitted again. -/
def reopened : Instant :=
  desk lateReport [(submitFirst, 12), (.close (⟨1⟩ : Uuid).str "operator" "stuck", 12),
    (.engine (.recover (⟨1⟩ : Uuid).str), 12), (submitFirst, 5)]

theorem honoured_head {events : List Served} (honoured : Along CloseHonoured events) {id : Uuid}
    (sending : (events.head?.bind sent).map OrderRequest.clientOrderId = some id) :
    events.tail.any (closing id) = false := by
  cases events with
  | nil => rfl
  | cons e earlier =>
      obtain ⟨request, here, rfl⟩ := Option.map_eq_some_iff.1 sending
      have open_ := honoured.1.notResent request here
      simp only [List.tail_cons, List.any_eq_false]
      exact fun e' member closed => open_ ⟨e', member, closed⟩

end NeverSent

open NeverSent in
theorem closeUndone :
    oneDesk.Reachable ⟨reopened, none⟩ ∧ Along ReportsSubmitted reopened.events ∧
      ¬ Along CloseHonoured reopened.events := by
  refine ⟨desk_reached (fun _ _ => rfl) _, by decide +kernel, fun honoured => ?_⟩
  have sending : (reopened.events.head?.bind sent).map OrderRequest.clientOrderId = some ⟨1⟩ := by
    decide +kernel
  have closed := honoured_head honoured sending
  revert closed
  decide +kernel

end AlgoTrader.Execution
