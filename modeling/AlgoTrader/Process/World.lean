/-
# Process.World -- what the world may do with a request

The stores do exactly what their methods say, or are unavailable: then the reply
is an exception and nothing was written, or -- where the environment is `lossy` --
everything was and only the acknowledgement got lost.  The broker may answer
anything.  While a component awaits, other components run (`elsewhere`), and the
kill switch can be moved from another thread at any time (`switchMoves`).

* `Serve` -- the service a system of this repository runs against;
* `Transaction.applied` -- what an ordinary reply of a store means;
* `Venue` -- the state of the venue, as the assumptions on its answers name it.
-/
import AlgoTrader.Process.Effects

namespace AlgoTrader.Process

open AlgoTrader.Core Brokers Risk Execution Theory

set_option autoImplicit false

/-- The switch's memory, what its file would read back, and its journal. -/
structure SwitchWorld where
  memory : SwitchMemory
  file : Option KillSwitchState
  journal : List SwitchEvent

/-- The journal saves each event once, by its id, so that a retry never duplicates. -/
def SwitchWorld.record (w : SwitchWorld) (events : List SwitchEvent) : SwitchWorld :=
  { w with journal :=
      w.journal ++ events.filter fun event => event.eventId ∉ w.journal.map SwitchEvent.eventId }

/-- What the venue holds, by the exact id it was given. -/
structure Venue where
  orders : String → Option Order
  fills : String → List Fill
  /-- How many create requests the venue has accepted under an id. -/
  accepted : String → Nat

structure World where
  store : OrderStore
  audit : AuditStore
  switch : SwitchWorld
  memory : Memory
  venue : Venue

/-- What the environment of a component may do. -/
structure Environment where
  /-- A write may take effect although an exception is raised. -/
  lossy : Bool
  switchMoves : SwitchWorld → SwitchWorld → Prop
  elsewhere : World → World → Prop

/-- A call on a store: done as written, refused, or done but not acknowledged. -/
def Transaction {σ ρ : Type} (lossy : Bool) (apply : Timestamp → Except Exc ρ × σ) (outage : Exc)
    (before : σ) (reply : Except Exc ρ) (after : σ) : Prop :=
  (∃ now, apply now = (reply, after)) ∨
    reply = .error outage ∧ (after = before ∨ lossy = true ∧ ∃ now, after = (apply now).2)

/-- An ordinary reply means that the call was done as written. -/
theorem Transaction.applied {σ ρ : Type} {lossy : Bool}
    {apply : Timestamp → Except Exc ρ × σ} {outage : Exc} {before after : σ} {value : ρ}
    (served : Transaction lossy apply outage before (.ok value) after) :
    ∃ now, apply now = (.ok value, after) := by
  rcases served with done | ⟨refused, _⟩
  · exact done
  · cases refused

/-- Whatever the reply, the store is as it was or as the call leaves it. -/
theorem Transaction.written {σ ρ : Type} {lossy : Bool}
    {apply : Timestamp → Except Exc ρ × σ} {outage : Exc} {before after : σ} {reply : Except Exc ρ}
    (served : Transaction lossy apply outage before reply after) :
    after = before ∨ ∃ now value, apply now = (value, after) := by
  rcases served with ⟨now, done⟩ | ⟨_, same | ⟨_, now, rfl⟩⟩
  · exact .inr ⟨now, reply, done⟩
  · exact .inl same
  · exact .inr ⟨now, _, rfl⟩

namespace StoreOp

def apply (now : Timestamp) (store : OrderStore) : (op : StoreOp) → Except Exc op.Reply × OrderStore
  | .reserveWithCreated request approval => store.reserveWithCreated now request approval
  | .update order => store.update order
  | .addFills fills => store.addFills fills
  | .get clientOrderId => (store.get now clientOrderId, store)
  | .pending => (store.pending now, store)
  | .closeUnreceived clientOrderId eventType payload at_ =>
      store.closeUnreceived clientOrderId eventType payload at_

/-- What an unavailable store raises. -/
def outage (store : OrderStore) (op : StoreOp) : Exc :=
  .persistenceUnavailable <|
    match store, op with
    | .sqlAlchemy _, .reserveWithCreated .. => "database unavailable before order submission"
    | .sqlAlchemy _, .update .. => "database unavailable while updating order"
    | .sqlAlchemy _, .addFills .. => "database unavailable while recording fills"
    | .sqlAlchemy _, .get .. => "database unavailable while reading order"
    | .sqlAlchemy _, .pending => "database unavailable while reading pending orders"
    | .sqlAlchemy _, .closeUnreceived .. => "database unavailable while closing order"
    | .inMemory _, .reserveWithCreated .. => "order pre-submit persistence is unavailable"
    | .inMemory _, .update .. => "order update persistence is unavailable"
    | .inMemory _, .addFills .. => "fill persistence is unavailable"
    | .inMemory _, .closeUnreceived .. => "order close persistence is unavailable"
    | .inMemory _, .get .. | .inMemory _, .pending => "order persistence is unavailable"

end StoreOp

namespace AuditOp

def apply (store : AuditStore) : AuditOp → Except Exc Unit × AuditStore
  | .recordSignal signal => store.recordSignal signal
  | .recordRiskDecision decision => store.recordRiskDecision decision

def outage (store : AuditStore) (op : AuditOp) : Exc :=
  .persistenceUnavailable <|
    match store, op with
    | .sqlAlchemy .., .recordSignal _ => "database unavailable while recording signal"
    | .sqlAlchemy .., .recordRiskDecision _ => "database unavailable while recording risk decision"
    | .inMemory .., .recordSignal _ => "signal audit record is unavailable"
    | .inMemory .., .recordRiskDecision _ => "risk decision audit record is unavailable"

end AuditOp

/-! ## What a call does to the book -/

/-- The order a call writes over a saved one. -/
def StoreOp.updates : StoreOp → Option Order
  | .update order => some order
  | _ => none

/-- What a call saves as a new order. -/
def StoreOp.reserves : StoreOp → Option (OrderRequest × RiskApproval)
  | .reserveWithCreated request approval => some (request, approval)
  | _ => none

/-- Everything a call on the order store can do to what is on record. -/
inductive StoreOp.Change (store : OrderStore) : StoreOp → Book → Prop
  | none (op : StoreOp) : Change store op store.book
  | reserved (request : OrderRequest) (approval : RiskApproval)
      (unused : store.book.entry request.clientOrderId = .none) :
      Change store (.reserveWithCreated request approval)
        (store.book.set request.clientOrderId (.reserved request approval))
  | updated (order : Order) (entry : Entry) (written : entry.status = order.status)
      (rest : store.KeepsRequests ∧
          (∃ old, store.book.entry order.request.clientOrderId = some old ∧
            entry = { old with status := order.status }) ∨
        ¬ store.KeepsRequests ∧ entry.signalId = order.request.signalId ∧
          entry.strategyVersion = order.request.strategyVersion ∧
          ∀ old, store.book.entry order.request.clientOrderId = some old →
            entry.approvalId = old.approvalId) :
      Change store (.update order) (store.book.set order.request.clientOrderId entry)
  | filled (fills : List Fill) (recorded : List RecordedFill) :
      Change store (.addFills fills) { store.book with fills := recorded }
  | closed (text eventType : String) (payload extra : Payload) (at_ : Timestamp) (id : Uuid)
      (old : Entry) (named : store.Names text id) (row : store.book.entry id = some old)
      (open_ : old.status.unresolved = true) :
      Change store (.closeUnreceived text eventType payload at_)
        (store.book.close id old (eventType, payload ++ extra))

theorem StoreOp.change_of_apply {op : StoreOp} {now : Timestamp} {store after : OrderStore}
    {reply : Except Exc op.Reply} (done : op.apply now store = (reply, after)) :
    op.Change store after.book := by
  cases op with
  | reserveWithCreated request approval =>
      rcases OrderStore.reserve_cases done with ⟨rfl, _⟩ | ⟨unused, set, _⟩
      · exact .none _
      · exact set ▸ .reserved request approval unused
  | update order =>
      rcases OrderStore.update_cases done with rfl | ⟨entry, set, written, rest⟩
      · exact .none _
      · exact set ▸ .updated order entry written rest
  | addFills fills =>
      rcases OrderStore.addFills_cases done with ⟨rfl, _⟩ | rest
      · exact .none _
      · exact rest ▸ .filled fills _
  | get clientOrderId =>
      cases done
      exact .none _
  | pending =>
      cases done
      exact .none _
  | closeUnreceived text eventType payload at_ =>
      rcases OrderStore.close_cases done with ⟨rfl, _⟩ | ⟨id, old, extra, _, named, row, open_, set⟩
      · exact .none _
      · exact set ▸ .closed text eventType payload extra at_ id old named row open_

/-! ## The service -/

/-- Nothing but the switch may have moved. -/
def Environment.moves (env : Environment) (before after : World) : Prop :=
  ∃ switch, env.switchMoves before.switch switch ∧ after = { before with switch }

/-- The switch's own steps; only the file and the journal can fail. -/
def SwitchServe : (op : SwitchOp) → SwitchWorld → Except Exc op.Reply → SwitchWorld → Prop
  | .load, w, reply, w' => reply = .ok w.memory ∧ w' = w
  | .save memory, w, reply, w' => reply = .ok () ∧ w' = { w with memory }
  | .stageFile _, w, _, w' => w' = w
  | .replaceFile state, w, reply, w' =>
      (reply = .ok () ∧ w' = { w with file := some state }) ∨ ((∃ exc, reply = .error exc) ∧ w' = w)
  | .journal events, w, reply, w' =>
      (reply = .ok () ∧ w' = w.record events) ∨
        ((∃ exc, reply = .error exc) ∧ w' = w)
  | .environ, w, reply, w' => (∃ text, reply = .ok text) ∧ w' = w
  | .flagExists, w, reply, w' => (∃ flag, reply = .ok flag) ∧ w' = w
  | .readFlag, w, _, w' => w' = w

/-- Clocks and identifiers are never refused; the strategy and the hooks may raise
anything, and an awaited one lets other components run. -/
def HostServe (env : Environment) :
    (op : HostOp) → World → Except Exc op.Reply → World → Prop
  | .utcNow, w, reply, w' => (∃ now, reply = .ok now) ∧ env.moves w w'
  | .clock, w, reply, w' => (∃ now, reply = .ok now) ∧ env.moves w w'
  | .uuid4, w, reply, w' => (∃ id, reply = .ok id) ∧ env.moves w w'
  | .readMemory, w, reply, w' => reply = .ok w.memory ∧ w' = w
  | .writeMemory memory, w, reply, w' => reply = .ok () ∧ w' = { w with memory }
  | .strategy _, w, _, w' => env.moves w w'
  | .onRecorded .., w, _, w' => env.moves w w'
  | .riskInputs .., w, _, w' => env.elsewhere w w'
  | .observe _, w, _, w' => env.elsewhere w w'
  | .onOrderClosed .., w, _, w' => env.elsewhere w w'
  | .onHalt _, w, _, w' => env.elsewhere w w'

def Serve (env : Environment) : Service effects Exc World
  | .store op, w, reply, w' =>
      ∃ store, Transaction env.lossy (op.apply · w.store) (op.outage w.store) w.store reply store ∧
        env.moves { w with store } w'
  | .audit op, w, reply, w' =>
      ∃ audit, Transaction env.lossy (fun _ => op.apply w.audit) (op.outage w.audit) w.audit reply
          audit ∧ env.moves { w with audit } w'
  | .broker _, w, _, w' => env.elsewhere w w'
  | .switch op, w, reply, w' => ∃ switch, SwitchServe op w.switch reply switch ∧
      w' = { w with switch }
  | .host op, w, reply, w' => HostServe env op w reply w'

abbrev Served := Event effects Exc World

abbrev Instant := Moment effects Exc World

abbrev Runtime := System effects Exc World

/-! ## Reading an event -/

/-- The id the venue is asked about. -/
def questioned : Served → Option String
  | ⟨.broker (.getOrder id), _, _, _⟩ => some id
  | ⟨.broker (.getFills id), _, _, _⟩ => some id
  | _ => none

/-- The venue's answer about an order. -/
def answered : Served → Option (String × Option Order)
  | ⟨.broker (.getOrder id), .ok found, _, _⟩ => some (id, found)
  | _ => none

/-- The fills the venue returned, and the id it was asked about. -/
def returned : Served → Option (String × List Fill)
  | ⟨.broker (.getFills id), .ok fills, _, _⟩ => some (id, fills)
  | _ => none

/-- The request of a create that was sent. -/
def sent : Served → Option OrderRequest
  | ⟨.broker (.submitOrder request _), _, _, _⟩ => some request
  | _ => none

/-- The order the exception of a failed submission carries. -/
def carried : Served → Option Order
  | ⟨.broker (.submitOrder _ _), .error failure, _, _⟩ => failure.order
  | _ => none

/-- The order a venue reports: found by a lookup, or returned or carried by a create. -/
def reported : Served → Option Order
  | ⟨.broker (.getOrder _), .ok found, _, _⟩ => found
  | ⟨.broker (.submitOrder _ _), .ok order, _, _⟩ => some order
  | ⟨.broker (.submitOrder _ _), .error failure, _, _⟩ => failure.order
  | _ => none

/-- The signal the strategy proposes. -/
def proposed : Served → Option Signal
  | ⟨.host (.strategy _), .ok signal, _, _⟩ => signal
  | _ => none

/-- A fresh identifier. -/
def minted : Served → Option Uuid
  | ⟨.host .uuid4, .ok id, _, _⟩ => some id
  | _ => none

/-- The order an event writes to the store. -/
def written : Served → Option Order
  | ⟨.store (.update order), _, _, _⟩ => some order
  | _ => none

/-! ## Everything else is unchanged -/

/-- No other component writes orders, audit records or this process's memory. -/
def Environment.Serialized (env : Environment) : Prop :=
  ∀ before after, env.elsewhere before after →
    after.store = before.store ∧ after.audit = before.audit ∧ after.memory = before.memory

/-- The requests that can write orders. -/
def Op.onStore : Op → Bool
  | .store _ => true
  | _ => false

/-- The requests that can write audit records. -/
def Op.onAudit : Op → Bool
  | .audit _ => true
  | _ => false

section Frame

variable {env : Environment} {before after : World}

theorem Environment.moves_kept (moved : env.moves before after) :
    after.store = before.store ∧ after.audit = before.audit := by
  obtain ⟨switch, _, rfl⟩ := moved
  exact ⟨rfl, rfl⟩

theorem HostServe.kept (serialized : env.Serialized) {op : HostOp} {reply : Except Exc op.Reply}
    (served : HostServe env op before reply after) :
    after.store = before.store ∧ after.audit = before.audit := by
  have awaited : env.elsewhere before after →
      after.store = before.store ∧ after.audit = before.audit := by
    intro moved
    obtain ⟨store, audit, _⟩ := serialized _ _ moved
    exact ⟨store, audit⟩
  cases op with
  | utcNow => exact Environment.moves_kept served.2
  | clock => exact Environment.moves_kept served.2
  | uuid4 => exact Environment.moves_kept served.2
  | readMemory => rw [served.2]; exact ⟨rfl, rfl⟩
  | writeMemory memory => rw [served.2]; exact ⟨rfl, rfl⟩
  | strategy state => exact Environment.moves_kept served
  | onRecorded order fills => exact Environment.moves_kept served
  | riskInputs signal state context => exact awaited served
  | observe state => exact awaited served
  | onOrderClosed order failure => exact awaited served
  | onHalt reason => exact awaited served

variable {op : Op} {reply : Except Exc op.Reply}

/-- Only a call on the order store writes orders. -/
theorem Serve.store_kept (serialized : env.Serialized) (served : Serve env op before reply after)
    (other : op.onStore = false) : after.store = before.store := by
  cases op with
  | store call => cases other
  | audit call =>
      obtain ⟨audit, _, moved⟩ := served
      exact (Environment.moves_kept moved).1
  | broker call => exact (serialized _ _ served).1
  | switch call =>
      obtain ⟨switch, _, rfl⟩ := served
      rfl
  | host call => exact (HostServe.kept serialized served).1

/-- What a call on the order store leaves. -/
theorem Serve.store_call {call : StoreOp} {reply : Except Exc call.Reply}
    (served : Serve env (.store call) before reply after) :
    Transaction env.lossy (call.apply · before.store) (call.outage before.store) before.store reply
      after.store := by
  obtain ⟨store, done, switch, _, rfl⟩ := served
  exact done

/-- A call on the order store, whatever its reply, does to the book what it can do. -/
theorem Serve.change {call : StoreOp} {reply : Except Exc call.Reply}
    (served : Serve env (.store call) before reply after) :
    call.Change before.store after.store.book := by
  rcases served.store_call.written with same | ⟨now, value, done⟩
  · exact same ▸ .none call
  · exact StoreOp.change_of_apply done

/-- Only a call on the audit store writes audit records. -/
theorem Serve.audit_kept (serialized : env.Serialized) (served : Serve env op before reply after)
    (other : op.onAudit = false) : after.audit = before.audit := by
  cases op with
  | store call =>
      obtain ⟨store, _, moved⟩ := served
      exact (Environment.moves_kept moved).2
  | audit call => cases other
  | broker call => exact (serialized _ _ served).2.1
  | switch call =>
      obtain ⟨switch, _, rfl⟩ := served
      rfl
  | host call => exact (HostServe.kept serialized served).2

/-- What a call on the audit store leaves. -/
theorem Serve.audit_call {call : AuditOp} {reply : Except Exc Unit}
    (served : Serve env (.audit call) before reply after) :
    Transaction env.lossy (fun _ => call.apply before.audit) (call.outage before.audit) before.audit
      reply after.audit := by
  obtain ⟨audit, done, switch, _, rfl⟩ := served
  exact done

/-- Nothing that was recorded is lost. -/
theorem Serve.audit_extends (serialized : env.Serialized)
    (served : Serve env op before reply after) : before.audit.Extends after.audit := by
  by_cases onAudit : op.onAudit = true
  · cases op with
    | audit call =>
        rcases served.audit_call.written with same | ⟨_, _, done⟩
        · rw [same]
          exact .refl _
        · have left : (call.apply before.audit).2 = after.audit := congrArg Prod.snd done
          rw [← left]
          cases call with
          | recordSignal signal => exact before.audit.recordSignal_extends signal
          | recordRiskDecision made => exact before.audit.recordRiskDecision_extends made
    | _ => cases onAudit
  · rw [served.audit_kept serialized (Bool.eq_false_iff.2 onAudit)]
    exact .refl _

/-- A store stays the kind of store it is. -/
theorem StoreOp.keepsRequests_apply {call : StoreOp} {now : Timestamp} {store after : OrderStore}
    {reply : Except Exc call.Reply} (done : call.apply now store = (reply, after)) :
    after.KeepsRequests ↔ store.KeepsRequests := by
  have left := congrArg Prod.snd done
  subst left
  cases store <;> cases call <;> exact Iff.rfl

theorem Serve.keepsRequests (serialized : env.Serialized)
    (served : Serve env op before reply after) :
    after.store.KeepsRequests ↔ before.store.KeepsRequests := by
  by_cases onStore : op.onStore = true
  · cases op with
    | store call =>
        rcases served.store_call.written with same | ⟨now, value, done⟩
        · rw [same]
        · exact StoreOp.keepsRequests_apply done
    | _ => cases onStore
  · rw [served.store_kept serialized (Bool.eq_false_iff.2 onStore)]

end Frame

end AlgoTrader.Process
