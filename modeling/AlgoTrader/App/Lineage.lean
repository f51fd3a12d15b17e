/-
# App.Lineage -- every order links to its signal and its decision

The signal is recorded before it is judged, the decision before the order is saved,
and neither store ever replaces a record.  So whatever write fails, whatever is
repeated and however often the process restarts, an order on record has its signal
and an approval for that signal on record.

The tables keep the request of an order for good.  The dictionary replaces the
whole order by whatever the venue reports, and then the links are the venue's.

* `lineageKept` -- the links of every order, in every reachable state, as long as a
  store in memory is only told of orders that carry the links on record;
* `lineageLost` -- a recovered order, reported as an adapter rebuilds it.
-/
import AlgoTrader.App.Trading

namespace AlgoTrader.App

open AlgoTrader.Core Brokers Risk Execution Theory Process

set_option autoImplicit false

/-- What an order on record links to. -/
structure Linked (audit : AuditStore) (entry : Entry) : Prop where
  signal : audit.signalVersion entry.signalId = some entry.strategyVersion
  decision : ∃ approvalId, entry.approvalId = some approvalId ∧
    audit.decision approvalId = some (entry.signalId, true)

/-- A signal id determines the signal, and an approval id is new. -/
def Assured (e : Served) : Prop :=
  (∀ signal ∈ proposed e, ∀ version ∈ e.before.audit.signalVersion signal.signalId,
    version = signal.strategyVersion) ∧
  ∀ id ∈ minted e, e.before.audit.decision id = none

/-- An order agrees with the links on record, or the store keeps its own. -/
def Agrees (store : OrderStore) (order : Order) : Prop :=
  store.KeepsRequests ∨ ∃ entry ∈ store.book.entry order.request.clientOrderId,
    entry.signalId = order.request.signalId ∧
      entry.strategyVersion = order.request.strategyVersion

/-- The venue reports orders as they are on record. -/
def ReportsAgree (e : Served) : Prop := ∀ order ∈ reported e, Agrees e.before.store order

section Checks

instance (e : Served) : Decidable (Assured e) := by
  unfold Assured
  infer_instance

instance (store : OrderStore) (order : Order) : Decidable (Agrees store order) := by
  unfold Agrees
  infer_instance

instance (e : Served) : Decidable (ReportsAgree e) := by
  unfold ReportsAgree
  infer_instance

end Checks

theorem Linked.extends {before after : AuditStore} {entry : Entry} (linked : Linked before entry)
    (more : before.Extends after) : Linked after entry := by
  obtain ⟨approvalId, cited, made⟩ := linked.decision
  exact ⟨more.signals linked.signal, approvalId, cited, more.decisions made⟩

/-- Links do not depend on the status. -/
theorem Linked.status {audit : AuditStore} {entry : Entry} (linked : Linked audit entry)
    (status : OrderStatus) : Linked audit { entry with status } := ⟨linked.signal, linked.decision⟩

/-- An order that agreed still does, when the request changes no entry. -/
theorem Agrees.still {before after : OrderStore} {order : Order} (agrees : Agrees before order)
    (kind : after.KeepsRequests ↔ before.KeepsRequests) (entries : after.book.entry = before.book.entry) :
    Agrees after order := by
  rcases agrees with keeps | ⟨entry, row, own⟩
  · exact .inl (kind.2 keeps)
  · exact .inr ⟨entry, entries ▸ row, own⟩

namespace Lineage

/-- The links of every order. -/
def AllLinked (m : Instant) : Prop :=
  ∀ id entry, m.world.store.book.entry id = some entry → Linked m.world.audit entry

def contract (env : Environment) : Contract effects Exc World where
  serve := Serve env
  assume e _ := Assured e ∧ ReportsAgree e
  guard _ _ := True
  invariant := AllLinked

/-- The signal is on record, with its version. -/
def Recorded (audit : AuditStore) (signal : Signal) : Prop :=
  audit.signalVersion signal.signalId = some signal.strategyVersion

/-- What is known of the order at each stage of the engine. -/
def Known (world : World) : Stage → Prop
  | .ordering request approval =>
      world.audit.signalVersion request.signalId = some request.strategyVersion ∧
        world.audit.decision approval.approvalId = some (request.signalId, true)
  | .failed order | .answered order | .fetched order _ | .covered order _ =>
      Agrees world.store order
  | _ => True

/-- What is known of the signal at each point of a cycle. -/
def Sure (world : World) : CyclePoint → Prop
  | .engine pt => Known world pt.stage
  | .clear => True
  | .signalled signal => ∀ version ∈ world.audit.signalVersion signal.signalId,
      version = signal.strategyVersion
  | .recorded signal | .supplied signal _ | .judged signal _ | .unsupplied signal =>
      Recorded world.audit signal
  | .minted signal _ approvalId =>
      Recorded world.audit signal ∧ world.audit.decision approvalId = none
  | .decided signal decision =>
      Recorded world.audit signal ∧ decision.signalId = signal.signalId ∧
        world.audit.decision decision.approvalId = none

def means (pt : CyclePoint) (m : Instant) : Prop := AllLinked m ∧ Sure m.world pt

/-! ## Records and orders -/

section Steps

variable {env : Environment} {m : Instant} {op : Op} {reply : Except Exc op.Reply} {after : World}

/-- A request that writes no orders. -/
theorem AllLinked.still (serialized : env.Serialized) (lineage : AllLinked m)
    (served : Serve env op m.world reply after) (off : op.onStore = false) :
    AllLinked (m.push op reply after) := by
  intro id entry row
  rw [Moment.push_world, served.store_kept serialized off] at row
  exact Linked.extends (lineage id entry row) (served.audit_extends serialized)

/-- A call on the store, about an order whose links are known. -/
theorem AllLinked.write {call : StoreOp} {reply : Except Exc call.Reply} (serialized : env.Serialized)
    (lineage : AllLinked m) (served : Serve env (.store call) m.world reply after)
    (reserves : ∀ request approval, call.reserves = some (request, approval) →
      Known m.world (.ordering request approval))
    (agrees : ∀ order, call.updates = some order → Agrees m.world.store order) :
    AllLinked (m.push (.store call) reply after) := by
  have same := served.audit_kept serialized rfl
  have change := served.change
  have set_linked : ∀ {id entry}, Linked m.world.audit entry →
      after.store.book = m.world.store.book.set id entry →
        AllLinked (m.push (.store call) reply after) := by
    intro id entry linked set id' entry' row
    rw [Moment.push_world, set, Book.set_entry] at row
    rw [Moment.push_world, same]
    split at row
    · exact Option.some.inj row ▸ linked
    · exact lineage id' entry' row
  generalize left : after.store.book = book at change
  cases change with
  | none =>
      intro id entry row
      rw [Moment.push_world, left] at row
      rw [Moment.push_world, same]
      exact lineage id entry row
  | filled fills recorded =>
      intro id entry row
      rw [Moment.push_world, left] at row
      rw [Moment.push_world, same]
      exact lineage id entry row
  | reserved request approval unused =>
      obtain ⟨signal, decision⟩ := reserves request approval rfl
      exact set_linked ⟨signal, approval.approvalId, rfl, decision⟩ left
  | closed text eventType payload extra at_ id old named row open_ =>
      intro id' entry row'
      rw [Moment.push_world, left] at row'
      rw [Moment.push_world, same]
      have linked := (lineage id old row).status .canceled
      have entries : (m.world.store.book.close id old (eventType, payload ++ extra)).entry id' =
          (m.world.store.book.set id { old with status := .canceled }).entry id' := rfl
      rw [entries, Book.set_entry] at row'
      split at row'
      · exact Option.some.inj row' ▸ linked
      · exact lineage id' entry row'
  | updated order entry written rest =>
      refine set_linked ?_ left
      rcases rest with ⟨_, old, row, rfl⟩ | ⟨replaces, signalId, version, approvals⟩
      · exact (lineage _ old row).status order.status
      · rcases agrees order rfl with keeps | ⟨old, row, own, same_version⟩
        · exact absurd keeps replaces
        · obtain ⟨signal, approvalId, cited, made⟩ := lineage _ old row
          rw [own] at signal made
          rw [same_version] at signal
          refine ⟨?_, approvalId, (approvals old row).trans cited, ?_⟩
          · rw [signalId, version]
            exact signal
          · rw [signalId]
            exact made

theorem Known.still {stage : Stage} (serialized : env.Serialized) (known : Known m.world stage)
    (served : Serve env op m.world reply after) (off : op.onStore = false) : Known after stage := by
  have same := served.store_kept serialized off
  have more := served.audit_extends serialized
  cases stage with
  | ordering request approval => exact ⟨more.signals known.1, more.decisions known.2⟩
  | failed order =>
      simp only [Known, same] at known ⊢
      exact known
  | answered order =>
      simp only [Known, same] at known ⊢
      exact known
  | fetched order fills =>
      simp only [Known, same] at known ⊢
      exact known
  | covered order fills =>
      simp only [Known, same] at known ⊢
      exact known
  | _ => trivial

/-- A call that saves no order and writes over none. -/
theorem AllLinked.writeOther {call : StoreOp} {reply : Except Exc call.Reply}
    (serialized : env.Serialized) (lineage : AllLinked m)
    (served : Serve env (.store call) m.world reply after) (unsaved : call.reserves = none)
    (fresh : call.updates = none) : AllLinked (m.push (.store call) reply after) := by
  refine lineage.write serialized served (fun request approval saves => ?_) fun order writes => ?_
  · rw [unsaved] at saves
    cases saves
  · rw [fresh] at writes
    cases writes

theorem AllLinked.writeOrder {order : Order} {reply : Except Exc Unit}
    (serialized : env.Serialized) (lineage : AllLinked m)
    (served : Serve env (.store (.update order)) m.world reply after)
    (agrees : Agrees m.world.store order) :
    AllLinked (m.push (.store (.update order)) reply after) := by
  refine lineage.write serialized served (fun request approval saves => ?_) fun order' writes => ?_
  · cases saves
  · cases writes
    exact agrees

theorem entry_addFills {store : OrderStore} {fills : List Fill} {book : Book}
    (change : (StoreOp.addFills fills).Change store book) : book.entry = store.book.entry := by
  cases change <;> rfl

/-- A report, once the request that brought it is served. -/
theorem told (serialized : env.Serialized) (served : Serve env op m.world reply after)
    (off : op.onStore = false) (reports : ReportsAgree (m.event op reply after)) {order : Order}
    (report : reported (m.event op reply after) = some order) : Agrees after.store order := by
  rw [served.store_kept serialized off]
  exact reports order report

theorem Recorded.still {signal : Signal} (serialized : env.Serialized)
    (recorded : Recorded m.world.audit signal) (served : Serve env op m.world reply after) :
    Recorded after.audit signal :=
  (served.audit_extends serialized).signals recorded

/-- A new approval id is on no decision that was recorded. -/
theorem mint_sure {signal : Signal} {inputs : Option RiskInputs} {reply : Except Exc Uuid}
    (serialized : env.Serialized) (recorded : Recorded m.world.audit signal)
    (served : Serve env (.host .uuid4) m.world reply after)
    (unused : ∀ id ∈ minted (m.event (.host .uuid4) reply after), m.world.audit.decision id = none) :
    Sure after (afterMint signal inputs reply) := by
  cases reply with
  | error exc => trivial
  | ok approvalId =>
      refine ⟨Recorded.still serialized recorded served, ?_⟩
      rw [served.audit_kept serialized rfl]
      exact unused approvalId rfl

end Steps

/-! ## Every step keeps it -/

theorem engine_kept {env : Environment} (serialized : env.Serialized) {pt : EnginePoint} {op : Op}
    {next : Except Exc op.Reply → EnginePoint} (taken : Edge pt op next) {m : Instant}
    (lineage : AllLinked m) (known : Known m.world pt.stage) {reply : Except Exc op.Reply}
    {after : World} (served : Serve env op m.world reply after)
    (reports : ReportsAgree (m.event op reply after)) :
    AllLinked (m.push op reply after) ∧ Known after (next reply).stage := by
  cases taken with
  | reserve ids request approval own approved =>
      refine ⟨lineage.write serialized served ?_ fun order writes => (by cases writes), ?_⟩
      · intro request' approval' saves
        cases saves
        exact known
      · exact afterReserve_stage trivial fun _ _ _ _ => trivial
  | lookup ids request approval persisted created =>
      refine ⟨lineage.still serialized served rfl,
        afterLookup_stage trivial ?_ (fun _ => trivial) fun _ _ _ => trivial⟩
      rintro order rfl
      exact told serialized served rfl reports rfl
  | closeNeverSent ids order failure closedAt =>
      exact ⟨lineage.writeOther serialized served rfl rfl, trivial⟩
  | submitOrder ids request approval =>
      refine ⟨lineage.still serialized served rfl, afterSubmit_stage trivial ?_ ?_⟩
      · rintro order rfl
        exact told serialized served rfl reports rfl
      · rintro failure order rfl carries
        exact told serialized served rfl reports carries
  | saveFailed ids order => exact ⟨lineage.writeOrder serialized served known, trivial⟩
  | settle ids order fills enough => exact ⟨lineage.writeOrder serialized served known, trivial⟩
  | getFills ids order =>
      have agrees : Agrees after.store order := Known.still serialized known served rfl
      exact ⟨lineage.still serialized served rfl,
        afterFills_stage trivial (fun _ => agrees) fun _ _ => agrees⟩
  | addFills ids order fills =>
      have agrees : Agrees after.store order :=
        Agrees.still known (served.keepsRequests serialized) (entry_addFills served.change)
      exact ⟨lineage.writeOther serialized served rfl rfl, afterAddFills_stage trivial fun _ => agrees⟩
  | recover ids stage id asked =>
      refine ⟨lineage.still serialized served rfl, afterRecover_stage trivial ?_⟩
      rintro order rfl
      exact told serialized served rfl reports rfl
  | get ids stage id => exact ⟨lineage.writeOther serialized served rfl rfl, trivial⟩
  | pending ids stage =>
      refine ⟨lineage.writeOther serialized served rfl rfl, ?_⟩
      rw [afterPending_stage]
      trivial
  | quiet pt op quiet =>
      exact ⟨lineage.still serialized served quiet.offStore,
        known.still serialized served quiet.offStore⟩

theorem annotated {config : CycleConfig} {env : Environment} (serialized : env.Serialized) :
    Annotation (contract env) (CycleEdge config) means := by
  refine ⟨fun _ _ held => held.1, ?_⟩
  rintro pt op next edge m ⟨lineage, sure⟩
  refine ⟨trivial, fun reply after (served : Serve env op m.world reply after)
    ⟨assured, reports⟩ => ?_⟩
  cases edge with
  | engine pt op next taken => exact engine_kept serialized taken lineage sure served reports
  | switch pt op own =>
      have off : op.onStore = false := by cases own <;> rfl
      exact ⟨lineage.still serialized served off, trivial⟩
  | pending pt =>
      refine ⟨lineage.writeOther serialized served rfl rfl, ?_⟩
      unfold afterCyclePending
      split <;> trivial
  | clearQuiet op quiet => exact ⟨lineage.still serialized served quiet.offStore, trivial⟩
  | strategy state =>
      refine ⟨lineage.still serialized served rfl, ?_⟩
      have same := served.audit_kept serialized rfl
      cases reply with
      | error exc => trivial
      | ok proposal =>
          cases proposal with
          | none => trivial
          | some signal =>
              simp only [afterStrategy, Sure, Moment.push_world, same]
              exact assured.1 signal rfl
  | recordSignal signal =>
      refine ⟨lineage.still serialized served rfl, ?_⟩
      cases reply with
      | error exc => trivial
      | ok _ =>
          obtain ⟨_, done⟩ := served.audit_call.applied
          have left : (m.world.audit.recordSignal signal).2 = after.audit := congrArg Prod.snd done
          have version := (m.world.audit.recordSignal_cases signal).2 signal.signalId
          simp only [afterRecordSignal, Sure, Recorded, Moment.push_world]
          rw [← left, version, if_pos rfl]
          cases old : m.world.audit.signalVersion signal.signalId with
          | none => rfl
          | some before => rw [Option.getD_some, sure before old]
  | load signal =>
      exact ⟨lineage.still serialized served rfl, Recorded.still serialized sure served⟩
  | recordedQuiet signal op quiet =>
      exact ⟨lineage.still serialized served quiet.offStore, Recorded.still serialized sure served⟩
  | riskInputs signal state context =>
      refine ⟨lineage.still serialized served rfl, ?_⟩
      have recorded := Recorded.still serialized sure served
      unfold afterInputs
      split <;> exact recorded
  | readSwitch signal inputs =>
      refine ⟨lineage.still serialized served rfl, ?_⟩
      have recorded := Recorded.still serialized sure served
      unfold afterSwitch
      split
      · exact recorded
      · trivial
  | mint signal inputs =>
      exact ⟨lineage.still serialized served rfl, mint_sure serialized sure served assured.2⟩
  | mintRefusal signal =>
      exact ⟨lineage.still serialized served rfl, mint_sure serialized sure served assured.2⟩
  | stamp signal inputs approvalId =>
      refine ⟨lineage.still serialized served rfl, ?_⟩
      cases reply with
      | error exc => trivial
      | ok approvedAt =>
          refine ⟨Recorded.still serialized sure.1 served, ?_, ?_⟩
          · cases inputs with
            | none => rfl
            | some inputs => exact evaluate_signalId ..
          · have own : (decisionOf config signal inputs approvalId approvedAt).approvalId =
                approvalId := by
              cases inputs with
              | none => rfl
              | some inputs => exact evaluate_approvalId ..
            rw [own, Moment.push_world, served.audit_kept serialized rfl]
            exact sure.2
  | recordDecision signal decision =>
      refine ⟨lineage.still serialized served rfl, ?_⟩
      obtain ⟨recorded, own, unmade⟩ := sure
      cases reply with
      | error exc => trivial
      | ok _ =>
          obtain ⟨_, done⟩ := served.audit_call.applied
          have left : (m.world.audit.recordRiskDecision decision).2 = after.audit :=
            congrArg Prod.snd done
          have made := (m.world.audit.recordRiskDecision_cases decision).2 decision.approvalId
          rw [left, if_pos rfl, unmade, Option.getD_none] at made
          simp only [afterDecision]
          split
          · rename_i approved
            rw [own, approved] at made
            exact ⟨Recorded.still serialized recorded served, made⟩
          · trivial

end Lineage

open Lineage in
/-- **Every order links to its signal and to an approval of it**, in every reachable
state, as long as a store in memory is only told of orders that agree with it. -/
theorem lineageKept {env : Environment} {config : CycleConfig} {initial : World → Prop}
    (serialized : env.Serialized)
    (linked : ∀ world, initial world → ∀ id entry, world.store.book.entry id = some entry →
      Linked world.audit entry)
    {c : Config effects Exc World} (reached : (tradingSystem env config initial).Reachable c)
    (kept : Along (fun e _ => Assured e ∧ ReportsAgree e) c.moment.events) (id : Uuid)
    (entry : Entry) (row : c.moment.world.store.book.entry id = some entry) :
    Linked c.moment.world.audit entry := by
  have upheld := tradingSystem_upheld (C := contract env) rfl (annotated serialized) linked
    (fun m lineage => ⟨lineage, trivial⟩) ?_ reached kept
  · exact upheld.1 id entry row
  · rintro m world lineage ⟨store, audit, _⟩ id entry row
    rw [audit]
    exact lineage id entry (store ▸ row)

namespace Lineage

/-- A whole cycle over empty tables. -/
def finished : Instant := (cycleOnce (.sqlAlchemy .empty) (.sqlAlchemy .empty .empty) calm 40).2

end Lineage

open Lineage in
theorem lineageKept_calm :
    Linked finished.world.audit ⟨.open, buySignal.signalId, buySignal.strategyVersion, some ⟨0⟩⟩ := by
  have sound : calm.script.Sound (Serve oneAtATime) :=
    Cast.sound oneAtATime (fun _ => trivial) fun _ _ => ⟨rfl, rfl, rfl⟩
  have empty : ∀ world, world = emptyWorld (.sqlAlchemy .empty) (.sqlAlchemy .empty .empty) →
      ∀ id entry, world.store.book.entry id = some entry → Linked world.audit entry := by
    rintro world rfl id entry row
    cases row
  have kept : Along (fun e _ => Assured e ∧ ReportsAgree e) finished.events := by decide +kernel
  exact lineageKept oneAtATime_serialized empty (cycleOnce_reached sound _ _ 40) kept
    calmRequest.clientOrderId _ (by decide +kernel)

namespace Lineage

/-! ## An order the venue reports as its own -/

/-- The request as an adapter rebuilds it from the venue's record. -/
def rebuilt (request : OrderRequest) : OrderRequest :=
  { request with signalId := ⟨99⟩, strategyVersion := "provider-recovery" }

/-- The create times out, and the order is found at the venue afterwards. -/
def foundLater : Cast :=
  { calm with
    broker := fun
      | .getOrder _, m =>
          if m.events.any fun e => (sent e).isSome then
            .ok (some (reportOf (rebuilt calmRequest) .open ⟨0, decimal_zero⟩))
          else .ok none
      | .submitOrder request _, _ =>
          .error { kind := .provider, typeName := "SubmissionTimeoutError"
                   message := "submission timed out"
                   order := some (reportOf request .unknown ⟨0, decimal_zero⟩) }
      | .getFills _, _ => .ok [] }

/-- The loop over dictionaries. -/
def inMemoryLoop : Runtime :=
  tradingSystem oneAtATime plainConfig
    (· = emptyWorld (.inMemory .empty) (.inMemory .empty .empty))

/-- A cycle, and the recovery of its order by the next one. -/
def recovered : Instant :=
  inMemoryLoop.rehearse foundLater.script
    [(.cycle quietMarket, 60), (.cycle quietMarket, 7)]
    ⟨emptyWorld (.inMemory .empty) (.inMemory .empty .empty), []⟩

theorem recovered_reached : inMemoryLoop.Reachable ⟨recovered, none⟩ := by
  have sound : foundLater.script.Sound inMemoryLoop.serve :=
    Cast.sound oneAtATime (fun _ => trivial) fun _ _ => ⟨rfl, rfl, rfl⟩
  have opening : inMemoryLoop.initial (emptyWorld (.inMemory .empty) (.inMemory .empty .empty)) :=
    rfl
  unfold recovered
  exact System.rehearse_reachable sound _ (.init opening)

end Lineage

open Lineage in
theorem lineageLost :
    inMemoryLoop.Reachable ⟨recovered, none⟩ ∧ Along (fun e _ => Assured e) recovered.events ∧
      ∃ entry, recovered.world.store.book.entry calmRequest.clientOrderId = some entry ∧
        ¬ Linked recovered.world.audit entry := by
  refine ⟨recovered_reached, by decide +kernel,
    ⟨.open, ⟨99⟩, "provider-recovery", some ⟨0⟩⟩, by decide +kernel, fun linked => ?_⟩
  have unrecorded : recovered.world.audit.signalVersion ⟨99⟩ = none := by decide +kernel
  have signal := linked.signal
  rw [unrecorded] at signal
  cases signal

end AlgoTrader.App
