/-
# App.MemoryUse -- what becomes of the memory of the process

The engine counts the orders it closed as never sent; the cycle remembers the signals it ordered,
when it last ordered each symbol, and since when it waits.  Nearly every request of a cycle leaves
all of that as it is, and most of its programs write nothing but the count.

* `serve_memory` -- only a write changes the memory;
* `Framed` -- a property that every request keeps but a write of the memory and the reservation of an
  order, and that a write of the count keeps as well;
* `submit_sustains`, `submitFailed_sustains`, `decide_sustains` -- so the programs of a cycle sustain
  it, whatever the replies.
-/
import AlgoTrader.App.Trading
import AlgoTrader.Theory.Frames

namespace AlgoTrader.App

open AlgoTrader.Core Brokers Risk Execution Theory Process

set_option autoImplicit false

/-! ## Requests -/

/-- Requests that neither enter nor read the clock nor write the memory. -/
inductive Idle : Op → Prop
  | switch (op : SwitchOp) : Idle (.switch op)
  | pending : Idle (.store .pending)
  | get (id : String) : Idle (.store (.get id))
  | update (order : Order) : Idle (.store (.update order))
  | addFills (fills : List Fill) : Idle (.store (.addFills fills))
  | getOrder (id : String) : Idle (.broker (.getOrder id))
  | getFills (id : String) : Idle (.broker (.getFills id))
  | utcNow : Idle (.host .utcNow)
  | uuid4 : Idle (.host .uuid4)
  | readMemory : Idle (.host .readMemory)
  | onRecorded (order : Order) (fills : List Fill) : Idle (.host (.onRecorded order fills))
  | onHalt (reason : String) : Idle (.host (.onHalt reason))

/-- What the clock of the loop answers. -/
def clocked : Served → Option Timestamp
  | ⟨.host .clock, .ok now, _, _⟩ => some now
  | _ => none

/-- The requests that write the memory of the process. -/
def writesMemory : Op → Bool
  | .host (.writeMemory _) => true
  | _ => false

/-- What an order is reserved with: the first request of a submission that is taken up. -/
def handsOver : Op → Option (OrderRequest × RiskApproval)
  | .store op => op.reserves
  | _ => none

theorem Idle.writes {op : Op} (idle : Idle op) : writesMemory op = false := by cases idle <;> rfl

theorem Idle.hands {op : Op} (idle : Idle op) : handsOver op = none := by cases idle <;> rfl

theorem Idle.of_switchOnly {op : Op} (own : KillSwitch.SwitchOnly op) : Idle op := by
  cases own with
  | switch op => exact .switch op
  | uuid4 => exact .uuid4
  | utcNow => exact .utcNow

theorem idle_switch {α : Type} {p : Proc α} (issues : Issues KillSwitch.SwitchOnly p) : Issues Idle p :=
  issues_mono issues fun _ => Idle.of_switchOnly

theorem sync_idle (config : KillSwitch.Config) : Issues Idle (KillSwitch.syncExternalState config) :=
  idle_switch (KillSwitch.syncExternalState_switchOnly config)

theorem record_idle (hooks : Hooks) (order : Order) : Issues Idle (ExecutionEngine.record hooks order) := by
  refine issues_bind (issues_call (.getFills _)) fun fills => ?_
  refine issues_bind (issues_when fun _ => issues_call (.addFills _)) fun _ => ?_
  refine issues_bind (issues_when fun _ => issues_call (.update _)) fun _ => ?_
  exact issues_bind (issues_when fun _ => issues_call (.onRecorded _ _)) fun _ => issues_pure _

theorem recover_idle (hooks : Hooks) (id : String) : Issues Idle (ExecutionEngine.recover hooks id) := by
  refine issues_bind (issues_call (.getOrder id)) fun found => ?_
  cases found with
  | none => exact issues_call (.get id)
  | some existing => exact issues_bind (record_idle hooks existing) fun _ => issues_pure _

theorem resolvePending_idle (config : CycleConfig) : Issues Idle (TradingCycle.resolvePending config) := by
  refine issues_bind (issues_call .pending) fun pending => ?_
  split
  · exact issues_pure _
  · refine issues_bind (issues_bind (issues_call .pending) fun orders => ?_) fun _ => issues_call .pending
    exact issues_bind (issues_each (fun order => recover_idle config.hooks _) orders) fun _ => issues_pure _

theorem halt_idle (config : CycleConfig) (reason : String) (signal : Option Signal)
    (decision : Option RiskApproval) : Issues Idle (TradingCycle.halt config reason signal decision) := by
  refine issues_bind (idle_switch KillSwitch.state_switchOnly) fun current => ?_
  refine issues_bind (issues_when fun _ => ?_) fun _ => issues_pure _
  refine issues_bind (idle_switch (KillSwitch.trip_switchOnly _ _)) fun _ => issues_when fun _ => ?_
  exact issues_bind (issues_attempt (issues_call (.onHalt reason))) fun _ => issues_pure _

/-! ## What a request does to the memory -/

section Serve

variable {env : Environment} {ρ : Type}

theorem moves_memory {before after : World} (moved : env.moves before after) :
    after.memory = before.memory := by
  obtain ⟨switch, _, rfl⟩ := moved
  rfl

/-- What other components leave of the memory, only a write can change. -/
theorem serve_memory (part : Memory → ρ)
    (own : ∀ before after, env.elsewhere before after → part after.memory = part before.memory)
    {op : Op} {before after : World} {reply : Except Exc op.Reply} (served : Serve env op before reply after)
    (other : writesMemory op = false) : part after.memory = part before.memory := by
  cases op with
  | store call =>
      obtain ⟨store, _, moved⟩ := served
      have kept := moves_memory moved
      exact congrArg part kept
  | audit call =>
      obtain ⟨audit, _, moved⟩ := served
      have kept := moves_memory moved
      exact congrArg part kept
  | broker call => exact own _ _ served
  | switch call =>
      obtain ⟨switch, _, rfl⟩ := served
      rfl
  | host call =>
      cases call with
      | utcNow => exact congrArg part (moves_memory served.2)
      | clock => exact congrArg part (moves_memory served.2)
      | uuid4 => exact congrArg part (moves_memory served.2)
      | readMemory => rw [served.2]
      | writeMemory memory => cases other
      | strategy state => exact congrArg part (moves_memory served)
      | onRecorded order fills => exact congrArg part (moves_memory served)
      | riskInputs signal state context => exact own _ _ served
      | observe state => exact own _ _ served
      | onOrderClosed order failure => exact own _ _ served
      | onHalt reason => exact own _ _ served

end Serve

/-! ## Properties that only orders can break -/

/-- A write of the memory as it was found, but for the count of orders never sent. -/
def recount (memory : Memory) (count : Nat) : Op :=
  .host (.writeMemory { memory with consecutiveNeverSent := count })

/-- Every request keeps the property but a write of the memory and the reservation of an order, and
so does a write of the count. -/
structure Framed (env : Environment) (C : Contract effects Exc World) (inv : Instant → Prop) : Prop where
  serve : C.serve = Serve env
  call : ∀ op, writesMemory op = false → handsOver op = none → Sustains C.logic inv (ask op)
  count : ∀ (m : Instant) (count : Nat), inv m →
    wp C.logic (fun _ => inv) (ask (recount m.world.memory count)) m

namespace Framed

variable {env : Environment} {C : Contract effects Exc World} {inv : Instant → Prop}

theorem idle (framed : Framed env C inv) {α : Type} {p : Proc α} (issues : Issues Idle p) :
    Sustains C.logic inv p :=
  sustains_issues (fun op idle => framed.call op idle.writes idle.hands) issues

/-- What is read of the memory is what is there. -/
theorem read (framed : Framed env C inv) {α : Type} {f : Memory → Proc α} {m : Instant}
    {post : Except Exc α → Instant → Prop} (held : inv m)
    (rest : ∀ m' : Instant, m'.world = m.world → inv m' → wp C.logic post (f m.world.memory) m') :
    wp C.logic post (ask (.host .readMemory) >>= f) m := by
  obtain ⟨guarded, replied⟩ := wp_call.1 (framed.call (.host .readMemory) rfl rfl m held)
  refine wp_bind.2 (wp_call.2 ⟨guarded, fun reply after served assumed => ?_⟩)
  obtain ⟨kept, held'⟩ := replied reply after served assumed
  rw [framed.serve] at served
  obtain ⟨rfl, rfl⟩ := served
  exact ⟨kept, rest _ rfl held'⟩

theorem modifyCount (framed : Framed env C inv) (change : Nat → Nat) :
    Sustains C.logic inv (modifyMemory fun memory =>
      { memory with consecutiveNeverSent := change memory.consecutiveNeverSent }) :=
  fun _ held => framed.read held fun m' here held' => here ▸ framed.count m' _ held'

variable (framed : Framed env C inv) (hooks : Hooks)

include framed

theorem closeNeverSent_sustains (order : Order) (failure : Exc) :
    Sustains C.logic inv (ExecutionEngine.closeNeverSent hooks order failure) := by
  refine (framed.call _ rfl rfl).bind fun closedAt => (framed.call _ rfl rfl).bind fun closed => ?_
  split
  · exact sustains_raise _
  · refine (framed.modifyCount (· + 1)).bind fun _ => sustains_when ?_
    exact (framed.call _ rfl rfl).attempt.discard

theorem send_sustains (request : OrderRequest) (approval : RiskApproval) :
    Sustains C.logic inv (ExecutionEngine.send hooks request approval) := by
  refine (framed.call _ rfl rfl).attempt.bind fun outcome => ?_
  cases outcome with
  | error failure =>
      dsimp only [ExecutionEngine.submissionFailed]
      split
      · exact (framed.call _ rfl rfl).bind fun _ => sustains_raise _
      · exact sustains_raise _
  | ok result => exact framed.idle (record_idle hooks result)

theorem lookupThenSend_sustains (request : OrderRequest) (approval : RiskApproval) (persisted : Order)
    (created : Bool) :
    Sustains C.logic inv (ExecutionEngine.lookupThenSend hooks request approval persisted created) := by
  refine (framed.call _ rfl rfl).attempt.bind fun outcome => ?_
  cases outcome with
  | error failure =>
      exact (sustains_when (framed.closeNeverSent_sustains hooks persisted failure)).bind fun _ => sustains_raise _
  | ok existing =>
      refine (framed.modifyCount fun _ => 0).bind fun _ => ?_
      cases existing with
      | some order => exact framed.idle (record_idle hooks order)
      | none => exact framed.send_sustains hooks request approval

/-- A submission keeps the property where the reservation of its order does. -/
theorem submit_sustains (request : OrderRequest) (approval : RiskApproval) {m : Instant} (held : inv m)
    (reserved : wp C.logic (fun _ => inv) (ask (.store (.reserveWithCreated request approval))) m) :
    wp C.logic (fun _ => inv) (ExecutionEngine.submit hooks request approval) m := by
  unfold ExecutionEngine.submit
  split
  · exact held
  split
  · exact held
  refine Sustains.after reserved ?_
  rintro ⟨persisted, created⟩
  dsimp only
  split
  · exact framed.lookupThenSend_sustains hooks request approval persisted created
  · exact sustains_pure _

omit hooks

variable (config : CycleConfig)

theorem halt_sustains (reason : String) (signal : Option Signal) (decision : Option RiskApproval) :
    Sustains C.logic inv (TradingCycle.halt config reason signal decision) :=
  framed.idle (halt_idle config reason signal decision)

theorem submitFailed_sustains (exc : Exc) (signal : Signal) (decision : RiskApproval) :
    Sustains C.logic inv (TradingCycle.submitFailed config exc signal decision) := by
  unfold TradingCycle.submitFailed
  split
  · exact framed.halt_sustains config _ _ _
  · refine fun m held => framed.read held fun m' here held' => ?_
    split
    · refine Sustains.after (here ▸ framed.count m' 0 held') fun _ => framed.halt_sustains config _ _ _
    · exact held'

theorem auditFailed_sustains (exc : Exc) (reason : String) (signal : Signal) :
    Sustains C.logic inv (TradingCycle.auditFailed config exc reason signal) := by
  unfold TradingCycle.auditFailed
  split
  · exact framed.halt_sustains config _ _ _
  · exact sustains_raise _

theorem judge_sustains (signal : Signal) (inputs : RiskInputs) :
    Sustains C.logic inv (TradingCycle.judge config signal inputs) := by
  refine (framed.idle (idle_switch KillSwitch.state_switchOnly)).bind fun current => ?_
  exact (framed.call _ rfl rfl).bind fun approvalId => (framed.call _ rfl rfl).bind fun _ => sustains_pure _

theorem decide_sustains (signal : Signal) (state : MarketState) :
    Sustains C.logic inv (TradingCycle.decide_ config signal state) := by
  refine (framed.idle (idle_switch KillSwitch.state_switchOnly)).bind fun current => ?_
  refine (framed.call _ rfl rfl).bind fun memory => (framed.call _ rfl rfl).attempt.bind fun inputs => ?_
  cases inputs with
  | error exc =>
      exact (framed.call _ rfl rfl).bind fun approvalId => (framed.call _ rfl rfl).bind fun _ => sustains_pure _
  | ok inputs => exact framed.judge_sustains config signal inputs

theorem sampleEquity_sustains (state : MarketState) :
    Sustains C.logic inv (TradingCycle.sampleEquity config state) :=
  sustains_when (framed.call _ rfl rfl).attempt.discard

end Framed

end AlgoTrader.App
