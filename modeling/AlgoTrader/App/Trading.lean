/-
# App.Trading -- the trading loop

One cycle reads the external kill-switch flags, resolves what the last cycles left
pending, takes the strategy's signal, records it, judges it, records the decision
and submits the order.  Every other way out of a cycle is an outcome that says why,
and the ones that must not repeat unattended trip the switch.

* `run_follows` -- a cycle follows an automaton (`CycleEdge`) around the one of the
  engine: no order is begun but for an approved decision on record, for a signal on
  record, after the store reported nothing unresolved;
* `tradingSystem_upheld` -- what is annotated for its points holds along every run
  of cycles, operator actions and restarts.
-/
import AlgoTrader.Execution.Engine
import AlgoTrader.Risk.KillSwitch

namespace AlgoTrader.App

open AlgoTrader.Core Brokers Risk Execution Theory Process

set_option autoImplicit false

inductive CycleStatus where
  | noSignal
  | refused
  | submitted
  | rejected
  | ambiguous
  | unresolved
  | brokerError
  | halted
  deriving DecidableEq, Repr

structure CycleOutcome where
  status : CycleStatus
  detail : String
  signal : Option Signal := none
  decision : Option RiskApproval := none
  order : Option Order := none

/-- What a `TradingCycle` is set up with.  `clientOrderId` is the deterministic id an
order request gets from its signal. -/
structure CycleConfig where
  hooks : Hooks
  killSwitch : KillSwitch.Config
  limits : RiskLimits
  pendingTimeout : Duration
  onHalt : Bool
  observe : Bool
  clientOrderId : Signal → Uuid

def neverSentHaltThreshold : Nat := 3

/-- `str` of a `timedelta`. -/
def durationText (d : Duration) : String :=
  let day : Int := 86400000000
  let days := d / day
  let clock := d % day
  let padded := fun (width : Nat) (n : Int) =>
    let digits := toString n
    String.ofList (List.replicate (width - digits.length) '0') ++ digits
  let plural := if days = 1 || days = -1 then "" else "s"
  let head := if days = 0 then "" else s!"{days} day{plural}, "
  let micros := clock % 1000000
  let fraction := if micros = 0 then "" else "." ++ padded 6 micros
  head ++ toString (clock / 3600000000) ++ ":" ++ padded 2 (clock / 60000000 % 60) ++ ":" ++
    padded 2 (clock / 1000000 % 60) ++ fraction

namespace TradingCycle

variable (config : CycleConfig)

/-- The alert goes out once, when the halt is new; it may fail. -/
def alertHalt (reason : String) : Proc Unit := do
  KillSwitch.trip config.killSwitch s!"trading cycle: {reason}"
  Prog.when config.onHalt (ask (.host (.onHalt reason))).attempt.discard

/-- `_halt`. -/
def halt (reason : String) (signal : Option Signal) (decision : Option RiskApproval) :
    Proc CycleOutcome := do
  let current ← KillSwitch.state
  Prog.when (current ≠ .halted) (alertHalt config reason)
  return { status := .halted, detail := reason, signal, decision }

/-- `_unresolved`: wait for the broker to confirm pending orders, but not indefinitely. -/
def unresolved (status : CycleStatus) (detail : String) : Proc CycleOutcome := do
  let now ← ask (.host .clock)
  let memory ← ask (.host .readMemory)
  let since := memory.unresolvedSince.getD now
  ask (.host (.writeMemory { memory with unresolvedSince := some since }))
  if config.pendingTimeout ≤ now - since then
    halt config s!"{detail} after {durationText config.pendingTimeout}; operator review required"
      none none
  else
    return { status, detail }

/-- `_sample_equity`. -/
def sampleEquity (state : MarketState) : Proc Unit :=
  Prog.when config.observe (ask (.host (.observe state))).attempt.discard

/-- Anything still unresolved is looked up at the broker, and then read again. -/
def resolvePending : Proc (List Order) := do
  let pending ← ask (.store .pending)
  if pending.isEmpty then return pending
  else do
    let _ ← ExecutionEngine.recoverPending config.hooks
    ask (.store .pending)

/-- The refusal that is recorded when the risk inputs cannot be assembled. -/
def inputsRefusal (signal : Signal) (approvalId : Uuid) (approvedAt : Timestamp) : RiskApproval where
  approvalId
  signalId := signal.signalId
  approved := false
  reason := "risk inputs could not be assembled"
  failedGate := some "risk_inputs"
  approvedAt
  correlationId := signal.correlationId

/-- Judge a signal on inputs whose kill-switch state is the loop's own. -/
def judge (signal : Signal) (inputs : RiskInputs) : Proc RiskApproval := do
  let current ← KillSwitch.state
  let approvalId ← ask (.host .uuid4)
  let approvedAt ← ask (.host .utcNow)
  return evaluate approvalId approvedAt signal { inputs with killSwitch := some current }
    config.limits

/-- `_decide`. -/
def decide_ (signal : Signal) (state : MarketState) : Proc RiskApproval := do
  let current ← KillSwitch.state
  let memory ← ask (.host .readMemory)
  let context : CycleContext :=
    { killSwitch := current, orderedSignalIds := memory.orderedSignalIds,
      lastOrderAt := memory.lastOrderAt.get? signal.symbol }
  match ← (ask (.host (.riskInputs signal state context))).attempt with
  | .error _ => do
      let approvalId ← ask (.host .uuid4)
      let approvedAt ← ask (.host .utcNow)
      return inputsRefusal signal approvalId approvedAt
  | .ok inputs => judge config signal inputs

def orderRequest (signal : Signal) : OrderRequest where
  signalId := signal.signalId
  strategyVersion := signal.strategyVersion
  symbol := signal.symbol
  side := signal.side
  orderType := .market
  quantity := signal.quantity
  limitPrice := none
  clientOrderId := config.clientOrderId signal
  correlationId := signal.correlationId
  priceValid := priceValid_market

/-- `_broker_failure`. -/
def brokerFailure (exc : Exc) (signal : Signal) (decision : RiskApproval) : CycleOutcome :=
  let failed : CycleOutcome :=
    { status := .brokerError, detail := s!"broker failure: {exc.typeName}"
      signal := some signal, decision := some decision }
  match exc.order with
  | some order =>
      if order.status = .unknown then
        { status := .ambiguous
          detail := "submission outcome unknown; the next loop queries client_order_id first"
          signal := some signal, decision := some decision, order := some order }
      else if order.status = .rejected then
        { status := .rejected, detail := "broker rejected the order"
          signal := some signal, decision := some decision, order := some order }
      else failed
  | none => failed

/-- A submission that raised: halt on a store failure, or on too many orders closed as
never sent in a row. -/
def submitFailed (exc : Exc) (signal : Signal) (decision : RiskApproval) : Proc CycleOutcome :=
  if exc.kind = .persistenceUnavailable then
    halt config "order could not be persisted; refusing to trade un-audited" (some signal)
      (some decision)
  else do
    let memory ← ask (.host .readMemory)
    if neverSentHaltThreshold ≤ memory.consecutiveNeverSent then do
      -- Counting starts over after the halt, so a re-arm gets a fresh allowance.
      ask (.host (.writeMemory { memory with consecutiveNeverSent := 0 }))
      halt config (s!"{memory.consecutiveNeverSent} orders in a row were closed as never sent " ++
        s!"because the order-status lookup kept failing (last failure: {exc.typeName}); " ++
        "operator review required") (some signal) (some decision)
    else return brokerFailure exc signal decision

/-- Submit the order of an approved decision. -/
def placeOrder (signal : Signal) (decision : RiskApproval) : Proc CycleOutcome := do
  let request := orderRequest config signal
  modifyMemory fun memory =>
    { memory with orderedSignalIds := memory.orderedSignalIds.insert signal.signalId }
  let now ← ask (.host .clock)
  modifyMemory fun memory =>
    { memory with lastOrderAt := memory.lastOrderAt.set signal.symbol now }
  match ← (ExecutionEngine.submit config.hooks request decision).attempt with
  | .error exc => submitFailed config exc signal decision
  | .ok order =>
      return { status := .submitted, detail := "order submitted", signal := some signal,
               decision := some decision, order := some order }

/-- A failed audit write halts trading; any other failure goes on. -/
def auditFailed (exc : Exc) (reason : String) (signal : Signal) : Proc CycleOutcome :=
  if exc.kind = .persistenceUnavailable then halt config reason (some signal) none
  else .raise exc

/-- Judge a recorded signal and act on the recorded decision. -/
def act (signal : Signal) (state : MarketState) : Proc CycleOutcome := do
  let decision ← decide_ config signal state
  match ← (ask (.audit (.recordRiskDecision decision))).attempt with
  | .error exc => auditFailed config exc "risk decision could not be recorded" signal
  | .ok _ =>
      if decision.approved then placeOrder config signal decision
      else return { status := .refused, detail := decision.reason, signal := some signal,
                    decision := some decision }

/-- Nothing is pending; ask the strategy. -/
def consult (state : MarketState) : Proc CycleOutcome := do
  modifyMemory fun memory => { memory with unresolvedSince := none }
  match ← ask (.host (.strategy state)) with
  | none => do
      sampleEquity config state
      return { status := .noSignal, detail := "strategy returned no signal" }
  | some signal => do
      match ← (ask (.audit (.recordSignal signal))).attempt with
      | .error exc => auditFailed config exc "signal could not be recorded" signal
      | .ok _ => act config signal state

def waitingFor (pending : List Order) : String :=
  s!"{pending.length} order(s) remain unresolved; no new entries until the broker confirms them"

/-- `_run`. -/
def run (state : MarketState) : Proc CycleOutcome := do
  let _ ← KillSwitch.syncExternalState config.killSwitch
  match ← (resolvePending config).attempt with
  | .error exc =>
      if exc.kind = .persistenceUnavailable then
        halt config "order store unavailable while resolving pending orders" none none
      else unresolved config .brokerError "pending orders could not be queried at the broker"
  | .ok pending =>
      if pending.isEmpty then consult config state
      else unresolved config .unresolved (waitingFor pending)

end TradingCycle

/-! ## The control flow -/

/-- How far a cycle has come. -/
inductive CyclePoint where
  /-- Outside of an entry, or in the hands of the engine. -/
  | engine (pt : EnginePoint)
  /-- The store reported nothing unresolved. -/
  | clear
  | signalled (signal : Signal)
  /-- The signal is on record. -/
  | recorded (signal : Signal)
  | supplied (signal : Signal) (inputs : RiskInputs)
  /-- The inputs carry the switch as the loop just read it. -/
  | judged (signal : Signal) (inputs : RiskInputs)
  | unsupplied (signal : Signal)
  /-- An approval of either kind gets its id before its time. -/
  | minted (signal : Signal) (inputs : Option RiskInputs) (approvalId : Uuid)
  | decided (signal : Signal) (decision : RiskApproval)

namespace CyclePoint

/-- Nothing of this cycle is under way. -/
abbrev rest : CyclePoint := .engine ⟨[], .idle⟩

end CyclePoint

section Replies

variable (config : CycleConfig)

def afterCyclePending (ids : List String) : Except Exc (List Order) → CyclePoint
  | .ok [] => .clear
  | .ok orders => .engine ⟨clientIds orders, .idle⟩
  | .error _ => .engine ⟨ids, .idle⟩

def afterStrategy : Except Exc (Option Signal) → CyclePoint
  | .ok (some signal) => .signalled signal
  | _ => .rest

def afterRecordSignal (signal : Signal) : Except Exc Unit → CyclePoint
  | .ok _ => .recorded signal
  | .error _ => .rest

def afterInputs (signal : Signal) : Except Exc RiskInputs → CyclePoint
  | .ok inputs => .supplied signal inputs
  | .error _ => .unsupplied signal

def afterSwitch (signal : Signal) (inputs : RiskInputs) : Except Exc SwitchMemory → CyclePoint
  | .ok memory => .judged signal { inputs with killSwitch := some memory.state }
  | .error _ => .rest

def afterMint (signal : Signal) (inputs : Option RiskInputs) : Except Exc Uuid → CyclePoint
  | .ok approvalId => .minted signal inputs approvalId
  | .error _ => .rest

/-- The decision an approval id and a time complete. -/
def decisionOf (signal : Signal) (inputs : Option RiskInputs) (approvalId : Uuid)
    (approvedAt : Timestamp) : RiskApproval :=
  match inputs with
  | some inputs => evaluate approvalId approvedAt signal inputs config.limits
  | none => TradingCycle.inputsRefusal signal approvalId approvedAt

def afterStamp (signal : Signal) (inputs : Option RiskInputs) (approvalId : Uuid) :
    Except Exc Timestamp → CyclePoint
  | .ok approvedAt => .decided signal (decisionOf config signal inputs approvalId approvedAt)
  | .error _ => .rest

def afterDecision (signal : Signal) (decision : RiskApproval) : Except Exc Unit → CyclePoint
  | .ok _ =>
      if decision.approved then
        .engine ⟨[], .ordering (TradingCycle.orderRequest config signal) decision⟩
      else .rest
  | .error _ => .rest

end Replies

inductive CycleEdge (config : CycleConfig) : Flow effects Exc CyclePoint
  | engine (pt : EnginePoint) (op : Op) (next : Except Exc op.Reply → EnginePoint)
      (taken : Edge pt op next) : CycleEdge config (.engine pt) op (fun reply => .engine (next reply))
  /-- The switch is asked for nothing while an order is in the hands of the engine. -/
  | switch (pt : EnginePoint) (op : Op) (own : KillSwitch.SwitchOnly op) :
      CycleEdge config (.engine pt) op (fun _ => .engine ⟨pt.asking, .idle⟩)
  | pending (pt : EnginePoint) :
      CycleEdge config (.engine pt) (.store .pending) (afterCyclePending pt.asking)
  | clearQuiet (op : Op) (quiet : Quiet op) : CycleEdge config .clear op (fun _ => .clear)
  | strategy (state : MarketState) :
      CycleEdge config .clear (.host (.strategy state)) afterStrategy
  | recordSignal (signal : Signal) :
      CycleEdge config (.signalled signal) (.audit (.recordSignal signal)) (afterRecordSignal signal)
  | load (signal : Signal) :
      CycleEdge config (.recorded signal) (.switch .load) (fun _ => .recorded signal)
  | recordedQuiet (signal : Signal) (op : Op) (quiet : Quiet op) :
      CycleEdge config (.recorded signal) op (fun _ => .recorded signal)
  | riskInputs (signal : Signal) (state : MarketState) (context : CycleContext) :
      CycleEdge config (.recorded signal) (.host (.riskInputs signal state context))
        (afterInputs signal)
  | readSwitch (signal : Signal) (inputs : RiskInputs) :
      CycleEdge config (.supplied signal inputs) (.switch .load) (afterSwitch signal inputs)
  | mint (signal : Signal) (inputs : RiskInputs) :
      CycleEdge config (.judged signal inputs) (.host .uuid4) (afterMint signal (some inputs))
  | mintRefusal (signal : Signal) :
      CycleEdge config (.unsupplied signal) (.host .uuid4) (afterMint signal none)
  | stamp (signal : Signal) (inputs : Option RiskInputs) (approvalId : Uuid) :
      CycleEdge config (.minted signal inputs approvalId) (.host .utcNow)
        (afterStamp config signal inputs approvalId)
  | recordDecision (signal : Signal) (decision : RiskApproval) :
      CycleEdge config (.decided signal decision) (.audit (.recordRiskDecision decision))
        (afterDecision config signal decision)

/-! ## A cycle follows it -/

namespace TradingCycle

abbrev cycleFlow (config : CycleConfig) : Logic effects Exc CyclePoint :=
  Logic.flow (CycleEdge config)

/-- The cycle is out of the entry it was at, if it was at one. -/
def Outside {α : Type} : Except Exc α → CyclePoint → Prop := fun _ pt => ∃ at_, pt = .engine at_

variable {config : CycleConfig} {ids : List String} {stage : Stage}

theorem outside_engine {α : Type} {p : Proc α} {post : Except Exc α → EnginePoint → Prop}
    {pt : EnginePoint} (follows : wp engineFlow post p pt) :
    wp (cycleFlow config) Outside p (.engine pt) :=
  wp_embed CyclePoint.engine (fun pt op next taken => CycleEdge.engine pt op next taken)
    (fun _ pt _ => ⟨pt, rfl⟩) follows

theorem outside_quiet {α : Type} {p : Proc α} {pt : EnginePoint} (issues : Issues Quiet p) :
    wp (cycleFlow config) Outside p (.engine pt) :=
  outside_engine (quiet_stays issues)

/-- A program goes on outside of an entry, from wherever it is there. -/
theorem outside_bind {α β : Type} {p : Proc α} {f : α → Proc β} {pt : CyclePoint}
    (first : wp (cycleFlow config) Outside p pt)
    (rest : ∀ value at_, wp (cycleFlow config) Outside (f value) (.engine at_)) :
    wp (cycleFlow config) Outside (p >>= f) pt :=
  Sustains.after first fun value _ ⟨at_, here⟩ => here ▸ rest value at_

theorem outside_pure {α : Type} (value : α) (pt : EnginePoint) :
    wp (cycleFlow config) Outside (pure value : Proc α) (.engine pt) := ⟨pt, rfl⟩

/-- The switch goes about its own business outside of an entry. -/
theorem outside_switch {α : Type} {p : Proc α} {pt : EnginePoint}
    (issues : Issues KillSwitch.SwitchOnly p) : wp (cycleFlow config) Outside p (.engine pt) := by
  refine wp_refine (fun _ pt => ∃ at_, pt = .engine at_) ?_ (fun _ _ _ _ out => out) ⟨pt, rfl⟩ issues
  rintro op s t k k' ⟨at_, rfl⟩ handled go
  exact ⟨_, .switch at_ op handled.1, fun reply => go reply () _ (handled.2 reply) ⟨_, rfl⟩⟩

theorem alert_quiet (reason : String) :
    Issues Quiet (Prog.when config.onHalt (ask (.host (.onHalt reason))).attempt.discard) :=
  issues_when fun _ => issues_bind (issues_attempt (issues_call (.onHalt reason))) fun _ =>
    issues_pure _

theorem halt_follows (reason : String) (signal : Option Signal) (decision : Option RiskApproval)
    (pt : EnginePoint) :
    wp (cycleFlow config) Outside (halt config reason signal decision) (.engine pt) := by
  refine outside_bind (outside_switch KillSwitch.state_switchOnly) fun current at_ => ?_
  refine outside_bind (wp_when (fun _ => ?_) fun _ => ⟨at_, rfl⟩) fun _ at_ => outside_pure _ _
  exact outside_bind (outside_switch (KillSwitch.trip_switchOnly _ _)) fun _ at_ =>
    outside_quiet (alert_quiet reason)

theorem unresolved_follows (status : CycleStatus) (detail : String) (pt : EnginePoint) :
    wp (cycleFlow config) Outside (unresolved config status detail) (.engine pt) := by
  refine outside_bind (outside_quiet (issues_call .clock)) fun now at_ => ?_
  refine outside_bind (outside_quiet (issues_call .readMemory)) fun memory at_ => ?_
  refine outside_bind (outside_quiet (issues_call (.writeMemory _))) fun _ at_ => ?_
  split
  · exact halt_follows _ _ _ _
  · exact outside_pure _ _

theorem submitFailed_follows (exc : Exc) (signal : Signal) (decision : RiskApproval)
    (pt : EnginePoint) :
    wp (cycleFlow config) Outside (submitFailed config exc signal decision) (.engine pt) := by
  unfold submitFailed
  split
  · exact halt_follows _ _ _ _
  · refine outside_bind (outside_quiet (issues_call .readMemory)) fun memory at_ => ?_
    split
    · exact outside_bind (outside_quiet (issues_call (.writeMemory _))) fun _ at_ =>
        halt_follows _ _ _ _
    · exact outside_pure _ _

/-- A program that leaves the engine where it is leaves the cycle there too. -/
theorem quiet_follows {α : Type} {p : Proc α} (pt : EnginePoint) (issues : Issues Quiet p) :
    wp (cycleFlow config) (fun _ pt' => pt' = .engine pt) p (.engine pt) :=
  wp_embed CyclePoint.engine (fun pt op next taken => CycleEdge.engine pt op next taken)
    (fun _ _ still => still ▸ rfl) (quiet_stays issues)

/-- What follows a step that leaves the cycle where it is. -/
theorem stays_bind {α β : Type} {p : Proc α} {f : α → Proc β} {pt : CyclePoint}
    (first : wp (cycleFlow config) (fun _ pt' => pt' = pt) p pt)
    (rest : ∀ value, wp (cycleFlow config) (fun _ _ => True) (f value) pt) :
    wp (cycleFlow config) (fun _ _ => True) (p >>= f) pt := by
  refine wp_bind.2 (wp_mono first ?_)
  rintro (exc | value) _ rfl
  · trivial
  · exact rest value

theorem anywhere {α : Type} {p : Proc α} {post : Except Exc α → CyclePoint → Prop} {pt : CyclePoint}
    (follows : wp (cycleFlow config) post p pt) : wp (cycleFlow config) (fun _ _ => True) p pt :=
  wp_mono follows fun _ _ _ => trivial

theorem placeOrder_follows (signal : Signal) (decision : RiskApproval) :
    wp (cycleFlow config) (fun _ _ => True) (placeOrder config signal decision)
      (.engine ⟨[], .ordering (orderRequest config signal) decision⟩) := by
  refine stays_bind (quiet_follows _ (modifyMemory_quiet _)) fun _ => ?_
  refine stays_bind (quiet_follows _ (issues_call .clock)) fun now => ?_
  refine stays_bind (quiet_follows _ (modifyMemory_quiet _)) fun _ => ?_
  refine wp_bind.2 (wp_attempt.2 (wp_mono (outside_engine
    (ExecutionEngine.submit_follows (orderRequest config signal) decision)) ?_))
  rintro (exc | order) _ ⟨at_, rfl⟩
  · exact anywhere (submitFailed_follows exc signal decision at_)
  · trivial

/-- A decision is made and not yet on record. -/
def Decides (signal : Signal) : Except Exc RiskApproval → CyclePoint → Prop
  | .ok decision, pt => pt = .decided signal decision
  | .error _, _ => True

/-- The requests a signal on record leaves where it is. -/
inductive Looks : Op → Prop
  | load : Looks (.switch .load)
  | quiet (op : Op) (quiet : Quiet op) : Looks op

theorem recorded_stays {α : Type} {p : Proc α} {signal : Signal} (issues : Issues Looks p) :
    wp (cycleFlow config) (fun _ pt' => pt' = .recorded signal) p (.recorded signal) := by
  refine wp_stays (fun op looks => ?_) issues
  cases looks with
  | load => exact .load signal
  | quiet op quiet => exact .recordedQuiet signal op quiet

theorem stamp_follows (signal : Signal) (inputs : Option RiskInputs) (approvalId : Uuid) :
    wp (cycleFlow config) (Decides signal) (do
      let approvedAt ← ask (.host .utcNow)
      return decisionOf config signal inputs approvalId approvedAt)
      (.minted signal inputs approvalId) := by
  refine wp_bind.2 (wp_call.2 ⟨_, .stamp signal inputs approvalId, ?_⟩)
  rintro (exc | approvedAt)
  · trivial
  · exact rfl

theorem judge_follows (signal : Signal) (inputs : RiskInputs) :
    wp (cycleFlow config) (Decides signal) (judge config signal inputs)
      (.supplied signal inputs) := by
  refine wp_bind.2 (wp_bind.2 (wp_call.2 ⟨_, .readSwitch signal inputs, ?_⟩))
  rintro (exc | memory)
  · trivial
  refine wp_bind.2 (wp_call.2 ⟨_, .mint signal _, ?_⟩)
  rintro (exc | approvalId)
  · trivial
  · exact stamp_follows signal _ approvalId

theorem decide_follows (signal : Signal) (state : MarketState) :
    wp (cycleFlow config) (Decides signal) (decide_ config signal state) (.recorded signal) := by
  have looked : Issues Looks KillSwitch.state := issues_bind (issues_call .load) fun _ => issues_pure _
  have remembered : Issues Looks (ask (.host .readMemory)) := issues_call (.quiet _ .readMemory)
  refine wp_bind.2 (wp_mono (recorded_stays looked) ?_)
  rintro (exc | current) _ rfl
  · trivial
  refine wp_bind.2 (wp_mono (recorded_stays remembered) ?_)
  rintro (exc | memory) _ rfl
  · trivial
  refine wp_bind.2 (wp_attempt.2 (wp_call.2 ⟨_, .riskInputs signal state _, ?_⟩))
  rintro (exc | inputs)
  · refine wp_bind.2 (wp_call.2 ⟨_, .mintRefusal signal, ?_⟩)
    rintro (exc | approvalId)
    · trivial
    · exact stamp_follows signal none approvalId
  · exact judge_follows signal inputs

theorem auditFailed_follows (exc : Exc) (reason : String) (signal : Signal) (pt : EnginePoint) :
    wp (cycleFlow config) (fun _ _ => True) (auditFailed config exc reason signal) (.engine pt) := by
  unfold auditFailed
  split
  · exact anywhere (halt_follows _ _ _ _)
  · trivial

theorem act_follows (signal : Signal) (state : MarketState) :
    wp (cycleFlow config) (fun _ _ => True) (act config signal state) (.recorded signal) := by
  refine wp_bind.2 (wp_mono (decide_follows signal state) ?_)
  rintro (exc | decision) pt decides
  · trivial
  obtain rfl := decides
  refine wp_bind.2 (wp_attempt.2 (wp_call.2 ⟨_, .recordDecision signal decision, ?_⟩))
  rintro (exc | _)
  · exact auditFailed_follows exc _ signal _
  · simp only [andThen, afterDecision]
    by_cases approved : decision.approved = true
    · rw [if_pos approved, if_pos approved]
      exact placeOrder_follows signal decision
    · rw [if_neg approved, if_neg approved]
      trivial

theorem consult_follows (state : MarketState) :
    wp (cycleFlow config) (fun _ _ => True) (consult config state) .clear := by
  have forgotten : wp (cycleFlow config) (fun _ pt' => pt' = .clear)
      (modifyMemory fun memory => { memory with unresolvedSince := none }) .clear :=
    wp_stays (fun op quiet => .clearQuiet op quiet) (modifyMemory_quiet _)
  refine stays_bind forgotten fun _ => wp_bind.2 (wp_call.2 ⟨_, .strategy state, ?_⟩)
  rintro (exc | signal)
  · trivial
  cases signal with
  | none =>
      have sampled : Issues Quiet (sampleEquity config state) := issues_when fun _ =>
        issues_bind (issues_attempt (issues_call (.observe state))) fun _ => issues_pure _
      exact stays_bind (quiet_follows _ sampled) fun _ => trivial
  | some signal =>
      refine wp_bind.2 (wp_attempt.2 (wp_call.2 ⟨_, .recordSignal signal, ?_⟩))
      rintro (exc | _)
      · exact auditFailed_follows exc _ signal _
      · exact act_follows signal state

/-- The store is read until it reports nothing, or something is left. -/
def Resolves : Except Exc (List Order) → CyclePoint → Prop
  | .ok [], pt => pt = .clear
  | _, pt => ∃ at_, pt = .engine at_

theorem pending_follows (pt : EnginePoint) :
    wp (cycleFlow config) Resolves (ask (.store .pending)) (.engine pt) := by
  refine wp_call.2 ⟨_, .pending pt, ?_⟩
  rintro (exc | _ | ⟨order, orders⟩)
  · exact ⟨_, rfl⟩
  · exact rfl
  · exact ⟨_, rfl⟩

theorem resolvePending_follows (pt : EnginePoint) :
    wp (cycleFlow config) Resolves (resolvePending config) (.engine pt) := by
  refine wp_bind.2 (wp_mono (pending_follows pt) ?_)
  rintro (exc | _ | ⟨order, orders⟩) at_ resolves
  · exact resolves
  · exact resolves
  · obtain ⟨pt, rfl⟩ := resolves
    refine wp_bind.2 (wp_mono (outside_engine (ExecutionEngine.recoverPending_follows pt.stage)) ?_)
    rintro (exc | orders) _ ⟨pt, rfl⟩
    · exact ⟨pt, rfl⟩
    · exact pending_follows pt

theorem run_follows (state : MarketState) :
    wp (cycleFlow config) (fun _ _ => True) (run config state) .rest := by
  refine wp_bind.2 (wp_mono (outside_switch (KillSwitch.syncExternalState_switchOnly _)) ?_)
  rintro (exc | current) _ ⟨pt, rfl⟩
  · trivial
  refine wp_bind.2 (wp_attempt.2 (wp_mono (resolvePending_follows pt) ?_))
  rintro (exc | _ | ⟨order, orders⟩) at_ resolves
  · obtain ⟨pt, rfl⟩ := resolves
    simp only [andThen]
    split
    · exact anywhere (halt_follows _ _ _ _)
    · exact anywhere (unresolved_follows _ _ _)
  · obtain rfl := resolves
    exact consult_follows state
  · obtain ⟨pt, rfl⟩ := resolves
    exact anywhere (unresolved_follows _ _ _)

end TradingCycle

/-! ## Cycles, operator actions and restarts -/

/-- What is run over the stores, one at a time: the loop, and the operator's routes. -/
inductive TradingCall where
  | cycle (state : MarketState)
  | tighten (target : KillSwitchState) (reason : String) (actor : Option String)
  | rearm (actor reason : String) (checklist : List String)

def TradingCall.program (config : CycleConfig) : TradingCall → Proc Unit
  | .cycle state => (TradingCycle.run config state).discard
  | .tighten target reason actor =>
      (KillSwitch.tighten config.killSwitch target reason actor).discard
  | .rearm actor reason checklist =>
      (KillSwitch.rearm config.killSwitch actor reason checklist).discard

theorem TradingCall.follows (config : CycleConfig) (call : TradingCall) :
    wp (TradingCycle.cycleFlow config) (fun _ _ => True) (call.program config) .rest := by
  cases call with
  | cycle state => exact wp_discard (TradingCycle.run_follows state)
  | tighten target reason actor =>
      exact wp_discard (TradingCycle.anywhere
        (TradingCycle.outside_switch (KillSwitch.tighten_switchOnly _ _ _ _)))
  | rearm actor reason checklist =>
      exact wp_discard (TradingCycle.anywhere
        (TradingCycle.outside_switch (KillSwitch.rearm_switchOnly _ _ _ _)))

def tradingSystem (env : Environment) (config : CycleConfig) (initial : World → Prop) : Runtime where
  Entry := TradingCall
  program := TradingCall.program config
  serve := Serve env
  restart := Restart
  initial

/-- Every reachable state of the loop meets a contract its points are annotated for. -/
theorem tradingSystem_upheld {env : Environment} {config : CycleConfig} {initial : World → Prop}
    {C : Contract effects Exc World} {means : CyclePoint → Instant → Prop}
    (same : C.serve = Serve env) (annotated : Annotation C (CycleEdge config) means)
    (initially : ∀ world, initial world → C.invariant ⟨world, []⟩)
    (enter : ∀ m, C.invariant m → means .rest m)
    (restarts : ∀ m world, C.invariant m → Restart m.world world →
      C.invariant ⟨world, m.events⟩)
    {c : Config effects Exc World} (reached : (tradingSystem env config initial).Reachable c)
    (assumed : Along C.assume c.moment.events) : Upheld C c :=
  System.sound same initially
    (fun (call : TradingCall) m held => annotated.wp (call.follows config) (enter m held)) restarts
    reached assumed

/-! ## One cycle, played out -/

theorem quiet_level : (⟨100, decimal_hundred⟩ : PositiveDecimal) ≤ ⟨100, decimal_hundred⟩ := le_refl _

def quietMarket : MarketState where
  symbol := "BTC-USD"
  quote :=
    { symbol := "BTC-USD", bid := ⟨100, decimal_hundred⟩, ask := ⟨100, decimal_hundred⟩, asOf := 0
      source := "venue", receivedAt := 0, askNotBelowBid := quiet_level }
  candles := []
  observedAt := 0

def buySignal : Signal where
  signalId := ⟨2⟩
  symbol := "BTC-USD"
  side := .buy
  quantity := ⟨1, decimal_one⟩
  strategyVersion := "v1"
  createdAt := 0
  correlationId := ⟨7⟩

/-- Inputs every gate lets the signal pass on. -/
def soundInputs : RiskInputs where
  killSwitch := none
  operatorPaused := some false
  tradingWindowOpen := some true
  brokerHealthy := some true
  quote := some quietMarket.quote
  referencePrice := some 100
  volatility := some 0
  duplicateSignalIds := some []
  symbolCooldownClear := some true
  openPositions := some 0
  openNotional := some 0
  symbolPosition := some 0
  aggregateAllocation := some 0
  availableCash := some 10000
  dailyLoss := some 0
  drawdown := some 0
  expectedPrice := some 100
  estimatedSlippage := some 0
  constraints := some
    { minQuantity := 1, maxQuantity := none, quantityIncrement := 1, minNotional := 0,
      maxNotional := none, priceIncrement := 1 }
  now := 0

def plainConfig : CycleConfig where
  hooks := ⟨false, false⟩
  killSwitch := ⟨false, false, false⟩
  limits := {}
  pendingTimeout := 300000000
  onHalt := false
  observe := false
  clientOrderId signal := signal.signalId

/-- The strategy buys, every gate lets it pass, and the venue takes the order. -/
def calm : Cast where
  broker
    | .getOrder _, _ => .ok none
    | .submitOrder request _, _ => .ok (reportOf request .open ⟨0, decimal_zero⟩)
    | .getFills _, _ => .ok []
  strategy _ _ := .ok (some buySignal)
  riskInputs _ _ := .ok soundInputs

/-- One cycle over empty stores, up to its `n`th request. -/
def cycleOnce (store : OrderStore) (audit : AuditStore) (cast : Cast) (n : Nat) :
    Proc Unit × Instant :=
  ((TradingCall.cycle quietMarket).program plainConfig).advance cast.script n
    ⟨emptyWorld store audit, []⟩

theorem cycleOnce_reached {env : Environment} {cast : Cast} (sound : cast.script.Sound (Serve env))
    (store : OrderStore) (audit : AuditStore) (n : Nat) :
    (tradingSystem env plainConfig (· = emptyWorld store audit)).Reachable
      ⟨(cycleOnce store audit cast n).2, some (cycleOnce store audit cast n).1⟩ := by
  let sys := tradingSystem env plainConfig (· = emptyWorld store audit)
  have started : sys.Reachable
      ⟨⟨emptyWorld store audit, []⟩, some (sys.program (TradingCall.cycle quietMarket))⟩ :=
    .started rfl _
  exact started.advance sound n

/-- The order of a create. -/
def sends : Op → Option OrderRequest
  | .broker (.submitOrder request _) => some request
  | _ => none

theorem request_of_sends {p : Proc Unit} {request : OrderRequest}
    (waits : p.asks.bind sends = some request) :
    ∃ approval next, p = .request (.broker (.submitOrder request approval)) next := by
  obtain ⟨op, asks, create⟩ := Option.bind_eq_some_iff.1 waits
  cases op with
  | broker call =>
      cases call with
      | submitOrder request' approval =>
          cases create
          obtain ⟨next, same⟩ := Prog.request_of_asks asks
          exact ⟨approval, next, same⟩
      | _ => cases create
  | _ => cases create

/-- The order the signal leads to. -/
def calmRequest : OrderRequest := TradingCycle.orderRequest plainConfig buySignal

/-- One cycle over empty tables, where it calls `submit_order`. -/
def atSubmit (cast : Cast) : Proc Unit × Instant :=
  cycleOnce (.sqlAlchemy .empty) (.sqlAlchemy .empty .empty) cast 23

theorem atSubmit_reached {env : Environment} {cast : Cast}
    (sound : cast.script.Sound (Serve env)) :
    (tradingSystem env plainConfig
      (· = emptyWorld (.sqlAlchemy .empty) (.sqlAlchemy .empty .empty))).Reachable
      ⟨(atSubmit cast).2, some (atSubmit cast).1⟩ :=
  cycleOnce_reached sound _ _ 23

end AlgoTrader.App
