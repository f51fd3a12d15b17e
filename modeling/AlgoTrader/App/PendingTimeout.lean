/-
# App.PendingTimeout -- orders that stay unresolved

A loop that finds unresolved orders, or cannot query them at the broker, waits: it takes no entry,
and remembers since when loops have been waiting.  A loop that has waited for `pending_timeout`
halts.  A loop without an unresolved order forgets the time.

* `trip_halts`, `halt_halts` -- a halt takes effect whatever moves the switch meanwhile, and
  whatever of it fails;
* `Loop.waits`, `Loop.breaks`, `Loop.clears` -- what a loop of each kind does with the timer;
* `Life.since_le`, `Life.since_read` -- so while loops wait the timer is the time of the first of them;
* `pending_timeout` -- and a wait ends in a halt at its timeout, and not before.
-/
import Mathlib.Data.List.Chain
import Mathlib.Data.List.Induction
import AlgoTrader.App.MemoryUse
import AlgoTrader.Theory.Lives

namespace AlgoTrader.App

open AlgoTrader.Core Brokers Risk Execution Theory Process

open KillSwitch (stateOf)

set_option autoImplicit false

/-! ## Halts -/

section Halts

variable {env : Environment}

/-- The state of the switch at a moment. -/
def switchState (m : Instant) : KillSwitchState := stateOf m.world

/-- A trip ends halted, whatever else moves the switch while it is under way. -/
theorem trip_halts (config : KillSwitch.Config) (reason : String) (m : Instant) :
    wp (Contract.plain (Serve env) fun _ => True).logic (fun _ m' => switchState m' = .halted)
      (KillSwitch.trip config reason) m := by
  refine KillSwitch.state_reads fun m₁ here => ?_
  have most : ¬ KillSwitch.severity .halted < KillSwitch.severity (stateOf m.world) := by
    cases stateOf m.world <;> decide
  split
  · rename_i forbidden
    exact absurd forbidden.2.1 (by decide)
  split
  · rename_i _ forbidden
    exact absurd forbidden.2 (by decide)
  split
  · rename_i lower
    exact absurd lower.2 most
  split
  · rename_i halted
    have found : switchState m₁ = .halted := (congrArg stateOf here).trans halted.symm
    exact wp_mono (KillSwitch.persist_leaves config m₁) fun _ _ still => still.trans found
  · refine wp_bind.2 (wp_served fun reply after served _ => ?_)
    obtain ⟨⟨eventId, rfl⟩, _⟩ := served
    refine wp_bind.2 (wp_served fun reply after served _ => ?_)
    obtain ⟨⟨createdAt, rfl⟩, _⟩ := served
    dsimp only [andThen]
    exact wp_mono (KillSwitch.transition_ends config (Nat.not_lt.1 most) _) fun _ _ ended => ended

/-- The switch is halted, but for what other components did while the alert was awaited. -/
def LeftHalted (env : Environment) (m : Instant) : Prop :=
  switchState m = .halted ∨ ∃ e earlier, m.events = e :: earlier ∧
    (∃ reason, e.op = .host (.onHalt reason)) ∧ stateOf e.before = .halted ∧
    env.elsewhere e.before m.world

/-- Where nothing lowers the switch while the alert is awaited, it is halted. -/
theorem LeftHalted.halted {m : Instant} (left : LeftHalted env m)
    (still : ∀ before after, env.elsewhere before after → stateOf before = .halted → stateOf after = .halted) :
    switchState m = .halted := by
  rcases left with halted | ⟨e, _, _, _, halted, meanwhile⟩
  · exact halted
  · exact still _ _ meanwhile halted

theorem alertHalt_halts (config : CycleConfig) (reason : String) (m : Instant) :
    wp (Contract.plain (Serve env) fun _ => True).logic (fun _ => LeftHalted env)
      (TradingCycle.alertHalt config reason) m := by
  refine wp_bind.2 (wp_mono (trip_halts config.killSwitch _ m) ?_)
  rintro (exc | _) m₁ halted
  · exact .inl halted
  · refine wp_when (fun _ => ?_) fun _ => .inl halted
    refine wp_discard (wp_attempt.2 (wp_served fun reply after served _ => ?_))
    exact .inr ⟨_, _, rfl, ⟨reason, rfl⟩, halted, served⟩

/-- However a halt ends, it leaves the switch halted. -/
theorem halt_halts (config : CycleConfig) (reason : String) (signal : Option Signal)
    (decision : Option RiskApproval) (m : Instant) :
    wp (Contract.plain (Serve env) fun _ => True).logic (fun _ => LeftHalted env)
      (TradingCycle.halt config reason signal decision) m := by
  refine KillSwitch.state_reads fun m₁ here => ?_
  have told : ∀ result : Except Exc Unit, ∀ m', LeftHalted env m' →
      andThen (Contract.plain (Serve env) fun _ => True).logic (fun _ : Unit => (pure
        { status := .halted, detail := reason, signal, decision } : Proc CycleOutcome))
        (fun _ => LeftHalted env) result m' := by
    rintro (exc | _) m' left
    · exact left
    · exact left
  refine wp_bind.2 (wp_when (fun _ => ?_) fun already => ?_)
  · exact wp_mono (alertHalt_halts config reason m₁) told
  · have halted : stateOf m.world = .halted := by simpa using already
    exact told (.ok ()) m₁ (.inl ((congrArg stateOf here).trans halted))

end Halts

/-! ## What a loop does to the timer -/

/-- No other component writes the timer of the loop. -/
def OwnTimer (env : Environment) : Prop :=
  ∀ before after, env.elsewhere before after →
    after.memory.unresolvedSince = before.memory.unresolvedSince

/-- A signal or a decision is recorded, risk is evaluated, or an order is submitted. -/
def enters : Served → Bool
  | ⟨.audit _, _, _, _⟩ => true
  | ⟨.host (.riskInputs ..), _, _, _⟩ => true
  | ⟨.store (.reserveWithCreated ..), _, _, _⟩ => true
  | ⟨.broker (.submitOrder ..), _, _, _⟩ => true
  | _ => false

def timerOf (m : Instant) : Option Timestamp := m.world.memory.unresolvedSince

/-- What is told of a run: the timer, the readings of the clock, and whether it enters. -/
structure View where
  timer : Option Timestamp
  readings : List Timestamp
  entered : Bool

def view (m : Instant) : View := ⟨timerOf m, m.events.filterMap clocked, m.events.any enters⟩

section Timer

variable {env : Environment}

/-- Only a write of the memory can change the timer. -/
theorem serve_timer (own : OwnTimer env) {op : Op} {m : Instant} {reply : Except Exc op.Reply} {after : World}
    (served : Serve env op m.world reply after) (other : writesMemory op = false) :
    after.memory.unresolvedSince = m.world.memory.unresolvedSince :=
  serve_memory Memory.unresolvedSince own served other

theorem idle_leaves (own : OwnTimer env) {α : Type} {p : Proc α} (issues : Issues Idle p) :
    Leaves (Serve env) view p := by
  refine leaves_issues (fun op idle m reply after served => ?_) issues
  have timer : after.memory.unresolvedSince = m.world.memory.unresolvedSince :=
    serve_timer own served (by cases idle <;> rfl)
  have unread : clocked ⟨op, reply, m.world, after⟩ = none := by cases idle <;> rfl
  have outside : enters ⟨op, reply, m.world, after⟩ = false := by cases idle <;> rfl
  simp only [view, timerOf, Moment.push_world, Moment.push_events, timer, List.filterMap_cons, unread,
    List.any_cons, outside, Bool.false_or]

end Timer

section Waiting

variable {env : Environment}

theorem halt_ends (own : OwnTimer env) (config : CycleConfig) (reason : String) (signal : Option Signal)
    (decision : Option RiskApproval) (m : Instant) :
    wp (Contract.plain (Serve env) fun _ => True).logic (fun _ m' => LeftHalted env m' ∧ view m' = view m)
      (TradingCycle.halt config reason signal decision) m :=
  wp_conj (halt_halts config reason signal decision m)
    (idle_leaves own (halt_idle config reason signal decision) m)

/-- What a loop that waits leaves: the time since when, and a halt or a word of it. -/
structure Waited (env : Environment) (config : CycleConfig) (status : CycleStatus) (detail : String) (before : View)
    (result : Except Exc CycleOutcome) (m : Instant) (now : Timestamp) : Prop where
  seen : view m = ⟨some (before.timer.getD now), now :: before.readings, before.entered⟩
  halts : config.pendingTimeout ≤ now - before.timer.getD now → LeftHalted env m
  goesOn : now - before.timer.getD now < config.pendingTimeout → result = .ok { status, detail }

theorem unresolved_waits (own : OwnTimer env) (config : CycleConfig) (status : CycleStatus) (detail : String)
    (m : Instant) : wp (Contract.plain (Serve env) fun _ => True).logic
      (fun result m' => ∃ now, Waited env config status detail (view m) result m' now)
      (TradingCycle.unresolved config status detail) m := by
  refine wp_bind.2 (wp_served fun reply after served _ => ?_)
  have kept := serve_timer own served rfl
  obtain ⟨⟨now, rfl⟩, _⟩ := served
  refine wp_bind.2 (wp_served fun reply₁ after₁ served₁ _ => ?_)
  obtain ⟨rfl, rfl⟩ := served₁
  refine wp_bind.2 (wp_served fun reply₂ after₂ served₂ _ => ?_)
  obtain ⟨rfl, rfl⟩ := served₂
  have since : after₁.memory.unresolvedSince.getD now = (view m).timer.getD now := by
    rw [kept]
    rfl
  have seen : ∀ m' : Instant,
      view m' = ⟨some (after₁.memory.unresolvedSince.getD now), now :: (view m).readings, (view m).entered⟩ →
      view m' = ⟨some ((view m).timer.getD now), now :: (view m).readings, (view m).entered⟩ := by
    intro m' is
    rw [is, since]
  dsimp only [andThen]
  split
  · rename_i late
    refine wp_mono (halt_ends own config _ none none _) fun result m' both =>
      ⟨now, seen m' both.2, fun _ => both.1, fun early => ?_⟩
    rw [← since] at early
    exact absurd late (not_le.2 early)
  · rename_i early
    refine ⟨now, seen _ rfl, fun late => ?_, fun _ => rfl⟩
    rw [← since] at late
    exact absurd late early

end Waiting

/-! ## A loop without an unresolved order -/

section Clear

variable {env : Environment}

theorem call_timer (own : OwnTimer env) {op : Op} (other : writesMemory op = false) :
    Leaves (Serve env) timerOf (ask op) :=
  leaves_call fun _ _ _ served => serve_timer own served other

/-- A change of the memory is made of what is there. -/
theorem modifyMemory_timer (change : Memory → Memory) (m : Instant) :
    wp (Contract.plain (Serve env) fun _ => True).logic
      (fun _ m' => timerOf m' = (change m.world.memory).unresolvedSince) (modifyMemory change) m := by
  refine wp_bind.2 (wp_served fun reply after served _ => ?_)
  obtain ⟨rfl, rfl⟩ := served
  refine wp_served fun reply after served _ => ?_
  obtain ⟨rfl, rfl⟩ := served
  rfl

theorem modifyMemory_leaves {change : Memory → Memory}
    (same : ∀ memory, (change memory).unresolvedSince = memory.unresolvedSince) :
    Leaves (Serve env) timerOf (modifyMemory change) :=
  fun m => wp_mono (modifyMemory_timer change m) fun _ _ changed => changed.trans (same _)

/-- What the programs of a cycle write of the memory is not the timer. -/
theorem timer_framed (own : OwnTimer env) (timer : Option Timestamp) :
    Framed env (Contract.plain (Serve env) fun _ => True) fun m => timerOf m = timer where
  serve := rfl
  call op other _ m same := wp_mono (call_timer own other m) fun _ _ still => still.trans same
  count m count same := wp_served fun reply after served _ => by
    obtain ⟨_, rfl⟩ := served
    exact same

variable (own : OwnTimer env) (config : CycleConfig)

include own

theorem placeOrder_timer (signal : Signal) (decision : RiskApproval) :
    Leaves (Serve env) timerOf (TradingCycle.placeOrder config signal decision) := by
  refine Leaves.bind (modifyMemory_leaves fun _ => rfl) fun _ => (call_timer own rfl).bind fun now => ?_
  refine Leaves.bind (modifyMemory_leaves fun _ => rfl) fun _ => ?_
  refine Leaves.bind (Leaves.attempt fun m => ?_) fun outcome => ?_
  · exact (timer_framed own _).submit_sustains config.hooks _ decision rfl (call_timer own rfl m)
  cases outcome with
  | error exc => exact fun m => (timer_framed own _).submitFailed_sustains config exc signal decision m rfl
  | ok order => exact leaves_pure _

theorem act_timer (signal : Signal) (state : MarketState) :
    Leaves (Serve env) timerOf (TradingCycle.act config signal state) := by
  have decided : Leaves (Serve env) timerOf (TradingCycle.decide_ config signal state) :=
    fun m => (timer_framed own _).decide_sustains config signal state m rfl
  refine decided.bind fun decision => (call_timer own rfl).attempt.bind fun outcome => ?_
  cases outcome with
  | error exc => exact fun m => (timer_framed own _).auditFailed_sustains config exc _ signal m rfl
  | ok _ =>
      dsimp only
      split
      · exact placeOrder_timer own config signal decision
      · exact leaves_pure _

/-- A loop without an unresolved order forgets the time, whatever becomes of its entry. -/
theorem consult_clears (state : MarketState) (m : Instant) :
    wp (Contract.plain (Serve env) fun _ => True).logic (fun _ m' => timerOf m' = none)
      (TradingCycle.consult config state) m := by
  refine Leaves.after ?_ fun _ => (call_timer own rfl).bind fun signal => ?_
  · exact wp_mono (modifyMemory_timer _ m) fun _ _ changed => changed
  cases signal with
  | none =>
      refine Leaves.bind (fun m => ?_) fun _ => leaves_pure _
      exact (timer_framed own _).sampleEquity_sustains config state m rfl
  | some signal =>
      refine (call_timer own rfl).attempt.bind fun outcome => ?_
      cases outcome with
      | error exc => exact fun m => (timer_framed own _).auditFailed_sustains config exc _ signal m rfl
      | ok _ => exact act_timer own config signal state

end Clear

/-! ## Loops -/

/-- What a loop does with what it found of the pending orders. -/
def react (config : CycleConfig) (state : MarketState) : Except Exc (List Order) → Proc CycleOutcome
  | .error exc =>
      if exc.kind = .persistenceUnavailable then
        TradingCycle.halt config "order store unavailable while resolving pending orders" none none
      else
        TradingCycle.unresolved config .brokerError "pending orders could not be queried at the broker"
  | .ok pending =>
      if pending.isEmpty then TradingCycle.consult config state
      else TradingCycle.unresolved config .unresolved (TradingCycle.waitingFor pending)

theorem run_eq (config : CycleConfig) (state : MarketState) : TradingCycle.run config state =
    KillSwitch.syncExternalState config.killSwitch >>= fun _ =>
      (TradingCycle.resolvePending config).attempt >>= react config state := rfl

/-- A complete loop from a world, with what it found of the pending orders, if it got there. -/
inductive LoopRun (env : Environment) (config : CycleConfig) (state : MarketState) (world : World) :
    Option (Except Exc (List Order)) → Except Exc CycleOutcome → Instant → Prop
  | unread {exc : Exc} {final : Instant}
      (raised : (KillSwitch.syncExternalState config.killSwitch).Runs (Serve env) ⟨world, []⟩ (.error exc) final) :
      LoopRun env config state world none (.error exc) final
  | read {current : KillSwitchState} {found : Except Exc (List Order)} {flagged resolved final : Instant}
      {result : Except Exc CycleOutcome}
      (synced : (KillSwitch.syncExternalState config.killSwitch).Runs (Serve env) ⟨world, []⟩ (.ok current) flagged)
      (asked : (TradingCycle.resolvePending config).Runs (Serve env) flagged found resolved)
      (rest : (react config state found).Runs (Serve env) resolved result final) :
      LoopRun env config state world (some found) result final

theorem run_loops {env : Environment} {config : CycleConfig} {state : MarketState} {world : World}
    {result : Except Exc CycleOutcome} {final : Instant} :
    (TradingCycle.run config state).Runs (Serve env) ⟨world, []⟩ result final ↔
      ∃ found, LoopRun env config state world found result final := by
  rw [run_eq, runs_bind]
  constructor
  · rintro (⟨current, flagged, synced, rest⟩ | ⟨exc, raised, rfl⟩)
    · rcases runs_bind.1 rest with ⟨found, resolved, asked, reacted⟩ | ⟨exc, asked, rfl⟩
      · obtain ⟨outcome, asked, same⟩ := runs_attempt.1 asked
        obtain rfl := Except.ok.inj same
        exact ⟨_, .read synced asked reacted⟩
      · obtain ⟨outcome, _, ⟨⟩⟩ := runs_attempt.1 asked
    · exact ⟨none, .unread raised⟩
  · rintro ⟨_, raised | ⟨synced, asked, reacted⟩⟩
    · exact .inr ⟨_, raised, rfl⟩
    · exact .inl ⟨_, _, synced, runs_bind.2 (.inl ⟨_, _, runs_attempt.2 ⟨_, asked, rfl⟩, reacted⟩)⟩

structure Loop (env : Environment) (config : CycleConfig) where
  state : MarketState
  world : World
  found : Option (Except Exc (List Order))
  result : Except Exc CycleOutcome
  final : Instant
  ran : LoopRun env config state world found result final

namespace Loop

variable {env : Environment} {config : CycleConfig} (loop : Loop env config)

/-- What the clock answered in the loop, newest first. -/
def readings : List Timestamp := loop.final.events.filterMap clocked

/-- The timer as the loop finds it. -/
def before : Option Timestamp := loop.world.memory.unresolvedSince

/-- The timer as the loop leaves it. -/
def after : Option Timestamp := loop.final.world.memory.unresolvedSince

/-- No order is unresolved. -/
def Clear : Prop := loop.found = some (.ok [])

/-- Orders are unresolved, or cannot be queried at the broker. -/
inductive Waits : CycleStatus → String → Prop
  | unresolved {orders : List Order} (found : loop.found = some (.ok orders)) (some_ : orders ≠ []) :
      Waits .unresolved (TradingCycle.waitingFor orders)
  | unqueried {exc : Exc} (found : loop.found = some (.error exc))
      (other : exc.kind ≠ .persistenceUnavailable) :
      Waits .brokerError "pending orders could not be queried at the broker"

/-- The orders cannot even be read. -/
def Breaks : Prop := ∃ exc, loop.found = some (.error exc) ∧ exc.kind = .persistenceUnavailable

/-- The loop finds unresolved orders, or cannot query them. -/
def Fails : Prop := (∃ status detail, loop.Waits status detail) ∨ loop.Breaks

end Loop

/-- Up to what is found of the pending orders nothing is entered, and the timer is as it was. -/
theorem asked_view {env : Environment} (own : OwnTimer env) {config : CycleConfig} {world : World}
    {current : KillSwitchState} {found : Except Exc (List Order)} {flagged resolved : Instant}
    (synced : (KillSwitch.syncExternalState config.killSwitch).Runs (Serve env) ⟨world, []⟩ (.ok current) flagged)
    (asked : (TradingCycle.resolvePending config).Runs (Serve env) flagged found resolved) :
    view resolved = ⟨world.memory.unresolvedSince, [], false⟩ := by
  have first := (idle_leaves own (sync_idle config.killSwitch)).run synced
  have second := (idle_leaves own (resolvePending_idle config)).run asked
  exact second.trans (first.trans rfl)

namespace Loop

variable {env : Environment} {config : CycleConfig} {loop : Loop env config}

theorem kinds (loop : Loop env config) : loop.found = none ∨ loop.Clear ∨ loop.Fails := by
  cases found : loop.found with
  | none => exact .inl rfl
  | some answer =>
      refine .inr ?_
      cases answer with
      | error exc =>
          by_cases broken : exc.kind = .persistenceUnavailable
          · exact .inr (.inr ⟨exc, found, broken⟩)
          · exact .inr (.inl ⟨_, _, .unqueried found broken⟩)
      | ok orders =>
          by_cases none_ : orders = []
          · exact .inl (found.trans (by rw [none_]))
          · exact .inr (.inl ⟨_, _, .unresolved found none_⟩)

variable (own : OwnTimer env)

include own

theorem unread_view (unread : loop.found = none) : view loop.final = ⟨loop.before, [], false⟩ := by
  obtain ⟨state, world, found, result, final, raised | _⟩ := loop
  · exact ((idle_leaves own (sync_idle config.killSwitch)).run raised).trans rfl
  · cases unread

theorem clears (clear : loop.Clear) : loop.after = none := by
  obtain ⟨state, world, found, result, final, _ | ⟨synced, asked, rest⟩⟩ := loop
  · cases clear
  · cases clear
    exact run_ends rest (consult_clears own config state _)

theorem waits {status : CycleStatus} {detail : String} (waits : loop.Waits status detail) :
    ∃ now, Waited env config status detail ⟨loop.before, [], false⟩ loop.result loop.final now := by
  obtain ⟨state, world, found, result, final, _ | ⟨synced, asked, rest⟩⟩ := loop
  · rcases waits with ⟨⟨⟩, _⟩ | ⟨⟨⟩, _⟩
  · have before := asked_view own synced asked
    rcases waits with ⟨⟨⟩, some_⟩ | ⟨⟨⟩, other⟩
    · rw [react, if_neg (mt List.isEmpty_iff.1 some_)] at rest
      exact before ▸ run_ends rest (unresolved_waits own config _ _ _)
    · rw [react, if_neg other] at rest
      exact before ▸ run_ends rest (unresolved_waits own config _ _ _)

theorem breaks (breaks : loop.Breaks) :
    LeftHalted env loop.final ∧ view loop.final = ⟨loop.before, [], false⟩ := by
  obtain ⟨exc, broken, kind⟩ := breaks
  obtain ⟨state, world, found, result, final, _ | ⟨synced, asked, rest⟩⟩ := loop
  · cases broken
  · cases broken
    rw [react, if_pos kind] at rest
    have ended := run_ends rest (halt_ends own config _ none none _)
    exact ⟨ended.1, ended.2.trans (asked_view own synced asked)⟩

/-- A loop that waits reads the clock once, and keeps the time it found or begins a wait. -/
theorem waits_view {status : CycleStatus} {detail : String} (waiting : loop.Waits status detail) :
    ∃ now, loop.readings = [now] ∧ loop.after = some (loop.before.getD now) := by
  obtain ⟨now, waited⟩ := waits own waiting
  exact ⟨now, congrArg View.readings waited.seen, congrArg View.timer waited.seen⟩

theorem breaks_view (broken : loop.Breaks) : loop.readings = [] ∧ loop.after = loop.before :=
  ⟨congrArg View.readings (breaks own broken).2, congrArg View.timer (breaks own broken).2⟩

/-- A loop that fails enters nothing. -/
theorem fails_enters (fails : loop.Fails) : ∀ e ∈ loop.final.events, enters e = false := by
  have none_ : loop.final.events.any enters = false := by
    show (view loop.final).entered = false
    rcases fails with ⟨status, detail, waiting⟩ | broken
    · obtain ⟨now, waited⟩ := waits own waiting
      rw [waited.seen]
    · rw [(breaks own broken).2]
  exact fun e member => Bool.eq_false_iff.2 (List.any_eq_false.1 none_ e member)

end Loop

/-! ## The loops of a process -/

section Lives

variable {env : Environment} {config : CycleConfig}

/-- The loops of a process, one after the other; anything may happen between them, but nothing else
writes the timer.  The clock does not go back. -/
structure Life (loops : List (Loop env config)) : Prop where
  begins : ∀ loop ∈ loops.head?, loop.before = none
  goesOn : loops.IsChain fun earlier later => later.before = earlier.after
  clock : loops.Pairwise fun earlier later => ∀ t ∈ earlier.readings, ∀ t' ∈ later.readings, t ≤ t'

/-- The timer as some loops leave it. -/
def leftBy (loops : List (Loop env config)) : Option Timestamp := loops.getLast?.bind Loop.after

@[simp] theorem leftBy_snoc (loops : List (Loop env config)) (loop : Loop env config) :
    leftBy (loops ++ [loop]) = loop.after := by simp [leftBy]

theorem Life.snoc {loops : List (Loop env config)} {loop : Loop env config} (life : Life (loops ++ [loop])) :
    Life loops ∧ loop.before = leftBy loops ∧
      ∀ earlier ∈ loops, ∀ t ∈ earlier.readings, ∀ t' ∈ loop.readings, t ≤ t' := by
  obtain ⟨begins, goesOn, clock⟩ := life
  obtain ⟨chain, _, link⟩ := List.isChain_append.1 goesOn
  obtain ⟨ordered, _, across⟩ := List.pairwise_append.1 clock
  refine ⟨⟨fun first member => begins first ?_, chain, ordered⟩, ?_, fun earlier member =>
    across earlier member loop (List.mem_singleton_self _)⟩
  · rw [List.head?_append, member]
    rfl
  · cases last : loops.getLast? with
    | none =>
        rw [List.getLast?_eq_none_iff.1 last] at begins ⊢
        exact begins loop rfl
    | some previous =>
        rw [leftBy, last]
        exact link previous last loop rfl

/-- The timer is left from before some loops, or a reading of one of them. -/
theorem Life.since_read (own : OwnTimer env) {earlier run : List (Loop env config)}
    (life : Life (earlier ++ run)) {since : Timestamp} (left : leftBy (earlier ++ run) = some since) :
    leftBy earlier = some since ∨ ∃ early ∈ run, since ∈ early.readings := by
  induction run using List.reverseRecOn with
  | nil => exact .inl (List.append_nil earlier ▸ left)
  | append_singleton run loop ih =>
      rw [← List.append_assoc] at life left
      obtain ⟨before, linked, _⟩ := life.snoc
      rw [leftBy_snoc] at left
      have kept : loop.after = loop.before →
          leftBy earlier = some since ∨ ∃ early ∈ run ++ [loop], since ∈ early.readings := by
        intro same
        rw [same, linked] at left
        rcases ih before left with afore | ⟨early, member, read⟩
        · exact .inl afore
        · exact .inr ⟨early, List.mem_append_left _ member, read⟩
      rcases loop.kinds with unread | clear | ⟨status, detail, waiting⟩ | broken
      · exact kept (congrArg View.timer (Loop.unread_view own unread))
      · rw [Loop.clears own clear] at left
        cases left
      · obtain ⟨now, readings, after⟩ := Loop.waits_view own waiting
        cases found : loop.before with
        | some earlier => exact kept (by rw [after, found, Option.getD_some])
        | none =>
            rw [after, found] at left
            refine .inr ⟨loop, List.mem_append_right _ (List.mem_singleton_self _), ?_⟩
            rw [readings]
            exact List.mem_singleton.2 (Option.some.inj left).symm
      · exact kept (Loop.breaks_view own broken).2

/-- The timer is a reading of an earlier loop. -/
theorem Life.read (own : OwnTimer env) {loops : List (Loop env config)} (life : Life loops)
    {since : Timestamp} (left : leftBy loops = some since) : ∃ loop ∈ loops, since ∈ loop.readings := by
  have whole : Life ([] ++ loops) := life
  rcases whole.since_read own left with never | read
  · cases never
  · exact read

/-- While loops fail the timer is no later than any of their readings. -/
theorem Life.since_le (own : OwnTimer env) {earlier run : List (Loop env config)} (life : Life (earlier ++ run))
    (fails : ∀ loop ∈ run, loop.Fails) {early : Loop env config} (member : early ∈ run) {t : Timestamp}
    (read : t ∈ early.readings) : ∃ since ≤ t, leftBy (earlier ++ run) = some since := by
  induction run using List.reverseRecOn with
  | nil => cases member
  | append_singleton run loop ih =>
      rw [← List.append_assoc] at life ⊢
      obtain ⟨before, linked, later⟩ := life.snoc
      have inside : early ∈ run → ∃ since ≤ t, loop.before = some since := fun earlyIn =>
        linked ▸ ih before (fun l there => fails l (List.mem_append_left _ there)) earlyIn
      rw [leftBy_snoc]
      rcases fails loop (List.mem_append_right _ (List.mem_singleton_self _)) with
        ⟨status, detail, waiting⟩ | broken
      · obtain ⟨now, readings, after⟩ := Loop.waits_view own waiting
        rw [after]
        rcases List.mem_append.1 member with earlyIn | last
        · obtain ⟨since, upTo, found⟩ := inside earlyIn
          exact ⟨since, upTo, by rw [found, Option.getD_some]⟩
        · obtain rfl := List.mem_singleton.1 last
          obtain rfl : t = now := List.mem_singleton.1 (readings ▸ read)
          cases found : early.before with
          | none => exact ⟨t, le_refl _, rfl⟩
          | some since =>
              obtain ⟨first, there, at_⟩ := before.read own (linked.symm.trans found)
              exact ⟨since, later first there since at_ t read, rfl⟩
      · obtain ⟨readings, after⟩ := Loop.breaks_view own broken
        rw [after]
        rcases List.mem_append.1 member with earlyIn | last
        · exact inside earlyIn
        · rw [List.mem_singleton.1 last, readings] at read
          cases read

/-- **The pending timeout.**  Where the last loops of a process all found unresolved orders, or
could not query them, none of them entered anything.  The last one halted if it came the timeout
after any of them; if a loop without an unresolved order went before them and it came earlier than
that, it went on waiting. -/
theorem pending_timeout (own : OwnTimer env) {earlier run : List (Loop env config)} {last : Loop env config}
    (life : Life (earlier ++ (run ++ [last]))) (fails : ∀ loop ∈ run ++ [last], loop.Fails) :
    (∀ loop ∈ run ++ [last], ∀ e ∈ loop.final.events, enters e = false) ∧
    (∀ loop ∈ run ++ [last], (∃ now, loop.readings = [now]) ∨ loop.Breaks ∧ LeftHalted env loop.final) ∧
    (∀ first ∈ run ++ [last], ∀ t ∈ first.readings, ∀ now ∈ last.readings,
      config.pendingTimeout ≤ now - t → LeftHalted env last.final) ∧
    (∀ clear, earlier.getLast? = some clear → clear.Clear →
      (∀ first ∈ run ++ [last], ∀ t ∈ first.readings, ∀ now ∈ last.readings,
        now - t < config.pendingTimeout) →
      ∀ status detail, last.Waits status detail → last.result = .ok { status, detail }) := by
  have fate : ∀ status detail, last.Waits status detail → ∃ now since, last.readings = [now] ∧
      leftBy (earlier ++ (run ++ [last])) = some since ∧
      (config.pendingTimeout ≤ now - since → LeftHalted env last.final) ∧
      (now - since < config.pendingTimeout → last.result = .ok { status, detail }) := by
    intro status detail waiting
    obtain ⟨now, waited⟩ := Loop.waits own waiting
    refine ⟨now, _, congrArg View.readings waited.seen, ?_, waited.halts, waited.goesOn⟩
    rw [← List.append_assoc, leftBy_snoc]
    exact congrArg View.timer waited.seen
  refine ⟨fun loop member => Loop.fails_enters own (fails loop member), fun loop member => ?_,
    fun first member t read now readNow late => ?_, fun clear before isClear early status detail waiting => ?_⟩
  · rcases fails loop member with ⟨status, detail, waiting⟩ | broken
    · obtain ⟨now, readings, _⟩ := Loop.waits_view own waiting
      exact .inl ⟨now, readings⟩
    · exact .inr ⟨broken, (Loop.breaks own broken).1⟩
  · rcases fails last (List.mem_append_right _ (List.mem_singleton_self _)) with
      ⟨status, detail, waiting⟩ | broken
    · obtain ⟨now', since, readings, left, halts, _⟩ := fate status detail waiting
      obtain ⟨since', upTo, left'⟩ := life.since_le own fails member read
      obtain rfl : since = since' := Option.some.inj (left.symm.trans left')
      obtain rfl : now = now' := List.mem_singleton.1 (readings ▸ readNow)
      exact halts (le_trans late (Int.sub_le_sub_left upTo now))
    · exact (Loop.breaks own broken).1
  · obtain ⟨now, since, readings, left, _, goesOn⟩ := fate status detail waiting
    have afresh : leftBy earlier = none := by
      rw [leftBy, before]
      exact Loop.clears own isClear
    obtain ⟨first, member, read⟩ := (life.since_read own left).resolve_left fun never => by
      cases afresh.symm.trans never
    exact goesOn (early first member since read now (readings ▸ List.mem_singleton_self now))

end Lives

namespace Unanswered

/-- The lookups of the venue fail, at one time. -/
def unanswered (now : Timestamp) : Cast where
  broker _ _ := .error (.valueError "no answer")
  now _ := now

/-- An order of an earlier loop whose outcome is unknown. -/
def unknownOrder : Order := reportOf (marketBuy ⟨1⟩ ⟨2⟩) .unknown ⟨0, decimal_zero⟩

def leftover (memory : Memory) : World :=
  { emptyWorld (.inMemory (InMemoryOrderStore.empty.put unknownOrder)) (.sqlAlchemy .empty .empty) with memory }

theorem locked_own : OwnTimer KillSwitch.locked := fun _ _ same => by rw [same]

theorem unanswered_sound (now : Timestamp) : (unanswered now).script.Sound (Serve KillSwitch.locked) :=
  Cast.sound KillSwitch.locked (fun _ => rfl) fun _ _ => rfl

theorem synced (memory : Memory) : ∃ flagged : Instant,
    (KillSwitch.syncExternalState plainConfig.killSwitch).Runs (Serve KillSwitch.locked)
      ⟨leftover memory, []⟩ (.ok .running) flagged ∧ flagged.world = leftover memory :=
  ⟨_, .request ⟨_, ⟨⟨"", rfl⟩, rfl⟩, rfl⟩ (.request ⟨_, ⟨rfl, rfl⟩, rfl⟩ (.pure _ _)), rfl⟩

theorem asked (memory : Memory) {m : Instant} (here : m.world = leftover memory) : ∃ resolved,
    (TradingCycle.resolvePending plainConfig).Runs (Serve KillSwitch.locked) m
      (.error (.valueError "no answer")) resolved := by
  obtain ⟨world, events⟩ := m
  obtain rfl : world = leftover memory := here
  have silent : Serve KillSwitch.locked (.broker (.getOrder unknownOrder.request.clientOrderId.str))
      (leftover memory) (.error (.valueError "no answer")) (leftover memory) := rfl
  exact ⟨_, .request ⟨_, .inl ⟨0, rfl⟩, _, rfl, rfl⟩ (.request ⟨_, .inl ⟨0, rfl⟩, _, rfl, rfl⟩
    (.request silent (.raise _ _)))⟩

/-- A loop that cannot query its order, with the clock at one time. -/
theorem failing_loop (memory : Memory) (now : Timestamp) : ∃ loop : Loop KillSwitch.locked plainConfig,
    loop.before = memory.unresolvedSince ∧ loop.Fails ∧ loop.readings = [now] := by
  obtain ⟨flagged, synced, here⟩ := synced memory
  obtain ⟨resolved, asked⟩ := asked memory here
  have rest := Prog.play_runs (unanswered_sound now)
    (react plainConfig quietMarket (.error (.valueError "no answer"))) resolved
  let loop : Loop KillSwitch.locked plainConfig := ⟨quietMarket, _, _, _, _, .read synced asked rest⟩
  have waiting : loop.Waits .brokerError "pending orders could not be queried at the broker" :=
    .unqueried rfl (by decide)
  obtain ⟨read, readings, _⟩ := Loop.waits_view locked_own waiting
  have unread : ∀ e ∈ resolved.events, clocked e = none := by
    have readings := congrArg View.readings (asked_view locked_own synced asked)
    intro e member
    simpa using List.filterMap_eq_nil_iff.1 readings e member
  have told : ∀ e ∈ loop.final.events, ∀ t, clocked e = some t → t = now := by
    refine forall_of_along (Prog.play_along (fun op m t is => ?_) _ (along_of_forall fun e member t is => ?_))
    · cases op with
      | host call =>
          cases call with
          | clock => exact (Option.some.inj is).symm
          | _ => cases is
      | _ => cases is
    · rw [unread e member] at is
      cases is
  have same : read = now := by
    have listed : read ∈ loop.readings := readings ▸ List.mem_singleton_self read
    obtain ⟨e, member, is⟩ := List.mem_filterMap.1 listed
    exact told e member read is
  exact ⟨loop, rfl, .inl ⟨_, _, waiting⟩, same ▸ readings⟩

end Unanswered

open Unanswered in
theorem pending_timeout_unanswered : ∃ first last : Loop KillSwitch.locked plainConfig,
    first.readings = [0] ∧ last.readings = [300000000] ∧ switchState last.final = .halted := by
  obtain ⟨first, begins, fails, read⟩ := failing_loop .fresh 0
  obtain ⟨last, goesOn, fails', read'⟩ :=
    failing_loop { Memory.fresh with unresolvedSince := first.after } 300000000
  have life : Life ([] ++ ([first] ++ [last])) := by
    refine ⟨?_, .cons_cons goesOn (.singleton _), List.pairwise_pair.2 ?_⟩
    · rintro _ ⟨⟩
      exact begins
    · rw [read, read']
      simp
  have fate := pending_timeout locked_own life (by simp [fails, fails'])
  refine ⟨first, last, read, read', (fate.2.2.1 first (by simp) 0 ?_ 300000000 ?_ ?_).halted ?_⟩
  · rw [read]
    exact List.mem_singleton_self _
  · rw [read']
    exact List.mem_singleton_self _
  · decide
  · rintro before after same halted
    rw [same, halted]

end AlgoTrader.App
