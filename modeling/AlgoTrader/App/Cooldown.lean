/-
# App.Cooldown -- orders of one symbol are apart

What a cycle ordered, and when, is written to its memory before the order is handed to the engine.
The next cycle puts it into the context of its risk inputs, the inputs turn it into two answers, and
the gates let a signal pass on those alone.  Whatever becomes of a submission, the memory stays.

* `cleared_of_inputs` -- what the answers of the inputs say of the orders handed over so far;
* `Spaced` -- the orders are apart, and each of them is remembered;
* `place_spaced` -- an order that is let through is apart from all before it, and remembered;
* `orders_apart` -- so the orders of every run of a cycle are apart.
-/
import AlgoTrader.App.Equity
import AlgoTrader.App.MemoryUse
import AlgoTrader.Risk.GateLaws

namespace AlgoTrader.App

open AlgoTrader.Core Brokers Risk Execution Theory Process

set_option autoImplicit false

/-! ## The orders handed over -/

/-- What the clock of the cycle and of its risk inputs is read to be. -/
def reading : Served → Option Timestamp
  | ⟨.host .clock, .ok now, _, _⟩ => some now
  | ⟨.host (.riskInputs ..), .ok inputs, _, _⟩ => some inputs.now
  | _ => none

/-- An order that was handed to the engine, and what the cycle's clock last said before. -/
structure Handed where
  request : OrderRequest
  reading : Option Timestamp

/-- The orders handed over, the newest first. -/
def handed : List Served → List Handed
  | [] => []
  | e :: earlier =>
      match handsOver e.op with
      | some (request, _) => ⟨request, earlier.findSome? clocked⟩ :: handed earlier
      | none => handed earlier

/-- Two orders are for different signals, and if they are of one symbol the clock went on by the
cooldown between them. -/
structure Apart (cooldown : Duration) (later earlier : Handed) : Prop where
  signals : later.request.signalId ≠ earlier.request.signalId
  times : later.request.symbol = earlier.request.symbol → ∃ now last,
    later.reading = some now ∧ earlier.reading = some last ∧ cooldown ≤ now - last

/-- The clock does not go back. -/
def Steady (e : Served) (earlier : List Served) : Prop :=
  ∀ now, reading e = some now → ∀ e' ∈ earlier, ∀ t, reading e' = some t → t ≤ now

/-- The risk inputs are those of a `BrokerRiskInputs`, over whatever the broker answers then. -/
def FromBroker (cooldown : Duration) : Served → Prop
  | ⟨.host (.riskInputs signal state context), .ok inputs, _, _⟩ =>
      ∃ (source : BrokerRiskInputs) (losses : LossState), source.cooldown = cooldown ∧
        inputs = (source.riskInputs signal state context losses).1
  | _ => True

/-- No other component writes what the cycle remembers of its orders. -/
def OwnOrders (env : Environment) : Prop :=
  ∀ before after, env.elsewhere before after →
    after.memory.orderedSignalIds = before.memory.orderedSignalIds ∧
      after.memory.lastOrderAt = before.memory.lastOrderAt

/-- The runs of one cycle object: its memory outlives every call. -/
def oneCycle (env : Environment) (config : CycleConfig) (initial : World → Prop) : Runtime :=
  { tradingSystem env config initial with restart := fun _ _ => False }

namespace Cooldown

/-- An order is in the memory, with a time no earlier than its own. -/
structure Remembered (memory : Memory) (h : Handed) : Prop where
  signal : h.request.signalId ∈ memory.orderedSignalIds
  last : ∃ t last, h.reading = some t ∧ memory.lastOrderAt.get? h.request.symbol = some last ∧ t ≤ last

structure Spaced (cooldown : Duration) (m : Instant) : Prop where
  apart : (handed m.events).Pairwise (Apart cooldown)
  remembered : ∀ h ∈ handed m.events, Remembered m.world.memory h

/-- An order was for another signal, and if it is of the symbol the cooldown is over since. -/
structure Over (cooldown : Duration) (signal : Signal) (readings : Timestamp → Prop) (h : Handed) : Prop where
  other : h.request.signalId ≠ signal.signalId
  passed : h.request.symbol = signal.symbol → ∃ now last, readings now ∧ h.reading = some last ∧
    cooldown ≤ now - last

def readAt (m : Instant) (t : Timestamp) : Prop := ∃ e ∈ m.events, reading e = some t

def Cleared (cooldown : Duration) (signal : Signal) (m : Instant) : Prop :=
  ∀ h ∈ handed m.events, Over cooldown signal (readAt m) h

def contract (env : Environment) (cooldown : Duration) : Contract effects Exc World where
  serve := Serve env
  assume e earlier := Steady e earlier ∧ FromBroker cooldown e
  guard _ _ := True
  invariant := Spaced cooldown

/-! ## Requests that hand nothing over -/

section Events

variable {cooldown : Duration} {signal : Signal} {m : Instant} {op : Op} {reply : Except Exc op.Reply}
  {after : World}

theorem handed_push (other : handsOver op = none) :
    handed (m.push op reply after).events = handed m.events := by
  rw [Moment.push_events, handed, other]

theorem reading_of_clocked {e : Served} {t : Timestamp} (is : clocked e = some t) : reading e = some t := by
  unfold clocked at is
  split at is
  · exact is
  · cases is

/-- The time of an order is a reading before it. -/
theorem readAt_of_handed {m : Instant} {h : Handed} (member : h ∈ handed m.events) {t : Timestamp}
    (is : h.reading = some t) : readAt m t := by
  obtain ⟨world, events⟩ := m
  have older : ∀ e earlier, readAt ⟨world, earlier⟩ t → readAt ⟨world, e :: earlier⟩ t :=
    fun e earlier ⟨e', there, read⟩ => ⟨e', List.mem_cons_of_mem _ there, read⟩
  induction events with
  | nil => cases member
  | cons e earlier ih =>
      change h ∈ handed (e :: earlier) at member
      rw [handed] at member
      split at member
      · rcases List.mem_cons.1 member with rfl | member
        · obtain ⟨e', there, read⟩ := List.exists_of_findSome?_eq_some is
          exact older e earlier ⟨e', there, reading_of_clocked read⟩
        · exact older e earlier (ih member)
      · exact older e earlier (ih member)

theorem readAt_push {t : Timestamp} (read : readAt m t) : readAt (m.push op reply after) t := by
  obtain ⟨e, there, is⟩ := read
  exact ⟨e, List.mem_cons_of_mem _ there, is⟩

theorem Spaced.push (spaced : Spaced cooldown m) (other : handsOver op = none)
    (signals : after.memory.orderedSignalIds = m.world.memory.orderedSignalIds)
    (last : after.memory.lastOrderAt = m.world.memory.lastOrderAt) :
    Spaced cooldown (m.push op reply after) := by
  obtain ⟨apart, remembered⟩ := spaced
  have same : handed (m.push op reply after).events = handed m.events := handed_push other
  rw [← same] at apart remembered
  refine ⟨apart, fun h member => ?_⟩
  obtain ⟨signal, time⟩ := remembered h member
  exact ⟨signals ▸ signal, last ▸ time⟩

theorem Cleared.push (cleared : Cleared cooldown signal m) (other : handsOver op = none) :
    Cleared cooldown signal (m.push op reply after) := by
  intro h member
  rw [handed_push other] at member
  obtain ⟨different, passed⟩ := cleared h member
  refine ⟨different, fun same => ?_⟩
  obtain ⟨now, last, read, rest⟩ := passed same
  exact ⟨now, last, readAt_push read, rest⟩

end Events

section Requests

variable {env : Environment} {cooldown : Duration}

theorem serve_orders (own : OwnOrders env) {op : Op} {before after : World} {reply : Except Exc op.Reply}
    (served : Serve env op before reply after) (other : writesMemory op = false) :
    after.memory.orderedSignalIds = before.memory.orderedSignalIds ∧
      after.memory.lastOrderAt = before.memory.lastOrderAt :=
  ⟨serve_memory Memory.orderedSignalIds (fun _ _ moved => (own _ _ moved).1) served other,
    serve_memory Memory.lastOrderAt (fun _ _ moved => (own _ _ moved).2) served other⟩

theorem Spaced.served (own : OwnOrders env) {m : Instant} {op : Op} {reply : Except Exc op.Reply} {after : World}
    (spaced : Spaced cooldown m) (quiet : writesMemory op = false) (other : handsOver op = none)
    (served : (contract env cooldown).serve op m.world reply after) : Spaced cooldown (m.push op reply after) := by
  have answered : Serve env op m.world reply after := served
  obtain ⟨signals, last⟩ := serve_orders own answered quiet
  exact spaced.push other signals last

/-- A write of the memory that leaves the orders in it. -/
theorem write_spaced {m : Instant} {memory : Memory} (spaced : Spaced cooldown m)
    (signals : memory.orderedSignalIds = m.world.memory.orderedSignalIds)
    (last : memory.lastOrderAt = m.world.memory.lastOrderAt) :
    wp (contract env cooldown).logic (fun _ => Spaced cooldown) (ask (.host (.writeMemory memory))) m := by
  refine wp_call.2 ⟨trivial, fun reply after served _ => ?_⟩
  obtain ⟨rfl, rfl⟩ := served
  have kept : Spaced cooldown (m.push (.host (.writeMemory memory)) (.ok ()) { m.world with memory }) :=
    spaced.push rfl signals last
  exact ⟨kept, kept⟩

/-- Orders stay apart, and what is not about new orders stays, until an order is handed over. -/
theorem framed (own : OwnOrders env) (cooldown : Duration) (inv : Instant → Prop)
    (kept : ∀ (m : Instant) (op : Op) (reply : Except Exc op.Reply) (after : World),
      handsOver op = none → inv m → inv (m.push op reply after)) :
    Framed env (contract env cooldown) fun m => Spaced cooldown m ∧ inv m where
  serve := rfl
  call op quiet other m held := by
    refine wp_call.2 ⟨trivial, fun reply after served _ => ?_⟩
    have spaced := held.1.served own quiet other served
    exact ⟨spaced, spaced, kept m op reply after other held.2⟩
  count m count held := by
    refine wp_call.2 ⟨trivial, fun reply after served _ => ?_⟩
    obtain ⟨rfl, rfl⟩ := served
    have spaced : Spaced cooldown (m.push (recount m.world.memory count) (.ok ())
        { m.world with memory := { m.world.memory with consecutiveNeverSent := count } }) :=
      held.1.push rfl rfl rfl
    exact ⟨spaced, spaced, kept _ _ _ _ rfl held.2⟩

theorem framed_spaced (own : OwnOrders env) (cooldown : Duration) :
    Framed env (contract env cooldown) (Spaced cooldown) := by
  simpa using framed own cooldown (fun _ => True) fun _ _ _ _ _ _ => trivial

end Requests

/-! ## Decisions -/

/-- The two answers the inputs give from the memory of the cycle. -/
theorem riskInputs_remember (source : BrokerRiskInputs) (signal : Signal) (state : MarketState)
    (context : CycleContext) (losses : LossState) :
    (∀ ordered, (source.riskInputs signal state context losses).1.duplicateSignalIds = some ordered →
      ordered = context.orderedSignalIds) ∧
    ((source.riskInputs signal state context losses).1.symbolCooldownClear = some true →
      ∀ last, context.lastOrderAt = some last →
        source.cooldown ≤ (source.riskInputs signal state context losses).1.now - last) := by
  unfold BrokerRiskInputs.riskInputs
  dsimp only
  split
  · constructor
    · rintro ordered ⟨⟩
    · rintro ⟨⟩
  · refine ⟨fun ordered is => (Option.some.inj is).symm, fun clear last is => ?_⟩
    rw [is] at clear
    exact of_decide_eq_true (Option.some.inj clear)

section Decisions

variable {env : Environment} {cooldown : Duration} {signal : Signal} {limits : RiskLimits}

/-- A signal the memory lets pass is another one than those ordered, and its symbol has cooled down. -/
theorem cleared_of_inputs {m : Instant} {state : MarketState} {context : CycleContext} {inputs : RiskInputs}
    {after : World} (spaced : Spaced cooldown m)
    (signals : context.orderedSignalIds = m.world.memory.orderedSignalIds)
    (last : context.lastOrderAt = m.world.memory.lastOrderAt.get? signal.symbol)
    (supplied : FromBroker cooldown ⟨.host (.riskInputs signal state context), .ok inputs, m.world, after⟩)
    (unordered : NotOrdered signal inputs limits) (clear : CooldownClear signal inputs limits) :
    Cleared cooldown signal (m.push (.host (.riskInputs signal state context)) (.ok inputs) after) := by
  obtain ⟨source, losses, rfl, rfl⟩ := supplied
  obtain ⟨ordered, listed, absent⟩ := unordered
  obtain ⟨same, cooled⟩ := riskInputs_remember source signal state context losses
  rw [same ordered listed, signals] at absent
  intro h member
  obtain ⟨known, t, latest, read, at_, upTo⟩ := spaced.remembered h member
  refine ⟨fun equal => absent (equal ▸ known), fun symbol => ?_⟩
  refine ⟨_, t, ⟨_, List.mem_cons_self .., rfl⟩, read, ?_⟩
  rw [symbol] at at_
  exact le_trans (cooled clear latest (last.trans at_)) (Int.sub_le_sub_left upTo _)

/-- A decision, and what an approval says of the orders handed over so far. -/
def Decided (cooldown : Duration) (signal : Signal) (result : Except Exc RiskApproval) (m : Instant) : Prop :=
  Spaced cooldown m ∧ ∀ decision, result = .ok decision → decision.approved = true → Cleared cooldown signal m

theorem judge_decided (own : OwnOrders env) (config : CycleConfig) (inputs : RiskInputs) {m : Instant}
    (spaced : Spaced cooldown m)
    (passes : NotOrdered signal inputs config.limits ∧ CooldownClear signal inputs config.limits →
      Cleared cooldown signal m) :
    wp (contract env cooldown).logic (Decided cooldown signal) (TradingCycle.judge config signal inputs) m := by
  have sustained := framed own cooldown (fun m =>
    NotOrdered signal inputs config.limits ∧ CooldownClear signal inputs config.limits → Cleared cooldown signal m)
    fun m op reply after other held passing => (held passing).push other
  refine (sustained.idle (idle_switch KillSwitch.state_switchOnly)).andThen ⟨spaced, passes⟩
    (fun _ _ held => ⟨held.1, by simp⟩) fun current m₁ held₁ => ?_
  refine (sustained.call _ rfl rfl).andThen held₁ (fun _ _ held => ⟨held.1, by simp⟩) fun approvalId m₂ held₂ => ?_
  refine (sustained.call _ rfl rfl).andThen held₂ (fun _ _ held => ⟨held.1, by simp⟩) fun approvedAt m₃ held₃ => ?_
  refine ⟨held₃.1, fun decision is approved => held₃.2 ?_⟩
  cases is
  have passed := evaluate_approved_iff.1 approved
  exact ⟨passed ("duplicate_prevention", NotOrdered) (by simp [conditions]),
    passed ("symbol_cooldown", CooldownClear) (by simp [conditions])⟩

theorem decide_decided (own : OwnOrders env) (config : CycleConfig) (state : MarketState) {m : Instant}
    (spaced : Spaced cooldown m) :
    wp (contract env cooldown).logic (Decided cooldown signal) (TradingCycle.decide_ config signal state) m := by
  have sustained := framed_spaced own cooldown
  refine (sustained.idle (idle_switch KillSwitch.state_switchOnly)).andThen spaced
    (fun _ _ held => ⟨held, by simp⟩) fun current m₁ held₁ => ?_
  refine sustained.read held₁ fun m₂ here held₂ => ?_
  refine wp_bind.2 (wp_attempt.2 (wp_call.2 ⟨trivial, fun reply after served assumed => ?_⟩))
  have kept := held₂.served own rfl rfl served
  refine ⟨kept, ?_⟩
  cases reply with
  | error exc =>
      refine (sustained.call _ rfl rfl).andThen kept (fun _ _ held => ⟨held, by simp⟩) fun approvalId m₃ held₃ => ?_
      refine (sustained.call _ rfl rfl).andThen held₃ (fun _ _ held => ⟨held, by simp⟩) fun approvedAt m₄ held₄ => ?_
      refine ⟨held₄, fun decision is approved => ?_⟩
      cases is
      cases approved
  | ok inputs =>
      refine judge_decided own config inputs kept fun passing => ?_
      exact cleared_of_inputs held₂ (by rw [here]) (by rw [here]) assumed.2 passing.1 passing.2

end Decisions

/-! ## Placing an order -/

section Placing

variable {env : Environment} {cooldown : Duration}

/-- A change of the memory, and what follows where it is made. -/
def modified (change : Memory → Memory) (m : Instant) : Instant :=
  (m.push (.host .readMemory) (.ok m.world.memory) m.world).push
    (.host (.writeMemory (change m.world.memory))) (.ok ()) { m.world with memory := change m.world.memory }

theorem modify_bind {change : Memory → Memory} {β : Type} {f : Unit → Proc β} {m : Instant}
    {post : Except Exc β → Instant → Prop} (spaced : Spaced cooldown m)
    (remembers : ∀ h ∈ handed m.events, Remembered (change m.world.memory) h)
    (rest : Spaced cooldown (modified change m) →
      wp (contract env cooldown).logic post (f ()) (modified change m)) :
    wp (contract env cooldown).logic post (modifyMemory change >>= f) m := by
  refine wp_bind.2 (wp_bind.2 (wp_call.2 ⟨trivial, fun reply after served _ => ?_⟩))
  obtain ⟨rfl, rfl⟩ := served
  refine ⟨spaced.push rfl rfl rfl, wp_call.2 ⟨trivial, fun reply after served _ => ?_⟩⟩
  obtain ⟨rfl, rfl⟩ := served
  have changed : Spaced cooldown (modified change m) := ⟨spaced.apart, remembers⟩
  exact ⟨changed, rest changed⟩

/-- The clock, once it is read, is no earlier than anything it said before. -/
theorem clock_bind (own : OwnOrders env) {β : Type} {f : Timestamp → Proc β} {m : Instant}
    {post : Except Exc β → Instant → Prop} (spaced : Spaced cooldown m)
    (rest : ∀ (now : Timestamp) (after : World), after.memory = m.world.memory →
      Spaced cooldown (m.push (.host .clock) (.ok now) after) →
      (∀ t, readAt (m.push (.host .clock) (.ok now) after) t → t ≤ now) →
      wp (contract env cooldown).logic post (f now) (m.push (.host .clock) (.ok now) after)) :
    wp (contract env cooldown).logic post (ask (.host .clock) >>= f) m := by
  refine wp_bind.2 (wp_call.2 ⟨trivial, fun reply after served assumed => ?_⟩)
  have spaced' := spaced.served own rfl rfl served
  obtain ⟨⟨now, rfl⟩, moved⟩ := served
  refine ⟨spaced', rest now after (moves_memory moved) spaced' ?_⟩
  rintro t ⟨e, _ | ⟨_, there⟩, read⟩
  · exact (Option.some.inj read).ge
  · exact assumed.1 now rfl e there t read

theorem Cleared.modified {signal : Signal} {m : Instant} (cleared : Cleared cooldown signal m)
    (change : Memory → Memory) : Cleared cooldown signal (modified change m) :=
  (cleared.push rfl).push rfl

/-- Everything is written down for an order of the signal, apart from all handed over so far. -/
structure Ready (cooldown : Duration) (signal : Signal) (now : Timestamp) (m : Instant) : Prop where
  spaced : Spaced cooldown m
  known : signal.signalId ∈ m.world.memory.orderedSignalIds
  last : m.world.memory.lastOrderAt.get? signal.symbol = some now
  latest : m.events.findSome? clocked = some now
  cleared : ∀ h ∈ handed m.events, Over cooldown signal (· ≤ now) h

theorem Ready.reserved (own : OwnOrders env) {config : CycleConfig} {signal : Signal} {decision : RiskApproval}
    {now : Timestamp} {m : Instant} (ready : Ready cooldown signal now m) :
    wp (contract env cooldown).logic (fun _ => Spaced cooldown)
      (ask (.store (.reserveWithCreated (TradingCycle.orderRequest config signal) decision))) m := by
  refine wp_call.2 ⟨trivial, fun reply after served _ => ?_⟩
  have answered : Serve env (.store (.reserveWithCreated (TradingCycle.orderRequest config signal) decision))
    m.world reply after := served
  obtain ⟨signals, times⟩ := serve_orders own answered rfl
  have remembered : ∀ h, Remembered m.world.memory h → Remembered after.memory h :=
    fun h ⟨signal, last⟩ => ⟨signals ▸ signal, times ▸ last⟩
  have apart : ∀ h ∈ handed m.events,
      Apart cooldown ⟨TradingCycle.orderRequest config signal, m.events.findSome? clocked⟩ h := by
    intro h member
    obtain ⟨other, passed⟩ := ready.cleared h member
    refine ⟨fun same => other same.symm, fun same => ?_⟩
    obtain ⟨read, last, upTo, at_, apart⟩ := passed same.symm
    exact ⟨now, last, ready.latest, at_, le_trans apart (Int.sub_le_sub_right upTo last)⟩
  have spaced : Spaced cooldown (m.push (.store (.reserveWithCreated (TradingCycle.orderRequest config signal)
      decision)) reply after) := by
    refine ⟨List.pairwise_cons.2 ⟨apart, ready.spaced.apart⟩, ?_⟩
    rintro h (_ | ⟨_, member⟩)
    · exact remembered _ ⟨ready.known, now, now, ready.latest, ready.last, le_refl _⟩
    · exact remembered h (ready.spaced.remembered h member)
  exact ⟨spaced, spaced⟩

/-- An order is remembered with a time no earlier than any before. -/
theorem remembers_ordered {m : Instant} {now : Timestamp} (spaced : Spaced cooldown m)
    (newest : ∀ t, readAt m t → t ≤ now) (symbol : String) : ∀ h ∈ handed m.events,
      Remembered { m.world.memory with lastOrderAt := m.world.memory.lastOrderAt.set symbol now } h := by
  intro h member
  obtain ⟨known, t, last, read, at_, upTo⟩ := spaced.remembered h member
  refine ⟨known, t, ?_⟩
  by_cases same : h.request.symbol = symbol
  · rw [same]
    exact ⟨now, read, Dict.get?_set_self _ _ _, newest t (readAt_of_handed member read)⟩
  · exact ⟨last, read, (Dict.get?_set_ne _ _ same).trans at_, upTo⟩

/-- The clock was just read, and the time is written down. -/
theorem ready_modified {signal : Signal} {now : Timestamp} {m : Instant}
    (known : signal.signalId ∈ m.world.memory.orderedSignalIds) (latest : m.events.findSome? clocked = some now)
    (newest : ∀ t, readAt m t → t ≤ now) (cleared : Cleared cooldown signal m)
    (spaced : Spaced cooldown (modified (fun memory =>
      { memory with lastOrderAt := memory.lastOrderAt.set signal.symbol now }) m)) :
    Ready cooldown signal now (modified (fun memory =>
      { memory with lastOrderAt := memory.lastOrderAt.set signal.symbol now }) m) where
  spaced := spaced
  known := known
  last := Dict.get?_set_self _ _ _
  latest := latest
  cleared h member := by
    obtain ⟨other, passed⟩ := cleared h member
    refine ⟨other, fun same => ?_⟩
    obtain ⟨read, last, at_, rest⟩ := passed same
    exact ⟨read, last, newest read at_, rest⟩

/-- However the submission ends, the order is apart from those before it, and remembered. -/
theorem place_spaced (own : OwnOrders env) (config : CycleConfig) (signal : Signal) (decision : RiskApproval)
    {m : Instant} (spaced : Spaced cooldown m) (cleared : Cleared cooldown signal m) :
    wp (contract env cooldown).logic (fun _ => Spaced cooldown)
      (TradingCycle.placeOrder config signal decision) m := by
  have sustained := framed_spaced own cooldown
  refine modify_bind spaced (fun h member => ?_) fun spaced₁ => ?_
  · obtain ⟨known, last⟩ := spaced.remembered h member
    exact ⟨List.mem_insert_of_mem known, last⟩
  have cleared₁ := cleared.modified fun memory =>
    { memory with orderedSignalIds := memory.orderedSignalIds.insert signal.signalId }
  refine clock_bind own spaced₁ fun now after same spaced₂ newest => ?_
  refine modify_bind spaced₂ (remembers_ordered spaced₂ newest signal.symbol) fun spaced₃ => ?_
  have known : signal.signalId ∈ after.memory.orderedSignalIds := by
    rw [same]
    exact List.mem_insert_self
  have ready := ready_modified known rfl newest (cleared₁.push rfl) spaced₃
  refine wp_bind.2 (wp_attempt.2 (wp_mono (sustained.submit_sustains config.hooks _ decision ready.spaced
    (ready.reserved own)) ?_))
  rintro (exc | order) m' held
  · exact sustained.submitFailed_sustains config exc signal decision m' held
  · exact held

end Placing

/-! ## Runs -/

section Runs

variable {env : Environment} (own : OwnOrders env) (cooldown : Duration) (config : CycleConfig)

include own

theorem unresolved_sustains (status : CycleStatus) (detail : String) :
    Sustains (contract env cooldown).logic (Spaced cooldown) (TradingCycle.unresolved config status detail) := by
  have sustained := framed_spaced own cooldown
  refine fun m spaced => clock_bind own spaced fun now after _ spaced₁ _ => ?_
  refine sustained.read spaced₁ fun m₂ here spaced₂ => Sustains.after (write_spaced spaced₂ ?_ ?_) fun _ => ?_
  · rw [here]
  · rw [here]
  split
  · exact sustained.halt_sustains config _ none none
  · exact sustains_pure _

theorem act_sustains (signal : Signal) (state : MarketState) :
    Sustains (contract env cooldown).logic (Spaced cooldown) (TradingCycle.act config signal state) := by
  intro m spaced
  refine wp_bind.2 (wp_mono (decide_decided own config state spaced) ?_)
  rintro (exc | decision) m₁ ⟨spaced₁, decided⟩
  · exact spaced₁
  have sustained := framed own cooldown (fun m => decision.approved = true → Cleared cooldown signal m)
    fun _ _ _ _ other held approved => (held approved).push other
  refine (sustained.call (.audit (.recordRiskDecision decision)) rfl rfl).attempt.andThen
    ⟨spaced₁, decided decision rfl⟩ (fun _ _ held => held.1) fun outcome m₂ held => ?_
  cases outcome with
  | error exc => exact (framed_spaced own cooldown).auditFailed_sustains config exc _ signal m₂ held.1
  | ok _ =>
      dsimp only
      split
      · rename_i approved
        exact place_spaced own config signal decision held.1 (held.2 approved)
      · exact held.1

theorem consult_sustains (state : MarketState) :
    Sustains (contract env cooldown).logic (Spaced cooldown) (TradingCycle.consult config state) := by
  have sustained := framed_spaced own cooldown
  refine fun m spaced => modify_bind spaced (fun h member => ?_) fun spaced₁ => ?_
  · obtain ⟨known, last⟩ := spaced.remembered h member
    exact ⟨known, last⟩
  refine (sustained.call (.host (.strategy state)) rfl rfl).andThen spaced₁ (fun _ _ held => held)
    fun signal m₂ held => ?_
  cases signal with
  | none => exact ((sustained.sampleEquity_sustains config state).bind fun _ => sustains_pure _) m₂ held
  | some signal =>
      refine ((sustained.call (.audit (.recordSignal signal)) rfl rfl).attempt.bind fun outcome => ?_) m₂ held
      cases outcome with
      | error exc => exact sustained.auditFailed_sustains config exc _ signal
      | ok _ => exact act_sustains own cooldown config signal state

theorem run_sustains (state : MarketState) :
    Sustains (contract env cooldown).logic (Spaced cooldown) (TradingCycle.run config state) := by
  have sustained := framed_spaced own cooldown
  refine (sustained.idle (sync_idle config.killSwitch)).bind fun current => ?_
  refine (sustained.idle (resolvePending_idle config)).attempt.bind fun found => ?_
  cases found with
  | error exc =>
      dsimp only
      split
      · exact sustained.halt_sustains config _ none none
      · exact unresolved_sustains own cooldown config _ _
  | ok pending =>
      dsimp only
      split
      · exact consult_sustains own cooldown config state
      · exact unresolved_sustains own cooldown config _ _

theorem call_sustains (call : TradingCall) :
    Sustains (contract env cooldown).logic (Spaced cooldown) (call.program config) := by
  have sustained := framed_spaced own cooldown
  cases call with
  | cycle state => exact (run_sustains own cooldown config state).discard
  | tighten target reason actor =>
      exact (sustained.idle (idle_switch (KillSwitch.tighten_switchOnly _ _ _ _))).discard
  | rearm actor reason checklist =>
      exact (sustained.idle (idle_switch (KillSwitch.rearm_switchOnly _ _ _ _))).discard

end Runs

/-- A submission of an approved decision of the cycle's begins by reserving its order. -/
theorem submit_hands_over (config : CycleConfig) (signal : Signal) (inputs : RiskInputs) (approvalId : Uuid)
    (approvedAt : Timestamp)
    (approved : (evaluate approvalId approvedAt signal inputs config.limits).approved = true) :
    (ExecutionEngine.submit config.hooks (TradingCycle.orderRequest config signal)
      (evaluate approvalId approvedAt signal inputs config.limits)).asks.bind handsOver =
      some (TradingCycle.orderRequest config signal,
        evaluate approvalId approvedAt signal inputs config.limits) := by
  unfold ExecutionEngine.submit
  rw [if_neg (by simp [TradingCycle.orderRequest]), if_neg (by simp [approved])]
  rfl

end Cooldown

/-- **Cooldown and duplicate prevention.**  An order the cycle submits is one it hands over.  In every
run of one cycle whose risk inputs are those of a `BrokerRiskInputs` on its clock, no two orders
handed over are for one signal, and the clock went on by the cooldown between any two of one symbol,
whatever became of the earlier one. -/
theorem orders_apart {env : Environment} (own : OwnOrders env) {config : CycleConfig} {initial : World → Prop}
    {cooldown : Duration} {c : Config effects Exc World}
    (reached : (oneCycle env config initial).Reachable c)
    (assumed : Along (fun e earlier => Steady e earlier ∧ FromBroker cooldown e) c.moment.events) :
    (∀ signal inputs approvalId approvedAt,
      (evaluate approvalId approvedAt signal inputs config.limits).approved = true →
      (ExecutionEngine.submit config.hooks (TradingCycle.orderRequest config signal)
        (evaluate approvalId approvedAt signal inputs config.limits)).asks.bind handsOver =
        some (TradingCycle.orderRequest config signal,
          evaluate approvalId approvedAt signal inputs config.limits)) ∧
    (handed c.moment.events).Pairwise (Apart cooldown) := by
  have start : ∀ world, initial world → Cooldown.Spaced cooldown ⟨world, []⟩ := fun _ _ => ⟨.nil, nofun⟩
  have upheld : Upheld (Cooldown.contract env cooldown) c := by
    refine System.sound rfl start ?_ (fun _ _ _ never => ?_) reached assumed
    · exact fun call m spaced => Cooldown.call_sustains own cooldown config call m spaced
    · exact never.elim
  exact ⟨fun signal inputs approvalId approvedAt => Cooldown.submit_hands_over config signal inputs approvalId
    approvedAt, upheld.1.apart⟩

namespace Cooldown

/-! ## Two orders of one symbol -/

/-- A clock that goes on by a minute whenever it is read. -/
def nextMinute (m : Instant) : Timestamp := (m.events.filterMap reading).foldr max 0 + 60000000

theorem le_latest {t : Timestamp} {readings : List Timestamp} (member : t ∈ readings) :
    t ≤ readings.foldr max 0 := by
  induction readings with
  | nil => cases member
  | cons first rest ih =>
      rcases List.mem_cons.1 member with rfl | later
      · exact le_max_left _ _
      · exact le_trans (ih later) (le_max_right _ _)

theorem before_nextMinute {m : Instant} {e : Served} (there : e ∈ m.events) {t : Timestamp}
    (read : reading e = some t) : t ≤ nextMinute m :=
  le_trans (le_latest (List.mem_filterMap.2 ⟨e, there, read⟩)) (Int.le_add_of_nonneg_right (by decide))

theorem dollars_nonneg : (0 : Decimal) ≤ 10000 := by norm_num

/-- An account with dollars and no holdings, at a venue that quotes a hundred. -/
def account (now : Timestamp) : BrokerRiskInputs where
  broker :=
    { getBalances := .ok [⟨"USD", ⟨10000, dollars_nonneg⟩, ⟨0, decimal_zero⟩, now⟩]
      getPositions := .ok []
      getQuote := fun _ => .ok { quietMarket.quote with asOf := now, receivedAt := now }
      healthy := true }
  constraints _ := soundInputs.constraints
  estimatedSlippage := 0
  cooldown := 60000000
  clock := now

/-- A market that last closed at the quote. -/
def closedMarket : MarketState :=
  { quietMarket with candles := [{
      symbol := "BTC-USD", interval := "1h", openedAt := 0, closedAt := 1
      openPrice := ⟨100, decimal_hundred⟩, high := ⟨100, decimal_hundred⟩
      low := ⟨100, decimal_hundred⟩, close := ⟨100, decimal_hundred⟩, volume := ⟨0, decimal_zero⟩
      source := "venue", asOf := 1, ingestedAt := 1, closeAfterOpen := Int.one_pos
      highIsHigh := quiet_level, lowIsLow := quiet_level
      closeIsWithinBar := ⟨quiet_level, quiet_level⟩ }] }

/-- A strategy that always buys, at a venue that takes every order. -/
def buying : Cast where
  broker := calm.broker
  strategy _ m := .ok (some { buySignal with signalId := ⟨Fin.ofNat (2 ^ 128) m.events.length⟩ })
  now := nextMinute

/-- The run of the cast, with risk inputs over the account. -/
def script : Script effects Exc World
  | .host (.riskInputs signal state context), m =>
      (.ok ((account (nextMinute m)).riskInputs signal state context {}).1, m.world)
  | op, m => buying.script op m

theorem script_sound : script.Sound (Serve oneAtATime) := by
  have played : buying.script.Sound (Serve oneAtATime) :=
    Cast.sound oneAtATime (fun _ => trivial) fun _ _ => ⟨rfl, rfl, rfl⟩
  intro op m
  unfold script
  split
  · exact ⟨rfl, rfl, rfl⟩
  · exact played _ m

theorem script_keeps (op : Op) (m : Instant) :
    Steady (m.event op (script op m).1 (script op m).2) m.events ∧
      FromBroker 60000000 (m.event op (script op m).1 (script op m).2) := by
  have told : ∀ now, reading (m.event op (script op m).1 (script op m).2) = some now → now = nextMinute m := by
    intro now is
    cases op with
    | host call =>
        cases call with
        | clock => exact (Option.some.inj is).symm
        | riskInputs signal state context => exact (Option.some.inj is).symm
        | _ => cases is
    | _ => cases is
  refine ⟨fun now is e there t read => ?_, ?_⟩
  · rw [told now is]
    exact before_nextMinute there read
  · cases op with
    | host call =>
        cases call with
        | riskInputs signal state context => exact ⟨account (nextMinute m), {}, rfl, rfl⟩
        | _ => trivial
    | _ => trivial

def buyer : Runtime :=
  oneCycle oneAtATime plainConfig (· = emptyWorld (.sqlAlchemy .empty) (.sqlAlchemy .empty .empty))

/-- Two cycles, each to its end. -/
def twice : Instant :=
  buyer.rehearse script [(.cycle closedMarket, 60), (.cycle closedMarket, 60)]
    ⟨emptyWorld (.sqlAlchemy .empty) (.sqlAlchemy .empty .empty), []⟩

theorem twice_reached : buyer.Reachable ⟨twice, none⟩ := by
  have opening : buyer.initial (emptyWorld (.sqlAlchemy .empty) (.sqlAlchemy .empty .empty)) := rfl
  unfold twice
  exact System.rehearse_reachable script_sound _ (.init opening)

theorem twice_along :
    Along (fun e earlier => Steady e earlier ∧ FromBroker 60000000 e) twice.events := by
  unfold twice
  exact buyer.rehearse_along script_keeps _ trivial

end Cooldown

open Cooldown in
theorem orders_apart_twice :
    (handed twice.events).map (fun h => (h.request.symbol, h.reading)) =
      [("BTC-USD", some 240000000), ("BTC-USD", some 120000000)] ∧
    (handed twice.events).Pairwise (Apart 60000000) :=
  ⟨by decide +kernel, (orders_apart (fun _ _ still => by rw [still.2.2]; exact ⟨rfl, rfl⟩) twice_reached
    twice_along).2⟩

end AlgoTrader.App
