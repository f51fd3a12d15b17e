/-
# App.StopSafety -- a stop and the order already on its way

A cycle reads the switch once more when it judges a signal, and an approval means
that it read `running`.  The decision is then recorded, the order is saved and the
venue is asked about it, and nobody reads the switch again.  A stop in between is
not seen.

* `submitsWhileRunning` -- where a cycle calls `submit_order` the switch is running
  exactly when no stop has landed since the decision read it;
* `submitsStopped` -- a stop that lands during the venue lookup, and the call that
  is made after it.
-/
import AlgoTrader.App.Trading

namespace AlgoTrader.App

open AlgoTrader.Core Brokers Risk Execution Theory Process

open KillSwitch (stateOf severity)

set_option autoImplicit false

/-! ## What a run says -/

def readsSwitch : Served → Bool
  | ⟨.switch .load, _, _, _⟩ => true
  | _ => false

def assemblesInputs : Served → Bool
  | ⟨.host (.riskInputs ..), .ok _, _, _⟩ => true
  | _ => false

/-- The events since a decision last read the switch, which it does right after its
inputs were assembled. -/
def sinceDecision : List Served → List Served
  | [] => []
  | e :: earlier =>
      if readsSwitch e && earlier.head?.any assemblesInputs then [] else e :: sinceDecision earlier

/-- The switch leaves `running`. -/
def Stopped (e : Served) : Prop := stateOf e.before = .running ∧ stateOf e.after ≠ .running

/-- Other components move the switch only by `tighten` and `trip`. -/
structure OnlyStops (config : KillSwitch.Config) (env : Environment) : Prop where
  switch : ∀ before after, env.switchMoves before after →
    Relation.ReflTransGen (KillSwitch.Stop config) before after
  elsewhere : ∀ before after, env.elsewhere before after →
    Relation.ReflTransGen (KillSwitch.Stop config) before.switch after.switch

namespace StopSafety

/-- The switch is running exactly when nothing has stopped it since the decision. -/
def Steady (m : Instant) : Prop :=
  stateOf m.world = .running ↔ ∀ e ∈ sinceDecision m.events, ¬ Stopped e

def onSwitch : Op → Bool
  | .switch _ => true
  | _ => false

section Steps

variable {config : KillSwitch.Config} {env : Environment} {m : Instant} {op : Op}
  {reply : Except Exc op.Reply} {after : World}

/-- Whatever the loop waits for, the switch is only raised meanwhile. -/
theorem raised (stops : OnlyStops config env) (served : Serve env op m.world reply after)
    (other : onSwitch op = false) : severity (stateOf m.world) ≤ severity (stateOf after) := by
  have moved : ∀ {between : World}, between.switch = m.world.switch → env.moves between after →
      severity (stateOf m.world) ≤ severity (stateOf after) := by
    rintro between same ⟨switch, moves, rfl⟩
    exact KillSwitch.severity_le_of_stops (stops.switch _ _ (same ▸ moves))
  have awaited : env.elsewhere m.world after →
      severity (stateOf m.world) ≤ severity (stateOf after) :=
    fun moves => KillSwitch.severity_le_of_stops (stops.elsewhere _ _ moves)
  cases op with
  | switch call => cases other
  | store call =>
      obtain ⟨store, _, moves⟩ := served
      exact moved (by rfl) moves
  | audit call =>
      obtain ⟨audit, _, moves⟩ := served
      exact moved (by rfl) moves
  | broker call => exact awaited served
  | host call =>
      cases call with
      | utcNow => exact moved rfl served.2
      | clock => exact moved rfl served.2
      | uuid4 => exact moved rfl served.2
      | readMemory =>
          rw [served.2]
      | writeMemory memory =>
          rw [served.2]
          exact le_refl _
      | strategy state => exact moved rfl served
      | onRecorded order fills => exact moved rfl served
      | riskInputs signal state context => exact awaited served
      | observe state => exact awaited served
      | onOrderClosed order failure => exact awaited served
      | onHalt reason => exact awaited served

theorem sinceDecision_push (other : onSwitch op = false) :
    sinceDecision (m.push op reply after).events =
      m.event op reply after :: sinceDecision m.events := by
  have unread : readsSwitch (m.event op reply after) = false := by
    cases op with
    | switch call => cases other
    | _ => rfl
  rw [Moment.push, sinceDecision, unread]
  rfl

/-- Between the decision and the call nothing but a stop moves the switch. -/
theorem Steady.push (steady : Steady m) (stops : OnlyStops config env)
    (served : Serve env op m.world reply after) (other : onSwitch op = false) :
    Steady (m.push op reply after) := by
  have raised := raised stops served other
  unfold Steady at steady ⊢
  rw [sinceDecision_push other, List.forall_mem_cons, Moment.push_world]
  by_cases running : stateOf m.world = .running
  · have calm := steady.1 running
    have moved : Stopped (m.event op reply after) ↔ stateOf after ≠ .running :=
      ⟨fun stopped => stopped.2, fun left => ⟨running, left⟩⟩
    rw [moved, not_not]
    exact ⟨fun still => ⟨still, calm⟩, fun both => both.1⟩
  · have off : stateOf after ≠ .running := by
      intro back
      rw [back] at raised
      cases state : stateOf m.world with
      | running => exact running state
      | paused => rw [state] at raised; exact absurd raised (by decide)
      | halted => rw [state] at raised; exact absurd raised (by decide)
    exact ⟨fun back => absurd back off, fun both => absurd (steady.2 both.2) running⟩

end Steps

/-! ## Every step keeps it -/

def submits (op : Op) : Bool := (sends op).isSome

/-- An order that may still be sent. -/
def entering : Stage → Bool
  | .ordering .. | .reserved .. | .absent .. => true
  | _ => false

/-- The guard of a create: what the decision read still holds, unless a stop landed. -/
def contract (env : Environment) : Contract effects Exc World where
  serve := Serve env
  assume _ _ := True
  guard op m := submits op = true → Steady m
  invariant _ := True

def means : CyclePoint → Instant → Prop
  | .engine pt, m => entering pt.stage = true → Steady m
  | .supplied _ _, m => m.events.head?.any assemblesInputs = true
  | .judged _ inputs, m => inputs.killSwitch = some .running → Steady m
  | .minted _ (some inputs) _, m => inputs.killSwitch = some .running → Steady m
  | .decided _ decision, m => decision.approved = true → Steady m
  | _, _ => True

/-- The engine only goes on with an order it may still send; and it never asks for the
switch. -/
theorem entering_from {pt : EnginePoint} {op : Op} {next : Except Exc op.Reply → EnginePoint}
    (taken : Edge pt op next) {reply : Except Exc op.Reply}
    (here : entering (next reply).stage = true) :
    entering pt.stage = true ∧ onSwitch op = false := by
  -- Nothing leads on from a stage that a reply has ended.
  have ended : entering (next reply).stage = false → entering pt.stage = true ∧ onSwitch op = false := by
    intro rests
    rw [here] at rests
    cases rests
  cases taken with
  | reserve ids request approval own approved => exact ⟨rfl, rfl⟩
  | lookup ids request approval persisted created => exact ⟨rfl, rfl⟩
  | quiet pt op quiet => exact ⟨here, by cases quiet <;> rfl⟩
  | submitOrder ids request approval =>
      exact ended (afterSubmit_stage (P := fun stage => entering stage = false) rfl (fun _ _ => rfl)
        fun _ _ _ _ => rfl)
  | getFills ids order =>
      exact ended (afterFills_stage (P := fun stage => entering stage = false) rfl (fun _ => rfl) fun _ _ => rfl)
  | addFills ids order fills =>
      exact ended (afterAddFills_stage (P := fun stage => entering stage = false) rfl fun _ => rfl)
  | recover ids stage id asked =>
      exact ended (afterRecover_stage (P := fun stage => entering stage = false) rfl fun _ _ => rfl)
  | pending ids stage =>
      rw [afterPending_stage] at here
      cases here
  | closeNeverSent ids order failure closedAt => cases here
  | saveFailed ids order => cases here
  | settle ids order fills enough => cases here
  | get ids stage id => cases here

theorem means_rest {pt : EnginePoint} (short : entering pt.stage = false) (m : Instant) :
    means (.engine pt) m := by
  intro here
  rw [short] at here
  cases here

theorem annotated {config : CycleConfig} {env : Environment}
    (stops : OnlyStops config.killSwitch env) :
    Annotation (contract env) (CycleEdge config) means := by
  refine ⟨fun _ _ _ => trivial, ?_⟩
  intro pt op next edge m held
  cases edge with
  | engine pt op next taken =>
      refine ⟨fun create => ?_, fun reply after (served : Serve env op m.world reply after) _ => ?_⟩
      · cases taken with
        | submitOrder ids request approval => exact held rfl
        | quiet pt op quiet => cases quiet <;> cases create
        | _ => cases create
      · intro here
        obtain ⟨entered, other⟩ := entering_from taken here
        exact (held entered).push stops served other
  | switch pt op own =>
      have quiet : submits op = false := by cases own <;> rfl
      exact ⟨fun create => absurd create (by rw [quiet]; exact Bool.false_ne_true),
        fun _ _ _ _ => means_rest rfl _⟩
  | pending pt =>
      refine ⟨nofun, fun reply after _ _ => ?_⟩
      unfold afterCyclePending
      split
      · trivial
      · exact means_rest rfl _
      · exact means_rest rfl _
  | clearQuiet op quiet =>
      have other : submits op = false := by cases quiet <;> rfl
      exact ⟨fun create => absurd create (by rw [other]; exact Bool.false_ne_true),
        fun _ _ _ _ => trivial⟩
  | recordedQuiet signal op quiet =>
      have other : submits op = false := by cases quiet <;> rfl
      exact ⟨fun create => absurd create (by rw [other]; exact Bool.false_ne_true),
        fun _ _ _ _ => trivial⟩
  | strategy state =>
      refine ⟨nofun, fun reply after _ _ => ?_⟩
      unfold afterStrategy
      split
      · trivial
      · exact means_rest rfl _
  | recordSignal signal =>
      refine ⟨nofun, fun reply after _ _ => ?_⟩
      unfold afterRecordSignal
      split
      · trivial
      · exact means_rest rfl _
  | load signal => exact ⟨nofun, fun _ _ _ _ => trivial⟩
  | riskInputs signal state context =>
      refine ⟨nofun, fun reply after _ _ => ?_⟩
      unfold afterInputs
      split
      · exact rfl
      · trivial
  | readSwitch signal inputs =>
      refine ⟨nofun, fun reply after served _ => ?_⟩
      obtain ⟨switch, ⟨replied, same⟩, moved⟩ := served
      subst replied
      intro running
      -- The decision reads the switch here: nothing has happened since.
      have now : sinceDecision (m.push (.switch .load) (.ok m.world.switch.memory) after).events =
          [] := by
        rw [Moment.push, sinceDecision, if_pos]
        exact Bool.and_eq_true_iff.2 ⟨rfl, held⟩
      have here : stateOf after = .running := by
        rw [moved, same]
        exact Option.some.inj running
      unfold Steady
      rw [now]
      exact ⟨fun _ e member => (by cases member), fun _ => here⟩
  | mint signal inputs =>
      refine ⟨nofun, fun reply after served _ => ?_⟩
      cases reply with
      | error exc => exact means_rest rfl _
      | ok approvalId => exact fun running => (held running).push stops served rfl
  | mintRefusal signal =>
      refine ⟨nofun, fun reply after _ _ => ?_⟩
      cases reply with
      | error exc => exact means_rest rfl _
      | ok approvalId => trivial
  | stamp signal inputs approvalId =>
      refine ⟨nofun, fun reply after served _ => ?_⟩
      cases reply with
      | error exc => exact means_rest rfl _
      | ok approvedAt =>
          cases inputs with
          | none => exact fun approved => by cases approved
          | some inputs =>
              intro approved
              have running := running_of_approved approved
              exact Steady.push (held running) stops served rfl
  | recordDecision signal decision =>
      refine ⟨nofun, fun reply after served _ => ?_⟩
      cases reply with
      | error exc => exact means_rest rfl _
      | ok _ =>
          simp only [afterDecision]
          split
          · rename_i approved
            exact fun _ => (held approved).push stops served rfl
          · exact means_rest rfl _

end StopSafety

open StopSafety in
/-- **Where a cycle calls `submit_order`**, the switch is running exactly when nothing
has stopped it since the decision read it. -/
theorem submitsWhileRunning {env : Environment} {config : CycleConfig} {initial : World → Prop}
    (stops : OnlyStops config.killSwitch env) {c : Config effects Exc World}
    (reached : (tradingSystem env config initial).Reachable c) {request : OrderRequest}
    {approval : RiskApproval} {next : Except Exc Order → Proc Unit}
    (calls : c.running = some (.request (.broker (.submitOrder request approval)) next)) :
    stateOf c.moment.world = .running ↔ ∀ e ∈ sinceDecision c.moment.events, ¬ Stopped e := by
  have along : Along (contract env).assume c.moment.events := along_of_forall fun _ _ => trivial
  have upheld := tradingSystem_upheld (C := contract env) rfl (annotated stops)
    (fun _ _ => trivial) (fun m _ => means_rest rfl m) (fun _ _ _ _ => trivial) reached along
  exact upheld.guard calls rfl

namespace StopSafety

/-! ## A stop during the lookup -/

/-- Other components stop the switch and leave the stores alone. -/
def stopsOnly : Environment where
  lossy := true
  switchMoves := Relation.ReflTransGen (KillSwitch.Stop plainConfig.killSwitch)
  elsewhere before after :=
    after.store = before.store ∧ after.audit = before.audit ∧ after.memory = before.memory ∧
      Relation.ReflTransGen (KillSwitch.Stop plainConfig.killSwitch) before.switch after.switch

theorem stopsOnly_stops : OnlyStops plainConfig.killSwitch stopsOnly :=
  ⟨fun _ _ moved => moved, fun _ _ moved => moved.2.2.2⟩

theorem calm_sound : calm.script.Sound (Serve stopsOnly) :=
  Cast.sound stopsOnly (fun _ => .refl) fun _ _ => ⟨rfl, rfl, rfl, .refl⟩

/-- The operator's stop route, run to its end. -/
def operatorStop (world : World) : Except Exc Bool × Instant :=
  (KillSwitch.tighten plainConfig.killSwitch .halted "operator stop" (some "operator")).play
    calm.script ⟨world, []⟩

theorem operatorStop_stops (world : World) :
    KillSwitch.Stop plainConfig.killSwitch world.switch (operatorStop world).2.world.switch := by
  have sound : calm.script.Sound (Serve KillSwitch.locked) :=
    Cast.sound KillSwitch.locked (fun _ => rfl) fun _ _ => rfl
  exact .tighten .halted "operator stop" (some "operator") (Prog.play_runs sound _ ⟨world, []⟩)

/-- As `calm`, but the operator stops trading while the venue is asked about the order. -/
def stoppedMeanwhile : Cast :=
  { calm with
    meanwhile := fun
      | .broker (.getOrder _), m =>
          { m.world with switch := (operatorStop m.world).2.world.switch }
      | _, m => m.world }

theorem stoppedMeanwhile_sound : stoppedMeanwhile.script.Sound (Serve stopsOnly) := by
  refine Cast.sound stopsOnly (fun _ => .refl) fun op m => ?_
  cases op with
  | broker call =>
      cases call with
      | getOrder id => exact ⟨rfl, rfl, rfl, .single (operatorStop_stops m.world)⟩
      | _ => exact ⟨rfl, rfl, rfl, .refl⟩
  | _ => exact ⟨rfl, rfl, rfl, .refl⟩

end StopSafety

open StopSafety in
theorem submitsWhileRunning_calm :
    stateOf (atSubmit calm).2.world = .running ↔
      ∀ e ∈ sinceDecision (atSubmit calm).2.events, ¬ Stopped e := by
  have waits : (atSubmit calm).1.asks.bind sends = some calmRequest := by decide +kernel
  obtain ⟨approval, next, calls⟩ := request_of_sends waits
  have reached := atSubmit_reached calm_sound
  exact submitsWhileRunning stopsOnly_stops reached (congrArg some calls)

open StopSafety in
/-- A stop during the venue lookup is not seen. -/
theorem submitsStopped :
    ∃ (c : Config effects Exc World) (request : OrderRequest) (approval : RiskApproval)
      (next : Except Exc Order → Proc Unit),
      (tradingSystem stopsOnly plainConfig
        (· = emptyWorld (.sqlAlchemy .empty) (.sqlAlchemy .empty .empty))).Reachable c ∧
      c.running = some (.request (.broker (.submitOrder request approval)) next) ∧
      stateOf c.moment.world = .halted := by
  have waits : (atSubmit stoppedMeanwhile).1.asks.bind sends = some calmRequest := by
    decide +kernel
  obtain ⟨approval, next, calls⟩ := request_of_sends waits
  have reached := atSubmit_reached stoppedMeanwhile_sound
  exact ⟨_, calmRequest, approval, next, reached, congrArg some calls, by decide +kernel⟩

end AlgoTrader.App
