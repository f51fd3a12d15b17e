/-
# Process.Rehearsal -- one run of the world, played out

A `Cast` fixes everything the world leaves open: what the broker answers, what
the strategy and the risk inputs are, what other components do while a request is
awaited.  The stores, the switch and the memory then do what they always do, and
a program run against a cast is one of its runs (`Cast.sound`).  The modules about
the order path use casts to exhibit the runs their results exclude.
-/
import AlgoTrader.Process.World

namespace AlgoTrader.Process

open AlgoTrader.Core Brokers Risk Execution Theory

set_option autoImplicit false

structure Cast where
  broker : (op : BrokerOp) → Instant → Except Exc op.Reply
  /-- The world after an awaited request. -/
  meanwhile : Op → Instant → World := fun _ m => m.world
  strategy : MarketState → Instant → Except Exc (Option Signal) := fun _ _ => .ok none
  riskInputs : Signal → Instant → Except Exc RiskInputs :=
    fun _ _ => .error (.valueError "no risk inputs")
  freshId : Instant → Uuid := fun _ => ⟨0⟩
  now : Instant → Timestamp := fun _ => 0

namespace Cast

variable (cast : Cast)

/-- The switch without a fault, and without a flag. -/
def switch : (op : SwitchOp) → SwitchWorld → Except Exc op.Reply × SwitchWorld
  | .load, w => (.ok w.memory, w)
  | .save memory, w => (.ok (), { w with memory })
  | .stageFile _, w => (.ok (), w)
  | .replaceFile state, w => (.ok (), { w with file := some state })
  | .journal events, w => (.ok (), w.record events)
  | .environ, w => (.ok "", w)
  | .flagExists, w => (.ok false, w)
  | .readFlag, w => (.ok "", w)

def host : (op : HostOp) → Instant → Except Exc op.Reply × World
  | .utcNow, m => (.ok (cast.now m), m.world)
  | .clock, m => (.ok (cast.now m), m.world)
  | .uuid4, m => (.ok (cast.freshId m), m.world)
  | .readMemory, m => (.ok m.world.memory, m.world)
  | .writeMemory memory, m => (.ok (), { m.world with memory })
  | .strategy state, m => (cast.strategy state m, m.world)
  | .onRecorded .., m => (.ok (), m.world)
  | .riskInputs signal state context, m =>
      (cast.riskInputs signal m, cast.meanwhile (.host (.riskInputs signal state context)) m)
  | .observe state, m => (.ok (), cast.meanwhile (.host (.observe state)) m)
  | .onOrderClosed order failure, m =>
      (.ok (), cast.meanwhile (.host (.onOrderClosed order failure)) m)
  | .onHalt reason, m => (.ok (), cast.meanwhile (.host (.onHalt reason)) m)

def script : Script effects Exc World
  | .store op, m =>
      ((op.apply (cast.now m) m.world.store).1,
        { m.world with store := (op.apply (cast.now m) m.world.store).2 })
  | .audit op, m =>
      ((op.apply m.world.audit).1, { m.world with audit := (op.apply m.world.audit).2 })
  | .broker op, m => (cast.broker op m, cast.meanwhile (.broker op) m)
  | .switch op, m => ((switch op m.world.switch).1, { m.world with switch := (switch op m.world.switch).2 })
  | .host op, m => cast.host op m

variable {cast}

theorem switch_sound (op : SwitchOp) (w : SwitchWorld) :
    SwitchServe op w (switch op w).1 (switch op w).2 := by
  cases op with
  | load => exact ⟨rfl, rfl⟩
  | save memory => exact ⟨rfl, rfl⟩
  | stageFile state => exact rfl
  | replaceFile state => exact .inl ⟨rfl, rfl⟩
  | journal events => exact .inl ⟨rfl, rfl⟩
  | environ => exact ⟨⟨_, rfl⟩, rfl⟩
  | flagExists => exact ⟨⟨_, rfl⟩, rfl⟩
  | readFlag => exact rfl

/-- A cast plays one of the runs of its environment. -/
theorem sound (env : Environment) (quiet : ∀ switch, env.switchMoves switch switch)
    (allowed : ∀ op m, env.elsewhere m.world (cast.meanwhile op m)) :
    cast.script.Sound (Serve env) := by
  have still : ∀ w, env.moves w w := fun w => ⟨w.switch, quiet _, rfl⟩
  intro op m
  cases op with
  | store op => exact ⟨_, .inl ⟨cast.now m, rfl⟩, still _⟩
  | audit op => exact ⟨_, .inl ⟨0, rfl⟩, still _⟩
  | broker op => exact allowed _ m
  | switch op => exact ⟨_, switch_sound op m.world.switch, rfl⟩
  | host op =>
      cases op with
      | utcNow => exact ⟨⟨_, rfl⟩, still _⟩
      | clock => exact ⟨⟨_, rfl⟩, still _⟩
      | uuid4 => exact ⟨⟨_, rfl⟩, still _⟩
      | readMemory => exact ⟨rfl, rfl⟩
      | writeMemory memory => exact ⟨rfl, rfl⟩
      | strategy state => exact still _
      | onRecorded order fills => exact still _
      | riskInputs signal state context => exact allowed _ m
      | observe state => exact allowed _ m
      | onOrderClosed order failure => exact allowed _ m
      | onHalt reason => exact allowed _ m

end Cast

/-! ## A world to start from -/

/-- Components run one at a time, and only the switch and the venue move meanwhile. -/
def oneAtATime : Environment where
  lossy := true
  switchMoves _ _ := True
  elsewhere before after :=
    after.store = before.store ∧ after.audit = before.audit ∧ after.memory = before.memory

theorem oneAtATime_serialized : oneAtATime.Serialized := fun _ _ moved => moved

/-- A world over empty books, with the switch running and an empty venue. -/
def emptyWorld (store : OrderStore) (audit : AuditStore) : World where
  store
  audit
  switch := ⟨⟨.running, [], []⟩, none, []⟩
  memory := .fresh
  venue := ⟨fun _ => none, fun _ => [], fun _ => 0⟩

/-- A market buy of one unit. -/
def marketBuy (id signalId : Uuid) : OrderRequest where
  signalId
  strategyVersion := "v1"
  symbol := "BTC-USD"
  side := .buy
  orderType := .market
  quantity := ⟨1, decimal_one⟩
  limitPrice := none
  clientOrderId := id
  correlationId := ⟨7⟩
  priceValid := priceValid_market

def approvalOf (request : OrderRequest) : RiskApproval where
  approvalId := ⟨11⟩
  signalId := request.signalId
  approved := true
  reason := "all ordered risk gates passed"
  failedGate := none
  approvedAt := 0
  correlationId := request.correlationId

/-- The order a venue reports for a request. -/
def reportOf (request : OrderRequest) (status : OrderStatus) (filled : NonNegativeDecimal) : Order where
  orderId := request.clientOrderId
  request
  status
  filledQuantity := filled
  averageFillPrice := none
  createdAt := 0
  updatedAt := 0

end AlgoTrader.Process
