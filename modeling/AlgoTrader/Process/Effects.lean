/-
# Process.Effects -- everything a component asks of the world around it

The requests of the engine, the closer, the kill switch and the trading cycle,
one constructor each, with the type of an ordinary reply.  They are grouped by
who answers: the order store, the audit store, the broker, the switch's memory,
file and journal, and the process itself with its clock, its memory and its
hooks.  What a reply may be is `Process.World`.
-/
import AlgoTrader.Execution.Audit
import AlgoTrader.Risk.Engine
import AlgoTrader.Theory.Interaction

namespace AlgoTrader.Process

open AlgoTrader.Core Brokers Risk Execution Theory

set_option autoImplicit false

/-- The methods of `OrderStore`. -/
inductive StoreOp where
  | reserveWithCreated (request : OrderRequest) (approval : RiskApproval)
  | update (order : Order)
  | addFills (fills : List Fill)
  | get (clientOrderId : String)
  | pending
  | closeUnreceived (clientOrderId : String) (eventType : String) (payload : Payload)
      (at_ : Timestamp)

abbrev StoreOp.Reply : StoreOp → Type
  | .reserveWithCreated .. => Order × Bool
  | .update .. => Unit
  | .addFills .. => Unit
  | .get .. => Option Order
  | .pending => List Order
  | .closeUnreceived .. => Bool

/-- The methods of `AuditStore`. -/
inductive AuditOp where
  | recordSignal (signal : Signal)
  | recordRiskDecision (decision : RiskApproval)

/-- The methods of `BrokerInterface` the order path awaits. -/
inductive BrokerOp where
  | getOrder (clientOrderId : String)
  | submitOrder (request : OrderRequest) (approval : RiskApproval)
  | getFills (clientOrderId : String)

abbrev BrokerOp.Reply : BrokerOp → Type
  | .getOrder .. => Option Order
  | .submitOrder .. => Order
  | .getFills .. => List Fill

/-- A kill-switch transition, as it is journalled. -/
structure SwitchEvent where
  eventId : Uuid
  previous : KillSwitchState
  target : KillSwitchState
  actor : String
  automatic : Bool
  reason : String
  checklist : List String
  createdAt : Timestamp
  deriving DecidableEq

/-- What a `KillSwitch` object remembers. -/
structure SwitchMemory where
  state : KillSwitchState
  auditEvents : List SwitchEvent
  unrecorded : List SwitchEvent

/-- The steps of the kill switch: its memory, its file, its journal, and the flags
it reads. -/
inductive SwitchOp where
  | load
  | save (memory : SwitchMemory)
  | stageFile (state : KillSwitchState)
  | replaceFile (state : KillSwitchState)
  | journal (events : List SwitchEvent)
  | environ
  | flagExists
  | readFlag

abbrev SwitchOp.Reply : SwitchOp → Type
  | .load => SwitchMemory
  | .save .. => Unit
  | .stageFile .. => Unit
  | .replaceFile .. => Unit
  | .journal .. => Unit
  | .environ => String
  | .flagExists => Bool
  | .readFlag => String

/-- What the loop itself knows that the risk inputs depend on. -/
structure CycleContext where
  killSwitch : KillSwitchState
  orderedSignalIds : List Uuid
  lastOrderAt : Option Timestamp

/-- What the engine and the cycle remember between calls. -/
structure Memory where
  consecutiveNeverSent : Nat
  orderedSignalIds : List Uuid
  lastOrderAt : Dict String Timestamp
  unresolvedSince : Option Timestamp

def Memory.fresh : Memory := ⟨0, [], .empty, none⟩

/-- The process itself: clocks, fresh identifiers, memory, strategy and hooks. -/
inductive HostOp where
  | utcNow
  | clock
  | uuid4
  | readMemory
  | writeMemory (memory : Memory)
  | strategy (state : MarketState)
  | riskInputs (signal : Signal) (state : MarketState) (context : CycleContext)
  | observe (state : MarketState)
  | onRecorded (order : Order) (fills : List Fill)
  | onOrderClosed (order : Order) (failure : Exc)
  | onHalt (reason : String)

abbrev HostOp.Reply : HostOp → Type
  | .utcNow | .clock => Timestamp
  | .uuid4 => Uuid
  | .readMemory => Memory
  | .writeMemory .. => Unit
  | .strategy .. => Option Signal
  | .riskInputs .. => RiskInputs
  | .observe .. | .onRecorded .. | .onOrderClosed .. | .onHalt .. => Unit

inductive Op where
  | store (op : StoreOp)
  | audit (op : AuditOp)
  | broker (op : BrokerOp)
  | switch (op : SwitchOp)
  | host (op : HostOp)

abbrev Op.Reply : Op → Type
  | .store op => op.Reply
  | .audit _ => Unit
  | .broker op => op.Reply
  | .switch op => op.Reply
  | .host op => op.Reply

abbrev effects : Signature := ⟨Op, Op.Reply⟩

/-- A program of the process. -/
abbrev Proc (α : Type) := Prog effects Exc α

abbrev ask (op : Op) : Proc op.Reply := Prog.call (S := effects) op

end AlgoTrader.Process
