/-
# Risk.Engine -- ordered, fail-closed risk gates

`evaluate` applies the gates of `RISK_GATES` in their safety order and stops at
the first refusal.  Every input is optional: a missing one refuses.

* `evaluate_approved` -- an approval means that every gate let the signal pass.
* `running_of_approved` -- in particular the switch the inputs carry is running.
-/
import AlgoTrader.Core.Models

namespace AlgoTrader.Risk

open AlgoTrader.Core

set_option autoImplicit false

structure ExchangeConstraints where
  minQuantity : Decimal
  maxQuantity : Option Decimal
  quantityIncrement : Decimal
  minNotional : Decimal
  maxNotional : Option Decimal
  priceIncrement : Decimal

structure RiskLimits where
  maxQuoteAgeSeconds : Int := 60
  maxVolatility : Decimal := 1 / 10
  maxReferenceDivergence : Decimal := 2 / 100
  maxOpenPositions : Int := 5
  maxTradeNotional : Decimal := 1000
  maxSymbolPosition : Decimal := 1
  maxAggregateAllocation : Decimal := 10000
  minCashReserve : Decimal := 100
  maxDailyLoss : Decimal := 100
  maxDrawdown : Decimal := 20 / 100
  maxSlippage : Decimal := 1 / 100

/-- Inputs are optional deliberately: omission is a refusal, never a pass. -/
structure RiskInputs where
  killSwitch : Option KillSwitchState
  operatorPaused : Option Bool
  tradingWindowOpen : Option Bool
  brokerHealthy : Option Bool
  quote : Option Quote
  referencePrice : Option Decimal
  volatility : Option Decimal
  duplicateSignalIds : Option (List Uuid)
  symbolCooldownClear : Option Bool
  openPositions : Option Int
  openNotional : Option Decimal
  symbolPosition : Option Decimal
  aggregateAllocation : Option Decimal
  availableCash : Option Decimal
  dailyLoss : Option Decimal
  drawdown : Option Decimal
  expectedPrice : Option Decimal
  estimatedSlippage : Option Decimal
  constraints : Option ExchangeConstraints
  now : Timestamp

/-! ## The gates

Each gate gives the reason it refuses a signal for, if it does. -/

abbrev Gate := Signal → RiskInputs → RiskLimits → Option String

/-- The first refusal of a list of checks. -/
def refuse : List (Bool × String) → Option String
  | [] => none
  | (refused, reason) :: rest => if refused then some reason else refuse rest

def buying (signal : Signal) : Bool := signal.side = .buy

def notional (signal : Signal) (inputs : RiskInputs) : Decimal :=
  signal.quantity * inputs.expectedPrice.getD 0

/-- `left % right == 0`. -/
def multipleOf (left right : Decimal) : Bool := (left / right).den = 1

def killSwitch : Gate := fun _ inputs _ =>
  match inputs.killSwitch with
  | none => some "kill-switch state is unavailable"
  | some .running => none
  | some .paused => some "kill switch is paused"
  | some .halted => some "kill switch is halted"

def operatorPauseWindow : Gate := fun _ inputs _ =>
  match inputs.operatorPaused, inputs.tradingWindowOpen with
  | some paused, some windowOpen => refuse [
      (paused, "operator pause is active"),
      (!windowOpen, "trading window is closed")]
  | _, _ => some "operator pause/window state is unavailable"

def brokerHealth : Gate := fun _ inputs _ =>
  match inputs.brokerHealthy with
  | none => some "broker health is unavailable"
  | some healthy => refuse [(!healthy, "broker is unavailable or unhealthy")]

def stalePrice : Gate := fun signal inputs limits =>
  match inputs.quote with
  | none => some "current quote is unavailable"
  | some quote =>
      let age := inputs.now - quote.asOf
      refuse [
        (quote.symbol ≠ signal.symbol, "current quote is unavailable"),
        (age < 0 || age > limits.maxQuoteAgeSeconds * 1000000, "quote is stale or from the future")]

def abnormalVolatility : Gate := fun _ inputs limits =>
  match inputs.volatility with
  | none => some "volatility input is unavailable"
  | some volatility => refuse [
      (volatility < 0 || volatility > limits.maxVolatility,
        "volatility exceeds the configured limit")]

def priceReference : Gate := fun _ inputs limits =>
  match inputs.referencePrice, inputs.expectedPrice with
  | some reference, some expected => refuse [
      (reference ≤ 0 || expected ≤ 0, "price/reference must be positive"),
      (|expected - reference| / reference > limits.maxReferenceDivergence,
        "price/reference divergence exceeds the limit")]
  | _, _ => some "price/reference input is unavailable"

def duplicatePrevention : Gate := fun signal inputs _ =>
  match inputs.duplicateSignalIds with
  | none => some "duplicate-order state is unavailable"
  | some ordered => refuse [(ordered.contains signal.signalId, "signal already has an order")]

def symbolCooldown : Gate := fun _ inputs _ =>
  match inputs.symbolCooldownClear with
  | none => some "symbol cooldown state is unavailable"
  | some clear => refuse [(!clear, "symbol cooldown is active")]

-- Exposure and loss limits stop a buy from adding risk; a sell is checked against the held
-- position and never trapped by them.  Every input must still be known.
def maximumOpenPositions : Gate := fun signal inputs limits =>
  match inputs.openPositions with
  | none => some "maximum open positions reached or unknown"
  | some positions => refuse [
      (buying signal && positions ≥ limits.maxOpenPositions,
        "maximum open positions reached or unknown")]

def tradeNotional : Gate := fun signal inputs limits =>
  match inputs.openNotional with
  | none => some "open notional is unavailable"
  | some _ => refuse [
      (notional signal inputs > limits.maxTradeNotional, "trade notional exceeds the limit")]

def symbolPosition : Gate := fun signal inputs limits =>
  match inputs.symbolPosition with
  | none => some "per-symbol position is unknown"
  | some held => refuse [
      (!buying signal && signal.quantity.1 > held,
        "sell exceeds the held position; shorting is not supported"),
      (buying signal && held + signal.quantity.1 > limits.maxSymbolPosition,
        "per-symbol position limit reached")]

def aggregateAllocation : Gate := fun signal inputs limits =>
  match inputs.aggregateAllocation with
  | none => some "aggregate allocation limit reached or unknown"
  | some allocated => refuse [
      (buying signal && allocated + notional signal inputs > limits.maxAggregateAllocation,
        "aggregate allocation limit reached or unknown")]

def cashReserve : Gate := fun signal inputs limits =>
  match inputs.availableCash with
  | none => some "cash reserve is insufficient or unknown"
  | some available => refuse [
      (buying signal && available - notional signal inputs < limits.minCashReserve,
        "cash reserve is insufficient or unknown")]

/-- Daily loss and drawdown: a measure that is unknown, negative or, for a buy, too large. -/
def lossLimit (measure : RiskInputs → Option Decimal) (bound : RiskLimits → Decimal)
    (reason : String) : Gate := fun signal inputs limits =>
  match measure inputs with
  | none => some reason
  | some loss => refuse [(loss < 0 || (buying signal && loss > bound limits), reason)]

def dailyLoss : Gate :=
  lossLimit RiskInputs.dailyLoss RiskLimits.maxDailyLoss "daily loss limit reached or unknown"

def drawdown : Gate :=
  lossLimit RiskInputs.drawdown RiskLimits.maxDrawdown "drawdown limit reached or unknown"

def slippage : Gate := fun _ inputs limits =>
  match inputs.estimatedSlippage with
  | none => some "slippage input exceeds the limit or is unknown"
  | some estimated => refuse [
      (estimated < 0 || estimated > limits.maxSlippage,
        "slippage input exceeds the limit or is unknown")]

def exchangeConstraints : Gate := fun signal inputs _ =>
  match inputs.constraints with
  | none => some "current exchange constraints are unavailable"
  | some constraints =>
      let value := notional signal inputs
      refuse [
        (constraints.minQuantity ≤ 0 || constraints.quantityIncrement ≤ 0 ||
          constraints.priceIncrement ≤ 0, "exchange increments are invalid"),
        (signal.quantity.1 < constraints.minQuantity, "quantity is below the exchange minimum"),
        (constraints.maxQuantity.any (signal.quantity.1 > ·),
          "quantity exceeds the exchange maximum"),
        (constraints.maxNotional.any (value > ·), "notional exceeds the exchange maximum"),
        (value < constraints.minNotional, "notional is below the exchange minimum"),
        (!multipleOf (signal.quantity - constraints.minQuantity) constraints.quantityIncrement,
          "quantity does not match the exchange increment"),
        (!multipleOf (inputs.expectedPrice.getD 0) constraints.priceIncrement,
          "price does not match the exchange increment")]

/-- `RISK_GATES`, each under the name a refusal cites. -/
def riskGates : List (String × Gate) := [
  ("kill_switch", killSwitch),
  ("operator_pause_window", operatorPauseWindow),
  ("broker_health", brokerHealth),
  ("stale_price", stalePrice),
  ("abnormal_volatility", abnormalVolatility),
  ("price_reference", priceReference),
  ("duplicate_prevention", duplicatePrevention),
  ("symbol_cooldown", symbolCooldown),
  ("maximum_open_positions", maximumOpenPositions),
  ("trade_notional", tradeNotional),
  ("symbol_position", symbolPosition),
  ("aggregate_allocation", aggregateAllocation),
  ("cash_reserve", cashReserve),
  ("daily_loss", dailyLoss),
  ("drawdown", drawdown),
  ("slippage", slippage),
  ("exchange_constraints", exchangeConstraints)]

/-! ## Evaluation -/

/-- The name and reason of the first gate that refuses. -/
def firstRefusal (signal : Signal) (inputs : RiskInputs) (limits : RiskLimits) :
    List (String × Gate) → Option (String × String)
  | [] => none
  | (name, gate) :: rest =>
      match gate signal inputs limits with
      | some reason => some (name, reason)
      | none => firstRefusal signal inputs limits rest

/-- Evaluate all gates in their safety order and stop at the first refusal.  The
approval is stamped with a new identifier and the time it is made. -/
def evaluate (approvalId : Uuid) (approvedAt : Timestamp) (signal : Signal) (inputs : RiskInputs)
    (limits : RiskLimits) : RiskApproval :=
  match firstRefusal signal inputs limits riskGates with
  | some (gate, reason) =>
      { approvalId, signalId := signal.signalId, approved := false, reason,
        failedGate := some gate, approvedAt, correlationId := signal.correlationId }
  | none =>
      { approvalId, signalId := signal.signalId, approved := true,
        reason := "all ordered risk gates passed", failedGate := none, approvedAt,
        correlationId := signal.correlationId }

section Evaluate

variable (approvalId : Uuid) (approvedAt : Timestamp) (signal : Signal) (inputs : RiskInputs)
  (limits : RiskLimits)

@[simp] theorem evaluate_approvalId :
    (evaluate approvalId approvedAt signal inputs limits).approvalId = approvalId := by
  unfold evaluate
  split <;> rfl

@[simp] theorem evaluate_signalId :
    (evaluate approvalId approvedAt signal inputs limits).signalId = signal.signalId := by
  unfold evaluate
  split <;> rfl

end Evaluate

theorem firstRefusal_eq_none {signal : Signal} {inputs : RiskInputs} {limits : RiskLimits}
    {gates : List (String × Gate)} :
    firstRefusal signal inputs limits gates = none ↔
      ∀ g ∈ gates, g.2 signal inputs limits = none := by
  induction gates with
  | nil => simp [firstRefusal]
  | cons g gates ih =>
      cases verdict : g.2 signal inputs limits <;> simp [firstRefusal, verdict, ih]

/-- An approval means that every gate let the signal pass. -/
theorem evaluate_approved {approvalId : Uuid} {approvedAt : Timestamp} {signal : Signal}
    {inputs : RiskInputs} {limits : RiskLimits} :
    (evaluate approvalId approvedAt signal inputs limits).approved = true ↔
      ∀ g ∈ riskGates, g.2 signal inputs limits = none := by
  rw [← firstRefusal_eq_none]
  unfold evaluate
  split
  · rename_i refused
    simp [refused]
  · rename_i passed
    simp [passed]

theorem running_of_approved {approvalId : Uuid} {approvedAt : Timestamp} {signal : Signal}
    {inputs : RiskInputs} {limits : RiskLimits}
    (approved : (evaluate approvalId approvedAt signal inputs limits).approved = true) :
    inputs.killSwitch = some .running := by
  have passed : killSwitch signal inputs limits = none :=
    evaluate_approved.1 approved ("kill_switch", killSwitch) (List.mem_cons_self ..)
  unfold killSwitch at passed
  split at passed <;> simp_all

end AlgoTrader.Risk
