/-
# Core.Models -- the domain models every package shares

The immutable models of `core/models.py`.  What a model's validators refuse is
ruled out by the type: a field bound is a subtype, a check across fields is a
field of the structure.  A `Decimal` is an exact rational and a `datetime` an
integer number of microseconds; a string is what is left after the models strip
the blanks around it.
-/
import Mathlib.Data.Rat.Defs
import Mathlib.Algebra.Order.Ring.Rat
import AlgoTrader.Core.Uuid

namespace AlgoTrader.Core

set_option autoImplicit false

abbrev Decimal := ℚ

/-- `Annotated[Decimal, Field(gt=0)]`. -/
abbrev PositiveDecimal := {q : Decimal // 0 < q}

/-- `Annotated[Decimal, Field(ge=0)]`. -/
abbrev NonNegativeDecimal := {q : Decimal // 0 ≤ q}

theorem decimal_zero : (0 : Decimal) ≤ 0 := le_refl 0

theorem decimal_one : (0 : Decimal) < 1 := by decide

theorem decimal_filled_one : (0 : Decimal) ≤ 1 := by decide

theorem decimal_hundred : (0 : Decimal) < 100 := by decide

/-- Microseconds since the epoch, UTC. -/
abbrev Timestamp := Int

/-- A `timedelta`, in microseconds. -/
abbrev Duration := Int

inductive OrderSide where
  | buy
  | sell
  deriving DecidableEq, Repr

inductive OrderType where
  | market
  | limit
  deriving DecidableEq, Repr

inductive OrderStatus where
  | pendingSubmit
  | unknown
  | open
  | partiallyFilled
  | filled
  | canceled
  | rejected
  deriving DecidableEq, Repr

namespace OrderStatus

/-- The stored and displayed value of a status. -/
def value : OrderStatus → String
  | .pendingSubmit => "pending_submit"
  | .unknown => "unknown"
  | .open => "open"
  | .partiallyFilled => "partially_filled"
  | .filled => "filled"
  | .canceled => "canceled"
  | .rejected => "rejected"

/-- `UNRESOLVED_STATUSES`: the outcome at the venue is not known. -/
def unresolved : OrderStatus → Bool
  | .pendingSubmit | .unknown => true
  | _ => false

/-- `TERMINAL_STATUSES`: nothing more can happen to the order. -/
def terminal : OrderStatus → Bool
  | .filled | .canceled | .rejected => true
  | _ => false

end OrderStatus

inductive KillSwitchState where
  | running
  | paused
  | halted
  deriving DecidableEq, Repr

/-- A closed bar of market data. -/
structure Candle where
  symbol : String
  interval : String
  openedAt : Timestamp
  closedAt : Timestamp
  openPrice : PositiveDecimal
  high : PositiveDecimal
  low : PositiveDecimal
  close : PositiveDecimal
  volume : NonNegativeDecimal
  source : String
  asOf : Timestamp
  ingestedAt : Timestamp
  closeAfterOpen : openedAt < closedAt
  highIsHigh : openPrice ≤ high
  lowIsLow : low ≤ high
  closeIsWithinBar : low ≤ close ∧ close ≤ high

structure Quote where
  symbol : String
  bid : PositiveDecimal
  ask : PositiveDecimal
  asOf : Timestamp
  source : String
  receivedAt : Timestamp
  askNotBelowBid : bid ≤ ask

structure Balance where
  asset : String
  available : NonNegativeDecimal
  hold : NonNegativeDecimal
  asOf : Timestamp

/-- A holding; the venue may report no cost basis. -/
structure Position where
  symbol : String
  quantity : Decimal
  averagePrice : Option NonNegativeDecimal
  asOf : Timestamp

structure Signal where
  signalId : Uuid
  symbol : String
  side : OrderSide
  quantity : PositiveDecimal
  strategyVersion : String
  createdAt : Timestamp
  correlationId : Uuid
  deriving DecidableEq

/-- What `OrderRequest.validate_price` accepts. -/
def PriceValid (orderType : OrderType) (limitPrice : Option NonNegativeDecimal) : Prop :=
  match orderType with
  | .limit => limitPrice.isSome
  | .market => limitPrice = none

instance (orderType : OrderType) (limitPrice : Option NonNegativeDecimal) :
    Decidable (PriceValid orderType limitPrice) := by
  cases orderType <;> exact inferInstanceAs (Decidable (_ = _))

theorem priceValid_market : PriceValid .market none := rfl

structure OrderRequest where
  signalId : Uuid
  strategyVersion : String
  symbol : String
  side : OrderSide
  orderType : OrderType
  quantity : PositiveDecimal
  limitPrice : Option NonNegativeDecimal
  clientOrderId : Uuid
  correlationId : Uuid
  priceValid : PriceValid orderType limitPrice
  deriving DecidableEq

structure Order where
  orderId : Uuid
  request : OrderRequest
  status : OrderStatus
  filledQuantity : NonNegativeDecimal
  averageFillPrice : Option NonNegativeDecimal
  createdAt : Timestamp
  updatedAt : Timestamp
  deriving DecidableEq

structure Fill where
  fillId : String
  orderId : Uuid
  symbol : String
  side : OrderSide
  quantity : PositiveDecimal
  price : PositiveDecimal
  fee : NonNegativeDecimal
  feeAsset : String
  occurredAt : Timestamp
  deriving DecidableEq

structure MarketState where
  symbol : String
  quote : Quote
  candles : List Candle
  observedAt : Timestamp

structure RiskApproval where
  approvalId : Uuid
  signalId : Uuid
  approved : Bool
  reason : String
  failedGate : Option String
  approvedAt : Timestamp
  correlationId : Uuid
  deriving DecidableEq

end AlgoTrader.Core
