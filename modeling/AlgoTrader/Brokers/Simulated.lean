/-
# Brokers.Simulated -- the local broker of tests, paper mode and replay

An order is filled at the quote, or a limit order step by step along a schedule.  Every fill goes
into five tables, one after the other: the fills, the orders, the balances, the positions and the
index of the schedule.  What raises on the way leaves the tables as they are by then.

* `applyFill`, `applyAccounting` -- one fill, table after table;
* `acceptOrder`, `fillNextLimit` -- which fill an order gets;
* `submitOrder`, `getOrder`, `advance` -- the calls that trade, with the faults put into them.
-/
import AlgoTrader.Core.Text
import AlgoTrader.Portfolio.Ledger

namespace AlgoTrader.Brokers.Simulated

open AlgoTrader.Core
open AlgoTrader.Portfolio (divide splitSymbol invalid byKey balanceOf positionOf)
open AlgoTrader.Theory

set_option autoImplicit false

/-! ## Configuration -/

inductive SimulatedFault where
  | reject
  | timeout
  | duplicateAck
  | outOfOrderFills
  | rateLimited
  | unavailable
  deriving DecidableEq, Repr

def SimulatedFault.value : SimulatedFault → String
  | .reject => "reject"
  | .timeout => "timeout"
  | .duplicateAck => "duplicate_ack"
  | .outOfOrderFills => "out_of_order_fills"
  | .rateLimited => "rate_limited"
  | .unavailable => "unavailable"

inductive Operation where
  | submit
  | getQuote
  | getOrder
  | getFills
  | getBalances
  | getPositions
  deriving DecidableEq, Repr

def Operation.value : Operation → String
  | .submit => "submit"
  | .getQuote => "get_quote"
  | .getOrder => "get_order"
  | .getFills => "get_fills"
  | .getBalances => "get_balances"
  | .getPositions => "get_positions"

/-- What `SimulationConfig.__post_init__` accepts. -/
structure SimulationConfig where
  slippage : Decimal
  feeRate : NonNegativeDecimal
  feeAsset : String
  partialFillSchedule : List Decimal
  initialQuoteBalance : NonNegativeDecimal
  slippageInRange : 0 ≤ slippage ∧ slippage < 1
  feeAssetNamed : Text.strip feeAsset.toList ≠ []
  /-- The schedule increases from 0. -/
  scheduleIncreases : (0 :: partialFillSchedule).Pairwise (· < ·)
  /-- It ends at 1. -/
  scheduleEnds : partialFillSchedule.getLast? = some 1

/-- What stays the same while a broker lives: its configuration, whether it is always unavailable, and
what the clock says each time it is read. -/
structure Setup where
  config : SimulationConfig
  alwaysUnavailable : Bool
  clock : Nat → Timestamp

structure SimulatedBroker where
  quote : Quote
  faults : Operation → List SimulatedFault
  orders : Dict String Order
  fills : Dict String (List Fill)
  limitScheduleIndex : Dict String Nat
  unknownRequests : Dict String OrderRequest
  outOfOrder : List String
  acknowledgements : Dict String Nat
  balances : Dict String Decimal
  positions : Dict String (Decimal × Decimal)
  /-- How often the clock has been read. -/
  readings : Nat
  /-- Every fill that was ever made, in order.  No method reads it. -/
  made : List Fill

inductive Raised where
  /-- A `SimulatedBrokerError`: an injected fault. -/
  | simulated (message : String) (fault : SimulatedFault) (order : Option Order)
      (retryAfter : Option Decimal)
  /-- The refusal of an approval. -/
  | approval (typeName message : String)
  | other (exc : Exc)

/-- How a call ends, and what it leaves.  What raises leaves what was done before. -/
abbrev Outcome (α : Type) := Except Raised α × SimulatedBroker

def Outcome.andThen {α β : Type} : Outcome α → (α → SimulatedBroker → Outcome β) → Outcome β
  | (.ok value, broker), next => next value broker
  | (.error raised, broker), _ => (.error raised, broker)

variable (setup : Setup)

namespace SimulatedBroker

/-- A broker with a quote and a fault plan; a symbol without a hyphen raises `IndexError`. -/
def new (quote : Quote) (faults : Operation → List SimulatedFault) : Except Exc SimulatedBroker :=
  match splitSymbol quote.symbol with
  | .error _ => .error { kind := .provider, typeName := "IndexError", message := "list index out of range" }
  | .ok (_, quoteAsset) =>
      .ok {
        quote, faults
        orders := .empty
        fills := .empty
        limitScheduleIndex := .empty
        unknownRequests := .empty
        outOfOrder := []
        acknowledgements := .empty
        balances := (Dict.empty.set quoteAsset setup.config.initialQuoteBalance.1).setDefault
          setup.config.feeAsset 0
        positions := .empty
        readings := 0
        made := [] }

/-! ## Accounting -/

def fillsOf (broker : SimulatedBroker) (key : String) : List Fill := (broker.fills.get? key).getD []

def indexOf (broker : SimulatedBroker) (key : String) : Nat :=
  (broker.limitScheduleIndex.get? key).getD 0

/-- `self._balances.setdefault(asset, Decimal("0"))`. -/
def opened (balances : Dict String Decimal) (asset : String) : Dict String Decimal :=
  balances.setDefault asset 0

/-- `self._balances[asset] += amount`. -/
def moved (balances : Dict String Decimal) (asset : String) (amount : Decimal) : Dict String Decimal :=
  balances.set asset ((balances.get? asset).getD 0 + amount)

def position (broker : SimulatedBroker) (symbol : String) : Decimal × Decimal :=
  (broker.positions.get? symbol).getD (0, 0)

def placed (positions : Dict String (Decimal × Decimal)) (symbol : String) (quantity average : Decimal) :
    Dict String (Decimal × Decimal) :=
  if quantity = 0 then positions.erase symbol else positions.set symbol (quantity, average)

/-- `_apply_accounting`. -/
def applyAccounting (broker : SimulatedBroker) (request : OrderRequest) (quantity price fee : Decimal) :
    Outcome Unit :=
  match splitSymbol request.symbol with
  | .error exc => (.error (.other exc), broker)
  | .ok (baseAsset, quoteAsset) =>
      let feeAsset := setup.config.feeAsset
      let notional := quantity * price
      let balances := opened (opened (opened broker.balances baseAsset) quoteAsset) feeAsset
      let (held, average) := broker.position request.symbol
      match request.side with
      | .buy =>
          let balances :=
            moved (moved (moved balances baseAsset quantity) quoteAsset (-notional)) feeAsset (-fee)
          let total := held + quantity
          match divide (held * average + quantity * price) total with
          | .error exc => (.error (.other exc), { broker with balances })
          | .ok average =>
              (.ok (), { broker with
                balances, positions := placed broker.positions request.symbol total average })
      | .sell =>
          let balances :=
            moved (moved (moved balances baseAsset (-quantity)) quoteAsset notional) feeAsset (-fee)
          (.ok (), { broker with
            balances, positions := placed broker.positions request.symbol (held - quantity) average })

/-! ## Fills -/

/-- What the validator of a model makes of a text: blanks at its ends are dropped. -/
def trimmed (text : String) : String :=
  String.ofList (((text.toList.dropWhile Text.isBlank).reverse.dropWhile Text.isBlank).reverse)

/-- The fill `_apply_fill` makes. -/
def fillOf (broker : SimulatedBroker) (order : Order) (quantity price : PositiveDecimal) : Fill where
  fillId := "sim-" ++ order.request.clientOrderId.str ++ "-" ++
    toString ((broker.fillsOf order.request.clientOrderId.str).length + 1)
  orderId := order.orderId
  symbol := order.request.symbol
  side := order.request.side
  quantity := quantity
  price := price
  fee := ⟨quantity * price * setup.config.feeRate,
    mul_nonneg (mul_nonneg quantity.2.le price.2.le) setup.config.feeRate.2⟩
  feeAsset := trimmed setup.config.feeAsset
  occurredAt := setup.clock broker.readings

/-- `order.average_fill_price or Decimal("0")`. -/
def averageOf (order : Order) : NonNegativeDecimal := order.averageFillPrice.getD ⟨0, decimal_zero⟩

/-- The copy of an order after a fill; the clock was read for the fill before. -/
def filledOrder (broker : SimulatedBroker) (order : Order) (quantity price : PositiveDecimal) : Order :=
  { order with
    status :=
      if order.request.quantity.1 ≤ order.filledQuantity + quantity then .filled else .partiallyFilled
    filledQuantity := ⟨order.filledQuantity + quantity, add_nonneg order.filledQuantity.2 quantity.2.le⟩
    averageFillPrice := some ⟨(averageOf order * order.filledQuantity + quantity * price) /
        (order.filledQuantity + quantity),
      div_nonneg (add_nonneg (mul_nonneg (averageOf order).2 order.filledQuantity.2)
        (mul_nonneg quantity.2.le price.2.le)) (add_nonneg order.filledQuantity.2 quantity.2.le)⟩
    updatedAt := setup.clock (broker.readings + 1) }

/-- A fill and its order go into their tables. -/
def records (broker : SimulatedBroker) (order : Order) (quantity price : PositiveDecimal) :
    SimulatedBroker :=
  let key := order.request.clientOrderId.str
  let fill := fillOf setup broker order quantity price
  { broker with
    fills := broker.fills.set key (broker.fillsOf key ++ [fill])
    orders := broker.orders.set key (filledOrder setup broker order quantity price)
    readings := broker.readings + 2
    made := broker.made ++ [fill] }

/-- `_apply_fill`.  The fill reads the clock before it is validated. -/
def applyFill (broker : SimulatedBroker) (order : Order) (quantity price : Decimal) : Outcome Order :=
  let key := order.request.clientOrderId.str
  let broker := { broker with fills := broker.fills.setDefault key [] }
  if valid : 0 < quantity ∧ 0 < price then
    let fill := fillOf setup broker order ⟨quantity, valid.1⟩ ⟨price, valid.2⟩
    let updated := filledOrder setup broker order ⟨quantity, valid.1⟩ ⟨price, valid.2⟩
    let broker := records setup broker order ⟨quantity, valid.1⟩ ⟨price, valid.2⟩
    Outcome.andThen (applyAccounting setup broker order.request quantity price fill.fee)
      fun _ broker => (.ok updated, broker)
  else
    (.error (.other (invalid (if 0 < quantity then "price: Input should be greater than 0"
      else "quantity: Input should be greater than 0"))),
      { broker with readings := broker.readings + 1 })

def marketPrice (broker : SimulatedBroker) : OrderSide → Decimal
  | .buy => broker.quote.ask * (1 + setup.config.slippage)
  | .sell => broker.quote.bid * (1 - setup.config.slippage)

def limitIsMarketable (broker : SimulatedBroker) (request : OrderRequest) : Bool :=
  match request.limitPrice with
  | none => false
  | some limit =>
      match request.side with
      | .buy => broker.quote.ask.1 ≤ limit.1
      | .sell => limit.1 ≤ broker.quote.bid.1

/-- `order.request.limit_price or Decimal("0")`. -/
def limitOf (request : OrderRequest) : Decimal := (request.limitPrice.map Subtype.val).getD 0

/-- `_fill_next_limit`. -/
def fillNextLimit (broker : SimulatedBroker) (order : Order) : Outcome Order :=
  let key := order.request.clientOrderId.str
  let index := broker.indexOf key
  match setup.config.partialFillSchedule[index]? with
  | none => (.ok order, broker)
  | some ratio =>
      let quantity := order.request.quantity * ratio - order.filledQuantity
      let broker := { broker with limitScheduleIndex := broker.limitScheduleIndex.set key (index + 1) }
      if quantity ≤ 0 then (.ok order, broker)
      else applyFill setup broker order quantity (limitOf order.request)

/-! ## Orders -/

/-- A new order; the times of its creation and of its last update are two readings of the clock. -/
def newOrder (broker : SimulatedBroker) (request : OrderRequest) (status : OrderStatus) : Order where
  orderId := request.clientOrderId
  request := request
  status := status
  filledQuantity := ⟨0, decimal_zero⟩
  averageFillPrice := none
  createdAt := setup.clock broker.readings
  updatedAt := setup.clock (broker.readings + 1)

/-- An order is entered, without fills. -/
def enters (broker : SimulatedBroker) (order : Order) : SimulatedBroker :=
  { broker with
    orders := broker.orders.set order.request.clientOrderId.str order
    fills := broker.fills.set order.request.clientOrderId.str []
    readings := broker.readings + 2 }

/-- `_accept_order`. -/
def acceptOrder (broker : SimulatedBroker) (request : OrderRequest) : Outcome Order :=
  let order := newOrder setup broker request .open
  let broker := broker.enters order
  let broker := { broker with
    limitScheduleIndex := broker.limitScheduleIndex.set request.clientOrderId.str 0 }
  if request.orderType = .market then
    applyFill setup broker order request.quantity (marketPrice setup broker request.side)
  else if limitIsMarketable broker request then fillNextLimit setup broker order
  else (.ok order, broker)

def unavailable : Raised := .simulated "simulated broker is unavailable" .unavailable none none

def rateLimit : Raised := .simulated "simulated broker returned HTTP 429" .rateLimited none (some 1)

/-- `_take_fault`. -/
def takeFault (broker : SimulatedBroker) (operation : Operation) : Outcome (Option SimulatedFault) :=
  if setup.alwaysUnavailable then (.error unavailable, broker)
  else
    match broker.faults operation with
    | [] => (.ok none, broker)
    | fault :: rest =>
        (.ok (some fault), { broker with faults := Function.update broker.faults operation rest })

/-- `_raise_for_fault`. -/
def raiseForFault (broker : SimulatedBroker) (operation : Operation) :
    Outcome (Option SimulatedFault) :=
  Outcome.andThen (takeFault setup broker operation) fun fault broker =>
    match fault with
    | none => (.ok none, broker)
    | some .outOfOrderFills => (.ok (some .outOfOrderFills), broker)
    | some .rateLimited => (.error rateLimit, broker)
    | some .unavailable => (.error unavailable, broker)
    | some fault => (.error (.simulated ("simulated " ++ operation.value ++ " fault: " ++ fault.value)
        fault none none), broker)

def acknowledged (broker : SimulatedBroker) (key : String) (count : Nat) : SimulatedBroker :=
  { broker with acknowledgements := broker.acknowledgements.set key count }

/-- `submit_order`. -/
def submitOrder (broker : SimulatedBroker) (request : OrderRequest) (approval : RiskApproval) :
    Outcome Order :=
  if setup.alwaysUnavailable then (.error unavailable, broker)
  else if approval.signalId ≠ request.signalId then
    (.error (.approval "ValueError" "risk approval does not belong to order request"), broker)
  else if ¬approval.approved then
    (.error (.approval "PermissionError" "risk approval is not approved"), broker)
  else
    let key := request.clientOrderId.str
    match broker.orders.get? key with
    | some existing =>
        (.ok existing, broker.acknowledged key ((broker.acknowledgements.get? key).getD 0 + 1))
    | none =>
        Outcome.andThen (takeFault setup broker .submit) fun injected broker =>
          match injected with
          | some .reject =>
              let order := newOrder setup broker request .rejected
              (.error (.simulated "simulated broker rejected the order" .reject (some order) none),
                broker.enters order)
          | some .rateLimited => (.error rateLimit, broker)
          | some .unavailable => (.error unavailable, broker)
          | some .timeout =>
              let unknown := newOrder setup broker request .unknown
              let broker := broker.enters unknown
              let broker := { broker with unknownRequests := broker.unknownRequests.set key request }
              (.error (.simulated "simulated submission timed out; query client_order_id before retrying"
                .timeout (some unknown) none), broker.acknowledged key 1)
          | injected =>
              let broker :=
                if injected = some .outOfOrderFills then
                  { broker with outOfOrder := key :: broker.outOfOrder.filter (· ≠ key) }
                else broker
              Outcome.andThen (acceptOrder setup broker request) fun order broker =>
                let broker := broker.acknowledged key 1
                if injected = some .duplicateAck then
                  (.error (.simulated "simulated broker returned a duplicate acknowledgement" .duplicateAck
                    (some order) none), broker)
                else (.ok order, broker)

/-- A timed-out order is dropped with its fills. -/
def forgets (broker : SimulatedBroker) (key : String) : SimulatedBroker :=
  { broker with
    unknownRequests := broker.unknownRequests.erase key
    orders := broker.orders.erase key
    fills := broker.fills.erase key
    limitScheduleIndex := broker.limitScheduleIndex.erase key }

/-- `get_order`. -/
def getOrder (broker : SimulatedBroker) (clientOrderId : String) : Outcome (Option Order) :=
  Outcome.andThen (raiseForFault setup broker .getOrder) fun _ broker =>
    match broker.unknownRequests.get? clientOrderId with
    | none => (.ok (broker.orders.get? clientOrderId), broker)
    | some request =>
        Outcome.andThen (acceptOrder setup (broker.forgets clientOrderId) request) fun _ broker =>
          (.ok (broker.orders.get? clientOrderId), broker)

/-- The limit order can still be filled, and its price is met. -/
def due (broker : SimulatedBroker) (order : Order) : Bool :=
  order.request.orderType = .limit && !order.status.terminal && broker.limitIsMarketable order.request

/-- The loop of `advance`, over the orders there were when it began. -/
def advanceAll : SimulatedBroker → List Order → Outcome (List Order)
  | broker, [] => (.ok [], broker)
  | broker, order :: rest =>
      if broker.due order then
        Outcome.andThen (fillNextLimit setup broker order) fun updated broker =>
          Outcome.andThen (advanceAll broker rest) fun changed broker =>
            (.ok (if updated ≠ order then updated :: changed else changed), broker)
      else advanceAll broker rest

/-- `advance`. -/
def advance (broker : SimulatedBroker) : Outcome (List Order) :=
  advanceAll setup broker broker.orders.values

/-- `set_quote`. -/
def setQuote (broker : SimulatedBroker) (quote : Quote) : Outcome Unit :=
  if quote.symbol ≠ broker.quote.symbol then
    (.error (.other (.valueError "simulator supports one configured symbol")), broker)
  else (.ok (), { broker with quote })

/-- `get_fills`. -/
def getFills (broker : SimulatedBroker) (clientOrderId : String) : Outcome (List Fill) :=
  Outcome.andThen (raiseForFault setup broker .getFills) fun fault broker =>
    if clientOrderId ∈ broker.unknownRequests.keys then (.ok [], broker)
    else if clientOrderId ∈ broker.outOfOrder ∨ fault = some .outOfOrderFills then
      (.ok (broker.fillsOf clientOrderId).reverse, broker)
    else (.ok (broker.fillsOf clientOrderId), broker)

/-- `get_quote`. -/
def getQuote (broker : SimulatedBroker) (symbol : String) : Outcome Quote :=
  Outcome.andThen (raiseForFault setup broker .getQuote) fun _ broker =>
    if symbol ≠ broker.quote.symbol then
      (.error (.other { kind := .provider, typeName := "KeyError", message := symbol }), broker)
    else (.ok broker.quote, broker)

/-- What `get_balances` lists at a time. -/
def balancesAt (broker : SimulatedBroker) (now : Timestamp) : Except Exc (List Balance) :=
  ((byKey broker.balances.entries).filter fun entry => entry.2 ≠ 0).mapM (balanceOf now .empty)

/-- What `get_positions` lists at a time. -/
def positionsAt (broker : SimulatedBroker) (now : Timestamp) : Except Exc (List Position) :=
  ((byKey broker.positions.entries).filter fun entry => entry.2.1 ≠ 0).mapM fun entry =>
    positionOf now (entry.1, entry.2.1, some entry.2.2)

def getBalances (broker : SimulatedBroker) : Outcome (List Balance) :=
  Outcome.andThen (raiseForFault setup broker .getBalances) fun _ broker =>
    ((broker.balancesAt (setup.clock broker.readings)).mapError Raised.other,
      { broker with readings := broker.readings + 1 })

def getPositions (broker : SimulatedBroker) : Outcome (List Position) :=
  Outcome.andThen (raiseForFault setup broker .getPositions) fun _ broker =>
    ((broker.positionsAt (setup.clock broker.readings)).mapError Raised.other,
      { broker with readings := broker.readings + 1 })

end SimulatedBroker

end AlgoTrader.Brokers.Simulated
