/-
# Brokers.Venue -- how an adapter talks to its venue

What the two REST adapters share: a cache of orders in memory, private requests that other
tasks may run across, and the conversions of a payload's members into fields.

The cache changes only between requests: reading and writing it takes no time, while at a
request any other task may have changed it before the answer is there.
-/
import AlgoTrader.Brokers.Json
import AlgoTrader.Theory.Logic
import AlgoTrader.Theory.Dict

namespace AlgoTrader.Brokers

open AlgoTrader.Core Theory

set_option autoImplicit false

namespace Exc

/-- `ProviderHTTPError(status, message)`. -/
def providerHttp (status : Int) (message : String) : Exc :=
  { kind := .providerHttp, typeName := "ProviderHTTPError", message, statusCode := some status }

/-- Some other exception, told by its name. -/
def other (typeName message : String) : Exc := { kind := .provider, typeName, message }

end Exc

/-- What an adapter meets: an exception, and the response an HTTP failure carries. -/
structure VenueError where
  exc : Exc
  payload : Json := .null

/-- Conversions of the standard library that the adapters hand a text to: the UUID of a name,
dates, and times in seconds and in milliseconds; nothing where they raise. -/
structure Library where
  uuid5 : String → Uuid
  fromisoformat : String → Option Timestamp
  seconds : String → Option Timestamp
  milliseconds : String → Option Timestamp
  rfc3339 : Timestamp → String

inductive VenueOp (Cache Request : Type) where
  | load
  | save (cache : Cache)
  /-- The engine's store, by a client order id. -/
  | savedOrder (clientOrderId : String)
  | request (request : Request)
  | getQuote (symbol : String)
  | utcNow

def VenueOp.Reply {Cache Request : Type} : VenueOp Cache Request → Type
  | .load => Cache
  | .save _ => Unit
  | .savedOrder _ => Option Order
  | .request _ => Json
  | .getQuote _ => Quote
  | .utcNow => Timestamp

abbrev venueEffects (Cache Request : Type) : Signature := ⟨VenueOp Cache Request, VenueOp.Reply⟩

abbrev Venue (Cache Request α : Type) := Prog (venueEffects Cache Request) VenueError α

section Requests

variable {Cache Request : Type}

def venue (op : VenueOp Cache Request) : Venue Cache Request op.Reply :=
  Prog.call (S := venueEffects Cache Request) op

def loadCache : Venue Cache Request Cache := venue .load

def modifyCache (change : Cache → Cache) : Venue Cache Request Unit := do
  let cache ← loadCache
  venue (.save (change cache))

def utcNow : Venue Cache Request Timestamp := venue .utcNow

/-- A conversion that may raise. -/
def reads {α : Type} : Except Exc α → Venue Cache Request α
  | .ok value => .pure value
  | .error exc => .raise { exc }

def raises {α : Type} (exc : Exc) : Venue Cache Request α := .raise { exc }

end Requests

/-! ## Fields -/

def invalidOperation : Exc := .other "InvalidOperation" "[<class 'decimal.ConversionSyntax'>]"

/-- `Decimal(str(value))`. -/
def decimalText (value : Json) : Except Exc Decimal :=
  match decimalOf value.str with
  | some number => .ok number
  | none => .error invalidOperation

/-- What a model raises on a value out of bounds. -/
def refused (field : String) : Exc :=
  { kind := .valueError, typeName := "ValidationError", message := field }

def nonNegative (field : String) (value : Decimal) : Except Exc NonNegativeDecimal :=
  if bound : 0 ≤ value then .ok ⟨value, bound⟩ else .error (refused field)

theorem nonNegative_ok {field : String} {value : Decimal} {checked : NonNegativeDecimal}
    (is : nonNegative field value = .ok checked) : checked.1 = value := by
  unfold nonNegative at is
  split at is
  · cases is
    rfl
  · cases is

def optionalNonNegative (field : String) : Option Decimal → Except Exc (Option NonNegativeDecimal)
  | none => .ok none
  | some value => (nonNegative field value).map some

/-- `_provider_uuid`. -/
def providerUuid (lib : Library) (value : String) : Uuid := (Uuid.parse value).getD (lib.uuid5 value)

def readMoment (moment : Option Timestamp) : Except Exc Timestamp :=
  match moment with
  | some time => .ok time
  | none => .error (.valueError "invalid time")

theorem decimal_satoshi : (0 : Decimal) < 1 / 100000000 := by decide +kernel

/-- `Decimal("0.00000001")`, the least size a recovered request is given. -/
def leastSize : PositiveDecimal := ⟨1 / 100000000, decimal_satoshi⟩

/-- `max(quantity, Decimal("0.00000001"))`. -/
def atLeast (quantity : Decimal) : PositiveDecimal :=
  if more : leastSize.1 < quantity then ⟨quantity, leastSize.2.trans more⟩ else leastSize

/-- A request rebuilt from what the venue reports of its order. -/
def recoveredRequest (lib : Library) (clientOrderId symbol : String) (side : OrderSide)
    (quantity : Decimal) (limitPrice : Option Decimal) : Except Exc OrderRequest := do
  let limitPrice ← optionalNonNegative "limit_price" limitPrice
  match Uuid.parse clientOrderId with
  | none => .error (.valueError "badly formed hexadecimal UUID string")
  | some id =>
      .ok
        { signalId := lib.uuid5 s!"signal|{clientOrderId}"
          strategyVersion := "provider-recovery"
          symbol := String.ofList (strip symbol.toList)
          side
          orderType := if limitPrice.isSome then .limit else .market
          quantity := atLeast quantity
          limitPrice
          clientOrderId := id
          correlationId := lib.uuid5 s!"correlation|{clientOrderId}"
          priceValid := by cases limitPrice <;> rfl }

/-- `OrderSide(str(raw.get("side") or "buy").lower())`. -/
def sideOf (raw : Json) : Except Exc OrderSide :=
  let text := lower ((raw.get "side").or (.string "buy")).str
  if text = "buy" then .ok .buy
  else if text = "sell" then .ok .sell
  else .error (.valueError s!"{Json.quoted text} is not a valid OrderSide")

def requireApproval (request : OrderRequest) (approval : RiskApproval) : Except Exc Unit :=
  if request.signalId ≠ approval.signalId then
    .error (.valueError "risk approval does not belong to order request")
  else if !approval.approved then .error (.permissionError "risk approval is not approved")
  else .ok ()

/-- `ProviderOrderRejectedError(order, message)`. -/
def orderRejected (order : Order) (message : String) : Exc :=
  { kind := .provider, typeName := "ProviderOrderRejectedError", message, order := some order }

/-- `AmbiguousSubmissionError(order)`. -/
def ambiguousSubmission (order : Order) : Exc :=
  { kind := .providerTimeout, typeName := "AmbiguousSubmissionError"
    message := "provider submission timed out; query the persisted client_order_id before retrying"
    order := some order }

/-- The client order id of a payload: its own, or the one that is known of it. -/
def clientIdOf (raw : Json) (clientOrderId : Option String) (request : Option OrderRequest) : String :=
  if (raw.get "client_order_id").truthy then (raw.get "client_order_id").str
  else
    match clientOrderId.filter (· ≠ "") with
    | some known => known
    | none => (request.map fun request => request.clientOrderId.str).getD "None"

/-! ## Looking up and submitting -/

section Orders

variable {Cache Request : Type} (orders : Cache → Dict String Order)

/-- `get_order`: what is cached as ended is not looked up again. -/
def settledOr (clientOrderId : String) (lookUp : Venue Cache Request (Option Order)) :
    Venue Cache Request (Option Order) := do
  let cache ← loadCache
  match ((orders cache).get? clientOrderId).filter fun order => order.status.terminal with
  | some cached => return some cached
  | none => lookUp

/-- `submit_order`, up to the create request: an order whose outcome is not known is looked up
before it is sent again, and sent unless the venue knows what became of it. -/
def submitUnlessKnown (getOrder : Venue Cache Request (Option Order)) (create : Venue Cache Request Order)
    (request : OrderRequest) (approval : RiskApproval) : Venue Cache Request Order := do
  reads (requireApproval request approval)
  let cache ← loadCache
  match (orders cache).get? request.clientOrderId.str with
  | none => create
  | some existing =>
      if !existing.status.unresolved then return existing
      else do
        let recovered ← getOrder
        match recovered.filter fun order => order.status ≠ .unknown with
        | some order => return order
        | none => create

end Orders

/-! ## Cancelling and replacing -/

/-- `KeyError(key)`. -/
def keyError (key : String) : Exc := .other "KeyError" key

/-- An argument that is a `Decimal`, and its text. -/
structure Amount where
  value : Decimal
  text : String

/-- What an edit hands to `submit_order`: a copy of the request, whose price and size nobody
validates again, and the approval. -/
structure Replacement where
  original : OrderRequest
  quantity : PositiveDecimal
  limitPrice : Decimal
  clientOrderId : Uuid
  approval : RiskApproval

/-- The copy as a request.  A market order's price is not read; a price below zero, which the
venue would refuse, is refused here. -/
def Replacement.request (replacement : Replacement) : Except Exc OrderRequest :=
  let copy := { replacement.original with
    quantity := replacement.quantity
    clientOrderId := replacement.clientOrderId }
  match limit : replacement.original.orderType with
  | .market => .ok copy
  | .limit => (nonNegative "limit_price" replacement.limitPrice).map fun price =>
      { copy with limitPrice := some price, priceValid := by rw [limit]; rfl }

/-- `replacement_quantity`. -/
def replacementQuantity (canceled : Order) (quantity : Decimal) : Except Exc Decimal :=
  if canceled.status ≠ .canceled then
    .error (.providerHttp 409
      s!"original order is {canceled.status.value}; replacement not submitted")
  else .ok (quantity - canceled.filledQuantity)

/-- What an edit does once the cancel request is answered for: it submits what is left of the
new total, or returns the order if nothing is. -/
def replacementOf (lib : Library) (clientOrderId : String) (current canceled : Order)
    (quantity limitPrice : Amount) (approval : RiskApproval) : Except Exc (Order ⊕ Replacement) := do
  let remaining ← replacementQuantity canceled quantity.value
  if more : 0 < remaining then
    return .inr
      { original := current.request
        quantity := ⟨remaining, more⟩
        limitPrice := limitPrice.value
        clientOrderId := lib.uuid5 s!"{clientOrderId}|{quantity.text}|{limitPrice.text}"
        approval }
  else return .inl canceled

/-- `self._orders.get(client_order_id) or await self.get_order(client_order_id)`. -/
def currentOrder {Cache Request : Type} (orders : Cache → Dict String Order) (clientOrderId : String)
    (getOrder : Venue Cache Request (Option Order)) : Venue Cache Request (Option Order) := do
  let cache ← loadCache
  match (orders cache).get? clientOrderId with
  | some order => return some order
  | none => getOrder

/-! ## The venue -/

/-- The cache is as it was left; a request may be answered with anything, or fail, and
other tasks may have used the adapter by then. -/
def VenueServe (Cache Request : Type) : Service (venueEffects Cache Request) VenueError Cache
  | .load, cache, reply, cache' => reply = .ok cache ∧ cache' = cache
  | .save next, _, reply, cache' => reply = .ok () ∧ cache' = next
  | .savedOrder _, cache, _, cache' => cache' = cache
  | .request _, _, _, _ => True
  | .getQuote _, _, _, _ => True
  | .utcNow, cache, reply, cache' => (∃ now, reply = .ok now) ∧ cache' = cache

abbrev VenueEvent (Cache Request : Type) := Event (venueEffects Cache Request) VenueError Cache

abbrev VenueMoment (Cache Request : Type) := Moment (venueEffects Cache Request) VenueError Cache

def epoch : Timestamp := 0

/-- A venue that answers by what is asked, and nobody else at the adapter. -/
def answering {Cache Request : Type} (answer : Request → Except VenueError Json) :
    Script (venueEffects Cache Request) VenueError Cache
  | .load, m => (.ok m.world, m.world)
  | .save cache, _ => (.ok (), cache)
  | .savedOrder _, m => (.ok none, m.world)
  | .request request, m => (answer request, m.world)
  | .getQuote _, m => (.error { exc := .other "ProviderError" "no quote" }, m.world)
  | .utcNow, m => (.ok epoch, m.world)

theorem answering_sound {Cache Request : Type} (answer : Request → Except VenueError Json) :
    (answering answer : Script (venueEffects Cache Request) VenueError Cache).Sound
      (VenueServe Cache Request) := by
  intro op m
  cases op with
  | load => exact ⟨rfl, rfl⟩
  | save cache => exact ⟨rfl, rfl⟩
  | savedOrder clientOrderId => rfl
  | request request => trivial
  | getQuote symbol => trivial
  | utcNow => exact ⟨⟨epoch, rfl⟩, rfl⟩

/-- No text is a date, and every name has one UUID. -/
def noDates : Library := ⟨fun _ => ⟨0⟩, fun _ => none, fun _ => none, fun _ => none, fun _ => ""⟩

end AlgoTrader.Brokers
