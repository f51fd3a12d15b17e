/-
# Brokers.Gemini -- the Gemini Sandbox adapter

Gemini looks an order up by its client order id and has no price-protected market order: a
market request is sent as an immediate-or-cancel limit order capped past a fresh quote.
-/
import Mathlib.Data.Rat.Floor
import AlgoTrader.Brokers.Venue

namespace AlgoTrader.Brokers.Gemini

open AlgoTrader.Core Theory

set_option autoImplicit false

/-! ## What is remembered and asked -/

structure Cache where
  requests : Dict String OrderRequest
  orders : Dict String Order
  providerOrderIds : Dict String String
  rawFills : Dict String (List Json)

structure NewOrder where
  symbol : String
  amount : PositiveDecimal
  side : String
  clientOrderId : String
  price : Option Decimal
  immediateOrCancel : Bool

/-- An order is looked up by the id the venue gave it, or by ours. -/
inductive StatusQuery where
  | orderId (id : Json)
  | clientOrderId (id : String)

inductive Request where
  | orderStatus (query : StatusQuery)
  | newOrder (body : NewOrder)
  | cancelOrder (orderId : String)

abbrev Broker (α : Type) := Venue Cache Request α

def post (request : Request) : Broker Json := venue (.request request)

/-- Gemini answers an order it refuses with one of these. -/
def rejectionStatuses : List Int := [400, 406, 409, 422]

/-! ## A payload as an order -/

/-- `_decimal(value, default=default)`. -/
def decimalOr (default : Decimal) : Json → Except Exc Decimal
  | .null => .ok default
  | value => decimalText value

/-- `_optional_decimal`. -/
def optionalDecimal : Json → Except Exc (Option Decimal)
  | .null => .ok none
  | value => (decimalText value).map some

def typeError : Exc := .other "TypeError" "object is not iterable"

/-- One element of a sequence `dict` is made from; a key that is no string is never asked for. -/
def pairOf : Json → Except Exc (List (String × Json))
  | .list [.string key, value] => .ok [(key, value)]
  | .list [.list _, _] | .list [.object _, _] => .error typeError
  | .list [_, _] => .ok []
  | .string text =>
      match text.toList with
      | [key, value] => .ok [(String.ofList [key], .string (String.ofList [value]))]
      | _ => .error (.valueError "dictionary update sequence element has the wrong length")
  | .list _ => .error (.valueError "dictionary update sequence element has the wrong length")
  | _ => .error typeError

/-- `dict(payload)`. -/
def asDict : Json → Except Exc Json
  | .object members => .ok (.object members)
  | .list items => (items.mapM pairOf).map fun pairs => .object pairs.flatten
  | .string text =>
      if text = "" then .ok (.object [])
      else .error (.valueError "dictionary update sequence element has the wrong length")
  | _ => .error typeError

/-- `tuple(value or ())`. -/
def tupleOf (value : Json) : Except Exc (List Json) :=
  if !value.truthy then .ok []
  else
    match value with
    | .list items => .ok items
    | .object members => .ok (members.map fun member => .string member.1)
    | .string text => .ok (text.toList.map fun character => .string (String.ofList [character]))
    | _ => .error typeError

/-- `_timestamp`, of a value that is there. -/
def timestamp (lib : Library) (value : Json) : Except Exc Timestamp :=
  readMoment (lib.milliseconds value.str)

/-- `_timestamp`: the time now where there is no value. -/
def timestampOr (lib : Library) (now : Timestamp) : Json → Except Exc Timestamp
  | .null => .ok now
  | value => timestamp lib value

/-- A time that can be read once can be read at any time. -/
theorem timestampOr_anytime {lib : Library} {earlier at_ : Timestamp} {value : Json} (now : Timestamp)
    (read : timestampOr lib earlier value = .ok at_) : ∃ again, timestampOr lib now value = .ok again := by
  cases value with
  | null => exact ⟨now, rfl⟩
  | _ => exact ⟨at_, read⟩

def reasonText (raw : Json) : String := lower ((raw.get "reason").or (.string "")).str

/-- `_order_status`. -/
def orderStatus (raw : Json) (requested : Decimal) : Except Exc OrderStatus :=
  if (raw.get "is_cancelled").truthy || reasonText raw ∈ ["cancelled", "canceled"] then
    -- Nothing is left to cancel once the whole request has traded, whatever the flag says.
    (decimalOr 0 (raw.get "executed_amount")).map fun executed =>
      if requested ≤ executed then .filled else .canceled
  else if reasonText raw ∈ ["invalidquantity", "rejected", "insufficientfunds"] then .ok .rejected
  else
    (decimalOr 0 (raw.get "executed_amount")).map fun filled =>
      if requested ≤ filled ∨ (lower (raw.get "is_live").str = "false" ∧ 0 < filled) then .filled
      else if 0 < filled then .partiallyFilled
      else if (raw.get "is_live").truthy then .open
      else .pendingSubmit

/-- `btcusd` as `BTC-USD`. -/
def productOf (symbol : String) : String :=
  let characters := symbol.toList.map Char.toUpper
  if 3 < characters.length ∧ '-' ∉ characters then
    String.ofList (characters.take (characters.length - 3) ++ '-' :: characters.drop (characters.length - 3))
  else String.ofList characters

/-- `_recovered_request`. -/
def recovered (lib : Library) (raw : Json) (clientOrderId : String) : Except Exc OrderRequest := do
  let side ← sideOf raw
  let quantity ← decimalOr leastSize (((raw.get "original_amount").or (raw.get "amount")).or
    (raw.get "executed_amount"))
  let symbol := productOf ((raw.get "symbol").or (.string "btcusd")).str
  let limitPrice ← if (raw.get "price").truthy then optionalDecimal (raw.get "price") else .ok none
  recoveredRequest lib clientOrderId symbol side quantity limitPrice

/-- The fields of an order that the payload has, once its request is known. -/
def orderFields (lib : Library) (raw : Json) (providerId : String) (request : OrderRequest)
    (createdNow now : Timestamp) : Except Exc Order := do
  let status ← orderStatus raw request.quantity
  let filled ← decimalOr 0 (raw.get "executed_amount")
  let average ← optionalDecimal (raw.get "avg_execution_price")
  let createdAt ← timestampOr lib createdNow (raw.get "timestampms")
  let filledQuantity ← nonNegative "filled_quantity" filled
  let averageFillPrice ← optionalNonNegative "average_fill_price" average
  return { orderId := providerUuid lib providerId, request, status, filledQuantity, averageFillPrice
           createdAt, updatedAt := now }

/-- The request of an order: a known one, or one rebuilt from the payload. -/
def requestFor (lib : Library) (raw : Json) (clientId : String) :
    Option OrderRequest → Except Exc OrderRequest
  | some request => .ok request
  | none => recovered lib raw clientId

def providerIdOf (raw : Json) (clientId : String) : String :=
  ((raw.get "order_id").or (.string clientId)).str

/-- `_order_from_payload`. -/
def orderFromPayload (lib : Library) (payload : Json) (request : Option OrderRequest)
    (clientOrderId : Option String) : Broker Order := do
  let raw ← reads (asDict payload)
  let clientId := clientIdOf raw clientOrderId request
  let cache ← loadCache
  let request ← reads (requestFor lib raw clientId (request.or (cache.requests.get? clientId)))
  let providerId := providerIdOf raw clientId
  modifyCache fun cache =>
    { cache with providerOrderIds := cache.providerOrderIds.set clientId providerId }
  if (raw.member? "trades").isSome then do
    let trades ← reads (tupleOf (raw.get "trades"))
    modifyCache fun cache => { cache with rawFills := cache.rawFills.set clientId trades }
  let createdNow ← utcNow
  let now ← utcNow
  reads (orderFields lib raw providerId request createdNow now)

/-! ## Looking an order up -/

def keepOrder (clientOrderId : String) (order : Order) : Broker Unit :=
  modifyCache fun cache => { cache with orders := cache.orders.set clientOrderId order }

/-- A row of a list response that carries the client order id. -/
def carries (clientOrderId : String) (row : Json) : Bool :=
  row.isMapping && (row.get "client_order_id").str = clientOrderId

/-- `_only_order_for`: more than one match is never guessed. -/
def onlyOrderFor (rows : List Json) (clientOrderId : String) : Except Exc (Option Json) :=
  let matched := rows.filter (carries clientOrderId)
  if 1 < matched.length then
    .error (.other "ProviderError" s!"{matched.length} Gemini orders share one client_order_id")
  else .ok matched.head?

/-- What the venue's answer has of an order. -/
def venueRecord (payload : Json) (clientOrderId : String) : Except Exc (Option Json) :=
  match payload with
  | .list rows => (onlyOrderFor rows clientOrderId).map fun found => found.filter Json.truthy
  | payload => .ok (if payload.truthy then some payload else none)

def statusQuery (clientOrderId : String) : Option String → StatusQuery
  | some providerId =>
      .orderId (if providerId ≠ "" ∧ providerId.toList.all Char.isDigit then .int (providerId.toNat?.getD 0)
        else .string providerId)
  | none => .clientOrderId clientOrderId

/-- `_order_status`, the lookup. -/
def lookUp (lib : Library) (clientOrderId : String) : Broker (Option Order) := do
  let cache ← loadCache
  let request := cache.requests.get? clientOrderId
  let query := statusQuery clientOrderId (cache.providerOrderIds.get? clientOrderId)
  match ← (post (.orderStatus query)).attempt with
  | .error error =>
      if error.exc.kind = .providerHttp ∧ error.exc.statusCode = some 404 then return none
      else .raise error
  | .ok payload => do
      match ← reads (venueRecord payload clientOrderId) with
      | none => return none
      | some raw => do
          let order ← orderFromPayload lib raw request (some clientOrderId)
          keepOrder clientOrderId order
          return some order

def getOrder (lib : Library) (clientOrderId : String) : Broker (Option Order) :=
  settledOr Cache.orders clientOrderId (lookUp lib clientOrderId)

/-! ## Submitting -/

def reject {α : Type} (key : String) (unknown : Order) (message : String) : Broker α := do
  let rejected := { unknown with status := .rejected }
  keepOrder key rejected
  raises (orderRejected rejected message)

/-- Whole cents, rounded down or up. -/
def cents (round : Decimal → Int) (price : Decimal) : Decimal := round (price * 100) / 100

/-- `_market_cap`: a price past a fresh quote, rounded against the trader. -/
def marketCap (collar : Decimal) (request : OrderRequest) (unknown : Order) : Broker Decimal := do
  let key := request.clientOrderId.str
  match ← (venue (.getQuote request.symbol) : Broker Quote).attempt with
  | .error _ => reject key unknown "no quote to cap the order's price"
  | .ok quote => do
      let cap := match request.side with
        | .buy => cents Int.floor (quote.ask * (1 + collar))
        | .sell => cents Int.ceil (quote.bid * (1 - collar))
      if cap ≤ 0 then reject key unknown "the quote cannot price a capped order" else return cap

def geminiSymbol (symbol : String) : String :=
  lower (String.ofList (symbol.toList.filter fun character => character ≠ '-' ∧ character ≠ '/'))

def sideText : OrderSide → String
  | .buy => "buy"
  | .sell => "sell"

def newOrder (request : OrderRequest) (price : Option Decimal) : NewOrder where
  symbol := geminiSymbol request.symbol
  amount := request.quantity
  side := sideText request.side
  clientOrderId := request.clientOrderId.str
  price
  immediateOrCancel := request.orderType = .market

/-- What is made of the venue's acknowledgement. -/
def acknowledged (lib : Library) (request : OrderRequest) (unknown : Order) (payload : Json) :
    Broker Order := do
  let key := request.clientOrderId.str
  if payload.isMapping && (payload.get "is_cancelled").truthy && !(payload.get "order_id").truthy then
    reject key unknown ((payload.get "reason").or (.string "Gemini rejected order")).str
  else do
    let order ← orderFromPayload lib payload (some request) none
    keepOrder key order
    return order

/-- `str(reason or exc)`. -/
def refusalText (error : VenueError) : String :=
  if (error.payload.get "reason").truthy then (error.payload.get "reason").str else error.exc.message

/-- Send the order, as one the cache knows nothing final of. -/
def create (lib : Library) (collar : Decimal) (request : OrderRequest) : Broker Order := do
  let key := request.clientOrderId.str
  modifyCache fun cache => { cache with requests := cache.requests.set key request }
  let createdAt ← utcNow
  let updatedAt ← utcNow
  let unknown : Order :=
    { orderId := request.clientOrderId, request, status := .unknown
      filledQuantity := ⟨0, decimal_zero⟩, averageFillPrice := none, createdAt, updatedAt }
  let price ← match request.orderType with
    | .market => do
        let cap ← marketCap collar request unknown
        pure (some cap)
    | .limit => pure (request.limitPrice.map Subtype.val)
  match ← (post (.newOrder (newOrder request price))).attempt with
  | .error error =>
      if error.exc.kind = .providerTimeout then do
        keepOrder key unknown
        raises (ambiguousSubmission unknown)
      else if error.exc.kind = .providerHttp ∧ (error.exc.statusCode.any fun code => code ∈ rejectionStatuses) then
        reject key unknown (refusalText error)
      else .raise error
  | .ok payload => acknowledged lib request unknown payload

def submitOrder (lib : Library) (collar : Decimal) (request : OrderRequest) (approval : RiskApproval) :
    Broker Order :=
  submitUnlessKnown Cache.orders (getOrder lib request.clientOrderId.str) (create lib collar request)
    request approval

/-! ## Cancelling and editing -/

def cancelOrder (lib : Library) (clientOrderId : String) : Broker (Option Order) := do
  match ← currentOrder Cache.orders clientOrderId (getOrder lib clientOrderId) with
  | none => return none
  | some current => do
      let cache ← loadCache
      match cache.providerOrderIds.get? clientOrderId with
      | none => raises (.valueError "cannot cancel an order without a provider order id")
      | some providerId => do
          let payload ← post (.cancelOrder providerId)
          let order ← orderFromPayload lib payload (some current.request) none
          -- Whatever the answer says, unless it says filled, the order counts as canceled.
          let canceled :=
            if order.status = .canceled ∨ order.status = .filled then order
            else { order with status := .canceled }
          keepOrder clientOrderId canceled
          return some canceled

/-- `edit_order`, up to the replacement it submits or the order it returns. -/
def replaceOrder (lib : Library) (clientOrderId : String) (quantity limitPrice : Amount)
    (approval : Option RiskApproval) : Broker (Order ⊕ Replacement) :=
  match approval with
  | none => raises (.permissionError "Gemini uses cancel-and-replace and requires a fresh RiskApproval")
  | some approval => do
      match ← currentOrder Cache.orders clientOrderId (getOrder lib clientOrderId) with
      | none => raises (keyError clientOrderId)
      | some current => do
          match ← cancelOrder lib clientOrderId with
          | none => raises (keyError clientOrderId)
          | some canceled =>
              -- It filled before the cancel; nothing is left to replace.
              if canceled.status = .filled ∧ quantity.value ≤ canceled.filledQuantity then
                return .inl canceled
              else reads (replacementOf lib clientOrderId current canceled quantity limitPrice approval)

def editOrder (lib : Library) (collar : Decimal) (clientOrderId : String)
    (quantity limitPrice : Amount) (approval : Option RiskApproval) : Broker Order := do
  match ← replaceOrder lib clientOrderId quantity limitPrice approval with
  | .inl order => return order
  | .inr replacement => do
      let request ← reads replacement.request
      submitOrder lib collar request replacement.approval

end AlgoTrader.Brokers.Gemini
