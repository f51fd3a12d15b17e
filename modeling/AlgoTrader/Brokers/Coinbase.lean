/-
# Brokers.Coinbase -- the Coinbase Advanced Trade adapter

Orders are submitted, looked up and listed over private REST requests.  A submission that
timed out has no venue order id yet, and Coinbase documents no lookup by client order id, so
recent orders are listed for it: `None` from that search is what lets a caller submit again.
-/
import AlgoTrader.Brokers.Venue

namespace AlgoTrader.Brokers.Coinbase

open AlgoTrader.Core Theory

set_option autoImplicit false

/-! ## What is remembered and asked -/

structure Cache where
  requests : Dict String OrderRequest
  orders : Dict String Order
  providerOrderIds : Dict String String

/-- How an order is to be executed. -/
inductive OrderConfiguration where
  | marketMarketIoc (baseSize : PositiveDecimal)
  | limitLimitGtc (baseSize : PositiveDecimal) (limitPrice : NonNegativeDecimal) (postOnly : String)

structure CreateOrder where
  clientOrderId : String
  productId : String
  side : String
  orderConfiguration : OrderConfiguration

abbrev Params := List (String × Json)

inductive Request where
  | get (path : String) (params : Params)
  | createOrder (body : CreateOrder)
  | batchCancel (orderIds : List String)
  | editOrder (orderId size price : String)

abbrev Broker (α : Type) := Venue Cache Request α

def get (path : String) (params : Params) : Broker Json := venue (.request (.get path params))

/-- Page-size maximum of the listings. -/
def pageLimit : Int := 250

def maxAccountPages : Nat := 40

def maxFillPages : Nat := 20

def orderSearchPages : Nat := 10

/-- The search starts this long before an order's saved creation time. -/
def orderSearchMargin : Duration := 5 * 60 * 1000000

/-! ## Pages -/

/-- `_rows`: the objects of a listing; anything else lists none. -/
def rows (payload : Json) (key : String) : List Json :=
  match payload with
  | .list items => items.filter Json.isMapping
  | .object _ =>
      match payload.get key with
      | .list items => items.filter Json.isMapping
      | _ => []
  | _ => []

/-- `_next_cursor`: the cursor of the next page, or `""` when the listing is complete. -/
def nextCursor (payload : Json) (previous : String) : Except Exc String :=
  if !payload.isMapping || (payload.get "has_next").is false then .ok ""
  else
    let cursor := ((payload.get "cursor").or (.string "")).str
    if cursor ≠ "" ∧ cursor = previous then
      .error (.providerHttp 502 "pagination cursor did not advance")
    else .ok cursor

/-- `dict(params, cursor=cursor) if cursor else params`. -/
def withCursor (params : Params) (cursor : String) : Params :=
  if cursor = "" then params else params ++ [("cursor", .string cursor)]

/-- A row of the listing that carries the client order id. -/
def carries (clientOrderId : String) (row : Json) : Bool :=
  (row.get "client_order_id").str = clientOrderId

/-- What is left of the search, with so many pages to go. -/
def searchPages (params : Params) (clientOrderId : String) : Nat → String → Broker (Option Json)
  | 0, _ => raises (.providerHttp 502
      s!"order search did not reach the end of its window in {orderSearchPages} pages")
  | pages + 1, cursor => do
      let payload ← get "/orders/historical/batch" (withCursor params cursor)
      match (rows payload "orders").find? (carries clientOrderId) with
      | some row => return some row
      | none => do
          let next ← reads (nextCursor payload cursor)
          if next = "" then
            if payload.isMapping && (payload.get "has_next").is true then
              raises (.providerHttp 502 "order search reported more pages but no cursor")
            else return none
          else searchPages params clientOrderId pages next

/-- `_saved_order`: an unreadable store never narrows the search. -/
def savedOrder (clientOrderId : String) : Broker (Option Order) := do
  match ← (venue (.savedOrder clientOrderId) : Broker (Option Order)).attempt with
  | .ok saved => return saved
  | .error _ => return none

/-- What the search asks for: the product of the order, and its time on, where they are known. -/
def searchParams (lib : Library) (request : Option OrderRequest) (saved : Option Order) : Params :=
  [("limit", .int pageLimit)] ++
    (request.map fun request => ("product_ids", Json.list [.string request.symbol])).toList ++
    (saved.map fun saved =>
      ("start_date", Json.string (lib.rfc3339 (saved.createdAt - orderSearchMargin)))).toList

/-- `_find_by_client_order_id`. -/
def findByClientOrderId (lib : Library) (clientOrderId : String) : Broker (Option Json) := do
  let saved ← savedOrder clientOrderId
  let cache ← loadCache
  let request := (cache.requests.get? clientOrderId).or (saved.map Order.request)
  searchPages (searchParams lib request saved) clientOrderId orderSearchPages ""

/-- What is left of a listing, with so many pages to go and the rows so far. -/
def listPages (path key : String) (base : Params) (maxPages : Nat) :
    Nat → String → List Json → Broker (List Json)
  | 0, _, _ => raises (.providerHttp 502 s!"{key} pagination exceeded {maxPages} pages")
  | pages + 1, cursor, sofar => do
      let payload ← get path (withCursor base cursor)
      let page := rows payload key
      let next ← if page = [] then pure "" else reads (nextCursor payload cursor)
      if next = "" then return sofar ++ page
      else listPages path key base maxPages pages next (sofar ++ page)

/-- `_paginate`. -/
def paginate (path key : String) (params : Params) (maxPages : Nat) : Broker (List Json) :=
  listPages path key (params ++ [("limit", .int pageLimit)]) maxPages maxPages "" []

/-! ## A payload as an order -/

/-- `_unwrap`: the first of the members that is an object, or the payload itself. -/
def unwrap (payload : Json) (keys : List String) : Json :=
  if payload.isMapping then
    ((keys.map payload.get).find? Json.isMapping).getD payload
  else .object []

/-- `_decimal`. -/
def decimal (value : Json) : Except Exc Decimal :=
  match value with
  | .null => .error (.valueError "provider response omitted a required decimal")
  | .object _ => decimalText (value.get "value")
  | value => decimalText value

/-- `_decimal(value, default=default)`. -/
def decimalOr (default : Decimal) : Json → Except Exc Decimal
  | .null => .ok default
  | value => decimal value

/-- `_optional_decimal`. -/
def optionalDecimal : Json → Except Exc (Option Decimal)
  | .null => .ok none
  | value => (decimal value).map some

/-- `_timestamp` of a value that is there. -/
def timestamp (lib : Library) (value : Json) : Except Exc Timestamp :=
  match value with
  | .bool value => readMoment (lib.seconds (if value then "1" else "0"))
  | .int seconds => readMoment (lib.seconds (toString seconds))
  | .float text => readMoment (lib.seconds text)
  | value =>
      if value.str ≠ "" ∧ value.str.toList.all Char.isDigit then readMoment (lib.seconds value.str)
      else readMoment (lib.fromisoformat (value.str.replace "Z" "+00:00"))

/-- `_timestamp`: the time now where there is no value. -/
def timestampOr (lib : Library) (now : Timestamp) : Json → Except Exc Timestamp
  | .null => .ok now
  | value => timestamp lib value

/-- A time that can be read once can be read at any time. -/
theorem timestampOr_anytime {lib : Library} {earlier at_ : Timestamp} {value : Json} (now : Timestamp)
    (read : timestampOr lib earlier value = .ok at_) : ∃ again, timestampOr lib now value = .ok again := by
  cases value with
  | null => exact ⟨now, rfl⟩
  | _ => exact ⟨at_, read⟩

/-- The status a venue reports, in lower case. -/
def statusText (raw : Json) : String :=
  lower (((raw.get "status").or (raw.get "order_status")).or (.string "")).str

/-- `_order_status`. -/
def orderStatus (raw : Json) (requested : Decimal) : Except Exc OrderStatus :=
  let value := statusText raw
  if value = "unknown_order_status" then .ok .unknown
  else if value ∈ ["cancelled", "canceled", "expired"] then .ok .canceled
  else if value ∈ ["rejected", "failed"] || (raw.get "success").is false then .ok .rejected
  else
    (decimalOr 0 ((raw.get "filled_size").or (raw.get "filled_quantity"))).map fun filled =>
      if value = "filled" then .filled
      else if 0 < filled ∨ value ∈ ["partially_filled", "partial"] then
        -- A create acknowledgement carries no status: infer it from the filled size.
        if value ≠ "" ∨ filled < requested then .partiallyFilled else .filled
      else if value ∈ ["pending", "pending_submit"] then .pendingSubmit
      else .open

/-- `_configured_order`: the base size and limit price nested in the order configuration. -/
def configuredOrder (raw : Json) : Except Exc (Option Decimal × Option Decimal) :=
  match raw.get "order_configuration" with
  | .object members =>
      match (members.map Prod.snd).find? Json.isMapping with
      | some settings => do
          let size ← optionalDecimal (settings.get "base_size")
          let price ← optionalDecimal (settings.get "limit_price")
          return (size, price)
      | none => .ok (none, none)
  | _ => .ok (none, none)

/-- `_recovered_request`; a price or a size of zero counts as none. -/
def recovered (lib : Library) (raw : Json) (clientOrderId : String) : Except Exc OrderRequest := do
  let side ← sideOf raw
  let (size, price) ← configuredOrder raw
  let limitPrice ← match price.filter (· ≠ 0) with
    | some price => Except.ok (some price)
    | none => optionalDecimal ((raw.get "limit_price").or (raw.get "price"))
  let quantity ← match size.filter (· ≠ 0) with
    | some size => Except.ok size
    | none => decimalOr leastSize (((raw.get "original_size").or (raw.get "size")).or
        (raw.get "filled_size"))
  let symbol := ((raw.get "product_id").or (.string "BTC-USD")).str
  recoveredRequest lib clientOrderId symbol side quantity (limitPrice.filter (· ≠ 0))

/-- The fields of an order that the payload has, once its request is known. -/
def orderFields (lib : Library) (raw : Json) (providerId : String) (request : OrderRequest)
    (createdNow now : Timestamp) : Except Exc Order := do
  let status ← orderStatus raw request.quantity
  let filled ← decimalOr 0 (((raw.get "filled_size").or (raw.get "filled_quantity")).or
    (raw.get "executed_size"))
  let average ← optionalDecimal ((raw.get "average_filled_price").or (raw.get "average_fill_price"))
  let createdAt ← timestampOr lib createdNow ((raw.get "created_time").or (raw.get "created_at"))
  let filledQuantity ← nonNegative "filled_quantity" filled
  let averageFillPrice ← optionalNonNegative "average_fill_price" average
  return { orderId := providerUuid lib providerId, request, status, filledQuantity, averageFillPrice
           createdAt, updatedAt := now }

/-- The request of an order: a known one, or one rebuilt from the payload. -/
def requestFor (lib : Library) (raw : Json) (clientId : String) :
    Option OrderRequest → Except Exc OrderRequest
  | some request => .ok request
  | none => recovered lib raw clientId

def providerIdOf (raw : Json) (clientId : String) : String :=
  (((raw.get "order_id").or (raw.get "id")).or (.string clientId)).str

/-- `_order_from_payload`. -/
def orderFromPayload (lib : Library) (payload : Json) (request : Option OrderRequest)
    (clientOrderId : Option String) : Broker Order := do
  let raw := unwrap payload ["order", "success_response"]
  let clientId := clientIdOf raw clientOrderId request
  let cache ← loadCache
  let request ← reads (requestFor lib raw clientId (request.or (cache.requests.get? clientId)))
  let providerId := providerIdOf raw clientId
  modifyCache fun cache =>
    { cache with providerOrderIds := cache.providerOrderIds.set clientId providerId }
  let createdNow ← utcNow
  let now ← utcNow
  reads (orderFields lib raw providerId request createdNow now)

/-! ## Looking an order up -/

def keepOrder (clientOrderId : String) (order : Order) : Broker Unit :=
  modifyCache fun cache => { cache with orders := cache.orders.set clientOrderId order }

/-- `_is_missing`. -/
def isMissing (payload : Json) : Bool :=
  payload.isMapping &&
    lower ((payload.get "error").or (.string "")).str ∈ ["not_found", "order_not_found"]

/-- The record an answer by the venue's id holds. -/
def recordOf : Json → Option Json
  | .null => none
  | payload => if isMissing payload then none else some payload

/-- What the venue has of an order: by the id it gave it, or else from the listing. -/
def venueRecord (lib : Library) (clientOrderId : String) (providerId : Option String) :
    Broker (Option Json) := do
  match providerId with
  | some providerId => do
      match ← (get s!"/orders/historical/{providerId}" []).attempt with
      | .error error =>
          if error.exc.kind = .providerHttp ∧ error.exc.statusCode = some 404 then return none
          else .raise error
      | .ok payload => return recordOf payload
  | none => findByClientOrderId lib clientOrderId

/-- The lookup of an order that is not known to have ended. -/
def lookUp (lib : Library) (clientOrderId : String) : Broker (Option Order) := do
  let cache ← loadCache
  match ← venueRecord lib clientOrderId (cache.providerOrderIds.get? clientOrderId) with
  | none => return none
  | some raw => do
      let cache ← loadCache
      let order ← orderFromPayload lib raw (cache.requests.get? clientOrderId) (some clientOrderId)
      keepOrder clientOrderId order
      return some order

def getOrder (lib : Library) (clientOrderId : String) : Broker (Option Order) :=
  settledOr Cache.orders clientOrderId (lookUp lib clientOrderId)

/-! ## Submitting -/

/-- `_error_message`. -/
def errorMessage (payload : Json) : String :=
  if payload.isMapping then
    let nested := payload.get "error_response"
    if nested.truthy && !nested.isMapping then nested.str
    else
      let source := if nested.isMapping then nested else payload
      let code := source.get "error"
      let message := source.get "message"
      if code.truthy && message.truthy then s!"{code.str}: {message.str}"
      else ((code.or message).or (.string "provider rejected request")).str
  else "provider rejected request"

/-- `_coinbase_order_configuration`; a limit order has its price. -/
def orderConfiguration (request : OrderRequest) : OrderConfiguration :=
  match request.orderType, request.limitPrice with
  | .limit, some limitPrice => .limitLimitGtc request.quantity limitPrice "false"
  | _, _ => .marketMarketIoc request.quantity

def sideText : OrderSide → String
  | .buy => "BUY"
  | .sell => "SELL"

def createOrder (request : OrderRequest) : CreateOrder where
  clientOrderId := request.clientOrderId.str
  productId := request.symbol
  side := sideText request.side
  orderConfiguration := orderConfiguration request

/-- What a failed read-back of an accepted order is not let through for. -/
def readBackFailure (exc : Exc) : Bool :=
  exc.kind ∈ [.providerTimeout, .providerHttp] ||
    exc.typeName ∈ ["ProviderError", "ProviderOrderRejectedError", "CircuitOpen", "RateLimitExceeded"]

def reject (key : String) (unknown : Order) (message : String) : Broker Order := do
  let rejected := { unknown with status := .rejected }
  keepOrder key rejected
  raises (orderRejected rejected message)

/-- What is made of the venue's acknowledgement. -/
def acknowledged (lib : Library) (request : OrderRequest) (unknown : Order) (payload : Json) :
    Broker Order := do
  let key := request.clientOrderId.str
  if !payload.isMapping then raises (.other "AttributeError" "object has no attribute 'get'")
  else if (payload.get "success").is false then reject key unknown (errorMessage payload)
  else do
    let order ← orderFromPayload lib payload (some request) none
    keepOrder key order
    -- The response carries identifiers only, so the order is read back.
    match ← (getOrder lib key).attempt with
    | .ok refreshed => return refreshed.getD order
    | .error error => if readBackFailure error.exc then return order else .raise error

/-- Send the order, as one the cache knows nothing final of. -/
def create (lib : Library) (request : OrderRequest) : Broker Order := do
  let key := request.clientOrderId.str
  modifyCache fun cache => { cache with requests := cache.requests.set key request }
  let createdAt ← utcNow
  let updatedAt ← utcNow
  let unknown : Order :=
    { orderId := request.clientOrderId, request, status := .unknown
      filledQuantity := ⟨0, decimal_zero⟩, averageFillPrice := none, createdAt, updatedAt }
  match ← (venue (.request (.createOrder (createOrder request))) : Broker Json).attempt with
  | .error error =>
      if error.exc.kind = .providerTimeout then do
        keepOrder key unknown
        raises (ambiguousSubmission unknown)
      else if error.exc.kind = .providerHttp ∧ (error.exc.statusCode = some 400 ∨
          error.exc.statusCode = some 422) then
        reject key unknown (errorMessage error.payload)
      else .raise error
  | .ok payload => acknowledged lib request unknown payload

def submitOrder (lib : Library) (request : OrderRequest) (approval : RiskApproval) : Broker Order :=
  submitUnlessKnown Cache.orders (getOrder lib request.clientOrderId.str) (create lib request) request
    approval

/-! ## Cancelling and editing -/

/-- `reason or 'no result'`, of the first result. -/
def cancelReason (results : List Json) : String :=
  match results.head? with
  | some row => ((row.get "failure_reason").or (.string "no result")).str
  | none => "no result"

def cancelOrder (lib : Library) (clientOrderId : String) : Broker (Option Order) := do
  let cache ← loadCache
  let known := (cache.providerOrderIds.get? clientOrderId).filter (· ≠ "")
  match ← currentOrder Cache.orders clientOrderId (getOrder lib clientOrderId) with
  | none => return none
  | some current => do
      let providerId := known.getD current.orderId.str
      let payload ← venue (.request (.batchCancel [providerId]))
      let results := rows payload "results"
      if !results.any fun row => (row.get "success").is true then
        raises (.providerHttp 409 s!"cancel failed: {cancelReason results}")
      else do
        -- The request is only acknowledged, so the order is read again.
        let refreshed ← getOrder lib clientOrderId
        return some (refreshed.getD current)

/-- `_edit_errors`. -/
def editErrors (payload : Json) : String :=
  let reasons := (rows payload "errors").map fun row =>
    ((row.get "edit_failure_reason").or (row.get "preview_failure_reason")).str
  if payload.isMapping && !reasons.isEmpty then ", ".intercalate reasons
  else "provider rejected the edit"

/-- An edit at the venue, of an order that is open there. -/
def editInPlace (lib : Library) (clientOrderId : String) (quantity limitPrice : Amount)
    (current : Order) (edited : OrderRequest) : Broker Order := do
  let cache ← loadCache
  let providerId := (cache.providerOrderIds.get? clientOrderId).getD current.orderId.str
  let payload ← venue (.request (.editOrder providerId quantity.text limitPrice.text))
  if !payload.isMapping || !(payload.get "success").is true then
    raises (.providerHttp 409 s!"edit failed: {editErrors payload}")
  else do
    modifyCache fun cache => { cache with requests := cache.requests.set clientOrderId edited }
    modifyCache fun cache => { cache with orders := cache.orders.erase clientOrderId }
    match ← getOrder lib clientOrderId with
    | some updated => return updated
    | none => raises (keyError clientOrderId)

/-- `edit_order`, up to the replacement it submits or the order it returns. -/
def replaceOrder (lib : Library) (clientOrderId : String) (quantity limitPrice : Amount)
    (approval : Option RiskApproval) : Broker (Order ⊕ Replacement) :=
  if positive : 0 < quantity.value ∧ 0 < limitPrice.value then do
    match ← currentOrder Cache.orders clientOrderId (getOrder lib clientOrderId) with
    | none => raises (keyError clientOrderId)
    | some current =>
        if current.status.terminal then raises (.valueError "terminal orders cannot be edited")
        else if limit : current.request.orderType = .limit then
          if (current.status = .open ∨ current.status = .partiallyFilled) ∧
              current.filledQuantity ≤ quantity.value then do
            let order ← editInPlace lib clientOrderId quantity limitPrice current
              { current.request with
                quantity := ⟨quantity.value, positive.1⟩
                limitPrice := some ⟨limitPrice.value, positive.2.le⟩
                priceValid := by rw [limit]; rfl }
            return .inl order
          else
            match approval with
            | none => raises (.permissionError "cancel-and-replace requires a fresh RiskApproval")
            | some approval => do
                match ← cancelOrder lib clientOrderId with
                | none => raises (keyError clientOrderId)
                | some canceled =>
                    reads (replacementOf lib clientOrderId current canceled quantity limitPrice approval)
        else raises (.valueError "only open limit orders can be edited")
  else raises (.valueError "edited quantity and limit_price must be positive")

def editOrder (lib : Library) (clientOrderId : String) (quantity limitPrice : Amount)
    (approval : Option RiskApproval) : Broker Order := do
  match ← replaceOrder lib clientOrderId quantity limitPrice approval with
  | .inl order => return order
  | .inr replacement => do
      let request ← reads replacement.request
      submitOrder lib request replacement.approval

end AlgoTrader.Brokers.Coinbase
