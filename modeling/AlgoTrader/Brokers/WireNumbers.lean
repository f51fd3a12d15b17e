/-
# Brokers.WireNumbers -- the numbers of an order, as the adapters write them

Both adapters send the size and the price of an order as texts, and both write them with
`str`.

* `capText_denoted` -- the cap of a market order is always written as a plain numeral;
* `wire_plain_iff` -- the other numbers are where they are plain themselves.
-/
import AlgoTrader.Brokers.MarketCap
import AlgoTrader.Core.Numerals

namespace AlgoTrader.Brokers

open AlgoTrader.Core AlgoTrader.Process

set_option autoImplicit false

/-- An accepted request, with its numbers as it was given them. -/
structure WrittenRequest where
  request : OrderRequest
  quantity : Numeral
  limitPrice : Option Numeral
  quantityValue : quantity.value = request.quantity
  limitValue : limitPrice.map Numeral.value = request.limitPrice.map Subtype.val

abbrev Body := List (String × Json)

/-- `str(number)`, as a member of a body. -/
def numberText (number : Numeral) : Json := .string (String.ofList number.text)

/-- A member of the body is a plain numeral that denotes the value. -/
def Says (body : Body) (field : String) (value : Decimal) : Prop :=
  ∃ text, (Json.object body).get field = .string text ∧ denoted text.toList = some value

namespace Coinbase

/-- `_coinbase_order_configuration`, on the wire. -/
def configurationBody (written : WrittenRequest) : String × Body :=
  match written.request.orderType, written.limitPrice with
  | .limit, some limitPrice =>
      ("limit_limit_gtc", [("base_size", numberText written.quantity), ("limit_price", numberText limitPrice),
        ("post_only", .string "false")])
  | _, _ => ("market_market_ioc", [("base_size", numberText written.quantity)])

/-- The body of `/orders/edit`. -/
def editBody (providerId : String) (quantity limitPrice : Numeral) : Body :=
  [("order_id", .string providerId), ("size", numberText quantity), ("price", numberText limitPrice)]

end Coinbase

namespace Gemini

theorem tick_bounded {coefficient : Nat} (fits : (Nat.toDigits 10 coefficient).length ≤ 28) :
    Bounded coefficient (-2) := by
  refine ⟨fits.trans (by norm_num), by norm_num, ?_⟩
  omega

/-- `price.quantize(PRICE_TICK, rounding)` of a price above zero; it raises where the digits do
not fit the context. -/
def quantized (round : Decimal → Int) (price : Decimal) : Option Numeral :=
  if fits : (Nat.toDigits 10 (round (price * 100)).toNat).length ≤ 28 then
    some ⟨false, (round (price * 100)).toNat, -2, tick_bounded fits⟩
  else none

/-- `cap`, before it is known to be positive. -/
def capNumeral (collar : Decimal) (side : OrderSide) (quote : Quote) : Option Numeral :=
  match side with
  | .buy => quantized Int.floor (quote.ask * (1 + collar))
  | .sell => quantized Int.ceil (quote.bid * (1 - collar))

/-- The price a request is sent with: its cap or its limit. -/
def priceOf (written : WrittenRequest) (cap : Numeral) : Option Numeral :=
  match written.request.orderType with
  | .market => some cap
  | .limit => written.limitPrice

/-- The body of `/v1/order/new`. -/
def orderBody (written : WrittenRequest) (cap : Numeral) : Body :=
  [("symbol", .string (geminiSymbol written.request.symbol)), ("amount", numberText written.quantity),
    ("side", .string (sideText written.request.side)), ("type", .string "exchange limit"),
    ("client_order_id", .string written.request.clientOrderId.str)] ++
  ((priceOf written cap).map fun price => ("price", numberText price)).toList ++
  if written.request.orderType = .market then [("options", .list [.string "immediate-or-cancel"])] else []

end Gemini

/-- Every amount, size and price that either adapter writes for the request, and for an edit of
an order to it, is a plain numeral that denotes the request's. -/
structure OnWire (written : WrittenRequest) : Prop where
  baseSize : Says (Coinbase.configurationBody written).2 "base_size" written.request.quantity
  limitPrice : ∀ price ∈ written.request.limitPrice,
    Says (Coinbase.configurationBody written).2 "limit_price" price
  edited : ∀ providerId, ∀ price ∈ written.limitPrice,
    Says (Coinbase.editBody providerId written.quantity price) "size" written.request.quantity ∧
      Says (Coinbase.editBody providerId written.quantity price) "price" price.value
  amount : ∀ cap, Says (Gemini.orderBody written cap) "amount" written.request.quantity
  price : ∀ cap, ∀ price ∈ written.request.limitPrice, Says (Gemini.orderBody written cap) "price" price
  capped : written.request.orderType = .market → ∀ (collar : Gemini.MarketCollar) (quote : Quote) (cap : Numeral),
    Gemini.capNumeral collar.value written.request.side quote = some cap →
    Says (Gemini.orderBody written cap) "price" (Gemini.capOf collar.value written.request.side quote)

/-! ## Texts -/

theorem says_iff {body : Body} {field : String} {number : Numeral}
    (there : (Json.object body).get field = numberText number) :
    Says body field number.value ↔ number.Plain := by
  rw [← Numeral.denoted_text_iff]
  constructor
  · rintro ⟨text, same, read⟩
    cases there.symm.trans same
    rwa [String.toList_ofList] at read
  · intro read
    exact ⟨_, there, by rw [String.toList_ofList]; exact read⟩

theorem mem_limitPrice {written : WrittenRequest} {price : NonNegativeDecimal}
    (there : price ∈ written.request.limitPrice) :
    written.request.orderType = .limit ∧
      ∃ number, written.limitPrice = some number ∧ number.value = price := by
  have values := written.limitValue
  rw [show written.request.limitPrice = some price from there, Option.map_some,
    Option.map_eq_some_iff] at values
  refine ⟨?_, values⟩
  have valid := written.request.priceValid
  cases kind : written.request.orderType with
  | limit => rfl
  | market =>
      rw [kind, show written.request.limitPrice = some price from there] at valid
      cases valid

namespace Coinbase

theorem configurationBody_size (written : WrittenRequest) :
    (Json.object (configurationBody written).2).get "base_size" = numberText written.quantity := by
  unfold configurationBody
  split
  · rfl
  · rfl

end Coinbase

namespace Gemini

theorem orderBody_amount (written : WrittenRequest) (cap : Numeral) :
    (Json.object (orderBody written cap)).get "amount" = numberText written.quantity := by
  unfold orderBody
  cases priceOf written cap with
  | none =>
      split
      · rfl
      · rfl
  | some price =>
      split
      · rfl
      · rfl

theorem orderBody_price {written : WrittenRequest} {cap price : Numeral}
    (given : priceOf written cap = some price) :
    (Json.object (orderBody written cap)).get "price" = numberText price := by
  unfold orderBody
  rw [given]
  split
  · rfl
  · rfl

/-- The tick keeps a price above zero exact, and plain. -/
theorem quantized_cents {round : Decimal → Int} {price : Decimal} {cap : Numeral}
    (above : 0 ≤ round (price * 100)) (some : quantized round price = .some cap) :
    cap.value = cents round price ∧ cap.Plain := by
  unfold quantized at some
  split at some
  · cases some
    constructor
    · have whole : ((round (price * 100)).toNat : Decimal) = round (price * 100) := by
        exact_mod_cast Int.toNat_of_nonneg above
      rw [Numeral.value, RawDecimal.value, whole, cents, if_neg Bool.false_ne_true, one_mul,
        div_eq_mul_inv]
      norm_num
    · have long := List.length_pos_iff.2 (RawDecimal.digits_ne_nil (round (price * 100)).toNat)
      refine ⟨by norm_num, ?_⟩
      show (-6 : Int) < -2 + _
      omega
  · cases some

theorem capNumeral_cap {collar : MarketCollar} {side : OrderSide} {quote : Quote} {cap : Numeral}
    (some : capNumeral collar.value side quote = .some cap) :
    cap.value = capOf collar.value side quote ∧ cap.Plain := by
  cases side with
  | buy =>
      refine quantized_cents (Int.floor_nonneg.2 ?_) some
      have above := collar.positive
      have ask := quote.ask.2
      positivity
  | sell =>
      refine quantized_cents (Int.ceil_nonneg ?_) some
      have below : 0 < 1 - collar.value := by
        have narrow := collar.belowTenth
        linarith
      have bid := quote.bid.2
      positivity

end Gemini

/-- **Numbers on the wire.** What both adapters write for a request is in plain numerals exactly
where its quantity and its limit price are plain. -/
theorem wire_plain_iff (written : WrittenRequest) :
    OnWire written ↔ written.quantity.Plain ∧ ∀ price ∈ written.limitPrice, price.Plain := by
  constructor
  · intro wire
    constructor
    · rw [← says_iff (Coinbase.configurationBody_size written), written.quantityValue]
      exact wire.baseSize
    · intro price there
      exact (says_iff rfl).1 (wire.edited "" price there).2
  · rintro ⟨size, prices⟩
    exact {
      baseSize := by
        rw [← written.quantityValue]
        exact (says_iff (Coinbase.configurationBody_size written)).2 size
      limitPrice := by
        intro price there
        obtain ⟨limit, number, given, value⟩ := mem_limitPrice there
        rw [← value]
        refine (says_iff ?_).2 (prices number given)
        rw [Coinbase.configurationBody, limit, given]
        rfl
      edited := by
        intro providerId price there
        rw [← written.quantityValue]
        exact ⟨(says_iff rfl).2 size, (says_iff rfl).2 (prices price there)⟩
      amount := by
        intro cap
        rw [← written.quantityValue]
        exact (says_iff (Gemini.orderBody_amount written cap)).2 size
      price := by
        intro cap price there
        obtain ⟨limit, number, given, value⟩ := mem_limitPrice there
        rw [← value]
        refine (says_iff (Gemini.orderBody_price ?_)).2 (prices number given)
        rw [Gemini.priceOf, limit, given]
      capped := by
        intro market collar quote cap quantized
        obtain ⟨value, plain⟩ := Gemini.capNumeral_cap quantized
        rw [← value]
        refine (says_iff (Gemini.orderBody_price ?_)).2 plain
        rw [Gemini.priceOf, market] }

theorem tiny_bounded : Bounded 1 (-7) := by decide

theorem decimal_tiny : (0 : Decimal) < 1 / 10000000 := by decide +kernel

/-- A request for a ten-millionth of a coin. -/
def tinyMarketBuy : WrittenRequest where
  request := { marketBuy ⟨1⟩ ⟨2⟩ with quantity := ⟨1 / 10000000, decimal_tiny⟩ }
  quantity := ⟨false, 1, -7, tiny_bounded⟩
  limitPrice := none
  quantityValue := by decide +kernel
  limitValue := rfl

/-- It is written `1E-7`. -/
theorem tinyMarketBuy_exponent :
    numberText tinyMarketBuy.quantity = .string "1E-7" ∧ ¬OnWire tinyMarketBuy := by
  constructor
  · have digits : tinyMarketBuy.quantity.text = ['1', 'E', '-', '7'] := by decide
    rw [numberText, digits]
  · intro wire
    have size := wire.baseSize
    rw [← tinyMarketBuy.quantityValue, says_iff (Coinbase.configurationBody_size _)] at size
    exact absurd size (by decide)

end AlgoTrader.Brokers
