/-
# Core.OrderKey -- the client order id of an order that names none

The id is the UUID of a text: seven of the values a request is built from, as `str` writes
them, joined with `|`.  They are written as they come in, before the validators read them:
one number has many texts, and a `|` in a strategy version or a symbol is a separator too.

* `canonical_eq_iff` -- what two equal texts say of the values;
* `key_identifies_iff` -- when the ids of two requests tell whether they are one order;
* `one_point_zero` -- the same order, once for `1` and once for `1.0`.
-/
import AlgoTrader.Core.Models
import AlgoTrader.Core.Text
import AlgoTrader.Theory.Dict
import AlgoTrader.Theory.Separated

namespace AlgoTrader.Core.OrderKey

open Theory

set_option autoImplicit false

/-- What a value is to the language and to the validators of the fields: its text, its truth,
the text of its `value` attribute (its own text, if it has none), and what is read off it. -/
structure Readers (Value : Type) where
  str : Value → String
  truthy : Value → Bool
  enumStr : Value → String
  uuid : Value → Option Uuid
  /-- With the blanks around it stripped. -/
  text : Value → Option String
  side : Value → Option OrderSide
  orderType : Value → Option OrderType
  decimal : Value → Option Decimal
  uuid5 : String → Uuid

/-- The values a request is built from; `none` is `None`. -/
abbrev Values (Value : Type) := Dict String (Option Value)

/-- The texts that make up the key. -/
structure KeyTexts where
  signalId : String
  strategyVersion : String
  symbol : String
  side : String
  orderType : String
  quantity : String
  limitPrice : String
  deriving DecidableEq

def KeyTexts.canonical (texts : KeyTexts) : String :=
  "|".intercalate [texts.signalId, texts.strategyVersion, texts.symbol, texts.side,
    texts.orderType, texts.quantity, texts.limitPrice]

section Build

variable {Value : Type}

/-- `values.get(field)`. -/
def get (values : Values Value) (field : String) : Option Value := (values.get? field).join

variable (readers : Readers Value)

/-- `str` of a value that may be `None`. -/
def strOf (str : Value → String) (value : Option Value) : String := (value.map str).getD "None"

def keyTexts (values : Values Value) : KeyTexts where
  signalId := strOf readers.str (get values "signal_id")
  strategyVersion := strOf readers.str (get values "strategy_version")
  symbol := strOf readers.str (get values "symbol")
  side := strOf readers.enumStr (get values "side")
  orderType := strOf readers.enumStr (get values "order_type")
  quantity := strOf readers.str (get values "quantity")
  -- `str(limit_price or "")`: a price of zero has the text of no price.
  limitPrice := (((get values "limit_price").filter readers.truthy).map readers.str).getD ""

/-- `assign_deterministic_client_order_id`, and the validator of the field. -/
def clientOrderId (values : Values Value) : Option Uuid :=
  match get values "client_order_id" with
  | some given => readers.uuid given
  | none => some (readers.uuid5 (keyTexts readers values).canonical)

def positive (value : Decimal) : Option PositiveDecimal :=
  if above : 0 < value then some ⟨value, above⟩ else none

def notNegative (value : Decimal) : Option NonNegativeDecimal :=
  if above : 0 ≤ value then some ⟨value, above⟩ else none

/-- A price, or `None`. -/
def limitPrice : Option Value → Option (Option NonNegativeDecimal)
  | none => some none
  | some value => ((readers.decimal value).bind notNegative).map some

def fields : List String :=
  ["signal_id", "strategy_version", "symbol", "side", "order_type", "quantity", "limit_price",
    "client_order_id", "correlation_id"]

/-- `OrderRequest(**values)`; nothing where the validators raise. -/
def build (values : Values Value) : Option OrderRequest :=
  if values.keys.all (· ∈ fields) then do
    let signalId ← (get values "signal_id").bind readers.uuid
    let strategyVersion ← (get values "strategy_version").bind readers.text
    let symbol ← (get values "symbol").bind readers.text
    let side ← (get values "side").bind readers.side
    let orderType ← (get values "order_type").bind readers.orderType
    let quantity ← ((get values "quantity").bind readers.decimal).bind positive
    let limitPrice ← limitPrice readers (get values "limit_price")
    let clientOrderId ← clientOrderId readers values
    let correlationId ← (get values "correlation_id").bind readers.uuid
    if priceValid : PriceValid orderType limitPrice then
      some ⟨signalId, strategyVersion, symbol, side, orderType, quantity, limitPrice, clientOrderId,
        correlationId, priceValid⟩
    else none
  else none

/-- What a request that was built says of its values. -/
structure Built (values : Values Value) (request : OrderRequest) : Prop where
  signalId : (get values "signal_id").bind readers.uuid = some request.signalId
  strategyVersion : (get values "strategy_version").bind readers.text = some request.strategyVersion
  symbol : (get values "symbol").bind readers.text = some request.symbol
  side : (get values "side").bind readers.side = some request.side
  orderType : (get values "order_type").bind readers.orderType = some request.orderType
  quantity : (get values "quantity").bind readers.decimal = some request.quantity.1
  limitPrice : limitPrice readers (get values "limit_price") = some request.limitPrice
  clientOrderId : clientOrderId readers values = some request.clientOrderId

variable {readers}

theorem positive_eq_some {value : Decimal} {q : PositiveDecimal} (is : positive value = some q) :
    value = q.1 := by
  unfold positive at is
  split at is
  · cases is
    rfl
  · cases is

theorem notNegative_eq_some {value : Decimal} {q : NonNegativeDecimal}
    (is : notNegative value = some q) : value = q.1 := by
  unfold notNegative at is
  split at is
  · cases is
    rfl
  · cases is

theorem build_eq_some {values : Values Value} {request : OrderRequest}
    (built : build readers values = some request) : Built readers values request := by
  unfold build at built
  split at built
  swap
  · cases built
  obtain ⟨signalId, signalId_is, built⟩ := Option.bind_eq_some_iff.1 built
  obtain ⟨strategyVersion, strategyVersion_is, built⟩ := Option.bind_eq_some_iff.1 built
  obtain ⟨symbol, symbol_is, built⟩ := Option.bind_eq_some_iff.1 built
  obtain ⟨side, side_is, built⟩ := Option.bind_eq_some_iff.1 built
  obtain ⟨orderType, orderType_is, built⟩ := Option.bind_eq_some_iff.1 built
  obtain ⟨quantity, quantity_is, built⟩ := Option.bind_eq_some_iff.1 built
  obtain ⟨price, price_is, built⟩ := Option.bind_eq_some_iff.1 built
  obtain ⟨clientOrderId, clientOrderId_is, built⟩ := Option.bind_eq_some_iff.1 built
  obtain ⟨correlationId, -, built⟩ := Option.bind_eq_some_iff.1 built
  split at built
  swap
  · cases built
  cases built
  obtain ⟨number, read, above⟩ := Option.bind_eq_some_iff.1 quantity_is
  have quantity_read : (get values "quantity").bind readers.decimal = some quantity.1 := by
    rw [read, positive_eq_some above]
  exact ⟨signalId_is, strategyVersion_is, symbol_is, side_is, orderType_is, quantity_read, price_is,
    clientOrderId_is⟩

/-! ## What a text tells -/

/-- Whatever is read holds no separator in its text, and its text tells what is read. -/
structure Tells {α : Type} (str : Value → String) (read : Value → Option α) : Prop where
  bare : ∀ {v x}, read v = some x → '|' ∉ (str v).toList
  told : ∀ {v w x y}, read v = some x → read w = some y → str v = str w → x = y

/-- What the texts of values are relied on for. -/
structure Documented (readers : Readers Value) : Prop where
  /-- No text of a UUID goes on, after a separator, as the text of another. -/
  uuidApart : ∀ {v w x y} {rest rest' : List Char}, readers.uuid v = some x →
    readers.uuid w = some y →
    (readers.str v).toList ++ '|' :: rest = (readers.str w).toList ++ '|' :: rest' →
      readers.str v = readers.str w
  uuidTold : ∀ {v w x y}, readers.uuid v = some x → readers.uuid w = some y →
    readers.str v = readers.str w → x = y
  side : Tells readers.enumStr readers.side
  orderType : Tells readers.enumStr readers.orderType
  decimal : Tells readers.str readers.decimal
  decimalText : ∀ {v x}, readers.decimal v = some x → readers.str v ≠ ""
  /-- A number that is not true is zero. -/
  zero : ∀ {v x}, readers.decimal v = some x → readers.truthy v = false → x = 0
  /-- What is stripped off a text is no separator. -/
  bars : ∀ {v x}, readers.text v = some x → x.toList.count '|' = (readers.str v).toList.count '|'

/-- The texts are alike but for where a strategy version ends and a symbol begins. -/
structure JoinedAlike (texts texts' : KeyTexts) : Prop where
  signalId : texts.signalId = texts'.signalId
  versionAndSymbol : texts.strategyVersion.toList ++ '|' :: texts.symbol.toList =
    texts'.strategyVersion.toList ++ '|' :: texts'.symbol.toList
  side : texts.side = texts'.side
  orderType : texts.orderType = texts'.orderType
  quantity : texts.quantity = texts'.quantity
  limitPrice : texts.limitPrice = texts'.limitPrice

theorem canonical_toList (texts : KeyTexts) : texts.canonical.toList =
    texts.signalId.toList ++ '|' :: ((texts.strategyVersion.toList ++ '|' :: texts.symbol.toList) ++
      '|' :: (texts.side.toList ++ '|' :: (texts.orderType.toList ++
        '|' :: (texts.quantity.toList ++ '|' :: texts.limitPrice.toList)))) := by
  have bar : "|".toList = ['|'] := rfl
  simp [KeyTexts.canonical, bar]

theorem JoinedAlike.canonical {texts texts' : KeyTexts} (alike : JoinedAlike texts texts') :
    texts.canonical = texts'.canonical := by
  apply String.toList_injective
  rw [canonical_toList, canonical_toList, alike.signalId, alike.versionAndSymbol, alike.side,
    alike.orderType, alike.quantity, alike.limitPrice]

section Texts

variable {values values' : Values Value} {request request' : OrderRequest}

/-- The value a required field was read from. -/
theorem read_of_bind {α : Type} {field : String} {read : Value → Option α} {x : α}
    (str : Value → String) (is : (get values field).bind read = some x) :
    ∃ v, read v = some x ∧ strOf str (get values field) = str v := by
  obtain ⟨v, got, reads⟩ := Option.bind_eq_some_iff.1 is
  exact ⟨v, reads, by simp [strOf, got]⟩

section Tells

variable {α : Type} {field : String} {str : Value → String} {read : Value → Option α} {x y : α}

theorem Tells.field_bare (tells : Tells str read) (is : (get values field).bind read = some x) :
    '|' ∉ (strOf str (get values field)).toList := by
  obtain ⟨v, reads, text⟩ := read_of_bind str is
  rw [text]
  exact tells.bare reads

theorem Tells.field_told (tells : Tells str read) (is : (get values field).bind read = some x)
    (is' : (get values' field).bind read = some y)
    (same : strOf str (get values field) = strOf str (get values' field)) : x = y := by
  obtain ⟨v, reads, text⟩ := read_of_bind str is
  obtain ⟨w, reads', text'⟩ := read_of_bind str is'
  apply tells.told reads reads'
  rw [← text, ← text', same]

end Tells

/-- The text of a price: none, that of a zero, or that of a number. -/
theorem limitPrice_text (documented : Documented readers) (built : Built readers values request) :
    ((keyTexts readers values).limitPrice = "" ∧
        (request.limitPrice = none ∨ ∃ q, request.limitPrice = some q ∧ q.1 = 0)) ∨
      ∃ v q, request.limitPrice = some q ∧ readers.decimal v = some q.1 ∧
        (keyTexts readers values).limitPrice = readers.str v := by
  have read := built.limitPrice
  cases got : get values "limit_price" with
  | none =>
    rw [got] at read
    exact .inl ⟨by simp [keyTexts, got], .inl (Option.some.inj read).symm⟩
  | some v =>
    rw [got] at read
    obtain ⟨q, some_, is⟩ := Option.map_eq_some_iff.1 read
    obtain ⟨number, reads, above⟩ := Option.bind_eq_some_iff.1 some_
    obtain rfl := notNegative_eq_some above
    cases truth : readers.truthy v with
    | false =>
      exact .inl ⟨by simp [keyTexts, got, Option.filter, truth], .inr ⟨q, is.symm, documented.zero reads truth⟩⟩
    | true => exact .inr ⟨v, q, is.symm, reads, by simp [keyTexts, got, Option.filter, truth]⟩

theorem limitPrice_bare (documented : Documented readers) (built : Built readers values request) :
    '|' ∉ (keyTexts readers values).limitPrice.toList := by
  obtain ⟨empty, -⟩ | ⟨v, q, -, reads, is⟩ := limitPrice_text documented built
  · simp [empty]
  · rw [is]
    exact documented.decimal.bare reads

/-- The texts after the symbol hold no separator. -/
structure Bare (texts : KeyTexts) : Prop where
  side : '|' ∉ texts.side.toList
  orderType : '|' ∉ texts.orderType.toList
  quantity : '|' ∉ texts.quantity.toList
  limitPrice : '|' ∉ texts.limitPrice.toList

theorem keyTexts_bare (documented : Documented readers) (built : Built readers values request) :
    Bare (keyTexts readers values) where
  side := documented.side.field_bare built.side
  orderType := documented.orderType.field_bare built.orderType
  quantity := documented.decimal.field_bare built.quantity
  limitPrice := limitPrice_bare documented built

/-- The texts after the symbol bring three separators. -/
theorem Bare.count {texts : KeyTexts} (bare : Bare texts) :
    (texts.side.toList ++ '|' :: (texts.orderType.toList ++
      '|' :: (texts.quantity.toList ++ '|' :: texts.limitPrice.toList))).count '|' = 3 := by
  simp [List.count_append, List.count_eq_zero_of_not_mem bare.side,
    List.count_eq_zero_of_not_mem bare.orderType, List.count_eq_zero_of_not_mem bare.quantity,
    List.count_eq_zero_of_not_mem bare.limitPrice]

/-- The first field of two equal keys ends where it must. -/
theorem signalId_text (documented : Documented readers) (built : Built readers values request)
    (built' : Built readers values' request') {rest rest' : List Char}
    (same : (keyTexts readers values).signalId.toList ++ '|' :: rest =
      (keyTexts readers values').signalId.toList ++ '|' :: rest') :
    (keyTexts readers values).signalId = (keyTexts readers values').signalId := by
  obtain ⟨v, reads, text⟩ := read_of_bind readers.str built.signalId
  obtain ⟨w, reads', text'⟩ := read_of_bind readers.str built'.signalId
  change (strOf readers.str _).toList ++ '|' :: rest = (strOf readers.str _).toList ++ _ at same
  show strOf readers.str _ = strOf readers.str _
  rw [text, text'] at same ⊢
  exact documented.uuidApart reads reads' same

/-- **Two equal keys.**  Their texts are the same up to where the version ends. -/
theorem canonical_eq_iff (documented : Documented readers) (built : Built readers values request)
    (built' : Built readers values' request') :
    (keyTexts readers values).canonical = (keyTexts readers values').canonical ↔
      JoinedAlike (keyTexts readers values) (keyTexts readers values') := by
  refine ⟨fun same => ?_, JoinedAlike.canonical⟩
  have bare := keyTexts_bare documented built
  have bare' := keyTexts_bare documented built'
  have lists := congrArg String.toList same
  rw [canonical_toList, canonical_toList] at lists
  have signalId := signalId_text documented built built' lists
  rw [signalId] at lists
  have afterId := (List.cons.inj (List.append_cancel_left lists)).2
  -- The last four fields are counted off from the end.
  obtain ⟨versionAndSymbol, left⟩ := joined_inj_of_rest afterId (by rw [bare.count, bare'.count])
  obtain ⟨side, left⟩ := joined_inj_of_notMem bare.side bare'.side left
  obtain ⟨orderType, left⟩ := joined_inj_of_notMem bare.orderType bare'.orderType left
  obtain ⟨quantity, limitPrice⟩ := joined_inj_of_notMem bare.quantity bare'.quantity left
  exact ⟨signalId, versionAndSymbol, String.toList_injective side, String.toList_injective orderType,
    String.toList_injective quantity, String.toList_injective limitPrice⟩

/-- One order: what two requests agree on, once validated. -/
structure SameOrder (request request' : OrderRequest) : Prop where
  signalId : request.signalId = request'.signalId
  strategyVersion : request.strategyVersion = request'.strategyVersion
  symbol : request.symbol = request'.symbol
  side : request.side = request'.side
  orderType : request.orderType = request'.orderType
  quantity : request.quantity = request'.quantity
  limitPrice : request.limitPrice = request'.limitPrice

theorem none_of_market {request : OrderRequest} (market : request.orderType = .market) :
    request.limitPrice = none := by
  have valid := request.priceValid
  unfold PriceValid at valid
  rw [market] at valid
  exact valid

theorem some_of_limit {request : OrderRequest} (limit : request.orderType = .limit) :
    request.limitPrice ≠ none := by
  have valid := request.priceValid
  unfold PriceValid at valid
  rw [limit] at valid
  exact Option.isSome_iff_ne_none.1 valid

/-- Prices of orders of one type, told by their texts: that of a zero is that of no price, but
only a limit order has one. -/
theorem limitPrice_told (documented : Documented readers) (built : Built readers values request)
    (built' : Built readers values' request') (type : request.orderType = request'.orderType)
    (same : (keyTexts readers values).limitPrice = (keyTexts readers values').limitPrice) :
    request.limitPrice = request'.limitPrice := by
  cases kind : request'.orderType with
  | market => rw [none_of_market (type.trans kind), none_of_market kind]
  | limit =>
    have priced := some_of_limit (type.trans kind)
    have priced' := some_of_limit kind
    obtain ⟨empty, zero⟩ | ⟨v, q, is, reads, text⟩ := limitPrice_text documented built
    · obtain ⟨-, zero'⟩ | ⟨w, q', -, reads', text'⟩ := limitPrice_text documented built'
      · obtain ⟨q, is, zero⟩ := zero.resolve_left priced
        obtain ⟨q', is', zero'⟩ := zero'.resolve_left priced'
        rw [is, is', Subtype.ext (zero.trans zero'.symm)]
      · exact absurd (text'.symm.trans (same.symm.trans empty)) (documented.decimalText reads')
    · obtain ⟨empty', -⟩ | ⟨w, q', is', reads', text'⟩ := limitPrice_text documented built'
      · exact absurd (text.symm.trans (same.trans empty')) (documented.decimalText reads)
      · have number := documented.decimal.told reads reads' (text.symm.trans (same.trans text'))
        rw [is, is', Subtype.ext number]

/-- Equal keys tell all but the version and the symbol. -/
theorem JoinedAlike.sameOrder (documented : Documented readers)
    (built : Built readers values request) (built' : Built readers values' request')
    (alike : JoinedAlike (keyTexts readers values) (keyTexts readers values'))
    (version : request.strategyVersion = request'.strategyVersion)
    (symbol : request.symbol = request'.symbol) : SameOrder request request' := by
  have type := documented.orderType.field_told built.orderType built'.orderType alike.orderType
  refine ⟨?_, version, symbol, ?_, type, Subtype.ext ?_, ?_⟩
  · obtain ⟨v, reads, text⟩ := read_of_bind readers.str built.signalId
    obtain ⟨w, reads', text'⟩ := read_of_bind readers.str built'.signalId
    exact documented.uuidTold reads reads' (text.symm.trans (alike.signalId.trans text'))
  · exact documented.side.field_told built.side built'.side alike.side
  · exact documented.decimal.field_told built.quantity built'.quantity alike.quantity
  · exact limitPrice_told documented built built' type alike.limitPrice

/-- One version has one number of separators in its texts, so it ends at one place. -/
theorem JoinedAlike.texts (documented : Documented readers)
    (built : Built readers values request) (built' : Built readers values' request')
    (alike : JoinedAlike (keyTexts readers values) (keyTexts readers values'))
    (version : request.strategyVersion = request'.strategyVersion) :
    keyTexts readers values = keyTexts readers values' := by
  obtain ⟨v, reads, text⟩ := read_of_bind readers.str built.strategyVersion
  obtain ⟨w, reads', text'⟩ := read_of_bind readers.str built'.strategyVersion
  have counts : (keyTexts readers values).strategyVersion.toList.count '|' =
      (keyTexts readers values').strategyVersion.toList.count '|' := by
    show (strOf readers.str _).toList.count _ = (strOf readers.str _).toList.count _
    rw [text, text', ← documented.bars reads, ← documented.bars reads', version]
  obtain ⟨versions, symbols⟩ := joined_inj alike.versionAndSymbol counts
  cases texts : keyTexts readers values
  cases texts' : keyTexts readers values'
  rw [texts, texts'] at versions symbols alike
  simp only [KeyTexts.mk.injEq]
  exact ⟨alike.signalId, String.toList_injective versions, String.toList_injective symbols, alike.side,
    alike.orderType, alike.quantity, alike.limitPrice⟩

theorem JoinedAlike.of_eq {texts texts' : KeyTexts} (same : texts = texts') :
    JoinedAlike texts texts' := by
  subst same
  constructor <;> rfl

theorem clientOrderId_unnamed (built : Built readers values request)
    (unnamed : get values "client_order_id" = none) :
    request.clientOrderId = readers.uuid5 (keyTexts readers values).canonical := by
  have is := built.clientOrderId
  rw [clientOrderId, unnamed] at is
  exact (Option.some.inj is).symm

/-- **What the ids of two requests tell.**  They are equal exactly for one order, exactly when
one order comes in written one way, and no `|` makes two versions and symbols read as one. -/
theorem key_identifies_iff (documented : Documented readers)
    (built : build readers values = some request) (built' : build readers values' = some request')
    (unnamed : get values "client_order_id" = none) (unnamed' : get values' "client_order_id" = none)
    (injective : readers.uuid5 (keyTexts readers values).canonical =
      readers.uuid5 (keyTexts readers values').canonical →
        (keyTexts readers values).canonical = (keyTexts readers values').canonical) :
    (request.clientOrderId = request'.clientOrderId ↔ SameOrder request request') ↔
      (SameOrder request request' → keyTexts readers values = keyTexts readers values') ∧
      (JoinedAlike (keyTexts readers values) (keyTexts readers values') →
        request.strategyVersion = request'.strategyVersion ∧ request.symbol = request'.symbol) := by
  have reads := build_eq_some built
  have reads' := build_eq_some built'
  have keys : request.clientOrderId = request'.clientOrderId ↔
      JoinedAlike (keyTexts readers values) (keyTexts readers values') := by
    rw [← canonical_eq_iff documented reads reads', clientOrderId_unnamed reads unnamed,
      clientOrderId_unnamed reads' unnamed']
    exact ⟨injective, congrArg _⟩
  rw [keys]
  constructor
  · intro identifies
    constructor
    · intro same
      exact (identifies.2 same).texts documented reads reads' same.strategyVersion
    · intro alike
      have same := identifies.1 alike
      exact ⟨same.strategyVersion, same.symbol⟩
  · rintro ⟨oneWay, apart⟩
    constructor
    · intro alike
      exact alike.sameOrder documented reads reads' (apart alike).1 (apart alike).2
    · intro same
      exact .of_eq (oneWay same)

end Texts

end Build

/-! ## One number, two texts -/

/-- Some of the values a request is built from. -/
inductive Sample where
  | id (uuid : Uuid)
  | label (text : String)
  | side (side : OrderSide)
  | orderType (type : OrderType)
  /-- `Decimal("1")`, `Decimal("1.0")`, `Decimal("1.00")` and so on. -/
  | one (places : Nat)

namespace Sample

def str : Sample → String
  | id uuid => uuid.str
  | label text => text
  | side .buy => "buy"
  | side .sell => "sell"
  | orderType .market => "market"
  | orderType .limit => "limit"
  | one 0 => "1"
  | one (places + 1) => String.ofList ('1' :: '.' :: List.replicate (places + 1) '0')

def uuid? : Sample → Option Uuid
  | id uuid => some uuid
  | _ => none

def text? : Sample → Option String
  | label text => some (String.ofList (Text.strip text.toList))
  | _ => none

def side? : Sample → Option OrderSide
  | side it => some it
  | _ => none

def orderType? : Sample → Option OrderType
  | orderType type => some type
  | _ => none

def decimal? : Sample → Option Decimal
  | one _ => some 1
  | _ => none

def readers (uuid5 : String → Uuid) : Readers Sample :=
  ⟨str, fun value => value.str ≠ "", str, uuid?, text?, side?, orderType?, decimal?, uuid5⟩

theorem id_bare (uuid : Uuid) : '|' ∉ uuid.str.toList := by
  intro member
  rw [Uuid.str, String.toList_ofList] at member
  obtain dash | digit := Uuid.mem_chars member
  · cases dash
  · obtain ⟨d, small, is⟩ := Uuid.mem_hexDigits digit
    have none_ : ∀ n < 16, '|' ≠ Uuid.hexChar n := by decide
    exact none_ d small is

theorem one_bare (places : Nat) : '|' ∉ (one places).str.toList := by
  cases places with
  | zero => decide
  | succ places => simp [str, List.mem_replicate]

/-- Stripping takes blanks off the ends. -/
theorem strip_count (text : List Char) : (Text.strip text).count '|' = text.count '|' := by
  have dropped (cs : List Char) : (cs.dropWhile Text.isSpace).count '|' = cs.count '|' := by
    induction cs with
    | nil => rfl
    | cons c cs ih =>
      rw [List.dropWhile_cons]
      split
      · rename_i blank
        have other : c ≠ '|' := by
          rintro rfl
          exact absurd blank (by decide)
        rw [ih, List.count_cons_of_ne other]
      · rfl
  rw [Text.strip, List.count_reverse, dropped, List.count_reverse, dropped]

theorem one_text (places : Nat) : (one places).str ≠ "" := by
  cases places with
  | zero => decide
  | succ places =>
    intro empty
    have lists := congrArg String.toList empty
    simp [str] at lists

theorem side_tells : Tells str side? where
  bare := by
    intro v x reads
    cases v <;> cases reads
    cases x <;> decide
  told := by
    intro v w x y reads reads' same
    cases v <;> cases reads
    cases w <;> cases reads'
    cases x <;> cases y <;> first | rfl | exact absurd same (by decide)

theorem orderType_tells : Tells str orderType? where
  bare := by
    intro v x reads
    cases v <;> cases reads
    cases x <;> decide
  told := by
    intro v w x y reads reads' same
    cases v <;> cases reads
    cases w <;> cases reads'
    cases x <;> cases y <;> first | rfl | exact absurd same (by decide)

theorem decimal_tells : Tells str decimal? where
  bare := by
    intro v x reads
    cases v <;> cases reads
    exact one_bare _
  told := by
    intro v w x y reads reads' _
    cases v <;> cases reads
    cases w <;> cases reads'
    rfl

theorem documented (uuid5 : String → Uuid) : Documented (readers uuid5) where
  uuidApart := by
    intro v w x y rest rest' reads reads' same
    cases v <;> cases reads
    cases w <;> cases reads'
    exact String.toList_injective (joined_inj_of_notMem (id_bare _) (id_bare _) same).1
  uuidTold := by
    intro v w x y reads reads' same
    cases v <;> cases reads
    cases w <;> cases reads'
    exact Uuid.str_injective same
  side := side_tells
  orderType := orderType_tells
  decimal := decimal_tells
  decimalText := by
    intro v x reads
    cases v <;> cases reads
    exact one_text _
  zero := by
    intro v x reads truth
    cases v <;> cases reads
    exact absurd (of_decide_eq_false truth) (not_not.2 (one_text _))
  bars := by
    intro v x reads
    cases v <;> cases reads
    show (String.ofList (Text.strip _)).toList.count '|' = _
    rw [String.toList_ofList]
    exact strip_count _

/-- A market order for one bitcoin. -/
def marketBuy (places : Nat) : Values Sample where
  entries :=
    [("signal_id", some (id ⟨1⟩)), ("strategy_version", some (label "v1")),
      ("symbol", some (label "BTC-USD")), ("side", some (side .buy)),
      ("order_type", some (orderType .market)), ("quantity", some (one places)),
      ("limit_price", none), ("correlation_id", some (id ⟨2⟩))]
  nodup := by
    show (["signal_id", "strategy_version", "symbol", "side", "order_type", "quantity",
      "limit_price", "correlation_id"] : List String).Nodup
    decide

theorem version_text : text? (label "v1") = some "v1" := by decide

theorem symbol_text : text? (label "BTC-USD") = some "BTC-USD" := by decide

theorem marketBuy_get (places : Nat) : get (marketBuy places) "signal_id" = some (id ⟨1⟩) ∧
    get (marketBuy places) "strategy_version" = some (label "v1") ∧
    get (marketBuy places) "symbol" = some (label "BTC-USD") ∧
    get (marketBuy places) "side" = some (side .buy) ∧
    get (marketBuy places) "order_type" = some (orderType .market) ∧
    get (marketBuy places) "quantity" = some (one places) ∧
    get (marketBuy places) "limit_price" = none ∧
    get (marketBuy places) "client_order_id" = none ∧
    get (marketBuy places) "correlation_id" = some (id ⟨2⟩) := by
  simp [get, marketBuy, Dict.get?]

theorem marketBuy_built (uuid5 : String → Uuid) (places : Nat) :
    build (readers uuid5) (marketBuy places) =
      some ⟨⟨1⟩, "v1", "BTC-USD", .buy, .market, ⟨1, decimal_one⟩, none,
        uuid5 (keyTexts (readers uuid5) (marketBuy places)).canonical, ⟨2⟩, priceValid_market⟩ := by
  have known : (marketBuy places).keys.all (· ∈ fields) = true := by
    simp [marketBuy, Dict.keys, fields]
  obtain ⟨signalId, version, symbol, side, type, quantity, price, unnamed, correlation⟩ :=
    marketBuy_get places
  have named : clientOrderId (readers uuid5) (marketBuy places) =
      some (uuid5 (keyTexts (readers uuid5) (marketBuy places)).canonical) := by
    rw [clientOrderId, unnamed]
    rfl
  unfold build
  rw [if_pos known, signalId, version, symbol, side, type, quantity, price, named, correlation]
  show ((text? (label "v1")).bind fun version => (text? (label "BTC-USD")).bind fun symbol => _) = _
  rw [version_text, symbol_text]
  rfl

/-- The name of the order for `Decimal("1")`. -/
def firstName : String := (keyTexts (readers fun _ => ⟨0⟩) (marketBuy 0)).canonical

/-- The UUIDs of two names. -/
def twoNames (name : String) : Uuid := if name = firstName then ⟨0⟩ else ⟨1⟩

theorem names_differ : (keyTexts (readers twoNames) (marketBuy 1)).canonical ≠ firstName := by
  intro same
  have reads (places : Nat) := build_eq_some (marketBuy_built twoNames places)
  have alike := (canonical_eq_iff (documented twoNames) (reads 1) (reads 0)).1 same
  have quantity (places : Nat) :
      (keyTexts (readers twoNames) (marketBuy places)).quantity = (one places).str := by
    obtain ⟨-, -, -, -, -, quantity, -⟩ := marketBuy_get places
    unfold keyTexts
    rw [quantity]
    rfl
  have texts := alike.quantity
  rw [quantity, quantity] at texts
  exact absurd texts (by decide)

theorem names_told : twoNames (keyTexts (readers twoNames) (marketBuy 0)).canonical =
    twoNames (keyTexts (readers twoNames) (marketBuy 1)).canonical →
      (keyTexts (readers twoNames) (marketBuy 0)).canonical =
        (keyTexts (readers twoNames) (marketBuy 1)).canonical := by
  intro same
  have first : twoNames firstName = ⟨0⟩ := if_pos rfl
  have second : twoNames (keyTexts (readers twoNames) (marketBuy 1)).canonical = ⟨1⟩ :=
    if_neg names_differ
  rw [second] at same
  exact absurd (first.symm.trans same) (by decide)

theorem one_identifies : ∃ request request',
    ((request.clientOrderId = request'.clientOrderId ↔ SameOrder request request') ↔
      (SameOrder request request' →
        keyTexts (readers twoNames) (marketBuy 0) = keyTexts (readers twoNames) (marketBuy 1)) ∧
      (JoinedAlike (keyTexts (readers twoNames) (marketBuy 0))
          (keyTexts (readers twoNames) (marketBuy 1)) →
        request.strategyVersion = request'.strategyVersion ∧ request.symbol = request'.symbol)) :=
  ⟨_, _, key_identifies_iff (documented twoNames) (marketBuy_built twoNames 0)
    (marketBuy_built twoNames 1) (marketBuy_get 0).2.2.2.2.2.2.2.1 (marketBuy_get 1).2.2.2.2.2.2.2.1
    names_told⟩

/-- One order, once for `Decimal("1")` and once for `Decimal("1.0")`: two ids, although the
UUIDs tell all names apart. -/
theorem one_point_zero : ∃ request request',
    build (readers twoNames) (marketBuy 0) = some request ∧
    build (readers twoNames) (marketBuy 1) = some request' ∧
    get (marketBuy 0) "client_order_id" = none ∧ get (marketBuy 1) "client_order_id" = none ∧
    (twoNames (keyTexts (readers twoNames) (marketBuy 0)).canonical =
      twoNames (keyTexts (readers twoNames) (marketBuy 1)).canonical →
        (keyTexts (readers twoNames) (marketBuy 0)).canonical =
          (keyTexts (readers twoNames) (marketBuy 1)).canonical) ∧
    ¬(request.clientOrderId = request'.clientOrderId ↔ SameOrder request request') := by
  refine ⟨_, _, marketBuy_built twoNames 0, marketBuy_built twoNames 1,
    (marketBuy_get 0).2.2.2.2.2.2.2.1, (marketBuy_get 1).2.2.2.2.2.2.2.1, names_told, ?_⟩
  intro identifies
  have same := identifies.2 (by constructor <;> rfl)
  exact names_differ (names_told same).symm

end Sample

end AlgoTrader.Core.OrderKey
