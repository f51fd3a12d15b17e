/-
# App.Equity -- one account, valued twice

The loss limits and the daily record both value the account: the dollars of the quote asset,
free and held, and every held coin at a price.  The sampler asks the venue for every bid.  The
risk inputs ask it for every coin but the one that is traded, which they value at the last
close of the bars they were given.

* `exposure_eq`, `valued_eq` -- what each of the two comes to, as a sum over the holdings;
* `measured_eq_recorded_iff` -- they agree exactly when the traded coin is not held or the
  last close is its bid.
-/
import Mathlib.Algebra.BigOperators.Group.List.Basic
import Mathlib.Algebra.Order.Group.Abs
import Mathlib.Tactic.Linarith
import AlgoTrader.App.Trading
import AlgoTrader.Risk.Engine
import AlgoTrader.Strategy.NoLookAhead
import AlgoTrader.Theory.Raising

namespace AlgoTrader.Portfolio

open AlgoTrader.Core Brokers Theory

set_option autoImplicit false

/-! ## The shared definitions -/

/-- Quote-asset dollars free to spend, and in total with those a resting buy holds. -/
def quoteCash (balances : List Balance) (quoteAsset : String) : Decimal × Decimal :=
  match balances.find? fun item => item.asset = quoteAsset with
  | none => (0, 0)
  | some cash => (cash.available, cash.available + cash.hold)

def heldPositions (positions : List Position) : Dict String Position :=
  .ofList ((positions.filter fun item => item.quantity ≠ 0).map fun item => (item.symbol, item))

/-- The bid a holding is valued at; nothing when the quote is for another symbol. -/
def markFromQuote (quote : Quote) (symbol : String) : Option Decimal :=
  if quote.symbol = symbol then some quote.bid else none

def positionValue (position : Position) (mark : Decimal) : Decimal := |position.quantity| * mark

def equityValue (totalCash exposure : Decimal) : Decimal := totalCash + exposure

/-- What a broker answers while the account is valued. -/
structure BrokerState where
  getBalances : Except Exc (List Balance)
  getPositions : Except Exc (List Position)
  getQuote : String → Except Exc Quote
  healthy : Bool

/-! ## The sampler -/

structure LastPrice where
  symbol : String
  bid : Decimal
  observedAt : Timestamp
  source : String

inductive Basis where
  | fresh
  | lastKnown
  | unpriced
  deriving DecidableEq, Repr

structure ValuedHolding where
  symbol : String
  quantity : Decimal
  basis : Basis
  price : Option Decimal := none
  observedAt : Option Timestamp := none
  ageSeconds : Option Int := none
  deriving DecidableEq

structure EquitySample where
  asOf : Timestamp
  equity : Option Decimal
  holdings : List ValuedHolding
  deriving DecidableEq

/-- How a store fails: `storage` is a `SQLAlchemyError` or an `OSError`. -/
inductive StoreFailure where
  | storage
  | other (exc : Exc)

structure EquityStore where
  record : LastPrice → Except StoreFailure Unit
  latest : List String → Except StoreFailure (Dict String LastPrice)
  save : EquitySample → Except StoreFailure Unit

structure EquitySampler where
  broker : BrokerState
  store : EquityStore
  quoteAsset : String := "USD"
  clock : Timestamp

/-- What the loop over the holdings keeps. -/
structure Valuing where
  exposure : Decimal := 0
  unpriced : Bool := false
  holdings : List ValuedHolding := []

namespace EquitySampler

variable (sampler : EquitySampler)

def storedPrices (symbols : List String) : Except Exc (Dict String LastPrice) :=
  match sampler.store.latest symbols with
  | .ok stored => .ok stored
  | .error .storage => .ok .empty
  | .error (.other exc) => .error exc

/-- The venue's bid, which is stored as the last known price. -/
def freshMark (symbol : String) : Except Exc (Option Decimal) :=
  match sampler.broker.getQuote symbol with
  | .error _ => .ok none
  | .ok quote =>
      match markFromQuote quote symbol with
      | none => .ok none
      | some mark =>
          if mark ≤ 0 then .ok none
          else
            match sampler.store.record ⟨symbol, mark, quote.asOf, (quote.source.take 64).toString⟩ with
            | .error (.other exc) => .error exc
            | _ => .ok (some mark)

def valueHolding (stored : Dict String LastPrice) (entry : String × Position) (valuing : Valuing) :
    Except Exc Valuing := do
  let (symbol, position) := entry
  match ← sampler.freshMark symbol with
  | some mark =>
      return { valuing with
        exposure := valuing.exposure + positionValue position mark
        holdings := valuing.holdings ++ [⟨symbol, position.quantity, .fresh, mark, none, none⟩] }
  | none =>
      match stored.get? symbol with
      | some last =>
          let age := max 0 ((sampler.clock - last.observedAt) / 1000000)
          return { valuing with
            exposure := valuing.exposure + positionValue position last.bid
            holdings := valuing.holdings ++
              [⟨symbol, position.quantity, .lastKnown, last.bid, last.observedAt, age⟩] }
      | none =>
          return { valuing with
            unpriced := true
            holdings := valuing.holdings ++ [⟨symbol, position.quantity, .unpriced, none, none, none⟩] }

/-- `_value`. -/
def value (balances : List Balance) (positions : List Position) : Except Exc EquitySample := do
  let held := heldPositions positions
  let totalCash := (quoteCash balances sampler.quoteAsset).2
  let stored ← sampler.storedPrices held.keys
  let valuing ← runs (sampler.valueHolding stored) held.entries {}
  let equity := if valuing.unpriced then none else some (equityValue totalCash valuing.exposure)
  return { asOf := sampler.clock, equity, holdings := valuing.holdings }

/-- The value of the balances and positions a caller has read, or of the broker's own. -/
def valued : Option (List Balance × List Position) → Except Exc EquitySample
  | some (balances, positions) => sampler.value balances positions
  | none => do
      let balances ← sampler.broker.getBalances
      let positions ← sampler.broker.getPositions
      sampler.value balances positions

/-- `sample`; nothing when nothing could be recorded. -/
def sample (state : Option (List Balance × List Position)) : Except Exc (Option EquitySample) :=
  match sampler.valued state with
  | .error _ => .ok none
  | .ok sample =>
      match sampler.store.save sample with
      | .ok () => .ok (some sample)
      | .error .storage => .ok none
      | .error (.other exc) => .error exc

end EquitySampler

end AlgoTrader.Portfolio

namespace AlgoTrader.App

open AlgoTrader.Core Brokers Process Portfolio Risk Theory

/-! ## The loss limits -/

/-- What the loss limits remember: the day's opening equity and the peak.  A day is told by
its number since the epoch. -/
structure LossState where
  peakEquity : Option Decimal := none
  dayStart : Option (Int × Decimal) := none
  unreadable : Bool := false

def dayOf (now : Timestamp) : Int := now / 86400000000

def lastClose (state : MarketState) : Option Decimal :=
  state.candles.getLast?.map fun candle => candle.close.1

structure BrokerRiskInputs where
  broker : BrokerState
  /-- The limits of a symbol: one for all of them, or one of its own. -/
  constraints : String → Option ExchangeConstraints
  estimatedSlippage : Decimal
  quoteAsset : String := "USD"
  cooldown : Duration := 0
  tradingWindow : Option (Timestamp → Bool) := none
  clock : Timestamp
  /-- The loss-limit state can be saved. -/
  saves : Bool := true

namespace BrokerRiskInputs

variable (source : BrokerRiskInputs)

def windowOpen (now : Timestamp) : Bool :=
  match source.tradingWindow with
  | some window => window now
  | none => true

/-- `_mark`. -/
def mark (symbol : String) : Option Decimal :=
  match source.broker.getQuote symbol with
  | .error _ => none
  | .ok quote => markFromQuote quote symbol

/-- The loop of `_exposure` over the holdings; nothing when one of them cannot be priced. -/
def expose (symbol : String) (reference : Option Decimal) :
    List (String × Position) → Decimal → Option Decimal
  | [], exposure => some exposure
  | (heldSymbol, position) :: rest, exposure =>
      match if heldSymbol = symbol then reference else source.mark heldSymbol with
      | none => none
      | some mark =>
          if mark ≤ 0 then none
          else expose symbol reference rest (exposure + positionValue position mark)

/-- `_exposure`: the market value of the held positions. -/
def exposure (positions : List Position) (symbol : String) (reference : Option Decimal) :
    Option Decimal :=
  source.expose symbol reference (heldPositions positions).entries 0

/-- The equity the loss limits are measured from. -/
def measured (balances : List Balance) (positions : List Position) (symbol : String)
    (reference : Option Decimal) : Option Decimal :=
  (source.exposure positions symbol reference).map
    (equityValue (quoteCash balances source.quoteAsset).2)

/-- `_loss_measures`: the daily loss and the drawdown. -/
def lossMeasures (now : Timestamp) (equity : Option Decimal) (losses : LossState) :
    (Option Decimal × Option Decimal) × LossState :=
  match equity with
  | none => ((none, none), losses)
  | some equity =>
      if losses.unreadable then ((none, none), losses)
      else
        let day := dayOf now
        let dayStart := match losses.dayStart with
          | some (started, opening) => if started = day then opening else equity
          | none => equity
        let peak := max (match losses.peakEquity with
          | some peak => if peak = 0 then equity else peak
          | none => equity) equity
        let losses := { losses with dayStart := some (day, dayStart), peakEquity := some peak }
        if source.saves then
          ((some (max 0 (dayStart - equity)),
            if peak = 0 then none else some ((peak - equity) / peak)), losses)
        else ((none, none), losses)

/-- `observe`, on a loop without a signal. -/
def observe (state : MarketState) (losses : LossState) : Except Exc LossState := do
  let balances ← source.broker.getBalances
  let positions ← source.broker.getPositions
  let equity := source.measured balances positions state.symbol (lastClose state)
  return (source.lossMeasures source.clock equity losses).2

/-- `risk_inputs`. -/
def riskInputs (signal : Signal) (state : MarketState) (context : CycleContext) (losses : LossState) :
    RiskInputs × LossState :=
  let now := source.clock
  let read : Except Exc (Quote × List Balance × List Position) := do
    let quote ← source.broker.getQuote signal.symbol
    let balances ← source.broker.getBalances
    let positions ← source.broker.getPositions
    return (quote, balances, positions)
  match read with
  | .error _ =>
      ({ killSwitch := some context.killSwitch
         operatorPaused := some false
         tradingWindowOpen := some (source.windowOpen now)
         brokerHealthy := some false
         quote := none
         referencePrice := none
         volatility := none
         duplicateSignalIds := none
         symbolCooldownClear := none
         openPositions := none
         openNotional := none
         symbolPosition := none
         aggregateAllocation := none
         availableCash := none
         dailyLoss := none
         drawdown := none
         expectedPrice := none
         estimatedSlippage := none
         constraints := none
         now }, losses)
  | .ok (quote, balances, positions) =>
      let reference := lastClose state
      let held := heldPositions positions
      let exposure := source.exposure positions signal.symbol reference
      let equity := source.measured balances positions signal.symbol reference
      let ((dailyLoss, drawdown), losses) := source.lossMeasures now equity losses
      ({ killSwitch := some context.killSwitch
         operatorPaused := some false
         tradingWindowOpen := some (source.windowOpen now)
         brokerHealthy := some source.broker.healthy
         quote := some quote
         referencePrice := reference
         volatility := state.candles.getLast?.map fun bar => (bar.high.1 - bar.low.1) / bar.close.1
         duplicateSignalIds := some context.orderedSignalIds
         symbolCooldownClear := some (match context.lastOrderAt with
           | none => true
           | some last => source.cooldown ≤ now - last)
         openPositions := some held.entries.length
         openNotional := exposure
         symbolPosition := some (((held.get? signal.symbol).map Position.quantity).getD 0)
         aggregateAllocation := exposure
         availableCash := some (quoteCash balances source.quoteAsset).1
         dailyLoss
         drawdown
         expectedPrice := some (match signal.side with
           | .buy => quote.ask.1
           | .sell => quote.bid.1)
         estimatedSlippage := some source.estimatedSlippage
         constraints := source.constraints signal.symbol
         now }, losses)

end BrokerRiskInputs

/-! ## What either comes to -/

/-- Holdings at some prices. -/
def worth (price : String → Decimal) (entries : List (String × Position)) : Decimal :=
  (entries.map fun entry => positionValue entry.2 (price entry.1)).sum

theorem worth_cons (price : String → Decimal) (entry : String × Position)
    (entries : List (String × Position)) :
    worth price (entry :: entries) = positionValue entry.2 (price entry.1) + worth price entries := by
  simp [worth]

theorem worth_congr {price price' : String → Decimal} {entries : List (String × Position)}
    (same : ∀ entry ∈ entries, price entry.1 = price' entry.1) :
    worth price entries = worth price' entries := by
  unfold worth
  rw [List.map_congr_left fun entry member => ?_]
  rw [same entry member]

/-- Another price for one symbol changes the worth by its own position alone. -/
theorem worth_change {price price' : String → Decimal} {entries : List (String × Position)}
    (distinct : (entries.map Prod.fst).Nodup) {symbol : String} {position : Position}
    (held : (symbol, position) ∈ entries)
    (elsewhere : ∀ other, other ≠ symbol → price other = price' other) :
    worth price entries - worth price' entries =
      |position.quantity| * (price symbol - price' symbol) := by
  induction entries with
  | nil => cases held
  | cons entry entries ih =>
      obtain ⟨fresh, distinct⟩ := List.nodup_cons.1 distinct
      rw [worth_cons, worth_cons]
      rcases List.mem_cons.1 held with rfl | later
      · have rest : worth price entries = worth price' entries := by
          refine worth_congr fun other member => elsewhere other.1 fun same => fresh ?_
          exact List.mem_map.2 ⟨other, member, same⟩
        rw [rest]
        unfold positionValue
        ring
      · have other : entry.1 ≠ symbol := by
          intro same
          exact fresh (List.mem_map.2 ⟨_, later, same.symm⟩)
        rw [elsewhere entry.1 other]
        have rest := ih distinct later
        linarith

theorem mem_heldPositions {positions : List Position} {symbol : String} {position : Position}
    (held : (symbol, position) ∈ (heldPositions positions).entries) :
    position ∈ positions ∧ position.symbol = symbol ∧ position.quantity ≠ 0 := by
  obtain ⟨item, kept, same⟩ := List.mem_map.1 (Dict.mem_of_mem_ofList held)
  cases same
  obtain ⟨listed, quantity⟩ := List.mem_filter.1 kept
  exact ⟨listed, rfl, by simpa using quantity⟩

/-- The bid of a symbol, where there is a quote. -/
def bidOf (broker : BrokerState) (symbol : String) : Decimal :=
  match broker.getQuote symbol with
  | .ok quote => quote.bid
  | .error _ => 0

/-- The venue quotes a symbol. -/
def Quoted (broker : BrokerState) (symbol : String) : Prop :=
  ∃ quote, broker.getQuote symbol = .ok quote ∧ quote.symbol = symbol

theorem Quoted.bid {broker : BrokerState} {symbol : String} (quoted : Quoted broker symbol) :
    ∃ quote, broker.getQuote symbol = .ok quote ∧ quote.symbol = symbol ∧
      bidOf broker symbol = quote.bid := by
  obtain ⟨quote, answered, named⟩ := quoted
  refine ⟨quote, answered, named, ?_⟩
  rw [bidOf, answered]

section Exposure

variable {source : BrokerRiskInputs} {symbol : String} {reference : Option Decimal}
  {entries : List (String × Position)}

/-- What `_exposure` values a symbol at. -/
def markAt (source : BrokerRiskInputs) (symbol : String) (reference : Option Decimal)
    (held : String) : Option Decimal :=
  if held = symbol then reference else source.mark held

theorem mark_quoted {held : String} (quoted : Quoted source.broker held) :
    source.mark held = some (bidOf source.broker held) := by
  obtain ⟨quote, answered, named, bid⟩ := quoted.bid
  rw [BrokerRiskInputs.mark, answered, bid]
  exact if_pos named

theorem exposure_eq {price : String → Decimal} (positive : ∀ entry ∈ entries, 0 < price entry.1)
    (marked : ∀ entry ∈ entries, markAt source symbol reference entry.1 = some (price entry.1))
    (exposure : Decimal) :
    source.expose symbol reference entries exposure = some (exposure + worth price entries) := by
  induction entries generalizing exposure with
  | nil => simp [BrokerRiskInputs.expose, worth]
  | cons entry entries ih =>
      have here := marked entry List.mem_cons_self
      have above := positive entry List.mem_cons_self
      unfold markAt at here
      rw [BrokerRiskInputs.expose, here]
      dsimp only
      rw [if_neg (not_le.2 above),
        ih (fun other member => positive other (List.mem_cons_of_mem _ member))
          (fun other member => marked other (List.mem_cons_of_mem _ member)),
        worth_cons, add_assoc]

theorem exposure_unmarked {entry : String × Position} (member : entry ∈ entries)
    (unmarked : markAt source symbol reference entry.1 = none) (exposure : Decimal) :
    source.expose symbol reference entries exposure = none := by
  induction entries generalizing exposure with
  | nil => cases member
  | cons first entries ih =>
      rw [BrokerRiskInputs.expose]
      rcases List.mem_cons.1 member with rfl | later
      · unfold markAt at unmarked
        rw [unmarked]
      · split
        · rfl
        · split
          · rfl
          · exact ih later _

end Exposure

section Sampled

variable {sampler : EquitySampler}

theorem freshMark_quoted {symbol : String} (quoted : Quoted sampler.broker symbol)
    {mark : Option Decimal} (marked : sampler.freshMark symbol = .ok mark) :
    mark = some (bidOf sampler.broker symbol) := by
  obtain ⟨quote, answered, named, bid⟩ := quoted.bid
  have told : markFromQuote quote symbol = some quote.bid.1 := if_pos named
  unfold EquitySampler.freshMark at marked
  rw [answered] at marked
  dsimp only at marked
  rw [told] at marked
  dsimp only at marked
  rw [if_neg (not_le.2 quote.bid.2)] at marked
  rw [bid]
  split at marked
  · cases marked
  · exact (Except.ok.inj marked).symm

/-- Where the venue quotes every holding, each is valued at its bid. -/
theorem valued_eq {stored : Dict String LastPrice} {entries : List (String × Position)}
    (quoted : ∀ entry ∈ entries, Quoted sampler.broker entry.1) {start valuing : Valuing}
    (done : runs (sampler.valueHolding stored) entries start = .ok valuing) :
    valuing.exposure = start.exposure + worth (bidOf sampler.broker) entries ∧
      valuing.unpriced = start.unpriced := by
  induction entries generalizing start with
  | nil =>
      cases done
      simp [worth]
  | cons entry entries ih =>
      obtain ⟨next, first, rest⟩ := runs_cons_ok.1 done
      obtain ⟨mark, marked, through⟩ := bind_eq_ok.1 first
      cases freshMark_quoted (quoted entry List.mem_cons_self) marked
      cases through
      obtain ⟨exposure, unpriced⟩ :=
        ih (fun other member => quoted other (List.mem_cons_of_mem _ member)) rest
      rw [exposure, unpriced, worth_cons]
      exact ⟨add_assoc .., rfl⟩

end Sampled

/-! ## One definition of equity -/

/-- The balances and positions of a broker can be read, and so can a quote of every holding. -/
structure Readable (broker : BrokerState) (balances : List Balance) (positions : List Position) :
    Prop where
  readsBalances : broker.getBalances = .ok balances
  readsPositions : broker.getPositions = .ok positions
  quotes : ∀ position ∈ positions, position.quantity ≠ 0 → Quoted broker position.symbol

section Agreement

variable {balances : List Balance} {positions : List Position}

theorem Readable.quoted {broker : BrokerState} (readable : Readable broker balances positions)
    {entry : String × Position} (member : entry ∈ (heldPositions positions).entries) :
    Quoted broker entry.1 := by
  obtain ⟨listed, named, quantity⟩ := mem_heldPositions (show (entry.1, entry.2) ∈ _ from member)
  exact named ▸ readable.quotes entry.2 listed quantity

theorem sample_ok {sampler : EquitySampler} {told : Option (List Balance × List Position)}
    {sample : EquitySample} (sampled : sampler.sample told = .ok (some sample)) :
    sampler.valued told = .ok sample := by
  unfold EquitySampler.sample at sampled
  split at sampled
  · cases sampled
  · rename_i whole valued
    split at sampled
    · cases sampled
      exact valued
    · cases sampled
    · cases sampled

/-- The sampler records the dollars and every holding at its bid. -/
theorem sampled_eq {sampler : EquitySampler} (readable : Readable sampler.broker balances positions)
    {told : Option (List Balance × List Position)}
    (state : told = none ∨ told = some (balances, positions)) {sample : EquitySample}
    (sampled : sampler.sample told = .ok (some sample)) :
    sample.equity = some (equityValue (quoteCash balances sampler.quoteAsset).2
      (worth (bidOf sampler.broker) (heldPositions positions).entries)) := by
  have valued : sampler.value balances positions = .ok sample := by
    have whole := sample_ok sampled
    rcases state with rfl | rfl
    · unfold EquitySampler.valued at whole
      rw [readable.readsBalances, readable.readsPositions] at whole
      exact whole
    · exact whole
  obtain ⟨stored, _, rest⟩ := bind_eq_ok.1 valued
  obtain ⟨valuing, done, made⟩ := bind_eq_ok.1 rest
  cases made
  obtain ⟨exposure, unpriced⟩ := valued_eq (fun _ member => readable.quoted member) done
  dsimp only
  rw [exposure, unpriced]
  simp

/-- Where everything can be read, the equity the loss limits are measured from is the one the
sampler records exactly when the traded symbol is not held or the last close is its bid. -/
theorem measured_eq_recorded_iff {source : BrokerRiskInputs} {sampler : EquitySampler}
    (account : sampler.broker = source.broker ∧ sampler.quoteAsset = source.quoteAsset)
    (readable : Readable source.broker balances positions)
    {told : Option (List Balance × List Position)}
    (state : told = none ∨ told = some (balances, positions)) {sample : EquitySample}
    (sampled : sampler.sample told = .ok (some sample)) (symbol : String) (market : MarketState) :
    source.measured balances positions symbol (lastClose market) = sample.equity ↔
      ∀ position, (heldPositions positions).get? symbol = some position →
        lastClose market = some (bidOf source.broker symbol) := by
  obtain ⟨same, asset⟩ := account
  have recorded := sampled_eq (same ▸ readable) state sampled
  rw [same, asset] at recorded
  have marks : ∀ entry ∈ (heldPositions positions).entries, entry.1 ≠ symbol →
      markAt source symbol (lastClose market) entry.1 = some (bidOf source.broker entry.1) := by
    intro entry member other
    rw [markAt, if_neg other, mark_quoted (readable.quoted member)]
  have bids : ∀ entry ∈ (heldPositions positions).entries, 0 < bidOf source.broker entry.1 := by
    intro entry member
    obtain ⟨quote, _, _, bid⟩ := (readable.quoted member).bid
    rw [bid]
    exact quote.bid.2
  rw [recorded, BrokerRiskInputs.measured, BrokerRiskInputs.exposure]
  cases held : (heldPositions positions).get? symbol with
  | none =>
      have absent : ∀ entry ∈ (heldPositions positions).entries, entry.1 ≠ symbol := by
        rintro entry member rfl
        have found := Dict.get?_eq_some.2 (show (entry.1, entry.2) ∈ _ from member)
        rw [held] at found
        cases found
      rw [exposure_eq bids fun entry member => marks entry member (absent entry member)]
      simp
  | some position =>
      have member := Dict.get?_eq_some.1 held
      cases reference : lastClose market with
      | none =>
          rw [exposure_unmarked member (by rw [markAt, if_pos rfl])]
          simp
      | some close =>
          have priced : 0 < close := by
            obtain ⟨candle, _, rfl⟩ := Option.map_eq_some_iff.1 reference
            exact candle.close.2
          -- The last close stands in for the bid of the traded symbol alone.
          let price := fun other => if other = symbol then close else bidOf source.broker other
          have above : ∀ entry ∈ (heldPositions positions).entries, 0 < price entry.1 := by
            intro entry inside
            by_cases traded : entry.1 = symbol
            · simpa only [price, if_pos traded] using priced
            · simpa only [price, if_neg traded] using bids entry inside
          have marked : ∀ entry ∈ (heldPositions positions).entries,
              markAt source symbol (some close) entry.1 = some (price entry.1) := by
            intro entry inside
            by_cases traded : entry.1 = symbol
            · simp only [markAt, price, if_pos traded]
            · simp only [price, if_neg traded]
              exact reference ▸ marks entry inside traded
          have own : price symbol = close := if_pos rfl
          have change : worth price (heldPositions positions).entries -
              worth (bidOf source.broker) (heldPositions positions).entries =
                |position.quantity| * (close - bidOf source.broker symbol) := by
            rw [← own]
            exact worth_change (heldPositions positions).nodup member fun other apart => if_neg apart
          obtain ⟨_, _, some⟩ := mem_heldPositions member
          rw [exposure_eq above marked]
          simp only [Option.map_some, Option.some.injEq, equityValue, zero_add, add_right_inj,
            forall_eq']
          rw [← sub_eq_zero, change, mul_eq_zero, sub_eq_zero, abs_eq_zero]
          exact or_iff_right some

end Agreement

/-! ## One coin, traded and held -/

/-- A venue with one coin of ours, for which it bids a hundred dollars. -/
def coinVenue : BrokerState where
  getBalances := .ok []
  getPositions := .ok [⟨"BTC-USD", 1, none, 0⟩]
  getQuote _ := .ok quietMarket.quote
  healthy := true

/-- An hour that closed at some price. -/
def closedAt (price : PositiveDecimal) : MarketState :=
  { quietMarket with candles := [Strategy.NoLookAhead.still 0 price] }

/-- A database that takes everything and knows no price. -/
def emptyStore : EquityStore where
  record _ := .ok ()
  latest _ := .ok .empty
  save _ := .ok ()

def coinSampler : EquitySampler where
  broker := coinVenue
  store := emptyStore
  clock := 0

def coinInputs : BrokerRiskInputs where
  broker := coinVenue
  constraints _ := none
  estimatedSlippage := 0
  clock := 0

def coinSample : EquitySample where
  asOf := 0
  equity := some 100
  holdings := [⟨"BTC-USD", 1, .fresh, some 100, none, none⟩]

theorem coinVenue_readable : Readable coinVenue [] [⟨"BTC-USD", 1, none, 0⟩] where
  readsBalances := rfl
  readsPositions := rfl
  quotes := by
    intro position member _
    rw [List.mem_singleton.1 member]
    exact ⟨quietMarket.quote, rfl, rfl⟩

theorem coinSampler_sampled : coinSampler.sample none = .ok (some coinSample) := by
  decide +kernel

theorem measured_eq_recorded_iff_level :
    coinInputs.measured [] [⟨"BTC-USD", 1, none, 0⟩] "BTC-USD"
        (lastClose (closedAt ⟨100, decimal_hundred⟩)) = coinSample.equity ↔
      ∀ position, (heldPositions [⟨"BTC-USD", 1, none, 0⟩]).get? "BTC-USD" = some position →
        lastClose (closedAt ⟨100, decimal_hundred⟩) = some (bidOf coinVenue "BTC-USD") :=
  measured_eq_recorded_iff ⟨rfl, rfl⟩ coinVenue_readable (.inl rfl) coinSampler_sampled "BTC-USD" _

/-- The last close was above the bid: the limits are measured from more than is recorded. -/
theorem coin_valued_twice : ∃ (source : BrokerRiskInputs) (sampler : EquitySampler)
    (balances : List Balance) (positions : List Position) (market : MarketState)
    (sample : EquitySample), (sampler.broker = source.broker ∧ sampler.quoteAsset = source.quoteAsset) ∧
      Readable source.broker balances positions ∧ sampler.sample none = .ok (some sample) ∧
      source.measured balances positions market.symbol (lastClose market) ≠ sample.equity := by
  refine ⟨coinInputs, coinSampler, [], [⟨"BTC-USD", 1, none, 0⟩],
    closedAt ⟨110, Strategy.NoLookAhead.decimal_higher⟩, coinSample, ⟨rfl, rfl⟩, coinVenue_readable,
    coinSampler_sampled, ?_⟩
  decide +kernel

end AlgoTrader.App
