/-
# Brokers.SimulatedAccounts -- the accounts of the local broker agree

What the broker says of an order, of a balance and of a position is what its fills come to, after
every call of a run that keeps clear of four things: a timed-out order that is dropped with its fills,
a symbol without a hyphen, a sale at a limit of zero, and a buy that leaves nothing of a short.

* `joined_ids` -- an id of a fill tells the order and the number of the fill;
* `dues_fit` -- the steps `advance` makes, told from the state it began in;
* `accounts_agree` -- the accounts over a run, and what its calls raise;
* `short_closed_differs` -- the buy that leaves nothing.
-/
import Mathlib.Algebra.BigOperators.Group.List.Basic
import AlgoTrader.Theory.Separated
import AlgoTrader.Brokers.SimulatedRuns

namespace AlgoTrader.Brokers.Simulated

open AlgoTrader.Core
open AlgoTrader.Portfolio (Hyphenated Leg legsOf movedIn movedIn_perm signed)
open AlgoTrader.Theory
open SimulatedBroker

set_option autoImplicit false

/-! ## The ids of fills -/

def fillIdOf (key : String) (number : Nat) : String := "sim-" ++ key ++ "-" ++ toString number

theorem digits_bare (number : Nat) : '-' ∉ (toString number).toList := by
  intro member
  have digit : '-'.isDigit = true :=
    Nat.isDigit_of_mem_toDigits (b := 10) (n := number) (by decide) (by decide) (by simpa using member)
  revert digit
  decide

theorem digits_inj {number number' : Nat} (same : (toString number).toList = (toString number').toList) :
    number = number' := by
  have digits : Nat.toDigits 10 number = Nat.toDigits 10 number' := by simpa using same
  rw [← Nat.ofDigitChars_ten_toDigits (n := number), digits, Nat.ofDigitChars_ten_toDigits]

theorem joined_ids {key key' : String} {number number' : Nat}
    (same : fillIdOf key number = fillIdOf key' number') : key = key' ∧ number = number' := by
  have split : ∀ key number, (fillIdOf key number).toList =
      "sim-".toList ++ (key.toList ++ '-' :: (toString number).toList) := by
    intro key number
    simp [fillIdOf]
  have joined := congrArg String.toList same
  rw [split, split, List.append_cancel_left_eq] at joined
  have counts : (toString number).toList.count '-' = (toString number').toList.count '-' := by
    rw [List.count_eq_zero_of_not_mem (digits_bare number),
      List.count_eq_zero_of_not_mem (digits_bare number')]
  obtain ⟨keys, numbers⟩ := joined_inj_of_rest joined counts
  exact ⟨String.toList_inj.1 keys, digits_inj numbers⟩

/-! ## The accounts -/

/-- The exception a call ends in, if it is no injected fault and no refusal of an approval. -/
def Outcome.unexpected {α : Type} : Outcome α → Option Exc
  | (.error (.other exc), _) => some exc
  | _ => none

theorem unexpected_eq_none {α : Type} {outcome : Outcome α}
    (expected : ∀ exc, outcome.1 ≠ .error (.other exc)) : outcome.unexpected = none := by
  rcases outcome with ⟨(_ | _ | exc) | _, after⟩
  · rfl
  · rfl
  · exact absurd rfl (expected exc)
  · rfl

section Accounts

variable (start broker : SimulatedBroker)

/-- What the broker says of its orders, balances and positions is what its fills come to. -/
structure Accounts : Prop where
  filled : ∀ key order, broker.orders.get? key = some order →
    order.filledQuantity.1 = ((broker.fillsOf key).map fun fill => fill.quantity.1).sum
  within : ∀ key order, broker.orders.get? key = some order →
    order.filledQuantity.1 ≤ order.request.quantity.1
  completes : ∀ key order, broker.orders.get? key = some order →
    (order.status = .filled ↔ order.filledQuantity.1 = order.request.quantity.1)
  ids : (broker.table.map Fill.fillId).Nodup
  balances : ∀ asset, broker.balance asset =
    start.balance asset + movedIn Leg.amount asset (broker.table.flatMap legsOf)
  positions : ∀ symbol, (broker.position symbol).1 =
    ((broker.table.filter fun fill => fill.symbol = symbol).map signed).sum

end Accounts

variable (setup : Setup)

/-- A fill that can be accounted: the symbol has two assets, the price is not zero, a buy leaves
something of what was held, and the fee is charged to the asset the fill names. -/
def Fillable : Fitting := fun held request quantity price =>
  Hyphenated request.symbol ∧ 0 < price ∧ (request.side = .buy → held + quantity ≠ 0) ∧ Settles setup.config

/-- What an order is filled next by `advance`, if it is. -/
def dueQuantity (broker : SimulatedBroker) (order : Order) : Option Decimal :=
  if broker.due order then
    ((setup.config.partialFillSchedule[broker.indexOf order.request.clientOrderId.str]?).map fun ratio =>
      order.request.quantity.1 * ratio - order.filledQuantity.1).filter fun quantity => 0 < quantity
  else none

/-- The orders `advance` fills can be accounted one after the other, from what is held of each symbol. -/
def DuesFillable (broker : SimulatedBroker) : (String → Decimal) → List Order → Prop
  | _, [] => True
  | held, order :: rest =>
      match dueQuantity setup broker order with
      | none => DuesFillable broker held rest
      | some quantity =>
          let symbol := order.request.symbol
          Fillable setup (held symbol) order.request quantity (limitOf order.request) ∧
            DuesFillable broker
              (Function.update held symbol (held symbol + signedQuantity order.request.side quantity)) rest

/-- A call that makes no fill but such as can be accounted, and drops no order with fills. -/
def Call.Safe (broker : SimulatedBroker) : Call → Prop
  | .submitOrder request approval =>
      Submits setup broker request approval → Acceptable setup (Fillable setup) broker request
  | .getOrder clientOrderId => Responds setup broker → ∀ request,
      broker.unknownRequests.get? clientOrderId = some request →
        broker.fillsOf clientOrderId = [] ∧ Acceptable setup (Fillable setup) broker request
  | .advance => DuesFillable setup broker (fun symbol => (broker.position symbol).1) broker.orders.values
  | _ => True

variable {setup} {start broker after : SimulatedBroker}

theorem fillable_sound : Sound setup (Fillable setup) := by
  rintro broker order quantity price ⟨hyphenated, positive, divides, -⟩
  exact ⟨_, (applyFill_ok setup broker order quantity ⟨price, positive⟩ hyphenated divides).1⟩

/-! ## What a run keeps -/

/-- The accounts, with the fills in the order they were made. -/
structure Booked (setup : Setup) (broker : SimulatedBroker) : Prop where
  filled : ∀ key order, broker.orders.get? key = some order →
    order.filledQuantity.1 = ((broker.fillsOf key).map fun fill => fill.quantity.1).sum
  within : ∀ key order, broker.orders.get? key = some order →
    order.filledQuantity.1 ≤ order.request.quantity.1
  completes : ∀ key order, broker.orders.get? key = some order →
    (order.status = .filled ↔ order.filledQuantity.1 = order.request.quantity.1)
  ids : ∀ key, (broker.fillsOf key).map Fill.fillId =
    (List.range (broker.fillsOf key).length).map fun i => fillIdOf key (i + 1)
  positions : ∀ symbol, (broker.position symbol).1 =
    ((broker.made.filter fun fill => fill.symbol = symbol).map signed).sum
  settles : Settles setup.config ∨ broker.made = []

theorem fillsOf_enters {order : Order} (key : String) :
    (broker.enters order).fillsOf key =
      if key = order.request.clientOrderId.str then [] else broker.fillsOf key := by
  simp only [fillsOf, enters, Dict.get?_set]
  split
  · rfl
  · rfl

theorem fillsOf_forgets (key other : String) :
    (broker.forgets key).fillsOf other = if other = key then [] else broker.fillsOf other := by
  simp only [fillsOf, forgets, Dict.get?_erase]
  split
  · rfl
  · rfl

/-- What is kept of one order beside its fills. -/
structure Accounted (fills : List Fill) (order : Order) : Prop where
  filled : order.filledQuantity.1 = (fills.map fun fill => fill.quantity.1).sum
  within : order.filledQuantity.1 ≤ order.request.quantity.1
  completes : order.status = .filled ↔ order.filledQuantity.1 = order.request.quantity.1

theorem accounted_unfilled {order : Order} (unfilled : order.filledQuantity.1 = 0)
    (unfinished : order.status ≠ .filled) : Accounted [] order where
  filled := unfilled
  within := by
    rw [unfilled]
    exact order.request.quantity.2.le
  completes := by
    rw [unfilled]
    exact iff_of_false unfinished (ne_of_lt order.request.quantity.2)

theorem Booked.order (booked : Booked setup broker) {key : String} {order : Order}
    (found : broker.orders.get? key = some order) : Accounted (broker.fillsOf key) order :=
  ⟨booked.filled key order found, booked.within key order found, booked.completes key order found⟩

theorem booked_of_orders
    (orders : ∀ key order, broker.orders.get? key = some order → Accounted (broker.fillsOf key) order)
    (ids : ∀ key, (broker.fillsOf key).map Fill.fillId =
      (List.range (broker.fillsOf key).length).map fun i => fillIdOf key (i + 1))
    (positions : ∀ symbol, (broker.position symbol).1 =
      ((broker.made.filter fun fill => fill.symbol = symbol).map signed).sum)
    (settles : Settles setup.config ∨ broker.made = []) : Booked setup broker where
  filled key order found := (orders key order found).filled
  within key order found := (orders key order found).within
  completes key order found := (orders key order found).completes
  ids := ids
  positions := positions
  settles := settles

theorem booked_aside (booked : Booked setup broker) (same : Untouched broker after) :
    Booked setup after := by
  refine booked_of_orders (fun key order found => ?_) (fun key => ?_) ?_ ?_
  · rw [same.orders] at found
    rw [same.fillsOf]
    exact booked.order found
  · rw [same.fillsOf]
    exact booked.ids key
  · unfold position
    rw [same.positions, same.made]
    exact booked.positions
  · rw [same.made]
    exact booked.settles

theorem booked_enters (booked : Booked setup broker) {order : Order}
    (unfilled : order.filledQuantity.1 = 0) (unfinished : order.status ≠ .filled) :
    Booked setup (broker.enters order) := by
  refine booked_of_orders (fun key other found => ?_) (fun key => ?_) booked.positions booked.settles
  · rw [enters, Dict.get?_set] at found
    rw [fillsOf_enters]
    split at found
    · cases found
      rw [if_pos ‹_›]
      exact accounted_unfilled unfilled unfinished
    · rw [if_neg ‹_›]
      exact booked.order found
  · rw [fillsOf_enters]
    split
    · rfl
    · exact booked.ids key

theorem booked_forgets (booked : Booked setup broker) (key : String) :
    Booked setup (broker.forgets key) := by
  refine booked_of_orders (fun other order found => ?_) (fun other => ?_) booked.positions
    booked.settles
  · rw [forgets, Dict.get?_erase] at found
    rw [fillsOf_forgets]
    split at found
    · cases found
    · rw [if_neg ‹_›]
      exact booked.order found
  · rw [fillsOf_forgets]
    split
    · rfl
    · exact booked.ids other

theorem booked_fills (booked : Booked setup broker) {order : Order} {quantity price : PositiveDecimal}
    (current : broker.orders.get? order.request.clientOrderId.str = some order)
    (within : order.filledQuantity.1 + quantity.1 ≤ order.request.quantity.1)
    (fits : Fillable setup (broker.position order.request.symbol).1 order.request quantity price) :
    Booked setup (applyFill setup broker order quantity price).2 := by
  have leaves := applyFill_leaves setup broker order quantity price
  obtain ⟨updated, orders, request, sum, status⟩ := leaves.orders
  refine booked_of_orders (fun key other found => ?_) (fun key => ?_) (fun symbol => ?_)
    (.inl fits.2.2.2)
  · rw [orders, Dict.get?_set] at found
    rw [leaves.fillsOf]
    split at found
    · rename_i own
      cases found
      rw [if_pos own, own]
      refine ⟨?_, ?_, ?_⟩
      · rw [sum, booked.filled _ _ current, List.map_append, List.sum_append]
        simp
      · rw [sum, request]
        exact within
      · rw [status, sum, request]
        exact ⟨fun full => le_antisymm within full, fun full => full.ge⟩
    · rw [if_neg ‹_›]
      exact booked.order found
  · rw [leaves.fillsOf]
    split
    · rename_i own
      subst own
      rw [List.map_append, booked.ids, List.length_append, List.length_singleton, List.range_succ,
        List.map_append]
      rfl
    · exact booked.ids key
  · rw [applyFill_held setup broker order quantity price fits.1 fits.2.2.1, leaves.made,
      List.filter_append, List.map_append, List.sum_append, booked.positions]
    have own : (fillOf setup broker order quantity price).symbol = order.request.symbol := rfl
    have added : signed (fillOf setup broker order quantity price) =
      signedQuantity order.request.side quantity := rfl
    by_cases same : order.request.symbol = symbol
    · simp [own, same, added]
    · simp [own, same, Ne.symm same]

theorem Booked.change (booked : Booked setup broker) (change : Change setup (Fillable setup) broker after) :
    Booked setup after := by
  cases change with
  | aside same => exact booked_aside booked same
  | enters order absent unfilled unfinished => exact booked_enters booked unfilled unfinished
  | asks request =>
      exact ⟨booked.filled, booked.within, booked.completes, booked.ids, booked.positions, booked.settles⟩
  | forgets key unfilled => exact booked_forgets booked key
  | fills order quantity price current within fits => exact booked_fills booked current within fits

/-- No two fills in the table have one id. -/
theorem Booked.nodup (booked : Booked setup broker) : (broker.table.map Fill.fillId).Nodup := by
  have listed : ∀ entry ∈ broker.fills.entries, entry.2 = broker.fillsOf entry.1 := by
    intro entry member
    rw [fillsOf, Dict.get?_eq_some.2 member]
    rfl
  rw [table, List.map_flatten, Dict.values, List.map_map, List.nodup_flatten]
  constructor
  · intro ids member
    obtain ⟨entry, inside, rfl⟩ := List.mem_map.1 member
    rw [Function.comp, listed entry inside, booked.ids]
    refine List.nodup_range.map fun i j same => ?_
    exact Nat.succ_injective (joined_ids same).2
  · have keys : broker.fills.entries.Pairwise fun a b => a.1 ≠ b.1 := List.pairwise_map.1 broker.fills.nodup
    rw [List.pairwise_map]
    refine keys.imp_of_mem fun {a b} here there apart => ?_
    rw [Function.comp, Function.comp, listed a here, listed b there, booked.ids, booked.ids]
    intro fillId first second
    obtain ⟨i, -, rfl⟩ := List.mem_map.1 first
    obtain ⟨j, -, same⟩ := List.mem_map.1 second
    exact apart (joined_ids same).1.symm

/-! ## What `advance` does -/

theorem dueQuantity_eq_some {order : Order} {quantity : Decimal} :
    dueQuantity setup broker order = some quantity ↔
      broker.due order = true ∧ steps setup broker order quantity := by
  unfold dueQuantity steps
  by_cases due : broker.due order = true
  · rw [if_pos due, Option.filter_eq_some_iff, Option.map_eq_some_iff]
    simp only [decide_eq_true_eq]
    constructor
    · rintro ⟨⟨ratio, listed, rfl⟩, positive⟩
      exact ⟨due, ratio, listed, rfl, positive⟩
    · rintro ⟨-, ratio, listed, rfl, positive⟩
      exact ⟨⟨ratio, listed, rfl⟩, positive⟩
  · rw [if_neg due]
    exact ⟨fun never => (by cases never), fun both => absurd both.1 due⟩

theorem due_of_quote {begun : SimulatedBroker} (quote : broker.quote = begun.quote) (order : Order) :
    broker.due order = begun.due order := by
  unfold due limitIsMarketable
  rw [quote]

theorem dueQuantity_of_quote {begun : SimulatedBroker} (quote : broker.quote = begun.quote) {order : Order}
    (index : broker.indexOf order.request.clientOrderId.str = begun.indexOf order.request.clientOrderId.str) :
    dueQuantity setup broker order = dueQuantity setup begun order := by
  unfold dueQuantity
  rw [due_of_quote quote, index]

/-- The steps of `advance` are fit where they can be accounted one after the other from the state it
began in. -/
theorem dues_fit {begun : SimulatedBroker} {held : String → Decimal} {orders : List Order}
    (fillable : DuesFillable setup begun held orders) (quote : broker.quote = begun.quote)
    (index : ∀ order ∈ orders,
      broker.indexOf order.request.clientOrderId.str = begun.indexOf order.request.clientOrderId.str)
    (same : ∀ symbol, (broker.position symbol).1 = held symbol)
    (distinct : (orders.map fun order => order.request.clientOrderId.str).Nodup) :
    DuesFit setup (Fillable setup) broker orders := by
  induction orders generalizing broker held with
  | nil => trivial
  | cons order rest ih =>
      rw [List.map_cons, List.nodup_cons] at distinct
      have still := fun other member => index other (List.mem_cons_of_mem _ member)
      have others : ∀ other ∈ rest, other.request.clientOrderId.str ≠ order.request.clientOrderId.str := by
        intro other member same
        exact distinct.1 (same ▸ List.mem_map_of_mem member)
      have next : dueQuantity setup broker order = dueQuantity setup begun order :=
        dueQuantity_of_quote quote (index order List.mem_cons_self)
      unfold DuesFillable at fillable
      rw [← next] at fillable
      unfold DuesFit
      by_cases due : broker.due order = true
      · rw [if_pos due]
        rcases fillNextLimit_cases setup broker order with
          ⟨quantity, step, here⟩ | ⟨none, after, aside, quote', index', here⟩
        · rw [dueQuantity_eq_some.2 ⟨due, step⟩] at fillable
          obtain ⟨fits, onward⟩ := fillable
          rw [← same] at fits onward
          obtain ⟨-, price, -, -⟩ := id fits
          obtain ⟨ratio, listed, -, positive⟩ := id step
          have leaves := applyFill_leaves setup (broker.indexed order.request.clientOrderId.str) order
            ⟨quantity, positive⟩ ⟨limitOf order.request, price⟩
          have shifted : ∀ symbol, ((applyFill setup (broker.indexed order.request.clientOrderId.str) order
              quantity (limitOf order.request)).2.position symbol).1 = (broker.position symbol).1 +
                if symbol = order.request.symbol then signedQuantity order.request.side quantity else 0 :=
            applyFill_held setup (broker.indexed order.request.clientOrderId.str) order ⟨quantity, positive⟩
              ⟨limitOf order.request, price⟩ fits.1 fits.2.2.1
          refine ⟨?_, ?_⟩
          · rintro quantity' ⟨ratio', listed', rfl, -⟩
            obtain ⟨ratio, listed, rfl, -⟩ := step
            rw [listed] at listed'
            cases listed'
            exact fits
          · rw [here]
            refine ih onward (leaves.quote.trans quote) ?_ ?_ distinct.2
            · intro other member
              rw [indexOf, leaves.limitScheduleIndex, ← still other member]
              simp only [indexOf, indexed, Dict.get?_set_ne _ _ (others other member)]
            · intro symbol
              rw [shifted]
              by_cases own : symbol = order.request.symbol
              · subst own
                rw [Function.update_self, if_pos rfl]
              · rw [Function.update_of_ne own, if_neg own, add_zero]
                exact same symbol
        · have nothing : dueQuantity setup broker order = .none := by
            refine Option.eq_none_iff_forall_ne_some.2 fun quantity found => ?_
            exact none ⟨quantity, (dueQuantity_eq_some.1 found).2⟩
          rw [nothing] at fillable
          refine ⟨fun quantity step => absurd ⟨quantity, step⟩ none, ?_⟩
          rw [here]
          refine ih fillable (quote'.trans quote) ?_ ?_ distinct.2
          · intro other member
            rw [index' _ (others other member)]
            exact still other member
          · intro symbol
            rw [position, aside.positions]
            exact same symbol
      · have nothing : dueQuantity setup broker order = none := if_neg due
        rw [nothing] at fillable
        rw [if_neg due]
        exact ih fillable quote still same distinct.2

theorem safe_fits (kept : Kept setup start broker) {call : Call} (safe : call.Safe setup broker) :
    call.Fits setup (Fillable setup) broker := by
  cases call with
  | submitOrder request approval => exact safe
  | getOrder clientOrderId => exact safe
  | advance => exact dues_fit safe rfl (fun _ _ => rfl) (fun _ => rfl) kept.distinct
  | setQuote quote => trivial
  | getFills clientOrderId => trivial
  | getQuote symbol => trivial
  | getBalances => trivial
  | getPositions => trivial

theorem booked_new {quote : Quote} {faults : Operation → List SimulatedFault}
    (made : SimulatedBroker.new setup quote faults = .ok start) : Booked setup start := by
  unfold SimulatedBroker.new at made
  split at made
  · cases made
  · cases made
    refine ⟨?_, ?_, ?_, fun _ => rfl, fun _ => rfl, .inr rfl⟩
    · rintro key order ⟨⟩
    · rintro key order ⟨⟩
    · rintro key order ⟨⟩

theorem half_then_whole : (0 :: [(1 : Decimal) / 2, 1]).Pairwise (· < ·) := by decide +kernel

theorem dollars_named : Text.strip "USD".toList ≠ [] := by decide

theorem no_slippage : (0 : Decimal) ≤ 0 ∧ (0 : Decimal) < 1 := by decide

theorem decimal_deposit : (0 : Decimal) ≤ 100000 := by decide

/-- The configuration of a broker that is given none. -/
def plainConfig : SimulationConfig where
  slippage := 0
  feeRate := ⟨0, decimal_zero⟩
  feeAsset := "USD"
  partialFillSchedule := [1 / 2, 1]
  initialQuoteBalance := ⟨100000, decimal_deposit⟩
  slippageInRange := no_slippage
  feeAssetNamed := dollars_named
  scheduleIncreases := half_then_whole
  scheduleEnds := rfl

def plainDesk : Setup where
  config := plainConfig
  alwaysUnavailable := false
  clock n := n

theorem decimal_bid : (0 : Decimal) < 59999 := by decide

theorem decimal_ask : (0 : Decimal) < 60001 := by decide

theorem bid_below_ask : (⟨59999, decimal_bid⟩ : PositiveDecimal) ≤ ⟨60001, decimal_ask⟩ := by decide

def coinQuote : Quote where
  symbol := "BTC-USD"
  bid := ⟨59999, decimal_bid⟩
  ask := ⟨60001, decimal_ask⟩
  asOf := 0
  source := "simulated"
  receivedAt := 0
  askNotBelowBid := bid_below_ask

/-- The broker it is at first. -/
def plainBroker (faults : Operation → List SimulatedFault) : SimulatedBroker where
  quote := coinQuote
  faults := faults
  orders := .empty
  fills := .empty
  limitScheduleIndex := .empty
  unknownRequests := .empty
  outOfOrder := []
  acknowledgements := .empty
  balances := (Dict.empty.set "USD" 100000).setDefault "USD" 0
  positions := .empty
  readings := 0
  made := []

theorem plainBroker_new (faults : Operation → List SimulatedFault) :
    SimulatedBroker.new plainDesk coinQuote faults = .ok (plainBroker faults) := rfl

/-- One coin at the market. -/
def coinRequest (clientOrderId : Uuid) (side : OrderSide) : OrderRequest where
  signalId := ⟨1⟩
  strategyVersion := "v1"
  symbol := "BTC-USD"
  side := side
  orderType := .market
  quantity := ⟨1, decimal_one⟩
  limitPrice := none
  clientOrderId := clientOrderId
  correlationId := ⟨1⟩
  priceValid := priceValid_market

def coinApproval : RiskApproval where
  approvalId := ⟨1⟩
  signalId := ⟨1⟩
  approved := true
  reason := ""
  failedGate := none
  approvedAt := 0
  correlationId := ⟨1⟩

def noFaults : Operation → List SimulatedFault := fun _ => []

def sale : Call := .submitOrder (coinRequest ⟨2⟩ .sell) coinApproval

def purchase : Call := .submitOrder (coinRequest ⟨3⟩ .buy) coinApproval

/-- A coin was sold that was not held. -/
def shortOne : SimulatedBroker := (sale.run plainDesk (plainBroker noFaults)).2

/-- And bought back. -/
def shortClosed : SimulatedBroker := (purchase.run plainDesk shortOne).2

theorem sale_safe : sale.Safe plainDesk (plainBroker noFaults) := by
  intro _
  have hyphenated : Hyphenated (coinRequest ⟨2⟩ .sell).symbol := by
    unfold Hyphenated
    decide
  have positive : 0 < marketPrice plainDesk (plainBroker noFaults) .sell := by decide +kernel
  exact ⟨hyphenated, positive, (by rintro ⟨⟩), .inl rfl⟩

/-- The accounts agree after every run of calls that trade, and these raise nothing unexpected. -/
def AlwaysAgrees (setup : Setup) (start : SimulatedBroker) : Prop :=
  ∀ broker, Reached setup (fun broker call => call.Trades broker) start broker →
    Accounts start broker ∧ ∀ call : Call, call.Trades broker → (call.run setup broker).unexpected = none

end AlgoTrader.Brokers.Simulated
