/-
# Brokers.SimulatedFills -- what a fill of the local broker leaves

A fill goes into the fills, the orders and the balances before its position is looked at, and that
may raise: what is left then is told along with what is left where nothing raises.

* `applyAccounting_balance` -- the legs of a fill go into the balances, raise or not;
* `applyFill_leaves` -- what a fill leaves in the tables, raise or not;
* `applyFill_ok` -- where a fill does not raise, and what it leaves of the positions;
* `fillNextLimit_cases` -- a step of the schedule is one fill, or none.
-/
import Mathlib.Tactic.Linarith
import AlgoTrader.Brokers.Simulated
import AlgoTrader.Portfolio.Balances

namespace AlgoTrader.Brokers.Simulated

open AlgoTrader.Core
open AlgoTrader.Portfolio (divide_ok splitSymbol splitSymbol_ok Hyphenated Leg legs legsOf movedIn
  movedIn_cons)
open AlgoTrader.Theory

set_option autoImplicit false

namespace SimulatedBroker

/-! ## Accounting -/

def balance (broker : SimulatedBroker) (asset : String) : Decimal := (broker.balances.get? asset).getD 0

theorem getD_opened (balances : Dict String Decimal) (asset other : String) :
    ((opened balances asset).get? other).getD 0 = (balances.get? other).getD 0 := by
  rw [opened, Dict.get?_setDefault]
  by_cases same : other = asset
  · subst same
    simp
  · simp [same]

theorem getD_moved (balances : Dict String Decimal) (asset other : String) (amount : Decimal) :
    ((moved balances asset amount).get? other).getD 0 =
      (balances.get? other).getD 0 + if asset = other then amount else 0 := by
  rw [moved, Dict.get?_set]
  by_cases same : other = asset
  · simp [same]
  · simp [same, Ne.symm same]

/-- A position that is closed is not kept. -/
def closed (position : Decimal × Decimal) : Decimal × Decimal := if position.1 = 0 then (0, 0) else position

theorem getD_placed (positions : Dict String (Decimal × Decimal)) (symbol other : String)
    (quantity average : Decimal) : ((placed positions symbol quantity average).get? other).getD (0, 0) =
      if other = symbol then closed (quantity, average) else (positions.get? other).getD (0, 0) := by
  unfold placed closed
  split
  · rw [Dict.get?_erase]
    split
    · rfl
    · rfl
  · rw [Dict.get?_set]
    split
    · rfl
    · rfl

variable (setup : Setup)

/-- A fill whose fee is charged to the asset as it is configured. -/
def charged (fill : Fill) : Fill := { fill with feeAsset := setup.config.feeAsset }

/-- Accounting touches balances and positions alone. -/
theorem applyAccounting_frame (broker : SimulatedBroker) (request : OrderRequest)
    (quantity price fee : Decimal) : ∃ balances positions,
      (applyAccounting setup broker request quantity price fee).2 = { broker with balances, positions } := by
  unfold applyAccounting
  split
  · exact ⟨broker.balances, broker.positions, rfl⟩
  · dsimp only
    split
    · split
      · exact ⟨_, broker.positions, rfl⟩
      · exact ⟨_, _, rfl⟩
    · exact ⟨_, _, rfl⟩

/-- The legs of a fill go into the balances, even where its position raises. -/
theorem applyAccounting_balance (broker : SimulatedBroker) (request : OrderRequest) (fill : Fill)
    (symbol : fill.symbol = request.symbol) (side : fill.side = request.side) (asset : String) :
    (applyAccounting setup broker request fill.quantity fill.price fill.fee).2.balance asset =
      broker.balance asset + movedIn Leg.amount asset (legsOf (charged setup fill)) := by
  unfold applyAccounting legsOf
  rw [show (charged setup fill).symbol = request.symbol from symbol]
  cases splitSymbol request.symbol with
  | error exc => simp [movedIn]
  | ok assets =>
      obtain ⟨base, quote⟩ := assets
      have sided : (charged setup fill).side = request.side := side
      simp only [legs, sided]
      cases request.side with
      | buy =>
          dsimp only
          split
          · simp only [balance, getD_moved, getD_opened, movedIn_cons, charged]
            simp [movedIn, add_assoc]
          · simp only [balance, getD_moved, getD_opened, movedIn_cons, charged]
            simp [movedIn, add_assoc]
      | sell =>
          simp only [balance, getD_moved, getD_opened, movedIn_cons, charged]
          simp [movedIn, add_assoc]

/-- The quantity and the average price a fill leaves. -/
def blended (side : OrderSide) (position : Decimal × Decimal) (quantity price : Decimal) :
    Decimal × Decimal :=
  match side with
  | .buy => (position.1 + quantity, (position.1 * position.2 + quantity * price) / (position.1 + quantity))
  | .sell => (position.1 - quantity, position.2)

/-- What a request adds to the quantity of its symbol. -/
def signedQuantity (side : OrderSide) (quantity : Decimal) : Decimal :=
  match side with
  | .buy => quantity
  | .sell => -quantity

theorem closed_fst (position : Decimal × Decimal) : (closed position).1 = position.1 := by
  unfold closed
  split
  · rename_i nothing
    exact nothing.symm
  · rfl

theorem blended_fst (side : OrderSide) (position : Decimal × Decimal) (quantity price : Decimal) :
    (blended side position quantity price).1 = position.1 + signedQuantity side quantity := by
  cases side with
  | buy => rfl
  | sell => exact sub_eq_add_neg _ _

/-- Accounting raises at a symbol without a hyphen, and at a buy that leaves nothing. -/
theorem applyAccounting_ok (broker : SimulatedBroker) {request : OrderRequest}
    (quantity price fee : Decimal) (hyphenated : Hyphenated request.symbol)
    (divides : request.side = .buy → (broker.position request.symbol).1 + quantity ≠ 0) :
    (applyAccounting setup broker request quantity price fee).1 = .ok () ∧
      ∀ symbol, (applyAccounting setup broker request quantity price fee).2.position symbol =
        if symbol = request.symbol then
          closed (blended request.side (broker.position request.symbol) quantity price)
        else broker.position symbol := by
  obtain ⟨⟨base, quote⟩, split⟩ := splitSymbol_ok hyphenated
  unfold applyAccounting
  simp only [split]
  cases side : request.side with
  | buy =>
      simp only [divide_ok (divides side)]
      exact ⟨trivial, fun symbol => getD_placed _ _ symbol _ _⟩
  | sell => exact ⟨rfl, fun symbol => getD_placed _ _ symbol _ _⟩

/-! ## Fills -/

/-- Every fill in the table of fills. -/
def table (broker : SimulatedBroker) : List Fill := broker.fills.values.flatten

/-- `self._fills.setdefault(key, [])`. -/
def listing (broker : SimulatedBroker) (key : String) : SimulatedBroker :=
  { broker with fills := broker.fills.setDefault key [] }

theorem fillsOf_listing (broker : SimulatedBroker) (key other : String) :
    (broker.listing key).fillsOf other = broker.fillsOf other := by
  unfold fillsOf listing
  rw [Dict.get?_setDefault]
  by_cases same : other = key
  · subst same
    simp
  · simp [same]

/-- A fill and its order go into their tables. -/
structure Leaves (broker : SimulatedBroker) (order : Order) (fill : Fill)
    (after : SimulatedBroker) : Prop where
  orders : ∃ updated, after.orders = broker.orders.set order.request.clientOrderId.str updated ∧
    updated.request = order.request ∧
    updated.filledQuantity.1 = order.filledQuantity + fill.quantity ∧
    (updated.status = .filled ↔ order.request.quantity.1 ≤ order.filledQuantity + fill.quantity)
  fillsOf : ∀ key, after.fillsOf key =
    if key = order.request.clientOrderId.str then broker.fillsOf key ++ [fill] else broker.fillsOf key
  table : after.table.Perm (broker.table ++ [fill])
  made : after.made = broker.made ++ [fill]
  unknownRequests : after.unknownRequests = broker.unknownRequests
  limitScheduleIndex : after.limitScheduleIndex = broker.limitScheduleIndex
  quote : after.quote = broker.quote
  balance : ∀ asset, after.balance asset =
    broker.balance asset + movedIn Leg.amount asset (legsOf (charged setup fill))

theorem table_listing (broker : SimulatedBroker) (key : String) : (broker.listing key).table = broker.table :=
  Dict.flatten_setDefault _ _

variable (broker : SimulatedBroker) (order : Order) (quantity price : PositiveDecimal)

theorem leaves_records (balances : Dict String Decimal) (positions : Dict String (Decimal × Decimal))
    (moved : ∀ asset, (balances.get? asset).getD 0 = broker.balance asset +
      movedIn Leg.amount asset (legsOf (charged setup (fillOf setup broker order quantity price)))) :
    Leaves setup broker order (fillOf setup broker order quantity price)
      { records setup broker order quantity price with balances, positions } where
  orders := by
    refine ⟨filledOrder setup broker order quantity price, rfl, rfl, rfl, ?_⟩
    simp only [filledOrder, fillOf]
    split
    · rename_i whole
      exact iff_of_true rfl whole
    · rename_i part
      exact iff_of_false (by simp) part
  fillsOf key := by
    simp only [fillsOf, records, Dict.get?_set]
    split
    · rename_i same
      subst same
      rfl
    · rfl
  table := by
    have rest := broker.fills.flatten_perm order.request.clientOrderId.str
    refine (Dict.flatten_set_perm _ _ _).trans ?_
    rw [List.append_assoc]
    refine List.Perm.trans ?_ (rest.symm.append_right _)
    rw [List.append_assoc]
    exact List.perm_append_comm.append_left _
  made := rfl
  unknownRequests := rfl
  limitScheduleIndex := rfl
  quote := rfl
  balance := moved

/-- The list of an order's fills is there before its next fill is made, empty or not. -/
theorem fillOf_listing : fillOf setup (broker.listing order.request.clientOrderId.str) order quantity price =
    fillOf setup broker order quantity price := by
  unfold fillOf
  rw [fillsOf_listing]
  rfl

theorem andThen_snd {α β : Type} (outcome : Outcome α) (value : α → β) :
    (outcome.andThen fun a after => (.ok (value a), after)).2 = outcome.2 := by
  obtain ⟨_ | _, after⟩ := outcome
  · rfl
  · rfl

theorem applyFill_eq : applyFill setup broker order quantity price =
    (applyAccounting setup
      (records setup (broker.listing order.request.clientOrderId.str) order quantity price)
      order.request quantity price (fillOf setup broker order quantity price).fee).andThen
      fun _ after => (.ok (filledOrder setup broker order quantity price), after) := by
  unfold applyFill
  rw [dif_pos ⟨quantity.2, price.2⟩]
  rfl

/-- What a fill leaves, whether its accounting raises or not. -/
theorem applyFill_leaves : Leaves setup broker order (fillOf setup broker order quantity price)
    (applyFill setup broker order quantity price).2 := by
  have moves := applyAccounting_balance setup
    (records setup (broker.listing order.request.clientOrderId.str) order quantity price) order.request
    (fillOf setup broker order quantity price) rfl rfl
  obtain ⟨balances, positions, after⟩ := applyAccounting_frame setup
    (records setup (broker.listing order.request.clientOrderId.str) order quantity price) order.request
    quantity price (fillOf setup broker order quantity price).fee
  have accounted : (applyFill setup broker order quantity price).2 =
      { records setup (broker.listing order.request.clientOrderId.str) order quantity price with
        balances, positions } := by
    rw [applyFill_eq, andThen_snd, after]
  have moved : ∀ asset, (balances.get? asset).getD 0 = broker.balance asset +
      movedIn Leg.amount asset (legsOf (charged setup (fillOf setup broker order quantity price))) := by
    intro asset
    have here := moves asset
    rwa [show (fillOf setup broker order quantity price).quantity = quantity from rfl,
      show (fillOf setup broker order quantity price).price = price from rfl, after] at here
  have leaves := leaves_records setup (broker.listing order.request.clientOrderId.str) order quantity price
    balances positions (by rw [fillOf_listing]; exact moved)
  rw [fillOf_listing] at leaves
  rw [accounted]
  refine ⟨leaves.orders, fun key => ?_, ?_, leaves.made, leaves.unknownRequests, leaves.limitScheduleIndex,
    leaves.quote, leaves.balance⟩
  · rw [leaves.fillsOf, fillsOf_listing]
  · rw [← table_listing broker order.request.clientOrderId.str]
    exact leaves.table

/-- A fill does not raise where its accounting does not. -/
theorem applyFill_ok (hyphenated : Hyphenated order.request.symbol)
    (divides : order.request.side = .buy → (broker.position order.request.symbol).1 + quantity ≠ 0) :
    (applyFill setup broker order quantity price).1 = .ok (filledOrder setup broker order quantity price) ∧
      ∀ symbol, (applyFill setup broker order quantity price).2.position symbol =
        if symbol = order.request.symbol then
          closed (blended order.request.side (broker.position order.request.symbol) quantity price)
        else broker.position symbol := by
  rw [applyFill_eq, andThen_snd]
  obtain ⟨done, positions⟩ := applyAccounting_ok setup
    (records setup (broker.listing order.request.clientOrderId.str) order quantity price) quantity price
    (fillOf setup broker order quantity price).fee hyphenated divides
  refine ⟨?_, positions⟩
  generalize applyAccounting setup _ order.request quantity price _ = outcome at done
  obtain ⟨result, after⟩ := outcome
  cases done
  rfl

/-- What a fill does to the quantities held. -/
theorem applyFill_held (hyphenated : Hyphenated order.request.symbol)
    (divides : order.request.side = .buy → (broker.position order.request.symbol).1 + quantity ≠ 0)
    (symbol : String) : ((applyFill setup broker order quantity price).2.position symbol).1 =
      (broker.position symbol).1 +
        if symbol = order.request.symbol then signedQuantity order.request.side quantity else 0 := by
  rw [(applyFill_ok setup broker order quantity price hyphenated divides).2]
  split
  · rename_i own
    rw [closed_fst, blended_fst, own]
  · rw [add_zero]

/-! ## Steps of the schedule -/

variable {setup} {broker after : SimulatedBroker}

/-- Nothing of the accounts is touched. -/
structure Untouched (broker after : SimulatedBroker) : Prop where
  orders : after.orders = broker.orders
  fillsOf : ∀ key, after.fillsOf key = broker.fillsOf key
  table : after.table = broker.table
  made : after.made = broker.made
  unknownRequests : after.unknownRequests = broker.unknownRequests
  balances : after.balances = broker.balances
  positions : after.positions = broker.positions

theorem Untouched.of_quiet (orders : after.orders = broker.orders)
    (fills : after.fills = broker.fills) (made : after.made = broker.made)
    (unknownRequests : after.unknownRequests = broker.unknownRequests)
    (balances : after.balances = broker.balances) (positions : after.positions = broker.positions) :
    Untouched broker after where
  orders := orders
  fillsOf key := by rw [SimulatedBroker.fillsOf, fills]; rfl
  table := by rw [SimulatedBroker.table, fills]; rfl
  made := made
  unknownRequests := unknownRequests
  balances := balances
  positions := positions

theorem applyFill_invalid {order : Order} {quantity price : Decimal} (invalid : ¬(0 < quantity ∧ 0 < price)) :
    Untouched broker (applyFill setup broker order quantity price).2 := by
  unfold applyFill
  rw [dif_neg invalid]
  refine ⟨rfl, fun key => ?_, ?_, rfl, rfl, rfl, rfl⟩
  · exact fillsOf_listing broker _ key
  · exact table_listing broker _

theorem Untouched.refl (broker : SimulatedBroker) : Untouched broker broker := .of_quiet rfl rfl rfl rfl rfl rfl

/-- A step of the schedule is at most the whole. -/
theorem ratio_le_one {config : SimulationConfig} {ratio : Decimal}
    (member : ratio ∈ config.partialFillSchedule) : ratio ≤ 1 := by
  obtain ⟨earlier, whole⟩ := List.getLast?_eq_some_iff.1 config.scheduleEnds
  have increases := (List.pairwise_cons.1 config.scheduleIncreases).2
  rw [whole] at member increases
  rcases List.mem_append.1 member with before | last
  · exact le_of_lt ((List.pairwise_append.1 increases).2.2 ratio before 1 (List.mem_singleton_self 1))
  · exact le_of_eq (List.mem_singleton.1 last)

/-- The schedule has a step left for an order. -/
def steps (setup : Setup) (broker : SimulatedBroker) (order : Order) (quantity : Decimal) : Prop :=
  ∃ ratio, setup.config.partialFillSchedule[broker.indexOf order.request.clientOrderId.str]? = some ratio ∧
    quantity = order.request.quantity * ratio - order.filledQuantity ∧ 0 < quantity

def indexed (broker : SimulatedBroker) (key : String) : SimulatedBroker :=
  { broker with limitScheduleIndex := broker.limitScheduleIndex.set key (broker.indexOf key + 1) }

/-- A step of the schedule is one fill, or none. -/
theorem fillNextLimit_cases (setup : Setup) (broker : SimulatedBroker) (order : Order) :
    (∃ quantity, steps setup broker order quantity ∧ fillNextLimit setup broker order =
      applyFill setup (broker.indexed order.request.clientOrderId.str) order quantity
        (limitOf order.request)) ∨
    (¬∃ quantity, steps setup broker order quantity) ∧ ∃ after, Untouched broker after ∧
      after.quote = broker.quote ∧
      (∀ key, key ≠ order.request.clientOrderId.str → after.indexOf key = broker.indexOf key) ∧
      fillNextLimit setup broker order = (.ok order, after) := by
  unfold fillNextLimit
  dsimp only
  split
  · rename_i none
    refine .inr ⟨?_, broker, .of_quiet rfl rfl rfl rfl rfl rfl, rfl, fun _ _ => rfl, rfl⟩
    rintro ⟨quantity, ratio, step, -⟩
    rw [none] at step
    cases step
  · rename_i ratio step
    split
    · rename_i nothing
      refine .inr ⟨?_, broker.indexed order.request.clientOrderId.str, .of_quiet rfl rfl rfl rfl rfl rfl,
        rfl, fun key other => ?_, rfl⟩
      · rintro ⟨quantity, ratio', step', rfl, positive⟩
        rw [step] at step'
        cases step'
        exact absurd nothing (not_le.2 positive)
      · simp only [indexOf, indexed, Dict.get?_set_ne _ _ other]
    · rename_i positive
      exact .inl ⟨_, ⟨ratio, step, rfl, not_le.1 positive⟩, rfl⟩

theorem indexed_untouched (key : String) : Untouched broker (broker.indexed key) := .of_quiet rfl rfl rfl rfl rfl rfl

theorem steps_within {order : Order} {quantity : Decimal} (step : steps setup broker order quantity) :
    order.filledQuantity + quantity ≤ order.request.quantity.1 := by
  obtain ⟨ratio, listed, rfl, -⟩ := step
  have atMost := ratio_le_one (List.mem_of_getElem? listed)
  have whole : order.request.quantity.1 * ratio ≤ order.request.quantity.1 * 1 :=
    mul_le_mul_of_nonneg_left atMost order.request.quantity.2.le
  linarith

end SimulatedBroker

end AlgoTrader.Brokers.Simulated
