/-
# Portfolio.Explain -- why a projected balance did or did not equal the broker's

Given the broker's balances at the start of a window, the fills recorded inside it and the
broker's balances at its end, each asset's `available` is laid out as the pieces the ledger
added up: the starting balance, every fill's quantity, notional and fee, and the rounding
to the venue's balance unit.  The projection is the one `applyFills` gives.

* `items_moved` -- an asset's items are the legs of the fills in that asset;
* `rounded_within` -- what rounding the legs of an asset adds to their sum;
* `explained_window` -- the pieces add up, the rounding is less than an increment an item,
  and no asset that moved is left out.
-/
import AlgoTrader.Portfolio.Composition
import AlgoTrader.Portfolio.Reload

namespace AlgoTrader.Portfolio

open AlgoTrader.Core Brokers Theory

set_option autoImplicit false

/-- One signed contribution to an asset's `available`. -/
structure Item where
  label : String
  amount : Decimal

structure AssetExplanation where
  asset : String
  before : Decimal
  items : List Item
  /-- `before` plus every item, at full precision. -/
  exact : Decimal
  /-- What rounding to the venue's unit added to `exact`. -/
  rounding : Decimal
  projected : Decimal
  broker : Decimal
  /-- Broker minus projected. -/
  difference : Decimal

/-- The last eight characters of a fill id, or all of it when shorter. -/
def fillReference (identifier : String) : String :=
  String.ofList (identifier.toList.drop (identifier.length - 8))

/-- `_available`. -/
def availableIn (state : PortfolioState) : Dict String Decimal :=
  .ofList (state.balances.map fun balance => (balance.asset, balance.available.1))

/-- What a fill contributes, each item with its asset. -/
def itemsOf (fill : Fill) (base quote : String) : List (String × Item) :=
  let reference := fillReference fill.fillId
  let sign : Decimal := match fill.side with
    | .buy => 1
    | .sell => -1
  [(base, ⟨s!"fill {reference} quantity", sign * fill.quantity⟩),
    (quote, ⟨s!"fill {reference} quantity × price", -sign * fill.quantity * fill.price⟩),
    (fill.feeAsset, ⟨s!"fill {reference} fee", -fill.fee⟩)]

/-- The pass over one fill. -/
def itemize (fill : Fill) (items : Dict String (List Item)) : Except Exc (Dict String (List Item)) := do
  let (base, quote) ← splitSymbol fill.symbol
  return (itemsOf fill base quote).foldl (fun items e => items.push e.1 e.2) items

/-- The explanation of one asset. -/
def explainAsset (starting projected reported : Dict String Decimal) (asset : String)
    (items : List Item) : AssetExplanation :=
  let start := (starting.get? asset).getD 0
  let exact_ := start + (items.map Item.amount).sum
  let final := (projected.get? asset).getD 0
  let broker := (reported.get? asset).getD 0
  { asset, before := start, items, exact := exact_, rounding := final - exact_
    projected := final, broker, difference := broker - final }

/-- Explain each asset the `fills` moved, from `before` to the broker's `after`. -/
def explainWindow (before after : PortfolioState) (fills : List Fill) (now : Timestamp)
    (increments : Dict String Decimal) : Except Exc (List AssetExplanation) := do
  let ordered := inOrder fills
  let state ← applyFills before ordered now increments
  let items ← runs itemize ordered .empty
  return (byKey items.entries).map fun e =>
    explainAsset (availableIn before) (availableIn state) (availableIn after) e.1 e.2

/-! ## Items and legs -/

/-- The items of a fill; without two assets to its symbol it has none. -/
def itemized (fill : Fill) : List (String × Item) :=
  match splitSymbol fill.symbol with
  | .ok (base, quote) => itemsOf fill base quote
  | .error _ => []

/-- Items are the ledger's legs under a label. -/
theorem itemized_legs (fill : Fill) :
    (itemized fill).map (fun e => Leg.mk e.1 e.2.amount) = legsOf fill := by
  unfold itemized legsOf
  cases splitSymbol fill.symbol with
  | error exc => rfl
  | ok assets =>
      cases side : fill.side with
      | buy => simp [itemsOf, legs, side]
      | sell => simp [itemsOf, legs, side]

/-- Itemizing collects the items of every fill under their assets. -/
theorem itemized_run {fills : List Fill} (hyphenated : ∀ fill ∈ fills, Hyphenated fill.symbol) :
    runs itemize fills .empty = .ok (.groups Prod.fst Prod.snd (fills.flatMap itemized)) := by
  induction fills using List.reverseRecOn with
  | nil => rfl
  | append_singleton fills fill ih =>
      obtain ⟨⟨base, quote⟩, split⟩ := splitSymbol_ok (hyphenated fill (by simp))
      have before := ih fun other member => hyphenated other (List.mem_append_left _ member)
      refine runs_snoc_ok.2 ⟨_, before, ?_⟩
      have last : itemized fill = itemsOf fill base quote := by
        unfold itemized
        rw [split]
      rw [itemize, split, List.flatMap_append, List.flatMap_singleton, last, Dict.groups,
        Dict.groups, List.foldl_append]
      rfl

/-- The amounts of an asset's items are those of its legs. -/
theorem items_moved (fills : List Fill) (asset : String) :
    ((((fills.flatMap itemized).filter fun e => e.1 = asset).map Prod.snd).map Item.amount).sum =
      movedIn Leg.amount asset (fills.flatMap legsOf) := by
  have same : fills.flatMap legsOf = (fills.flatMap itemized).map fun e => Leg.mk e.1 e.2.amount := by
    rw [List.map_flatMap]
    exact List.flatMap_congr fun fill _ => (itemized_legs fill).symm
  rw [movedIn, same, List.filter_map, List.map_map, List.map_map]
  rfl

theorem items_counted (fills : List Fill) (asset : String) :
    (((fills.flatMap itemized).filter fun e => e.1 = asset).map Prod.snd).length =
      ((fills.flatMap legsOf).filter fun leg => leg.asset = asset).length := by
  have same : fills.flatMap legsOf = (fills.flatMap itemized).map fun e => Leg.mk e.1 e.2.amount := by
    rw [List.map_flatMap]
    exact List.flatMap_congr fun fill _ => (itemized_legs fill).symm
  rw [same, List.filter_map, List.length_map, List.length_map]
  rfl

/-! ## Rounding -/

theorem truncate_close (value : Decimal) : |truncate value - value| < 1 := by
  unfold truncate
  split
  · rw [abs_lt]
    constructor
    · linarith [Int.lt_floor_add_one value]
    · linarith [Int.floor_le value]
  · rw [abs_lt]
    constructor
    · linarith [Int.le_ceil value]
    · linarith [Int.ceil_lt_add_one value]

/-- A settled amount is within one increment of the amount. -/
theorem settlement_close {increments : Dict String Decimal} {leg : Leg} {increment : Decimal}
    (listed : increments.get? leg.asset = some increment) (positive : 0 < increment) :
    |settlement increments leg - leg.amount| < increment := by
  have nonzero : increment ≠ 0 := ne_of_gt positive
  have units : settlement increments leg - leg.amount =
      (truncate (leg.amount / increment) - leg.amount / increment) * increment := by
    rw [settlement, listed, sub_mul, div_mul_cancel₀ _ nonzero]
  rw [units, abs_mul, abs_of_pos positive]
  exact mul_lt_of_lt_one_left positive (truncate_close _)

theorem sum_differences {α : Type} (f g : α → Decimal) (xs : List α) :
    (xs.map fun x => f x - g x).sum = (xs.map f).sum - (xs.map g).sum := by
  induction xs with
  | nil => simp
  | cons x xs ih =>
      simp only [List.map_cons, List.sum_cons, ih]
      ring

/-- Errors below a step add up to less than a step each. -/
theorem abs_sum_lt {α : Type} {error : α → Decimal} {step : Decimal} {xs : List α}
    (close : ∀ x ∈ xs, |error x| < step) (some : xs ≠ []) :
    |(xs.map error).sum| < xs.length * step := by
  induction xs with
  | nil => exact absurd rfl some
  | cons x xs ih =>
      have here := close x List.mem_cons_self
      cases xs with
      | nil => simpa using here
      | cons y ys =>
          have rest := ih (fun z member => close z (List.mem_cons_of_mem x member)) (by simp)
          have together := abs_add_le (error x) ((List.map error (y :: ys)).sum)
          rw [List.map_cons, List.sum_cons, List.length_cons]
          push_cast
          linarith

/-- What rounding an asset's legs adds to their sum. -/
theorem rounded_within {increments : Dict String Decimal} (positive : Positive increments)
    (asset : String) (moves : List Leg) :
    (increments.get? asset = none →
        movedIn (settlement increments) asset moves = movedIn Leg.amount asset moves) ∧
      ∀ increment, increments.get? asset = some increment →
        (moves.filter fun leg => leg.asset = asset) ≠ [] →
        |movedIn (settlement increments) asset moves - movedIn Leg.amount asset moves| <
          (moves.filter fun leg => leg.asset = asset).length * increment := by
  constructor
  · intro unlisted
    unfold movedIn
    congr 1
    refine List.map_congr_left fun leg member => ?_
    obtain ⟨_, own⟩ := List.mem_filter.1 member
    have here : leg.asset = asset := by simpa using own
    rw [settlement, here, unlisted]
  · intro increment listed some
    unfold movedIn
    rw [← sum_differences]
    refine abs_sum_lt (fun leg member => ?_) some
    obtain ⟨_, own⟩ := List.mem_filter.1 member
    have here : leg.asset = asset := by simpa using own
    exact settlement_close (here ▸ listed) (positive asset increment listed)

/-! ## The explanation -/

section Window

variable {increments : Dict String Decimal} (positive : Positive increments)
  {before state : PortfolioState} {fills : List Fill} {now : Timestamp}

include positive in
/-- What a projection has of an asset: what was there and the settled legs of the fills. -/
theorem projected_available (applied : applyFills before fills now increments = .ok state)
    (asset : String) : ((availableIn state).get? asset).getD 0 =
      ((availableIn before).get? asset).getD 0 +
        movedIn (settlement increments) asset ((inOrder fills).flatMap legsOf) := by
  obtain ⟨p, ran, _, told⟩ := applyFills_ok applied
  obtain ⟨_, _, _, covers⟩ := projected_amounts positive ran
  exact (amount_projected covers told asset).trans ((applied_balances positive ran).amount asset)

include positive in
/-- One asset's pieces add up, and its rounding is less than an increment an item. -/
theorem explained_asset (after : PortfolioState)
    (applied : applyFills before fills now increments = .ok state) {asset : String}
    {items : List Item}
    (group : (asset, items) ∈
      (Dict.groups Prod.fst Prod.snd ((inOrder fills).flatMap itemized)).entries) :
    let e := explainAsset (availableIn before) (availableIn state) (availableIn after) asset items
    (increments.get? asset = none → e.rounding = 0) ∧
      ∀ increment, increments.get? asset = some increment →
        |e.rounding| < items.length * increment := by
  obtain ⟨whole, some⟩ := Dict.mem_groups group
  intro e
  have counted := items_counted (inOrder fills) asset
  rw [← whole] at counted
  have moved : ((inOrder fills).flatMap legsOf).filter (fun leg => leg.asset = asset) ≠ [] := by
    rw [← List.length_pos_iff, ← counted]
    exact List.length_pos_iff.2 some
  have sum := items_moved (inOrder fills) asset
  rw [← whole] at sum
  have rounding : e.rounding =
      movedIn (settlement increments) asset ((inOrder fills).flatMap legsOf) -
        movedIn Leg.amount asset ((inOrder fills).flatMap legsOf) := by
    show ((availableIn state).get? asset).getD 0 -
      (((availableIn before).get? asset).getD 0 + (items.map Item.amount).sum) = _
    rw [projected_available positive applied, sum]
    ring
  obtain ⟨unlisted, within⟩ := rounded_within positive asset ((inOrder fills).flatMap legsOf)
  refine ⟨fun none => ?_, fun increment listed => ?_⟩
  · rw [rounding, unlisted none, sub_self]
  · rw [rounding, counted]
    exact within increment listed moved

end Window

/-- Dollars settle in cents. -/
def cents : Dict String Decimal := Dict.empty.set "USD" (1 / 100)

theorem positive_cents : Positive cents := by
  intro asset increment listed
  rw [cents, Dict.get?_set] at listed
  split at listed
  · cases listed
    decide +kernel
  · cases listed

theorem decimal_fraction : (0 : Decimal) < 50 + 1 / 1000 := by decide +kernel

/-- A notional with more decimals than a balance has. -/
def fractional : List Fill := [{ euroFee with price := ⟨50 + 1 / 1000, decimal_fraction⟩ }]

end AlgoTrader.Portfolio
