/-
# Portfolio.Ledger -- the portfolio a broker should report after some fills

`applyFills` projects a baseline over recorded fills, in the order of their times and
ids.  A buy adds base asset at a size-weighted average price and spends quote asset
plus fee; a sell does the reverse and keeps the average price; a cost basis that is
unknown stays unknown.  A projection that goes negative raises `ValueError`, which is
what the callers handle.

The blend of a buy divides by the quantity it leaves, and a buy that exactly closes a
short leaves none.

* `applied_position` -- what the loop knows of a symbol: the signed sum of its fills,
  and a price where the cost basis is known;
* `applyFills_raises_iff` -- a projection raises something else than `ValueError`
  exactly when some fill closes a short whose cost basis is known.
-/
import Mathlib.Data.List.Sort
import Mathlib.Data.List.TakeWhile
import Mathlib.Data.Rat.Floor
import AlgoTrader.Execution.Store
import AlgoTrader.Theory.Raising

namespace AlgoTrader.Portfolio

open AlgoTrader.Core Brokers Theory

set_option autoImplicit false

structure PortfolioState where
  orders : Dict String Order
  fills : Dict String Fill
  positions : List Position
  balances : List Balance

/-! ## Arithmetic that may raise -/

/-- `left / right`; zero by zero is an invalid operation, any other division by zero is
named for what it is.  Neither is a `ValueError`. -/
def divide (left right : Decimal) : Except Exc Decimal :=
  if right = 0 then
    .error
      { kind := .provider
        typeName := if left = 0 then "InvalidOperation" else "DivisionByZero"
        message := "division by zero" }
  else .ok (left / right)

/-- `to_integral_value(rounding=ROUND_DOWN)`. -/
def truncate (value : Decimal) : Int := if 0 ≤ value then ⌊value⌋ else ⌈value⌉

/-- `_toward_zero`: whole increments, dropping the remainder. -/
def towardZero (amount increment : Decimal) : Except Exc Decimal := do
  let units ← divide amount increment
  return truncate units * increment

/-- `symbol.split("-", maxsplit=1)` into a base and a quote asset. -/
def splitSymbol (symbol : String) : Except Exc (String × String) :=
  match symbol.toList.dropWhile (· ≠ '-') with
  | [] => .error (.valueError "not enough values to unpack (expected 2, got 1)")
  | _ :: quote =>
      .ok (String.ofList (symbol.toList.takeWhile (· ≠ '-')), String.ofList quote)

def Hyphenated (symbol : String) : Prop := '-' ∈ symbol.toList

/-! ## The projection -/

/-- What the loop over the fills keeps.  `exact` are the balances unrounded, so that
rounding a debit down never hides a shortfall. -/
structure Projection where
  positions : Dict String (Decimal × Option Decimal)
  available : Dict String Decimal
  exact : Dict String Decimal

namespace Projection

/-- The quantity of a symbol and its average price, if that is known. -/
def position (p : Projection) (symbol : String) : Decimal × Option Decimal :=
  (p.positions.get? symbol).getD (0, none)

def ofBaseline (baseline : PortfolioState) : Projection where
  positions := .ofList (baseline.positions.map fun item =>
    (item.symbol, item.quantity, item.averagePrice.map Subtype.val))
  available := .ofList (baseline.balances.map fun item => (item.asset, item.available.1))
  exact := .ofList (baseline.balances.map fun item => (item.asset, item.available.1))

end Projection

/-- A change of one balance. -/
structure Leg where
  asset : String
  amount : Decimal

/-- What a fill moves: its base asset, its quote asset, and the asset its fee is paid in. -/
def legs (fill : Fill) (base quote : String) : List Leg :=
  let notional := fill.quantity * fill.price
  match fill.side with
  | .buy => [⟨base, fill.quantity⟩, ⟨quote, -notional⟩, ⟨fill.feeAsset, -fill.fee⟩]
  | .sell => [⟨base, -fill.quantity⟩, ⟨quote, notional⟩, ⟨fill.feeAsset, -fill.fee⟩]

/-- An amount as the venue settles it, in whole increments where its asset has one. -/
def settled (increments : Dict String Decimal) (leg : Leg) : Except Exc Decimal :=
  match increments.get? leg.asset with
  | none => .ok leg.amount
  | some increment => towardZero leg.amount increment

def settle (increments : Dict String Decimal) (leg : Leg) (p : Projection) :
    Except Exc Projection := do
  let amount ← settled increments leg
  return { p with
    exact := p.exact.set leg.asset ((p.exact.get? leg.asset).getD 0 + leg.amount)
    available := p.available.set leg.asset ((p.available.get? leg.asset).getD 0 + amount) }

/-- The quantity and the average price a fill leaves. -/
def blend (fill : Fill) (quantity : Decimal) (average : Option Decimal) :
    Except Exc (Decimal × Option Decimal) :=
  match fill.side with
  | .sell => .ok (quantity - fill.quantity, average)
  | .buy =>
      let notional := fill.quantity * fill.price
      let total := quantity + fill.quantity
      if quantity = 0 then (divide notional total).map fun price => (total, some price)
      else
        match average with
        | some cost => (divide (quantity * cost + notional) total).map fun price => (total, some price)
        -- The cost of what was already held is unknown, so the blend is too.
        | none => .ok (total, none)

def applyFill (increments : Dict String Decimal) (fill : Fill) (p : Projection) :
    Except Exc Projection := do
  let (base, quote) ← splitSymbol fill.symbol
  let moved ← runs (settle increments) (legs fill base quote) p
  let (quantity, average) := p.position fill.symbol
  let position ← blend fill quantity average
  return { moved with positions := moved.positions.set fill.symbol position }

/-- The order fills are applied in: by time, then by id. -/
def Precedes (fill later : Fill) : Prop :=
  fill.occurredAt < later.occurredAt ∨
    fill.occurredAt = later.occurredAt ∧ fill.fillId ≤ later.fillId

instance : DecidableRel Precedes := fun _ _ => instDecidableOr

def inOrder (fills : List Fill) : List Fill := fills.insertionSort Precedes

/-- No balance may be negative, rounded or not. -/
def checkBalances (p : Projection) : Except Exc Unit :=
  match p.available.entries.find? fun e => e.2 < 0 ∨ (p.exact.get? e.1).getD 0 < 0 with
  | some (asset, _) => .error (.valueError s!"projected {asset} balance is negative")
  | none => .ok ()

/-- What the model validators raise; a `ValidationError` is a `ValueError`. -/
def invalid (message : String) : Exc :=
  { kind := .valueError, typeName := "ValidationError", message }

/-- Entries in the order of their keys. -/
def byKey {α : Type} (entries : List (String × α)) : List (String × α) :=
  entries.insertionSort fun a b => a.1 ≤ b.1

def positionOf (now : Timestamp) (entry : String × Decimal × Option Decimal) : Except Exc Position :=
  match entry.2.2 with
  | none => .ok { symbol := entry.1, quantity := entry.2.1, averagePrice := none, asOf := now }
  | some price =>
      if bound : 0 ≤ price then
        .ok { symbol := entry.1, quantity := entry.2.1, averagePrice := some ⟨price, bound⟩, asOf := now }
      else .error (invalid "average_price must not be negative")

def positionsOf (now : Timestamp) (p : Projection) : Except Exc (List Position) :=
  ((byKey p.positions.entries).filter fun e => e.2.1 ≠ 0).mapM (positionOf now)

def holdsOf (baseline : PortfolioState) : Dict String NonNegativeDecimal :=
  .ofList (baseline.balances.map fun item => (item.asset, item.hold))

def balanceOf (now : Timestamp) (holds : Dict String NonNegativeDecimal) (entry : String × Decimal) :
    Except Exc Balance :=
  if bound : 0 ≤ entry.2 then
    .ok { asset := entry.1, available := ⟨entry.2, bound⟩
          hold := (holds.get? entry.1).getD ⟨0, decimal_zero⟩, asOf := now }
  else .error (invalid "available must not be negative")

def balancesOf (now : Timestamp) (holds : Dict String NonNegativeDecimal) (p : Projection) :
    Except Exc (List Balance) :=
  ((byKey p.available.entries).filter fun e =>
    e.2 ≠ 0 ∨ ((holds.get? e.1).getD ⟨0, decimal_zero⟩).1 ≠ 0).mapM (balanceOf now holds)

/-- The positions and balances the broker should report after `fills`. -/
def applyFills (baseline : PortfolioState) (fills : List Fill) (now : Timestamp)
    (increments : Dict String Decimal) : Except Exc PortfolioState := do
  let p ← runs (applyFill increments) (inOrder fills) (.ofBaseline baseline)
  checkBalances p
  let positions ← positionsOf now p
  let balances ← balancesOf now (holdsOf baseline) p
  return { orders := baseline.orders, fills := baseline.fills, positions, balances }

/-! ## What raises, and what it raises -/

/-- Every rounding step is positive. -/
def Positive (increments : Dict String Decimal) : Prop :=
  ∀ asset increment, increments.get? asset = some increment → 0 < increment

theorem divide_ok {left right : Decimal} (nonzero : right ≠ 0) :
    divide left right = .ok (left / right) := by
  rw [divide, if_neg nonzero]

theorem splitSymbol_ok {symbol : String} (hyphenated : Hyphenated symbol) :
    ∃ assets, splitSymbol symbol = .ok assets := by
  unfold splitSymbol
  split
  · rename_i none
    have never := List.dropWhile_eq_nil_iff.1 none _ hyphenated
    simp at never
  · exact ⟨_, rfl⟩

theorem settled_ok {increments : Dict String Decimal} (positive : Positive increments) (leg : Leg) :
    ∃ amount, settled increments leg = .ok amount := by
  unfold settled
  split
  · exact ⟨_, rfl⟩
  · rename_i increment listed
    have nonzero : increment ≠ 0 := ne_of_gt (positive leg.asset increment listed)
    refine ⟨truncate (leg.amount / increment) * increment, ?_⟩
    rw [towardZero, divide_ok nonzero]
    rfl

theorem settle_ok {increments : Dict String Decimal} (positive : Positive increments) (leg : Leg)
    (p : Projection) :
    ∃ moved, settle increments leg p = .ok moved ∧ moved.positions = p.positions := by
  obtain ⟨amount, within⟩ := settled_ok positive leg
  have unfolded : settle increments leg p = (settled increments leg).bind fun amount =>
      .ok { p with
        exact := p.exact.set leg.asset ((p.exact.get? leg.asset).getD 0 + leg.amount)
        available := p.available.set leg.asset ((p.available.get? leg.asset).getD 0 + amount) } := rfl
  rw [unfolded, within]
  exact ⟨_, rfl, rfl⟩

/-- The legs of a fill settle, and touch no position. -/
theorem settles {increments : Dict String Decimal} (positive : Positive increments)
    (moves : List Leg) (p : Projection) :
    ∃ moved, runs (settle increments) moves p = .ok moved ∧ moved.positions = p.positions := by
  induction moves generalizing p with
  | nil => exact ⟨p, runs_nil p, rfl⟩
  | cons leg moves ih =>
      obtain ⟨next, first, same⟩ := settle_ok positive leg p
      obtain ⟨moved, rest, kept⟩ := ih next
      exact ⟨moved, runs_cons_ok.2 ⟨next, first, rest⟩, kept.trans same⟩

/-- A fill raises where the blend of its position does, and otherwise sets that position. -/
theorem applyFill_eq {increments : Dict String Decimal} (positive : Positive increments)
    {fill : Fill} (hyphenated : Hyphenated fill.symbol) (p : Projection) :
    ∃ moved : Projection, moved.positions = p.positions ∧ applyFill increments fill p =
      (blend fill (p.position fill.symbol).1 (p.position fill.symbol).2).map fun position =>
        { moved with positions := moved.positions.set fill.symbol position } := by
  obtain ⟨⟨base, quote⟩, split⟩ := splitSymbol_ok hyphenated
  obtain ⟨moved, settledAll, same⟩ := settles positive (legs fill base quote) p
  refine ⟨moved, same, ?_⟩
  have unfolded : applyFill increments fill p =
      (splitSymbol fill.symbol).bind fun assets =>
        (runs (settle increments) (legs fill assets.1 assets.2) p).bind fun moved =>
          (blend fill (p.position fill.symbol).1 (p.position fill.symbol).2).bind fun position =>
            .ok { moved with positions := moved.positions.set fill.symbol position } := rfl
  rw [unfolded, split]
  show (runs (settle increments) (legs fill base quote) p).bind _ = _
  rw [settledAll]
  cases blend fill (p.position fill.symbol).1 (p.position fill.symbol).2 with
  | error exc => rfl
  | ok position => rfl

/-! ## The position of a symbol -/

/-- What a fill adds to the quantity of its symbol. -/
def signed (fill : Fill) : Decimal :=
  match fill.side with
  | .buy => fill.quantity
  | .sell => -fill.quantity

/-- The quantity of `symbol` after `earlier`: the baseline's and the signed sum of its fills. -/
def held (baseline : PortfolioState) (symbol : String) (earlier : List Fill) : Decimal :=
  ((Projection.ofBaseline baseline).position symbol).1 +
    ((earlier.filter fun fill => fill.symbol = symbol).map signed).sum

/-- The average price of `symbol` is known after `earlier`: the baseline knows it, or some
buy started from nothing. -/
def CostKnown (baseline : PortfolioState) (symbol : String) (earlier : List Fill) : Prop :=
  ((Projection.ofBaseline baseline).position symbol).2.isSome ∨
    ∃ before fill after, earlier = before ++ fill :: after ∧ fill.symbol = symbol ∧
      fill.side = .buy ∧ held baseline symbol before = 0

/-- A buy that leaves nothing of a short whose average price is known. -/
def ClosesShort (baseline : PortfolioState) (earlier : List Fill) (fill : Fill) : Prop :=
  fill.side = .buy ∧ held baseline fill.symbol earlier = -fill.quantity ∧
    CostKnown baseline fill.symbol earlier

theorem held_snoc (baseline : PortfolioState) (symbol : String) (earlier : List Fill) (fill : Fill) :
    held baseline symbol (earlier ++ [fill]) =
      held baseline symbol earlier + if fill.symbol = symbol then signed fill else 0 := by
  unfold held
  by_cases own : fill.symbol = symbol
  · simp [own, add_assoc]
  · simp [own]

theorem costKnown_snoc (baseline : PortfolioState) (symbol : String) (earlier : List Fill)
    (fill : Fill) :
    CostKnown baseline symbol (earlier ++ [fill]) ↔ CostKnown baseline symbol earlier ∨
      fill.symbol = symbol ∧ fill.side = .buy ∧ held baseline symbol earlier = 0 := by
  constructor
  · rintro (known | ⟨before, first, after, split, own, buys, nothing⟩)
    · exact .inl (.inl known)
    · cases after using List.reverseRecOn with
      | nil =>
          obtain ⟨same, last⟩ := List.append_inj' split rfl
          cases last
          subst same
          exact .inr ⟨own, buys, nothing⟩
      | append_singleton after last =>
          rw [← List.cons_append, ← List.append_assoc] at split
          obtain ⟨same, _⟩ := List.append_inj' split rfl
          exact .inl (.inr ⟨before, first, after, same, own, buys, nothing⟩)
  · rintro ((known | ⟨before, first, after, rfl, own, buys, nothing⟩) | ⟨own, buys, nothing⟩)
    · exact .inl known
    · refine .inr ⟨before, first, after ++ [fill], ?_, own, buys, nothing⟩
      rw [List.append_assoc, List.cons_append]
    · exact .inr ⟨earlier, fill, [], rfl, own, buys, nothing⟩

theorem divide_kind {left right : Decimal} {exc : Exc} (raised : divide left right = .error exc) :
    exc.kind = .provider := by
  unfold divide at raised
  split at raised
  · cases raised
    rfl
  · cases raised

/-- A blend raises exactly when a buy leaves nothing of a short with a known price. -/
theorem blend_raises_iff {fill : Fill} {quantity : Decimal} {average : Option Decimal} :
    (∃ exc, blend fill quantity average = .error exc) ↔
      fill.side = .buy ∧ quantity = -fill.quantity ∧ average.isSome := by
  have bought : (0 : Decimal) < fill.quantity := fill.quantity.2
  unfold blend
  cases fill.side with
  | sell => simp
  | buy =>
      by_cases nothing : quantity = 0
      · have total : (fill.quantity : Decimal) ≠ 0 := ne_of_gt bought
        have other : (0 : Decimal) ≠ -fill.quantity := (neg_ne_zero.2 total).symm
        subst nothing
        simp [divide_ok total, Except.map, other]
      · cases average with
        | none => simp [nothing]
        | some cost =>
            by_cases closes : quantity = -fill.quantity
            · simp [closes, divide, Except.map, ne_of_gt bought]
            · have total : quantity + fill.quantity ≠ 0 := by
                intro none
                exact closes (eq_neg_of_add_eq_zero_left none)
              simp [nothing, closes, divide_ok total, Except.map]

theorem blend_kind {fill : Fill} {quantity : Decimal} {average : Option Decimal} {exc : Exc}
    (raised : blend fill quantity average = .error exc) : exc.kind = .provider := by
  have mapped : ∀ {left right : Decimal} {f : Decimal → Decimal × Option Decimal},
      (divide left right).map f = .error exc → exc.kind = .provider := by
    intro left right f failed
    cases here : divide left right with
    | ok value =>
        rw [here] at failed
        cases failed
    | error other =>
        rw [here] at failed
        cases failed
        exact divide_kind here
  unfold blend at raised
  cases side : fill.side with
  | sell =>
      rw [side] at raised
      cases raised
  | buy =>
      rw [side] at raised
      by_cases nothing : quantity = 0
      · rw [if_pos nothing] at raised
        exact mapped raised
      · rw [if_neg nothing] at raised
        cases average with
        | none => cases raised
        | some cost => exact mapped raised

/-- What a fill leaves of the position it found. -/
theorem blend_ok {fill : Fill} {quantity : Decimal} {average : Option Decimal}
    {position : Decimal × Option Decimal} (left : blend fill quantity average = .ok position) :
    position.1 = quantity + signed fill ∧
      (position.2.isSome ↔ average.isSome ∨ fill.side = .buy ∧ quantity = 0) := by
  have mapped : ∀ {num den total : Decimal},
      (divide num den).map (fun price => (total, some price)) = Except.ok position →
        position.1 = total ∧ position.2.isSome := by
    intro num den total here
    cases price : divide num den with
    | error exc =>
        rw [price] at here
        cases here
    | ok value =>
        rw [price] at here
        cases here
        exact ⟨rfl, rfl⟩
  unfold blend at left
  unfold signed
  cases side : fill.side with
  | sell =>
      rw [side] at left
      cases left
      simp [sub_eq_add_neg]
  | buy =>
      rw [side] at left
      by_cases nothing : quantity = 0
      · rw [if_pos nothing] at left
        obtain ⟨total, known⟩ := mapped left
        simp [total, known, nothing]
      · rw [if_neg nothing] at left
        cases average with
        | none =>
            cases left
            simp [nothing]
        | some cost =>
            obtain ⟨total, known⟩ := mapped left
            simp [total, known]

section

variable {increments : Dict String Decimal} (positive : Positive increments)

include positive in
theorem applyFill_raises_iff {fill : Fill} (hyphenated : Hyphenated fill.symbol) {p : Projection} :
    (∃ exc, applyFill increments fill p = .error exc) ↔ fill.side = .buy ∧
      (p.position fill.symbol).1 = -fill.quantity ∧ (p.position fill.symbol).2.isSome := by
  obtain ⟨moved, _, here⟩ := applyFill_eq positive hyphenated p
  rw [here, ← blend_raises_iff]
  cases blend fill (p.position fill.symbol).1 (p.position fill.symbol).2 with
  | error exc => exact ⟨fun _ => ⟨exc, rfl⟩, fun _ => ⟨exc, rfl⟩⟩
  | ok position => simp [Except.map]

include positive in
theorem applyFill_kind {fill : Fill} (hyphenated : Hyphenated fill.symbol) {p : Projection} {exc : Exc}
    (raised : applyFill increments fill p = .error exc) : exc.kind = .provider := by
  obtain ⟨moved, _, here⟩ := applyFill_eq positive hyphenated p
  rw [here] at raised
  cases blended : blend fill (p.position fill.symbol).1 (p.position fill.symbol).2 with
  | error other =>
      rw [blended] at raised
      cases raised
      exact blend_kind blended
  | ok position =>
      rw [blended] at raised
      cases raised

include positive in
theorem applyFill_position {fill : Fill} (hyphenated : Hyphenated fill.symbol) {p p' : Projection}
    (applied : applyFill increments fill p = .ok p') (symbol : String) :
    (p'.position symbol).1 =
        (p.position symbol).1 + (if fill.symbol = symbol then signed fill else 0) ∧
      ((p'.position symbol).2.isSome ↔ (p.position symbol).2.isSome ∨
        fill.symbol = symbol ∧ fill.side = .buy ∧ (p.position symbol).1 = 0) := by
  obtain ⟨moved, same, here⟩ := applyFill_eq positive hyphenated p
  rw [here] at applied
  cases blended : blend fill (p.position fill.symbol).1 (p.position fill.symbol).2 with
  | error exc =>
      rw [blended] at applied
      cases applied
  | ok position =>
      rw [blended] at applied
      cases applied
      by_cases own : fill.symbol = symbol
      · subst own
        have set : Projection.position
            { moved with positions := moved.positions.set fill.symbol position } fill.symbol =
            position := by simp [Projection.position]
        obtain ⟨quantity, known⟩ := blend_ok blended
        rw [set, quantity, known]
        simp
      · have kept : Projection.position
            { moved with positions := moved.positions.set fill.symbol position } symbol =
            p.position symbol := by
          unfold Projection.position
          rw [Dict.get?_set_ne _ _ (Ne.symm own), same]
        rw [kept]
        simp [own]

include positive in
/-- What the loop knows of every symbol after the fills it has applied. -/
theorem applied_position {baseline : PortfolioState} {fills : List Fill}
    (hyphenated : ∀ fill ∈ fills, Hyphenated fill.symbol) {p : Projection}
    (applied : runs (applyFill increments) fills (.ofBaseline baseline) = .ok p) (symbol : String) :
    (p.position symbol).1 = held baseline symbol fills ∧
      ((p.position symbol).2.isSome ↔ CostKnown baseline symbol fills) := by
  refine runs_invariant (fun earlier p => (∀ fill ∈ earlier, Hyphenated fill.symbol) →
    (p.position symbol).1 = held baseline symbol earlier ∧
      ((p.position symbol).2.isSome ↔ CostKnown baseline symbol earlier)) ?_ ?_ applied hyphenated
  · intro _
    constructor
    · simp [held]
    · simp [CostKnown]
  · intro earlier fill p p' so step named
    obtain ⟨quantity, known⟩ := so fun other before => named other (List.mem_append_left _ before)
    have here := applyFill_position positive (named fill (by simp)) step symbol
    rw [held_snoc, costKnown_snoc, ← quantity, ← known]
    exact here

include positive in
/-- The loop raises exactly at a buy that closes a short with a known price. -/
theorem projects_iff {baseline : PortfolioState} {fills : List Fill}
    (hyphenated : ∀ fill ∈ fills, Hyphenated fill.symbol) :
    (∃ exc, runs (applyFill increments) fills (.ofBaseline baseline) = .error exc) ↔
      ∃ before fill after, fills = before ++ fill :: after ∧ ClosesShort baseline before fill := by
  constructor
  · rintro ⟨exc, raised⟩
    obtain ⟨before, fill, after, p, rfl, through, failed⟩ := runs_error.1 raised
    have earlier : ∀ fill ∈ before, Hyphenated fill.symbol := fun other member =>
      hyphenated other (List.mem_append_left _ member)
    have named := hyphenated fill (by simp)
    obtain ⟨quantity, known⟩ := applied_position positive earlier through fill.symbol
    obtain ⟨buys, closes, cost⟩ := (applyFill_raises_iff positive named).1 ⟨exc, failed⟩
    exact ⟨before, fill, after, rfl, buys, quantity ▸ closes, known.1 cost⟩
  · rintro ⟨before, fill, after, rfl, buys, closes, cost⟩
    have earlier : ∀ fill ∈ before, Hyphenated fill.symbol := fun other member =>
      hyphenated other (List.mem_append_left _ member)
    have named := hyphenated fill (by simp)
    cases through : runs (applyFill increments) before (.ofBaseline baseline) with
    | error exc =>
        -- An earlier fill has raised already.
        refine ⟨exc, ?_⟩
        rw [runs_append, through]
        rfl
    | ok p =>
        obtain ⟨quantity, known⟩ := applied_position positive earlier through fill.symbol
        obtain ⟨exc, failed⟩ :=
          (applyFill_raises_iff positive named).2 ⟨buys, quantity.trans closes, known.2 cost⟩
        exact ⟨exc, runs_error.2 ⟨before, fill, after, p, rfl, through, failed⟩⟩

include positive in
theorem project_kind {baseline : PortfolioState} {fills : List Fill}
    (hyphenated : ∀ fill ∈ fills, Hyphenated fill.symbol) {exc : Exc}
    (raised : runs (applyFill increments) fills (.ofBaseline baseline) = .error exc) :
    exc.kind = .provider := by
  obtain ⟨before, fill, after, p, rfl, _, failed⟩ := runs_error.1 raised
  exact applyFill_kind positive (hyphenated fill (by simp)) failed

end

/-! ## The whole projection -/

theorem checkBalances_kind {p : Projection} {exc : Exc} (raised : checkBalances p = .error exc) :
    exc.kind = .valueError := by
  unfold checkBalances at raised
  split at raised
  · cases raised
    rfl
  · cases raised

theorem positionsOf_kind {now : Timestamp} {p : Projection} {exc : Exc}
    (raised : positionsOf now p = .error exc) : exc.kind = .valueError := by
  obtain ⟨entry, _, failed⟩ := mapM_error raised
  unfold positionOf at failed
  split at failed
  · cases failed
  · split at failed
    · cases failed
    · cases failed
      rfl

theorem balancesOf_kind {now : Timestamp} {holds : Dict String NonNegativeDecimal} {p : Projection}
    {exc : Exc} (raised : balancesOf now holds p = .error exc) : exc.kind = .valueError := by
  obtain ⟨entry, _, failed⟩ := mapM_error raised
  unfold balanceOf at failed
  split at failed
  · cases failed
  · cases failed
    rfl

theorem applyFills_eq (baseline : PortfolioState) (fills : List Fill) (now : Timestamp)
    (increments : Dict String Decimal) : applyFills baseline fills now increments =
      (runs (applyFill increments) (inOrder fills) (.ofBaseline baseline)).bind fun p =>
        (checkBalances p).bind fun _ => (positionsOf now p).bind fun positions =>
          (balancesOf now (holdsOf baseline) p).bind fun balances =>
            .ok { orders := baseline.orders, fills := baseline.fills, positions, balances } := rfl

/-- Once every fill is applied, a projection that raises raises a `ValueError`. -/
theorem applyFills_kind {baseline : PortfolioState} {fills : List Fill} {now : Timestamp}
    {increments : Dict String Decimal} {p : Projection} {exc : Exc}
    (applied : runs (applyFill increments) (inOrder fills) (.ofBaseline baseline) = .ok p)
    (raised : applyFills baseline fills now increments = .error exc) : exc.kind = .valueError := by
  rw [applyFills_eq, applied] at raised
  change (checkBalances p).bind _ = _ at raised
  rcases bind_eq_error.1 raised with failed | ⟨_, _, rest⟩
  · exact checkBalances_kind failed
  · rcases bind_eq_error.1 rest with failed | ⟨_, _, rest⟩
    · exact positionsOf_kind failed
    · rcases bind_eq_error.1 rest with failed | ⟨_, _, done⟩
      · exact balancesOf_kind failed
      · cases done

theorem mem_inOrder {fills : List Fill} {fill : Fill} : fill ∈ inOrder fills ↔ fill ∈ fills :=
  (fills.perm_insertionSort Precedes).mem_iff

/-- A projection raises something else than a `ValueError` exactly when, in the order of
times and ids, some buy leaves nothing of a short whose average price is known. -/
theorem applyFills_raises_iff {baseline : PortfolioState} {fills : List Fill} {now : Timestamp}
    {increments : Dict String Decimal} (positive : Positive increments)
    (hyphenated : ∀ fill ∈ fills, Hyphenated fill.symbol) :
    (∀ exc, applyFills baseline fills now increments = .error exc → exc.kind = .valueError) ↔
      ¬∃ before fill after, inOrder fills = before ++ fill :: after ∧
        ClosesShort baseline before fill := by
  have named : ∀ fill ∈ inOrder fills, Hyphenated fill.symbol := fun fill member =>
    hyphenated fill (mem_inOrder.1 member)
  rw [← projects_iff positive named]
  constructor
  · rintro caught ⟨exc, raised⟩
    have escapes : applyFills baseline fills now increments = .error exc := by
      rw [applyFills_eq, raised]
      rfl
    have kind := caught exc escapes
    rw [project_kind positive named raised] at kind
    cases kind
  · intro projects exc raised
    cases applied : runs (applyFill increments) (inOrder fills) (.ofBaseline baseline) with
    | error other => exact absurd ⟨other, applied⟩ projects
    | ok p => exact applyFills_kind applied raised

/-- One coin bought at a hundred. -/
def oneCoin : PortfolioState where
  orders := .empty
  fills := .empty
  positions := [{ symbol := "BTC-USD", quantity := 1, averagePrice := some ⟨100, le_of_lt decimal_hundred⟩, asOf := 0 }]
  balances := []

def coinFill (fillId : String) (side : OrderSide) (quantity : PositiveDecimal) : Fill :=
  { fillId, orderId := ⟨1⟩, symbol := "BTC-USD", side, quantity, price := ⟨100, decimal_hundred⟩
    fee := ⟨0, decimal_zero⟩, feeAsset := "USD", occurredAt := 0 }

/-- Two coins sold and one bought back at the same time, the sale first by its id. -/
def oversold : List Fill :=
  [coinFill "a" .sell ⟨2, two_pos⟩, coinFill "b" .buy ⟨1, decimal_one⟩]

theorem oversold_hyphenated : ∀ fill ∈ oversold, Hyphenated fill.symbol := by
  unfold Hyphenated
  decide

theorem positive_empty : Positive .empty := by
  intro asset increment listed
  cases listed

theorem applyFills_oversold_iff :
    (∀ exc, applyFills oneCoin oversold 0 .empty = .error exc → exc.kind = .valueError) ↔
      ¬∃ before fill after, inOrder oversold = before ++ fill :: after ∧
        ClosesShort oneCoin before fill :=
  applyFills_raises_iff positive_empty oversold_hyphenated

/-- The buy leaves nothing of the short, and its price is divided by that. -/
theorem oversold_divides : (∀ fill ∈ oversold, Hyphenated fill.symbol) ∧ Positive .empty ∧
    ∃ exc, applyFills oneCoin oversold 0 .empty = .error exc ∧ exc.typeName = "InvalidOperation" ∧
      exc.kind ≠ .valueError := by
  refine ⟨oversold_hyphenated, positive_empty, ?_⟩
  have raised : ((applyFills oneCoin oversold 0 .empty).map fun _ => ()).mapError
      (fun exc => (exc.typeName, exc.kind)) = .error ("InvalidOperation", .provider) := by
    decide +kernel
  cases outcome : applyFills oneCoin oversold 0 .empty with
  | ok state =>
      rw [outcome] at raised
      cases raised
  | error exc =>
      rw [outcome] at raised
      have attributes : (exc.typeName, exc.kind) = ("InvalidOperation", ExcClass.provider) :=
        Except.error.inj raised
      obtain ⟨named, kind⟩ := Prod.mk.inj attributes
      refine ⟨exc, rfl, named, ?_⟩
      rw [kind]
      decide

end AlgoTrader.Portfolio
