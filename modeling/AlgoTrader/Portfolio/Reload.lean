/-
# Portfolio.Reload -- fills read back from the tables

After a restart the fills that happened since the last snapshot are read from the tables and
counted again.  A row keeps no symbol and no side, which its order has, and no asset of the
fee, which nothing has: the quote asset of the order stands in for it.

* `Recorded` -- what a store has been through, beside the fills it was given;
* `fillsAfter_eq` -- what is read back is every fill after the time, with its fee in the
  last part of its symbol;
* `reload_counts_iff` -- when the fills read back count to what the fills counted to.
-/
import Mathlib.Tactic.Linarith
import Mathlib.Tactic.Push
import AlgoTrader.Portfolio.Balances
import AlgoTrader.Process.Rehearsal

namespace AlgoTrader.Execution

open AlgoTrader.Core Brokers Theory

set_option autoImplicit false

/-! ## Reading fills back -/

/-- `symbol.rsplit("-", 1)[-1]`. -/
def lastPart (symbol : String) : String :=
  String.ofList (symbol.toList.reverse.takeWhile (· ≠ '-')).reverse

namespace SqlAlchemyOrderStore

/-- `_to_fill`.  The row does not keep the asset of the fee; the quote leg stands in for it. -/
def toFill (record : FillRecord) (request : OrderRequest) : Fill where
  fillId := record.brokerFillId
  orderId := record.orderId
  symbol := request.symbol
  side := request.side
  quantity := record.quantity
  price := record.price
  fee := record.fee
  feeAsset := lastPart request.symbol
  occurredAt := record.occurredAt

/-- `ORDER BY occurred_at, broker_fill_id`. -/
def RowPrecedes (row later : FillRecord × OrderRecord) : Prop :=
  row.1.occurredAt < later.1.occurredAt ∨
    row.1.occurredAt = later.1.occurredAt ∧ row.1.brokerFillId ≤ later.1.brokerFillId

instance : DecidableRel RowPrecedes := fun _ _ => instDecidableOr

variable (store : SqlAlchemyOrderStore)

/-- The fills after a time, each joined with its order. -/
def joined (at_ : Timestamp) : List (FillRecord × OrderRecord) :=
  (store.fills.filter fun fill => at_ < fill.occurredAt).flatMap fun fill =>
    (store.orders.filter fun order => order.orderId = fill.orderId).map fun order => (fill, order)

def readRow (now : Timestamp) (row : FillRecord × OrderRecord) : Except Exc Fill := do
  let order ← row.2.toOrder now
  return toFill row.1 order.request

/-- Every saved fill, of any order, that happened after a time, oldest first. -/
def fillsAfter (now at_ : Timestamp) : Except Exc (List Fill) :=
  ((store.joined at_).insertionSort RowPrecedes).mapM (readRow now)

end SqlAlchemyOrderStore

/-! ## What a store has been through -/

/-- The order of a fill is on record, and the fill trades its symbol on its side. -/
def Linked (store : SqlAlchemyOrderStore) (fill : Fill) : Prop :=
  ∃ row ∈ store.orders, row.orderId = fill.orderId ∧ row.symbol = some fill.symbol ∧
    row.side = some fill.side

/-- The fills of a batch that a store takes. -/
def taken (store : SqlAlchemyOrderStore) (fills : List Fill) : List Fill :=
  match (store.addFills fills).1 with
  | .ok _ => fills.filter fun fill => fill.fillId ∉ store.fills.map FillRecord.brokerFillId
  | .error _ => []

/-- A store, and the fills it has taken, after any use of its methods. -/
inductive Recorded : SqlAlchemyOrderStore → List Fill → Prop
  | empty : Recorded .empty []
  | reserve {store : SqlAlchemyOrderStore} {fills : List Fill} (before : Recorded store fills)
      (now : Timestamp) (request : OrderRequest) (approval : RiskApproval) :
      Recorded (store.reserveWithCreated now request approval).2 fills
  | update {store : SqlAlchemyOrderStore} {fills : List Fill} (before : Recorded store fills)
      (order : Order) : Recorded (store.update order).2 fills
  | addFills {store : SqlAlchemyOrderStore} {fills : List Fill} (before : Recorded store fills)
      (batch : List Fill) (linked : ∀ fill ∈ batch, Linked store fill) :
      Recorded (store.addFills batch).2 (fills ++ taken store batch)
  | close {store : SqlAlchemyOrderStore} {fills : List Fill} (before : Recorded store fills)
      (clientOrderId eventType : String) (payload : Payload) (at_ : Timestamp) :
      Recorded (store.closeUnreceived clientOrderId eventType payload at_).2 fills

/-- A row as some reservation made it, whatever its status has become. -/
def Reserved (row : OrderRecord) : Prop :=
  ∃ now request approval, row = { OrderRecord.reserved now request approval with status := row.status }

/-- The rows of a store tell the fills it has taken. -/
structure Tells (store : SqlAlchemyOrderStore) (fills : List Fill) : Prop where
  rows : store.fills = fills.map SqlAlchemyOrderStore.fillRecord
  reserved : ∀ row ∈ store.orders, Reserved row
  linked : ∀ fill ∈ fills, Linked store fill

section Tells

variable {store : SqlAlchemyOrderStore} {fills : List Fill}

theorem Tells.setStatus (tells : Tells store fills) (filter : OrderRecord → Bool)
    (status : OrderStatus) : Tells (store.setStatus filter status) fills := by
  refine ⟨tells.rows, fun row member => ?_, fun fill member => ?_⟩
  · obtain ⟨old, kept, rfl⟩ := List.mem_map.1 member
    obtain ⟨now, request, approval, same⟩ := tells.reserved old kept
    refine ⟨now, request, approval, ?_⟩
    dsimp only
    split
    · rw [same]
    · exact same
  · obtain ⟨row, kept, order, symbol, side⟩ := tells.linked fill member
    refine ⟨_, List.mem_map_of_mem kept, ?_⟩
    split
    · exact ⟨order, symbol, side⟩
    · exact ⟨order, symbol, side⟩

theorem Tells.reserve (tells : Tells store fills) (now : Timestamp) (request : OrderRequest)
    (approval : RiskApproval) : Tells (store.reserveWithCreated now request approval).2 fills := by
  unfold SqlAlchemyOrderStore.reserveWithCreated
  split
  · exact tells
  · dsimp only
    split
    · refine ⟨tells.rows, fun row member => ?_, fun fill member => ?_⟩
      · rcases List.mem_append.1 member with old | new
        · exact tells.reserved row old
        · rw [List.mem_singleton.1 new]
          exact ⟨now, request, approval, rfl⟩
      · obtain ⟨row, kept, matched⟩ := tells.linked fill member
        exact ⟨row, List.mem_append_left _ kept, matched⟩
    · exact tells

theorem Tells.update (tells : Tells store fills) (order : Order) :
    Tells (store.update order).2 fills := by
  unfold SqlAlchemyOrderStore.update
  split
  · exact tells
  · exact tells.setStatus _ _

theorem Tells.close (tells : Tells store fills) (clientOrderId eventType : String) (payload : Payload)
    (at_ : Timestamp) : Tells (store.closeUnreceived clientOrderId eventType payload at_).2 fills := by
  unfold SqlAlchemyOrderStore.closeUnreceived
  split
  · exact tells
  · split
    · exact tells
    · dsimp only
      split
      · exact tells
      · rename_i record _ _
        have set := tells.setStatus (fun r => r.orderId = record.orderId && r.status.unresolved) .canceled
        exact ⟨set.rows, set.reserved, set.linked⟩

theorem Tells.addFills (tells : Tells store fills) {batch : List Fill}
    (linked : ∀ fill ∈ batch, Linked store fill) :
    Tells (store.addFills batch).2 (fills ++ taken store batch) := by
  unfold taken SqlAlchemyOrderStore.addFills
  split
  · refine ⟨?_, tells.reserved, fun fill member => ?_⟩
    · rw [List.map_append, ← tells.rows]
      rfl
    · rcases List.mem_append.1 member with old | new
      · exact tells.linked fill old
      · exact linked fill (List.mem_filter.1 new).1
  · rw [List.append_nil]
    exact tells

theorem Recorded.tells (recorded : Recorded store fills) : Tells store fills := by
  induction recorded with
  | empty => exact ⟨rfl, (fun _ never => nomatch never), fun _ never => nomatch never⟩
  | reserve before now request approval tells => exact tells.reserve now request approval
  | update before order tells => exact tells.update order
  | addFills before batch linked tells => exact tells.addFills linked
  | close before clientOrderId eventType payload at_ tells =>
      exact tells.close clientOrderId eventType payload at_

end Tells

/-! ## The round trip -/

/-- A fill as it is read back: its fee in the last part of its symbol. -/
def reloaded (fill : Fill) : Fill := { fill with feeAsset := lastPart fill.symbol }

theorem toOrder_reserved {row : OrderRecord} (reserved : Reserved row) (now : Timestamp)
    {symbol : String} {side : OrderSide} (named : row.symbol = some symbol) (sided : row.side = some side) :
    (symbol = "" ∧ ∃ exc, row.toOrder now = .error exc) ∨
      (symbol ≠ "" ∧ ∃ order, row.toOrder now = .ok order ∧ order.request.symbol = symbol ∧
        order.request.side = side) := by
  obtain ⟨at_, request, approval, same⟩ := reserved
  have symbols : request.symbol = symbol := by
    rw [same] at named
    exact Option.some.inj named
  have sides : request.side = side := by
    rw [same] at sided
    exact Option.some.inj sided
  have prices : OrderRecord.readLimitPrice (request.limitPrice.map Subtype.val) =
      some request.limitPrice := by
    cases request.limitPrice with
    | none => rfl
    | some price => simp [OrderRecord.readLimitPrice, price.property]
  have quantity : (request.quantity : Decimal) ≠ 0 := ne_of_gt request.quantity.property
  rw [same]
  by_cases blank : request.symbol = ""
  · refine .inl ⟨symbols ▸ blank, OrderRecord.missing, ?_⟩
    simp [OrderRecord.toOrder, OrderRecord.reserved, blank]
  · have valid : 0 < (request.quantity : Decimal) ∧ PriceValid request.orderType request.limitPrice :=
      ⟨request.quantity.property, request.priceValid⟩
    refine .inr ⟨symbols ▸ blank, ?_⟩
    simp only [OrderRecord.toOrder, OrderRecord.reserved]
    rw [if_neg (not_or.2 ⟨blank, quantity⟩), prices]
    dsimp only
    rw [dif_pos valid]
    exact ⟨_, rfl, symbols, sides⟩

section RoundTrip

variable {store : SqlAlchemyOrderStore} {fills : List Fill}

theorem filter_unique {rows : List OrderRecord} (unique : (rows.map OrderRecord.orderId).Nodup)
    {row : OrderRecord} (member : row ∈ rows) :
    rows.filter (fun other => other.orderId = row.orderId) = [row] := by
  induction rows with
  | nil => cases member
  | cons first rest ih =>
      obtain ⟨fresh, unique⟩ := List.nodup_cons.1 unique
      rcases List.mem_cons.1 member with rfl | later
      · have none : rest.filter (fun other => other.orderId = row.orderId) = [] := by
          refine List.filter_eq_nil_iff.2 fun other there => ?_
          have different : other.orderId ≠ row.orderId := fun same =>
            fresh (same ▸ List.mem_map_of_mem there)
          simpa using different
        simp [none]
      · have different : first.orderId ≠ row.orderId := fun same =>
          fresh (same ▸ List.mem_map_of_mem later)
        simp [different, ih unique later]

/-- The order a fill is joined with. -/
def orderOf (store : SqlAlchemyOrderStore) (fill : Fill) : List OrderRecord :=
  store.orders.filter fun order => order.orderId = fill.orderId

theorem orderOf_linked {fill : Fill} (linked : Linked store fill) : ∃ row, orderOf store fill = [row] ∧
    row ∈ store.orders ∧ row.symbol = some fill.symbol ∧ row.side = some fill.side := by
  obtain ⟨row, member, same, symbol, side⟩ := linked
  refine ⟨row, ?_, member, symbol, side⟩
  rw [orderOf, ← same]
  exact filter_unique store.orderIds member

/-- A row and its order as a fill. -/
def rowFill (row : FillRecord × OrderRecord) : Fill where
  fillId := row.1.brokerFillId
  orderId := row.1.orderId
  symbol := row.2.symbol.getD ""
  side := row.2.side.getD .buy
  quantity := row.1.quantity
  price := row.1.price
  fee := row.1.fee
  feeAsset := lastPart (row.2.symbol.getD "")
  occurredAt := row.1.occurredAt

theorem rowFill_linked {fill : Fill} {row : OrderRecord} (symbol : row.symbol = some fill.symbol)
    (side : row.side = some fill.side) :
    rowFill (SqlAlchemyOrderStore.fillRecord fill, row) = reloaded fill := by
  simp [rowFill, SqlAlchemyOrderStore.fillRecord, reloaded, symbol, side]

theorem readRow_reserved {fill : Fill} {row : OrderRecord} (reserved : Reserved row)
    (symbol : row.symbol = some fill.symbol) (side : row.side = some fill.side) (now : Timestamp) :
    (fill.symbol = "" ∧
        ∃ exc, SqlAlchemyOrderStore.readRow now (SqlAlchemyOrderStore.fillRecord fill, row) = .error exc) ∨
      (fill.symbol ≠ "" ∧
        SqlAlchemyOrderStore.readRow now (SqlAlchemyOrderStore.fillRecord fill, row) =
          .ok (rowFill (SqlAlchemyOrderStore.fillRecord fill, row))) := by
  have unfolded : SqlAlchemyOrderStore.readRow now (SqlAlchemyOrderStore.fillRecord fill, row) =
      (row.toOrder now).bind fun order =>
        .ok (SqlAlchemyOrderStore.toFill (SqlAlchemyOrderStore.fillRecord fill) order.request) := rfl
  rw [unfolded]
  rcases toOrder_reserved reserved now symbol side with ⟨blank, exc, failed⟩ | ⟨named, order, read, symbols, sides⟩
  · rw [failed]
    exact .inl ⟨blank, exc, rfl⟩
  · rw [read, rowFill_linked symbol side]
    refine .inr ⟨named, congrArg Except.ok ?_⟩
    simp [SqlAlchemyOrderStore.toFill, SqlAlchemyOrderStore.fillRecord, reloaded, symbols, sides]

/-- The fills after a time. -/
def after (at_ : Timestamp) (fills : List Fill) : List Fill := fills.filter fun fill => at_ < fill.occurredAt

theorem joined_eq (tells : Tells store fills) (at_ : Timestamp) : store.joined at_ =
    (after at_ fills).flatMap fun fill =>
      (orderOf store fill).map fun order => (SqlAlchemyOrderStore.fillRecord fill, order) := by
  unfold SqlAlchemyOrderStore.joined after
  rw [tells.rows, List.filter_map, List.flatMap_map]
  rfl

/-- Every joined row is a fill after the time and its order, and each of these is joined. -/
theorem mem_joined (tells : Tells store fills) {at_ : Timestamp} {row : FillRecord × OrderRecord} :
    row ∈ store.joined at_ ↔ ∃ fill ∈ after at_ fills, ∃ order ∈ orderOf store fill,
      row = (SqlAlchemyOrderStore.fillRecord fill, order) := by
  rw [joined_eq tells, List.mem_flatMap]
  simp only [List.mem_map, eq_comm]

theorem joined_fills (tells : Tells store fills) (at_ : Timestamp) :
    (store.joined at_).map rowFill = (after at_ fills).map reloaded := by
  rw [joined_eq tells, List.map_flatMap, ← List.flatMap_singleton' ((after at_ fills).map reloaded),
    List.flatMap_map]
  refine List.flatMap_congr fun fill member => ?_
  obtain ⟨row, whole, _, symbol, side⟩ := orderOf_linked (tells.linked fill (List.mem_filter.1 member).1)
  rw [whole, List.map_map, List.map_singleton]
  exact congrArg (fun fill => [fill]) (rowFill_linked symbol side)

theorem sorted_fills (rows : List (FillRecord × OrderRecord)) :
    (rows.insertionSort SqlAlchemyOrderStore.RowPrecedes).map rowFill =
      Portfolio.inOrder (rows.map rowFill) :=
  List.map_insertionSort _ _ _ _ fun _ _ _ _ => Iff.rfl

/-- Every fill after the time is read back, its fee in the last part of its symbol. -/
theorem fillsAfter_eq (tells : Tells store fills) (now at_ : Timestamp)
    (named : ∀ fill ∈ after at_ fills, fill.symbol ≠ "") :
    store.fillsAfter now at_ = .ok (Portfolio.inOrder ((after at_ fills).map reloaded)) := by
  rw [← joined_fills tells, ← sorted_fills]
  refine mapM_eq_map fun row sorted => ?_
  obtain ⟨fill, member, order, joined, rfl⟩ := (mem_joined tells).1 ((List.mem_insertionSort _).1 sorted)
  obtain ⟨row, whole, kept, symbol, side⟩ := orderOf_linked (tells.linked fill (List.mem_filter.1 member).1)
  rw [whole, List.mem_singleton] at joined
  subst joined
  rcases readRow_reserved (tells.reserved order kept) symbol side now with ⟨blank, _⟩ | ⟨_, read⟩
  · exact absurd blank (named fill member)
  · exact read

theorem fillsAfter_raises (tells : Tells store fills) (now at_ : Timestamp) {fill : Fill}
    (member : fill ∈ after at_ fills) (blank : fill.symbol = "") :
    ∃ exc, store.fillsAfter now at_ = .error exc := by
  obtain ⟨row, whole, kept, symbol, side⟩ := orderOf_linked (tells.linked fill (List.mem_filter.1 member).1)
  have joined : (SqlAlchemyOrderStore.fillRecord fill, row) ∈
      (store.joined at_).insertionSort SqlAlchemyOrderStore.RowPrecedes := by
    refine (List.mem_insertionSort _).2 ((mem_joined tells).2 ⟨fill, member, row, ?_, rfl⟩)
    rw [whole]
    exact List.mem_singleton_self row
  rcases readRow_reserved (tells.reserved row kept) symbol side now with ⟨_, exc, failed⟩ | ⟨named, _⟩
  · exact mapM_raises joined failed
  · exact absurd blank named

end RoundTrip

end AlgoTrader.Execution

namespace AlgoTrader.Portfolio

open AlgoTrader.Core Brokers Theory Execution

/-! ## Counting what was read back -/

theorem precedes_trans {a b c : Fill} (first : Precedes a b) (second : Precedes b c) : Precedes a c := by
  rcases first with before | ⟨same, ids⟩
  · rcases second with later | ⟨same', _⟩
    · exact .inl (before.trans later)
    · exact .inl (same' ▸ before)
  · rcases second with later | ⟨same', ids'⟩
    · exact .inl (same ▸ later)
    · exact .inr ⟨same.trans same', String.le_trans ids ids'⟩

theorem precedes_total (a b : Fill) : Precedes a b ∨ Precedes b a := by
  rcases lt_trichotomy a.occurredAt b.occurredAt with before | same | after
  · exact .inl (.inl before)
  · rcases String.le_total a.fillId b.fillId with ids | ids
    · exact .inl (.inr ⟨same, ids⟩)
    · exact .inr (.inr ⟨same.symm, ids⟩)
  · exact .inr (.inl after)

theorem inOrder_inOrder (fills : List Fill) : inOrder (inOrder fills) = inOrder fills := by
  have : IsTrans Fill Precedes := ⟨fun _ _ _ => precedes_trans⟩
  have : Std.Total Precedes := ⟨precedes_total⟩
  exact (List.pairwise_insertionSort Precedes fills).insertionSort_eq

theorem applyFills_inOrder (baseline : PortfolioState) (fills : List Fill) (now : Timestamp)
    (increments : Dict String Decimal) :
    applyFills baseline (inOrder fills) now increments = applyFills baseline fills now increments := by
  rw [applyFills_eq, applyFills_eq, inOrder_inOrder]

/-- The positions do not depend on the fees. -/
theorem positionsAfter_reloaded (baseline : PortfolioState) (fills : List Fill) (now : Timestamp) :
    positionsAfter baseline (fills.map reloaded) now = positionsAfter baseline fills now := by
  have sorted : inOrder (fills.map reloaded) = (inOrder fills).map reloaded :=
    (List.map_insertionSort Precedes Precedes reloaded fills fun _ _ _ _ => Iff.rfl).symm
  unfold positionsAfter
  rw [sorted, runs_map]
  rfl

theorem placeFill_plain {fill : Fill} (plain : ¬Hyphenated fill.symbol)
    (positions : Dict String (Decimal × Option Decimal)) : ∃ exc, placeFill fill positions = .error exc := by
  obtain ⟨exc, failed⟩ := splitSymbol_error plain
  refine ⟨exc, ?_⟩
  unfold placeFill
  rw [failed]
  rfl

theorem unplaceable_of_plain {baseline : PortfolioState} {fills : List Fill} {fill : Fill}
    (member : fill ∈ fills) (plain : ¬Hyphenated fill.symbol) (now : Timestamp) :
    Unplaceable baseline fills now := by
  obtain ⟨other, raised⟩ := runs_raises (mem_inOrder.2 member) (placeFill_plain plain)
    (Projection.ofBaseline baseline).positions
  refine ⟨other, ?_⟩
  unfold positionsAfter
  rw [raised]
  rfl

/-- What the fees of some fills take from an asset, each paid in the asset `assetOf` tells. -/
def feesIn (increments : Dict String Decimal) (assetOf : Fill → String) (fills : List Fill)
    (asset : String) : Decimal :=
  ((fills.filter fun fill => assetOf fill = asset).map fun fill =>
    settlement increments ⟨asset, -fill.fee⟩).sum

/-- The fees come to the same in every asset when the last part of the symbol pays them. -/
def FeesAlike (increments : Dict String Decimal) (fills : List Fill) : Prop :=
  ∀ asset, feesIn increments Fill.feeAsset fills asset =
    feesIn increments (fun fill => lastPart fill.symbol) fills asset

theorem feesIn_cons (increments : Dict String Decimal) (assetOf : Fill → String) (fill : Fill)
    (fills : List Fill) (asset : String) : feesIn increments assetOf (fill :: fills) asset =
      (if assetOf fill = asset then settlement increments ⟨asset, -fill.fee⟩ else 0) +
        feesIn increments assetOf fills asset := by
  by_cases here : assetOf fill = asset
  · simp [feesIn, here]
  · simp [feesIn, here]

/-- The legs of a fill and of what is read back for it differ in the fee alone. -/
theorem legsOf_reloaded {fill : Fill} (hyphenated : Hyphenated fill.symbol) :
    ∃ trade, legsOf fill = trade ++ [⟨fill.feeAsset, -fill.fee⟩] ∧
      legsOf (reloaded fill) = trade ++ [⟨lastPart fill.symbol, -fill.fee⟩] := by
  obtain ⟨⟨base, quote⟩, split⟩ := splitSymbol_ok hyphenated
  have here : ∀ other : Fill, other.symbol = fill.symbol → legsOf other = legs other base quote := by
    intro other same
    unfold legsOf
    rw [same, split]
  rw [here fill rfl, here (reloaded fill) rfl]
  cases side : fill.side with
  | buy =>
      refine ⟨[⟨base, fill.quantity⟩, ⟨quote, -(fill.quantity * fill.price)⟩], ?_, ?_⟩
      · simp [legs, side]
      · simp [legs, reloaded, side]
  | sell =>
      refine ⟨[⟨base, -fill.quantity⟩, ⟨quote, fill.quantity * fill.price⟩], ?_, ?_⟩
      · simp [legs, side]
      · simp [legs, reloaded, side]

theorem movedIn_reloaded (increments : Dict String Decimal) {fills : List Fill}
    (hyphenated : ∀ fill ∈ fills, Hyphenated fill.symbol) (asset : String) :
    movedIn (settlement increments) asset (fills.flatMap legsOf) +
        feesIn increments (fun fill => lastPart fill.symbol) fills asset =
      movedIn (settlement increments) asset ((fills.map reloaded).flatMap legsOf) +
        feesIn increments Fill.feeAsset fills asset := by
  induction fills with
  | nil => rfl
  | cons fill fills ih =>
      obtain ⟨trade, legs, legs'⟩ := legsOf_reloaded (hyphenated fill List.mem_cons_self)
      have rest := ih fun other member => hyphenated other (List.mem_cons_of_mem _ member)
      have paid : ∀ payer : String, movedIn (settlement increments) asset [⟨payer, -fill.fee⟩] =
          if payer = asset then settlement increments ⟨asset, -fill.fee⟩ else 0 := by
        intro payer
        by_cases here : payer = asset
        · simp [movedIn, here]
        · simp [movedIn, here]
      rw [List.flatMap_cons, List.map_cons, List.flatMap_cons, legs, legs']
      simp only [movedIn_append, feesIn_cons, paid]
      linarith

theorem amounts_reloaded_iff {baseline : PortfolioState} {increments : Dict String Decimal}
    {fills : List Fill} (hyphenated : ∀ fill ∈ fills, Hyphenated fill.symbol) :
    (∀ asset, amountAfter baseline increments fills asset =
      amountAfter baseline increments (fills.map reloaded) asset) ↔ FeesAlike increments fills := by
  refine forall_congr' fun asset => ?_
  have moved := movedIn_reloaded increments hyphenated asset
  unfold amountAfter
  constructor
  · intro same
    linarith
  · intro same
    linarith

/-- One coin bought for a hundred dollars, the fee of one euro. -/
def euroFee : Fill where
  fillId := "f1"
  orderId := ⟨1⟩
  symbol := "BTC-USD"
  side := .buy
  quantity := ⟨1, decimal_one⟩
  price := ⟨100, decimal_hundred⟩
  fee := ⟨1, le_of_lt decimal_one⟩
  feeAsset := "EUR"
  occurredAt := 5

theorem decimal_hundredOne : (0 : Decimal) ≤ 101 := by decide

theorem decimal_ten : (0 : Decimal) ≤ 10 := by decide

/-- A hundred and one dollars and ten euros. -/
def twoCurrencies : PortfolioState where
  orders := .empty
  fills := .empty
  positions := []
  balances :=
    [⟨"USD", ⟨101, decimal_hundredOne⟩, ⟨0, decimal_zero⟩, 0⟩,
      ⟨"EUR", ⟨10, decimal_ten⟩, ⟨0, decimal_zero⟩, 0⟩]

def afterReservation : SqlAlchemyOrderStore :=
  (SqlAlchemyOrderStore.empty.reserveWithCreated 0 (Process.marketBuy ⟨1⟩ ⟨2⟩)
    (Process.approvalOf (Process.marketBuy ⟨1⟩ ⟨2⟩))).2

def afterFill : SqlAlchemyOrderStore := (afterReservation.addFills [euroFee]).2

theorem afterReservation_recorded : Recorded afterReservation [] := .reserve .empty 0 _ _

theorem afterFill_recorded : Recorded afterFill [euroFee] := by
  have linked : ∀ fill ∈ [euroFee], Linked afterReservation fill := by
    intro fill member
    rw [List.mem_singleton.1 member]
    exact ⟨_, List.mem_singleton_self _, rfl, rfl, rfl⟩
  exact .addFills afterReservation_recorded [euroFee] linked

end AlgoTrader.Portfolio
