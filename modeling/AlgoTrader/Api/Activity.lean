/-
# Api.Activity -- the markers of a market tile

`_market_activity_for_symbol` counts the signals, orders and fills of a symbol within a window,
reads the newest of each kind, and shows the newest of all of them, oldest first.

* `activity` -- every row a tile is about, none of them cut off;
* `rows_eq` -- what is read of each kind are its newest rows, in the page's own order;
* `visible_eq` -- so what is shown are the newest of all (`Keyset.newest_flatten`);
* `activity_shown` -- for a symbol that may be shown; another one is shown an empty tile
  (`activity_of_other_symbol`).

The identifiers of one kind are compared by the database as they are by the page.
-/
import Mathlib.Data.List.Find
import AlgoTrader.Brokers.Json
import AlgoTrader.Theory.Newest
import AlgoTrader.Api.HistoryPages

namespace AlgoTrader.Api.Activity

open AlgoTrader.Core
open AlgoTrader.Theory.Keyset

set_option autoImplicit false

/-! ## The tables -/

structure SignalRecord where
  signalId : Uuid
  symbol : String
  side : String
  createdAt : Timestamp

structure OrderRecord where
  orderId : Uuid
  signalId : Uuid
  clientOrderId : Uuid
  symbol : Option String
  side : Option String
  limitPrice : Option Decimal
  createdAt : Timestamp

structure FillRecord where
  fillId : Uuid
  orderId : Uuid
  price : Decimal
  occurredAt : Timestamp

/-- The tables; no two rows of one have the same primary key. -/
structure Tables where
  signals : List SignalRecord
  orders : List OrderRecord
  fills : List FillRecord
  uniqueSignals : (signals.map SignalRecord.signalId).Nodup
  uniqueOrders : (orders.map OrderRecord.orderId).Nodup
  uniqueFills : (fills.map FillRecord.fillId).Nodup

/-! ## Rows -/

inductive Kind where
  | signal
  | order
  | fill
  deriving DecidableEq

def Kind.label : Kind → String
  | .signal => "Signal"
  | .order => "Order"
  | .fill => "Fill"

def Kind.priority : Kind → Nat
  | .signal => 0
  | .order => 1
  | .fill => 2

/-- Where a marker leads: to its order, or to the signals of the symbol since its time. -/
inductive Href where
  | order (clientOrderId : Uuid)
  | signals (symbol : String) (since until_ : Timestamp)

structure ActivityRow where
  id : Uuid
  kind : Kind
  label : String
  at_ : Timestamp
  symbol : String
  side : OrderSide
  price : Option Decimal
  clientOrderId : Option Uuid
  href : Href

structure ActivityTile where
  symbol : String
  total : Nat
  shown : Nat
  truncated : Bool
  rows : List ActivityRow

def activityMaxRows : Nat := 100

/-- `_activity_side`. -/
def activitySide (value : Option String) : OrderSide :=
  if Brokers.lower (value.getD "") = "sell" then .sell else .buy

/-- What `signal_orders` finds: of several orders of a signal the last one. -/
def signalOrder (orders : List OrderRecord) (signal : SignalRecord) : Option OrderRecord :=
  orders.reverse.find? fun order => order.signalId = signal.signalId

def signalRow (orders : List OrderRecord) (symbol : String) (until_ : Timestamp) (signal : SignalRecord) :
    ActivityRow :=
  let clientOrderId := (signalOrder orders signal).map OrderRecord.clientOrderId
  { id := signal.signalId
    kind := .signal
    label := Kind.signal.label
    at_ := signal.createdAt
    symbol
    side := activitySide (some signal.side)
    price := none
    clientOrderId
    href := clientOrderId.elim (.signals symbol signal.createdAt until_) .order }

def orderRow (symbol : String) (order : OrderRecord) : ActivityRow :=
  { id := order.orderId
    kind := .order
    label := Kind.order.label
    at_ := order.createdAt
    symbol
    side := activitySide order.side
    price := order.limitPrice
    clientOrderId := some order.clientOrderId
    href := .order order.clientOrderId }

def fillRow (symbol : String) (joined : FillRecord × OrderRecord) : ActivityRow :=
  { id := joined.1.fillId
    kind := .fill
    label := Kind.fill.label
    at_ := joined.1.occurredAt
    symbol
    side := activitySide joined.2.side
    price := some joined.1.price
    clientOrderId := some joined.2.clientOrderId
    href := .order joined.2.clientOrderId }

/-! ## The tile -/

namespace Tables

variable (db : Tables) (symbol : String) (since until_ : Timestamp)

/-- `signal_window`. -/
def signalsIn : List SignalRecord :=
  db.signals.filter fun signal => signal.symbol = symbol ∧ since ≤ signal.createdAt ∧ signal.createdAt < until_

/-- `order_window`. -/
def ordersIn : List OrderRecord :=
  db.orders.filter fun order => order.symbol = some symbol ∧ since ≤ order.createdAt ∧ order.createdAt < until_

/-- The fills joined with their orders. -/
def joined : List (FillRecord × OrderRecord) :=
  db.fills.filterMap fun fill =>
    (db.orders.find? fun order => order.orderId = fill.orderId).map fun order => (fill, order)

/-- `fill_window`. -/
def fillsIn : List (FillRecord × OrderRecord) :=
  db.joined.filter fun joined =>
    joined.2.symbol = some symbol ∧ since ≤ joined.1.occurredAt ∧ joined.1.occurredAt < until_

end Tables

/-- `(row["_at"], priority[row["kind"]], row["id"])`. -/
def sortKey (row : ActivityRow) : Timestamp ×ₗ Nat ×ₗ Uuid :=
  toLex (row.at_, toLex (row.kind.priority, row.id))

section Tile

variable [LinearOrder Uuid] (db : Tables) (symbol : String) (since until_ : Timestamp)

def readSignals : List SignalRecord :=
  newest (fun signal => toLex (signal.createdAt, signal.signalId)) (activityMaxRows + 1)
    (db.signalsIn symbol since until_)

def readOrders : List OrderRecord :=
  newest (fun order => toLex (order.createdAt, order.orderId)) (activityMaxRows + 1)
    (db.ordersIn symbol since until_)

def readFills : List (FillRecord × OrderRecord) :=
  newest (fun joined => toLex (joined.1.occurredAt, joined.1.fillId)) (activityMaxRows + 1)
    (db.fillsIn symbol since until_)

/-- The rows before they are sorted. -/
def readRows : List ActivityRow :=
  let signals := readSignals db symbol since until_
  let signalOrders := db.orders.filter fun order => order.signalId ∈ signals.map SignalRecord.signalId
  signals.map (signalRow signalOrders symbol until_) ++
    (readOrders db symbol since until_).map (orderRow symbol) ++
    (readFills db symbol since until_).map (fillRow symbol)

/-- `_market_activity_for_symbol`. -/
def marketActivityForSymbol (allowed : Option (List String)) : ActivityTile :=
  if allowed.any fun symbols => !symbols.contains symbol then ⟨symbol, 0, 0, false, []⟩
  else
    let total := (db.signalsIn symbol since until_).length + (db.ordersIn symbol since until_).length +
      (db.fillsIn symbol since until_).length
    let rows := oldestFirst sortKey (readRows db symbol since until_)
    let truncated := decide (activityMaxRows < total)
    let visible := if truncated then rows.drop (rows.length - activityMaxRows) else rows
    ⟨symbol, total, visible.length, truncated, visible⟩

end Tile

/-! ## What it shows -/

section Union

variable (db : Tables) (symbol : String) (since until_ : Timestamp)

/-- The rows of each kind in the window. -/
def kinds : List (List ActivityRow) :=
  [(db.signalsIn symbol since until_).map (signalRow db.orders symbol until_),
    (db.ordersIn symbol since until_).map (orderRow symbol),
    (db.fillsIn symbol since until_).map (fillRow symbol)]

/-- The union of the three kinds. -/
def activity : List ActivityRow := (kinds db symbol since until_).flatten

variable {db symbol since until_}

theorem length_activity : (activity db symbol since until_).length =
    (db.signalsIn symbol since until_).length + (db.ordersIn symbol since until_).length +
      (db.fillsIn symbol since until_).length := by
  simp only [activity, kinds, List.flatten_cons, List.flatten_nil, List.append_nil, List.length_append,
    List.length_map, Nat.add_assoc]

theorem keys_nodup {rows : List ActivityRow} (unique : (rows.map ActivityRow.id).Nodup) :
    (rows.map sortKey).Nodup := by
  refine List.Nodup.of_map (fun key => (ofLex (ofLex key).2).2) ?_
  rw [List.map_map]
  exact unique

/-- Rows of two kinds stand in different places. -/
theorem keys_disjoint {rows rows' : List ActivityRow} {kind kind' : Kind} (all : ∀ a ∈ rows, a.kind = kind)
    (all' : ∀ a ∈ rows', a.kind = kind') (apart : kind.priority ≠ kind'.priority) :
    List.Disjoint (rows.map sortKey) (rows'.map sortKey) := by
  intro key here there
  obtain ⟨a, inside, rfl⟩ := List.mem_map.1 here
  obtain ⟨b, inside', same⟩ := List.mem_map.1 there
  have priority : b.kind.priority = a.kind.priority := congrArg (fun key => (ofLex (ofLex key).2).1) same
  rw [all a inside, all' b inside'] at priority
  exact apart priority.symm

theorem joined_sublist (db : Tables) : (db.joined.map Prod.fst).Sublist db.fills := by
  unfold Tables.joined
  induction db.fills with
  | nil => exact List.Sublist.slnil
  | cons fill rest ih =>
      rw [List.filterMap_cons]
      cases db.orders.find? fun order => order.orderId = fill.orderId with
      | none => exact ih.trans (List.sublist_cons_self ..)
      | some order => exact ih.cons_cons fill

/-- No two rows stand in one place. -/
theorem activity_distinct : ((activity db symbol since until_).map sortKey).Nodup := by
  have signals : ((db.signalsIn symbol since until_).map SignalRecord.signalId).Nodup :=
    (List.filter_sublist.map _).nodup db.uniqueSignals
  have orders : ((db.ordersIn symbol since until_).map OrderRecord.orderId).Nodup :=
    (List.filter_sublist.map _).nodup db.uniqueOrders
  have fills : ((db.fillsIn symbol since until_).map fun joined => joined.1.fillId).Nodup := by
    have all : (db.joined.map fun joined => joined.1.fillId).Nodup := by
      have mapped := ((joined_sublist db).map FillRecord.fillId).nodup db.uniqueFills
      rw [List.map_map] at mapped
      exact mapped
    exact (List.filter_sublist.map _).nodup all
  have kind {ρ : Type} {row : ρ → ActivityRow} {kind : Kind} {rows : List ρ} (is : ∀ r, (row r).kind = kind) :
      ∀ a ∈ rows.map row, a.kind = kind := List.forall_mem_map.2 fun r _ => is r
  unfold activity kinds
  simp only [List.flatten_cons, List.flatten_nil, List.append_nil, List.map_append]
  refine List.nodup_append'.2 ⟨keys_nodup (by rwa [List.map_map]), List.nodup_append'.2
    ⟨keys_nodup (by rwa [List.map_map]), keys_nodup (by rwa [List.map_map]), ?_⟩, ?_⟩
  · exact keys_disjoint (kind fun _ => rfl) (kind fun _ => rfl) (by decide : Kind.order.priority ≠ Kind.fill.priority)
  · refine List.disjoint_append_right.2 ⟨?_, ?_⟩
    · exact keys_disjoint (kind fun _ => rfl) (kind fun _ => rfl)
        (by decide : Kind.signal.priority ≠ Kind.order.priority)
    · exact keys_disjoint (kind fun _ => rfl) (kind fun _ => rfl)
        (by decide : Kind.signal.priority ≠ Kind.fill.priority)

/-- The order of a signal is found among those of the signals that were read. -/
theorem signalOrder_filter {orders : List OrderRecord} {signals : List SignalRecord} {signal : SignalRecord}
    (read : signal ∈ signals) :
    signalOrder (orders.filter fun order => order.signalId ∈ signals.map SignalRecord.signalId) signal =
      signalOrder orders signal := by
  unfold signalOrder
  rw [← List.filter_reverse, List.find?_filter]
  refine List.find?_congr fun order _ => ?_
  by_cases own : order.signalId = signal.signalId
  · have among : ∃ read ∈ signals, read.signalId = signal.signalId := ⟨signal, read, rfl⟩
    simpa [own] using among
  · simp [own]

end Union

section Shown

variable [LinearOrder Uuid]

/-- The tile holds the newest of these rows, oldest first, and says how many there are. -/
structure Shows (all : List ActivityRow) (tile : ActivityTile) : Prop where
  ascending : tile.rows.Pairwise fun a b => sortKey a < sortKey b
  count : tile.rows.length = min all.length activityMaxRows
  newest : ∃ missing, (missing ++ tile.rows).Perm all ∧
    ∀ old ∈ missing, ∀ row ∈ tile.rows, sortKey old < sortKey row
  total : tile.total = all.length
  shown : tile.shown = tile.rows.length
  truncated : tile.truncated = true ↔ tile.rows.length < tile.total

variable {db : Tables} {symbol : String} {since until_ : Timestamp}

/-- Within one kind the page sorts as the database does. -/
theorem newest_rows {ρ : Type} {pos : ρ → Timestamp ×ₗ Uuid} {row : ρ → ActivityRow}
    (same : ∀ r r', (row r).kind = (row r').kind) (stands : ∀ r, pos r = toLex ((row r).at_, (row r).id))
    (limit : Nat) (rows : List ρ) : (newest pos limit rows).map row = newest sortKey limit (rows.map row) := by
  refine newest_map (fun a b => ?_) limit rows
  simp only [stands, sortKey, Prod.Lex.toLex_le_toLex, same a b, lt_self_iff_false, true_and, false_or]

/-- What is read of each kind are its newest rows. -/
theorem rows_eq : readRows db symbol since until_ =
    ((kinds db symbol since until_).map (newest sortKey (activityMaxRows + 1))).flatten := by
  have signals : (readSignals db symbol since until_).map (signalRow db.orders symbol until_) =
      newest sortKey (activityMaxRows + 1)
        ((db.signalsIn symbol since until_).map (signalRow db.orders symbol until_)) :=
    newest_rows (fun _ _ => rfl) (fun _ => rfl) _ _
  have orders : (readOrders db symbol since until_).map (orderRow symbol) =
      newest sortKey (activityMaxRows + 1) ((db.ordersIn symbol since until_).map (orderRow symbol)) :=
    newest_rows (fun _ _ => rfl) (fun _ => rfl) _ _
  have fills : (readFills db symbol since until_).map (fillRow symbol) =
      newest sortKey (activityMaxRows + 1) ((db.fillsIn symbol since until_).map (fillRow symbol)) :=
    newest_rows (fun _ _ => rfl) (fun _ => rfl) _ _
  have found : (readSignals db symbol since until_).map (signalRow
      (db.orders.filter fun order => order.signalId ∈
        (readSignals db symbol since until_).map SignalRecord.signalId) symbol until_) =
      (readSignals db symbol since until_).map (signalRow db.orders symbol until_) :=
    List.map_congr_left fun signal read => by rw [signalRow, signalOrder_filter read, signalRow]
  unfold readRows kinds
  dsimp only
  rw [found, signals, orders, fills]
  simp only [List.map_cons, List.map_nil, List.flatten_cons, List.flatten_nil, List.append_nil, List.append_assoc]

theorem readRows_perm : ∃ dropped, (readRows db symbol since until_ ++ dropped).Perm
    (activity db symbol since until_) := by
  rw [rows_eq]
  exact ⟨_, cut_perm sortKey (activityMaxRows + 1) (kinds db symbol since until_)⟩

/-! ## The tile as the newest rows -/

/-- The last rows of those that were read are the newest of all. -/
theorem visible_eq : (oldestFirst sortKey (readRows db symbol since until_)).drop
      ((oldestFirst sortKey (readRows db symbol since until_)).length - activityMaxRows) =
    (newest sortKey activityMaxRows (activity db symbol since until_)).reverse := by
  obtain ⟨dropped, perm⟩ := @readRows_perm _ db symbol since until_
  have distinct : ((readRows db symbol since until_).map sortKey).Nodup := by
    have all := (perm.map sortKey).nodup_iff.2 activity_distinct
    rw [List.map_append] at all
    exact (List.nodup_append'.1 all).1
  have cut : newest sortKey activityMaxRows (activity db symbol since until_) =
      newest sortKey activityMaxRows (readRows db symbol since until_) := by
    rw [rows_eq]
    exact newest_flatten (Nat.le_succ _) activity_distinct
  rw [cut, oldestFirst_eq distinct, List.drop_reverse, List.length_reverse, newest]
  congr 1
  rcases Nat.le_total (newestFirst sortKey (readRows db symbol since until_)).length activityMaxRows with few | many
  · rw [List.take_of_length_le few, Nat.sub_eq_zero_of_le few, Nat.sub_zero, List.take_length]
  · rw [Nat.sub_sub_self many]

theorem visible_shows {rows : List ActivityRow}
    (shown : rows = (newest sortKey activityMaxRows (activity db symbol since until_)).reverse) :
    Shows (activity db symbol since until_) ⟨symbol, (activity db symbol since until_).length, rows.length,
      decide (activityMaxRows < (activity db symbol since until_).length), rows⟩ := by
  have count : rows.length = min (activity db symbol since until_).length activityMaxRows := by
    rw [shown, List.length_reverse, length_newest, Nat.min_comm]
  refine ⟨?_, count, ⟨older sortKey activityMaxRows (activity db symbol since until_), ?_, ?_⟩, rfl, rfl, ?_⟩
  · dsimp only
    rw [shown]
    exact List.pairwise_reverse.2 ((newestFirst_descending activity_distinct).sublist (List.take_sublist _ _))
  · dsimp only
    rw [shown]
    exact (List.perm_append_comm.trans ((List.reverse_perm _).append_right _)).trans (newest_perm ..)
  · intro old missing row member
    dsimp only at member
    rw [shown, List.mem_reverse] at member
    exact older_lt_newest activity_distinct row member old missing
  · dsimp only
    rw [count, decide_eq_true_iff]
    omega

/-- **What a tile shows.** For a symbol that may be shown, the newest rows of the signals, orders and
fills in the window, oldest first, as many as fit; the total is that of all of them, and the tile is
marked truncated exactly where rows are missing.  Another symbol is shown nothing. -/
theorem activity_shown (db : Tables) (symbol : String) (since until_ : Timestamp)
    (allowed : Option (List String)) :
    ((∀ symbols ∈ allowed, symbol ∈ symbols) →
      Shows (activity db symbol since until_) (marketActivityForSymbol db symbol since until_ allowed)) ∧
    (∀ symbols ∈ allowed, symbol ∉ symbols →
      marketActivityForSymbol db symbol since until_ allowed = ⟨symbol, 0, 0, false, []⟩) := by
  constructor
  · intro admitted
    have shown : ¬ allowed.any (fun symbols => !symbols.contains symbol) = true := by
      cases allowed with
      | none => exact Bool.false_ne_true
      | some symbols =>
          have inside : symbols.contains symbol = true := List.contains_iff_mem.2 (admitted symbols rfl)
          rw [Option.any_some, inside]
          exact Bool.false_ne_true
    unfold marketActivityForSymbol
    rw [if_neg shown, ← length_activity]
    refine visible_shows ?_
    rw [← visible_eq]
    split
    · rfl
    · rename_i few
      -- All rows were read, and none is cut off.
      have short : (oldestFirst sortKey (readRows db symbol since until_)).length ≤ activityMaxRows := by
        obtain ⟨dropped, perm⟩ := @readRows_perm _ db symbol since until_
        have read := perm.length_eq
        have sorted : (oldestFirst sortKey (readRows db symbol since until_)).length =
            (readRows db symbol since until_).length := (List.perm_insertionSort _ _).length_eq
        rw [List.length_append] at read
        rw [decide_eq_true_iff] at few
        omega
      rw [Nat.sub_eq_zero_of_le short, List.drop_zero]
  · rintro symbols listed other
    obtain rfl := Option.mem_def.1 listed
    have hidden : (some symbols).any (fun symbols => !symbols.contains symbol) = true := by
      rw [Option.any_some, Bool.not_eq_true', ← Bool.not_eq_true, List.contains_iff_mem]
      exact other
    unfold marketActivityForSymbol
    rw [if_pos hidden]

end Shown

/-! ## A symbol that is only watched -/

/-- An order of a symbol, and nothing else. -/
def oneOrder : Tables where
  signals := []
  orders := [⟨⟨1⟩, ⟨2⟩, ⟨3⟩, some "ETH-USD", some "buy", none, 60⟩]
  fills := []
  uniqueSignals := List.nodup_nil
  uniqueOrders := List.nodup_singleton _
  uniqueFills := List.nodup_nil

theorem activity_shown_order : (@marketActivityForSymbol History.byNumber oneOrder "ETH-USD" 0 100
    (some ["BTC-USD", "ETH-USD"])).total = 1 := by
  let _ := History.byNumber
  have shows := (activity_shown oneOrder "ETH-USD" 0 100 (some ["BTC-USD", "ETH-USD"])).1 (by simp)
  exact shows.total.trans (by decide)

/-- The tile of a symbol that is not traded is empty, whatever the tables hold of it. -/
theorem activity_of_other_symbol : ¬ @Shows History.byNumber (activity oneOrder "ETH-USD" 0 100)
    (@marketActivityForSymbol History.byNumber oneOrder "ETH-USD" 0 100 (some ["BTC-USD"])) := by
  intro shows
  have total := @Shows.total History.byNumber _ _ shows
  revert total
  decide

end AlgoTrader.Api.Activity
