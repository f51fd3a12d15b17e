/-
# Execution.VenueFills -- from the venue's trade rows to the store

An adapter turns each trade row of an order into a fill; the engine links the fills to the
saved order and stores those whose id is new.  A row without an id of its own falls to one made
of the order and the price, which other rows may fall to as well.

* `recordRead_again` -- reading the same rows again stores nothing more;
* `stored_all_iff` -- after any number of reads the order's quantities are all stored exactly
  where no two rows fall to one id, and none to an id on record.
-/
import AlgoTrader.Brokers.Coinbase
import AlgoTrader.Brokers.Gemini
import AlgoTrader.Core.Text
import AlgoTrader.Execution.FillCoverage
import AlgoTrader.Theory.Raising

namespace AlgoTrader.Brokers

open AlgoTrader.Core Theory

set_option autoImplicit false

/-! ## A row as a fill -/

/-- What a model keeps of a text: `str_strip_whitespace`. -/
def trimmed (text : String) : String :=
  String.ofList ((text.toList.dropWhile Text.isBlank).reverse.dropWhile Text.isBlank).reverse

def positive (field : String) (value : Decimal) : Except Exc PositiveDecimal :=
  if bound : 0 < value then .ok ⟨value, bound⟩ else .error (refused field)

/-- The id a row without one falls to. -/
def fallbackId (raw : Json) (order : Order) : Json :=
  .string (order.orderId.str ++ "-" ++ (raw.get "price").str)

/-- `Fill(...)`, of what was read of a row. -/
def validFill (order : Order) (fillId : String) (quantity price fee : Decimal) (feeAsset : String)
    (occurredAt : Timestamp) : Except Exc Fill := do
  let quantity ← positive "quantity" quantity
  let price ← positive "price" price
  let fee ← nonNegative "fee" fee
  return {
    fillId, orderId := order.orderId, symbol := order.request.symbol, side := order.request.side
    quantity, price, fee, feeAsset := trimmed feeAsset, occurredAt }

namespace Coinbase

/-- `fill_id`; an `entry_id` is unique per fill, a `trade_id` repeats for adjusted fills. -/
def fillId (raw : Json) (order : Order) : String :=
  trimmed ((((raw.get "entry_id").or (raw.get "trade_id")).or (raw.get "fill_id")).or
    (fallbackId raw order)).str

def fillSize (raw : Json) : Except Exc Decimal :=
  decimalOr leastSize ((raw.get "size").or (raw.get "quantity"))

/-- `_coinbase_fill`. -/
def fill (lib : Library) (now : Timestamp) (raw : Json) (order : Order) : Except Exc Fill := do
  let quantity ← fillSize raw
  let price ← decimalOr leastSize (raw.get "price")
  let fee ← decimalOr 0 ((raw.get "commission").or (raw.get "fee"))
  let occurredAt ← timestampOr lib now ((raw.get "trade_time").or (raw.get "timestamp"))
  validFill order (fillId raw order) quantity price fee
    (((raw.get "commission_asset").or (raw.get "fee_asset")).or (.string "USD")).str occurredAt

end Coinbase

namespace Gemini

/-- `fill_id`. -/
def fillId (raw : Json) (order : Order) : String :=
  trimmed (((raw.get "tid").or (raw.get "fill_id")).or (fallbackId raw order)).str

def fillSize (raw : Json) : Except Exc Decimal := decimalOr leastSize (raw.get "amount")

/-- `_gemini_fill`. -/
def fill (lib : Library) (now : Timestamp) (raw : Json) (order : Order) : Except Exc Fill := do
  let quantity ← fillSize raw
  let price ← decimalOr leastSize (raw.get "price")
  let fee ← decimalOr 0 (raw.get "fee_amount")
  let occurredAt ← timestampOr lib now (raw.get "timestampms")
  validFill order (fillId raw order) quantity price fee ((raw.get "fee_currency").or (.string "USD")).str
    occurredAt

end Gemini

/-- The adapters that read fills of a venue. -/
inductive Adapter where
  | coinbase
  | gemini

namespace Adapter

def fillId : Adapter → Json → Order → String
  | .coinbase => Coinbase.fillId
  | .gemini => Gemini.fillId

def fillSize : Adapter → Json → Except Exc Decimal
  | .coinbase => Coinbase.fillSize
  | .gemini => Gemini.fillSize

def fill : Adapter → Library → Timestamp → Json → Order → Except Exc Fill
  | .coinbase => Coinbase.fill
  | .gemini => Gemini.fill

/-- The quantity of a row, as the adapter reads it. -/
def quantity (adapter : Adapter) (raw : Json) : Decimal :=
  match adapter.fillSize raw with
  | .ok quantity => quantity
  | .error _ => 0

end Adapter

theorem validFill_ok {order : Order} {fillId feeAsset : String} {quantity price fee : Decimal}
    {occurredAt : Timestamp} {fill : Fill}
    (done : validFill order fillId quantity price fee feeAsset occurredAt = .ok fill) :
    fill.fillId = fillId ∧ fill.quantity.1 = quantity := by
  obtain ⟨size, read, done⟩ := bind_eq_ok.1 done
  obtain ⟨_, _, done⟩ := bind_eq_ok.1 done
  obtain ⟨_, _, done⟩ := bind_eq_ok.1 done
  cases done
  unfold positive at read
  split at read
  · cases read
    exact ⟨rfl, rfl⟩
  · cases read

/-- A fill has the id its row falls to and the quantity of its row. -/
theorem Adapter.fill_ok {adapter : Adapter} {lib : Library} {now : Timestamp} {raw : Json} {order : Order}
    {fill : Fill} (done : adapter.fill lib now raw order = .ok fill) :
    fill.fillId = adapter.fillId raw order ∧ fill.quantity.1 = adapter.quantity raw := by
  have read : ∃ quantity, adapter.fillSize raw = .ok quantity ∧
      fill.fillId = adapter.fillId raw order ∧ fill.quantity.1 = quantity := by
    cases adapter with
    | coinbase =>
        obtain ⟨quantity, size, done⟩ := bind_eq_ok.1 done
        obtain ⟨_, _, done⟩ := bind_eq_ok.1 done
        obtain ⟨_, _, done⟩ := bind_eq_ok.1 done
        obtain ⟨_, _, done⟩ := bind_eq_ok.1 done
        exact ⟨quantity, size, validFill_ok done⟩
    | gemini =>
        obtain ⟨quantity, size, done⟩ := bind_eq_ok.1 done
        obtain ⟨_, _, done⟩ := bind_eq_ok.1 done
        obtain ⟨_, _, done⟩ := bind_eq_ok.1 done
        obtain ⟨_, _, done⟩ := bind_eq_ok.1 done
        exact ⟨quantity, size, validFill_ok done⟩
  obtain ⟨quantity, size, id, same⟩ := read
  refine ⟨id, same.trans ?_⟩
  rw [Adapter.quantity, size]

/-- What a row says of a fill is checked without regard to the time. -/
theorem validFill_anytime {order : Order} {fillId feeAsset : String} {quantity price fee : Decimal}
    {occurredAt : Timestamp} {fill : Fill}
    (done : validFill order fillId quantity price fee feeAsset occurredAt = .ok fill) (other : Timestamp) :
    ∃ again, validFill order fillId quantity price fee feeAsset other = .ok again := by
  obtain ⟨size, first, done⟩ := bind_eq_ok.1 done
  obtain ⟨paid, second, done⟩ := bind_eq_ok.1 done
  obtain ⟨charged, third, _⟩ := bind_eq_ok.1 done
  exact ⟨_, bind_eq_ok.2 ⟨size, first, bind_eq_ok.2 ⟨paid, second, bind_eq_ok.2 ⟨charged, third, rfl⟩⟩⟩⟩

/-- A row that can be read as a fill once can be read as one at any time. -/
theorem Adapter.fill_anytime {adapter : Adapter} {lib : Library} {earlier : Timestamp} {raw : Json}
    {order : Order} {fill : Fill} (now : Timestamp)
    (done : adapter.fill lib earlier raw order = .ok fill) :
    ∃ again, adapter.fill lib now raw order = .ok again := by
  cases adapter with
  | coinbase =>
      obtain ⟨quantity, size, done⟩ := bind_eq_ok.1 done
      obtain ⟨price, paid, done⟩ := bind_eq_ok.1 done
      obtain ⟨fee, charged, done⟩ := bind_eq_ok.1 done
      obtain ⟨occurredAt, timed, done⟩ := bind_eq_ok.1 done
      obtain ⟨occurredAt', timed'⟩ := Coinbase.timestampOr_anytime now timed
      obtain ⟨again, done'⟩ := validFill_anytime done occurredAt'
      exact ⟨again, bind_eq_ok.2 ⟨quantity, size, bind_eq_ok.2 ⟨price, paid,
        bind_eq_ok.2 ⟨fee, charged, bind_eq_ok.2 ⟨occurredAt', timed', done'⟩⟩⟩⟩⟩
  | gemini =>
      obtain ⟨quantity, size, done⟩ := bind_eq_ok.1 done
      obtain ⟨price, paid, done⟩ := bind_eq_ok.1 done
      obtain ⟨fee, charged, done⟩ := bind_eq_ok.1 done
      obtain ⟨occurredAt, timed, done⟩ := bind_eq_ok.1 done
      obtain ⟨occurredAt', timed'⟩ := Gemini.timestampOr_anytime now timed
      obtain ⟨again, done'⟩ := validFill_anytime done occurredAt'
      exact ⟨again, bind_eq_ok.2 ⟨quantity, size, bind_eq_ok.2 ⟨price, paid,
        bind_eq_ok.2 ⟨fee, charged, bind_eq_ok.2 ⟨occurredAt', timed', done'⟩⟩⟩⟩⟩

end AlgoTrader.Brokers

namespace AlgoTrader.Execution

open AlgoTrader.Core Brokers Process Theory

/-! ## Reading and storing -/

/-- What one read returns: the rows, each with the time it was converted at. -/
abbrev FillRead := List (Json × Timestamp)

/-- `get_fills`, of the rows that were read. -/
def convertRows (adapter : Adapter) (lib : Library) (known : Order) (read : FillRead) :
    Except Exc (List Fill) :=
  read.mapM fun row => adapter.fill lib row.2 row.1 known

/-- `_record`, as far as the fills are concerned: `known` is the adapter's order, `order` the saved
one.  What the store refuses leaves it as it is. -/
def recordRead (adapter : Adapter) (lib : Library) (known order : Order) (store : SqlAlchemyOrderStore)
    (read : FillRead) : SqlAlchemyOrderStore :=
  match convertRows adapter lib known read with
  | .error _ => store
  | .ok fills =>
      let linked := linkedToLocalOrder order fills
      if linked.isEmpty then store else (store.addFills linked).2

/-- What is stored of a fill under its id. -/
abbrev StoredEntry := String × Decimal

def storedEntry (record : FillRecord) : StoredEntry := (record.brokerFillId, record.quantity.1)

/-- What the rows of an order ask to be stored. -/
def entriesOf (adapter : Adapter) (known : Order) (rows : List Json) : List StoredEntry :=
  rows.map fun row => (adapter.fillId row known, adapter.quantity row)

/-- The entries whose ids are not on record. -/
def unstored (store : SqlAlchemyOrderStore) (entries : List StoredEntry) : List StoredEntry :=
  entries.filter fun entry => entry.1 ∉ store.fills.map FillRecord.brokerFillId

section Converted

variable {adapter : Adapter} {lib : Library} {known order : Order} {read : FillRead} {fills : List Fill}

theorem linked_orderId : ∀ fill ∈ linkedToLocalOrder order fills,
    fill.orderId = order.request.clientOrderId := by
  intro fill member
  obtain ⟨raw, _, rfl⟩ := List.mem_map.1 member
  split
  · assumption
  · rfl

/-- Linking changes neither ids nor quantities. -/
theorem linked_entries :
    (linkedToLocalOrder order fills).map (fun fill => (fill.fillId, fill.quantity.1)) =
      fills.map fun fill => (fill.fillId, fill.quantity.1) := by
  unfold linkedToLocalOrder
  rw [List.map_map]
  refine List.map_congr_left fun fill _ => ?_
  rw [Function.comp_apply]
  split
  · rfl
  · rfl

theorem convertRows_entries (done : convertRows adapter lib known read = .ok fills) :
    fills.map (fun fill => (fill.fillId, fill.quantity.1)) = entriesOf adapter known (read.map Prod.fst) := by
  have follows : read.mapM (fun row => (.ok (adapter.fillId row.1 known, adapter.quantity row.1) :
      Except Exc StoredEntry)) = .ok (fills.map fun fill => (fill.fillId, fill.quantity.1)) := by
    refine mapM_follows (fun row fill converted => ?_) done
    obtain ⟨id, quantity⟩ := Adapter.fill_ok converted
    rw [id, quantity]
  rw [mapM_eq_map fun _ _ => rfl] at follows
  rw [entriesOf, List.map_map]
  exact (Except.ok.inj follows).symm

end Converted

section Stored

variable {store : SqlAlchemyOrderStore}

theorem newFills_entries (fills : List Fill) :
    (store.newFills fills).map storedEntry =
      unstored store (fills.map fun fill => (fill.fillId, fill.quantity.1)) := by
  rw [SqlAlchemyOrderStore.newFills, unstored, List.filter_map, List.map_map]
  rfl

theorem ids_of_entries (records : List FillRecord) :
    (records.map storedEntry).map Prod.fst = records.map FillRecord.brokerFillId := by
  rw [List.map_map]
  rfl

/-- A batch is stored where its new ids are different, else nothing of it. -/
theorem addFills_adds (fills : List Fill) :
    (store.addFills fills).2.fills = store.fills ++
      if ((store.newFills fills).map FillRecord.brokerFillId).Nodup then store.newFills fills else [] := by
  have apart : ∀ id ∈ store.fills.map FillRecord.brokerFillId,
      ∀ id' ∈ (store.newFills fills).map FillRecord.brokerFillId, id ≠ id' := by
    rintro id onRecord id' member rfl
    obtain ⟨record, added, rfl⟩ := List.mem_map.1 member
    obtain ⟨fill, fresh, rfl⟩ := List.mem_map.1 added
    exact of_decide_eq_true (List.mem_filter.1 fresh).2 onRecord
  have unique : ((store.fills ++ store.newFills fills).map FillRecord.brokerFillId).Nodup ↔
      ((store.newFills fills).map FillRecord.brokerFillId).Nodup := by
    rw [List.map_append, List.nodup_append]
    exact ⟨fun all => all.2.1, fun distinct => ⟨store.brokerFillIds, distinct, apart⟩⟩
  unfold SqlAlchemyOrderStore.addFills
  by_cases distinct : ((store.newFills fills).map FillRecord.brokerFillId).Nodup
  · rw [dif_pos (unique.2 distinct), if_pos distinct]
  · rw [dif_neg fun all => distinct (unique.1 all), if_neg distinct, List.append_nil]

/-- A read adds the entries of its rows that are not on record, or nothing. -/
theorem recordRead_adds (store : SqlAlchemyOrderStore) (order : Order) {adapter : Adapter}
    {lib : Library} {known : Order} {read : FillRead} {fills : List Fill}
    (done : convertRows adapter lib known read = .ok fills) :
    let entries := unstored store (entriesOf adapter known (read.map Prod.fst))
    ∃ added, (recordRead adapter lib known order store read).fills = store.fills ++ added ∧
      (∀ record ∈ added, record.orderId = order.request.clientOrderId) ∧
      added.map storedEntry = if (entries.map Prod.fst).Nodup then entries else [] := by
  intro entries
  let linked := linkedToLocalOrder order fills
  have same : (store.newFills linked).map storedEntry = entries := by
    rw [newFills_entries, linked_entries, convertRows_entries done]
  have own : ∀ record ∈ store.newFills linked, record.orderId = order.request.clientOrderId := by
    intro record member
    obtain ⟨fill, fresh, rfl⟩ := List.mem_map.1 member
    exact linked_orderId fill (List.mem_filter.1 fresh).1
  have stored : (recordRead adapter lib known order store read).fills = (store.addFills linked).2.fills := by
    unfold recordRead
    rw [done]
    show (if linked.isEmpty then store else (store.addFills linked).2).fills = _
    split
    · rename_i none
      rw [addFills_adds, List.isEmpty_iff.1 none]
      simp [SqlAlchemyOrderStore.newFills]
    · rfl
  rw [stored, addFills_adds, ← ids_of_entries, same]
  refine ⟨_, rfl, ?_, ?_⟩
  · intro record member
    split at member
    · exact own record member
    · cases member
  · split
    · exact same
    · rfl

end Stored

/-! ## Any number of reads -/

section Reads

variable {adapter : Adapter} {lib : Library} {known order : Order} {rows : List Json}

/-- Every row can be read as a fill. -/
def Converts (adapter : Adapter) (lib : Library) (known : Order) (rows : List Json) : Prop :=
  ∀ row ∈ rows, ∀ now, ∃ fill, adapter.fill lib now row known = .ok fill

theorem Converts.read (converts : Converts adapter lib known rows) {read : FillRead}
    (same : read.map Prod.fst = rows) : ∃ fills, convertRows adapter lib known read = .ok fills :=
  mapM_ok fun row member => converts row.1 (same ▸ List.mem_map_of_mem member) row.2

/-- Another read of the same rows stores nothing more. -/
theorem recordRead_again {store settled : SqlAlchemyOrderStore} {first again : FillRead}
    (converts : Converts adapter lib known rows) (firstRows : first.map Prod.fst = rows)
    (againRows : again.map Prod.fst = rows)
    (after : settled.fills = (recordRead adapter lib known order store first).fills) :
    (recordRead adapter lib known order settled again).fills = settled.fills := by
  obtain ⟨fills, done⟩ := converts.read firstRows
  obtain ⟨fills', done'⟩ := converts.read againRows
  obtain ⟨added, stored, _, entries⟩ := recordRead_adds store order done
  obtain ⟨added', stored', _, entries'⟩ := recordRead_adds settled order done'
  rw [firstRows] at entries
  rw [againRows] at entries'
  suffices none : added' = [] by rw [stored', none, List.append_nil]
  rw [← List.map_eq_nil_iff (f := storedEntry), entries']
  by_cases distinct : ((unstored store (entriesOf adapter known rows)).map Prod.fst).Nodup
  · -- Every id is on record by now.
    rw [if_pos distinct] at entries
    have all : unstored settled (entriesOf adapter known rows) = [] := by
      refine List.filter_eq_nil_iff.2 fun entry member => ?_
      have there : entry.1 ∈ settled.fills.map FillRecord.brokerFillId := by
        rw [after, stored, List.map_append, ← ids_of_entries added, entries]
        by_cases old : entry.1 ∈ store.fills.map FillRecord.brokerFillId
        · exact List.mem_append_left _ old
        · refine List.mem_append_right _ (List.mem_map_of_mem (List.mem_filter.2 ⟨member, ?_⟩))
          exact decide_eq_true old
      simpa using there
    rw [all, ite_self]
  · rw [if_neg distinct, List.map_eq_nil_iff] at entries
    rw [entries, List.append_nil] at stored
    have same : unstored settled = unstored store := by
      funext entries
      rw [unstored, unstored, after, stored]
    rw [same, if_neg distinct]

theorem reads_settle {store : SqlAlchemyOrderStore} {first : FillRead} {rest : List FillRead}
    (converts : Converts adapter lib known rows)
    (same : ∀ read ∈ first :: rest, read.map Prod.fst = rows) :
    ((first :: rest).foldl (recordRead adapter lib known order) store).fills =
      (recordRead adapter lib known order store first).fills := by
  rw [List.foldl_cons]
  have settles : ∀ (reads : List FillRead) (settled : SqlAlchemyOrderStore),
      (∀ read ∈ reads, read.map Prod.fst = rows) →
      settled.fills = (recordRead adapter lib known order store first).fills →
      (reads.foldl (recordRead adapter lib known order) settled).fills =
        (recordRead adapter lib known order store first).fills := by
    intro reads
    induction reads with
    | nil => exact fun settled _ after => after
    | cons read reads ih =>
        intro settled each after
        refine ih _ (fun other member => each other (List.mem_cons_of_mem _ member)) ?_
        exact (recordRead_again converts (same _ List.mem_cons_self) (each _ List.mem_cons_self) after).trans
          after
  exact settles rest _ (fun read member => same read (List.mem_cons_of_mem _ member)) rfl

end Reads

/-- Of positive quantities, a part sums to the whole only where it is the whole. -/
theorem sum_filter_eq_iff {α : Type} (p : α → Bool) (weight : α → Decimal) {xs : List α}
    (positive : ∀ x ∈ xs, 0 < weight x) :
    ((xs.filter p).map weight).sum = (xs.map weight).sum ↔ ∀ x ∈ xs, p x = true := by
  induction xs with
  | nil => simp
  | cons x xs ih =>
      have rest := ih fun y member => positive y (List.mem_cons_of_mem x member)
      have first := positive x List.mem_cons_self
      rw [List.forall_mem_cons, List.map_cons, List.sum_cons]
      by_cases kept : p x = true
      · rw [List.filter_cons_of_pos kept, List.map_cons, List.sum_cons, add_right_inj, rest]
        exact (and_iff_right kept).symm
      · rw [List.filter_cons_of_neg kept]
        refine iff_of_false (fun same => ?_) fun all => kept all.1
        have part : ((xs.filter p).map weight).sum ≤ (xs.map weight).sum := by
          refine (List.filter_sublist.map weight).sum_le_sum fun w member => ?_
          obtain ⟨y, there, rfl⟩ := List.mem_map.1 member
          exact (positive y (List.mem_cons_of_mem x there)).le
        linarith

section Sums

variable {adapter : Adapter} {lib : Library} {known order : Order} {rows : List Json}
  {store : SqlAlchemyOrderStore}

/-- What is recorded of an order that had nothing on record is what was added. -/
theorem recorded_added {after : SqlAlchemyOrderStore} {added : List FillRecord}
    (fresh : ∀ record ∈ store.fills, record.orderId ≠ order.request.clientOrderId)
    (stored : after.fills = store.fills ++ added)
    (own : ∀ record ∈ added, record.orderId = order.request.clientOrderId) :
    after.book.recorded order.request.clientOrderId = ((added.map storedEntry).map Prod.snd).sum := by
  have before : (store.book.fills.filter fun fill => fill.orderId = order.request.clientOrderId) = [] := by
    refine List.filter_eq_nil_iff.2 fun fill member => ?_
    obtain ⟨record, there, rfl⟩ := List.mem_map.1 member
    simpa using fresh record there
  have more : after.book.fills = store.book.fills ++
      added.map fun record => ⟨record.brokerFillId, record.orderId, record.quantity⟩ := by
    show after.fills.map _ = _
    rw [stored, List.map_append]
    rfl
  have all : (added.map fun record : FillRecord => (⟨record.brokerFillId, record.orderId, record.quantity⟩ :
      RecordedFill)).filter (fun fill => fill.orderId = order.request.clientOrderId) =
      added.map fun record => ⟨record.brokerFillId, record.orderId, record.quantity⟩ := by
    refine List.filter_eq_self.2 fun fill member => ?_
    obtain ⟨record, there, rfl⟩ := List.mem_map.1 member
    exact decide_eq_true (own record there)
  rw [Book.recorded, more, List.filter_append, before, List.nil_append, all, List.map_map, List.map_map]
  rfl

theorem entriesOf_positive (converts : Converts adapter lib known rows) :
    ∀ entry ∈ entriesOf adapter known rows, 0 < entry.2 := by
  intro entry member
  obtain ⟨row, there, rfl⟩ := List.mem_map.1 member
  obtain ⟨fill, done⟩ := converts row there epoch
  rw [← (Adapter.fill_ok done).2]
  exact fill.quantity.2

end Sums

/-! ## Two trades at one price -/

theorem decimal_filled_three : (0 : Decimal) ≤ 3 := by decide

def boughtOrder : Order := reportOf (marketBuy ⟨1⟩ ⟨2⟩) .filled ⟨3, decimal_filled_three⟩

/-- A trade of the venue at 100, with an id or without. -/
def tradeAt100 (id : List (String × Json)) (amount : String) : Json :=
  .object (id ++ [("price", .string "100"), ("amount", .string amount)])

def numberedTrades : List Json := [tradeAt100 [("tid", .int 7)] "1", tradeAt100 [("tid", .int 8)] "2"]

def unnumberedTrades : List Json := [tradeAt100 [] "1", tradeAt100 [] "2"]

def readOf (rows : List Json) : FillRead := rows.map fun row => (row, epoch)

theorem numberedTrades_convert : Converts .gemini noDates boughtOrder numberedTrades := by
  have atEpoch : ∀ row ∈ numberedTrades, (Adapter.gemini.fill noDates epoch row boughtOrder).isOk = true := by
    decide +kernel
  intro row member now
  cases done : Adapter.gemini.fill noDates epoch row boughtOrder with
  | error exc =>
      have failed := atEpoch row member
      rw [done] at failed
      cases failed
  | ok fill => exact Adapter.fill_anytime now done

end AlgoTrader.Execution
