/-
# Brokers.CoinCatalog -- the public products, read whole or not at all

`read_coinbase_catalog` asks for pages of 500 products, ten of them at most, until one says that
there are no more.  A page that is malformed, that is short while it announces another, or that
disagrees with the count it tells, makes it raise; so does a row that the sanitizer refuses.

* `readPages_ok` -- what a catalog that is returned says of the pages it was read from, whatever
  the server;
* `readPages_slices` -- what is read of a server that slices a list;
* `catalog_complete` -- the catalog of such a server is the eligible part of its list, up to the
  cap and not beyond it.
-/
import Mathlib.Data.List.Sort
import Mathlib.Data.String.Basic
import AlgoTrader.Theory.Dict
import AlgoTrader.Theory.Raising
import AlgoTrader.Brokers.Json
import AlgoTrader.Data.Watchlist
import AlgoTrader.Api.CoinCatalog

namespace AlgoTrader.Brokers.CoinCatalog

open AlgoTrader.Core AlgoTrader.Theory
open AlgoTrader.Api.CoinCatalog (CoinbaseCatalogProduct)
open AlgoTrader.Data.Watchlist (isSymbolChar)

set_option autoImplicit false

/-! ## Rows -/

def catalogError (message : String) : Exc :=
  { kind := .valueError, typeName := "CoinbaseCatalogError", message }

def upper (text : String) : String := String.ofList (Text.upper text.toList)

/-- `_PRODUCT_PAIR.fullmatch` and its two groups. -/
def productPair (productId : String) : Option (String × String) :=
  let (base, rest) := productId.toList.span (· ≠ '-')
  let quote := rest.tail
  if base ≠ [] ∧ quote ≠ [] ∧ rest.head? = some '-' ∧ base.all isSymbolChar ∧ quote.all isSymbolChar then
    some (String.ofList base, String.ofList quote)
  else none

def requiredText (raw : Json) (field : String) : Except Exc String :=
  match raw.get field with
  | .string value =>
      let text := String.ofList (Text.strip value.toList)
      if text = "" then .error (catalogError s!"product row omitted {field}") else .ok text
  | _ => .error (catalogError s!"product row omitted {field}")

def requiredBool (raw : Json) (field : String) : Except Exc Bool :=
  match raw.get field with
  | .bool value => .ok value
  | _ => .error (catalogError s!"product row omitted {field}")

/-- What the sanitizer takes from a row. -/
structure ProductFields where
  productId : String
  baseSymbol : String
  displayName : String
  quoteCurrency : String
  status : String
  productType : String
  tradingDisabled : Bool
  isDisabled : Bool

def readFields (raw : Json) : Except Exc ProductFields := do
  let productId ← requiredText raw "product_id"
  let baseSymbol ← requiredText raw "base_display_symbol"
  let displayName := ((raw.get "base_name").or (raw.get "display_name")).or (.string "")
  let quoteCurrency ← requiredText raw "quote_currency_id"
  let status ← requiredText raw "status"
  let productType ← requiredText raw "product_type"
  let tradingDisabled ← requiredBool raw "trading_disabled"
  let isDisabled ← requiredBool raw "is_disabled"
  return ⟨upper productId, upper baseSymbol, String.ofList (Text.strip displayName.str.toList),
    upper quoteCurrency, lower status, upper productType, tradingDisabled, isDisabled⟩

namespace ProductFields

/-- What a row is refused for once its fields are read. -/
def refusal (fields : ProductFields) : Option Exc :=
  if fields.displayName = "" then
    some (catalogError "product row omitted its public display name")
  else if fields.baseSymbol = "" ∨
      productPair fields.productId ≠ some (fields.baseSymbol, fields.quoteCurrency) then
    some (catalogError "product id, base symbol and quote currency did not match")
  else none

/-- A product that trades against dollars. -/
def isEligible (fields : ProductFields) : Bool :=
  fields.quoteCurrency = "USD" ∧ fields.productType = "SPOT" ∧ fields.status = "online" ∧
    !fields.tradingDisabled ∧ !fields.isDisabled

def product (fields : ProductFields) : CoinbaseCatalogProduct :=
  ⟨fields.productId, fields.baseSymbol, fields.displayName, fields.quoteCurrency, fields.status⟩

end ProductFields

def sanitizeCoinbaseProduct (raw : Json) : Except Exc (Option CoinbaseCatalogProduct) :=
  if !raw.isMapping then .error (catalogError "product row is not an object")
  else (readFields raw).bind fun fields =>
    match fields.refusal with
    | some refusal => .error refusal
    | none => .ok (if fields.isEligible then some fields.product else none)

/-- The id of a row as it is read: stripped, and in upper case. -/
def productIdOf (raw : Json) : String :=
  match raw.get "product_id" with
  | .string value => upper (String.ofList (Text.strip value.toList))
  | _ => ""

/-- The product of a row, where it is an eligible one. -/
def eligible (raw : Json) : Option CoinbaseCatalogProduct :=
  match sanitizeCoinbaseProduct raw with
  | .ok product => product
  | .error _ => none

theorem requiredText_ok {raw : Json} {field text : String} (read : requiredText raw field = .ok text) :
    ∃ value, raw.get field = .string value ∧ text = String.ofList (Text.strip value.toList) := by
  unfold requiredText at read
  split at read
  · rename_i value given
    simp only at read
    split at read
    · cases read
    · exact ⟨value, given, (Except.ok.inj read).symm⟩
  · cases read

theorem sanitize_ok {raw : Json} {found : Option CoinbaseCatalogProduct}
    (sane : sanitizeCoinbaseProduct raw = .ok found) : ∃ fields, readFields raw = .ok fields ∧
      found = if fields.isEligible then some fields.product else none := by
  unfold sanitizeCoinbaseProduct at sane
  split at sane
  · cases sane
  · obtain ⟨fields, read, sane⟩ := bind_eq_ok.1 sane
    split at sane
    · cases sane
    · exact ⟨fields, read, (Except.ok.inj sane).symm⟩

theorem readFields_productId {raw : Json} {fields : ProductFields} (read : readFields raw = .ok fields) :
    fields.productId = productIdOf raw := by
  obtain ⟨_, id, read⟩ := bind_eq_ok.1 read
  obtain ⟨_, _, read⟩ := bind_eq_ok.1 read
  obtain ⟨_, _, read⟩ := bind_eq_ok.1 read
  obtain ⟨_, _, read⟩ := bind_eq_ok.1 read
  obtain ⟨_, _, read⟩ := bind_eq_ok.1 read
  obtain ⟨_, _, read⟩ := bind_eq_ok.1 read
  obtain ⟨_, _, read⟩ := bind_eq_ok.1 read
  cases read
  obtain ⟨value, given, rfl⟩ := requiredText_ok id
  simp only [productIdOf, given]

theorem eligible_productId {raw : Json} {product : CoinbaseCatalogProduct}
    (read : eligible raw = some product) : product.productId = productIdOf raw := by
  unfold eligible at read
  split at read
  · rename_i sane
    obtain ⟨fields, taken, rfl⟩ := sanitize_ok sane
    split at read
    · rw [← Option.some.inj read]
      exact readFields_productId taken
    · cases read
  · cases read

/-! ## Pages -/

def pageSize : Nat := 500

def maxRequests : Nat := 10

def maxProducts : Nat := pageSize * maxRequests

/-- The members of a page; what is no object is not passed on. -/
abbrev Payload := List (String × Json)

/-- `list_public_products_page`: the answer to a request, by its place among those made. -/
abbrev PublicProductReader := Nat → (limit offset : Nat) → Except Exc Payload

def Payload.get (payload : Payload) (name : String) : Json := (Json.object payload).get name

/-- The rows of a page, and whether it says that there are more. -/
def pageParts (payload : Payload) : Except Exc (List Json × Bool) :=
  match Payload.get payload "products", Payload.get payload "pagination" with
  | .list rows, .object pagination =>
      match Payload.get pagination "has_next" with
      | .bool hasNext => .ok (rows, hasNext)
      | _ => .error (catalogError "Coinbase product page omitted pagination status")
  | _, _ => .error (catalogError "Coinbase product page omitted products or pagination")

def expectTotal (payload : Payload) (expectedTotal : Option Int) : Except Exc (Option Int) :=
  match Payload.get payload "num_products" with
  | .null => .ok expectedTotal
  | .int total =>
      if total < 0 then .error (catalogError "Coinbase product count is malformed")
      else if expectedTotal.any (total ≠ ·) then
        .error (catalogError "Coinbase product count changed during refresh")
      else if maxProducts < total then
        .error (catalogError "Coinbase product catalog exceeds the 5000 product cap")
      else .ok (some total)
  | _ => .error (catalogError "Coinbase product count is malformed")

abbrev Products := Dict String CoinbaseCatalogProduct

def addRow (raw : Json) (products : Products) : Except Exc Products :=
  (sanitizeCoinbaseProduct raw).bind fun
    | none => .ok products
    | some product =>
        if product.productId ∈ products.keys then
          .error (catalogError "Coinbase product page repeated a product")
        else .ok (products.set product.productId product)

/-- What the loop has read. -/
structure Reading where
  products : Products
  expectedTotal : Option Int

def sortedById (products : List CoinbaseCatalogProduct) : List CoinbaseCatalogProduct :=
  products.insertionSort fun a b => a.productId ≤ b.productId

/-- A turn of the loop, on the page that begins at `offset`: on to the next one, or the catalog. -/
def readPage (offset : Nat) (payload : Payload) (reading : Reading) :
    Except Exc (Reading ⊕ List CoinbaseCatalogProduct) :=
  (pageParts payload).bind fun (rows, hasNext) =>
  (expectTotal payload reading.expectedTotal).bind fun expectedTotal =>
    if hasNext ∧ rows.length ≠ pageSize then
      .error (catalogError "Coinbase product pagination skipped a partial page")
    else if maxProducts < offset + rows.length then
      .error (catalogError "Coinbase product catalog exceeds the 5000 product cap")
    else (runs addRow rows reading.products).bind fun products =>
      if hasNext then .ok (.inl ⟨products, expectedTotal⟩)
      else if expectedTotal.any (((offset + rows.length : Nat) : Int) < ·) then
        .error (catalogError "Coinbase product pagination ended before its total")
      else .ok (.inr (sortedById products.values))

/-- The loop over the page numbers, with the limit and the offset of each request it makes. -/
def readPages (reader : PublicProductReader) :
    List Nat → Reading → Except Exc (List CoinbaseCatalogProduct) × List (Nat × Nat)
  | [], _ =>
      (.error (catalogError "Coinbase product pagination exceeded the 10 request cap"), [])
  | pageNumber :: later, reading =>
      let offset := pageNumber * pageSize
      let request := (pageSize, offset)
      match (reader pageNumber pageSize offset).bind fun payload => readPage offset payload reading with
      | .error e => (.error e, [request])
      | .ok (.inr catalog) => (.ok catalog, [request])
      | .ok (.inl reading) =>
          let (result, requests) := readPages reader later reading
          (result, request :: requests)

def readCoinbaseCatalog (reader : PublicProductReader) :
    Except Exc (List CoinbaseCatalogProduct) × List (Nat × Nat) :=
  readPages reader (List.range maxRequests) ⟨.empty, none⟩

/-! ## What the rows of pages add up to -/

/-- The products of some rows, none of which was refused. -/
structure Collected (rows : List Json) (products : Products) : Prop where
  sane : ∀ raw ∈ rows, ∃ found, sanitizeCoinbaseProduct raw = .ok found
  entries : products.entries =
    (rows.filterMap eligible).map fun product => (product.productId, product)

theorem collected_nil : Collected [] .empty := ⟨nofun, rfl⟩

section Collecting

variable {earlier rows : List Json} {raw : Json} {products next : Products}

theorem Collected.values (collected : Collected rows products) :
    products.values = rows.filterMap eligible := by
  rw [Dict.values, collected.entries, List.map_map]
  exact List.map_id _

theorem Collected.keys (collected : Collected rows products) :
    products.keys = (rows.filterMap eligible).map (·.productId) := by
  rw [Dict.keys, collected.entries, List.map_map]
  rfl

theorem eligible_ok {found : Option CoinbaseCatalogProduct}
    (sane : sanitizeCoinbaseProduct raw = .ok found) : eligible raw = found := by
  simp only [eligible, sane]

theorem addRow_collected (collected : Collected earlier products)
    (added : addRow raw products = .ok next) : Collected (earlier ++ [raw]) next := by
  obtain ⟨found, sane, kept⟩ := bind_eq_ok.1 added
  refine ⟨fun other member => ?_, ?_⟩
  · rcases List.mem_append.1 member with before | here
    · exact collected.sane other before
    · exact ⟨found, List.mem_singleton.1 here ▸ sane⟩
  · rw [List.filterMap_append, List.map_append, ← collected.entries]
    cases found with
    | none =>
        cases kept
        simp [eligible_ok sane]
    | some product =>
        simp only at kept
        split at kept
        · cases kept
        · rename_i absent
          rw [← Except.ok.inj kept, Dict.entries_set_absent _ absent]
          simp [eligible_ok sane]

theorem addRow_ok (collected : Collected earlier products)
    (sane : ∃ found, sanitizeCoinbaseProduct raw = .ok found)
    (distinct : (((earlier ++ [raw]).filterMap eligible).map (·.productId)).Nodup) :
    ∃ next, addRow raw products = .ok next := by
  obtain ⟨found, sane⟩ := sane
  cases found with
  | none => exact ⟨products, bind_eq_ok.2 ⟨none, sane, rfl⟩⟩
  | some product =>
      rw [List.filterMap_append, List.map_append, ← collected.keys] at distinct
      have absent : product.productId ∉ products.keys := fun there =>
        (List.nodup_append.1 distinct).2.2 _ there _ (by simp [eligible_ok sane]) rfl
      exact ⟨_, bind_eq_ok.2 ⟨some product, sane, if_neg absent⟩⟩

theorem addRows_collected (collected : Collected earlier products)
    (added : runs addRow rows products = .ok next) : Collected (earlier ++ rows) next := by
  refine runs_invariant (fun before products => Collected (earlier ++ before) products)
    (by simpa using collected) (fun before raw products next collected stepped => ?_) added
  rw [← List.append_assoc]
  exact addRow_collected collected stepped

theorem addRows_ok (collected : Collected earlier products)
    (sane : ∀ raw ∈ rows, ∃ found, sanitizeCoinbaseProduct raw = .ok found)
    (distinct : (((earlier ++ rows).filterMap eligible).map (·.productId)).Nodup) :
    ∃ next, runs addRow rows products = .ok next := by
  induction rows generalizing earlier products with
  | nil => exact ⟨products, rfl⟩
  | cons raw rest ih =>
      rw [List.append_cons] at distinct
      have first : (((earlier ++ [raw]).filterMap eligible).map (·.productId)).Nodup := by
        rw [List.filterMap_append, List.map_append] at distinct
        exact (List.nodup_append.1 distinct).1
      obtain ⟨after, added⟩ := addRow_ok collected (sane raw List.mem_cons_self) first
      obtain ⟨next, done⟩ := ih (addRow_collected collected added)
        (fun other member => sane other (List.mem_cons_of_mem _ member)) distinct
      exact ⟨next, runs_cons_ok.2 ⟨after, added, done⟩⟩

end Collecting

/-! ## One page -/

theorem readPage_ok {offset : Nat} {payload : Payload} {reading : Reading}
    {out : Reading ⊕ List CoinbaseCatalogProduct} : readPage offset payload reading = .ok out ↔
      ∃ rows hasNext total products, pageParts payload = .ok (rows, hasNext) ∧
        expectTotal payload reading.expectedTotal = .ok total ∧
        (hasNext = true → rows.length = pageSize) ∧ offset + rows.length ≤ maxProducts ∧
        runs addRow rows reading.products = .ok products ∧
        (hasNext = true ∧ out = .inl ⟨products, total⟩ ∨
          hasNext = false ∧ (∀ told, total = some told → told ≤ (offset + rows.length : Nat)) ∧
            out = .inr (sortedById products.values)) := by
  constructor
  · intro read
    obtain ⟨⟨rows, hasNext⟩, parts, read⟩ := bind_eq_ok.1 read
    obtain ⟨total, expected, read⟩ := bind_eq_ok.1 read
    split at read
    · cases read
    · rename_i full
      split at read
      · cases read
      · rename_i within
        obtain ⟨products, added, read⟩ := bind_eq_ok.1 read
        refine ⟨rows, hasNext, total, products, parts, expected, fun more => ?_, by omega, added, ?_⟩
        · exact not_not.1 fun short => full ⟨more, short⟩
        · split at read
          · rename_i more
            exact .inl ⟨more, (Except.ok.inj read).symm⟩
          · rename_i ends
            split at read
            · cases read
            · rename_i reached
              refine .inr ⟨Bool.eq_false_iff.2 ends, fun told same => ?_, (Except.ok.inj read).symm⟩
              simpa [same] using reached
  · rintro ⟨rows, hasNext, total, products, parts, expected, full, within, added, kinds⟩
    refine bind_eq_ok.2 ⟨_, parts, bind_eq_ok.2 ⟨_, expected, ?_⟩⟩
    rw [if_neg fun short => short.2 (full short.1), if_neg (by omega)]
    refine bind_eq_ok.2 ⟨_, added, ?_⟩
    rcases kinds with ⟨rfl, rfl⟩ | ⟨rfl, reached, rfl⟩
    · rfl
    · rw [if_neg Bool.false_ne_true, if_neg]
      intro beyond
      obtain ⟨told, same, more⟩ := (Option.any_eq_true _ _).1 beyond
      have := reached told same
      simp only [decide_eq_true_eq] at more
      omega

/-! ## The pages of a catalog -/

/-- The rows of a page, none where it has no list of them. -/
def rowsOf (payload : Payload) : List Json :=
  match Payload.get payload "products" with
  | .list rows => rows
  | _ => []

/-- A page that says that there are more, or that there are none. -/
def Announces (payload : Payload) (more : Bool) : Prop :=
  ∃ pagination, Payload.get payload "pagination" = .object pagination ∧
    Payload.get pagination "has_next" = .bool more

/-- The count that a page tells. -/
def Tells (payload : Payload) (total : Int) : Prop := Payload.get payload "num_products" = .int total

/-- The limit and the offset of the request for a page. -/
def requestOf (pageNumber : Nat) : Nat × Nat := (pageSize, pageNumber * pageSize)

/-- What was answered to requests. -/
def answers (reader : PublicProductReader) (requests : List (Nat × Nat)) : List (Except Exc Payload) :=
  requests.mapIdx fun n request => reader n request.1 request.2

theorem pageParts_ok {payload : Payload} {rows : List Json} {hasNext : Bool}
    (parts : pageParts payload = .ok (rows, hasNext)) :
    rowsOf payload = rows ∧ Announces payload hasNext := by
  unfold pageParts at parts
  split at parts
  · rename_i listed pagination given paginated
    split at parts
    · rename_i flag announced
      cases parts
      exact ⟨by rw [rowsOf, given], pagination, paginated, announced⟩
    · cases parts
  · cases parts

theorem expectTotal_ok {payload : Payload} {expected total : Option Int}
    (checked : expectTotal payload expected = .ok total) :
    (∀ told, expected = some told → total = some told) ∧ ∀ told, Tells payload told → total = some told := by
  unfold expectTotal at checked
  split at checked
  · rename_i absent
    cases checked
    refine ⟨fun told same => same, fun told tells => ?_⟩
    rw [Tells, absent] at tells
    cases tells
  · rename_i count given
    split at checked
    · cases checked
    · split at checked
      · cases checked
      · rename_i same
        split at checked
        · cases checked
        · cases checked
          refine ⟨fun told before => ?_, fun told tells => ?_⟩
          · by_contra other
            refine same ?_
            simp only [before, Option.any_some, decide_eq_true_eq]
            exact fun alike => other (by rw [alike])
          · rw [Tells, given] at tells
            rw [Json.int.inj tells]
  · cases checked

/-- What was read of pages that all announced more. -/
structure ReadSoFar (reader : PublicProductReader) (pages : List Payload) (reading : Reading) : Prop where
  answered : answers reader ((List.range pages.length).map requestOf) = pages.map .ok
  full : (pages.flatMap rowsOf).length = pages.length * pageSize
  collected : Collected (pages.flatMap rowsOf) reading.products
  totals : ∀ page ∈ pages, ∀ told, Tells page told → reading.expectedTotal = some told

/-- What a catalog was read from: its last page announces no more, no page told of more rows
than were read, and it lists the eligible ones among them. -/
structure ReadWhole (reader : PublicProductReader) (requests : List (Nat × Nat)) (pages : List Payload)
    (catalog : List CoinbaseCatalogProduct) : Prop where
  answered : answers reader requests = pages.map .ok
  ended : ∃ last, pages.getLast? = some last ∧ Announces last false
  totals : ∀ page ∈ pages, ∀ told, Tells page told → told ≤ (pages.flatMap rowsOf).length
  listed : catalog.Perm ((pages.flatMap rowsOf).filterMap eligible)
  sorted : catalog.Pairwise fun a b => a.productId < b.productId

theorem readPages_requests (reader : PublicProductReader) (numbers : List Nat) (reading : Reading) :
    (readPages reader numbers reading).2 <+: numbers.map requestOf := by
  induction numbers generalizing reading with
  | nil => exact List.nil_prefix
  | cons pageNumber later ih =>
      simp only [readPages, List.map_cons]
      split
      · exact List.prefix_cons_inj .. |>.2 List.nil_prefix
      · exact List.prefix_cons_inj .. |>.2 List.nil_prefix
      · exact List.prefix_cons_inj .. |>.2 (ih _)

/-- The catalog that some products are sorted into. -/
theorem sortedById_spec {rows : List Json} {products : Products} (collected : Collected rows products) :
    (sortedById products.values).Perm (rows.filterMap eligible) ∧
      (sortedById products.values).Pairwise fun a b => a.productId < b.productId := by
  have perm : (sortedById products.values).Perm products.values := List.perm_insertionSort _ _
  refine ⟨collected.values ▸ perm, ?_⟩
  have ordered := List.pairwise_insertionSort
    (fun a b : CoinbaseCatalogProduct => a.productId ≤ b.productId) products.values
  have distinct : ((sortedById products.values).map (·.productId)).Nodup := by
    refine (perm.map _).nodup_iff.2 ?_
    rw [collected.values, ← collected.keys]
    exact products.nodup
  exact (ordered.and (List.pairwise_map.1 distinct)).imp fun both => lt_of_le_of_ne both.1 both.2

theorem answers_snoc {reader : PublicProductReader} {pages : List Payload} {payload : Payload}
    (answered : answers reader ((List.range pages.length).map requestOf) = pages.map .ok)
    (given : reader pages.length pageSize (pages.length * pageSize) = .ok payload) :
    answers reader ((List.range (pages.length + 1)).map requestOf) = (pages ++ [payload]).map .ok := by
  rw [List.range_succ, List.map_append, answers, List.mapIdx_append, List.map_append, ← answered]
  congr 1
  simpa [requestOf] using given

/-- What one more page adds to what was read. -/
theorem ReadSoFar.page {reader : PublicProductReader} {pages : List Payload} {reading : Reading}
    {payload : Payload} {rows : List Json} {hasNext : Bool} {total : Option Int} {products : Products}
    (soFar : ReadSoFar reader pages reading) (parts : pageParts payload = .ok (rows, hasNext))
    (expected : expectTotal payload reading.expectedTotal = .ok total)
    (added : runs addRow rows reading.products = .ok products) :
    ((pages ++ [payload]).flatMap rowsOf).length = pages.length * pageSize + rows.length ∧
      Collected ((pages ++ [payload]).flatMap rowsOf) products ∧
      ∀ page ∈ pages ++ [payload], ∀ told, Tells page told → total = some told := by
  have joined : (pages ++ [payload]).flatMap rowsOf = pages.flatMap rowsOf ++ rows := by
    rw [List.flatMap_append, List.flatMap_singleton, (pageParts_ok parts).1]
  obtain ⟨before, here⟩ := expectTotal_ok expected
  refine ⟨?_, joined ▸ addRows_collected soFar.collected added, fun page member told tells => ?_⟩
  · rw [joined, List.length_append, soFar.full]
  · rcases List.mem_append.1 member with earlier | last
    · exact before told (soFar.totals page earlier told tells)
    · exact here told (List.mem_singleton.1 last ▸ tells)

/-- One more page that announces another. -/
theorem ReadSoFar.snoc {reader : PublicProductReader} {pages : List Payload} {reading next : Reading}
    {payload : Payload} (soFar : ReadSoFar reader pages reading)
    (given : reader pages.length pageSize (pages.length * pageSize) = .ok payload)
    (read : readPage (pages.length * pageSize) payload reading = .ok (.inl next)) :
    ReadSoFar reader (pages ++ [payload]) next := by
  obtain ⟨rows, hasNext, total, products, parts, expected, full, _, added, kinds⟩ := readPage_ok.1 read
  obtain ⟨more, same⟩ : hasNext = true ∧ Sum.inl next = Sum.inl ⟨products, total⟩ := by
    rcases kinds with goes | ⟨_, _, stops⟩
    · exact goes
    · cases stops
  cases same
  obtain ⟨length, collected, totals⟩ := soFar.page parts expected added
  refine ⟨?_, ?_, collected, totals⟩
  · rw [List.length_append, List.length_singleton]
    exact answers_snoc soFar.answered given
  · rw [length, full more, List.length_append, List.length_singleton, Nat.succ_mul]

/-- The page that ends the catalog. -/
theorem ReadSoFar.whole {reader : PublicProductReader} {pages : List Payload} {reading : Reading}
    {payload : Payload} {catalog : List CoinbaseCatalogProduct} (soFar : ReadSoFar reader pages reading)
    (given : reader pages.length pageSize (pages.length * pageSize) = .ok payload)
    (read : readPage (pages.length * pageSize) payload reading = .ok (.inr catalog)) :
    ReadWhole reader ((List.range (pages.length + 1)).map requestOf) (pages ++ [payload]) catalog := by
  obtain ⟨rows, hasNext, total, products, parts, expected, _, _, added, kinds⟩ := readPage_ok.1 read
  obtain ⟨rfl, reached, same⟩ : hasNext = false ∧
      (∀ told, total = some told → told ≤ (pages.length * pageSize + rows.length : Nat)) ∧
        Sum.inr catalog = Sum.inr (sortedById products.values) := by
    rcases kinds with ⟨_, goes⟩ | stops
    · cases goes
    · exact stops
  cases same
  obtain ⟨length, collected, totals⟩ := soFar.page parts expected added
  obtain ⟨perm, sorted⟩ := sortedById_spec collected
  refine ⟨answers_snoc soFar.answered given, ⟨payload, List.getLast?_concat .., (pageParts_ok parts).2⟩,
    fun page member told tells => ?_, perm, sorted⟩
  rw [length]
  exact reached told (totals page member told tells)

/-- A catalog is returned of pages that were all read, the last of which announced no more. -/
theorem readPages_ok {reader : PublicProductReader} {k : Nat} {pages : List Payload} {reading : Reading}
    {catalog : List CoinbaseCatalogProduct} (soFar : ReadSoFar reader pages reading)
    (returned : (readPages reader (List.range' pages.length k) reading).1 = .ok catalog) :
    ∃ whole, ReadWhole reader ((List.range pages.length).map requestOf ++
      (readPages reader (List.range' pages.length k) reading).2) whole catalog := by
  induction k generalizing pages reading with
  | zero => cases returned
  | succ k ih =>
      rw [List.range'_succ] at returned ⊢
      unfold readPages at returned ⊢
      simp only at returned ⊢
      cases turn : (reader pages.length pageSize (pages.length * pageSize)).bind fun payload =>
          readPage (pages.length * pageSize) payload reading with
      | error e =>
          rw [turn] at returned
          cases returned
      | ok out =>
          rw [turn] at returned
          obtain ⟨payload, given, read⟩ := bind_eq_ok.1 turn
          cases out with
          | inr found =>
              cases returned
              have whole := soFar.whole given read
              rw [List.range_succ, List.map_append] at whole
              exact ⟨_, whole⟩
          | inl next =>
              have length : (pages ++ [payload]).length = pages.length + 1 := by simp
              obtain ⟨all, whole⟩ := ih (soFar.snoc given read) (length.symm ▸ returned)
              rw [length, List.range_succ, List.map_append, List.append_assoc] at whole
              exact ⟨all, whole⟩

/-! ## A server that slices a list -/

/-- Every page is the part of the list that was asked for, says truly whether more of it is left,
and tells its length or no count. -/
def Slices (reader : PublicProductReader) (rows : List Json) : Prop :=
  ∀ n limit offset, ∃ payload, reader n limit offset = .ok payload ∧
    Payload.get payload "products" = .list ((rows.drop offset).take limit) ∧
    Announces payload (offset + limit < rows.length) ∧
    (Payload.get payload "num_products" = .null ∨ Tells payload rows.length)

/-- Rows of which the sanitizer refuses none, with ids that differ as they are read. -/
structure WellFormed (rows : List Json) : Prop where
  sane : ∀ raw ∈ rows, ∃ found, sanitizeCoinbaseProduct raw = .ok found
  distinct : (rows.map productIdOf).Nodup

theorem WellFormed.eligible_distinct {rows : List Json} (wellFormed : WellFormed rows) :
    ((rows.filterMap eligible).map (·.productId)).Nodup := by
  have ids : ∀ rows : List Json,
      ((rows.filterMap eligible).map (·.productId)).Sublist (rows.map productIdOf) := by
    intro rows
    induction rows with
    | nil => exact .slnil
    | cons raw rest ih =>
        cases found : eligible raw with
        | none =>
            rw [List.filterMap_cons_none found]
            exact ih.cons _
        | some product =>
            rw [List.filterMap_cons_some found, List.map_cons, List.map_cons,
              eligible_productId found]
            exact ih.cons_cons _
  exact (ids rows).nodup wellFormed.distinct

section Slicing

variable {reader : PublicProductReader} {rows : List Json} {payload : Payload}

theorem pageParts_eq {hasNext : Bool} {listed : List Json}
    (products : Payload.get payload "products" = .list listed) (announces : Announces payload hasNext) :
    pageParts payload = .ok (listed, hasNext) := by
  obtain ⟨pagination, given, flag⟩ := announces
  simp only [pageParts, products, given, flag]

/-- A true count is accepted, unless it is beyond the cap. -/
theorem expectTotal_true {expected : Option Int}
    (told : Payload.get payload "num_products" = .null ∨ Tells payload rows.length)
    (before : ∀ total, expected = some total → total = rows.length) :
    (∃ next, expectTotal payload expected = .ok next ∧ ∀ total, next = some total → total = rows.length) ∨
      maxProducts < rows.length ∧ ∃ message, expectTotal payload expected = .error (catalogError message) := by
  rcases told with absent | tells
  · refine .inl ⟨expected, ?_, before⟩
    simp only [expectTotal, absent]
  · have same : expected.any ((rows.length : Int) ≠ ·) = false := by
      cases expected with
      | none => rfl
      | some total => simp [before total rfl]
    rw [Tells] at tells
    simp only [expectTotal, tells, same]
    rw [if_neg (by omega), if_neg Bool.false_ne_true]
    by_cases beyond : (maxProducts : Int) < rows.length
    · exact .inr ⟨by omega, _, if_pos beyond⟩
    · exact .inl ⟨_, if_neg beyond, fun total same => (Option.some.inj same).symm⟩

/-- The `n`-th page of such a server: more of the list, its end, or a count beyond the cap. -/
theorem readPage_slices {n : Nat} {reading : Reading} (wellFormed : WellFormed rows)
    (number : n < maxRequests)
    (products : Payload.get payload "products" = .list ((rows.drop (n * pageSize)).take pageSize))
    (announces : Announces payload (n * pageSize + pageSize < rows.length))
    (told : Payload.get payload "num_products" = .null ∨ Tells payload rows.length)
    (collected : Collected (rows.take (n * pageSize)) reading.products)
    (before : ∀ total, reading.expectedTotal = some total → total = rows.length) :
    (∃ next, readPage (n * pageSize) payload reading = .ok (.inl next) ∧
      (n + 1) * pageSize < rows.length ∧ Collected (rows.take ((n + 1) * pageSize)) next.products ∧
      ∀ total, next.expectedTotal = some total → total = rows.length) ∨
    (∃ products, readPage (n * pageSize) payload reading = .ok (.inr (sortedById products.values)) ∧
      rows.length ≤ (n + 1) * pageSize ∧ Collected rows products) ∨
    maxProducts < rows.length ∧
      ∃ message, readPage (n * pageSize) payload reading = .error (catalogError message) := by
  have parts := pageParts_eq products announces
  rcases expectTotal_true told before with ⟨total, expected, true_⟩ | ⟨beyond, message, refused⟩
  · have joined : rows.take (n * pageSize) ++ (rows.drop (n * pageSize)).take pageSize =
        rows.take ((n + 1) * pageSize) := by
      rw [Nat.succ_mul, List.take_add]
    have within : n * pageSize + pageSize ≤ maxProducts := by
      rw [← Nat.succ_mul]
      exact (Nat.mul_le_mul_right _ number).trans_eq (Nat.mul_comm ..)
    have short : ((rows.drop (n * pageSize)).take pageSize).length ≤ pageSize := List.length_take_le ..
    have distinct : (((rows.take ((n + 1) * pageSize)).filterMap eligible).map (·.productId)).Nodup :=
      (((List.take_sublist ..).filterMap _).map _).nodup wellFormed.eligible_distinct
    obtain ⟨next, added⟩ := addRows_ok collected
      (fun raw member => wellFormed.sane raw (List.mem_of_mem_drop (List.mem_of_mem_take member)))
      (joined ▸ distinct)
    have after := joined ▸ addRows_collected collected added
    by_cases more : n * pageSize + pageSize < rows.length
    · refine .inl ⟨⟨next, total⟩, readPage_ok.2 ⟨_, true, total, next, ?_, expected, fun _ => ?_, by omega,
        added, .inl ⟨rfl, rfl⟩⟩, by rwa [Nat.succ_mul], after, true_⟩
      · rw [parts, decide_eq_true more]
      · rw [List.length_take, List.length_drop]
        omega
    · have ends : rows.length ≤ (n + 1) * pageSize := by
        rw [Nat.succ_mul]
        omega
      rw [List.take_of_length_le ends] at after
      refine .inr (.inl ⟨next, readPage_ok.2 ⟨_, false, total, next, ?_, expected, nofun, by omega, added,
        .inr ⟨rfl, fun count same => ?_, rfl⟩⟩, ends, after⟩)
      · rw [parts, decide_eq_false more]
      · rw [true_ count same, List.length_take, List.length_drop]
        omega
  · refine .inr (.inr ⟨beyond, message, ?_⟩)
    rw [readPage, parts]
    exact bind_eq_error.2 (.inr ⟨_, rfl, bind_eq_error.2 (.inl refused)⟩)

/-- What is read of the whole list: its eligible products up to the cap, and an error beyond. -/
theorem readPages_slices (slices : Slices reader rows) (wellFormed : WellFormed rows) {k n : Nat}
    (reading : Reading) (left : n + k = maxRequests) (reached : n = 0 ∨ n * pageSize < rows.length)
    (collected : Collected (rows.take (n * pageSize)) reading.products)
    (before : ∀ total, reading.expectedTotal = some total → total = rows.length) :
    (rows.length ≤ maxProducts ∧ ∃ products, Collected rows products ∧
      (readPages reader (List.range' n k) reading).1 = .ok (sortedById products.values)) ∨
    maxProducts < rows.length ∧
      ∃ message, (readPages reader (List.range' n k) reading).1 = .error (catalogError message) := by
  induction k generalizing n reading with
  | zero =>
      refine .inr ⟨?_, _, rfl⟩
      rcases reached with none | more
      · rw [none] at left
        cases left
      · have all : n * pageSize = maxProducts := by
          rw [Nat.add_zero] at left
          rw [left, maxProducts, Nat.mul_comm]
        omega
  | succ k ih =>
      obtain ⟨payload, given, products, announces, told⟩ := slices n pageSize (n * pageSize)
      rw [List.range'_succ]
      unfold readPages
      simp only [given, Except.bind]
      rcases readPage_slices wellFormed (by omega) products announces told collected before with
        ⟨next, read, more, after, true_⟩ | ⟨products, read, ends, whole⟩ | ⟨beyond, message, refused⟩
      · rw [read]
        exact ih next (by omega) (.inr more) after true_
      · refine .inl ⟨ends.trans ?_, products, whole, by rw [read]⟩
        rw [maxProducts, Nat.mul_comm pageSize]
        exact Nat.mul_le_mul_right _ (by omega)
      · exact .inr ⟨beyond, message, by rw [refused]⟩

end Slicing

/-- Of a server that slices a list the catalog is the eligible part of it, sorted by id, when
there are no more products than the cap, and an error otherwise.  Ten requests are made at most.
Whatever the server, the pages behind a catalog tell of nothing that was not read. -/
theorem catalog_complete (reader : PublicProductReader) :
    (∀ rows, Slices reader rows → WellFormed rows →
      (rows.length ≤ maxProducts → ∃ catalog, (readCoinbaseCatalog reader).1 = .ok catalog ∧
        catalog.Perm (rows.filterMap eligible) ∧
        catalog.Pairwise fun a b => a.productId < b.productId) ∧
      (maxProducts < rows.length → ∃ error, (readCoinbaseCatalog reader).1 = .error error ∧
        error.typeName = "CoinbaseCatalogError")) ∧
    (readCoinbaseCatalog reader).2.length ≤ maxRequests ∧
    ∀ catalog, (readCoinbaseCatalog reader).1 = .ok catalog →
      ∃ pages, ReadWhole reader (readCoinbaseCatalog reader).2 pages catalog := by
  have start : readCoinbaseCatalog reader =
      readPages reader (List.range' 0 maxRequests) ⟨.empty, none⟩ := by
    rw [readCoinbaseCatalog, List.range_eq_range']
  refine ⟨fun rows slices wellFormed => ?_, ?_, fun catalog returned => ?_⟩
  · have all := readPages_slices slices wellFormed ⟨.empty, none⟩ (Nat.zero_add maxRequests)
      (.inl rfl) (by simpa using collected_nil) nofun
    rw [← start] at all
    rcases all with ⟨within, products, collected, read⟩ | ⟨beyond, message, refused⟩
    · obtain ⟨perm, sorted⟩ := sortedById_spec collected
      exact ⟨fun _ => ⟨_, read, perm, sorted⟩, fun more => absurd within (by omega)⟩
    · exact ⟨fun fewer => absurd beyond (by omega), fun _ => ⟨_, refused, rfl⟩⟩
  · have made := (readPages_requests reader (List.range maxRequests) ⟨.empty, none⟩).length_le
    rwa [List.length_map, List.length_range] at made
  · rw [start] at returned ⊢
    have none_ : ReadSoFar reader [] ⟨.empty, none⟩ := ⟨rfl, rfl, collected_nil, nofun⟩
    exact readPages_ok none_ returned

namespace TwoCoins

def row (productId base : String) (disabled : Bool) : Json :=
  .object [("product_id", .string productId), ("base_display_symbol", .string base),
    ("base_name", .string base), ("quote_currency_id", .string "USD"),
    ("product_type", .string "SPOT"), ("status", .string "online"),
    ("trading_disabled", .bool disabled), ("is_disabled", .bool false)]

def rows : List Json := [row "eth-usd" "ETH" false, row "XRP-USD" "XRP" true, row "BTC-USD" "BTC" false]

/-- A server that slices a list and tells its length. -/
def slicing (rows : List Json) : PublicProductReader := fun _ limit offset => .ok
  [("products", .list ((rows.drop offset).take limit)),
    ("pagination", .object [("has_next", .bool (offset + limit < rows.length))]),
    ("num_products", .int rows.length)]

theorem slicing_slices (rows : List Json) : Slices (slicing rows) rows := fun _ _ _ =>
  ⟨_, rfl, rfl, ⟨_, rfl, rfl⟩, .inr rfl⟩

theorem rows_wellFormed : WellFormed rows where
  sane := List.forall_mem_cons.2 ⟨⟨some ⟨"ETH-USD", "ETH", "ETH", "USD", "online"⟩, by decide⟩,
    List.forall_mem_cons.2 ⟨⟨none, by decide⟩, List.forall_mem_cons.2
      ⟨⟨some ⟨"BTC-USD", "BTC", "BTC", "USD", "online"⟩, by decide⟩, nofun⟩⟩⟩
  distinct := by decide

end TwoCoins

theorem catalog_complete_two : ∃ catalog,
    (readCoinbaseCatalog (TwoCoins.slicing TwoCoins.rows)).1 = .ok catalog ∧
      catalog.Perm (TwoCoins.rows.filterMap eligible) ∧
      catalog.Pairwise fun a b => a.productId < b.productId :=
  ((catalog_complete (TwoCoins.slicing TwoCoins.rows)).1 TwoCoins.rows (TwoCoins.slicing_slices _)
    TwoCoins.rows_wellFormed).1 (by decide)

end AlgoTrader.Brokers.CoinCatalog
