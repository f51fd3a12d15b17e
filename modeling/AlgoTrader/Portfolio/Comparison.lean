/-
# Portfolio.Comparison -- what a comparison misses and what it invents

A reconciliation is clean exactly when the orders, the fill ids, and the *last* row of
every symbol and asset agree.  Where a broker lists one asset in several rows, the rows
before the last are not compared.

* `reconcile_result` -- what a reconciliation returns is a function of the broker's answers;
* `clean_iff_rows` -- when that is no discrepancy at all;
* `reconcile_judges_iff` -- when that is the same as agreement in the totals.
-/
import Mathlib.Algebra.Group.Prod
import Mathlib.Data.List.Dedup
import AlgoTrader.Portfolio.Reconciliation
import AlgoTrader.Theory.Lives

namespace AlgoTrader.Portfolio

open AlgoTrader.Core Brokers Theory Process Risk

set_option autoImplicit false

/-! ## What a reconciliation returns -/

/-- One answer of a broker to each read. -/
structure BrokerAnswer where
  balances : List Balance
  positions : List Position
  order : String → Option Order
  fills : String → List Fill

/-- An event in which the broker answers so, if it answers. -/
def Answers (answer : BrokerAnswer) : DeskEvent → Prop
  | ⟨.read .getBalances, .ok balances, _, _⟩ => balances = answer.balances
  | ⟨.read .getPositions, .ok positions, _, _⟩ => positions = answer.positions
  | ⟨.read (.getOrder key), .ok order, _, _⟩ => order = answer.order key
  | ⟨.read (.getFills key), .ok fills, _, _⟩ => fills = answer.fills key
  | _ => True

/-- What the loop over the orders makes of one of them. -/
def BrokerAnswer.readOrder (answer : BrokerAnswer) (read : OrdersRead) (entry : String × Order) :
    OrdersRead :=
  match answer.order entry.1 with
  | none => read.missing entry.1 entry.2
  | some brokerOrder => (read.found entry.1 entry.2 brokerOrder).filled (answer.fills entry.1)

def BrokerAnswer.readOrders (answer : BrokerAnswer) (orders : Dict String Order) : OrdersRead :=
  orders.entries.foldl answer.readOrder .none

/-- Everything a comparison of a local state with an answer finds. -/
def BrokerAnswer.discrepancies (answer : BrokerAnswer) (local_ : PortfolioState) : List Discrepancy :=
  discrepanciesOf local_ answer.balances answer.positions (answer.readOrders local_.orders)

section Result

variable {around : Surroundings} {answer : BrokerAnswer}

/-- What a program gives when it returns. -/
def Returns {α : Type} (value : α) : Except Exc α → DeskMoment → Prop :=
  fun result _ => ∀ given, result = .ok given → given = value

theorem unavailable_returns {α : Type} {reason message : String} {value : α} {m : DeskMoment} :
    wp (deskLogic around (Answers answer)) (Returns value) (unavailable reason message) m :=
  wp_unavailable fun _ _ _ _ _ _ never => nomatch never

theorem readOrder_returns (key : String) (localOrder : Order) (read : OrdersRead) {m : DeskMoment} :
    wp (deskLogic around (Answers answer)) (Returns (answer.readOrder read (key, localOrder)))
      (readOrder key localOrder read) m := by
  refine wp_bind.2 (wp_attempt.2 (wp_desk fun reply after _ answers => ?_))
  match reply with
  | .error exc => exact unavailable_returns
  | .ok none =>
      have here : none = answer.order key := answers
      rintro given ⟨⟩
      simp only [BrokerAnswer.readOrder, ← here]
  | .ok (some brokerOrder) =>
      have here : some brokerOrder = answer.order key := answers
      refine wp_bind.2 (wp_attempt.2 (wp_desk fun reply' after' _ answers' => ?_))
      match reply' with
      | .error exc => exact unavailable_returns
      | .ok fills =>
          have there : fills = answer.fills key := answers'
          rintro given ⟨⟩
          simp only [BrokerAnswer.readOrder, ← here, there]

theorem readOrders_returns (orders : List (String × Order)) (read : OrdersRead) {m : DeskMoment} :
    wp (deskLogic around (Answers answer)) (Returns (orders.foldl answer.readOrder read))
      (readOrders orders read) m := by
  induction orders generalizing read m with
  | nil =>
      rintro given ⟨⟩
      rfl
  | cons first rest ih =>
      refine wp_bind.2 (wp_mono (readOrder_returns first.1 first.2 read) ?_)
      rintro (exc | next) m' returned
      · intro given never
        cases never
      · rw [returned next rfl]
        exact ih _

/-- A result that is as the answers make it. -/
def Judged (answer : BrokerAnswer) (local_ : PortfolioState) (value : ReconciliationResult) : Prop :=
  value.discrepancies = answer.discrepancies local_ ∧
    value.authoritative.positions = answer.positions ∧ value.authoritative.balances = answer.balances

theorem readHoldings_returns {m : DeskMoment} :
    wp (deskLogic around (Answers answer)) (Returns (answer.balances, answer.positions))
      readHoldings m := by
  refine wp_bind.2 (wp_desk fun reply after _ answers => ?_)
  match reply with
  | .error exc => exact fun _ never => nomatch never
  | .ok balances =>
      have here : balances = answer.balances := answers
      refine wp_bind.2 (wp_desk fun reply' after' _ answers' => ?_)
      match reply' with
      | .error exc => exact fun _ never => nomatch never
      | .ok positions =>
          have there : positions = answer.positions := answers'
          rintro given ⟨⟩
          rw [here, there]

theorem reconcile_returns (wiring : Wiring) (local_ : PortfolioState) {m : DeskMoment} :
    wp (deskLogic around (Answers answer)) (fun result _ => ∀ value, result = .ok value →
      Judged answer local_ value) (reconcile wiring local_) m := by
  refine wp_bind.2 (wp_attempt.2 (wp_mono readHoldings_returns ?_))
  rintro (exc | ⟨balances, positions⟩) m₁ holdings
  · exact wp_unavailable fun _ _ _ _ _ _ never => nomatch never
  cases holdings _ rfl
  refine wp_bind.2 (wp_mono (readOrders_returns local_.orders.entries .none) ?_)
  rintro (exc | read) m₂ returned
  · exact fun _ never => nomatch never
  cases returned _ rfl
  refine wp_mono (respond_returns wiring _ _) ?_
  intro result m₃ responded value given
  obtain ⟨found, authoritative⟩ := responded value given
  exact ⟨found, by rw [authoritative], by rw [authoritative]⟩

end Result

/-- What a complete reconciliation returns is a function of the broker's answers. -/
theorem reconcile_result {around : Surroundings} {answer : BrokerAnswer} {wiring : Wiring}
    {local_ : PortfolioState} {world : DeskWorld} {final : DeskMoment} {value : ReconciliationResult}
    (run : (reconcile wiring local_).Runs (DeskServe around) ⟨world, []⟩ (.ok value) final)
    (answers : ∀ e ∈ final.events, Answers answer e) : Judged answer local_ value :=
  desk_run run answers (reconcile_returns wiring local_) value rfl

/-! ## Rows of one key -/

section Rows

variable {α G : Type} [AddCommGroup G] (amount : α → G) (clash : α → α → Prop)

def total (rows : List α) : G := (rows.map amount).sum

/-- Neither side has a row, or the last rows agree. -/
def LastAgree (ours theirs : List α) : Prop :=
  (ours = [] ∧ theirs = []) ∨
    ∃ a ∈ ours.getLast?, ∃ b ∈ theirs.getLast?, amount a = amount b ∧ ¬clash a b

def NoClash (ours theirs : List α) : Prop := ∀ a ∈ ours, ∀ b ∈ theirs, ¬clash a b

def TotalsAgree (ours theirs : List α) : Prop :=
  total amount ours = total amount theirs ∧ NoClash clash ours theirs

/-- The rows before the last add up to the same. -/
def EarlierAgree (ours theirs : List α) : Prop :=
  total amount ours.dropLast = total amount theirs.dropLast

variable {amount clash} {ours theirs : List α}

theorem total_split {rows : List α} {a : α} (last : a ∈ rows.getLast?) :
    total amount rows = total amount rows.dropLast + amount a := by
  conv_lhs => rw [← List.dropLast_append_getLast? a last]
  simp [total]

theorem exists_last {rows : List α} (present : rows ≠ []) : ∃ a, a ∈ rows.getLast? :=
  ⟨rows.getLast present, List.getLast?_eq_getLast_of_ne_nil present⟩

/-- Where the last rows agree, the totals agree exactly when what stands before them does. -/
theorem totals_of_last (last : LastAgree amount clash ours theirs) :
    TotalsAgree amount clash ours theirs ↔
      EarlierAgree amount ours theirs ∧ NoClash clash ours theirs := by
  rcases last with ⟨rfl, rfl⟩ | ⟨a, lastOurs, b, lastTheirs, same, _⟩
  · simp [TotalsAgree, EarlierAgree]
  · simp only [TotalsAgree, EarlierAgree, total_split lastOurs, total_split lastTheirs, same,
      add_left_inj]

/-- Where the totals agree, the last rows agree exactly when both sides have one and what
stands before them agrees. -/
theorem last_of_totals (totals : TotalsAgree amount clash ours theirs) :
    LastAgree amount clash ours theirs ↔
      (ours = [] ↔ theirs = []) ∧ EarlierAgree amount ours theirs := by
  constructor
  · intro last
    refine ⟨?_, ((totals_of_last last).1 totals).1⟩
    rcases last with ⟨rfl, rfl⟩ | ⟨a, lastOurs, b, lastTheirs, _⟩
    · simp
    · constructor
      · rintro rfl
        cases lastOurs
      · rintro rfl
        cases lastTheirs
  · rintro ⟨both, earlier⟩
    by_cases none : ours = []
    · exact .inl ⟨none, both.1 none⟩
    · obtain ⟨a, lastOurs⟩ := exists_last none
      obtain ⟨b, lastTheirs⟩ := exists_last (mt both.2 none)
      have same : amount a = amount b := by
        have sums := totals.1
        rw [total_split lastOurs, total_split lastTheirs, show total amount ours.dropLast = _ from earlier]
          at sums
        exact add_left_cancel sums
      exact .inr ⟨a, lastOurs, b, lastTheirs, same, totals.2 a (List.mem_of_getLast? lastOurs) b
        (List.mem_of_getLast? lastTheirs)⟩

end Rows

/-! ## When a comparison finds nothing -/

/-- The rows of one key, in their order. -/
def rowsOf {α : Type} (key : α → String) (rows : List α) (k : String) : List α :=
  rows.filter fun item => key item = k

theorem get?_keyed {α : Type} (key : α → String) (rows : List α) (k : String) :
    (keyed key rows).get? k = (rowsOf key rows k).getLast? := by
  rw [keyed, Dict.get?_ofList, List.filter_map, List.getLast?_map, Option.map_map]
  simp [rowsOf, Function.comp_def]

theorem mem_unionKeys {α β : Type} {left : Dict String α} {right : Dict String β} {key : String} :
    key ∈ unionKeys left right ↔ (left.get? key).isSome ∨ (right.get? key).isSome := by
  rw [unionKeys, (List.perm_insertionSort _ _).mem_iff, List.mem_dedup, List.mem_append,
    Dict.isSome_get?, Dict.isSome_get?]

theorem compareRows_nil {α : Type} {entityType : EntityType} {read : α → Reading}
    {differ : Option α → Option α → Prop} [∀ ours theirs, Decidable (differ ours theirs)]
    {ours theirs : Dict String α} :
    compareRows entityType read differ ours theirs = [] ↔
      ∀ key, (ours.get? key).isSome ∨ (theirs.get? key).isSome →
        ¬differ (ours.get? key) (theirs.get? key) := by
  simp only [compareRows, List.map_eq_nil_iff, List.filter_eq_nil_iff, mem_unionKeys,
    decide_eq_true_eq]

/-- Two sides with a row each, which differ in an amount or clash. -/
def RowsDiffer {α G : Type} (amount : α → G) (clash : α → α → Prop)
    (differ : Option α → Option α → Prop) : Prop :=
  (∀ a b, differ (some a) (some b) ↔ amount a ≠ amount b ∨ clash a b) ∧
    ∀ ours theirs, ours = none ∨ theirs = none → differ ours theirs

theorem lastAgree_iff {α G : Type} [AddCommGroup G] {amount : α → G} {clash : α → α → Prop}
    {differ : Option α → Option α → Prop} (rows : RowsDiffer amount clash differ)
    (ours theirs : List α) :
    (ours.getLast?.isSome ∨ theirs.getLast?.isSome → ¬differ ours.getLast? theirs.getLast?) ↔
      LastAgree amount clash ours theirs := by
  unfold LastAgree
  cases here : ours.getLast? with
  | none =>
      rw [List.getLast?_eq_none_iff] at here
      cases there : theirs.getLast? with
      | none =>
          rw [List.getLast?_eq_none_iff] at there
          simp [here, there]
      | some b =>
          have present : theirs ≠ [] := by
            rintro rfl
            cases there
          simp [rows.2 none (some b) (.inl rfl), present]
  | some a =>
      have present : ours ≠ [] := by
        rintro rfl
        cases here
      cases there : theirs.getLast? with
      | none => simp [rows.2 (some a) none (.inr rfl), present]
      | some b => simp [rows.1 a b, present]

def positionAmount (item : Position) : Decimal := item.quantity

def positionClash (ours theirs : Position) : Prop := pricesDiffer ours.averagePrice theirs.averagePrice

def balanceAmount (item : Balance) : Decimal × Decimal := (item.available.1, item.hold.1)

/-- Balances have nothing besides their amounts. -/
def balanceClash (_ _ : Balance) : Prop := False

theorem positionsDiffer_rows : RowsDiffer positionAmount positionClash PositionsDiffer := by
  refine ⟨fun a b => Iff.rfl, ?_⟩
  rintro ours theirs (rfl | rfl)
  · trivial
  · cases ours <;> trivial

theorem balancesDiffer_rows : RowsDiffer balanceAmount balanceClash BalancesDiffer := by
  constructor
  · intro a b
    simp only [BalancesDiffer, balanceAmount, balanceClash, ne_eq, Prod.mk.injEq, or_false,
      not_and_or, Subtype.ext_iff]
  · rintro ours theirs (rfl | rfl)
    · trivial
    · cases ours <;> trivial

theorem comparePositions_nil {ours theirs : List Position} :
    comparePositions ours theirs = [] ↔ ∀ symbol, LastAgree positionAmount positionClash
      (rowsOf Position.symbol ours symbol) (rowsOf Position.symbol theirs symbol) := by
  simp only [comparePositions, compareRows_nil, get?_keyed, lastAgree_iff positionsDiffer_rows]

theorem compareBalances_nil {ours theirs : List Balance} :
    compareBalances ours theirs = [] ↔ ∀ asset, LastAgree balanceAmount balanceClash
      (rowsOf Balance.asset ours asset) (rowsOf Balance.asset theirs asset) := by
  simp only [compareBalances, compareRows_nil, get?_keyed, lastAgree_iff balancesDiffer_rows]

theorem compareFills_nil {ours theirs : Dict String Fill} :
    compareFills ours theirs = [] ↔ ∀ id, id ∈ ours.keys ↔ id ∈ theirs.keys := by
  simp only [compareFills, List.append_eq_nil_iff, List.map_eq_nil_iff, List.filter_eq_nil_iff,
    decide_eq_true_eq, not_not, Dict.mem_keys, Prod.forall]
  constructor
  · rintro ⟨left, right⟩ id
    exact ⟨fun ⟨fill, member⟩ => left id fill member, fun ⟨fill, member⟩ => right id fill member⟩
  · intro same
    exact ⟨fun id fill member => (same id).1 ⟨fill, member⟩,
      fun id fill member => (same id).2 ⟨fill, member⟩⟩

/-! ## Orders and fills -/

/-- Every tracked order exists at the broker, with the same status and filled quantity. -/
def OrdersAgree (local_ : PortfolioState) (answer : BrokerAnswer) : Prop :=
  ∀ entry ∈ local_.orders.entries, ∃ brokerOrder, answer.order entry.1 = some brokerOrder ∧
    brokerOrder.status = entry.2.status ∧ brokerOrder.filledQuantity = entry.2.filledQuantity

/-- The fill ids are those the broker has for the tracked orders. -/
def FillIdsAgree (local_ : PortfolioState) (answer : BrokerAnswer) : Prop :=
  ∀ id, id ∈ local_.fills.keys ↔
    ∃ entry ∈ local_.orders.entries, ∃ fill ∈ answer.fills entry.1, fill.fillId = id

theorem compareOrder_nil {key : String} {localOrder brokerOrder : Order} :
    compareOrder key localOrder brokerOrder = [] ↔ brokerOrder.status = localOrder.status ∧
      brokerOrder.filledQuantity = localOrder.filledQuantity := by
  unfold compareOrder
  split
  · rename_i differ
    simp only [List.cons_ne_nil, false_iff, not_and_or]
    exact differ
  · rename_i same
    simpa [not_or] using same

section Fold

variable (answer : BrokerAnswer)

theorem foldl_discrepancies (orders : List (String × Order)) (read : OrdersRead) :
    (orders.foldl answer.readOrder read).discrepancies = [] ↔ read.discrepancies = [] ∧
      ∀ entry ∈ orders, ∃ brokerOrder, answer.order entry.1 = some brokerOrder ∧
        brokerOrder.status = entry.2.status ∧
        brokerOrder.filledQuantity = entry.2.filledQuantity := by
  induction orders generalizing read with
  | nil => simp
  | cons first rest ih =>
      rw [List.foldl_cons, ih]
      cases found : answer.order first.1 with
      | none => simp [BrokerAnswer.readOrder, found, OrdersRead.missing]
      | some brokerOrder =>
          simp [BrokerAnswer.readOrder, found, OrdersRead.found, OrdersRead.filled,
            compareOrder_nil, and_assoc]

theorem foldl_fills (orders : List (String × Order)) (read : OrdersRead) (id : String) :
    id ∈ (orders.foldl answer.readOrder read).fills.keys ↔ id ∈ read.fills.keys ∨
      ∃ entry ∈ orders, (answer.order entry.1).isSome ∧
        ∃ fill ∈ answer.fills entry.1, fill.fillId = id := by
  induction orders generalizing read with
  | nil => simp
  | cons first rest ih =>
      rw [List.foldl_cons, ih]
      cases found : answer.order first.1 with
      | none => simp [BrokerAnswer.readOrder, found, OrdersRead.missing]
      | some brokerOrder =>
          simp only [BrokerAnswer.readOrder, found, OrdersRead.found, OrdersRead.filled,
            Dict.mem_keys_foldl_set Fill.fillId (fun fill => fill), List.exists_mem_cons_iff,
            Option.isSome_some, true_and, or_assoc]

end Fold

/-! ## Agreement -/

section Agreement

variable (local_ : PortfolioState) (answer : BrokerAnswer)

/-- Symbol by symbol and asset by asset, a property of the rows of both sides. -/
def Everywhere (ofPositions : List Position → List Position → Prop)
    (ofBalances : List Balance → List Balance → Prop) : Prop :=
  (∀ symbol, ofPositions (rowsOf Position.symbol local_.positions symbol)
    (rowsOf Position.symbol answer.positions symbol)) ∧
  ∀ asset, ofBalances (rowsOf Balance.asset local_.balances asset)
    (rowsOf Balance.asset answer.balances asset)

def LastRowsAgree : Prop :=
  Everywhere local_ answer (LastAgree positionAmount positionClash)
    (LastAgree balanceAmount balanceClash)

/-- The totals agree, and so do the average prices that both sides know. -/
def AllTotalsAgree : Prop :=
  Everywhere local_ answer (TotalsAgree positionAmount positionClash)
    (TotalsAgree balanceAmount balanceClash)

/-- What a clean reconciliation is meant to say. -/
structure Agrees : Prop where
  orders : OrdersAgree local_ answer
  fills : FillIdsAgree local_ answer
  totals : AllTotalsAgree local_ answer

/-- Every last row agrees, and something before it does not. -/
def Misses : Prop :=
  LastRowsAgree local_ answer ∧ ¬Everywhere local_ answer
    (fun ours theirs => EarlierAgree positionAmount ours theirs ∧ NoClash positionClash ours theirs)
    (EarlierAgree balanceAmount)

/-- Every total agrees, and some key is listed by one side only, or the rows before its
last one add up differently. -/
def Invents : Prop :=
  AllTotalsAgree local_ answer ∧ ¬Everywhere local_ answer
    (fun ours theirs => (ours = [] ↔ theirs = []) ∧ EarlierAgree positionAmount ours theirs)
    (fun ours theirs => (ours = [] ↔ theirs = []) ∧ EarlierAgree balanceAmount ours theirs)

/-- The orders and the fills give nothing to report, and the rows of some key mislead. -/
def Misjudged : Prop :=
  OrdersAgree local_ answer ∧ FillIdsAgree local_ answer ∧
    (Misses local_ answer ∨ Invents local_ answer)

variable {local_ answer}

/-- Nothing is found exactly when the orders, the fill ids and the last rows agree. -/
theorem clean_iff_rows : answer.discrepancies local_ = [] ↔
    OrdersAgree local_ answer ∧ FillIdsAgree local_ answer ∧ LastRowsAgree local_ answer := by
  have orders : (answer.readOrders local_.orders).discrepancies = [] ↔ OrdersAgree local_ answer := by
    rw [BrokerAnswer.readOrders, foldl_discrepancies]
    simp [OrdersRead.none, OrdersAgree]
  have fills : OrdersAgree local_ answer →
      ((∀ id, id ∈ local_.fills.keys ↔ id ∈ (answer.readOrders local_.orders).fills.keys) ↔
        FillIdsAgree local_ answer) := by
    intro found
    refine forall_congr' fun id => iff_congr Iff.rfl ?_
    rw [BrokerAnswer.readOrders, foldl_fills]
    constructor
    · rintro (never | ⟨entry, member, _, fill, filled, same⟩)
      · cases never
      · exact ⟨entry, member, fill, filled, same⟩
    · rintro ⟨entry, member, fill, filled, same⟩
      obtain ⟨brokerOrder, exists_, _⟩ := found entry member
      exact .inr ⟨entry, member, by rw [exists_]; rfl, fill, filled, same⟩
  simp only [BrokerAnswer.discrepancies, discrepanciesOf, List.append_eq_nil_iff, orders,
    comparePositions_nil, compareBalances_nil, compareFills_nil]
  constructor
  · rintro ⟨⟨⟨agree, positions⟩, balances⟩, ids⟩
    exact ⟨agree, (fills agree).1 ids, positions, balances⟩
  · rintro ⟨agree, ids, positions, balances⟩
    exact ⟨⟨⟨agree, positions⟩, balances⟩, (fills agree).2 ids⟩

theorem everywhere_congr {ofPositions ofPositions' : List Position → List Position → Prop}
    {ofBalances ofBalances' : List Balance → List Balance → Prop}
    {positions : List Position → List Position → Prop} {balances : List Balance → List Balance → Prop}
    (given : Everywhere local_ answer positions balances)
    (samePositions : ∀ ours theirs, positions ours theirs →
      (ofPositions ours theirs ↔ ofPositions' ours theirs))
    (sameBalances : ∀ ours theirs, balances ours theirs →
      (ofBalances ours theirs ↔ ofBalances' ours theirs)) :
    Everywhere local_ answer ofPositions ofBalances ↔
      Everywhere local_ answer ofPositions' ofBalances' :=
  and_congr (forall_congr' fun symbol => samePositions _ _ (given.1 symbol))
    (forall_congr' fun asset => sameBalances _ _ (given.2 asset))

theorem noClash_balances (ours theirs : List Balance) : NoClash balanceClash ours theirs :=
  fun _ _ _ _ never => never

/-- Where the last rows agree, the totals may still differ in what stands before them. -/
theorem misses_iff : Misses local_ answer ↔
    LastRowsAgree local_ answer ∧ ¬AllTotalsAgree local_ answer := by
  refine and_congr_right fun last => not_congr ?_
  refine (everywhere_congr last (fun _ _ here => totals_of_last here) fun ours theirs here => ?_).symm
  rw [totals_of_last here]
  exact ⟨fun both => both.1, fun earlier => ⟨earlier, noClash_balances ours theirs⟩⟩

theorem invents_iff : Invents local_ answer ↔
    AllTotalsAgree local_ answer ∧ ¬LastRowsAgree local_ answer := by
  refine and_congr_right fun totals => not_congr ?_
  exact (everywhere_congr totals (fun _ _ here => last_of_totals here)
    fun _ _ here => last_of_totals here).symm

/-- The comparison judges an answer as it is meant to, unless the rows of a key mislead. -/
theorem judges_iff : (answer.discrepancies local_ = [] ↔ Agrees local_ answer) ↔
    ¬Misjudged local_ answer := by
  have meant : Agrees local_ answer ↔
      OrdersAgree local_ answer ∧ FillIdsAgree local_ answer ∧ AllTotalsAgree local_ answer :=
    ⟨fun agrees => ⟨agrees.orders, agrees.fills, agrees.totals⟩,
      fun ⟨orders, fills, totals⟩ => ⟨orders, fills, totals⟩⟩
  rw [clean_iff_rows, meant, Misjudged, misses_iff, invents_iff]
  tauto

end Agreement

/-- A reconciliation reports no discrepancy exactly when the two sides agree, unless the
rows of some symbol or asset mislead. -/
theorem reconcile_judges_iff {around : Surroundings} {answer : BrokerAnswer} {wiring : Wiring}
    {local_ : PortfolioState} {world : DeskWorld} {final : DeskMoment} {value : ReconciliationResult}
    (run : (reconcile wiring local_).Runs (DeskServe around) ⟨world, []⟩ (.ok value) final)
    (answers : ∀ e ∈ final.events, Answers answer e) :
    (value.discrepancies = [] ↔ Agrees local_ answer) ↔ ¬Misjudged local_ answer := by
  rw [(reconcile_result run answers).1]
  exact judges_iff

/-- A broker that answers so, and nothing else happens. -/
def BrokerAnswer.cast (answer : BrokerAnswer) : DeskCast where
  read
    | .getBalances, m => (.ok answer.balances, m.world.venue)
    | .getPositions, m => (.ok answer.positions, m.world.venue)
    | .getOrder key, m => (.ok (answer.order key), m.world.venue)
    | .getFills key, m => (.ok (answer.fills key), m.world.venue)

theorem BrokerAnswer.cast_answers (answer : BrokerAnswer) (op : DeskOp) (m : DeskMoment) :
    Answers answer (m.event (S := deskEffects) op (answer.cast.script op m).1
      (answer.cast.script op m).2) := by
  match op with
  | .read .getBalances => exact rfl
  | .read .getPositions => exact rfl
  | .read (.getOrder key) => exact rfl
  | .read (.getFills key) => exact rfl
  | .report op => trivial
  | .schedule op => trivial
  | .trip reason => trivial

def dollars (available : NonNegativeDecimal) : Balance where
  asset := "USD"
  available
  hold := ⟨0, decimal_zero⟩
  asOf := 0

/-- One dollar in each of two accounts, which the broker lists apart. -/
def twoAccounts : BrokerAnswer where
  balances := [dollars ⟨1, decimal_filled_one⟩, dollars ⟨1, decimal_filled_one⟩]
  positions := []
  order _ := none
  fills _ := []

def oneDollar : PortfolioState := ⟨.empty, .empty, [], [dollars ⟨1, decimal_filled_one⟩]⟩

def unwired : Wiring := ⟨false, false, false, false, false, .empty⟩

def comparedAccounts : Except Exc ReconciliationResult × DeskMoment :=
  (reconcile unwired oneDollar).play twoAccounts.cast.script ⟨.start, []⟩

theorem comparedAccounts_runs : (reconcile unwired oneDollar).Runs (DeskServe unreliable)
    ⟨.start, []⟩ comparedAccounts.1 comparedAccounts.2 :=
  Prog.play_runs (unreliable_sound _) _ _

theorem comparedAccounts_answers : ∀ e ∈ comparedAccounts.2.events, Answers twoAccounts e :=
  forall_of_along (Prog.play_along (fun op m => twoAccounts.cast_answers op m) _ trivial)

theorem comparedAccounts_returns : ∃ value, comparedAccounts.1 = .ok value := by
  have returned : comparedAccounts.1.toBool = true := by decide +kernel
  cases outcome : comparedAccounts.1 with
  | ok value => exact ⟨value, rfl⟩
  | error exc =>
      rw [outcome] at returned
      cases returned

theorem reconcile_judges_iff_accounts : ∃ value, comparedAccounts.1 = .ok value ∧
    ((value.discrepancies = [] ↔ Agrees oneDollar twoAccounts) ↔ ¬Misjudged oneDollar twoAccounts) := by
  obtain ⟨value, returned⟩ := comparedAccounts_returns
  have run := comparedAccounts_runs
  rw [returned] at run
  exact ⟨value, returned, reconcile_judges_iff run comparedAccounts_answers⟩

/-- The broker holds a dollar more than expected, and nothing is reported. -/
theorem second_account_missed : ∃ value final,
    (reconcile unwired oneDollar).Runs (DeskServe unreliable) ⟨.start, []⟩ (.ok value) final ∧
      (∀ e ∈ final.events, Answers twoAccounts e) ∧
      ¬(value.discrepancies = [] ↔ Agrees oneDollar twoAccounts) := by
  obtain ⟨value, returned⟩ := comparedAccounts_returns
  have run := comparedAccounts_runs
  rw [returned] at run
  have nothing : (twoAccounts.discrepancies oneDollar).isEmpty = true := by decide
  have clean : value.discrepancies = [] := by
    rw [(reconcile_result run comparedAccounts_answers).1]
    exact List.isEmpty_iff.1 nothing
  refine ⟨value, _, run, comparedAccounts_answers, fun judged => ?_⟩
  have totals := ((judged.1 clean).totals.2 "USD").1
  exact absurd totals (by decide +kernel)

end AlgoTrader.Portfolio
