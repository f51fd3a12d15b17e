/-
# Brokers.SimulatedRuns -- what the calls of the local broker do to its tables

Every call is a chain of few changes: an order is entered without fills, a fill is made for an order
that is there, a timed-out order is dropped, or nothing of the accounts is touched.

* `call_walks` -- the changes a trading call is made of, and that it raises nothing unexpected where
  its fills do not;
* `Kept.change` -- what every change keeps of the tables, whether its fill raises or not;
* `Reached.invariant` -- the rule for runs.
-/
import Mathlib.Logic.Relation
import AlgoTrader.Brokers.SimulatedFills

namespace AlgoTrader.Brokers.Simulated

open AlgoTrader.Core
open AlgoTrader.Portfolio (Leg legs legsOf movedIn movedIn_cons movedIn_append)
open AlgoTrader.Theory

set_option autoImplicit false

namespace SimulatedBroker

variable {setup : Setup}

/-! ## Changes -/

/-- The fee of a fill is charged to the asset that the fill names: no blanks stand around its name, or
there is no fee. -/
def Settles (config : SimulationConfig) : Prop :=
  config.feeRate.1 = 0 ∨ trimmed config.feeAsset = config.feeAsset

/-- The outcome of a submission is unknown. -/
def asks (broker : SimulatedBroker) (request : OrderRequest) : SimulatedBroker :=
  { broker with unknownRequests := broker.unknownRequests.set request.clientOrderId.str request }

/-- A condition on the fills of a request: on what is held of its symbol, and on the quantity and
the price of the fill. -/
abbrev Fitting := Decimal → OrderRequest → Decimal → Decimal → Prop

variable (setup) (fit : Fitting)

/-- A change of the tables.  An order that is entered has no fills, and one that is dropped has none
either. -/
inductive Change (broker : SimulatedBroker) : SimulatedBroker → Prop where
  | aside {after : SimulatedBroker} (same : Untouched broker after) : Change broker after
  | enters (order : Order) (absent : broker.orders.get? order.request.clientOrderId.str = none)
      (unfilled : order.filledQuantity.1 = 0) (unfinished : order.status ≠ .filled) :
      Change broker (broker.enters order)
  | asks (request : OrderRequest) : Change broker (broker.asks request)
  | forgets (key : String) (unfilled : broker.fillsOf key = []) : Change broker (broker.forgets key)
  | fills (order : Order) (quantity price : PositiveDecimal)
      (current : broker.orders.get? order.request.clientOrderId.str = some order)
      (within : order.filledQuantity.1 + quantity.1 ≤ order.request.quantity.1)
      (fits : fit (broker.position order.request.symbol).1 order.request quantity price) :
      Change broker (applyFill setup broker order quantity price).2

abbrev Changes : SimulatedBroker → SimulatedBroker → Prop := Relation.ReflTransGen (Change setup fit)

/-- Fills that are fit raise nothing. -/
def Sound : Prop := ∀ broker (order : Order) (quantity : PositiveDecimal) (price : Decimal),
  fit (broker.position order.request.symbol).1 order.request quantity price →
    ∃ updated, (applyFill setup broker order quantity price).1 = .ok updated

/-- What a call is made of, and what it raises where its fills raise nothing. -/
structure Walks {α : Type} (broker : SimulatedBroker) (outcome : Outcome α) : Prop where
  changes : Changes setup fit broker outcome.2
  expected : Sound setup fit → ∀ exc, outcome.1 ≠ .error (.other exc)

variable {setup} {fit}

section Walking

variable {α β : Type} {broker after : SimulatedBroker}

theorem Walks.ok (value : α) : Walks setup fit broker (.ok value, broker) :=
  ⟨.refl, fun _ _ never => by cases never⟩

theorem Walks.simulated (message : String) (fault : SimulatedFault) (order : Option Order)
    (retryAfter : Option Decimal) :
    Walks (α := α) setup fit broker (.error (.simulated message fault order retryAfter), broker) :=
  ⟨.refl, fun _ _ never => by cases never⟩

theorem Walks.approval (typeName message : String) :
    Walks (α := α) setup fit broker (.error (.approval typeName message), broker) :=
  ⟨.refl, fun _ _ never => by cases never⟩

theorem Walks.onward {outcome : Outcome α} (changes : Changes setup fit broker after)
    (walks : Walks setup fit after outcome) : Walks setup fit broker outcome :=
  ⟨changes.trans walks.changes, walks.expected⟩

theorem Walks.andThen {outcome : Outcome α} {next : α → SimulatedBroker → Outcome β}
    (first : Walks setup fit broker outcome)
    (rest : ∀ value, outcome.1 = .ok value → Walks setup fit outcome.2 (next value outcome.2)) :
    Walks setup fit broker (outcome.andThen next) := by
  obtain ⟨result, after⟩ := outcome
  cases result with
  | ok value => exact ⟨first.changes.trans (rest value rfl).changes, (rest value rfl).expected⟩
  | error raised =>
      refine ⟨first.changes, fun sound exc other => first.expected sound exc ?_⟩
      cases other
      rfl

end Walking

variable {broker : SimulatedBroker}

theorem applyFill_walks {order : Order} {quantity price : Decimal} (positive : 0 < quantity)
    (current : broker.orders.get? order.request.clientOrderId.str = some order)
    (within : order.filledQuantity.1 + quantity ≤ order.request.quantity.1)
    (fits : fit (broker.position order.request.symbol).1 order.request quantity price) :
    Walks setup fit broker (applyFill setup broker order quantity price) where
  changes := by
    by_cases valid : 0 < price
    · exact .single (.fills order ⟨quantity, positive⟩ ⟨price, valid⟩ current within fits)
    · exact .single (.aside (applyFill_invalid fun both => valid both.2))
  expected := by
    intro sound exc other
    obtain ⟨updated, done⟩ := sound broker order ⟨quantity, positive⟩ price fits
    rw [done] at other
    cases other

variable (setup) (fit) in
/-- The next step of an order is fit. -/
def NextFits (broker : SimulatedBroker) (order : Order) : Prop :=
  ∀ quantity, steps setup broker order quantity →
    fit (broker.position order.request.symbol).1 order.request quantity (limitOf order.request)

theorem fillNextLimit_walks {order : Order}
    (current : broker.orders.get? order.request.clientOrderId.str = some order)
    (fits : NextFits setup fit broker order) : Walks setup fit broker (fillNextLimit setup broker order) := by
  rcases fillNextLimit_cases setup broker order with ⟨quantity, step, here⟩ | ⟨-, after, same, -, -, here⟩
  · rw [here]
    refine .onward (.single (.aside (indexed_untouched order.request.clientOrderId.str))) ?_
    obtain ⟨_, _, _, positive⟩ := id step
    exact applyFill_walks positive current (steps_within step) (fits quantity step)
  · rw [here]
    exact .onward (.single (.aside same)) (.ok order)

/-! ## Calls -/

variable (setup) (fit)

/-- The fill a request starts with, if it starts with one, is fit. -/
def Acceptable (broker : SimulatedBroker) (request : OrderRequest) : Prop :=
  match request.orderType with
  | .market => fit (broker.position request.symbol).1 request request.quantity
      (marketPrice setup broker request.side)
  | .limit => broker.limitIsMarketable request → ∀ ratio,
      setup.config.partialFillSchedule[0]? = some ratio →
        fit (broker.position request.symbol).1 request (request.quantity * ratio) (limitOf request)

/-- Faults that let an order through. -/
def passes : Option SimulatedFault → Bool
  | none | some .duplicateAck | some .outOfOrderFills => true
  | some _ => false

/-- A submission enters an order that can be filled. -/
def Submits (broker : SimulatedBroker) (request : OrderRequest) (approval : RiskApproval) : Prop :=
  setup.alwaysUnavailable = false ∧ approval.signalId = request.signalId ∧ approval.approved = true ∧
    broker.orders.get? request.clientOrderId.str = none ∧ passes (broker.faults .submit).head? = true

/-- A question for an order is answered. -/
def Responds (broker : SimulatedBroker) : Prop :=
  setup.alwaysUnavailable = false ∧
    ((broker.faults .getOrder).head? = none ∨ (broker.faults .getOrder).head? = some .outOfOrderFills)

/-- Every step that `advance` makes is fit, each where the ones before have left it. -/
def DuesFit : SimulatedBroker → List Order → Prop
  | _, [] => True
  | broker, order :: rest =>
      if broker.due order then
        NextFits setup fit broker order ∧ DuesFit (fillNextLimit setup broker order).2 rest
      else DuesFit broker rest

variable {setup} {fit}

theorem newOrder_unfilled (request : OrderRequest) (status : OrderStatus) :
    (newOrder setup broker request status).filledQuantity.1 = 0 := rfl

/-- An order that is entered with the first step of the schedule ahead. -/
def begins (setup : Setup) (broker : SimulatedBroker) (request : OrderRequest) : SimulatedBroker :=
  { broker.enters (newOrder setup broker request .open) with
    limitScheduleIndex := broker.limitScheduleIndex.set request.clientOrderId.str 0 }

theorem begins_changes {request : OrderRequest}
    (absent : broker.orders.get? request.clientOrderId.str = none) :
    Changes setup fit broker (begins setup broker request) := by
  have quiet : Untouched (broker.enters (newOrder setup broker request .open)) (begins setup broker request) :=
    .of_quiet rfl rfl rfl rfl rfl rfl
  refine .tail (.single (.enters (newOrder setup broker request .open) absent rfl ?_)) (.aside quiet)
  simp [newOrder]

theorem acceptOrder_eq (setup : Setup) (broker : SimulatedBroker) (request : OrderRequest) :
    acceptOrder setup broker request =
      if request.orderType = .market then
        applyFill setup (begins setup broker request) (newOrder setup broker request .open) request.quantity
          (marketPrice setup broker request.side)
      else if broker.limitIsMarketable request then
        fillNextLimit setup (begins setup broker request) (newOrder setup broker request .open)
      else (.ok (newOrder setup broker request .open), begins setup broker request) := rfl

theorem acceptOrder_walks {request : OrderRequest}
    (absent : broker.orders.get? request.clientOrderId.str = none)
    (fits : Acceptable setup fit broker request) :
    Walks setup fit broker (acceptOrder setup broker request) := by
  have current : (begins setup broker request).orders.get? request.clientOrderId.str =
      some (newOrder setup broker request .open) := Dict.get?_set_self _ _ _
  have index : (begins setup broker request).indexOf request.clientOrderId.str = 0 := by
    simp [begins, indexOf]
  have held : (begins setup broker request).position request.symbol = broker.position request.symbol := rfl
  refine .onward (begins_changes absent) ?_
  rw [acceptOrder_eq]
  unfold Acceptable at fits
  generalize begins setup broker request = begun at current index held ⊢
  cases orderType : request.orderType with
  | market =>
      rw [orderType] at fits
      refine applyFill_walks request.quantity.2 current ?_ (held ▸ fits)
      rw [newOrder_unfilled, zero_add]
      rfl
  | limit =>
      rw [orderType] at fits
      rw [if_neg (by decide)]
      split
      · rename_i marketable
        refine fillNextLimit_walks current ?_
        rintro quantity ⟨ratio, listed, rfl, -⟩
        have first := fits marketable ratio (index ▸ listed)
        rw [newOrder_unfilled, sub_zero]
        exact held ▸ first
      · exact .ok _

theorem takeFault_spec (setup : Setup) (broker : SimulatedBroker) (operation : Operation) :
    (setup.alwaysUnavailable = true ∧ takeFault setup broker operation = (.error unavailable, broker)) ∨
    setup.alwaysUnavailable = false ∧ ∃ faults,
      takeFault setup broker operation = (.ok (broker.faults operation).head?, { broker with faults }) := by
  unfold takeFault
  cases setup.alwaysUnavailable with
  | true => exact .inl ⟨rfl, rfl⟩
  | false =>
      refine .inr ⟨rfl, ?_⟩
      rw [if_neg (by decide)]
      cases broker.faults operation with
      | nil => exact ⟨broker.faults, rfl⟩
      | cons fault rest => exact ⟨_, rfl⟩

theorem raiseForFault_walks (operation : Operation) :
    Walks setup fit broker (raiseForFault setup broker operation) := by
  unfold raiseForFault
  rcases takeFault_spec setup broker operation with ⟨-, here⟩ | ⟨-, faults, here⟩
  · rw [here]
    exact .simulated _ _ _ _
  · rw [here]
    have quiet : Untouched broker { broker with faults } := .of_quiet rfl rfl rfl rfl rfl rfl
    refine .onward (.single (.aside quiet)) ?_
    dsimp only [Outcome.andThen]
    split
    · exact .ok _
    · exact .ok _
    · exact .simulated _ _ _ _
    · exact .simulated _ _ _ _
    · exact .simulated _ _ _ _

/-- A question that gets through to the tables leaves them alone. -/
theorem raiseForFault_ok {operation : Operation} {fault : Option SimulatedFault}
    (through : (raiseForFault setup broker operation).1 = .ok fault) :
    (∃ faults, (raiseForFault setup broker operation).2 = { broker with faults }) ∧
      setup.alwaysUnavailable = false ∧ fault = (broker.faults operation).head? ∧
      (fault = none ∨ fault = some .outOfOrderFills) := by
  unfold raiseForFault at through ⊢
  rcases takeFault_spec setup broker operation with ⟨-, here⟩ | ⟨available, faults, here⟩
  · rw [here] at through
    cases through
  · rw [here] at through ⊢
    simp only [Outcome.andThen] at through ⊢
    split at through
    · cases through
      rename_i none
      simp only [none]
      exact ⟨⟨faults, rfl⟩, available, trivial, .inl trivial⟩
    · cases through
      rename_i late
      simp only [late]
      exact ⟨⟨faults, rfl⟩, available, trivial, .inr trivial⟩
    · cases through
    · cases through
    · cases through

theorem Acceptable.of_eq {after : SimulatedBroker} {request : OrderRequest}
    (fits : Acceptable setup fit broker request) (positions : after.positions = broker.positions)
    (quote : after.quote = broker.quote) : Acceptable setup fit after request := by
  unfold Acceptable position marketPrice limitIsMarketable at fits ⊢
  rw [positions, quote]
  exact fits

/-- An order is marked, where its fills are told in reverse. -/
def marked (broker : SimulatedBroker) (fault : Option SimulatedFault) (key : String) : SimulatedBroker :=
  if fault = some .outOfOrderFills then
    { broker with outOfOrder := key :: broker.outOfOrder.filter (· ≠ key) }
  else broker

theorem marked_untouched (fault : Option SimulatedFault) (key : String) :
    Untouched broker (broker.marked fault key) := by
  unfold marked
  split
  · exact .of_quiet rfl rfl rfl rfl rfl rfl
  · exact .of_quiet rfl rfl rfl rfl rfl rfl

theorem marked_quote (fault : Option SimulatedFault) (key : String) :
    (broker.marked fault key).quote = broker.quote := by
  unfold marked
  split
  · rfl
  · rfl

theorem acknowledged_untouched (key : String) (count : Nat) : Untouched broker (broker.acknowledged key count) :=
  .of_quiet rfl rfl rfl rfl rfl rfl

/-- The end of `submit_order`, where the order is let through. -/
theorem acceptance_walks {request : OrderRequest} (fault : Option SimulatedFault)
    (absent : broker.orders.get? request.clientOrderId.str = none)
    (fits : Acceptable setup fit broker request) : Walks setup fit broker
      ((acceptOrder setup (broker.marked fault request.clientOrderId.str) request).andThen fun order after =>
        if fault = some .duplicateAck then
          (.error (.simulated "simulated broker returned a duplicate acknowledgement" .duplicateAck
            (some order) none), after.acknowledged request.clientOrderId.str 1)
        else (.ok order, after.acknowledged request.clientOrderId.str 1)) := by
  have aside : Untouched broker (broker.marked fault request.clientOrderId.str) := marked_untouched _ _
  have absent' :
      (broker.marked fault request.clientOrderId.str).orders.get? request.clientOrderId.str = none :=
    aside.orders ▸ absent
  refine .onward (.single (.aside aside))
    (.andThen (acceptOrder_walks absent' (fits.of_eq aside.positions (marked_quote _ _))) fun order _ => ?_)
  refine .onward (.single (.aside (acknowledged_untouched request.clientOrderId.str 1))) ?_
  split
  · exact .simulated _ _ _ _
  · exact .ok _

theorem submitOrder_walks {request : OrderRequest} {approval : RiskApproval}
    (fits : Submits setup broker request approval → Acceptable setup fit broker request) :
    Walks setup fit broker (submitOrder setup broker request approval) := by
  unfold submitOrder
  by_cases available : setup.alwaysUnavailable = true
  · rw [if_pos available]
    exact .simulated _ _ _ _
  by_cases foreign : approval.signalId ≠ request.signalId
  · rw [if_neg available, if_pos foreign]
    exact .approval _ _
  by_cases refused : ¬approval.approved = true
  · rw [if_neg available, if_neg foreign, if_pos refused]
    exact .approval _ _
  rw [if_neg available, if_neg foreign, if_neg refused]
  dsimp only
  cases existing : broker.orders.get? request.clientOrderId.str with
  | some order =>
      exact .onward (.single (.aside (acknowledged_untouched _ _))) (.ok order)
  | none =>
      rcases takeFault_spec setup broker .submit with ⟨never, -⟩ | ⟨through, faults, taken⟩
      · exact absurd never available
      rw [taken]
      have submits : passes (broker.faults .submit).head? = true → Acceptable setup fit broker request :=
        fun passed => fits ⟨through, not_not.1 foreign, not_not.1 refused, existing, passed⟩
      have quiet : Untouched broker { broker with faults } := .of_quiet rfl rfl rfl rfl rfl rfl
      refine .onward (.single (.aside quiet)) ?_
      have absent : ({ broker with faults } : SimulatedBroker).orders.get? request.clientOrderId.str = none :=
        existing
      replace submits : passes (broker.faults .submit).head? = true →
          Acceptable setup fit { broker with faults } request := fun passed => (submits passed).of_eq rfl rfl
      generalize ({ broker with faults } : SimulatedBroker) = taking at absent submits ⊢
      dsimp only [Outcome.andThen]
      split
      · refine .onward (.single (.enters (newOrder setup taking request .rejected) absent rfl ?_))
          (.simulated _ _ _ _)
        simp [newOrder]
      · exact .simulated _ _ _ _
      · exact .simulated _ _ _ _
      · have enters : Change setup fit taking (taking.enters (newOrder setup taking request .unknown)) :=
          .enters _ absent rfl (by simp [newOrder])
        have asks : Change setup fit (taking.enters (newOrder setup taking request .unknown))
            ((taking.enters (newOrder setup taking request .unknown)).asks request) := .asks request
        refine .onward ((Relation.ReflTransGen.single enters).tail asks) ?_
        exact .onward (.single (.aside (acknowledged_untouched _ _))) (.simulated _ _ _ _)
      · rename_i injected rejected limited unavailable late
        generalize (broker.faults .submit).head? = fault at rejected limited unavailable late submits ⊢
        have passed : passes fault = true := by
          rcases fault with _ | _ | _ | _ | _ | _ | _
          · rfl
          · exact (rejected rfl).elim
          · exact (late rfl).elim
          · rfl
          · rfl
          · exact (limited rfl).elim
          · exact (unavailable rfl).elim
        exact acceptance_walks fault absent (submits passed)

theorem getOrder_walks {clientOrderId : String}
    (asked : ∀ key request, broker.unknownRequests.get? key = some request → key = request.clientOrderId.str)
    (fits : Responds setup broker → ∀ request, broker.unknownRequests.get? clientOrderId = some request →
      broker.fillsOf clientOrderId = [] ∧ Acceptable setup fit broker request) :
    Walks setup fit broker (getOrder setup broker clientOrderId) := by
  unfold getOrder
  refine .andThen (raiseForFault_walks .getOrder) fun fault through => ?_
  obtain ⟨⟨faults, same⟩, available, head, allowed⟩ := raiseForFault_ok through
  have answered : Responds setup broker := ⟨available, head ▸ allowed⟩
  replace fits := fits answered
  rw [same]
  dsimp only
  cases unknown : broker.unknownRequests.get? clientOrderId with
  | none => exact .ok _
  | some request =>
      obtain ⟨unfilled, accepts⟩ := fits request unknown
      have key := asked clientOrderId request unknown
      have forgets : Change setup fit { broker with faults }
          (SimulatedBroker.forgets { broker with faults } clientOrderId) := .forgets clientOrderId unfilled
      have absent : (SimulatedBroker.forgets { broker with faults } clientOrderId).orders.get?
          request.clientOrderId.str = none := by
        rw [← key]
        exact (Dict.get?_erase _ _ _).trans (if_pos rfl)
      refine .onward (.single forgets) ?_
      exact .andThen (acceptOrder_walks absent (accepts.of_eq rfl rfl)) fun _ _ => .ok _

/-- A step of the schedule touches one order. -/
theorem fillNextLimit_other {order : Order} {key : String} (other : key ≠ order.request.clientOrderId.str) :
    (fillNextLimit setup broker order).2.orders.get? key = broker.orders.get? key := by
  rcases fillNextLimit_cases setup broker order with ⟨quantity, step, here⟩ | ⟨-, after, same, -, -, here⟩
  · rw [here]
    obtain ⟨_, _, _, positive⟩ := id step
    by_cases price : 0 < limitOf order.request
    · obtain ⟨updated, orders, -⟩ := (applyFill_leaves setup
        (broker.indexed order.request.clientOrderId.str) order ⟨quantity, positive⟩ ⟨_, price⟩).orders
      rw [orders, Dict.get?_set_ne _ _ other]
      rfl
    · rw [(applyFill_invalid fun both => price both.2).orders]
      rfl
  · rw [here, same.orders]

theorem advanceAll_walks {orders : List Order}
    (current : ∀ order ∈ orders, broker.orders.get? order.request.clientOrderId.str = some order)
    (distinct : (orders.map fun order => order.request.clientOrderId.str).Nodup)
    (fits : DuesFit setup fit broker orders) : Walks setup fit broker (advanceAll setup broker orders) := by
  induction orders generalizing broker with
  | nil => exact .ok []
  | cons order rest ih =>
      rw [List.map_cons, List.nodup_cons] at distinct
      have still := fun other member => current other (List.mem_cons_of_mem _ member)
      unfold advanceAll
      unfold DuesFit at fits
      split
      · rename_i due
        rw [if_pos due] at fits
        have here := current order List.mem_cons_self
        refine .andThen (fillNextLimit_walks here fits.1) fun updated _ => ?_
        refine .andThen (ih (fun other member => ?_) distinct.2 fits.2) fun changed _ => .ok _
        rw [fillNextLimit_other, still other member]
        rintro same
        exact distinct.1 (same ▸ List.mem_map_of_mem member)
      · rename_i waits
        rw [if_neg waits] at fits
        exact ih still distinct.2 fits

/-- A question touches nothing of the accounts. -/
theorem reads_changes {α β : Type} {outcome : Outcome α} {next : α → SimulatedBroker → Outcome β}
    (first : Walks setup fit broker outcome) (rest : ∀ value, Untouched outcome.2 (next value outcome.2).2) :
    Changes setup fit broker (outcome.andThen next).2 := by
  obtain ⟨result, after⟩ := outcome
  cases result with
  | ok value => exact first.changes.tail (.aside (rest value))
  | error raised => exact first.changes

end SimulatedBroker

inductive Call where
  | submitOrder (request : OrderRequest) (approval : RiskApproval)
  | getOrder (clientOrderId : String)
  | advance
  | setQuote (quote : Quote)
  | getFills (clientOrderId : String)
  | getQuote (symbol : String)
  | getBalances
  | getPositions

/-- The outcome of a call, without what it returns. -/
def Outcome.done {α : Type} (outcome : Outcome α) : Outcome Unit :=
  outcome.andThen fun _ after => (.ok (), after)

open SimulatedBroker

variable (setup : Setup) (fit : Fitting)

def Call.run (broker : SimulatedBroker) : Call → Outcome Unit
  | .submitOrder request approval => Outcome.done (SimulatedBroker.submitOrder setup broker request approval)
  | .getOrder clientOrderId => Outcome.done (SimulatedBroker.getOrder setup broker clientOrderId)
  | .advance => Outcome.done (SimulatedBroker.advance setup broker)
  | .setQuote quote => SimulatedBroker.setQuote broker quote
  | .getFills clientOrderId => Outcome.done (SimulatedBroker.getFills setup broker clientOrderId)
  | .getQuote symbol => Outcome.done (SimulatedBroker.getQuote setup broker symbol)
  | .getBalances => Outcome.done (SimulatedBroker.getBalances setup broker)
  | .getPositions => Outcome.done (SimulatedBroker.getPositions setup broker)

/-- Every fill of a call is fit, and no order with fills is dropped. -/
def Call.Fits (broker : SimulatedBroker) : Call → Prop
  | .submitOrder request approval =>
      Submits setup broker request approval → Acceptable setup fit broker request
  | .getOrder clientOrderId => Responds setup broker → ∀ request,
      broker.unknownRequests.get? clientOrderId = some request →
        broker.fillsOf clientOrderId = [] ∧ Acceptable setup fit broker request
  | .advance => DuesFit setup fit broker broker.orders.values
  | _ => True

/-- The calls that trade; the quote is replaced by one for the same symbol. -/
def Call.Trades (broker : SimulatedBroker) : Call → Prop
  | .submitOrder _ _ | .getOrder _ | .advance => True
  | .setQuote quote => quote.symbol = broker.quote.symbol
  | _ => False


/-! ## Runs -/

/-- What holds of the tables as long as no order is dropped with its fills. -/
structure Kept (start broker : SimulatedBroker) : Prop where
  table : broker.table.Perm broker.made
  named : ∀ key order, broker.orders.get? key = some order → key = order.request.clientOrderId.str
  entered : ∀ key, broker.orders.get? key = none → broker.fillsOf key = []
  asked : ∀ key request, broker.unknownRequests.get? key = some request → key = request.clientOrderId.str
  balances : Settles setup.config ∨ broker.made = [] → ∀ asset, broker.balance asset =
    start.balance asset + movedIn Leg.amount asset (broker.made.flatMap legsOf)

/-- The brokers that calls lead to from a start, where each meets a condition. -/
inductive Reached (meets : SimulatedBroker → Call → Prop) (start : SimulatedBroker) :
    SimulatedBroker → Prop where
  | start : Reached meets start start
  | call {broker : SimulatedBroker} (earlier : Reached meets start broker) (call : Call)
      (met : meets broker call) : Reached meets start (call.run setup broker).2

variable {setup} {fit} {start broker after : SimulatedBroker}

theorem Kept.current (kept : Kept setup start broker) {order : Order}
    (member : order ∈ broker.orders.values) :
    broker.orders.get? order.request.clientOrderId.str = some order := by
  obtain ⟨key, found⟩ := Dict.mem_values.1 member
  exact kept.named key order found ▸ found

theorem Kept.distinct (kept : Kept setup start broker) :
    (broker.orders.values.map fun order => order.request.clientOrderId.str).Nodup := by
  have keys : broker.orders.values.map (fun order => order.request.clientOrderId.str) =
      broker.orders.keys := by
    rw [Dict.values, Dict.keys, List.map_map]
    refine List.map_congr_left fun entry member => ?_
    exact (kept.named entry.1 entry.2 (Dict.get?_eq_some.2 member)).symm
  rw [keys]
  exact broker.orders.nodup

theorem done_snd {α : Type} (outcome : Outcome α) : (Outcome.done outcome).2 = outcome.2 :=
  andThen_snd outcome fun _ => ()

theorem done_expected {α : Type} {outcome : Outcome α} {exc : Exc}
    (raised : (Outcome.done outcome).1 = .error (.other exc)) : outcome.1 = .error (.other exc) := by
  obtain ⟨result, after⟩ := outcome
  cases result with
  | ok value => cases raised
  | error other =>
      cases raised
      rfl

/-- What a trading call is made of, and what it raises. -/
theorem SimulatedBroker.Walks.done {α : Type} {outcome : Outcome α} (walks : Walks setup fit broker outcome) :
    Walks setup fit broker (Outcome.done outcome) :=
  ⟨done_snd outcome ▸ walks.changes, fun sound exc raised =>
    walks.expected sound exc (done_expected raised)⟩

theorem call_walks (kept : Kept setup start broker) {call : Call} (fits : call.Fits setup fit broker)
    (trades : call.Trades broker) : Walks setup fit broker (call.run setup broker) := by
  cases call with
  | submitOrder request approval => exact (submitOrder_walks fits).done
  | getOrder clientOrderId => exact (getOrder_walks kept.asked fits).done
  | advance => exact (advanceAll_walks (fun _ => kept.current) kept.distinct fits).done
  | setQuote quote =>
      have same : ¬quote.symbol ≠ broker.quote.symbol := not_not.2 trades
      have quiet : Untouched broker { broker with quote } := .of_quiet rfl rfl rfl rfl rfl rfl
      show Walks setup fit broker (SimulatedBroker.setQuote broker quote)
      rw [SimulatedBroker.setQuote, if_neg same]
      exact .onward (.single (.aside quiet)) (.ok ())
  | getFills clientOrderId => exact trades.elim
  | getQuote symbol => exact trades.elim
  | getBalances => exact trades.elim
  | getPositions => exact trades.elim

theorem call_changes (kept : Kept setup start broker) {call : Call} (fits : call.Fits setup fit broker) :
    Changes setup fit broker (call.run setup broker).2 := by
  cases call with
  | submitOrder request approval => exact (call_walks kept fits trivial).changes
  | getOrder clientOrderId => exact (call_walks kept fits trivial).changes
  | advance => exact (call_walks kept fits trivial).changes
  | setQuote quote =>
      by_cases same : quote.symbol = broker.quote.symbol
      · exact (call_walks kept fits same).changes
      · show Changes setup fit broker (SimulatedBroker.setQuote broker quote).2
        rw [SimulatedBroker.setQuote, if_pos same]
  | getFills clientOrderId =>
      refine done_snd (getFills setup broker clientOrderId) ▸ reads_changes (raiseForFault_walks .getFills) ?_
      intro fault
      split
      · exact .refl _
      · split
        · exact .refl _
        · exact .refl _
  | getQuote symbol =>
      refine done_snd (getQuote setup broker symbol) ▸ reads_changes (raiseForFault_walks .getQuote) ?_
      intro fault
      split
      · exact .refl _
      · exact .refl _
  | getBalances =>
      refine done_snd (getBalances setup broker) ▸ reads_changes (raiseForFault_walks .getBalances) ?_
      exact fun fault => .of_quiet rfl rfl rfl rfl rfl rfl
  | getPositions =>
      refine done_snd (getPositions setup broker) ▸ reads_changes (raiseForFault_walks .getPositions) ?_
      exact fun fault => .of_quiet rfl rfl rfl rfl rfl rfl

/-- The fee of a fill goes where the fill says. -/
theorem movedIn_charged (settles : Settles setup.config) (order : Order) (quantity price : PositiveDecimal)
    (asset : String) :
    movedIn Leg.amount asset (legsOf (charged setup (fillOf setup broker order quantity price))) =
      movedIn Leg.amount asset (legsOf (fillOf setup broker order quantity price)) := by
  rcases settles with free | named
  · have fee : (fillOf setup broker order quantity price).fee.1 = 0 := by simp [fillOf, free]
    have symbol : (charged setup (fillOf setup broker order quantity price)).symbol =
      (fillOf setup broker order quantity price).symbol := rfl
    have side : (charged setup (fillOf setup broker order quantity price)).side =
      (fillOf setup broker order quantity price).side := rfl
    unfold legsOf
    rw [symbol]
    split
    · unfold legs
      rw [side]
      split
      · simp [movedIn_cons, fee, charged]
      · simp [movedIn_cons, fee, charged]
    · rfl
  · have same : charged setup (fillOf setup broker order quantity price) =
        fillOf setup broker order quantity price := by
      simp only [charged, fillOf, named]
    rw [same]

theorem Kept.change (kept : Kept setup start broker) (change : Change setup fit broker after) :
    Kept setup start after := by
  cases change with
  | aside same =>
      refine ⟨?_, ?_, ?_, ?_, ?_⟩
      · rw [same.table, same.made]
        exact kept.table
      · rw [same.orders]
        exact kept.named
      · intro key
        rw [same.orders, same.fillsOf]
        exact kept.entered key
      · rw [same.unknownRequests]
        exact kept.asked
      · unfold balance
        rw [same.made, same.balances]
        exact kept.balances
  | enters order absent unfilled unfinished =>
      have empty := kept.entered _ absent
      refine ⟨?_, ?_, ?_, kept.asked, kept.balances⟩
      · have rest := broker.fills.flatten_perm order.request.clientOrderId.str
        rw [show (broker.fills.get? order.request.clientOrderId.str).getD [] = [] from empty] at rest
        exact ((Dict.flatten_set_perm _ _ _).trans rest.symm).trans kept.table
      · intro key other found
        rw [enters, Dict.get?_set] at found
        split at found
        · cases found
          assumption
        · exact kept.named key other found
      · intro key absent'
        rw [enters, Dict.get?_set] at absent'
        split at absent'
        · cases absent'
        · rename_i other
          rw [fillsOf, enters, Dict.get?_set_ne _ _ other]
          exact kept.entered key absent'
  | asks request =>
      refine ⟨kept.table, kept.named, kept.entered, ?_, kept.balances⟩
      intro key other found
      rw [asks, Dict.get?_set] at found
      split at found
      · cases found
        assumption
      · exact kept.asked key other found
  | forgets key unfilled =>
      refine ⟨?_, ?_, ?_, ?_, kept.balances⟩
      · have rest := broker.fills.flatten_perm key
        rw [show (broker.fills.get? key).getD [] = [] from unfilled] at rest
        exact rest.symm.trans kept.table
      · intro other order found
        rw [forgets, Dict.get?_erase] at found
        split at found
        · cases found
        · exact kept.named other order found
      · intro other absent
        rw [forgets, Dict.get?_erase] at absent
        rw [fillsOf, forgets, Dict.get?_erase]
        split
        · rfl
        · rename_i different
          rw [if_neg different] at absent
          exact kept.entered other absent
      · intro other request found
        rw [forgets, Dict.get?_erase] at found
        split at found
        · cases found
        · exact kept.asked other request found
  | fills order quantity price current within fits =>
      have leaves := applyFill_leaves setup broker order quantity price
      obtain ⟨updated, orders, request, -⟩ := leaves.orders
      refine ⟨?_, ?_, ?_, ?_, ?_⟩
      · rw [leaves.made]
        exact leaves.table.trans (kept.table.append_right _)
      · intro key other found
        rw [orders, Dict.get?_set] at found
        split at found
        · cases found
          rw [request]
          assumption
        · exact kept.named key other found
      · intro key absent
        rw [orders, Dict.get?_set] at absent
        split at absent
        · cases absent
        · rename_i different
          rw [leaves.fillsOf, if_neg different]
          exact kept.entered key absent
      · rw [leaves.unknownRequests]
        exact kept.asked
      · rintro (settles | never) asset
        · rw [leaves.balance, kept.balances (.inl settles), movedIn_charged settles, leaves.made,
            List.flatMap_append, movedIn_append, add_assoc]
          simp
        · rw [leaves.made] at never
          simp at never

/-- **The rule for runs.** What holds at the start and outlasts every change whose fills are fit holds
of every broker that is reached. -/
theorem Reached.invariant {meets : SimulatedBroker → Call → Prop} {holds : SimulatedBroker → Prop}
    (kept : Kept setup start start) (first : holds start)
    (fits : ∀ {broker call}, Kept setup start broker → holds broker → meets broker call →
      Call.Fits setup fit broker call)
    (outlasts : ∀ {broker after}, Kept setup start broker → holds broker → Change setup fit broker after →
      holds after)
    (reached : Reached setup meets start broker) : Kept setup start broker ∧ holds broker := by
  induction reached with
  | start => exact ⟨kept, first⟩
  | call earlier call met ih =>
      have changes := call_changes ih.1 (fits ih.1 ih.2 met)
      generalize (call.run setup _).2 = after at changes ⊢
      induction changes with
      | refl => exact ih
      | tail _ change ih => exact ⟨ih.1.change change, outlasts ih.1 ih.2 change⟩

/-- A broker that is new has made no fill. -/
theorem kept_new {quote : Quote} {faults : Operation → List SimulatedFault}
    (made : SimulatedBroker.new setup quote faults = .ok start) : Kept setup start start := by
  unfold SimulatedBroker.new at made
  split at made
  · cases made
  · cases made
    refine ⟨.refl _, ?_, fun _ _ => rfl, ?_, fun _ asset => ?_⟩
    · rintro key order ⟨⟩
    · rintro key request ⟨⟩
    · simp [movedIn]

end AlgoTrader.Brokers.Simulated
