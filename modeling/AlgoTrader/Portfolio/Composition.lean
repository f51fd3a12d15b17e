/-
# Portfolio.Composition -- fills counted cycle by cycle

The scheduler counts the fills of a cycle into its baseline and starts the next one from
what it got; a restart counts them all at once.  A projection lists no empty position and no
empty balance without a hold, so the baseline of a later cycle knows less than the loop did:
the average price of a position that was closed is forgotten.  While nothing is sold short
that price is never read again.

* `Alike` -- two books of positions that differ in the price of closed ones alone;
* `applyFill_alike` -- a fill that leaves no short keeps them alike;
* `applyFills_append` -- counted in two parts or at once, fills count to the same.
-/
import AlgoTrader.Portfolio.Reload

namespace AlgoTrader.Portfolio

open AlgoTrader.Core Brokers Theory

set_option autoImplicit false

/-! ## The order of two parts -/

theorem orderedInsert_append {fill : Fill} (earlier : List Fill) {later : List Fill}
    (before : ∀ other ∈ later, Precedes fill other) :
    (earlier ++ later).orderedInsert Precedes fill =
      earlier.orderedInsert Precedes fill ++ later := by
  induction earlier with
  | nil =>
      cases later with
      | nil => rfl
      | cons first rest => exact List.orderedInsert_cons_of_le _ _ (before first List.mem_cons_self)
  | cons first rest ih =>
      by_cases here : Precedes fill first
      · rw [List.cons_append, List.orderedInsert_cons_of_le _ _ here,
          List.orderedInsert_cons_of_le _ _ here]
        rfl
      · rw [List.cons_append, List.orderedInsert_of_not_le _ _ here,
          List.orderedInsert_of_not_le _ _ here, ih]
        rfl

theorem inOrder_append {earlier later : List Fill}
    (before : ∀ a ∈ earlier, ∀ b ∈ later, Precedes a b) :
    inOrder (earlier ++ later) = inOrder earlier ++ inOrder later := by
  induction earlier with
  | nil => rfl
  | cons fill earlier ih =>
      have rest := ih fun a member => before a (List.mem_cons_of_mem _ member)
      show (inOrder (earlier ++ later)).orderedInsert Precedes fill = _
      rw [rest, orderedInsert_append]
      · rfl
      · exact fun other member => before fill List.mem_cons_self other (mem_inOrder.1 member)

/-! ## Positions that differ where they are closed -/

/-- What a book of positions holds of a symbol. -/
def heldIn (positions : Dict String (Decimal × Option Decimal)) (symbol : String) :
    Decimal × Option Decimal :=
  (positions.get? symbol).getD (0, none)

/-- The same quantities, and the same prices of what is not closed. -/
def Alike (positions other : Dict String (Decimal × Option Decimal)) : Prop :=
  ∀ symbol, (heldIn positions symbol).1 = (heldIn other symbol).1 ∧
    ((heldIn positions symbol).1 ≠ 0 → (heldIn positions symbol).2 = (heldIn other symbol).2)

/-- A fill that leaves no short reads the price of no closed position. -/
theorem blend_alike {fill : Fill} {quantity : Decimal} {average average' : Option Decimal}
    {position position' : Decimal × Option Decimal}
    (same : quantity ≠ 0 → average = average')
    (left : blend fill quantity average = .ok position)
    (left' : blend fill quantity average' = .ok position') (long : 0 ≤ position.1) :
    position.1 = position'.1 ∧ (position.1 ≠ 0 → position.2 = position'.2) := by
  have traded : (0 : Decimal) < fill.quantity := fill.quantity.2
  by_cases closed : quantity = 0
  · cases side : fill.side with
    | sell =>
        have negative : position.1 = -fill.quantity := by
          rw [(blend_ok left).1, closed, signed, side]
          exact zero_add _
        rw [negative] at long
        exact absurd (neg_nonneg.1 long) (not_le.2 traded)
    | buy =>
        have whole : blend fill quantity average = blend fill quantity average' := by
          simp only [blend, side, if_pos closed]
        rw [whole] at left
        cases left.symm.trans left'
        exact ⟨rfl, fun _ => rfl⟩
  · rw [same closed] at left
    cases left.symm.trans left'
    exact ⟨rfl, fun _ => rfl⟩

theorem placeFill_ok {fill : Fill} {positions next : Dict String (Decimal × Option Decimal)}
    (placed : placeFill fill positions = .ok next) :
    ∃ position, blend fill (heldIn positions fill.symbol).1 (heldIn positions fill.symbol).2 =
      .ok position ∧ next = positions.set fill.symbol position := by
  have unfolded : placeFill fill positions = (splitSymbol fill.symbol).bind fun _ =>
      (blend fill (heldIn positions fill.symbol).1 (heldIn positions fill.symbol).2).bind
        fun position => .ok (positions.set fill.symbol position) := rfl
  rw [unfolded] at placed
  obtain ⟨_, _, rest⟩ := bind_eq_ok.1 placed
  obtain ⟨position, blended, whole⟩ := bind_eq_ok.1 rest
  cases whole
  exact ⟨position, blended, rfl⟩

theorem heldIn_set (positions : Dict String (Decimal × Option Decimal)) (symbol other : String)
    (position : Decimal × Option Decimal) : heldIn (positions.set symbol position) other =
      if other = symbol then position else heldIn positions other := by
  unfold heldIn
  rw [Dict.get?_set]
  split
  · rfl
  · rfl

theorem placeFill_alike {fill : Fill}
    {positions positions' next next' : Dict String (Decimal × Option Decimal)}
    (alike : Alike positions positions') (placed : placeFill fill positions = .ok next)
    (placed' : placeFill fill positions' = .ok next')
    (long : ∀ symbol, 0 ≤ (heldIn next symbol).1) : Alike next next' := by
  obtain ⟨position, blended, rfl⟩ := placeFill_ok placed
  obtain ⟨position', blended', rfl⟩ := placeFill_ok placed'
  obtain ⟨quantity, average⟩ := alike fill.symbol
  rw [← quantity] at blended'
  have left : 0 ≤ position.1 := by
    have here := long fill.symbol
    rwa [heldIn_set, if_pos rfl] at here
  intro symbol
  rw [heldIn_set, heldIn_set]
  split
  · exact blend_alike average blended blended' left
  · exact alike symbol

/-- The loop over the fills passes no short. -/
def StaysLong (fills : List Fill) (positions : Dict String (Decimal × Option Decimal)) : Prop :=
  ∀ before after reached, fills = before ++ after → runs placeFill before positions = .ok reached →
    ∀ symbol, 0 ≤ (heldIn reached symbol).1

theorem placed_alike {fills : List Fill}
    {positions positions' next next' : Dict String (Decimal × Option Decimal)}
    (alike : Alike positions positions') (placed : runs placeFill fills positions = .ok next)
    (placed' : runs placeFill fills positions' = .ok next') (long : StaysLong fills positions) :
    Alike next next' := by
  induction fills generalizing positions positions' with
  | nil =>
      cases placed
      cases placed'
      exact alike
  | cons fill fills ih =>
      obtain ⟨mid, first, rest⟩ := runs_cons_ok.1 placed
      obtain ⟨mid', first', rest'⟩ := runs_cons_ok.1 placed'
      have onward : StaysLong fills mid := by
        intro before after reached split through
        exact long (fill :: before) after reached (congrArg _ split)
          (runs_cons_ok.2 ⟨mid, first, through⟩)
      have here : ∀ symbol, 0 ≤ (heldIn mid symbol).1 := onward [] fills mid rfl rfl
      exact ih (placeFill_alike alike first first' here) rest rest' onward

/-! ## A baseline that was projected -/

theorem positionOf_told {now : Timestamp} {e : String × Decimal × Option Decimal} {position : Position}
    (made : positionOf now e = .ok position) :
    (position.symbol, position.quantity, position.averagePrice.map Subtype.val) = e := by
  obtain ⟨symbol, quantity, average⟩ := e
  unfold positionOf at made
  cases average with
  | none =>
      cases made
      rfl
  | some price =>
      dsimp only at made
      split at made
      · cases made
        rfl
      · cases made

/-- The entries a projection lists as positions. -/
def openPositions (positions : Dict String (Decimal × Option Decimal)) :
    List (String × Decimal × Option Decimal) :=
  (byKey positions.entries).filter fun e => e.2.1 ≠ 0

theorem mem_open {positions : Dict String (Decimal × Option Decimal)} {symbol : String}
    {position : Decimal × Option Decimal} : (symbol, position) ∈ openPositions positions ↔
      heldIn positions symbol = position ∧ position.1 ≠ 0 := by
  simp only [openPositions, List.mem_filter, mem_byKey, ← Dict.get?_eq_some, decide_eq_true_eq]
  refine and_congr_left fun some => ?_
  unfold heldIn
  cases positions.get? symbol with
  | none =>
      refine iff_of_false (by simp) fun same => some ?_
      rw [← same]
      rfl
  | some held => exact Option.some_inj

theorem openPositionsnodup (positions : Dict String (Decimal × Option Decimal)) :
    ((openPositions positions).map Prod.fst).Nodup :=
  (List.filter_sublist.map Prod.fst).nodup (byKey_nodup positions)

theorem openPositionseq {positions positions' : Dict String (Decimal × Option Decimal)}
    (alike : Alike positions positions') : openPositions positions = openPositions positions' := by
  refine eq_of_members ((byKey_ordered _).filter _) ((byKey_ordered _).filter _)
    (openPositionsnodup positions) (openPositionsnodup positions') ?_
  rintro ⟨symbol, position⟩
  obtain ⟨quantity, average⟩ := alike symbol
  rw [mem_open, mem_open]
  constructor
  · rintro ⟨rfl, held⟩
    exact ⟨Prod.ext quantity.symm (average held).symm, held⟩
  · rintro ⟨rfl, held⟩
    rw [← quantity] at held
    exact ⟨Prod.ext quantity (average held), quantity ▸ held⟩

/-- What a projection lists of its positions is all a later one knows, and enough. -/
theorem alike_projected {p : Projection} {now : Timestamp} {state : PortfolioState}
    (listed : positionsOf now p = .ok state.positions) :
    Alike p.positions (Projection.ofBaseline state).positions := by
  have told := mapM_ok_map (fun _ _ => positionOf_told) listed
  have here : (Projection.ofBaseline state).positions = .ofList (openPositions p.positions) :=
    congrArg Dict.ofList told
  intro symbol
  rw [here]
  by_cases closed : (heldIn p.positions symbol).1 = 0
  · have absent : (Dict.ofList (openPositions p.positions)).get? symbol = none := by
      refine Option.eq_none_iff_forall_ne_some.2 fun position found => ?_
      obtain ⟨rfl, held⟩ := mem_open.1 ((Dict.get?_ofList_of_nodup (openPositionsnodup _)).1 found)
      exact held closed
    rw [heldIn, heldIn, absent]
    exact ⟨closed, fun held => absurd closed held⟩
  · have present := (Dict.get?_ofList_of_nodup (openPositionsnodup _)).2 (mem_open.2 ⟨rfl, closed⟩)
    have same : heldIn (Dict.ofList (openPositions p.positions)) symbol = heldIn p.positions symbol := by
      rw [heldIn, present]
      rfl
    rw [same]
    exact ⟨rfl, fun _ => rfl⟩

section Balances

variable {holds : Dict String NonNegativeDecimal} {p : Projection} {now : Timestamp}
  {state : PortfolioState}

theorem balanceOf_holds {e : String × Decimal} {balance : Balance}
    (made : balanceOf now holds e = .ok balance) :
    (balance.asset, balance.hold) = (e.1, (holds.get? e.1).getD ⟨0, decimal_zero⟩) := by
  unfold balanceOf at made
  split at made
  · cases made
    rfl
  · cases made

theorem amount_projected (covers : Covers holds p) (done : balancesOf now holds p = .ok state.balances)
    (asset : String) : (Projection.ofBaseline state).amount asset = p.amount asset := by
  have told := mapM_ok_map (fun _ _ => balanceOf_told) done
  have here : (Projection.ofBaseline state).available = .ofList (listed holds p) :=
    congrArg Dict.ofList told
  rw [Projection.amount, here]
  by_cases nothing : p.amount asset = 0
  · rw [nothing]
    cases found : (Dict.ofList (listed holds p)).get? asset with
    | none => rfl
    | some amount =>
        obtain ⟨same, _⟩ :=
          (listed_iff covers).1 ((Dict.get?_ofList_of_nodup (listed_nodup holds p)).1 found)
        exact same.symm.trans nothing
  · have present : (Dict.ofList (listed holds p)).get? asset = some (p.amount asset) :=
      (Dict.get?_ofList_of_nodup (listed_nodup holds p)).2 ((listed_iff covers).2 ⟨rfl, .inl nothing⟩)
    rw [present]
    rfl

/-- Holds are carried over: an asset that is not listed has none. -/
theorem holdOf_projected (covers : Covers holds p) (done : balancesOf now holds p = .ok state.balances)
    (asset : String) : holdOf (holdsOf state) asset = holdOf holds asset := by
  have told : state.balances.map (fun balance => (balance.asset, balance.available.1)) =
      listed holds p := mapM_ok_map (fun _ _ => balanceOf_told) done
  have rows : state.balances.map (fun balance => (balance.asset, balance.hold)) =
      state.balances.map fun balance =>
        (balance.asset, (holds.get? balance.asset).getD ⟨0, decimal_zero⟩) := by
    refine List.map_congr_left fun balance member => ?_
    obtain ⟨e, _, made⟩ := (mapM_members done).2 balance member
    obtain ⟨named, carried⟩ := Prod.mk.inj (balanceOf_holds made)
    rw [carried, named]
  have distinct : ((state.balances.map fun balance => (balance.asset, balance.hold)).map
      Prod.fst).Nodup := by
    have keys := listed_nodup holds p
    rw [← told, List.map_map] at keys
    rw [List.map_map]
    exact keys
  cases found : (holdsOf state).get? asset with
  | some hold =>
      have row := (Dict.get?_ofList_of_nodup distinct).1 found
      rw [rows] at row
      obtain ⟨balance, _, same⟩ := List.mem_map.1 row
      obtain ⟨rfl, rfl⟩ := Prod.mk.inj same
      rw [holdOf, found]
      rfl
  | none =>
      by_contra differ
      rw [holdOf, found] at differ
      have onHold : holdOf holds asset ≠ 0 := fun none => differ none.symm
      -- An asset with a hold is listed, whatever its amount.
      have shown : (asset, p.amount asset) ∈ listed holds p :=
        (listed_iff covers).2 ⟨rfl, .inr onHold⟩
      rw [← told] at shown
      obtain ⟨balance, member, same⟩ := List.mem_map.1 shown
      obtain ⟨rfl, _⟩ := Prod.mk.inj same
      have row : (balance.asset, balance.hold) ∈
          state.balances.map fun balance => (balance.asset, balance.hold) :=
        List.mem_map_of_mem member
      have there : (holdsOf state).get? balance.asset = some balance.hold :=
        (Dict.get?_ofList_of_nodup distinct).2 row
      rw [found] at there
      cases there

end Balances

/-! ## Two parts or one -/

/-- A position, but for the time it is told at. -/
def undatedPosition (position : Position) : Position := { position with asOf := 0 }

def undatedBalance (balance : Balance) : Balance := { balance with asOf := 0 }

theorem positionOf_undated {now : Timestamp} {e : String × Decimal × Option Decimal}
    {position : Position} (made : positionOf now e = .ok position) :
    positionOf 0 e = .ok (undatedPosition position) := by
  obtain ⟨symbol, quantity, average⟩ := e
  unfold positionOf at made ⊢
  cases average with
  | none =>
      cases made
      rfl
  | some price =>
      dsimp only at made ⊢
      split at made
      · rename_i bound
        cases made
        exact dif_pos bound
      · cases made

theorem balanceOf_undated {now : Timestamp} {holds holds' : Dict String NonNegativeDecimal}
    (same : ∀ asset, holdOf holds asset = holdOf holds' asset) {e : String × Decimal}
    {balance : Balance} (made : balanceOf now holds e = .ok balance) :
    balanceOf 0 holds' e = .ok (undatedBalance balance) := by
  have carried : (holds.get? e.1).getD ⟨0, decimal_zero⟩ = (holds'.get? e.1).getD ⟨0, decimal_zero⟩ :=
    Subtype.ext (same e.1)
  unfold balanceOf at made ⊢
  split at made
  · rename_i bound
    cases made
    rw [carried]
    exact dif_pos bound
  · cases made

theorem positionsOf_alike {now now' : Timestamp} {p p' : Projection} {positions positions' : List Position}
    (alike : Alike p.positions p'.positions) (done : positionsOf now p = .ok positions)
    (done' : positionsOf now' p' = .ok positions') :
    positions.map undatedPosition = positions'.map undatedPosition := by
  have undated : (openPositions p.positions).mapM (positionOf 0) = .ok (positions.map undatedPosition) :=
    mapM_follows (fun _ _ => positionOf_undated) done
  have undated' : (openPositions p'.positions).mapM (positionOf 0) = .ok (positions'.map undatedPosition) :=
    mapM_follows (fun _ _ => positionOf_undated) done'
  rw [openPositionseq alike, undated'] at undated
  exact (Except.ok.inj undated).symm

theorem listed_holds {holds holds' : Dict String NonNegativeDecimal} (p : Projection)
    (same : ∀ asset, holdOf holds asset = holdOf holds' asset) : listed holds p = listed holds' p := by
  unfold listed
  simp only [same]

theorem balancesOf_alike {now now' : Timestamp} {holds holds' : Dict String NonNegativeDecimal}
    {p p' : Projection} {balances balances' : List Balance}
    (same : ∀ asset, holdOf holds asset = holdOf holds' asset)
    (amounts : ∀ asset, p.amount asset = p'.amount asset) (covers : Covers holds p)
    (covers' : Covers holds' p') (done : balancesOf now holds p = .ok balances)
    (done' : balancesOf now' holds' p' = .ok balances') :
    balances.map undatedBalance = balances'.map undatedBalance := by
  have undated : (listed holds p).mapM (balanceOf 0 holds') = .ok (balances.map undatedBalance) :=
    mapM_follows (fun _ _ => balanceOf_undated same) done
  have undated' : (listed holds' p').mapM (balanceOf 0 holds') = .ok (balances'.map undatedBalance) :=
    mapM_follows (fun _ _ => balanceOf_undated fun _ => rfl) done'
  have covered : Covers holds' p := fun asset onHold => covers asset (same asset ▸ onHold)
  rw [listed_holds p same, (listed_eq_iff covered covers').2 amounts, undated'] at undated
  exact (Except.ok.inj undated).symm

/-- What a projection that is given comes from. -/
theorem applyFills_ok {baseline state : PortfolioState} {fills : List Fill} {now : Timestamp}
    {increments : Dict String Decimal} (given : applyFills baseline fills now increments = .ok state) :
    ∃ p, runs (applyFill increments) (inOrder fills) (.ofBaseline baseline) = .ok p ∧
      positionsOf now p = .ok state.positions ∧
      balancesOf now (holdsOf baseline) p = .ok state.balances := by
  rw [applyFills_eq] at given
  obtain ⟨p, applied, rest⟩ := bind_eq_ok.1 given
  obtain ⟨_, _, rest⟩ := bind_eq_ok.1 rest
  obtain ⟨positions, listed, rest⟩ := bind_eq_ok.1 rest
  obtain ⟨balances, told, whole⟩ := bind_eq_ok.1 rest
  cases whole
  exact ⟨p, applied, listed, told⟩

/-- Settling legs touches no position, whatever the balances are rounded to. -/
theorem settled_positions {increments : Dict String Decimal} {moves : List Leg} {p moved : Projection}
    (done : runs (settle increments) moves p = .ok moved) : moved.positions = p.positions := by
  refine runs_invariant (fun _ q => q.positions = p.positions) rfl ?_ done
  intro _ leg q q' same first
  obtain ⟨amount, _, set⟩ := bind_eq_ok.1 first
  cases set
  exact same

theorem placed_of_fill {increments : Dict String Decimal} {fill : Fill} {p p' : Projection}
    (applied : applyFill increments fill p = .ok p') : placeFill fill p.positions = .ok p'.positions := by
  have unfolded : applyFill increments fill p =
      (splitSymbol fill.symbol).bind fun assets =>
        (runs (settle increments) (legs fill assets.1 assets.2) p).bind fun moved =>
          (blend fill (p.position fill.symbol).1 (p.position fill.symbol).2).bind fun position =>
            .ok { moved with positions := moved.positions.set fill.symbol position } := rfl
  have placed : placeFill fill p.positions = (splitSymbol fill.symbol).bind fun _ =>
      (blend fill (p.position fill.symbol).1 (p.position fill.symbol).2).bind fun position =>
        .ok (p.positions.set fill.symbol position) := rfl
  rw [unfolded] at applied
  obtain ⟨assets, split, rest⟩ := bind_eq_ok.1 applied
  obtain ⟨moved, done, rest⟩ := bind_eq_ok.1 rest
  obtain ⟨position, blended, whole⟩ := bind_eq_ok.1 rest
  cases whole
  rw [placed, settled_positions done]
  exact bind_eq_ok.2 ⟨assets, split, bind_eq_ok.2 ⟨position, blended, rfl⟩⟩

/-- Applying fills places them. -/
theorem placed_of_applied {increments : Dict String Decimal} {fills : List Fill} {p p' : Projection}
    (applied : runs (applyFill increments) fills p = .ok p') :
    runs placeFill fills p.positions = .ok p'.positions :=
  runs_invariant (fun earlier q => runs placeFill earlier p.positions = .ok q.positions) rfl
    (fun _ _ q _ placed stepped => runs_snoc_ok.2 ⟨q.positions, placed, placed_of_fill stepped⟩)
    applied

/-- No running position is negative: what the baseline holds of a symbol and what the fills
have added to it so far. -/
def NeverShort (baseline : PortfolioState) (fills : List Fill) : Prop :=
  ∀ before after, inOrder fills = before ++ after → ∀ symbol, 0 ≤ held baseline symbol before

section Parts

variable {increments : Dict String Decimal} (positive : Positive increments)
  {baseline : PortfolioState} {fills : List Fill} {p : Projection}

theorem hyphenated_of_applied {start : Projection}
    (applied : runs (applyFill increments) fills start = .ok p) :
    ∀ fill ∈ fills, Hyphenated fill.symbol := by
  intro fill member
  by_contra plain
  obtain ⟨other, raised⟩ := runs_raises member (placeFill_plain plain) start.positions
  rw [placed_of_applied applied] at raised
  cases raised

include positive in
theorem NeverShort.staysLong (long : NeverShort baseline fills)
    (applied : runs (applyFill increments) (inOrder fills) (.ofBaseline baseline) = .ok p) :
    StaysLong (inOrder fills) (Projection.ofBaseline baseline).positions := by
  intro before after reached split through symbol
  rw [split, runs_append] at applied
  obtain ⟨mid, halfway, _⟩ := bind_eq_ok.1 applied
  have placed := placed_of_applied halfway
  rw [through] at placed
  cases placed
  obtain ⟨quantity, _⟩ :=
    applied_position positive (hyphenated_of_applied halfway) halfway symbol
  show 0 ≤ (mid.position symbol).1
  rw [quantity]
  exact long before after split symbol

end Parts

/-- Fills counted in two parts, the first before the second, or all at once, come to the same
positions and balances where no position is short on the way. -/
theorem applyFills_append {increments : Dict String Decimal} (positive : Positive increments)
    {baseline once onceMore whole : PortfolioState} {earlier later : List Fill} {now now' now'' : Timestamp}
    (before : ∀ a ∈ earlier, ∀ b ∈ later, Precedes a b)
    (first : applyFills baseline earlier now increments = .ok once)
    (second : applyFills once later now' increments = .ok onceMore)
    (together : applyFills baseline (earlier ++ later) now'' increments = .ok whole)
    (long : NeverShort baseline (earlier ++ later)) :
    onceMore.positions.map undatedPosition = whole.positions.map undatedPosition ∧
      onceMore.balances.map undatedBalance = whole.balances.map undatedBalance := by
  obtain ⟨p, applied, listed, told⟩ := applyFills_ok first
  obtain ⟨p₂, applied₂, listed₂, told₂⟩ := applyFills_ok second
  obtain ⟨p₃, applied₃, listed₃, told₃⟩ := applyFills_ok together
  obtain ⟨_, _, _, covers⟩ := projected_amounts positive applied
  obtain ⟨_, _, _, covers₂⟩ := projected_amounts positive applied₂
  obtain ⟨_, _, _, covers₃⟩ := projected_amounts positive applied₃
  have staysLong := long.staysLong positive applied₃
  -- Counted together, the loop passes where the first part ended.
  rw [inOrder_append before, runs_append, applied] at applied₃
  replace applied₃ : runs (applyFill increments) (inOrder later) p = .ok p₃ := applied₃
  have rest : StaysLong (inOrder later) p.positions := by
    intro passed still reached split through
    refine staysLong (inOrder earlier ++ passed) still reached ?_ ?_
    · rw [inOrder_append before, split, List.append_assoc]
    · rw [runs_append, placed_of_applied applied]
      exact through
  have alike := placed_alike (alike_projected listed) (placed_of_applied applied₃)
    (placed_of_applied applied₂) rest
  have holds := holdOf_projected covers told
  have amounts : ∀ asset, p₃.amount asset = p₂.amount asset := by
    intro asset
    rw [(applied_balances positive applied₃).amount, (applied_balances positive applied₂).amount,
      amount_projected covers told]
  exact ⟨(positionsOf_alike alike listed₃ listed₂).symm,
    (balancesOf_alike (fun asset => (holds asset).symm) amounts covers₃ covers₂ told₃ told₂).symm⟩

/-- One coin, on the books and in the wallet. -/
def coinHeld : PortfolioState :=
  { oneCoin with balances := [⟨"BTC", ⟨1, decimal_filled_one⟩, ⟨0, decimal_zero⟩, 0⟩] }

/-- The coin is sold in one cycle, and bought back in the next. -/
def soldFirst : List Fill := [coinFill "a" .sell ⟨1, decimal_one⟩]

def boughtBack : List Fill := [{ coinFill "b" .buy ⟨1, decimal_one⟩ with occurredAt := 5 }]

theorem soldFirst_before : ∀ a ∈ soldFirst, ∀ b ∈ boughtBack, Precedes a b := by
  intro a inFirst b inSecond
  rw [List.mem_singleton.1 inFirst, List.mem_singleton.1 inSecond]
  exact .inl (by decide)

/-- One coin is held, then none, then one again. -/
theorem soldFirst_neverShort : NeverShort coinHeld (soldFirst ++ boughtBack) := by
  intro before after split symbol
  have sorted : inOrder (soldFirst ++ boughtBack) = soldFirst ++ boughtBack := rfl
  have start : (Projection.ofBaseline coinHeld).positions = Dict.empty.set "BTC-USD" (1, some 100) := rfl
  have position : ((Projection.ofBaseline coinHeld).position symbol).1 =
      if symbol = "BTC-USD" then 1 else 0 := by
    rw [Projection.position, start, Dict.get?_set]
    split
    · rfl
    · rfl
  rw [sorted] at split
  rw [held, position]
  by_cases own : symbol = "BTC-USD"
  · subst own
    rcases before with _ | ⟨first, _ | ⟨second, _ | ⟨third, rest⟩⟩⟩
    · decide +kernel
    · cases split
      decide +kernel
    · cases split
      decide +kernel
    · cases split
  · rcases before with _ | ⟨first, _ | ⟨second, _ | ⟨third, rest⟩⟩⟩
    · simp [own]
    · cases split
      simp [own, coinFill, Ne.symm own]
    · cases split
      simp [own, coinFill, Ne.symm own]
    · cases split

theorem applyFills_append_boughtBack : ∃ once onceMore whole,
    applyFills coinHeld soldFirst 1 .empty = .ok once ∧
      applyFills once boughtBack 6 .empty = .ok onceMore ∧
      applyFills coinHeld (soldFirst ++ boughtBack) 6 .empty = .ok whole ∧
      onceMore.positions.map undatedPosition = whole.positions.map undatedPosition ∧
      onceMore.balances.map undatedBalance = whole.balances.map undatedBalance := by
  have parts : ((applyFills coinHeld soldFirst 1 .empty).bind fun once =>
      applyFills once boughtBack 6 .empty).map (fun _ => ()) = .ok () := by
    decide +kernel
  have together : (applyFills coinHeld (soldFirst ++ boughtBack) 6 .empty).map (fun _ => ()) =
      .ok () := by
    decide +kernel
  obtain ⟨onceMore, through, _⟩ := map_eq_ok.1 parts
  obtain ⟨once, first, second⟩ := bind_eq_ok.1 through
  obtain ⟨whole, given, _⟩ := map_eq_ok.1 together
  obtain ⟨positions, balances⟩ := applyFills_append positive_empty soldFirst_before first second given
    soldFirst_neverShort
  exact ⟨once, onceMore, whole, first, second, given, positions, balances⟩

end AlgoTrader.Portfolio
