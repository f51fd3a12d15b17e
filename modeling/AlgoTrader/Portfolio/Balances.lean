/-
# Portfolio.Balances -- the two halves of a projection

A projection blends positions and settles legs, and neither half looks at the other: the
positions depend on the symbols, sides, quantities and prices of the fills, the balances on
the sums of their legs.

* `applied_positions`, `applied_balances` -- what the loop over the fills leaves of each half;
* `balancesOf_eq_iff` -- two projections list the same balances exactly when every asset has
  the same amount in both;
* `counted_eq_iff` -- when two lists of fills with the same positions count to the same.
-/
import Mathlib.Algebra.BigOperators.Group.List.Basic
import AlgoTrader.Portfolio.Ledger

namespace AlgoTrader.Portfolio

open AlgoTrader.Core Brokers Theory

set_option autoImplicit false

/-! ## Positions -/

/-- The part of `applyFill` that blends a position. -/
def placeFill (fill : Fill) (positions : Dict String (Decimal × Option Decimal)) :
    Except Exc (Dict String (Decimal × Option Decimal)) := do
  let _ ← splitSymbol fill.symbol
  let (quantity, average) := (positions.get? fill.symbol).getD (0, none)
  let position ← blend fill quantity average
  return positions.set fill.symbol position

/-- The positions after some fills, or what keeps them from being projected. -/
def positionsAfter (baseline : PortfolioState) (fills : List Fill) (now : Timestamp) :
    Except Exc (List Position) := do
  let positions ← runs placeFill (inOrder fills) (Projection.ofBaseline baseline).positions
  positionsOf now { Projection.ofBaseline baseline with positions }

theorem splitSymbol_error {symbol : String} (plain : ¬Hyphenated symbol) :
    ∃ exc, splitSymbol symbol = .error exc := by
  have whole : symbol.toList.dropWhile (· ≠ '-') = [] := by
    refine List.dropWhile_eq_nil_iff.2 fun character member => ?_
    have other : character ≠ '-' := by
      rintro rfl
      exact plain member
    simpa using other
  unfold splitSymbol
  rw [whole]
  exact ⟨_, rfl⟩

section Halves

variable {increments : Dict String Decimal} (positive : Positive increments)

include positive in
theorem applyFill_positions (fill : Fill) (p : Projection) :
    (applyFill increments fill p).map Projection.positions = placeFill fill p.positions := by
  have placed : placeFill fill p.positions = (splitSymbol fill.symbol).bind fun _ =>
      (blend fill (p.position fill.symbol).1 (p.position fill.symbol).2).bind fun position =>
        .ok (p.positions.set fill.symbol position) := rfl
  by_cases hyphenated : Hyphenated fill.symbol
  · obtain ⟨assets, split⟩ := splitSymbol_ok hyphenated
    obtain ⟨moved, same, here⟩ := applyFill_eq positive hyphenated p
    rw [here, placed, split]
    show _ = (blend fill (p.position fill.symbol).1 (p.position fill.symbol).2).bind _
    cases blend fill (p.position fill.symbol).1 (p.position fill.symbol).2 with
    | error exc => rfl
    | ok position => exact congrArg (fun held => Except.ok (held.set fill.symbol position)) same
  · obtain ⟨exc, failed⟩ := splitSymbol_error hyphenated
    have raised : applyFill increments fill p = .error exc := by
      unfold applyFill
      rw [failed]
      rfl
    rw [raised, placed, failed]
    rfl

include positive in
/-- The loop over the fills leaves the positions that placing them does. -/
theorem applied_positions (fills : List Fill) (p : Projection) :
    (runs (applyFill increments) fills p).map Projection.positions =
      runs placeFill fills p.positions := by
  induction fills generalizing p with
  | nil => rfl
  | cons fill fills ih =>
      show ((applyFill increments fill p).bind _).map _ = (placeFill fill p.positions).bind _
      rw [← applyFill_positions positive]
      cases applyFill increments fill p with
      | error exc => rfl
      | ok next => exact ih next

end Halves

/-! ## Balances -/

/-- What a leg settles to. -/
def settlement (increments : Dict String Decimal) (leg : Leg) : Decimal :=
  match increments.get? leg.asset with
  | none => leg.amount
  | some increment => truncate (leg.amount / increment) * increment

theorem settled_eq {increments : Dict String Decimal} (positive : Positive increments) (leg : Leg) :
    settled increments leg = .ok (settlement increments leg) := by
  unfold settled settlement
  cases listed : increments.get? leg.asset with
  | none => rfl
  | some increment =>
      have nonzero : increment ≠ 0 := ne_of_gt (positive leg.asset increment listed)
      show towardZero leg.amount increment = _
      rw [towardZero, divide_ok nonzero]
      rfl

namespace Projection

/-- The amount of an asset, as settled and unrounded. -/
def amount (p : Projection) (asset : String) : Decimal := (p.available.get? asset).getD 0

def unrounded (p : Projection) (asset : String) : Decimal := (p.exact.get? asset).getD 0

end Projection

/-- What some legs add to an asset. -/
def movedIn (value : Leg → Decimal) (asset : String) (moves : List Leg) : Decimal :=
  ((moves.filter fun leg => leg.asset = asset).map value).sum

theorem movedIn_append (value : Leg → Decimal) (asset : String) (moves more : List Leg) :
    movedIn value asset (moves ++ more) = movedIn value asset moves + movedIn value asset more := by
  simp [movedIn]

theorem movedIn_cons (value : Leg → Decimal) (asset : String) (leg : Leg) (moves : List Leg) :
    movedIn value asset (leg :: moves) =
      (if leg.asset = asset then value leg else 0) + movedIn value asset moves := by
  by_cases here : leg.asset = asset
  · simp [movedIn, here]
  · simp [movedIn, here]

theorem movedIn_perm {value : Leg → Decimal} {asset : String} {moves other : List Leg}
    (same : moves.Perm other) : movedIn value asset moves = movedIn value asset other :=
  ((same.filter _).map _).sum_eq

/-- The legs of a fill; without two assets to its symbol it has none. -/
def legsOf (fill : Fill) : List Leg :=
  match splitSymbol fill.symbol with
  | .ok (base, quote) => legs fill base quote
  | .error _ => []

/-- How a projection has come from another one by some legs. -/
structure MovedBy (increments : Dict String Decimal) (moves : List Leg) (p moved : Projection) :
    Prop where
  amount : ∀ asset, moved.amount asset = p.amount asset + movedIn (settlement increments) asset moves
  unrounded : ∀ asset, moved.unrounded asset = p.unrounded asset + movedIn Leg.amount asset moves
  kept : ∀ asset ∈ p.available.keys, asset ∈ moved.available.keys
  keys : (∀ asset, asset ∈ p.exact.keys → asset ∈ p.available.keys) →
    ∀ asset, asset ∈ moved.exact.keys → asset ∈ moved.available.keys

theorem MovedBy.none (increments : Dict String Decimal) (p : Projection) :
    MovedBy increments [] p p where
  amount asset := by simp [movedIn]
  unrounded asset := by simp [movedIn]
  kept _ member := member
  keys same := same

theorem MovedBy.trans {increments : Dict String Decimal} {moves more : List Leg}
    {p moved final : Projection} (first : MovedBy increments moves p moved)
    (rest : MovedBy increments more moved final) : MovedBy increments (moves ++ more) p final where
  amount asset := by rw [rest.amount, first.amount, movedIn_append, add_assoc]
  unrounded asset := by rw [rest.unrounded, first.unrounded, movedIn_append, add_assoc]
  kept asset member := rest.kept asset (first.kept asset member)
  keys same := rest.keys (first.keys same)

section Settling

variable {increments : Dict String Decimal} (positive : Positive increments)

include positive in
theorem settle_moves {leg : Leg} {p moved : Projection}
    (done : settle increments leg p = .ok moved) : MovedBy increments [leg] p moved := by
  have unfolded : settle increments leg p = (settled increments leg).bind fun amount =>
      .ok { p with
        exact := p.exact.set leg.asset ((p.exact.get? leg.asset).getD 0 + leg.amount)
        available := p.available.set leg.asset ((p.available.get? leg.asset).getD 0 + amount) } := rfl
  rw [unfolded, settled_eq positive] at done
  cases done
  refine ⟨fun asset => ?_, fun asset => ?_, fun asset member => ?_, fun same asset member => ?_⟩
  · simp only [Projection.amount, Dict.get?_set]
    by_cases here : asset = leg.asset
    · simp [here, movedIn]
    · simp [here, movedIn, Ne.symm here]
  · simp only [Projection.unrounded, Dict.get?_set]
    by_cases here : asset = leg.asset
    · simp [here, movedIn]
    · simp [here, movedIn, Ne.symm here]
  · exact Dict.mem_keys_set.2 (.inr member)
  · rcases Dict.mem_keys_set.1 member with here | before
    · exact Dict.mem_keys_set.2 (.inl here)
    · exact Dict.mem_keys_set.2 (.inr (same asset before))

include positive in
theorem settles_move {moves : List Leg} {p moved : Projection}
    (done : runs (settle increments) moves p = .ok moved) : MovedBy increments moves p moved :=
  runs_invariant (fun earlier q => MovedBy increments earlier p q) (.none increments p)
    (fun _ _ _ _ so stepped => so.trans (settle_moves positive stepped)) done

include positive in
theorem applyFill_moves {fill : Fill} {p p' : Projection}
    (applied : applyFill increments fill p = .ok p') : MovedBy increments (legsOf fill) p p' := by
  have unfolded : applyFill increments fill p =
      (splitSymbol fill.symbol).bind fun assets =>
        (runs (settle increments) (legs fill assets.1 assets.2) p).bind fun moved =>
          (blend fill (p.position fill.symbol).1 (p.position fill.symbol).2).bind fun position =>
            .ok { moved with positions := moved.positions.set fill.symbol position } := rfl
  rw [unfolded] at applied
  obtain ⟨⟨base, quote⟩, split, rest⟩ := bind_eq_ok.1 applied
  obtain ⟨moved, done, rest⟩ := bind_eq_ok.1 rest
  obtain ⟨position, _, whole⟩ := bind_eq_ok.1 rest
  cases whole
  have here : legsOf fill = legs fill base quote := by
    unfold legsOf
    rw [split]
  rw [here]
  have moves := settles_move positive done
  exact ⟨moves.amount, moves.unrounded, moves.kept, moves.keys⟩

include positive in
/-- The loop over the fills adds up their legs. -/
theorem applied_balances {fills : List Fill} {p p' : Projection}
    (applied : runs (applyFill increments) fills p = .ok p') :
    MovedBy increments (fills.flatMap legsOf) p p' := by
  refine runs_invariant (fun earlier q => MovedBy increments (earlier.flatMap legsOf) p q)
    (.none increments p) ?_ applied
  intro earlier fill q q' so stepped
  rw [List.flatMap_append, List.flatMap_singleton]
  exact so.trans (applyFill_moves positive stepped)

end Settling

/-! ## What a projection lists -/

def holdOf (holds : Dict String NonNegativeDecimal) (asset : String) : Decimal :=
  ((holds.get? asset).getD ⟨0, decimal_zero⟩).1

/-- The entries a projection lists as balances. -/
def listed (holds : Dict String NonNegativeDecimal) (p : Projection) : List (String × Decimal) :=
  (byKey p.available.entries).filter fun e => e.2 ≠ 0 ∨ holdOf holds e.1 ≠ 0

theorem mem_byKey {α : Type} {entries : List (String × α)} {e : String × α} :
    e ∈ byKey entries ↔ e ∈ entries := List.mem_insertionSort _

theorem mem_listed {holds : Dict String NonNegativeDecimal} {p : Projection} {asset : String}
    {amount : Decimal} : (asset, amount) ∈ listed holds p ↔
      p.available.get? asset = some amount ∧ (amount ≠ 0 ∨ holdOf holds asset ≠ 0) := by
  simp only [listed, List.mem_filter, mem_byKey, ← Dict.get?_eq_some, decide_eq_true_eq]

theorem byKey_ordered {α : Type} (entries : List (String × α)) :
    (byKey entries).Pairwise fun a b => a.1 ≤ b.1 := by
  have : IsTrans (String × α) fun a b => a.1 ≤ b.1 := ⟨fun _ _ _ => String.le_trans⟩
  have : Std.Total fun a b : String × α => a.1 ≤ b.1 := ⟨fun a b => String.le_total a.1 b.1⟩
  exact List.pairwise_insertionSort _ _

theorem byKey_nodup {α : Type} (d : Dict String α) : ((byKey d.entries).map Prod.fst).Nodup :=
  ((List.perm_insertionSort _ d.entries).map Prod.fst).nodup_iff.2 d.nodup

/-- Lists in the order of distinct keys are equal once their members are. -/
theorem eq_of_members {α : Type} {xs ys : List (String × α)}
    (ordered : xs.Pairwise fun a b => a.1 ≤ b.1) (ordered' : ys.Pairwise fun a b => a.1 ≤ b.1)
    (nodup : (xs.map Prod.fst).Nodup) (nodup' : (ys.map Prod.fst).Nodup)
    (members : ∀ e, e ∈ xs ↔ e ∈ ys) : xs = ys := by
  refine List.Perm.eq_of_pairwise (fun a b inXs inYs before after => ?_) ordered ordered'
    ((List.perm_ext_iff_of_nodup (.of_map _ nodup) (.of_map _ nodup')).2 members)
  exact List.inj_on_of_nodup_map nodup inXs ((members b).2 inYs) (String.le_antisymm before after)

theorem listed_nodup (holds : Dict String NonNegativeDecimal) (p : Projection) :
    ((listed holds p).map Prod.fst).Nodup :=
  (List.filter_sublist.map Prod.fst).nodup (byKey_nodup p.available)

/-- Every asset with a hold has an entry. -/
def Covers (holds : Dict String NonNegativeDecimal) (p : Projection) : Prop :=
  ∀ asset, holdOf holds asset ≠ 0 → asset ∈ p.available.keys

theorem get?_of_amount {p : Projection} {asset : String} (present : asset ∈ p.available.keys) :
    p.available.get? asset = some (p.amount asset) := by
  obtain ⟨amount, here⟩ := Option.isSome_iff_exists.1 (Dict.isSome_get?.2 present)
  rw [Projection.amount, here]
  rfl

theorem listed_iff {holds : Dict String NonNegativeDecimal} {p : Projection} (covers : Covers holds p)
    {asset : String} {amount : Decimal} : (asset, amount) ∈ listed holds p ↔
      p.amount asset = amount ∧ (amount ≠ 0 ∨ holdOf holds asset ≠ 0) := by
  rw [mem_listed]
  constructor
  · rintro ⟨here, shown⟩
    exact ⟨by rw [Projection.amount, here]; rfl, shown⟩
  · rintro ⟨rfl, shown⟩
    refine ⟨get?_of_amount ?_, shown⟩
    rcases shown with some | onHold
    · by_contra absent
      exact some (by rw [Projection.amount, Dict.get?_eq_none.2 absent]; rfl)
    · exact covers asset onHold

theorem listed_eq_iff {holds : Dict String NonNegativeDecimal} {p p' : Projection}
    (covers : Covers holds p) (covers' : Covers holds p') :
    listed holds p = listed holds p' ↔ ∀ asset, p.amount asset = p'.amount asset := by
  constructor
  · intro same asset
    by_contra differ
    -- One of the two amounts is not zero, so it is listed, and by both.
    by_cases nothing : p.amount asset = 0
    · have shown : (asset, p'.amount asset) ∈ listed holds p' :=
        (listed_iff covers').2 ⟨rfl, .inl fun none => differ (nothing.trans none.symm)⟩
      rw [← same] at shown
      exact differ ((listed_iff covers).1 shown).1
    · have shown : (asset, p.amount asset) ∈ listed holds p := (listed_iff covers).2 ⟨rfl, .inl nothing⟩
      rw [same] at shown
      exact differ ((listed_iff covers').1 shown).1.symm
  · intro same
    refine eq_of_members ((byKey_ordered _).filter _) ((byKey_ordered _).filter _)
      (listed_nodup holds p) (listed_nodup holds p') ?_
    rintro ⟨asset, amount⟩
    rw [listed_iff covers, listed_iff covers', same asset]

theorem balanceOf_told {now : Timestamp} {holds : Dict String NonNegativeDecimal}
    {e : String × Decimal} {balance : Balance} (made : balanceOf now holds e = .ok balance) :
    (balance.asset, balance.available.1) = e := by
  unfold balanceOf at made
  split at made
  · cases made
    rfl
  · cases made

/-- Nothing is negative, rounded or not. -/
def Solvent (p : Projection) : Prop := ∀ asset, 0 ≤ p.amount asset ∧ 0 ≤ p.unrounded asset

theorem balancesOf_ok {now : Timestamp} {holds : Dict String NonNegativeDecimal} {p : Projection}
    (solvent : Solvent p) : ∃ balances, balancesOf now holds p = .ok balances := by
  refine mapM_ok fun e member => ?_
  obtain ⟨here, _⟩ := mem_listed.1 (show (e.1, e.2) ∈ listed holds p from member)
  have bound : 0 ≤ e.2 := by
    have known := (solvent e.1).1
    rw [Projection.amount, here] at known
    exact known
  unfold balanceOf
  rw [dif_pos bound]
  exact ⟨_, rfl⟩

theorem balancesOf_eq_iff {now : Timestamp} {holds : Dict String NonNegativeDecimal}
    {p p' : Projection} {balances balances' : List Balance} (covers : Covers holds p)
    (covers' : Covers holds p') (done : balancesOf now holds p = .ok balances)
    (done' : balancesOf now holds p' = .ok balances') :
    balances = balances' ↔ ∀ asset, p.amount asset = p'.amount asset := by
  rw [← listed_eq_iff covers covers']
  have told := mapM_ok_map (fun _ _ => balanceOf_told) done
  have told' := mapM_ok_map (fun _ _ => balanceOf_told) done'
  constructor
  · rintro rfl
    exact told.symm.trans told'
  · intro same
    have whole : (listed holds p).mapM (balanceOf now holds) = .ok balances := done
    rw [same] at whole
    exact Except.ok.inj (whole.symm.trans done')

theorem checkBalances_ok_iff {p : Projection} (keys : ∀ asset ∈ p.exact.keys, asset ∈ p.available.keys) :
    checkBalances p = .ok () ↔ Solvent p := by
  unfold checkBalances
  constructor
  · intro passed asset
    have none : p.available.entries.find?
        (fun e => e.2 < 0 ∨ (p.exact.get? e.1).getD 0 < 0) = none := by
      cases found : p.available.entries.find?
          (fun e => e.2 < 0 ∨ (p.exact.get? e.1).getD 0 < 0) with
      | none => rfl
      | some e =>
          rw [found] at passed
          cases passed
    by_cases present : asset ∈ p.available.keys
    · have entry := Dict.get?_eq_some.1 (get?_of_amount present)
      have fine := List.find?_eq_none.1 none _ entry
      simpa [Projection.unrounded, not_or, not_lt] using fine
    · have other : asset ∉ p.exact.keys := fun there => present (keys asset there)
      simp [Projection.amount, Projection.unrounded, Dict.get?_eq_none.2 present,
        Dict.get?_eq_none.2 other]
  · intro solvent
    have none : p.available.entries.find?
        (fun e => e.2 < 0 ∨ (p.exact.get? e.1).getD 0 < 0) = none := by
      refine List.find?_eq_none.2 fun e entry => ?_
      have here : p.available.get? e.1 = some e.2 := Dict.get?_eq_some.2 entry
      have known := solvent e.1
      rw [Projection.amount, here] at known
      simpa [Projection.unrounded, not_or, not_lt] using known
    rw [none]

/-! ## Counting fills -/

/-- The positions and balances a projection gives, where it gives any. -/
def counted (result : Except Exc PortfolioState) : Option (List Position × List Balance) :=
  (result.map fun state => (state.positions, state.balances)).toOption

/-- What the baseline has of an asset and what the fills move of it. -/
def amountAfter (baseline : PortfolioState) (increments : Dict String Decimal) (fills : List Fill)
    (asset : String) : Decimal :=
  (Projection.ofBaseline baseline).amount asset +
    movedIn (settlement increments) asset (fills.flatMap legsOf)

def unroundedAfter (baseline : PortfolioState) (fills : List Fill) (asset : String) : Decimal :=
  (Projection.ofBaseline baseline).unrounded asset + movedIn Leg.amount asset (fills.flatMap legsOf)

/-- Some balance ends up negative, rounded or not. -/
def Short (baseline : PortfolioState) (increments : Dict String Decimal) (fills : List Fill) : Prop :=
  ∃ asset, amountAfter baseline increments fills asset < 0 ∨ unroundedAfter baseline fills asset < 0

/-- The positions cannot be projected: a symbol without two assets, a short closed at a
known price, or a price that comes out negative. -/
def Unplaceable (baseline : PortfolioState) (fills : List Fill) (now : Timestamp) : Prop :=
  ∃ exc, positionsAfter baseline fills now = .error exc

section Counting

variable {increments : Dict String Decimal} (positive : Positive increments)
  {baseline : PortfolioState} {fills : List Fill} {now : Timestamp} {p : Projection}

theorem legs_inOrder : (inOrder fills).flatMap legsOf |>.Perm (fills.flatMap legsOf) :=
  (fills.perm_insertionSort Precedes).flatMap_right legsOf

include positive in
/-- What the projection of the fills comes to. -/
theorem projected_amounts
    (applied : runs (applyFill increments) (inOrder fills) (.ofBaseline baseline) = .ok p) :
    (∀ asset, p.amount asset = amountAfter baseline increments fills asset) ∧
      (∀ asset, p.unrounded asset = unroundedAfter baseline fills asset) ∧
      (∀ asset ∈ p.exact.keys, asset ∈ p.available.keys) ∧ Covers (holdsOf baseline) p := by
  have moves := applied_balances positive applied
  refine ⟨fun asset => ?_, fun asset => ?_, moves.keys fun _ member => member, fun asset onHold => ?_⟩
  · rw [moves.amount, movedIn_perm legs_inOrder, amountAfter]
  · rw [moves.unrounded, movedIn_perm legs_inOrder, unroundedAfter]
  · refine moves.kept asset ?_
    have held : asset ∈ (holdsOf baseline).keys := by
      by_contra absent
      exact onHold (by rw [holdOf, Dict.get?_eq_none.2 absent]; rfl)
    rcases (Dict.mem_keys_foldl_set Prod.fst Prod.snd _ _).1 held with never | ⟨e, member, rfl⟩
    · cases never
    · obtain ⟨item, row, rfl⟩ := List.mem_map.1 member
      exact (Dict.mem_keys_foldl_set Prod.fst Prod.snd _ _).2
        (.inr ⟨(item.asset, item.available.1), List.mem_map_of_mem row, rfl⟩)

theorem counted_of_error {result : Except Exc PortfolioState} {exc : Exc}
    (raised : result = .error exc) : counted result = none := by
  rw [raised]
  rfl

include positive in
/-- Positions that cannot be projected leave nothing. -/
theorem counted_unplaceable (unplaceable : Unplaceable baseline fills now) :
    counted (applyFills baseline fills now increments) = none := by
  obtain ⟨exc, failed⟩ := unplaceable
  rw [applyFills_eq]
  cases applied : runs (applyFill increments) (inOrder fills) (.ofBaseline baseline) with
  | error other => exact counted_of_error rfl
  | ok p =>
      have placed : runs placeFill (inOrder fills) (Projection.ofBaseline baseline).positions =
          .ok p.positions := by
        rw [← applied_positions positive, applied]
        rfl
      have invalid : positionsOf now p = .error exc := by
        have unfolded : positionsAfter baseline fills now =
            (runs placeFill (inOrder fills) (Projection.ofBaseline baseline).positions).bind fun positions =>
              positionsOf now { Projection.ofBaseline baseline with positions } := rfl
        rw [unfolded, placed] at failed
        exact failed
      show counted ((checkBalances p).bind _) = none
      cases checkBalances p with
      | error other => exact counted_of_error rfl
      | ok _ =>
          show counted ((positionsOf now p).bind _) = none
          rw [invalid]
          rfl

include positive in
/-- A projection whose positions can be projected: it comes to the sums of the legs. -/
theorem placed_applies {positions : List Position}
    (placed : positionsAfter baseline fills now = .ok positions) :
    ∃ p, runs (applyFill increments) (inOrder fills) (.ofBaseline baseline) = .ok p ∧
      positionsOf now p = .ok positions := by
  have unfolded : positionsAfter baseline fills now =
      (runs placeFill (inOrder fills) (Projection.ofBaseline baseline).positions).bind fun positions =>
        positionsOf now { Projection.ofBaseline baseline with positions } := rfl
  rw [unfolded, ← applied_positions positive] at placed
  cases applied : runs (applyFill increments) (inOrder fills) (.ofBaseline baseline) with
  | error exc =>
      rw [applied] at placed
      cases placed
  | ok p =>
      rw [applied] at placed
      exact ⟨p, rfl, placed⟩

theorem short_iff_not_solvent
    (amounts : ∀ asset, p.amount asset = amountAfter baseline increments fills asset)
    (unroundeds : ∀ asset, p.unrounded asset = unroundedAfter baseline fills asset) :
    Short baseline increments fills ↔ ¬Solvent p := by
  unfold Short Solvent
  simp only [amounts, unroundeds, not_forall, not_and_or, not_le]

include positive in
theorem counted_short {positions : List Position}
    (placed : positionsAfter baseline fills now = .ok positions)
    (short : Short baseline increments fills) :
    counted (applyFills baseline fills now increments) = none := by
  obtain ⟨p, applied, _⟩ := placed_applies positive placed
  obtain ⟨amounts, unroundeds, keys, _⟩ := projected_amounts positive applied
  rw [short_iff_not_solvent amounts unroundeds, ← checkBalances_ok_iff keys] at short
  rw [applyFills_eq, applied]
  show counted ((checkBalances p).bind _) = none
  cases checked : checkBalances p with
  | error exc => exact counted_of_error rfl
  | ok _ => exact absurd checked short

include positive in
theorem counted_solvent {positions : List Position}
    (placed : positionsAfter baseline fills now = .ok positions)
    (solvent : ¬Short baseline increments fills) :
    ∃ p balances, (∀ asset, p.amount asset = amountAfter baseline increments fills asset) ∧
      Covers (holdsOf baseline) p ∧ balancesOf now (holdsOf baseline) p = .ok balances ∧
      counted (applyFills baseline fills now increments) = some (positions, balances) := by
  obtain ⟨p, applied, valid⟩ := placed_applies positive placed
  obtain ⟨amounts, unroundeds, keys, covers⟩ := projected_amounts positive applied
  rw [short_iff_not_solvent amounts unroundeds, not_not] at solvent
  obtain ⟨balances, listed⟩ : ∃ balances, balancesOf now (holdsOf baseline) p = .ok balances :=
    balancesOf_ok solvent
  refine ⟨p, balances, amounts, covers, listed, ?_⟩
  rw [applyFills_eq, applied]
  show counted ((checkBalances p).bind _) = _
  rw [(checkBalances_ok_iff keys).2 solvent]
  show counted ((positionsOf now p).bind _) = _
  rw [valid]
  show counted ((balancesOf now (holdsOf baseline) p).bind _) = _
  rw [listed]
  rfl

include positive in
/-- Two lists of fills with the same positions count to the same when neither can be
projected, or both leave something negative, or neither does and every asset is moved by
the same amount. -/
theorem counted_eq_iff {other : List Fill}
    (same : positionsAfter baseline fills now = positionsAfter baseline other now) :
    counted (applyFills baseline fills now increments) =
        counted (applyFills baseline other now increments) ↔
      Unplaceable baseline fills now ∨
      (Short baseline increments fills ∧ Short baseline increments other) ∨
      (¬Short baseline increments fills ∧ ¬Short baseline increments other ∧
        ∀ asset, amountAfter baseline increments fills asset =
          amountAfter baseline increments other asset) := by
  cases placed : positionsAfter baseline fills now with
  | error exc =>
      have left : Unplaceable baseline fills now := ⟨exc, placed⟩
      have right : Unplaceable baseline other now := ⟨exc, same ▸ placed⟩
      rw [counted_unplaceable positive left, counted_unplaceable positive right]
      exact ⟨fun _ => .inl left, fun _ => rfl⟩
  | ok positions =>
      have placeable : ¬Unplaceable baseline fills now := by
        rintro ⟨exc, failed⟩
        rw [placed] at failed
        cases failed
      have placed' : positionsAfter baseline other now = .ok positions := same ▸ placed
      by_cases short : Short baseline increments fills
      · by_cases short' : Short baseline increments other
        · rw [counted_short positive placed short, counted_short positive placed' short']
          exact ⟨fun _ => .inr (.inl ⟨short, short'⟩), fun _ => rfl⟩
        · obtain ⟨_, _, _, _, _, some⟩ := counted_solvent positive placed' short'
          rw [counted_short positive placed short, some]
          simp [placeable, short, short']
      · obtain ⟨p, balances, amounts, covers, listed, whole⟩ := counted_solvent positive placed short
        by_cases short' : Short baseline increments other
        · rw [whole, counted_short positive placed' short']
          simp [placeable, short, short']
        · obtain ⟨p', balances', amounts', covers', listed', whole'⟩ :=
            counted_solvent positive placed' short'
          have equal := balancesOf_eq_iff covers covers' listed listed'
          simp only [amounts, amounts'] at equal
          rw [whole, whole']
          simp [placeable, short, short', equal]

end Counting

end AlgoTrader.Portfolio
