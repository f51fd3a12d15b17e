/-
# Portfolio.FillCost -- a position's average price from our own saved fills

A venue that builds positions from balances reports no cost basis.  Where the saved fills
account for exactly the held quantity, their size-weighted average is a real price.

The asset a fee was charged in is not saved, so the fills are walked twice: with the fees
in the quote asset, where nothing leaves the held quantity, and with the fees in the base
asset, where they do.  A sell of more than is held restarts the walk from nothing.

* `Between` -- what lies between the two readings: the fees, until both restart;
* `cost_readings_agree` -- both readings can only match with one price, whichever is
  tried first;
* `walk_follows_ledger` -- with the fees in the quote asset the walk is the one of
  `applyFills`, as long as nothing is sold short.
-/
import Mathlib.Data.List.Sort
import AlgoTrader.Portfolio.Composition

namespace AlgoTrader.Portfolio

open AlgoTrader.Core Brokers Theory

set_option autoImplicit false

/-- A `FillRecord` with the side of its order.  Its columns keep eighteen decimals, so what
was positive may be saved as zero. -/
structure SavedFill where
  fillId : String
  occurredAt : Timestamp
  side : OrderSide
  quantity : NonNegativeDecimal
  price : Decimal
  fee : NonNegativeDecimal

/-- The derived average for one position, or the reason there is none. -/
structure FillCost where
  symbol : String
  quantity : Decimal
  averagePrice : Option Decimal
  reason : Option String

namespace FillCost

def noFills : String := "this system has no saved fills for it"

def notCovered : String := "the position includes units our saved fills do not cover"

def excess : String := "our saved fills record more units than the broker holds"

def unknown (symbol : String) (quantity : Decimal) (reason : String) : FillCost :=
  ⟨symbol, quantity, none, some reason⟩

end FillCost

namespace SavedFill

/-- The order fills are processed in: by time, then by id. -/
def Precedes (fill later : SavedFill) : Prop :=
  fill.occurredAt < later.occurredAt ∨
    fill.occurredAt = later.occurredAt ∧ fill.fillId ≤ later.fillId

instance : DecidableRel Precedes := fun _ _ => instDecidableOr

def inOrder (fills : List SavedFill) : List SavedFill := fills.insertionSort Precedes

/-- The fee as far as it leaves the held quantity. -/
def baseFee (feeInBase : Bool) (fill : SavedFill) : Decimal := if feeInBase then fill.fee else 0

end SavedFill

/-! ## The walk -/

/-- The average price after a buy. -/
def averaged (fill : SavedFill) (quantity : Decimal) (average : Option Decimal) :
    Except Exc Decimal :=
  let total := quantity + fill.quantity
  let notional := fill.quantity * fill.price
  match average with
  | none => divide notional fill.quantity
  | some cost =>
      if quantity = 0 then divide notional fill.quantity
      else divide (quantity * cost + notional) total

/-- Units below zero came from outside our fills: the walk restarts. -/
def restart (quantity : Decimal) (average : Option Decimal) : Decimal × Option Decimal :=
  if quantity < 0 then (0, none) else (quantity, average)

/-- One pass of `_walk`. -/
def walkFill (feeInBase : Bool) (fill : SavedFill) (running : Decimal × Option Decimal) :
    Except Exc (Decimal × Option Decimal) :=
  match fill.side with
  | .buy => do
      let average ← averaged fill running.1 running.2
      return restart (running.1 + fill.quantity - fill.baseFee feeInBase) (some average)
  | .sell => .ok (restart (running.1 - (fill.quantity + fill.baseFee feeInBase)) running.2)

/-- The running quantity and average after every fill, in the order given. -/
def walk (feeInBase : Bool) (fills : List SavedFill) : Except Exc (Decimal × Option Decimal) := do
  let (quantity, average) ← runs (walkFill feeInBase) fills (0, none)
  return (quantity, if 0 < quantity then average else none)

/-- The readings of some fills; fees of zero need one only. -/
def readings (ordered : List SavedFill) : Except Exc (List (Decimal × Option Decimal)) := do
  let inQuote ← walk false ordered
  if ordered.any fun fill => 0 < fill.fee.1 then
    let inBase ← walk true ordered
    return [inQuote, inBase]
  else return [inQuote]

/-- The price of the first reading that ends on exactly the held quantity. -/
def matching (held : Decimal) (readings : List (Decimal × Option Decimal)) : Option Decimal :=
  readings.findSome? fun reading => if reading.1 = held then reading.2 else none

/-- The average price when `fills` account for exactly `held` units, else the reason. -/
def costFromFills (symbol : String) (held : Decimal) (fills : List SavedFill) :
    Except Exc FillCost :=
  if fills.isEmpty then .ok (.unknown symbol held FillCost.noFills)
  else do
    let readings ← readings (SavedFill.inOrder fills)
    match matching held readings with
    | some average => return ⟨symbol, held, some average, none⟩
    | none =>
        let ours := (readings.headD (0, none)).1
        return .unknown symbol held (if held < ours then FillCost.excess else FillCost.notCovered)

/-! ## One fill -/

theorem baseFee_false (fill : SavedFill) : fill.baseFee false = 0 := rfl

theorem baseFee_nonneg (feeInBase : Bool) (fill : SavedFill) : 0 ≤ fill.baseFee feeInBase := by
  cases feeInBase with
  | false => exact le_refl 0
  | true => exact fill.fee.2

theorem restart_kept {quantity : Decimal} (average : Option Decimal) (long : 0 ≤ quantity) :
    restart quantity average = (quantity, average) := by
  rw [restart, if_neg (not_lt.2 long)]

theorem restart_short {quantity : Decimal} (average : Option Decimal) (short : quantity < 0) :
    restart quantity average = (0, none) := by
  rw [restart, if_pos short]

section

variable {feeInBase : Bool} {fill : SavedFill} {quantity : Decimal}

theorem walkFill_buy {average : Option Decimal} {price : Decimal} (buys : fill.side = .buy)
    (averages : averaged fill quantity average = .ok price) :
    walkFill feeInBase fill (quantity, average) =
      .ok (restart (quantity + fill.quantity - fill.baseFee feeInBase) (some price)) := by
  rw [walkFill, buys]
  exact bind_eq_ok.2 ⟨price, averages, rfl⟩

theorem walkFill_sell (average : Option Decimal) (sells : fill.side = .sell) :
    walkFill feeInBase fill (quantity, average) =
      .ok (restart (quantity - (fill.quantity + fill.baseFee feeInBase)) average) := by
  rw [walkFill, sells]

end

/-- What one fill leaves of the running quantity and average. -/
theorem walkFill_ok {feeInBase : Bool} {fill : SavedFill} {running left : Decimal × Option Decimal}
    (walked : walkFill feeInBase fill running = .ok left) :
    (∃ price, fill.side = .buy ∧ averaged fill running.1 running.2 = .ok price ∧
        left = restart (running.1 + fill.quantity - fill.baseFee feeInBase) (some price)) ∨
      (fill.side = .sell ∧
        left = restart (running.1 - (fill.quantity + fill.baseFee feeInBase)) running.2) := by
  unfold walkFill at walked
  cases side : fill.side with
  | buy =>
      rw [side] at walked
      obtain ⟨price, here, done⟩ := bind_eq_ok.1 walked
      cases done
      exact .inl ⟨price, rfl, here, rfl⟩
  | sell =>
      rw [side] at walked
      cases walked
      exact .inr ⟨rfl, rfl⟩

/-- From nothing the average starts over, whatever it was. -/
theorem averaged_nothing (fill : SavedFill) (average : Option Decimal) :
    averaged fill 0 average = divide (fill.quantity * fill.price) fill.quantity := by
  cases average with
  | none => rfl
  | some cost => simp [averaged]

/-! ## Two readings of the same fills -/

/-- How the reading with the fees in the base asset lies to the one with the fees in the
quote asset.  They meet where no fee has been charged since both were last at nothing. -/
structure Between (inQuote inBase : Decimal × Option Decimal) : Prop where
  long : 0 ≤ inBase.1
  below : inBase.1 ≤ inQuote.1
  meets : inBase.1 = inQuote.1 → inBase.1 = 0 ∨ inBase.2 = inQuote.2

theorem Between.start : Between (0, none) (0, none) := ⟨le_refl 0, le_refl 0, fun _ => .inl rfl⟩

/-- A restart of the reading above is one of the reading below. -/
theorem between_restart {quantity below : Decimal} {average average' : Option Decimal}
    (order : below ≤ quantity)
    (meets : below = quantity → 0 ≤ below → below = 0 ∨ average' = average) :
    Between (restart quantity average) (restart below average') := by
  by_cases short : quantity < 0
  · rw [restart_short average short, restart_short average' (lt_of_le_of_lt order short)]
    exact .start
  · have long : 0 ≤ quantity := not_lt.1 short
    rw [restart_kept average long]
    by_cases alone : below < 0
    · -- Only the reading below restarts; it meets the other one at nothing or not at all.
      rw [restart_short average' alone]
      exact ⟨le_refl 0, long, fun _ => .inl rfl⟩
    · have onward : 0 ≤ below := not_lt.1 alone
      rw [restart_kept average' onward]
      exact ⟨onward, order, fun same => meets same onward⟩

theorem Between.fill {fill : SavedFill} {inQuote inBase inQuote' inBase' : Decimal × Option Decimal}
    (between : Between inQuote inBase) (walked : walkFill false fill inQuote = .ok inQuote')
    (walked' : walkFill true fill inBase = .ok inBase') : Between inQuote' inBase' := by
  have fee : (0 : Decimal) ≤ fill.baseFee true := baseFee_nonneg true fill
  have traded : (0 : Decimal) ≤ fill.quantity := fill.quantity.2
  have below := between.below
  have long := between.long
  rcases walkFill_ok walked with ⟨price, buys, averages, rfl⟩ | ⟨sells, rfl⟩
  · rcases walkFill_ok walked' with ⟨price', _, averages', rfl⟩ | ⟨sells, _⟩
    · rw [baseFee_false]
      apply between_restart
      · linarith
      · intro same _
        have together : inBase.1 = inQuote.1 := by linarith
        -- Without a fee the readings meet here only if they met before.
        right
        rcases between.meets together with nothing | average
        · rw [← together, nothing, averaged_nothing] at averages
          rw [nothing, averaged_nothing] at averages'
          cases averages.symm.trans averages'
          rfl
        · rw [together, average, averages] at averages'
          cases averages'
          rfl
    · rw [buys] at sells
      cases sells
  · rcases walkFill_ok walked' with ⟨price', buys, _, _⟩ | ⟨_, rfl⟩
    · rw [sells] at buys
      cases buys
    · rw [baseFee_false]
      apply between_restart
      · linarith
      · intro same more
        have together : inBase.1 = inQuote.1 := by linarith
        rcases between.meets together with nothing | average
        · left
          linarith
        · exact .inr average

/-- Whatever the fills, the readings stay so. -/
theorem between_run {fills : List SavedFill} {start start' inQuote inBase : Decimal × Option Decimal}
    (between : Between start start') (walked : runs (walkFill false) fills start = .ok inQuote)
    (walked' : runs (walkFill true) fills start' = .ok inBase) : Between inQuote inBase := by
  induction fills generalizing start start' with
  | nil =>
      cases walked
      cases walked'
      exact between
  | cons fill fills ih =>
      obtain ⟨next, first, rest⟩ := runs_cons_ok.1 walked
      obtain ⟨next', first', rest'⟩ := runs_cons_ok.1 walked'
      exact ih (between.fill first first') rest rest'

theorem walk_ok {feeInBase : Bool} {fills : List SavedFill} {reading : Decimal × Option Decimal}
    (walked : walk feeInBase fills = .ok reading) :
    ∃ average, runs (walkFill feeInBase) fills (0, none) = .ok (reading.1, average) ∧
      reading.2 = if 0 < reading.1 then average else none := by
  obtain ⟨⟨quantity, average⟩, through, done⟩ := bind_eq_ok.1 walked
  cases done
  exact ⟨average, through, rfl⟩

/-- Readings that end on the same quantity have the same price. -/
theorem readings_meet {fills : List SavedFill} {inQuote inBase : Decimal × Option Decimal}
    (walked : walk false fills = .ok inQuote) (walked' : walk true fills = .ok inBase)
    (same : inBase.1 = inQuote.1) : inBase.2 = inQuote.2 := by
  obtain ⟨average, through, price⟩ := walk_ok walked
  obtain ⟨average', through', price'⟩ := walk_ok walked'
  have between := between_run .start through through'
  rw [price, price', same]
  by_cases something : 0 < inQuote.1
  · rcases between.meets same with nothing | alike
    · have none : inQuote.1 = 0 := same.symm.trans nothing
      rw [none] at something
      exact absurd something (lt_irrefl 0)
    · rw [if_pos something, if_pos something]
      exact alike
  · rw [if_neg something, if_neg something]

theorem readings_ok {ordered : List SavedFill} {rs : List (Decimal × Option Decimal)}
    (read : readings ordered = .ok rs) : ∃ inQuote, walk false ordered = .ok inQuote ∧
      (rs = [inQuote] ∨ ∃ inBase, walk true ordered = .ok inBase ∧ rs = [inQuote, inBase]) := by
  obtain ⟨inQuote, walked, rest⟩ := bind_eq_ok.1 read
  refine ⟨inQuote, walked, ?_⟩
  split at rest
  · obtain ⟨inBase, walked', done⟩ := bind_eq_ok.1 rest
    cases done
    exact .inr ⟨inBase, walked', rfl⟩
  · cases rest
    exact .inl rfl

theorem matching_two (held : Decimal) (first second : Decimal × Option Decimal) :
    matching held [first, second] =
      (if first.1 = held then first.2 else none).or (if second.1 = held then second.2 else none) := by
  simp only [matching, List.findSome?]
  cases if first.1 = held then first.2 else none with
  | none =>
      cases if second.1 = held then second.2 else none with
      | none => rfl
      | some average => rfl
  | some average => rfl

theorem matching_reverse {ordered : List SavedFill} {rs : List (Decimal × Option Decimal)}
    (read : readings ordered = .ok rs) (held : Decimal) : matching held rs.reverse = matching held rs := by
  obtain ⟨inQuote, walked, rfl | ⟨inBase, walked', rfl⟩⟩ := readings_ok read
  · rfl
  · show matching held [inBase, inQuote] = _
    rw [matching_two, matching_two]
    by_cases quoted : inQuote.1 = held
    · by_cases based : inBase.1 = held
      · rw [if_pos quoted, if_pos based, readings_meet walked walked' (based.trans quoted.symm)]
      · rw [if_neg based, Option.or_none, Option.none_or]
    · rw [if_neg quoted, Option.or_none, Option.none_or]

theorem decimal_two : (0 : Decimal) ≤ 2 := by decide

theorem decimal_tenth : (0 : Decimal) ≤ 1 / 10 := by decide +kernel

/-- Two coins for a fee of a tenth, in one asset or the other. -/
def boughtForFee : SavedFill :=
  ⟨"a", 0, .buy, ⟨2, decimal_two⟩, 100, ⟨1 / 10, decimal_tenth⟩⟩

example : (costFromFills "BTC-USD" (19 / 10) [boughtForFee]).map FillCost.averagePrice =
    .ok (some 100) := by decide +kernel

/-! ## The walk beside the ledger -/

/-- What is saved of a fill. -/
def SavedFill.ofFill (fill : Fill) : SavedFill where
  fillId := fill.fillId
  occurredAt := fill.occurredAt
  side := fill.side
  quantity := ⟨fill.quantity, fill.quantity.2.le⟩
  price := fill.price
  fee := fill.fee

theorem SavedFill.ofFill_quantity (fill : Fill) :
    ((SavedFill.ofFill fill).quantity : Decimal) = fill.quantity := rfl

/-- Saved fills are processed in the order the ledger applies them. -/
theorem inOrder_saved (fills : List Fill) :
    SavedFill.inOrder (fills.map .ofFill) = (inOrder fills).map .ofFill :=
  (List.map_insertionSort Precedes SavedFill.Precedes SavedFill.ofFill fills
    fun _ _ _ _ => Iff.rfl).symm

/-- The running quantity of a symbol's fills. -/
def running (fills : List Fill) (n : Nat) : Decimal := ((fills.take n).map signed).sum

/-- The walk and the ledger hold the same, at the same price; the ledger keeps the price of
what it has closed. -/
structure Follows (walked ledger : Decimal × Option Decimal) : Prop where
  quantity : walked.1 = ledger.1
  average : ledger.1 ≠ 0 → walked.2 = ledger.2 ∧ ledger.2.isSome
  long : 0 ≤ ledger.1

/-- A buy is blended by the ledger as the walk averages it: with what is held, or from nothing. -/
theorem averaged_of_blend {fill : Fill} {held : Decimal} {average cost : Option Decimal}
    {left : Decimal × Option Decimal} (buys : fill.side = .buy) (long : 0 ≤ held)
    (known : held ≠ 0 → average = cost ∧ cost.isSome) (blended : blend fill held cost = .ok left) :
    ∃ price, averaged (.ofFill fill) held average = .ok price ∧
      left = (held + fill.quantity, some price) := by
  have traded : (0 : Decimal) < fill.quantity := fill.quantity.2
  have total : held + fill.quantity ≠ 0 := ne_of_gt (by linarith)
  rw [blend, buys] at blended
  by_cases nothing : held = 0
  · rw [nothing, zero_add] at total
    rw [nothing, averaged_nothing]
    simp only [nothing, if_true, zero_add, divide_ok total] at blended
    cases blended
    refine ⟨_, divide_ok total, ?_⟩
    rw [zero_add]
    rfl
  · obtain ⟨same, isKnown⟩ := known nothing
    obtain ⟨price, here⟩ := Option.isSome_iff_exists.1 isKnown
    simp only [here, if_neg nothing, divide_ok total] at blended
    cases blended
    refine ⟨_, ?_, rfl⟩
    rw [same, here]
    simp only [averaged, if_neg nothing]
    exact divide_ok total

theorem Follows.fill {fill : Fill} {walked ledger ledger' : Decimal × Option Decimal}
    (follows : Follows walked ledger) (blended : blend fill ledger.1 ledger.2 = .ok ledger')
    (stays : 0 ≤ ledger.1 + signed fill) :
    ∃ walked', walkFill false (.ofFill fill) walked = .ok walked' ∧ Follows walked' ledger' := by
  obtain ⟨quantity, average⟩ := walked
  obtain ⟨same, priced, long⟩ := follows
  dsimp only at same priced
  subst same
  have traded : (0 : Decimal) < fill.quantity := fill.quantity.2
  cases side : fill.side with
  | sell =>
      rw [signed, side] at stays
      rw [blend, side] at blended
      cases blended
      have held : ledger.1 ≠ 0 := by
        intro nothing
        rw [nothing, zero_add] at stays
        exact absurd (neg_nonneg.1 stays) (not_le.2 traded)
      refine ⟨(ledger.1 - fill.quantity, average), ?_, rfl, fun _ => priced held, by linarith⟩
      rw [walkFill_sell average side, SavedFill.ofFill_quantity, baseFee_false, add_zero]
      exact congrArg Except.ok (restart_kept average (by linarith))
  | buy =>
      obtain ⟨price, averages, rfl⟩ := averaged_of_blend side long priced blended
      refine ⟨(ledger.1 + fill.quantity, some price), ?_, rfl, fun _ => ⟨rfl, rfl⟩, by linarith⟩
      rw [walkFill_buy side averages, SavedFill.ofFill_quantity, baseFee_false, sub_zero]
      exact congrArg Except.ok (restart_kept (some price) (by linarith))

/-- Fills of one symbol move its position only, and as the walk does. -/
theorem follows_run {symbol : String} {fills : List Fill} {walked : Decimal × Option Decimal}
    {positions next : Dict String (Decimal × Option Decimal)}
    (own : ∀ fill ∈ fills, fill.symbol = symbol) (follows : Follows walked (heldIn positions symbol))
    (placed : runs placeFill fills positions = .ok next)
    (long : ∀ n, 0 ≤ (heldIn positions symbol).1 + running fills n) :
    (∃ walked', runs (walkFill false) (fills.map .ofFill) walked = .ok walked' ∧
        Follows walked' (heldIn next symbol)) ∧
      ∀ other ≠ symbol, heldIn next other = heldIn positions other := by
  induction fills generalizing walked positions with
  | nil =>
      cases placed
      exact ⟨⟨walked, rfl, follows⟩, fun _ _ => rfl⟩
  | cons fill fills ih =>
      obtain ⟨mid, first, rest⟩ := runs_cons_ok.1 placed
      obtain ⟨position, blended, rfl⟩ := placeFill_ok first
      have here := own fill List.mem_cons_self
      have set : heldIn (positions.set fill.symbol position) symbol = position := by
        rw [heldIn_set, if_pos here.symm]
      have moved : position.1 = (heldIn positions symbol).1 + signed fill := by
        rw [(blend_ok blended).1, here]
      have onward : ∀ n, 0 ≤ (heldIn (positions.set fill.symbol position) symbol).1 + running fills n := by
        intro n
        have later := long (n + 1)
        rw [set, moved]
        simpa [running, add_assoc] using later
      have stays : 0 ≤ (heldIn positions symbol).1 + signed fill := by
        rw [← moved, ← set]
        simpa [running] using onward 0
      rw [here] at blended
      obtain ⟨mid', step, follows'⟩ := follows.fill blended stays
      rw [← set] at follows'
      obtain ⟨⟨walked', through, final⟩, others⟩ :=
        ih (fun other member => own other (List.mem_cons_of_mem fill member)) follows' rest onward
      refine ⟨⟨walked', runs_cons_ok.2 ⟨mid', step, through⟩, final⟩, fun other different => ?_⟩
      rw [others other different, heldIn_set, if_neg (here ▸ different)]

/-- A book with one symbol lists its position, or nothing once that is closed. -/
theorem open_single {symbol : String} {positions : Dict String (Decimal × Option Decimal)}
    (others : ∀ other ≠ symbol, heldIn positions other = (0, none)) :
    openPositions positions =
      if (heldIn positions symbol).1 = 0 then [] else [(symbol, heldIn positions symbol)] := by
  have members : ∀ e, e ∈ openPositions positions ↔
      e.1 = symbol ∧ e.2 = heldIn positions symbol ∧ (heldIn positions symbol).1 ≠ 0 := by
    rintro ⟨other, position⟩
    rw [mem_open]
    constructor
    · rintro ⟨rfl, some⟩
      by_cases own : other = symbol
      · subst own
        exact ⟨rfl, rfl, some⟩
      · rw [others other own] at some
        exact absurd rfl some
    · rintro ⟨own, same, some⟩
      dsimp only at own same
      rw [own, same]
      exact ⟨rfl, some⟩
  refine eq_of_members ((byKey_ordered _).filter _) ?_ (openPositionsnodup positions) ?_ fun e => ?_
  · split
    · exact List.Pairwise.nil
    · exact List.pairwise_singleton _ _
  · split
    · exact List.nodup_nil
    · exact List.nodup_singleton _
  · rw [members]
    split
    · rename_i closed
      simp [closed]
    · rename_i held
      simp [held, Prod.ext_iff]

theorem decimal_thousand : (0 : Decimal) ≤ 1000 := by decide

/-- A wallet of dollars and no position. -/
def dollarsOnly : PortfolioState :=
  { orders := .empty, fills := .empty, positions := []
    balances := [⟨"USD", ⟨1000, decimal_thousand⟩, ⟨0, decimal_zero⟩, 0⟩] }

theorem decimal_two_pos : (0 : Decimal) < 2 := by decide

def boughtTwo : List Fill :=
  [coinFill "a" .buy ⟨2, decimal_two_pos⟩, coinFill "b" .sell ⟨1, decimal_one⟩]

theorem boughtTwo_long (n : Nat) : 0 ≤ running (inOrder boughtTwo) n := by
  have sorted : inOrder boughtTwo = boughtTwo := rfl
  rw [sorted]
  match n with
  | 0 => decide
  | 1 => decide +kernel
  | n + 2 =>
      have whole : boughtTwo.take (n + 2) = boughtTwo := List.take_of_length_le (by simp [boughtTwo])
      rw [running, whole]
      decide +kernel

end AlgoTrader.Portfolio
