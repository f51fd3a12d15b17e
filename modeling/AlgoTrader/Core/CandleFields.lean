/-
# Core.CandleFields -- what a `Candle` is made of

Each field is read on its own first, by its type and its bound.  The validators run in the
order of the fields, and each sees those of the earlier fields that were accepted: the high is
held against the open, the low against the high, the close against both, and the low against
the open by none.

* `new_ok` -- an accepted candle keeps the values it was given, and what the validators see of
  them;
* `accepted_real_iff` -- it is a real bar exactly where its low does not exceed its open.
-/
import Mathlib.Algebra.Order.Ring.Rat
import AlgoTrader.Core.Models

namespace AlgoTrader.Core.Candle

set_option autoImplicit false

/-- A field as it was read: its value, or what is wrong with it. -/
abbrev Field (α : Type) := Except String α

/-- The arguments of `Candle`, each read by its own type and bound. -/
structure Fields where
  symbol : Field String
  interval : Field String
  openedAt : Field Timestamp
  closedAt : Field Timestamp
  openPrice : Field PositiveDecimal
  high : Field PositiveDecimal
  low : Field PositiveDecimal
  close : Field PositiveDecimal
  volume : Field NonNegativeDecimal
  source : Field String
  asOf : Field Timestamp
  ingestedAt : Field Timestamp

/-! ## The validators -/

/-- A comparison with an earlier field, which is made only where that was accepted. -/
def against {α : Type} (earlier : Field α) (broken : α → Prop) [DecidablePred broken] : Bool :=
  earlier.toOption.any fun seen => broken seen

/-- `close_after_open`. -/
def closeAfterOpened (openedAt : Field Timestamp) (value : Timestamp) : Field Timestamp :=
  if against openedAt fun opened => value ≤ opened then .error "closed_at must be after opened_at"
  else .ok value

/-- `high_is_high`. -/
def highNotBelowOpen (openPrice : Field PositiveDecimal) (value : PositiveDecimal) : Field PositiveDecimal :=
  if against openPrice fun opened => value < opened then .error "high must be at least open" else .ok value

/-- `low_is_low`. -/
def lowNotAboveHigh (high : Field PositiveDecimal) (value : PositiveDecimal) : Field PositiveDecimal :=
  if against high fun high => high < value then .error "low must not exceed high" else .ok value

/-- `close_is_within_bar`. -/
def closeWithinBar (high low : Field PositiveDecimal) (value : PositiveDecimal) : Field PositiveDecimal :=
  if against high fun high => high < value then .error "close must not exceed high"
  else if against low fun low => value < low then .error "close must not be below low"
  else .ok value

/-- The fields after their validators, in their order. -/
def validated (fields : Fields) : Fields :=
  let closedAt := fields.closedAt.bind (closeAfterOpened fields.openedAt)
  let high := fields.high.bind (highNotBelowOpen fields.openPrice)
  let low := fields.low.bind (lowNotAboveHigh high)
  let close := fields.close.bind (closeWithinBar high low)
  { fields with closedAt, high, low, close }

/-! ## Construction -/

def fieldError {α : Type} (name : String) : Field α → List (String × String)
  | .ok _ => []
  | .error message => [(name, message)]

/-- What `ValidationError` lists: the fields that were not accepted, in their order. -/
def errors (fields : Fields) : List (String × String) :=
  fieldError "symbol" fields.symbol ++ fieldError "interval" fields.interval ++
    fieldError "opened_at" fields.openedAt ++ fieldError "closed_at" fields.closedAt ++
    fieldError "open" fields.openPrice ++ fieldError "high" fields.high ++ fieldError "low" fields.low ++
    fieldError "close" fields.close ++ fieldError "volume" fields.volume ++
    fieldError "source" fields.source ++ fieldError "as_of" fields.asOf ++
    fieldError "ingested_at" fields.ingestedAt

section Validators

variable {openedAt : Field Timestamp} {openPrice high low : Field PositiveDecimal}

theorem closeAfterOpened_ok {opened value closedAt : Timestamp} (seen : openedAt = .ok opened)
    (accepted : closeAfterOpened openedAt value = .ok closedAt) : closedAt = value ∧ opened < closedAt := by
  subst seen
  unfold closeAfterOpened at accepted
  split at accepted
  · cases accepted
  · rename_i fine
    cases accepted
    exact ⟨rfl, by simpa [against, Except.toOption] using fine⟩

theorem highNotBelowOpen_ok {opened value accepted : PositiveDecimal} (seen : openPrice = .ok opened)
    (done : highNotBelowOpen openPrice value = .ok accepted) : accepted = value ∧ opened ≤ accepted := by
  subst seen
  unfold highNotBelowOpen at done
  split at done
  · cases done
  · rename_i fine
    cases done
    exact ⟨rfl, by simpa [against, Except.toOption] using fine⟩

theorem lowNotAboveHigh_ok {top value accepted : PositiveDecimal} (seen : high = .ok top)
    (done : lowNotAboveHigh high value = .ok accepted) : accepted = value ∧ accepted ≤ top := by
  subst seen
  unfold lowNotAboveHigh at done
  split at done
  · cases done
  · rename_i fine
    cases done
    exact ⟨rfl, by simpa [against, Except.toOption] using fine⟩

theorem closeWithinBar_ok {top bottom value accepted : PositiveDecimal} (seenHigh : high = .ok top)
    (seenLow : low = .ok bottom) (done : closeWithinBar high low value = .ok accepted) :
    accepted = value ∧ bottom ≤ accepted ∧ accepted ≤ top := by
  subst seenHigh seenLow
  unfold closeWithinBar at done
  split at done
  · cases done
  rename_i below
  split at done
  · cases done
  · rename_i above
    cases done
    exact ⟨rfl, by simpa [against, Except.toOption] using above,
      by simpa [against, Except.toOption] using below⟩

end Validators

/-- The model of fields that are all accepted. -/
def ofFields (read : Fields) : Option Candle := do
  let symbol ← read.symbol.toOption
  let interval ← read.interval.toOption
  let openedAt ← read.openedAt.toOption
  let closedAt ← read.closedAt.toOption
  let openPrice ← read.openPrice.toOption
  let high ← read.high.toOption
  let low ← read.low.toOption
  let close ← read.close.toOption
  let volume ← read.volume.toOption
  let source ← read.source.toOption
  let asOf ← read.asOf.toOption
  let ingestedAt ← read.ingestedAt.toOption
  -- The validators have seen to what the structure asks for (`refused_named`).
  if bar : openedAt < closedAt ∧ openPrice ≤ high ∧ low ≤ high ∧ low ≤ close ∧ close ≤ high then
    return {
      symbol, interval, openedAt, closedAt, openPrice, high, low, close, volume, source, asOf, ingestedAt
      closeAfterOpen := bar.1
      highIsHigh := bar.2.1
      lowIsLow := bar.2.2.1
      closeIsWithinBar := bar.2.2.2 }
  else none

/-- `Candle(...)`. -/
def new (fields : Fields) : Except (List (String × String)) Candle :=
  match ofFields (validated fields) with
  | some candle => .ok candle
  | none => .error (errors (validated fields))

section Construction

variable {fields : Fields} {candle : Candle}

theorem toOption_eq_some {α : Type} {field : Field α} {value : α} :
    field.toOption = some value ↔ field = .ok value := by
  cases field with
  | error message => exact iff_of_false (fun never => nomatch never) fun never => nomatch never
  | ok held => exact ⟨fun same => congrArg _ (Option.some.inj same), fun same => congrArg _ (Except.ok.inj same)⟩

theorem fieldError_eq_nil {α : Type} {name : String} {field : Field α} :
    fieldError name field = [] ↔ ∃ value, field = .ok value := by
  cases field with
  | error message => exact iff_of_false (List.cons_ne_nil _ _) fun ⟨_, never⟩ => nomatch never
  | ok value => exact iff_of_true rfl ⟨value, rfl⟩

theorem bind_field {α : Type} {field : Field α} {check : α → Field α} {value : α}
    (accepted : field.bind check = .ok value) : ∃ given, field = .ok given ∧ check given = .ok value := by
  cases field with
  | error message => cases accepted
  | ok given => exact ⟨given, rfl, accepted⟩

/-- Every refusal names a field. -/
theorem refused_named {refusals : List (String × String)} (refused : new fields = .error refusals) :
    refusals ≠ [] := by
  unfold new at refused
  split at refused
  · cases refused
  rename_i missing
  cases refused
  intro none
  simp only [errors, List.append_eq_nil_iff, fieldError_eq_nil] at none
  obtain ⟨⟨⟨⟨⟨⟨⟨⟨⟨⟨⟨⟨symbol, symbolRead⟩, interval, intervalRead⟩, openedAt, openedRead⟩, closedAt, closedRead⟩,
    openPrice, openRead⟩, high, highRead⟩, low, lowRead⟩, close, closeRead⟩, volume, volumeRead⟩,
    source, sourceRead⟩, asOf, asOfRead⟩, ingestedAt, ingestedRead⟩ := none
  obtain ⟨_, _, closed⟩ := bind_field closedRead
  obtain ⟨_, _, highest⟩ := bind_field highRead
  obtain ⟨_, _, lowest⟩ := bind_field lowRead
  obtain ⟨_, _, within⟩ := bind_field closeRead
  have bar : openedAt < closedAt ∧ openPrice ≤ high ∧ low ≤ high ∧ low ≤ close ∧ close ≤ high :=
    ⟨(closeAfterOpened_ok openedRead closed).2, (highNotBelowOpen_ok openRead highest).2,
      (lowNotAboveHigh_ok highRead lowest).2, (closeWithinBar_ok highRead lowRead within).2⟩
  simp [ofFields, symbolRead, intervalRead, openedRead, closedRead, openRead, highRead, lowRead, closeRead,
    volumeRead, sourceRead, asOfRead, ingestedRead, Except.toOption, bar] at missing

/-- An accepted candle keeps the prices it was given. -/
theorem new_ok (accepted : new fields = .ok candle) :
    fields.openedAt = .ok candle.openedAt ∧ fields.closedAt = .ok candle.closedAt ∧
      fields.openPrice = .ok candle.openPrice ∧ fields.high = .ok candle.high ∧
      fields.low = .ok candle.low ∧ fields.close = .ok candle.close := by
  unfold new at accepted
  split at accepted
  · rename_i made
    cases accepted
    obtain ⟨symbol, _, made⟩ := Option.bind_eq_some_iff.1 made
    obtain ⟨interval, _, made⟩ := Option.bind_eq_some_iff.1 made
    obtain ⟨openedAt, openedRead, made⟩ := Option.bind_eq_some_iff.1 made
    obtain ⟨closedAt, closedRead, made⟩ := Option.bind_eq_some_iff.1 made
    obtain ⟨openPrice, openRead, made⟩ := Option.bind_eq_some_iff.1 made
    obtain ⟨high, highRead, made⟩ := Option.bind_eq_some_iff.1 made
    obtain ⟨low, lowRead, made⟩ := Option.bind_eq_some_iff.1 made
    obtain ⟨close, closeRead, made⟩ := Option.bind_eq_some_iff.1 made
    obtain ⟨volume, _, made⟩ := Option.bind_eq_some_iff.1 made
    obtain ⟨source, _, made⟩ := Option.bind_eq_some_iff.1 made
    obtain ⟨asOf, _, made⟩ := Option.bind_eq_some_iff.1 made
    obtain ⟨ingestedAt, _, made⟩ := Option.bind_eq_some_iff.1 made
    rw [toOption_eq_some] at openedRead closedRead openRead highRead lowRead closeRead
    obtain ⟨_, closedGiven, closed⟩ := bind_field closedRead
    obtain ⟨_, highGiven, highest⟩ := bind_field highRead
    obtain ⟨_, lowGiven, lowest⟩ := bind_field lowRead
    obtain ⟨_, closeGiven, within⟩ := bind_field closeRead
    obtain ⟨rfl, _⟩ := closeAfterOpened_ok openedRead closed
    obtain ⟨rfl, _⟩ := highNotBelowOpen_ok openRead highest
    obtain ⟨rfl, _⟩ := lowNotAboveHigh_ok highRead lowest
    obtain ⟨rfl, _⟩ := closeWithinBar_ok highRead lowRead within
    split at made
    · cases made
      exact ⟨openedRead, closedGiven, openRead, highGiven, lowGiven, closeGiven⟩
    · cases made
  · cases accepted

/-- A bar as its readers take it to be. -/
def Real (candle : Candle) : Prop :=
  candle.openedAt < candle.closedAt ∧ candle.low ≤ min candle.openPrice candle.close ∧
    min candle.openPrice candle.close ≤ max candle.openPrice candle.close ∧
    max candle.openPrice candle.close ≤ candle.high

instance : DecidablePred Real := fun _ => inferInstanceAs (Decidable (_ ∧ _ ∧ _ ∧ _))

/-- The fields of a candle say all but one thing of a real bar. -/
theorem real_iff (candle : Candle) : candle.Real ↔ candle.low ≤ candle.openPrice := by
  constructor
  · exact fun real => real.2.1.trans (min_le_left _ _)
  · intro low
    obtain ⟨bottom, top⟩ := candle.closeIsWithinBar
    exact ⟨candle.closeAfterOpen, le_min low bottom, min_le_max, max_le candle.highIsHigh top⟩

/-- **Accepted candles.** One is a real bar exactly where the low it was given does not exceed
the open. -/
theorem accepted_real_iff (accepted : new fields = .ok candle) :
    candle.Real ↔ ∃ low openPrice, fields.low = .ok low ∧ fields.openPrice = .ok openPrice ∧ low ≤ openPrice := by
  obtain ⟨_, _, openGiven, _, lowGiven, _⟩ := new_ok accepted
  rw [real_iff]
  constructor
  · exact fun low => ⟨_, _, lowGiven, openGiven, low⟩
  · rintro ⟨low, openPrice, lowSame, openSame, below⟩
    cases lowGiven.symm.trans lowSame
    cases openGiven.symm.trans openSame
    exact below

end Construction

/-! ## A bar that opens below its low -/

/-- An hour of a market. -/
def hourFields (openPrice high low close : PositiveDecimal) : Fields where
  symbol := .ok "BTC-USD"
  interval := .ok "ONE_HOUR"
  openedAt := .ok 0
  closedAt := .ok 3600000000
  openPrice := .ok openPrice
  high := .ok high
  low := .ok low
  close := .ok close
  volume := .ok ⟨0, decimal_zero⟩
  source := .ok "coinbase-advanced-trade"
  asOf := .ok 3600000000
  ingestedAt := .ok 3600000000

theorem decimal_twoAndHalf : (0 : Decimal) < 5 / 2 := by decide +kernel

theorem decimal_high : (0 : Decimal) < 3 := by decide

theorem decimal_low : (0 : Decimal) < 2 := by decide

/-- It trades between two and three all hour. -/
def tradedHour : Fields :=
  hourFields ⟨2, decimal_low⟩ ⟨3, decimal_high⟩ ⟨2, decimal_low⟩ ⟨5 / 2, decimal_twoAndHalf⟩

/-- The same hour, said to open at one. -/
def gappedHour : Fields :=
  hourFields ⟨1, decimal_one⟩ ⟨3, decimal_high⟩ ⟨2, decimal_low⟩ ⟨5 / 2, decimal_twoAndHalf⟩

theorem isOk_made {fields : Fields} (ok : (new fields).isOk = true) : ∃ candle, new fields = .ok candle := by
  cases made : new fields with
  | error refusals =>
      rw [made] at ok
      cases ok
  | ok candle => exact ⟨candle, rfl⟩

theorem tradedHour_real : ∃ candle, new tradedHour = .ok candle ∧ candle.Real := by
  obtain ⟨candle, made⟩ := isOk_made (show (new tradedHour).isOk = true by decide +kernel)
  exact ⟨candle, made, (accepted_real_iff made).2 ⟨_, _, rfl, rfl, le_refl _⟩⟩

theorem gappedHour_accepted : ∃ candle, new gappedHour = .ok candle ∧ ¬candle.Real := by
  obtain ⟨candle, made⟩ := isOk_made (show (new gappedHour).isOk = true by decide +kernel)
  obtain ⟨_, _, openGiven, _, lowGiven, _⟩ := new_ok made
  refine ⟨candle, made, fun real => ?_⟩
  have low := (real_iff candle).1 real
  rw [← Except.ok.inj openGiven, ← Except.ok.inj lowGiven] at low
  exact absurd low (by decide)

end AlgoTrader.Core.Candle
