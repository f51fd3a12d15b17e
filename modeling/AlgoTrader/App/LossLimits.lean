/-
# App.LossLimits -- what the loss limits remember, and write down

The opening equity of the day and the largest equity are kept in memory, written to a file with
every sample, and read from it when `BrokerRiskInputs` is made anew.

* `load_saved` -- what is written is read back;
* `measured_nonneg` -- no account is worth less than nothing;
* `measure_mirrors` -- the measures are those of `lossMeasures`, in numbers;
* `after_keeps` -- what is remembered after a run, in terms of its samples;
* `losses_over_restarts` -- the measures of a run depend on its samples alone.
-/
import AlgoTrader.App.Equity
import AlgoTrader.Core.Calendar
import AlgoTrader.Core.RawDecimal

namespace AlgoTrader.App.LossLimits

open AlgoTrader.Core Brokers Portfolio Theory

set_option autoImplicit false

/-! ## The state and its file -/

/-- A finite `Decimal`. -/
structure Amount where
  negative : Bool
  coefficient : Nat
  exponent : Int
  bounded : Bounded coefficient exponent

namespace Amount

def raw (amount : Amount) : RawDecimal :=
  .finite amount.negative amount.coefficient amount.exponent amount.bounded

def value (amount : Amount) : Decimal :=
  RawDecimal.value amount.negative amount.coefficient amount.exponent

def ofRaw : RawDecimal → Option Amount
  | .finite negative coefficient exponent bounded => some ⟨negative, coefficient, exponent, bounded⟩
  | _ => none

/-- `max(a, b)`. -/
def larger (a b : Amount) : Amount := if a.value < b.value then b else a

theorem larger_value (a b : Amount) : (larger a b).value = max a.value b.value := by
  unfold larger
  split
  · rename_i less
    exact (max_eq_right less.le).symm
  · rename_i more
    exact (max_eq_left (not_lt.1 more)).symm

end Amount

/-- The value of an account; `measured_nonneg` says why it is not negative. -/
abbrev Equity := {amount : Amount // 0 ≤ amount.value}

/-- A member of the state file: the text `str` gives of it, and the number `Decimal` gives where it
does not raise.  A file with an infinity or a `NaN` is never written, and is left out. -/
structure Member where
  shown : List Char
  number : Option Amount

def Member.text (shown : List Char) : Member := ⟨shown, (RawDecimal.parse shown).bind Amount.ofRaw⟩

/-- A file that does not exist, one that cannot be read or holds no JSON object, or one with some
members. -/
inductive StateFile where
  | missing
  | broken
  | members (payload : Dict String Member)

/-- What a `BrokerRiskInputs` remembers. -/
structure LossMemory where
  peakEquity : Option Amount := none
  dayStart : Option (List Char × Amount) := none
  unreadable : Bool := false

/-- `_load_loss_state`: a member that is missing, or is no number, leaves the rest unread. -/
def load : StateFile → LossMemory
  | .missing => {}
  | .broken => { unreadable := true }
  | .members payload =>
      let dayStart := (payload.get? "day").bind fun day =>
        ((payload.get? "day_start_equity").bind Member.number).map fun opening => (day.shown, opening)
      let peak := dayStart.bind fun _ => (payload.get? "peak_equity").bind Member.number
      { peakEquity := peak, dayStart, unreadable := peak.isNone }

theorem members_nodup : ["day", "day_start_equity", "peak_equity"].Nodup := by decide

/-- What `_save_loss_state` writes. -/
def saved (day : List Char) (opening peak : Amount) : StateFile :=
  .members ⟨[("day", .text day), ("day_start_equity", .text opening.raw.str),
    ("peak_equity", .text peak.raw.str)], members_nodup⟩

/-- The number behind the text of an amount is that amount. -/
theorem text_number (amount : Amount) :
    (RawDecimal.parse amount.raw.str).bind Amount.ofRaw = some amount := by
  rw [(RawDecimal.parse_str (show amount.raw.isNan = false from rfl)).1]
  rfl

theorem load_saved (day : List Char) (opening peak : Amount) :
    load (saved day opening peak) =
      { peakEquity := some peak, dayStart := some (day, opening), unreadable := false } := by
  have opened : (Member.text opening.raw.str).number = some opening := text_number opening
  have peaked : (Member.text peak.raw.str).number = some peak := text_number peak
  have read : load (saved day opening peak) =
      let dayStart := (Member.text opening.raw.str).number.map fun opening => (day, opening)
      let peak := dayStart.bind fun _ => (Member.text peak.raw.str).number
      { peakEquity := peak, dayStart, unreadable := peak.isNone } := rfl
  rw [read, opened, peaked]
  rfl

/-- A `BrokerRiskInputs` and the file it keeps. -/
structure Limits where
  memory : LossMemory
  file : StateFile

/-- `BrokerRiskInputs(...)` over a file. -/
def start (file : StateFile) : Limits := ⟨load file, file⟩

namespace LossMemory

/-- The opening equity of a day: a new day opens with the sample. -/
def opening (memory : LossMemory) (day : List Char) (equity : Amount) : Amount :=
  match memory.dayStart with
  | some (started, opening) => if started = day then opening else equity
  | none => equity

/-- `max(self._peak_equity or equity, equity)`. -/
def peak (memory : LossMemory) (equity : Amount) : Amount :=
  Amount.larger
    (match memory.peakEquity with
    | some peak => if peak.value = 0 then equity else peak
    | none => equity) equity

end LossMemory

/-- The daily loss and the drawdown from an opening and a largest equity. -/
def lossesFrom (opening peak equity : Decimal) : Option Decimal × Option Decimal :=
  (some (max 0 (opening - equity)), if peak = 0 then none else some ((peak - equity) / peak))

/-- `_loss_measures`: the daily loss and the drawdown of a sample; `saves` says whether the state
can be written. -/
def measure (saves : Bool) (now : DateTime) (equity : Option Equity) (limits : Limits) :
    (Option Decimal × Option Decimal) × Limits :=
  match equity with
  | none => ((none, none), limits)
  | some equity =>
      if limits.memory.unreadable then ((none, none), limits)
      else
        let opening := limits.memory.opening now.isoDate equity
        let peak := limits.memory.peak equity
        let memory :=
          { limits.memory with dayStart := some (now.isoDate, opening), peakEquity := some peak }
        if saves then
          (lossesFrom opening.value peak.value equity.1.value,
            ⟨memory, saved now.isoDate opening peak⟩)
        else ((none, none), { limits with memory })

/-! ## The same limits, in numbers -/

theorem expose_nonneg {source : BrokerRiskInputs} {symbol : String} {reference : Option Decimal}
    {entries : List (String × Position)} {start exposure : Decimal} (nonneg : 0 ≤ start)
    (exposed : source.expose symbol reference entries start = some exposure) : 0 ≤ exposure := by
  induction entries generalizing start with
  | nil =>
      cases exposed
      exact nonneg
  | cons entry entries ih =>
      rw [BrokerRiskInputs.expose] at exposed
      split at exposed
      · cases exposed
      · split at exposed
        · cases exposed
        · rename_i priced
          refine ih (add_nonneg nonneg ?_) exposed
          exact mul_nonneg (abs_nonneg _) (not_le.1 priced).le

/-- An account is worth its dollars, which are not negative, and the market value of its positions. -/
theorem measured_nonneg {source : BrokerRiskInputs} {balances : List Balance}
    {positions : List Position} {symbol : String} {reference : Option Decimal} {equity : Decimal}
    (priced : source.measured balances positions symbol reference = some equity) : 0 ≤ equity := by
  obtain ⟨exposure, exposed, rfl⟩ := Option.map_eq_some_iff.1 priced
  have cash : 0 ≤ (quoteCash balances source.quoteAsset).2 := by
    unfold quoteCash
    split
    · exact le_refl _
    · rename_i balance _
      exact add_nonneg balance.available.2 balance.hold.2
  exact add_nonneg cash (expose_nonneg (le_refl _) exposed)

/-- A memory and a `LossState` that stand for one another; a date stands for its day. -/
structure Mirrors (memory : LossMemory) (losses : LossState) : Prop where
  peak : memory.peakEquity.map Amount.value = losses.peakEquity
  dayStart : memory.dayStart = none ∧ losses.dayStart = none ∨
    ∃ (then_ : DateTime) (opening : Amount), memory.dayStart = some (then_.isoDate, opening) ∧
      losses.dayStart = some (dayOf then_.timestamp, opening.value)
  unreadable : memory.unreadable = losses.unreadable

/-- The opening equity of a day, by the numbers. -/
def openingOf (losses : LossState) (day : Int) (equity : Decimal) : Decimal :=
  match losses.dayStart with
  | some (started, opening) => if started = day then opening else equity
  | none => equity

/-- The largest equity, by the numbers. -/
def peakOf (losses : LossState) (equity : Decimal) : Decimal :=
  max (match losses.peakEquity with
    | some peak => if peak = 0 then equity else peak
    | none => equity) equity

theorem lossMeasures_some (source : BrokerRiskInputs) (now : Timestamp) (equity : Decimal)
    (losses : LossState) :
    source.lossMeasures now (some equity) losses =
      if losses.unreadable then ((none, none), losses)
      else
        let opening := openingOf losses (dayOf now) equity
        let peak := peakOf losses equity
        let onward := { losses with dayStart := some (dayOf now, opening), peakEquity := some peak }
        if source.saves then (lossesFrom opening peak equity, onward) else ((none, none), onward) :=
  rfl

section

variable {memory : LossMemory} {losses : LossState}

theorem opening_mirrors (mirrors : Mirrors memory losses) (now : DateTime) (equity : Amount) :
    (memory.opening now.isoDate equity).value =
      openingOf losses (dayOf now.timestamp) equity.value := by
  unfold LossMemory.opening openingOf
  rcases mirrors.dayStart with ⟨none_, none'⟩ | ⟨then_, opening, started, started'⟩
  · rw [none_, none']
  · rw [started, started']
    have days : then_.isoDate = now.isoDate ↔ dayOf then_.timestamp = dayOf now.timestamp :=
      DateTime.isoDate_eq_iff
    by_cases same : then_.isoDate = now.isoDate
    · simp only [if_pos same, if_pos (days.1 same)]
    · simp only [if_neg same, if_neg fun day => same (days.2 day)]

theorem peak_mirrors (mirrors : Mirrors memory losses) (equity : Amount) :
    (memory.peak equity).value = peakOf losses equity.value := by
  rw [LossMemory.peak, Amount.larger_value, peakOf, ← mirrors.peak]
  cases memory.peakEquity with
  | none => rfl
  | some peak =>
      congr 1
      exact apply_ite Amount.value _ _ _

end

/-- What is measured, and what is remembered, is what `lossMeasures` makes of the numbers. -/
theorem measure_mirrors {source : BrokerRiskInputs} {limits : Limits} {losses : LossState}
    (mirrors : Mirrors limits.memory losses) (now : DateTime) (equity : Option Equity) :
    let here := measure source.saves now equity limits
    let there := source.lossMeasures now.timestamp (equity.map fun e => e.1.value) losses
    here.1 = there.1 ∧ Mirrors here.2.memory there.2 := by
  cases equity with
  | none => exact ⟨rfl, mirrors⟩
  | some equity =>
      have same := mirrors.unreadable
      simp only [measure, Option.map_some, lossMeasures_some, ← opening_mirrors mirrors,
        ← peak_mirrors mirrors, same]
      split
      · exact ⟨rfl, mirrors⟩
      · split
        · exact ⟨rfl, rfl, .inr ⟨now, _, rfl, rfl⟩, rfl⟩
        · exact ⟨rfl, rfl, .inr ⟨now, _, rfl, rfl⟩, rfl⟩

/-! ## Runs -/

/-- A sample, if the account could be priced, or a restart over the same file. -/
inductive Event where
  | sample (now : DateTime) (equity : Option Equity)
  | restart

def step (limits : Limits) : Event → Limits
  | .sample now equity => (measure true now equity limits).2
  | .restart => start limits.file

/-- The state after some events, all saves of which succeed. -/
def after (file : StateFile) (events : List Event) : Limits := events.foldl step (start file)

theorem after_snoc (file : StateFile) (events : List Event) (event : Event) :
    after file (events ++ [event]) = step (after file events) event := by
  rw [after, List.foldl_append]
  rfl

/-- The file holds what is remembered. -/
def Settled (limits : Limits) : Prop := load limits.file = limits.memory

theorem measure_settled {limits : Limits} (settled : Settled limits) (now : DateTime)
    (equity : Option Equity) : Settled (measure true now equity limits).2 := by
  cases equity with
  | none => exact settled
  | some equity =>
      cases unreadable : limits.memory.unreadable with
      | true =>
          simp only [measure, unreadable, if_true]
          exact settled
      | false =>
          simp only [measure, unreadable, Bool.false_eq_true, if_false, if_true]
          exact load_saved _ _ _

theorem after_settled (file : StateFile) (events : List Event) : Settled (after file events) := by
  induction events using List.reverseRecOn with
  | nil => rfl
  | append_singleton events event ih =>
      rw [after_snoc]
      cases event with
      | sample now equity => exact measure_settled ih now equity
      | restart => rfl

/-- A restart finds in the file what was remembered. -/
theorem restart_keeps {limits : Limits} (settled : Settled limits) :
    step limits .restart = limits := by
  show Limits.mk (load limits.file) limits.file = limits
  rw [settled]

def isSample : Event → Bool
  | .sample _ _ => true
  | .restart => false

/-- A run with restarts is the run without them. -/
theorem after_samples (file : StateFile) (events : List Event) :
    after file events = after file (events.filter isSample) := by
  induction events using List.reverseRecOn with
  | nil => rfl
  | append_singleton events event ih =>
      rw [after_snoc, List.filter_append]
      cases event with
      | sample now equity =>
          have kept : [Event.sample now equity].filter isSample = [.sample now equity] := rfl
          rw [kept, after_snoc, ih]
      | restart =>
          have dropped : [Event.restart].filter isSample = [] := rfl
          rw [dropped, List.append_nil, ← ih, restart_keeps (after_settled file events)]

theorem measure_unreadable {limits : Limits} (unreadable : limits.memory.unreadable = true)
    (saves : Bool) (now : DateTime) (equity : Option Equity) :
    measure saves now equity limits = ((none, none), limits) := by
  cases equity with
  | none => rfl
  | some equity => exact if_pos unreadable

/-- Nothing is measured over a file that cannot be read, and the file stays as it is. -/
theorem after_unreadable {file : StateFile} (unreadable : (load file).unreadable = true)
    (events : List Event) : after file events = start file := by
  induction events using List.reverseRecOn with
  | nil => rfl
  | append_singleton events event ih =>
      rw [after_snoc, ih]
      cases event with
      | sample now equity =>
          have held : (start file).memory.unreadable = true := unreadable
          exact congrArg Prod.snd (measure_unreadable held true now equity)
      | restart => rfl

/-! ## The history of a run -/

abbrev History := List (DateTime × Equity)

/-- The samples that could be priced. -/
def priced (events : List Event) : History :=
  events.filterMap fun event =>
    match event with
    | .sample now (some equity) => some (now, equity)
    | _ => none

/-- The times of the samples. -/
def times (events : List Event) : List Timestamp :=
  events.filterMap fun event =>
    match event with
    | .sample now _ => some now.timestamp
    | .restart => none

def onDay (now : DateTime) (past : DateTime × Equity) : Bool :=
  dayOf past.1.timestamp = dayOf now.timestamp

/-- The first equity of a day. -/
def firstOfDay (history : History) (now : DateTime) : Option Decimal :=
  (history.find? (onDay now)).map fun past => past.2.1.value

/-- The largest equity, of which none is negative. -/
def largest (history : History) : Decimal :=
  (history.map fun past => past.2.1.value).foldl max 0

theorem largest_snoc (history : History) (now : DateTime) (equity : Equity) :
    largest (history ++ [(now, equity)]) = max (largest history) equity.1.value := by
  simp [largest]

theorem firstOfDay_snoc (history : History) (now : DateTime) (equity : Equity) :
    firstOfDay (history ++ [(now, equity)]) now =
      some ((firstOfDay history now).getD equity.1.value) := by
  have own : [(now, equity)].find? (onDay now) = some (now, equity) := by
    simp [onDay]
  unfold firstOfDay
  rw [List.find?_append, own]
  cases history.find? (onDay now) with
  | none => rfl
  | some past => rfl

/-- What is remembered of a history: the last day's first equity, and the largest. -/
structure Keeps (history : History) (memory : LossMemory) : Prop where
  readable : memory.unreadable = false
  peak : memory.peakEquity.map Amount.value =
    history.getLast?.map fun _ => largest history
  dayStart : memory.dayStart.map (fun started => (started.1, started.2.value)) =
    history.getLast?.bind fun last =>
      (firstOfDay history last.1).map fun opening => (last.1.isoDate, opening)

theorem Keeps.peak_value {history : History} {memory : LossMemory} (keeps : Keeps history memory)
    (now : DateTime) (equity : Equity) :
    (memory.peak equity.1).value = largest (history ++ [(now, equity)]) := by
  rw [LossMemory.peak, Amount.larger_value, largest_snoc]
  have known := keeps.peak
  cases held : memory.peakEquity with
  | none =>
      rw [held] at known
      have none_ : history = [] := by simpa using known.symm
      rw [none_]
      exact (max_self _).trans (max_eq_right equity.2).symm
  | some peak =>
      rw [held] at known
      obtain ⟨last, _, value⟩ := Option.map_eq_some_iff.1 known.symm
      have same : peak.value = largest history := value.symm
      by_cases zero : peak.value = 0
      · simp only [if_pos zero]
        rw [← same, zero, max_self, max_eq_right equity.2]
      · simp only [if_neg zero]
        rw [same]

/-- A clock that does not go back. -/
def Onward (history : History) : Prop :=
  history.Pairwise fun past later => past.1.timestamp ≤ later.1.timestamp

theorem dayOf_mono {earlier later : DateTime} (before : earlier.timestamp ≤ later.timestamp) :
    dayOf earlier.timestamp ≤ dayOf later.timestamp :=
  Int.ediv_le_ediv (by decide) before

theorem Onward.days {earlier : History} {last : DateTime × Equity} (onward : Onward (earlier ++ [last])) :
    ∀ past ∈ earlier ++ [last], dayOf past.1.timestamp ≤ dayOf last.1.timestamp := by
  intro past inside
  rcases List.mem_append.1 inside with older | newest
  · exact dayOf_mono ((List.pairwise_append.1 onward).2.2 past older _ List.mem_cons_self)
  · rw [List.mem_singleton.1 newest]

/-- Two moments of one day have the same first sample. -/
theorem firstOfDay_same (history : History) {now later : DateTime}
    (day : dayOf now.timestamp = dayOf later.timestamp) :
    firstOfDay history now = firstOfDay history later := by
  have days : onDay now = onDay later := by
    funext past
    simp only [onDay, day]
  rw [firstOfDay, firstOfDay, days]

/-- A day after all samples has none yet. -/
theorem firstOfDay_none {history : History} {now : DateTime}
    (earlier : ∀ past ∈ history, dayOf past.1.timestamp ≠ dayOf now.timestamp) :
    firstOfDay history now = none := by
  rw [firstOfDay, List.find?_eq_none.2, Option.map_none]
  intro past inside
  simp only [onDay, decide_eq_true_eq]
  exact earlier past inside

/-- The opening equity of a day is the first one of the day. -/
theorem Keeps.opening_value {history : History} {memory : LossMemory} (keeps : Keeps history memory)
    {now : DateTime} {equity : Equity} (onward : Onward (history ++ [(now, equity)])) :
    firstOfDay (history ++ [(now, equity)]) now =
      some (memory.opening now.isoDate equity.1).value := by
  rw [firstOfDay_snoc]
  congr 1
  have known := keeps.dayStart
  unfold LossMemory.opening
  rcases List.eq_nil_or_concat history with rfl | ⟨earlier, last, whole⟩
  · have none_ : memory.dayStart = none := by simpa using known
    rw [none_]
    rfl
  · rw [List.concat_eq_append] at whole
    subst whole
    rw [List.getLast?_concat, Option.bind_some, firstOfDay_snoc, Option.map_some] at known
    obtain ⟨⟨date, amount⟩, held, values⟩ := Option.map_eq_some_iff.1 known
    obtain ⟨rfl, value⟩ := Prod.mk.inj values
    rw [held]
    by_cases same : last.1.isoDate = now.isoDate
    · have here := firstOfDay_same (earlier ++ [last]) (DateTime.isoDate_eq_iff.1 same).symm
      rw [firstOfDay_snoc, ← value] at here
      simp only [here, Option.getD_some, if_pos same]
    · -- Every sample is of the last day or before it, and the day of this one is later.
      have day : dayOf last.1.timestamp ≠ dayOf now.timestamp :=
        fun equal => same (DateTime.isoDate_eq_iff.2 equal)
      obtain ⟨ordered, _, after_⟩ := List.pairwise_append.1 onward
      have clock : last.1.timestamp ≤ now.timestamp :=
        after_ last (List.mem_append_right earlier List.mem_cons_self) (now, equity) (by simp)
      have later := dayOf_mono clock
      have none_ : firstOfDay (earlier ++ [last]) now = none := by
        refine firstOfDay_none fun past inside => ?_
        have before := Onward.days ordered past inside
        omega
      simp only [none_, Option.getD_none, if_neg same]

theorem priced_times (events : List Event) :
    ((priced events).map fun past => past.1.timestamp).Sublist (times events) := by
  induction events with
  | nil => exact .slnil
  | cons event events ih =>
      cases event with
      | restart => exact ih
      | sample now equity =>
          cases equity with
          | none => exact ih.cons _
          | some equity => exact ih.cons_cons _

theorem priced_onward {events : List Event} (clock : (times events).Pairwise (· ≤ ·)) :
    Onward (priced events) :=
  List.pairwise_map.1 (clock.sublist (priced_times events))

theorem priced_snoc (events : List Event) (event : Event) :
    priced (events ++ [event]) = priced events ++ priced [event] := List.filterMap_append

theorem times_snoc (events : List Event) (event : Event) :
    times (events ++ [event]) = times events ++ times [event] := List.filterMap_append

/-- One sample more. -/
theorem Keeps.sample {history : History} {limits : Limits} (keeps : Keeps history limits.memory)
    {now : DateTime} {equity : Equity} (onward : Onward (history ++ [(now, equity)])) :
    Keeps (history ++ [(now, equity)]) (measure true now (some equity) limits).2.memory := by
  have first := keeps.opening_value onward
  have most := keeps.peak_value now equity
  simp only [measure, keeps.readable, Bool.false_eq_true, if_false, if_true]
  refine ⟨rfl, ?_, ?_⟩
  · rw [List.getLast?_concat]
    exact congrArg some most
  · rw [List.getLast?_concat, Option.bind_some, first]
    rfl

/-- What a run from no file remembers. -/
theorem after_keeps {events : List Event} (clock : (times events).Pairwise (· ≤ ·)) :
    Keeps (priced events) (after .missing events).memory := by
  induction events using List.reverseRecOn with
  | nil => exact ⟨rfl, rfl, rfl⟩
  | append_singleton events event ih =>
      have onward := priced_onward clock
      rw [times_snoc] at clock
      have before := ih (List.pairwise_append.1 clock).1
      rw [after_snoc]
      rw [priced_snoc] at onward ⊢
      cases event with
      | restart =>
          rw [restart_keeps (after_settled .missing events)]
          exact (List.append_nil (priced events)).symm ▸ before
      | sample now equity =>
          cases equity with
          | none => exact (List.append_nil (priced events)).symm ▸ before
          | some equity => exact before.sample onward

/-- What a sample should measure: the loss since the first equity of its day, and the drawdown from
the largest equity so far. -/
def expected (history : History) (now : DateTime) (equity : Equity) : Option Decimal × Option Decimal :=
  lossesFrom ((firstOfDay history now).getD 0) (largest history) equity.1.value

/-- Over any run from no file, with restarts anywhere, each sample is measured by the samples before
it alone; one that cannot be priced measures nothing and changes nothing, and over a file that
cannot be read nothing is ever measured. -/
theorem losses_over_restarts :
    (∀ (events : List Event) (now : DateTime) (equity : Equity),
      (times (events ++ [.sample now (some equity)])).Pairwise (· ≤ ·) →
      (measure true now (some equity) (after .missing events)).1 =
          expected (priced events ++ [(now, equity)]) now equity ∧
        after .missing events = after .missing (events.filter isSample)) ∧
    (∀ (file : StateFile) (events : List Event) (now : DateTime),
      measure true now none (after file events) = ((none, none), after file events)) ∧
    ∀ (file : StateFile), (load file).unreadable = true →
      ∀ (events : List Event) (now : DateTime) (equity : Option Equity),
        measure true now equity (after file events) = ((none, none), after file events) := by
  refine ⟨fun events now equity clock => ⟨?_, after_samples .missing events⟩, fun _ _ _ => rfl, ?_⟩
  · have onward := priced_onward clock
    rw [priced_snoc] at onward
    rw [times_snoc] at clock
    have keeps := after_keeps (List.pairwise_append.1 clock).1
    have first := keeps.opening_value onward
    have most := keeps.peak_value now equity
    simp only [measure, keeps.readable, Bool.false_eq_true, if_false, if_true]
    rw [expected, first, most]
    rfl
  · intro file unreadable events now equity
    rw [after_unreadable unreadable]
    exact measure_unreadable unreadable true now equity

/-! ## A day with a restart -/

theorem day_inYears : 1 ≤ 2026 ∧ 2026 ≤ 9999 := by decide

theorem day_inYear : 1 ≤ 9 ∧ 9 ≤ 12 := by decide

theorem day_inMonth : 1 ≤ 27 ∧ 27 ≤ Calendar.daysInMonth 2026 9 := by decide

theorem morning_inDay : 8 < 24 ∧ 0 < 60 ∧ 0 < 60 ∧ 0 < 1000000 := by decide

theorem evening_inDay : 20 < 24 ∧ 0 < 60 ∧ 0 < 60 ∧ 0 < 1000000 := by decide

def morning : DateTime := ⟨2026, 9, 27, 8, 0, 0, 0, day_inYears, day_inYear, day_inMonth, morning_inDay⟩

def evening : DateTime := ⟨2026, 9, 27, 20, 0, 0, 0, day_inYears, day_inYear, day_inMonth, evening_inDay⟩

theorem hundred_bounded : Bounded 1000 (-1) := by decide

theorem ninety_bounded : Bounded 90 0 := by decide

def hundredAmount : Amount := ⟨false, 1000, -1, hundred_bounded⟩

def ninetyAmount : Amount := ⟨false, 90, 0, ninety_bounded⟩

theorem hundred_nonneg : 0 ≤ hundredAmount.value := by decide +kernel

theorem ninety_nonneg : 0 ≤ ninetyAmount.value := by decide +kernel

def hundred : Equity := ⟨hundredAmount, hundred_nonneg⟩

def ninety : Equity := ⟨ninetyAmount, ninety_nonneg⟩

def restarted : List Event := [.sample morning (some hundred), .restart]

/-- From 100.0 to 90 over a restart. -/
theorem losses_over_restarts_day :
    (measure true evening (some ninety) (after .missing restarted)).1 = (some 10, some (1 / 10)) := by
  have clock : (times (restarted ++ [.sample evening (some ninety)])).Pairwise (· ≤ ·) := by
    decide
  have read : expected (priced restarted ++ [(evening, ninety)]) evening ninety =
      (some 10, some (1 / 10)) := by
    decide +kernel
  exact (losses_over_restarts.1 restarted evening ninety clock).1.trans read

end AlgoTrader.App.LossLimits
