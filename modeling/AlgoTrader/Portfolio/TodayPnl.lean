/-
# Portfolio.TodayPnl -- today's change in equity

The reader takes the first and the latest row of the equity curve in the UTC day and shows their difference.
It makes three queries, and the sampler may have saved more rows between them.

* `formatAmount_denotes` -- the text of an amount says the amount, to its last place;
* `read_amount` -- a figure is shown just when there are two whole rows and the later one is not stale;
* `day_pnl_traced` -- a figure is the difference of two valuations of the account, at bids the venue made, and
  names every holding one of them valued at an old price.
-/
import Mathlib.Data.List.Sort
import Mathlib.Data.Nat.Prime.Basic
import AlgoTrader.Core.Numerals
import AlgoTrader.Portfolio.EquityHistory

namespace AlgoTrader.Portfolio.TodayPnl

open AlgoTrader.Core AlgoTrader.Brokers AlgoTrader.App AlgoTrader.Theory
open AlgoTrader.Portfolio.EquityHistory

set_option autoImplicit false

/-! ## Amounts -/

/-- The places behind the point once the zeros at the end are dropped. -/
def places (value : Decimal) : Nat :=
  ((List.range (value.den.log2 + 1)).find? fun k => value.den ∣ 10 ^ k).getD 0

/-- The digits of the number as a whole number. -/
def coefficient (value : Decimal) : Nat := value.num.natAbs * (10 ^ places value / value.den)

/-- `format(value.normalize(), "f").partition(".")`, without the sign. -/
def fixedPoint (value : Decimal) : List Char × List Char :=
  let digits := Nat.toDigits 10 (coefficient value)
  RawDecimal.pointed digits (digits.length - places value)

/-- `format_amount`. -/
def formatAmount (value : Decimal) : List Char :=
  let (whole, fraction) := fixedPoint value
  let text := RawDecimal.sign (value < 0) ++ whole ++ '.' :: (fraction ++ List.replicate (2 - fraction.length) '0')
  if 0 < value then '+' :: text else text

example : formatAmount 12.5 = "+12.50".toList ∧ formatAmount (-0.0625) = "-0.0625".toList ∧
    formatAmount 0 = "0.00".toList ∧ formatAmount 1200 = "+1200.00".toList := by decide +kernel

/-- A decimal of finitely many places. -/
def Terminating (value : Decimal) : Prop := ∃ k, value.den ∣ 10 ^ k

/-! ## The reader -/

inductive Status where
  | current
  | unavailable
  deriving DecidableEq

structure DayPnl where
  status : Status
  detail : String
  amount : Option Decimal
  asOf : Option Timestamp

def DayPnl.unavailable (reason : String) : DayPnl := ⟨.unavailable, reason, none, none⟩

/-- What a query raises. -/
inductive ReadFailure where
  | sqlAlchemy
  | other (exc : Exc)

/-- What the three queries of a read were answered. -/
structure Answers where
  first : Except ReadFailure (Option Snapshot)
  latest : Except ReadFailure (Option Snapshot)
  lastKnown : List Nat → Except ReadFailure (List String)

/-- The equity of a row that is neither partial nor without one. -/
def whole? (row : Snapshot) : Option Decimal := if row.isPartial then none else row.equity

def minutesOf (duration : Duration) : Int := duration / 60000000

/-- `_duration`. -/
def duration (value : Duration) : String :=
  let minutes := minutesOf value
  if minutes % 60 = 0 ∧ 60 ≤ minutes then
    let hours := minutes / 60
    s!"{hours} hour" ++ if hours = 1 then "" else "s"
  else s!"{minutes} minute" ++ if minutes = 1 then "" else "s"

/-- `", ".join(names)`. -/
def joined (names : List String) : String :=
  String.ofList (List.intercalate ", ".toList (names.map String.toList))

/-- `sorted(set(names))`. -/
def sortedSet (names : List String) : List String := names.dedup.insertionSort (· ≤ ·)

structure DayPnlReader where
  staleAfter : Duration
  quoteAsset : String
  /-- `strftime(STAMP)`. -/
  stamp : Timestamp → String
  positive : 0 < staleAfter

namespace DayPnlReader

variable (reader : DayPnlReader)

/-- What a change is shown as. -/
def shown (opening closing : Snapshot) (amount : Decimal) (heldAtLastPrice : List String) : DayPnl where
  status := .current
  detail := String.ofList (formatAmount amount) ++
    s!" {reader.quoteAsset} since the first equity snapshot today ({reader.stamp opening.asOf}), " ++
    s!"as of {reader.stamp closing.asOf}" ++
    (if heldAtLastPrice = [] then "" else s!"; includes last-known prices for {joined heldAtLastPrice}") ++
    "; a change in account equity, so a deposit or withdrawal would move it"
  amount := some amount
  asOf := some closing.asOf

/-- The reading of two rows, inside the `try`. -/
def compared (now : Timestamp) (lastKnown : List Nat → Except ReadFailure (List String)) (opening closing : Snapshot) :
    Except ReadFailure DayPnl :=
  if opening.snapshotId = closing.snapshotId then
    .ok (.unavailable "only one equity snapshot has been recorded today (UTC); a change needs two")
  else if reader.staleAfter < now - closing.asOf then
    .ok (.unavailable (s!"the latest equity snapshot ({reader.stamp closing.asOf}) is older than " ++
      s!"{duration reader.staleAfter}, so it is not shown as current"))
  else
    match whole? opening, whole? closing with
    | none, _ =>
        .ok (.unavailable (s!"the first equity snapshot today ({reader.stamp opening.asOf}) " ++
          "is partial: a holding had no price, and it is not counted as zero"))
    | some _, none =>
        .ok (.unavailable (s!"the latest equity snapshot ({reader.stamp closing.asOf}) is partial: " ++
          "a holding had no price, and it is not counted as zero"))
    | some before, some after_ => do
        let names ← lastKnown [opening.snapshotId, closing.snapshotId]
        return reader.shown opening closing (after_ - before) (sortedSet names)

/-- `read`. -/
def read (now : Timestamp) (answers : Answers) : Except Exc DayPnl :=
  let tried : Except ReadFailure DayPnl := do
    let first ← answers.first
    let latest ← answers.latest
    match first, latest with
    | some opening, some closing => reader.compared now answers.lastKnown opening closing
    | _, _ => return .unavailable "no equity snapshot has been recorded yet today (UTC)"
  match tried with
  | .ok pnl => .ok pnl
  | .error .sqlAlchemy => .ok (.unavailable "the saved equity history could not be read")
  | .error (.other exc) => .error exc

end DayPnlReader

/-! ## What an amount says -/

/-- Digits with the point so many places before their end. -/
theorem pointed_places {digits : List Char} (some : digits ≠ []) (all : ∀ c ∈ digits, c.isDigit = true) (k : Nat) :
    let parts := RawDecimal.pointed digits (digits.length - k)
    parts.1 ≠ [] ∧ (∀ c ∈ parts.1, c.isDigit = true) ∧ (∀ c ∈ parts.2, c.isDigit = true) ∧
      Nat.ofDigitChars 10 (parts.1 ++ parts.2) 0 = Nat.ofDigitChars 10 digits 0 ∧ parts.2.length = k ∧
      (0 < k → parts.2.getLast? = digits.getLast?) := by
  intro parts
  have long : 0 < digits.length := List.length_pos_iff.2 some
  by_cases leading : digits.length ≤ k
  · -- A zero, the point, and zeros before the digits.
    have here : parts = (['0'], List.replicate (k - digits.length) '0' ++ digits) := by
      show RawDecimal.pointed digits _ = _
      rw [RawDecimal.pointed, if_pos (by omega)]
      congr
      omega
    rw [here]
    refine ⟨by simp, fun c member => ?_, fun c member => ?_, ?_, ?_, fun _ => ?_⟩
    · rw [List.mem_singleton.1 member]
      decide
    · rcases List.mem_append.1 member with zero | digit
      · exact RawDecimal.zeros_digit _ c zero
      · exact all c digit
    · rw [Nat.ofDigitChars_append, Nat.ofDigitChars_append, Nat.ofDigitChars_replicate_zero]
      rfl
    · rw [List.length_append, List.length_replicate]
      omega
    · exact List.getLast?_append_of_ne_nil _ some
  · by_cases none : k = 0
    · subst none
      have here : parts = (digits, []) := by
        show RawDecimal.pointed digits _ = _
        rw [RawDecimal.pointed, if_neg (by omega), if_pos (by omega)]
        simp
      rw [here]
      exact ⟨some, all, by simp, by rw [List.append_nil], rfl, fun never => absurd never (lt_irrefl 0)⟩
    · have here : parts = (digits.take (digits.length - k), digits.drop (digits.length - k)) := by
        show RawDecimal.pointed digits _ = _
        rw [RawDecimal.pointed, if_neg (by omega), if_neg (by omega)]
        congr <;> omega
      rw [here]
      refine ⟨?_, fun c member => all c (List.mem_of_mem_take member),
        fun c member => all c (List.mem_of_mem_drop member), by rw [List.take_append_drop], ?_, fun _ => ?_⟩
      · rw [← List.length_pos_iff, List.length_take]
        omega
      · rw [List.length_drop]
        omega
      · rw [List.getLast?_drop, if_neg (by omega)]

/-- As many places as the denominator has binary digits are enough. -/
theorem exists_places {value : Decimal} (finite : Terminating value) :
    ∃ k ≤ value.den.log2, value.den ∣ 10 ^ k := by
  obtain ⟨most, divides⟩ := finite
  have factors : value.den ∣ 2 ^ most * 5 ^ most := by rwa [← Nat.mul_pow]
  obtain ⟨twos, fives, two, five, is⟩ := Nat.dvd_mul.1 factors
  obtain ⟨a, _, rfl⟩ := (Nat.dvd_prime_pow Nat.prime_two).1 two
  obtain ⟨b, _, rfl⟩ := (Nat.dvd_prime_pow Nat.prime_five).1 five
  refine ⟨max a b, (Nat.le_log2 value.den_nz).2 ?_, ?_⟩
  · rw [← is]
    rcases le_total a b with le | le
    · rw [max_eq_right le]
      calc 2 ^ b ≤ 5 ^ b := Nat.pow_le_pow_left (by decide) b
        _ ≤ 2 ^ a * 5 ^ b := Nat.le_mul_of_pos_left _ (Nat.pow_pos (by decide))
    · rw [max_eq_left le]
      exact Nat.le_mul_of_pos_right _ (Nat.pow_pos (by decide))
  · rw [← is, show (10 : Nat) = 2 * 5 from rfl, Nat.mul_pow]
    exact Nat.mul_dvd_mul (Nat.pow_dvd_pow 2 (le_max_left a b)) (Nat.pow_dvd_pow 5 (le_max_right a b))

/-- The places are enough, and fewer are not. -/
theorem places_spec {value : Decimal} (finite : Terminating value) :
    value.den ∣ 10 ^ places value ∧ ∀ k < places value, ¬ value.den ∣ 10 ^ k := by
  obtain ⟨k, small, divides⟩ := exists_places finite
  unfold places
  cases found : (List.range (value.den.log2 + 1)).find? fun k => value.den ∣ 10 ^ k with
  | none =>
    have never := List.find?_eq_none.1 found k (List.mem_range.2 (Nat.lt_succ_of_le small))
    exact absurd (decide_eq_true divides) never
  | some first =>
    obtain ⟨enough, i, inside, is, before⟩ := List.find?_eq_some_iff_getElem.1 found
    rw [List.getElem_range] at is
    subst is
    refine ⟨of_decide_eq_true enough, fun k fewer => ?_⟩
    have not := before k fewer
    rw [List.getElem_range] at not
    simpa using not

theorem coefficient_spec {value : Decimal} (finite : Terminating value) :
    (coefficient value : Decimal) = |value| * 10 ^ places value := by
  obtain ⟨times, is⟩ := (places_spec finite).1
  have positive : (value.den : Decimal) ≠ 0 := Nat.cast_ne_zero.2 value.den_nz
  have scaled : (10 : Decimal) ^ places value = value.den * times := by exact_mod_cast is
  have magnitude : |value| * value.den = value.num.natAbs := by
    rw [Rat.abs_def, Rat.divInt_eq_div, Int.cast_natCast, Int.cast_natCast, div_mul_cancel₀ _ positive]
  rw [coefficient, is, Nat.mul_div_cancel_left _ value.den_pos, scaled, ← mul_assoc, magnitude, Nat.cast_mul]

theorem getLast?_toDigits (n : Nat) : (Nat.toDigits 10 n).getLast? = some (Nat.digitChar (n % 10)) := by
  by_cases small : n < 10
  · rw [Nat.toDigits_of_lt_base small, Nat.mod_eq_of_lt small]
    rfl
  · rw [Nat.toDigits_of_base_le (by decide) (by omega)]
    simp

theorem digitChar_zero : ∀ {digit : Nat}, digit < 10 → Nat.digitChar digit = '0' → digit = 0 := by decide

/-- No zero is left at the end. -/
theorem coefficient_last {value : Decimal} (finite : Terminating value) (some : 0 < places value) :
    ¬ 10 ∣ coefficient value := by
  intro ⟨tenth, is⟩
  refine (places_spec finite).2 (places value - 1) (by omega) ?_
  have whole := coefficient_spec finite
  have fewer : |value| = tenth / 10 ^ (places value - 1) := by
    rw [eq_div_iff (by positivity)]
    have ten : (10 : Decimal) ≠ 0 := by norm_num
    apply mul_left_cancel₀ ten
    calc 10 * (|value| * 10 ^ (places value - 1))
        = |value| * 10 ^ (places value - 1 + 1) := by ring
      _ = |value| * 10 ^ places value := by rw [Nat.sub_add_cancel some]
      _ = 10 * tenth := by rw [← whole, is, Nat.cast_mul, Nat.cast_ofNat]
  have divides := Rat.den_dvd tenth (10 ^ (places value - 1) : Int)
  rw [Rat.divInt_eq_div, Int.cast_natCast, Int.cast_pow, Int.cast_ofNat, ← fewer, Rat.den_abs_eq_den] at divides
  exact_mod_cast divides

theorem fixedPoint_spec (value : Decimal) :
    (fixedPoint value).1 ≠ [] ∧ (∀ c ∈ (fixedPoint value).1, c.isDigit = true) ∧
      (∀ c ∈ (fixedPoint value).2, c.isDigit = true) ∧
      Nat.ofDigitChars 10 ((fixedPoint value).1 ++ (fixedPoint value).2) 0 = coefficient value ∧
      (fixedPoint value).2.length = places value ∧
      (0 < places value → (fixedPoint value).2.getLast? = some (Nat.digitChar (coefficient value % 10))) := by
  obtain ⟨whole, wholeDigits, partDigits, digits, length, last⟩ :=
    pointed_places (RawDecimal.digits_ne_nil (coefficient value)) (RawDecimal.toDigits_digit _) (places value)
  exact ⟨whole, wholeDigits, partDigits, digits.trans (RawDecimal.ofDigits_toDigits _), length,
    fun some => (last some).trans (getLast?_toDigits _)⟩

/-- The digits around the point, with any zeros at their end, say the magnitude. -/
theorem fixedPoint_denotes {value : Decimal} (finite : Terminating value) {zeros : Nat}
    (some : 0 < places value + zeros) :
    denotedUnsigned ((fixedPoint value).1 ++ '.' :: ((fixedPoint value).2 ++ List.replicate zeros '0')) =
      .some |value| := by
  obtain ⟨whole, wholeDigits, partDigits, digits, length, _⟩ := fixedPoint_spec value
  have long : ((fixedPoint value).2 ++ List.replicate zeros '0').length = places value + zeros := by
    rw [List.length_append, List.length_replicate, length]
  have digitsBehind : ∀ c ∈ (fixedPoint value).2 ++ List.replicate zeros '0', c.isDigit = true := fun c member =>
    (List.mem_append.1 member).elim (partDigits c) (RawDecimal.zeros_digit _ c)
  have pointed := denotedUnsigned_pointed whole wholeDigits digitsBehind
  rw [if_neg (List.length_pos_iff.1 (long ▸ some))] at pointed
  refine pointed.trans (congrArg _ ?_)
  rw [long, ← List.append_assoc, Nat.ofDigitChars_append, Nat.ofDigitChars_replicate_zero, digits,
    div_eq_iff (by positivity), Nat.cast_mul, coefficient_spec finite]
  push_cast
  ring

/-- The row is of the UTC day of now. -/
def Today (now : Timestamp) (row : Snapshot) : Prop :=
  now - now % 86400000000 ≤ row.asOf ∧ row.asOf < now - now % 86400000000 + 86400000000

/-- A row of today that no other comes before, in one order of the times or the other. -/
def Outermost (before : Timestamp → Timestamp → Prop) (now : Timestamp) (rows : List Snapshot) : Option Snapshot → Prop
  | none => ∀ row ∈ rows, ¬ Today now row
  | some row => row ∈ rows ∧ Today now row ∧ ∀ other ∈ rows, Today now other → before row.asOf other.asOf

/-- The queries as a database answers them: the first from the rows there are then, the others from those there are
later. -/
structure Answered (now : Timestamp) (rows later : List Snapshot) (answers : Answers) : Prop where
  grown : rows <+: later
  first : ∀ row, answers.first = .ok row → Outermost (· ≤ ·) now rows row
  latest : ∀ row, answers.latest = .ok row → Outermost (· ≥ ·) now later row
  lastKnown : ∀ ids names, answers.lastKnown ids = .ok names → ∀ name, name ∈ names ↔
    ∃ row ∈ later, row.snapshotId ∈ ids ∧ ∃ holding ∈ row.holdings, holding.symbol = name ∧ holding.basis = .lastKnown

/-- Two whole rows, the later one not stale. -/
def Comparable (reader : DayPnlReader) (now : Timestamp) (opening closing : Snapshot) (amount : Decimal) : Prop :=
  opening.snapshotId ≠ closing.snapshotId ∧ now - closing.asOf ≤ reader.staleAfter ∧
    ∃ before after_, whole? opening = some before ∧ whole? closing = some after_ ∧ amount = after_ - before

namespace DayPnlReader

variable {reader : DayPnlReader} {now : Timestamp} {answers : Answers}

theorem compared_amount {lastKnown : List Nat → Except ReadFailure (List String)} {opening closing : Snapshot}
    {pnl : DayPnl} (is : reader.compared now lastKnown opening closing = .ok pnl) {amount : Decimal}
    (shows : pnl.amount = some amount) : Comparable reader now opening closing amount ∧
      ∃ names, lastKnown [opening.snapshotId, closing.snapshotId] = .ok names ∧
        pnl = reader.shown opening closing amount (sortedSet names) := by
  unfold compared at is
  split at is
  · cases is
    cases shows
  split at is
  · cases is
    cases shows
  rename_i apart fresh
  split at is
  · cases is
    cases shows
  · cases is
    cases shows
  · rename_i before after_ first latest
    cases asked : lastKnown [opening.snapshotId, closing.snapshotId] with
    | error failure =>
      rw [asked] at is
      cases is
    | ok names =>
      rw [asked] at is
      cases is
      cases shows
      exact ⟨⟨apart, not_lt.1 fresh, before, after_, first, latest, rfl⟩, names, rfl, rfl⟩

theorem compared_shown {lastKnown : List Nat → Except ReadFailure (List String)} {opening closing : Snapshot}
    {amount : Decimal} (comparable : Comparable reader now opening closing amount) {names : List String}
    (asked : lastKnown [opening.snapshotId, closing.snapshotId] = .ok names) :
    reader.compared now lastKnown opening closing = .ok (reader.shown opening closing amount (sortedSet names)) := by
  obtain ⟨apart, fresh, before, after_, first, latest, rfl⟩ := comparable
  rw [compared, if_neg apart, if_neg (not_lt.2 fresh), first, latest]
  dsimp only
  rw [asked]
  rfl

/-- What a read does where nothing is raised inside the `try`. -/
theorem read_eq (now : Timestamp) (answers : Answers) : reader.read now answers =
    match answers.first, answers.latest with
    | .ok (some opening), .ok (some closing) =>
        match reader.compared now answers.lastKnown opening closing with
        | .ok pnl => .ok pnl
        | .error .sqlAlchemy => .ok (.unavailable "the saved equity history could not be read")
        | .error (.other exc) => .error exc
    | .error .sqlAlchemy, _ | .ok _, .error .sqlAlchemy =>
        .ok (.unavailable "the saved equity history could not be read")
    | .error (.other exc), _ | .ok _, .error (.other exc) => .error exc
    | .ok _, .ok _ => .ok (.unavailable "no equity snapshot has been recorded yet today (UTC)") := by
  unfold read
  rcases answers.first with (_ | _) | (_ | _) <;> rcases answers.latest with (_ | _) | (_ | _) <;> rfl

theorem read_shown {opening closing : Snapshot} {names : List String} {amount : Decimal}
    (first : answers.first = .ok (some opening)) (latest : answers.latest = .ok (some closing))
    (asked : answers.lastKnown [opening.snapshotId, closing.snapshotId] = .ok names)
    (comparable : Comparable reader now opening closing amount) :
    reader.read now answers = .ok (reader.shown opening closing amount (sortedSet names)) := by
  rw [read_eq, first, latest]
  dsimp only
  rw [compared_shown comparable asked]

/-- A figure is shown just where the queries were answered and the two rows can be compared. -/
theorem read_amount {pnl : DayPnl} (is : reader.read now answers = .ok pnl) (amount : Decimal) :
    pnl.amount = some amount ↔ ∃ opening closing names, answers.first = .ok (some opening) ∧
      answers.latest = .ok (some closing) ∧ answers.lastKnown [opening.snapshotId, closing.snapshotId] = .ok names ∧
      Comparable reader now opening closing amount := by
  constructor
  · intro shows
    rw [read_eq] at is
    split at is
    · rename_i opening closing first latest
      split at is
      · rename_i compared
        cases is
        obtain ⟨comparable, names, asked, _⟩ := compared_amount compared shows
        exact ⟨opening, closing, names, first, latest, asked, comparable⟩
      · cases is
        cases shows
      · cases is
    all_goals
      cases is
      try cases shows
  · rintro ⟨opening, closing, names, first, latest, asked, comparable⟩
    rw [read_shown first latest asked comparable] at is
    cases is
    rfl

end DayPnlReader

/-! ## Where a figure comes from -/

theorem mem_sortedSet {names : List String} {name : String} : name ∈ sortedSet names ↔ name ∈ names := by
  rw [sortedSet, List.mem_insertionSort, List.mem_dedup]

/-- Every name is in the text they are joined to. -/
theorem infix_joined {names : List String} {name : String} (member : name ∈ names) :
    name.toList <:+: (joined names).toList := by
  rw [joined, String.toList_ofList]
  induction names with
  | nil => cases member
  | cons first rest ih =>
    cases rest with
    | nil =>
      obtain rfl := List.mem_singleton.1 member
      simp
    | cons second rest =>
      rw [List.map_cons, List.map_cons, List.intercalate_cons_cons]
      rcases List.mem_cons.1 member with rfl | later
      · exact ⟨[], _, by rw [List.nil_append, List.append_assoc]⟩
      · exact (ih later).trans (List.suffix_append _ _).isInfix

/-- A figure names the holdings it was told of. -/
theorem infix_shown {reader : DayPnlReader} {opening closing : Snapshot} {amount : Decimal} {names : List String}
    {name : String} (member : name ∈ names) :
    name.toList <:+: (reader.shown opening closing amount names).detail.toList := by
  refine (infix_joined member).trans ?_
  rw [DayPnlReader.shown]
  dsimp only
  rw [if_neg (List.ne_nil_of_mem member)]
  simp only [String.toList_append, toString]
  exact (List.infix_append_right.trans List.infix_append_right).trans List.infix_append_left

section Traced

variable {column : Column} {quoteAsset : String} {given : List (List Balance × List Position)} {m : SampleMoment}
  {reader : DayPnlReader} {now : Timestamp} {answers : Answers} {rows : List Snapshot}

/-- A whole row is worth what the account was. -/
theorem worth_of_whole (sampled : Sampled column quoteAsset given m) {row : Snapshot} (member : row ∈ m.world.curve)
    {equity : Decimal} (whole : whole? row = some equity) :
    ∃ exact, Worth column quoteAsset given m.events row.holdings exact ∧ equity = column exact := by
  unfold whole? at whole
  split at whole
  · cases whole
  · exact ((sampled_traced sampled).curve row member).worth equity whole

/-- **A figure is the difference of two valuations.** -/
theorem day_pnl_traced (sampled : Sampled column quoteAsset given m)
    (answered : Answered now rows m.world.curve answers) {pnl : DayPnl} (is : reader.read now answers = .ok pnl)
    {amount : Decimal} (shows : pnl.amount = some amount) :
    pnl.status = .current ∧ ∃ opening closing before after_,
      Outermost (· ≤ ·) now rows (some opening) ∧ Outermost (· ≥ ·) now m.world.curve (some closing) ∧
      opening ≠ closing ∧ now - closing.asOf ≤ reader.staleAfter ∧
      Worth column quoteAsset given m.events opening.holdings before ∧
      Worth column quoteAsset given m.events closing.holdings after_ ∧ amount = column after_ - column before ∧
      ∀ holding ∈ opening.holdings ++ closing.holdings, holding.basis = .lastKnown →
        holding.symbol.toList <:+: pnl.detail.toList := by
  obtain ⟨opening, closing, names, first, latest, asked, comparable⟩ := (DayPnlReader.read_amount is amount).1 shows
  have text := (DayPnlReader.read_shown first latest asked comparable).symm.trans is
  cases text
  obtain ⟨apart, fresh, _, _, wholeFirst, wholeLatest, rfl⟩ := comparable
  have opens := answered.first _ first
  have closes := answered.latest _ latest
  have inCurve : opening ∈ m.world.curve := answered.grown.subset opens.1
  obtain ⟨before, worthBefore, rfl⟩ := worth_of_whole sampled inCurve wholeFirst
  obtain ⟨after_, worthAfter, rfl⟩ := worth_of_whole sampled closes.1 wholeLatest
  refine ⟨rfl, opening, closing, before, after_, opens, closes, fun same => apart (same ▸ rfl), fresh, worthBefore,
    worthAfter, rfl, fun holding member old => ?_⟩
  have named : holding.symbol ∈ names := by
    refine (answered.lastKnown _ _ asked _).2 ?_
    rcases List.mem_append.1 member with inFirst | inLatest
    · exact ⟨opening, inCurve, List.mem_cons_self .., holding, inFirst, rfl, old⟩
    · exact ⟨closing, closes.1, List.mem_cons_of_mem _ (List.mem_singleton_self _), holding, inLatest, rfl, old⟩
  exact infix_shown (mem_sortedSet.2 named)

end Traced

/-! ## A day with two samples -/

def coinReader : DayPnlReader where
  staleAfter := 3600000000
  quoteAsset := "USD"
  stamp _ := "now"
  positive := by decide

/-- The rows of the day, the later one at the old price of the coin. -/
def coinOpening : Snapshot := ⟨0, some 300, 0, false, []⟩

def coinClosing : Snapshot := ⟨1, some 350, 60000000, false, [⟨"BTC-USD", 2, .lastKnown, some 100, some 0, some 60⟩]⟩

def coinDay : Answers where
  first := .ok coinOpening
  latest := .ok coinClosing
  lastKnown ids := .ok (if 1 ∈ ids then ["BTC-USD"] else [])

theorem twoSamples_curve : twoSamples.world.curve = [coinOpening, coinClosing] := by decide +kernel

theorem coinDay_answered : Answered 120000000 twoSamples.world.curve twoSamples.world.curve coinDay := by
  rw [twoSamples_curve]
  refine ⟨List.prefix_refl _, fun row is => ?_, fun row is => ?_, fun ids names is name => ?_⟩
  · cases is
    simp [Outermost, Today, coinOpening, coinClosing]
  · cases is
    simp [Outermost, Today, coinOpening, coinClosing]
  · cases is
    by_cases asked : 1 ∈ ids <;> simp [asked, coinOpening, coinClosing, eq_comm]

theorem day_pnl_traced_two : Status.current = .current ∧ ∃ opening closing before after_,
    Outermost (· ≤ ·) 120000000 twoSamples.world.curve (some opening) ∧
    Outermost (· ≥ ·) 120000000 twoSamples.world.curve (some closing) ∧
    opening ≠ closing ∧ 120000000 - closing.asOf ≤ coinReader.staleAfter ∧
    Worth id "USD" [] twoSamples.events opening.holdings before ∧
    Worth id "USD" [] twoSamples.events closing.holdings after_ ∧ 50 = id after_ - id before ∧
    ∀ holding ∈ opening.holdings ++ closing.holdings, holding.basis = .lastKnown → holding.symbol.toList <:+:
      (coinReader.shown coinOpening coinClosing (350 - 300) (sortedSet ["BTC-USD"])).detail.toList := by
  have read : coinReader.read 120000000 coinDay =
      .ok (coinReader.shown coinOpening coinClosing (350 - 300) (sortedSet ["BTC-USD"])) := rfl
  exact day_pnl_traced twoSamples_sampled coinDay_answered read (by decide +kernel)

end AlgoTrader.Portfolio.TodayPnl
