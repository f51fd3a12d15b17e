/-
# Core.Calendar -- UTC datetimes and their digits

A `datetime` in UTC by its fields, as `strftime` writes it and `strptime` reads it,
and the instant it names.  The calendar goes from year 1 to year 9999; what lies
outside is no `datetime`.
-/
import Mathlib.Data.List.Basic
import AlgoTrader.Core.Models
import AlgoTrader.Core.Text

namespace AlgoTrader.Core

set_option autoImplicit false

namespace Calendar

def isLeap (year : Nat) : Bool := year % 4 = 0 && (year % 100 ≠ 0 || year % 400 = 0)

def daysInMonth (year month : Nat) : Nat :=
  if month = 2 then if isLeap year then 29 else 28
  else if month ∈ [4, 6, 9, 11] then 30 else 31

def daysBeforeMonth (year month : Nat) : Nat :=
  ((List.range' 1 (month - 1)).map (daysInMonth year)).sum

/-- `date.toordinal()`: January 1 of year 1 is day 1. -/
def ordinal (year month day : Nat) : Nat :=
  365 * (year - 1) + (year - 1) / 4 - (year - 1) / 100 + (year - 1) / 400 +
    daysBeforeMonth year month + day

example : ordinal 1970 1 1 = 719163 ∧ ordinal 9999 12 31 = 3652059 := by decide

/-- `datetime.min` in UTC. -/
def minInstant : Timestamp := (1 - 719163) * 86400000000

/-- `datetime.max` in UTC. -/
def maxInstant : Timestamp := (3652059 - 719163 + 1) * 86400000000 - 1

def InCalendar (t : Timestamp) : Prop := minInstant ≤ t ∧ t ≤ maxInstant

instance (t : Timestamp) : Decidable (InCalendar t) := inferInstanceAs (Decidable (_ ∧ _))

end Calendar

open Calendar

/-- An instant inside the calendar. -/
abbrev UtcInstant := {t : Timestamp // minInstant ≤ t ∧ t ≤ maxInstant}

/-- `t - d`, or nothing where it raises `OverflowError`. -/
def UtcInstant.sub (t : UtcInstant) (d : Duration) : Option UtcInstant :=
  if inside : minInstant ≤ t.1 - d ∧ t.1 - d ≤ maxInstant then some ⟨t.1 - d, inside⟩ else none

/-- A datetime in UTC. -/
structure DateTime where
  year : Nat
  month : Nat
  day : Nat
  hour : Nat
  minute : Nat
  second : Nat
  microsecond : Nat
  inYears : 1 ≤ year ∧ year ≤ 9999
  inYear : 1 ≤ month ∧ month ≤ 12
  inMonth : 1 ≤ day ∧ day ≤ daysInMonth year month
  inDay : hour < 24 ∧ minute < 60 ∧ second < 60 ∧ microsecond < 1000000
  deriving DecidableEq

namespace DateTime

/-- `datetime(year, ..., tzinfo=UTC)`, where it raises no `ValueError`. -/
def of? (year month day hour minute second microsecond : Nat) : Option DateTime :=
  if h : (1 ≤ year ∧ year ≤ 9999) ∧ (1 ≤ month ∧ month ≤ 12) ∧
      (1 ≤ day ∧ day ≤ daysInMonth year month) ∧
      (hour < 24 ∧ minute < 60 ∧ second < 60 ∧ microsecond < 1000000) then
    some ⟨year, month, day, hour, minute, second, microsecond, h.1, h.2.1, h.2.2.1, h.2.2.2⟩
  else none

theorem of?_self (t : DateTime) :
    of? t.year t.month t.day t.hour t.minute t.second t.microsecond = some t :=
  dif_pos ⟨t.inYears, t.inYear, t.inMonth, t.inDay⟩

/-- The instant, in microseconds since the epoch. -/
def timestamp (t : DateTime) : Timestamp :=
  (((((ordinal t.year t.month t.day : Int) - 719163) * 24 + t.hour) * 60 + t.minute) * 60 +
    t.second) * 1000000 + t.microsecond

example : (of? 1 1 1 0 0 0 0).map timestamp = some minInstant ∧
    (of? 9999 12 31 23 59 59 999999).map timestamp = some maxInstant := by decide

example : (of? 2026 9 27 12 0 0 5).map timestamp = some 1790510400000005 := by decide

/-! ## Writing -/

def digitChar (n : Nat) : Char := Char.ofNat (48 + n)

/-- The low `k` decimal digits of `n`, most significant first. -/
def decimals : Nat → Nat → List Char
  | 0, _ => []
  | k + 1, n => decimals k (n / 10) ++ [digitChar (n % 10)]

/-- `strftime("%Y%m%dT%H%M%S%fZ")`.  The year is written without leading zeros. -/
def compact (t : DateTime) : List Char :=
  (decimals 4 t.year).dropWhile (· = '0') ++ decimals 2 t.month ++ decimals 2 t.day ++
    'T' :: (decimals 2 t.hour ++ decimals 2 t.minute ++ decimals 2 t.second ++
      decimals 6 t.microsecond ++ ['Z'])

/-! ## Reading

`strptime` compiles its format to a regular expression.  In a text of 8 digits, `T`, 12
digits and `Z` every field has its full width, and most of them take only some digits,
some of them only ASCII ones. -/

def isDecimal (c : Char) : Bool := (Text.decimal? c).isSome

def between (low high c : Char) : Bool := low ≤ c && c ≤ high

/-- The number the decimal digits spell. -/
def number (text : List Char) : Nat :=
  text.foldl (fun value c => 10 * value + (Text.decimal? c).getD 0) 0

/-- `1[0-2]|0[1-9]`. -/
def isMonth (a b : Char) : Bool := (a = '1' && between '0' '2' b) || (a = '0' && between '1' '9' b)

/-- `3[0-1]|[1-2]\d|0[1-9]`. -/
def isDay (a b : Char) : Bool :=
  (a = '3' && between '0' '1' b) || (between '1' '2' a && isDecimal b) ||
    (a = '0' && between '1' '9' b)

/-- `2[0-3]|[0-1]\d`. -/
def isHour (a b : Char) : Bool :=
  (a = '2' && between '0' '3' b) || (between '0' '1' a && isDecimal b)

/-- `[0-5]\d`. -/
def isMinute (a b : Char) : Bool := between '0' '5' a && isDecimal b

/-- `6[0-1]|[0-5]\d`. -/
def isSecond (a b : Char) : Bool := (a = '6' && between '0' '1' b) || isMinute a b

/-- `strptime(text, "%Y%m%dT%H%M%S%fZ")` of a text of that shape. -/
def parseCompact (text : List Char) : Option DateTime :=
  match text with
  | [y₁, y₂, y₃, y₄, m₁, m₂, d₁, d₂, 'T', h₁, h₂, n₁, n₂, s₁, s₂, f₁, f₂, f₃, f₄, f₅, f₆, 'Z'] =>
      if [y₁, y₂, y₃, y₄].all isDecimal && isMonth m₁ m₂ && isDay d₁ d₂ && isHour h₁ h₂ &&
          isMinute n₁ n₂ && isSecond s₁ s₂ && [f₁, f₂, f₃, f₄, f₅, f₆].all (between '0' '9') then
        of? (number [y₁, y₂, y₃, y₄]) (number [m₁, m₂]) (number [d₁, d₂]) (number [h₁, h₂])
          (number [n₁, n₂]) (number [s₁, s₂]) (number [f₁, f₂, f₃, f₄, f₅, f₆])
      else none
  | _ => none

/-! ## What is written reads back -/

theorem digitChar_facts : ∀ d < 10, Text.decimal? (digitChar d) = some d ∧
    between '0' '9' (digitChar d) = true ∧ (digitChar d = '0' → d = 0) := by
  decide

@[simp] theorem decimal?_digitChar (n : Nat) :
    Text.decimal? (digitChar (n % 10)) = some (n % 10) :=
  (digitChar_facts _ (Nat.mod_lt _ (by decide))).1

@[simp] theorem isDecimal_digitChar (n : Nat) : isDecimal (digitChar (n % 10)) = true := by
  simp [isDecimal]

@[simp] theorem between_digitChar (n : Nat) : between '0' '9' (digitChar (n % 10)) = true :=
  (digitChar_facts _ (Nat.mod_lt _ (by decide))).2.1

theorem number_two (n : Nat) (small : n < 100) :
    number [digitChar (n / 10 % 10), digitChar (n % 10)] = n := by
  simp [number]
  omega

theorem number_four (n : Nat) (small : n < 10000) :
    number [digitChar (n / 10 / 10 / 10 % 10), digitChar (n / 10 / 10 % 10),
      digitChar (n / 10 % 10), digitChar (n % 10)] = n := by
  simp [number]
  omega

theorem number_six (n : Nat) (small : n < 1000000) :
    number [digitChar (n / 10 / 10 / 10 / 10 / 10 % 10), digitChar (n / 10 / 10 / 10 / 10 % 10),
      digitChar (n / 10 / 10 / 10 % 10), digitChar (n / 10 / 10 % 10), digitChar (n / 10 % 10),
      digitChar (n % 10)] = n := by
  simp [number]
  omega

theorem isMonth_digits : ∀ n < 13, 1 ≤ n →
    isMonth (digitChar (n / 10 % 10)) (digitChar (n % 10)) = true := by decide

theorem isDay_digits : ∀ n < 32, 1 ≤ n →
    isDay (digitChar (n / 10 % 10)) (digitChar (n % 10)) = true := by decide

theorem isHour_digits : ∀ n < 24,
    isHour (digitChar (n / 10 % 10)) (digitChar (n % 10)) = true := by decide

theorem isMinute_digits : ∀ n < 60,
    isMinute (digitChar (n / 10 % 10)) (digitChar (n % 10)) = true := by decide

theorem daysInMonth_le (year month : Nat) : daysInMonth year month ≤ 31 := by
  unfold daysInMonth
  split
  · split <;> decide
  · split <;> decide

/-- A year of four digits is written with its four digits. -/
theorem year_digits {year : Nat} (four : 1000 ≤ year) (small : year ≤ 9999) :
    (decimals 4 year).dropWhile (· = '0') = [digitChar (year / 10 / 10 / 10 % 10),
      digitChar (year / 10 / 10 % 10), digitChar (year / 10 % 10), digitChar (year % 10)] := by
  have first : digitChar (year / 10 / 10 / 10 % 10) ≠ '0' := by
    intro zero
    have := (digitChar_facts _ (Nat.mod_lt (year / 10 / 10 / 10) (by decide))).2.2 zero
    omega
  simp [decimals, first]

theorem compact_fields (t : DateTime) (four : 1000 ≤ t.year) : t.compact =
    [digitChar (t.year / 10 / 10 / 10 % 10), digitChar (t.year / 10 / 10 % 10),
      digitChar (t.year / 10 % 10), digitChar (t.year % 10),
      digitChar (t.month / 10 % 10), digitChar (t.month % 10),
      digitChar (t.day / 10 % 10), digitChar (t.day % 10), 'T',
      digitChar (t.hour / 10 % 10), digitChar (t.hour % 10),
      digitChar (t.minute / 10 % 10), digitChar (t.minute % 10),
      digitChar (t.second / 10 % 10), digitChar (t.second % 10),
      digitChar (t.microsecond / 10 / 10 / 10 / 10 / 10 % 10),
      digitChar (t.microsecond / 10 / 10 / 10 / 10 % 10),
      digitChar (t.microsecond / 10 / 10 / 10 % 10), digitChar (t.microsecond / 10 / 10 % 10),
      digitChar (t.microsecond / 10 % 10), digitChar (t.microsecond % 10), 'Z'] := by
  rw [compact, year_digits four t.inYears.2]
  simp [decimals]

theorem length_compact (t : DateTime) (four : 1000 ≤ t.year) : t.compact.length = 22 := by
  rw [compact_fields t four]
  rfl

theorem parseCompact_compact (t : DateTime) (four : 1000 ≤ t.year) :
    parseCompact t.compact = some t := by
  obtain ⟨hour, minute, second, microsecond⟩ := t.inDay
  have month : t.month < 13 := by have := t.inYear; omega
  have day : t.day < 32 := by
    have := t.inMonth
    have := daysInMonth_le t.year t.month
    omega
  have shaped := isMonth_digits t.month month t.inYear.1
  have shapedDay := isDay_digits t.day day t.inMonth.1
  have shapedHour := isHour_digits t.hour hour
  have shapedMinute := isMinute_digits t.minute minute
  have shapedSecond : isSecond (digitChar (t.second / 10 % 10)) (digitChar (t.second % 10)) = true :=
    by simp [isSecond, isMinute_digits t.second second]
  rw [compact_fields t four, parseCompact, number_four t.year (by have := t.inYears; omega),
    number_two t.month (by omega), number_two t.day (by omega), number_two t.hour (by omega),
    number_two t.minute (by omega), number_two t.second (by omega),
    number_six t.microsecond microsecond]
  simp only [List.all_cons, List.all_nil, isDecimal_digitChar, between_digitChar, shaped, shapedDay,
    shapedHour, shapedMinute, shapedSecond, Bool.and_self, if_true]
  exact of?_self t

/-! ## Days -/

/-- `t.date().isoformat()`. -/
def isoDate (t : DateTime) : List Char :=
  decimals 4 t.year ++ '-' :: (decimals 2 t.month ++ '-' :: decimals 2 t.day)

def daysBeforeYear (year : Nat) : Nat :=
  365 * (year - 1) + (year - 1) / 4 - (year - 1) / 100 + (year - 1) / 400

theorem ordinal_eq (year month day : Nat) :
    ordinal year month day = daysBeforeYear year + daysBeforeMonth year month + day := rfl

def daysInYear (year : Nat) : Nat := if isLeap year then 366 else 365

theorem succ_div_eq (n k : Nat) : (n + 1) / k = n / k + if (n + 1) % k = 0 then 1 else 0 := by
  rw [Nat.succ_div]
  simp only [Nat.dvd_iff_mod_eq_zero]

theorem daysBeforeYear_succ {year : Nat} (positive : 1 ≤ year) :
    daysBeforeYear (year + 1) = daysBeforeYear year + daysInYear year := by
  obtain ⟨n, rfl⟩ := Nat.exists_eq_add_of_le' positive
  have century : (n + 1) % 100 = 0 → (n + 1) % 4 = 0 := by omega
  have fourth : (n + 1) % 400 = 0 → (n + 1) % 100 = 0 := by omega
  have fewer : n / 100 ≤ n / 4 := by omega
  unfold daysBeforeYear daysInYear isLeap
  simp only [Nat.add_sub_cancel, Bool.and_eq_true, Bool.or_eq_true, decide_eq_true_eq, succ_div_eq n]
  by_cases one : (n + 1) % 4 = 0
  · by_cases two : (n + 1) % 100 = 0
    · by_cases three : (n + 1) % 400 = 0
      · rw [if_pos one, if_pos two, if_pos three, if_pos ⟨one, .inr three⟩]
        omega
      · rw [if_pos one, if_pos two, if_neg three, if_neg (by simp [two, three])]
        omega
    · have three : ¬ (n + 1) % 400 = 0 := fun leap => two (fourth leap)
      rw [if_pos one, if_neg two, if_neg three, if_pos ⟨one, .inl two⟩]
      omega
  · have two : ¬ (n + 1) % 100 = 0 := fun leap => one (century leap)
    have three : ¬ (n + 1) % 400 = 0 := fun leap => two (fourth leap)
    rw [if_neg one, if_neg two, if_neg three, if_neg fun leap => one leap.1]
    omega

theorem daysBeforeYear_add {year later : Nat} (positive : 1 ≤ year) (before : year < later) :
    daysBeforeYear year + daysInYear year ≤ daysBeforeYear later := by
  induction later, before using Nat.le_induction with
  | base => exact (daysBeforeYear_succ positive).ge
  | succ later onward ih =>
      have next := daysBeforeYear_succ (show 1 ≤ later by omega)
      omega

theorem daysBeforeMonth_succ (year : Nat) {month : Nat} (positive : 1 ≤ month) :
    daysBeforeMonth year (month + 1) = daysBeforeMonth year month + daysInMonth year month := by
  obtain ⟨n, rfl⟩ := Nat.exists_eq_add_of_le' positive
  unfold daysBeforeMonth
  rw [Nat.add_sub_cancel, Nat.add_sub_cancel, List.range'_1_concat, List.map_append, List.sum_append]
  simp [Nat.add_comm]

theorem daysBeforeMonth_add (year : Nat) {month later : Nat} (positive : 1 ≤ month)
    (before : month < later) :
    daysBeforeMonth year month + daysInMonth year month ≤ daysBeforeMonth year later := by
  induction later, before using Nat.le_induction with
  | base => exact (daysBeforeMonth_succ year positive).ge
  | succ later onward ih =>
      have next := daysBeforeMonth_succ year (show 1 ≤ later by omega)
      omega

/-- No month ends after its year does. -/
theorem month_within (year : Nat) {month : Nat} (positive : 1 ≤ month) (last : month ≤ 12) :
    daysBeforeMonth year month + daysInMonth year month ≤ daysInYear year := by
  have whole : daysBeforeMonth year 12 + daysInMonth year 12 = daysInYear year := by
    unfold daysInYear
    cases leap : isLeap year with
    | true => simp [daysBeforeMonth, daysInMonth, leap, List.range']
    | false => simp [daysBeforeMonth, daysInMonth, leap, List.range']
  by_cases december : month = 12
  · rw [december, whole]
  · have earlier := daysBeforeMonth_add year positive (show month < 12 by omega)
    omega

theorem ordinal_lt_of_year {t t' : DateTime} (before : t.year < t'.year) :
    ordinal t.year t.month t.day < ordinal t'.year t'.month t'.day := by
  have inside := month_within t.year t.inYear.1 t.inYear.2
  have onward := daysBeforeYear_add t.inYears.1 before
  have day := t.inMonth
  have day' := t'.inMonth
  rw [ordinal_eq, ordinal_eq]
  omega

theorem ordinal_lt_of_month {t t' : DateTime} (year : t.year = t'.year) (before : t.month < t'.month) :
    ordinal t.year t.month t.day < ordinal t'.year t'.month t'.day := by
  have onward := daysBeforeMonth_add t.year t.inYear.1 before
  have day := t.inMonth
  have day' := t'.inMonth
  rw [ordinal_eq, ordinal_eq, ← year]
  omega

/-- A day has one ordinal. -/
theorem ordinal_inj {t t' : DateTime} :
    ordinal t.year t.month t.day = ordinal t'.year t'.month t'.day ↔
      t.year = t'.year ∧ t.month = t'.month ∧ t.day = t'.day := by
  constructor
  · intro same
    have year : t.year = t'.year := by
      rcases Nat.lt_trichotomy t.year t'.year with before | equal | after
      · exact absurd same (ordinal_lt_of_year before).ne
      · exact equal
      · exact absurd same (ordinal_lt_of_year after).ne'
    have month : t.month = t'.month := by
      rcases Nat.lt_trichotomy t.month t'.month with before | equal | after
      · exact absurd same (ordinal_lt_of_month year before).ne
      · exact equal
      · exact absurd same (ordinal_lt_of_month year.symm after).ne'
    refine ⟨year, month, ?_⟩
    rw [ordinal_eq, ordinal_eq, year, month] at same
    omega
  · rintro ⟨year, month, day⟩
    rw [year, month, day]

theorem isoDate_inj {t t' : DateTime} :
    t.isoDate = t'.isoDate ↔ t.year = t'.year ∧ t.month = t'.month ∧ t.day = t'.day := by
  have four (n : Nat) (small : n < 10000) : number (decimals 4 n) = n := number_four n small
  have two (n : Nat) (small : n < 100) : number (decimals 2 n) = n := number_two n small
  have short (t : DateTime) : t.year < 10000 ∧ t.month < 100 ∧ t.day < 100 := by
    have years := t.inYears
    have months := t.inYear
    have days := t.inMonth
    have most := daysInMonth_le t.year t.month
    omega
  constructor
  · intro same
    obtain ⟨years, rest⟩ := List.append_inj same rfl
    obtain ⟨months, rest⟩ := List.append_inj (List.cons.inj rest).2 rfl
    have days := (List.cons.inj rest).2
    have year := congrArg number years
    have month := congrArg number months
    have day := congrArg number days
    rw [four _ (short t).1, four _ (short t').1] at year
    rw [two _ (short t).2.1, two _ (short t').2.1] at month
    rw [two _ (short t).2.2, two _ (short t').2.2] at day
    exact ⟨year, month, day⟩
  · rintro ⟨year, month, day⟩
    rw [isoDate, isoDate, year, month, day]

theorem day_of_fields {d hour minute second microsecond : Int} (hours : 0 ≤ hour ∧ hour < 24)
    (minutes : 0 ≤ minute ∧ minute < 60) (seconds : 0 ≤ second ∧ second < 60)
    (micros : 0 ≤ microsecond ∧ microsecond < 1000000) :
    ((((d * 24 + hour) * 60 + minute) * 60 + second) * 1000000 + microsecond) / 86400000000 = d := by
  omega

/-- Two datetimes are written with one date exactly when they are on one day. -/
theorem isoDate_eq_iff {t t' : DateTime} :
    t.isoDate = t'.isoDate ↔ t.timestamp / 86400000000 = t'.timestamp / 86400000000 := by
  have day (t : DateTime) :
      t.timestamp / 86400000000 = (ordinal t.year t.month t.day : Int) - 719163 := by
    have clock := t.inDay
    exact day_of_fields (by omega) (by omega) (by omega) (by omega)
  rw [isoDate_inj, ← ordinal_inj, day, day, sub_left_inj, Nat.cast_inj]

end DateTime

end AlgoTrader.Core
