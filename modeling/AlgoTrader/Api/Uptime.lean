/-
# Api.Uptime -- the samples of the heartbeat and the hours of a day

The scheduler waits an interval, saves a sample, and waits again: it counts from the start of
the process, and every late wake-up moves all later samples.  The digest wants a sample in
every hour of the clock.  As the samples drift through the hour, one of them at last steps over
a whole hour of the clock, and that day reads as incomplete although the process never stopped.

* `uptimeDay_iff` -- what makes a day complete;
* `hourOf_next` -- from one sample to the next an hour passes, or two where the delay carries
  over the end of an hour;
* `uptime_iff` -- when a day on which the process ran is complete, and that a day with a gap of
  more than two intervals never is.
-/
import Mathlib.Order.Monotone.Basic
import Mathlib.Tactic.Linarith
import Mathlib.Tactic.Push
import Mathlib.Tactic.Ring
import AlgoTrader.Api.ReconnectStorms

namespace AlgoTrader.App

open AlgoTrader.Core

set_option autoImplicit false

/-! ## The scheduler -/

/-- `HEARTBEAT_INTERVAL_SECONDS`. -/
def heartbeatInterval : Duration := 3600 * 1000000

/-- How a wait of the loop ends: the process stops, or the interval passes, the wake-up comes
somewhat late, and the sample is saved or is not. -/
inductive Wake where
  | stop
  | timeout (late : Duration) (saved : Bool)

structure HeartbeatScheduler where
  clock : Timestamp
  stopped : Bool
  samples : List Timestamp

namespace HeartbeatScheduler

/-- One turn of the loop of `run`. -/
def turn (wake : Wake) (scheduler : HeartbeatScheduler) : HeartbeatScheduler :=
  if scheduler.stopped then scheduler
  else
    match wake with
    | .stop => { scheduler with stopped := true }
    | .timeout late saved =>
        let clock := scheduler.clock + heartbeatInterval + late
        { scheduler with
          clock
          samples := if saved then scheduler.samples ++ [clock] else scheduler.samples }

/-- The process after some turns, none of which stopped it and all of which were saved. -/
def running (started : Timestamp) (late : ℕ → Duration) : ℕ → HeartbeatScheduler
  | 0 => ⟨started, false, []⟩
  | n + 1 => (running started late n).turn (.timeout (late n) true)

end HeartbeatScheduler

end AlgoTrader.App

namespace AlgoTrader.Api

open AlgoTrader.Core App

/-! ## The digest -/

/-- How many intervals of a day are over. -/
def expectedIntervals (start dayEnd : Timestamp) : Nat :=
  if start < dayEnd then ((dayEnd - start) / heartbeatInterval).toNat else 0

/-- Mark the interval of a sample. -/
def markSample (start dayEnd : Timestamp) (present : List Bool) (ts : Timestamp) : List Bool :=
  if start ≤ ts ∧ ts < dayEnd then
    let index := ((ts - start) / heartbeatInterval).toNat
    if index < present.length then present.set index true else present
  else present

def uptimeDay (timestamps : List Timestamp) (now start stop : Timestamp) : Bool :=
  let dayEnd := min stop now
  let expected := expectedIntervals start dayEnd
  if expected = 0 then true
  else (timestamps.foldl (markSample start dayEnd) (List.replicate expected false)).all id

/-- `_uptime_ok`, over the edges `first :: ends`. -/
def uptimeOk (rows : List Timestamp) (first : Timestamp) (ends : List Timestamp) (now : Timestamp) :
    List Bool :=
  let timestamps := inRange rows first ((first :: ends).getLast (List.cons_ne_nil _ _))
  ((first :: ends).zip ends).map fun day => uptimeDay timestamps now day.1 day.2

/-! ## What makes a day complete -/

section Day

variable {timestamps : List Timestamp} {now start stop dayEnd : Timestamp}

theorem length_markSample (present : List Bool) (ts : Timestamp) :
    (markSample start dayEnd present ts).length = present.length := by
  unfold markSample
  dsimp only
  split_ifs
  · exact List.length_set
  · rfl
  · rfl

theorem length_marked (present : List Bool) :
    (timestamps.foldl (markSample start dayEnd) present).length = present.length := by
  induction timestamps generalizing present with
  | nil => rfl
  | cons ts timestamps ih => rw [List.foldl_cons, ih, length_markSample]

theorem markSample_iff {present : List Bool} {ts : Timestamp} {hour : Nat} (inside : hour < present.length) :
    (markSample start dayEnd present ts)[hour]? = some true ↔ present[hour]? = some true ∨
      (start ≤ ts ∧ ts < dayEnd ∧ (ts - start) / heartbeatInterval = hour) := by
  unfold markSample
  dsimp only
  by_cases within : start ≤ ts ∧ ts < dayEnd
  · have positive : 0 ≤ (ts - start) / heartbeatInterval :=
      Int.ediv_nonneg (Int.sub_nonneg_of_le within.1) (by decide)
    have index : ((ts - start) / heartbeatInterval).toNat = hour ↔
        (ts - start) / heartbeatInterval = hour := by
      constructor
      · intro same
        rw [← same, Int.toNat_of_nonneg positive]
      · intro same
        rw [same, Int.toNat_natCast]
    rw [if_pos within, ← index]
    by_cases same : ((ts - start) / heartbeatInterval).toNat = hour
    · rw [same, if_pos inside, List.getElem?_set_self inside]
      simp [within]
    · split_ifs
      · rw [List.getElem?_set_ne same]
        simp [same]
      · simp [same]
  · rw [if_neg within]
    refine (or_iff_left ?_).symm
    rintro ⟨since, before, _⟩
    exact within ⟨since, before⟩

theorem marked_iff {present : List Bool} {hour : Nat} (inside : hour < present.length) :
    (timestamps.foldl (markSample start dayEnd) present)[hour]? = some true ↔
      present[hour]? = some true ∨ ∃ ts ∈ timestamps,
        start ≤ ts ∧ ts < dayEnd ∧ (ts - start) / heartbeatInterval = hour := by
  induction timestamps generalizing present with
  | nil => simp
  | cons ts timestamps ih =>
      rw [List.foldl_cons, ih (by rw [length_markSample]; exact inside), markSample_iff inside,
        List.exists_mem_cons_iff, or_assoc]

/-- A day is complete when each of its intervals that are over has a sample. -/
theorem uptimeDay_iff : uptimeDay timestamps now start stop = true ↔
    ∀ hour < expectedIntervals start (min stop now), ∃ ts ∈ timestamps,
      start ≤ ts ∧ ts < min stop now ∧ (ts - start) / heartbeatInterval = hour := by
  unfold uptimeDay
  dsimp only
  split
  · rename_i none
    simp [none]
  · rw [List.all_eq_true]
    have length : (timestamps.foldl (markSample start (min stop now))
        (List.replicate (expectedIntervals start (min stop now)) false)).length =
          expectedIntervals start (min stop now) :=
      (length_marked _).trans List.length_replicate
    have entry : ∀ hour < expectedIntervals start (min stop now),
        (timestamps.foldl (markSample start (min stop now))
          (List.replicate (expectedIntervals start (min stop now)) false))[hour]? = some true ↔
          ∃ ts ∈ timestamps, start ≤ ts ∧ ts < min stop now ∧
            (ts - start) / heartbeatInterval = hour := by
      intro hour inside
      rw [marked_iff (by rw [List.length_replicate]; exact inside)]
      simp [inside]
    constructor
    · intro complete hour inside
      refine (entry hour inside).1 ?_
      rw [List.getElem?_eq_getElem (inside.trans_eq length.symm)]
      exact congrArg some (complete _ (List.getElem_mem _))
    · intro sampled present member
      obtain ⟨hour, inside, rfl⟩ := List.getElem_of_mem member
      have here := (entry hour (inside.trans_eq length)).2 (sampled hour (inside.trans_eq length))
      rw [List.getElem?_eq_getElem inside] at here
      exact Option.some.inj here

end Day

/-! ## The drift of the samples -/

section Drift

variable {started : Timestamp} {late : ℕ → Duration}

/-- Every wake-up comes at most a minute late. -/
def Punctual (late : ℕ → Duration) : Prop := ∀ n, 0 ≤ late n ∧ late n ≤ 60 * 1000000

/-- The clock at the end of a turn. -/
def clockAt (started : Timestamp) (late : ℕ → Duration) (n : ℕ) : Timestamp :=
  (HeartbeatScheduler.running started late n).clock

theorem running_stopped (n : ℕ) : (HeartbeatScheduler.running started late n).stopped = false := by
  induction n with
  | zero => rfl
  | succ n ih =>
      rw [HeartbeatScheduler.running, HeartbeatScheduler.turn, ih]
      rfl

theorem clockAt_succ (n : ℕ) :
    clockAt started late (n + 1) = clockAt started late n + heartbeatInterval + late n := by
  rw [clockAt, HeartbeatScheduler.running, HeartbeatScheduler.turn, running_stopped]
  rfl

theorem samples_succ (n : ℕ) : (HeartbeatScheduler.running started late (n + 1)).samples =
    (HeartbeatScheduler.running started late n).samples ++ [clockAt started late (n + 1)] := by
  rw [clockAt_succ, HeartbeatScheduler.running, HeartbeatScheduler.turn, running_stopped]
  rfl

/-- The samples are the clock at the end of every turn. -/
theorem mem_samples {n : ℕ} {ts : Timestamp} :
    ts ∈ (HeartbeatScheduler.running started late n).samples ↔
      ∃ m < n, ts = clockAt started late (m + 1) := by
  induction n with
  | zero => simp [HeartbeatScheduler.running]
  | succ n ih =>
      rw [samples_succ, List.mem_append, ih, List.mem_singleton]
      constructor
      · rintro (⟨m, earlier, rfl⟩ | rfl)
        · exact ⟨m, Nat.lt_succ_of_lt earlier, rfl⟩
        · exact ⟨n, Nat.lt_succ_self n, rfl⟩
      · rintro ⟨m, earlier, rfl⟩
        rcases Nat.lt_succ_iff_lt_or_eq.1 earlier with before | rfl
        · exact .inl ⟨m, before, rfl⟩
        · exact .inr rfl

/-- The hour a turn ends in, counted from the start of a day; those before it are negative. -/
def hourOf (started : Timestamp) (late : ℕ → Duration) (start : Timestamp) (n : ℕ) : ℤ :=
  (clockAt started late n - start) / heartbeatInterval

/-- How far into that hour. -/
def offsetOf (started : Timestamp) (late : ℕ → Duration) (start : Timestamp) (n : ℕ) : Duration :=
  (clockAt started late n - start) % heartbeatInterval

variable {start : Timestamp}

theorem ediv_late {t delay : ℤ} (early : 0 ≤ delay) (small : delay ≤ 60000000) :
    (t + 3600000000 + delay) / 3600000000 =
      t / 3600000000 + if t % 3600000000 + delay < 3600000000 then 1 else 2 := by
  split
  · omega
  · omega

/-- From one turn to the next an hour passes, or two where the delay carries over the end of
an hour. -/
theorem hourOf_next (punctual : Punctual late) (n : ℕ) :
    hourOf started late start (n + 1) = hourOf started late start n +
      if offsetOf started late start n + late n < heartbeatInterval then 1 else 2 := by
  obtain ⟨early, small⟩ := punctual n
  have next : clockAt started late (n + 1) - start =
      clockAt started late n - start + heartbeatInterval + late n := by
    rw [clockAt_succ]
    ring
  unfold hourOf offsetOf
  rw [next]
  exact ediv_late early small

theorem hourOf_strictMono (punctual : Punctual late) {m n : ℕ} (before : m < n) :
    hourOf started late start m < hourOf started late start n := by
  refine strictMono_nat_of_lt_succ (fun n => ?_) before
  rw [hourOf_next punctual n]
  split
  · omega
  · omega

theorem clockAt_strictMono (punctual : Punctual late) {m n : ℕ} (before : m < n) :
    clockAt started late m < clockAt started late n := by
  refine strictMono_nat_of_lt_succ (fun n => ?_) before
  rw [clockAt_succ]
  have interval : (0 : ℤ) < heartbeatInterval := by decide
  have early : (0 : ℤ) ≤ late n := (punctual n).1
  linarith

/-- Some turn is the last one to end before an hour. -/
theorem last_before (punctual : Punctual late) {hour : ℤ} (before : hourOf started late start 0 < hour) :
    ∃ n, hourOf started late start n < hour ∧ hour ≤ hourOf started late start (n + 1) := by
  by_contra never
  push Not at never
  have always : ∀ n, hourOf started late start n < hour := by
    intro n
    induction n with
    | zero => exact before
    | succ n ih => exact never n ih
  have grows : ∀ n : ℕ, hourOf started late start 0 + n ≤ hourOf started late start n := by
    intro n
    induction n with
    | zero => simp
    | succ n ih =>
        have step : hourOf started late start n < hourOf started late start (n + 1) :=
          hourOf_strictMono punctual (Nat.lt_succ_self n)
        push_cast
        omega
  have beyond := grows (hour - hourOf started late start 0).toNat
  have within := always (hour - hourOf started late start 0).toNat
  omega

end Drift

/-! ## Days on which the process ran, and days with a gap -/

section Verdict

variable {first : Timestamp} {ends : List Timestamp} {day : Nat} {start stop now : Timestamp}

theorem mem_inRange {rows : List Timestamp} {last ts : Timestamp} :
    ts ∈ inRange rows first last ↔ ts ∈ rows ∧ first ≤ ts ∧ ts < last := by
  rw [inRange, List.mem_insertionSort, List.mem_filter, decide_eq_true_eq]

theorem uptimeOk_day {rows : List Timestamp} (starts : (first :: ends)[day]? = some start)
    (stops : ends[day]? = some stop) : (uptimeOk rows first ends now)[day]? =
      some (uptimeDay (inRange rows first ((first :: ends).getLast (List.cons_ne_nil _ _))) now
        start stop) := by
  have both : ((first :: ends).zip ends)[day]? = some (start, stop) :=
    List.getElem?_zip_eq_some.2 ⟨starts, stops⟩
  rw [uptimeOk, List.getElem?_map, both]
  rfl

/-- The verdict on a day looks at all samples of that day, and at no others. -/
theorem complete_iff {rows : List Timestamp} (edges : (first :: ends).Pairwise (· ≤ ·))
    (starts : (first :: ends)[day]? = some start) (stops : ends[day]? = some stop) :
    (uptimeOk rows first ends now)[day]? = some true ↔
      ∀ hour < expectedIntervals start (min stop now), ∃ ts ∈ rows,
        start ≤ ts ∧ ts < min stop now ∧ (ts - start) / heartbeatInterval = hour := by
  rw [uptimeOk_day starts stops, Option.some.injEq, uptimeDay_iff]
  refine forall₂_congr fun hour _ => exists_congr fun ts => ?_
  rw [mem_inRange]
  constructor
  · rintro ⟨⟨member, _⟩, within⟩
    exact ⟨member, within⟩
  · rintro ⟨member, since, before, index⟩
    have inDay : InDay first ends day ts :=
      ⟨start, stop, starts, stops, since, before.trans_le (min_le_left _ _)⟩
    exact ⟨⟨member, inDay.inRange edges⟩, since, before, index⟩

/-- The end of an interval that is over. -/
theorem interval_over {hour : ℤ} {dayEnd : Timestamp} (finished : hour < expectedIntervals start dayEnd)
    (since : 0 ≤ hour) : start + (hour + 1) * heartbeatInterval ≤ dayEnd := by
  unfold expectedIntervals at finished
  split at finished
  · rename_i before
    have positive : 0 ≤ (dayEnd - start) / heartbeatInterval :=
      Int.ediv_nonneg (Int.sub_nonneg_of_le before.le) (by decide)
    rw [Int.toNat_of_nonneg positive] at finished
    have whole : (hour + 1) * heartbeatInterval ≤ dayEnd - start :=
      (Int.le_ediv_iff_mul_le (by decide)).1 finished
    linarith
  · exact absurd finished (not_lt.2 since)

end Verdict

section Running

variable {started : Timestamp} {late : ℕ → Duration} {start : Timestamp}

theorem clockAt_bounds (n : ℕ) :
    start + hourOf started late start n * heartbeatInterval ≤ clockAt started late n ∧
      clockAt started late n < start + (hourOf started late start n + 1) * heartbeatInterval := by
  have whole := Int.mul_ediv_add_emod (clockAt started late n - start) heartbeatInterval
  have low := Int.emod_nonneg (clockAt started late n - start) (by decide : heartbeatInterval ≠ 0)
  have high := Int.emod_lt_of_pos (clockAt started late n - start)
    (by decide : (0 : ℤ) < heartbeatInterval)
  unfold hourOf
  constructor
  · linarith
  · linarith

/-- A process that has been up for two intervals samples every hour it does not step over. -/
theorem sampled_iff (punctual : Punctual late) (up : started + 2 * heartbeatInterval ≤ start)
    {dayEnd : Timestamp} {n : ℕ} (through : dayEnd ≤ clockAt started late (n + 1)) :
    (∀ hour < expectedIntervals start dayEnd,
        ∃ ts ∈ (HeartbeatScheduler.running started late n).samples,
          start ≤ ts ∧ ts < dayEnd ∧ (ts - start) / heartbeatInterval = hour) ↔
      ∀ m, 0 ≤ hourOf started late start m + 1 →
        hourOf started late start m + 1 < expectedIntervals start dayEnd →
          offsetOf started late start m + late m < heartbeatInterval := by
  constructor
  · intro sampled m since finished
    by_contra carries
    -- The next hour is stepped over, and no other turn ends in it.
    have skips : hourOf started late start (m + 1) = hourOf started late start m +
        if offsetOf started late start m + late m < heartbeatInterval then 1 else 2 :=
      hourOf_next punctual m
    rw [if_neg carries] at skips
    obtain ⟨hour, here⟩ := Int.eq_ofNat_of_zero_le since
    rw [here] at finished
    obtain ⟨ts, saved, _, _, index⟩ := sampled hour (by exact_mod_cast finished)
    obtain ⟨k, _, rfl⟩ := mem_samples.1 saved
    have equal : hourOf started late start (k + 1) = hourOf started late start m + 1 := by
      rw [here]
      exact index
    have strict : StrictMono (hourOf started late start) := fun _ _ => hourOf_strictMono punctual
    rcases Nat.lt_or_ge m (k + 1) with after | before
    · have beyond : hourOf started late start (m + 1) ≤ hourOf started late start (k + 1) :=
        strict.monotone after
      omega
    · have within : hourOf started late start (k + 1) ≤ hourOf started late start m :=
        strict.monotone before
      omega
  · intro fits hour finished
    have early : hourOf started late start 0 < hour := by
      have interval : (0 : ℤ) < heartbeatInterval := by decide
      have sooner : started - start < 0 := by linarith
      have before : hourOf started late start 0 < 0 := Int.ediv_neg_of_neg_of_pos sooner interval
      omega
    obtain ⟨m, before, upTo⟩ := last_before punctual early
    have next : hourOf started late start (m + 1) = hourOf started late start m +
        if offsetOf started late start m + late m < heartbeatInterval then 1 else 2 :=
      hourOf_next punctual m
    have here : hourOf started late start (m + 1) = hour := by
      split at next
      · omega
      · rename_i carries
        by_contra passed
        refine carries (fits m ?_ ?_)
        · omega
        · omega
    obtain ⟨low, high⟩ : start + hourOf started late start (m + 1) * heartbeatInterval ≤
          clockAt started late (m + 1) ∧ clockAt started late (m + 1) <
          start + (hourOf started late start (m + 1) + 1) * heartbeatInterval := clockAt_bounds (m + 1)
    have finished' : start + ((hour : ℤ) + 1) * heartbeatInterval ≤ dayEnd :=
      interval_over (by exact_mod_cast finished) (Int.natCast_nonneg hour)
    rw [here] at low high
    have within : clockAt started late (m + 1) < dayEnd := high.trans_le finished'
    have strict : StrictMono (clockAt started late) := fun _ _ => clockAt_strictMono punctual
    have saved : m < n := Nat.lt_of_succ_lt_succ (strict.lt_iff_lt.1 (within.trans_le through))
    refine ⟨_, mem_samples.2 ⟨m, saved, rfl⟩, ?_, within, here⟩
    have nonneg : 0 ≤ (hour : ℤ) * heartbeatInterval :=
      Int.mul_nonneg (Int.natCast_nonneg hour) (by decide)
    linarith

end Running

/-- A gap of more than two intervals holds a whole one. -/
theorem gap_unsampled {rows : List Timestamp} {start dayEnd since until_ : Timestamp}
    (after : start ≤ since) (before : until_ ≤ dayEnd)
    (long : 2 * heartbeatInterval < until_ - since)
    (empty : ∀ ts ∈ rows, ¬(since ≤ ts ∧ ts < until_)) :
    ¬∀ hour < expectedIntervals start dayEnd, ∃ ts ∈ rows,
      start ≤ ts ∧ ts < dayEnd ∧ (ts - start) / heartbeatInterval = hour := by
  intro sampled
  have interval : (0 : ℤ) < heartbeatInterval := by decide
  have whole := Int.mul_ediv_add_emod (since - start) heartbeatInterval
  have low := Int.emod_nonneg (since - start) (ne_of_gt interval)
  have high := Int.emod_lt_of_pos (since - start) interval
  obtain ⟨hour, isHour⟩ : ∃ hour : ℕ, (since - start) / heartbeatInterval = hour :=
    Int.eq_ofNat_of_zero_le (Int.ediv_nonneg (Int.sub_nonneg_of_le after) interval.le)
  rw [isHour] at whole
  have finished : hour + 1 < expectedIntervals start dayEnd := by
    unfold expectedIntervals
    rw [if_pos (by linarith)]
    have fits : (hour : ℤ) + 2 ≤ (dayEnd - start) / heartbeatInterval :=
      (Int.le_ediv_iff_mul_le interval).2 (by linarith)
    omega
  obtain ⟨ts, member, _, _, index⟩ := sampled (hour + 1) finished
  have bounds := Int.mul_ediv_add_emod (ts - start) heartbeatInterval
  have least := Int.emod_nonneg (ts - start) (ne_of_gt interval)
  have most := Int.emod_lt_of_pos (ts - start) interval
  rw [index] at bounds
  push_cast at bounds
  refine empty ts member ⟨?_, ?_⟩
  · linarith
  · linarith

/-- A day on which the process ran, after two intervals or more, is complete exactly when no
delay carries over a whole hour of the day; a day with a gap of more than two intervals never
is. -/
theorem uptime_iff {first : Timestamp} {ends : List Timestamp} (edges : (first :: ends).Pairwise (· ≤ ·))
    {day : Nat} {start stop : Timestamp} (starts : (first :: ends)[day]? = some start)
    (stops : ends[day]? = some stop) (now : Timestamp) :
    (∀ started late, Punctual late → started + 2 * heartbeatInterval ≤ start →
      ∀ n, min stop now ≤ clockAt started late (n + 1) →
        ((uptimeOk (HeartbeatScheduler.running started late n).samples first ends now)[day]? =
            some true ↔
          ∀ m, 0 ≤ hourOf started late start m + 1 →
            hourOf started late start m + 1 < expectedIntervals start (min stop now) →
              offsetOf started late start m + late m < heartbeatInterval)) ∧
      ∀ rows since until_, start ≤ since → until_ ≤ min stop now →
        2 * heartbeatInterval < until_ - since → (∀ ts ∈ rows, ¬(since ≤ ts ∧ ts < until_)) →
          (uptimeOk rows first ends now)[day]? = some false := by
  constructor
  · intro started late punctual up n through
    rw [complete_iff edges starts stops]
    exact sampled_iff punctual up through
  · intro rows since until_ after before long empty
    have never := gap_unsampled after before long empty
    rw [← complete_iff edges starts stops, uptimeOk_day starts stops, Option.some.injEq,
      Bool.not_eq_true] at never
    rw [uptimeOk_day starts stops, never]

/-! ## A day that reads as incomplete -/

/-- Every wake-up a minute late. -/
def minuteLate (_ : ℕ) : Duration := 60 * 1000000

theorem minuteLate_punctual : Punctual minuteLate := by
  intro n
  show (0 : ℤ) ≤ 60 * 1000000 ∧ (60 * 1000000 : ℤ) ≤ 60 * 1000000
  decide

/-- A little over two hours before the first of the thirty days. -/
def beforeMidnight : Timestamp := -7440 * 1000000

theorem uptime_iff_thirtyDays :
    (∀ started late, Punctual late → started + 2 * heartbeatInterval ≤ 0 →
      ∀ n, min 86400000000 86400000000 ≤ clockAt started late (n + 1) →
        ((uptimeOk (HeartbeatScheduler.running started late n).samples 0 thirtyDays 86400000000)[0]? =
            some true ↔
          ∀ m, 0 ≤ hourOf started late 0 m + 1 →
            hourOf started late 0 m + 1 < expectedIntervals 0 (min 86400000000 86400000000) →
              offsetOf started late 0 m + late m < heartbeatInterval)) ∧
      ∀ rows since until_, 0 ≤ since → until_ ≤ min 86400000000 86400000000 →
        2 * heartbeatInterval < until_ - since → (∀ ts ∈ rows, ¬(since ≤ ts ∧ ts < until_)) →
          (uptimeOk rows 0 thirtyDays 86400000000)[0]? = some false :=
  uptime_iff thirtyDays_ordered (by rfl) (by rfl) 86400000000

/-- One sample comes a minute before the end of an hour, and the next one after the hour that
follows. -/
theorem minuteLate_incomplete : ∃ (first : Timestamp) (ends : List Timestamp) (day : Nat)
    (start stop now started : Timestamp) (late : ℕ → Duration) (n : ℕ),
    (first :: ends).Pairwise (· ≤ ·) ∧ (first :: ends)[day]? = some start ∧ ends[day]? = some stop ∧
      Punctual late ∧ started + 2 * heartbeatInterval ≤ start ∧
      min stop now ≤ clockAt started late (n + 1) ∧
      (uptimeOk (HeartbeatScheduler.running started late n).samples first ends now)[day]? ≠
        some true := by
  refine ⟨0, thirtyDays, 0, 0, 86400000000, 86400000000, beforeMidnight, minuteLate, 26,
    thirtyDays_ordered, rfl, rfl, minuteLate_punctual, by decide, by decide, ?_⟩
  decide

end AlgoTrader.Api
