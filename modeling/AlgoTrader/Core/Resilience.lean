/-
# Core.Resilience -- the rate limiter and the circuit breaker

Both read a monotonic clock, whose seconds are passed in: a slice of the event loop, from
one await to the next, reads one time.

Reading the breaker changes it: a read that comes late enough leaves it half open.

* `Tracks` -- what the breaker knows of the failures since the last success;
* `call_tracks` -- every call keeps it, while the clock does not run back;
* `refuses_iff` -- a read refuses exactly where enough failures are too recent, however often
  the breaker was read before.
-/
import Mathlib.Data.List.Induction
import AlgoTrader.Core.Models

namespace AlgoTrader.Core

set_option autoImplicit false

structure TokenBucketRateLimiter where
  capacity : PositiveDecimal
  refillPerSecond : PositiveDecimal
  tokens : Decimal
  lastRefill : Decimal

namespace TokenBucketRateLimiter

/-- `TokenBucketRateLimiter(capacity, refill_per_second)`. -/
def full (capacity refillPerSecond : PositiveDecimal) (now : Decimal) : TokenBucketRateLimiter :=
  ⟨capacity, refillPerSecond, capacity, now⟩

def refill (limiter : TokenBucketRateLimiter) (now : Decimal) : TokenBucketRateLimiter :=
  { limiter with
    tokens := min limiter.capacity.1
      (limiter.tokens + (now - limiter.lastRefill) * limiter.refillPerSecond)
    lastRefill := now }

/-- `try_acquire`. -/
def tryAcquire (limiter : TokenBucketRateLimiter) (tokens now : Decimal) :
    Except String (Bool × TokenBucketRateLimiter) :=
  if tokens ≤ 0 ∨ limiter.capacity < tokens then
    .error "requested tokens must be greater than zero and fit the bucket"
  else
    let refilled := limiter.refill now
    if refilled.tokens < tokens then .ok (false, refilled)
    else .ok (true, { refilled with tokens := refilled.tokens - tokens })

end TokenBucketRateLimiter

inductive CircuitState where
  | closed
  | open
  | halfOpen
  deriving DecidableEq

structure CircuitBreaker where
  failureThreshold : Nat
  recoveryTimeout : PositiveDecimal
  state : CircuitState := .closed
  failures : Nat := 0
  openedAt : Option Decimal := none

namespace CircuitBreaker

/-- `allow_request`. -/
def allowRequest (breaker : CircuitBreaker) (now : Decimal) : Bool × CircuitBreaker :=
  match breaker.state with
  | .closed => (true, breaker)
  | .halfOpen => (true, breaker)
  | .open =>
      if breaker.openedAt.any fun opened => breaker.recoveryTimeout ≤ now - opened then
        (true, { breaker with state := .halfOpen })
      else (false, breaker)

/-- `record_success`. -/
def recordSuccess (breaker : CircuitBreaker) : CircuitBreaker :=
  { breaker with state := .closed, failures := 0, openedAt := none }

/-- `record_failure`. -/
def recordFailure (breaker : CircuitBreaker) (now : Decimal) : CircuitBreaker :=
  let counted := { breaker with failures := breaker.failures + 1 }
  if breaker.failureThreshold ≤ counted.failures then
    { counted with state := .open, openedAt := some now }
  else counted

/-- `CircuitBreaker(failure_threshold, recovery_timeout)`. -/
def new (failureThreshold : Int) (recoveryTimeout : Decimal) : Except String CircuitBreaker :=
  if settings : 1 ≤ failureThreshold ∧ 0 < recoveryTimeout then
    .ok { failureThreshold := failureThreshold.toNat, recoveryTimeout := ⟨recoveryTimeout, settings.2⟩ }
  else .error "circuit breaker settings must be positive"

/-- `ProviderHTTPClient.healthy`. -/
def healthy (breaker : CircuitBreaker) (now : Decimal) : Bool × CircuitBreaker :=
  breaker.allowRequest now

/-! ## Calls -/

/-- What the breaker is called for, and the clock then. -/
inductive Call where
  | recordSuccess (now : Decimal)
  | recordFailure (now : Decimal)
  | allowRequest (now : Decimal)
  | healthy (now : Decimal)

def Call.now : Call → Decimal
  | .recordSuccess now | .recordFailure now | .allowRequest now | .healthy now => now

def call (breaker : CircuitBreaker) : Call → CircuitBreaker
  | .recordSuccess _ => breaker.recordSuccess
  | .recordFailure now => breaker.recordFailure now
  | .allowRequest now => (breaker.allowRequest now).2
  | .healthy now => (breaker.healthy now).2

def after (breaker : CircuitBreaker) (calls : List Call) : CircuitBreaker := calls.foldl call breaker

/-! ## What was recorded -/

def Call.isSuccess : Call → Bool
  | .recordSuccess _ => true
  | _ => false

def Call.failed : Call → Option Decimal
  | .recordFailure now => some now
  | _ => none

/-- The calls since the last success. -/
def sinceSuccess (calls : List Call) : List Call :=
  (calls.reverse.takeWhile fun call => !call.isSuccess).reverse

/-- When the failures since the last success were recorded. -/
def failureTimes (calls : List Call) : List Decimal := (sinceSuccess calls).filterMap Call.failed

/-- Enough failures have been recorded since the last success, and the last one is too recent. -/
def TooRecent (failureThreshold : Int) (recoveryTimeout : Decimal) (calls : List Call)
    (now : Decimal) : Prop :=
  failureThreshold ≤ (failureTimes calls).length ∧
    ∃ last ∈ (failureTimes calls).getLast?, now - last < recoveryTimeout

section Snoc

variable (calls : List Call) (now : Decimal)

@[simp] theorem failureTimes_success : failureTimes (calls ++ [.recordSuccess now]) = [] := by
  simp [failureTimes, sinceSuccess, Call.isSuccess]

@[simp] theorem failureTimes_failure :
    failureTimes (calls ++ [.recordFailure now]) = failureTimes calls ++ [now] := by
  simp [failureTimes, sinceSuccess, Call.isSuccess, Call.failed]

@[simp] theorem failureTimes_read :
    failureTimes (calls ++ [.allowRequest now]) = failureTimes calls := by
  simp [failureTimes, sinceSuccess, Call.isSuccess, Call.failed]

@[simp] theorem failureTimes_healthy :
    failureTimes (calls ++ [.healthy now]) = failureTimes calls := by
  simp [failureTimes, sinceSuccess, Call.isSuccess, Call.failed]

theorem after_snoc (breaker : CircuitBreaker) (last : Call) :
    breaker.after (calls ++ [last]) = (breaker.after calls).call last :=
  List.foldl_append ..

end Snoc

/-! ## Runs -/

/-- What the breaker knows at a time of the failures since the last success. -/
structure Tracks (failures : List Decimal) (now : Decimal) (breaker : CircuitBreaker) : Prop where
  positive : 0 < breaker.failureThreshold
  counts : breaker.failures = failures.length
  closed : breaker.state = .closed → failures.length < breaker.failureThreshold
  enough : breaker.state ≠ .closed → breaker.failureThreshold ≤ failures.length
  opened : breaker.state = .open → breaker.openedAt = failures.getLast?
  /-- A half-open breaker has waited long enough already. -/
  waited : breaker.state = .halfOpen → ∀ last ∈ failures.getLast?, breaker.recoveryTimeout ≤ now - last

section

variable {failures : List Decimal} {earlier now : Decimal} {breaker : CircuitBreaker}

theorem Tracks.later (tracks : Tracks failures earlier breaker) (onward : earlier ≤ now) :
    Tracks failures now breaker where
  positive := tracks.positive
  counts := tracks.counts
  closed := tracks.closed
  enough := tracks.enough
  opened := tracks.opened
  waited half last member := (tracks.waited half last member).trans (sub_le_sub_right onward last)

theorem Tracks.success (tracks : Tracks failures now breaker) : Tracks [] now breaker.recordSuccess where
  positive := tracks.positive
  counts := rfl
  closed _ := tracks.positive
  enough other := absurd rfl other
  opened never := nomatch never
  waited never := nomatch never

theorem Tracks.failure (tracks : Tracks failures now breaker) :
    Tracks (failures ++ [now]) now (breaker.recordFailure now) := by
  have counts : breaker.failures + 1 = (failures ++ [now]).length := by
    rw [tracks.counts, List.length_append, List.length_singleton]
  unfold recordFailure
  dsimp only
  rw [counts]
  by_cases enough : breaker.failureThreshold ≤ (failures ++ [now]).length
  · rw [if_pos enough]
    exact {
      positive := tracks.positive
      counts := rfl
      closed := fun never => nomatch never
      enough := fun _ => enough
      opened := fun _ => List.getLast?_concat.symm
      waited := fun never => nomatch never }
  · -- So few failures have opened nothing.
    rw [if_neg enough]
    have closed : breaker.state = .closed := by
      by_contra other
      have before := tracks.enough other
      rw [List.length_append] at enough
      omega
    refine ⟨tracks.positive, rfl, fun _ => not_le.1 enough, fun other => absurd closed other, fun never => ?_,
      fun never => ?_⟩
    · rw [show breaker.state = .open from never] at closed
      cases closed
    · rw [show breaker.state = .halfOpen from never] at closed
      cases closed

/-- A read refuses exactly where the failures are too recent, and leaves it so. -/
theorem Tracks.read (tracks : Tracks failures now breaker) :
    ((breaker.allowRequest now).1 = false ↔ breaker.failureThreshold ≤ failures.length ∧
        ∃ last ∈ failures.getLast?, now - last < breaker.recoveryTimeout) ∧
      Tracks failures now (breaker.allowRequest now).2 := by
  unfold allowRequest
  cases state : breaker.state with
  | closed =>
      have few := tracks.closed state
      refine ⟨iff_of_false Bool.noConfusion fun recent => ?_, tracks⟩
      exact absurd recent.1 (not_le.2 few)
  | halfOpen =>
      refine ⟨iff_of_false Bool.noConfusion ?_, tracks⟩
      rintro ⟨_, last, member, recent⟩
      exact absurd (tracks.waited state last member) (not_le.2 recent)
  | «open» =>
      have enough := tracks.enough fun closed => by
        rw [state] at closed
        cases closed
      have opened := tracks.opened state
      dsimp only
      rw [opened]
      cases here : failures.getLast? with
      | none =>
          have some_ : 0 < failures.length := tracks.positive.trans_le enough
          rw [List.getLast?_eq_none_iff.1 here] at some_
          cases some_
      | some last =>
          rw [Option.any_some]
          by_cases late : breaker.recoveryTimeout ≤ now - last
          · rw [decide_eq_true late, if_pos rfl]
            refine ⟨iff_of_false Bool.noConfusion ?_, ?_⟩
            · rintro ⟨_, _, member, recent⟩
              obtain rfl := Option.mem_some_iff.1 member
              exact absurd late (not_le.2 recent)
            · exact {
                positive := tracks.positive
                counts := tracks.counts
                closed := fun never => nomatch never
                enough := fun _ => enough
                opened := fun never => nomatch never
                waited := fun _ other member => by
                  cases here.symm.trans member
                  exact late }
          · rw [decide_eq_false late, if_neg Bool.false_ne_true]
            exact ⟨iff_of_true rfl ⟨enough, last, rfl, not_le.1 late⟩, tracks⟩

theorem call_tracks {calls : List Call} (tracks : Tracks (failureTimes calls) earlier breaker) (next : Call)
    (onward : earlier ≤ next.now) :
    Tracks (failureTimes (calls ++ [next])) next.now (breaker.call next) := by
  have here := tracks.later onward
  cases next with
  | recordSuccess now =>
      rw [failureTimes_success]
      exact here.success
  | recordFailure now =>
      rw [failureTimes_failure]
      exact here.failure
  | allowRequest now =>
      rw [failureTimes_read]
      exact here.read.2
  | healthy now =>
      rw [failureTimes_healthy]
      exact here.read.2

end

theorem allowRequest_settings (breaker : CircuitBreaker) (now : Decimal) :
    (breaker.allowRequest now).2.failureThreshold = breaker.failureThreshold ∧
      (breaker.allowRequest now).2.recoveryTimeout = breaker.recoveryTimeout := by
  unfold allowRequest
  split
  · exact ⟨rfl, rfl⟩
  · exact ⟨rfl, rfl⟩
  · split
    · exact ⟨rfl, rfl⟩
    · exact ⟨rfl, rfl⟩

theorem recordFailure_settings (breaker : CircuitBreaker) (now : Decimal) :
    (breaker.recordFailure now).failureThreshold = breaker.failureThreshold ∧
      (breaker.recordFailure now).recoveryTimeout = breaker.recoveryTimeout := by
  unfold recordFailure
  dsimp only
  split
  · exact ⟨rfl, rfl⟩
  · exact ⟨rfl, rfl⟩

/-- The settings are those the breaker was made with. -/
theorem after_settings (breaker : CircuitBreaker) (calls : List Call) :
    (breaker.after calls).failureThreshold = breaker.failureThreshold ∧
      (breaker.after calls).recoveryTimeout = breaker.recoveryTimeout := by
  induction calls using List.reverseRecOn with
  | nil => exact ⟨rfl, rfl⟩
  | append_singleton calls last ih =>
      rw [after_snoc, ← ih.1, ← ih.2]
      cases last with
      | recordSuccess now => exact ⟨rfl, rfl⟩
      | recordFailure now => exact recordFailure_settings _ now
      | allowRequest now => exact allowRequest_settings _ now
      | healthy now => exact allowRequest_settings _ now

theorem new_ok {failureThreshold : Int} {recoveryTimeout : Decimal} {start : CircuitBreaker}
    (made : new failureThreshold recoveryTimeout = .ok start) :
    start.failureThreshold = failureThreshold ∧ start.recoveryTimeout.1 = recoveryTimeout ∧
      ∀ now, Tracks [] now start := by
  unfold new at made
  split at made
  · rename_i settings
    cases made
    refine ⟨Int.toNat_of_nonneg (by omega), rfl, fun now => ?_⟩
    have positive : 0 < failureThreshold.toNat := by omega
    exact {
      positive := positive
      counts := rfl
      closed := fun _ => positive
      enough := fun other => absurd rfl other
      opened := fun never => nomatch never
      waited := fun never => nomatch never }
  · cases made

/-- The breaker tracks the failures through any calls whose clock does not run back. -/
theorem after_tracks {start : CircuitBreaker} (fresh : ∀ now, Tracks [] now start) {calls : List Call}
    {now : Decimal} (onward : (calls.map Call.now ++ [now]).Pairwise (· ≤ ·)) :
    Tracks (failureTimes calls) now (start.after calls) := by
  induction calls using List.reverseRecOn generalizing now with
  | nil => exact fresh now
  | append_singleton calls last ih =>
      rw [List.map_append, List.map_singleton] at onward
      obtain ⟨before, _, final⟩ := List.pairwise_append.1 onward
      rw [after_snoc]
      exact (call_tracks (ih before) last (le_refl _)).later (final _ (by simp) now List.mem_cons_self)

/-- **Reading the breaker.** After any calls whose clock does not run back, a read refuses
exactly where at least `failure_threshold` failures were recorded since the last success and
less than `recovery_timeout` has passed since the last of them. -/
theorem refuses_iff {failureThreshold : Int} {recoveryTimeout : Decimal} {start : CircuitBreaker}
    (made : new failureThreshold recoveryTimeout = .ok start) {calls : List Call} {now : Decimal}
    (onward : (calls.map Call.now ++ [now]).Pairwise (· ≤ ·)) :
    ((start.after calls).allowRequest now).1 = false ↔
      TooRecent failureThreshold recoveryTimeout calls now := by
  obtain ⟨threshold, timeout, fresh⟩ := new_ok made
  obtain ⟨sameThreshold, sameTimeout⟩ := after_settings start calls
  rw [(after_tracks fresh onward).read.1, sameThreshold, sameTimeout, timeout, TooRecent, ← threshold,
    Int.ofNat_le]

/-- Two failures half a second apart, read too soon and then late enough. -/
theorem refuses_iff_twice : ∃ start, new 2 30 = .ok start ∧
    ((start.after [.recordFailure 0, .allowRequest 0, .recordFailure (1 / 2), .healthy 10]).allowRequest
        30).1 = false ∧
      ((start.after [.recordFailure 0, .allowRequest 0, .recordFailure (1 / 2), .healthy 10,
        .allowRequest 31]).allowRequest 40).1 = true := by
  obtain ⟨start, made⟩ : ∃ start, new 2 30 = .ok start := ⟨_, rfl⟩
  refine ⟨start, made, (refuses_iff made (by decide +kernel)).2 ?_, ?_⟩
  · exact ⟨by decide, 1 / 2, rfl, by decide +kernel⟩
  · rw [← Bool.not_eq_false, refuses_iff made (by decide +kernel)]
    rintro ⟨_, last, same, recent⟩
    cases same
    exact absurd recent (by decide +kernel)

end CircuitBreaker

end AlgoTrader.Core
