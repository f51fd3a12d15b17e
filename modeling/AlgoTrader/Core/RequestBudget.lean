/-
# Core.RequestBudget -- what the rate limiter grants over time

Callers take turns at the lock, so a run of the limiter is one sequence of calls.  The bucket
holds one number.  Of every moment it says how much could still be granted since:

* `Tracks.bound` -- never more than the capacity and the refill since then, less what was granted;
* `Tracks.tight` -- and exactly that for some moment since the bucket was made;
* `refill_tracks`, `call_tracks` -- the passing of time and a call keep both;
* `request_budget` -- every interval keeps to the budget, and a refusal is the budget's own.
-/
import Mathlib.Tactic.Linarith
import AlgoTrader.Core.Resilience

namespace AlgoTrader.Core.TokenBucketRateLimiter

set_option autoImplicit false

/-! ## Calls -/

/-- A call of `try_acquire`, and the clock behind the lock. -/
structure Ask where
  tokens : Decimal
  now : Decimal

def answer (limiter : TokenBucketRateLimiter) (ask : Ask) : Except String Bool :=
  (limiter.tryAcquire ask.tokens ask.now).map Prod.fst

/-- A size that is refused with an error leaves the bucket as it is. -/
def served (limiter : TokenBucketRateLimiter) (ask : Ask) : TokenBucketRateLimiter :=
  match limiter.tryAcquire ask.tokens ask.now with
  | .ok (_, after) => after
  | .error _ => limiter

def after (limiter : TokenBucketRateLimiter) (asks : List Ask) : TokenBucketRateLimiter :=
  asks.foldl served limiter

/-- The calls that were granted. -/
def grants (limiter : TokenBucketRateLimiter) : List Ask → List Ask
  | [] => []
  | ask :: rest =>
      match limiter.answer ask with
      | .ok true => ask :: (limiter.served ask).grants rest
      | _ => (limiter.served ask).grants rest

/-- The tokens of the calls within an interval. -/
def tokensIn (asks : List Ask) (since until_ : Decimal) : Decimal :=
  ((asks.filter fun ask => since ≤ ask.now ∧ ask.now ≤ until_).map Ask.tokens).sum

section Snoc

variable (limiter : TokenBucketRateLimiter) (asks : List Ask) (last : Ask)

theorem after_snoc : limiter.after (asks ++ [last]) = (limiter.after asks).served last :=
  List.foldl_append ..

theorem grants_snoc : limiter.grants (asks ++ [last]) =
    limiter.grants asks ++ (limiter.after asks).grants [last] := by
  induction asks generalizing limiter with
  | nil => rfl
  | cons ask rest ih =>
      rw [List.cons_append, grants, grants, ih (limiter.served ask)]
      cases limiter.answer ask with
      | error _ => rfl
      | ok granted =>
          cases granted with
          | true => rfl
          | false => rfl

theorem tokensIn_snoc (since until_ : Decimal) : tokensIn (asks ++ [last]) since until_ =
    tokensIn asks since until_ + if since ≤ last.now ∧ last.now ≤ until_ then last.tokens else 0 := by
  rw [tokensIn, List.filter_append, List.map_append, List.sum_append, ← tokensIn]
  by_cases inside : since ≤ last.now ∧ last.now ≤ until_
  · simp [inside]
  · simp only [List.filter_singleton, decide_eq_false inside, if_neg inside]
    rfl

end Snoc

section Sums

variable {asks : List Ask} {since until_ later : Decimal}

/-- Nothing is counted that came before the interval. -/
theorem tokensIn_past (past : ∀ ask ∈ asks, ask.now < since) : tokensIn asks since until_ = 0 := by
  have none_ : asks.filter (fun ask => since ≤ ask.now ∧ ask.now ≤ until_) = [] :=
    List.filter_eq_nil_iff.2 fun ask member inside =>
      absurd (of_decide_eq_true inside).1 (not_le.2 (past ask member))
  rw [tokensIn, none_]
  rfl

/-- What ends after the last call may end at any later time. -/
theorem tokensIn_later (past : ∀ ask ∈ asks, ask.now ≤ until_) (onward : until_ ≤ later) :
    tokensIn asks since later = tokensIn asks since until_ := by
  have same : asks.filter (fun ask => since ≤ ask.now ∧ ask.now ≤ later) =
      asks.filter fun ask => since ≤ ask.now ∧ ask.now ≤ until_ :=
    List.filter_congr fun ask member => by
      have inside := past ask member
      simp only [inside, inside.trans onward]
  rw [tokensIn, same, tokensIn]

end Sums

/-! ## One call -/

section One

variable {limiter : TokenBucketRateLimiter} {ask : Ask}

/-- What a call does: it raises and changes nothing, or refills and then grants or refuses. -/
theorem served_cases (limiter : TokenBucketRateLimiter) (ask : Ask) :
    (∃ error, limiter.answer ask = .error error) ∧ limiter.served ask = limiter ∨
      limiter.answer ask = .ok false ∧ (limiter.refill ask.now).tokens < ask.tokens ∧
        limiter.served ask = limiter.refill ask.now ∨
      limiter.answer ask = .ok true ∧ ask.tokens ≤ (limiter.refill ask.now).tokens ∧ 0 < ask.tokens ∧
        limiter.served ask =
          { limiter.refill ask.now with tokens := (limiter.refill ask.now).tokens - ask.tokens } := by
  unfold answer served tryAcquire
  by_cases inadmissible : ask.tokens ≤ 0 ∨ limiter.capacity < ask.tokens
  · rw [if_pos inadmissible]
    exact .inl ⟨⟨_, rfl⟩, rfl⟩
  · rw [if_neg inadmissible]
    dsimp only
    by_cases short : (limiter.refill ask.now).tokens < ask.tokens
    · rw [if_pos short]
      exact .inr (.inl ⟨rfl, short, rfl⟩)
    · rw [if_neg short]
      exact .inr (.inr ⟨rfl, not_lt.1 short, not_le.1 fun none_ => inadmissible (.inl none_), rfl⟩)

theorem grants_one : limiter.grants [ask] = if limiter.answer ask = .ok true then [ask] else [] := by
  rw [grants]
  cases answered : limiter.answer ask with
  | error _ => rfl
  | ok granted =>
      cases granted with
      | true => rfl
      | false => rfl

end One

/-! ## Runs -/

/-- What the bucket says of the calls it granted, since it was made. -/
structure Tracks (capacity rate start : Decimal) (granted : List Ask) (limiter : TokenBucketRateLimiter) :
    Prop where
  capacity_eq : limiter.capacity.1 = capacity
  rate_eq : limiter.refillPerSecond.1 = rate
  made : start ≤ limiter.lastRefill
  positive : 0 ≤ limiter.tokens
  most : limiter.tokens ≤ capacity
  past : ∀ ask ∈ granted, ask.now ≤ limiter.lastRefill
  bound : ∀ since ≤ limiter.lastRefill,
    limiter.tokens + tokensIn granted since limiter.lastRefill ≤ capacity + rate * (limiter.lastRefill - since)
  tight : ∃ since, start ≤ since ∧ since ≤ limiter.lastRefill ∧
    limiter.tokens + tokensIn granted since limiter.lastRefill = capacity + rate * (limiter.lastRefill - since)
  within : ∀ since until_, since ≤ until_ →
    tokensIn granted since until_ ≤ capacity + rate * (until_ - since)

section Runs

variable {capacity rate start now : Decimal} {granted : List Ask} {limiter : TokenBucketRateLimiter}

theorem Tracks.rate_pos (tracks : Tracks capacity rate start granted limiter) : 0 < rate :=
  tracks.rate_eq ▸ limiter.refillPerSecond.2

theorem Tracks.capacity_pos (tracks : Tracks capacity rate start granted limiter) : 0 < capacity :=
  tracks.capacity_eq ▸ limiter.capacity.2

theorem full_tracks (capacity rate : PositiveDecimal) (start : Decimal) :
    Tracks capacity rate start [] (full capacity rate start) where
  capacity_eq := rfl
  rate_eq := rfl
  made := le_refl _
  positive := capacity.2.le
  most := le_refl _
  past _ never := (List.not_mem_nil never).elim
  bound since before := by
    have refilled : 0 ≤ rate.1 * (start - since) := mul_nonneg rate.2.le (sub_nonneg.2 before)
    calc capacity.1 + tokensIn [] since start = capacity.1 := add_zero _
      _ ≤ capacity.1 + rate.1 * (start - since) := le_add_of_nonneg_right refilled
  tight := ⟨start, le_refl _, le_refl _, by
    calc capacity.1 + tokensIn [] start start = capacity.1 := add_zero _
      _ = capacity.1 + rate.1 * (start - start) := by rw [sub_self, mul_zero, add_zero]⟩
  within since until_ onward :=
    add_nonneg capacity.2.le (mul_nonneg rate.2.le (sub_nonneg.2 onward))

/-- Time passes. -/
theorem refill_tracks (tracks : Tracks capacity rate start granted limiter) (onward : limiter.lastRefill ≤ now) :
    Tracks capacity rate start granted (limiter.refill now) := by
  have passed : 0 ≤ (now - limiter.lastRefill) * rate := mul_nonneg (sub_nonneg.2 onward) tracks.rate_pos.le
  have tokens : (limiter.refill now).tokens =
      min capacity (limiter.tokens + (now - limiter.lastRefill) * rate) := by
    rw [← tracks.capacity_eq, ← tracks.rate_eq]
    rfl
  have same (since : Decimal) : tokensIn granted since now = tokensIn granted since limiter.lastRefill :=
    tokensIn_later tracks.past onward
  refine ⟨tracks.capacity_eq, tracks.rate_eq, tracks.made.trans onward, ?_, ?_,
    fun ask member => (tracks.past ask member).trans onward, fun since before => ?_, ?_, tracks.within⟩
  · rw [tokens]
    exact le_min tracks.capacity_pos.le (add_nonneg tracks.positive passed)
  · rw [tokens]
    exact min_le_left _ _
  · rcases le_or_gt since limiter.lastRefill with old | new
    · have known := tracks.bound since old
      have refilled : (limiter.refill now).tokens ≤ limiter.tokens + (now - limiter.lastRefill) * rate :=
        tokens ▸ min_le_right _ _
      calc (limiter.refill now).tokens + tokensIn granted since now
          ≤ limiter.tokens + (now - limiter.lastRefill) * rate + tokensIn granted since limiter.lastRefill := by
            rw [same]
            exact add_le_add_left refilled _
        _ ≤ capacity + rate * (limiter.lastRefill - since) + (now - limiter.lastRefill) * rate := by linarith
        _ = capacity + rate * (now - since) := by ring
    · -- Since the last call nothing was granted.
      have nothing : tokensIn granted since now = 0 :=
        tokensIn_past fun ask member => (tracks.past ask member).trans_lt new
      calc (limiter.refill now).tokens + tokensIn granted since now ≤ capacity := by
            rw [nothing, add_zero, tokens]
            exact min_le_left _ _
        _ ≤ capacity + rate * (now - since) :=
            le_add_of_nonneg_right (mul_nonneg tracks.rate_pos.le (sub_nonneg.2 before))
  · rcases le_or_gt (limiter.tokens + (now - limiter.lastRefill) * rate) capacity with room | full
    · obtain ⟨since, made, before, exact_⟩ := tracks.tight
      refine ⟨since, made, before.trans onward, ?_⟩
      calc (limiter.refill now).tokens + tokensIn granted since now
          = limiter.tokens + tokensIn granted since limiter.lastRefill + (now - limiter.lastRefill) * rate := by
            rw [tokens, min_eq_right room, same]
            ring
        _ = capacity + rate * (now - since) := by
            rw [exact_]
            ring
    · -- The bucket ran full, which takes time, and nothing was granted in it.
      have later : limiter.lastRefill < now := by
        refine lt_of_le_of_ne onward fun still => ?_
        rw [still, sub_self, zero_mul, add_zero] at full
        exact absurd tracks.most (not_le.2 full)
      have nothing : tokensIn granted now now = 0 :=
        tokensIn_past fun ask member => (tracks.past ask member).trans_lt later
      refine ⟨now, tracks.made.trans onward, le_refl _, ?_⟩
      calc (limiter.refill now).tokens + tokensIn granted now now = capacity := by
            rw [nothing, tokens, min_eq_left full.le, add_zero]
        _ = capacity + rate * (now - now) := by rw [sub_self, mul_zero, add_zero]

/-- A grant at the time of the last refill. -/
theorem grant_tracks {ask : Ask} (tracks : Tracks capacity rate start granted limiter)
    (here : limiter.lastRefill = ask.now) (enough : ask.tokens ≤ limiter.tokens) (some_ : 0 < ask.tokens) :
    Tracks capacity rate start (granted ++ [ask]) { limiter with tokens := limiter.tokens - ask.tokens } := by
  have counted {since : Decimal} (before : since ≤ limiter.lastRefill) :
      tokensIn (granted ++ [ask]) since limiter.lastRefill =
        tokensIn granted since limiter.lastRefill + ask.tokens := by
    rw [tokensIn_snoc, if_pos ⟨here ▸ before, here.ge⟩]
  have bound {since : Decimal} (before : since ≤ limiter.lastRefill) :
      limiter.tokens - ask.tokens + tokensIn (granted ++ [ask]) since limiter.lastRefill ≤
        capacity + rate * (limiter.lastRefill - since) := by
    rw [counted before]
    linarith [tracks.bound since before]
  have past : ∀ other ∈ granted ++ [ask], other.now ≤ limiter.lastRefill := fun other member => by
    rcases List.mem_append.1 member with old | new
    · exact tracks.past other old
    · rw [List.mem_singleton.1 new, here]
  refine ⟨tracks.capacity_eq, tracks.rate_eq, tracks.made, sub_nonneg.2 enough,
    (sub_le_self _ some_.le).trans tracks.most, past, fun since => bound, ?_, fun since until_ onward => ?_⟩
  · obtain ⟨since, made, before, exact_⟩ := tracks.tight
    refine ⟨since, made, before, ?_⟩
    calc limiter.tokens - ask.tokens + tokensIn (granted ++ [ask]) since limiter.lastRefill
        = limiter.tokens + tokensIn granted since limiter.lastRefill := by
          rw [counted before]
          ring
      _ = capacity + rate * (limiter.lastRefill - since) := exact_
  · by_cases inside : since ≤ ask.now ∧ ask.now ≤ until_
    · -- The interval holds the call, so it ends no earlier than the refill.
      have late : limiter.lastRefill ≤ until_ := here ▸ inside.2
      have left : 0 ≤ limiter.tokens - ask.tokens := sub_nonneg.2 enough
      have refilled : rate * (limiter.lastRefill - since) ≤ rate * (until_ - since) :=
        mul_le_mul_of_nonneg_left (sub_le_sub_right late _) tracks.rate_pos.le
      rw [tokensIn_later past late]
      linarith [bound (here ▸ inside.1)]
    · rw [tokensIn_snoc, if_neg inside, add_zero]
      exact tracks.within since until_ onward

theorem refill_lastRefill (limiter : TokenBucketRateLimiter) (now : Decimal) :
    (limiter.refill now).lastRefill = now := rfl

/-- A call keeps the tracks, and the clock it left behind is no later than its own. -/
theorem call_tracks {ask : Ask} (tracks : Tracks capacity rate start granted limiter)
    (onward : limiter.lastRefill ≤ ask.now) :
    Tracks capacity rate start (granted ++ limiter.grants [ask]) (limiter.served ask) ∧
      (limiter.served ask).lastRefill ≤ ask.now := by
  have refilled := refill_tracks tracks onward
  rw [grants_one]
  rcases served_cases limiter ask with ⟨⟨error, raised⟩, same⟩ | ⟨refused, _, after⟩ |
    ⟨given, enough, some_, after⟩
  · rw [raised, if_neg nofun, List.append_nil, same]
    exact ⟨tracks, onward⟩
  · rw [refused, if_neg nofun, List.append_nil, after]
    exact ⟨refilled, le_refl _⟩
  · rw [given, if_pos rfl, after]
    exact ⟨grant_tracks refilled rfl enough some_, le_refl _⟩

theorem after_tracks (capacity rate : PositiveDecimal) (start : Decimal) {asks : List Ask}
    (onward : (start :: asks.map Ask.now).Pairwise (· ≤ ·)) :
    Tracks capacity rate start ((full capacity rate start).grants asks) ((full capacity rate start).after asks) ∧
      ∀ now, (∀ time ∈ start :: asks.map Ask.now, time ≤ now) →
        ((full capacity rate start).after asks).lastRefill ≤ now := by
  induction asks using List.reverseRecOn with
  | nil => exact ⟨full_tracks capacity rate start, fun now reached => reached start List.mem_cons_self⟩
  | append_singleton asks last ih =>
      rw [List.map_append, List.map_singleton, ← List.cons_append] at onward
      obtain ⟨before, _, final⟩ := List.pairwise_append.1 onward
      obtain ⟨tracks, clock⟩ := ih before
      obtain ⟨kept, late⟩ := call_tracks tracks
        (clock last.now fun time member => final time member last.now List.mem_cons_self)
      rw [after_snoc, grants_snoc]
      refine ⟨kept, fun now reached => late.trans (reached last.now ?_)⟩
      rw [List.map_append]
      exact List.mem_cons_of_mem _ (List.mem_append_right _ List.mem_cons_self)

/-- **The request budget.** After any calls under a clock that does not run back, the tokens
are between nothing and the capacity, what was granted within any interval keeps to the capacity and
the refill of that interval, and a call is refused only where granting it would have exceeded this
for an interval that ends at the call. -/
theorem request_budget (capacity rate : PositiveDecimal) (start : Decimal) {asks : List Ask}
    (onward : (start :: asks.map Ask.now).Pairwise (· ≤ ·)) :
    (0 ≤ ((full capacity rate start).after asks).tokens ∧
        ((full capacity rate start).after asks).tokens ≤ capacity) ∧
      (∀ since until_, since ≤ until_ → tokensIn ((full capacity rate start).grants asks) since until_ ≤
        capacity + rate * (until_ - since)) ∧
      ∀ before ask rest, asks = before ++ ask :: rest →
        ((full capacity rate start).after before).answer ask = .ok false →
        ∃ since, start ≤ since ∧ since ≤ ask.now ∧ capacity + rate * (ask.now - since) <
          tokensIn ((full capacity rate start).grants before) since ask.now + ask.tokens := by
  obtain ⟨tracks, _⟩ := after_tracks capacity rate start onward
  refine ⟨⟨tracks.positive, tracks.most⟩, tracks.within, ?_⟩
  rintro before ask rest rfl refused
  rw [List.map_append, ← List.cons_append] at onward
  obtain ⟨earlier, _, final⟩ := List.pairwise_append.1 onward
  obtain ⟨tracks, clock⟩ := after_tracks capacity rate start earlier
  have refilled := refill_tracks tracks
    (clock ask.now fun time member => final time member ask.now List.mem_cons_self)
  rcases served_cases ((full capacity rate start).after before) ask with ⟨⟨error, raised⟩, _⟩ |
    ⟨_, short, _⟩ | ⟨given, _⟩
  · rw [raised] at refused
    cases refused
  · obtain ⟨since, made, reached, exact_⟩ := refilled.tight
    refine ⟨since, made, reached, ?_⟩
    rw [refill_lastRefill] at exact_
    linarith
  · rw [given] at refused
    cases refused

/-- Two requests at once, of which a bucket of three grants the first. -/
theorem request_budget_burst :
    ∃ since : Decimal, 0 ≤ since ∧ since ≤ 1 / 2 ∧ 3 + 1 * (1 / 2 - since) <
      tokensIn ((full ⟨3, by decide⟩ ⟨1, by decide⟩ 0).grants [⟨2, 1 / 2⟩]) since (1 / 2) + 2 :=
  (@request_budget ⟨3, by decide⟩ ⟨1, by decide⟩ 0 [⟨2, 1 / 2⟩, ⟨2, 1 / 2⟩] (by decide +kernel)).2.2
    [⟨2, 1 / 2⟩] ⟨2, 1 / 2⟩ [] rfl (by decide +kernel)

end Runs

end AlgoTrader.Core.TokenBucketRateLimiter
