/-
# Brokers.Nonces -- the order in which signed requests go out

A private Gemini call takes its nonce when it begins, signs it into the headers, and then
may wait: for a token of the rate limiter, in the HTTP client, or, after an answer of 429,
for the time the venue asks.  Other calls begin and go out meanwhile, and what is sent
again after a 429 is what was signed before.

* `Ordered.turn` -- nonces grow in the order in which calls begin, and a call's stage says
  whether it went out;
* `increasing_turn_iff` -- when one turn of the event loop keeps the nonces sent increasing;
* `nonces_increase_iff` -- so for every interleaving;
* `retried_repeats` -- a call that is refused with 429 sends its nonce twice.
-/
import AlgoTrader.Brokers.Json
import AlgoTrader.Core.Resilience

namespace AlgoTrader.Brokers.Nonces

open AlgoTrader.Core

set_option autoImplicit false

/-- What a private call signs: the body with the path and the nonce. -/
structure Payload where
  request : String
  nonce : Int
  body : List (String × Json)

/-- Where a call waits. -/
inductive Stage where
  /-- For a token; the task sleeps until `wakeAt`. -/
  | acquiring (deadline wakeAt : Decimal)
  /-- For an answer; until it goes out, the HTTP client has it in hand. -/
  | requesting (sent : Bool)
  /-- After an answer of 429. -/
  | backingOff (wakeAt : Decimal)
  | ended
  deriving DecidableEq

/-- A call under way. -/
structure Call where
  /-- What its headers were signed over, once for all attempts. -/
  signed : Option Payload
  attempt : Nat
  stage : Stage

def Call.nonce (call : Call) : Option Int := call.signed.map Payload.nonce

/-- What comes back from the HTTP client. -/
inductive Outcome where
  | timedOut
  | transportFailed
  /-- The status, and the seconds a Retry-After header states. -/
  | response (status : Nat) (retryAfter : Option Decimal)

structure ProviderHTTPClient where
  rateLimiter : TokenBucketRateLimiter
  circuitBreaker : CircuitBreaker
  max429Retries : Nat
  backoffBaseSeconds : NonNegativeDecimal
  maxBackoffSeconds : NonNegativeDecimal

namespace ProviderHTTPClient

/-- `acquire`, from one sleep to the next: the call is handed to the HTTP client, sleeps,
or ends with `RateLimitExceeded`. -/
def acquire (http : ProviderHTTPClient) (deadline now : Decimal) : Stage × ProviderHTTPClient :=
  match http.rateLimiter.tryAcquire 1 now with
  | .error _ => (.ended, http)
  | .ok (true, limiter) => (.requesting false, { http with rateLimiter := limiter })
  | .ok (false, limiter) =>
      (if deadline ≤ now then .ended
        else .acquiring deadline (now + min (1 / 20) (max (1 / 1000) (deadline - now))),
        { http with rateLimiter := limiter })

/-- One pass of `_request_once` up to its first await. -/
def enterAttempt (http : ProviderHTTPClient) (now : Decimal) : Stage × ProviderHTTPClient :=
  let (allowed, breaker) := http.circuitBreaker.allowRequest now
  let http := { http with circuitBreaker := breaker }
  if allowed then http.acquire (now + 5) now else (.ended, http)

def recordFailure (http : ProviderHTTPClient) (now : Decimal) : ProviderHTTPClient :=
  { http with circuitBreaker := http.circuitBreaker.recordFailure now }

def recordSuccess (http : ProviderHTTPClient) : ProviderHTTPClient :=
  { http with circuitBreaker := http.circuitBreaker.recordSuccess }

/-- `retry_after_seconds`. -/
def retryAfterSeconds (stated : Option Decimal) (fallback maximum : Decimal) : Decimal :=
  min maximum (max 0 (stated.getD fallback))

/-- What an answer does to a call in its attempt. -/
def receive (http : ProviderHTTPClient) (attempt : Nat) (outcome : Outcome) (now : Decimal) :
    Stage × ProviderHTTPClient :=
  match outcome with
  | .timedOut => (.ended, http.recordFailure now)
  | .transportFailed => (.ended, http.recordFailure now)
  | .response status retryAfter =>
      if status = 429 then
        if http.max429Retries ≤ attempt then (.ended, http.recordFailure now)
        else (.backingOff (now + retryAfterSeconds retryAfter
          (http.backoffBaseSeconds * 2 ^ attempt) http.maxBackoffSeconds), http)
      else if 500 ≤ status then (.ended, http.recordFailure now)
      else if status < 400 then (.ended, http.recordSuccess)
      else (.ended, http)

end ProviderHTTPClient

namespace Call

/-- A task whose sleep is over goes on. -/
def resume (call : Call) (http : ProviderHTTPClient) (now : Decimal) : Call × ProviderHTTPClient :=
  match call.stage with
  | .acquiring deadline wakeAt =>
      if wakeAt ≤ now then
        let (stage, http) := http.acquire deadline now
        ({ call with stage }, http)
      else (call, http)
  | .backingOff wakeAt =>
      if wakeAt ≤ now then
        let (stage, http) := http.enterAttempt now
        ({ call with attempt := call.attempt + 1, stage }, http)
      else (call, http)
  | _ => (call, http)

/-- The HTTP client is done with a call: with a response only if it sent the request. -/
def answer (call : Call) (http : ProviderHTTPClient) (outcome : Outcome) (now : Decimal) :
    Call × ProviderHTTPClient :=
  match call.stage, outcome with
  | .requesting false, .response .. => (call, http)
  | .requesting _, outcome =>
      let (stage, http) := http.receive call.attempt outcome now
      ({ call with stage }, http)
  | _, _ => (call, http)

end Call

/-- What the calls of a broker share, the calls in the order in which they began, and the
calls whose requests went out, oldest first. -/
structure GeminiBroker where
  credentials : Bool
  http : ProviderHTTPClient
  lastNonce : Int
  calls : List Call
  wire : List Nat

/-- One turn of the event loop. -/
inductive Turn where
  | beginPublic (now : Decimal)
  /-- The wall clock is in milliseconds. -/
  | beginPrivate (path : String) (body : List (String × Json)) (wallClock : Int) (now : Decimal)
  | resume (call : Nat) (now : Decimal)
  /-- The HTTP client writes a request to its connection. -/
  | send (call : Nat)
  | answer (call : Nat) (outcome : Outcome) (now : Decimal)
  | cancel (call : Nat)
  /-- Others use the limiter or the breaker, if these are shared. -/
  | others (limiter : TokenBucketRateLimiter) (breaker : CircuitBreaker)

namespace GeminiBroker

/-- `_next_nonce`. -/
def nextNonce (broker : GeminiBroker) (wallClock : Int) : Int :=
  max (broker.lastNonce + 1) wallClock

/-- A new call up to its first await. -/
def enter (broker : GeminiBroker) (signed : Option Payload) (now : Decimal) : GeminiBroker :=
  let (stage, http) := broker.http.enterAttempt now
  { broker with http, calls := broker.calls ++ [⟨signed, 0, stage⟩] }

/-- `_private`; without credentials it raises before a nonce is taken. -/
def beginPrivate (broker : GeminiBroker) (path : String) (body : List (String × Json))
    (wallClock : Int) (now : Decimal) : GeminiBroker :=
  if broker.credentials then
    let nonce := broker.nextNonce wallClock
    { broker with lastNonce := nonce }.enter (some ⟨path, nonce, body⟩) now
  else broker

/-- One call goes on. -/
def advance (broker : GeminiBroker) (index : Nat) (step : Call → Call × ProviderHTTPClient) :
    GeminiBroker :=
  match broker.calls[index]? with
  | none => broker
  | some call => { broker with http := (step call).2, calls := broker.calls.set index (step call).1 }

/-- A request the HTTP client has in hand goes out. -/
def send (broker : GeminiBroker) (index : Nat) : GeminiBroker :=
  match broker.calls[index]? with
  | none => broker
  | some call =>
      if call.stage = .requesting false then
        { broker with
          calls := broker.calls.set index { call with stage := .requesting true }
          wire := broker.wire ++ [index] }
      else broker

def turn (broker : GeminiBroker) : Turn → GeminiBroker
  | .beginPublic now => broker.enter none now
  | .beginPrivate path body wallClock now => broker.beginPrivate path body wallClock now
  | .resume index now => broker.advance index fun call => call.resume broker.http now
  | .send index => broker.send index
  | .answer index outcome now =>
      broker.advance index fun call => call.answer broker.http outcome now
  | .cancel index => broker.advance index fun call => ({ call with stage := .ended }, broker.http)
  | .others limiter breaker =>
      { broker with
        http := { broker.http with rateLimiter := limiter, circuitBreaker := breaker } }

def run (broker : GeminiBroker) (turns : List Turn) : GeminiBroker := turns.foldl turn broker

/-- A broker that made no call yet. -/
def start (credentials : Bool) (http : ProviderHTTPClient) (wallClock : Int) : GeminiBroker :=
  ⟨credentials, http, wallClock, [], []⟩

/-- The nonce of a call, if it is a private one. -/
def nonceOf (broker : GeminiBroker) (index : Nat) : Option Int :=
  broker.calls[index]?.bind Call.nonce

/-- The nonces of the requests that went out, oldest first. -/
def noncesSent (broker : GeminiBroker) : List Int := broker.wire.filterMap broker.nonceOf

/-! ## What each turn keeps -/

/-- What a call's stage says of whether its request went out. -/
def Placed (wire : List Nat) (index : Nat) (call : Call) : Prop :=
  match call.stage with
  | .acquiring .. => index ∈ wire ↔ 0 < call.attempt
  | .requesting false => index ∈ wire ↔ 0 < call.attempt
  | .requesting true => index ∈ wire
  | .backingOff _ => index ∈ wire
  | .ended => True

section Stages

variable {wire : List Nat} {index : Nat} {call : Call} {http : ProviderHTTPClient} {now : Decimal}

/-- A call that is let into an attempt waits for a token, or for the HTTP client, or ends. -/
theorem placed_acquire (deadline : Decimal) {signed : Option Payload} {attempt : Nat}
    (fits : index ∈ wire ↔ 0 < attempt) :
    Placed wire index ⟨signed, attempt, (http.acquire deadline now).1⟩ := by
  unfold ProviderHTTPClient.acquire
  split
  · trivial
  · exact fits
  · by_cases late : deadline ≤ now
    · simp [Placed, late]
    · simpa [Placed, late] using fits

theorem placed_enterAttempt {signed : Option Payload} {attempt : Nat}
    (fits : index ∈ wire ↔ 0 < attempt) :
    Placed wire index ⟨signed, attempt, (http.enterAttempt now).1⟩ := by
  unfold ProviderHTTPClient.enterAttempt
  dsimp only
  split
  · exact placed_acquire _ fits
  · trivial

theorem placed_resume (placed : Placed wire index call) :
    Placed wire index (call.resume http now).1 := by
  obtain ⟨signed, attempt, stage⟩ := call
  unfold Call.resume
  cases stage with
  | acquiring deadline wakeAt =>
    by_cases awake : wakeAt ≤ now
    · simp only [awake, if_true]
      exact placed_acquire deadline placed
    · simpa only [awake, if_false] using placed
  | requesting sent => exact placed
  | backingOff wakeAt =>
    by_cases awake : wakeAt ≤ now
    · simp only [awake, if_true]
      refine placed_enterAttempt ?_
      have out : index ∈ wire := placed
      simp [out]
    · simpa only [awake, if_false] using placed
  | ended => exact placed

theorem placed_answer {outcome : Outcome} (placed : Placed wire index call) :
    Placed wire index (call.answer http outcome now).1 := by
  obtain ⟨signed, attempt, stage⟩ := call
  cases stage with
  | acquiring deadline wakeAt => exact placed
  | backingOff wakeAt => exact placed
  | ended => exact placed
  | requesting sent =>
    cases outcome with
    | timedOut => cases sent <;> trivial
    | transportFailed => cases sent <;> trivial
    | response status retryAfter =>
      cases sent with
      | false => exact placed
      | true =>
        unfold Call.answer ProviderHTTPClient.receive
        dsimp only
        -- Only a 429 that may be tried again leaves the call under way.
        split
        · split
          · trivial
          · exact placed
        · split
          · trivial
          · split <;> trivial

@[simp] theorem resume_signed : (call.resume http now).1.signed = call.signed := by
  unfold Call.resume
  split
  · split <;> rfl
  · split <;> rfl
  · rfl

@[simp] theorem answer_signed {outcome : Outcome} :
    (call.answer http outcome now).1.signed = call.signed := by
  unfold Call.answer
  split <;> rfl

end Stages

/-- Nonces grow in the order in which calls begin; stages say what went out. -/
structure Ordered (broker : GeminiBroker) : Prop where
  below : ∀ index nonce, broker.nonceOf index = some nonce → nonce ≤ broker.lastNonce
  increasing : ∀ earlier later first second, earlier < later →
    broker.nonceOf earlier = some first → broker.nonceOf later = some second → first < second
  placed : ∀ index call, broker.calls[index]? = some call → Placed broker.wire index call
  known : ∀ index ∈ broker.wire, index < broker.calls.length

variable {broker : GeminiBroker}

theorem start_ordered (credentials : Bool) (http : ProviderHTTPClient) (wallClock : Int) :
    Ordered (start credentials http wallClock) := by
  constructor <;> simp [start, nonceOf]

/-- A call replaced by one that is signed alike. -/
theorem nonceOf_set {calls : List Call} {index : Nat} {call call' : Call}
    (here : calls[index]? = some call) (same : call'.signed = call.signed) (i : Nat) :
    (calls.set index call')[i]?.bind Call.nonce = calls[i]?.bind Call.nonce := by
  have inside := (List.getElem?_eq_some_iff.1 here).1
  by_cases at_ : index = i
  · subst at_
    rw [List.getElem?_set_self inside, here]
    simp [Call.nonce, same]
  · rw [List.getElem?_set_ne at_]

theorem nonceOf_advance {index : Nat} {step : Call → Call × ProviderHTTPClient}
    (signed : ∀ call, (step call).1.signed = call.signed) (i : Nat) :
    (broker.advance index step).nonceOf i = broker.nonceOf i := by
  unfold advance
  split
  · rfl
  · rename_i call here
    exact nonceOf_set here (signed call) i

theorem nonceOf_send (index i : Nat) : (broker.send index).nonceOf i = broker.nonceOf i := by
  unfold send
  split
  · rfl
  · rename_i call here
    split
    · have same : (Call.mk call.signed call.attempt (.requesting true)).signed = call.signed := rfl
      exact nonceOf_set here same i
    · rfl

/-- The new call comes last. -/
theorem nonceOf_enter (signed : Option Payload) (now : Decimal) (i : Nat) :
    (broker.enter signed now).nonceOf i =
      if i = broker.calls.length then signed.map Payload.nonce else broker.nonceOf i := by
  show (broker.calls ++ [_])[i]?.bind Call.nonce = _
  by_cases last : i = broker.calls.length
  · simp [last, Call.nonce]
  · rw [if_neg last]
    by_cases inside : i < broker.calls.length
    · rw [List.getElem?_append_left inside]
      rfl
    · have past : (broker.calls ++ [Call.mk signed 0 (broker.http.enterAttempt now).1]).length ≤ i := by
        rw [List.length_append]
        exact Nat.succ_le_of_lt (lt_of_le_of_ne (not_lt.1 inside) (Ne.symm last))
      have beyond : broker.calls[i]? = none := List.getElem?_eq_none (not_lt.1 inside)
      show (broker.calls ++ [Call.mk signed 0 (broker.http.enterAttempt now).1])[i]?.bind _ = _
      rw [List.getElem?_eq_none past]
      simp [nonceOf, beyond]

theorem Ordered.advance (ordered : Ordered broker) {index : Nat}
    {step : Call → Call × ProviderHTTPClient}
    (signed : ∀ call, (step call).1.signed = call.signed)
    (places : ∀ call, Placed broker.wire index call → Placed broker.wire index (step call).1) :
    Ordered (broker.advance index step) := by
  have nonces (i : Nat) : (broker.advance index step).nonceOf i = broker.nonceOf i :=
    nonceOf_advance signed i
  unfold GeminiBroker.advance at nonces ⊢
  split
  · exact ordered
  · rename_i call here
    simp only [here] at nonces
    constructor
    · intro i nonce is
      exact ordered.below i nonce (nonces i ▸ is)
    · intro earlier later first second before is is'
      exact ordered.increasing earlier later first second before (nonces _ ▸ is) (nonces _ ▸ is')
    · intro i other there
      by_cases at_ : index = i
      · subst at_
        have inside := (List.getElem?_eq_some_iff.1 here).1
        rw [List.getElem?_set_self inside] at there
        cases there
        exact places call (ordered.placed index call here)
      · rw [List.getElem?_set_ne at_] at there
        exact ordered.placed i other there
    · intro i out
      show i < (broker.calls.set index _).length
      simpa using ordered.known i out

theorem lt_of_nonceOf {index : Nat} {nonce : Int} (is : broker.nonceOf index = some nonce) :
    index < broker.calls.length := by
  by_contra past
  simp [nonceOf, not_lt.1 past] at is

/-- A new call: its nonce is newer than those before. -/
theorem Ordered.enter (ordered : Ordered broker) {lastNonce : Int} {signed : Option Payload}
    (grown : broker.lastNonce ≤ lastNonce)
    (newer : ∀ nonce, signed.map Payload.nonce = some nonce →
      broker.lastNonce < nonce ∧ nonce ≤ lastNonce) (now : Decimal) :
    Ordered ({ broker with lastNonce := lastNonce }.enter signed now) := by
  have nonces : ∀ i, ({ broker with lastNonce := lastNonce }.enter signed now).nonceOf i =
      if i = broker.calls.length then signed.map Payload.nonce else broker.nonceOf i :=
    nonceOf_enter signed now
  constructor
  · intro i nonce is
    rw [nonces] at is
    split at is
    · exact (newer nonce is).2
    · exact le_trans (ordered.below i nonce is) grown
  · intro earlier later first second before is is'
    rw [nonces] at is is'
    split at is'
    · rw [if_neg (by omega)] at is
      exact lt_of_le_of_lt (ordered.below earlier first is) (newer second is').1
    · have inside := lt_of_nonceOf is'
      rw [if_neg (by omega)] at is
      exact ordered.increasing earlier later first second before is is'
  · intro i call there
    obtain inside | last := lt_or_ge i broker.calls.length
    · apply ordered.placed i call
      rw [← there]
      exact (List.getElem?_append_left inside).symm
    · -- The call that begins: it is in its first attempt, and nothing of it went out.
      have out : i ∉ broker.wire := fun member => absurd (ordered.known i member) (by omega)
      have there' : (broker.calls ++ [⟨signed, 0, (broker.http.enterAttempt now).1⟩])[i]? =
          some call := there
      rw [List.getElem?_append_right last, List.getElem?_singleton] at there'
      split at there'
      swap
      · cases there'
      cases there'
      have fits : i ∈ broker.wire ↔ 0 < 0 := by simpa using out
      exact placed_enterAttempt fits
  · intro i out
    show i < (broker.calls ++ [_]).length
    have := ordered.known i out
    simp
    omega

theorem Ordered.send (ordered : Ordered broker) (index : Nat) : Ordered (broker.send index) := by
  have nonces (i : Nat) : (broker.send index).nonceOf i = broker.nonceOf i := nonceOf_send index i
  unfold GeminiBroker.send at nonces ⊢
  split
  · exact ordered
  · rename_i call here
    split
    · rename_i inHand
      simp only [here, inHand, if_true] at nonces
      have inside := (List.getElem?_eq_some_iff.1 here).1
      constructor
      · intro i nonce is
        exact ordered.below i nonce (nonces i ▸ is)
      · intro earlier later first second before is is'
        exact ordered.increasing earlier later first second before (nonces _ ▸ is) (nonces _ ▸ is')
      · intro i other there
        by_cases at_ : index = i
        · subst at_
          rw [List.getElem?_set_self inside] at there
          cases there
          show index ∈ broker.wire ++ [index]
          simp
        · rw [List.getElem?_set_ne at_] at there
          have placed := ordered.placed i other there
          have alike : i ∈ broker.wire ++ [index] ↔ i ∈ broker.wire := by simp [Ne.symm at_]
          unfold Placed at placed ⊢
          split <;> simp_all
      · intro i out
        show i < (broker.calls.set index _).length
        obtain old | rfl : i ∈ broker.wire ∨ i = index := by simpa using out
        · simpa using ordered.known i old
        · simpa using inside
    · exact ordered

/-- **One turn.** -/
theorem Ordered.turn (ordered : Ordered broker) (t : Turn) : Ordered (broker.turn t) := by
  cases t with
  | beginPublic now => exact ordered.enter (le_refl _) (by simp) now
  | beginPrivate path body wallClock now =>
    show Ordered (broker.beginPrivate path body wallClock now)
    unfold beginPrivate
    split
    · have grown : broker.lastNonce < broker.nextNonce wallClock := by
        unfold nextNonce
        omega
      refine ordered.enter grown.le ?_ now
      intro nonce is
      cases is
      exact ⟨grown, le_refl _⟩
    · exact ordered
  | resume index now =>
    exact ordered.advance (fun _ => resume_signed) fun _ placed => placed_resume placed
  | send index => exact ordered.send index
  | answer index outcome now =>
    exact ordered.advance (fun _ => answer_signed) fun _ placed => placed_answer placed
  | cancel index => exact ordered.advance (fun _ => rfl) fun _ _ => trivial
  | others limiter breaker =>
    exact ⟨ordered.below, ordered.increasing, ordered.placed, ordered.known⟩

/-! ## When the nonces sent increase -/

/-- The venue takes them all. -/
def Increasing (broker : GeminiBroker) : Prop := broker.noncesSent.Pairwise (· < ·)

/-- A private request goes out in the first attempt of its call, and before any request of
a private call that began later. -/
def InTurn (broker : GeminiBroker) : Turn → Prop
  | .send index => ∀ call, broker.calls[index]? = some call → call.stage = .requesting false →
      call.nonce.isSome → call.attempt = 0 ∧
        ∀ later ∈ broker.wire, index < later → broker.nonceOf later = none
  | _ => True

/-- Every turn is. -/
def EachInTurn (broker : GeminiBroker) : List Turn → Prop
  | [] => True
  | t :: turns => InTurn broker t ∧ EachInTurn (broker.turn t) turns

/-- A turn in which nothing goes out. -/
theorem noncesSent_same {after : GeminiBroker} (wire : after.wire = broker.wire)
    (nonces : ∀ i ∈ broker.wire, after.nonceOf i = broker.nonceOf i) :
    after.noncesSent = broker.noncesSent := by
  unfold noncesSent
  rw [wire]
  exact List.filterMap_congr nonces

theorem advance_wire (index : Nat) (step : Call → Call × ProviderHTTPClient) :
    (broker.advance index step).wire = broker.wire := by
  unfold GeminiBroker.advance
  split <;> rfl

theorem mem_noncesSent {nonce : Int} :
    nonce ∈ broker.noncesSent ↔ ∃ i ∈ broker.wire, broker.nonceOf i = some nonce :=
  List.mem_filterMap

/-- A request that goes out with a nonce: larger than all before it exactly when its turn
has come. -/
theorem newest_iff (ordered : Ordered broker) {index : Nat} {call : Call} {nonce : Int}
    (here : broker.calls[index]? = some call) (inHand : call.stage = .requesting false)
    (is : call.nonce = some nonce) :
    (∀ earlier ∈ broker.noncesSent, earlier < nonce) ↔
      call.attempt = 0 ∧ ∀ later ∈ broker.wire, index < later → broker.nonceOf later = none := by
  have own : broker.nonceOf index = some nonce := by simp [nonceOf, here, is]
  have out : index ∈ broker.wire ↔ 0 < call.attempt := by
    have placed := ordered.placed index call here
    rw [Placed, inHand] at placed
    exact placed
  constructor
  · intro newest
    constructor
    · by_contra again
      have sent : index ∈ broker.wire := out.2 (by omega)
      exact lt_irrefl _ (newest nonce (mem_noncesSent.2 ⟨index, sent, own⟩))
    · intro later sent after
      cases theirs : broker.nonceOf later with
      | none => rfl
      | some second =>
        have less := newest second (mem_noncesSent.2 ⟨later, sent, theirs⟩)
        have more := ordered.increasing index later nonce second after own theirs
        omega
  · rintro ⟨first, none_⟩ earlier member
    obtain ⟨i, sent, theirs⟩ := mem_noncesSent.1 member
    obtain before | rfl | after := lt_trichotomy i index
    · exact ordered.increasing i index earlier nonce before theirs own
    · have := out.1 sent
      omega
    · rw [none_ i sent after] at theirs
      cases theirs

theorem noncesSent_enter (known : ∀ i ∈ broker.wire, i < broker.calls.length)
    (signed : Option Payload) (now : Decimal) :
    (broker.enter signed now).noncesSent = broker.noncesSent := by
  refine noncesSent_same rfl fun i out => ?_
  have := known i out
  rw [nonceOf_enter, if_neg (by omega)]

theorem noncesSent_advance (index : Nat) {step : Call → Call × ProviderHTTPClient}
    (signed : ∀ call, (step call).1.signed = call.signed) :
    (broker.advance index step).noncesSent = broker.noncesSent :=
  noncesSent_same (advance_wire index step) fun i _ => nonceOf_advance signed i

/-- What goes out comes last. -/
theorem noncesSent_send {index : Nat} {call : Call} (here : broker.calls[index]? = some call)
    (inHand : call.stage = .requesting false) :
    (broker.send index).noncesSent = broker.noncesSent ++ call.nonce.toList := by
  have wire : (broker.send index).wire = broker.wire ++ [index] := by simp [send, here, inHand]
  have nonces : (broker.send index).nonceOf = broker.nonceOf := funext (nonceOf_send index)
  have own : broker.nonceOf index = call.nonce := by simp [nonceOf, here]
  unfold noncesSent
  rw [wire, nonces, List.filterMap_append]
  cases is : call.nonce <;> simp [own, is]

/-- A turn that sends nothing is in turn. -/
theorem unchanged_iff {t : Turn} (same : (broker.turn t).noncesSent = broker.noncesSent)
    (inTurn : InTurn broker t) :
    Increasing (broker.turn t) ↔ Increasing broker ∧ InTurn broker t := by
  unfold Increasing
  rw [same]
  exact (and_iff_left inTurn).symm

/-- **One turn** keeps the nonces increasing exactly when what it sends is in turn. -/
theorem increasing_turn_iff (ordered : Ordered broker) (t : Turn) :
    Increasing (broker.turn t) ↔ Increasing broker ∧ InTurn broker t := by
  cases t with
  | beginPublic now => exact unchanged_iff (noncesSent_enter ordered.known none now) trivial
  | beginPrivate path body wallClock now =>
    refine unchanged_iff ?_ trivial
    show (broker.beginPrivate path body wallClock now).noncesSent = _
    unfold beginPrivate
    split
    · exact noncesSent_enter ordered.known _ now
    · rfl
  | resume index now =>
    exact unchanged_iff (noncesSent_advance index fun _ => resume_signed) trivial
  | answer index outcome now =>
    exact unchanged_iff (noncesSent_advance index fun _ => answer_signed) trivial
  | cancel index => exact unchanged_iff (noncesSent_advance index fun _ => rfl) trivial
  | others limiter breaker => exact unchanged_iff rfl trivial
  | send index =>
    cases here : broker.calls[index]? with
    | none =>
      refine unchanged_iff ?_ fun call there => ?_
      · show (broker.send index).noncesSent = _
        simp [send, here]
      · simp [here] at there
    | some call =>
      by_cases inHand : call.stage = .requesting false
      · cases is : call.nonce with
        | none =>
          refine unchanged_iff ?_ fun other there _ signed => ?_
          · show (broker.send index).noncesSent = _
            simp [noncesSent_send here inHand, is]
          · rw [here] at there
            cases there
            simp [is] at signed
        | some nonce =>
          have inTurn : InTurn broker (.send index) ↔ ∀ earlier ∈ broker.noncesSent, earlier < nonce := by
            rw [newest_iff ordered here inHand is]
            simp [InTurn, here, inHand, is]
          show (broker.send index).noncesSent.Pairwise (· < ·) ↔ _
          rw [noncesSent_send here inHand, is, inTurn]
          simp [List.pairwise_append, Increasing]
      · refine unchanged_iff ?_ fun other there other_ => ?_
        · show (broker.send index).noncesSent = _
          simp [send, here, inHand]
        · rw [here] at there
          cases there
          exact absurd other_ inHand

theorem increasing_run_iff (ordered : Ordered broker) (turns : List Turn) :
    Increasing (broker.run turns) ↔ Increasing broker ∧ EachInTurn broker turns := by
  induction turns generalizing broker with
  | nil => exact (and_iff_left trivial).symm
  | cons t turns ih =>
    show Increasing ((broker.turn t).run turns) ↔ _
    rw [ih (ordered.turn t), increasing_turn_iff ordered t]
    simp [EachInTurn, and_assoc]

/-- **Every interleaving.**  The nonces that go out increase exactly when every private
request goes out in its call's first attempt, and none after one that began later. -/
theorem nonces_increase_iff (credentials : Bool) (http : ProviderHTTPClient) (wallClock : Int)
    (turns : List Turn) :
    Increasing ((start credentials http wallClock).run turns) ↔
      EachInTurn (start credentials http wallClock) turns := by
  rw [increasing_run_iff (start_ordered ..)]
  simp [Increasing, noncesSent, start]

/-! ## A call that is sent again -/

theorem backoff_nonneg : (0 : Decimal) ≤ 1 / 4 ∧ (0 : Decimal) ≤ 2 := by decide +kernel

/-- `ProviderHTTPClient()`. -/
def standardClient (now : Decimal) : ProviderHTTPClient where
  rateLimiter := .full ⟨5, by decide⟩ ⟨5, by decide⟩ now
  circuitBreaker := ⟨3, ⟨30, by decide⟩, .closed, 0, none⟩
  max429Retries := 2
  backoffBaseSeconds := ⟨1 / 4, backoff_nonneg.1⟩
  maxBackoffSeconds := ⟨2, backoff_nonneg.2⟩

/-- One call; the venue answers 429, and the call goes on a second later. -/
def refusedOnce : List Turn :=
  [.beginPrivate "/v1/balances" [] 1000 0, .send 0, .answer 0 (.response 429 none) 0,
    .resume 0 1, .send 0]

/-- No other call is needed: what is sent again has the nonce it had. -/
theorem retried_repeats : ¬Increasing ((start true (standardClient 0) 999).run refusedOnce) := by
  have sent : ((start true (standardClient 0) 999).run refusedOnce).noncesSent = [1000, 1000] := by
    decide +kernel
  simp [Increasing, sent]

/-- A limiter of one token: a third call begins when the token is back, before the second
wakes. -/
def overtaken : List Turn :=
  [.beginPrivate "/v1/balances" [] 1000 0, .send 0, .beginPrivate "/v1/balances" [] 1000 0,
    .beginPrivate "/v1/balances" [] 1001 1, .send 2, .resume 1 2, .send 1]

example : ((start true { standardClient 0 with
    rateLimiter := .full ⟨1, by decide⟩ ⟨1, by decide⟩ 0 } 999).run overtaken).noncesSent =
      [1000, 1002, 1001] := by
  decide +kernel

end GeminiBroker

end AlgoTrader.Brokers.Nonces
