/-
# Brokers.Retries -- when a request is sent again

`request_json` makes one or two passes, each of them a loop over the attempts of
`_request_once`.  Before every send the circuit breaker and the rate limiter may refuse; between
two awaits other tasks use both, so what is found there is left open, and so is every answer.

* `Tried` -- the sends of one pass: each but the last was answered with 429;
* `requestOnce_tried` -- by induction on the attempts that are left;
* `Passes` -- a second pass follows only a 401, with credentials asked for again;
* `request_json_sends` -- which sends there are, and which of them is reported.
-/
import AlgoTrader.Core.Text
import AlgoTrader.Theory.Dict
import AlgoTrader.Theory.Frames
import AlgoTrader.Brokers.Nonces

namespace AlgoTrader.Brokers.Retries

open AlgoTrader.Core AlgoTrader.Theory
open AlgoTrader.Brokers.Nonces.ProviderHTTPClient (retryAfterSeconds)

set_option autoImplicit false

abbrev Headers : Type := Dict String String

/-- What the HTTP client answers. -/
structure Response where
  statusCode : Int
  /-- The seconds a Retry-After header states. -/
  retryAfter : Option Decimal
  /-- `_json(response)`. -/
  payload : Json

inductive Raised where
  | circuitOpen (message : String)
  | rateLimitExceeded (message : String)
  | valueError (message : String)
  /-- What the HTTP client raises: `httpx.TimeoutException` or `TimeoutError`, another
  `httpx.HTTPError`, or anything else. -/
  | clientTimeout
  | clientFailure
  | client (exc : Exc)
  | providerTimeout (message : String)
  | provider (message : String)
  | providerHttp (statusCode : Int) (message : String) (payload : Json) (path : String)
  | assertion (message : String)

/-- What one call of `request_json` is given. -/
structure Request where
  method : String
  url : String
  /-- `urlsplit(url).path`. -/
  path : String
  headers : Headers
  params : List (String × Json)
  json : Option Json
  /-- `auth_headers is not None`, and `refresh_auth is not None`. -/
  authHeaders : Bool
  refreshAuth : Bool

/-- `request_headers.update(...)`. -/
def Request.signedBy (request : Request) (credentials : Headers) : Headers :=
  credentials.entries.foldl (fun headers entry => headers.set entry.1 entry.2) request.headers

structure Settings where
  max429Retries : Nat
  backoffBaseSeconds : NonNegativeDecimal
  maxBackoffSeconds : NonNegativeDecimal

/-- `endpoint_path`. -/
def endpointPath (path : String) : String :=
  let segments := (path.toList.splitOn '/').map fun segment =>
    if 16 ≤ segment.length ∧ segment.any Text.isDigit then ":id".toList else segment
  String.ofList ((['/'].intercalate segments).take 120)

/-! ## The calls -/

inductive Op where
  | authHeaders (force : Bool)
  | refreshAuth
  | beforeRequest
  | acquire
  | send (request : Request) (headers : Headers)
  | recordFailure
  | recordSuccess
  | sleep (seconds : Decimal)

def Http : Signature where
  Op := Op
  Reply
    | .authHeaders _ => Headers
    | .send .. => Response
    | _ => Unit

abbrev Program (α : Type) : Type := Prog Http Raised α

def authHeaders (force : Bool) : Program Headers := Prog.call (S := Http) (.authHeaders force)

def refreshAuth : Program Unit := Prog.call (S := Http) .refreshAuth

def beforeRequest : Program Unit := Prog.call (S := Http) .beforeRequest

def acquire : Program Unit := Prog.call (S := Http) .acquire

def send (request : Request) (headers : Headers) : Program Response :=
  Prog.call (S := Http) (.send request headers)

def recordFailure : Program Unit := Prog.call (S := Http) .recordFailure

def recordSuccess : Program Unit := Prog.call (S := Http) .recordSuccess

def sleep (seconds : Decimal) : Program Unit := Prog.call (S := Http) (.sleep seconds)

section Code

variable (settings : Settings) (request : Request)

/-- What an attempt does with a response; another attempt is `again`. -/
def receive (attempt : Nat) (response : Response) (again : Program Json) : Program Json :=
  if response.statusCode = 429 then
    if settings.max429Retries ≤ attempt then do
      recordFailure
      .raise (.providerHttp 429 "provider rate limit persisted" response.payload (endpointPath request.path))
    else do
      sleep (retryAfterSeconds response.retryAfter (settings.backoffBaseSeconds * 2 ^ attempt)
        settings.maxBackoffSeconds)
      again
  else do
    Prog.when (500 ≤ response.statusCode) recordFailure
    Prog.when (response.statusCode < 400) recordSuccess
    if 400 ≤ response.statusCode then
      .raise (.providerHttp response.statusCode s!"provider returned HTTP {response.statusCode}"
        response.payload (endpointPath request.path))
    else pure response.payload

/-- The `except` clauses of an attempt, and what follows them. -/
def conclude (attempt : Nat) (answered : Except Raised Response) (again : Program Json) : Program Json :=
  match answered with
  | .error .clientTimeout => do
      recordFailure
      .raise (.providerTimeout "provider request timed out")
  | .error .clientFailure => do
      recordFailure
      .raise (.provider "provider transport failed")
  | .error error => .raise error
  | .ok response => receive settings request attempt response again

/-- `_request_once`, for the attempts that are left. -/
def requestOnce (headers : Headers) : List Nat → Program Json
  | [] => .raise (.assertion "unreachable")
  | attempt :: rest => do
      beforeRequest
      let answered ← (do acquire; send request headers).attempt
      conclude settings request attempt answered (requestOnce headers rest)

/-- The headers of a pass. -/
def signed (force : Bool) : Program Headers := do
  if request.authHeaders then
    let credentials ← authHeaders force
    pure (request.signedBy credentials)
  else pure request.headers

/-- The passes of `request_json` that are left, after `authAttempt` refreshes. -/
def passes : Nat → Nat → Program Json
  | 0, _ => .raise (.assertion "unreachable")
  | left + 1, authAttempt => do
      let headers ← signed request (0 < authAttempt)
      match ← (requestOnce settings request headers (List.range (settings.max429Retries + 1))).attempt with
      | .ok payload => pure payload
      | .error (.providerHttp statusCode message payload path) =>
          if statusCode ≠ 401 ∨ request.authHeaders = false ∨ authAttempt ≠ 0 then
            .raise (.providerHttp statusCode message payload path)
          else do
            Prog.when request.refreshAuth refreshAuth
            passes left (authAttempt + 1)
      | .error error => .raise error

/-- `request_json`. -/
def requestJson : Program Json := passes settings request (if request.authHeaders then 2 else 1) 0

end Code

/-! ## What may be answered -/

/-- The circuit breaker, and the time. -/
structure Shared where
  breaker : CircuitBreaker
  now : Decimal

/-- An error of the rate limiter. -/
def Raised.ofLimiter : Raised → Bool
  | .rateLimitExceeded _ | .valueError _ => true
  | _ => false

/-- An error of the HTTP client. -/
def Raised.ofClient : Raised → Bool
  | .clientTimeout | .clientFailure | .client _ => true
  | _ => false

/-- The credentials and the sleeps come back; the limiter and the client may fail.  Other tasks run
at every await, and nowhere else. -/
def serve : Service Http Raised Shared
  | .authHeaders _, before, reply, after => (∃ headers, reply = .ok headers) ∧ after = before
  | .refreshAuth, before, reply, after => reply = .ok () ∧ after = before
  | .beforeRequest, before, reply, after =>
      let (allowed, breaker) := before.breaker.allowRequest before.now
      reply = (if allowed then .ok () else .error (.circuitOpen "provider circuit is open")) ∧
        after = { before with breaker }
  | .acquire, _, reply, _ => ∀ error, reply = .error error → error.ofLimiter
  | .send .., _, reply, _ => ∀ error, reply = .error error → error.ofClient
  | .recordFailure, before, reply, after =>
      reply = .ok () ∧ after = { before with breaker := before.breaker.recordFailure before.now }
  | .recordSuccess, before, reply, after =>
      reply = .ok () ∧ after = { before with breaker := before.breaker.recordSuccess }
  | .sleep _, _, reply, _ => reply = .ok ()

abbrev Point : Type := Moment Http Raised Shared

/-! ## Sends -/

/-- One request that went out, and what came of it. -/
structure Send where
  request : Request
  headers : Headers
  reply : Except Raised Response

def Send.Answered (send : Send) (statusCode : Int) : Prop :=
  ∃ response, send.reply = .ok response ∧ response.statusCode = statusCode

def sendOf (e : Event Http Raised Shared) : Option Send :=
  match e with
  | ⟨.send request headers, reply, _, _⟩ => some ⟨request, headers, reply⟩
  | _ => none

/-- The sends so far, in order. -/
def sends (m : Point) : List Send := (m.events.filterMap sendOf).reverse

theorem sends_push (m : Point) (op : Http.Op) (reply : Except Raised (Http.Reply op)) (after : Shared) :
    sends (m.push op reply after) = sends m ++ (sendOf ⟨op, reply, m.world, after⟩).toList := by
  rw [sends, Moment.push_events, List.filterMap_cons]
  cases sendOf ⟨op, reply, m.world, after⟩ with
  | none => exact (List.append_nil _).symm
  | some send => exact List.reverse_cons

/-- What `request_json` makes of its last send. -/
def reported (request : Request) : Except Raised Response → Except Raised Json
  | .ok response =>
      if response.statusCode = 429 then
        .error (.providerHttp 429 "provider rate limit persisted" response.payload (endpointPath request.path))
      else if 400 ≤ response.statusCode then
        .error (.providerHttp response.statusCode s!"provider returned HTTP {response.statusCode}"
          response.payload (endpointPath request.path))
      else .ok response.payload
  | .error .clientTimeout => .error (.providerTimeout "provider request timed out")
  | .error .clientFailure => .error (.provider "provider transport failed")
  | .error error => .error error

/-- The circuit breaker or the rate limiter refused the next send. -/
def Refused (result : Except Raised Json) : Prop :=
  ∃ error, result = .error error ∧
    (error = .circuitOpen "provider circuit is open" ∨ error.ofLimiter = true)

/-- The sends of one pass with so many attempts, and how it ends. -/
inductive Tried (request : Request) (headers : Headers) : Nat → List Send → Except Raised Json → Prop
  | refused {left : Nat} {result : Except Raised Json} (refused : Refused result) :
      Tried request headers (left + 1) [] result
  | answered {left : Nat} {reply : Except Raised Response}
      (client : ∀ error, reply = .error error → error.ofClient) :
      Tried request headers (left + 1) [⟨request, headers, reply⟩] (reported request reply)
  | limited {left : Nat} {response : Response} {rest : List Send} {result : Except Raised Json}
      (status : response.statusCode = 429) (more : Tried request headers left rest result) :
      Tried request headers (left + 1) (⟨request, headers, .ok response⟩ :: rest) result

section Tried

variable {request : Request} {headers : Headers} {left : Nat} {made : List Send} {result : Except Raised Json}

theorem Tried.few (tried : Tried request headers left made result) : made.length ≤ left := by
  induction tried with
  | refused _ => exact Nat.zero_le _
  | answered _ => exact Nat.succ_le_succ (Nat.zero_le _)
  | limited _ _ ih => exact Nat.succ_le_succ ih

theorem Tried.same (tried : Tried request headers left made result) :
    ∀ send ∈ made, send.request = request ∧ send.headers = headers := by
  induction tried with
  | refused _ => exact fun send never => (List.not_mem_nil never).elim
  | answered _ => exact List.forall_mem_singleton.2 ⟨rfl, rfl⟩
  | limited _ _ ih => exact List.forall_mem_cons.2 ⟨⟨rfl, rfl⟩, ih⟩

/-- Every send that another one follows was answered with 429. -/
theorem Tried.followed (tried : Tried request headers left made result) :
    ∀ send ∈ made.dropLast, send.Answered 429 := by
  induction tried with
  | refused _ => exact fun send never => (List.not_mem_nil never).elim
  | answered _ => exact fun send never => (List.not_mem_nil never).elim
  | @limited _ response rest _ status _ ih =>
      intro send member
      cases rest with
      | nil => exact (List.not_mem_nil member).elim
      | cons next rest =>
          rw [List.dropLast_cons_cons] at member
          rcases List.mem_cons.1 member with rfl | later
          · exact ⟨response, rfl, status⟩
          · exact ih send later

/-- The next send was refused, and all before were answered with 429; or the last is reported. -/
theorem Tried.ends (tried : Tried request headers left made result) :
    (Refused result ∧ ∀ send ∈ made, send.Answered 429) ∨
      ∃ last, made.getLast? = some last ∧ result = reported request last.reply ∧
        ∀ error, last.reply = .error error → error.ofClient := by
  induction tried with
  | refused refused => exact .inl ⟨refused, fun send never => (List.not_mem_nil never).elim⟩
  | answered client => exact .inr ⟨_, rfl, rfl, client⟩
  | @limited _ response rest _ status _ ih =>
      rcases ih with ⟨refused, before⟩ | ⟨last, is, rest⟩
      · exact .inl ⟨refused, List.forall_mem_cons.2 ⟨⟨response, rfl, status⟩, before⟩⟩
      · exact .inr ⟨last, by rw [List.getLast?_cons, is]; rfl, rest⟩

/-- A pass that ends with a 401 got it from its last send. -/
theorem Tried.unauthorized {message path : String} {payload : Json}
    (tried : Tried request headers left made (.error (.providerHttp 401 message payload path))) :
    ∃ last, made.getLast? = some last ∧ last.Answered 401 := by
  rcases tried.ends with ⟨⟨error, same, circuit | limiter⟩, _⟩ | ⟨last, is, same, client⟩
  · cases same
    cases circuit
  · cases same
    cases limiter
  · refine ⟨last, is, ?_⟩
    cases reply : last.reply with
    | error error =>
        rw [reply] at same
        have kind := client error reply
        cases error with
        | clientTimeout => cases same
        | clientFailure => cases same
        | client exc => cases same
        | _ => cases kind
    | ok response =>
        rw [reply, reported] at same
        split at same
        · cases same
        · split at same
          · exact ⟨response, reply, (Raised.providerHttp.inj (Except.error.inj same)).1.symm⟩
          · cases same

end Tried

/-! ## One pass -/

section Pass

variable {settings : Settings} {request : Request} {headers : Headers}

abbrev Meets {α : Type} (post : Except Raised α → Point → Prop) (p : Program α) (m : Point) : Prop :=
  wp (Contract.plain serve fun _ => True).logic post p m

/-- A run from `m` that makes these sends. -/
def TriedFrom (request : Request) (headers : Headers) (left : Nat) (m : Point)
    (result : Except Raised Json) (m' : Point) : Prop :=
  ∃ made, Tried request headers left made result ∧ sends m' = sends m ++ made

/-- A call that sends nothing and comes back. -/
theorem meets_silent {β : Type} {op : Http.Op} {f : Http.Reply op → Program β}
    {post : Except Raised β → Point → Prop} {m : Point}
    (silent : ∀ reply before after, sendOf ⟨op, reply, before, after⟩ = none)
    (comes : ∀ reply after, serve op m.world reply after → ∃ value, reply = .ok value)
    (rest : ∀ value m', sends m' = sends m → Meets post (f value) m') :
    Meets post (Prog.call op >>= f) m := by
  refine wp_bind.2 (wp_served fun reply after served _ => ?_)
  obtain ⟨value, rfl⟩ := comes reply after served
  refine rest value _ ?_
  rw [sends_push, silent, Option.toList_none, List.append_nil]

theorem meets_recordFailure {β : Type} {f : Unit → Program β} {post : Except Raised β → Point → Prop} {m : Point}
    (rest : ∀ m', sends m' = sends m → Meets post (f ()) m') : Meets post (recordFailure >>= f) m :=
  meets_silent (fun _ _ _ => rfl) (fun _ _ served => ⟨(), served.1⟩) fun _ => rest

theorem meets_recordSuccess {β : Type} {f : Unit → Program β} {post : Except Raised β → Point → Prop} {m : Point}
    (rest : ∀ m', sends m' = sends m → Meets post (f ()) m') : Meets post (recordSuccess >>= f) m :=
  meets_silent (fun _ _ _ => rfl) (fun _ _ served => ⟨(), served.1⟩) fun _ => rest

theorem meets_sleep {β : Type} {seconds : Decimal} {f : Unit → Program β} {post : Except Raised β → Point → Prop}
    {m : Point} (rest : ∀ m', sends m' = sends m → Meets post (f ()) m') : Meets post (sleep seconds >>= f) m :=
  meets_silent (fun _ _ _ => rfl) (fun _ _ served => ⟨(), served⟩) fun _ => rest

theorem meets_when {β : Type} {flag : Bool} {p : Program Unit} {f : Unit → Program β}
    {post : Except Raised β → Point → Prop} {m : Point} (off : Meets post (f ()) m)
    (on : Meets post (p >>= f) m) : Meets post (Prog.when flag p >>= f) m := by
  cases flag with
  | true => exact on
  | false => exact off

/-- What follows a send that a response came back for. -/
theorem receive_tried {attempt left : Nat} {response : Response} {again : Program Json} {m m' : Point}
    (sent : sends m' = sends m ++ [⟨request, headers, .ok response⟩])
    (more : attempt < settings.max429Retries → ∀ m'', sends m'' = sends m' →
      Meets (TriedFrom request headers left m'') again m'') :
    Meets (TriedFrom request headers (left + 1) m) (receive settings request attempt response again) m' := by
  have later {m'' : Point} (still : sends m'' = sends m') :
      TriedFrom request headers (left + 1) m (reported request (.ok response)) m'' :=
    ⟨_, @Tried.answered request headers left (.ok response) (by simp), still.trans sent⟩
  unfold receive
  by_cases limited : response.statusCode = 429
  · rw [if_pos limited]
    split
    · refine meets_recordFailure fun m'' still => ?_
      have ended := later still
      rw [reported, if_pos limited] at ended
      exact ended
    · rename_i few
      refine meets_sleep fun m'' still => ?_
      refine wp_mono (more (not_le.1 few) m'' still) ?_
      rintro result final ⟨made, tried, added⟩
      refine ⟨_ :: made, .limited limited tried, ?_⟩
      rw [added, still, sent, List.append_assoc]
      rfl
  · rw [if_neg limited]
    -- Whatever the breaker is told, nothing more is sent.
    have ends {m'' : Point} (still : sends m'' = sends m') :
        Meets (TriedFrom request headers (left + 1) m)
          (if 400 ≤ response.statusCode then
            .raise (.providerHttp response.statusCode s!"provider returned HTTP {response.statusCode}"
              response.payload (endpointPath request.path))
          else pure response.payload) m'' := by
      have ended := later still
      rw [reported, if_neg limited] at ended
      by_cases failed : 400 ≤ response.statusCode
      · rw [if_pos failed] at ended ⊢
        exact ended
      · rw [if_neg failed] at ended ⊢
        exact ended
    refine meets_when (meets_when (ends rfl) (meets_recordSuccess fun m'' still => ends still))
      (meets_recordFailure fun m'' still => meets_when (ends still)
        (meets_recordSuccess fun m₃ again => ends (again.trans still)))

/-- What follows a send that failed in the client. -/
theorem conclude_failed {attempt left : Nat} {error : Raised} {again : Program Json} {m m' : Point}
    (client : error.ofClient) (sent : sends m' = sends m ++ [⟨request, headers, .error error⟩]) :
    Meets (TriedFrom request headers (left + 1) m)
      (conclude settings request attempt (.error error) again) m' := by
  have ended {m'' : Point} (still : sends m'' = sends m') :
      TriedFrom request headers (left + 1) m (reported request (.error error)) m'' :=
    ⟨_, @Tried.answered request headers left (.error error) (by simpa using client), still.trans sent⟩
  cases error with
  | clientTimeout => exact meets_recordFailure fun m'' still => ended still
  | clientFailure => exact meets_recordFailure fun m'' still => ended still
  | client exc => exact ended rfl
  | _ => cases client

/-- What follows a refusal of the limiter. -/
theorem conclude_refused {attempt left : Nat} {error : Raised} {again : Program Json} {m m' : Point}
    (limiter : error.ofLimiter) (unsent : sends m' = sends m) :
    Meets (TriedFrom request headers (left + 1) m)
      (conclude settings request attempt (.error error) again) m' := by
  have ended : TriedFrom request headers (left + 1) m (.error error) m' :=
    ⟨[], .refused ⟨error, rfl, .inr limiter⟩, by rw [unsent, List.append_nil]⟩
  cases error with
  | rateLimitExceeded message => exact ended
  | valueError message => exact ended
  | _ => cases limiter

/-- One attempt, and those after it. -/
theorem attempt_tried {attempt left : Nat} {rest : List Nat} {m : Point}
    (more : attempt < settings.max429Retries → ∀ m',
      Meets (TriedFrom request headers left m') (requestOnce settings request headers rest) m') :
    Meets (TriedFrom request headers (left + 1) m)
      (requestOnce settings request headers (attempt :: rest)) m := by
  rw [requestOnce]
  refine wp_bind.2 (wp_served fun reply after served _ => ?_)
  have unsent : sends (m.push .beforeRequest reply after) = sends m :=
    (sends_push ..).trans (List.append_nil _)
  cases reply with
  | error error =>
      refine ⟨[], .refused ⟨error, rfl, .inl ?_⟩, unsent.trans (List.append_nil _).symm⟩
      have refused : Except.error error = if (m.world.breaker.allowRequest m.world.now).1 then .ok ()
          else .error (.circuitOpen "provider circuit is open") := served.1
      by_cases allowed : (m.world.breaker.allowRequest m.world.now).1
      · rw [if_pos allowed] at refused
        cases refused
      · rw [if_neg allowed] at refused
        exact Except.error.inj refused
  | ok _ =>
      refine wp_bind.2 (wp_attempt.2 (wp_bind.2 (wp_served fun reply after' served _ => ?_)))
      have unsent' : sends ((m.push .beforeRequest (.ok ()) after).push .acquire reply after') = sends m :=
        (sends_push ..).trans ((List.append_nil _).trans unsent)
      cases reply with
      | error error => exact conclude_refused (served error rfl) unsent'
      | ok _ =>
          refine wp_served fun reply after'' served _ => ?_
          have sent : sends (((m.push .beforeRequest (.ok ()) after).push .acquire (.ok ()) after').push
              (.send request headers) reply after'') = sends m ++ [⟨request, headers, reply⟩] :=
            (sends_push ..).trans (congrArg (· ++ [_]) unsent')
          cases reply with
          | error error => exact conclude_failed (served error rfl) sent
          | ok response => exact receive_tried sent fun few m' _ => more few m'

/-- One pass over the last attempts. -/
theorem requestOnce_tried (left attempt : Nat) (whole : attempt + left = settings.max429Retries) (m : Point) :
    Meets (TriedFrom request headers (left + 1) m)
      (requestOnce settings request headers (List.range' attempt (left + 1))) m := by
  induction left generalizing attempt m with
  | zero => exact attempt_tried fun few => absurd few (by omega)
  | succ left ih => exact attempt_tried fun _ m' => ih (attempt + 1) (by omega) m'

theorem requestOnce_run {m final : Point} {result : Except Raised Json}
    (run : (requestOnce settings request headers (List.range (settings.max429Retries + 1))).Runs serve m
      result final) : TriedFrom request headers (settings.max429Retries + 1) m result final := by
  refine run_ends run ?_
  rw [List.range_eq_range']
  exact requestOnce_tried settings.max429Retries 0 (Nat.zero_add _) m

end Pass

/-! ## Both passes -/

section Passes

variable {settings : Settings} {request : Request}

/-- The headers of a pass that begins at `m`, and the point at which they are made. -/
inductive SignedAt (request : Request) (force : Bool) (m : Point) : Headers → Point → Prop
  | signs (credentials : Headers) (signs : request.authHeaders = true) : SignedAt request force m
      (request.signedBy credentials) (m.push (.authHeaders force) (.ok credentials) m.world)
  | plain (plain : request.authHeaders = false) : SignedAt request force m request.headers m

theorem SignedAt.unsent {force : Bool} {m mid : Point} {headers : Headers}
    (signed : SignedAt request force m headers mid) : sends mid = sends m := by
  cases signed with
  | signs credentials _ => exact (sends_push ..).trans (List.append_nil _)
  | plain _ => rfl

theorem signed_run {force : Bool} {m mid : Point} {outcome : Except Raised Headers}
    (run : (signed request force).Runs serve m outcome mid) :
    ∃ headers, outcome = .ok headers ∧ SignedAt request force m headers mid := by
  unfold signed at run
  split at run
  · rename_i signs
    rcases runs_bind.1 run with ⟨credentials, _, asked, ended⟩ | ⟨error, asked, _⟩
    · obtain ⟨_, ⟨_, rfl⟩, rfl⟩ := runs_call.1 asked
      cases ended
      exact ⟨_, rfl, .signs credentials signs⟩
    · obtain ⟨_, ⟨⟨_, never⟩, _⟩, _⟩ := runs_call.1 asked
      cases never
  · rename_i plain
    cases run
    exact ⟨_, rfl, .plain (Bool.eq_false_iff.2 plain)⟩

/-- The point after a 401 from which the next pass begins. -/
inductive RefreshedAt (request : Request) (done : Point) : Point → Prop
  | refreshes (refreshes : request.refreshAuth = true) :
      RefreshedAt request done (done.push .refreshAuth (.ok ()) done.world)
  | plain (plain : request.refreshAuth = false) : RefreshedAt request done done

theorem RefreshedAt.unsent {done refreshed : Point} (refresh : RefreshedAt request done refreshed) :
    sends refreshed = sends done := by
  cases refresh with
  | refreshes _ => exact (sends_push ..).trans (List.append_nil _)
  | plain _ => rfl

/-- One pass, and where it goes on. -/
theorem passes_run {left authAttempt : Nat} {m final : Point} {result : Except Raised Json}
    (run : (passes settings request (left + 1) authAttempt).Runs serve m result final) :
    ∃ headers mid outcome done, SignedAt request (0 < authAttempt) m headers mid ∧
      mid.events <:+ final.events ∧ TriedFrom request headers (settings.max429Retries + 1) mid outcome done ∧
      (result = outcome ∧ final = done ∨
        (∃ message payload path, outcome = .error (.providerHttp 401 message payload path)) ∧
          request.authHeaders = true ∧ authAttempt = 0 ∧
          ∃ refreshed, RefreshedAt request done refreshed ∧
            (passes settings request left (authAttempt + 1)).Runs serve refreshed result final) := by
  rw [passes] at run
  rcases runs_bind.1 run with ⟨headers, mid, first, rest⟩ | ⟨error, first, _⟩
  · obtain ⟨_, ⟨⟩, signed⟩ := signed_run first
    have added := runs_suffix rest
    rcases runs_bind.1 rest with ⟨outcome, done, second, rest⟩ | ⟨error, second, _⟩
    · obtain ⟨_, tried, ⟨⟩⟩ := runs_attempt.1 second
      refine ⟨headers, mid, outcome, done, signed, added, requestOnce_run tried, ?_⟩
      cases outcome with
      | ok payload =>
          cases rest
          exact .inl ⟨rfl, rfl⟩
      | error error =>
          cases error with
          | providerHttp statusCode message payload path =>
              dsimp only at rest
              split at rest
              · cases rest
                exact .inl ⟨rfl, rfl⟩
              · rename_i again
                push Not at again
                obtain ⟨rfl, signs, rfl⟩ := again
                refine .inr ⟨⟨message, payload, path, rfl⟩, by simpa using signs, rfl, ?_⟩
                unfold Prog.when at rest
                split at rest
                · rename_i refreshes
                  rcases runs_bind.1 rest with ⟨_, _, asked, next⟩ | ⟨error, asked, _⟩
                  · obtain ⟨_, ⟨_, rfl⟩, rfl⟩ := runs_call.1 asked
                    exact ⟨_, .refreshes refreshes, next⟩
                  · obtain ⟨_, ⟨never, _⟩, _⟩ := runs_call.1 asked
                    cases never
                · rename_i plain
                  exact ⟨_, .plain (Bool.eq_false_iff.2 plain), rest⟩
          | _ =>
              cases rest
              exact .inl ⟨rfl, rfl⟩
    · obtain ⟨_, _, never⟩ := runs_attempt.1 second
      cases never
  · obtain ⟨_, never, _⟩ := signed_run first
    cases never

/-- The sends of one pass: so many at most, all the same, each but the last answered with 429. -/
structure Pass (settings : Settings) (request : Request) (headers : Headers) (made : List Send) : Prop where
  same : ∀ send ∈ made, send.request = request ∧ send.headers = headers
  few : made.length ≤ settings.max429Retries + 1
  followed : ∀ send ∈ made.dropLast, send.Answered 429

theorem Tried.pass {headers : Headers} {made : List Send} {result : Except Raised Json}
    (tried : Tried request headers (settings.max429Retries + 1) made result) :
    Pass settings request headers made := ⟨tried.same, tried.few, tried.followed⟩

/-- After its last send was answered with 401, credentials were asked for again, by force. -/
structure Refreshed (request : Request) (final : Point) (first : List Send) (headers : Headers) : Prop where
  unauthorized : ∃ last, first.getLast? = some last ∧ last.Answered 401
  asked : ∃ (credentials : Headers) (earlier : Point), headers = request.signedBy credentials ∧
    (earlier.push (.authHeaders true) (.ok credentials) earlier.world).events <:+ final.events ∧
    sends earlier = first ∧
    (request.refreshAuth → ∃ e, earlier.events.head? = some e ∧ e.op = Op.refreshAuth)

/-- A send that may be made again. -/
def Send.Retriable (send : Send) : Prop := send.Answered 429 ∨ send.Answered 401

/-- What the sends come to: the next one was refused, or the last one is reported. -/
def Reports (request : Request) (made : List Send) (result : Except Raised Json) : Prop :=
  Refused result ∧ (∀ send ∈ made, send.Retriable) ∨
    ∃ last, made.getLast? = some last ∧ result = reported request last.reply

theorem Tried.reports {left : Nat} {headers : Headers} {made : List Send} {result : Except Raised Json}
    (tried : Tried request headers left made result) : Reports request made result := by
  rcases tried.ends with ⟨refused, limited⟩ | ⟨last, is, same, _⟩
  · exact .inl ⟨refused, fun send member => .inl (limited send member)⟩
  · exact .inr ⟨last, is, same⟩

/-- All sends of a pass that ends with a 401 may be made again. -/
theorem Pass.retriable {headers : Headers} {made : List Send} (pass : Pass settings request headers made)
    {last : Send} (is : made.getLast? = some last) (unauthorized : last.Answered 401) :
    ∀ send ∈ made, send.Retriable := by
  intro send member
  rw [← List.dropLast_append_getLast? last is] at member
  rcases List.mem_append.1 member with before | here
  · exact .inl (pass.followed send before)
  · rw [List.mem_singleton.1 here]
    exact .inr unauthorized

/-- The passes of a run: one, or two with a 401 between them. -/
theorem request_json_passes {world : Shared} {result : Except Raised Json} {final : Point}
    (run : (requestJson settings request).Runs serve ⟨world, []⟩ result final) :
    ∃ headers first, Pass settings request headers first ∧
      (sends final = first ∧ Reports request first result ∨
        ∃ fresh second, Pass settings request fresh second ∧ Refreshed request final first fresh ∧
          sends final = first ++ second ∧ Reports request second result) := by
  have start : (passes settings request ((if request.authHeaders then 1 else 0) + 1) 0).Runs serve
      ⟨world, []⟩ result final := by
    rw [requestJson] at run
    split at run
    · rename_i signs
      rw [if_pos signs]
      exact run
    · rename_i plain
      rw [if_neg plain]
      exact run
  obtain ⟨headers, mid, outcome, done, signed, _, ⟨first, tried, sent⟩, rest⟩ := passes_run start
  rw [signed.unsent] at sent
  refine ⟨headers, first, tried.pass, ?_⟩
  rcases rest with ⟨rfl, rfl⟩ | ⟨⟨message, payload, path, rfl⟩, signs, _, refreshed, refresh, rest⟩
  · exact .inl ⟨sent, tried.reports⟩
  · rw [if_pos signs] at rest
    obtain ⟨fresh, mid', outcome', done', signed', added, ⟨second, tried', sent'⟩, rest⟩ := passes_run rest
    rcases rest with ⟨rfl, rfl⟩ | ⟨_, _, never, _⟩
    · refine .inr ⟨fresh, second, tried'.pass, ⟨tried.unauthorized, ?_⟩, ?_, tried'.reports⟩
      · cases signed' with
        | signs credentials _ =>
            refine ⟨credentials, refreshed, rfl, added, refresh.unsent.trans sent, fun refreshes => ?_⟩
            cases refresh with
            | refreshes _ => exact ⟨_, rfl, rfl⟩
            | plain plain =>
                rw [refreshes] at plain
                cases plain
        | plain plain =>
            rw [signs] at plain
            cases plain
      · rw [sent', signed'.unsent, refresh.unsent, sent]
        rfl
    · cases never

/-- **When a request is sent again.** In every run the sends are those of one pass or two, the
second one only after a 401 and with credentials asked for again.  Every send that another one
follows was answered with 429 or 401, there are at most `2 * (max_429_retries + 1)`, and what
is reported is the last of them unless the circuit breaker or the rate limiter refused another. -/
theorem request_json_sends {world : Shared} {result : Except Raised Json} {final : Point}
    (run : (requestJson settings request).Runs serve ⟨world, []⟩ result final) :
    (∃ headers first second, sends final = first ++ second ∧ Pass settings request headers first ∧
      (second ≠ [] → ∃ fresh, Pass settings request fresh second ∧ Refreshed request final first fresh)) ∧
    (∀ send ∈ (sends final).dropLast, send.Retriable) ∧
    (sends final).length ≤ 2 * (settings.max429Retries + 1) ∧
    Reports request (sends final) result := by
  obtain ⟨headers, first, pass, ⟨sent, reports⟩ | ⟨fresh, second, pass', refreshed, sent, reports⟩⟩ :=
    request_json_passes run
  · rw [sent]
    refine ⟨⟨headers, first, [], (List.append_nil _).symm, pass, fun never => absurd rfl never⟩,
      fun send member => .inl (pass.followed send member), ?_, reports⟩
    have few := pass.few
    omega
  · obtain ⟨last, is, unauthorized⟩ := refreshed.unauthorized
    have before := pass.retriable is unauthorized
    rw [sent]
    refine ⟨⟨headers, first, second, rfl, pass, fun _ => ⟨fresh, pass', refreshed⟩⟩, fun send member => ?_, ?_, ?_⟩
    · rw [List.dropLast_append] at member
      split at member
      · exact before send (List.dropLast_subset _ member)
      · rcases List.mem_append.1 member with earlier | later
        · exact before send earlier
        · exact .inl (pass'.followed send later)
    · rw [List.length_append]
      have few := pass.few
      have few' := pass'.few
      omega
    · rcases reports with ⟨refused, retriable⟩ | ⟨last', is', same⟩
      · exact .inl ⟨refused, List.forall_mem_append.2 ⟨before, retriable⟩⟩
      · exact .inr ⟨last', by rw [List.getLast?_append, is', Option.some_or], same⟩

end Passes

/-! ## A run -/

namespace Limited

def listing : Request :=
  { method := "GET", url := "https://venue.test/v1/orders", path := "/v1/orders", headers := .empty
    params := [], json := none, authHeaders := false, refreshAuth := false }

def once : Settings := ⟨1, ⟨0, decimal_zero⟩, ⟨0, decimal_zero⟩⟩

def shared : Shared := ⟨{ failureThreshold := 3, recoveryTimeout := ⟨1, decimal_one⟩ }, 0⟩

/-- A request that is limited once and then answered. -/
theorem limited_run : ∃ final, (requestJson once listing).Runs serve ⟨shared, []⟩ (.ok .null) final ∧
    (sends final).map Send.reply = [.ok ⟨429, none, .null⟩, .ok ⟨200, none, .null⟩] := by
  have open_ : serve .beforeRequest shared (.ok ()) shared := ⟨rfl, rfl⟩
  have admitted : serve .acquire shared (.ok ()) shared := fun _ never => by cases never
  have answered (response : Response) : serve (.send listing .empty) shared (.ok response) shared :=
    fun _ never => by cases never
  refine ⟨_, .request open_ (.request admitted (.request (answered ⟨429, none, .null⟩) (.request rfl
    (.request open_ (.request admitted (.request (answered ⟨200, none, .null⟩)
      (.request ⟨rfl, rfl⟩ (.pure _ _)))))))), rfl⟩

end Limited

open Limited in
theorem request_json_sends_limited : ∃ final,
    (requestJson once listing).Runs serve ⟨shared, []⟩ (.ok .null) final ∧ (sends final).length ≤ 4 ∧
      Reports listing (sends final) (.ok .null) := by
  obtain ⟨final, run, _⟩ := limited_run
  obtain ⟨_, _, few, reports⟩ := request_json_sends run
  exact ⟨final, run, few, reports⟩

end AlgoTrader.Brokers.Retries
