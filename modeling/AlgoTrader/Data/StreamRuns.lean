/-
# Data.StreamRuns -- what holds wherever the stream has come to

The loops of the stream are the same for every property of it.  A `Watch` says what is
kept at each place of the loops: between connections, on a connection that is up, while
messages are read, and on the way from an exception to its handler.  The rule
`Watch.run` then carries it through every run.

What is watched are two requests: a candle that is emitted, and a failure that is
reported; the guard of the contract says what must hold there.
-/
import AlgoTrader.Data.Stream
import AlgoTrader.Theory.Lives

namespace AlgoTrader.Data

open AlgoTrader.Core Brokers Theory

set_option autoImplicit false

/-- Requests that are watched. -/
def StreamOp.watched : StreamOp → Bool
  | .onCandle _ => true
  | .report .. => true
  | _ => false

def streaming (assume : Streamed → List Streamed → Prop) (guard : StreamOp → FeedMoment → Prop) :
    Contract feed Exc FeedWorld where
  serve := FeedServe
  assume := assume
  guard op m := op.watched = true → guard op m
  invariant _ := True

/-- What a request that is not watched has to keep. -/
theorem wp_want {assume : Streamed → List Streamed → Prop} {guard : StreamOp → FeedMoment → Prop}
    {op : StreamOp} {m : FeedMoment} {post : Except Exc op.Reply → FeedMoment → Prop}
    (plain : op.watched = false)
    (replies : ∀ reply after, FeedServe op m.world reply after →
      assume (m.event op reply after) m.events → post reply (m.push op reply after)) :
    wp (streaming assume guard).logic post (want op) m := by
  refine wp_call.2 ⟨fun watched => ?_, fun reply after served assumed =>
    ⟨trivial, replies reply after served assumed⟩⟩
  rw [plain] at watched
  cases watched

/-- Nothing but the task itself writes the ingestor's fields. -/
theorem FeedServe.ingestor {op : StreamOp} {w w' : FeedWorld} {reply : Except Exc op.Reply}
    (served : FeedServe op w reply w') (reads : ∀ change, op ≠ .assign change) :
    w'.ingestor = w.ingestor := by
  cases op with
  | read => exact served.2 ▸ rfl
  | assign change => exact absurd rfl (reads change)
  | stopped => exact served.2 ▸ rfl
  | clock => exact served.2.1
  | report exc stage attempt backoff => exact served.2 ▸ rfl
  | _ => exact served.1

/-! ## One message -/

/-- The requests of a turn that are about no candle. -/
inductive Talk : StreamOp → Prop
  | read : Talk .read
  | heartbeat (at_ : Timestamp) : Talk (.assign (.lastHeartbeat at_))
  | quote (product : String) (quote : Quote) : Talk (.assign (.lastQuote product quote))
  | healthy (flag : Bool) : Talk (.assign (.connectionHealthy flag))
  | stopped : Talk .stopped
  | clock : Talk .clock
  | record (payload : Payload) (receivedAt : Timestamp) : Talk (.record payload receivedAt)
  | onQuote (quote : Quote) : Talk (.onQuote quote)
  | onHealthy (receivedAt : Timestamp) : Talk (.onHealthy receivedAt)

theorem Talk.plain {op : StreamOp} (talk : Talk op) : op.watched = false := by
  cases talk <;> rfl

/-- The candles of a message, in the order they are handled. -/
def Payload.candles (payload : Payload) : List RawCandle :=
  if payload.channel = some "candles" then payload.events.flatMap FeedEvent.candles else []

/-- What is kept while messages are read, and while the candles of one are handled: all
of them, and those handled so far. -/
structure Intake (assume : Streamed → List Streamed → Prop)
    (guard : StreamOp → FeedMoment → Prop) where
  live : FeedMoment → Prop
  handling : List RawCandle → List RawCandle → FeedMoment → Prop
  broken : FeedMoment → Prop
  talks : ∀ {op m reply after}, Talk op → live m → FeedServe op m.world reply after →
    assume (m.event op reply after) m.events → live (m.push op reply after)
  continues : ∀ {op m reply after all handled}, Talk op → handling all handled m →
    FeedServe op m.world reply after → assume (m.event op reply after) m.events →
    handling all handled (m.push op reply after)
  waits : ∀ {m reply after}, live m → FeedServe .recv m.world reply after →
    assume (m.event .recv reply after) m.events → broken (m.push .recv reply after)
  arrives : ∀ {m payload after}, live m →
    FeedServe .recv m.world (.ok (.message (.object payload))) after →
    assume (m.event .recv (.ok (.message (.object payload))) after) m.events →
    handling payload.candles [] (m.push .recv (.ok (.message (.object payload))) after)
  handles : ∀ {before raw rest receivedAt m}, handling (before ++ raw :: rest) before m →
    wp (streaming assume guard).logic
      (stepPost (handling (before ++ raw :: rest) (before ++ [raw])) fun _ => broken)
      (handleCandle receivedAt raw) m
  finishes : ∀ {all m}, handling all all m → live m
  fails : ∀ {all handled m}, handling all handled m → broken m
  breaks : ∀ {m}, live m → broken m

namespace Intake

variable {assume : Streamed → List Streamed → Prop} {guard : StreamOp → FeedMoment → Prop}
  (intake : Intake assume guard) {config : StreamConfig} {m : FeedMoment}
  {all handled : List RawCandle}

/-- A request while a message is handled. -/
theorem wp_talk {op : StreamOp} (talk : Talk op) (here : intake.handling all handled m) :
    wp (streaming assume guard).logic
      (stepPost (intake.handling all handled) fun _ => intake.broken) (want op) m := by
  refine wp_want talk.plain fun reply after served assumed => ?_
  have next := intake.continues talk here served assumed
  cases reply with
  | ok value => exact next
  | error exc => exact intake.fails next

theorem wp_handleTicker {receivedAt : Timestamp} {raw : RawTicker}
    (here : intake.handling all handled m) :
    wp (streaming assume guard).logic
      (stepPost (intake.handling all handled) fun _ => intake.broken)
      (handleTicker receivedAt raw) m := by
  unfold handleTicker
  split
  · exact here
  split
  · exact here
  split
  · exact intake.fails here
  split
  · exact intake.fails here
  · refine wp_step (intake.wp_talk (.quote _ _) here) fun _ m₁ here₁ => ?_
    exact intake.wp_talk (.onQuote _) here₁

theorem wp_handlePayload {payload : Payload} {receivedAt : Timestamp}
    (here : intake.handling payload.candles [] m) :
    wp (streaming assume guard).logic (stepPost intake.live fun _ => intake.broken)
      (handlePayload payload receivedAt) m := by
  unfold handlePayload
  unfold Payload.candles at here
  split
  · rename_i candles
    rw [if_pos candles] at here
    refine wp_mono (wp_visit (intake.handling _) (fun _ => intake.broken) _ ?_ here) ?_
    · intro before raw rest m₁ split here₁
      rw [split] at here₁ ⊢
      exact intake.handles here₁
    · intro result m₁ ended
      cases result with
      | ok _ => exact intake.finishes ended
      | error exc => exact ended
  · rename_i others
    rw [if_neg others] at here
    split
    · refine wp_mono (wp_visit (fun _ => intake.handling [] []) (fun _ => intake.broken) _ ?_ here) ?_
      · intro _ raw _ m₁ _ here₁
        exact intake.wp_handleTicker here₁
      · intro result m₁ ended
        cases result with
        | ok _ => exact intake.finishes ended
        | error exc => exact ended
    · exact intake.finishes here

/-- A request between two messages. -/
theorem wp_between {op : StreamOp} (talk : Talk op) (here : intake.live m) :
    wp (streaming assume guard).logic (stepPost intake.live fun _ => intake.broken) (want op) m := by
  refine wp_want talk.plain fun reply after served assumed => ?_
  have next := intake.talks talk here served assumed
  cases reply with
  | ok value => exact next
  | error exc => exact intake.breaks next

/-- What is left of a turn once the message is noted. -/
theorem wp_rest {payload : Payload} {started receivedAt : Timestamp} {healthy : Bool}
    (here : intake.handling payload.candles [] m) :
    wp (streaming assume guard).logic
      (turnPost (fun _ => intake.live) (fun m' => m'.world.stop = true) fun _ => intake.broken)
      (do
        let ingestor ← want .read
        if config.heartbeatTimeout < receivedAt - ingestor.lastHeartbeat.getD started then
          .raise staleHeartbeat
        else do
          handlePayload payload receivedAt
          if payload.isHeartbeat && !healthy &&
              config.healthyConnection ≤ receivedAt - started then do
            want (.assign (.connectionHealthy true))
            let _ ← (want (.onHealthy receivedAt)).attempt
            return some true
          else return some healthy : Feed (Option Bool)) m := by
  refine wp_bind.2 (wp_mono (intake.wp_talk .read here) ?_)
  intro result m₁ here₁
  cases result with
  | error exc => exact here₁
  | ok ingestor =>
      show wp (streaming assume guard).logic _ (if _ then _ else _) _
      split
      · exact intake.fails here₁
      refine wp_bind.2 (wp_mono (intake.wp_handlePayload here₁) ?_)
      intro result m₂ live₂
      cases result with
      | error exc => exact live₂
      | ok _ =>
          show wp (streaming assume guard).logic _ (if _ then _ else _) _
          split
          · refine wp_bind.2 (wp_mono (intake.wp_between (.healthy true) live₂) ?_)
            intro result m₃ live₃
            cases result with
            | error exc => exact live₃
            | ok _ =>
                refine wp_bind.2 (wp_attempt.2 (wp_want rfl fun reply after served assumed => ?_))
                exact intake.talks (.onHealthy receivedAt) live₃ served assumed
          · exact live₂

/-- One turn reads one message, or ends the connection. -/
theorem reads {started : Timestamp} {healthy : Bool} (here : intake.live m) :
    wp (streaming assume guard).logic
      (turnPost (fun _ => intake.live) (fun m' => m'.world.stop = true) fun _ => intake.broken)
      (consumeTurn config started healthy) m := by
  refine wp_bind.2 (wp_want rfl fun reply after served assumed => ?_)
  have here₁ := intake.talks .stopped here served assumed
  obtain ⟨rfl, rfl⟩ := served
  cases stop : m.world.stop with
  | true => exact stop
  | false =>
      rw [stop] at here₁
      refine wp_bind.2 (wp_want rfl fun reply after served assumed => ?_)
      have ended := intake.waits here₁ served assumed
      match reply with
      | .error exc => exact ended
      | .ok .timeout => exact ended
      | .ok (.message .notJson) => exact ended
      | .ok (.message .notObject) => exact ended
      | .ok (.message (.object payload)) =>
          have here₂ := intake.arrives here₁ served assumed
          refine wp_bind.2 (wp_mono (intake.wp_talk .clock here₂) ?_)
          intro result m₃ here₃
          cases result with
          | error exc => exact here₃
          | ok receivedAt =>
              refine wp_bind.2 (wp_mono (intake.wp_talk (.record payload receivedAt) here₃) ?_)
              intro result m₄ here₄
              cases result with
              | error exc => exact here₄
              | ok _ =>
                  refine wp_bind.2 (wp_mono (p := Prog.when _ _) (wp_when
                    (fun _ => intake.wp_talk (.heartbeat receivedAt) here₄) fun _ => here₄) ?_)
                  intro result m₅ here₅
                  cases result with
                  | error exc => exact here₅
                  | ok _ => exact intake.wp_rest here₅

end Intake

/-! ## The loops -/

/-- The requests between connections that are no step of the loop. -/
inductive Idle : StreamOp → Prop
  | read : Idle .read
  | healthy (flag : Bool) : Idle (.assign (.connectionHealthy flag))
  | stopped : Idle .stopped
  | clock : Idle .clock
  | close : Idle .close
  | sleep (delay : Duration) : Idle (.sleep delay)
  | onDisconnect (at_ : Timestamp) (kind : String) : Idle (.onDisconnect at_ kind)

theorem Idle.plain {op : StreamOp} (idle : Idle op) : op.watched = false := by
  cases idle <;> rfl

/-- What is kept at each place of the loops. -/
structure Watch (config : StreamConfig) (assume : Streamed → List Streamed → Prop)
    (guard : StreamOp → FeedMoment → Prop) where
  /-- Between connections. -/
  idle : FeedMoment → Prop
  /-- On a connection that is up and not read yet. -/
  up : FeedMoment → Prop
  /-- On a connection that is read since `started`. -/
  live : Timestamp → FeedMoment → Prop
  /-- On the way to the handler, and there once the open buckets are dropped. -/
  broken : Exc → FeedMoment → Prop
  cleared : Exc → FeedMoment → Prop
  rests : ∀ {op m reply after}, Idle op → idle m → FeedServe op m.world reply after →
    assume (m.event op reply after) m.events → idle (m.push op reply after)
  connects : ∀ {m reply after}, idle m → FeedServe .connect m.world reply after →
    assume (m.event .connect reply after) m.events →
    match reply with
    | .ok _ => up (m.push .connect reply after)
    | .error exc => broken exc (m.push .connect reply after)
  sends : ∀ {channel m reply after}, up m → FeedServe (.send channel) m.world reply after →
    assume (m.event (.send channel) reply after) m.events →
    match reply with
    | .ok _ => up (m.push (.send channel) reply after)
    | .error exc => broken exc (m.push (.send channel) reply after)
  starts : ∀ {m started after}, up m → FeedServe .clock m.world (.ok started) after →
    assume (m.event .clock (.ok started) after) m.events →
    live started (m.push .clock (.ok started) after)
  reads : ∀ {started healthy m}, live started m → wp (streaming assume guard).logic
    (turnPost (fun _ => live started) (fun m' => m'.world.stop = true) broken)
    (consumeTurn config started healthy) m
  clears : ∀ {exc m reply after}, broken exc m →
    FeedServe (.assign .clearOpenBuckets) m.world reply after →
    assume (m.event (.assign .clearOpenBuckets) reply after) m.events →
    cleared exc (m.push (.assign .clearOpenBuckets) reply after)
  reported : ∀ {exc stage attempt backoff m}, cleared exc m →
    guard (.report exc stage attempt backoff) m
  reports : ∀ {exc stage attempt backoff m reply after}, cleared exc m →
    FeedServe (.report exc stage attempt backoff) m.world reply after →
    idle (m.push (.report exc stage attempt backoff) reply after)
  fills : ∀ {m}, idle m → wp (streaming assume guard).logic
    (stepPost idle fun _ _ => True) (fillGaps config) m

namespace Watch

variable {config : StreamConfig} {assume : Streamed → List Streamed → Prop}
  {guard : StreamOp → FeedMoment → Prop} (watch : Watch config assume guard)

/-- A request between connections. -/
theorem wp_idle {op : StreamOp} {m : FeedMoment} (rest : Idle op) (here : watch.idle m) :
    wp (streaming assume guard).logic (fun _ => watch.idle) (want op) m :=
  wp_want rest.plain fun _ _ served assumed => watch.rests rest here served assumed

theorem wp_notify {kind : String} {m : FeedMoment} (here : watch.idle m) :
    wp (streaming assume guard).logic (fun _ => watch.idle) (notifyDisconnect kind) m := by
  refine wp_bind.2 (wp_attempt.2 ?_)
  refine wp_bind.2 (wp_mono (watch.wp_idle .clock here) ?_)
  rintro (exc | at_) m' idle
  · exact idle
  · exact wp_mono (watch.wp_idle (.onDisconnect at_ kind) idle) fun _ _ idle => idle

/-- The handler of a failed connection ends between connections, or raises. -/
theorem wp_recover {retry : Retry} {exc : Exc} {stage : String} {m : FeedMoment}
    (here : watch.broken exc m) :
    wp (streaming assume guard).logic (fun result m' =>
      match result with
      | .ok _ => watch.idle m'
      | .error _ => True) (recover config retry exc stage) m := by
  refine wp_bind.2 (wp_want rfl fun reply after served assumed => ?_)
  have cleared := watch.clears here served assumed
  obtain ⟨rfl, rfl⟩ := served
  refine wp_bind.2 (wp_call.2 ⟨fun _ => watch.reported cleared, fun reply after served _ =>
    ⟨trivial, ?_⟩⟩)
  have idle := watch.reports cleared served
  obtain ⟨rfl, _⟩ := served
  -- From here on every request leaves the loop between connections.
  have asks : ∀ {α : Type} {op : StreamOp} {f : op.Reply → Feed α} {m : FeedMoment}
      {post : Except Exc α → FeedMoment → Prop}, Idle op → watch.idle m →
      (∀ exc m', post (.error exc) m') →
      (∀ value m', watch.idle m' → wp (streaming assume guard).logic post (f value) m') →
      wp (streaming assume guard).logic post (want op >>= f) m := by
    intro α op f m post rest here raised next
    refine wp_bind.2 (wp_mono (watch.wp_idle rest here) ?_)
    rintro (exc | value) m' idle
    · exact raised exc m'
    · exact next value m' idle
  refine asks .stopped idle (fun _ _ => trivial) fun stopped m₁ idle₁ => ?_
  have notified : wp (streaming assume guard).logic (fun _ => watch.idle)
      (Prog.when (!stopped) (notifyDisconnect (classifyDisconnect exc stage))) m₁ :=
    wp_when (fun _ => watch.wp_notify idle₁) fun _ => idle₁
  refine wp_bind.2 (wp_mono notified ?_)
  rintro (exc' | _) m₂ idle₂
  · trivial
  have filled : wp (streaming assume guard).logic (stepPost watch.idle fun _ _ => True)
      (Prog.when config.gapFill do
        let stopped ← want .stopped
        Prog.when (!stopped) (fillGaps config)) m₂ := by
    refine wp_when (fun _ => ?_) fun _ => idle₂
    refine asks .stopped idle₂ (fun _ _ => trivial) fun stopped m₃ idle₃ => ?_
    exact wp_when (fun _ => watch.fills idle₃) fun _ => idle₃
  refine wp_bind.2 (wp_mono filled ?_)
  rintro (exc' | _) m₃ idle₃
  · trivial
  refine asks .stopped idle₃ (fun _ _ => trivial) fun stopped m₄ idle₄ => ?_
  cases stopped with
  | true => exact idle₄
  | false =>
      refine asks .read idle₄ (fun _ _ => trivial) fun ingestor m₅ idle₅ => ?_
      refine asks (.sleep _) idle₅ (fun _ _ => trivial) fun _ m₆ idle₆ => ?_
      exact idle₆

theorem wp_subscribe {m : FeedMoment} (here : watch.up m) :
    wp (streaming assume guard).logic (stepPost watch.up watch.broken) subscribe m := by
  refine wp_visit (fun _ => watch.up) watch.broken (fun channel => want (.send channel)) ?_ here
  intro _ channel _ m _ up
  refine wp_want rfl fun reply after served assumed => ?_
  have sent := watch.sends up served assumed
  cases reply with
  | ok _ => exact sent
  | error exc => exact sent

theorem wp_consume {fuel : Nat} {m : FeedMoment} (here : watch.up m) :
    wp (streaming assume guard).logic
      (turnPost (fun _ _ => True) (fun m' => m'.world.stop = true) watch.broken)
      (consume config fuel) m := by
  refine wp_bind.2 (wp_want rfl fun reply after served assumed => ?_)
  obtain ⟨⟨started, rfl⟩, _⟩ := id served
  have live := watch.starts here served assumed
  have turns := wp_turns (fun _ => watch.live started) (fun m' => m'.world.stop = true) watch.broken
    (consumeTurn config started) (fun _ _ live => watch.reads live) fuel live (b := false)
  refine wp_mono turns ?_
  intro result m' ended
  match result with
  | .ok (some _) => trivial
  | .ok none => exact ended
  | .error exc => exact ended

/-- Between connections, or on the way out. -/
def rest (m : FeedMoment) : Prop := watch.idle m ∨ m.world.stop = true

theorem wp_serveConnection {fuel : Nat} {retry : Retry} {m : FeedMoment} (here : watch.up m) :
    wp (streaming assume guard).logic (fun result m' =>
      match result with
      | .ok (.ended (.ok _)) => watch.rest m'
      | _ => True) (serveConnection config fuel retry) m := by
  have handled : ∀ {exc : Exc} {stage : String} {m : FeedMoment}, watch.broken exc m →
      wp (streaming assume guard).logic (fun result m' =>
        match result with
        | .ok (.ended (.ok _)) => watch.rest m'
        | _ => True)
        (do return .ended (← (recover config retry exc stage).attempt) : Feed Ending) m := by
    intro exc stage m broken
    refine wp_bind.2 (wp_attempt.2 (wp_mono (watch.wp_recover broken) ?_))
    intro result m' ended
    cases result with
    | ok next => exact .inl ended
    | error exc => trivial
  refine wp_bind.2 (wp_attempt.2 (wp_mono (watch.wp_subscribe here) ?_))
  intro result m₁ ended
  cases result with
  | error exc => exact handled ended
  | ok _ =>
      refine wp_bind.2 (wp_attempt.2 (wp_mono (watch.wp_consume ended) ?_))
      intro result m₂ ended
      match result with
      | .error exc => exact handled ended
      | .ok (some _) => trivial
      | .ok none => exact .inr ended

theorem wp_runTurn {fuel : Nat} {before : Retry} {m : FeedMoment} (here : watch.rest m) :
    wp (streaming assume guard).logic (turnPost (fun _ => watch.rest) (fun _ => True) fun _ _ => True)
      (runTurn config fuel before) m := by
  refine wp_bind.2 (wp_want rfl fun reply after served assumed => ?_)
  obtain ⟨rfl, rfl⟩ := id served
  have idle : m.world.stop = false →
      watch.idle (m.push .stopped (.ok m.world.stop) m.world) := by
    intro going
    rcases here with idle | stop
    · exact watch.rests .stopped idle served assumed
    · rw [going] at stop
      cases stop
  cases going : m.world.stop with
  | true => trivial
  | false =>
      have idle := idle going
      rw [going] at idle
      show wp _ _ (if config.maxConnections.any (· ≤ before.attempts) then _ else _) _
      split
      · trivial
      refine wp_bind.2 (wp_mono (watch.wp_idle (.healthy false) idle) ?_)
      rintro (exc | _) m₁ idle₁
      · trivial
      refine wp_bind.2 (wp_attempt.2 (wp_want rfl fun reply after served assumed => ?_))
      have connected := watch.connects idle₁ served assumed
      cases reply with
      | error exc =>
          refine wp_mono (watch.wp_recover connected) ?_
          intro result m' ended
          match result with
          | .ok (some _) => exact .inl ended
          | .ok none => trivial
          | .error _ => trivial
      | ok _ =>
          refine wp_bind.2 (wp_mono (watch.wp_serveConnection connected) ?_)
          intro result m₂ ended
          match result with
          | .error exc => trivial
          | .ok .cutOff => trivial
          | .ok (.ended outcome) =>
              refine wp_bind.2 (wp_want rfl fun reply after served assumed => ?_)
              cases reply with
              | error exc => trivial
              | ok _ =>
                  cases outcome with
                  | error exc => trivial
                  | ok next =>
                      cases next with
                      | none => trivial
                      | some next =>
                          rcases ended with idle | stop
                          · exact .inl (watch.rests .close idle served assumed)
                          · exact .inr (served.2.1 stop)

/-- **The run rule.**  Wherever a run has come to that began between connections, what is
watched holds of the request it waits on. -/
theorem run (fuel : Nat) {m : FeedMoment} (here : watch.idle m) :
    wp (streaming assume guard).logic (fun _ _ => True) (Data.run config fuel) m := by
  have turns := wp_turns (fun _ => watch.rest) (fun _ => True) (fun _ _ => True)
    (runTurn config fuel) (fun _ _ rest => watch.wp_runTurn rest) fuel (.inl here)
    (b := ⟨0, config.reconnectBase⟩)
  exact wp_mono turns fun _ _ _ => trivial

end Watch

/-- What is watched of the request a run has come to. -/
theorem Watch.reached {config : StreamConfig} {assume : Streamed → List Streamed → Prop}
    {guard : StreamOp → FeedMoment → Prop} (watch : Watch config assume guard) {fuel : Nat}
    {m m' : FeedMoment} {op : StreamOp} {p' : Feed (Option Retry)} (here : watch.idle m)
    (reached : (Data.run config fuel).Reaches FeedServe m p' m') (waits : p'.asks = some op)
    (watched : op.watched = true) (assumed : Along assume m'.events) : guard op m' := by
  have obligation := wp_reaches (C := streaming assume guard) reached assumed (watch.run fuel here)
  obtain ⟨next, rfl⟩ := Prog.request_of_asks waits
  exact obligation.1 watched

/-! ## Played runs -/

/-- What the clock says and what arrives, each in order; a tape that has run out repeats
the time, and nothing more arrives. -/
structure Tape where
  readings : List Timestamp
  receptions : List (Except Exc Reception)

namespace Tape

def clockReading : Streamed → Bool
  | ⟨.clock, _, _, _⟩ => true
  | _ => false

def arrival : Streamed → Bool
  | ⟨.recv, _, _, _⟩ => true
  | _ => false

/-- The venue and the callbacks answer at once, and a backoff takes the time it says. -/
def script (tape : Tape) : Script feed Exc FeedWorld
  | .read, m => (.ok m.world.ingestor, m.world)
  | .assign change, m => (.ok (), { m.world with ingestor := change.apply m.world.ingestor })
  | .stopped, m => (.ok m.world.stop, m.world)
  | .clock, m =>
      let reading := (tape.readings[m.events.countP clockReading]?).getD m.world.now
      (.ok reading, { m.world with now := max m.world.now reading })
  | .recv, m => ((tape.receptions[m.events.countP arrival]?).getD (.ok .timeout), m.world)
  | .connect, m => (.ok (), m.world)
  | .send _, m => (.ok (), m.world)
  | .close, m => (.ok (), m.world)
  | .sleep delay, m => (.ok (), { m.world with now := m.world.now + max 0 delay })
  | .record _ _, m => (.ok (), m.world)
  | .report .., m => (.ok (), m.world)
  | .onCandle _, m => (.ok (), m.world)
  | .onQuote _, m => (.ok (), m.world)
  | .onHealthy _, m => (.ok (), m.world)
  | .onDisconnect .., m => (.ok (), m.world)
  | .gapFill .., m => (.ok (), m.world)

theorem script_sound (tape : Tape) : tape.script.Sound FeedServe := by
  intro op m
  have same : Elapsed m.world m.world := ⟨rfl, id, Int.le_refl _⟩
  cases op with
  | read => exact ⟨rfl, rfl⟩
  | assign change => exact ⟨rfl, rfl⟩
  | stopped => exact ⟨rfl, rfl⟩
  | clock => exact ⟨⟨_, rfl⟩, rfl, id, Int.le_max_left _ _⟩
  | report exc stage attempt backoff => exact ⟨rfl, rfl⟩
  | sleep delay => exact ⟨rfl, id, Int.le_add_of_nonneg_right (Int.le_max_left _ _)⟩
  | _ => exact same

/-- One product, gaps filled, a heartbeat every half minute. -/
def btc : StreamConfig where
  productIds := ["BTC-USD"]
  gapFill := true
  heartbeatTimeout := 30 * second
  reconnectBase := second
  reconnectMax := 30 * second
  healthyConnection := 60 * second
  maxConnections := none

/-- A fresh ingestor. -/
def start (now : Timestamp) : FeedMoment :=
  ⟨⟨⟨none, .empty, .empty, .empty, false⟩, false, now⟩, []⟩

/-- Where a run from a fresh ingestor has come to after so many requests. -/
def after (tape : Tape) (config : StreamConfig) (now : Timestamp) (steps : Nat) :
    Feed (Option Retry) × FeedMoment :=
  (run config steps).advance tape.script steps (start now)

theorem after_reached (tape : Tape) (config : StreamConfig) (now : Timestamp) (steps : Nat) :
    (run config steps).Reaches FeedServe (start now) (tape.after config now steps).1
      (tape.after config now steps).2 :=
  Prog.advance_reaches tape.script_sound steps

end Tape

end AlgoTrader.Data
