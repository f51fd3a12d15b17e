/-
# Data.Heartbeat -- which connections a stale heartbeat ends

A connection is ended when a message arrives more than the timeout after the last
heartbeat, or after the connection was opened while there has been none.  The last
heartbeat is a field of the ingestor and outlives its connection: after an outage
longer than the timeout, the first message of the next connection finds it stale.

* `stale_iff` -- an ending is the connection's own fault exactly when the heartbeat it
  goes by is not from before the connection, or the connection is old enough to have
  had one.

What a connection has heard is read off the events of the run, newest first.
-/
import AlgoTrader.Data.StreamRuns

namespace AlgoTrader.Data

open AlgoTrader.Core Brokers Theory

set_option autoImplicit false

/-! ## Reading a connection off the events -/

def reading : Streamed → Option Timestamp
  | ⟨.clock, .ok at_, _, _⟩ => some at_
  | _ => none

def isConnect : Streamed → Bool
  | ⟨.connect, _, _, _⟩ => true
  | _ => false

def bringsHeartbeat : Streamed → Bool
  | ⟨.recv, .ok (.message (.object payload)), _, _⟩ => payload.isHeartbeat
  | _ => false

/-- When the connection was opened: the first reading of the clock on it. -/
def openedOf : List Streamed → Option Timestamp
  | [] => none
  | e :: earlier => if isConnect e then none else (openedOf earlier).or (reading e)

/-- When the newest message was received: the last reading of the clock. -/
def receivedOf : List Streamed → Option Timestamp
  | [] => none
  | e :: earlier => (reading e).or (receivedOf earlier)

/-- The last heartbeat received on the connection: the clock is read right after it. -/
def heartbeatOf : List Streamed → Option Timestamp
  | [] => none
  | e :: earlier =>
      if isConnect e then none
      else if earlier.head?.any bringsHeartbeat then (reading e).or (heartbeatOf earlier)
      else heartbeatOf earlier

section Silent

variable {e : Streamed} {earlier : List Streamed}

/-- An event that is no connection and no reading of the clock changes none of this. -/
theorem openedOf_silent (silent : reading e = none) (connected : isConnect e = false) :
    openedOf (e :: earlier) = openedOf earlier := by
  rw [openedOf, connected, silent, Option.or_none]
  rfl

theorem receivedOf_silent (silent : reading e = none) :
    receivedOf (e :: earlier) = receivedOf earlier := by
  rw [receivedOf, silent, Option.none_or]

theorem heartbeatOf_silent (silent : reading e = none) (connected : isConnect e = false) :
    heartbeatOf (e :: earlier) = heartbeatOf earlier := by
  rw [heartbeatOf, connected, silent, Option.none_or]
  split
  · rename_i never
    cases never
  · exact ite_self _

end Silent

/-! ## What the ingestor knows -/

/-- The last heartbeat the ingestor knows of. -/
def lastHeartbeat (m : FeedMoment) : Option Timestamp := m.world.ingestor.lastHeartbeat

/-- A connection that is up and has not been heard. -/
structure Fresh (m : FeedMoment) : Prop where
  opened : openedOf m.events = none
  heard : heartbeatOf m.events = none
  quiet : m.events.head?.any bringsHeartbeat = false

/-- What the ingestor knows on a connection opened at `started`. -/
structure Listening (started : Timestamp) (m : FeedMoment) : Prop where
  opened : openedOf m.events = some started
  heard : ∀ at_, heartbeatOf m.events = some at_ → lastHeartbeat m = some at_

/-- A message was received, and is a heartbeat or not; the ingestor has not noted it. -/
structure Arrived (started received : Timestamp) (beats : Bool) (m : FeedMoment) : Prop where
  opened : openedOf m.events = some started
  newest : receivedOf m.events = some received
  heard : ∀ at_, heartbeatOf m.events = some at_ →
    if beats then at_ = received else lastHeartbeat m = some at_

/-- A message that finds the heartbeat too old. -/
structure Overdue (config : StreamConfig) (started received : Timestamp)
    (m : FeedMoment) : Prop where
  listening : Listening started m
  newest : receivedOf m.events = some received
  late : config.heartbeatTimeout < received - (lastHeartbeat m).getD started

/-- Requests that tell nothing about heartbeats. -/
def StreamOp.hears : StreamOp → Bool
  | .clock => true
  | .connect => true
  | .assign (.lastHeartbeat _) => true
  | _ => false

section Quiet

variable (op : StreamOp) {m : FeedMoment} {reply : Except Exc op.Reply} {after : FeedWorld}

theorem silent_of_deaf (deaf : op.hears = false) :
    reading ⟨op, reply, m.world, after⟩ = none ∧
      isConnect ⟨op, reply, m.world, after⟩ = false := by
  cases op with
  | clock => cases deaf
  | connect => cases deaf
  | _ => exact ⟨rfl, rfl⟩

theorem lastHeartbeat_quiet (deaf : op.hears = false) (served : FeedServe op m.world reply after) :
    lastHeartbeat (m.push op reply after) = lastHeartbeat m := by
  by_cases reads : ∃ change, op = .assign change
  · obtain ⟨change, rfl⟩ := reads
    obtain ⟨rfl, rfl⟩ := served
    cases change with
    | lastHeartbeat at_ => cases deaf
    | _ => rfl
  · have same := served.ingestor fun change is => reads ⟨change, is⟩
    exact congrArg Ingestor.lastHeartbeat same

theorem openedOf_quiet (deaf : op.hears = false) :
    openedOf (m.push op reply after).events = openedOf m.events :=
  openedOf_silent (silent_of_deaf op deaf).1 (silent_of_deaf op deaf).2

theorem receivedOf_quiet (deaf : op.hears = false) :
    receivedOf (m.push op reply after).events = receivedOf m.events :=
  receivedOf_silent (silent_of_deaf op (m := m) deaf).1

theorem heartbeatOf_quiet (deaf : op.hears = false) :
    heartbeatOf (m.push op reply after).events = heartbeatOf m.events :=
  heartbeatOf_silent (silent_of_deaf op deaf).1 (silent_of_deaf op deaf).2

theorem Listening.quiet {started : Timestamp} (deaf : op.hears = false)
    (served : FeedServe op m.world reply after) (listening : Listening started m) :
    Listening started (m.push op reply after) where
  opened := by rw [openedOf_quiet op deaf, listening.opened]
  heard at_ heard := by
    rw [heartbeatOf_quiet op deaf] at heard
    rw [lastHeartbeat_quiet op deaf served, listening.heard at_ heard]

theorem Arrived.quiet {started received : Timestamp} {beats : Bool} (deaf : op.hears = false)
    (served : FeedServe op m.world reply after) (arrived : Arrived started received beats m) :
    Arrived started received beats (m.push op reply after) where
  opened := by rw [openedOf_quiet op deaf, arrived.opened]
  newest := by rw [receivedOf_quiet op deaf, arrived.newest]
  heard at_ heard := by
    rw [heartbeatOf_quiet op deaf] at heard
    rw [lastHeartbeat_quiet op deaf served]
    exact arrived.heard at_ heard

theorem Overdue.quiet {config : StreamConfig} {started received : Timestamp}
    (deaf : op.hears = false) (served : FeedServe op m.world reply after)
    (overdue : Overdue config started received m) :
    Overdue config started received (m.push op reply after) where
  listening := overdue.listening.quiet op deaf served
  newest := by rw [receivedOf_quiet op deaf, overdue.newest]
  late := by
    rw [lastHeartbeat_quiet op deaf served]
    exact overdue.late

end Quiet

/-- A connection is opened by the first reading of the clock on it. -/
theorem Fresh.starts {m : FeedMoment} {started : Timestamp} {after : FeedWorld} (fresh : Fresh m) :
    Listening started (m.push .clock (.ok started) after) where
  opened := by
    show (openedOf m.events).or (some started) = some started
    rw [fresh.opened]
    rfl
  heard at_ heard := by
    change (if m.events.head?.any bringsHeartbeat then (some started).or (heartbeatOf m.events)
      else heartbeatOf m.events) = some at_ at heard
    rw [fresh.quiet, fresh.heard] at heard
    cases heard

/-- A message is received when the clock is read right after it. -/
theorem Listening.arrives {started : Timestamp} {m : FeedMoment} {w' : FeedWorld}
    (listening : Listening started m) (received : Timestamp) (payload : Payload) (w : FeedWorld)
    (same : w'.ingestor = m.world.ingestor) :
    Arrived started received payload.isHeartbeat
      ((m.push .recv (.ok (.message (.object payload))) w).push .clock (.ok received) w') where
  opened := by
    show ((openedOf m.events).or none).or (some received) = some started
    rw [listening.opened]
    rfl
  newest := rfl
  heard at_ heard := by
    have before : heartbeatOf (m.push .recv (.ok (.message (.object payload))) w).events =
        heartbeatOf m.events := heartbeatOf_silent rfl rfl
    change (if payload.isHeartbeat then
        (some received).or (heartbeatOf (m.push .recv (.ok (.message (.object payload))) w).events)
      else heartbeatOf (m.push .recv (.ok (.message (.object payload))) w).events) = some at_ at heard
    cases beats : payload.isHeartbeat with
    | true =>
        rw [beats] at heard
        exact (Option.some.inj heard).symm
    | false =>
        rw [beats, before] at heard
        show w'.ingestor.lastHeartbeat = some at_
        rw [same]
        exact listening.heard at_ heard

/-- What the ingestor knows once it has noted the message. -/
theorem Arrived.noted {started received : Timestamp} {m : FeedMoment}
    (arrived : Arrived started received true m) {after : FeedWorld}
    (known : after.ingestor.lastHeartbeat = some received) :
    Listening started (m.push (.assign (.lastHeartbeat received)) (.ok ()) after) where
  opened := by
    show (openedOf m.events).or none = some started
    rw [arrived.opened]
    rfl
  heard at_ heard := by
    have silent : heartbeatOf (m.push (.assign (.lastHeartbeat received)) (.ok ()) after).events =
        heartbeatOf m.events := heartbeatOf_silent rfl rfl
    have before : heartbeatOf m.events = some at_ := silent.symm.trans heard
    have now : at_ = received := arrived.heard at_ before
    exact now ▸ known

theorem Arrived.listening {started received : Timestamp} {m : FeedMoment}
    (arrived : Arrived started received false m) : Listening started m where
  opened := arrived.opened
  heard at_ heard := arrived.heard at_ heard

/-! ## When a connection ends for want of a heartbeat -/

/-- The connection itself has been without a heartbeat for longer than the timeout. -/
def Silence (config : StreamConfig) (started received : Timestamp) (m : FeedMoment) : Prop :=
  config.heartbeatTimeout < received - max started ((heartbeatOf m.events).getD started)

/-- The last heartbeat is no older than the connection, or the connection is older than
the timeout. -/
def Current (config : StreamConfig) (started received : Timestamp) (m : FeedMoment) : Prop :=
  started ≤ (lastHeartbeat m).getD started ∨ config.heartbeatTimeout < received - started

theorem lt_sub_of_le {timeout received started heartbeat : Int}
    (late : timeout < received - heartbeat) (kept : started ≤ heartbeat) :
    timeout < received - started := by
  omega

theorem lt_sub_max_iff {timeout received started heartbeat : Int}
    (late : timeout < received - heartbeat) : timeout < received - max started heartbeat ↔
      started ≤ heartbeat ∨ timeout < received - started := by
  omega

theorem Overdue.silence_iff {config : StreamConfig} {started received : Timestamp} {m : FeedMoment}
    (overdue : Overdue config started received m) :
    Silence config started received m ↔ Current config started received m := by
  have late := overdue.late
  unfold Silence Current
  cases heard : heartbeatOf m.events with
  | none =>
      rw [Option.getD_none, max_self]
      constructor
      · exact .inr
      · intro current
        rcases current with kept | old
        · exact lt_sub_of_le late kept
        · exact old
  | some at_ =>
      rw [overdue.listening.heard at_ heard] at late ⊢
      exact lt_sub_max_iff late

/-! ## Every run -/

/-- What a callback or the transport raised. -/
def raisedBy (e : Streamed) : Option Exc :=
  match e.reply with
  | .error exc => some exc
  | .ok _ => none

/-- Nothing outside the ingestor raises the ingestor's own exception. -/
def NotOurs (e : Streamed) : Prop := raisedBy e ≠ some staleHeartbeat

/-- What holds when a failure is reported that is a stale heartbeat. -/
def ReportedFairly (config : StreamConfig) : StreamOp → FeedMoment → Prop
  | .report exc _ _ _, m => exc = staleHeartbeat → ∃ started received,
      openedOf m.events = some started ∧ receivedOf m.events = some received ∧
        (Silence config started received m ↔ Current config started received m)
  | _, _ => True

def fairly (config : StreamConfig) : Contract feed Exc FeedWorld :=
  streaming (fun e _ => NotOurs e) (ReportedFairly config)

/-- An exception on its way to the handler, where a stale heartbeat is one indeed. -/
def Ended (config : StreamConfig) (exc : Exc) (m : FeedMoment) : Prop :=
  exc = staleHeartbeat → ∃ started received, Overdue config started received m

section Turn

variable {config : StreamConfig} {started : Timestamp} {m : FeedMoment}

theorem ended_of_ne {exc : Exc} (other : exc ≠ staleHeartbeat) : Ended config exc m :=
  fun same => absurd same other

/-- A request that tells nothing about heartbeats. -/
theorem Listening.wp_deaf {op : StreamOp} (deaf : op.hears = false)
    (fair : ∀ m, ReportedFairly config op m) (listening : Listening started m) :
    wp (fairly config).logic (stepPost (Listening started) fun exc _ => exc ≠ staleHeartbeat)
      (want op) m := by
  refine wp_call.2 ⟨fun _ => fair m, fun reply after served notOurs => ⟨trivial, ?_⟩⟩
  cases reply with
  | ok value => exact listening.quiet op deaf served
  | error exc => exact fun same => notOurs (congrArg some same)

theorem Listening.wp_updateBucket {product : String} {candle : Candle}
    (listening : Listening started m) :
    wp (fairly config).logic (stepPost (Listening started) fun exc _ => exc ≠ staleHeartbeat)
      (updateBucket product candle) m := by
  refine wp_step (listening.wp_deaf rfl fun _ => trivial) fun ingestor m₁ listening₁ => ?_
  split
  · exact listening₁
  split
  · exact listening₁.wp_deaf rfl fun _ => trivial
  split
  · exact listening₁
  split
  · refine wp_step (listening₁.wp_deaf rfl fun _ => trivial) fun _ m₂ listening₂ => ?_
    refine wp_step (listening₂.wp_deaf rfl fun _ => trivial) fun _ m₃ listening₃ => ?_
    exact listening₃.wp_deaf rfl fun _ => trivial
  · exact listening₁.wp_deaf rfl fun _ => trivial

theorem Listening.wp_handleCandle {receivedAt : Timestamp} {raw : RawCandle}
    (listening : Listening started m) :
    wp (fairly config).logic (stepPost (Listening started) fun exc _ => exc ≠ staleHeartbeat)
      (handleCandle receivedAt raw) m := by
  unfold handleCandle
  split
  · exact listening
  split
  · exact listening
  split
  · exact fun same => absurd same (by decide)
  · exact listening.wp_updateBucket

theorem Listening.wp_handleTicker {receivedAt : Timestamp} {raw : RawTicker}
    (listening : Listening started m) :
    wp (fairly config).logic (stepPost (Listening started) fun exc _ => exc ≠ staleHeartbeat)
      (handleTicker receivedAt raw) m := by
  unfold handleTicker
  split
  · exact listening
  split
  · exact listening
  split
  · exact fun same => absurd same (by decide)
  split
  · exact fun same => absurd same (by decide)
  · refine wp_step (listening.wp_deaf rfl fun _ => trivial) fun _ m₁ listening₁ => ?_
    exact listening₁.wp_deaf rfl fun _ => trivial

theorem Listening.wp_handlePayload {payload : Payload} {receivedAt : Timestamp}
    (listening : Listening started m) :
    wp (fairly config).logic (stepPost (Listening started) fun exc _ => exc ≠ staleHeartbeat)
      (handlePayload payload receivedAt) m := by
  unfold handlePayload
  split
  · refine wp_visit (fun _ => Listening started) _ _ ?_ listening
    exact fun _ raw _ m₁ _ here => here.wp_handleCandle
  split
  · refine wp_visit (fun _ => Listening started) _ _ ?_ listening
    exact fun _ raw _ m₁ _ here => here.wp_handleTicker
  · exact listening

/-- Noting the message leaves the ingestor listening, and the message the newest one. -/
theorem Arrived.wp_note {received : Timestamp} {beats : Bool}
    (arrived : Arrived started received beats m) :
    wp (fairly config).logic (stepPost (fun m' => Listening started m' ∧
        receivedOf m'.events = some received) fun exc _ => exc ≠ staleHeartbeat)
      (Prog.when beats (want (.assign (.lastHeartbeat received)))) m := by
  cases beats with
  | false => exact ⟨arrived.listening, arrived.newest⟩
  | true =>
      refine wp_want rfl fun reply after served _ => ?_
      obtain ⟨rfl, rfl⟩ := served
      refine ⟨arrived.noted rfl, ?_⟩
      show (none : Option Timestamp).or (receivedOf m.events) = some received
      rw [Option.none_or, arrived.newest]

/-- The end of a turn. -/
theorem Listening.wp_healthy {received : Timestamp} {healthy flag : Bool}
    (listening : Listening started m) :
    wp (fairly config).logic
      (turnPost (fun _ => Listening started) (fun m' => m'.world.stop = true) (Ended config))
      (if flag = true then do
        want (.assign (.connectionHealthy true))
        let _ ← (want (.onHealthy received)).attempt
        return some true
      else return some healthy) m := by
  cases flag with
  | false => exact listening
  | true =>
      refine wp_bind.2 (wp_mono (listening.wp_deaf rfl fun _ => trivial) ?_)
      intro result m₁ listening₁
      cases result with
      | error exc => exact ended_of_ne listening₁
      | ok _ =>
          refine wp_bind.2 (wp_attempt.2 (wp_want rfl fun reply after served _ => ?_))
          exact listening₁.quiet (.onHealthy received) rfl served

theorem Listening.wp_consumeTurn {healthy : Bool} (listening : Listening started m) :
    wp (fairly config).logic
      (turnPost (fun _ => Listening started) (fun m' => m'.world.stop = true) (Ended config))
      (consumeTurn config started healthy) m := by
  refine wp_bind.2 (wp_want rfl fun reply after served _ => ?_)
  have listening₁ := listening.quiet .stopped rfl served
  obtain ⟨rfl, rfl⟩ := served
  cases stop : m.world.stop with
  | true => exact stop
  | false =>
      rw [stop] at listening₁
      refine wp_bind.2 (wp_want rfl fun reply w₁ heard notOurs => ?_)
      match reply with
      | .error exc => exact ended_of_ne fun same => notOurs (congrArg some same)
      | .ok .timeout => exact ended_of_ne (by decide)
      | .ok (.message .notJson) => exact ended_of_ne (by decide)
      | .ok (.message .notObject) => exact ended_of_ne (by decide)
      | .ok (.message (.object payload)) =>
          refine wp_bind.2 (wp_want rfl fun reply w₂ told _ => ?_)
          obtain ⟨⟨received, rfl⟩, same, _⟩ := told
          have arrived := listening₁.arrives received payload w₁ (same.trans heard.1)
          refine wp_bind.2 (wp_want rfl fun reply w₃ recorded notOurs => ?_)
          have arrived₁ := arrived.quiet (.record payload received) rfl recorded
          cases reply with
          | error exc => exact ended_of_ne fun same => notOurs (congrArg some same)
          | ok _ =>
              refine wp_bind.2 (wp_mono arrived₁.wp_note ?_)
              intro result m₄ noted
              cases result with
              | error exc => exact ended_of_ne noted
              | ok _ =>
                  obtain ⟨listening₄, newest⟩ := noted
                  refine wp_bind.2 (wp_want rfl fun reply w₅ read _ => ?_)
                  have listening₅ := listening₄.quiet .read rfl read
                  obtain ⟨rfl, rfl⟩ := read
                  show wp (fairly config).logic _ (if _ then _ else _) _
                  split
                  · rename_i late
                    have overdue : Overdue config started received m₄ := ⟨listening₄, newest, late⟩
                    exact fun _ => ⟨started, received, overdue.quiet .read rfl ⟨rfl, rfl⟩⟩
                  · refine wp_bind.2 (wp_mono listening₅.wp_handlePayload ?_)
                    intro result m₆ handled
                    cases result with
                    | error exc => exact ended_of_ne handled
                    | ok _ => exact handled.wp_healthy

end Turn

theorem fairly_fills {config : StreamConfig} {m : FeedMoment} :
    wp (fairly config).logic (stepPost (fun _ => True) fun _ _ => True) (fillGaps config) m := by
  have plainly : ∀ {op : StreamOp} {m : FeedMoment}, op.watched = false →
      wp (fairly config).logic (stepPost (fun _ => True) fun _ _ => True) (want op) m := by
    intro op m plain
    refine wp_want plain fun reply _ _ _ => ?_
    cases reply with
    | ok _ => trivial
    | error _ => trivial
  refine wp_step (plainly rfl) fun now m₁ _ => ?_
  refine wp_visit (fun _ _ => True) (fun _ _ => True) _ ?_ trivial
  intro _ product _ m₂ _ _
  refine wp_step (plainly rfl) fun ingestor m₃ _ => ?_
  show wp _ _ (if _ then _ else _) _
  split
  · trivial
  · exact wp_step (plainly rfl) fun _ m₄ _ => plainly rfl

/-- Between connections nothing is known of heartbeats. -/
def listens (config : StreamConfig) :
    Watch config (fun e _ => NotOurs e) (ReportedFairly config) where
  idle _ := True
  up := Fresh
  live := Listening
  broken := Ended config
  cleared := Ended config
  rests _ _ _ _ := trivial
  connects {m reply after} _ _ notOurs := by
    cases reply with
    | ok _ => exact ⟨rfl, rfl, rfl⟩
    | error exc => exact ended_of_ne fun same => notOurs (congrArg some same)
  sends {channel m reply after} fresh _ notOurs := by
    cases reply with
    | ok _ =>
        refine ⟨?_, ?_, rfl⟩
        · exact (openedOf_quiet (.send channel) rfl).trans fresh.opened
        · exact (heartbeatOf_quiet (.send channel) rfl).trans fresh.heard
    | error exc => exact ended_of_ne fun same => notOurs (congrArg some same)
  starts fresh _ _ := fresh.starts
  reads := Listening.wp_consumeTurn
  clears ended served _ same := by
    obtain ⟨started, received, overdue⟩ := ended same
    exact ⟨started, received, overdue.quiet (.assign .clearOpenBuckets) rfl served⟩
  reported ended same := by
    obtain ⟨started, received, overdue⟩ := ended same
    exact ⟨started, received, overdue.listening.opened, overdue.newest, overdue.silence_iff⟩
  reports _ _ := trivial
  fills _ := fairly_fills

/-- **The staleness rule.**  In every run, when a connection is ended because its heartbeat
is stale, it has been silent for longer than the timeout exactly when the heartbeat it was
judged by is no older than the connection, or the connection is older than the timeout. -/
theorem stale_iff {config : StreamConfig} {fuel : Nat} {world : FeedWorld} {m : FeedMoment}
    {p : Feed (Option Retry)} {stage : String} {attempt : Nat} {backoff : Duration}
    (reached : (run config fuel).Reaches FeedServe ⟨world, []⟩ p m)
    (ends : p.asks = some (.report staleHeartbeat stage attempt backoff))
    (notOurs : ∀ e ∈ m.events, raisedBy e ≠ some staleHeartbeat) :
    ∃ started received, openedOf m.events = some started ∧ receivedOf m.events = some received ∧
      (Silence config started received m ↔ Current config started received m) :=
  (listens config).reached trivial reached ends rfl (along_of_forall notOurs) rfl

/-! ## An outage longer than the timeout -/

def beat : Message := .object ⟨some "heartbeats", none, []⟩

def noNews : Message := .object ⟨some "subscriptions", none, []⟩

/-- A heartbeat, a lost connection, and a minute later a message on the next one. -/
def outage : Tape where
  readings := [0, second, second, second, 61 * second, 62 * second]
  receptions := [.ok (.message beat), .error (staleMarketData "lost"), .ok (.message noNews)]

/-- Where the second connection is ended, a second after it was opened. -/
def outageEnds : Feed (Option Retry) × FeedMoment := outage.after Tape.btc 0 42

theorem outageEnds_reported :
    outageEnds.1.asks = some (.report staleHeartbeat "consume" 2 (2 * second)) := by
  rfl

theorem outageEnds_notOurs : ∀ e ∈ outageEnds.2.events, raisedBy e ≠ some staleHeartbeat := by
  decide

theorem stale_iff_outage : ∃ started received, openedOf outageEnds.2.events = some started ∧
    receivedOf outageEnds.2.events = some received ∧
      (Silence Tape.btc started received outageEnds.2 ↔
        Current Tape.btc started received outageEnds.2) :=
  stale_iff (outage.after_reached Tape.btc 0 42) outageEnds_reported outageEnds_notOurs

/-- A heartbeat left over from an earlier connection does end a new one. -/
theorem outage_ends_fresh : ¬ ∀ (config : StreamConfig) (fuel : Nat) (world : FeedWorld)
    (p : Feed (Option Retry)) (m : FeedMoment) (stage : String) (attempt : Nat) (backoff : Duration),
    (run config fuel).Reaches FeedServe ⟨world, []⟩ p m →
    p.asks = some (.report staleHeartbeat stage attempt backoff) →
    (∀ e ∈ m.events, raisedBy e ≠ some staleHeartbeat) →
    ∃ started received, openedOf m.events = some started ∧ receivedOf m.events = some received ∧
      Silence config started received m := by
  intro claimed
  obtain ⟨started, received, opened, newest, silent⟩ := claimed _ _ _ _ _ _ _ _
    (outage.after_reached Tape.btc 0 42) outageEnds_reported outageEnds_notOurs
  have first : openedOf outageEnds.2.events = some (61 * second) := by rfl
  have last : receivedOf outageEnds.2.events = some (62 * second) := by rfl
  have none_heard : heartbeatOf outageEnds.2.events = none := by rfl
  cases first.symm.trans opened
  cases last.symm.trans newest
  change _ < _ - max _ ((heartbeatOf outageEnds.2.events).getD _) at silent
  rw [none_heard] at silent
  revert silent
  decide

end AlgoTrader.Data
