/-
# App.FeedControl -- turning the watch feed on and off

An administrator turns the watch feed on and off while the service runs.  The choice is one row that outlives
the process; a change of it and its audit event are one transaction.  The feed is a task that a controller
owns.  A request gives way for its body and for the task it has told to stop, and other requests go between.

* `startFeed_wp`, `stopFeed_wp`, `save_wp` -- what the controller and the transaction come to;
* `setFeed_meets` -- what each turn of a request does to the feed and to the row;
* `startWatchFeed_settled` -- what a start of the service leaves;
* `feed_follows_choice_iff` -- over every order of turns and every restart, the feed runs just when the saved
  choice says so, unless a transaction went wrong in one of two ways;
* `one_feed`, `changes_audited` -- there is never a second feed, and the audit events are a chain.
-/
import AlgoTrader.Brokers.Json
import AlgoTrader.Core.Models
import AlgoTrader.Core.Text
import AlgoTrader.Theory.Frames
import AlgoTrader.Theory.Tasks

namespace AlgoTrader.App.FeedControl

open AlgoTrader.Core
open AlgoTrader.Brokers (Json)
open AlgoTrader.Theory

set_option autoImplicit false

/-! ## The saved choice -/

/-- `OperatorSettingRecord`, under `FEED_SETTING_KEY`. -/
structure SettingRow where
  value : String
  updatedAt : Timestamp
  updatedBy : String
  deriving DecidableEq

structure FeedChoice where
  enabled : Bool
  changedBy : String
  changedAt : Timestamp

/-- The `watch_feed_change` event. -/
structure FeedEvent where
  action : String
  previous : Bool
  enabled : Bool
  role : String
  createdAt : Timestamp
  deriving DecidableEq

structure FeedOrigin where
  source : String
  changedBy : Option String
  changedAt : Option Timestamp
  detail : Option String
  deriving DecidableEq

/-- `_ON` and `_OFF`. -/
def flag (enabled : Bool) : String := if enabled then "1" else "0"

theorem flag_inj {a b : Bool} : flag a = flag b ↔ a = b := by
  cases a <;> cases b <;> decide

/-! ## The services -/

/-- A feed the controller built: how many were built before it. -/
abbrev FeedId := Nat

inductive Op where
  /-- `_body(request)`, and the field `enabled` of it. -/
  | body
  /-- `self.feed`, with its task, its stop event and its release: they are set and cleared together. -/
  | held
  /-- Assigning them. -/
  | hold (feed : Option FeedId)
  | build
  | createTask (feed : FeedId)
  | publish (feed : Option FeedId)
  /-- `stop.set()` and `task.cancel()`. -/
  | cancel (feed : FeedId)
  /-- `await task`. -/
  | join (feed : FeedId)
  | release (feed : FeedId)
  | utcNow
  /-- `session.get(OperatorSettingRecord, FEED_SETTING_KEY)`. -/
  | getRow
  /-- The transaction of `save`: the row is added or written over, and the event is added. -/
  | commit (row : SettingRow) (event : FeedEvent)
  /-- A new `WatchFeedController`. -/
  | controller (origin : FeedOrigin)
  | assignOrigin (origin : FeedOrigin)

abbrev Services : Signature where
  Op := Op
  Reply
    | .body => Json
    | .held => Option FeedId
    | .build => FeedId
    | .utcNow => Timestamp
    | .getRow => Option SettingRow
    | _ => Unit

inductive Raised where
  | sqlAlchemy
  /-- `FeedSettingError`. -/
  | setting (message : String)
  | exception
  /-- `asyncio.CancelledError`, which is no `Exception`. -/
  | cancelled
  deriving DecidableEq

abbrev Method (α : Type) := Prog Services Raised α

def ask (op : Op) : Method (Services.Reply op) := Prog.call (S := Services) op

/-- A transaction of `save`: whether it committed, what was raised all the same, and whether the last start had
not been able to read the choice. -/
structure Attempt where
  event : FeedEvent
  committed : Bool
  raised : Option Raised
  unread : Bool

structure World where
  row : Option SettingRow
  /-- Newest first, those of earlier starts among them. -/
  attempts : List Attempt
  feed : Option FeedId
  /-- `application.state.watch_feed`. -/
  published : Option FeedId
  origin : FeedOrigin
  built : Nat
  tasks : List FeedId
  /-- The tasks that were told to stop. -/
  told : List FeedId
  released : List FeedId
  /-- The last start could not read the choice, and none has been committed since. -/
  unread : Bool

/-- The row that is there after the transactions, on top of the first one. -/
def rowAfter (row₀ : Option SettingRow) : List Attempt → Option SettingRow
  | [] => row₀
  | attempt :: older =>
      if attempt.committed then
        some ⟨flag attempt.event.enabled, attempt.event.createdAt, attempt.event.role⟩
      else rowAfter row₀ older

namespace World

def tried (w : World) (row : SettingRow) (event : FeedEvent) (committed : Bool) (raised : Option Raised) : World :=
  { w with
    row := if committed then some row else w.row
    attempts := ⟨event, committed, raised, w.unread⟩ :: w.attempts
    unread := w.unread && !committed }

end World

/-- The attributes, the clock and the release are exact.  A transaction that raises may have committed. -/
def serve : Service Services Raised World
  | .body, w, _, after_ => after_ = w
  | .held, w, reply, after_ => reply = .ok w.feed ∧ after_ = w
  | .hold feed, w, reply, after_ => reply = .ok () ∧ after_ = { w with feed }
  | .build, w, reply, after_ =>
      (reply = .ok w.built ∧ after_ = { w with built := w.built + 1 }) ∨
        ((∃ error, reply = .error error) ∧ after_ = w)
  | .createTask feed, w, reply, after_ =>
      (reply = .ok () ∧ after_ = { w with tasks := feed :: w.tasks }) ∨
        ((∃ error, reply = .error error) ∧ after_ = w)
  | .publish feed, w, reply, after_ => reply = .ok () ∧ after_ = { w with published := feed }
  | .cancel feed, w, reply, after_ => reply = .ok () ∧ after_ = { w with told := feed :: w.told }
  | .join _, w, _, after_ => after_ = w
  | .release feed, w, reply, after_ => reply = .ok () ∧ after_ = { w with released := feed :: w.released }
  | .utcNow, w, reply, after_ => (∃ now, reply = .ok now) ∧ after_ = w
  | .getRow, w, reply, after_ => (reply = .ok w.row ∨ ∃ error, reply = .error error) ∧ after_ = w
  | .commit row event, w, reply, after_ =>
      (reply = .ok () ∧ after_ = w.tried row event true none) ∨
        ∃ error committed, (error = .sqlAlchemy ∨ error = .exception) ∧ reply = .error error ∧
          after_ = w.tried row event committed (some error)
  | .controller origin, w, reply, after_ =>
      reply = .ok () ∧ after_ = { w with feed := none, origin, unread := origin.source == "unreadable" }
  | .assignOrigin origin, w, reply, after_ => reply = .ok () ∧ after_ = { w with origin }

/-- The requests that are awaited. -/
def awaits : Op → Bool
  | .body | .join _ => true
  | _ => false

def loop : Theory.Loop Services Raised World := ⟨serve, awaits⟩

/-! ## The controller and the setting -/

/-- `WatchFeedController.start`. -/
def startFeed : Method Unit := do
  match ← ask .held with
  | some _ => return
  | none =>
      let feed ← ask .build
      match ← (ask (.createTask feed)).attempt with
      | .ok () =>
          ask (.hold (some feed))
          ask (.publish (some feed))
      | .error error =>
          ask (.release feed)
          .raise error

/-- `WatchFeedController.stop`. -/
def stopFeed : Method Unit := do
  match ← ask .held with
  | none => return
  | some feed =>
      ask (.hold none)
      ask (.publish none)
      ask (.cancel feed)
      let ended ← (ask (.join feed)).attempt
      ask (.release feed)
      match ended with
      | .ok () => return
      | .error .cancelled => return
      | .error error => .raise error

/-- `SqlAlchemyFeedSetting.read`. -/
def read : Method (Option FeedChoice) := do
  match ← (ask .getRow).attempt with
  | .ok none => return none
  | .ok (some row) =>
      if row.value = flag true ∨ row.value = flag false then
        return some ⟨row.value = flag true, row.updatedBy, row.updatedAt⟩
      else .raise (.setting "The saved on/off choice is not a valid value.")
  | .error .sqlAlchemy => .raise (.setting "The saved on/off choice could not be read.")
  | .error error => .raise error

/-- `SqlAlchemyFeedSetting.save`. -/
def save (enabled previous : Bool) (role : String) : Method FeedChoice := do
  let moment ← ask .utcNow
  let event : FeedEvent := ⟨if enabled then "enable" else "disable", previous, enabled, role, moment⟩
  match ← (ask (.commit ⟨flag enabled, moment, role⟩ event)).attempt with
  | .ok () => return ⟨enabled, role, moment⟩
  | .error .sqlAlchemy => .raise (.setting "The on/off choice could not be saved.")
  | .error error => .raise error

/-- Whether `start_watch_feed` starts the feed, and why; `default` is `config.enabled`. -/
def startChoice (default : Bool) : Method (Bool × FeedOrigin) := do
  match ← read.attempt with
  | .ok none => return (default, ⟨"environment", none, none, none⟩)
  | .ok (some choice) => return (choice.enabled, ⟨"saved", some choice.changedBy, some choice.changedAt, none⟩)
  | .error (.setting message) =>
      return (false, ⟨"unreadable", none, none, some (message ++ " The feed is off until it is saved.")⟩)
  | .error error => .raise error

/-- `start_watch_feed`, once it has the configuration and the engine. -/
def startWatchFeed (default : Bool) : Method Unit := do
  let (enabled, origin) ← startChoice default
  ask (.controller origin)
  ask (.publish none)
  Prog.when enabled startFeed

/-! ## The request -/

/-- `_parse_enabled`. -/
def parseEnabled (raw : Json) : Option Bool :=
  match raw with
  | .bool enabled => some enabled
  | raw =>
      let text := Brokers.lower (String.ofList (Text.strip raw.str.toList))
      if text ∈ ["1", "true", "on"] then some true
      else if text ∈ ["0", "false", "off"] then some false
      else none

inductive Answer where
  | refused (errors : List String)
  | unavailable (reason : String)
  | done (status : String) (enabled : Bool)

/-- The inner `try` of `set_feed`. -/
def saveOrStop (wanted was : Bool) (role : String) : Method FeedChoice := do
  match ← (save wanted was role).attempt with
  | .ok choice => return choice
  | .error (.setting message) =>
      Prog.when wanted stopFeed
      .raise (.setting message)
  | .error error => .raise error

/-- The outer `try` of `set_feed`. -/
def change (wanted was : Bool) (role : String) : Method FeedChoice := do
  Prog.when wanted startFeed
  let choice ← saveOrStop wanted was role
  Prog.when (!wanted) stopFeed
  return choice

/-- `set_feed`, for a request `_authorize` let through with a role. -/
def setFeed (role : String) (configured : Bool) : Method Answer := do
  let raw ← ask .body
  match parseEnabled raw with
  | none => return .refused ["Choose to turn the feed on or off."]
  | some wanted =>
      if configured then
        let was := (← ask .held).isSome
        if wanted = was then return .done "unchanged" wanted
        else
          match ← (change wanted was role).attempt with
          | .ok choice =>
              ask (.assignOrigin ⟨"saved", some choice.changedBy, some choice.changedAt, none⟩)
              return .done (if wanted then "turned_on" else "turned_off") wanted
          | .error (.setting message) => return .unavailable message
          | .error .cancelled => .raise .cancelled
          | .error _ => return .unavailable "the watch-only feed could not be changed"
      else return .unavailable "the watch-only feed is not configured in this process"

/-- A request: the role it has, and whether the feed is configured. -/
structure Request where
  role : String
  configured : Bool

def handle (request : Request) : Method Answer := setFeed request.role request.configured

/-! ## What holds whenever the loop is free -/

/-- The task that was not told to stop, if there is one, is the held feed's, and the held feed is published. -/
structure OneFeed (w : World) : Prop where
  published : w.published = w.feed
  running : ∀ feed, w.feed = some feed → feed ∈ w.tasks ∧ feed ∉ w.told
  told : ∀ feed ∈ w.tasks, feed ∉ w.told → w.feed = some feed
  known : ∀ feed, feed ∈ w.tasks ∨ feed ∈ w.told → feed < w.built

/-- What the row says, where there is one. -/
def said (default : Bool) : Option SettingRow → String
  | none => flag default
  | some row => row.value

/-- The feed runs just when the saved choice says so; after a start that could not read it, not at all. -/
def Settled (default : Bool) (w : World) : Prop :=
  if w.unread then w.feed = none else said default w.row = flag w.feed.isSome

theorem settled_readable {default : Bool} {w : World} (readable : w.unread = false)
    (reads : said default w.row = flag w.feed.isSome) : Settled default w := by
  rwa [Settled, readable, if_neg Bool.false_ne_true]

theorem settled_unreadable {default : Bool} {w : World} (unreadable : w.unread = true) (off : w.feed = none) :
    Settled default w := by
  rwa [Settled, unreadable, if_pos rfl]

/-- It raised as `save` is written for: without a commit, or past the handler that stops the feed with one. -/
def Attempt.harmless (attempt : Attempt) : Bool :=
  match attempt.raised with
  | none => true
  | some error => attempt.committed == (attempt.event.enabled && error != .sqlAlchemy)

/-- What one turn may do. -/
inductive Turned (default : Bool) (w w' : World) : Prop
  /-- Nothing was saved, and what runs stays. -/
  | idle (row : w'.row = w.row) (attempts : w'.attempts = w.attempts) (unread : w'.unread = w.unread)
      (feed : w'.feed = w.feed) (one : OneFeed w → OneFeed w')
  /-- The opposite of what runs was to be saved. -/
  | tried (attempt : Attempt) (attempts : w'.attempts = attempt :: w.attempts)
      (opposite : attempt.event.enabled = !w.feed.isSome) (previous : attempt.event.previous = w.feed.isSome)
      (unread : attempt.unread = w.unread) (row : w'.row = rowAfter w.row [attempt])
      (settled : Settled default w → (Settled default w' ↔ attempt.harmless = true))
      (one : OneFeed w → OneFeed w')

/-! ## The parts of a request -/

section Parts

variable {gives : World → World → Prop}

theorem wp_held {α : Type} {post : Except Raised α → World × World → Prop} {turn : World × World}
    {f : Option FeedId → Method α} : wp (loop.logic gives) post (ask .held >>= f) turn ↔
      wp (loop.logic gives) post (f turn.2.feed) turn := by
  refine wp_bind.trans ((Theory.Loop.wp_keeps rfl).trans ⟨fun replied => replied _ _ ⟨rfl, rfl⟩, ?_⟩)
  rintro goes _ _ ⟨rfl, rfl⟩
  exact goes

/-- A request that is exact and cannot fail. -/
theorem wp_exact {op : Op} {α : Type} {post : Except Raised α → World × World → Prop} {turn : World × World}
    {f : Services.Reply op → Method α} {value : Services.Reply op} {after_ : World}
    (keeps : awaits op = false)
    (only : ∀ reply w', serve op turn.2 reply w' → reply = .ok value ∧ w' = after_)
    (goes : wp (loop.logic gives) post (f value) (turn.1, after_)) :
    wp (loop.logic gives) post (ask op >>= f) turn := by
  refine wp_bind.2 ((Theory.Loop.wp_keeps keeps).2 fun reply w' served => ?_)
  obtain ⟨rfl, rfl⟩ := only reply w' served
  exact goes

/-- The world with the feed that was built in it started. -/
def World.started (w : World) : World :=
  { w with
    built := w.built + 1
    tasks := w.built :: w.tasks
    feed := some w.built
    published := some w.built }

/-- The world with the feed it holds told to stop. -/
def World.stopped (w : World) (feed : FeedId) : World :=
  { w with feed := none, published := none, told := feed :: w.told }

/-- What a start that raised leaves behind. -/
structure NotStarted (w w' : World) : Prop where
  row : w'.row = w.row
  attempts : w'.attempts = w.attempts
  unread : w'.unread = w.unread
  feed : w'.feed = w.feed
  one : OneFeed w → OneFeed w'

theorem startFeed_wp {post : Except Raised Unit → World × World → Prop} {turn : World × World}
    (off : turn.2.feed = none) (started : post (.ok ()) (turn.1, turn.2.started))
    (raised : ∀ error w', NotStarted turn.2 w' → post (.error error) (turn.1, w')) :
    wp (loop.logic gives) post startFeed turn := by
  refine wp_held.2 ?_
  rw [off]
  refine wp_bind.2 ((Theory.Loop.wp_keeps rfl).2 ?_)
  rintro reply w' (⟨rfl, rfl⟩ | ⟨⟨error, rfl⟩, rfl⟩)
  · refine wp_bind.2 (wp_attempt.2 ((Theory.Loop.wp_keeps rfl).2 ?_))
    rintro reply w' (⟨rfl, rfl⟩ | ⟨⟨error, rfl⟩, rfl⟩)
    · refine wp_exact rfl (fun _ _ served => served) ?_
      refine (Theory.Loop.wp_keeps rfl).2 ?_
      rintro _ _ ⟨rfl, rfl⟩
      exact started
    · refine wp_exact rfl (fun _ _ served => served) (raised error _ ⟨rfl, rfl, rfl, rfl, fun one => ?_⟩)
      exact ⟨one.published, one.running, one.told, fun feed there => (one.known feed there).trans (Nat.lt_succ_self _)⟩
  · exact raised error turn.2 ⟨rfl, rfl, rfl, rfl, fun one => one⟩

/-- What `stop` still does when the task has ended. -/
def released (w : World) (feed : FeedId) : World := { w with released := feed :: w.released }

theorem stopFeed_wp {post : Except Raised Unit → World × World → Prop} {turn : World × World} {feed : FeedId}
    (on : turn.2.feed = some feed) (waits : gives turn.1 (turn.2.stopped feed))
    (ended : ∀ before result, post result (before, released before feed)) :
    wp (loop.logic gives) post stopFeed turn := by
  refine wp_held.2 ?_
  rw [on]
  refine wp_exact rfl (fun _ _ served => served) (wp_exact rfl (fun _ _ served => served) ?_)
  refine wp_exact rfl (fun _ _ served => served) ?_
  refine wp_bind.2 (wp_attempt.2 ((Theory.Loop.wp_waits rfl).2 ⟨waits, ?_⟩))
  rintro before reply _ rfl
  refine wp_exact rfl (fun _ _ served => served) ?_
  split
  · exact ended _ _
  · exact ended _ _
  · exact ended _ _

/-- The event of a change. -/
def eventOf (enabled previous : Bool) (role : String) (moment : Timestamp) : FeedEvent :=
  ⟨if enabled then "enable" else "disable", previous, enabled, role, moment⟩

def World.saving (w : World) (enabled previous : Bool) (role : String) (moment : Timestamp) (committed : Bool)
    (raised : Option Raised) : World :=
  w.tried ⟨flag enabled, moment, role⟩ (eventOf enabled previous role moment) committed raised

theorem save_wp {post : Except Raised FeedChoice → World × World → Prop} {turn : World × World}
    {enabled previous : Bool} {role : String}
    (saved : ∀ moment, post (.ok ⟨enabled, role, moment⟩)
      (turn.1, turn.2.saving enabled previous role moment true none))
    (refused : ∀ moment committed, post (.error (.setting "The on/off choice could not be saved."))
      (turn.1, turn.2.saving enabled previous role moment committed (some .sqlAlchemy)))
    (escaped : ∀ moment committed, post (.error .exception)
      (turn.1, turn.2.saving enabled previous role moment committed (some .exception))) :
    wp (loop.logic gives) post (save enabled previous role) turn := by
  refine wp_bind.2 ((Theory.Loop.wp_keeps rfl).2 ?_)
  rintro _ _ ⟨⟨moment, rfl⟩, rfl⟩
  refine wp_bind.2 (wp_attempt.2 ((Theory.Loop.wp_keeps rfl).2 ?_))
  rintro _ _ (⟨rfl, rfl⟩ | ⟨error, committed, rfl | rfl, rfl, rfl⟩)
  · exact saved moment
  · exact refused moment committed
  · exact escaped moment committed

end Parts

/-! ## A turn of a request -/

/-- Whether a feed runs after the turn that made this attempt. -/
def Attempt.leaves (attempt : Attempt) : Bool :=
  match attempt.raised with
  | none => attempt.event.enabled
  | some error => !attempt.event.enabled || error != .sqlAlchemy

theorem OneFeed.started {w : World} (one : OneFeed w) (off : w.feed = none) : OneFeed w.started where
  published := rfl
  running feed held := by
    cases held
    exact ⟨List.mem_cons_self .., fun gone => lt_irrefl _ (one.known _ (.inr gone))⟩
  told feed there stays := by
    rcases List.mem_cons.1 there with rfl | older
    · rfl
    · exact absurd (one.told feed older stays) (by rw [off]; nofun)
  known feed there := by
    rcases there with new | gone
    · rcases List.mem_cons.1 new with rfl | older
      · exact Nat.lt_succ_self _
      · exact (one.known feed (.inl older)).trans (Nat.lt_succ_self _)
    · exact (one.known feed (.inr gone)).trans (Nat.lt_succ_self _)

theorem OneFeed.stopped {w : World} {feed : FeedId} (one : OneFeed w) (on : w.feed = some feed) :
    OneFeed (w.stopped feed) where
  published := rfl
  running other held := by cases held
  told other there stays := by
    have held := one.told other there fun gone => stays (List.mem_cons_of_mem _ gone)
    rw [on] at held
    cases held
    exact absurd (List.mem_cons_self ..) stays
  known other there := by
    rcases there with older | gone
    · exact one.known other (.inl older)
    · rcases List.mem_cons.1 gone with rfl | older
      · exact one.known other (.inl (one.running other on).1)
      · exact one.known other (.inr older)

theorem OneFeed.saving {w : World} {enabled previous committed : Bool} {role : String} {moment : Timestamp}
    {raised : Option Raised} (one : OneFeed w) :
    OneFeed (w.saving enabled previous role moment committed raised) :=
  ⟨one.published, one.running, one.told, one.known⟩

/-- Whether the turn of a transaction left the feed as the choice says is whether the transaction was harmless. -/
theorem settled_tried {default : Bool} {w w' : World} {attempt : Attempt}
    (opposite : attempt.event.enabled = !w.feed.isSome) (row : w'.row = rowAfter w.row [attempt])
    (unread : w'.unread = (w.unread && !attempt.committed)) (always : attempt.raised = none → attempt.committed = true)
    (leaves : w'.feed.isSome = attempt.leaves) (settled : Settled default w) :
    Settled default w' ↔ attempt.harmless = true := by
  have off : w'.feed = none ↔ w'.feed.isSome = false := by
    rw [Option.isSome_eq_false_iff, Option.isNone_iff_eq_none]
  unfold Settled
  rw [off, row, unread, leaves]
  cases committed : attempt.committed with
  | true =>
    -- The row says what was to be saved, so it counts whether the turn left that running.
    have reads : said default (rowAfter w.row [attempt]) = flag attempt.event.enabled := by
      simp only [rowAfter, committed, if_pos, said]
    rw [reads, flag_inj, Bool.not_true, Bool.and_false, if_neg Bool.false_ne_true]
    unfold Attempt.leaves Attempt.harmless
    cases attempt.raised <;> cases attempt.event.enabled <;> simp [committed]
  | false =>
    -- The row stays, so it counts whether the turn left what ran before.
    have raised : attempt.raised ≠ none := fun none_ => by simp [always none_] at committed
    obtain ⟨error, raised⟩ := Option.ne_none_iff_exists'.1 raised
    have reads : rowAfter w.row [attempt] = w.row := by simp only [rowAfter, committed, Bool.false_eq_true, if_false]
    rw [reads, Bool.not_false, Bool.and_true]
    unfold Settled at settled
    unfold Attempt.leaves Attempt.harmless
    rw [raised, opposite, committed]
    cases unreadable : w.unread with
    | true =>
      rw [unreadable, if_pos rfl] at settled
      simp [settled]
    | false =>
      rw [unreadable, if_neg Bool.false_ne_true] at settled
      rw [if_neg Bool.false_ne_true, settled, flag_inj]
      cases w.feed.isSome <;> simp

theorem NotStarted.turned {default : Bool} {w w' : World} (not : NotStarted w w') : Turned default w w' :=
  .idle not.row not.attempts not.unread not.feed not.one

theorem turned_refl (default : Bool) (w : World) : Turned default w w := .idle rfl rfl rfl rfl fun one => one

/-- The turn in which the opposite of what ran was to be saved, whatever it then did to the feed. -/
theorem turned_saving {default : Bool} {w w' : World} {wanted committed : Bool} {role : String} {moment : Timestamp}
    {raised : Option Raised} (opposite : wanted = !w.feed.isSome)
    (attempts : w'.attempts = ⟨eventOf wanted w.feed.isSome role moment, committed, raised, w.unread⟩ :: w.attempts)
    (row : w'.row = rowAfter w.row [⟨eventOf wanted w.feed.isSome role moment, committed, raised, w.unread⟩])
    (always : raised = none → committed = true)
    (unread : w'.unread = (w.unread && !committed))
    (leaves : w'.feed.isSome =
      Attempt.leaves ⟨eventOf wanted w.feed.isSome role moment, committed, raised, w.unread⟩)
    (one : OneFeed w → OneFeed w') : Turned default w w' :=
  .tried _ attempts opposite rfl rfl row (settled_tried opposite row unread always leaves) one

/-- A release and a new origin say nothing about what runs. -/
theorem turned_released (default : Bool) (w : World) (feed : FeedId) : Turned default w (released w feed) :=
  .idle rfl rfl rfl rfl fun one => ⟨one.published, one.running, one.told, one.known⟩

theorem Turned.origin {default : Bool} {w w' : World} (turned : Turned default w w') (origin : FeedOrigin) :
    Turned default w { w' with origin } := by
  have frame : OneFeed w' → OneFeed { w' with origin } := fun one => ⟨one.published, one.running, one.told, one.known⟩
  cases turned with
  | idle row attempts unread feed one => exact .idle row attempts unread feed fun before => frame (one before)
  | tried attempt attempts opposite previous unread row settled one =>
    exact .tried attempt attempts opposite previous unread row settled fun before => frame (one before)

theorem change_turned (default : Bool) {w : World} {wanted : Bool} (role : String)
    (opposite : wanted = !w.feed.isSome) :
    wp (loop.logic (Turned default)) (fun _ turn => Turned default turn.1 turn.2)
      (change wanted w.feed.isSome role) (w, w) := by
  cases wanted with
  | true =>
    have off : w.feed = none := by
      rwa [eq_comm, Bool.not_eq_true', Option.isSome_eq_false_iff, Option.isNone_iff_eq_none] at opposite
    refine wp_bind.2 (startFeed_wp off ?_ fun error w' not => not.turned)
    refine wp_bind.2 (wp_bind.2 (wp_attempt.2 (save_wp (fun moment => ?_) (fun moment committed => ?_)
      fun moment committed => ?_)))
    · exact turned_saving opposite rfl rfl (fun _ => rfl) rfl rfl fun one => (one.started off).saving
    · refine wp_bind.2 (stopFeed_wp rfl ?_ fun before result => ?_)
      · exact turned_saving opposite rfl rfl nofun rfl rfl fun one => (one.started off).saving.stopped rfl
      · cases result with
        | ok _ => exact turned_released default before w.built
        | error error => exact turned_released default before w.built
    · exact turned_saving opposite rfl rfl nofun rfl rfl fun one => (one.started off).saving
  | false =>
    have on : w.feed.isSome = true := by rwa [eq_comm, Bool.not_eq_false'] at opposite
    obtain ⟨feed, held⟩ := Option.isSome_iff_exists.1 on
    refine wp_bind.2 (wp_bind.2 (wp_bind.2 (wp_attempt.2 (save_wp (fun moment => ?_) (fun moment committed => ?_)
      fun moment committed => ?_))))
    · refine wp_bind.2 (stopFeed_wp held ?_ fun before result => ?_)
      · exact turned_saving opposite rfl rfl (fun _ => rfl) rfl rfl fun one => one.saving.stopped held
      · cases result with
        | ok _ => exact turned_released default before feed
        | error error => exact turned_released default before feed
    · exact turned_saving opposite rfl rfl nofun rfl on OneFeed.saving
    · exact turned_saving opposite rfl rfl nofun rfl on OneFeed.saving

theorem setFeed_meets (default : Bool) (request : Request) (w : World) :
    loop.Meets (fun _ _ => Turned default) request (handle request) (w, w) := by
  refine wp_bind.2 ((Theory.Loop.wp_waits rfl).2 ⟨turned_refl default w, ?_⟩)
  rintro _ reply before rfl
  cases reply with
  | error error => exact turned_refl default before
  | ok raw =>
    change wp _ _ (match parseEnabled raw with | none => _ | some wanted => _) _
    split
    · exact turned_refl default before
    · rename_i wanted _
      split
      · refine wp_held.2 ?_
        dsimp only
        split
        · exact turned_refl default before
        · rename_i other
          have opposite : wanted = !before.feed.isSome := Bool.eq_not_of_ne other
          refine wp_bind.2 (wp_attempt.2 (wp_mono (change_turned default request.role opposite) ?_))
          rintro result ⟨start, here⟩ turned
          cases result with
          | ok choice => exact wp_bind.2 ((Theory.Loop.wp_keeps rfl).2 fun _ _ served => by
              obtain ⟨rfl, rfl⟩ := served
              exact turned.origin _)
          | error error =>
            cases error with
            | sqlAlchemy => exact turned
            | setting message => exact turned
            | exception => exact turned
            | cancelled => exact turned
      · exact turned_refl default before

/-! ## Starts of the service -/

/-- A new process: nothing runs in it, and what was saved is there. -/
def World.fresh (row : Option SettingRow) (attempts : List Attempt) : World where
  row := row
  attempts := attempts
  feed := none
  published := none
  origin := ⟨"environment", none, none, none⟩
  built := 0
  tasks := []
  told := []
  released := []
  unread := false

/-- What a start leaves behind, when it returns. -/
structure Began (default : Bool) (w w' : World) : Prop where
  row : w'.row = w.row
  attempts : w'.attempts = w.attempts
  settled : Settled default w'
  one : OneFeed w'

/-- The choice a start makes is what the row says, and nothing runs where the row could not be read. -/
theorem startChoice_wp {gives : World → World → Prop} {default : Bool} {turn : World × World}
    {post : Except Raised (Bool × FeedOrigin) → World × World → Prop}
    (chosen : ∀ enabled origin, origin.source ≠ "unreadable" → said default turn.2.row = flag enabled →
      post (.ok (enabled, origin)) turn)
    (unreadable : ∀ origin, origin.source = "unreadable" → post (.ok (false, origin)) turn)
    (raised : ∀ error, post (.error error) turn) :
    wp (loop.logic gives) post (startChoice default) turn := by
  refine wp_bind.2 (wp_attempt.2 (wp_bind.2 (wp_attempt.2 ((Theory.Loop.wp_keeps rfl).2 ?_))))
  rintro _ _ ⟨rfl | ⟨error, rfl⟩, rfl⟩
  · cases found : turn.2.row with
    | none => exact chosen default _ (by decide) (by rw [found]; rfl)
    | some row =>
      change wp _ _ (if _ then _ else _) _
      split
      · rename_i known
        refine chosen _ _ (show "saved" ≠ "unreadable" by decide) ?_
        rw [found]
        rcases known with on | off
        · rw [said, on, decide_eq_true rfl]
        · rw [said, off, decide_eq_false (by decide)]
      · exact unreadable _ rfl
  · cases error with
    | sqlAlchemy => exact unreadable _ rfl
    | setting message => exact unreadable _ rfl
    | exception => exact raised _
    | cancelled => exact raised _

theorem oneFeed_fresh (row : Option SettingRow) (attempts : List Attempt) (origin : FeedOrigin) (unread : Bool) :
    OneFeed { World.fresh row attempts with origin, unread } where
  published := rfl
  running feed held := by cases held
  told feed there := by cases there
  known feed there := by
    rcases there with there | there
    · cases there
    · cases there

theorem startWatchFeed_began (default : Bool) (row : Option SettingRow) (attempts : List Attempt) :
    loop.Meets (fun _ outcome w w' => outcome = some (.ok ()) → Began default w w') ()
      (startWatchFeed default) (.fresh row attempts, .fresh row attempts) := by
  refine wp_bind.2 (startChoice_wp (fun enabled origin readable reads => ?_) (fun origin unreadable => ?_)
    fun error => nofun)
  · have kept : (origin.source == "unreadable") = false := beq_false_of_ne readable
    refine wp_exact rfl (fun _ _ served => served) (wp_exact rfl (fun _ _ served => served) ?_)
    cases enabled with
    | true =>
      refine startFeed_wp rfl (fun _ => ⟨rfl, rfl, ?_, ?_⟩) fun error w' _ => nofun
      · exact settled_readable kept reads
      · exact (oneFeed_fresh row attempts origin _).started rfl
    | false =>
      refine fun _ => ⟨rfl, rfl, ?_, oneFeed_fresh row attempts origin _⟩
      exact settled_readable kept reads
  · refine wp_exact rfl (fun _ _ served => served) (wp_exact rfl (fun _ _ served => served) ?_)
    refine fun _ => ⟨rfl, rfl, ?_, oneFeed_fresh row attempts origin _⟩
    exact settled_unreadable (beq_iff_eq.2 unreadable) rfl

/-! ## Over every order of turns, and every restart -/

abbrev State := Pool Services Raised World Request Answer

/-- The service over its starts: the worlds whenever the loop was free, newest first, and what there is now.  A
request that had not been answered when the process ended is never resumed. -/
inductive Lived (default : Bool) (row₀ : Option SettingRow) : List World → State → Prop
  | began {w : World} {p : Method Unit} (turn : loop.Turn (startWatchFeed default) (.fresh row₀ []) p w)
      (returned : p.outcome = some (.ok ())) : Lived default row₀ [w] ⟨w, []⟩
  | turn {moments : List World} {pool after_ : State} {taken : Taken Raised Request Answer}
      (lived : Lived default row₀ moments pool) (step : loop.Step handle pool taken after_) :
      Lived default row₀ (after_.world :: moments) after_
  | restarted {moments : List World} {pool : State} {w : World} {p : Method Unit}
      (lived : Lived default row₀ moments pool)
      (turn : loop.Turn (startWatchFeed default) (.fresh pool.world.row pool.world.attempts) p w)
      (returned : p.outcome = some (.ok ())) : Lived default row₀ (w :: moments) ⟨w, []⟩

/-- Each change is to the opposite of what ran, and that was what the change before it had left; after a start
that could not read the choice, nothing ran. -/
def Chained (default : Bool) (row₀ : Option SettingRow) : List Attempt → Prop
  | [] => True
  | attempt :: older =>
      Chained default row₀ older ∧ attempt.event.enabled = !attempt.event.previous ∧
        if attempt.unread then attempt.event.previous = false
        else said default (rowAfter row₀ older) = flag attempt.event.previous

theorem rowAfter_cons (row₀ : Option SettingRow) (attempt : Attempt) (older : List Attempt) :
    rowAfter row₀ (attempt :: older) = rowAfter (rowAfter row₀ older) [attempt] := by
  cases committed : attempt.committed with
  | true => simp only [rowAfter, committed, if_true]
  | false => simp only [rowAfter, committed, Bool.false_eq_true, if_false]

/-- What is known of a service that has lived so far. -/
structure Chronicle (default : Bool) (row₀ : Option SettingRow) (moments : List World) (pool : State) : Prop where
  resumes : loop.Sound (fun _ _ => Turned default) pool
  now : pool.world ∈ moments
  one : ∀ w ∈ moments, OneFeed w
  row : pool.world.row = rowAfter row₀ pool.world.attempts
  settled : (∀ w ∈ moments, Settled default w) ↔ ∀ attempt ∈ pool.world.attempts, attempt.harmless = true
  chained : (∀ attempt ∈ pool.world.attempts, attempt.harmless = true) → Chained default row₀ pool.world.attempts

theorem Settled.previous {default : Bool} {w : World} {attempt : Attempt} (settled : Settled default w)
    (unread : attempt.unread = w.unread) (previous : attempt.event.previous = w.feed.isSome) :
    if attempt.unread then attempt.event.previous = false
      else said default w.row = flag attempt.event.previous := by
  rw [unread, previous]
  unfold Settled at settled
  split
  · rename_i unreadable
    rw [if_pos unreadable] at settled
    rw [settled]
    rfl
  · rename_i readable
    rwa [if_neg readable] at settled

namespace Chronicle

variable {default : Bool} {row₀ : Option SettingRow} {moments : List World} {pool after_ : State}

theorem turned (so : Chronicle default row₀ moments pool) (turned : Turned default pool.world after_.world)
    (resumes : loop.Sound (fun _ _ => Turned default) after_) :
    Chronicle default row₀ (after_.world :: moments) after_ := by
  cases turned with
  | idle row attempts unread feed one =>
    have same : Settled default after_.world ↔ Settled default pool.world := by
      unfold Settled
      rw [row, unread, feed]
    refine ⟨resumes, List.mem_cons_self .., List.forall_mem_cons.2 ⟨one (so.one _ so.now), so.one⟩, ?_, ?_, ?_⟩
    · rw [row, attempts, so.row]
    · rw [List.forall_mem_cons, attempts, ← so.settled, same]
      exact ⟨fun all => all.2, fun all => ⟨all _ so.now, all⟩⟩
    · rw [attempts]
      exact so.chained
  | tried attempt attempts opposite previous unread row settled one =>
    refine ⟨resumes, List.mem_cons_self .., List.forall_mem_cons.2 ⟨one (so.one _ so.now), so.one⟩, ?_, ?_, ?_⟩
    · rw [row, attempts, rowAfter_cons row₀, so.row]
    · rw [List.forall_mem_cons, attempts, List.forall_mem_cons, ← so.settled]
      exact and_congr_left fun all => settled (all _ so.now)
    · rw [attempts]
      intro harmless
      obtain ⟨_, older⟩ := List.forall_mem_cons.1 harmless
      have then_ := so.settled.2 older _ so.now
      refine ⟨so.chained older, by rw [opposite, previous], ?_⟩
      rw [← so.row]
      exact then_.previous unread previous

theorem restarted (so : Chronicle default row₀ moments pool) {w : World} (began : Began default
    (.fresh pool.world.row pool.world.attempts) w) : Chronicle default row₀ (w :: moments) ⟨w, []⟩ where
  resumes := Theory.Loop.sound_empty w
  now := List.mem_cons_self ..
  one := List.forall_mem_cons.2 ⟨began.one, so.one⟩
  row := by rw [began.row, began.attempts]; exact so.row
  settled := by
    rw [List.forall_mem_cons, began.attempts, and_iff_right began.settled]
    exact so.settled
  chained := by
    rw [began.attempts]
    exact so.chained

end Chronicle

section Lives

variable {default : Bool} {row₀ : Option SettingRow} {moments : List World} {pool : State}

theorem Lived.chronicle (lived : Lived default row₀ moments pool) : Chronicle default row₀ moments pool := by
  induction lived with
  | began turn returned =>
    have began := (turn.meets (startWatchFeed_began default row₀ [])).1 returned
    refine ⟨Theory.Loop.sound_empty _, List.mem_singleton_self _, ?_, ?_, ?_, ?_⟩
    · exact List.forall_mem_singleton.2 began.one
    · rw [began.row, began.attempts]
      rfl
    · rw [List.forall_mem_singleton, began.attempts]
      exact iff_of_true began.settled fun _ never => by cases never
    · rw [began.attempts]
      exact fun _ => trivial
  | turn _ step so =>
    obtain ⟨turned, resumes⟩ := step.guaranteed (setFeed_meets default) so.resumes
    exact so.turned turned resumes
  | restarted _ turn returned so =>
    exact so.restarted ((turn.meets (startWatchFeed_began default _ _)).1 returned)

end Lives

/-! ## Requests that turn the feed over -/

/-- Everything succeeds and every request asks for the opposite of what runs; if the connection is `lost`, a
transaction commits and raises. -/
def turnsOver (lost : Bool) : (op : Op) → World → Except Raised (Services.Reply op) × World
  | .body, w => (.ok (.bool !w.feed.isSome), w)
  | .held, w => (.ok w.feed, w)
  | .hold feed, w => (.ok (), { w with feed })
  | .build, w => (.ok w.built, { w with built := w.built + 1 })
  | .createTask feed, w => (.ok (), { w with tasks := feed :: w.tasks })
  | .publish feed, w => (.ok (), { w with published := feed })
  | .cancel feed, w => (.ok (), { w with told := feed :: w.told })
  | .join _, w => (.error .cancelled, w)
  | .release feed, w => (.ok (), { w with released := feed :: w.released })
  | .utcNow, w => (.ok 0, w)
  | .getRow, w => (.ok w.row, w)
  | .commit row event, w =>
      if lost then (.error .sqlAlchemy, w.tried row event true (some .sqlAlchemy))
      else (.ok (), w.tried row event true none)
  | .controller origin, w => (.ok (), { w with feed := none, origin, unread := origin.source == "unreadable" })
  | .assignOrigin origin, w => (.ok (), { w with origin })

theorem turnsOver_serves (lost : Bool) (op : Op) (w : World) :
    loop.serve op w (turnsOver lost op w).1 (turnsOver lost op w).2 := by
  cases op with
  | body => rfl
  | join feed => rfl
  | build => exact .inl ⟨rfl, rfl⟩
  | createTask feed => exact .inl ⟨rfl, rfl⟩
  | utcNow => exact ⟨⟨0, rfl⟩, rfl⟩
  | getRow => exact ⟨.inl rfl, rfl⟩
  | commit row event =>
    cases lost with
    | true => exact .inr ⟨.sqlAlchemy, true, .inl rfl, rfl, rfl⟩
    | false => exact .inl ⟨rfl, rfl⟩
  | held => exact ⟨rfl, rfl⟩
  | hold feed => exact ⟨rfl, rfl⟩
  | publish feed => exact ⟨rfl, rfl⟩
  | cancel feed => exact ⟨rfl, rfl⟩
  | release feed => exact ⟨rfl, rfl⟩
  | controller origin => exact ⟨rfl, rfl⟩
  | assignOrigin origin => exact ⟨rfl, rfl⟩

/-- The service as it starts with nothing saved and the feed off by default. -/
def off (lost : Bool) : State := ⟨(loop.play (turnsOver lost) (startWatchFeed false) (.fresh none [])).2, []⟩

/-- Requests that come and go on by this schedule. -/
def scheduled (lost : Bool) (choices : List (Request ⊕ Nat)) : Option State :=
  (loop.playRun (turnsOver lost) handle choices (off lost)).map Prod.snd

theorem scheduled_lived {lost : Bool} {choices : List (Request ⊕ Nat)} {pool : State}
    (is : scheduled lost choices = some pool) : ∃ moments, pool.world ∈ moments ∧ Lived false none moments pool := by
  obtain ⟨⟨turns, _⟩, played, rfl⟩ := Option.map_eq_some_iff.1 is
  have run := Theory.Loop.run_playRun (turnsOver_serves lost) played
  clear played is
  induction run with
  | nil =>
    refine ⟨[(off lost).world], List.mem_singleton_self _,
      .began (Theory.Loop.turn_play (turnsOver_serves lost) _ _) ?_⟩
    cases lost <;> rfl
  | snoc _ step ih =>
    obtain ⟨moments, _, lived⟩ := ih
    exact ⟨_, List.mem_cons_self .., .turn lived step⟩

def admin : Request := ⟨"admin", true⟩

/-! ## What always holds -/

section Lives

variable {default : Bool} {row₀ : Option SettingRow} {moments : List World} {pool : State}

/-- **What runs is what was chosen.**  Whenever the loop is free, in whatever order requests took turns and
however often the service was started again, the feed runs just when the saved choice says so -- or not at all,
where the last start could not read it -- if and only if no transaction did harm: none raised a database error
or was to turn the feed off and raised with a commit, and none raised anything else without one. -/
theorem feed_follows_choice_iff (lived : Lived default row₀ moments pool) :
    (∀ w ∈ moments, Settled default w) ↔ ∀ attempt ∈ pool.world.attempts, attempt.harmless = true :=
  lived.chronicle.settled

/-- A commit that was reported as lost leaves the feed off and the choice on. -/
theorem feed_follows_choice_lost : ∃ moments pool, Lived false none moments pool ∧
    ¬ ∀ w ∈ moments, Settled false w := by
  have played : ∃ pool, scheduled true [.inl admin, .inr 0] = some pool ∧
      pool.world.attempts.map (·.harmless) = [false] := ⟨_, rfl, rfl⟩
  obtain ⟨pool, is, harmful⟩ := played
  obtain ⟨moments, _, lived⟩ := scheduled_lived is
  refine ⟨moments, pool, lived, fun settled => ?_⟩
  have harmless := (feed_follows_choice_iff lived).1 settled
  obtain ⟨attempt, member, was⟩ := List.mem_map.1 (harmful ▸ List.mem_singleton_self false)
  exact Bool.false_ne_true (was.symm.trans (harmless attempt member))

/-- **One feed.**  Whatever the order of the turns, all tasks but one were told to stop, and that one's feed is
the one that is held and published. -/
theorem one_feed (lived : Lived default row₀ moments pool) (w : World) (moment : w ∈ moments) :
    w.published = w.feed ∧ ∀ feed, (feed ∈ w.tasks ∧ feed ∉ w.told) ↔ w.feed = some feed := by
  have one := lived.chronicle.one w moment
  exact ⟨one.published, fun feed => ⟨fun there => one.told feed there.1 there.2, one.running feed⟩⟩

/-- The feed was turned on again while the task that was told to stop had not ended. -/
theorem one_feed_restarted : ∃ w : World, w.tasks = [1, 0] ∧ w.told = [0] ∧ w.published = some 1 := by
  have played : ∃ pool, scheduled false [.inl admin, .inr 0, .inl admin, .inr 1, .inl admin, .inr 2] = some pool ∧
      pool.world.tasks = [1, 0] ∧ pool.world.told = [0] := ⟨_, rfl, rfl, rfl⟩
  obtain ⟨pool, is, tasks, told⟩ := played
  obtain ⟨moments, now, lived⟩ := scheduled_lived is
  obtain ⟨published, one⟩ := one_feed lived pool.world now
  refine ⟨pool.world, tasks, told, published.trans ((one 1).1 ?_)⟩
  rw [tasks, told]
  decide

end Lives

end AlgoTrader.App.FeedControl
