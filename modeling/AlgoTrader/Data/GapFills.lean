/-
# Data.GapFills -- what the stream calls back with

The stream hands on each bucket that has closed, and has each gap filled from the bucket that was
passed last up to the one in progress.  A gap that cannot be filled ends the run.

* `sustains_updateBucket`, `goes_fillGap` -- the two places that call back;
* `callbacks_proper` -- what holds at every call of a run.
-/
import AlgoTrader.Data.Contiguity
import AlgoTrader.Theory.Frames

namespace AlgoTrader.Data.GapFills

open AlgoTrader.Core AlgoTrader.Brokers AlgoTrader.Theory

set_option autoImplicit false

/-! ## The calls -/

/-- The callback could not fill the gap. -/
def failsFill : Streamed → Bool
  | ⟨.gapFill .., .error _, _, _⟩ => true
  | _ => false

def Unfailed (events : List Streamed) : Prop := ∀ e ∈ events, failsFill e = false

/-- What a callback is called with. -/
def Proper (initial : Dict String Timestamp) : StreamOp → FeedMoment → Prop
  | .onCandle candle, _ => candle.interval = websocketCandleInterval
  | .gapFill product previous gapEnd, m =>
      previous = markOf initial product m.events ∧ Aligned gapEnd ∧
        (∀ mark, previous = some mark → mark < gapEnd - interval) ∧ Unfailed m.events
  | _, _ => True

def calling (initial : Dict String Timestamp) : Contract feed Exc FeedWorld where
  serve := FeedServe
  assume _ _ := True
  guard := Proper initial
  invariant _ := True

/-- What is kept from call to call. -/
structure Kept (initial : Dict String Timestamp) (m : FeedMoment) : Prop where
  marked : Marked initial (marks m) m.events
  named : ∀ product current, openBucket m product = some current →
    current.symbol = product ∧ current.interval = websocketCandleInterval
  unfailed : Unfailed m.events

section Keeping

variable {initial : Dict String Timestamp} {m : FeedMoment} {op : StreamOp}
  {reply : Except Exc op.Reply} {after : FeedWorld}

theorem Unfailed.unmarked (unmarked : op.marks = false) (unfailed : Unfailed m.events) :
    Unfailed (m.push op reply after).events := by
  refine List.forall_mem_cons.2 ⟨?_, unfailed⟩
  cases op with
  | gapFill product previous gapEnd => cases unmarked
  | _ => rfl

theorem Unfailed.assigned {change : Assign} (unfailed : Unfailed m.events) :
    Unfailed (Data.assigned m change).events :=
  List.forall_mem_cons.2 ⟨rfl, unfailed⟩

theorem Kept.unmarked (unmarked : op.marks = false) (served : FeedServe op m.world reply after)
    (kept : Kept initial m) : Kept initial (m.push op reply after) where
  marked := (marks_unmarked unmarked served).symm ▸
    kept.marked.silent fun product => passed_unmarked unmarked product
  named product current is := kept.named product current (openBucket_unmarked unmarked served product ▸ is)
  unfailed := kept.unfailed.unmarked unmarked

theorem Kept.looked (kept : Kept initial m) : Kept initial (looked m) :=
  kept.unmarked rfl ⟨rfl, rfl⟩

theorem Kept.opened {product : String} {candle : Candle} (kept : Kept initial m)
    (own : candle.symbol = product ∧ candle.interval = websocketCandleInterval) :
    Kept initial (assigned m (.openBucket product candle)) where
  marked := kept.marked.silent fun _ => rfl
  named product' current is := by
    rw [openBucket_opened] at is
    split at is
    · rename_i same
      cases is
      exact same ▸ own
    · exact kept.named product' current is
  unfailed := kept.unfailed.assigned

theorem Kept.cleared (kept : Kept initial m) : Kept initial (assigned m .clearOpenBuckets) where
  marked := kept.marked.silent fun _ => rfl
  named product current is := by
    rw [noOpenBucket_cleared m product] at is
    cases is
  unfailed := kept.unfailed.assigned

/-- The mark is moved to the bucket that is emitted. -/
theorem Kept.emitted {product : String} {current : Candle} {reply : Except Exc Unit}
    (kept : Kept initial m) (is : openBucket m product = some current)
    (served : FeedServe (.onCandle current) (emitting m product current).world reply after) :
    Kept initial (emitted m product current reply after) where
  marked := by
    have named := (kept.named product current is).1
    rw [marks_emitted served]
    refine (kept.marked.silent fun _ => rfl).silent (fun _ => rfl) |>.pass (if_pos named) fun other different => ?_
    exact if_neg fun same => different (same.symm.trans named)
  named product' current' is' :=
    kept.named product' current' (openBucket_emitted served product' ▸ is')
  unfailed := List.forall_mem_cons.2 ⟨rfl, kept.looked.unfailed.assigned⟩

/-- The mark is moved to the end of the gap that is filled. -/
theorem Kept.filled {product : String} {previous : Option Timestamp} {gapEnd : Timestamp}
    (kept : Kept initial m)
    (served : FeedServe (.gapFill product previous gapEnd) (Data.looked m).world (.ok ()) after) :
    Kept initial (filled m product previous gapEnd after) where
  marked := by
    rw [marks_filled served]
    refine .silent (fun _ => rfl) (.pass ?_ ?_ (kept.marked.silent fun _ => rfl))
    · exact if_pos rfl
    · exact fun other different => if_neg fun same => different same.symm
  named product' current is := kept.named product' current (openBucket_filled served product' ▸ is)
  unfailed := List.forall_mem_cons.2 ⟨rfl, List.forall_mem_cons.2 ⟨rfl, kept.looked.unfailed⟩⟩

end Keeping

/-! ## One connection -/

section Program

variable {initial : Dict String Timestamp} {config : StreamConfig}

theorem sustains_unmarked {op : StreamOp} (unmarked : op.marks = false) :
    Sustains (calling initial).logic (Kept initial) (want op) := by
  intro m kept
  refine wp_call.2 ⟨?_, fun reply after served _ => ⟨trivial, kept.unmarked unmarked served⟩⟩
  cases op with
  | onCandle candle => cases unmarked
  | gapFill product previous gapEnd => cases unmarked
  | _ => trivial

theorem wp_read {α : Type} {f : Ingestor → Feed α} {m : FeedMoment} {post : Except Exc α → FeedMoment → Prop}
    (next : wp (calling initial).logic post (f m.world.ingestor) (looked m)) :
    wp (calling initial).logic post (want .read >>= f) m := by
  refine wp_bind.2 (wp_call.2 ⟨trivial, fun reply after served _ => ⟨trivial, ?_⟩⟩)
  obtain ⟨rfl, rfl⟩ := served
  exact next

theorem wp_change {change : Assign} {m : FeedMoment} {post : Except Exc Unit → FeedMoment → Prop}
    (next : post (.ok ()) (assigned m change)) :
    wp (calling initial).logic post (want (.assign change)) m := by
  refine wp_call.2 ⟨trivial, fun reply after served _ => ⟨trivial, ?_⟩⟩
  obtain ⟨rfl, rfl⟩ := served
  exact next

theorem sustains_updateBucket {product : String} {candle : Candle}
    (own : candle.symbol = product ∧ candle.interval = websocketCandleInterval) :
    Sustains (calling initial).logic (Kept initial) (updateBucket product candle) := by
  intro m kept
  refine wp_read ?_
  split
  · exact kept.looked
  cases bucket : m.world.ingestor.openBuckets.get? product with
  | none => exact wp_change (kept.looked.opened own)
  | some current =>
      show wp (calling initial).logic _ (if _ then _ else if _ then _ else _) _
      split
      · exact kept.looked
      split
      · refine wp_bind.2 (wp_change (wp_bind.2 (wp_call.2 ⟨(kept.named product current bucket).2, ?_⟩)))
        intro reply after served _
        have next : Kept initial (emitted m product current reply after) := kept.emitted bucket served
        refine ⟨trivial, ?_⟩
        cases reply with
        | error exc => exact next
        | ok _ => exact wp_change (next.opened own)
      · exact wp_change (kept.looked.opened own)

theorem normalizeCoinbaseCandle_interval {product : String} {raw : RawCandle} {receivedAt : Timestamp}
    {candle : Candle} (parsed : normalizeCoinbaseCandle product raw receivedAt = some candle) :
    candle.interval = websocketCandleInterval := by
  unfold normalizeCoinbaseCandle at parsed
  simp only [Option.bind_eq_bind, Option.bind_eq_some_iff] at parsed
  obtain ⟨_, _, _, _, _, _, _, _, _, _, _, _, _, _, made⟩ := parsed
  split at made <;> cases made
  rfl

theorem sustains_handleCandle (receivedAt : Timestamp) (raw : RawCandle) :
    Sustains (calling initial).logic (Kept initial) (handleCandle receivedAt raw) := by
  unfold handleCandle
  split
  · exact sustains_pure ()
  split
  · exact sustains_pure ()
  split
  · exact sustains_raise _
  · rename_i parsed
    exact sustains_updateBucket
      ⟨(normalizeCoinbaseCandle_some parsed).1, normalizeCoinbaseCandle_interval parsed⟩

theorem sustains_handleTicker (receivedAt : Timestamp) (raw : RawTicker) :
    Sustains (calling initial).logic (Kept initial) (handleTicker receivedAt raw) := by
  unfold handleTicker
  split
  · exact sustains_pure ()
  split
  · exact sustains_pure ()
  split
  · exact sustains_raise _
  split
  · exact sustains_raise _
  · exact (sustains_unmarked rfl).bind fun _ => sustains_unmarked rfl

theorem sustains_handlePayload (payload : Payload) (receivedAt : Timestamp) :
    Sustains (calling initial).logic (Kept initial) (handlePayload payload receivedAt) := by
  unfold handlePayload
  split
  · exact sustains_visit (sustains_handleCandle receivedAt) _
  split
  · exact sustains_visit (sustains_handleTicker receivedAt) _
  · exact sustains_pure ()

/-- What is left of a turn once the message is noted. -/
theorem sustains_served (payload : Payload) (started receivedAt : Timestamp) (healthy : Bool)
    (ingestor : Ingestor) : Sustains (calling initial).logic (Kept initial)
      (if config.heartbeatTimeout < receivedAt - ingestor.lastHeartbeat.getD started then
        .raise staleHeartbeat
      else do
        handlePayload payload receivedAt
        if payload.isHeartbeat && !healthy && config.healthyConnection ≤ receivedAt - started then do
          want (.assign (.connectionHealthy true))
          let _ ← (want (.onHealthy receivedAt)).attempt
          return some true
        else return some healthy : Feed (Option Bool)) := by
  split
  · exact sustains_raise _
  refine (sustains_handlePayload payload receivedAt).bind fun _ => ?_
  split
  · refine (sustains_unmarked rfl).bind fun _ => ?_
    exact (sustains_unmarked rfl).attempt.bind fun _ => sustains_pure _
  · exact sustains_pure _

theorem sustains_consumeTurn (started : Timestamp) (healthy : Bool) :
    Sustains (calling initial).logic (Kept initial) (consumeTurn config started healthy) := by
  refine (sustains_unmarked rfl).bind fun stopped => ?_
  split
  · exact sustains_pure _
  refine (sustains_unmarked rfl).bind fun reception => ?_
  split
  · exact sustains_raise _
  split
  · exact sustains_raise _
  rename_i payload _
  refine (sustains_unmarked rfl).bind fun receivedAt => ?_
  refine (sustains_unmarked rfl).bind fun _ => ?_
  refine (sustains_when (sustains_unmarked rfl)).bind fun _ => ?_
  exact (sustains_unmarked rfl).bind fun ingestor => sustains_served payload started receivedAt healthy ingestor

theorem sustains_consume (fuel : Nat) :
    Sustains (calling initial).logic (Kept initial) (consume config fuel) :=
  (sustains_unmarked rfl).bind fun started => sustains_turns (sustains_consumeTurn started) fuel false

/-! ## Between connections -/

variable (initial) in
/-- What is kept unless an error is raised. -/
def Goes {α : Type} (p : Feed α) : Prop :=
  ∀ m, Kept initial m → wp (calling initial).logic (stepPost (Kept initial) fun _ _ => True) p m

theorem goes_of_sustains {α : Type} {p : Feed α} (sustains : Sustains (calling initial).logic (Kept initial) p) :
    Goes initial p := by
  intro m kept
  refine wp_mono (sustains m kept) fun result m' kept' => ?_
  cases result with
  | error exc => trivial
  | ok value => exact kept'

theorem Goes.bind {α β : Type} {p : Feed α} {f : α → Feed β} (first : Goes initial p)
    (rest : ∀ value, Goes initial (f value)) : Goes initial (p >>= f) :=
  fun m kept => wp_step (first m kept) fun value m' kept' => rest value m' kept'

theorem goes_when {flag : Bool} {p : Feed Unit} (inside : Goes initial p) : Goes initial (Prog.when flag p) :=
  fun m kept => wp_when (fun _ => inside m kept) fun _ => kept

/-- A gap is filled from the bucket that was passed last, unless nothing has closed since. -/
theorem goes_fillGap {gapEnd : Timestamp} (aligned : Aligned gapEnd) (product : String) :
    Goes initial (fillGap gapEnd product) := by
  intro m kept
  refine wp_read ?_
  show wp (calling initial).logic _ (if _ then _ else _) _
  split
  · exact kept.looked
  rename_i closed
  refine wp_bind.2 (wp_call.2 ⟨⟨kept.looked.marked product, aligned, ahead_of_open closed, kept.looked.unfailed⟩, ?_⟩)
  intro reply after served _
  refine ⟨trivial, ?_⟩
  cases reply with
  | error exc => trivial
  | ok _ => exact wp_change (kept.filled served)

theorem goes_fillGaps : Goes initial (fillGaps config) := by
  refine (goes_of_sustains (sustains_unmarked rfl)).bind fun now => ?_
  intro m kept
  refine wp_visit (fun _ => Kept initial) (fun _ _ => True) _ ?_ kept
  exact fun _ product _ m' _ kept' => goes_fillGap (aligned_bucketStart now) product m' kept'

theorem sustains_notifyDisconnect (kind : String) :
    Sustains (calling initial).logic (Kept initial) (notifyDisconnect kind) := by
  refine Sustains.bind (.attempt ?_) fun _ => sustains_pure ()
  exact (sustains_unmarked rfl).bind fun at_ => sustains_unmarked rfl

theorem goes_recover (retry : Retry) (exc : Exc) (stage : String) : Goes initial (recover config retry exc stage) := by
  intro m kept
  refine wp_bind.2 (wp_change ?_)
  refine Goes.bind (goes_of_sustains (sustains_unmarked rfl)) (fun _ => ?_) _ kept.cleared
  refine (goes_of_sustains (sustains_unmarked rfl)).bind fun stopped => ?_
  refine (goes_of_sustains (sustains_when (sustains_notifyDisconnect _))).bind fun _ => ?_
  refine Goes.bind (goes_when ?_) fun _ => ?_
  · exact (goes_of_sustains (sustains_unmarked rfl)).bind fun stopped => goes_when goes_fillGaps
  refine (goes_of_sustains (sustains_unmarked rfl)).bind fun stopped => ?_
  split
  · exact goes_of_sustains (sustains_pure _)
  · refine (goes_of_sustains (sustains_unmarked rfl)).bind fun ingestor => ?_
    exact (goes_of_sustains (sustains_unmarked rfl)).bind fun _ => goes_of_sustains (sustains_pure _)

/-- Where a connection that came up has ended. -/
def Ended (initial : Dict String Timestamp) : Except Exc Ending → FeedMoment → Prop
  | .ok (.ended (.error _)), _ => True
  | _, m => Kept initial m

theorem wp_ended {retry : Retry} {exc : Exc} {stage : String} {m : FeedMoment} (kept : Kept initial m) :
    wp (calling initial).logic (Ended initial)
      (do return .ended (← (recover config retry exc stage).attempt) : Feed Ending) m := by
  refine wp_bind.2 (wp_attempt.2 (wp_mono (goes_recover retry exc stage m kept) fun result m' ended => ?_))
  cases result with
  | error exc => trivial
  | ok next => exact ended

theorem wp_serveConnection (fuel : Nat) (retry : Retry) {m : FeedMoment} (kept : Kept initial m) :
    wp (calling initial).logic (Ended initial) (serveConnection config fuel retry) m := by
  have subscribes : Sustains (calling initial).logic (Kept initial) subscribe :=
    sustains_visit (fun channel => sustains_unmarked rfl) _
  refine wp_bind.2 (wp_attempt.2 (wp_mono (subscribes m kept) fun result m₁ kept₁ => ?_))
  cases result with
  | error exc => exact wp_ended kept₁
  | ok _ =>
      refine wp_bind.2 (wp_attempt.2 (wp_mono (sustains_consume fuel m₁ kept₁) fun result m₂ kept₂ => ?_))
      match result with
      | .error exc => exact wp_ended kept₂
      | .ok (some _) => exact kept₂
      | .ok none => exact kept₂

theorem goes_runTurn (fuel : Nat) (before : Retry) : Goes initial (runTurn config fuel before) := by
  refine (goes_of_sustains (sustains_unmarked rfl)).bind fun stopped => ?_
  split
  · exact goes_of_sustains (sustains_pure _)
  split
  · exact goes_of_sustains (sustains_pure _)
  refine (goes_of_sustains (sustains_unmarked rfl)).bind fun _ => ?_
  refine (goes_of_sustains (sustains_unmarked rfl).attempt).bind fun connected => ?_
  cases connected with
  | error exc => exact goes_recover _ exc "connect"
  | ok _ =>
      intro m kept
      refine wp_bind.2 (wp_mono (wp_serveConnection fuel _ kept) fun result m' ended => ?_)
      match result with
      | .error exc => trivial
      | .ok .cutOff => exact ended
      | .ok (.ended (.ok next)) =>
          exact Goes.bind (goes_of_sustains (sustains_unmarked rfl)) (fun _ => goes_of_sustains (sustains_pure _))
            m' ended
      | .ok (.ended (.error exc)) =>
          refine wp_bind.2 (wp_call.2 ⟨trivial, fun reply after served _ => ⟨trivial, ?_⟩⟩)
          cases reply <;> trivial

theorem wp_run (fuel : Nat) {m : FeedMoment} (kept : Kept initial m) :
    wp (calling initial).logic (fun _ _ => True) (run config fuel) m := by
  refine wp_mono (wp_turns (fun _ => Kept initial) (Kept initial) (fun _ _ => True) _ ?_ fuel kept) fun _ _ _ => trivial
  intro before m' kept'
  refine wp_mono (goes_runTurn fuel before m' kept') fun result m'' ended => ?_
  match result with
  | .error exc => trivial
  | .ok (some next) => exact ended
  | .ok none => exact ended

/-- **Every call is proper**, wherever a run that began without open buckets has come to. -/
theorem callbacks_proper {fuel : Nat} {world : FeedWorld} {p : Feed (Option Retry)} {m : FeedMoment}
    (unopened : ∀ product, world.ingestor.openBuckets.get? product = none)
    (reached : (run config fuel).Reaches FeedServe ⟨world, []⟩ p m) :
    Along (fun e earlier => Proper world.ingestor.lastCandleAt e.op ⟨e.before, earlier⟩) m.events := by
  have start : Kept world.ingestor.lastCandleAt ⟨world, []⟩ := by
    refine ⟨fun _ => rfl, fun product current is => ?_, fun e member => by cases member⟩
    cases (unopened product).symm.trans is
  refine reaches_invariant (C := calling world.ingestor.lastCandleAt)
    (fun m' => Along (fun e earlier => Proper world.ingestor.lastCandleAt e.op ⟨e.before, earlier⟩) m'.events)
    ?_ reached (along_of_forall fun _ _ => trivial) (wp_run fuel start) trivial
  exact fun op m' reply after before proper _ _ => ⟨proper, before⟩

end Program

end AlgoTrader.Data.GapFills
