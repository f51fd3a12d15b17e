/-
# Data.Emission -- candles are emitted in order, once, and only when closed

Updates of a bucket may come late, twice and out of order, snapshots may replay buckets
that are closed, and a gap fill may pass buckets that were in progress.  The mark of a
product only grows, the open bucket is always past it, and what is emitted becomes the
mark.

* `emitted_inOrder` -- a candle is past every bucket of its product that was emitted or
  filled before it, and an update for a newer bucket has come.
-/
import AlgoTrader.Data.Buckets

namespace AlgoTrader.Data

open AlgoTrader.Core Brokers Theory

set_option autoImplicit false

/-- The bucket is one the run began with as closed, or one that was emitted or filled. -/
def Passed (initial : Dict String Timestamp) (product : String) (bucket : Timestamp)
    (events : List Streamed) : Prop :=
  initial.get? product = some bucket ∨ ∃ e ∈ events, passed product e = some bucket

/-- An update for this bucket of the product has arrived. -/
def Announced (product : String) (bucket : Timestamp) (events : List Streamed) : Prop :=
  ∃ e ∈ events, ∃ payload raw,
    brings e = some payload ∧ raw ∈ payload.candles ∧ raw.Updates product bucket

/-- What holds when a candle is emitted. -/
def InOrder (initial : Dict String Timestamp) : StreamOp → FeedMoment → Prop
  | .onCandle candle, m =>
      (∀ bucket, Passed initial candle.symbol bucket m.events → bucket < candle.openedAt) ∧
        ∃ newer, candle.openedAt < newer ∧ Announced candle.symbol newer m.events
  | _, _ => True

/-! ## Marks that only grow -/

/-- No bucket that was passed is past the mark. -/
def Rising (initial : Dict String Timestamp) (events : List Streamed) : Prop :=
  ∀ product bucket, Passed initial product bucket events →
    ∃ mark, markOf initial product events = some mark ∧ bucket ≤ mark

section Rising

variable {initial : Dict String Timestamp} {e : Streamed} {earlier : List Streamed}

theorem Passed.cons_iff {product : String} {bucket : Timestamp} :
    Passed initial product bucket (e :: earlier) ↔
      passed product e = some bucket ∨ Passed initial product bucket earlier := by
  constructor
  · intro was
    rcases was with began | ⟨e', member, is⟩
    · exact .inr (.inl began)
    · rcases List.mem_cons.1 member with rfl | older
      · exact .inl is
      · exact .inr (.inr ⟨e', older, is⟩)
  · intro was
    rcases was with now | began | ⟨e', older, is⟩
    · exact .inr ⟨e, List.mem_cons_self .., now⟩
    · exact .inl began
    · exact .inr ⟨e', List.mem_cons_of_mem _ older, is⟩

theorem rising_start : Rising initial [] := by
  intro product bucket was
  rcases was with began | ⟨e, member, _⟩
  · exact ⟨bucket, began, Int.le_refl _⟩
  · cases member

/-- An event passes no bucket before the mark. -/
theorem Rising.cons (rising : Rising initial earlier)
    (ahead : ∀ product bucket, passed product e = some bucket →
      ∀ mark, markOf initial product earlier = some mark → mark ≤ bucket) :
    Rising initial (e :: earlier) := by
  intro product bucket was
  show ∃ mark, (passed product e).or (markOf initial product earlier) = some mark ∧ bucket ≤ mark
  cases now : passed product e with
  | none =>
      rcases Passed.cons_iff.1 was with is | before
      · rw [now] at is
        cases is
      · exact rising product bucket before
  | some latest =>
      refine ⟨latest, rfl, ?_⟩
      rcases Passed.cons_iff.1 was with is | before
      · rw [now] at is
        exact Option.some.inj is ▸ Int.le_refl _
      · obtain ⟨mark, is, behind⟩ := rising product bucket before
        exact Int.le_trans behind (ahead product latest now mark is)

end Rising

/-! ## What is kept -/

structure Settled (initial marks : Dict String Timestamp) (events : List Streamed) : Prop where
  marked : Marked initial marks events
  rising : Rising initial events

section Settled

variable {initial marks : Dict String Timestamp} {e : Streamed} {earlier : List Streamed}

theorem settled_start : Settled initial initial [] where
  marked _ := rfl
  rising := rising_start

theorem Settled.silent (silent : ∀ product, passed product e = none)
    (settled : Settled initial marks earlier) : Settled initial marks (e :: earlier) where
  marked := settled.marked.silent silent
  rising := settled.rising.cons fun product bucket now => by
    rw [silent product] at now
    cases now

theorem Settled.pass {product : String} {bucket : Timestamp}
    (mine : passed product e = some bucket)
    (others : ∀ product', product' ≠ product → passed product' e = none)
    (ahead : ∀ mark, marks.get? product = some mark → mark < bucket)
    (settled : Settled initial marks earlier) :
    Settled initial (marks.set product bucket) (e :: earlier) where
  marked := settled.marked.pass mine others
  rising := settled.rising.cons fun product' bucket' now mark is => by
    by_cases same : product' = product
    · rw [same, mine] at now
      rw [same, ← settled.marked product] at is
      exact Option.some.inj now ▸ Int.le_of_lt (ahead mark is)
    · rw [others product' same] at now
      cases now

/-- What was passed is behind what is past the mark. -/
theorem Settled.before {product : String} {bucket : Timestamp}
    (ahead : ∀ mark, marks.get? product = some mark → mark < bucket)
    (settled : Settled initial marks earlier) :
    ∀ bucket', Passed initial product bucket' earlier → bucket' < bucket := by
  intro bucket' was
  obtain ⟨mark, is, behind⟩ := settled.rising product bucket' was
  exact Int.lt_of_le_of_lt behind (ahead mark ((settled.marked product).trans is))

end Settled

/-- What is kept while the open buckets are what they are. -/
structure Holding (initial : Dict String Timestamp) (m : FeedMoment) : Prop where
  settled : Settled initial (marks m) m.events
  ahead : ∀ product current, openBucket m product = some current → current.symbol = product ∧
    ∀ mark, (marks m).get? product = some mark → mark < current.openedAt

section Holding

variable {initial : Dict String Timestamp} {op : StreamOp} {m : FeedMoment}
  {reply : Except Exc op.Reply} {after : FeedWorld}

theorem Holding.unmarked (unmarked : op.marks = false) (served : FeedServe op m.world reply after)
    (holding : Holding initial m) : Holding initial (m.push op reply after) where
  settled := (marks_unmarked unmarked served).symm ▸
    holding.settled.silent fun product => passed_unmarked unmarked product
  ahead product current is := by
    rw [openBucket_unmarked unmarked served] at is
    rw [marks_unmarked unmarked served]
    exact holding.ahead product current is

end Holding

/-! ## Every run -/

/-- The message whose candles these are has arrived. -/
def Brought (all : List RawCandle) (events : List Streamed) : Prop :=
  ∃ e ∈ events, ∃ payload, brings e = some payload ∧ payload.candles = all

theorem Brought.older {all : List RawCandle} {e : Streamed} {events : List Streamed}
    (brought : Brought all events) : Brought all (e :: events) := by
  obtain ⟨e', member, payload, is⟩ := brought
  exact ⟨e', List.mem_cons_of_mem _ member, payload, is⟩

abbrev ordered (initial : Dict String Timestamp) : Contract feed Exc FeedWorld :=
  streaming (fun _ _ => True) (InOrder initial)

/-- Opening a bucket past the mark. -/
theorem Holding.opened {initial : Dict String Timestamp} {m : FeedMoment} {product : String}
    {candle : Candle} (settled : Settled initial (marks m) m.events)
    (others : ∀ product' current, product' ≠ product → openBucket m product' = some current →
      current.symbol = product' ∧ ∀ mark, (marks m).get? product' = some mark →
        mark < current.openedAt)
    (mine : candle.symbol = product)
    (new : ∀ mark, (marks m).get? product = some mark → mark < candle.openedAt) :
    Holding initial (assigned m (.openBucket product candle)) where
  settled := settled.silent fun _ => rfl
  ahead product' current is := by
    rw [openBucket_opened] at is
    split at is
    · rename_i same
      cases is
      exact ⟨mine.trans same.symm, same ▸ new⟩
    · rename_i other
      exact others product' current other is

section Update

variable {initial : Dict String Timestamp} {all : List RawCandle} {m : FeedMoment}

theorem wp_update {product : String} {candle : Candle} (holding : Holding initial m)
    (brought : Brought all m.events) (mine : candle.symbol = product)
    (update : ∃ raw ∈ all, raw.Updates product candle.openedAt) :
    wp (ordered initial).logic
      (stepPost (fun m' => Holding initial m' ∧ Brought all m'.events)
        fun _ m' => Settled initial (marks m') m'.events)
      (updateBucket product candle) m := by
  have holding₁ : Holding initial (looked m) := holding.unmarked rfl ⟨rfl, rfl⟩
  have brought₁ : Brought all (looked m).events := brought.older
  refine wp_updateBucket (fun _ _ _ => ⟨holding₁, brought₁⟩) (fun _ _ _ => ⟨holding₁, brought₁⟩) ?_ ?_
  · intro new _
    exact ⟨.opened holding₁.settled (fun product' current _ => holding₁.ahead product' current) mine
      new, brought₁.older⟩
  · intro current new is newer
    obtain ⟨named, past⟩ := holding.ahead product current is
    -- The mark is moved before the candle is emitted, but no event has passed it yet.
    have settled₂ : Settled initial (marks m) (emitting m product current).events :=
      holding₁.settled.silent fun _ => rfl
    refine ⟨⟨?_, candle.openedAt, newer, ?_⟩, fun reply after served => ?_⟩
    · rw [named]
      exact settled₂.before past
    · obtain ⟨raw, member, updates⟩ := update
      obtain ⟨e, there, payload, brings, is⟩ := brought₁
      exact ⟨e, List.mem_cons_of_mem _ there, payload, raw, brings, is ▸ member, named ▸ updates⟩
    · have settled₃ : Settled initial (marks (emitted m product current reply after))
          (emitted m product current reply after).events := by
        rw [marks_emitted served]
        refine settled₂.pass (if_pos named) (fun product' other => if_neg ?_) past
        exact fun same => other (same.symm.trans named)
      cases reply with
      | error exc => exact settled₃
      | ok _ =>
          refine ⟨.opened settled₃ ?_ mine ?_, brought₁.older.older.older⟩
          · intro product' open_ other is'
            rw [openBucket_emitted served] at is'
            rw [marks_emitted served, Dict.get?_set_ne _ _ other]
            exact holding.ahead product' open_ is'
          · intro mark is'
            rw [marks_emitted served, Dict.get?_set_self] at is'
            exact Option.some.inj is' ▸ newer

end Update

/-- What is kept between connections. -/
structure Closed (initial : Dict String Timestamp) (m : FeedMoment) : Prop where
  settled : Settled initial (marks m) m.events
  none_open : NoOpenBucket m

theorem Closed.holding {initial : Dict String Timestamp} {m : FeedMoment}
    (closed : Closed initial m) : Holding initial m where
  settled := closed.settled
  ahead product current is := by
    rw [closed.none_open product] at is
    cases is

theorem Closed.unmarked {initial : Dict String Timestamp} {m : FeedMoment}
    (closed : Closed initial m) (op : StreamOp) {reply : Except Exc op.Reply} {after : FeedWorld}
    (unmarked : op.marks = false) (served : FeedServe op m.world reply after) :
    Closed initial (m.push op reply after) where
  settled := (closed.holding.unmarked unmarked served).settled
  none_open := closed.none_open.unmarked unmarked served

/-- The gap up to a bucket in progress is passed as a whole. -/
theorem wp_fills_closed {initial : Dict String Timestamp} {config : StreamConfig} {m : FeedMoment}
    (closed : Closed initial m) :
    wp (ordered initial).logic (stepPost (Closed initial) fun _ _ => True) (fillGaps config) m := by
  have read : wp (ordered initial).logic (stepPost (Closed initial) fun _ _ => True)
      (want .clock) m := by
    refine wp_want rfl fun reply after served _ => ?_
    obtain ⟨⟨now, rfl⟩, _⟩ := id served
    exact closed.unmarked .clock rfl served
  refine wp_step read fun now m₁ closed₁ => ?_
  refine wp_visit (fun _ => Closed initial) (fun _ _ => True) _ ?_ closed₁
  intro _ product _ m₂ _ closed₂
  have closed₃ : Closed initial (looked m₂) := closed₂.unmarked .read rfl ⟨rfl, rfl⟩
  refine wp_fillGap closed₃ fun new previous after served => ⟨?_, ?_⟩
  · rw [marks_filled served]
    refine Settled.silent (fun _ => rfl) ?_
    exact closed₃.settled.pass (if_pos rfl) (fun product' other => if_neg (Ne.symm other)) new
  · intro product'
    exact (openBucket_filled served product').trans (closed₂.none_open product')

/-- What is kept while messages are read. -/
def orderedIntake (initial : Dict String Timestamp) :
    Intake (fun _ _ => True) (InOrder initial) where
  live := Holding initial
  handling all _ m := Holding initial m ∧ Brought all m.events
  broken m := Settled initial (marks m) m.events
  talks talk holding served _ := holding.unmarked talk.unmarked served
  continues talk handling served _ :=
    ⟨handling.1.unmarked talk.unmarked served, handling.2.older⟩
  waits holding served _ := (holding.unmarked rfl served).settled
  arrives {m payload after} holding served _ :=
    ⟨holding.unmarked rfl served, _, List.mem_cons_self .., payload, rfl, rfl⟩
  handles {before raw rest receivedAt m} handling := by
    unfold handleCandle
    split
    · exact handling
    split
    · exact handling
    split
    · exact handling.1.settled
    · rename_i product someProduct named _ candle parsed
      have member : raw ∈ before ++ raw :: rest :=
        List.mem_append_right before (List.mem_cons_self ..)
      exact wp_update handling.1 handling.2 (normalizeCoinbaseCandle_some parsed).1
        ⟨raw, member, (updates_iff someProduct named parsed).2 ⟨rfl, rfl⟩⟩
  finishes handling := handling.1
  fails handling := handling.1.settled
  breaks holding := holding.settled

def orderedWatch (initial : Dict String Timestamp) (config : StreamConfig) :
    Watch config (fun _ _ => True) (InOrder initial) where
  idle := Closed initial
  up := Closed initial
  live _ := Holding initial
  broken _ m := Settled initial (marks m) m.events
  cleared _ := Closed initial
  rests idle closed served _ := closed.unmarked _ idle.unmarked served
  connects {m reply after} closed served _ := by
    have next := closed.unmarked _ rfl served
    cases reply with
    | ok _ => exact next
    | error exc => exact next.settled
  sends {channel m reply after} closed served _ := by
    have next := closed.unmarked _ rfl served
    cases reply with
    | ok _ => exact next
    | error exc => exact next.settled
  starts closed served _ := (closed.unmarked .clock rfl served).holding
  reads holding := (orderedIntake initial).reads holding
  clears {exc m reply after} settled served _ := by
    obtain ⟨rfl, rfl⟩ := served
    exact ⟨settled.silent fun _ => rfl, noOpenBucket_cleared m⟩
  reported _ := trivial
  reports closed served := closed.unmarked _ rfl served
  fills := wp_fills_closed

/-- **Emission.**  Wherever a run that began with no open bucket is about to emit a candle,
the candle is past every bucket of its product that was closed at the start, or emitted or
filled since, and an update for a newer bucket of the product has arrived. -/
theorem emitted_inOrder {config : StreamConfig} {fuel : Nat} {world : FeedWorld} {m : FeedMoment}
    {p : Feed (Option Retry)} {candle : Candle}
    (fresh : ∀ product, world.ingestor.openBuckets.get? product = none)
    (reached : (run config fuel).Reaches FeedServe ⟨world, []⟩ p m)
    (emits : p.asks = some (.onCandle candle)) :
    (∀ bucket, Passed world.ingestor.lastCandleAt candle.symbol bucket m.events →
      bucket < candle.openedAt) ∧
      ∃ newer, candle.openedAt < newer ∧ Announced candle.symbol newer m.events := by
  have start : Closed world.ingestor.lastCandleAt ⟨world, []⟩ := ⟨settled_start, fresh⟩
  exact (orderedWatch world.ingestor.lastCandleAt config).reached start reached emits rfl
    (along_of_forall fun _ _ => trivial)

/-- Two updates of one bucket, and one of the next. -/
def closing : Tape where
  readings := [290 * second, 299 * second, 300 * second]
  receptions := [.ok (.message (updatesFor [0, 0])), .ok (.message (updatesFor [300]))]

/-- Where the first bucket is about to be emitted. -/
def closingEmits : Feed (Option Retry) × FeedMoment := closing.after Tape.btc (290 * second) 23

theorem emitted_inOrder_closing : ∃ candle, closingEmits.1.asks = some (.onCandle candle) ∧
    (∀ bucket, Passed .empty candle.symbol bucket closingEmits.2.events →
      bucket < candle.openedAt) ∧
    ∃ newer, candle.openedAt < newer ∧ Announced candle.symbol newer closingEmits.2.events := by
  have emits : ∃ candle, closingEmits.1.asks = some (.onCandle candle) := ⟨_, rfl⟩
  obtain ⟨candle, asks⟩ := emits
  exact ⟨candle, asks, emitted_inOrder (fun _ => rfl)
    (closing.after_reached Tape.btc (290 * second) 23) asks⟩

end AlgoTrader.Data
