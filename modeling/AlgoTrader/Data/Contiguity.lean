/-
# Data.Contiguity -- which runs emit every bucket

A gap is filled right after a disconnect, and the next connection comes up only after a
backoff.  A bucket that closes in between is in neither: the fill stopped before it, and
the venue sends updates of the buckets in progress from then on.

* `emitted_contiguous` -- where no bucket is missed so, each emitted bucket is the one
  right after the mark.

The connection under way is read off the events: the world in which it came up, and the
messages since.
-/
import AlgoTrader.Data.Buckets

namespace AlgoTrader.Data

open AlgoTrader.Core Brokers Theory

set_option autoImplicit false

/-! ## The connection under way -/

def broughtUp : Streamed → Option FeedWorld
  | ⟨.connect, .ok _, _, after⟩ => some after
  | _ => none

/-- The world in which the connection came up. -/
def upSince : List Streamed → Option FeedWorld
  | [] => none
  | e :: earlier => (broughtUp e).or (upSince earlier)

/-- The messages of the connection, newest first. -/
def heardSince : List Streamed → List Payload
  | [] => []
  | e :: earlier => if (broughtUp e).isSome then [] else (brings e).toList ++ heardSince earlier

/-- An update for the bucket is in one of these messages, or one of these. -/
def Seen (messages : List Payload) (handled : List RawCandle) (product : String)
    (bucket : Timestamp) : Prop :=
  (∃ payload ∈ messages, ∃ raw ∈ payload.candles, raw.Updates product bucket) ∨
    ∃ raw ∈ handled, raw.Updates product bucket

/-- A message, the world in which its connection came up, and the messages before it. -/
structure Arrival where
  payload : Payload
  up : FeedWorld
  before : List Payload

def arrival (e : Streamed) (earlier : List Streamed) : Option Arrival := do
  let payload ← brings e
  let up ← upSince earlier
  return ⟨payload, up, heardSince earlier⟩

/-- The messages of all connections, newest first. -/
def arrivals : List Streamed → List Arrival
  | [] => []
  | e :: earlier => (arrival e earlier).toList ++ arrivals earlier

/-- The bucket is past the mark the product had when the connection came up, or, where it
had none, past a bucket seen. -/
def Awaited (up : FeedWorld) (seen : String → Timestamp → Prop) (product : String)
    (bucket : Timestamp) : Prop :=
  (∀ mark, up.ingestor.lastCandleAt.get? product = some mark → mark < bucket) ∧
    (up.ingestor.lastCandleAt.get? product = none → ∃ first, seen product first ∧ first < bucket)

namespace Arrival

/-- The message has an update, after these of its candles. -/
def Brings (arrival : Arrival) (handled : List RawCandle) (product : String)
    (bucket : Timestamp) : Prop :=
  ∃ raw rest, arrival.payload.candles = handled ++ raw :: rest ∧ raw.Updates product bucket

/-- The venue: before an update for a bucket it has sent, on the same connection, one for
each earlier bucket that was in progress since the connection came up. -/
def InBucketOrder (arrival : Arrival) : Prop :=
  ∀ handled product bucket, arrival.Brings handled product bucket → Aligned bucket ∧
    ∀ older, Aligned older → bucketStart arrival.up.now ≤ older → older < bucket →
      Seen arrival.before handled product older

/-- No bucket that closed before the connection came up is missed: where one is awaited,
an update for it comes before those for newer ones. -/
def NoneMissed (arrival : Arrival) : Prop :=
  ∀ handled product bucket, arrival.Brings handled product bucket →
    ∀ older, Aligned older → older < bucketStart arrival.up.now → older < bucket →
      Awaited arrival.up (Seen arrival.before handled) product older →
        Seen arrival.before handled product older

/-- The update of a bucket comes after those of the buckets before it. -/
theorem InBucketOrder.supplied {arrival : Arrival} (inOrder : arrival.InBucketOrder)
    (noneMissed : arrival.NoneMissed) {handled : List RawCandle} {product : String}
    {bucket : Timestamp} (brings : arrival.Brings handled product bucket) :
    Aligned bucket ∧ ∀ older, Aligned older → older < bucket →
      Awaited arrival.up (Seen arrival.before handled) product older →
        Seen arrival.before handled product older := by
  obtain ⟨aligned, sent⟩ := inOrder handled product bucket brings
  refine ⟨aligned, fun older aligned' before awaited => ?_⟩
  by_cases closed : older < bucketStart arrival.up.now
  · exact noneMissed handled product bucket brings older aligned' closed before awaited
  · exact sent older aligned' (Int.not_lt.1 closed) before

end Arrival

theorem along_arrivals {holds : Arrival → Prop} {events : List Streamed}
    (each : ∀ a ∈ arrivals events, holds a) :
    Along (fun e earlier => ∀ a, arrival e earlier = some a → holds a) events := by
  induction events with
  | nil => trivial
  | cons e earlier ih =>
      refine ⟨fun a is => each a ?_, ih fun a member => each a (List.mem_append_right _ member)⟩
      exact List.mem_append_left _ (Option.mem_toList.2 is)

/-- What holds when a candle is emitted. -/
def Contiguous (initial : Dict String Timestamp) : StreamOp → FeedMoment → Prop
  | .onCandle candle, m => ∀ mark, markOf initial candle.symbol m.events = some mark →
      candle.openedAt = mark + interval
  | _, _ => True

section Silent

variable {op : StreamOp} {m : FeedMoment} {reply : Except Exc op.Reply} {after : FeedWorld}

/-- Requests that bring neither a connection nor a message. -/
def StreamOp.mute : StreamOp → Bool
  | .connect => false
  | .recv => false
  | _ => true

theorem upSince_mute (mute : op.mute = true) :
    upSince (m.push op reply after).events = upSince m.events := by
  cases op with
  | connect => cases mute
  | recv => cases mute
  | _ => rfl

theorem heardSince_mute (mute : op.mute = true) :
    heardSince (m.push op reply after).events = heardSince m.events := by
  cases op with
  | connect => cases mute
  | recv => cases mute
  | _ => rfl

theorem Talk.mute {op : StreamOp} (talk : Talk op) : op.mute = true := by
  cases talk <;> rfl

end Silent

/-! ## Buckets one after another -/

theorem aligned_bucketStart (moment : Timestamp) : Aligned (bucketStart moment) :=
  Dvd.intro_left _ rfl

theorem Aligned.next {bucket : Timestamp} (aligned : Aligned bucket) :
    Aligned (bucket + interval) := Int.dvd_add aligned (Int.dvd_refl _)

theorem Aligned.previous {bucket : Timestamp} (aligned : Aligned bucket) :
    Aligned (bucket - interval) := Int.dvd_sub aligned (Int.dvd_refl _)

/-- Of two buckets the later one is the next one or one after that. -/
theorem next_le {bucket later : Timestamp} (aligned : Aligned bucket) (aligned' : Aligned later)
    (before : bucket < later) : bucket + interval ≤ later := by
  have apart : interval ≤ later - bucket :=
    Int.le_of_dvd (Int.sub_pos_of_lt before) (Int.dvd_sub aligned' aligned)
  exact Int.add_le_of_le_sub_left apart

theorem lt_next (bucket : Timestamp) : bucket < bucket + interval :=
  Int.lt_add_of_pos_right bucket (by decide)

/-- An update past everything handled is for the next bucket. -/
theorem next_bucket (seen : Timestamp → Prop) {top bucket : Timestamp}
    (aligned : Aligned top) (aligned' : Aligned bucket) (past : top < bucket)
    (newest : ∀ bucket', seen bucket' → bucket' ≤ top)
    (supplied : ∀ older, Aligned older → top < older → older < bucket → seen older) :
    bucket = top + interval := by
  by_cases skips : top + interval < bucket
  · have found := supplied _ aligned.next (lt_next top) skips
    exact absurd (newest _ found) (Int.not_le.2 (lt_next top))
  · exact Int.le_antisymm (Int.not_lt.1 skips) (next_le aligned aligned' past)

/-! ## What is kept -/

/-- The marks are those of the events, and opening times of buckets. -/
structure Sound (initial marks : Dict String Timestamp) (events : List Streamed) : Prop where
  marked : Marked initial marks events
  aligned : ∀ product mark, marks.get? product = some mark → Aligned mark

section Sound

variable {initial marks : Dict String Timestamp} {e : Streamed} {earlier : List Streamed}

theorem Sound.silent (silent : ∀ product, passed product e = none)
    (sound : Sound initial marks earlier) : Sound initial marks (e :: earlier) where
  marked := sound.marked.silent silent
  aligned := sound.aligned

theorem Sound.pass {product : String} {bucket : Timestamp}
    (mine : passed product e = some bucket)
    (others : ∀ product', product' ≠ product → passed product' e = none)
    (aligned : Aligned bucket) (sound : Sound initial marks earlier) :
    Sound initial (marks.set product bucket) (e :: earlier) where
  marked := sound.marked.pass mine others
  aligned product' mark is := by
    by_cases same : product' = product
    · rw [same, Dict.get?_set_self] at is
      exact Option.some.inj is ▸ aligned
    · rw [Dict.get?_set_ne _ _ same] at is
      exact sound.aligned product' mark is

end Sound

theorem Sound.unmarked {initial : Dict String Timestamp} {m : FeedMoment} {op : StreamOp} {reply : Except Exc op.Reply} {after : FeedWorld}
    (sound : Sound initial (marks m) m.events) (unmarked : op.marks = false)
    (served : FeedServe op m.world reply after) :
    Sound initial (marks (m.push op reply after)) (m.push op reply after).events := by
  rw [marks_unmarked unmarked served]
  exact sound.silent fun product => passed_unmarked unmarked product

/-- On a connection that came up in `up` and brought these messages, where updates of these
buckets were handled: none was newer than the open bucket, and that bucket is right after
the mark. -/
structure Line (initial : Dict String Timestamp) (up : FeedWorld) (messages : List Payload)
    (seen : String → Timestamp → Prop) (m : FeedMoment) : Prop where
  came : upSince m.events = some up
  heard : heardSince m.events = messages
  sound : Sound initial (marks m) m.events
  since : ∀ product mark, up.ingestor.lastCandleAt.get? product = some mark →
    ∃ now, (marks m).get? product = some now ∧ mark ≤ now
  opened : ∀ product current, openBucket m product = some current →
    current.symbol = product ∧ Aligned current.openedAt ∧ seen product current.openedAt ∧
      (∀ bucket, seen product bucket → bucket ≤ current.openedAt) ∧
      ∀ mark, (marks m).get? product = some mark → current.openedAt = mark + interval
  unopened : ∀ product, openBucket m product = none →
    (marks m).get? product = up.ingestor.lastCandleAt.get? product ∧
      ∀ bucket, seen product bucket → ∃ mark, (marks m).get? product = some mark ∧ bucket ≤ mark

section Line

variable {initial : Dict String Timestamp} {up : FeedWorld} {messages : List Payload}
  {seen seen' : String → Timestamp → Prop} {op : StreamOp} {m : FeedMoment} {reply : Except Exc op.Reply} {after : FeedWorld}

theorem Line.congr (same : ∀ product bucket, seen' product bucket ↔ seen product bucket)
    (line : Line initial up messages seen m) : Line initial up messages seen' m := by
  have equal : seen' = seen := by
    funext product bucket
    exact propext (same product bucket)
  exact equal ▸ line

theorem Line.unmarked (unmarked : op.marks = false) (mute : op.mute = true)
    (served : FeedServe op m.world reply after) (line : Line initial up messages seen m) :
    Line initial up messages seen (m.push op reply after) where
  came := (upSince_mute mute).trans line.came
  heard := (heardSince_mute mute).trans line.heard
  sound := (marks_unmarked unmarked served).symm ▸
    line.sound.silent fun product => passed_unmarked unmarked product
  since product mark is := by
    rw [marks_unmarked unmarked served]
    exact line.since product mark is
  opened product current is := by
    rw [openBucket_unmarked unmarked served] at is
    rw [marks_unmarked unmarked served]
    exact line.opened product current is
  unopened product is := by
    rw [openBucket_unmarked unmarked served] at is
    rw [marks_unmarked unmarked served]
    exact line.unopened product is

/-- One more update of the product was handled. -/
def Adds (seen seen' : String → Timestamp → Prop) (product : String) (bucket : Timestamp) : Prop :=
  ∀ product' bucket', seen' product' bucket' ↔
    seen product' bucket' ∨ product' = product ∧ bucket' = bucket

theorem Line.received {payload : Payload} (line : Line initial up messages seen m)
    (served : FeedServe .recv m.world (.ok (.message (.object payload))) after) :
    Line initial up (payload :: messages) seen
      (m.push .recv (.ok (.message (.object payload))) after) where
  came := line.came
  heard := congrArg (payload :: ·) line.heard
  sound := line.sound.unmarked rfl served
  since product mark is := by
    rw [marks_unmarked rfl served]
    exact line.since product mark is
  opened product current is := by
    rw [openBucket_unmarked rfl served] at is
    rw [marks_unmarked rfl served]
    exact line.opened product current is
  unopened product is := by
    rw [openBucket_unmarked rfl served] at is
    rw [marks_unmarked rfl served]
    exact line.unopened product is

/-- An update of a bucket that is no newer than the mark or the open bucket. -/
theorem Line.repeated {product : String} {bucket : Timestamp} (line : Line initial up messages seen m)
    (adds : Adds seen seen' product bucket)
    (old : (∃ mark, (marks m).get? product = some mark ∧ bucket ≤ mark) ∨
      ∃ current, openBucket m product = some current ∧ bucket ≤ current.openedAt) :
    Line initial up messages seen' m where
  came := line.came
  heard := line.heard
  sound := line.sound
  since := line.since
  opened product' current is := by
    obtain ⟨named, aligned, known, newest, contiguous⟩ := line.opened product' current is
    refine ⟨named, aligned, (adds _ _).2 (.inl known), fun bucket' saw => ?_, contiguous⟩
    rcases (adds _ _).1 saw with before | ⟨rfl, rfl⟩
    · exact newest bucket' before
    · rcases old with ⟨mark, marked, behind⟩ | ⟨open_, is', behind⟩
      · rw [contiguous mark marked]
        exact Int.le_trans behind (Int.le_of_lt (lt_next mark))
      · cases is.symm.trans is'
        exact behind
  unopened product' is := by
    obtain ⟨same, known⟩ := line.unopened product' is
    refine ⟨same, fun bucket' saw => ?_⟩
    rcases (adds _ _).1 saw with before | ⟨rfl, rfl⟩
    · exact known bucket' before
    · rcases old with marked | ⟨open_, is', _⟩
      · exact marked
      · cases is.symm.trans is'

/-- An update of the bucket right after the mark becomes the open bucket. -/
theorem Line.opening {product : String} {candle : Candle}
    (came : upSince m.events = some up) (heard : heardSince m.events = messages)
    (sound : Sound initial (marks m) m.events)
    (since : ∀ product mark, up.ingestor.lastCandleAt.get? product = some mark →
      ∃ now, (marks m).get? product = some now ∧ mark ≤ now)
    (opened : ∀ product' current, product' ≠ product → openBucket m product' = some current →
      current.symbol = product' ∧ Aligned current.openedAt ∧ seen product' current.openedAt ∧
        (∀ bucket, seen product' bucket → bucket ≤ current.openedAt) ∧
        ∀ mark, (marks m).get? product' = some mark → current.openedAt = mark + interval)
    (unopened : ∀ product', product' ≠ product → openBucket m product' = none →
      (marks m).get? product' = up.ingestor.lastCandleAt.get? product' ∧ ∀ bucket,
        seen product' bucket → ∃ mark, (marks m).get? product' = some mark ∧ bucket ≤ mark)
    (mine : candle.symbol = product) (aligned : Aligned candle.openedAt)
    (adds : Adds seen seen' product candle.openedAt)
    (newest : ∀ bucket, seen product bucket → bucket ≤ candle.openedAt)
    (contiguous : ∀ mark, (marks m).get? product = some mark →
      candle.openedAt = mark + interval) :
    Line initial up messages seen' (assigned m (.openBucket product candle)) where
  came := came
  heard := heard
  sound := sound.silent fun _ => rfl
  since := since
  opened product' current is := by
    rw [openBucket_opened] at is
    split at is
    · rename_i same
      cases is
      subst same
      refine ⟨mine, aligned, (adds _ _).2 (.inr ⟨rfl, rfl⟩), fun bucket saw => ?_, contiguous⟩
      rcases (adds _ _).1 saw with before | ⟨_, rfl⟩
      · exact newest bucket before
      · exact Int.le_refl _
    · rename_i other
      obtain ⟨named, aligned', known, newest', contiguous'⟩ := opened product' current other is
      refine ⟨named, aligned', (adds _ _).2 (.inl known), fun bucket saw => ?_, contiguous'⟩
      rcases (adds _ _).1 saw with before | ⟨same, _⟩
      · exact newest' bucket before
      · exact absurd same other
  unopened product' is := by
    rw [openBucket_opened] at is
    split at is
    · cases is
    · rename_i other
      obtain ⟨same, known⟩ := unopened product' other is
      refine ⟨same, fun bucket saw => ?_⟩
      rcases (adds _ _).1 saw with before | ⟨same', _⟩
      · exact known bucket before
      · exact absurd same' other

/-- Where nothing is open the next update past the mark is for the bucket right after it. -/
theorem Line.first_contiguous {product : String} {bucket : Timestamp}
    (line : Line initial up messages seen m) (none_open : openBucket m product = none)
    (aligned : Aligned bucket)
    (new : ∀ mark, (marks m).get? product = some mark → mark < bucket)
    (supplied : ∀ older, Aligned older → older < bucket → Awaited up seen product older →
      seen product older) :
    ∀ mark, (marks m).get? product = some mark → bucket = mark + interval := by
  intro mark is
  obtain ⟨same, known⟩ := line.unopened product none_open
  refine next_bucket (seen product) (line.sound.aligned product mark is) aligned (new mark is) ?_ ?_
  · intro bucket' saw
    obtain ⟨mark', is', behind⟩ := known bucket' saw
    cases is.symm.trans is'
    exact behind
  · intro older aligned' past before
    refine supplied older aligned' before ⟨fun mark' is' => ?_, fun none_marked => ?_⟩
    · cases is.symm.trans (same.trans is')
      exact past
    · rw [none_marked, is] at same
      cases same

/-- The update that closes the open bucket is for the next one. -/
theorem Line.next_contiguous {product : String} {bucket : Timestamp} {current : Candle}
    (line : Line initial up messages seen m) (is : openBucket m product = some current)
    (aligned : Aligned bucket) (newer : current.openedAt < bucket)
    (supplied : ∀ older, Aligned older → older < bucket → Awaited up seen product older →
      seen product older) : bucket = current.openedAt + interval := by
  obtain ⟨_, aligned', known, newest, contiguous⟩ := line.opened product current is
  refine next_bucket (seen product) aligned' aligned newer newest fun older aligned'' past before => ?_
  refine supplied older aligned'' before ⟨fun mark marked => ?_, fun _ => ⟨_, known, past⟩⟩
  obtain ⟨now, marked', grown⟩ := line.since product mark marked
  have past' : now < current.openedAt := contiguous now marked' ▸ lt_next now
  exact Int.lt_trans (Int.lt_of_le_of_lt grown past') past

variable {assume : Streamed → List Streamed → Prop}

theorem Line.wp_update {product : String} {candle : Candle} (line : Line initial up messages seen m)
    (mine : candle.symbol = product) (aligned : Aligned candle.openedAt)
    (supplied : ∀ older, Aligned older → older < candle.openedAt → Awaited up seen product older →
      seen product older)
    (adds : Adds seen seen' product candle.openedAt) :
    wp (streaming assume (Contiguous initial)).logic
      (stepPost (Line initial up messages seen') fun _ m' => Sound initial (marks m') m'.events)
      (updateBucket product candle) m := by
  have line₁ : Line initial up messages seen (looked m) := line.unmarked rfl rfl ⟨rfl, rfl⟩
  refine wp_updateBucket ?_ ?_ ?_ ?_
  · intro mark is behind
    exact line₁.repeated adds (.inl ⟨mark, is, behind⟩)
  · intro current is before
    exact line₁.repeated adds (.inr ⟨current, is, Int.le_of_lt before⟩)
  · intro new same
    have known : (∀ bucket, seen product bucket → bucket ≤ candle.openedAt) ∧
        ∀ mark, (marks m).get? product = some mark → candle.openedAt = mark + interval := by
      cases is : openBucket m product with
      | none =>
          refine ⟨fun bucket saw => ?_, line.first_contiguous is aligned new supplied⟩
          obtain ⟨mark, marked, behind⟩ := (line.unopened product is).2 bucket saw
          exact Int.le_trans behind (Int.le_of_lt (new mark marked))
      | some current =>
          obtain ⟨_, _, _, newest, contiguous⟩ := line.opened product current is
          exact same current is ▸ ⟨newest, contiguous⟩
    exact .opening line₁.came line₁.heard line₁.sound line₁.since (fun product' current _ => line₁.opened product' current)
      (fun product' _ => line₁.unopened product') mine aligned adds known.1 known.2
  · intro current new is newer
    obtain ⟨named, aligned', _, newest, contiguous⟩ := line.opened product current is
    have sound₂ : Sound initial (marks m) (emitting m product current).events :=
      line₁.sound.silent fun _ => rfl
    refine ⟨fun mark marked => ?_, fun reply after served => ?_⟩
    · rw [named, ← sound₂.marked product] at marked
      exact contiguous mark marked
    · have sound₃ : Sound initial (marks (emitted m product current reply after))
          (emitted m product current reply after).events := by
        rw [marks_emitted served]
        refine sound₂.pass (if_pos named) (fun product' other => if_neg ?_) aligned'
        exact fun same => other (same.symm.trans named)
      cases reply with
      | error exc => exact sound₃
      | ok _ =>
          refine .opening line₁.came line₁.heard sound₃ ?_ ?_ ?_ mine aligned adds ?_ ?_
          · intro product' mark marked
            obtain ⟨now, marked', grown⟩ := line.since product' mark marked
            rw [marks_emitted served]
            by_cases same : product' = product
            · rw [same] at marked' ⊢
              rw [Dict.get?_set_self]
              have past := contiguous now marked' ▸ lt_next now
              exact ⟨_, rfl, Int.le_trans grown (Int.le_of_lt past)⟩
            · rw [Dict.get?_set_ne _ _ same]
              exact ⟨now, marked', grown⟩
          · intro product' open_ other is'
            rw [openBucket_emitted served] at is'
            rw [marks_emitted served, Dict.get?_set_ne _ _ other]
            exact line.opened product' open_ is'
          · intro product' other is'
            rw [openBucket_emitted served] at is'
            rw [marks_emitted served, Dict.get?_set_ne _ _ other]
            exact line.unopened product' is'
          · intro bucket saw
            exact Int.le_trans (newest bucket saw) (Int.le_of_lt newer)
          · intro mark marked
            rw [marks_emitted served, Dict.get?_set_self] at marked
            exact Option.some.inj marked ▸ line.next_contiguous is aligned newer supplied

end Line

/-! ## Every run -/

/-- What is assumed of each message: the venue's order, and that nothing is missed. -/
def Supplied (e : Streamed) (earlier : List Streamed) : Prop :=
  ∀ a, arrival e earlier = some a → a.InBucketOrder ∧ a.NoneMissed

theorem seen_snoc {messages : List Payload} {handled : List RawCandle} {raw : RawCandle}
    {product : String} {bucket : Timestamp} : Seen messages (handled ++ [raw]) product bucket ↔
      Seen messages handled product bucket ∨ raw.Updates product bucket := by
  constructor
  · intro saw
    rcases saw with before | ⟨raw', member, updates⟩
    · exact .inl (.inl before)
    · rcases List.mem_append.1 member with older | newest
      · exact .inl (.inr ⟨raw', older, updates⟩)
      · exact .inr (List.mem_singleton.1 newest ▸ updates)
  · intro saw
    rcases saw with (before | ⟨raw', older, updates⟩) | updates
    · exact .inl before
    · exact .inr ⟨raw', List.mem_append_left _ older, updates⟩
    · exact .inr ⟨raw, List.mem_append_right _ (List.mem_singleton.2 rfl), updates⟩

theorem seen_read {messages : List Payload} {payload : Payload} {product : String}
    {bucket : Timestamp} : Seen (payload :: messages) [] product bucket ↔
      Seen messages payload.candles product bucket := by
  constructor
  · intro saw
    rcases saw with ⟨payload', member, saw⟩ | ⟨raw, member, _⟩
    · rcases List.mem_cons.1 member with rfl | older
      · exact .inr saw
      · exact .inl ⟨payload', older, saw⟩
    · cases member
  · intro saw
    rcases saw with ⟨payload', older, saw⟩ | saw
    · exact .inl ⟨payload', List.mem_cons_of_mem _ older, saw⟩
    · exact .inl ⟨payload, List.mem_cons_self .., saw⟩

/-- While the candles of a message are handled. -/
structure Handling (initial : Dict String Timestamp) (arrival : Arrival)
    (all handled : List RawCandle) (m : FeedMoment) : Prop where
  inOrder : arrival.InBucketOrder
  noneMissed : arrival.NoneMissed
  candles : arrival.payload.candles = all
  line : Line initial arrival.up (arrival.payload :: arrival.before)
    (Seen arrival.before handled) m

section Handling

variable {initial : Dict String Timestamp} {arrival : Arrival} {handled rest : List RawCandle}
  {raw : RawCandle} {m : FeedMoment}

/-- A candle that names no product is passed over. -/
theorem Handling.skip (handling : Handling initial arrival (handled ++ raw :: rest) handled m)
    (nothing : ∀ product bucket, ¬ raw.Updates product bucket) :
    Handling initial arrival (handled ++ raw :: rest) (handled ++ [raw]) m :=
  { handling with
    line := handling.line.congr fun product bucket => by
      rw [seen_snoc]
      exact or_iff_left (nothing product bucket) }

theorem Handling.wp_handleCandle {receivedAt : Timestamp}
    (handling : Handling initial arrival (handled ++ raw :: rest) handled m) :
    wp (streaming Supplied (Contiguous initial)).logic
      (stepPost (Handling initial arrival (handled ++ raw :: rest) (handled ++ [raw]))
        fun _ m' => Sound initial (marks m') m'.events)
      (handleCandle receivedAt raw) m := by
  unfold handleCandle
  split
  · rename_i unnamed
    refine handling.skip fun product bucket updates => ?_
    cases unnamed.symm.trans updates.2.1
  rename_i product named
  split
  · rename_i empty
    refine handling.skip fun product' bucket updates => ?_
    cases named.symm.trans updates.2.1
    exact updates.1 empty
  rename_i some_
  split
  · exact handling.line.sound
  · rename_i candle parsed
    have updates := (updates_iff named some_ parsed).2 ⟨rfl, rfl⟩
    obtain ⟨aligned, supplied⟩ :=
      handling.inOrder.supplied handling.noneMissed ⟨raw, rest, handling.candles, updates⟩
    have adds : Adds (Seen arrival.before handled) (Seen arrival.before (handled ++ [raw]))
        product candle.openedAt := by
      intro product' bucket
      exact seen_snoc.trans (or_congr Iff.rfl (updates_iff named some_ parsed))
    have mine := (normalizeCoinbaseCandle_some parsed).1
    refine wp_mono (handling.line.wp_update mine aligned supplied adds) ?_
    intro result m' ended
    cases result with
    | ok _ => exact { handling with line := ended }
    | error exc => exact ended

end Handling

/-- What is kept between connections. -/
structure Waiting (initial : Dict String Timestamp) (m : FeedMoment) : Prop where
  sound : Sound initial (marks m) m.events
  none_open : NoOpenBucket m

section Waiting

variable {initial : Dict String Timestamp} {m : FeedMoment}

theorem Waiting.unmarked (waiting : Waiting initial m) (op : StreamOp)
    {reply : Except Exc op.Reply} {after : FeedWorld} (unmarked : op.marks = false)
    (served : FeedServe op m.world reply after) : Waiting initial (m.push op reply after) where
  sound := waiting.sound.unmarked unmarked served
  none_open := waiting.none_open.unmarked unmarked served

/-- A gap is filled up to the start of a bucket. -/
theorem wp_fills_waiting {config : StreamConfig} {assume : Streamed → List Streamed → Prop}
    (waiting : Waiting initial m) : wp (streaming assume (Contiguous initial)).logic
      (stepPost (Waiting initial) fun _ _ => True) (fillGaps config) m := by
  have read : wp (streaming assume (Contiguous initial)).logic
      (stepPost (Waiting initial) fun _ _ => True) (want .clock) m := by
    refine wp_want rfl fun reply after served _ => ?_
    obtain ⟨⟨now, rfl⟩, _⟩ := id served
    exact waiting.unmarked .clock rfl served
  refine wp_step read fun now m₁ waiting₁ => ?_
  refine wp_visit (fun _ => Waiting initial) (fun _ _ => True) _ ?_ waiting₁
  intro _ product _ m₂ _ waiting₂
  have waiting₃ : Waiting initial (looked m₂) := waiting₂.unmarked .read rfl ⟨rfl, rfl⟩
  refine wp_fillGap waiting₃ fun new previous after served => ⟨?_, ?_⟩
  · rw [marks_filled served]
    refine Sound.silent (fun _ => rfl) ?_
    exact waiting₃.sound.pass (if_pos rfl) (fun product' other => if_neg (Ne.symm other))
      (aligned_bucketStart now).previous
  · intro product'
    exact (openBucket_filled served product').trans (waiting₂.none_open product')

/-- A connection that came up in `up` and brought nothing yet. -/
structure CameUp (initial : Dict String Timestamp) (up : FeedWorld) (m : FeedMoment) : Prop where
  waiting : Waiting initial m
  came : upSince m.events = some up
  heard : heardSince m.events = []
  same : marks m = up.ingestor.lastCandleAt

theorem CameUp.unmarked {up : FeedWorld} (cameUp : CameUp initial up m) (op : StreamOp)
    {reply : Except Exc op.Reply} {after : FeedWorld} (unmarked : op.marks = false)
    (mute : op.mute = true) (served : FeedServe op m.world reply after) :
    CameUp initial up (m.push op reply after) where
  waiting := cameUp.waiting.unmarked op unmarked served
  came := (upSince_mute mute).trans cameUp.came
  heard := (heardSince_mute mute).trans cameUp.heard
  same := (marks_unmarked unmarked served).trans cameUp.same

theorem CameUp.line {up : FeedWorld} (cameUp : CameUp initial up m) :
    Line initial up [] (Seen [] []) m where
  came := cameUp.came
  heard := cameUp.heard
  sound := cameUp.waiting.sound
  since product mark is := ⟨mark, cameUp.same ▸ is, Int.le_refl _⟩
  opened product current is := by
    rw [cameUp.waiting.none_open product] at is
    cases is
  unopened product is := by
    refine ⟨congrArg (·.get? product) cameUp.same, fun bucket saw => ?_⟩
    rcases saw with ⟨payload, member, _⟩ | ⟨raw, member, _⟩
    · cases member
    · cases member

end Waiting

/-- Between two messages: all that was received was handled. -/
def Read (initial : Dict String Timestamp) (m : FeedMoment) : Prop :=
  ∃ up messages, Line initial up messages (Seen messages []) m

def contiguousIntake (initial : Dict String Timestamp) : Intake Supplied (Contiguous initial) where
  live := Read initial
  handling all handled m := ∃ arrival, Handling initial arrival all handled m
  broken m := Sound initial (marks m) m.events
  talks talk read served _ := by
    obtain ⟨up, messages, line⟩ := read
    exact ⟨up, messages, line.unmarked talk.unmarked talk.mute served⟩
  continues talk handling served _ := by
    obtain ⟨arrival, handling⟩ := handling
    exact ⟨arrival,
      { handling with line := handling.line.unmarked talk.unmarked talk.mute served }⟩
  waits read served _ := by
    obtain ⟨up, messages, line⟩ := read
    exact line.sound.unmarked rfl served
  arrives {m payload after} read served supplied := by
    obtain ⟨up, messages, line⟩ := read
    have arrived : arrival (m.event .recv (.ok (.message (.object payload))) after) m.events =
        some ⟨payload, up, messages⟩ := by
      rw [arrival, line.came, line.heard]
      rfl
    obtain ⟨inOrder, noneMissed⟩ := supplied _ arrived
    exact ⟨_, inOrder, noneMissed, rfl, line.received served⟩
  handles handling := by
    obtain ⟨arrival, handling⟩ := handling
    refine wp_mono handling.wp_handleCandle ?_
    intro result m' ended
    cases result with
    | ok _ => exact ⟨arrival, ended⟩
    | error exc => exact ended
  finishes handling := by
    obtain ⟨arrival, handling⟩ := handling
    have all := handling.candles
    subst all
    exact ⟨arrival.up, _, handling.line.congr fun product bucket => seen_read⟩
  fails handling := by
    obtain ⟨arrival, handling⟩ := handling
    exact handling.line.sound
  breaks read := by
    obtain ⟨up, messages, line⟩ := read
    exact line.sound

def contiguousWatch (initial : Dict String Timestamp) (config : StreamConfig) :
    Watch config Supplied (Contiguous initial) where
  idle := Waiting initial
  up m := ∃ up, CameUp initial up m
  live _ := Read initial
  broken _ m := Sound initial (marks m) m.events
  cleared _ := Waiting initial
  rests idle waiting served _ := waiting.unmarked _ idle.unmarked served
  connects {m reply after} waiting served _ := by
    have next := waiting.unmarked .connect rfl served
    cases reply with
    | ok _ => exact ⟨after, next, rfl, rfl, rfl⟩
    | error exc => exact next.sound
  sends {channel m reply after} cameUp served _ := by
    obtain ⟨up, cameUp⟩ := cameUp
    have next := cameUp.unmarked _ rfl rfl served
    cases reply with
    | ok _ => exact ⟨up, next⟩
    | error exc => exact next.waiting.sound
  starts cameUp served _ := by
    obtain ⟨up, cameUp⟩ := cameUp
    exact ⟨up, [], (cameUp.unmarked .clock rfl rfl served).line⟩
  reads read := (contiguousIntake initial).reads read
  clears {exc m reply after} sound served _ := by
    obtain ⟨rfl, rfl⟩ := served
    exact ⟨sound.silent fun _ => rfl, noOpenBucket_cleared m⟩
  reported _ := trivial
  reports waiting served := waiting.unmarked _ rfl served
  fills := wp_fills_waiting

/-- **Contiguity.**  In every run in which the venue keeps to the order of buckets and no
bucket is missed between a gap fill and the connection after it, an emitted candle is for
the bucket right after the mark of its product, where it has one. -/
theorem emitted_contiguous {config : StreamConfig} {fuel : Nat} {world : FeedWorld}
    {m : FeedMoment} {p : Feed (Option Retry)} {candle : Candle}
    (fresh : ∀ product, world.ingestor.openBuckets.get? product = none)
    (buckets : ∀ product mark, world.ingestor.lastCandleAt.get? product = some mark → Aligned mark)
    (reached : (run config fuel).Reaches FeedServe ⟨world, []⟩ p m)
    (emits : p.asks = some (.onCandle candle)) (inOrder : ∀ a ∈ arrivals m.events, a.InBucketOrder)
    (noneMissed : ∀ a ∈ arrivals m.events, a.NoneMissed) :
    ∀ mark, markOf world.ingestor.lastCandleAt candle.symbol m.events = some mark →
      candle.openedAt = mark + interval := by
  have start : Waiting world.ingestor.lastCandleAt ⟨world, []⟩ := ⟨⟨fun _ => rfl, buckets⟩, fresh⟩
  exact (contiguousWatch world.ingestor.lastCandleAt config).reached start reached emits rfl
    (along_arrivals fun a member => ⟨inOrder a member, noneMissed a member⟩)

/-! ## A connection that comes up in time -/

/-- Nothing is missed where the connection comes up before the bucket after the mark has
closed, or, where there is no mark, brings nothing from before it came up. -/
theorem Arrival.NoneMissed.of_prompt {arrival : Arrival}
    (prompt : ∀ handled product bucket, arrival.Brings handled product bucket →
      (∀ mark, arrival.up.ingestor.lastCandleAt.get? product = some mark →
        Aligned mark ∧ bucketStart arrival.up.now ≤ mark + interval) ∧
      (arrival.up.ingestor.lastCandleAt.get? product = none →
        ∀ first, Seen arrival.before handled product first →
          bucketStart arrival.up.now ≤ first)) : arrival.NoneMissed := by
  intro handled product bucket brings older aligned closed _ awaited
  obtain ⟨marked, unmarked⟩ := prompt handled product bucket brings
  cases is : arrival.up.ingestor.lastCandleAt.get? product with
  | some mark =>
      obtain ⟨aligned', inTime⟩ := marked mark is
      have after := next_le aligned' aligned (awaited.1 mark is)
      exact absurd closed (Int.not_lt.2 (Int.le_trans inTime after))
  | none =>
      obtain ⟨first, saw, past⟩ := awaited.2 is
      have after := unmarked is first saw
      exact absurd closed (Int.not_lt.2 (Int.le_trans after (Int.le_of_lt past)))

/-! ## A bucket that closes during the backoff -/

theorem updateFor_updates {start : Int} {product : String} {bucket : Timestamp} :
    (updateFor start).Updates product bucket ↔ product = "BTC-USD" ∧ bucket = start * second := by
  constructor
  · intro updates
    obtain ⟨_, named, receivedAt, candle, parsed, is⟩ := updates
    have starts := (normalizeCoinbaseCandle_some parsed).2
    exact ⟨(Option.some.inj named).symm, is.symm.trans (Option.some.inj starts).symm⟩
  · intro same
    obtain ⟨rfl, rfl⟩ := same
    have lasts : start * second < (start + 300) * second :=
      Int.mul_lt_mul_of_pos_right (Int.lt_add_of_pos_right start (by decide)) (by decide)
    refine ⟨by decide, rfl, 0, _, dif_pos ?_, rfl⟩
    exact ⟨by decide, by decide, by decide, by decide, by decide, lasts, by decide, by decide,
      by decide, by decide⟩

theorem brings_single {arrival : Arrival} {start : Int}
    (sent : arrival.payload.candles = [updateFor start]) {handled : List RawCandle}
    {product : String} {bucket : Timestamp} (brings : arrival.Brings handled product bucket) :
    handled = [] ∧ product = "BTC-USD" ∧ bucket = start * second := by
  obtain ⟨raw, rest, split, updates⟩ := brings
  rw [sent] at split
  cases handled with
  | nil =>
      have same : updateFor start = raw := (List.cons.inj split).1
      exact ⟨rfl, updateFor_updates.1 (same ▸ updates)⟩
  | cons first others => cases others <;> cases (List.cons.inj split).2

/-- A message with one update, of the bucket in which the connection came up, or of the next
one after an update of that. -/
theorem inOrder_single {arrival : Arrival} (start : Int)
    (sent : arrival.payload.candles = [updateFor start])
    (near : start * second = bucketStart arrival.up.now ∨
      start * second = bucketStart arrival.up.now + interval ∧
        Seen arrival.before [] "BTC-USD" (bucketStart arrival.up.now)) :
    arrival.InBucketOrder := by
  intro handled product bucket brings
  obtain ⟨rfl, rfl, rfl⟩ := brings_single sent brings
  rcases near with here | ⟨next, saw⟩
  · refine ⟨here ▸ aligned_bucketStart _, fun older _ since before => ?_⟩
    rw [here] at before
    exact absurd before (Int.not_lt.2 since)
  · refine ⟨next ▸ (aligned_bucketStart _).next, fun older aligned since before => ?_⟩
    rw [next] at before
    rcases Int.lt_or_eq_of_le since with past | same
    · have after := next_le (aligned_bucketStart _) aligned past
      exact absurd before (Int.not_lt.2 after)
    · exact same ▸ saw

/-- A message with one update, the first one there is or after a mark that was set in time. -/
theorem noneMissed_single {arrival : Arrival} (start : Int)
    (sent : arrival.payload.candles = [updateFor start])
    (known : arrival.before = [] ∧ arrival.up.ingestor.lastCandleAt.get? "BTC-USD" = none ∨
      ∃ mark, arrival.up.ingestor.lastCandleAt.get? "BTC-USD" = some mark ∧ Aligned mark ∧
        bucketStart arrival.up.now ≤ mark + interval) : arrival.NoneMissed := by
  refine .of_prompt fun handled product bucket brings => ?_
  obtain ⟨rfl, rfl, rfl⟩ := brings_single sent brings
  rcases known with ⟨nothing, none_marked⟩ | ⟨mark, marked, inTime⟩
  · refine ⟨fun mark is => ?_, fun _ first saw => ?_⟩
    · cases none_marked.symm.trans is
    · rcases saw with ⟨payload, member, _⟩ | ⟨raw, member, _⟩
      · rw [nothing] at member
        cases member
      · cases member
  · refine ⟨fun mark' is => ?_, fun none_marked => ?_⟩
    · cases marked.symm.trans is
      exact inTime
    · cases marked.symm.trans none_marked

/-- A connection that was lost while the bucket at 300 was in progress, and the next one,
which comes up after a backoff of a second. -/
def reconnecting (opened second_ third : Int) (starts : List Int) : Tape where
  readings := [opened, opened + 1, opened + 9, opened + 9, opened + 10, second_, third].map
    (· * second)
  receptions := [.ok (.message (updatesFor [300])), .error (staleMarketData "lost")] ++
    starts.map fun start => .ok (.message (updatesFor [start]))

def patient : StreamConfig := { Tape.btc with heartbeatTimeout := 600 * second }

/-- The next bucket has begun when the connection is up again. -/
def crossing : Feed (Option Retry) × FeedMoment :=
  (reconnecting 590 601 900 [600, 900]).after patient (590 * second) 51

/-- The same bucket is in progress when the connection is up again. -/
def staying : Feed (Option Retry) × FeedMoment :=
  (reconnecting 580 591 600 [300, 600]).after patient (580 * second) 51

theorem crossing_inOrder : ∀ a ∈ arrivals crossing.2.events, a.InBucketOrder := by
  refine List.forall_mem_cons.2 ⟨?_, List.forall_mem_cons.2 ⟨?_, List.forall_mem_cons.2 ⟨?_, ?_⟩⟩⟩
  · refine inOrder_single 900 rfl (.inr ⟨rfl, .inl ⟨_, List.mem_cons_self .., ?_⟩⟩)
    exact ⟨updateFor 600, List.mem_cons_self .., updateFor_updates.2 ⟨rfl, rfl⟩⟩
  · exact inOrder_single 600 rfl (.inl rfl)
  · exact inOrder_single 300 rfl (.inl rfl)
  · exact fun a member => absurd member List.not_mem_nil

theorem staying_inOrder : ∀ a ∈ arrivals staying.2.events, a.InBucketOrder := by
  refine List.forall_mem_cons.2 ⟨?_, List.forall_mem_cons.2 ⟨?_, List.forall_mem_cons.2 ⟨?_, ?_⟩⟩⟩
  · refine inOrder_single 600 rfl (.inr ⟨rfl, .inl ⟨_, List.mem_cons_self .., ?_⟩⟩)
    exact ⟨updateFor 300, List.mem_cons_self .., updateFor_updates.2 ⟨rfl, rfl⟩⟩
  · exact inOrder_single 300 rfl (.inl rfl)
  · exact inOrder_single 300 rfl (.inl rfl)
  · exact fun a member => absurd member List.not_mem_nil

theorem staying_noneMissed : ∀ a ∈ arrivals staying.2.events, a.NoneMissed := by
  refine List.forall_mem_cons.2 ⟨?_, List.forall_mem_cons.2 ⟨?_, List.forall_mem_cons.2 ⟨?_, ?_⟩⟩⟩
  · exact noneMissed_single 600 rfl (.inr ⟨0, rfl, Int.dvd_zero _, by decide⟩)
  · exact noneMissed_single 300 rfl (.inr ⟨0, rfl, Int.dvd_zero _, by decide⟩)
  · exact noneMissed_single 300 rfl (.inl ⟨rfl, rfl⟩)
  · exact fun a member => absurd member List.not_mem_nil

theorem emitted_contiguous_staying : ∃ candle, staying.1.asks = some (.onCandle candle) ∧
    markOf .empty candle.symbol staying.2.events = some 0 ∧
    ∀ mark, markOf .empty candle.symbol staying.2.events = some mark →
      candle.openedAt = mark + interval := by
  have emits : ∃ candle, staying.1.asks = some (.onCandle candle) ∧
      markOf .empty candle.symbol staying.2.events = some 0 := ⟨_, rfl, rfl⟩
  obtain ⟨candle, asks, marked⟩ := emits
  refine ⟨candle, asks, marked, ?_⟩
  exact emitted_contiguous (fun _ => rfl) (fun _ _ is => by cases is)
    ((reconnecting 580 591 600 [300, 600]).after_reached patient (580 * second) 51) asks
    staying_inOrder staying_noneMissed

/-- The bucket that closes during the backoff is lost. -/
theorem crossing_loses : ¬ ∀ (config : StreamConfig) (fuel : Nat) (world : FeedWorld)
    (m : FeedMoment) (p : Feed (Option Retry)) (candle : Candle),
    (∀ product, world.ingestor.openBuckets.get? product = none) →
    (∀ product mark, world.ingestor.lastCandleAt.get? product = some mark → Aligned mark) →
    (run config fuel).Reaches FeedServe ⟨world, []⟩ p m → p.asks = some (.onCandle candle) →
    (∀ a ∈ arrivals m.events, a.InBucketOrder) →
    ∀ mark, markOf world.ingestor.lastCandleAt candle.symbol m.events = some mark →
      candle.openedAt = mark + interval := by
  intro claimed
  have emits : ∃ candle, crossing.1.asks = some (.onCandle candle) ∧
      candle.openedAt = 600 * second ∧
      markOf .empty candle.symbol crossing.2.events = some 0 := ⟨_, rfl, rfl, rfl⟩
  obtain ⟨candle, asks, opened, marked⟩ := emits
  have next := claimed _ _ _ _ _ candle (fun _ => rfl) (fun _ _ is => by cases is)
    ((reconnecting 590 601 900 [600, 900]).after_reached patient (590 * second) 51) asks
    crossing_inOrder 0 marked
  rw [opened] at next
  revert next
  decide

end AlgoTrader.Data
