/-
# Data.Buckets -- what the events of a run say about buckets

For each product the ingestor keeps the newest bucket known to be closed and the one in
progress.  A bucket is passed when its candle is emitted, or when the gap up to it is
filled; the mark of a product is the bucket passed last.

* `wp_updateBucket`, `wp_fillGap` -- what the two writers of a mark may do;
* `Marked` -- the ingestor's marks are those of the events.
-/
import AlgoTrader.Data.StreamRuns

namespace AlgoTrader.Data

open AlgoTrader.Core Brokers Theory

set_option autoImplicit false

/-! ## Reading the events -/

/-- The bucket of the product that an event passes. -/
def passed (product : String) : Streamed → Option Timestamp
  | ⟨.onCandle candle, _, _, _⟩ =>
      if candle.symbol = product then some candle.openedAt else none
  | ⟨.gapFill product' _ gapEnd, .ok _, _, _⟩ =>
      if product' = product then some (gapEnd - interval) else none
  | _ => none

/-- The bucket of the product that was passed last, from the marks the run began with. -/
def markOf (initial : Dict String Timestamp) (product : String) : List Streamed → Option Timestamp
  | [] => initial.get? product
  | e :: earlier => (passed product e).or (markOf initial product earlier)

def brings : Streamed → Option Payload
  | ⟨.recv, .ok (.message (.object payload)), _, _⟩ => some payload
  | _ => none

/-- The candle is one for this bucket of the product. -/
def RawCandle.Updates (raw : RawCandle) (product : String) (openedAt : Timestamp) : Prop :=
  product ≠ "" ∧ raw.productId = some product ∧ ∃ receivedAt candle,
    normalizeCoinbaseCandle product raw receivedAt = some candle ∧ candle.openedAt = openedAt

/-- An update is of the product it is read for, and of the bucket its start says. -/
theorem normalizeCoinbaseCandle_some {product : String} {raw : RawCandle}
    {receivedAt : Timestamp} {candle : Candle}
    (parsed : normalizeCoinbaseCandle product raw receivedAt = some candle) :
    candle.symbol = product ∧ raw.start.map (· * second) = some candle.openedAt := by
  unfold normalizeCoinbaseCandle at parsed
  simp only [Option.bind_eq_bind, Option.bind_eq_some_iff] at parsed
  obtain ⟨start, is, _, _, _, _, _, _, _, _, _, _, _, _, made⟩ := parsed
  split at made
  · cases made
    rw [is]
    exact ⟨rfl, rfl⟩
  · cases made

/-- A candle that was read updates its own bucket and no other. -/
theorem updates_iff {product product' : String} {raw : RawCandle} {receivedAt bucket : Timestamp}
    {candle : Candle} (named : raw.productId = some product) (some_ : product ≠ "")
    (parsed : normalizeCoinbaseCandle product raw receivedAt = some candle) :
    raw.Updates product' bucket ↔ product' = product ∧ bucket = candle.openedAt := by
  constructor
  · intro updates
    obtain ⟨_, named', receivedAt', candle', parsed', is⟩ := updates
    cases named.symm.trans named'
    have start := (normalizeCoinbaseCandle_some parsed).2
    have start' := (normalizeCoinbaseCandle_some parsed').2
    exact ⟨rfl, is.symm.trans (Option.some.inj (start'.symm.trans start))⟩
  · intro same
    obtain ⟨rfl, rfl⟩ := same
    exact ⟨some_, named, receivedAt, candle, parsed, rfl⟩

/-- Requests that touch a mark or an open bucket, or pass a bucket. -/
def StreamOp.marks : StreamOp → Bool
  | .assign (.lastCandleAt _ _) => true
  | .assign (.openBucket _ _) => true
  | .assign .clearOpenBuckets => true
  | .onCandle _ => true
  | .gapFill .. => true
  | _ => false

theorem Talk.unmarked {op : StreamOp} (talk : Talk op) : op.marks = false := by
  cases talk <;> rfl

theorem Idle.unmarked {op : StreamOp} (idle : Idle op) : op.marks = false := by
  cases idle <;> rfl

section Unmarked

variable {op : StreamOp} {m : FeedMoment} {reply : Except Exc op.Reply} {after : FeedWorld}

theorem passed_unmarked (unmarked : op.marks = false) (product : String) {w : FeedWorld} :
    passed product ⟨op, reply, w, after⟩ = none := by
  cases op with
  | onCandle candle => cases unmarked
  | gapFill product' previous gapEnd => cases unmarked
  | _ => rfl

theorem buckets_unmarked (unmarked : op.marks = false) (served : FeedServe op m.world reply after) :
    after.ingestor.lastCandleAt = m.world.ingestor.lastCandleAt ∧
      after.ingestor.openBuckets = m.world.ingestor.openBuckets := by
  by_cases writes : ∃ change, op = .assign change
  · obtain ⟨change, rfl⟩ := writes
    obtain ⟨rfl, rfl⟩ := served
    cases change with
    | lastHeartbeat at_ => exact ⟨rfl, rfl⟩
    | lastQuote product quote => exact ⟨rfl, rfl⟩
    | connectionHealthy flag => exact ⟨rfl, rfl⟩
    | _ => cases unmarked
  · have same := served.ingestor fun change is => writes ⟨change, is⟩
    exact ⟨congrArg Ingestor.lastCandleAt same, congrArg Ingestor.openBuckets same⟩

end Unmarked

/-- The marks of the products. -/
def marks (m : FeedMoment) : Dict String Timestamp := m.world.ingestor.lastCandleAt

/-- The bucket in progress of a product. -/
def openBucket (m : FeedMoment) (product : String) : Option Candle :=
  m.world.ingestor.openBuckets.get? product

def NoOpenBucket (m : FeedMoment) : Prop := ∀ product, openBucket m product = none

section Unmarked

variable {op : StreamOp} {m : FeedMoment} {reply : Except Exc op.Reply} {after : FeedWorld}

theorem marks_unmarked (unmarked : op.marks = false) (served : FeedServe op m.world reply after) :
    marks (m.push op reply after) = marks m := (buckets_unmarked unmarked served).1

theorem openBucket_unmarked (unmarked : op.marks = false)
    (served : FeedServe op m.world reply after) (product : String) :
    openBucket (m.push op reply after) product = openBucket m product :=
  congrArg (·.get? product) (buckets_unmarked unmarked served).2

theorem NoOpenBucket.unmarked (unmarked : op.marks = false)
    (served : FeedServe op m.world reply after) (none_open : NoOpenBucket m) :
    NoOpenBucket (m.push op reply after) :=
  fun product => (openBucket_unmarked unmarked served product).trans (none_open product)

end Unmarked

/-- The ingestor's marks are those of the events. -/
def Marked (initial marks : Dict String Timestamp) (events : List Streamed) : Prop :=
  ∀ product, marks.get? product = markOf initial product events

section Marked

variable {initial marks : Dict String Timestamp} {e : Streamed} {earlier : List Streamed}

theorem Marked.silent (silent : ∀ product, passed product e = none)
    (marked : Marked initial marks earlier) : Marked initial marks (e :: earlier) := by
  intro product
  show _ = (passed product e).or _
  rw [silent product, Option.none_or]
  exact marked product

/-- What is passed becomes the mark. -/
theorem Marked.pass {product : String} {bucket : Timestamp}
    (mine : passed product e = some bucket)
    (others : ∀ product', product' ≠ product → passed product' e = none)
    (marked : Marked initial marks earlier) :
    Marked initial (marks.set product bucket) (e :: earlier) := by
  intro product'
  show _ = (passed product' e).or _
  by_cases same : product' = product
  · rw [same, mine, Dict.get?_set_self]
    rfl
  · rw [others product' same, Dict.get?_set_ne _ _ same, Option.none_or]
    exact marked product'

end Marked

/-! ## The two writers of a mark -/

section Writers

variable {assume : Streamed → List Streamed → Prop} {guard : StreamOp → FeedMoment → Prop}

/-- The moment after an assignment to the ingestor. -/
def assigned (m : FeedMoment) (change : Assign) : FeedMoment :=
  m.push (.assign change) (.ok ()) { m.world with ingestor := change.apply m.world.ingestor }

/-- The moment after the ingestor was read. -/
def looked (m : FeedMoment) : FeedMoment := m.push .read (.ok m.world.ingestor) m.world

theorem openBucket_opened (m : FeedMoment) (product product' : String) (candle : Candle) :
    openBucket (assigned m (.openBucket product candle)) product' =
      if product' = product then some candle else openBucket m product' :=
  Dict.get?_set ..

theorem noOpenBucket_cleared (m : FeedMoment) : NoOpenBucket (assigned m .clearOpenBuckets) :=
  fun product => Dict.get?_empty product

/-- The mark is moved before the candle is emitted. -/
def emitting (m : FeedMoment) (product : String) (current : Candle) : FeedMoment :=
  assigned (looked m) (.lastCandleAt product current.openedAt)

def emitted (m : FeedMoment) (product : String) (current : Candle) (reply : Except Exc Unit)
    (after : FeedWorld) : FeedMoment :=
  (emitting m product current).push (.onCandle current) reply after

section Emitted

variable {m : FeedMoment} {product : String} {current : Candle} {reply : Except Exc Unit}
  {after : FeedWorld}

theorem marks_emitted
    (served : FeedServe (.onCandle current) (emitting m product current).world reply after) :
    marks (emitted m product current reply after) = (marks m).set product current.openedAt :=
  congrArg Ingestor.lastCandleAt served.1

theorem openBucket_emitted
    (served : FeedServe (.onCandle current) (emitting m product current).world reply after)
    (product' : String) :
    openBucket (emitted m product current reply after) product' = openBucket m product' :=
  congrArg (·.openBuckets.get? product') served.1

end Emitted

/-- The moment after a gap was filled and its end noted. -/
def filled (m : FeedMoment) (product : String) (previous : Option Timestamp) (gapEnd : Timestamp)
    (after : FeedWorld) : FeedMoment :=
  assigned ((looked m).push (.gapFill product previous gapEnd) (.ok ()) after)
    (.lastCandleAt product (gapEnd - interval))

section Filled

variable {m : FeedMoment} {product : String} {previous : Option Timestamp} {gapEnd : Timestamp}
  {after : FeedWorld}

theorem marks_filled
    (served : FeedServe (.gapFill product previous gapEnd) (looked m).world (.ok ()) after) :
    marks (filled m product previous gapEnd after) =
      (marks m).set product (gapEnd - interval) :=
  congrArg (·.lastCandleAt.set product (gapEnd - interval)) served.1

theorem openBucket_filled
    (served : FeedServe (.gapFill product previous gapEnd) (looked m).world (.ok ()) after)
    (product' : String) :
    openBucket (filled m product previous gapEnd after) product' = openBucket m product' :=
  congrArg (·.openBuckets.get? product') served.1

end Filled

theorem wp_assign {change : Assign} {m : FeedMoment} {post : Except Exc Unit → FeedMoment → Prop}
    (next : post (.ok ()) (assigned m change)) :
    wp (streaming assume guard).logic post (want (.assign change)) m := by
  refine wp_want rfl fun reply after served _ => ?_
  obtain ⟨rfl, rfl⟩ := served
  exact next

theorem wp_look {α : Type} {f : Ingestor → Feed α} {m : FeedMoment}
    {post : Except Exc α → FeedMoment → Prop}
    (next : wp (streaming assume guard).logic post (f m.world.ingestor) (looked m)) :
    wp (streaming assume guard).logic post (want .read >>= f) m := by
  refine wp_bind.2 (wp_want rfl fun reply after served _ => ?_)
  obtain ⟨rfl, rfl⟩ := served
  exact next

/-- A bucket that is not closed is past the mark. -/
theorem ahead_of_open {mark : Option Timestamp} {bucket : Timestamp}
    (opened : ¬ mark.any (bucket ≤ ·) = true) : ∀ closed, mark = some closed → closed < bucket := by
  intro closed is
  have ahead := (Option.any_eq_false _ _).1 (Bool.eq_false_of_not_eq_true opened) closed is
  exact Int.not_le.1 (of_decide_eq_false ahead)

/-- What an update of a product comes to: it is too old, it becomes the open bucket, or it
closes the one there was. -/
theorem wp_updateBucket {product : String} {candle : Candle} {m : FeedMoment}
    {goOn raised : FeedMoment → Prop}
    (old : ∀ mark, (marks m).get? product = some mark →
      candle.openedAt ≤ mark → goOn (looked m))
    (late : ∀ current, openBucket m product = some current →
      candle.openedAt < current.openedAt → goOn (looked m))
    (opens : (∀ mark, (marks m).get? product = some mark →
        mark < candle.openedAt) →
      (∀ current, openBucket m product = some current → current.openedAt = candle.openedAt) →
      goOn (assigned (looked m) (.openBucket product candle)))
    (emits : ∀ current, (∀ mark, (marks m).get? product = some mark →
        mark < candle.openedAt) →
      openBucket m product = some current → current.openedAt < candle.openedAt →
      guard (.onCandle current) (emitting m product current) ∧
        ∀ reply after,
          FeedServe (.onCandle current) (emitting m product current).world reply after →
          stepPost (fun m' => goOn (assigned m' (.openBucket product candle))) (fun _ => raised) reply
            (emitted m product current reply after)) :
    wp (streaming assume guard).logic (stepPost goOn fun _ => raised)
      (updateBucket product candle) m := by
  refine wp_look ?_
  by_cases closed :
      (m.world.ingestor.lastCandleAt.get? product).any (candle.openedAt ≤ ·) = true
  · rw [if_pos closed]
    obtain ⟨mark, is, behind⟩ := (Option.any_eq_true _ _).1 closed
    exact old mark is (of_decide_eq_true behind)
  · rw [if_neg closed]
    have new := ahead_of_open closed
    cases bucket : m.world.ingestor.openBuckets.get? product with
    | none =>
        refine wp_assign (opens new fun current is => ?_)
        cases bucket.symm.trans is
    | some current =>
        show wp (streaming assume guard).logic _ (if _ then _ else if _ then _ else _) _
        split
        · rename_i before
          exact late current bucket before
        split
        · rename_i after
          obtain ⟨guarded, emitted⟩ := emits current new bucket after
          refine wp_bind.2 (wp_assign (wp_bind.2 (wp_call.2 ⟨fun _ => guarded, ?_⟩)))
          intro reply world served _
          have ended := emitted reply world served
          refine ⟨trivial, ?_⟩
          cases reply with
          | error exc => exact ended
          | ok _ => exact wp_assign ended
        · rename_i notBefore notAfter
          refine wp_assign (opens new fun open_ is => ?_)
          cases bucket.symm.trans is
          exact Int.le_antisymm (Int.not_lt.1 notBefore) (Int.not_lt.1 notAfter)

/-- The gap of a product is filled unless no bucket has closed since its mark. -/
theorem wp_fillGap {gapEnd : Timestamp} {product : String} {m : FeedMoment}
    {goOn : FeedMoment → Prop} (skips : goOn (looked m))
    (fills : (∀ mark, (marks m).get? product = some mark →
        mark < gapEnd - interval) →
      ∀ previous after,
        FeedServe (.gapFill product previous gapEnd) (looked m).world (.ok ()) after →
        goOn (filled m product previous gapEnd after)) :
    wp (streaming assume guard).logic (stepPost goOn fun _ _ => True) (fillGap gapEnd product) m := by
  refine wp_look ?_
  by_cases closed :
      (m.world.ingestor.lastCandleAt.get? product).any (gapEnd - interval ≤ ·) = true
  · show wp (streaming assume guard).logic _ (if _ then _ else _) _
    rw [if_pos closed]
    exact skips
  · show wp (streaming assume guard).logic _ (if _ then _ else _) _
    rw [if_neg closed]
    have new := ahead_of_open closed
    refine wp_bind.2 (wp_want rfl fun reply after served _ => ?_)
    cases reply with
    | error exc => trivial
    | ok _ => exact wp_assign (fills new _ after served)

end Writers

/-! ## Messages for played runs -/

/-- A candle of one product, with the bucket it is for. -/
def updateFor (start : Int) : RawCandle where
  productId := some "BTC-USD"
  start := some start
  end_ := none
  openPrice := some 1
  high := some 1
  low := some 1
  close := some 1
  volume := some 1

/-- A message of updates, in order. -/
def updatesFor (starts : List Int) : Message :=
  .object ⟨some "candles", none, [⟨starts.map updateFor, []⟩]⟩

end AlgoTrader.Data
