/-
# App.WatchComplete -- the watch-only feed leaves no hole

A collection resumes after the newest candle the store has of its symbol.  Pages are stored in order
and as a whole, so whatever is interrupted leaves no hole before that candle, as far back as the edge
of the backfill; the edge only moves forwards, and only candles before it are pruned.

* `Whole.resume`, `Filling.page` -- where a collection starts, and what a page adds;
* `collectPages_fills` -- all pages up to the end, however the store and the venue fail;
* `collections_complete` -- so a collection that returns leaves the thirty days complete;
* `overlapping_missed` -- unless candles of the source overlap: the feed steps over a candle that
  opens while the newest one has not closed.
-/
import AlgoTrader.App.WatchStore
import AlgoTrader.Theory.Resume

namespace AlgoTrader.App.WatchStore

open AlgoTrader.Core AlgoTrader.Data AlgoTrader.Theory
open WatchFeed (Config FeedError backfillDays day maxCandles pruneBatch validateOne)

set_option autoImplicit false

/-! ## What a collection is to leave -/

/-- The candles the feed asks the source for. -/
def offered (source : Set Candle) (symbol : String) : Set Candle :=
  {candle ∈ source | candle.symbol = symbol ∧ candle.interval = websocketCandleInterval}

/-- The store has, of a symbol, exactly the source's candles of the thirty days up to the bucket in
progress. -/
def Complete (source : Set Candle) (symbol : String) (now : Timestamp) (store : CandleStore) : Prop :=
  ∀ candle : Candle, earliest now ≤ candle.openedAt → candle.openedAt < bucketStart now →
    (candle ∈ store.read symbol websocketCandleInterval ↔ candle ∈ offered source symbol)

abbrev Watched := Event watching FeedError CandleStore

abbrev Point := Moment watching FeedError CandleStore

def told : Watched → Option Timestamp
  | ⟨.clock, .ok now, _, _⟩ => some now
  | _ => none

/-- The last read of a collection: with its answer the collection has succeeded. -/
def finished : Watched → Option String
  | ⟨.latestOpenedAt .after symbol _, .ok _, _, _⟩ => some symbol
  | _ => none

/-- The clock does not go back. -/
def Steady (e : Watched) (earlier : List Watched) : Prop :=
  ∀ now, told e = some now → ∀ last, earlier.findSome? told = some last → last ≤ now

/-- A collection that succeeds, at the time its cycle read, leaves the store complete. -/
def Succeeds (source : Set Candle) (e : Watched) (earlier : List Watched) : Prop :=
  ∀ symbol now, finished e = some symbol → earlier.findSome? told = some now →
    Complete source symbol now e.after

/-- No two candles of a symbol overlap: five minutes are each candle's own. -/
def Separate (source : Set Candle) : Prop :=
  ∀ first ∈ source, ∀ second ∈ source, first.symbol = second.symbol →
    first.interval = websocketCandleInterval → second.interval = websocketCandleInterval →
    first.openedAt ≤ second.openedAt → first = second ∨ first.openedAt + interval ≤ second.openedAt

/-! ## The candles of a symbol -/

/-- The candles kept of a symbol. -/
def kept (store : CandleStore) (symbol : String) : Set Candle :=
  {candle | store.candles.get? (candleKey candle) = some candle ∧ candle.symbol = symbol ∧
    candle.interval = websocketCandleInterval}

/-- What the store holds came from the source, and is kept under its own key. -/
def Own (source : Set Candle) (store : CandleStore) : Prop :=
  ∀ key candle, store.candles.get? key = some candle →
    candleKey candle = key ∧ candle ∈ source ∧ candle.interval = websocketCandleInterval

/-- Nothing is missing, of any symbol, between the edge and what is kept. -/
structure Whole (source : Set Candle) (edge : Timestamp) (store : CandleStore) : Prop where
  own : Own source store
  unbroken : ∀ symbol, Unbroken Candle.openedAt (offered source symbol) (kept store symbol) edge

/-- A symbol is filled up to a cursor. -/
structure Filling (source : Set Candle) (symbol : String) (edge cursor : Timestamp) (store : CandleStore) :
    Prop where
  own : Own source store
  filled : FilledTo Candle.openedAt (offered source symbol) (kept store symbol) edge cursor
  others : ∀ other, other ≠ symbol → Unbroken Candle.openedAt (offered source other) (kept store other) edge

section Stores

variable {source : Set Candle} {store : CandleStore} {edge cursor : Timestamp} {symbol : String}

theorem whole_empty (source : Set Candle) (edge : Timestamp) : Whole source edge .empty := by
  have nothing : ∀ key, CandleStore.empty.candles.get? key = none := fun key => Dict.get?_empty key
  have unkept : ∀ symbol, kept .empty symbol = ∅ := fun symbol =>
    Set.eq_empty_iff_forall_notMem.2 fun candle ⟨found, _⟩ => by simp [nothing] at found
  refine ⟨fun key candle found => ?_, fun symbol => ?_⟩
  · simp [nothing] at found
  · rw [unkept]
    exact unbroken_empty

theorem Whole.later {edge' : Timestamp} (whole : Whole source edge store) (forward : edge ≤ edge') :
    Whole source edge' store :=
  ⟨whole.own, fun symbol => (whole.unbroken symbol).later forward⟩

theorem Filling.whole (filling : Filling source symbol edge cursor store) : Whole source edge store := by
  refine ⟨filling.own, fun other => ?_⟩
  by_cases same : other = symbol
  · exact same ▸ filling.filled.unbroken
  · exact filling.others other same

/-- Only candles before the edge are pruned. -/
theorem Whole.prune (whole : Whole source edge store) {cutoff : Timestamp} (old : cutoff ≤ edge)
    {limit count : Nat} {pruned : CandleStore}
    (done : store.pruneBefore symbol websocketCandleInterval cutoff limit = .ok (count, pruned)) :
    Whole source edge pruned := by
  have fewer := fun key => (CandleStore.get?_pruneBefore done key).1
  have stays := fun key => (CandleStore.get?_pruneBefore done key).2
  refine ⟨fun key candle found => whole.own key candle (fewer key candle found), fun other => ?_⟩
  refine (whole.unbroken other).drop (fun candle ⟨found, named⟩ => ⟨fewer _ _ found, named⟩) ?_
  rintro candle ⟨found, named⟩ from_
  exact ⟨(stays (candleKey candle) (le_trans old from_)).trans found, named⟩

theorem candleKey_eq {candle : Candle} {symbol interval : String} {openedAt : Timestamp} :
    candleKey candle = (symbol, interval, openedAt) ↔
      candle.symbol = symbol ∧ candle.interval = interval ∧ candle.openedAt = openedAt := by
  simp [candleKey]

/-- A key of the store stands for a candle that is kept. -/
theorem kept_of_holds (own : Own source store) {openedAt : Timestamp}
    (held : store.Holds symbol websocketCandleInterval openedAt) :
    ∃ candle ∈ kept store symbol, candle.openedAt = openedAt := by
  obtain ⟨candle, found⟩ := Option.isSome_iff_exists.1 (Dict.isSome_get?.2 held)
  obtain ⟨named, _, _⟩ := own _ _ found
  obtain ⟨ofSymbol, ofInterval, opened⟩ := candleKey_eq.1 named
  exact ⟨candle, ⟨named ▸ found, ofSymbol, ofInterval⟩, opened⟩

theorem holds_of_kept {candle : Candle} (there : candle ∈ kept store symbol) :
    store.Holds symbol websocketCandleInterval candle.openedAt := by
  obtain ⟨found, ofSymbol, ofInterval⟩ := there
  have named : candleKey candle = (symbol, websocketCandleInterval, candle.openedAt) :=
    candleKey_eq.2 ⟨ofSymbol, ofInterval, rfl⟩
  exact Dict.isSome_get?.1 (Option.isSome_iff_exists.2 ⟨candle, named ▸ found⟩)

theorem interval_pos : 0 < interval := by decide

/-- A collection resumes where nothing before is missing. -/
theorem Whole.resume (separate : Separate source) {now : Timestamp} (whole : Whole source (earliest now) store) :
    Filling source symbol (earliest now)
      (resumeAt now (store.latestOpenedAt symbol websocketCandleInterval)) store := by
  refine ⟨whole.own, ?_, fun other _ => whole.unbroken other⟩
  cases latest : store.latestOpenedAt symbol websocketCandleInterval with
  | none =>
      exact (whole.unbroken symbol).restart fun candle there =>
        CandleStore.latestOpenedAt_none latest _ (holds_of_kept there)
  | some opened =>
      obtain ⟨held, newest⟩ := CandleStore.latestOpenedAt_newest latest
      obtain ⟨last, there, rfl⟩ := kept_of_holds whole.own held
      have listed : last ∈ offered source symbol := (whole.unbroken symbol).own there
      refine (whole.unbroken symbol).resume there (fun candle kept => newest _ (holds_of_kept kept)) ?_ ?_
      · exact lt_max_of_lt_right (Int.lt_add_of_pos_right _ interval_pos)
      · intro candle offered from_ before
        by_contra after
        rcases lt_max_iff.1 before with early | within
        · exact absurd from_ (not_le.2 early)
        · rcases separate last listed.1 candle offered.1 (listed.2.1.trans offered.2.1.symm) listed.2.2 offered.2.2
            (le_of_not_ge after) with same | apart
          · exact after (same ▸ le_refl _)
          · exact absurd within (not_lt.2 apart)

/-- A candle of the source is the only one of its key. -/
theorem Separate.unique (separate : Separate source) {first second : Candle} (listed : first ∈ source)
    (listed' : second ∈ source) (of : first.interval = websocketCandleInterval)
    (same : candleKey first = candleKey second) : first = second := by
  obtain ⟨symbols, intervals, openings⟩ := candleKey_eq.1 same
  rcases separate first listed second listed' symbols of (intervals ▸ of) openings.le with equal | apart
  · exact equal
  · rw [openings] at apart
    exact absurd apart (not_le.2 (Int.lt_add_of_pos_right _ interval_pos))

/-- The page of a window: what the source offers in it. -/
theorem mem_pageOf {pageEnd : Timestamp} {fetched : List Candle}
    (answers : Answers source symbol cursor pageEnd websocketCandleInterval fetched) {candle : Candle} :
    candle ∈ pageOf symbol cursor pageEnd fetched ↔
      candle ∈ offered source symbol ∧ cursor ≤ candle.openedAt ∧ candle.openedAt < pageEnd := by
  rw [pageOf, List.mem_filter, answers candle, decide_eq_true_eq]
  constructor
  · rintro ⟨⟨listed, ofSymbol, ofInterval, from_, before⟩, _⟩
    exact ⟨⟨listed, ofSymbol, ofInterval⟩, from_, before⟩
  · rintro ⟨⟨listed, ofSymbol, ofInterval⟩, from_, before⟩
    exact ⟨⟨listed, ofSymbol, ofInterval, from_, before⟩, from_, before, ofSymbol⟩

section Page

variable {pageEnd : Timestamp} {candles : List Candle}

/-- What the store has under a key once a page of the source is written. -/
theorem get?_page (separate : Separate source) (listed : ∀ candle ∈ candles, candle ∈ offered source symbol)
    (key : String × String × Timestamp) {candle : Candle} :
    (store.upsertMany candles).candles.get? key = some candle ↔
      (candle ∈ candles ∧ candleKey candle = key) ∨
        (∀ other ∈ candles, candleKey other ≠ key) ∧ store.candles.get? key = some candle :=
  CandleStore.get?_upsertMany (fun first member second there =>
    separate.unique (listed first member).1 (listed second there).1 (listed first member).2.2) key

theorem own_page (separate : Separate source) (own : Own source store)
    (listed : ∀ candle ∈ candles, candle ∈ offered source symbol) : Own source (store.upsertMany candles) := by
  intro key candle found
  rcases (get?_page separate listed key).1 found with ⟨member, named⟩ | ⟨_, old⟩
  · exact ⟨named, (listed candle member).1, (listed candle member).2.2⟩
  · exact own key candle old

/-- A page adds its own candles to what is kept of their symbol. -/
theorem kept_page (separate : Separate source) (own : Own source store)
    (listed : ∀ candle ∈ candles, candle ∈ offered source symbol) :
    kept (store.upsertMany candles) symbol = kept store symbol ∪ {candle | candle ∈ candles} := by
  ext candle
  constructor
  · rintro ⟨is, named⟩
    rcases (get?_page separate listed _).1 is with ⟨member, _⟩ | ⟨_, old⟩
    · exact .inr member
    · exact .inl ⟨old, named⟩
  · rintro (⟨old, ofSymbol, ofInterval⟩ | member)
    · refine ⟨(get?_page separate listed _).2 ?_, ofSymbol, ofInterval⟩
      by_cases written : ∃ other ∈ candles, candleKey other = candleKey candle
      · obtain ⟨other, member, named⟩ := written
        have equal := separate.unique (listed other member).1 (own _ _ old).2.1 (listed other member).2.2 named
        exact .inl ⟨equal ▸ member, rfl⟩
      · exact .inr ⟨fun other member named => written ⟨other, member, named⟩, old⟩
    · exact ⟨(get?_page separate listed _).2 (.inl ⟨member, rfl⟩), (listed candle member).2⟩

/-- And nothing to what is kept of any other. -/
theorem kept_page_other (separate : Separate source) (listed : ∀ candle ∈ candles, candle ∈ offered source symbol)
    {other : String} (different : other ≠ symbol) : kept (store.upsertMany candles) other = kept store other := by
  have elsewhere : ∀ candle : Candle, candle.symbol = other → ∀ c ∈ candles, candleKey c ≠ candleKey candle := by
    intro candle ofOther c member named
    exact different (ofOther.symm.trans ((candleKey_eq.1 named).1.symm.trans (listed c member).2.1))
  ext candle
  constructor
  · rintro ⟨is, ofOther, ofInterval⟩
    rcases (get?_page separate listed _).1 is with ⟨member, _⟩ | ⟨_, old⟩
    · exact absurd rfl (elsewhere candle ofOther candle member)
    · exact ⟨old, ofOther, ofInterval⟩
  · rintro ⟨old, ofOther, ofInterval⟩
    exact ⟨(get?_page separate listed _).2 (.inr ⟨elsewhere candle ofOther, old⟩), ofOther, ofInterval⟩

/-- A page that is written fills the store further. -/
theorem Filling.page (separate : Separate source) (filling : Filling source symbol edge cursor store)
    (forward : cursor ≤ pageEnd)
    (window : ∀ candle, candle ∈ candles ↔
      candle ∈ offered source symbol ∧ cursor ≤ candle.openedAt ∧ candle.openedAt < pageEnd) :
    Filling source symbol edge pageEnd (store.upsertMany candles) := by
  have listed : ∀ candle ∈ candles, candle ∈ offered source symbol := fun candle member => ((window candle).1 member).1
  have paged : {candle | candle ∈ candles} =
      {candle ∈ offered source symbol | cursor ≤ candle.openedAt ∧ candle.openedAt < pageEnd} := Set.ext window
  refine ⟨own_page separate filling.own listed, ?_, fun other different => ?_⟩
  · rw [kept_page separate filling.own listed, paged]
    exact filling.filled.page forward
  · rw [kept_page_other separate listed different]
    exact filling.others other different

end Page

theorem mem_read (own : Own source store) {candle : Candle} :
    candle ∈ store.read symbol websocketCandleInterval ↔ candle ∈ kept store symbol := by
  rw [CandleStore.read, List.mem_mergeSort, List.mem_filter, Dict.mem_values, decide_eq_true_eq]
  constructor
  · rintro ⟨⟨key, found⟩, ofSymbol, ofInterval⟩
    exact ⟨(own key candle found).1 ▸ found, ofSymbol, ofInterval⟩
  · rintro ⟨found, ofSymbol, ofInterval⟩
    exact ⟨⟨_, found⟩, ofSymbol, ofInterval⟩

theorem Filling.complete {now : Timestamp} (filling : Filling source symbol (earliest now) cursor store)
    (past : bucketStart now ≤ cursor) : Complete source symbol now store := by
  intro candle from_ before
  rw [mem_read filling.own]
  exact filling.filled.exact from_ (lt_of_lt_of_le before past)

end Stores

/-! ## Programs -/

theorem bucketStart_mono {earlier later : Timestamp} (forward : earlier ≤ later) :
    bucketStart earlier ≤ bucketStart later := by
  have seconds : earlier.tdiv second ≤ later.tdiv second := Int.tdiv_le_tdiv (by decide) forward
  unfold bucketStart
  rw [Int.fdiv_eq_ediv_of_nonneg _ (by decide), Int.fdiv_eq_ediv_of_nonneg _ (by decide)]
  exact Int.mul_le_mul_of_nonneg_right (Int.ediv_le_ediv (by decide) seconds) interval_pos.le

theorem earliest_mono {earlier later : Timestamp} (forward : earlier ≤ later) : earliest earlier ≤ earliest later :=
  Int.sub_le_sub_right (bucketStart_mono forward) _

/-- What holds between the requests of a run: nothing is missing from the latest edge on. -/
structure Standing (source : Set Candle) (m : Point) : Prop where
  along : Along (Succeeds source) m.events
  whole : ∀ edge, (∀ now, m.events.findSome? told = some now → earliest now ≤ edge) → Whole source edge m.world

def contract (source : Set Candle) : Contract watching FeedError CandleStore where
  serve := WatchServe source
  assume := Steady
  guard _ _ := True
  invariant := Standing source

/-- A moment of a cycle that read this time. -/
structure Within (source : Set Candle) (now : Timestamp) (inv : CandleStore → Prop) (m : Point) : Prop where
  along : Along (Succeeds source) m.events
  reads : m.events.findSome? told = some now
  holds : inv m.world

section Cycles

variable {source : Set Candle} {now : Timestamp}

theorem Within.standing {inv : CandleStore → Prop} {m : Point} (within : Within source now inv m)
    (whole : ∀ store, inv store → Whole source (earliest now) store) : Standing source m :=
  ⟨within.along, fun _ later => (whole _ within.holds).later (later now within.reads)⟩

theorem Within.mono {inv weaker : CandleStore → Prop} {m : Point} (within : Within source now inv m)
    (implies : ∀ store, inv store → weaker store) : Within source now weaker m :=
  ⟨within.along, within.reads, implies _ within.holds⟩

/-- An event that neither reads the clock nor ends a collection. -/
theorem Within.push {inv inv' : CandleStore → Prop} {m : Point} (within : Within source now inv m) {op : WatchOp}
    {reply : Except FeedError op.Reply} {after : CandleStore} (timeless : told ⟨op, reply, m.world, after⟩ = none)
    (unfinished : finished ⟨op, reply, m.world, after⟩ = none) (holds : inv' after) :
    Within source now inv' (m.push op reply after) := by
  refine ⟨⟨fun symbol now ended => ?_, within.along⟩, ?_, holds⟩
  · cases unfinished.symm.trans ended
  · rw [Moment.push_events, List.findSome?_cons, timeless]
    exact within.reads

theorem wp_issue {op : WatchOp} {m : Point} {post : Except FeedError op.Reply → Point → Prop}
    (replied : ∀ reply after, WatchServe source op m.world reply after →
      Standing source (m.push op reply after) ∧ post reply (m.push op reply after)) :
    wp (contract source).logic post (issue op) m :=
  wp_call.2 ⟨trivial, fun reply after served _ => replied reply after served⟩

/-- A symbol is filled up to somewhere, or the collection is given up without a hole. -/
def Reaches (source : Set Candle) (now : Timestamp) (symbol : String) (goal : Timestamp → Prop) :
    Except FeedError Unit → Point → Prop
  | .ok _, m => ∃ upTo, goal upTo ∧ Within source now (Filling source symbol (earliest now) upTo) m
  | .error _, m => Within source now (Whole source (earliest now)) m

variable {symbol : String}

theorem storePage_fills (separate : Separate source) {cursor pageEnd : Timestamp} {page : List Candle}
    (forward : cursor ≤ pageEnd)
    (window : ∀ candle, candle ∈ page ↔
      candle ∈ offered source symbol ∧ cursor ≤ candle.openedAt ∧ candle.openedAt < pageEnd) {m : Point}
    (within : Within source now (Filling source symbol (earliest now) cursor) m) :
    wp (contract source).logic (Reaches source now symbol (· = pageEnd)) (storePage page) m := by
  have stored := within.holds.page separate forward window
  rw [storePage, wp_bind]
  cases page.forM validateOne with
  | error e => exact within.mono fun _ filling => filling.whole
  | ok _ =>
      dsimp only [validate]
      rw [wp_pure', andThen]
      by_cases none_ : page.isEmpty = true
      · rw [if_pos none_]
        rw [List.isEmpty_iff.1 none_] at stored
        exact ⟨pageEnd, rfl, within.along, within.reads, stored⟩
      · rw [if_neg none_]
        refine wp_bind.2 (wp_issue fun reply after served => ?_)
        have ended : ∀ upTo, Filling source symbol (earliest now) upTo after →
            Within source now (Filling source symbol (earliest now) upTo) (m.push (.upsertMany page) reply after) :=
          fun _ filling => within.push rfl rfl filling
        rcases served with ⟨⟨e, rfl⟩, rfl⟩ | ⟨replied, rfl⟩
        · have kept := ended _ within.holds
          exact ⟨kept.standing fun _ filling => filling.whole, kept.mono fun _ filling => filling.whole⟩
        · have written := ended _ stored
          refine ⟨written.standing fun _ filling => filling.whole, ?_⟩
          cases reply with
          | ok count => exact ⟨pageEnd, rfl, written⟩
          | error e => exact written.mono fun _ filling => filling.whole

theorem collectPages_fills (separate : Separate source) (end_ cursor : Timestamp) {m : Point}
    (within : Within source now (Filling source symbol (earliest now) cursor) m) :
    wp (contract source).logic (Reaches source now symbol (end_ ≤ ·)) (collectPages symbol end_ cursor) m := by
  induction cursor using collectPages.induct end_ generalizing m with
  | case1 cursor more pageEnd =>
      rename_i ih
      have forward : cursor ≤ pageEnd := le_min more.le (Int.le_add_of_nonneg_right (by decide))
      rw [collectPages, dif_pos more, wp_bind]
      refine wp_issue fun reply after served => ?_
      obtain ⟨answered, rfl⟩ := served
      have kept : Within source now (Filling source symbol (earliest now) cursor) (m.push (.getCandles symbol cursor
          (min end_ (cursor + interval * maxCandles)) websocketCandleInterval) reply m.world) :=
        within.push rfl rfl within.holds
      refine ⟨kept.standing fun _ filling => filling.whole, ?_⟩
      rcases answered with ⟨fetched, rfl, answers⟩ | ⟨e, rfl⟩
      · refine wp_bind.2 (wp_mono (storePage_fills separate forward (fun _ => mem_pageOf answers) kept) ?_)
        rintro (e | _) m' stored
        · exact stored
        · obtain ⟨_, rfl, filled⟩ := stored
          exact ih filled
      · exact kept.mono fun _ filling => filling.whole
  | case2 cursor done =>
      rw [collectPages, dif_neg done]
      exact ⟨cursor, not_lt.1 done, within⟩

/-- A collection that succeeds leaves the store complete, and one that fails leaves no hole. -/
theorem collect_stands (separate : Separate source) (symbol : String) :
    Sustains (contract source).logic (Within source now (Whole source (earliest now))) (collect now symbol) := by
  intro m within
  refine wp_bind.2 (wp_issue fun reply after served => ?_)
  obtain ⟨answered, rfl⟩ := served
  have kept : Within source now (Whole source (earliest now))
      (m.push (.latestOpenedAt .before symbol websocketCandleInterval) reply m.world) :=
    within.push (by cases reply <;> rfl) rfl within.holds
  refine ⟨kept.standing fun _ whole => whole, ?_⟩
  rcases answered with rfl | ⟨e, rfl⟩
  swap
  · exact kept
  have resumed : Within source now (Filling source symbol (earliest now)
      (resumeAt now (m.world.latestOpenedAt symbol websocketCandleInterval))) _ :=
    ⟨kept.along, kept.reads, kept.holds.resume separate⟩
  refine wp_bind.2 (wp_mono (collectPages_fills separate _ _ resumed) ?_)
  rintro (e | _) m₁ reached
  · exact reached
  obtain ⟨upTo, past, filled⟩ := reached
  refine wp_issue fun reply after served => ?_
  obtain ⟨_, rfl⟩ := served
  have ended : Within source now (Whole source (earliest now))
      (m₁.push (.latestOpenedAt .after symbol websocketCandleInterval) reply m₁.world) := by
    refine ⟨⟨fun ofSymbol at_ finish read => ?_, filled.along⟩, filled.reads, filled.holds.whole⟩
    cases filled.reads.symm.trans read
    cases reply with
    | error e => cases finish
    | ok latest =>
        cases finish
        exact filled.holds.complete past
  exact ⟨ended.standing fun _ whole => whole, ended⟩

/-- `WATCH_FEED_RETENTION_DAYS` keeps at least what a backfill asks for. -/
theorem cutoff_le {config : Config} {days : Int} (configured : retentionOf days = .ok config.retention) :
    cutoff config now ≤ earliest now := by
  unfold retentionOf at configured
  split at configured
  · rename_i allowed
    have long : backfillDays * day ≤ days * day := Int.mul_le_mul_of_nonneg_right allowed.1 (by decide)
    exact Int.sub_le_sub_left (Except.ok.inj configured ▸ long) _
  · cases configured

theorem task_stands (separate : Separate source) {config : Config} {days : Int}
    (configured : retentionOf days = .ok config.retention) (task : Task) :
    Sustains (contract source).logic (Within source now (Whole source (earliest now)))
      (task.program config now) := by
  cases task with
  | collect symbol => exact (collect_stands separate symbol).attempt.discard
  | prune symbol =>
      refine Sustains.discard (Sustains.attempt fun m within => wp_issue fun reply after served => ?_)
      have ended : Whole source (earliest now) after → Within source now (Whole source (earliest now)) (m.push
          (.pruneBefore symbol websocketCandleInterval (cutoff config now) pruneBatch) reply after) :=
        fun whole => within.push rfl rfl whole
      have kept : Whole source (earliest now) after := by
        rcases served with ⟨_, rfl⟩ | ⟨count, _, pruned⟩
        · exact within.holds
        · exact within.holds.prune (cutoff_le configured) pruned
      exact ⟨(ended kept).standing fun _ whole => whole, ended kept⟩

theorem cycle_stands (separate : Separate source) {config : Config} {days : Int}
    (configured : retentionOf days = .ok config.retention) (tasks : List Task) :
    Sustains (contract source).logic (Standing source) (cycle config tasks) := by
  intro m standing
  refine wp_bind.2 (wp_call.2 ⟨trivial, fun reply after served steady => ?_⟩)
  obtain ⟨⟨now, rfl⟩, rfl⟩ := served
  have opened : Within source now (Whole source (earliest now)) (m.push .clock (.ok now) m.world) := by
    refine ⟨⟨fun _ _ never => ?_, standing.along⟩, rfl, standing.whole _ fun last read => ?_⟩
    · cases never
    · exact earliest_mono (steady now rfl last read)
  have cycled := sustains_visit (task_stands separate configured) tasks _ opened
  refine ⟨opened.standing fun _ whole => whole, wp_mono cycled fun _ _ within => ?_⟩
  exact within.standing fun _ whole => whole

end Cycles

/-- **The watch-only feed is complete.**  Where no two candles of the source overlap, in every run of the
feed over a store that nothing else writes, a collection that succeeds leaves exactly the source's
candles of the thirty days before in the store, whatever failed, was pruned or was cut off before. -/
theorem collections_complete {config : Config} {days : Int} (configured : retentionOf days = .ok config.retention)
    {source : Set Candle} (separate : Separate source) {c : Theory.Config watching FeedError CandleStore}
    (reached : (watchSystem config source).Reachable c) (steady : Along Steady c.moment.events) :
    Along (Succeeds source) c.moment.events := by
  have upheld : Upheld (contract source) c := by
    refine System.sound rfl ?_ ?_ ?_ reached steady
    · rintro _ rfl
      exact ⟨trivial, fun edge _ => whole_empty source edge⟩
    · exact fun tasks m standing => cycle_stands separate configured tasks m standing
    · rintro m _ standing rfl
      exact standing
  exact upheld.1.along

/-! ## Two cycles over a few candles -/

theorem forward (openedAt : Timestamp) : openedAt < openedAt + interval := Int.lt_add_of_pos_right _ interval_pos

/-- The feed as it is configured by default. -/
def monthly : Config := ⟨[], 30 * day⟩

/-- A five-minute candle at one price. -/
def bar (openedAt : Timestamp) : Candle where
  symbol := "ADA-USD"
  interval := websocketCandleInterval
  openedAt
  closedAt := openedAt + interval
  openPrice := ⟨1, decimal_one⟩
  high := ⟨1, decimal_one⟩
  low := ⟨1, decimal_one⟩
  close := ⟨1, decimal_one⟩
  volume := ⟨0, decimal_zero⟩
  source := "coinbase-advanced-trade"
  asOf := openedAt + interval
  ingestedAt := openedAt + interval
  closeAfterOpen := forward openedAt
  highIsHigh := le_refl _
  lowIsLow := le_refl _
  closeIsWithinBar := ⟨le_refl _, le_refl _⟩

/-- A clock that is five minutes further at every reading, and a source of these candles. -/
def answering (candles : List Candle) : Script watching FeedError CandleStore
  | .clock, m => (.ok ((m.events.findSome? told).getD 0 + interval), m.world)
  | .latestOpenedAt _ symbol interval, m => (.ok (m.world.latestOpenedAt symbol interval), m.world)
  | .getCandles product start end_ granularity, m =>
      (.ok (candles.filter fun candle => candle.symbol = product ∧ candle.interval = granularity ∧
        start ≤ candle.openedAt ∧ candle.openedAt < end_), m.world)
  | .upsertMany page, m => (.ok (m.world.inserted page), m.world.upsertMany page)
  | .pruneBefore .., m => (.error .other, m.world)

theorem answering_sound (candles : List Candle) :
    (answering candles).Sound (WatchServe {candle | candle ∈ candles}) := by
  intro op m
  cases op with
  | clock => exact ⟨⟨_, rfl⟩, rfl⟩
  | latestOpenedAt read symbol interval => exact ⟨.inl rfl, rfl⟩
  | getCandles product start end_ granularity =>
      refine ⟨.inl ⟨_, rfl, fun candle => ?_⟩, rfl⟩
      rw [List.mem_filter, decide_eq_true_eq]
      rfl
  | upsertMany page => exact .inr ⟨.inl rfl, rfl⟩
  | pruneBefore symbol interval cutoff limit => exact .inl ⟨⟨_, rfl⟩, rfl⟩

theorem answering_steady (candles : List Candle) (op : WatchOp) (m : Point) :
    Steady (m.event op (answering candles op m).1 (answering candles op m).2) m.events := by
  intro now read last before
  cases op with
  | clock =>
      cases read
      rw [before]
      exact (forward last).le
  | _ => cases read

/-- A cycle that is cut off within its backfill, and two that are not. -/
def resumed (candles : List Candle) : Point :=
  (watchSystem monthly {candle | candle ∈ candles}).rehearse (answering candles)
    [([.collect "ADA-USD"], 3), ([.collect "ADA-USD"], 60), ([.collect "ADA-USD"], 60)] ⟨.empty, []⟩

theorem resumed_reached (candles : List Candle) :
    (watchSystem monthly {candle | candle ∈ candles}).Reachable ⟨resumed candles, none⟩ := by
  unfold resumed
  exact System.rehearse_reachable (answering_sound candles) _ (.init rfl)

theorem resumed_steady (candles : List Candle) : Along Steady (resumed candles).events := by
  unfold resumed
  exact System.rehearse_along _ (answering_steady candles) _ trivial

theorem collections_complete_resumed :
    (resumed [bar 300000000, bar 600000000]).events.head?.bind finished = some "ADA-USD" ∧
    Along (Succeeds {candle | candle ∈ [bar 300000000, bar 600000000]})
      (resumed [bar 300000000, bar 600000000]).events := by
  have separate : Separate {candle | candle ∈ [bar 300000000, bar 600000000]} := by
    rintro first listed second listed' - - - upTo
    simp only [Set.mem_ofPred_eq, List.mem_cons, List.not_mem_nil, or_false] at listed listed'
    rcases listed with rfl | rfl <;> rcases listed' with rfl | rfl
    · exact .inl rfl
    · exact .inr (by decide)
    · exact absurd upTo (by decide)
    · exact .inl rfl
  exact ⟨by decide +kernel, collections_complete (show retentionOf 30 = .ok monthly.retention from rfl) separate
    (resumed_reached _) (resumed_steady _)⟩

/-- Candles that open seven and eleven minutes after the epoch. -/
def overlapping : List Candle := [bar 420000000, bar 660000000]

/-- The candle that opens before the one before it has closed is never asked for. -/
theorem overlapping_missed : ¬ ∀ (source : Set Candle) (c : Theory.Config watching FeedError CandleStore),
    (watchSystem monthly source).Reachable c → Along Steady c.moment.events →
      Along (Succeeds source) c.moment.events := by
  intro always
  have along := always _ _ (resumed_reached overlapping) (resumed_steady overlapping)
  have finish : (resumed overlapping).events.head?.bind finished = some "ADA-USD" := by decide +kernel
  have read : (resumed overlapping).events.tail.findSome? told = some 900000000 := by decide +kernel
  have left : (resumed overlapping).events.head?.map (·.after.candles.values.map Candle.openedAt) =
      some [420000000] := by decide +kernel
  change Along _ (resumed overlapping).events at along
  cases events : (resumed overlapping).events with
  | nil =>
      rw [events] at finish
      cases finish
  | cons e earlier =>
      rw [events] at along finish read left
      have complete := along.1 "ADA-USD" 900000000 finish read
      have offered : bar 660000000 ∈ offered {candle | candle ∈ overlapping} "ADA-USD" :=
        ⟨List.mem_cons_of_mem _ (List.mem_singleton_self _), rfl, rfl⟩
      have stored := (complete (bar 660000000) (by decide) (by decide)).2 offered
      rw [CandleStore.read, List.mem_mergeSort, List.mem_filter] at stored
      have opened : (660000000 : Timestamp) ∈ e.after.candles.values.map Candle.openedAt :=
        List.mem_map.2 ⟨_, stored.1, rfl⟩
      have listed : e.after.candles.values.map Candle.openedAt = [420000000] := Option.some.inj left
      rw [listed] at opened
      exact absurd opened (by decide)

end AlgoTrader.App.WatchStore
