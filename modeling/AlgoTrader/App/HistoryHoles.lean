/-
# App.HistoryHoles -- a candle that was not stored is not filled in

The stream counts a bucket as passed before the runtime has stored its candle, and a gap is filled from
the bucket after the one that was passed last.  So where a closed candle could not be stored the history
keeps a hole, whatever is filled later.

* `Tally` -- what the calls so far say of the bars of a symbol;
* `Tally.candle`, `Tally.gap` -- one call more;
* `gap_fills_whole_iff` -- when the history is whole after a gap was filled.
-/
import AlgoTrader.App.PaperHistory

namespace AlgoTrader.App.PaperHistory

open AlgoTrader.Core AlgoTrader.Brokers AlgoTrader.Data AlgoTrader.Strategy AlgoTrader.Theory

set_option autoImplicit false

/-! ## What the events say -/

/-- The bars of the symbol are whole over every bucket from here on that opens before the end. -/
def WholeTo (store : CandleStore) (symbol : String) (from_ end_ : Timestamp) : Prop :=
  ∀ bucket, Aligned bucket → from_ ≤ bucket → bucket < end_ → Held store symbol bucket

/-- From here on there is no hole before the end of a bar that is there. -/
def NoHoleFrom (store : CandleStore) (symbol : String) (from_ : Timestamp) : Prop :=
  ∀ openedAt, Held store symbol openedAt → WholeTo store symbol from_ (openedAt + interval)

/-- Each candle of the symbol that was handed over could be stored. -/
def AllStorable (windows : PaperWindows) (symbol : String) (calls : List CandleCall) : Prop :=
  ∀ call ∈ calls, call.candle.symbol = symbol → Storable windows call.store call.candle call.events

/-- Each candle that is handed over is the one right after the bucket that was passed last. -/
def InSuccession (initial : Dict String Timestamp) (events : List Streamed) : Prop :=
  Along (fun e earlier => Contiguous initial e.op ⟨e.before, earlier⟩) events

/-- The bars of a symbol after these events: none is newer than the mark, and they are whole up to it exactly
when they were at the start and every candle could be stored. -/
structure Tally (setup : Setup) (now : Timestamp) (sound : Prop) (symbol : String) (calls : List CandleCall)
    (store : CandleStore) (mark : Timestamp) : Prop where
  from_ : firstBackfilled setup now ≤ mark
  newest : ∀ openedAt, Held store symbol openedAt → openedAt ≤ mark
  whole : WholeTo store symbol (firstBackfilled setup now) (mark + interval) ↔
    sound ∧ AllStorable setup.windows symbol calls

section Tally

variable {setup : Setup} {now : Timestamp} {sound : Prop} {symbol : String} {calls : List CandleCall}
  {store after : CandleStore} {mark : Timestamp}

/-- Bars that are whole up to the newest one open where a bucket does. -/
theorem Tally.aligned (tally : Tally setup now sound symbol calls store mark)
    (whole : WholeTo store symbol (firstBackfilled setup now) (mark + interval)) : Aligned mark := by
  obtain ⟨n, rest, inside, below⟩ : ∃ n rest, mark = interval * n + rest ∧ 0 ≤ rest ∧ rest < interval :=
    ⟨mark / interval, mark % interval, (Int.mul_ediv_add_emod mark interval).symm,
      Int.emod_nonneg _ interval_pos.ne', Int.emod_lt_of_pos _ interval_pos⟩
  by_cases exact_ : rest = 0
  · exact ⟨n, by rw [inside, exact_, add_zero]⟩
  · have positive := lt_of_le_of_ne below.1 (Ne.symm exact_)
    have later := whole (interval * n + interval) (Int.dvd_add (Int.dvd_mul_right _ _) (Int.dvd_refl _))
      (by linarith [tally.from_]) (by linarith)
    exact absurd (tally.newest _ later) (not_le.2 (by linarith))

theorem wholeTo_shorter {from_ end_ earlier : Timestamp} (whole : WholeTo store symbol from_ end_)
    (shorter : earlier ≤ end_) : WholeTo store symbol from_ earlier :=
  fun bucket aligned after before => whole bucket aligned after (before.trans_le shorter)

theorem wholeTo_congr {from_ end_ : Timestamp} (same : ∀ openedAt, openedAt < end_ →
    (Held after symbol openedAt ↔ Held store symbol openedAt)) :
    WholeTo after symbol from_ end_ ↔ WholeTo store symbol from_ end_ :=
  forall_congr' fun bucket =>
    forall_congr' fun _ => forall_congr' fun _ => forall_congr' fun before => same bucket before

/-- A call that is about another symbol. -/
theorem Tally.same (tally : Tally setup now sound symbol calls store mark)
    (same : ∀ openedAt, Held after symbol openedAt ↔ Held store symbol openedAt) :
    Tally setup now sound symbol calls after mark where
  from_ := tally.from_
  newest openedAt held := tally.newest openedAt ((same openedAt).1 held)
  whole := (wholeTo_congr fun openedAt _ => same openedAt).trans tally.whole

theorem allStorable_cons {call : CandleCall} : AllStorable setup.windows symbol (call :: calls) ↔
    (call.candle.symbol = symbol → Storable setup.windows call.store call.candle call.events) ∧
      AllStorable setup.windows symbol calls :=
  List.forall_mem_cons

theorem held_upsert {candle : Candle} (spans : candle.interval = websocketCandleInterval) (openedAt : Timestamp) :
    Held (store.upsertMany [candle]) symbol openedAt ↔
      Held store symbol openedAt ∨ candle.symbol = symbol ∧ candle.openedAt = openedAt := by
  unfold Held
  rw [CandleStore.holds_upsertMany]
  refine or_congr_right ?_
  simp [candleKey, spans]

/-- A candle that could be stored is the next bar. -/
theorem Tally.stored {candle : Candle} (tally : Tally setup now sound symbol calls store mark)
    (own : candle.symbol = symbol) (spans : candle.interval = websocketCandleInterval)
    (next : candle.openedAt = mark + interval) :
    WholeTo (store.upsertMany [candle]) symbol (firstBackfilled setup now) (mark + interval + interval) ↔
      WholeTo store symbol (firstBackfilled setup now) (mark + interval) := by
  constructor
  · intro whole bucket aligned from_ before
    rcases (held_upsert spans bucket).1 (whole bucket aligned from_ (before.trans (lt_next _))) with old | ⟨_, is⟩
    · exact old
    · exact absurd (next.symm.trans is) (ne_of_gt before)
  · intro whole bucket aligned from_ before
    rcases lt_or_ge bucket (mark + interval) with earlier | later
    · exact (held_upsert spans bucket).2 (.inl (whole bucket aligned from_ earlier))
    · have last : bucket ≤ mark + interval := by
        by_contra past
        have := next_le (tally.aligned whole).next aligned (not_le.1 past)
        linarith
      exact (held_upsert spans bucket).2 (.inr ⟨own, next.trans (le_antisymm later last)⟩)

/-- A candle that could not be stored is a hole. -/
theorem Tally.lost (tally : Tally setup now sound symbol calls store mark) :
    ¬ WholeTo store symbol (firstBackfilled setup now) (mark + interval + interval) := by
  intro whole
  have aligned := tally.aligned (wholeTo_shorter whole (lt_next _).le)
  have held := whole (mark + interval) aligned.next (tally.from_.trans (lt_next mark).le) (lt_next _)
  exact absurd (tally.newest _ held) (not_le.2 (lt_next mark))

/-- One closed candle more. -/
theorem Tally.candle {candle : Candle} {reply : Except Exc Unit} {final : Moment papering Exc CandleStore}
    (tally : Tally setup now sound symbol calls store mark)
    (run : (onCandle setup.windows candle).Runs PaperServe ⟨store, []⟩ reply final)
    (own : candle.symbol = symbol) (spans : candle.interval = websocketCandleInterval)
    (next : candle.openedAt = mark + interval) :
    Tally setup now sound symbol (⟨candle, store, final.events⟩ :: calls) final.world (mark + interval) := by
  have from_ := tally.from_.trans (lt_next mark).le
  rcases onCandle_stores run with ⟨storable, is⟩ | ⟨refused, is⟩
  · rw [is]
    refine ⟨from_, fun openedAt held => ?_, ?_⟩
    · rcases (held_upsert spans openedAt).1 held with old | ⟨_, same⟩
      · exact (tally.newest openedAt old).trans (lt_next mark).le
      · exact (same.symm.trans next).le
    · rw [tally.stored own spans next, tally.whole, allStorable_cons]
      exact and_congr_right fun _ => ⟨fun all => ⟨fun _ => storable, all⟩, And.right⟩
  · rw [is]
    refine ⟨from_, fun openedAt held => (tally.newest openedAt held).trans (lt_next mark).le, ?_⟩
    refine iff_of_false tally.lost fun ⟨_, all⟩ => ?_
    exact refused ((allStorable_cons.1 all).1 own)

/-- A closed candle of another symbol. -/
theorem Tally.otherCandle {candle : Candle} {reply : Except Exc Unit} {final : Moment papering Exc CandleStore}
    (tally : Tally setup now sound symbol calls store mark)
    (run : (onCandle setup.windows candle).Runs PaperServe ⟨store, []⟩ reply final)
    (other : candle.symbol ≠ symbol) (spans : candle.interval = websocketCandleInterval) :
    Tally setup now sound symbol (⟨candle, store, final.events⟩ :: calls) final.world mark := by
  have same (openedAt : Timestamp) : Held final.world symbol openedAt ↔ Held store symbol openedAt := by
    rcases onCandle_stores run with ⟨_, is⟩ | ⟨_, is⟩
    · rw [is, held_upsert spans]
      exact or_iff_left fun ⟨own, _⟩ => other own
    · rw [is]
  obtain ⟨from_, newest, whole⟩ := tally.same same
  exact ⟨from_, newest, whole.trans (and_congr_right fun _ => (allStorable_cons.trans
    (and_iff_right fun own => absurd own other)).symm)⟩

/-- One gap more that was filled. -/
theorem Tally.gap {end_ : Timestamp} {final : Moment papering Exc CandleStore}
    (tally : Tally setup now sound symbol calls store mark) (ahead : mark < end_ - interval)
    (run : (gapFill setup symbol (some mark) end_).Runs PaperServe ⟨store, []⟩ (.ok ()) final) :
    Tally setup now sound symbol calls final.world (end_ - interval) := by
  obtain ⟨filled, returns⟩ := gapFill_fills run
  have start : gapStart setup.windows (some mark) end_ = mark + interval := rfl
  rw [start] at filled returns
  have before : mark + interval < end_ := by linarith
  obtain ⟨total, served⟩ := returns rfl before
  obtain ⟨latest, passes, pages⟩ := (backfill_served served).2 total rfl before
  have cursor : HistoricalCandleBackfiller.resumeFrom interval (mark + interval) latest = mark + interval := by
    cases latest with
    | none => rfl
    | some newest =>
      have old : newest < mark + 1 := passes (mark + 1) (.inr fun stored is => ?_) newest rfl
      · exact max_eq_left (by linarith [Int.le_of_lt_add_one old])
      · have := tally.newest stored (CandleStore.latestOpenedAt_newest is).1
        exact Int.lt_add_one_of_le this
  rw [cursor] at pages
  obtain ⟨k, reaches, held⟩ := pages before
  refine ⟨by linarith [tally.from_], fun openedAt there => ?_, ?_⟩
  · rcases filled.added _ _ _ there with old | ⟨_, _, _, within⟩
    · linarith [tally.newest openedAt old]
    · linarith
  rw [sub_add_cancel, ← tally.whole]
  constructor
  · intro whole bucket aligned' from_ inside
    rcases filled.added _ _ _ (whole bucket aligned' from_ (inside.trans before)) with old | ⟨_, _, later, _⟩
    · exact old
    · exact absurd inside (not_lt.2 later)
  · intro whole bucket aligned' from_ inside
    rcases lt_or_ge bucket (mark + interval) with earlier | later
    · exact filled.keeps _ _ _ (whole bucket aligned' from_ earlier)
    · obtain ⟨j, is⟩ := Int.dvd_sub aligned' (tally.aligned whole).next
      have nonneg : 0 ≤ j := by
        by_contra negative
        have := mul_neg_of_pos_of_neg interval_pos (not_le.1 negative)
        linarith
      obtain ⟨n, rfl⟩ := Int.eq_ofNat_of_zero_le nonneg
      have place : bucket = mark + interval + n * interval := by linarith
      have within : n < k := by
        have scaled : (n : Int) * interval < k * interval := by linarith
        exact_mod_cast lt_of_mul_lt_mul_right scaled interval_pos.le
      exact place ▸ held n within

/-! ## A whole run -/

/-- What the calls of a run come to, as far as no gap was left unfilled. -/
theorem tally_run {began : CandleStore} {initial : Dict String Timestamp} {events : List Streamed} {first : Timestamp}
    (accounts : Accounts setup began events calls store) (unfailed : GapFills.Unfailed events)
    (proper : Along (fun e earlier => GapFills.Proper initial e.op ⟨e.before, earlier⟩) events)
    (succession : InSuccession initial events) (marked : initial.get? symbol = some first)
    (start : Tally setup now sound symbol [] began first) :
    ∃ mark, markOf initial symbol events = some mark ∧ Tally setup now sound symbol calls store mark := by
  induction accounts with
  | began => exact ⟨first, marked, start⟩
  | candle _ run ih =>
    rename_i candle reply w w' final _
    obtain ⟨mark, is, tally⟩ := ih (fun e member => unfailed e (List.mem_cons_of_mem _ member)) proper.2 succession.2
    by_cases own : candle.symbol = symbol
    · have next : candle.openedAt = mark + interval := succession.1 mark (own ▸ is)
      refine ⟨mark + interval, ?_, tally.candle run own proper.1 next⟩
      show (if _ then _ else _ : Option Timestamp).or _ = _
      rw [if_pos own, next]
      rfl
    · refine ⟨mark, ?_, tally.otherCandle run own proper.1⟩
      show (if _ then _ else _ : Option Timestamp).or _ = _
      rw [if_neg own]
      exact is
  | gap _ run ih =>
    rename_i symbol' lastClosed end_ reply w w' final _
    obtain ⟨mark, is, tally⟩ := ih (fun e member => unfailed e (List.mem_cons_of_mem _ member)) proper.2 succession.2
    cases reply with
    | error exc => exact nomatch unfailed _ (List.mem_cons_self ..)
    | ok _ =>
      obtain ⟨previous, _, ahead, _⟩ := proper.1
      by_cases own : symbol' = symbol
      · subst own
        obtain rfl := previous.trans is
        refine ⟨end_ - interval, ?_, tally.gap (ahead mark rfl) run⟩
        show (if _ then _ else _ : Option Timestamp).or _ = _
        rw [if_pos rfl]
        rfl
      · refine ⟨mark, ?_, tally.same fun openedAt => (gapFill_fills run).filled.others (Ne.symm own) openedAt⟩
        show (if _ then _ else _ : Option Timestamp).or _ = _
        rw [if_neg own]
        exact is
  | other _ silent ih =>
    rename_i e _ _ _ _
    obtain ⟨mark, is, tally⟩ := ih (fun e member => unfailed e (List.mem_cons_of_mem _ member)) proper.2 succession.2
    refine ⟨mark, ?_, tally⟩
    have nothing : passed symbol e = none := by
      obtain ⟨op, reply, before, after⟩ := e
      cases op <;> first | rfl | cases silent
    show (passed symbol e).or _ = _
    rw [nothing]
    exact is

/-- Where the start leaves a symbol. -/
theorem tally_start {began : CandleStore} {passed : Dict String Timestamp}
    (restocked : Restocked setup now began store) (seeded : Seeded setup now symbol passed store) :
    ∃ mark, passed.get? symbol = some mark ∧
      Tally setup now (NoHoleFrom began symbol (bucketStart now)) symbol [] store mark := by
  obtain ⟨mark, is, held, newest⟩ := seeded.marked
  have first := seeded.whole _ (aligned_firstBackfilled setup now) le_rfl (firstBackfilled_lt setup now)
  refine ⟨mark, is, newest _ first, newest, ?_⟩
  have outside {openedAt : Timestamp} (there : Held store symbol openedAt)
      (late : bucketStart now < openedAt + interval) : Held began symbol openedAt := by
    rcases restocked.added symbol openedAt there with old | ⟨_, within⟩
    · exact old
    · exact absurd late (not_lt.2 within)
  constructor
  · refine fun whole => ⟨fun openedAt there bucket aligned from_ before => ?_, fun call member => by cases member⟩
    have inside : bucket < mark + interval :=
      before.trans_le (Int.add_le_add_right (newest openedAt (restocked.keeps _ _ _ there)) interval)
    exact outside (whole bucket aligned ((firstBackfilled_lt setup now).le.trans from_) inside)
      (from_.trans_lt (lt_next bucket))
  · rintro ⟨sound, _⟩ bucket aligned from_ before
    rcases lt_or_ge bucket (bucketStart now) with earlier | later
    · exact seeded.whole bucket aligned from_ earlier
    · exact restocked.keeps _ _ _ (sound mark (outside held (later.trans_lt before)) bucket aligned later before)

end Tally

/-- **A hole stays.**  When a gap of a symbol has been filled, its history is whole from the first backfilled
bucket to the end of the gap exactly when the store the runtime started on had no hole past the window the
start fills, and every candle of the symbol that was handed over since could be stored. -/
theorem gap_fills_whole_iff {setup : Setup} {now : Timestamp} {store₀ store : CandleStore}
    {passed : Dict String Timestamp} {began : Moment papering Exc CandleStore} {feedConfig : StreamConfig}
    {fuel : Nat} {world before after : FeedWorld} {p : Feed (Option Retry)} {m : FeedMoment}
    {calls : List CandleCall} {symbol : String} {previous : Option Timestamp} {gapEnd : Timestamp}
    {earlier : List Streamed}
    (started : (start setup now).Runs PaperServe ⟨store₀, []⟩ (.ok passed) began)
    (traded : symbol ∈ setup.symbols) (seeded : world.ingestor.lastCandleAt = passed)
    (unopened : ∀ product, world.ingestor.openBuckets.get? product = none)
    (reached : (Data.run feedConfig fuel).Reaches FeedServe ⟨world, []⟩ p m)
    (accounts : Accounts setup began.world m.events calls store)
    (succession : InSuccession passed m.events)
    (returned : m.events = ⟨.gapFill symbol previous gapEnd, .ok (), before, after⟩ :: earlier) :
    WholeTo store symbol (firstBackfilled setup now) gapEnd ↔
      NoHoleFrom store₀ symbol (bucketStart now) ∧ AllStorable setup.windows symbol calls := by
  have proper := GapFills.callbacks_proper unopened reached
  rw [seeded] at proper
  obtain ⟨restocked, all⟩ := start_seeds started
  obtain ⟨first, marked, tally₀⟩ := tally_start restocked (all symbol traded)
  rw [returned] at proper succession accounts
  have unfailed : GapFills.Unfailed (⟨.gapFill symbol previous gapEnd, .ok (), before, after⟩ :: earlier) :=
    List.forall_mem_cons.2 ⟨rfl, proper.1.2.2.2⟩
  obtain ⟨mark, is, tally⟩ := tally_run accounts unfailed proper succession marked tally₀
  obtain rfl : gapEnd - interval = mark := by
    change (if symbol = symbol then some (gapEnd - interval) else none : Option Timestamp).or _ = _ at is
    rw [if_pos rfl] at is
    exact Option.some.inj is
  have whole := tally.whole
  rwa [sub_add_cancel] at whole

/-! ## A candle whose quote was stale -/

theorem unmoved : (⟨1, decimal_one⟩ : PositiveDecimal) ≤ ⟨1, decimal_one⟩ := le_refl _

theorem unmoved_within : (⟨1, decimal_one⟩ : PositiveDecimal) ≤ ⟨1, decimal_one⟩ ∧
    (⟨1, decimal_one⟩ : PositiveDecimal) ≤ ⟨1, decimal_one⟩ := ⟨unmoved, unmoved⟩

/-- A bar in which the price did not move. -/
def bar (opens : Int) (ingestedAt : Timestamp) : Candle where
  symbol := "BTC-USD"
  interval := websocketCandleInterval
  openedAt := opens * second
  closedAt := (opens + 300) * second
  openPrice := ⟨1, decimal_one⟩
  high := ⟨1, decimal_one⟩
  low := ⟨1, decimal_one⟩
  close := ⟨1, decimal_one⟩
  volume := ⟨1, decimal_filled_one⟩
  source := "coinbase-advanced-trade"
  asOf := (opens + 300) * second
  ingestedAt
  closeAfterOpen := Int.mul_lt_mul_of_pos_right (Int.lt_add_of_pos_right opens (by decide)) (by decide)
  highIsHigh := unmoved
  lowIsLow := unmoved
  closeIsWithinBar := unmoved_within

theorem history_enough : 2 + 1 ≤ 3 := Nat.le_refl 3

/-- Three bars of history, of which the slow average needs all. -/
def threeBars : Setup where
  windows := ⟨3, 1, 2, Nat.one_pos, Nat.one_lt_two, history_enough⟩
  symbols := ["BTC-USD"]
  journal := false

def quarter : List Candle := [bar 0 0, bar 300 0, bar 600 0]

/-- The store after the start, and after the gap. -/
def quarterStore : CandleStore := CandleStore.empty.upsertMany quarter

def gapStore : CandleStore := quarterStore.upsertMany [bar 1200 0]

theorem validated {candles : List Candle} (fine : MarketDataValidator.standard.issues interval none [] candles = []) :
    MarketDataValidator.standard.validateCandles candles interval = .ok candles := by
  unfold MarketDataValidator.validateCandles
  rw [fine]
  rfl

theorem quarter_page :
    HistoricalCandleBackfiller.checkPage .standard interval 0 (900 * second) quarter = .ok quarter := by
  unfold HistoricalCandleBackfiller.checkPage
  rw [validated (by decide +kernel)]
  rfl

theorem later_page : HistoricalCandleBackfiller.checkPage .standard interval (1200 * second) (1500 * second)
    [bar 1200 0] = .ok [bar 1200 0] := by
  unfold HistoricalCandleBackfiller.checkPage
  rw [validated (by decide +kernel)]
  rfl

open HistoricalCandleBackfiller in
/-- A backfill of one page. -/
theorem onlyPage_runs {cursor end_ : Timestamp} {rows : List Candle} {n stored : Nat}
    {m : Moment history Exc CandleStore} {after_ : CandleStore} (begun : cursor < end_)
    (short : pageEndOf interval end_ cursor = end_)
    (sent : SoleServe (.getCandles "BTC-USD" cursor end_ websocketCandleInterval) m.world (.ok rows) m.world)
    (page : checkPage .standard interval cursor end_ rows = .ok rows)
    (upserted : SoleServe (.upsertMany rows) m.world (.ok stored) after_) :
    (fillPages .standard "BTC-USD" interval websocketCandleInterval end_ (n + 1) cursor 0).Runs SoleServe m
      (.ok stored) ((m.push (.getCandles "BTC-USD" cursor end_ websocketCandleInterval) (.ok rows) m.world).push
        (.upsertMany rows) (.ok stored) after_) := by
  rw [fillPages, if_pos begun]
  dsimp only
  rw [short]
  refine .answered rows m.world sent ?_
  rw [page]
  refine .answered stored after_ upserted ?_
  have ended : fillPages .standard "BTC-USD" interval websocketCandleInterval end_ n end_ (0 + stored) =
      pure stored := by
    cases n with
    | zero => rw [fillPages, zero_add]
    | succ n => rw [fillPages, if_neg (lt_irrefl end_), zero_add]
  rw [ended]
  exact .pure stored _

open HistoricalCandleBackfiller in
theorem quarter_backfilled : PaperServe
    (.backfill "BTC-USD" (firstBackfilled threeBars (900 * second)) (bucketStart (900 * second))
      websocketCandleInterval true) .empty (.ok 3) quarterStore := by
  refine ⟨_, onlyPage_runs (by decide) (by decide) ⟨rfl, fun candles is candle member => ?_⟩ quarter_page
    (.inl ⟨rfl, rfl⟩), rfl⟩
  cases is
  obtain rfl | rfl | rfl : candle = _ ∨ candle = _ ∨ candle = _ := by simpa [quarter] using member
  all_goals exact ⟨rfl, rfl⟩

open HistoricalCandleBackfiller in
theorem gap_backfilled : PaperServe
    (.backfill "BTC-USD" (1200 * second) (1500 * second) websocketCandleInterval false) quarterStore (.ok 1)
      gapStore := by
  have newest : quarterStore.latestOpenedAt "BTC-USD" websocketCandleInterval = some (600 * second) := rfl
  have resumes : resumeFrom interval (1200 * second) (some (600 * second)) = 1200 * second := by decide
  have filled : ∃ final, (fillPages .standard "BTC-USD" interval websocketCandleInterval (1500 * second)
      (pageBound interval (resumeFrom interval (1200 * second) (some (600 * second))) (1500 * second))
      (resumeFrom interval (1200 * second) (some (600 * second))) 0).Runs SoleServe
        (Moment.push ⟨quarterStore, []⟩ (.latestOpenedAt "BTC-USD" websocketCandleInterval)
          (.ok (some (600 * second))) quarterStore) (.ok 1) final ∧ final.world = gapStore := by
    rw [resumes]
    refine ⟨_, onlyPage_runs (by decide) (by decide) ⟨rfl, fun candles is candle member => ?_⟩ later_page
      (.inl ⟨rfl, rfl⟩), rfl⟩
    cases is
    cases List.mem_singleton.1 member
    exact ⟨rfl, rfl⟩
  obtain ⟨final, filled, is⟩ := filled
  refine ⟨final, .answered (some (600 * second)) quarterStore ⟨rfl, fun latest is => ?_⟩ filled, is⟩
  rw [newest]
  exact (Except.ok.inj is).symm

/-- What the stream has passed when the runtime has started. -/
def seededMarks : Dict String Timestamp := Dict.empty.set "BTC-USD" (600 * second)

theorem threeBars_started : ∃ began, (start threeBars (900 * second)).Runs PaperServe ⟨.empty, []⟩
    (.ok seededMarks) began ∧ began.world = quarterStore := by
  have seeds : ∃ final, (seed threeBars (900 * second) ["BTC-USD"] .empty).Runs PaperServe ⟨.empty, []⟩
      (.ok seededMarks) final ∧ final.world = quarterStore := by
    refine ends_answered (3 : Nat) quarterStore quarter_backfilled ?_
    exact ends_answered (some (600 * second)) quarterStore ⟨rfl, .inr rfl⟩ ⟨_, .pure _ _, rfl⟩
  obtain ⟨mid, run, is⟩ := seeds
  refine ends_bind run (ends_answered () quarterStore is.symm (ends_answered () quarterStore rfl ?_))
  exact ⟨_, .pure _ _, rfl⟩

theorem quarter_latest :
    quarterStore.latest "BTC-USD" websocketCandleInterval 2 = .ok [bar 300 0, bar 600 0] := by
  have sorted : quarter.Pairwise fun earlier later => decide (earlier.openedAt ≤ later.openedAt) = true := by decide
  have rows : quarterStore.read "BTC-USD" websocketCandleInterval = quarter :=
    List.mergeSort_of_pairwise sorted
  unfold CandleStore.latest
  rw [rows]
  rfl

theorem quarter_shown : shownHistory threeBars.windows [bar 300 0, bar 600 0] (bar 900 (1001 * second)) =
    .ok [bar 300 0, bar 600 0, bar 900 (1001 * second)] := by
  unfold shownHistory
  dsimp only
  split
  · rename_i short
    exact absurd short (by decide)
  · exact validated (by decide +kernel)

def staleQuote : Exc := staleMarketData "no fresh quote for BTC-USD"

/-- The requests of a closed candle whose quote is stale: no order, and no bar. -/
def refusedMoment : Moment papering Exc CandleStore :=
  (((⟨quarterStore, []⟩ : Moment papering Exc CandleStore).push .clearRecoveredStorm (.ok ()) quarterStore).push
    (.latest "BTC-USD" websocketCandleInterval 2) (.ok [bar 300 0, bar 600 0]) quarterStore).push
      (.requireFreshQuote "BTC-USD") (.error staleQuote) quarterStore

theorem stale_refused : ∃ final, (onCandle threeBars.windows (bar 900 (1001 * second))).Runs PaperServe
    ⟨quarterStore, []⟩ (.ok ()) final ∧ final.world = quarterStore ∧ refusedMoment.events <:+ final.events := by
  have refused : (storeCandle threeBars.windows (bar 900 (1001 * second))).Runs PaperServe
      ((⟨quarterStore, []⟩ : Moment papering Exc CandleStore).push .clearRecoveredStorm (.ok ()) quarterStore)
      (.error staleQuote) refusedMoment := by
    refine .answered [bar 300 0, bar 600 0] quarterStore ⟨rfl, .inr quarter_latest.symm⟩ ?_
    rw [quarter_shown]
    refine runs_bind.2 (.inl ⟨_, _, .pure _ _, runs_bind.2 (.inr ⟨staleQuote, ?_, rfl⟩)⟩)
    exact runs_call.2 ⟨quarterStore, rfl, rfl⟩
  refine ends_answered () quarterStore ⟨rfl, rfl⟩ (ends_bind (runs_attempt.2 ⟨_, refused, rfl⟩) ?_)
  refine ends_answered () quarterStore rfl (ends_answered () quarterStore rfl ?_)
  refine ⟨_, runs_call.2 ⟨quarterStore, rfl, rfl⟩, rfl, ?_⟩
  exact (List.suffix_cons ..).trans ((List.suffix_cons ..).trans (List.suffix_cons ..))

theorem gap_filled : ∃ final, (gapFill threeBars "BTC-USD" (some (900 * second)) (1500 * second)).Runs PaperServe
    ⟨quarterStore, []⟩ (.ok ()) final ∧ final.world = gapStore := by
  refine ends_answered () quarterStore rfl (ends_answered () quarterStore rfl (ends_bind (.pure _ _) ?_))
  exact ends_answered (1 : Nat) gapStore gap_backfilled ⟨_, .pure _ _, rfl⟩

/-! ## The run -/

/-- The bucket at 900 closes, and then the connection is lost. -/
def tape : Tape where
  readings := [1000, 1001, 1205, 1500, 1505].map (· * second)
  receptions := [.ok (.message (updatesFor [900])), .ok (.message (updatesFor [1200])),
    .error (staleMarketData "lost")]

def listening : FeedWorld :=
  ⟨⟨none, seededMarks, .empty, .empty, false⟩, false, 1000 * second⟩

/-- The gap has been filled. -/
def interrupted : Feed (Option Retry) × FeedMoment :=
  (Data.run patient 34).advance tape.script 34 ⟨listening, []⟩

theorem interrupted_events : ∃ w₁ w₁' w₂ w₂', interrupted.2.events =
    ⟨.gapFill "BTC-USD" (some (900 * second)) (1500 * second), .ok (), w₁, w₁'⟩ ::
      ((interrupted.2.events.drop 1).take 11 ++
        ⟨.onCandle (bar 900 (1001 * second)), .ok (), w₂, w₂'⟩ :: interrupted.2.events.drop 13) :=
  ⟨_, _, _, _, rfl⟩

theorem Accounts.silent {setup : Setup} {began store : CandleStore} {calls : List CandleCall}
    {earlier : List Streamed} (accounts : Accounts setup began earlier calls store) {events : List Streamed}
    (silent : ∀ e ∈ events, callsBack e.op = false) : Accounts setup began (events ++ earlier) calls store := by
  induction events with
  | nil => exact accounts
  | cons e rest ih =>
    obtain ⟨first, others⟩ := List.forall_mem_cons.1 silent
    exact .other (ih others) first

theorem succession_silent {initial : Dict String Timestamp} {earlier : List Streamed}
    (succession : InSuccession initial earlier) {events : List Streamed}
    (silent : ∀ e ∈ events, callsBack e.op = false) : InSuccession initial (events ++ earlier) := by
  induction events with
  | nil => exact succession
  | cons e rest ih =>
    obtain ⟨first, others⟩ := List.forall_mem_cons.1 silent
    refine ⟨?_, ih others⟩
    obtain ⟨op, reply, before, after⟩ := e
    cases op <;> trivial

/-- The bucket at 900 is missing for good. -/
theorem gap_fills_whole_stale : ∃ store, ¬ WholeTo store "BTC-USD" (firstBackfilled threeBars (900 * second))
    (1500 * second) ∧ Held store "BTC-USD" (1200 * second) := by
  obtain ⟨began, started, is⟩ := threeBars_started
  obtain ⟨refused, call, same, known⟩ := stale_refused
  obtain ⟨filled, fill, grown⟩ := gap_filled
  obtain ⟨w₁, w₁', w₂, w₂', events⟩ := interrupted_events
  have quiet₁ : ∀ e ∈ (interrupted.2.events.drop 1).take 11, callsBack e.op = false := by decide
  have quiet₂ : ∀ e ∈ interrupted.2.events.drop 13, callsBack e.op = false := by decide
  have accounts : Accounts threeBars began.world interrupted.2.events
      [⟨bar 900 (1001 * second), quarterStore, refused.events⟩] gapStore := by
    have first := Accounts.silent (.began : Accounts threeBars quarterStore [] [] quarterStore) quiet₂
    rw [List.append_nil] at first
    have called : Accounts threeBars quarterStore (⟨.onCandle (bar 900 (1001 * second)), .ok (), w₂, w₂'⟩ ::
        interrupted.2.events.drop 13) [⟨bar 900 (1001 * second), quarterStore, refused.events⟩] quarterStore :=
      same ▸ first.candle call
    rw [events, is]
    exact grown ▸ (called.silent quiet₁).gap fill
  have successive : InSuccession seededMarks interrupted.2.events := by
    have nothing : InSuccession seededMarks [] := trivial
    have first := succession_silent nothing quiet₂
    rw [List.append_nil] at first
    have next : InSuccession seededMarks (⟨.onCandle (bar 900 (1001 * second)), .ok (), w₂, w₂'⟩ ::
        interrupted.2.events.drop 13) := by
      refine ⟨fun mark marked => ?_, first⟩
      have last : markOf seededMarks "BTC-USD" (interrupted.2.events.drop 13) = some (600 * second) := rfl
      cases last.symm.trans marked
      rfl
    rw [events]
    exact ⟨trivial, succession_silent next quiet₁⟩
  have seeded : listening.ingestor.lastCandleAt = seededMarks := rfl
  have reached : (Data.run patient 34).Reaches FeedServe ⟨listening, []⟩ interrupted.1 interrupted.2 :=
    Prog.advance_reaches tape.script_sound 34
  have whole := gap_fills_whole_iff started (List.mem_singleton_self "BTC-USD") seeded (fun _ => rfl) reached
    accounts successive events
  refine ⟨gapStore, fun held => ?_, by unfold Held CandleStore.Holds; decide⟩
  have storable := (whole.1 held).2 _ (List.mem_singleton_self _) rfl
  exact storable.2 _ (known.subset (List.mem_cons_self ..))

end AlgoTrader.App.PaperHistory
