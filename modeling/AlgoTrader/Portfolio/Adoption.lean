/-
# Portfolio.Adoption -- the broker's state as the next baseline

A comparison reads the balances first and the orders and their fills later, and the venue
goes on trading between the reads.  What is adopted are the balances of the first read;
what is marked as applied are the fills of the last.

* `Known` -- what a scheduler tracks are fills of the venue, kept by everything it lives
  through (`Watched`);
* `reconcile_reads` -- a comparison reads the balances at one point of the venue's history
  and the fills at later ones;
* `adopted_iff` -- the fills marked as applied are all in the adopted balances exactly when
  no fill of a later read happened after the balances were read.
-/
import Mathlib.Algebra.Order.BigOperators.Group.List
import AlgoTrader.Portfolio.Scheduler

namespace AlgoTrader.Portfolio

open AlgoTrader.Core Brokers Theory Process Risk

set_option autoImplicit false

def fillIds (fills : List Fill) : List String := fills.map Fill.fillId

theorem fillIds_of_prefix {earlier later : List Fill} (grown : earlier <+: later) {id : String}
    (known : id ∈ fillIds earlier) : id ∈ fillIds later := by
  obtain ⟨fill, member, same⟩ := List.mem_map.1 known
  exact List.mem_map.2 ⟨fill, grown.subset member, same⟩

/-! ## A venue that trades on -/

/-- The balances are the books of the fills so far, and reported fills have happened. -/
def TruthfulAnswer (books : List Fill → List Balance) :
    (op : ReadOp) → DeskWorld → Except Exc op.Reply → Prop
  | .getBalances, w, reply => ∀ balances, reply = .ok balances → balances = books w.venue
  | .getFills _, w, reply => ∀ fills, reply = .ok fills → ∀ fill ∈ fills, fill ∈ w.venue
  | .getPositions, _, _ => True
  | .getOrder _, _, _ => True

/-- What other parts of the process record and drop: orders, and fills of the venue. -/
inductive Observes (venue : List Fill) (tracking : Tracking) : Tracking → Prop
  | still : Observes venue tracking tracking
  | observe {later : Tracking} (before : Observes venue tracking later) (order : Order)
      (fills : List Fill) (happened : ∀ fill ∈ fills, fill ∈ venue) :
      Observes venue tracking (later.observe order fills)
  | forget {later : Tracking} (before : Observes venue tracking later) (clientOrderId : String) :
      Observes venue tracking (later.forgetOrder clientOrderId)

/-- Between any two requests more fills may happen; nobody else records any while a
comparison holds the lock, but the refresh does. -/
def truthful (config : KillSwitch.Config) (books : List Fill → List Balance) : Surroundings where
  switch := config
  answers := TruthfulAnswer books
  meanwhile before after := before.venue <+: after.venue ∧ after.tracking = before.tracking
  refreshes _ before _ after :=
    before.venue <+: after.venue ∧ Observes after.venue before.tracking after.tracking

/-- What is tracked, and what counts as applied, are fills of the venue. -/
structure Known (world : DeskWorld) : Prop where
  recorded : ∀ id ∈ world.tracking.fills.keys, id ∈ fillIds world.venue
  applied : ∀ id ∈ world.tracking.appliedFillIds, id ∈ fillIds world.venue

theorem Known.grow {world later : DeskWorld} (known : Known world)
    (grown : world.venue <+: later.venue) (same : later.tracking = world.tracking) : Known later := by
  constructor
  · intro id member
    rw [same] at member
    exact fillIds_of_prefix grown (known.recorded id member)
  · intro id member
    rw [same] at member
    exact fillIds_of_prefix grown (known.applied id member)

theorem Observes.known {world later : DeskWorld} (known : Known world)
    (grown : world.venue <+: later.venue)
    (observes : Observes later.venue world.tracking later.tracking) : Known later := by
  obtain ⟨switch, tracking, venue⟩ := later
  have base : Known ⟨switch, world.tracking, venue⟩ := known.grow grown rfl
  show Known ⟨switch, tracking, venue⟩
  replace observes : Observes venue world.tracking tracking := observes
  clear grown
  induction observes with
  | still => exact base
  | observe before order fills happened ih =>
      refine ⟨fun id member => ?_, ih.applied⟩
      rcases (Dict.mem_keys_foldl_set Fill.fillId (fun fill => fill) fills _).1 member with
        older | ⟨fill, here, rfl⟩
      · exact ih.recorded id older
      · exact List.mem_map_of_mem (happened fill here)
  | forget before clientOrderId ih => exact ⟨ih.recorded, ih.applied⟩

/-! ## The reads of a comparison -/

/-- The fills of the venue when the balances were read. -/
def venueRead : DeskEvent → Option (List Fill)
  | ⟨.read .getBalances, .ok _, _, after⟩ => some after.venue
  | _ => none

/-- The fills a read returned. -/
def returnedFills : DeskEvent → List Fill
  | ⟨.read (.getFills _), .ok fills, _, _⟩ => fills
  | _ => []

/-- The balances were read once, after these fills. -/
structure BalancesReadAt (venue : List Fill) (events : List DeskEvent) : Prop where
  read : ∃ e ∈ events, venueRead e = some venue
  once : ∀ e ∈ events, ∀ other, venueRead e = some other → other = venue

/-- Neither balances nor fills have been read. -/
def Unread (events : List DeskEvent) : Prop := ∀ e ∈ events, venueRead e = none ∧ returnedFills e = []

theorem Unread.push {e : DeskEvent} {events : List DeskEvent} (unread : Unread events)
    (quiet : venueRead e = none ∧ returnedFills e = []) : Unread (e :: events) := by
  intro e' member
  rcases List.mem_cons.1 member with rfl | older
  · exact quiet
  · exact unread e' older

/-- A comparison that began at `start` has read the balances after the fills `venue`, and
what it has read of the fills since. -/
structure ReadAt (start : DeskWorld) (venue : List Fill) (read : Dict String Fill)
    (m : DeskMoment) : Prop where
  tracking : m.world.tracking = start.tracking
  began : start.venue <+: venue
  since : venue <+: m.world.venue
  balances : BalancesReadAt venue m.events
  fills : ∀ id, id ∈ read.keys ↔ ∃ e ∈ m.events, ∃ fill ∈ returnedFills e, fill.fillId = id
  happened : ∀ e ∈ m.events, ∀ fill ∈ returnedFills e, fill ∈ m.world.venue

section Push

variable {start : DeskWorld} {venue : List Fill} {read : Dict String Fill} {m : DeskMoment}
  {op : DeskOp} {reply : Except Exc op.Reply} {after : DeskWorld}

/-- Another request goes by, and the venue trades on. -/
theorem ReadAt.push (at_ : ReadAt start venue read m)
    (grown : m.world.venue <+: after.venue) (same : after.tracking = m.world.tracking)
    (noBalances : venueRead (m.event (S := deskEffects) op reply after) = none)
    {read' : Dict String Fill}
    (reads : ∀ id, id ∈ read'.keys ↔ id ∈ read.keys ∨
      ∃ fill ∈ returnedFills (m.event (S := deskEffects) op reply after), fill.fillId = id)
    (happened : ∀ fill ∈ returnedFills (m.event (S := deskEffects) op reply after), fill ∈ after.venue) :
    ReadAt start venue read' (m.push (S := deskEffects) op reply after) where
  tracking := same.trans at_.tracking
  began := at_.began
  since := at_.since.trans grown
  balances := by
    obtain ⟨e, member, here⟩ := at_.balances.read
    refine ⟨⟨e, List.mem_cons_of_mem _ member, here⟩, ?_⟩
    intro e' member' other there
    rcases List.mem_cons.1 member' with rfl | older
    · have nothing : venueRead (m.event (S := deskEffects) op reply after) = some other := there
      rw [noBalances] at nothing
      cases nothing
    · exact at_.balances.once e' older other there
  fills := by
    intro id
    rw [reads, at_.fills]
    simp only [Moment.push_events, List.exists_mem_cons_iff]
    exact or_comm
  happened := by
    intro e member fill filled
    rcases List.mem_cons.1 member with rfl | older
    · exact happened fill filled
    · exact grown.subset (at_.happened e older fill filled)

theorem ReadAt.quiet (at_ : ReadAt start venue read m) (grown : m.world.venue <+: after.venue)
    (same : after.tracking = m.world.tracking)
    (unread : venueRead (m.event (S := deskEffects) op reply after) = none ∧
      returnedFills (m.event (S := deskEffects) op reply after) = []) :
    ReadAt start venue read (m.push (S := deskEffects) op reply after) := by
  refine at_.push grown same unread.1 (fun id => ?_) fun fill filled => ?_
  · simp [unread.2]
  · rw [unread.2] at filled
    cases filled

end Push

section Reads

variable {config : KillSwitch.Config} {books : List Fill → List Balance}
  {start : DeskWorld} {venue : List Fill} {assume : DeskEvent → Prop}

theorem readHoldings_reads {m : DeskMoment} (unread : Unread m.events) :
    wp (deskLogic (truthful config books) assume) (fun result m' => ∀ balances positions,
        result = .ok (balances, positions) →
          ∃ venue, balances = books venue ∧ ReadAt m.world venue .empty m')
      readHoldings m := by
  refine wp_bind.2 (wp_desk fun reply after served _ => ?_)
  obtain ⟨⟨grown, same⟩, answers⟩ := served
  cases reply with
  | error exc => exact fun _ _ never => nomatch never
  | ok balances =>
      have here : ReadAt m.world after.venue .empty
          (m.push (S := deskEffects) (.read .getBalances) (.ok balances) after) := by
        refine ⟨same, grown, List.prefix_refl _, ⟨⟨_, List.mem_cons_self .., rfl⟩, ?_⟩, ?_, ?_⟩
        · intro e member other there
          rcases List.mem_cons.1 member with rfl | older
          · exact (Option.some.inj there).symm
          · rw [(unread e older).1] at there
            cases there
        · intro id
          refine ⟨fun never => by simp [Dict.keys, Dict.empty] at never, ?_⟩
          rintro ⟨e, member, fill, filled, _⟩
          rcases List.mem_cons.1 member with rfl | older
          · cases filled
          · rw [(unread e older).2] at filled
            cases filled
        · intro e member fill filled
          rcases List.mem_cons.1 member with rfl | older
          · cases filled
          · rw [(unread e older).2] at filled
            cases filled
      refine wp_bind.2 (wp_desk fun reply' after' served' _ => ?_)
      cases reply' with
      | error exc => exact fun _ _ never => nomatch never
      | ok positions =>
          rintro _ _ ⟨⟩
          exact ⟨after.venue, answers balances rfl,
            here.quiet served'.1.1 served'.1.2 ⟨rfl, rfl⟩⟩

/-- What a program that reads fills gives when it returns. -/
def Reads (start : DeskWorld) (venue : List Fill) :
    Except Exc OrdersRead → DeskMoment → Prop :=
  fun result m => ∀ read, result = .ok read → ReadAt start venue read.fills m

theorem unavailable_reads {reason message : String} {m : DeskMoment} :
    wp (deskLogic (truthful config books) assume) (Reads start venue) (unavailable reason message) m :=
  wp_unavailable fun _ _ _ _ _ _ never => nomatch never

theorem readOrder_reads (key : String) (localOrder : Order) (read : OrdersRead) {m : DeskMoment}
    (at_ : ReadAt start venue read.fills m) :
    wp (deskLogic (truthful config books) assume) (Reads start venue)
      (readOrder key localOrder read) m := by
  refine wp_bind.2 (wp_attempt.2 (wp_desk fun reply after served _ => ?_))
  have once : ReadAt start venue read.fills
      (m.push (S := deskEffects) (.read (.getOrder key)) reply after) :=
    at_.quiet served.1.1 served.1.2 ⟨rfl, rfl⟩
  match reply with
  | .error exc => exact unavailable_reads
  | .ok none =>
      rintro _ ⟨⟩
      exact once
  | .ok (some brokerOrder) =>
      refine wp_bind.2 (wp_attempt.2 (wp_desk fun reply' after' served' _ => ?_))
      match reply' with
      | .error exc => exact unavailable_reads
      | .ok fills =>
          rintro _ ⟨⟩
          refine once.push served'.1.1 served'.1.2 rfl (fun id => ?_) fun fill filled => ?_
          · exact Dict.mem_keys_foldl_set Fill.fillId (fun fill => fill) fills _
          · exact served'.2 fills rfl fill filled

theorem readOrders_reads (orders : List (String × Order)) (read : OrdersRead) {m : DeskMoment}
    (at_ : ReadAt start venue read.fills m) :
    wp (deskLogic (truthful config books) assume) (Reads start venue) (readOrders orders read) m := by
  induction orders generalizing read m with
  | nil =>
      rintro _ ⟨⟩
      exact at_
  | cons first rest ih =>
      refine wp_bind.2 (wp_mono (readOrder_reads first.1 first.2 read at_) ?_)
      rintro (exc | next) m' reads
      · exact fun _ never => nomatch never
      · exact ih next (reads next rfl)

theorem respond_reads (wiring : Wiring) (authoritative : PortfolioState)
    (discrepancies : List Discrepancy) {read : Dict String Fill} {m : DeskMoment}
    (at_ : ReadAt start venue read m) :
    wp (deskLogic (truthful config books) assume) (fun _ m' => ReadAt start venue read m')
      (respond wiring authoritative discrepancies) m := by
  refine wp_kept (C := deskContract (truthful config books) assume)
    (fun m => ReadAt start venue read m) (fun _ _ _ _ => trivial) ?_
    (respond_responding wiring authoritative discrepancies) at_
  intro op m reply after responding before served _
  refine ⟨?_, trivial⟩
  rcases responding with ⟨report, rfl⟩ | ⟨reason, rfl⟩
  · exact before.quiet served.1 served.2 ⟨rfl, rfl⟩
  · obtain ⟨switch, _, rfl⟩ := served
    exact before.quiet (List.prefix_refl _) rfl ⟨rfl, rfl⟩

/-- A comparison that returns has adopted nothing yet: what it read of the balances is the
venue's at one point, what it read of the fills is from there on. -/
theorem reconcile_reads (wiring : Wiring) (local_ : PortfolioState) {m : DeskMoment}
    (unread : Unread m.events) :
    wp (deskLogic (truthful config books) assume) (fun result m' => ∀ value, result = .ok value →
        ∃ venue, value.authoritative.balances = books venue ∧
          ReadAt m.world venue value.authoritative.fills m')
      (reconcile wiring local_) m := by
  refine wp_bind.2 (wp_attempt.2 (wp_mono (readHoldings_reads unread) ?_))
  rintro (exc | ⟨balances, positions⟩) m₁ holdings
  · exact wp_unavailable fun _ _ _ _ _ _ never => nomatch never
  obtain ⟨venue, booked, at_⟩ := holdings balances positions rfl
  refine wp_bind.2 (wp_mono (readOrders_reads local_.orders.entries .none at_) ?_)
  rintro (exc | read) m₂ reads
  · exact fun _ never => nomatch never
  refine wp_mono (wp_both (respond_returns wiring _ _) (respond_reads wiring _ _ (reads read rfl))) ?_
  rintro result m₃ ⟨returned, at₃⟩ value given
  obtain ⟨_, authoritative⟩ := returned value given
  exact ⟨venue, by rw [authoritative, booked], by rw [authoritative]; exact at₃⟩

end Reads

/-! ## Adopting -/

/-- The balances of one read were adopted; what counts as applied is in them exactly when
every fill that was read later had happened by then. -/
def Adopted (books : List Fill → List Balance) (m : DeskMoment) : Prop :=
  ∃ venue, BalancesReadAt venue m.events ∧ m.world.tracking.baselineBalances = books venue ∧
    ((∀ id ∈ m.world.tracking.appliedFillIds, id ∈ fillIds venue) ↔
      ∀ e ∈ m.events, ∀ fill ∈ returnedFills e, fill.fillId ∈ fillIds venue)

theorem mem_keys_filter {keep : String × Fill → Bool} {d : Dict String Fill} {id : String}
    (member : id ∈ (d.filter keep).keys) : id ∈ d.keys := by
  obtain ⟨fill, kept⟩ := Dict.mem_keys.1 member
  exact Dict.mem_keys.2 ⟨fill, (List.mem_filter.1 kept).1⟩

section Adopts

variable {start : DeskWorld} {venue : List Fill} {authoritative local_ : PortfolioState}
  {m : DeskMoment}

theorem ReadAt.fill_happened (at_ : ReadAt start venue authoritative.fills m) {id : String}
    (member : id ∈ authoritative.fills.keys) : id ∈ fillIds m.world.venue := by
  obtain ⟨e, seen, fill, filled, rfl⟩ := (at_.fills id).1 member
  exact List.mem_map_of_mem (at_.happened e seen fill filled)

/-- The world with the broker's state adopted. -/
def adoptedWorld (world : DeskWorld) (authoritative local_ : PortfolioState) : DeskWorld :=
  { world with tracking := world.tracking.adopt authoritative local_ }

theorem ReadAt.known_adopted (at_ : ReadAt start venue authoritative.fills m) (known : Known m.world)
    (ours : local_.fills = start.tracking.fills) :
    Known (adoptedWorld m.world authoritative local_) := by
  constructor
  · intro id member
    exact at_.fill_happened (mem_keys_filter member)
  · intro id member
    simp only [adoptedWorld, Tracking.adopt, List.mem_append] at member
    rcases member with (before | recorded) | read
    · exact known.applied id before
    · rw [ours, ← at_.tracking] at recorded
      exact known.recorded id recorded
    · exact at_.fill_happened read

theorem ReadAt.applied_iff (at_ : ReadAt start venue authoritative.fills m) (known : Known start)
    (ours : local_.fills = start.tracking.fills) :
    (∀ id ∈ (m.world.tracking.adopt authoritative local_).appliedFillIds, id ∈ fillIds venue) ↔
      ∀ e ∈ m.events, ∀ fill ∈ returnedFills e, fill.fillId ∈ fillIds venue := by
  simp only [Tracking.adopt, at_.tracking, ours, List.mem_append]
  constructor
  · intro marked e member fill filled
    exact marked _ (.inr ((at_.fills _).2 ⟨e, member, fill, filled, rfl⟩))
  · rintro inTime id ((before | recorded) | read)
    -- What was tracked before the comparison had happened before any of its reads.
    · exact fillIds_of_prefix at_.began (known.applied id before)
    · exact fillIds_of_prefix at_.began (known.recorded id recorded)
    · obtain ⟨e, member, fill, filled, rfl⟩ := (at_.fills id).1 read
      exact inTime e member fill filled

end Adopts

section Compares

variable {config : KillSwitch.Config} {books : List Fill → List Balance} {assume : DeskEvent → Prop}

/-- The requests before a comparison. -/
inductive Preparing : DeskOp → Prop
  | load : Preparing (.schedule .load)
  | needsRefresh (key : String) (order : Order) : Preparing (.schedule (.needsRefresh key order))
  | refreshOrder (key : String) : Preparing (.schedule (.refreshOrder key))
  | utcNow : Preparing (.schedule .utcNow)

theorem refreshTrackedOrders_preparing : Issues Preparing refreshTrackedOrders :=
  issues_bind (issues_call .load) fun _ => visit_issues _ fun _ =>
    issues_bind (issues_call (.needsRefresh _ _)) fun _ => issues_when fun _ => issues_call (.refreshOrder _)

/-- What is tracked are fills of the venue, and nothing has been read yet. -/
structure Prepared (m : DeskMoment) : Prop where
  known : Known m.world
  unread : Unread m.events

theorem prepares {α : Type} {p : Desk α} (preparing : Issues Preparing p) {m : DeskMoment}
    (prepared : Prepared m) :
    wp (deskLogic (truthful config books) assume) (fun _ => Prepared) p m := by
  refine wp_kept (C := deskContract (truthful config books) assume) Prepared
    (fun _ _ _ _ => trivial) ?_ preparing prepared
  intro op m reply after allowed before served _
  refine ⟨?_, trivial⟩
  cases allowed with
  | load =>
      obtain ⟨_, rfl⟩ := served
      exact ⟨before.known, before.unread.push ⟨rfl, rfl⟩⟩
  | needsRefresh key order =>
      obtain ⟨_, rfl⟩ := served
      exact ⟨before.known, before.unread.push ⟨rfl, rfl⟩⟩
  | refreshOrder key => exact ⟨served.2.known before.known served.1, before.unread.push ⟨rfl, rfl⟩⟩
  | utcNow => exact ⟨before.known.grow served.2.1 served.2.2, before.unread.push ⟨rfl, rfl⟩⟩

/-- A reconciliation records nothing. -/
theorem outward_known {α : Type} {p : Desk α} (outward : Issues Outward p) {m : DeskMoment}
    (known : Known m.world) :
    wp (deskLogic (truthful config books) assume) (fun _ m' => Known m'.world) p m := by
  refine wp_kept (C := deskContract (truthful config books) assume) (fun m => Known m.world)
    (fun _ _ _ _ => trivial) ?_ outward known
  intro op m reply after allowed before served _
  refine ⟨?_, trivial⟩
  match op with
  | .read op => exact before.grow served.1.1 served.1.2
  | .report op => exact before.grow served.1 served.2
  | .schedule own => exact absurd rfl (allowed own)
  | .trip reason =>
      obtain ⟨switch, _, rfl⟩ := served
      exact ⟨before.recorded, before.applied⟩

/-- What a comparison leaves, and what it adopts where it returns. -/
def Compares (books : List Fill → List Balance)
    (result : Except Exc (Except String ReconciliationResult)) (m : DeskMoment) : Prop :=
  Known m.world ∧ ∀ value, result = .ok (.ok value) → Adopted books m

theorem compareAndAdopt_adopts (wiring : Wiring) {local_ : PortfolioState} {m : DeskMoment}
    (prepared : Prepared m) (ours : local_.fills = m.world.tracking.fills) :
    wp (deskLogic (truthful config books) assume) (Compares books) (compareAndAdopt wiring local_) m := by
  refine wp_bind.2 (wp_attempt.2 (wp_mono (wp_both
    (outward_known (reconcile_outward wiring local_) prepared.known)
    (reconcile_reads wiring local_ prepared.unread)) ?_))
  rintro (exc | value) m₁ ⟨known, reads⟩
  · show wp _ (Compares books) (if exc.kind = .reconciliationUnavailable then _ else _) m₁
    split
    · exact ⟨known, fun _ never => nomatch never⟩
    · exact ⟨known, fun _ never => nomatch never⟩
  obtain ⟨venue, booked, at_⟩ := reads value rfl
  refine wp_bind.2 (wp_bind.2 (wp_desk ?_))
  rintro _ _ ⟨rfl, rfl⟩ _
  refine wp_desk ?_
  rintro _ _ ⟨rfl, rfl⟩ _
  refine ⟨at_.known_adopted known ours, fun _ _ => ⟨venue, ?_, booked, ?_⟩⟩
  · obtain ⟨e, member, here⟩ := at_.balances.read
    refine ⟨⟨e, List.mem_cons_of_mem _ (List.mem_cons_of_mem _ member), here⟩, ?_⟩
    intro e' member' other there
    rcases List.mem_cons.1 member' with rfl | member''
    · cases there
    · rcases List.mem_cons.1 member'' with rfl | older
      · cases there
      · exact at_.balances.once e' older other there
  · refine (at_.applied_iff prepared.known ours).trans ?_
    constructor
    · intro inTime e member fill filled
      rcases List.mem_cons.1 member with rfl | member
      · cases filled
      · rcases List.mem_cons.1 member with rfl | older
        · cases filled
        · exact inTime e older fill filled
    · intro inTime e member
      exact inTime e (List.mem_cons_of_mem _ (List.mem_cons_of_mem _ member))

theorem expectedState_fills {tracking : Tracking} {increments : Dict String Decimal}
    {now : Timestamp} {local_ : PortfolioState}
    (projected : tracking.expectedState increments now = .ok local_) :
    local_.fills = tracking.fills := by
  obtain ⟨state, _, done⟩ := bind_eq_ok.1 projected
  cases done
  rfl

theorem trip_known {reason : String} {m : DeskMoment} (known : Known m.world) :
    wp (deskLogic (truthful config books) assume) (Compares books) (tripUnavailable reason) m := by
  refine wp_bind.2 (wp_mono (outward_known (outward_trip reason) known) ?_)
  intro reply m' still
  cases reply with
  | error exc => exact ⟨still, fun _ never => nomatch never⟩
  | ok value => exact ⟨still, fun _ never => nomatch never⟩

theorem compare_adopts (wiring : Wiring) {m : DeskMoment} (prepared : Prepared m) :
    wp (deskLogic (truthful config books) assume) (Compares books) (compare wiring) m := by
  refine wp_bind.2 (wp_attempt.2 (wp_mono (prepares refreshTrackedOrders_preparing prepared) ?_))
  rintro (exc | _) m₁ prepared₁
  · exact trip_known prepared₁.known
  refine wp_bind.2 (wp_desk ?_)
  rintro _ _ ⟨rfl, rfl⟩ _
  refine wp_bind.2 (wp_desk ?_)
  rintro reply after ⟨⟨now, rfl⟩, grown, same⟩ _
  have prepared₂ : Prepared
      ((m₁.push (S := deskEffects) (.schedule .load) (.ok m₁.world.tracking) m₁.world).push
        (S := deskEffects) (.schedule .utcNow) (.ok now) after) :=
    ⟨prepared₁.known.grow grown same, (prepared₁.unread.push ⟨rfl, rfl⟩).push ⟨rfl, rfl⟩⟩
  dsimp only [andThen]
  cases projected : m₁.world.tracking.expectedState wiring.balanceIncrements now with
  | error exc =>
      dsimp only
      split
      · exact trip_known prepared₂.known
      · exact ⟨prepared₂.known, fun _ never => nomatch never⟩
  | ok local_ =>
      refine compareAndAdopt_adopts wiring prepared₂ ?_
      exact (expectedState_fills projected).trans (congrArg Tracking.fills same).symm

end Compares

/-! ## A scheduler over its life -/

/-- What a scheduler lives through: the engine records and drops orders between the
comparisons, the reports change its status, and comparisons run one at a time. -/
inductive Watched (wiring : Wiring) (config : KillSwitch.Config) (books : List Fill → List Balance) :
    DeskWorld → Prop
  | start (switch : SwitchWorld) (baseline : PortfolioState) (now : Timestamp) (venue : List Fill)
      (happened : ∀ id ∈ baseline.fills.keys, id ∈ fillIds venue) :
      Watched wiring config books ⟨switch, .ofBaseline baseline now, venue⟩
  | between {world later : DeskWorld} (before : Watched wiring config books world)
      (grown : world.venue <+: later.venue)
      (observes : Observes later.venue world.tracking later.tracking) :
      Watched wiring config books later
  | reported {world : DeskWorld} (before : Watched wiring config books world)
      (status : ReconciliationStatus) :
      Watched wiring config books { world with tracking := { world.tracking with status } }
  | compared {world : DeskWorld} {result : Except Exc (Except String ReconciliationResult)}
      {final : DeskMoment} (before : Watched wiring config books world)
      (run : (compare wiring).Runs (DeskServe (truthful config books)) ⟨world, []⟩ result final) :
      Watched wiring config books final.world

theorem prepared_nil {world : DeskWorld} (known : Known world) : Prepared ⟨world, []⟩ :=
  ⟨known, fun _ never => nomatch never⟩

section Watched

variable {wiring : Wiring} {config : KillSwitch.Config} {books : List Fill → List Balance}
  {world : DeskWorld} {result : Except Exc (Except String ReconciliationResult)} {final : DeskMoment}

theorem compares (known : Known world)
    (run : (compare wiring).Runs (DeskServe (truthful config books)) ⟨world, []⟩ result final) :
    Compares books result final := by
  have obligation : wp (deskLogic (truthful config books) fun _ => True) (Compares books)
      (compare wiring) ⟨world, []⟩ := compare_adopts wiring (prepared_nil known)
  exact desk_run run (fun _ _ => trivial) obligation

theorem Watched.known (watched : Watched wiring config books world) : Known world := by
  induction watched with
  | start switch baseline now venue happened => exact ⟨happened, happened⟩
  | between before grown observes known => exact observes.known known grown
  | reported before status known => exact ⟨known.recorded, known.applied⟩
  | compared before run known => exact (compares known run).1

/-- What a comparison adopts are the balances of its first read; every fill it counts as
applied is in them exactly when no fill of the later reads happened after that one. -/
theorem adopted_iff {value : ReconciliationResult} (watched : Watched wiring config books world)
    (run : (compare wiring).Runs (DeskServe (truthful config books)) ⟨world, []⟩ (.ok (.ok value))
      final) :
    ∃ venue, BalancesReadAt venue final.events ∧
      final.world.tracking.baselineBalances = books venue ∧
      ((∀ id ∈ final.world.tracking.appliedFillIds, id ∈ fillIds venue) ↔
        ∀ e ∈ final.events, ∀ fill ∈ returnedFills e, fill.fillId ∈ fillIds venue) :=
  (compares watched.known run).2 value rfl

end Watched

/-! ## A fill between two reads -/

theorem bought_nonneg (fills : List Fill) : 0 ≤ (fills.map fun fill => fill.quantity.val).sum := by
  refine List.sum_nonneg fun quantity member => ?_
  obtain ⟨fill, _, rfl⟩ := List.mem_map.1 member
  exact fill.quantity.property.le

/-- An account that only ever buys. -/
def boughtBooks (fills : List Fill) : List Balance :=
  [⟨"BTC", ⟨(fills.map fun fill => fill.quantity.val).sum, bought_nonneg fills⟩, ⟨0, decimal_zero⟩, 0⟩]

def workingOrder : Order := reportOf (marketBuy ⟨1⟩ ⟨2⟩) .open ⟨0, decimal_zero⟩

def lateFill : Fill where
  fillId := "t1"
  orderId := ⟨1⟩
  symbol := "BTC-USD"
  side := .buy
  quantity := ⟨1, decimal_one⟩
  price := ⟨1, decimal_one⟩
  fee := ⟨0, decimal_zero⟩
  feeAsset := "USD"
  occurredAt := 1

/-- The order fills between the read of the balances and that of its fills. -/
def tradingVenue : DeskCast where
  read
    | .getBalances, m => (.ok (boughtBooks m.world.venue), m.world.venue)
    | .getPositions, m => (.ok [], m.world.venue)
    | .getOrder _, m => (.ok (some workingOrder), m.world.venue)
    | .getFills _, m => (.ok [lateFill], m.world.venue ++ [lateFill])

abbrev trading : Surroundings := truthful KillSwitch.allConfigured boughtBooks

theorem tradingVenue_sound : tradingVenue.script.Sound (DeskServe trading) := by
  refine DeskCast.sound rfl (fun _ => ⟨List.prefix_refl _, rfl⟩) (fun op m => ?_) fun _ _ => ?_
  · cases op with
    | getBalances =>
        refine ⟨⟨List.prefix_refl _, rfl⟩, ?_⟩
        rintro _ ⟨⟩
        rfl
    | getPositions => exact ⟨⟨List.prefix_refl _, rfl⟩, trivial⟩
    | getOrder key => exact ⟨⟨List.prefix_refl _, rfl⟩, trivial⟩
    | getFills key =>
        refine ⟨⟨List.prefix_append _ _, rfl⟩, ?_⟩
        rintro _ ⟨⟩ fill filled
        exact List.mem_append_right _ filled
  · exact ⟨List.prefix_refl _, .still⟩

/-- The order is on record, and nothing has been filled. -/
def working : DeskWorld :=
  { DeskWorld.start with
    tracking := (Tracking.ofBaseline ⟨.empty, .empty, [], []⟩ 0).observe workingOrder [] }

abbrev bare : Wiring := ⟨false, false, false, false, false, .empty⟩

theorem working_watched : Watched bare KillSwitch.allConfigured boughtBooks working := by
  have begun : Watched bare KillSwitch.allConfigured boughtBooks
      { DeskWorld.start with tracking := .ofBaseline ⟨.empty, .empty, [], []⟩ 0 } :=
    .start _ ⟨.empty, .empty, [], []⟩ 0 [] fun _ never => nomatch never
  exact .between begun (List.prefix_refl _) (.observe .still workingOrder [] fun _ never => nomatch never)

def overtaken : Except Exc (Except String ReconciliationResult) × DeskMoment :=
  (compare bare).play tradingVenue.script ⟨working, []⟩

theorem overtaken_runs : (compare bare).Runs (DeskServe trading) ⟨working, []⟩ overtaken.1
    overtaken.2 := Prog.play_runs tradingVenue_sound _ _

theorem overtaken_returns : ∃ value, overtaken.1 = .ok (.ok value) := by
  have returned : (overtaken.1.toOption.bind Except.toOption).isSome := by decide +kernel
  cases whole : overtaken.1 with
  | error exc => simp [whole, Except.toOption] at returned
  | ok outcome =>
      cases outcome with
      | error detail => simp [whole, Except.toOption] at returned
      | ok value => exact ⟨value, rfl⟩

theorem adopted_iff_overtaken : ∃ venue, BalancesReadAt venue overtaken.2.events ∧
    overtaken.2.world.tracking.baselineBalances = boughtBooks venue ∧
    ((∀ id ∈ overtaken.2.world.tracking.appliedFillIds, id ∈ fillIds venue) ↔
      ∀ e ∈ overtaken.2.events, ∀ fill ∈ returnedFills e, fill.fillId ∈ fillIds venue) := by
  obtain ⟨value, returned⟩ := overtaken_returns
  exact adopted_iff working_watched (returned ▸ overtaken_runs)

/-- The fill counts as applied to balances that were read before it. -/
theorem late_fill_counts : ∃ world value final,
    Watched bare KillSwitch.allConfigured boughtBooks world ∧
      (compare bare).Runs (DeskServe trading) ⟨world, []⟩ (.ok (.ok value)) final ∧
      ∃ venue, BalancesReadAt venue final.events ∧
        final.world.tracking.baselineBalances = boughtBooks venue ∧
        ∃ id ∈ final.world.tracking.appliedFillIds, id ∉ fillIds venue := by
  obtain ⟨value, returned⟩ := overtaken_returns
  have run := overtaken_runs
  rw [returned] at run
  obtain ⟨venue, read, adopted, _⟩ := (compares working_watched.known run).2 value rfl
  have empty : ∀ e ∈ overtaken.2.events, (venueRead e).all (fun venue => venue = []) = true := by
    decide +kernel
  have marked : "t1" ∈ overtaken.2.world.tracking.appliedFillIds := by decide +kernel
  refine ⟨working, value, overtaken.2, working_watched, run, venue, read, adopted, "t1", marked, ?_⟩
  obtain ⟨e, member, here⟩ := read.read
  have nothing := empty e member
  rw [here] at nothing
  simp at nothing
  rw [nothing]
  exact fun never => nomatch never

end AlgoTrader.Portfolio
