/-
# Execution.CloseSafety -- what a close attempt may change, and on what evidence

* `closeAllOrNothing` -- with transactions that are all or none, an attempt that
  does not end `CLOSED` writes nothing, whatever the venue does and whatever
  happens to the order meanwhile; one that does closes exactly one order together
  with exactly one event.
* `safeSpelling_iff` -- the venue is asked about the spelling the caller passed.
  So the evidence is about the stored order exactly for the spelling `str(uuid)`;
  for every other spelling the tables accept there is a venue that holds the
  order and an attempt that closes it (`misspelledClose`).
-/
import AlgoTrader.Execution.Closure
import AlgoTrader.Execution.Book

namespace AlgoTrader.Execution

open AlgoTrader.Core Brokers Theory Process

set_option autoImplicit false

/-! ## An attempt, played out -/

namespace CloseSafety

variable {clientOrderId actor reason : String}

/-- One pending order in the tables. -/
def onePending (id : Uuid) : SqlAlchemyOrderStore where
  orders := [OrderRecord.reserved 0 (marketBuy id ⟨2⟩) (approvalOf (marketBuy id ⟨2⟩))]
  orderIds := List.nodup_singleton _
  clientOrderIds := List.nodup_singleton _
  fills := []
  brokerFillIds := List.nodup_nil
  events := []

/-- The venue has filled the order, under the id it was sent with. -/
def filledThere (id : Uuid) : World :=
  { emptyWorld (.sqlAlchemy (onePending id)) (.sqlAlchemy .empty .empty) with
    venue :=
      { orders := fun asked => if asked = id.str then
          some (reportOf (marketBuy id ⟨2⟩) .filled ⟨1, decimal_filled_one⟩) else none
        fills := fun _ => []
        accepted := fun _ => 1 } }

/-- The venue answers from what it holds. -/
def fromVenue : Cast where
  broker
    | .getOrder asked, m => .ok (m.world.venue.orders asked)
    | .getFills asked, m => .ok (m.world.venue.fills asked)
    | .submitOrder request _, _ => .ok (reportOf request .unknown ⟨0, decimal_zero⟩)

/-- The attempt under another spelling, played out. -/
def attempt (clientOrderId : String) (id : Uuid) : Except Exc ClosureOutcome × Instant :=
  (OrderCloser.close clientOrderId "operator" "stuck").play fromVenue.script ⟨filledThere id, []⟩

theorem onePending_find (id : Uuid) : (onePending id).find id =
    some (OrderRecord.reserved 0 (marketBuy id ⟨2⟩) (approvalOf (marketBuy id ⟨2⟩))) := by
  simp [SqlAlchemyOrderStore.find, onePending, OrderRecord.reserved, marketBuy]

theorem onePending_get {id : Uuid} (parsed : Uuid.parse clientOrderId = some id) :
    (onePending id).get 0 clientOrderId =
      .ok (some (reportOf (marketBuy id ⟨2⟩) .pendingSubmit ⟨0, decimal_zero⟩)) := by
  have read : (OrderRecord.reserved 0 (marketBuy id ⟨2⟩) (approvalOf (marketBuy id ⟨2⟩))).toOrder 0 =
      .ok (reportOf (marketBuy id ⟨2⟩) .pendingSubmit ⟨0, decimal_zero⟩) := by
    simp [OrderRecord.toOrder, OrderRecord.reserved, marketBuy, OrderRecord.readLimitPrice,
      PriceValid, reportOf]
  simp only [SqlAlchemyOrderStore.get, parsed, onePending_find, read]

theorem onePending_close {id : Uuid} (parsed : Uuid.parse clientOrderId = some id)
    (eventType : String) (payload : Payload) (at_ : Timestamp) :
    ((onePending id).closeUnreceived clientOrderId eventType payload at_).1 = .ok true := by
  have one : (onePending id).orders.countP (fun r => decide (r.orderId =
      (OrderRecord.reserved 0 (marketBuy id ⟨2⟩) (approvalOf (marketBuy id ⟨2⟩))).orderId) &&
        r.status.unresolved) = 1 := by
    simp [onePending, OrderRecord.reserved, OrderStatus.unresolved]
  simp only [SqlAlchemyOrderStore.closeUnreceived, parsed, onePending_find, one]
  simp

section Played

variable {id : Uuid} {m : Instant}

theorem get_played (parsed : Uuid.parse clientOrderId = some id) (here : m.world = filledThere id) :
    fromVenue.script (.store (.get clientOrderId)) m =
      (.ok (some (reportOf (marketBuy id ⟨2⟩) .pendingSubmit ⟨0, decimal_zero⟩)), filledThere id) := by
  have tables : (filledThere id).store = .sqlAlchemy (onePending id) := rfl
  have midnight : fromVenue.now m = 0 := rfl
  have read : (StoreOp.get clientOrderId).apply 0 (filledThere id).store =
      (.ok (some (reportOf (marketBuy id ⟨2⟩) .pendingSubmit ⟨0, decimal_zero⟩)),
        (filledThere id).store) := by
    simp only [StoreOp.apply, tables, OrderStore.get, onePending_get parsed]
  simp only [Cast.script, here, midnight, read]

theorem getOrder_played (other : clientOrderId ≠ id.str) (here : m.world = filledThere id) :
    fromVenue.script (.broker (.getOrder clientOrderId)) m = (.ok none, filledThere id) := by
  have absent : (filledThere id).venue.orders clientOrderId = none := by
    simp only [filledThere, if_neg other]
  simp only [Cast.script, fromVenue, here, absent]

theorem getFills_played (here : m.world = filledThere id) :
    fromVenue.script (.broker (.getFills clientOrderId)) m = (.ok [], filledThere id) := by
  simp only [Cast.script, fromVenue, here]
  rfl

theorem applyClosure_played (parsed : Uuid.parse clientOrderId = some id)
    (here : m.world = filledThere id) (order : Order) :
    IsClosed ((OrderCloser.applyClosure clientOrderId actor reason order).play fromVenue.script m).1 := by
  have tables : (filledThere id).store = .sqlAlchemy (onePending id) := rfl
  let last := Op.store (.closeUnreceived clientOrderId orderClosedEvent
    (OrderCloser.closureRecord actor reason order 0).toPayload 0)
  have replied : (fromVenue.script last (m.push (.host .clock) (.ok 0) m.world)).1 = .ok true := by
    simp only [last, Cast.script, Moment.push_world, here, StoreOp.apply, tables,
      OrderStore.closeUnreceived, Prod.map_fst, id_eq, onePending_close parsed]
  unfold OrderCloser.applyClosure
  rw [Prog.play_bind, Prog.play_call]
  show IsClosed (((ask last).attempt >>= _).play fromVenue.script
    (m.push (.host .clock) (.ok 0) m.world)).1
  rw [Prog.play_bind, Prog.play_attempt, Prog.play_call, replied]
  dsimp only
  rw [Prog.play_pure]
  exact ⟨_, rfl, rfl⟩

theorem attempt_closed (parsed : Uuid.parse clientOrderId = some id)
    (other : clientOrderId ≠ id.str) : IsClosed (attempt clientOrderId id).1 := by
  have readable : ¬ (Uuid.parse clientOrderId).isNone = true := by
    rw [parsed]
    exact Bool.false_ne_true
  unfold attempt OrderCloser.close
  rw [if_neg readable, Prog.play_bind, Prog.play_attempt, Prog.play_call, get_played parsed rfl]
  show IsClosed ((OrderCloser.askVenue _ _ _ _).play fromVenue.script _).1
  unfold OrderCloser.askVenue
  rw [Prog.play_bind, Prog.play_attempt, Prog.play_call, getOrder_played other rfl]
  show IsClosed ((OrderCloser.askFills _ _ _ _).play fromVenue.script _).1
  unfold OrderCloser.askFills
  rw [Prog.play_bind, Prog.play_attempt, Prog.play_call, getFills_played rfl]
  exact applyClosure_played parsed rfl _

theorem attempt_run (env : Environment) (quiet : ∀ switch, env.switchMoves switch switch)
    (still : ∀ world, env.elsewhere world world) (clientOrderId : String) (id : Uuid) :
    (OrderCloser.close clientOrderId "operator" "stuck").Runs (Serve env) ⟨filledThere id, []⟩
      (attempt clientOrderId id).1 (attempt clientOrderId id).2 := by
  unfold attempt
  exact Prog.play_runs (Cast.sound env quiet fun _ m => still m.world) _ _

end Played

end CloseSafety

/-! ## Both or neither -/

/-- No request on the order store changed it. -/
def Untouched (events : List Served) : Prop :=
  ∀ e ∈ events, e.op.onStore = true → e.after.store = e.before.store

/-- The event ends one unresolved order `canceled`, the one the spelling leads to,
together with one journal entry, and changes nothing else on record. -/
def Closes (clientOrderId : String) (e : Served) : Prop :=
  ∃ id old payload, e.before.store.Names clientOrderId id ∧
    e.before.store.book.entry id = some old ∧ old.status.unresolved = true ∧
    e.after.store.book = e.before.store.book.close id old (orderClosedEvent, payload)

namespace CloseSafety

variable {clientOrderId actor reason : String}

def plain (env : Environment) : Contract effects Exc World where
  serve := Serve env
  assume _ _ := True
  guard _ _ := True
  invariant _ := True

def Writes (clientOrderId : String) (stage : CloseStage) (m : Instant) : Prop :=
  match stage with
  | .closed => ∃ e earlier, m.events = e :: earlier ∧ Closes clientOrderId e ∧ Untouched earlier
  | _ => Untouched m.events

theorem writes_of_untouched {stage : CloseStage} {m : Instant} (short : stage ≠ .closed)
    (untouched : Untouched m.events) : Writes clientOrderId stage m := by
  cases stage with
  | closed => exact absurd rfl short
  | _ => exact untouched

theorem Untouched.push {m : Instant} {op : Op} {reply : Except Exc op.Reply} {after : World}
    (untouched : Untouched m.events) (same : op.onStore = true → after.store = m.world.store) :
    Untouched (m.push op reply after).events := by
  rintro e (_ | ⟨_, member⟩) onStore
  · exact same onStore
  · exact untouched e member onStore

theorem writes_annotated {env : Environment} (atomic : env.lossy = false) :
    Annotation (plain env) (CloseEdge clientOrderId actor reason) (Writes clientOrderId) := by
  refine ⟨fun _ _ _ => trivial, ?_⟩
  intro pt op next edge m held
  refine ⟨trivial, fun reply after (served : Serve env op m.world reply after) _ => ?_⟩
  cases edge with
  | get =>
      refine writes_of_untouched ?_ (Untouched.push held fun _ => ?_)
      · unfold afterGet
        split
        · split <;> nofun
        · nofun
      · rcases served.store_call.written with same | ⟨now, value, done⟩
        · exact same
        · exact (congrArg Prod.snd done).symm
  | lookup order =>
      refine writes_of_untouched ?_ (Untouched.push held nofun)
      unfold afterCloseLookup
      split <;> nofun
  | fills order =>
      refine writes_of_untouched ?_ (Untouched.push held nofun)
      unfold afterCloseFills
      split <;> nofun
  | clock order =>
      refine writes_of_untouched ?_ (Untouched.push held nofun)
      unfold afterClock
      split <;> nofun
  | close order closedAt =>
      have refusal : reply ≠ .ok true → after.store = m.world.store := by
        intro refused
        rcases served.store_call with ⟨now, done⟩ | ⟨_, same | ⟨lost, _⟩⟩
        · rcases OrderStore.close_cases done with ⟨same, _⟩ | ⟨_, _, _, closed, _⟩
          · exact same
          · exact absurd closed refused
        · exact same
        · rw [atomic] at lost
          cases lost
      by_cases closed : reply = .ok true
      · subst closed
        obtain ⟨now, done⟩ := served.store_call.applied
        refine ⟨_, _, rfl, ?_, held⟩
        rcases OrderStore.close_cases done with ⟨_, not⟩ | ⟨id, old, extra, _, named, row, open_, set⟩
        · exact absurd rfl not
        · exact ⟨id, old, _, named, row, open_, set⟩
      · refine writes_of_untouched ?_ (Untouched.push held fun _ => refusal closed)
        unfold afterClose
        split
        · exact absurd rfl closed
        · nofun

end CloseSafety

open CloseSafety in
/-- **Both or neither.** -/
theorem closeAllOrNothing {env : Environment} (atomic : env.lossy = false)
    {clientOrderId actor reason : String} {world : World} {result : Except Exc ClosureOutcome}
    {final : Instant}
    (run : (OrderCloser.close clientOrderId actor reason).Runs (Serve env) ⟨world, []⟩ result final) :
    (¬ IsClosed result → Untouched final.events) ∧
      (IsClosed result → ∃ e earlier, final.events = e :: earlier ∧ Closes clientOrderId e ∧
        Untouched earlier) := by
  have along : Along (plain env).assume final.events := along_of_forall fun _ _ => trivial
  obtain ⟨stage, concluded, held⟩ := wp_runs run along
    ((writes_annotated atomic).wp_end (@OrderCloser.close_follows clientOrderId actor reason)
      (fun e member => by cases member))
  constructor
  · intro notClosed
    have short : stage ≠ .closed := fun ended => notClosed (concluded.2 ended)
    cases stage with
    | closed => exact absurd rfl short
    | _ => exact held
  · intro closed
    obtain rfl := concluded.1 closed
    exact held

open CloseSafety in
theorem closeAllOrNothing_closed :
    ∃ e earlier, (attempt "00000000-0000-0000-0000-00000000000A" ⟨10⟩).2.events = e :: earlier ∧
      Closes "00000000-0000-0000-0000-00000000000A" e ∧ Untouched earlier := by
  have run := attempt_run { oneAtATime with lossy := false } (fun _ => trivial)
    (fun _ => ⟨rfl, rfl, rfl⟩) "00000000-0000-0000-0000-00000000000A" ⟨10⟩
  exact (closeAllOrNothing rfl run).2 (attempt_closed (by decide) (by decide))

/-! ## The evidence is about the spelling that was asked about -/

/-- The venue answers from what it holds under the very string it is asked about. -/
structure Truthful (e : Served) : Prop where
  orders : ∀ id found, answered e = some (id, found) → found = e.before.venue.orders id
  fills : ∀ id fills, returned e = some (id, fills) → fills = e.before.venue.fills id

/-- When it was asked for the order and when it was asked for the fills, the venue
held none under this id. -/
structure HeldNothing (id : String) (events : List Served) : Prop where
  order : ∃ e ∈ events, (answered e).isSome ∧ e.before.venue.orders id = none
  fills : ∃ e ∈ events, (returned e).isSome ∧ e.before.venue.fills id = []

/-- Whatever the stored order and the venue: an attempt under this spelling asks the
venue about the stored order's own id, and ends `CLOSED` only if the venue holds
neither an order nor a fill under it. -/
def SafeSpelling (clientOrderId : String) : Prop :=
  ∀ (env : Environment) (actor reason : String) (world : World)
    (result : Except Exc ClosureOutcome) (final : Instant),
    (OrderCloser.close clientOrderId actor reason).Runs (Serve env) ⟨world, []⟩ result final →
    Along (fun e _ => Truthful e) final.events → ∀ id, world.store.Names clientOrderId id →
      (∀ e ∈ final.events, ∀ asked, questioned e = some asked → asked = id.str) ∧
        (IsClosed result → HeldNothing id.str final.events)

namespace CloseSafety

variable {clientOrderId actor reason : String}

def truthful (env : Environment) : Contract effects Exc World where
  serve := Serve env
  assume e _ := Truthful e
  guard _ _ := True
  invariant _ := True

def NoOrder (id : String) (events : List Served) : Prop :=
  ∃ e ∈ events, (answered e).isSome ∧ e.before.venue.orders id = none

/-- What the venue has shown so far, about the spelling it was asked about. -/
def Shown (clientOrderId : String) : CloseStage → List Served → Prop
  | .start, events => events = []
  | .absent _, events => NoOrder clientOrderId events
  | .unfilled _, events | .timed _ _, events | .closed, events => HeldNothing clientOrderId events
  | _, _ => True

def Evidence (clientOrderId : String) (stage : CloseStage) (m : Instant) : Prop :=
  (∀ e ∈ m.events, ∀ asked, questioned e = some asked → asked = clientOrderId) ∧
    Shown clientOrderId stage m.events

theorem NoOrder.cons {events : List Served} (shown : NoOrder clientOrderId events) (e : Served) :
    NoOrder clientOrderId (e :: events) := by
  obtain ⟨e', member, answer, nothing⟩ := shown
  exact ⟨e', List.mem_cons_of_mem _ member, answer, nothing⟩

theorem HeldNothing.cons {events : List Served} (held : HeldNothing clientOrderId events)
    (e : Served) : HeldNothing clientOrderId (e :: events) := by
  obtain ⟨order, e', member, answer, nothing⟩ := held
  exact ⟨NoOrder.cons order e, e', List.mem_cons_of_mem _ member, answer, nothing⟩

theorem evidence_annotated (env : Environment) :
    Annotation (truthful env) (CloseEdge clientOrderId actor reason) (Evidence clientOrderId) := by
  refine ⟨fun _ _ _ => trivial, ?_⟩
  rintro pt op next edge m ⟨questions, shown⟩
  refine ⟨trivial, fun reply after _ (truth : Truthful _) => ?_⟩
  have asking : ∀ same : (∀ asked, questioned (m.event op reply after) = some asked →
      asked = clientOrderId), ∀ e ∈ (m.push op reply after).events, ∀ asked,
        questioned e = some asked → asked = clientOrderId := by
    rintro same e (_ | ⟨_, member⟩)
    · exact same
    · exact questions e member
  cases edge with
  | get =>
      refine ⟨asking nofun, ?_⟩
      unfold afterGet
      split
      · split <;> trivial
      · trivial
  | lookup order =>
      refine ⟨asking fun asked same => (Option.some.inj same).symm, ?_⟩
      unfold afterCloseLookup
      split
      · exact ⟨_, List.mem_cons_self .., rfl, (truth.orders clientOrderId none rfl).symm⟩
      · trivial
  | fills order =>
      refine ⟨asking fun asked same => (Option.some.inj same).symm, ?_⟩
      unfold afterCloseFills
      split
      · exact ⟨NoOrder.cons shown _, _, List.mem_cons_self .., rfl,
          (truth.fills clientOrderId [] rfl).symm⟩
      · trivial
  | clock order =>
      refine ⟨asking nofun, ?_⟩
      unfold afterClock
      split
      · exact HeldNothing.cons shown _
      · trivial
  | close order closedAt =>
      refine ⟨asking nofun, ?_⟩
      unfold afterClose
      split
      · exact HeldNothing.cons shown _
      · trivial

/-- An attempt only ever asks about the spelling it was given, and closes only where
the venue holds nothing under it. -/
theorem evidence {env : Environment} {world : World} {result : Except Exc ClosureOutcome}
    {final : Instant}
    (run : (OrderCloser.close clientOrderId actor reason).Runs (Serve env) ⟨world, []⟩ result final)
    (truth : Along (fun e _ => Truthful e) final.events) :
    (∀ e ∈ final.events, ∀ asked, questioned e = some asked → asked = clientOrderId) ∧
      (IsClosed result → HeldNothing clientOrderId final.events) := by
  obtain ⟨stage, concluded, questions, shown⟩ := wp_runs (C := truthful env) run truth
    ((evidence_annotated env).wp_end (@OrderCloser.close_follows clientOrderId actor reason)
      ⟨fun e member => (by cases member), rfl⟩)
  refine ⟨questions, fun closed => ?_⟩
  obtain rfl := concluded.1 closed
  exact shown

/-! ### A spelling that is not the stored one -/

/-- Only the broker answers. -/
theorem truthful_elsewhere {e : Served} (order : answered e = none) (fills : returned e = none) :
    Truthful e := by
  refine ⟨fun id found answer => ?_, fun id found answer => ?_⟩
  · rw [order] at answer
    cases answer
  · rw [fills] at answer
    cases answer

theorem fromVenue_truthful (op : Op) (m : Instant) :
    Truthful (m.event op (fromVenue.script op m).1 (fromVenue.script op m).2) := by
  cases op with
  | store call => exact truthful_elsewhere rfl rfl
  | audit call => exact truthful_elsewhere rfl rfl
  | switch call => exact truthful_elsewhere rfl rfl
  | host call => exact truthful_elsewhere rfl rfl
  | broker call =>
      cases call with
      | submitOrder request approval => exact truthful_elsewhere rfl rfl
      | getOrder asked =>
          refine ⟨fun id found answer => ?_, fun id fills answer => (by cases answer)⟩
          cases answer
          rfl
      | getFills asked =>
          refine ⟨fun id found answer => (by cases answer), fun id fills answer => ?_⟩
          cases answer
          rfl

section Misled

variable {id : Uuid}

theorem attempt_truthful (clientOrderId : String) (id : Uuid) :
    Along (fun e _ => Truthful e) (attempt clientOrderId id).2.events := by
  unfold attempt
  exact Prog.play_along fromVenue_truthful _ trivial

/-- Nothing the attempt does changes the venue. -/
theorem attempt_venue (e : Served) (member : e ∈ (attempt clientOrderId id).2.events) :
    e.before.venue = (filledThere id).venue := by
  unfold attempt at member
  have kept : ∀ (op : Op) (m : Instant), m.world.venue = (filledThere id).venue →
      (fromVenue.script op m).2.venue = (filledThere id).venue := by
    intro op m same
    cases op with
    | host call => cases call <;> exact same
    | _ => exact same
  exact Prog.play_always (fun w => w.venue = (filledThere id).venue) kept _ rfl
    (fun e none => by cases none) e member

/-- The venue was never asked about the stored order. -/
theorem misled (parsed : Uuid.parse clientOrderId = some id) (other : clientOrderId ≠ id.str) :
    ¬ SafeSpelling clientOrderId := by
  intro safe
  have still : ∀ world, oneAtATime.elsewhere world world := fun _ => ⟨rfl, rfl, rfl⟩
  have held := (safe oneAtATime _ _ _ _ _ (attempt_run oneAtATime (fun _ => trivial) still clientOrderId id)
    (attempt_truthful clientOrderId id) id parsed).2 (attempt_closed parsed other)
  obtain ⟨e, member, _, nothing⟩ := held.order
  rw [attempt_venue e member] at nothing
  simp [filledThere] at nothing

end Misled

end CloseSafety

open CloseSafety in
/-- **The spellings under which a close is safe.** -/
theorem safeSpelling_iff (clientOrderId : String) :
    SafeSpelling clientOrderId ↔
      Uuid.parse clientOrderId = none ∨ Uuid.Canonical clientOrderId := by
  constructor
  · intro safe
    cases parsed : Uuid.parse clientOrderId with
    | none => exact .inl rfl
    | some id =>
        by_cases canonical : clientOrderId = id.str
        · exact .inr ⟨id, canonical⟩
        · exact absurd safe (misled parsed canonical)
  · intro readable env actor reason world result final run truth id named
    obtain ⟨questions, closed⟩ := evidence run truth
    suffices same : clientOrderId = id.str by
      subst same
      exact ⟨questions, closed⟩
    cases world with
    | mk store audit switch memory venue =>
        cases store with
        | inMemory s => exact named
        | sqlAlchemy s =>
            rcases readable with unreadable | ⟨own, rfl⟩
            · exact absurd (named.symm.trans unreadable) nofun
            · exact congrArg Uuid.str (Option.some.inj ((Uuid.parse_str own).symm.trans named))

open CloseSafety in
/-- The stored id in upper case. -/
theorem misspelledClose : ¬ SafeSpelling "00000000-0000-0000-0000-00000000000A" := by
  have parsed : Uuid.parse "00000000-0000-0000-0000-00000000000A" = some ⟨10⟩ := by decide
  exact misled parsed (by decide)

end AlgoTrader.Execution
