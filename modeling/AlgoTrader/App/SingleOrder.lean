/-
# App.SingleOrder -- one outcome is awaited at a time

A cycle begins an order only after the store reported nothing unresolved, and what
it saves then is the only order whose outcome can become unknown, until a later
cycle has resolved it.  A report of the venue is written to the order it was asked
about, so it opens no other.

* `singleUnresolved` -- over stores that start with nothing unresolved, at most one
  order is unresolved at any time, and a create is sent for an order only while no
  other one is.
-/
import AlgoTrader.App.Trading

namespace AlgoTrader.App

open AlgoTrader.Core Brokers Risk Execution Theory Process

set_option autoImplicit false

/-- The venue's answers carry the id they were asked about. -/
structure AnswersAsked (e : Served) : Prop where
  lookup : ∀ id order, answered e = some (id, some order) → order.request.clientOrderId.str = id
  create : ∀ request order, sent e = some request → reported e = some order →
    order.request.clientOrderId = request.clientOrderId

theorem answersAsked_of_silent {e : Served} (unasked : answered e = none) (unsent : sent e = none) :
    AnswersAsked e := by
  constructor
  · intro id order answer
    rw [unasked] at answer
    cases answer
  · intro request order sending
    rw [unsent] at sending
    cases sending

/-- No order but this one is unresolved. -/
def Only (book : Book) (id : Uuid) : Prop := ∀ id', book.Unresolved id' → id' = id

def NoneOpen (book : Book) : Prop := ∀ id, ¬ book.Unresolved id

namespace SingleOrder

/-- The order a call on the store may leave unresolved. -/
def touches : StoreOp → Option Uuid
  | .reserveWithCreated request _ => some request.clientOrderId
  | .update order => some order.request.clientOrderId
  | _ => none

section Books

variable {store : OrderStore} {op : StoreOp} {book : Book} {id : Uuid}

/-- Only the order a call is about can become unresolved by it. -/
theorem only_kept (only : Only store.book id) (change : op.Change store book)
    (about : ∀ id', touches op = some id' → id' = id) : Only book id := by
  have set_only : ∀ {id₁ entry}, id₁ = id → Only (store.book.set id₁ entry) id := by
    rintro id₁ entry rfl id' unresolved
    rcases Book.unresolved_set.1 unresolved with ⟨same, _⟩ | ⟨_, before⟩
    · exact same
    · exact only id' before
  cases change with
  | none => exact only
  | reserved request approval unused => exact set_only (about _ rfl)
  | updated order entry written rest => exact set_only (about _ rfl)
  | filled fills recorded => exact only
  | closed text eventType payload extra at_ id₁ old named row open_ =>
      intro id' unresolved
      rcases Book.unresolved_set.1 unresolved with ⟨_, canceled⟩ | ⟨_, before⟩
      · cases canceled
      · exact only id' before

theorem only_of_none (none : NoneOpen book) (id : Uuid) : Only book id :=
  fun id' unresolved => absurd unresolved (none id')

end Books

/-- The order a stage is about, if what it leads to may leave it unresolved. -/
def about : Stage → Option Uuid
  | .ordering request _ | .reserved request _ _ _ | .absent request _ => some request.clientOrderId
  | .failed order | .answered order | .fetched order _ | .covered order _ =>
      some order.request.clientOrderId
  | .idle | .unsent _ _ => none

/-- One order is all that is unresolved, asked about and worked on. -/
structure Focused (book : Book) (pt : EnginePoint) (id : Uuid) : Prop where
  only : Only book id
  asking : ∀ text ∈ pt.asking, text = id.str
  working : ∀ id', about pt.stage = some id' → id' = id

def AboutOnly (id : Uuid) (stage : Stage) : Prop := ∀ id', about stage = some id' → id' = id

theorem aboutOnly_none {id : Uuid} {stage : Stage} (none : about stage = none) : AboutOnly id stage := by
  intro id' here
  rw [none] at here
  cases here

theorem aboutOnly_some {id id' : Uuid} {stage : Stage} (some_ : about stage = some id') (same : id' = id) :
    AboutOnly id stage := by
  rintro id'' here
  exact (Option.some.inj (here.symm.trans some_)).trans same

def means : CyclePoint → Instant → Prop
  | .engine pt, m => ∃ id, Focused m.world.store.book pt id
  | _, m => NoneOpen m.world.store.book

def Single (m : Instant) : Prop := ∃ id, Only m.world.store.book id

/-- A create is sent for the order that is unresolved. -/
def guard : Op → Instant → Prop
  | .broker (.submitOrder request _), m => Only m.world.store.book request.clientOrderId
  | _, _ => True

def contract (env : Environment) : Contract effects Exc World where
  serve := Serve env
  assume e _ := AnswersAsked e
  guard := guard
  invariant := Single

theorem single_of_means {pt : CyclePoint} {m : Instant} (held : means pt m) : Single m := by
  cases pt with
  | engine pt =>
      obtain ⟨id, focused⟩ := held
      exact ⟨id, focused.only⟩
  | _ => exact ⟨⟨0⟩, only_of_none held _⟩

section Steps

variable {env : Environment} {m : Instant} {op : Op} {reply : Except Exc op.Reply} {after : World}
  {pt : EnginePoint} {id : Uuid}

/-- A request that writes no orders leaves the point's order what it was. -/
theorem Focused.still (focused : Focused m.world.store.book pt id) {pt' : EnginePoint}
    (same : after.store = m.world.store) (asking : pt'.asking = pt.asking)
    (working : AboutOnly id pt'.stage) :
    Focused (m.push op reply after).world.store.book pt' id := by
  rw [Moment.push_world, same]
  exact ⟨focused.only, asking ▸ focused.asking, working⟩

theorem Focused.write {call : StoreOp} {reply : Except Exc call.Reply} {pt' : EnginePoint}
    (focused : Focused m.world.store.book pt id)
    (served : Serve env (.store call) m.world reply after)
    (own : ∀ id', touches call = some id' → id' = id) (asking : pt'.asking = pt.asking)
    (working : AboutOnly id pt'.stage) :
    Focused (m.push (.store call) reply after).world.store.book pt' id :=
  ⟨only_kept focused.only served.change own, asking ▸ focused.asking, working⟩

end Steps

theorem engine_kept {env : Environment} (serialized : env.Serialized) {pt : EnginePoint} {op : Op}
    {next : Except Exc op.Reply → EnginePoint} (taken : Edge pt op next) {m : Instant}
    (held : means (.engine pt) m) {reply : Except Exc op.Reply} {after : World}
    (served : Serve env op m.world reply after) (answers : AnswersAsked (m.event op reply after)) :
    means (.engine (next reply)) (m.push op reply after) := by
  obtain ⟨id, focused⟩ := held
  have working : AboutOnly id pt.stage := focused.working
  cases taken with
  | reserve ids request approval own approved =>
      exact ⟨id, focused.write served working (afterReserve_asking _)
        (afterReserve_stage (aboutOnly_none rfl) fun _ _ _ _ => working)⟩
  | lookup ids request approval persisted created =>
      refine ⟨id, focused.still (served.store_kept serialized rfl) (afterLookup_asking ..)
        (afterLookup_stage (aboutOnly_none rfl) ?_ (fun _ => working) fun _ _ _ => aboutOnly_none rfl)⟩
      rintro order rfl
      have asked := answers.lookup request.clientOrderId.str order rfl
      exact aboutOnly_some rfl ((Uuid.str_injective asked).trans (working _ rfl))
  | closeNeverSent ids order failure closedAt =>
      exact ⟨id, focused.write served (fun id' here => by cases here) rfl (aboutOnly_none rfl)⟩
  | submitOrder ids request approval =>
      have told : ∀ order, reported (m.event (.broker (.submitOrder request approval)) reply
          after) = some order → order.request.clientOrderId = id :=
        fun order report => (answers.create request order rfl report).trans (working _ rfl)
      refine ⟨id, focused.still (served.store_kept serialized rfl) (afterSubmit_asking _)
        (afterSubmit_stage (aboutOnly_none rfl) ?_ ?_)⟩
      · rintro order rfl
        exact aboutOnly_some rfl (told order rfl)
      · rintro failure order rfl carries
        exact aboutOnly_some rfl (told order carries)
  | saveFailed ids order => exact ⟨id, focused.write served working rfl (aboutOnly_none rfl)⟩
  | settle ids order fills enough => exact ⟨id, focused.write served working rfl (aboutOnly_none rfl)⟩
  | getFills ids order =>
      exact ⟨id, focused.still (served.store_kept serialized rfl) (afterFills_asking _)
        (afterFills_stage (aboutOnly_none rfl) (fun _ => working) fun _ _ => working)⟩
  | addFills ids order fills =>
      exact ⟨id, focused.write served (fun id' here => by cases here) (afterAddFills_asking _)
        (afterAddFills_stage (aboutOnly_none rfl) fun _ => working)⟩
  | recover ids stage text asked =>
      refine ⟨id, focused.still (served.store_kept serialized rfl) (afterRecover_asking _)
        (afterRecover_stage (aboutOnly_none rfl) ?_)⟩
      rintro order rfl
      have own := answers.lookup text order rfl
      exact aboutOnly_some rfl (Uuid.str_injective (own.trans (focused.asking text asked)))
  | get ids stage text =>
      exact ⟨id, focused.write served (fun id' here => by cases here) rfl (aboutOnly_none rfl)⟩
  | pending ids stage =>
      have only := only_kept focused.only served.change fun id' here => by cases here
      refine ⟨id, only, ?_, aboutOnly_none (congrArg about (afterPending_stage reply))⟩
      cases reply with
      | error failure => exact focused.asking
      | ok orders =>
          obtain ⟨now, done⟩ := served.store_call.applied
          intro text member
          obtain ⟨order, listed, rfl⟩ := List.mem_map.1 member
          have read := congrArg Prod.fst done
          have open_ := (OrderStore.pending_ok read order.request.clientOrderId).2 ⟨order, listed, rfl⟩
          exact congrArg Uuid.str (focused.only _ open_)
  | quiet pt op quiet =>
      exact ⟨id, focused.still (served.store_kept serialized quiet.offStore) rfl working⟩

/-- The ids recovery may ask about. -/
def asking : CyclePoint → List String
  | .engine pt => pt.asking
  | _ => []

/-- Where nothing is unresolved a cycle may stand anywhere it is not yet asking. -/
theorem means_of_none {pt : CyclePoint} {m : Instant} (none : NoneOpen m.world.store.book)
    (asksNothing : asking pt = []) : means pt m := by
  cases pt with
  | engine pt =>
      refine ⟨(about pt.stage).getD ⟨0⟩, only_of_none none _, fun text member => ?_, ?_⟩
      · rw [show pt.asking = [] from asksNothing] at member
        cases member
      · intro id' here
        rw [here]
        rfl
  | _ => exact none

/-- A request that writes no orders, from where nothing is unresolved. -/
theorem clear_kept {env : Environment} (serialized : env.Serialized) {op : Op} {m : Instant}
    {reply : Except Exc op.Reply} {after : World} {pt : CyclePoint}
    (none : NoneOpen m.world.store.book) (served : Serve env op m.world reply after)
    (off : op.onStore = false) (asksNothing : asking pt = []) :
    means pt (m.push op reply after) := by
  refine means_of_none ?_ asksNothing
  rw [Moment.push_world, served.store_kept serialized off]
  exact none

theorem annotated {config : CycleConfig} {env : Environment} (serialized : env.Serialized) :
    Annotation (contract env) (CycleEdge config) means := by
  refine ⟨fun _ _ held => single_of_means held, ?_⟩
  intro pt op next edge m held
  cases edge with
  | engine pt op next taken =>
      refine ⟨?_, fun _ _ served answers => engine_kept serialized taken held served answers⟩
      cases taken with
      | submitOrder ids request approval =>
          obtain ⟨id, focused⟩ := held
          have own : request.clientOrderId = id := focused.working _ rfl
          show Only m.world.store.book request.clientOrderId
          exact own ▸ focused.only
      | quiet pt op quiet => cases quiet <;> trivial
      | _ => trivial
  | switch pt op own =>
      obtain ⟨id, focused⟩ := held
      have off : op.onStore = false := by cases own <;> rfl
      refine ⟨by cases own <;> trivial, fun reply after served _ => ⟨id, ?_⟩⟩
      exact focused.still (served.store_kept serialized off) rfl (aboutOnly_none rfl)
  | pending pt =>
      refine ⟨trivial, fun reply after (served : Serve env _ m.world reply after) _ => ?_⟩
      obtain ⟨id, focused⟩ := held
      have still := engine_kept serialized (.pending pt.asking pt.stage) ⟨id, focused⟩ served
      have silent := answersAsked_of_silent (e := m.event (.store .pending) reply after) rfl rfl
      cases reply with
      | error failure => exact still silent
      | ok orders =>
          cases orders with
          | cons order rest => exact still silent
          | nil =>
              obtain ⟨now, done⟩ := served.store_call.applied
              have same : after.store = m.world.store := (congrArg Prod.snd done).symm
              intro id' unresolved
              rw [Moment.push_world, same] at unresolved
              obtain ⟨order, listed, _⟩ :=
                (OrderStore.pending_ok (congrArg Prod.fst done) id').1 unresolved
              cases listed
  | clearQuiet op quiet =>
      refine ⟨by cases quiet <;> trivial, fun reply after served _ => ?_⟩
      exact clear_kept serialized held served quiet.offStore rfl
  | recordedQuiet signal op quiet =>
      refine ⟨by cases quiet <;> trivial, fun reply after served _ => ?_⟩
      exact clear_kept serialized held served quiet.offStore rfl
  | strategy state =>
      refine ⟨trivial, fun reply after served _ => clear_kept serialized held served rfl ?_⟩
      unfold afterStrategy
      split <;> rfl
  | recordSignal signal =>
      refine ⟨trivial, fun reply after served _ => clear_kept serialized held served rfl ?_⟩
      unfold afterRecordSignal
      split <;> rfl
  | load signal =>
      exact ⟨trivial, fun reply after served _ => clear_kept serialized held served rfl rfl⟩
  | riskInputs signal state context =>
      refine ⟨trivial, fun reply after served _ => clear_kept serialized held served rfl ?_⟩
      unfold afterInputs
      split <;> rfl
  | readSwitch signal inputs =>
      refine ⟨trivial, fun reply after served _ => clear_kept serialized held served rfl ?_⟩
      unfold afterSwitch
      split <;> rfl
  | mint signal inputs =>
      refine ⟨trivial, fun reply after served _ => clear_kept serialized held served rfl ?_⟩
      unfold afterMint
      split <;> rfl
  | mintRefusal signal =>
      refine ⟨trivial, fun reply after served _ => clear_kept serialized held served rfl ?_⟩
      unfold afterMint
      split <;> rfl
  | stamp signal inputs approvalId =>
      refine ⟨trivial, fun reply after served _ => clear_kept serialized held served rfl ?_⟩
      unfold afterStamp
      split <;> rfl
  | recordDecision signal decision =>
      refine ⟨trivial, fun reply after served _ => clear_kept serialized held served rfl ?_⟩
      unfold afterDecision
      split
      · split <;> rfl
      · rfl

end SingleOrder

open SingleOrder in
/-- **One outcome is awaited at a time.** -/
theorem singleUnresolved {env : Environment} {config : CycleConfig} {initial : World → Prop}
    (serialized : env.Serialized)
    (resolved : ∀ world, initial world → NoneOpen world.store.book)
    {c : Config effects Exc World} (reached : (tradingSystem env config initial).Reachable c)
    (answers : Along (fun e _ => AnswersAsked e) c.moment.events) :
    (∀ id id', c.moment.world.store.book.Unresolved id →
      c.moment.world.store.book.Unresolved id' → id = id') ∧
    ∀ request approval next,
      c.running = some (.request (.broker (.submitOrder request approval)) next) →
        Only c.moment.world.store.book request.clientOrderId := by
  have upheld := tradingSystem_upheld (C := contract env) rfl (annotated serialized)
    (fun world start => ⟨⟨0⟩, only_of_none (resolved world start) _⟩)
    (fun m ⟨id, only⟩ => ⟨id, only, nofun, nofun⟩)
    (fun m world ⟨id, only⟩ ⟨same, _⟩ => ⟨id, same ▸ only⟩) reached answers
  obtain ⟨only_id, only⟩ := upheld.1
  refine ⟨fun id id' first second => (only id first).trans (only id' second).symm, ?_⟩
  intro request approval next calls
  exact upheld.guard calls

namespace SingleOrder

theorem calm_answers (op : Op) (m : Instant) :
    AnswersAsked (m.event op (calm.script op m).1 (calm.script op m).2) := by
  cases op with
  | store call => exact answersAsked_of_silent rfl rfl
  | audit call => exact answersAsked_of_silent rfl rfl
  | switch call => exact answersAsked_of_silent rfl rfl
  | host call => exact answersAsked_of_silent rfl rfl
  | broker call =>
      cases call with
      | getFills id => exact answersAsked_of_silent rfl rfl
      | getOrder id => exact ⟨fun _ _ answer => (by cases answer), fun _ _ sending => by cases sending⟩
      | submitOrder request approval =>
          refine ⟨fun _ _ answer => (by cases answer), fun _ order sending report => ?_⟩
          cases sending
          cases report
          rfl

theorem calm_calls : calm.script.Sound (Serve oneAtATime) :=
  Cast.sound oneAtATime (fun _ => trivial) fun _ _ => ⟨rfl, rfl, rfl⟩

end SingleOrder

open SingleOrder in
theorem singleUnresolved_calm :
    Only (atSubmit calm).2.world.store.book calmRequest.clientOrderId := by
  have waits : (atSubmit calm).1.asks.bind sends = some calmRequest := by decide +kernel
  obtain ⟨approval, next, calls⟩ := request_of_sends waits
  have empty : ∀ world, world = emptyWorld (.sqlAlchemy .empty) (.sqlAlchemy .empty .empty) →
      NoneOpen world.store.book := by
    rintro world rfl id ⟨status, here, _⟩
    cases here
  have answers : Along (fun e _ => AnswersAsked e) (atSubmit calm).2.events :=
    Prog.advance_along calm_answers 23 trivial
  have held := singleUnresolved oneAtATime_serialized empty (atSubmit_reached calm_calls) answers
  exact held.2 _ _ _ (congrArg some calls)

end AlgoTrader.App
