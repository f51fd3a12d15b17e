/-
# Execution.AtMostOnce -- the venue accepts an order once

A create request is sent only straight after the venue said, in the same call,
that it has no record of the id.  Against a venue whose "no record" means that
nothing was accepted under the id, and whose accepted creates are the ones it
was sent, no id is ever accepted twice: not after a lost response, not after a
restart, not by a recovery, and whatever the stores lose.

* `acceptedOnce` -- at most one accepted create for each id, in every reachable
  state.
-/
import AlgoTrader.Execution.Engine

namespace AlgoTrader.Execution

open AlgoTrader.Core Brokers Theory Process

set_option autoImplicit false

/-- A lookup answers "no such order" only where nothing was accepted, and a create is
accepted while it is being sent, once, or never. -/
structure HonestVenue (e : Served) : Prop where
  absent : ∀ id, answered e = some (id, none) → e.before.venue.accepted id = 0
  accepts : ∀ id, e.after.venue.accepted id = e.before.venue.accepted id ∨
    ∃ request, sent e = some request ∧ request.clientOrderId.str = id ∧
      e.after.venue.accepted id = e.before.venue.accepted id + 1

namespace AtMostOnce

def Accepted (m : Instant) : Prop := ∀ id, m.world.venue.accepted id ≤ 1

def contract (env : Environment) : Contract effects Exc World where
  serve := Serve env
  assume e _ := HonestVenue e
  guard _ _ := True
  invariant := Accepted

/-- Where a create is about to be sent, none was accepted. -/
def means (pt : EnginePoint) (m : Instant) : Prop :=
  Accepted m ∧ ∀ request approval, pt.stage = .absent request approval →
    m.world.venue.accepted request.clientOrderId.str = 0

/-- No create is about to be sent. -/
def Rests : Stage → Prop
  | .absent .. => False
  | _ => True

/-- A request that is not a create accepts nothing. -/
theorem accepted_kept {e : Served} (honest : HonestVenue e) (other : sent e = none) (id : String) :
    e.after.venue.accepted id = e.before.venue.accepted id := by
  rcases honest.accepts id with same | ⟨request, create, _⟩
  · exact same
  · rw [other] at create
    cases create

section Steps

variable {m : Instant} {op : Op} {reply : Except Exc op.Reply} {after : World}

theorem Accepted.push (held : Accepted m) (honest : HonestVenue (m.event op reply after))
    (other : sent (m.event op reply after) = none) : Accepted (m.push op reply after) :=
  fun id => (accepted_kept honest other id).le.trans (held id)

theorem means_kept {pt : EnginePoint} (held : Accepted m) (honest : HonestVenue (m.event op reply after))
    (other : sent (m.event op reply after) = none) (rests : Rests pt.stage) : means pt (m.push op reply after) := by
  refine ⟨held.push honest other, fun request approval here => ?_⟩
  rw [here] at rests
  exact rests.elim

end Steps

theorem annotated (env : Environment) : Annotation (contract env) Edge means := by
  refine ⟨fun pt m held => held.1, ?_⟩
  rintro pt op next edge m ⟨held, none_yet⟩
  refine ⟨trivial, fun reply after _ honest => ?_⟩
  cases edge with
  | submitOrder ids request approval =>
      have rests : Rests (afterSubmit ids reply).stage :=
        afterSubmit_stage trivial (fun _ _ => trivial) fun _ _ _ _ => trivial
      refine ⟨fun id => ?_, fun request' approval' here => ?_⟩
      · rcases honest.accepts id with same | ⟨request', create, rfl, more⟩
        · exact same.le.trans (held id)
        · cases create
          exact (more.trans (congrArg (· + 1) (none_yet request approval rfl))).le
      · rw [here] at rests
        exact rests.elim
  | lookup ids request approval persisted created =>
      by_cases absent : reply = .ok none
      · subst absent
        refine ⟨held.push honest rfl, ?_⟩
        rintro _ _ ⟨⟩
        exact (accepted_kept honest rfl _).trans (honest.absent _ rfl)
      · exact means_kept held honest rfl (afterLookup_stage trivial (fun _ _ => trivial)
          (fun none_ => absurd none_ absent) fun _ _ _ => trivial)
  | reserve ids request approval own approved =>
      exact means_kept held honest rfl (afterReserve_stage trivial fun _ _ _ _ => trivial)
  | closeNeverSent ids order failure closedAt => exact means_kept held honest rfl trivial
  | saveFailed ids order => exact means_kept held honest rfl trivial
  | getFills ids order =>
      exact means_kept held honest rfl (afterFills_stage trivial (fun _ => trivial) fun _ _ => trivial)
  | addFills ids order fills =>
      exact means_kept held honest rfl (afterAddFills_stage trivial fun _ => trivial)
  | settle ids order fills enough => exact means_kept held honest rfl trivial
  | recover ids stage id asked =>
      exact means_kept held honest rfl (afterRecover_stage trivial fun _ _ => trivial)
  | get ids stage id => exact means_kept held honest rfl trivial
  | pending ids stage =>
      refine means_kept held honest rfl ?_
      rw [afterPending_stage]
      trivial
  | quiet pt op quiet =>
      have other : sent (m.event op reply after) = none := by
        cases quiet <;> rfl
      refine ⟨held.push honest other, fun request approval here => ?_⟩
      exact (accepted_kept honest other _).trans (none_yet request approval here)

end AtMostOnce

/-- **At most one accepted create for each id**, in every reachable state. -/
theorem acceptedOnce {env : Environment} {hooks : Hooks} {initial : World → Prop}
    (fresh : ∀ world, initial world → ∀ id, world.venue.accepted id = 0)
    {c : Config effects Exc World} (reached : (engineSystem env hooks initial).Reachable c)
    (honest : Along (fun e _ => HonestVenue e) c.moment.events) (id : String) :
    c.moment.world.venue.accepted id ≤ 1 := by
  refine (engineSystem_upheld (C := AtMostOnce.contract env) rfl (AtMostOnce.annotated env)
    (fun world start id => ?_) ?_ ?_ reached honest).1 id
  · have none_yet := fresh world start id
    simp only [none_yet]
    omega
  · intro call m held
    refine ⟨held, fun request approval here => ?_⟩
    cases call <;> cases here
  · rintro m world held ⟨_, _, _, venue⟩ id
    simp only [venue]
    exact held id

namespace AtMostOnce

/-- Every create is accepted, and every response to one is lost. -/
def lostResponse : Cast where
  broker
    | .getOrder id, m =>
        if m.world.venue.accepted id = 0 then .ok none
        else .error { kind := .provider, typeName := "ProviderError", message := "unavailable" }
    | .submitOrder request _, _ => .error
        { kind := .provider, typeName := "SubmissionTimeoutError"
          message := "simulated broker timed out"
          order := some (reportOf request .unknown ⟨0, decimal_zero⟩) }
    | .getFills _, _ => .ok []
  meanwhile
    | .broker (.submitOrder request _), m =>
        { m.world with venue := { m.world.venue with
            accepted := Function.update m.world.venue.accepted request.clientOrderId.str
              (m.world.venue.accepted request.clientOrderId.str + 1) } }
    | _, m => m.world

theorem lostResponse_honest (op : Op) (m : Instant) :
    HonestVenue (m.event op (lostResponse.script op m).1 (lostResponse.script op m).2) := by
  cases op with
  | store call => exact ⟨nofun, fun _ => .inl rfl⟩
  | audit call => exact ⟨nofun, fun _ => .inl rfl⟩
  | switch call => exact ⟨nofun, fun _ => .inl rfl⟩
  | host call => cases call <;> exact ⟨nofun, fun _ => .inl rfl⟩
  | broker call =>
      cases call with
      | getFills id => exact ⟨nofun, fun _ => .inl rfl⟩
      | getOrder id =>
          refine ⟨fun asked absent => ?_, fun _ => .inl rfl⟩
          by_cases nothing : m.world.venue.accepted id = 0
          · simp only [answered, Moment.event, Cast.script, lostResponse, nothing, if_true] at absent
            cases absent
            exact nothing
          · simp only [answered, Moment.event, Cast.script, lostResponse, nothing, if_false] at absent
            cases absent
      | submitOrder request approval =>
          refine ⟨nofun, fun id => ?_⟩
          simp only [Moment.event, Cast.script, lostResponse, sent, Function.update_apply]
          by_cases own : id = request.clientOrderId.str
          · exact .inr ⟨request, rfl, own.symm, by rw [if_pos own, own]⟩
          · exact .inl (if_neg own)

theorem lostResponse_still (op : Op) (m : Instant) :
    (lostResponse.meanwhile op m).store = m.world.store ∧
      (lostResponse.meanwhile op m).audit = m.world.audit ∧
        (lostResponse.meanwhile op m).memory = m.world.memory := by
  cases op with
  | broker call => cases call <;> simp only [lostResponse, and_self]
  | _ => exact ⟨rfl, rfl, rfl⟩

end AtMostOnce

open AtMostOnce in
theorem acceptedOnce_lostResponse :
    (submitOnce lostResponse).2.world.venue.accepted (⟨1⟩ : Uuid).str ≤ 1 := by
  have fresh : ∀ world, world = emptyWorld (.sqlAlchemy .empty) (.sqlAlchemy .empty .empty) →
      ∀ id, world.venue.accepted id = 0 := by
    rintro world rfl id
    simp only [emptyWorld]
  exact acceptedOnce fresh (submitOnce_reached lostResponse_still)
    (Prog.advance_along lostResponse_honest 12 trivial) _

end AlgoTrader.Execution
