/-
# Theory.Parts -- a component inside a larger system

A component is verified over its own requests, from a run without events on.  A larger
system issues the component's requests among others: its program runs the component's, and
the events of the component are the system's newest when it is done.

* `Prog.within` -- the component's program over the requests of the system;
* `wp_within_events` -- what is proved of the component holds of it inside the system;
* `Prog.Runs.latest` -- a run stands in the world its newest event left.
-/
import AlgoTrader.Theory.Logic

namespace AlgoTrader.Theory

set_option autoImplicit false

variable {S T : Signature} {ε W : Type}

/-- The requests of a component among those of a system. -/
structure Part (S T : Signature) where
  op : S.Op → T.Op
  reply : {o : S.Op} → T.Reply (op o) → S.Reply o

namespace Prog

variable {α : Type}

def within (part : Part S T) : Prog S ε α → Prog T ε α
  | .pure value => .pure value
  | .raise error => .raise error
  | .request op next => .request (part.op op) fun reply =>
      (next (reply.map part.reply)).within part

end Prog

/-- The obligations of a component under the logic of the system. -/
def Logic.part {σ : Type} (part : Part S T) (L : Logic T ε σ) : Logic S ε σ where
  handle op s post := L.handle (part.op op) s fun reply s' => post (reply.map part.reply) s'
  mono handled implies := L.mono handled fun _ _ replied => implies _ _ replied

theorem wp_within {σ α : Type} {part : Part S T} {L : Logic T ε σ}
    {post : Except ε α → σ → Prop} {p : Prog S ε α} {s : σ} :
    wp L post (p.within part) s ↔ wp (L.part part) post p s := by
  induction p generalizing s with
  | pure value => exact Iff.rfl
  | raise error => exact Iff.rfl
  | request op next ih =>
      constructor
      · intro obligation
        exact L.mono obligation fun reply s' rest => (ih _).1 rest
      · intro obligation
        exact L.mono obligation fun reply s' rest => (ih _).2 rest

/-! ## The component's events -/

/-- The system stands where the component does, and has its events on top of the earlier ones. -/
structure Carries (embed : Event S ε W → Event T ε W) (earlier : List (Event T ε W))
    (m : Moment S ε W) (M : Moment T ε W) : Prop where
  world : M.world = m.world
  events : M.events = m.events.map embed ++ earlier

theorem wp_within_events {part : Part S T} {inner : Service S ε W} {outer : Service T ε W}
    {assume : Event S ε W → Prop} {assume' : Event T ε W → Prop} (embed : Event S ε W → Event T ε W)
    (embeds : ∀ o (reply : Except ε (T.Reply (part.op o))) before after,
      embed ⟨o, reply.map part.reply, before, after⟩ = ⟨part.op o, reply, before, after⟩)
    (serves : ∀ o w (reply : Except ε (T.Reply (part.op o))) w', outer (part.op o) w reply w' →
      inner o w (reply.map part.reply) w')
    (assumes : ∀ e, assume' (embed e) → assume e) {α : Type}
    {post : Except ε α → Moment S ε W → Prop} {p : Prog S ε α} (M : Moment T ε W)
    (obligation : wp (Contract.plain inner assume).logic post p ⟨M.world, []⟩) :
    wp (Contract.plain outer assume').logic
      (fun result M' => ∃ m, post result m ∧ Carries embed M.events m M') (p.within part) M := by
  refine wp_within.2 (wp_refine (Carries embed M.events) ?_
    (fun _ m _ ended carries => ⟨m, ended, carries⟩) ⟨rfl, rfl⟩ obligation)
  intro op m M₁ k k' carries handled go
  refine ⟨trivial, fun reply after served assumed => ⟨trivial, ?_⟩⟩
  have here : embed (m.event op (reply.map part.reply) after) = M₁.event (part.op op) reply after := by
    rw [Moment.event, embeds, ← carries.world]
    rfl
  have served' : inner op m.world (reply.map part.reply) after := by
    rw [← carries.world]
    exact serves op _ reply after served
  refine go (reply.map part.reply) (m.push op (reply.map part.reply) after)
    (M₁.push (part.op op) reply after) (handled.2 _ after served' (assumes _ ?_)).2 ⟨rfl, ?_⟩
  · rw [here]
    exact assumed
  · show _ :: M₁.events = embed _ :: (m.events.map embed ++ M.events)
    rw [carries.events]
    exact congrArg (· :: _) here.symm

/-! ## The newest event -/

/-- The world is the one the newest event left. -/
def Moment.Latest (m : Moment S ε W) : Prop := ∀ e ∈ m.events.head?, e.after = m.world

theorem Moment.latest_push (m : Moment S ε W) (op : S.Op) (reply : Except ε (S.Reply op)) (after : W) :
    (m.push op reply after).Latest := by
  rintro e ⟨⟩
  rfl

theorem Prog.Runs.latest {serve : Service S ε W} {α : Type} {p : Prog S ε α} {m final : Moment S ε W}
    {result : Except ε α} (run : p.Runs serve m result final) (latest : m.Latest) : final.Latest := by
  induction run with
  | pure value m => exact latest
  | raise error m => exact latest
  | request served rest ih => exact ih (Moment.latest_push _ _ _ _)

end AlgoTrader.Theory
