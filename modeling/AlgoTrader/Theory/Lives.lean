/-
# Theory.Lives -- calls one after another, crashes between and inside them

A component that only one caller is inside at a time lives through calls that come
to their ends and calls that are cut short by a crash, after which it starts again
from what a restart reads back.

* `Prog.Reaches` -- a run that has come so far and no further;
* `wp_reaches` -- what is left of an obligation there, and what every step up to
  there kept (`reaches_invariant`);
* `Lives` -- the worlds between the calls, with every event of the calls so far;
* `Lives.invariant` -- what each call and each crash keeps holds between any two.
-/
import AlgoTrader.Theory.Logic

namespace AlgoTrader.Theory

set_option autoImplicit false

variable {S : Signature} {ε W : Type}

theorem forall_of_along {assume : Event S ε W → Prop} {events : List (Event S ε W)}
    (along : Along (fun e _ => assume e) events) : ∀ e ∈ events, assume e := by
  induction events with
  | nil =>
      intro e member
      cases member
  | cons latest earlier ih =>
      intro e member
      rcases List.mem_cons.1 member with rfl | older
      · exact along.1
      · exact ih along.2 e older

/-- A run of `p` from `m` that has come to `p'` at `m'`. -/
inductive Prog.Reaches (serve : Service S ε W) {α : Type} :
    Prog S ε α → Moment S ε W → Prog S ε α → Moment S ε W → Prop
  | here (p : Prog S ε α) (m : Moment S ε W) : Reaches serve p m p m
  | request {op : S.Op} {next : Except ε (S.Reply op) → Prog S ε α} {m m' : Moment S ε W}
      {reply : Except ε (S.Reply op)} {after : W} {p' : Prog S ε α}
      (served : serve op m.world reply after)
      (rest : Reaches serve (next reply) (m.push op reply after) p' m') :
      Reaches serve (.request op next) m p' m'

section Reaches

variable {serve : Service S ε W} {α : Type} {p p' : Prog S ε α} {m m' : Moment S ε W}

theorem Prog.Reaches.older {assume : Event S ε W → List (Event S ε W) → Prop}
    (reached : p.Reaches serve m p' m') (assumed : Along assume m'.events) :
    Along assume m.events := by
  induction reached with
  | here p m => exact assumed
  | request served rest ih => exact (ih assumed).2

theorem Prog.Reaches.trans {p'' : Prog S ε α} {m'' : Moment S ε W}
    (first : p.Reaches serve m p' m') (rest : p'.Reaches serve m' p'' m'') :
    p.Reaches serve m p'' m'' := by
  induction first with
  | here p m => exact rest
  | request served _ ih => exact .request served (ih rest)

/-- A complete run has come through every point of it. -/
theorem Prog.Runs.reaches {result : Except ε α} {final : Moment S ε W}
    (run : p.Runs serve m result final) : ∃ p', p.Reaches serve m p' final := by
  induction run with
  | pure value m => exact ⟨_, .here _ m⟩
  | raise error m => exact ⟨_, .here _ m⟩
  | request served rest ih =>
      obtain ⟨p', reached⟩ := ih
      exact ⟨p', .request served reached⟩

/-- A script that keeps to the service takes a run to where the service may take it. -/
theorem Prog.advance_reaches {script : Script S ε W} (sound : script.Sound serve) (n : Nat) :
    p.Reaches serve m (p.advance script n m).1 (p.advance script n m).2 := by
  induction n generalizing p m with
  | zero => exact .here p m
  | succ n ih =>
      cases p with
      | pure value => exact .here _ m
      | raise error => exact .here _ m
      | request op next => exact .request (sound op m) ih

variable {C : Contract S ε W}

/-- What is left of an obligation where a run has come to. -/
theorem wp_reaches {post : Except ε α → Moment S ε W → Prop}
    (reached : p.Reaches C.serve m p' m') (assumed : Along C.assume m'.events)
    (obligation : wp C.logic post p m) : wp C.logic post p' m' := by
  induction reached with
  | here p m => exact obligation
  | request served rest ih =>
      exact ih assumed (obligation.2 _ _ served (rest.older assumed).1).2

/-- What every guarded step keeps holds wherever a run has come to. -/
theorem reaches_invariant (inv : Moment S ε W → Prop)
    (kept : ∀ op m reply after, inv m → C.guard op m → C.serve op m.world reply after →
      C.assume (m.event op reply after) m.events → inv (m.push op reply after))
    {post : Except ε α → Moment S ε W → Prop} (reached : p.Reaches C.serve m p' m')
    (assumed : Along C.assume m'.events) (obligation : wp C.logic post p m) (start : inv m) :
    inv m' := by
  induction reached with
  | here p m => exact start
  | request served rest ih =>
      have here := (rest.older assumed).1
      have next := kept _ _ _ _ start obligation.1 served here
      exact ih assumed (obligation.2 _ _ served here).2 next

end Reaches

/-! ## Lives -/

/-- Entry points run one after another, each to its end, or cut short and started again. -/
structure Component (S : Signature) (ε W : Type) where
  Entry : Type
  program : Entry → Prog S ε Unit
  serve : Service S ε W
  /-- What is assumed of every event. -/
  assume : Event S ε W → Prop
  /-- What is assumed besides of the events of a call that came to its end. -/
  finished : Event S ε W → Prop
  restart : W → W → Prop

variable {K : Component S ε W}

/-- From `start` the component has come to a world between two calls, through these
events, newest first. -/
inductive Component.Lives (K : Component S ε W) (start : W) : List (Event S ε W) → W → Prop
  | start : Lives K start [] start
  | call {earlier : List (Event S ε W)} {world : W} (lived : Lives K start earlier world)
      (entry : K.Entry) {result : Except ε Unit} {final : Moment S ε W}
      (run : (K.program entry).Runs K.serve ⟨world, []⟩ result final)
      (assumed : ∀ e ∈ final.events, K.assume e) (finished : ∀ e ∈ final.events, K.finished e) :
      Lives K start (final.events ++ earlier) final.world
  | crash {earlier : List (Event S ε W)} {world world' : W} (lived : Lives K start earlier world)
      (entry : K.Entry) {p' : Prog S ε Unit} {m : Moment S ε W}
      (reached : (K.program entry).Reaches K.serve ⟨world, []⟩ p' m)
      (assumed : ∀ e ∈ m.events, K.assume e) (restarted : K.restart m.world world') :
      Lives K start (m.events ++ earlier) world'

/-- What holds at the start and is kept by every call and every crash. -/
theorem Component.Lives.invariant (inv : List (Event S ε W) → W → Prop) {start : W}
    (initially : inv [] start)
    (calls : ∀ {earlier world entry result final}, inv earlier world →
      (K.program entry).Runs K.serve ⟨world, []⟩ result final →
      (∀ e ∈ final.events, K.assume e) → (∀ e ∈ final.events, K.finished e) →
      inv (final.events ++ earlier) final.world)
    (crashes : ∀ {earlier world entry p' m world'}, inv earlier world →
      (K.program entry).Reaches K.serve ⟨world, []⟩ p' m → (∀ e ∈ m.events, K.assume e) →
      K.restart m.world world' → inv (m.events ++ earlier) world')
    {events : List (Event S ε W)} {world : W} (lived : K.Lives start events world) :
    inv events world := by
  induction lived with
  | start => exact initially
  | call _ entry run assumed finished ih => exact calls ih run assumed finished
  | crash _ entry reached assumed restarted ih => exact crashes ih reached assumed restarted

end AlgoTrader.Theory
