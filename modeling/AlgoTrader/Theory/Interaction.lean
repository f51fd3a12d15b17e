/-
# Theory.Interaction -- programs that talk to services they cannot trust

A component of a larger system runs by issuing requests and waiting for replies.
Between a request and its reply anything can happen: the service refuses, the
answer is lost, another component moves, the process stops.  This module gives
such programs a syntax and two semantics.

* `Prog S ε α` -- a program over the requests of a signature `S`: it returns,
  raises, or waits on one request.  `attempt` is the `try` of the source language.
* `Prog.Runs` -- one complete run, with every event it caused.
* `System.Reachable` -- everything that can be observed of a system whose entry
  points are run one after another, each of them possibly abandoned at any
  request, with restarts in between.
* `Along` -- an assumption on each event, read against the events before it.
* `Prog.advance` -- a run against a service that is a function; where the
  function does only what the service may do, `Reachable.advance` and
  `Prog.play_runs` place the run among the ones above.
-/
import Mathlib.Logic.Relation

namespace AlgoTrader.Theory

set_option autoImplicit false

/-- The requests a program may issue, and the type of an ordinary reply to each. -/
structure Signature where
  Op : Type
  Reply : Op → Type

/-- A program over the requests of `S`, raising errors of type `ε`. -/
inductive Prog (S : Signature) (ε α : Type) : Type where
  | pure (value : α)
  | raise (error : ε)
  | request (op : S.Op) (next : Except ε (S.Reply op) → Prog S ε α)

variable {S : Signature} {ε W : Type}

namespace Prog

variable {α β : Type}

def bind : Prog S ε α → (α → Prog S ε β) → Prog S ε β
  | .pure value, f => f value
  | .raise error, _ => .raise error
  | .request op next, f => .request op fun reply => (next reply).bind f

instance : Monad (Prog S ε) where
  pure := .pure
  bind := bind

/-- Issue one request; an error reply is raised. -/
def call (op : S.Op) : Prog S ε (S.Reply op) :=
  .request op fun
    | .ok value => .pure value
    | .error error => .raise error

/-- Run `p` and hand over how it ended instead of raising. -/
def attempt : Prog S ε α → Prog S ε (Except ε α)
  | .pure value => .pure (.ok value)
  | .raise error => .pure (.error error)
  | .request op next => .request op fun reply => (next reply).attempt

/-- Run `p` only when `flag` is set. -/
def when (flag : Bool) (p : Prog S ε Unit) : Prog S ε Unit :=
  if flag then p else .pure ()

/-- Run one program for each element, in order, and collect the results. -/
def each (f : α → Prog S ε β) : List α → Prog S ε (List β)
  | [] => .pure []
  | x :: xs => (f x).bind fun y => (each f xs).bind fun ys => .pure (y :: ys)

/-- The request a program waits on. -/
def asks : Prog S ε α → Option S.Op
  | .request op _ => some op
  | _ => none

theorem request_of_asks {p : Prog S ε α} {op : S.Op} (waits : p.asks = some op) :
    ∃ next, p = .request op next := by
  cases p with
  | request op' next =>
      cases waits
      exact ⟨next, rfl⟩
  | pure value => cases waits
  | raise error => cases waits

/-- The same program, its result forgotten. -/
def discard (p : Prog S ε α) : Prog S ε Unit :=
  p.bind fun _ => .pure ()

end Prog

/-! ## Events, services and runs -/

/-- One served request: what was asked, what came back, and the world around it. -/
structure Event (S : Signature) (ε W : Type) where
  op : S.Op
  reply : Except ε (S.Reply op)
  before : W
  after : W

/-- What a service may do with a request: reply to it and leave another world. -/
abbrev Service (S : Signature) (ε W : Type) :=
  (op : S.Op) → W → Except ε (S.Reply op) → W → Prop

/-- A point of a run: the world there and the events so far, newest first. -/
structure Moment (S : Signature) (ε W : Type) where
  world : W
  events : List (Event S ε W)

namespace Moment

/-- The next event of a run that stands at `m`. -/
def event (m : Moment S ε W) (op : S.Op) (reply : Except ε (S.Reply op)) (after : W) :
    Event S ε W := ⟨op, reply, m.world, after⟩

/-- The moment right after an event. -/
def push (m : Moment S ε W) (op : S.Op) (reply : Except ε (S.Reply op)) (after : W) :
    Moment S ε W := ⟨after, m.event op reply after :: m.events⟩

variable (m : Moment S ε W) (op : S.Op) (reply : Except ε (S.Reply op)) (after : W)

@[simp] theorem push_world : (m.push op reply after).world = after := rfl

@[simp] theorem push_events :
    (m.push op reply after).events = ⟨op, reply, m.world, after⟩ :: m.events := rfl

end Moment

/-- An assumption about every event of a run, each read against the events before it. -/
def Along (assume : Event S ε W → List (Event S ε W) → Prop) : List (Event S ε W) → Prop
  | [] => True
  | e :: earlier => assume e earlier ∧ Along assume earlier

theorem along_of_forall {assume : Event S ε W → Prop} {events : List (Event S ε W)}
    (each : ∀ e ∈ events, assume e) : Along (fun e _ => assume e) events := by
  induction events with
  | nil => trivial
  | cons e earlier ih =>
      exact ⟨each e (List.mem_cons_self ..), ih fun e' member => each e' (List.mem_cons_of_mem _ member)⟩

instance alongDecidable {assume : Event S ε W → List (Event S ε W) → Prop}
    [∀ e earlier, Decidable (assume e earlier)] :
    (events : List (Event S ε W)) → Decidable (Along assume events)
  | [] => .isTrue trivial
  | e :: earlier =>
      have rest : Decidable (Along assume earlier) := alongDecidable earlier
      @instDecidableAnd _ _ (inferInstance : Decidable (assume e earlier)) rest

/-- One complete run of a program, from one moment to another. -/
inductive Prog.Runs (serve : Service S ε W) {α : Type} :
    Prog S ε α → Moment S ε W → Except ε α → Moment S ε W → Prop
  | pure (value : α) (m : Moment S ε W) : Runs serve (.pure value) m (.ok value) m
  | raise (error : ε) (m : Moment S ε W) : Runs serve (.raise error) m (.error error) m
  | request {op : S.Op} {next : Except ε (S.Reply op) → Prog S ε α} {m final : Moment S ε W}
      {reply : Except ε (S.Reply op)} {after : W} {result : Except ε α}
      (served : serve op m.world reply after)
      (rest : Runs serve (next reply) (m.push op reply after) result final) :
      Runs serve (.request op next) m result final

/-- A run whose first request is answered. -/
theorem Prog.Runs.answered {serve : Service S ε W} {α : Type} {op : S.Op}
    {f : S.Reply op → Prog S ε α} {m final : Moment S ε W} {result : Except ε α}
    (value : S.Reply op) (after : W) (served : serve op m.world (.ok value) after)
    (rest : (f value).Runs serve (m.push op (.ok value) after) result final) :
    (Prog.call op >>= f).Runs serve m result final :=
  .request served rest

/-- Entry points run one at a time over a shared world. -/
structure System (S : Signature) (ε W : Type) where
  Entry : Type
  program : Entry → Prog S ε Unit
  serve : Service S ε W
  /-- What is left of the world when the process stops and starts again. -/
  restart : W → W → Prop
  initial : W → Prop

/-- What can be observed of a system: the moment, and the program under way. -/
structure Config (S : Signature) (ε W : Type) where
  moment : Moment S ε W
  running : Option (Prog S ε Unit)

namespace System

variable (sys : System S ε W)

/-- One step of the system.  A program may be abandoned at any point, because the
process stops (`restart`) or because its caller goes away (`abandon`). -/
inductive Step : Config S ε W → Config S ε W → Prop
  | start (m : Moment S ε W) (entry : sys.Entry) :
      Step ⟨m, none⟩ ⟨m, some (sys.program entry)⟩
  | serve {op : S.Op} {next : Except ε (S.Reply op) → Prog S ε Unit} {m : Moment S ε W}
      {reply : Except ε (S.Reply op)} {after : W}
      (served : sys.serve op m.world reply after) :
      Step ⟨m, some (.request op next)⟩ ⟨m.push op reply after, some (next reply)⟩
  | abandon (m : Moment S ε W) (p : Prog S ε Unit) : Step ⟨m, some p⟩ ⟨m, none⟩
  | restart {m : Moment S ε W} {world : W} (p : Option (Prog S ε Unit))
      (restarted : sys.restart m.world world) : Step ⟨m, p⟩ ⟨⟨world, m.events⟩, none⟩

/-- The configurations of all runs of the system. -/
inductive Reachable : Config S ε W → Prop
  | init {world : W} (initial : sys.initial world) : Reachable ⟨⟨world, []⟩, none⟩
  | step {c c' : Config S ε W} (reached : Reachable c) (step : sys.Step c c') : Reachable c'

theorem Reachable.started {sys : System S ε W} {world : W} (initial : sys.initial world)
    (entry : sys.Entry) : sys.Reachable ⟨⟨world, []⟩, some (sys.program entry)⟩ :=
  .step (.init initial) (.start _ entry)

end System

/-! ## Running against a function -/

/-- A service that answers each request in one way, knowing what happened before. -/
abbrev Script (S : Signature) (ε W : Type) :=
  (op : S.Op) → Moment S ε W → Except ε (S.Reply op) × W

/-- Everything the script does is something the service may do. -/
def Script.Sound (script : Script S ε W) (serve : Service S ε W) : Prop :=
  ∀ op m, serve op m.world (script op m).1 (script op m).2

namespace Prog

variable {α : Type} (script : Script S ε W)

/-- The program and the moment after at most `n` requests. -/
def advance : Nat → Prog S ε α → Moment S ε W → Prog S ε α × Moment S ε W
  | n + 1, .request op next, m =>
      advance n (next (script op m).1) (m.push op (script op m).1 (script op m).2)
  | _, p, m => (p, m)

/-- Run to the end. -/
def play : Prog S ε α → Moment S ε W → Except ε α × Moment S ε W
  | .pure value, m => (.ok value, m)
  | .raise error, m => (.error error, m)
  | .request op next, m =>
      (next (script op m).1).play (m.push op (script op m).1 (script op m).2)

variable {script} {β : Type}

@[simp] theorem play_pure (value : α) (m : Moment S ε W) :
    (Pure.pure value : Prog S ε α).play script m = (.ok value, m) := rfl

theorem play_bind (p : Prog S ε α) (f : α → Prog S ε β) (m : Moment S ε W) :
    (p >>= f).play script m = match p.play script m with
      | (.ok value, m') => (f value).play script m'
      | (.error error, m') => (.error error, m') := by
  show (p.bind f).play script m = _
  induction p generalizing m with
  | pure value => rfl
  | raise error => rfl
  | request op next ih => exact ih _ _

theorem play_attempt (p : Prog S ε α) (m : Moment S ε W) :
    p.attempt.play script m = (.ok (p.play script m).1, (p.play script m).2) := by
  induction p generalizing m with
  | pure value => rfl
  | raise error => rfl
  | request op next ih => exact ih _ _

theorem play_call (op : S.Op) (m : Moment S ε W) :
    (call op).play script m = ((script op m).1, m.push op (script op m).1 (script op m).2) := by
  show (match (script op m).1 with | .ok value => .pure value | .error error => .raise error :
    Prog S ε (S.Reply op)).play script _ = _
  cases (script op m).1 <;> rfl

/-- What the script keeps to at every request holds along its runs. -/
theorem advance_along {assume : Event S ε W → List (Event S ε W) → Prop}
    (kept : ∀ (op : S.Op) (m : Moment S ε W),
      assume (m.event op (script op m).1 (script op m).2) m.events) (n : Nat)
    {p : Prog S ε α} {m : Moment S ε W} (before : Along assume m.events) :
    Along assume (p.advance script n m).2.events := by
  induction n generalizing p m with
  | zero => exact before
  | succ n ih =>
      cases p with
      | pure value => exact before
      | raise error => exact before
      | request op next => exact ih ⟨kept op m, before⟩

/-- What every step of the script keeps of the world holds wherever the run asks. -/
theorem play_always (always : W → Prop)
    (kept : ∀ (op : S.Op) (m : Moment S ε W), always m.world → always (script op m).2)
    (p : Prog S ε α) {m : Moment S ε W} (start : always m.world)
    (before : ∀ e ∈ m.events, always e.before) :
    ∀ e ∈ (p.play script m).2.events, always e.before := by
  induction p generalizing m with
  | pure value => exact before
  | raise error => exact before
  | request op next ih =>
      refine ih _ (kept op m start) ?_
      rintro e (_ | ⟨_, member⟩)
      · exact start
      · exact before e member

theorem play_along {assume : Event S ε W → List (Event S ε W) → Prop}
    (kept : ∀ (op : S.Op) (m : Moment S ε W),
      assume (m.event op (script op m).1 (script op m).2) m.events)
    (p : Prog S ε α) {m : Moment S ε W} (before : Along assume m.events) :
    Along assume (p.play script m).2.events := by
  induction p generalizing m with
  | pure value => exact before
  | raise error => exact before
  | request op next ih => exact ih _ ⟨kept op m, before⟩

theorem play_runs {serve : Service S ε W} (sound : script.Sound serve) (p : Prog S ε α)
    (m : Moment S ε W) : p.Runs serve m (p.play script m).1 (p.play script m).2 := by
  induction p generalizing m with
  | pure value => exact .pure value m
  | raise error => exact .raise error m
  | request op next ih => exact .request (sound op m) (ih _ _)

-- Runs of long programs are reasoned about by the lemmas above, not by computing them.
attribute [irreducible] play

end Prog

/-- Calls one after another, each for at most so many requests and then abandoned. -/
def System.rehearse (sys : System S ε W) (script : Script S ε W) :
    List (sys.Entry × Nat) → Moment S ε W → Moment S ε W
  | [], m => m
  | (entry, n) :: rest, m => rehearse sys script rest ((sys.program entry).advance script n m).2

theorem System.Reachable.advance {sys : System S ε W} {script : Script S ε W}
    (sound : script.Sound sys.serve) (n : Nat) {p : Prog S ε Unit} {m : Moment S ε W}
    (reached : sys.Reachable ⟨m, some p⟩) :
    sys.Reachable ⟨(p.advance script n m).2, some (p.advance script n m).1⟩ := by
  induction n generalizing p m with
  | zero => exact reached
  | succ n ih =>
      cases p with
      | pure value => exact reached
      | raise error => exact reached
      | request op next => exact ih (.step reached (.serve (sound op m)))

section Rehearsed

variable {sys : System S ε W} {script : Script S ε W}

theorem System.rehearse_reachable (sound : script.Sound sys.serve)
    (calls : List (sys.Entry × Nat)) {m : Moment S ε W} (reached : sys.Reachable ⟨m, none⟩) :
    sys.Reachable ⟨sys.rehearse script calls m, none⟩ := by
  induction calls generalizing m with
  | nil => exact reached
  | cons call rest ih =>
      have started : sys.Reachable ⟨m, some (sys.program call.1)⟩ := .step reached (.start m call.1)
      exact ih (.step (started.advance sound call.2) (.abandon _ _))

theorem System.rehearse_along (sys : System S ε W) {assume : Event S ε W → List (Event S ε W) → Prop}
    (kept : ∀ (op : S.Op) (m : Moment S ε W),
      assume (m.event op (script op m).1 (script op m).2) m.events)
    (calls : List (sys.Entry × Nat)) {m : Moment S ε W} (before : Along assume m.events) :
    Along assume (sys.rehearse script calls m).events := by
  induction calls generalizing m with
  | nil => exact before
  | cons call rest ih => exact ih (Prog.advance_along kept call.2 before)

attribute [irreducible] System.rehearse

end Rehearsed

end AlgoTrader.Theory
