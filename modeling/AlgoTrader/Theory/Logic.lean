/-
# Theory.Logic -- obligations of interacting programs

A program logic says, for each request and each state it may be issued in, what
must hold of every reply (`Logic.handle`).  The obligation of a whole program
follows from its shape alone, so the rules are proved once for every logic:
`wp_mono`, `wp_bind`, `wp_attempt`, `wp_call`, `wp_each`.

Three logics are used:

* `Logic.only` -- the program issues no other requests than these;
* `Logic.flow` -- the program follows an automaton: at each point it may issue
  some requests, and each reply leads to the next point;
* `Contract.logic` -- the program runs in a world: a request is issued only when
  its guard holds, and every event that may follow keeps the invariant.

`wp_refine` carries an obligation from one logic to another.  A program is
followed through its automaton once; a property of its runs is then an
annotation of the automaton's points (`Annotation`), checked edge by edge.

* `wp_runs`, `System.sound` -- what an obligation under a contract gives, for a
  complete run and for every reachable configuration of a system.
-/
import AlgoTrader.Theory.Interaction

namespace AlgoTrader.Theory

set_option autoImplicit false

/-- What must hold of every reply to a request, for the program to go on from `σ`. -/
structure Logic (S : Signature) (ε σ : Type) where
  handle : (op : S.Op) → σ → (Except ε (S.Reply op) → σ → Prop) → Prop
  mono : ∀ {op s} {post weaker : Except ε (S.Reply op) → σ → Prop},
    handle op s post → (∀ reply s', post reply s' → weaker reply s') → handle op s weaker

variable {S : Signature} {ε σ τ : Type}

/-- The obligation of a program from the state `s` on. -/
def wp (L : Logic S ε σ) {α : Type} (post : Except ε α → σ → Prop) : Prog S ε α → σ → Prop
  | .pure value, s => post (.ok value) s
  | .raise error, s => post (.error error) s
  | .request op next, s => L.handle op s fun reply s' => wp L post (next reply) s'

section Rules

variable {L : Logic S ε σ} {α β : Type}

theorem wp_mono {post weaker : Except ε α → σ → Prop} {p : Prog S ε α} {s : σ}
    (obligation : wp L post p s) (implies : ∀ result s, post result s → weaker result s) :
    wp L weaker p s := by
  induction p generalizing s with
  | pure value => exact implies _ _ obligation
  | raise error => exact implies _ _ obligation
  | request op next ih => exact L.mono obligation fun reply s' rest => ih reply rest

@[simp] theorem wp_pure {post : Except ε α → σ → Prop} (value : α) (s : σ) :
    wp L post (.pure value) s ↔ post (.ok value) s := Iff.rfl

@[simp] theorem wp_pure' {post : Except ε α → σ → Prop} (value : α) (s : σ) :
    wp L post (Pure.pure value : Prog S ε α) s ↔ post (.ok value) s := Iff.rfl

@[simp] theorem wp_raise {post : Except ε α → σ → Prop} (error : ε) (s : σ) :
    wp L post (.raise error) s ↔ post (.error error) s := Iff.rfl

/-- What is left to do after the first part of a sequence: the rest, or the error. -/
def andThen (L : Logic S ε σ) (f : α → Prog S ε β) (post : Except ε β → σ → Prop) :
    Except ε α → σ → Prop
  | .ok value, s => wp L post (f value) s
  | .error error, s => post (.error error) s

theorem wp_bind {post : Except ε β → σ → Prop} {p : Prog S ε α} {f : α → Prog S ε β} {s : σ} :
    wp L post (p >>= f) s ↔ wp L (andThen L f post) p s := by
  show wp L post (p.bind f) s ↔ _
  induction p generalizing s with
  | pure value => exact Iff.rfl
  | raise error => exact Iff.rfl
  | request op next ih =>
      constructor
      · intro obligation
        exact L.mono obligation fun reply s' rest => (ih reply).1 rest
      · intro obligation
        exact L.mono obligation fun reply s' rest => (ih reply).2 rest

theorem wp_attempt {post : Except ε (Except ε α) → σ → Prop} {p : Prog S ε α} {s : σ} :
    wp L post p.attempt s ↔ wp L (fun result => post (.ok result)) p s := by
  induction p generalizing s with
  | pure value => exact Iff.rfl
  | raise error => exact Iff.rfl
  | request op next ih =>
      constructor
      · intro obligation
        exact L.mono obligation fun reply s' rest => (ih reply).1 rest
      · intro obligation
        exact L.mono obligation fun reply s' rest => (ih reply).2 rest

theorem wp_call {op : S.Op} {post : Except ε (S.Reply op) → σ → Prop} {s : σ} :
    wp L post (Prog.call op) s ↔ L.handle op s post := by
  constructor
  · intro obligation
    refine L.mono obligation fun reply s' replied => ?_
    cases reply <;> exact replied
  · intro handled
    refine L.mono handled fun reply s' replied => ?_
    cases reply <;> exact replied

theorem wp_when {flag : Bool} {post : Except ε Unit → σ → Prop} {p : Prog S ε Unit} {s : σ}
    (on : flag = true → wp L post p s) (off : flag = false → post (.ok ()) s) :
    wp L post (Prog.when flag p) s := by
  cases flag with
  | true => exact on rfl
  | false => exact off rfl

theorem wp_discard {post : σ → Prop} {p : Prog S ε α} {s : σ}
    (obligation : wp L (fun _ => post) p s) : wp L (fun _ => post) p.discard s := by
  refine (wp_bind (p := p) (f := fun _ => .pure ())).2 (wp_mono obligation ?_)
  intro result s' held
  cases result <;> exact held

/-- A loop over a list: an invariant of the loop body carries through it. -/
theorem wp_each (inv : σ → Prop) {f : α → Prog S ε β} (xs : List α)
    (body : ∀ x ∈ xs, ∀ s, inv s → wp L (fun _ => inv) (f x) s) {s : σ} (start : inv s) :
    wp L (fun _ => inv) (Prog.each f xs) s := by
  induction xs generalizing s with
  | nil => exact start
  | cons x xs ih =>
      have rest : ∀ y ∈ xs, ∀ s, inv s → wp L (fun _ => inv) (f y) s :=
        fun y member => body y (List.mem_cons_of_mem _ member)
      refine (wp_bind (p := f x)).2 (wp_mono (body x (List.mem_cons_self ..) s start) ?_)
      intro result s' held
      cases result with
      | error error => exact held
      | ok y =>
          refine (wp_bind (p := Prog.each f xs)).2 (wp_mono (ih rest held) ?_)
          intro result s'' held'
          cases result <;> exact held'

/-- An obligation under one logic is an obligation under another, when every
request the first allows is one the second allows in every related state. -/
theorem wp_refine {M : Logic S ε τ} (R : σ → τ → Prop)
    (sim : ∀ {op s t} {k : Except ε (S.Reply op) → σ → Prop} {k' : Except ε (S.Reply op) → τ → Prop},
      R s t → L.handle op s k → (∀ reply s' t', k reply s' → R s' t' → k' reply t') →
      M.handle op t k')
    {post : Except ε α → σ → Prop} {post' : Except ε α → τ → Prop}
    (implies : ∀ result s t, post result s → R s t → post' result t)
    {p : Prog S ε α} {s : σ} {t : τ} (related : R s t) (obligation : wp L post p s) :
    wp M post' p t := by
  induction p generalizing s t with
  | pure value => exact implies _ _ _ obligation related
  | raise error => exact implies _ _ _ obligation related
  | request op next ih =>
      exact sim related obligation fun reply s' t' rest still => ih reply still rest

end Rules

/-! ## Programs that issue only some requests -/

def Logic.only (allowed : S.Op → Prop) : Logic S ε Unit where
  handle op _ post := allowed op ∧ ∀ reply, post reply ()
  mono handled implies := ⟨handled.1, fun reply => implies reply () (handled.2 reply)⟩

/-- The program issues only the requests in `allowed`. -/
def Issues (allowed : S.Op → Prop) {α : Type} (p : Prog S ε α) : Prop :=
  wp (Logic.only allowed) (fun _ _ => True) p ()

section Issues

variable {allowed : S.Op → Prop} {α β : Type}

theorem issues_pure (value : α) : Issues allowed (Pure.pure value : Prog S ε α) := trivial

theorem issues_raise (error : ε) : Issues allowed (.raise error : Prog S ε α) := trivial

theorem issues_call {op : S.Op} (member : allowed op) :
    Issues allowed (Prog.call op : Prog S ε (S.Reply op)) :=
  wp_call.2 ⟨member, fun _ => trivial⟩

theorem issues_bind {p : Prog S ε α} {f : α → Prog S ε β} (first : Issues allowed p)
    (rest : ∀ value, Issues allowed (f value)) : Issues allowed (p >>= f) :=
  wp_bind.2 (wp_mono first fun result _ _ => by
    cases result with
    | ok value => exact rest value
    | error error => exact trivial)

theorem issues_attempt {p : Prog S ε α} (inside : Issues allowed p) : Issues allowed p.attempt :=
  wp_attempt.2 inside

theorem issues_when {flag : Bool} {p : Prog S ε Unit} (inside : flag = true → Issues allowed p) :
    Issues allowed (Prog.when flag p) :=
  wp_when inside fun _ => trivial

end Issues

/-! ## Programs that follow an automaton -/

/-- The edges of an automaton: where a request may be issued, and where each reply leads. -/
abbrev Flow (S : Signature) (ε P : Type) :=
  P → (op : S.Op) → (Except ε (S.Reply op) → P) → Prop

def Logic.flow {P : Type} (edge : Flow S ε P) : Logic S ε P where
  handle op pt post := ∃ next, edge pt op next ∧ ∀ reply, post reply (next reply)
  mono handled implies := by
    obtain ⟨next, taken, held⟩ := handled
    exact ⟨next, taken, fun reply => implies _ _ (held reply)⟩

section Flow

variable {P Q : Type} {edge : Flow S ε P} {α : Type}

/-- A program that issues only what is allowed without moving stays where it is. -/
theorem wp_stays {allowed : S.Op → Prop} {pt : P} {p : Prog S ε α}
    (idle : ∀ op, allowed op → edge pt op fun _ => pt) (issues : Issues allowed p) :
    wp (Logic.flow edge) (fun _ pt' => pt' = pt) p pt := by
  refine wp_refine (fun _ pt' => pt' = pt) ?_ (fun _ _ _ _ still => still) rfl issues
  rintro op s t k k' rfl handled go
  exact ⟨fun _ => t, idle op handled.1, fun reply => go reply () t (handled.2 reply) rfl⟩

/-- An automaton embedded in another. -/
theorem wp_embed {edge' : Flow S ε Q} (into : P → Q)
    (edges : ∀ pt op next, edge pt op next → edge' (into pt) op fun reply => into (next reply))
    {post : Except ε α → P → Prop} {post' : Except ε α → Q → Prop}
    (implies : ∀ result pt, post result pt → post' result (into pt))
    {p : Prog S ε α} {pt : P} (obligation : wp (Logic.flow edge) post p pt) :
    wp (Logic.flow edge') post' p (into pt) := by
  refine wp_refine (fun pt q => q = into pt) ?_ ?_ rfl obligation
  · rintro op pt q k k' rfl ⟨next, taken, held⟩ go
    exact ⟨_, edges _ _ _ taken, fun reply => go reply (next reply) _ (held reply) rfl⟩
  · rintro result pt q held rfl
    exact implies result pt held

end Flow

/-! ## Contracts -/

/-- What a program is verified against: the service, an assumption on its events,
when each request may be issued, and what every event has to keep. -/
structure Contract (S : Signature) (ε W : Type) where
  serve : Service S ε W
  assume : Event S ε W → List (Event S ε W) → Prop
  guard : S.Op → Moment S ε W → Prop
  invariant : Moment S ε W → Prop

variable {W : Type}

def Contract.logic (C : Contract S ε W) : Logic S ε (Moment S ε W) where
  handle op m post :=
    C.guard op m ∧ ∀ reply after, C.serve op m.world reply after →
      C.assume (m.event op reply after) m.events →
      C.invariant (m.push op reply after) ∧ post reply (m.push op reply after)
  mono handled implies := ⟨handled.1, fun reply after served assumed =>
    have kept := handled.2 reply after served assumed
    ⟨kept.1, implies _ _ kept.2⟩⟩

/-- A meaning for each point of an automaton, kept by every edge. -/
structure Annotation (C : Contract S ε W) {P : Type} (edge : Flow S ε P)
    (means : P → Moment S ε W → Prop) : Prop where
  leave : ∀ pt m, means pt m → C.invariant m
  step : ∀ pt op next, edge pt op next → ∀ m, means pt m →
    C.guard op m ∧ ∀ reply after, C.serve op m.world reply after →
      C.assume (m.event op reply after) m.events → means (next reply) (m.push op reply after)

/-- A program that follows the automaton meets every contract the points are annotated
for, and ends at a point that means what holds there. -/
theorem Annotation.wp_end {C : Contract S ε W} {P α : Type} {edge : Flow S ε P}
    {means : P → Moment S ε W → Prop} (annotated : Annotation C edge means)
    {post : Except ε α → P → Prop} {p : Prog S ε α} {pt : P} {m : Moment S ε W}
    (follows : wp (Logic.flow edge) post p pt) (here : means pt m) :
    wp C.logic (fun result m => ∃ pt, post result pt ∧ means pt m) p m := by
  refine wp_refine means ?_ (fun _ pt m ended held => ⟨pt, ended, held⟩) here follows
  rintro op pt m k k' held ⟨next, taken, rest⟩ go
  obtain ⟨guarded, replied⟩ := annotated.step pt op next taken m held
  refine ⟨guarded, fun reply after served assumed => ?_⟩
  have arrived := replied reply after served assumed
  exact ⟨annotated.leave _ _ arrived, go reply _ _ (rest reply) arrived⟩

theorem Annotation.wp {C : Contract S ε W} {P α : Type} {edge : Flow S ε P}
    {means : P → Moment S ε W → Prop} (annotated : Annotation C edge means)
    {post : Except ε α → P → Prop} {p : Prog S ε α} {pt : P} {m : Moment S ε W}
    (follows : wp (Logic.flow edge) post p pt) (here : means pt m) :
    wp C.logic (fun _ => C.invariant) p m :=
  wp_mono (annotated.wp_end follows here) fun _ m ⟨pt, _, held⟩ => annotated.leave pt m held

/-! ## What an obligation gives -/

theorem Prog.Runs.older {assume : Event S ε W → List (Event S ε W) → Prop}
    {serve : Service S ε W} {α : Type} {p : Prog S ε α} {m final : Moment S ε W}
    {result : Except ε α} (run : p.Runs serve m result final)
    (assumed : Along assume final.events) : Along assume m.events := by
  induction run with
  | pure value m => exact assumed
  | raise error m => exact assumed
  | request served rest ih => exact (ih assumed).2

theorem wp_runs {C : Contract S ε W} {α : Type} {post : Except ε α → Moment S ε W → Prop}
    {p : Prog S ε α} {m final : Moment S ε W} {result : Except ε α}
    (run : p.Runs C.serve m result final) (assumed : Along C.assume final.events)
    (obligation : wp C.logic post p m) : post result final := by
  induction run with
  | pure value m => exact obligation
  | raise error m => exact obligation
  | request served rest ih =>
      exact ih assumed (obligation.2 _ _ served (rest.older assumed).1).2

/-- What a contract says of a configuration: the invariant holds, and the program
under way, if any, still meets its obligation. -/
def Upheld (C : Contract S ε W) (c : Config S ε W) : Prop :=
  C.invariant c.moment ∧
    ∀ p, c.running = some p → wp C.logic (fun _ => C.invariant) p c.moment

/-- **The run rule.**  When the initial worlds and the restarts keep the invariant
and every entry point meets its obligation wherever the invariant holds, every
reachable configuration upholds the contract. -/
theorem System.sound {sys : System S ε W} {C : Contract S ε W} (same : C.serve = sys.serve)
    (initially : ∀ world, sys.initial world → C.invariant ⟨world, []⟩)
    (entries : ∀ entry m, C.invariant m →
      wp C.logic (fun _ => C.invariant) (sys.program entry) m)
    (restarts : ∀ m world, C.invariant m → sys.restart m.world world →
      C.invariant ⟨world, m.events⟩)
    {c : Config S ε W} (reached : sys.Reachable c) (assumed : Along C.assume c.moment.events) :
    Upheld C c := by
  induction reached with
  | init initial => exact ⟨initially _ initial, fun p h => by cases h⟩
  | step reached step ih =>
      cases step with
      | start m entry =>
          have held := ih assumed
          exact ⟨held.1, fun p h => by cases h; exact entries entry m held.1⟩
      | serve served =>
          have held := ih assumed.2
          have obligation := held.2 _ rfl
          obtain ⟨kept, rest⟩ := obligation.2 _ _ (same ▸ served) assumed.1
          exact ⟨kept, fun p h => by cases h; exact rest⟩
      | abandon m p => exact ⟨(ih assumed).1, fun p h => by cases h⟩
      | restart p restarted => exact ⟨restarts _ _ (ih assumed).1 restarted, fun p h => by cases h⟩

/-- The guard of the request a reachable configuration waits on. -/
theorem Upheld.guard {C : Contract S ε W} {c : Config S ε W} (held : Upheld C c) {op : S.Op}
    {next : Except ε (S.Reply op) → Prog S ε Unit}
    (waiting : c.running = some (.request op next)) : C.guard op c.moment :=
  (held.2 _ waiting).1

/-! ## Contracts that only serve -/

/-- The contract that says how requests are served, and asks nothing of the program. -/
def Contract.plain (serve : Service S ε W) (assume : Event S ε W → Prop) : Contract S ε W where
  serve := serve
  assume e _ := assume e
  guard _ _ := True
  invariant _ := True

section Plain

variable {serve : Service S ε W} {assume : Event S ε W → Prop} {α : Type}

/-- One request, whatever its reply. -/
theorem wp_served {op : S.Op} {m : Moment S ε W} {post : Except ε (S.Reply op) → Moment S ε W → Prop}
    (replied : ∀ reply after, serve op m.world reply after → assume (m.event op reply after) →
      post reply (m.push op reply after)) :
    wp (Contract.plain serve assume).logic post (Prog.call op) m :=
  wp_call.2 ⟨trivial, fun reply after served assumed => ⟨trivial, replied reply after served assumed⟩⟩

/-- Every program meets the obligation that asks nothing. -/
theorem wp_nothing (p : Prog S ε α) (m : Moment S ε W) :
    wp (Contract.plain serve assume).logic (fun _ _ => True) p m := by
  induction p generalizing m with
  | pure value => trivial
  | raise error => trivial
  | request op next ih => exact ⟨trivial, fun reply after _ _ => ⟨trivial, ih reply _⟩⟩

/-- Two obligations of one program are one. -/
theorem wp_conj {post post' : Except ε α → Moment S ε W → Prop} {p : Prog S ε α} {m : Moment S ε W}
    (first : wp (Contract.plain serve assume).logic post p m)
    (second : wp (Contract.plain serve assume).logic post' p m) :
    wp (Contract.plain serve assume).logic (fun result m' => post result m' ∧ post' result m') p m := by
  induction p generalizing m with
  | pure value => exact ⟨first, second⟩
  | raise error => exact ⟨first, second⟩
  | request op next ih =>
      refine ⟨trivial, fun reply after served assumed => ⟨trivial, ih reply ?_ ?_⟩⟩
      · exact (first.2 reply after served assumed).2
      · exact (second.2 reply after served assumed).2

/-- What an obligation says of a complete run from a world. -/
theorem plain_run {post : Except ε α → Moment S ε W → Prop} {p : Prog S ε α} {world : W}
    {final : Moment S ε W} {result : Except ε α} (run : p.Runs serve ⟨world, []⟩ result final)
    (assumed : ∀ e ∈ final.events, assume e)
    (obligation : wp (Contract.plain serve assume).logic post p ⟨world, []⟩) : post result final :=
  wp_runs (C := Contract.plain serve assume) run (along_of_forall assumed) obligation

end Plain

end AlgoTrader.Theory
