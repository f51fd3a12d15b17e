/-
# Theory.Tasks -- programs that take turns

An event loop runs one program at a time.  A program keeps the loop until it waits on a request
that gives way; then a reply may come to any program that waits, or a new program may start.

* `Loop.Turn` -- a program from where it gets the loop to its next wait or its end;
* `Loop.Step`, `Loop.Run` -- the turns of a pool of programs, in any order;
* `Loop.run_playRun` -- a schedule played against a service that is a function is such a run;
* `Loop.logic` -- the obligation of a program, turn by turn: how the worlds at the two ends of a
  turn are related;
* `Turn.meets` -- a turn does what its program is obliged to, and leaves the rest obliged;
* `Run.guaranteed`, `Run.invariant`, `Run.related` -- so does every turn of every run, whatever the
  order, and what each turn keeps is kept.
-/
import AlgoTrader.Theory.Logic

namespace AlgoTrader.Theory

set_option autoImplicit false

/-- A service, and the requests at which a program gives way. -/
structure Loop (S : Signature) (ε W : Type) where
  serve : Service S ε W
  waits : S.Op → Bool

variable {S : Signature} {ε W κ α : Type}

/-- How a program has ended, if it has. -/
def Prog.outcome : Prog S ε α → Option (Except ε α)
  | .pure value => some (.ok value)
  | .raise error => some (.error error)
  | .request _ _ => none

/-- The program has ended, or waits. -/
def Loop.Rests (L : Loop S ε W) (p : Prog S ε α) : Prop :=
  ∀ op, p.asks = some op → L.waits op = true

/-- One turn: the program goes on until it rests. -/
inductive Loop.Turn (L : Loop S ε W) : Prog S ε α → W → Prog S ε α → W → Prop where
  | rests {p : Prog S ε α} {w : W} (rests : L.Rests p) : Turn L p w p w
  | goesOn {op : S.Op} {next : Except ε (S.Reply op) → Prog S ε α} {w w' w'' : W}
      {reply : Except ε (S.Reply op)} {p : Prog S ε α} (keeps : L.waits op = false)
      (served : L.serve op w reply w') (rest : Turn L (next reply) w' p w'') :
      Turn L (.request op next) w p w''

/-- The programs that were started, each with the call it answers, and the world they share. -/
structure Pool (S : Signature) (ε W κ α : Type) where
  world : W
  tasks : List (κ × Prog S ε α)

/-- Whose turn it was, and how it ended, if it did. -/
structure Taken (ε κ α : Type) where
  call : κ
  outcome : Option (Except ε α)

inductive Loop.Step (L : Loop S ε W) (entry : κ → Prog S ε α) :
    Pool S ε W κ α → Taken ε κ α → Pool S ε W κ α → Prop where
  | start {pool : Pool S ε W κ α} {call : κ} {p : Prog S ε α} {w : W}
      (turn : L.Turn (entry call) pool.world p w) :
      Step L entry pool ⟨call, p.outcome⟩ ⟨w, pool.tasks ++ [(call, p)]⟩
  | resume {pool : Pool S ε W κ α} {i : Nat} {call : κ} {op : S.Op}
      {next : Except ε (S.Reply op) → Prog S ε α} {reply : Except ε (S.Reply op)} {w w' : W}
      {p : Prog S ε α} (waits : pool.tasks[i]? = some (call, .request op next))
      (served : L.serve op pool.world reply w) (turn : L.Turn (next reply) w p w') :
      Step L entry pool ⟨call, p.outcome⟩ ⟨w', pool.tasks.set i (call, p)⟩

/-- Turns one after another, the newest last. -/
inductive Loop.Run (L : Loop S ε W) (entry : κ → Prog S ε α) (pool : Pool S ε W κ α) :
    List (Taken ε κ α) → Pool S ε W κ α → Prop where
  | nil : Run L entry pool [] pool
  | snoc {turns : List (Taken ε κ α)} {taken : Taken ε κ α} {middle after_ : Pool S ε W κ α}
      (run : Run L entry pool turns middle) (step : L.Step entry middle taken after_) :
      Run L entry pool (turns ++ [taken]) after_

/-! ## Playing a schedule

The service is a function here, and what it answers is something it may answer. -/

section Play

variable (L : Loop S ε W) (answer : (op : S.Op) → W → Except ε (S.Reply op) × W)

/-- One turn. -/
def Loop.play : Prog S ε α → W → Prog S ε α × W
  | .pure value, w => (.pure value, w)
  | .raise error, w => (.raise error, w)
  | .request op next, w =>
      if L.waits op then (.request op next, w)
      else Loop.play (next (answer op w).1) (answer op w).2

/-- The turn of a call that starts, or of the task at a place of the pool. -/
def Loop.playStep (entry : κ → Prog S ε α) (pool : Pool S ε W κ α) :
    κ ⊕ Nat → Option (Taken ε κ α × Pool S ε W κ α)
  | .inl call =>
      let (p, w) := L.play answer (entry call) pool.world
      some (⟨call, p.outcome⟩, ⟨w, pool.tasks ++ [(call, p)]⟩)
  | .inr i =>
      match pool.tasks[i]? with
      | some (call, .request op next) =>
          let (reply, w) := answer op pool.world
          let (p, w) := L.play answer (next reply) w
          some (⟨call, p.outcome⟩, ⟨w, pool.tasks.set i (call, p)⟩)
      | _ => none

def Loop.playRun (entry : κ → Prog S ε α) :
    List (κ ⊕ Nat) → Pool S ε W κ α → Option (List (Taken ε κ α) × Pool S ε W κ α)
  | [], pool => some ([], pool)
  | choice :: rest, pool => do
      let (taken, pool) ← L.playStep answer entry pool choice
      let (turns, pool) ← Loop.playRun entry rest pool
      return (taken :: turns, pool)

variable {L answer} (answers : ∀ op w, L.serve op w (answer op w).1 (answer op w).2)

include answers in
/-- A program that gets the loop gives it back, whatever the service answers. -/
theorem Loop.turn_play (p : Prog S ε α) (w : W) :
    L.Turn p w (L.play answer p w).1 (L.play answer p w).2 := by
  induction p generalizing w with
  | pure value => exact .rests fun op never => by cases never
  | raise error => exact .rests fun op never => by cases never
  | request op next ih =>
      rw [Loop.play]
      split
      · rename_i waits
        refine .rests fun other asked => ?_
        cases asked
        exact waits
      · rename_i keeps
        exact .goesOn (Bool.eq_false_iff.2 keeps) (answers op w) (ih _ _)

include answers in
theorem Loop.step_playStep {entry : κ → Prog S ε α} {pool after_ : Pool S ε W κ α} {choice : κ ⊕ Nat}
    {taken : Taken ε κ α} (played : L.playStep answer entry pool choice = some (taken, after_)) :
    L.Step entry pool taken after_ := by
  cases choice with
  | inl call =>
      cases played
      exact .start (Loop.turn_play answers _ _)
  | inr i =>
      simp only [Loop.playStep] at played
      split at played
      · rename_i waits
        cases played
        exact .resume waits (answers _ _) (Loop.turn_play answers _ _)
      · cases played

theorem Loop.Run.cons {entry : κ → Prog S ε α} {pool middle after_ : Pool S ε W κ α}
    {taken : Taken ε κ α} {turns : List (Taken ε κ α)} (step : L.Step entry pool taken middle)
    (run : L.Run entry middle turns after_) : L.Run entry pool (taken :: turns) after_ := by
  induction run with
  | nil => exact .snoc .nil step
  | snoc run last ih => exact .snoc ih last

include answers in
theorem Loop.run_playRun {entry : κ → Prog S ε α} {choices : List (κ ⊕ Nat)}
    {pool after_ : Pool S ε W κ α} {turns : List (Taken ε κ α)}
    (played : L.playRun answer entry choices pool = some (turns, after_)) :
    L.Run entry pool turns after_ := by
  induction choices generalizing pool turns with
  | nil =>
      cases played
      exact .nil
  | cons choice rest ih =>
      obtain ⟨⟨taken, middle⟩, stepped, went⟩ := Option.bind_eq_some_iff.1 played
      obtain ⟨⟨others, final⟩, went, done⟩ := Option.bind_eq_some_iff.1 went
      cases done
      exact .cons (Loop.step_playStep answers stepped) (ih went)

end Play

/-! ## Obligations turn by turn -/

/-- Where a program gives way, the worlds at the ends of its turn are related by `gives`; a new turn
begins in whatever world there is then. -/
def Loop.logic (L : Loop S ε W) (gives : W → W → Prop) : Logic S ε (W × W) where
  handle op turn post :=
    (L.waits op = true → gives turn.1 turn.2 ∧
      ∀ before reply after_, L.serve op before reply after_ → post reply (before, after_)) ∧
    (L.waits op = false → ∀ reply after_, L.serve op turn.2 reply after_ → post reply (turn.1, after_))
  mono handled implies :=
    ⟨fun waits => ⟨(handled.1 waits).1, fun before reply after_ served =>
        implies _ _ ((handled.1 waits).2 before reply after_ served)⟩,
      fun keeps reply after_ served => implies _ _ (handled.2 keeps reply after_ served)⟩

section Rules

variable {L : Loop S ε W} {gives gives' : W → W → Prop} {turn : W × W}

theorem Loop.wp_gives (implies : ∀ w w', gives w w' → gives' w w')
    {post : Except ε α → W × W → Prop} {p : Prog S ε α} (obligation : wp (L.logic gives) post p turn) :
    wp (L.logic gives') post p turn := by
  refine wp_refine Eq ?_ ?_ rfl obligation
  · rintro op turn _ k k' rfl handled go
    refine ⟨fun waits => ⟨implies _ _ (handled.1 waits).1, fun before reply after_ served => ?_⟩,
      fun keeps reply after_ served => ?_⟩
    · exact go _ _ _ ((handled.1 waits).2 before reply after_ served) rfl
    · exact go _ _ _ (handled.2 keeps reply after_ served) rfl
  · rintro result turn _ ended rfl
    exact ended

theorem Loop.wp_keeps {op : S.Op} (keeps : L.waits op = false)
    {post : Except ε (S.Reply op) → W × W → Prop} : wp (L.logic gives) post (Prog.call op) turn ↔
      ∀ reply after_, L.serve op turn.2 reply after_ → post reply (turn.1, after_) := by
  rw [wp_call]
  exact ⟨fun handled => handled.2 keeps, fun replied =>
    ⟨fun waits => absurd waits (by simp [keeps]), fun _ => replied⟩⟩

theorem Loop.wp_waits {op : S.Op} (waits : L.waits op = true)
    {post : Except ε (S.Reply op) → W × W → Prop} : wp (L.logic gives) post (Prog.call op) turn ↔
      gives turn.1 turn.2 ∧
        ∀ before reply after_, L.serve op before reply after_ → post reply (before, after_) := by
  rw [wp_call]
  exact ⟨fun handled => handled.1 waits, fun replied =>
    ⟨fun _ => replied, fun keeps => absurd keeps (by simp [waits])⟩⟩

end Rules

/-- What the turns of a call are obliged to: by how the turn ends, and the worlds at its ends. -/
abbrev Guarantee (ε W κ α : Type) := κ → Option (Except ε α) → W → W → Prop

def Loop.Meets (L : Loop S ε W) (G : Guarantee ε W κ α) (call : κ) (p : Prog S ε α)
    (turn : W × W) : Prop :=
  wp (L.logic (G call none)) (fun result turn => G call (some result) turn.1 turn.2) p turn

/-- A program that rests will meet its obligations, whatever world it goes on in. -/
def Loop.Resumes (L : Loop S ε W) (G : Guarantee ε W κ α) (call : κ) : Prog S ε α → Prop
  | .request op next =>
      ∀ before reply after_, L.serve op before reply after_ → L.Meets G call (next reply) (before, after_)
  | _ => True

section Soundness

variable {L : Loop S ε W} {G : Guarantee ε W κ α} {entry : κ → Prog S ε α}

theorem Loop.Turn.meets {call : κ} {p p' : Prog S ε α} {start w w' : W} (turn : L.Turn p w p' w')
    (obliged : L.Meets G call p (start, w)) :
    G call p'.outcome start w' ∧ L.Resumes G call p' := by
  induction turn with
  | @rests p w rests =>
      cases p with
      | pure value => exact ⟨obliged, trivial⟩
      | raise error => exact ⟨obliged, trivial⟩
      | request op next => exact obliged.1 (rests op rfl)
  | goesOn keeps served rest ih => exact ih (obliged.2 keeps _ _ served)

/-- Every program of the pool will meet its obligations. -/
def Loop.Sound (L : Loop S ε W) (G : Guarantee ε W κ α) (pool : Pool S ε W κ α) : Prop :=
  ∀ task ∈ pool.tasks, L.Resumes G task.1 task.2

theorem Loop.sound_empty (w : W) : L.Sound G ⟨w, []⟩ := fun task member => by cases member

variable (entries : ∀ call w, L.Meets G call (entry call) (w, w))

include entries in
theorem Loop.Step.guaranteed {pool after_ : Pool S ε W κ α} {taken : Taken ε κ α}
    (step : L.Step entry pool taken after_) (sound : L.Sound G pool) :
    G taken.call taken.outcome pool.world after_.world ∧ L.Sound G after_ := by
  cases step with
  | start turn =>
      obtain ⟨kept, resumes⟩ := turn.meets (entries _ pool.world)
      refine ⟨kept, fun task member => ?_⟩
      rcases List.mem_append.1 member with older | own
      · exact sound task older
      · rw [List.mem_singleton.1 own]
        exact resumes
  | resume waits served turn =>
      have obliged := sound _ (List.mem_of_getElem? waits)
      obtain ⟨kept, resumes⟩ := turn.meets (obliged _ _ _ served)
      refine ⟨kept, fun task member => ?_⟩
      rcases List.mem_or_eq_of_mem_set member with older | own
      · exact sound task older
      · rw [own]
        exact resumes

include entries in
theorem Loop.Run.sound {pool after_ : Pool S ε W κ α} {turns : List (Taken ε κ α)}
    (run : L.Run entry pool turns after_) (sound : L.Sound G pool) : L.Sound G after_ := by
  induction run with
  | nil => exact sound
  | snoc run step ih => exact (step.guaranteed entries ih).2

include entries in
/-- What every turn keeps, told from the turns so far and the world, holds of every run. -/
theorem Loop.Run.invariant {I : List (Taken ε κ α) → W → Prop}
    (kept : ∀ turns (taken : Taken ε κ α) w w', I turns w →
      G taken.call taken.outcome w w' → I (turns ++ [taken]) w')
    {pool after_ : Pool S ε W κ α} {turns : List (Taken ε κ α)} (run : L.Run entry pool turns after_)
    (sound : L.Sound G pool) (initially : I [] pool.world) : I turns after_.world := by
  induction run with
  | nil => exact initially
  | snoc run step ih => exact kept _ _ _ _ ih (step.guaranteed entries (run.sound entries sound)).1

include entries in
/-- A preorder that every turn is in relates the two ends of every run. -/
theorem Loop.Run.related {R : W → W → Prop} (refl : ∀ w, R w w)
    (trans : ∀ {w w' w''}, R w w' → R w' w'' → R w w'')
    (each : ∀ call outcome w w', G call outcome w w' → R w w') {pool after_ : Pool S ε W κ α}
    {turns : List (Taken ε κ α)} (run : L.Run entry pool turns after_) (sound : L.Sound G pool) :
    R pool.world after_.world :=
  run.invariant entries (I := fun _ w => R pool.world w)
    (fun _ _ _ _ so guaranteed => trans so (each _ _ _ _ guaranteed)) sound (refl _)

end Soundness

end AlgoTrader.Theory
