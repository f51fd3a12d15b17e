/-
# App.Lifespan -- what is started with the service, and what is stopped with it

The service checks itself, recovers, and starts its parts one after another; when it ends, or when a step of
its start raises, it stops the parts it had started.  Every step of either may raise.

* `wp_closeAll` -- which parts are stopped, and in what order, whatever the steps came to;
* `lifespan_closes_iff` -- every part that was started is stopped just when neither the watch feed nor the
  watchlist raised while it was stopped;
* `lifespan_raises` -- what the service raises is what the last step that raised did;
* `runs_after_recovery` -- nothing that trades runs, and no request is answered, before recovery returned.
-/
import AlgoTrader.Theory.Cleanup
import AlgoTrader.Theory.Loops

namespace AlgoTrader.App.Lifespan

open AlgoTrader.Theory

set_option autoImplicit false

/-- What is stopped when the service ends, in this order. -/
inductive Part where
  | watchFeed
  | watchlist
  | research
  | paperRuntime
  | reconciliation
  | heartbeat
  | alertRouter
  | broker
  | journal
  | history
  | systemEvents
  deriving DecidableEq

inductive Op where
  | reconcileInterval
  | assertLiveKeyScope
  | runStartupRecovery
  /-- The function that starts a part, and whether it gave something to stop it with. -/
  | start (part : Part)
  /-- Assigning that to the part's variable. -/
  | assign (part : Part) (held : Bool)
  /-- Whether the variable is not `None`. -/
  | assigned (part : Part)
  /-- `yield`. -/
  | serving
  | stop (part : Part)
  deriving DecidableEq

abbrev Steps : Signature where
  Op := Op
  Reply
    | .start _ => Bool
    | .assigned _ => Bool
    | _ => Unit

/-- The parts there is something to stop with. -/
structure World where
  held : Part → Bool

/-- The workspace and the alert router are there from the start, and the broker if it can be closed. -/
def World.fresh (closable : Bool) : World where
  held
    | .research => true
    | .alertRouter => true
    | .broker => closable
    | _ => false

variable {ε : Type}

/-- Variables are exact; only the reconciliation and the paper runtime may give nothing to stop them with. -/
def serve : Service Steps ε World
  | .start part, w, reply, after_ =>
      (reply = .ok false → part = .reconciliation ∨ part = .paperRuntime) ∧ after_ = w
  | .assign part held, w, reply, after_ =>
      reply = .ok () ∧ after_ = ⟨fun other => if other = part then held else w.held other⟩
  | .assigned part, w, reply, after_ => reply = .ok (w.held part) ∧ after_ = w
  | _, w, _, after_ => after_ = w

abbrev Stage (ε α : Type) := Prog Steps ε α

def ask (op : Op) : Stage ε (Steps.Reply op) := Prog.call (S := Steps) op

/-! ## The lifespan -/

/-- Start a part, and keep what stops it. -/
def keep (part : Part) : Stage ε Unit := do
  let held ← ask (.start part)
  ask (.assign part held)

/-- The `try` of `_recovery_lifespan`; `configured` is whether there is a broker. -/
def startUp (configured : Bool) : Stage ε Unit := do
  Prog.when configured (ask .reconcileInterval)
  ask .assertLiveKeyScope
  keep .journal
  keep .history
  keep .systemEvents
  ask .runStartupRecovery
  keep .reconciliation
  keep .heartbeat
  keep .paperRuntime
  keep .watchlist
  keep .watchFeed
  ask .serving

/-- Stop a part, if there is something to stop it with. -/
def shut (part : Part) : Stage ε Unit :=
  match part with
  | .research => ask (.stop .research)
  | .alertRouter => ask (.stop .alertRouter)
  | part => do
      let held ← ask (.assigned part)
      Prog.when held (ask (.stop part))

/-- The parts of the first `try` of the `finally`. -/
def front : List Part := [.watchFeed, .watchlist]

/-- The parts of the second, which the first one does not guard. -/
def back : List Part :=
  [.research, .paperRuntime, .reconciliation, .heartbeat, .alertRouter, .broker, .journal, .history, .systemEvents]

/-- The `finally` of `_recovery_lifespan`. -/
def closeAll : Stage ε Unit := do
  Prog.cleanUp (front.map shut)
  Prog.cleanUp (back.map shut)

/-- `_recovery_lifespan`. -/
def lifespan (configured : Bool) : Stage ε Unit := (startUp configured).ensure closeAll

/-! ## What was stopped -/

abbrev Log (ε : Type) := List (Event Steps ε World)

/-- The parts whose stop was called, in that order. -/
def closed : Log ε → List Part
  | [] => []
  | e :: earlier =>
      closed earlier ++
        match e.op with
        | .stop part => [part]
        | _ => []

/-- The parts whose stop raised. -/
def failed : Log ε → List Part
  | [] => []
  | e :: earlier =>
      failed earlier ++
        match e.op, e.reply with
        | .stop part, .error _ => [part]
        | _, _ => []

/-- The parts whose start gave something to stop them with. -/
def started : Log ε → List Part
  | [] => []
  | e :: earlier =>
      started earlier ++
        match e.op, e.reply with
        | .start part, .ok true => [part]
        | _, _ => []

/-- The obligations of a step, which may come to anything it is served. -/
abbrev served (ε : Type) : Logic Steps ε (Moment Steps ε World) := (Contract.plain serve fun _ => True).logic

/-- What a stop that was called leaves. -/
structure Shut (part : Part) (m : Moment Steps ε World) (result : Except ε Unit) (m' : Moment Steps ε World) :
    Prop where
  world : m'.world = m.world
  closed : closed m'.events = closed m.events ++ [part].filter m.world.held
  failed : failed m'.events = failed m.events ++ (if result.isOk then [] else [part])
  started : started m'.events = started m.events

/-- A part that is always there is stopped without a look. -/
theorem wp_stop {part : Part} {m : Moment Steps ε World} (there : m.world.held part = true) :
    wp (served ε) (Shut part m) (ask (.stop part)) m := by
  refine wp_served fun reply after still _ => ?_
  obtain rfl : after = m.world := still
  refine ⟨rfl, ?_, ?_, List.append_nil _⟩
  · rw [List.filter_cons_of_pos there]
    rfl
  · cases reply <;> rfl

theorem wp_stopIf {part : Part} (m : Moment Steps ε World) :
    wp (served ε) (Shut part m)
      (do let held ← ask (.assigned part); Prog.when held (ask (.stop part)) : Stage ε Unit) m := by
  refine wp_bind.2 (wp_served ?_)
  rintro _ _ ⟨rfl, rfl⟩ _
  refine wp_when (fun there => ?_) fun absent => ?_
  · refine wp_mono (wp_stop (m := m.push (.assigned part) (.ok (m.world.held part)) m.world) there) ?_
    rintro result m' ⟨world, closed_, failed_, started_⟩
    refine ⟨world, closed_.trans ?_, failed_.trans ?_, started_.trans (List.append_nil _)⟩
    · exact congrArg (· ++ _) (List.append_nil _)
    · exact congrArg (· ++ _) (List.append_nil _)
  · refine ⟨rfl, ?_, rfl, List.append_nil _⟩
    rw [List.filter_cons_of_neg (by rw [absent]; exact Bool.false_ne_true)]
    rfl

/-- The parts that are always there. -/
def Rooted (w : World) : Prop := w.held .research = true ∧ w.held .alertRouter = true

theorem wp_shut (part : Part) {m : Moment Steps ε World} (rooted : Rooted m.world) :
    wp (served ε) (Shut part m) (shut part) m := by
  cases part with
  | research => exact wp_stop rooted.1
  | alertRouter => exact wp_stop rooted.2
  | _ => exact wp_stopIf m

/-! ## The cleanup -/

/-- Parts were stopped, and some of them raised. -/
structure Stopped (parts : List Part) (m m' : Moment Steps ε World) (raised : List Part) : Prop where
  world : m'.world = m.world
  closed : closed m'.events = closed m.events ++ parts.filter m.world.held
  failed : failed m'.events = failed m.events ++ raised
  started : started m'.events = started m.events
  among : raised ⊆ parts

theorem Stopped.refl (m : Moment Steps ε World) : Stopped [] m m [] :=
  ⟨rfl, (List.append_nil _).symm, (List.append_nil _).symm, rfl, List.Subset.refl []⟩

/-- One more part. -/
theorem Stopped.snoc {parts raised : List Part} {part : Part} {m m' m'' : Moment Steps ε World}
    {result : Except ε Unit} (before : Stopped parts m m' raised) (shut : Shut part m' result m'') :
    Stopped (parts ++ [part]) m m'' (raised ++ if result.isOk then [] else [part]) where
  world := shut.world.trans before.world
  closed := by rw [shut.closed, before.closed, before.world, List.append_assoc, List.filter_append]
  failed := by rw [shut.failed, before.failed, List.append_assoc]
  started := shut.started.trans before.started
  among := by
    refine List.append_subset.2 ⟨List.Subset.trans before.among (List.subset_append_left ..), ?_⟩
    split
    · exact List.nil_subset _
    · exact List.subset_append_right ..

/-- The first block raises just when one of its two parts did. -/
theorem wp_front {m : Moment Steps ε World} (rooted : Rooted m.world) :
    wp (served ε) (fun result m' => ∃ raised, Stopped front m m' raised ∧ (result.isOk = true ↔ raised = []))
      (Prog.cleanUp (front.map shut)) m := by
  refine wp_ensure.2 (wp_mono (wp_shut .watchFeed rooted) fun first m' shut => ?_)
  have rooted' : Rooted m'.world := by rwa [shut.world]
  refine wp_mono (wp_shut .watchlist rooted') fun second m'' shut' => ?_
  refine ⟨_, ((Stopped.refl m).snoc shut).snoc shut', ?_⟩
  cases first <;> cases second <;> simp [settle, Except.isOk, Except.toBool]

/-- The second block stops all its parts, whichever raise. -/
theorem wp_back {m : Moment Steps ε World} (rooted : Rooted m.world) :
    wp (served ε) (fun _ m' => ∃ raised, Stopped back m m' raised) (Prog.cleanUp (back.map shut)) m := by
  have each : wp (served ε) (fun _ m' => ∃ parts raised, parts ++ [] = back ∧ Stopped parts m m' raised)
      (Prog.cleanUp (back.map shut)) m := by
    refine wp_cleanUp (fun rest m' => ∃ parts raised, parts ++ rest = back ∧ Stopped parts m m' raised) ?_
      ⟨[], [], rfl, .refl m⟩
    rintro part rest m' ⟨parts, raised, all, stopped⟩
    refine wp_mono (wp_shut part (by rwa [stopped.world])) fun result m'' shut => ?_
    exact ⟨parts ++ [part], _, by rw [List.append_assoc]; exact all, stopped.snoc shut⟩
  refine wp_mono each ?_
  rintro result m' ⟨parts, raised, all, stopped⟩
  rw [List.append_nil] at all
  exact ⟨raised, all ▸ stopped⟩

/-- Neither part of the first block raised. -/
def Quiet (log : Log ε) : Prop := Part.watchFeed ∉ failed log ∧ Part.watchlist ∉ failed log

instance (log : Log ε) : Decidable (Quiet log) := inferInstanceAs (Decidable (_ ∧ _))

/-- The parts that are stopped, where there is something to stop them with. -/
def order (log : Log ε) : List Part := if Quiet log then front ++ back else front

theorem quiet_iff {log : Log ε} {raised raised' : List Part} (all : failed log = raised ++ raised')
    (among : raised ⊆ front) (others : raised' ⊆ back) : Quiet log ↔ raised = [] := by
  have apart : ∀ part ∈ front, part ∉ back := by decide
  have elsewhere : ∀ part ∈ front, part ∉ raised' := fun part inFront member => apart part inFront (others member)
  unfold Quiet
  rw [all, List.mem_append, List.mem_append]
  constructor
  · rintro ⟨noFeed, noList⟩
    refine List.eq_nil_iff_forall_not_mem.2 fun part member => ?_
    rcases List.mem_cons.1 (among member) with rfl | last
    · exact noFeed (.inl member)
    · obtain rfl := List.mem_singleton.1 last
      exact noList (.inl member)
  · rintro rfl
    have never : ∀ part ∈ front, ¬ (part ∈ ([] : List Part) ∨ part ∈ raised') := fun part inFront either =>
      either.elim (fun none_ => by cases none_) (elsewhere part inFront)
    exact ⟨never _ (by decide), never _ (by decide)⟩

theorem wp_closeAll {m : Moment Steps ε World} (rooted : Rooted m.world) (unfailed : failed m.events = []) :
    wp (served ε) (fun _ m' => m'.world = m.world ∧ started m'.events = started m.events ∧
      closed m'.events = closed m.events ++ (order m'.events).filter m.world.held) closeAll m := by
  refine wp_bind.2 (wp_mono (wp_front rooted) ?_)
  rintro result m' ⟨raised, stopped, ended⟩
  have sofar : failed m'.events = raised := by rw [stopped.failed, unfailed, List.nil_append]
  cases result with
  | error error =>
    have loud : ¬ Quiet m'.events := by
      have all : failed m'.events = raised ++ [] := by rw [sofar, List.append_nil]
      rw [quiet_iff all stopped.among (List.nil_subset _)]
      exact fun none_ => absurd (ended.2 none_) Bool.false_ne_true
    refine ⟨stopped.world, stopped.started, ?_⟩
    rw [order, if_neg loud]
    exact stopped.closed
  | ok _ =>
    have rooted' : Rooted m'.world := by rwa [stopped.world]
    refine wp_mono (wp_back rooted') ?_
    rintro last m'' ⟨raised', stopped'⟩
    have quiet : Quiet m''.events := by
      have all : failed m''.events = raised ++ raised' := by rw [stopped'.failed, sofar]
      rw [quiet_iff all stopped.among stopped'.among]
      exact ended.1 rfl
    refine ⟨stopped'.world.trans stopped.world, stopped'.started.trans stopped.started, ?_⟩
    rw [order, if_pos quiet, stopped'.closed, stopped.closed, stopped.world, List.append_assoc, ← List.filter_append]

/-! ## The start -/

/-- Nothing was stopped yet, and what was started is held. -/
structure Kept (m : Moment Steps ε World) : Prop where
  closed : closed m.events = []
  failed : failed m.events = []
  rooted : Rooted m.world
  held : ∀ part ∈ started m.events, m.world.held part = true

/-- The start has come past these parts. -/
def Going (done : List Part) (m : Moment Steps ε World) : Prop := Kept m ∧ started m.events ⊆ done

/-- A request that starts and stops nothing. -/
def plain : Op → Bool
  | .start _ => false
  | .stop _ => false
  | _ => true

theorem logs_plain {e : Event Steps ε World} (idle : plain e.op = true) (log : Log ε) :
    closed (e :: log) = closed log ∧ failed (e :: log) = failed log ∧ started (e :: log) = started log := by
  obtain ⟨op, reply, before, after⟩ := e
  cases op with
  | start part => cases idle
  | stop part => cases idle
  | _ => exact ⟨List.append_nil _, List.append_nil _, List.append_nil _⟩

theorem Kept.push {m : Moment Steps ε World} (kept : Kept m) {op : Op} (idle : plain op = true)
    (reply : Except ε (Steps.Reply op)) : Kept (m.push op reply m.world) := by
  obtain ⟨closed_, failed_, started_⟩ := logs_plain (e := m.event op reply m.world) idle m.events
  exact ⟨closed_.trans kept.closed, failed_.trans kept.failed, kept.rooted,
    fun part member => kept.held part (started_ ▸ member)⟩

/-- A step that starts and stops nothing. -/
theorem wp_check {op : Op} {done : List Part} {m : Moment Steps ε World} (going : Going done m)
    (idle : plain op = true)
    (still : ∀ w (reply : Except ε (Steps.Reply op)) w', serve op w reply w' → w' = w) :
    wp (served ε) (stepPost (Going done) fun _ => Kept) (ask op) m := by
  refine wp_served fun reply after replied _ => ?_
  obtain rfl := still _ _ _ replied
  have kept := going.1.push idle reply
  cases reply with
  | ok value =>
    refine ⟨kept, ?_⟩
    rw [Moment.push, (logs_plain (e := m.event op _ _) idle m.events).2.2]
    exact going.2
  | error error => exact kept

/-- The start of one more part. -/
theorem wp_keep {part : Part} {done : List Part} {m : Moment Steps ε World} (going : Going done m)
    (new : part ∉ done) (apart : part ≠ .research ∧ part ≠ .alertRouter) :
    wp (served ε) (stepPost (Going (part :: done)) fun _ => Kept) (keep part) m := by
  obtain ⟨⟨closed_, failed_, rooted, held_⟩, within⟩ := going
  refine wp_bind.2 (wp_served ?_)
  rintro reply _ ⟨_, rfl⟩ _
  cases reply with
  | error error =>
    refine ⟨(List.append_nil _).trans closed_, (List.append_nil _).trans failed_, rooted, fun other member => ?_⟩
    exact held_ other ((List.mem_append.1 member).resolve_right fun none_ => by cases none_)
  | ok gave =>
    refine wp_served ?_
    rintro _ _ ⟨rfl, rfl⟩ _
    have since : ∀ other ∈ started (m.event (.start part) (.ok gave) m.world :: m.events),
        other ∈ started m.events ∨ other = part ∧ gave = true := by
      intro other member
      rcases List.mem_append.1 member with older | now
      · exact .inl older
      · cases gave with
        | false => cases now
        | true => exact .inr ⟨List.mem_singleton.1 now, rfl⟩
    obtain ⟨closed', failed', started'⟩ := logs_plain
      (e := (m.push (.start part) (.ok gave) m.world).event (.assign part gave) (.ok ())
        ⟨fun other => if other = part then gave else m.world.held other⟩) rfl
      (m.event (.start part) (.ok gave) m.world :: m.events)
    refine ⟨⟨closed'.trans ((List.append_nil _).trans closed_), failed'.trans ((List.append_nil _).trans failed_),
      ⟨(if_neg apart.1.symm).trans rooted.1, (if_neg apart.2.symm).trans rooted.2⟩, fun other member => ?_⟩,
      fun other member => ?_⟩
    · rcases since other (started' ▸ member) with older | ⟨rfl, rfl⟩
      · have old : other ≠ part := fun same => new (same ▸ within older)
        exact (if_neg old).trans (held_ other older)
      · exact if_pos rfl
    · rcases since other (started' ▸ member) with older | ⟨rfl, _⟩
      · exact List.mem_cons_of_mem _ (within older)
      · exact List.mem_cons_self ..

theorem wp_startUp (configured closable : Bool) :
    wp (served ε) (fun _ => Kept) (startUp configured) ⟨.fresh closable, []⟩ := by
  have fresh : Going (ε := ε) [] ⟨.fresh closable, []⟩ :=
    ⟨⟨rfl, rfl, ⟨rfl, rfl⟩, fun _ none_ => by cases none_⟩, List.nil_subset _⟩
  have check : ∀ {op : Op} {done : List Part} {m : Moment Steps ε World}, Going done m →
      op = .reconcileInterval ∨ op = .assertLiveKeyScope ∨ op = .runStartupRecovery ∨ op = .serving →
      wp (served ε) (stepPost (Going done) fun _ => Kept) (ask op) m := by
    rintro op done m going (rfl | rfl | rfl | rfl)
    · exact wp_check going rfl fun _ _ _ still => still
    · exact wp_check going rfl fun _ _ _ still => still
    · exact wp_check going rfl fun _ _ _ still => still
    · exact wp_check going rfl fun _ _ _ still => still
  have steps : wp (served ε) (stepPost (fun m => ∃ done, Going done m) fun _ => Kept) (startUp configured)
      ⟨.fresh closable, []⟩ := by
    have first : wp (served ε) (stepPost (Going []) fun _ => Kept)
        (Prog.when configured (ask .reconcileInterval)) ⟨.fresh closable, []⟩ :=
      wp_when (fun _ => check fresh (.inl rfl)) fun _ => fresh
    refine wp_step first fun _ _ going => ?_
    refine wp_step (check going (.inr (.inl rfl))) fun _ _ going => ?_
    refine wp_step (wp_keep going (by decide) (by decide)) fun _ _ going => ?_
    refine wp_step (wp_keep going (by decide) (by decide)) fun _ _ going => ?_
    refine wp_step (wp_keep going (by decide) (by decide)) fun _ _ going => ?_
    refine wp_step (check going (.inr (.inr (.inl rfl)))) fun _ _ going => ?_
    refine wp_step (wp_keep going (by decide) (by decide)) fun _ _ going => ?_
    refine wp_step (wp_keep going (by decide) (by decide)) fun _ _ going => ?_
    refine wp_step (wp_keep going (by decide) (by decide)) fun _ _ going => ?_
    refine wp_step (wp_keep going (by decide) (by decide)) fun _ _ going => ?_
    refine wp_step (wp_keep going (by decide) (by decide)) fun _ _ going => ?_
    refine wp_mono (check going (.inr (.inr (.inr rfl)))) fun result m ended => ?_
    cases result with
    | ok _ => exact ⟨_, ended⟩
    | error error => exact ended
  refine wp_mono steps fun result m ended => ?_
  cases result with
  | ok _ => exact ended.elim fun _ going => going.1
  | error error => exact ended

/-! ## The whole lifespan -/

section Runs

variable {configured closable : Bool} {result : Except ε Unit} {final : Moment Steps ε World}

/-- **What is stopped with the service.**  However the steps of its start and of its end came out: what was
started is held to be stopped, what is stopped is stopped once and in this order, and every part that is held is
stopped just when neither the watch feed nor the watchlist raised. -/
theorem lifespan_closes_iff (run : (lifespan configured).Runs serve ⟨.fresh closable, []⟩ result final) :
    (∀ part ∈ started final.events, final.world.held part = true) ∧
      closed final.events = (order final.events).filter final.world.held ∧ (closed final.events).Nodup ∧
      ((∀ part, final.world.held part = true → part ∈ closed final.events) ↔ Quiet final.events) := by
  have obligation : wp (served ε) (fun _ m => (∀ part ∈ started m.events, m.world.held part = true) ∧
      Rooted m.world ∧ closed m.events = (order m.events).filter m.world.held)
      (lifespan configured) ⟨.fresh closable, []⟩ := by
    refine wp_ensure.2 (wp_mono (wp_startUp configured closable) fun _ m kept => ?_)
    refine wp_mono (wp_closeAll kept.rooted kept.failed) ?_
    rintro _ m' ⟨world, started_, closed_⟩
    rw [kept.closed, List.nil_append] at closed_
    rw [world, started_]
    exact ⟨kept.held, kept.rooted, closed_⟩
  obtain ⟨held, rooted, is⟩ := run_ends run obligation
  refine ⟨held, is, ?_, ?_⟩
  · rw [is]
    refine List.Pairwise.filter _ ?_
    unfold order
    split <;> decide
  · rw [is]
    unfold order
    constructor
    · intro all
      by_cases quiet : Quiet final.events
      · exact quiet
      · -- The research workspace is always there, and it is no part of the first block.
        have stopped := all .research rooted.1
        rw [if_neg quiet, List.mem_filter] at stopped
        exact absurd stopped.1 (by decide)
    · intro quiet part there
      rw [if_pos quiet]
      exact List.mem_filter.2 ⟨by cases part <;> decide, there⟩

/-- A service with everything in it whose watch feed raises while it is stopped. -/
def feedRaises : Script Steps String World := fun op m =>
  match op with
  | .start _ => (.ok true, m.world)
  | .assign part held => (.ok (), ⟨fun other => if other = part then held else m.world.held other⟩)
  | .assigned part => (.ok (m.world.held part), m.world)
  | .stop .watchFeed => (.error "the feed", m.world)
  | .stop _ => (.ok (), m.world)
  | .reconcileInterval => (.ok (), m.world)
  | .assertLiveKeyScope => (.ok (), m.world)
  | .runStartupRecovery => (.ok (), m.world)
  | .serving => (.ok (), m.world)

theorem feedRaises_sound : feedRaises.Sound serve := by
  intro op m
  cases op with
  | start part =>
    refine ⟨fun none_ => ?_, rfl⟩
    cases none_
  | assign part held => exact ⟨rfl, rfl⟩
  | assigned part => exact ⟨rfl, rfl⟩
  | stop part => cases part <;> rfl
  | _ => rfl

/-- The service as it ended then. -/
def feedRaised : Except String Unit × Moment Steps String World := (lifespan true).play feedRaises ⟨.fresh true, []⟩

/-- The paper runtime, the reconciliation and what comes after them are never stopped. -/
theorem lifespan_closes_feedRaised : closed feedRaised.2.events = [.watchFeed, .watchlist] ∧
    ¬ ∀ part, feedRaised.2.world.held part = true → part ∈ closed feedRaised.2.events := by
  have ends := lifespan_closes_iff (Prog.play_runs feedRaises_sound (lifespan true) ⟨.fresh true, []⟩)
  exact ⟨by decide +kernel, fun all => absurd (ends.2.2.2.1 all) (by decide +kernel)⟩

/-! ## What runs when -/

theorem shut_loud (part : Part) : Loud (ε := ε) serve (shut part) := by
  have stops : Loud (ε := ε) serve (do let held ← ask (.assigned part); Prog.when held (ask (.stop part))) :=
    (loud_call _).bind fun _ => loud_when (loud_call _)
  cases part with
  | research => exact loud_call _
  | alertRouter => exact loud_call _
  | _ => exact stops

theorem keep_loud (part : Part) : Loud (ε := ε) serve (keep part) := (loud_call _).bind fun _ => loud_call _

/-- **Nothing is swallowed**: the service raises what the last of its steps that raised did. -/
theorem lifespan_raises (run : (lifespan configured).Runs serve ⟨.fresh closable, []⟩ result final) :
    Told final.events result := by
  have start : Loud (ε := ε) serve (startUp configured) := by
    refine (loud_when (loud_call _)).bind fun _ => (loud_call _).bind fun _ => ?_
    refine (keep_loud _).bind fun _ => (keep_loud _).bind fun _ => (keep_loud _).bind fun _ => ?_
    refine (loud_call _).bind fun _ => ?_
    refine (keep_loud _).bind fun _ => (keep_loud _).bind fun _ => (keep_loud _).bind fun _ => ?_
    exact (keep_loud _).bind fun _ => (keep_loud _).bind fun _ => loud_call _
  have each : ∀ parts : List Part, ∀ p ∈ parts.map (shut (ε := ε)), Loud serve p := by
    intro parts p member
    obtain ⟨part, _, rfl⟩ := List.mem_map.1 member
    exact shut_loud part
  have close : Loud (ε := ε) serve closeAll := (loud_cleanUp (each front)).bind fun _ => loud_cleanUp (each back)
  exact (start.ensure close).run run

/-- What starts the parts that trade, read the market or answer requests. -/
def runs : Op → Bool
  | .start part => part ∈ [.reconciliation, .heartbeat, .paperRuntime, .watchlist, .watchFeed]
  | .serving => true
  | _ => false

/-- The request was made and returned. -/
def Returned (op : Op) (log : Log ε) : Prop := ∃ e ∈ log, e.op = op ∧ e.reply.isOk = true

/-- What must have returned before anything runs. -/
def before : List Op := [.assertLiveKeyScope, .start .journal, .runStartupRecovery]

def Safe (m : Moment Steps ε World) : Prop :=
  Along (fun e earlier => runs e.op = true → ∀ op ∈ before, Returned op earlier) m.events

/-- Nothing ran too early, and these have returned. -/
def Past (ops : List Op) (m : Moment Steps ε World) : Prop := Safe m ∧ ∀ op ∈ ops, Returned op m.events

theorem wp_past {op : Op} {ops : List Op} {m : Moment Steps ε World} (past : Past ops m)
    (allowed : runs op = true → before ⊆ ops) :
    wp (served ε) (stepPost (Past (op :: ops)) fun _ => Safe) (ask op) m := by
  refine wp_served fun reply after _ _ => ?_
  have safe : Safe (m.push op reply after) := ⟨fun running op early => past.2 op (allowed running early), past.1⟩
  cases reply with
  | error error => exact safe
  | ok value =>
    refine ⟨safe, List.forall_mem_cons.2 ⟨⟨_, List.mem_cons_self .., rfl, rfl⟩, fun op member => ?_⟩⟩
    obtain ⟨e, there, same⟩ := past.2 op member
    exact ⟨e, List.mem_cons_of_mem _ there, same⟩

theorem keep_past {part : Part} {ops : List Op} {m : Moment Steps ε World} (past : Past ops m)
    (allowed : runs (.start part) = true → before ⊆ ops) :
    wp (served ε) (stepPost (Past (.start part :: ops)) fun _ => Safe) (keep part) m := by
  refine wp_step (wp_past past allowed) fun gave m' past' => ?_
  refine wp_mono (wp_past past' fun never => by cases never) fun result m'' ended => ?_
  cases result with
  | ok _ => exact ⟨ended.1, fun op member => ended.2 op (List.mem_cons_of_mem _ member)⟩
  | error error => exact ended

/-- **Recovery comes first**: when a part that trades or reads the market is started, or requests are answered,
the key scope was checked, the journal was attached and recovery had returned. -/
theorem runs_after_recovery (run : (lifespan configured).Runs serve ⟨.fresh closable, []⟩ result final) :
    Safe final := by
  have start : wp (served ε) (fun _ => Safe) (startUp configured) ⟨.fresh closable, []⟩ := by
    have fresh : Past (ε := ε) [] ⟨.fresh closable, []⟩ := ⟨trivial, fun _ none_ => by cases none_⟩
    have steps : wp (served ε) (stepPost (fun m => ∃ ops, Past ops m) fun _ => Safe) (startUp configured)
        ⟨.fresh closable, []⟩ := by
      have first : wp (served ε) (stepPost (Past []) fun _ => Safe)
          (Prog.when configured (ask .reconcileInterval)) ⟨.fresh closable, []⟩ := by
        refine wp_when (fun _ => wp_mono (wp_past fresh fun never => by cases never) fun result m ended => ?_)
          fun _ => fresh
        cases result with
        | ok _ => exact ⟨ended.1, fun _ none_ => by cases none_⟩
        | error error => exact ended
      refine wp_step first fun _ _ past => ?_
      refine wp_step (wp_past past (by decide)) fun _ _ past => ?_
      refine wp_step (keep_past past (by decide)) fun _ _ past => ?_
      refine wp_step (keep_past past (by decide)) fun _ _ past => ?_
      refine wp_step (keep_past past (by decide)) fun _ _ past => ?_
      refine wp_step (wp_past past (by decide)) fun _ _ past => ?_
      refine wp_step (keep_past past (by decide)) fun _ _ past => ?_
      refine wp_step (keep_past past (by decide)) fun _ _ past => ?_
      refine wp_step (keep_past past (by decide)) fun _ _ past => ?_
      refine wp_step (keep_past past (by decide)) fun _ _ past => ?_
      refine wp_step (keep_past past (by decide)) fun _ _ past => ?_
      refine wp_mono (wp_past past (by decide)) fun result m ended => ?_
      cases result with
      | ok _ => exact ⟨_, ended⟩
      | error error => exact ended
    refine wp_mono steps fun result m ended => ?_
    cases result with
    | ok _ => exact ended.elim fun _ past => past.1
    | error error => exact ended
  have quiet : ∀ op, runs op = false → Sustains (served ε) Safe (Prog.call op) := fun op idle m safe =>
    wp_served fun reply after _ _ => ⟨fun running => absurd (idle.symm.trans running) Bool.false_ne_true, safe⟩
  have shuts : ∀ part, Issues (S := Steps) (ε := ε) (fun op => runs op = false) (shut part) := by
    intro part
    cases part with
    | research => exact issues_call rfl
    | alertRouter => exact issues_call rfl
    | _ => exact issues_bind (issues_call rfl) fun _ => issues_when fun _ => issues_call rfl
  have each : ∀ parts : List Part, ∀ p ∈ parts.map (shut (ε := ε)), Issues (fun op => runs op = false) p := by
    intro parts p member
    obtain ⟨part, _, rfl⟩ := List.mem_map.1 member
    exact shuts part
  have close : Issues (S := Steps) (ε := ε) (fun op => runs op = false) closeAll :=
    issues_bind (issues_cleanUp (each front)) fun _ => issues_cleanUp (each back)
  have obligation : wp (served ε) (fun _ => Safe) (lifespan configured) ⟨.fresh closable, []⟩ :=
    wp_ensure.2 (wp_mono start fun _ m safe => sustains_issues quiet close m safe)
  exact run_ends run obligation

theorem runs_after_recovery_feedRaised : Safe feedRaised.2 :=
  runs_after_recovery (Prog.play_runs feedRaises_sound (lifespan true) ⟨.fresh true, []⟩)

end Runs

end AlgoTrader.App.Lifespan
