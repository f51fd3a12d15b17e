/-
# Api.CoinCatalog -- one load for all who ask

The picker of coins reads a catalog that is kept for a quarter of an hour.  A call to `refresh`
that finds it stale starts a load, or joins the one that is under way; the load goes on when
callers are cancelled.  Whoever sees that it is done takes it out of the way.

What happens in the process is a list of events: calls that start, the ends of their waiting, and
loads that get their answer.  Between two of them nothing else runs.

* `running_unique` -- there is one load at a time, whatever happens;
* `last_finish` -- what the catalog holds is what the last load left;
* `sharedRefresh_iff` -- a call is served by a load of its time unless it finds one that is done
  already and that nobody has taken away.
-/
import Mathlib.Data.List.Induction
import AlgoTrader.Core.Models

namespace AlgoTrader.Api.CoinCatalog

open AlgoTrader.Core

set_option autoImplicit false

/-! ## The catalog -/

structure CoinbaseCatalogProduct where
  productId : String
  baseSymbol : String
  displayName : String
  quoteCurrency : String
  availability : String
  deriving DecidableEq, Repr

def freshFor : Duration := 15 * 60 * 1000000

/-- A load, by its place among those that were started. -/
abbrev Task := Nat

/-- A call to `refresh`, by its place among those that were made. -/
abbrev Caller := Nat

structure CoinbaseCatalog where
  products : Option (List CoinbaseCatalogProduct)
  loadedAt : Option Timestamp
  refreshError : Option String
  refreshTask : Option Task
  deriving DecidableEq, Repr

/-- How `read_coinbase_catalog` ends, under the deadline of ten seconds. -/
inductive Answer where
  | products (products : List CoinbaseCatalogProduct)
  | timeoutError
  | httpStatusError (statusCode : Nat)
  | exception
  deriving DecidableEq, Repr

/-- What is told of a load that failed. -/
def Answer.error : Answer → Option String
  | .products _ => none
  | .timeoutError => some "The 10-second catalog refresh limit expired."
  | .httpStatusError statusCode =>
      some (if statusCode = 429 then "Coinbase is rate limiting the public catalog."
        else "Coinbase's public catalog is unavailable.")
  | .exception => some "Coinbase returned an unavailable, malformed or incomplete catalog."

namespace CoinbaseCatalog

def new : CoinbaseCatalog := ⟨none, none, none, none⟩

def isFresh (catalog : CoinbaseCatalog) (now : Timestamp) : Bool :=
  match catalog.loadedAt with
  | none => false
  | some loadedAt => now - loadedAt < freshFor

/-- `_load`, from its answer to its end. -/
def load (catalog : CoinbaseCatalog) (answer : Answer) (now : Timestamp) : CoinbaseCatalog :=
  match answer with
  | .products products =>
      { catalog with products := some products, loadedAt := some now, refreshError := none }
  | failed => { catalog with refreshError := failed.error }

end CoinbaseCatalog

/-! ## The process around it -/

/-- The catalog, the loads that were started and whether each is done, and for each call the load
it waits for. -/
structure Process where
  catalog : CoinbaseCatalog
  tasks : List Bool
  callers : List (Option Task)
  deriving DecidableEq, Repr

namespace Process

def new : Process := ⟨.new, [], []⟩

def Running (process : Process) (task : Task) : Prop := process.tasks[task]? = some false

def Done (process : Process) (task : Task) : Prop := process.tasks[task]? = some true

instance (process : Process) (task : Task) : Decidable (process.Running task) :=
  inferInstanceAs (Decidable (_ = _))

instance (process : Process) (task : Task) : Decidable (process.Done task) :=
  inferInstanceAs (Decidable (_ = _))

/-- The load a stale call waits for: the one that is kept, or one it creates. -/
def taskOf (process : Process) : Task × Process :=
  match process.catalog.refreshTask with
  | some task => (task, process)
  | none =>
      let task := process.tasks.length
      (task, { process with
        catalog := { process.catalog with refreshTask := some task }
        tasks := process.tasks ++ [false] })

/-- The `finally` of `refresh`. -/
def release (process : Process) (task : Task) : Process :=
  if process.Done task ∧ process.catalog.refreshTask = some task then
    { process with catalog := { process.catalog with refreshTask := none } }
  else process

/-- `refresh`, up to where it waits.  Awaiting the shield of a task that is done does not wait. -/
def refresh (process : Process) (now : Timestamp) : Process :=
  if process.catalog.isFresh now then { process with callers := process.callers ++ [none] }
  else
    let (task, process) := process.taskOf
    if process.Done task then
      let process := process.release task
      { process with callers := process.callers ++ [none] }
    else { process with callers := process.callers ++ [some task] }

end Process

inductive Event where
  /-- A call starts. -/
  | refresh (now : Timestamp)
  /-- A call stops waiting: because its load is done, or because it is cancelled. -/
  | resume (caller : Caller) (cancelled : Bool)
  /-- A load gets its answer. -/
  | finish (task : Task) (answer : Answer) (now : Timestamp)
  deriving DecidableEq, Repr

/-- One event; nothing where it cannot happen. -/
def step (process : Process) : Event → Option Process
  | .refresh now => some (process.refresh now)
  | .resume caller cancelled => do
      let task ← process.callers[caller]?.join
      if cancelled ∨ process.Done task then
        let process := process.release task
        some { process with callers := process.callers.set caller none }
      else none
  | .finish task answer now =>
      if process.Running task then
        some { process with
          catalog := process.catalog.load answer now
          tasks := process.tasks.set task true }
      else none

def run (process : Process) (events : List Event) : Option Process :=
  events.foldlM step process

/-! ## What is promised -/

/-- At most one load runs at a time. -/
def OneLoad (events : List Event) : Prop :=
  ∀ before, before <+: events → ∀ process, run .new before = some process →
    ∀ task other, process.Running task → process.Running other → task = other

/-- The call that starts in a process returns normally at the end of `during`: at once, or where
its waiting ends. -/
def Returns (process : Process) (now : Timestamp) (during : List Event) : Prop :=
  (during = [] ∧ (process.refresh now).callers[process.callers.length]? = some none) ∨
    ∃ earlier, during = earlier ++ [.resume process.callers.length false]

/-- A load left the catalog as it is. -/
def LeftBy (answer : Answer) (now : Timestamp) (catalog : CoinbaseCatalog) : Prop :=
  catalog.refreshError = answer.error ∧
    ∀ products, answer = .products products →
      catalog.products = some products ∧ catalog.loadedAt = some now

def Event.isFinish : Event → Bool
  | .finish _ _ _ => true
  | _ => false

/-- The last load to end in `during` was running then, and left the catalog of `final`. -/
def ServedBy (process : Process) (during : List Event) (final : Process) : Prop :=
  ∃ before task answer now after_ middle, during = before ++ .finish task answer now :: after_ ∧
    run process before = some middle ∧ middle.Running task ∧
    (∀ event ∈ after_, event.isFinish = false) ∧ LeftBy answer now final.catalog

/-- A call that starts on a stale catalog and returns normally is served by a load that was running
during the call. -/
def Served (events : List Event) : Prop :=
  ∀ before now during, before ++ .refresh now :: during <+: events →
    ∀ process final, run .new before = some process → process.catalog.isFresh now = false →
      run (process.refresh now) during = some final → Returns process now during →
        ServedBy (process.refresh now) during final

def SharedRefresh (events : List Event) : Prop := OneLoad events ∧ Served events

/-- No call starts on a stale catalog where a load is kept that is done. -/
def NoneLeft (events : List Event) : Prop :=
  ∀ before now, before ++ [.refresh now] <+: events →
    ∀ process, run .new before = some process → process.catalog.isFresh now = false →
      ∀ task, process.catalog.refreshTask = some task → ¬process.Done task

/-! ## What an event does -/

namespace Process

variable {process : Process} {task : Task}

theorem release_cases (process : Process) (task : Task) : process.release task = process ∨
    (process.Done task ∧ process.catalog.refreshTask = some task ∧ process.release task =
      { process with catalog := { process.catalog with refreshTask := none } }) := by
  unfold release
  split
  · rename_i own
    exact .inr ⟨own.1, own.2, rfl⟩
  · exact .inl rfl

@[simp] theorem release_tasks : (process.release task).tasks = process.tasks := by
  rcases release_cases process task with same | ⟨_, _, taken⟩
  · rw [same]
  · rw [taken]

@[simp] theorem release_callers : (process.release task).callers = process.callers := by
  rcases release_cases process task with same | ⟨_, _, taken⟩
  · rw [same]
  · rw [taken]

theorem not_done_of_running (running : process.Running task) : ¬process.Done task := by
  intro done
  cases running.symm.trans done

end Process

/-- Every event there is, and what it leaves. -/
inductive Next (process : Process) : Event → Process → Prop where
  | fresh {now : Timestamp} (fresh : process.catalog.isFresh now = true) :
      Next process (.refresh now) { process with callers := process.callers ++ [none] }
  | left {now : Timestamp} {task : Task} (stale : process.catalog.isFresh now = false)
      (kept : process.catalog.refreshTask = some task) (done : process.Done task) :
      Next process (.refresh now) { process with
        catalog := { process.catalog with refreshTask := none }
        callers := process.callers ++ [none] }
  | joined {now : Timestamp} {task : Task} (stale : process.catalog.isFresh now = false)
      (kept : process.catalog.refreshTask = some task) (waits : ¬process.Done task) :
      Next process (.refresh now) { process with callers := process.callers ++ [some task] }
  | started {now : Timestamp} (stale : process.catalog.isFresh now = false)
      (nothing : process.catalog.refreshTask = none) :
      Next process (.refresh now) {
        catalog := { process.catalog with refreshTask := some process.tasks.length }
        tasks := process.tasks ++ [false]
        callers := process.callers ++ [some process.tasks.length] }
  | resumed {caller : Caller} {cancelled : Bool} {task : Task}
      (waits : process.callers[caller]? = some (some task))
      (ends : cancelled = true ∨ process.Done task) :
      Next process (.resume caller cancelled)
        { process.release task with callers := process.callers.set caller none }
  | finished {task : Task} {answer : Answer} {now : Timestamp} (running : process.Running task) :
      Next process (.finish task answer now) { process with
        catalog := process.catalog.load answer now
        tasks := process.tasks.set task true }

theorem next_refresh (process : Process) (now : Timestamp) :
    Next process (.refresh now) (process.refresh now) := by
  unfold Process.refresh Process.taskOf
  split
  · rename_i fresh
    exact .fresh fresh
  · rename_i stale
    have stale := Bool.eq_false_iff.2 stale
    cases kept : process.catalog.refreshTask with
    | none =>
        have waits : ¬({ process with
            catalog := { process.catalog with refreshTask := some process.tasks.length }
            tasks := process.tasks ++ [false] } : Process).Done process.tasks.length :=
          Process.not_done_of_running (by simp [Process.Running])
        simp only [if_neg waits]
        exact .started stale kept
    | some task =>
        by_cases done : process.Done task
        · have taken : process.release task =
              { process with catalog := { process.catalog with refreshTask := none } } :=
            if_pos ⟨done, kept⟩
          simp only [if_pos done, taken]
          exact .left stale kept done
        · simp only [if_neg done]
          exact .joined stale kept done

theorem next_of_step {process after_ : Process} {event : Event}
    (happens : step process event = some after_) : Next process event after_ := by
  cases event with
  | refresh now =>
      cases happens
      exact next_refresh process now
  | resume caller cancelled =>
      obtain ⟨task, waits, rest⟩ := Option.bind_eq_some_iff.1 happens
      split at rest
      · rename_i ends
        cases rest
        rw [Process.release_callers]
        exact .resumed (Option.join_eq_some_iff.1 waits) ends
      · cases rest
  | finish task answer now =>
      have happens : (if process.Running task then
          some { process with
            catalog := process.catalog.load answer now
            tasks := process.tasks.set task true }
        else none) = some after_ := happens
      split at happens
      · rename_i running
        cases happens
        exact .finished running
      · cases happens

/-! ## One load at a time -/

/-- A load that runs is the one that is kept, and a load that is kept was started. -/
structure Inv (process : Process) : Prop where
  current : ∀ task, process.Running task → process.catalog.refreshTask = some task
  known : ∀ task, process.catalog.refreshTask = some task → task < process.tasks.length

theorem inv_new : Inv .new where
  current _ running := by cases running
  known _ kept := by cases kept

theorem load_refreshTask (catalog : CoinbaseCatalog) (answer : Answer) (now : Timestamp) :
    (catalog.load answer now).refreshTask = catalog.refreshTask := by
  cases answer <;> rfl

theorem inv_next {process after_ : Process} {event : Event} (inv : Inv process)
    (next : Next process event after_) : Inv after_ := by
  cases next with
  | fresh fresh => exact ⟨inv.current, inv.known⟩
  | left stale kept done =>
      refine ⟨fun task running => ?_, fun task never => by cases never⟩
      cases kept.symm.trans (inv.current task running)
      exact absurd done (Process.not_done_of_running running)
  | joined stale kept waits => exact ⟨inv.current, inv.known⟩
  | started stale nothing =>
      constructor
      · intro task running
        have runs : (process.tasks ++ [false])[task]? = some false := running
        rcases Nat.lt_trichotomy task process.tasks.length with older | rfl | beyond
        · rw [List.getElem?_append_left older] at runs
          cases nothing.symm.trans (inv.current task runs)
        · rfl
        · rw [List.getElem?_eq_none (by simp; omega)] at runs
          cases runs
      · rintro task ⟨⟩
        simp
  | resumed waits ends =>
      rename_i task
      rcases Process.release_cases process task with same | ⟨done, kept, taken⟩
      · rw [same]
        exact ⟨inv.current, inv.known⟩
      · rw [taken]
        refine ⟨fun other running => ?_, fun other never => by cases never⟩
        cases kept.symm.trans (inv.current other running)
        exact absurd done (Process.not_done_of_running running)
  | finished running =>
      rename_i task answer now
      constructor
      · intro other runs
        rw [load_refreshTask]
        have runs : (process.tasks.set task true)[other]? = some false := runs
        refine inv.current other ?_
        by_cases own : task = other
        · subst own
          simp [List.getElem?_set] at runs
        · rwa [List.getElem?_set_ne own] at runs
      · intro other kept
        rw [load_refreshTask] at kept
        simpa using inv.known other kept

theorem run_snoc (process : Process) (events : List Event) (event : Event) :
    run process (events ++ [event]) = (run process events).bind (step · event) := by
  rw [run, List.foldlM_append]
  simp [run]

theorem inv_run {events : List Event} {process : Process} (ran : run .new events = some process) :
    Inv process := by
  induction events using List.reverseRecOn generalizing process with
  | nil =>
      cases ran
      exact inv_new
  | append_singleton events event ih =>
      rw [run_snoc] at ran
      obtain ⟨earlier, ran, happens⟩ := Option.bind_eq_some_iff.1 ran
      exact inv_next (ih ran) (next_of_step happens)

theorem running_unique (events : List Event) : OneLoad events := by
  intro before _ process ran task other runs runs'
  have inv := inv_run ran
  exact Option.some.inj ((inv.current task runs).symm.trans (inv.current other runs'))

/-! ## What a load leaves -/

section Quiet

variable {process after_ : Process} {event : Event}

/-- Where no load ends, those that run go on, and the catalog holds what it held. -/
theorem quiet (next : Next process event after_) (noFinish : event.isFinish = false) :
    (∀ task, process.Running task → after_.Running task) ∧
      ∀ answer now, LeftBy answer now process.catalog → LeftBy answer now after_.catalog := by
  cases next with
  | fresh fresh => exact ⟨fun _ running => running, fun _ _ held => held⟩
  | left stale kept done => exact ⟨fun _ running => running, fun _ _ held => held⟩
  | joined stale kept waits => exact ⟨fun _ running => running, fun _ _ held => held⟩
  | started stale nothing =>
      refine ⟨fun task running => ?_, fun _ _ held => held⟩
      have older : task < process.tasks.length := (List.getElem?_eq_some_iff.1 running).1
      exact (List.getElem?_append_left older).trans running
  | resumed waits ends =>
      rename_i task
      rcases Process.release_cases process task with same | ⟨_, _, taken⟩
      · rw [same]
        exact ⟨fun _ running => running, fun _ _ held => held⟩
      · rw [taken]
        exact ⟨fun _ running => running, fun _ _ held => held⟩
  | finished running => cases noFinish

/-- A call that waits has waited for that load since it started. -/
theorem waits_since (next : Next process event after_) {caller : Caller} {task : Task}
    (made : caller < process.callers.length) (waits : after_.callers[caller]? = some (some task)) :
    process.callers[caller]? = some (some task) := by
  cases next with
  | fresh fresh => rwa [List.getElem?_append_left made] at waits
  | left stale kept done => rwa [List.getElem?_append_left made] at waits
  | joined stale kept _ => rwa [List.getElem?_append_left made] at waits
  | started stale nothing => rwa [List.getElem?_append_left made] at waits
  | resumed _ ends =>
      rename_i other _ _ _
      have waits : (process.callers.set other none)[caller]? = some (some task) := waits
      by_cases own : other = caller
      · subst own
        simp [List.getElem?_set] at waits
      · rwa [List.getElem?_set_ne own] at waits
  | finished running => exact waits

theorem callers_grow (next : Next process event after_) :
    process.callers.length ≤ after_.callers.length := by
  cases next <;> simp

end Quiet

theorem load_left (catalog : CoinbaseCatalog) (answer : Answer) (now : Timestamp) :
    LeftBy answer now (catalog.load answer now) := by
  cases answer with
  | products products =>
      refine ⟨rfl, ?_⟩
      rintro _ ⟨⟩
      exact ⟨rfl, rfl⟩
  | timeoutError => exact ⟨rfl, fun _ never => by cases never⟩
  | httpStatusError statusCode => exact ⟨rfl, fun _ never => by cases never⟩
  | exception => exact ⟨rfl, fun _ never => by cases never⟩

/-- Either no load ended, and those that ran still do, or the last one to end left the catalog. -/
theorem last_finish {process final : Process} {during : List Event}
    (ran : run process during = some final) :
    (∀ task, process.Running task → final.Running task) ∨ ServedBy process during final := by
  induction during using List.reverseRecOn generalizing final with
  | nil =>
      cases ran
      exact .inl fun _ running => running
  | append_singleton during event ih =>
      rw [run_snoc] at ran
      obtain ⟨middle, upTo, happens⟩ := Option.bind_eq_some_iff.1 ran
      have next := next_of_step happens
      cases finish : event.isFinish with
      | true =>
          cases next with
          | finished running =>
              exact .inr ⟨during, _, _, _, [], middle, rfl, upTo, running, by simp, load_left ..⟩
          | fresh => cases finish
          | left => cases finish
          | joined => cases finish
          | started => cases finish
          | resumed => cases finish
      | false =>
          obtain ⟨goesOn, held⟩ := quiet next finish
          rcases ih upTo with running | ⟨before, task, answer, now, after_, at_, split, first, runs, last, left⟩
          · exact .inl fun task runs => goesOn task (running task runs)
          · refine .inr ⟨before, task, answer, now, after_ ++ [event], at_, by simp [split], first, runs,
              fun later member => ?_, held _ _ left⟩
            rcases List.mem_append.1 member with inside | own
            · exact last later inside
            · rw [List.mem_singleton.1 own]
              exact finish

section Waiting

variable {process final : Process} {during : List Event}

theorem callers_run (ran : run process during = some final) :
    process.callers.length ≤ final.callers.length := by
  induction during using List.reverseRecOn generalizing final with
  | nil =>
      cases ran
      exact le_rfl
  | append_singleton during event ih =>
      rw [run_snoc] at ran
      obtain ⟨middle, ran, happens⟩ := Option.bind_eq_some_iff.1 ran
      exact (ih ran).trans (callers_grow (next_of_step happens))

theorem waits_run (ran : run process during = some final) {caller : Caller} {task : Task}
    (made : caller < process.callers.length) (waits : final.callers[caller]? = some (some task)) :
    process.callers[caller]? = some (some task) := by
  induction during using List.reverseRecOn generalizing final with
  | nil =>
      cases ran
      exact waits
  | append_singleton during event ih =>
      rw [run_snoc] at ran
      obtain ⟨middle, ran, happens⟩ := Option.bind_eq_some_iff.1 ran
      have already : caller < middle.callers.length := made.trans_le (callers_run ran)
      exact ih ran (waits_since (next_of_step happens) already waits)

end Waiting

/-! ## Who is served -/

section Call

variable {process : Process} {now : Timestamp}

/-- A stale call that waits, waits for a load that runs. -/
theorem waits_running (inv : Inv process) (stale : process.catalog.isFresh now = false) {task : Task}
    (waits : (process.refresh now).callers[process.callers.length]? = some (some task)) :
    (process.refresh now).Running task := by
  have next := next_refresh process now
  generalize process.refresh now = begun at next waits ⊢
  cases next with
  | fresh fresh => cases fresh.symm.trans stale
  | left _ kept done => simp at waits
  | joined _ kept notDone =>
      rename_i joined _
      have same : joined = task := by simpa using waits
      subst same
      obtain ⟨status, here⟩ : ∃ status, process.tasks[joined]? = some status :=
        ⟨_, List.getElem?_eq_getElem (inv.known joined kept)⟩
      cases status with
      | true => exact absurd here notDone
      | false => exact here
  | started _ nothing =>
      have same : process.tasks.length = task := by simpa using waits
      subst same
      simp [Process.Running]

/-- A stale call returns at once only where it finds a load that is done. -/
theorem returns_at_once_iff (stale : process.catalog.isFresh now = false) :
    (process.refresh now).callers[process.callers.length]? = some none ↔
      ∃ task, process.catalog.refreshTask = some task ∧ process.Done task := by
  have next := next_refresh process now
  generalize process.refresh now = begun at next ⊢
  cases next with
  | fresh fresh => cases fresh.symm.trans stale
  | left _ kept done => exact iff_of_true (by simp) ⟨_, kept, done⟩
  | joined _ kept notDone =>
      refine iff_of_false (by simp) ?_
      rintro ⟨task, kept', done⟩
      cases kept.symm.trans kept'
      exact notDone done
  | started _ nothing =>
      refine iff_of_false (by simp) ?_
      rintro ⟨task, kept, done⟩
      cases nothing.symm.trans kept

theorem refresh_made (process : Process) (now : Timestamp) :
    process.callers.length < (process.refresh now).callers.length := by
  have next := next_refresh process now
  generalize process.refresh now = begun at next ⊢
  cases next <;> simp

/-- Who waits for a load until it is done is served. -/
theorem served_of_waiting {final : Process} {earlier : List Event} (inv : Inv process)
    (stale : process.catalog.isFresh now = false)
    (ran : run (process.refresh now) (earlier ++ [.resume process.callers.length false]) = some final) :
    ServedBy (process.refresh now) (earlier ++ [.resume process.callers.length false]) final := by
  rcases last_finish ran with stillRunning | served
  · exfalso
    rw [run_snoc] at ran
    obtain ⟨middle, upTo, happens⟩ := Option.bind_eq_some_iff.1 ran
    have next := next_of_step happens
    cases next with
    | resumed waits ends =>
        rename_i task
        have done : middle.Done task := by simpa using ends
        have running := waits_running inv stale (waits_run upTo (refresh_made process now) waits)
        have after_ := stillRunning task running
        rw [Process.Running, Process.release_tasks] at after_
        exact Process.not_done_of_running after_ done
  · exact served

end Call

/-- There is one load at a time; and every call that starts on a stale catalog and returns is
served by a load that ran during the call exactly when no such call finds a load that is done, and
still kept. -/
theorem sharedRefresh_iff (events : List Event) : SharedRefresh events ↔ NoneLeft events := by
  constructor
  · rintro ⟨_, served⟩ before now upTo process ran stale task kept done
    have atOnce := (returns_at_once_iff stale).2 ⟨task, kept, done⟩
    obtain ⟨before', _, _, _, _, _, split, _⟩ :=
      served before now [] upTo process _ ran stale rfl (.inl ⟨rfl, atOnce⟩)
    simp at split
  · intro noneLeft
    refine ⟨running_unique events, ?_⟩
    intro before now during upTo process final ran stale goesOn returns
    rcases returns with ⟨rfl, atOnce⟩ | ⟨earlier, rfl⟩
    · obtain ⟨task, kept, done⟩ := (returns_at_once_iff stale).1 atOnce
      exact absurd done (noneLeft before now upTo process ran stale task kept)
    · exact served_of_waiting (inv_run ran) stale goesOn

/-- The only caller of a load is cancelled, the load gets its answer, and a call a quarter of an hour
later returns at once. -/
theorem unclaimed_load_answers : ¬SharedRefresh [.refresh 0, .resume 0 true, .finish 0 (.products []) 1,
    .refresh (1 + freshFor)] := by
  rintro ⟨_, served⟩
  obtain ⟨before, _, _, _, _, _, split, _⟩ :=
    served [.refresh 0, .resume 0 true, .finish 0 (.products []) 1] (1 + freshFor) [] (List.prefix_refl _)
      ⟨⟨some [], some 1, none, some 0⟩, [true], [none]⟩ ⟨⟨some [], some 1, none, none⟩, [true], [none, none]⟩
      (by decide) (by decide) (by decide) (.inl ⟨rfl, by decide⟩)
  simp at split

end AlgoTrader.Api.CoinCatalog
