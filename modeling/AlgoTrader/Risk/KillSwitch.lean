/-
# Risk.KillSwitch -- the persistent kill switch

A switch holds one of three states of rising severity, writes it to a file that a
restart reads back, and journals every transition.  Raising takes effect before it
is journalled, so that a stop never waits on the database; lowering is journalled
first, and does not happen when it cannot be.

Every step on the switch's memory, file and journal is a request of its own: a
failure can fall between any two of them.

* `trip_switchOnly`, `syncExternalState_switchOnly` -- what the automatic paths
  ask for is the switch's own business and nothing else's.
-/
import AlgoTrader.Process.World
import AlgoTrader.Theory.Frames

namespace AlgoTrader.Risk.KillSwitch

open AlgoTrader.Core Brokers Theory Process

set_option autoImplicit false

/-- How a switch is set up: a state file, a journal, a flag file to watch. -/
structure Config where
  path : Bool
  journal : Bool
  flagPath : Bool

def severity : KillSwitchState → Nat
  | .running => 0
  | .paused => 1
  | .halted => 2

def load : Proc SwitchMemory := ask (.switch .load)

def modify (change : SwitchMemory → SwitchMemory) : Proc Unit := do
  let memory ← load
  ask (.switch (.save (change memory)))

/-- The property `state`. -/
def state : Proc KillSwitchState := do
  let memory ← load
  return memory.state

def persist (config : Config) : Proc Unit :=
  Prog.when config.path do
    let memory ← load
    ask (.switch (.stageFile memory.state))
    ask (.switch (.replaceFile memory.state))

/-- Save every transition that is not saved yet, all or none. -/
def flush : Proc Bool := do
  let memory ← load
  match ← (ask (.switch (.journal memory.unrecorded))).attempt with
  | .ok _ => do
      modify fun memory => { memory with unrecorded := [] }
      return true
  | .error _ => return false

/-- Whether the journal is up to date; without one the events stay in memory. -/
def flushed (config : Config) : Proc Bool := if config.journal then flush else pure true

def record (config : Config) (event : SwitchEvent) (required : Bool) : Proc Unit := do
  modify fun memory => { memory with unrecorded := memory.unrecorded ++ [event] }
  let saved ← flushed config
  if !saved && required then
    modify fun memory => { memory with unrecorded := memory.unrecorded.erase event }
    .raise (.transitionNotRecorded "kill-switch transition could not be recorded")
  else
    modify fun memory => { memory with auditEvents := memory.auditEvents ++ [event] }

/-- A transition that is allowed and changes the state. -/
def transition (config : Config) (event : SwitchEvent) : Proc Unit :=
  if severity event.target < severity event.previous then do
    record config event true
    modify fun memory => { memory with state := event.target }
    persist config
  else do
    modify fun memory => { memory with state := event.target }
    persist config
    record config event false

def setState (config : Config) (target : KillSwitchState) (automatic : Bool) (reason : String)
    (actor : Option String) (checklist : List String) : Proc Unit := do
  let previous ← state
  if previous = .halted ∧ target = .running ∧ automatic then
    .raise (.permissionError "HALTED requires manual re-arm")
  else if automatic ∧ target = .running then
    .raise (.permissionError "automatic actuation cannot re-arm the kill switch")
  else if target ≠ .running ∧ severity target < severity previous then
    .raise (.permissionError "only a manual re-arm can lower the kill switch")
  else if target = previous then
    -- Rewrite even an unchanged state, so a lost file is restored.
    persist config
  else do
    let eventId ← ask (.host .uuid4)
    let createdAt ← ask (.host .utcNow)
    transition config
      { eventId, previous, target, automatic, reason, checklist, createdAt
        -- An empty actor is as good as none.
        actor := (actor.filter (· ≠ "")).getD (if automatic then "system" else "operator") }

/-- Lower the switch to running after an administrator review. -/
def rearm (config : Config) (actor reason : String) (checklist : List String) : Proc Bool :=
  if !config.journal then
    .raise (.transitionNotRecorded "kill-switch transition history is not configured")
  else do
    let current ← state
    if current = .running then
      persist config
      return false
    else
      setState config .running false reason (some actor) checklist
      return true

/-- Raise the severity to `target`; a request at or below the current one leaves it. -/
def tighten (config : Config) (target : KillSwitchState) (reason : String)
    (actor : Option String) : Proc Bool := do
  let current ← state
  if severity current < severity target then
    setState config target false reason actor []
    return true
  else
    persist config
    return false

def trip (config : Config) (reason : String) : Proc Unit :=
  setState config .halted true reason none []

/-! ## The external flags -/

/-- The blanks `str.strip` removes. -/
def isSpace (c : Char) : Bool :=
  (9 ≤ c.toNat && c.toNat ≤ 13) || (28 ≤ c.toNat && c.toNat ≤ 32) ||
    (8192 ≤ c.toNat && c.toNat ≤ 8202) ||
    [133, 160, 5760, 8232, 8233, 8239, 8287, 12288].contains c.toNat

/-- `raw.strip().lower()`, as far as the names of the states can tell. -/
def normalise (raw : String) : List Char :=
  (((raw.toList.dropWhile isSpace).reverse.dropWhile isSpace).reverse).map Char.toLower

/-- `KillSwitchState(value)`. -/
def readState (value : List Char) : Option KillSwitchState :=
  if value = "running".toList then some .running
  else if value = "paused".toList then some .paused
  else if value = "halted".toList then some .halted
  else none

/-- Apply one flag; it can only pause or halt. -/
def applyFlag (config : Config) (source raw : String) : Proc Unit :=
  let value := normalise raw
  if value = [] then return ()
  else
    match readState value with
    | none => trip config s!"external actuation ({source}): unrecognised kill-switch flag"
    | some requested => do
        let current ← state
        Prog.when (severity current < severity requested)
          (setState config requested true s!"external actuation ({source})" none [])

def readFlag (config : Config) : Proc (Option String) :=
  if config.flagPath then do
    let present ← ask (.switch .flagExists)
    if present then
      match ← (ask (.switch .readFlag)).attempt with
      | .ok text => return some text
      | .error exc => if exc.kind = .osError then return some "unreadable" else .raise exc
    else return none
  else return none

def applyFile (config : Config) : Option String → Proc Unit
  | some text => applyFlag config "file" text
  | none => pure ()

/-- Apply the environment and file flags, read on every trading loop. -/
def syncExternalState (config : Config) : Proc KillSwitchState := do
  let environment ← ask (.switch .environ)
  let file ← readFlag config
  applyFlag config "environment" environment
  applyFile config file
  state

/-! ## What the switch asks for -/

/-- The requests of the switch: its own, and the time and a fresh identifier. -/
inductive SwitchOnly : Op → Prop
  | switch (op : SwitchOp) : SwitchOnly (.switch op)
  | uuid4 : SwitchOnly (.host .uuid4)
  | utcNow : SwitchOnly (.host .utcNow)

theorem modify_switchOnly (change : SwitchMemory → SwitchMemory) :
    Issues SwitchOnly (modify change) :=
  issues_bind (issues_call (.switch _)) fun _ => issues_call (.switch _)

theorem state_switchOnly : Issues SwitchOnly state :=
  issues_bind (issues_call (.switch _)) fun _ => issues_pure _

theorem persist_switchOnly (config : Config) : Issues SwitchOnly (persist config) :=
  issues_when fun _ => issues_bind (issues_call (.switch _)) fun _ =>
    issues_bind (issues_call (.switch _)) fun _ => issues_call (.switch _)

theorem flush_switchOnly : Issues SwitchOnly flush := by
  refine issues_bind (issues_call (.switch _)) fun memory => ?_
  refine issues_bind (issues_attempt (issues_call (.switch _))) fun outcome => ?_
  cases outcome with
  | ok value => exact issues_bind (modify_switchOnly _) fun _ => issues_pure _
  | error exc => exact issues_pure _

theorem record_switchOnly (config : Config) (event : SwitchEvent) (required : Bool) :
    Issues SwitchOnly (record config event required) := by
  refine issues_bind (modify_switchOnly _) fun _ => issues_bind ?_ fun saved => ?_
  · unfold flushed
    split
    · exact flush_switchOnly
    · exact issues_pure _
  · by_cases refused : (!saved && required) = true
    · rw [if_pos refused]
      exact issues_bind (modify_switchOnly _) fun _ => issues_raise _
    · rw [if_neg refused]
      exact modify_switchOnly _

theorem transition_switchOnly (config : Config) (event : SwitchEvent) :
    Issues SwitchOnly (transition config event) := by
  unfold transition
  split
  · exact issues_bind (record_switchOnly _ _ _) fun _ =>
      issues_bind (modify_switchOnly _) fun _ => persist_switchOnly _
  · exact issues_bind (modify_switchOnly _) fun _ =>
      issues_bind (persist_switchOnly _) fun _ => record_switchOnly _ _ _

theorem setState_switchOnly (config : Config) (target : KillSwitchState) (automatic : Bool)
    (reason : String) (actor : Option String) (checklist : List String) :
    Issues SwitchOnly (setState config target automatic reason actor checklist) := by
  refine issues_bind state_switchOnly fun previous => ?_
  split
  · exact issues_raise _
  · split
    · exact issues_raise _
    · split
      · exact issues_raise _
      · split
        · exact persist_switchOnly _
        · exact issues_bind (issues_call .uuid4) fun _ =>
            issues_bind (issues_call .utcNow) fun _ => transition_switchOnly _ _

theorem trip_switchOnly (config : Config) (reason : String) : Issues SwitchOnly (trip config reason) :=
  setState_switchOnly _ _ _ _ _ _

theorem tighten_switchOnly (config : Config) (target : KillSwitchState) (reason : String)
    (actor : Option String) : Issues SwitchOnly (tighten config target reason actor) := by
  refine issues_bind state_switchOnly fun current => ?_
  split
  · exact issues_bind (setState_switchOnly _ _ _ _ _ _) fun _ => issues_pure _
  · exact issues_bind (persist_switchOnly _) fun _ => issues_pure _

theorem rearm_switchOnly (config : Config) (actor reason : String) (checklist : List String) :
    Issues SwitchOnly (rearm config actor reason checklist) := by
  unfold rearm
  split
  · exact issues_raise _
  · refine issues_bind state_switchOnly fun current => ?_
    split
    · exact issues_bind (persist_switchOnly _) fun _ => issues_pure _
    · exact issues_bind (setState_switchOnly _ _ _ _ _ _) fun _ => issues_pure _

theorem applyFlag_switchOnly (config : Config) (source raw : String) :
    Issues SwitchOnly (applyFlag config source raw) := by
  unfold applyFlag
  dsimp only
  split
  · exact issues_pure _
  · split
    · exact trip_switchOnly _ _
    · exact issues_bind state_switchOnly fun _ => issues_when fun _ => setState_switchOnly _ _ _ _ _ _

theorem readFlag_switchOnly (config : Config) : Issues SwitchOnly (readFlag config) := by
  unfold readFlag
  split
  · refine issues_bind (issues_call (.switch _)) fun present => ?_
    split
    · refine issues_bind (issues_attempt (issues_call (.switch _))) fun outcome => ?_
      cases outcome with
      | ok text => exact issues_pure _
      | error exc =>
          dsimp only
          split
          · exact issues_pure _
          · exact issues_raise _
    · exact issues_pure _
  · exact issues_pure _

theorem syncExternalState_switchOnly (config : Config) :
    Issues SwitchOnly (syncExternalState config) := by
  refine issues_bind (issues_call (.switch _)) fun environment => ?_
  refine issues_bind (readFlag_switchOnly _) fun file => ?_
  refine issues_bind (applyFlag_switchOnly _ _ _) fun _ => issues_bind ?_ fun _ => state_switchOnly
  cases file with
  | none => exact issues_pure _
  | some text => exact applyFlag_switchOnly _ _ _

/-! ## Stops only raise the switch

The switch's methods run under its own lock: between their steps nothing else moves
it.  Under the lock a request to tighten, and a trip, leave the state as it is or
raise it. -/

def locked : Environment where
  lossy := false
  switchMoves before after := after = before
  elsewhere before after := after = before

def alone : Contract effects Exc World where
  serve := Serve locked
  assume _ _ := True
  guard _ _ := True
  invariant _ := True

/-- The state the switch is in. -/
def stateOf (world : World) : KillSwitchState := world.switch.memory.state

/-- The program ends, however it ends, in the state it began in. -/
def Keeps {α : Type} (p : Proc α) : Prop :=
  ∀ m : Instant, wp alone.logic (fun _ m' => stateOf m'.world = stateOf m.world) p m

theorem keeps_of_leaves {α : Type} {p : Proc α}
    (leaves : Leaves (Serve locked) (fun m : Instant => stateOf m.world) p) : Keeps p := leaves

section State

variable {env : Environment}

/-- A step of the switch that leaves the state in its memory. -/
theorem switch_leaves {op : SwitchOp} (still : ∀ before reply after,
    SwitchServe op before reply after → after.memory.state = before.memory.state) :
    Leaves (Serve env) (fun m : Instant => stateOf m.world) (ask (.switch op)) :=
  leaves_call fun m reply after ⟨switch, served, moved⟩ => by
    rw [Moment.push_world, moved]
    exact still _ _ _ served

theorem load_leaves : Leaves (Serve env) (fun m : Instant => stateOf m.world) load :=
  switch_leaves fun _ _ _ served => by rw [served.2]

/-- A change of the switch's memory is made of what is there. -/
theorem modify_ends (change : SwitchMemory → SwitchMemory) (m : Instant) :
    wp (Contract.plain (Serve env) fun _ => True).logic
      (fun _ m' => stateOf m'.world = (change m.world.switch.memory).state) (modify change) m := by
  refine wp_bind.2 (wp_served fun reply after served _ => ?_)
  obtain ⟨switch, ⟨rfl, same⟩, moved⟩ := served
  refine wp_served fun reply' after' served' _ => ?_
  obtain ⟨switch', ⟨_, saved⟩, moved'⟩ := served'
  rw [Moment.push_world, moved', saved]
  rfl

theorem modify_leaves {change : SwitchMemory → SwitchMemory}
    (same : ∀ memory, (change memory).state = memory.state) :
    Leaves (Serve env) (fun m : Instant => stateOf m.world) (modify change) :=
  fun m => wp_mono (modify_ends change m) fun _ _ ended => ended.trans (same _)

theorem persist_leaves (config : Config) :
    Leaves (Serve env) (fun m : Instant => stateOf m.world) (persist config) := by
  refine leaves_when (load_leaves.bind fun memory => Leaves.bind ?_ fun _ => ?_)
  · exact switch_leaves fun before reply after served => congrArg (·.memory.state) served
  · refine switch_leaves fun before reply after served => ?_
    rcases served with ⟨_, rfl⟩ | ⟨_, rfl⟩
    · rfl
    · rfl

theorem flushed_leaves (config : Config) :
    Leaves (Serve env) (fun m : Instant => stateOf m.world) (flushed config) := by
  unfold flushed
  split
  · refine load_leaves.bind fun memory => Leaves.bind (Leaves.attempt ?_) fun outcome => ?_
    · refine switch_leaves fun before reply after served => ?_
      rcases served with ⟨_, rfl⟩ | ⟨_, rfl⟩
      · rfl
      · rfl
    · cases outcome with
      | ok value => exact Leaves.bind (modify_leaves fun _ => rfl) fun _ => leaves_pure _
      | error exc => exact leaves_pure _
  · exact leaves_pure _

theorem record_leaves (config : Config) (event : SwitchEvent) (required : Bool) :
    Leaves (Serve env) (fun m : Instant => stateOf m.world) (record config event required) := by
  refine Leaves.bind (modify_leaves fun _ => rfl) fun _ => (flushed_leaves config).bind fun saved => ?_
  by_cases refused : (!saved && required) = true
  · rw [if_pos refused]
    exact Leaves.bind (modify_leaves fun _ => rfl) fun _ => leaves_raise _
  · rw [if_neg refused]
    exact modify_leaves fun _ => rfl

/-- A transition that does not lower the switch takes effect, whatever fails after it. -/
theorem transition_ends (config : Config) {event : SwitchEvent}
    (raises : severity event.previous ≤ severity event.target) (m : Instant) :
    wp (Contract.plain (Serve env) fun _ => True).logic (fun _ m' => stateOf m'.world = event.target)
      (transition config event) m := by
  unfold transition
  rw [if_neg (Nat.not_lt.2 raises)]
  refine Leaves.after ?_ fun _ => (persist_leaves config).bind fun _ => record_leaves config event false
  exact modify_ends (fun memory => { memory with state := event.target }) m

/-- What is read is what is there. -/
theorem state_reads {α : Type} {f : KillSwitchState → Proc α} {m : Instant}
    {post : Except Exc α → Instant → Prop} (rest : ∀ m' : Instant, m'.world = m.world →
      wp (Contract.plain (Serve env) fun _ => True).logic post (f (stateOf m.world)) m') :
    wp (Contract.plain (Serve env) fun _ => True).logic post (state >>= f) m := by
  refine wp_bind.2 (wp_bind.2 (wp_served fun reply after served _ => ?_))
  obtain ⟨switch, ⟨rfl, same⟩, moved⟩ := served
  have here : after = m.world := by rw [moved, same]
  exact rest _ here

end State

/-- The program ends in the state it began in or a stricter one. -/
def Raises {α : Type} (p : Proc α) : Prop :=
  ∀ m : Instant,
    wp alone.logic (fun _ m' => severity (stateOf m.world) ≤ severity (stateOf m'.world)) p m

theorem raises_of_keeps {α : Type} {p : Proc α} (keeps : Keeps p) : Raises p :=
  fun m => wp_mono (keeps m) fun _ _ same => (congrArg severity same).ge

theorem raises_bind_keeps {α β : Type} {p : Proc α} {f : α → Proc β} (first : Raises p)
    (rest : ∀ value, Keeps (f value)) : Raises (p >>= f) := by
  intro m
  refine wp_bind.2 (wp_mono (first m) ?_)
  rintro (exc | value) m' raised
  · exact raised
  · exact wp_mono (rest value m') fun _ _ same => same ▸ raised

theorem uuid4_keeps : Keeps (ask (.host .uuid4)) :=
  keeps_of_leaves (leaves_call fun _ _ _ ⟨_, _, still, moved⟩ => by rw [Moment.push_world, moved, still])

theorem utcNow_keeps : Keeps (ask (.host .utcNow)) :=
  keeps_of_leaves (leaves_call fun _ _ _ ⟨_, _, still, moved⟩ => by rw [Moment.push_world, moved, still])

theorem persist_keeps (config : Config) : Keeps (persist config) := keeps_of_leaves (persist_leaves config)

/-- Only a request for `running` lowers the switch. -/
theorem setState_raises (config : Config) {target : KillSwitchState} (stop : target ≠ .running)
    (automatic : Bool) (reason : String) (actor : Option String) (checklist : List String) :
    Raises (setState config target automatic reason actor checklist) := by
  intro m
  refine state_reads fun m' here => ?_
  have unchanged : severity (stateOf m.world) ≤ severity (stateOf m'.world) := here ▸ le_refl _
  split
  · exact unchanged
  split
  · exact unchanged
  split
  · exact unchanged
  rename_i notLower
  have raises : severity (stateOf m.world) ≤ severity target :=
    Nat.not_lt.1 fun lower => notLower ⟨stop, lower⟩
  split
  · exact here ▸ raises_of_keeps (persist_keeps config) m'
  · refine wp_bind.2 (wp_mono (uuid4_keeps m') ?_)
    rintro (exc | eventId) m₁ same₁
    · exact le_trans unchanged (congrArg severity same₁).ge
    refine wp_bind.2 (wp_mono (utcNow_keeps m₁) ?_)
    rintro (exc | createdAt) m₂ same₂
    · exact le_trans unchanged (congrArg severity (same₂.trans same₁)).ge
    · exact wp_mono (transition_ends config raises m₂) fun _ _ ended => ended ▸ raises

theorem trip_raises (config : Config) (reason : String) : Raises (trip config reason) :=
  setState_raises config (by decide) true reason none []

theorem tighten_raises (config : Config) (target : KillSwitchState) (reason : String)
    (actor : Option String) : Raises (tighten config target reason actor) := by
  intro m
  refine state_reads fun m' here => ?_
  split
  · rename_i above
    have stop : target ≠ .running := by
      rintro rfl
      exact absurd above (Nat.not_lt_zero _)
    have raised := raises_bind_keeps (setState_raises config stop false reason actor [])
      (fun _ => keeps_of_leaves (leaves_pure true)) m'
    exact here ▸ raised
  · exact here ▸ raises_of_keeps (keeps_of_leaves ((persist_leaves config).bind fun _ => leaves_pure false)) m'

/-- One stop: a complete run of `tighten` or of `trip`. -/
inductive Stop (config : Config) : SwitchWorld → SwitchWorld → Prop
  | tighten (target : KillSwitchState) (reason : String) (actor : Option String) {m final : Instant}
      {result : Except Exc Bool}
      (run : (tighten config target reason actor).Runs (Serve locked) m result final) :
      Stop config m.world.switch final.world.switch
  | trip (reason : String) {m final : Instant} {result : Except Exc Unit}
      (run : (trip config reason).Runs (Serve locked) m result final) :
      Stop config m.world.switch final.world.switch

/-- Stops, one after another, only raise the switch. -/
theorem severity_le_of_stops {config : Config} {before after : SwitchWorld}
    (stops : Relation.ReflTransGen (Stop config) before after) :
    severity before.memory.state ≤ severity after.memory.state := by
  have along : ∀ events, Along alone.assume events := fun events =>
    along_of_forall fun _ _ => trivial
  induction stops with
  | refl => exact le_refl _
  | tail _ stop ih =>
      refine le_trans ih ?_
      cases stop with
      | tighten target reason actor run =>
          exact wp_runs run (along _) (tighten_raises config target reason actor _)
      | trip reason run => exact wp_runs run (along _) (trip_raises config reason _)

end AlgoTrader.Risk.KillSwitch
