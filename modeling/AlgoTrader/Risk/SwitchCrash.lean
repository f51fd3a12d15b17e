/-
# Risk.SwitchCrash -- the switch after a crash

A restart knows the state from the file alone.  A call may be cut short between any
two of its steps: with the memory raised and the file not written, with an event
saved and the memory not lowered yet.  What the file says is then the state before
the call or one at least as severe, unless a re-arm has saved its event.

* `Durable` -- the invariant: what a restart would read is no less severe than it was,
  or what `lowered` says of the journal holds;
* `crash_safe` -- over calls, crashes inside them and restarts, in any order.

Between the calls the file and the memory agree (`Settled`), since every write of a
call that came to its end was done.
-/
import AlgoTrader.Risk.SwitchHistory

namespace AlgoTrader.Risk.KillSwitch

open AlgoTrader.Core Brokers Theory Process

set_option autoImplicit false

/-! ## The invariant of a call -/

/-- A re-arm of `previous` that is in `journal` and was not in `before`. -/
def RearmSaved (before : List SwitchEvent) (previous : KillSwitchState) (journal : List SwitchEvent) :
    Prop :=
  ∃ event ∈ journal, event.eventId ∉ idsOf before ∧ event.previous = previous ∧ event.target = .running

/-- A restart may read `state` where it would once have read a severity of `floor`. -/
def Allowed (lowered : List SwitchEvent → Prop) (floor : Nat) (state : KillSwitchState)
    (journal : List SwitchEvent) : Prop :=
  floor ≤ severity state ∨ lowered journal

/-- What a restart reads after a crash here is allowed. -/
def Durable (config : Config) (lowered : List SwitchEvent → Prop) (floor : Nat) (m : Instant) : Prop :=
  Allowed lowered floor (restartState config m.world.switch) m.world.switch.journal

/-- What holds of a journal holds of every longer one. -/
def Lasts (lowered : List SwitchEvent → Prop) : Prop :=
  ∀ journal journal', lowered journal → journal <+: journal' → lowered journal'

theorem lasts_rearmSaved (before : List SwitchEvent) (previous : KillSwitchState) :
    Lasts (RearmSaved before previous) := by
  rintro journal journal' ⟨event, member, rest⟩ grown
  exact ⟨event, grown.subset member, rest⟩

theorem lasts_never : Lasts fun _ => False := fun _ _ never _ => never

section Steps

variable {config : Config} {lowered : List SwitchEvent → Prop} {floor : Nat}

/-- The journal only grows, and only replacing the file replaces it. -/
theorem serve_durable {op : SwitchOp} {w w' : SwitchWorld} {reply : Except Exc op.Reply}
    (served : SwitchServe op w reply w') :
    w.journal <+: w'.journal ∧
      (w'.file = w.file ∨ ∃ state, op = .replaceFile state ∧ w'.file = some state) := by
  cases op with
  | load => rw [served.2]; exact ⟨List.prefix_refl _, .inl rfl⟩
  | save memory => rw [served.2]; exact ⟨List.prefix_refl _, .inl rfl⟩
  | stageFile state =>
      have same : w' = w := served
      rw [same]
      exact ⟨List.prefix_refl _, .inl rfl⟩
  | replaceFile state =>
      rcases served with ⟨_, rfl⟩ | ⟨_, rfl⟩
      · exact ⟨List.prefix_refl _, .inr ⟨state, rfl, rfl⟩⟩
      · exact ⟨List.prefix_refl _, .inl rfl⟩
  | journal events =>
      rcases served with ⟨_, rfl⟩ | ⟨_, rfl⟩
      · exact ⟨List.prefix_append _ _, .inl rfl⟩
      · exact ⟨List.prefix_refl _, .inl rfl⟩
  | environ => rw [served.2]; exact ⟨List.prefix_refl _, .inl rfl⟩
  | flagExists => rw [served.2]; exact ⟨List.prefix_refl _, .inl rfl⟩
  | readFlag =>
      have same : w' = w := served
      rw [same]
      exact ⟨List.prefix_refl _, .inl rfl⟩

/-- Under the lock nothing but the switch's own steps moves it. -/
theorem serve_locked {op : Op} {w w' : World} {reply : Except Exc op.Reply}
    (served : Serve locked op w reply w') :
    w'.switch = w.switch ∨ ∃ (call : SwitchOp) (reply : Except Exc call.Reply),
      op = .switch call ∧ SwitchServe call w.switch reply w'.switch := by
  cases op with
  | store call =>
      obtain ⟨store, _, switch, still, rfl⟩ := served
      exact .inl still
  | audit call =>
      obtain ⟨audit, _, switch, still, rfl⟩ := served
      exact .inl still
  | broker call => exact .inl (congrArg World.switch served)
  | switch call =>
      obtain ⟨switch, done, rfl⟩ := served
      exact .inr ⟨call, reply, rfl, done⟩
  | host call =>
      have moved : locked.moves w w' → w'.switch = w.switch := by
        rintro ⟨switch, still, rfl⟩
        exact still
      refine .inl ?_
      cases call with
      | utcNow => exact moved served.2
      | clock => exact moved served.2
      | uuid4 => exact moved served.2
      | readMemory => rw [served.2]
      | writeMemory memory => rw [served.2]
      | strategy state => exact moved served
      | onRecorded order fills => exact moved served
      | riskInputs signal state context => exact congrArg World.switch served
      | observe state => exact congrArg World.switch served
      | onOrderClosed order failure => exact congrArg World.switch served
      | onHalt reason => exact congrArg World.switch served

/-- Where the file may be replaced, for a crash to be safe. -/
def mayReplace (lowered : List SwitchEvent → Prop) (floor : Nat) (state : KillSwitchState)
    (t : Track) : Prop :=
  Allowed lowered floor state t.switch.journal

theorem mayReplace_steady : Steady (mayReplace lowered floor) floor := fun _ _ above => .inl above

/-- Every step keeps what a crash would leave. -/
theorem durable_kept (path : config.path = true) (lasts : Lasts lowered) {assume : Served → Prop}
    {op : Op} {m : Instant} {reply : Except Exc op.Reply} {after : World}
    (held : Durable config lowered floor m)
    (guarded : (watched assume (mayReplace lowered floor)).guard op m)
    (served : Serve locked op m.world reply after) :
    Durable config lowered floor (m.push op reply after) := by
  have restart : ∀ switch : SwitchWorld, restartState config switch = switch.file.getD .running :=
    fun switch => if_pos path
  rcases serve_locked served with still | ⟨call, _, rfl, done⟩
  · show Allowed _ _ (restartState config after.switch) after.switch.journal
    rw [still]
    exact held
  · obtain ⟨grown, file⟩ := serve_durable done
    rcases file with kept | ⟨state, rfl, replaced⟩
    · rcases held with above | saved
      · refine .inl ?_
        rw [Moment.push_world, restart, kept, ← restart]
        exact above
      · exact .inr (lasts _ _ saved grown)
    · rcases guarded state rfl with above | saved
      · refine .inl ?_
        rw [Moment.push_world, restart, replaced]
        exact above
      · exact .inr (lasts _ _ saved grown)

/-- The file says what the memory says. -/
def Settled (config : Config) (switch : SwitchWorld) : Prop :=
  restartState config switch = switch.memory.state

/-- A re-arm lowers the file only after its event was saved. -/
theorem lowering_saved (journal : config.journal = true) (t : Track) :
    Lowering FreshId (mayReplace (RearmSaved t.switch.journal t.state) floor) config t := by
  intro event t₁ previous target drawn recorded
  have new : event.eventId ∉ idsOf t.switch.journal := by
    intro held
    refine drawn.fresh ?_
    rw [historyOf, idsOf, List.map_append]
    exact List.mem_append_left _ held
  cases recorded with
  | unattached _ none =>
      rw [none] at journal
      cases journal
  | saved _ _ =>
      refine .inr ⟨event, ?_, new, previous, target⟩
      refine List.mem_append_right _ (List.mem_filter.2 ⟨?_, ?_⟩)
      · exact List.mem_append_right _ (List.mem_singleton_self event)
      · exact decide_eq_true new

section Call

variable {world : World} {entry : Call} {p' : Proc Unit} {m : Instant}
  (path : config.path = true) (settled : Settled config world.switch)
  (reached : (entry.program config).Reaches (Serve locked) ⟨world, []⟩ p' m)
  (assumed : ∀ e ∈ m.events, FreshId e)

include path settled reached assumed

/-- Wherever a call has come to, a restart reads a state no less severe than the one
before the call, or the one way to lower it has been taken. -/
theorem durable_in_call (lasts : Lasts lowered)
    (lowering : entry.isRearm = true → config.journal = true →
      Lowering FreshId (mayReplace lowered (severity (stateOf world))) config (.start world.switch)) :
    Durable config lowered (severity (stateOf world)) m := by
  have meets : Meets FreshId (mayReplace lowered (severity (stateOf world))) (.start world.switch)
      (entry.program config) (entry.Does FreshId config (.start world.switch)) :=
    meets_program config entry mayReplace_steady lowering
  have obligation := meets ⟨world, []⟩ rfl
  refine reaches_invariant _ ?_ reached (along_of_forall assumed) obligation ?_
  · intro op m reply after held guarded served _
    exact durable_kept path lasts held guarded served
  · exact .inl (congrArg severity settled).ge

/-- A crash inside a stop never lowers the switch. -/
theorem durable_in_stop (stop : entry.isRearm = false) :
    severity (stateOf world) ≤ severity (restartState config m.world.switch) := by
  have durable := durable_in_call path settled reached assumed lasts_never fun rearm => by
    rw [stop] at rearm
    cases rearm
  rcases durable with above | never
  · exact above
  · exact never.elim

/-- A crash inside any call lowers the switch only after a re-arm was saved. -/
theorem durable_in_any :
    Durable config (RearmSaved world.switch.journal (stateOf world)) (severity (stateOf world)) m :=
  durable_in_call path settled reached assumed (lasts_rearmSaved _ _) fun _ journal =>
    lowering_saved journal (.start world.switch)

end Call

end Steps

/-! ## Between the calls -/

section Settled

variable {assume : Served → Prop} {config : Config} {t t' : Track}

theorem Persists.settles (path : config.path = true) {result : Except Exc Unit}
    (persisted : Persists config t result t') :
    Settled config t'.switch ∨ (∃ exc, result = .error exc) ∧ t'.fileFailed = true := by
  cases persisted with
  | off none =>
      rw [none] at path
      cases path
  | written _ => exact .inl (if_pos path)
  | failed _ exc => exact .inr ⟨⟨exc, rfl⟩, rfl⟩

theorem Records.settles {event : SwitchEvent} {required : Bool} {result : Except Exc Unit}
    (recorded : Records config event t required result t') (settled : Settled config t.switch) :
    Settled config t'.switch := by
  cases recorded <;> exact settled

theorem Sets.settles (path : config.path = true) {target : KillSwitchState} {automatic : Bool}
    {result : Except Exc Unit} (sets : Sets assume config target automatic t result t')
    (settled : Settled config t.switch) :
    Settled config t'.switch ∨ (∃ exc, result = .error exc) ∧ t'.fileFailed = true := by
  cases sets with
  | refused exc forbidden => exact .inl settled
  | same same persisted => exact persisted.settles path
  | moved event allowed different previous goal drawn transited =>
      cases transited with
      | lowered lower recorded persisted => exact persisted.settles path
      | refused lower recorded => exact .inl (recorded.settles settled)
      | raised raises persisted recorded =>
          rcases persisted.settles path with here | ⟨⟨exc, raised⟩, _⟩
          · exact .inl (recorded.settles here)
          · cases raised
      | unsaved raises persisted =>
          rcases persisted.settles path with here | failed
          · exact .inl here
          · exact .inr failed

theorem AppliesFlag.settles (path : config.path = true) {raw : String} {result : Except Exc Unit}
    (applied : AppliesFlag assume config raw t result t') (settled : Settled config t.switch) :
    Settled config t'.switch ∨ (∃ exc, result = .error exc) ∧ t'.fileFailed = true := by
  cases applied with
  | blank blank => exact .inl settled
  | unknown text unknown moved => exact moved.settles path settled
  | above requested text known above moved => exact moved.settles path settled
  | below requested text known below => exact .inl settled

theorem Applies.settles (path : config.path = true) {raws : List String}
    {result : Except Exc KillSwitchState} (applied : Applies assume config raws t result t')
    (settled : Settled config t.switch) : Settled config t'.switch ∨ t'.fileFailed = true := by
  induction applied with
  | done t => exact .inl settled
  | next first others ih =>
      rcases first.settles path settled with here | ⟨⟨exc, raised⟩, _⟩
      · exact ih here
      · cases raised
  | failed first =>
      rcases first.settles path settled with here | ⟨_, failed⟩
      · exact .inl here
      · exact .inr failed

/-- A call that ran to its end with its writes to the file done leaves a file that says
what the memory says. -/
theorem Call.Does.settles (path : config.path = true) {entry : Call} {result : Except Exc Unit}
    (does : entry.Does assume config t result t') (settled : Settled config t.switch) :
    Settled config t'.switch ∨ t'.fileFailed = true := by
  have either : ∀ {result : Except Exc Unit},
      Settled config t'.switch ∨ (∃ exc, result = .error exc) ∧ t'.fileFailed = true →
        Settled config t'.switch ∨ t'.fileFailed = true := by
    rintro result (here | ⟨_, failed⟩)
    · exact .inl here
    · exact .inr failed
  cases entry with
  | tighten target reason actor =>
      obtain ⟨reply, tightens, _⟩ := does
      cases tightens with
      | above above moved => exact either (moved.settles path settled)
      | below below persisted => exact either (persisted.settles path)
  | trip reason => exact either (Sets.settles path does settled)
  | syncExternalState =>
      obtain ⟨reply, syncs, _⟩ := does
      cases syncs with
      | unread read => exact .inl settled
      | applied text before after environ read applied => exact applied.settles path settled
  | rearm actor reason checklist =>
      obtain ⟨reply, rearms, _⟩ := does
      cases rearms with
      | unattached none exc => exact .inl settled
      | already running persisted => exact either (persisted.settles path)
      | set journal stopped moved => exact either (moved.settles path settled)

/-- A request to tighten that came to its end, with its writes done, is in force. -/
theorem Tightens.inForce {target : KillSwitchState} {result : Except Exc Bool}
    (tightens : Tightens assume config target t result t') (files : t'.fileFailed = false)
    (path : config.path = true) (settled : Settled config t.switch) :
    severity target ≤ severity t'.state ∧ Settled config t'.switch := by
  cases tightens with
  | above above moved =>
      constructor
      · rcases moved.stops (ne_running_of_above above) (by omega) with ⟨_, left⟩ | ⟨_, failed⟩
        · exact (congrArg severity left).ge
        · rw [files] at failed
          cases failed
      · rcases moved.settles path settled with here | ⟨_, failed⟩
        · exact here
        · rw [files] at failed
          cases failed
  | below below persisted =>
      constructor
      · rw [persisted.state]
        exact Nat.not_lt.1 below
      · rcases persisted.settles path with here | ⟨_, failed⟩
        · exact here
        · rw [files] at failed
          cases failed

end Settled

/-! ## Over calls, crashes and restarts -/

/-- A process that starts again with the state its file holds and an empty queue. -/
def Restarts (config : Config) (world world' : World) : Prop :=
  world'.switch.memory.state = restartState config world.switch ∧
    world'.switch.memory.unrecorded = [] ∧ world'.switch.file = world.switch.file ∧
    world'.switch.journal = world.switch.journal

/-- Calls that come to their ends, with every write to the file done, and calls a crash
cuts short. -/
def crashing (config : Config) : Component effects Exc World where
  Entry := Call
  program := Call.program config
  serve := Serve locked
  assume := FreshId
  finished e := failsFile e = false
  restart := Restarts config

/-- A re-arm in `journal` that was not in `before`. -/
def RearmedSince (before journal : List SwitchEvent) : Prop :=
  ∃ previous, RearmSaved before previous journal

theorem RearmSaved.since {before between journal : List SwitchEvent} {previous : KillSwitchState}
    (saved : RearmSaved between previous journal) (grown : before <+: between) :
    RearmedSince before journal := by
  obtain ⟨event, member, new, rest⟩ := saved
  refine ⟨previous, event, member, ?_, rest⟩
  intro held
  exact new ((grown.map SwitchEvent.eventId).subset held)

theorem RearmedSince.later {before journal journal' : List SwitchEvent}
    (rearmed : RearmedSince before journal) (grown : journal <+: journal') :
    RearmedSince before journal' := by
  obtain ⟨previous, saved⟩ := rearmed
  exact ⟨previous, lasts_rearmSaved _ _ _ _ saved grown⟩

/-- The journal is never shortened. -/
theorem journal_grows {p p' : Proc Unit} {m m' : Instant} (reached : p.Reaches (Serve locked) m p' m') :
    m.world.switch.journal <+: m'.world.switch.journal := by
  induction reached with
  | here p m => exact List.prefix_refl _
  | request served rest ih =>
      refine List.IsPrefix.trans ?_ ih
      rcases serve_locked served with still | ⟨call, _, _, done⟩
      · exact congrArg SwitchWorld.journal still ▸ List.prefix_refl _
      · exact (serve_durable done).1

/-- What the calls and the crashes since `world` keep. -/
structure Surviving (config : Config) (world world' : World) : Prop where
  settled : Settled config world'.switch
  grown : world.switch.journal <+: world'.switch.journal
  kept : severity (stateOf world) ≤ severity (stateOf world') ∨
    RearmedSince world.switch.journal world'.switch.journal

section Surviving

variable {config : Config} {world world' : World}

/-- What a restart reads while a further call is under way. -/
theorem Surviving.durable (surviving : Surviving config world world') (path : config.path = true)
    {entry : Call} {p' : Proc Unit} {m : Instant}
    (reached : (entry.program config).Reaches (Serve locked) ⟨world', []⟩ p' m)
    (assumed : ∀ e ∈ m.events, FreshId e) :
    world.switch.journal <+: m.world.switch.journal ∧
      (severity (stateOf world) ≤ severity (restartState config m.world.switch) ∨
        RearmedSince world.switch.journal m.world.switch.journal) := by
  have grown : world'.switch.journal <+: m.world.switch.journal := journal_grows reached
  refine ⟨surviving.grown.trans grown, ?_⟩
  rcases surviving.kept with above | rearmed
  · rcases durable_in_any path surviving.settled reached assumed with here | saved
    · exact .inl (le_trans above here)
    · exact .inr (saved.since surviving.grown)
  · exact .inr (rearmed.later grown)

theorem lives_surviving (path : config.path = true) (settled : Settled config world.switch)
    {events : List Served} (lived : (crashing config).Lives world events world') :
    Surviving config world world' := by
  refine lived.invariant (fun _ world' => Surviving config world world')
    ⟨settled, List.prefix_refl _, .inl (le_refl _)⟩ ?_ ?_
  · intro earlier before entry result final surviving run assumed finished
    obtain ⟨p', reached⟩ := run.reaches
    obtain ⟨grown, kept⟩ := surviving.durable path reached assumed
    have does := call_outcome assumed run
    have settled : Settled config final.world.switch := by
      rcases does.settles path surviving.settled with here | failed
      · exact here
      · rw [files_done finished] at failed
        cases failed
    refine ⟨settled, grown, ?_⟩
    have same : restartState config final.world.switch = stateOf final.world := settled
    rw [same] at kept
    exact kept
  · intro earlier before entry p' m world'' surviving reached assumed restarted
    obtain ⟨grown, kept⟩ := surviving.durable path reached assumed
    obtain ⟨state, _, file, journal⟩ := restarted
    have same : restartState config world''.switch = restartState config m.world.switch := by
      unfold restartState
      rw [file]
    refine ⟨?_, ?_, ?_⟩
    · rw [Settled, same, state]
    · rw [journal]
      exact grown
    · have here : stateOf world'' = restartState config m.world.switch := state
      rw [journal, here]
      exact kept

end Surviving

/-- What holds of a crash after `world`. -/
structure CrashSafe (config : Config) (world : World) : Prop where
  /-- In the next call, a restart only reads less once this call's re-arm was saved. -/
  interrupted : ∀ {entry : Call} {p' : Proc Unit} {m : Instant},
    (entry.program config).Reaches (Serve locked) ⟨world, []⟩ p' m →
    (∀ e ∈ m.events, FreshId e) →
    severity (restartState config m.world.switch) < severity (stateOf world) →
      entry.isRearm = true ∧
        RearmSaved world.switch.journal (stateOf world) m.world.switch.journal
  /-- After any more calls and crashes, inside any call, it only reads less once some
  re-arm was saved. -/
  kept : ∀ {events : List Served} {world' : World} {entry : Call} {p' : Proc Unit} {m : Instant},
    (crashing config).Lives world events world' →
    (entry.program config).Reaches (Serve locked) ⟨world', []⟩ p' m →
    (∀ e ∈ m.events, FreshId e) →
    severity (restartState config m.world.switch) < severity (stateOf world) →
      RearmedSince world.switch.journal m.world.switch.journal
  /-- A stop that came to its end is in force, and on disk. -/
  tightened : ∀ {target : KillSwitchState} {reason : String} {actor : Option String}
    {result : Except Exc Bool} {final : Instant},
    (tighten config target reason actor).Runs (Serve locked) ⟨world, []⟩ result final →
    (∀ e ∈ final.events, failsFile e = false) →
      severity target ≤ severity (stateOf final.world) ∧
        severity target ≤ severity (restartState config final.world.switch)
  tripped : ∀ {reason : String} {result : Except Exc Unit} {final : Instant},
    (trip config reason).Runs (Serve locked) ⟨world, []⟩ result final →
    (∀ e ∈ final.events, failsFile e = false) →
      stateOf final.world = .halted ∧ restartState config final.world.switch = .halted

/-- **Crashes never lose a stop.**  Wherever calls, crashes and restarts have led from a
switch that agreed with its file, what comes next is safe. -/
theorem crash_safe {config : Config} (path : config.path = true) {start world : World}
    (booted : restartState config start.switch = stateOf start) {events : List Served}
    (lived : (crashing config).Lives start events world) : CrashSafe config world := by
  have settled : Settled config world.switch := (lives_surviving path booted lived).settled
  have onDisk : ∀ {final : World}, Settled config final.switch →
      restartState config final.switch = stateOf final := fun here => here
  refine ⟨?_, ?_, ?_, ?_⟩
  · intro entry p' m reached assumed lower
    constructor
    · by_contra stop
      have above := durable_in_stop path settled reached assumed (Bool.eq_false_iff.2 stop)
      omega
    · rcases durable_in_any path settled reached assumed with above | saved
      · omega
      · exact saved
  · intro events world' entry p' m lived reached assumed lower
    rcases ((lives_surviving path settled lived).durable path reached assumed).2 with above | rearmed
    · omega
    · exact rearmed
  · intro target reason actor result final run finished
    have tightens : Tightens (fun _ => True) config target (.start world.switch) result (track final) :=
      tighten_outcome (fun _ _ => trivial) run
    have inForce := tightens.inForce (files_done finished) path settled
    refine ⟨inForce.1, ?_⟩
    rw [onDisk inForce.2]
    exact inForce.1
  · intro reason result final run finished
    have sets : Sets (fun _ => True) config .halted true (.start world.switch) result (track final) :=
      trip_outcome (fun _ _ => trivial) run
    have files := files_done finished
    have halted : stateOf final.world = .halted := by
      rcases sets.stops (by decide) (severity_le_halted _) with ⟨_, left⟩ | ⟨_, failed⟩
      · exact left
      · rw [files] at failed
        cases failed
    refine ⟨halted, ?_⟩
    rcases sets.settles path settled with here | ⟨_, failed⟩
    · rw [onDisk here]
      exact halted
    · rw [files] at failed
      cases failed

theorem crash_safe_tripped : CrashSafe allConfigured tripped.2.world :=
  @crash_safe allConfigured rfl idleWorld _ rfl _
    (.call (K := crashing allConfigured) .start (.trip "stale data") tripped_runs tripped_fresh
      tripped_done)

end AlgoTrader.Risk.KillSwitch
