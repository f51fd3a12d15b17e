/-
# Risk.SwitchMethods -- what each method of the kill switch can do

A run of a method is many requests long, and each of them may fail.  What a caller,
or a crash, can find is less: the switch as it was, or with some of its steps done.
A `Track` is the switch with what matters of the run so far, and each method has the
relation of its outcomes over tracks: `Persists`, `Records`, `Transits`, `Sets`,
`Rearms`, `Tightens`, `AppliesFlag`, `Syncs`.

* `meets_setState`, `meets_rearm`, `meets_tighten`, `meets_trip`,
  `meets_syncExternalState` -- every run of a method is one of its outcomes;
* `Meets.run` -- so is every complete run against the world.

The file is only replaced where `ready` says so, which is how results about a crash
in the middle of a method say what may already be on disk.
-/
import AlgoTrader.Risk.KillSwitch
import AlgoTrader.Theory.Lives

namespace AlgoTrader.Risk.KillSwitch

open AlgoTrader.Core Brokers Theory Process

set_option autoImplicit false

/-! ## Tracks -/

/-- The switch, and what the run so far has done to it. -/
structure Track where
  switch : SwitchWorld
  /-- The journal accepted a write. -/
  recorded : Bool
  /-- A step on the file failed. -/
  fileFailed : Bool
  /-- The changes of the state, oldest first. -/
  changes : List (KillSwitchState × KillSwitchState)

/-- The journal accepts a write. -/
def accepts : Served → Bool
  | ⟨.switch (.journal _), .ok _, _, _⟩ => true
  | _ => false

/-- A step on the file fails. -/
def failsFile : Served → Bool
  | ⟨.switch (.stageFile _), .error _, _, _⟩ => true
  | ⟨.switch (.replaceFile _), .error _, _, _⟩ => true
  | _ => false

/-- The change of the state a save of the memory makes. -/
def change : Served → Option (KillSwitchState × KillSwitchState)
  | ⟨.switch (.save memory), _, before, _⟩ =>
      if memory.state = stateOf before then none else some (stateOf before, memory.state)
  | _ => none

def changesOf : List Served → List (KillSwitchState × KillSwitchState)
  | [] => []
  | e :: earlier => changesOf earlier ++ (change e).toList

theorem changesOf_append (later earlier : List Served) :
    changesOf (later ++ earlier) = changesOf earlier ++ changesOf later := by
  induction later with
  | nil => simp [changesOf]
  | cons e later ih => rw [List.cons_append, changesOf, changesOf, ih, List.append_assoc]

def track (m : Instant) : Track where
  switch := m.world.switch
  recorded := m.events.any accepts
  fileFailed := m.events.any failsFile
  changes := changesOf m.events

namespace Track

/-- Nothing has happened to the switch yet. -/
def start (switch : SwitchWorld) : Track := ⟨switch, false, false, []⟩

variable (t : Track)

def memory : SwitchMemory := t.switch.memory

def state : KillSwitchState := t.switch.memory.state

/-- The memory replaced, the state as it is. -/
def noted (auditEvents unrecorded : List SwitchEvent) : Track :=
  { t with switch := { t.switch with memory := ⟨t.state, auditEvents, unrecorded⟩ } }

/-- The state changed. -/
def moved (target : KillSwitchState) : Track :=
  { t with
    switch := { t.switch with memory := { t.switch.memory with state := target } }
    changes := t.changes ++ [(t.state, target)] }

/-- The state written to the file. -/
def written : Track := { t with switch := { t.switch with file := some t.state } }

/-- A write to the file that failed. -/
def unwritten : Track := { t with fileFailed := true }

/-- The queue and `event` saved in the journal. -/
def journalled (event : SwitchEvent) : Track :=
  { t with
    switch :=
      { t.switch.record (t.memory.unrecorded ++ [event]) with
        memory := ⟨t.state, t.memory.auditEvents ++ [event], []⟩ }
    recorded := true }

end Track

/-! ## Outcomes -/

inductive Persists (config : Config) (t : Track) : Except Exc Unit → Track → Prop
  | off (none : config.path = false) : Persists config t (.ok ()) t
  | written (path : config.path = true) : Persists config t (.ok ()) t.written
  | failed (path : config.path = true) (exc : Exc) : Persists config t (.error exc) t.unwritten

/-- What becomes of an event; `required` is whether it has to be saved at once. -/
inductive Records (config : Config) (event : SwitchEvent) (t : Track) :
    Bool → Except Exc Unit → Track → Prop
  | unattached (required : Bool) (none : config.journal = false) :
      Records config event t required (.ok ())
        (t.noted (t.memory.auditEvents ++ [event]) (t.memory.unrecorded ++ [event]))
  | saved (required : Bool) (journal : config.journal = true) :
      Records config event t required (.ok ()) (t.journalled event)
  | pending (journal : config.journal = true) :
      Records config event t false (.ok ())
        (t.noted (t.memory.auditEvents ++ [event]) (t.memory.unrecorded ++ [event]))
  | refused (journal : config.journal = true) (exc : Exc) :
      Records config event t true (.error exc)
        (t.noted t.memory.auditEvents ((t.memory.unrecorded ++ [event]).erase event))

inductive Transits (config : Config) (event : SwitchEvent) (t : Track) :
    Except Exc Unit → Track → Prop
  | lowered {t₁ t' : Track} {result : Except Exc Unit}
      (lower : severity event.target < severity event.previous)
      (recorded : Records config event t true (.ok ()) t₁)
      (persisted : Persists config (t₁.moved event.target) result t') :
      Transits config event t result t'
  | refused {t' : Track} {exc : Exc} (lower : severity event.target < severity event.previous)
      (recorded : Records config event t true (.error exc) t') :
      Transits config event t (.error exc) t'
  | raised {t₁ t' : Track} {result : Except Exc Unit}
      (raises : ¬severity event.target < severity event.previous)
      (persisted : Persists config (t.moved event.target) (.ok ()) t₁)
      (recorded : Records config event t₁ false result t') : Transits config event t result t'
  | unsaved {t' : Track} {exc : Exc} (raises : ¬severity event.target < severity event.previous)
      (persisted : Persists config (t.moved event.target) (.error exc) t') :
      Transits config event t (.error exc) t'

/-- A request the switch refuses outright. -/
def Forbidden (previous target : KillSwitchState) (automatic : Bool) : Prop :=
  automatic = true ∧ target = .running ∨ target ≠ .running ∧ severity target < severity previous

/-- An identifier drawn when the switch was as in `t`. -/
def Drawn (assume : Served → Prop) (t : Track) (id : Uuid) : Prop :=
  ∃ e, assume e ∧ minted e = some id ∧ e.before.switch = t.switch

inductive Sets (assume : Served → Prop) (config : Config) (target : KillSwitchState)
    (automatic : Bool) (t : Track) : Except Exc Unit → Track → Prop
  | refused (exc : Exc) (forbidden : Forbidden t.state target automatic) :
      Sets assume config target automatic t (.error exc) t
  | same {t' : Track} {result : Except Exc Unit} (same : target = t.state)
      (persisted : Persists config t result t') : Sets assume config target automatic t result t'
  | moved {t' : Track} {result : Except Exc Unit} (event : SwitchEvent)
      (allowed : ¬Forbidden t.state target automatic) (different : target ≠ t.state)
      (previous : event.previous = t.state) (goal : event.target = target)
      (drawn : Drawn assume t event.eventId) (transited : Transits config event t result t') :
      Sets assume config target automatic t result t'

inductive Rearms (assume : Served → Prop) (config : Config) (t : Track) :
    Except Exc Bool → Track → Prop
  | unattached (none : config.journal = false) (exc : Exc) : Rearms assume config t (.error exc) t
  | already {t' : Track} {result : Except Exc Unit} (running : t.state = .running)
      (persisted : Persists config t result t') :
      Rearms assume config t (result.map fun _ => false) t'
  | set {t' : Track} {result : Except Exc Unit} (journal : config.journal = true)
      (stopped : t.state ≠ .running) (moved : Sets assume config .running false t result t') :
      Rearms assume config t (result.map fun _ => true) t'

inductive Tightens (assume : Served → Prop) (config : Config) (target : KillSwitchState)
    (t : Track) : Except Exc Bool → Track → Prop
  | above {t' : Track} {result : Except Exc Unit} (above : severity t.state < severity target)
      (moved : Sets assume config target false t result t') :
      Tightens assume config target t (result.map fun _ => true) t'
  | below {t' : Track} {result : Except Exc Unit} (below : ¬severity t.state < severity target)
      (persisted : Persists config t result t') :
      Tightens assume config target t (result.map fun _ => false) t'

inductive AppliesFlag (assume : Served → Prop) (config : Config) (raw : String) (t : Track) :
    Except Exc Unit → Track → Prop
  | blank (blank : normalise raw = []) : AppliesFlag assume config raw t (.ok ()) t
  | unknown {t' : Track} {result : Except Exc Unit} (text : normalise raw ≠ [])
      (unknown : readState (normalise raw) = none)
      (moved : Sets assume config .halted true t result t') : AppliesFlag assume config raw t result t'
  | above {t' : Track} {result : Except Exc Unit} (requested : KillSwitchState)
      (text : normalise raw ≠ []) (known : readState (normalise raw) = some requested)
      (above : severity t.state < severity requested)
      (moved : Sets assume config requested true t result t') :
      AppliesFlag assume config raw t result t'
  | below (requested : KillSwitchState) (text : normalise raw ≠ [])
      (known : readState (normalise raw) = some requested)
      (below : ¬severity t.state < severity requested) : AppliesFlag assume config raw t (.ok ()) t

/-- What a reading of the flag file stands for. -/
def understood : Except Exc String → Except Exc (Option String)
  | .ok text => .ok (some text)
  | .error exc => if exc.kind = .osError then .ok (some "unreadable") else .error exc

/-- What the flag file is read as: absent, some text, or an error that gets out. -/
inductive ReadsFlag (assume : Served → Prop) (config : Config) : Except Exc (Option String) → Prop
  | unset (unset : config.flagPath = false) : ReadsFlag assume config (.ok none)
  | missing (path : config.flagPath = true) (before after : World)
      (gone : assume ⟨.switch .flagExists, .ok false, before, after⟩) :
      ReadsFlag assume config (.ok none)
  | present (path : config.flagPath = true) (before after before' after' : World)
      (there : assume ⟨.switch .flagExists, .ok true, before, after⟩)
      (reply : Except Exc String) (read : assume ⟨.switch .readFlag, reply, before', after'⟩) :
      ReadsFlag assume config (understood reply)

/-- The flags applied one after the other, up to the first that raises. -/
inductive Applies (assume : Served → Prop) (config : Config) :
    List String → Track → Except Exc KillSwitchState → Track → Prop
  | done (t : Track) : Applies assume config [] t (.ok t.state) t
  | next {raw : String} {rest : List String} {t t₁ t' : Track} {result : Except Exc KillSwitchState}
      (first : AppliesFlag assume config raw t (.ok ()) t₁)
      (others : Applies assume config rest t₁ result t') :
      Applies assume config (raw :: rest) t result t'
  | failed {raw : String} {rest : List String} {t t' : Track} {exc : Exc}
      (first : AppliesFlag assume config raw t (.error exc) t') :
      Applies assume config (raw :: rest) t (.error exc) t'

inductive Syncs (assume : Served → Prop) (config : Config) (t : Track) :
    Except Exc KillSwitchState → Track → Prop
  | unread {exc : Exc} (read : ReadsFlag assume config (.error exc)) :
      Syncs assume config t (.error exc) t
  | applied {file : Option String} {t' : Track} {result : Except Exc KillSwitchState} (text : String)
      (before after : World) (environ : assume ⟨.switch .environ, .ok text, before, after⟩)
      (read : ReadsFlag assume config (.ok file))
      (applied : Applies assume config (text :: file.toList) t result t') :
      Syncs assume config t result t'

/-! ## Runs and outcomes -/

def watched (assume : Served → Prop) (ready : KillSwitchState → Track → Prop) :
    Contract effects Exc World where
  serve := Serve locked
  assume e _ := assume e
  guard op m := ∀ state, op = .switch (.replaceFile state) → ready state (track m)
  invariant _ := True

section Meets

variable {assume : Served → Prop} {ready : KillSwitchState → Track → Prop} {α β : Type}

/-- Every run of `p` from a moment with track `t` is an outcome in `outcome`. -/
def Meets (assume : Served → Prop) (ready : KillSwitchState → Track → Prop) (t : Track)
    (p : Proc α) (outcome : Except Exc α → Track → Prop) : Prop :=
  ∀ m : Instant, track m = t →
    wp (watched assume ready).logic (fun result m' => outcome result (track m')) p m

theorem meets_pure {t : Track} {outcome : Except Exc α → Track → Prop} {value : α}
    (done : outcome (.ok value) t) : Meets assume ready t (pure value) outcome := by
  rintro m rfl
  exact done

theorem meets_raise {t : Track} {outcome : Except Exc α → Track → Prop} {exc : Exc}
    (raised : outcome (.error exc) t) : Meets assume ready t (.raise exc) outcome := by
  rintro m rfl
  exact raised

theorem Meets.mono {t : Track} {p : Proc α} {outcome weaker : Except Exc α → Track → Prop}
    (meets : Meets assume ready t p outcome)
    (implies : ∀ result t', outcome result t' → weaker result t') :
    Meets assume ready t p weaker :=
  fun m here => wp_mono (meets m here) fun _ _ ended => implies _ _ ended

theorem meets_bind {t : Track} {p : Proc α} {f : α → Proc β} {first : Except Exc α → Track → Prop}
    {outcome : Except Exc β → Track → Prop} (begins : Meets assume ready t p first)
    (rest : ∀ value t', first (.ok value) t' → Meets assume ready t' (f value) outcome)
    (raised : ∀ exc t', first (.error exc) t' → outcome (.error exc) t') :
    Meets assume ready t (p >>= f) outcome := by
  intro m here
  refine wp_bind.2 (wp_mono (begins m here) ?_)
  rintro (exc | value) m' ended
  · exact raised exc _ ended
  · exact rest value _ ended m' rfl

theorem meets_attempt {t : Track} {p : Proc α} {outcome : Except Exc α → Track → Prop}
    (inside : Meets assume ready t p outcome) :
    Meets assume ready t p.attempt (fun result t' => ∃ caught, result = .ok caught ∧ outcome caught t') :=
  fun m here => wp_attempt.2 (wp_mono (inside m here) fun result _ ended => ⟨result, rfl, ended⟩)

theorem meets_when {flag : Bool} {t : Track} {p : Proc Unit} {outcome : Except Exc Unit → Track → Prop}
    (on : flag = true → Meets assume ready t p outcome) (off : flag = false → outcome (.ok ()) t) :
    Meets assume ready t (Prog.when flag p) outcome := by
  rintro m rfl
  exact wp_when (fun flag => on flag m rfl) off

/-- A complete run from a switch at rest is an outcome of its program. -/
theorem Meets.run {p : Proc α} {world : World} {outcome : Except Exc α → Track → Prop}
    (meets : Meets assume ready (.start world.switch) p outcome) {result : Except Exc α}
    {final : Instant} (run : p.Runs (Serve locked) ⟨world, []⟩ result final)
    (assumed : ∀ e ∈ final.events, assume e) : outcome result (track final) :=
  wp_runs (C := watched assume ready) run (along_of_forall assumed) (meets ⟨world, []⟩ rfl)

theorem meets_call {op : Op} {t : Track} {outcome : Except Exc op.Reply → Track → Prop}
    (guarded : ∀ state, op = .switch (.replaceFile state) → ready state t)
    (replies : ∀ (m : Instant) reply after, track m = t → Serve locked op m.world reply after →
      assume (m.event op reply after) → outcome reply (track (m.push op reply after))) :
    Meets assume ready t (ask op) outcome := by
  rintro m rfl
  exact wp_call.2 ⟨guarded, fun reply after served assumed =>
    ⟨trivial, replies m reply after rfl served assumed⟩⟩

/-! ## The steps -/

variable {t : Track}

/-- A step that is no save, no journal write and no step on the file. -/
theorem track_push_quiet {m : Instant} {op : Op} {reply : Except Exc op.Reply} {after : World}
    (same : after.switch = m.world.switch) (notSave : change (m.event op reply after) = none)
    (notJournal : accepts (m.event op reply after) = false)
    (notFile : failsFile (m.event op reply after) = false) :
    track (m.push op reply after) = track m := by
  have changes : changesOf (m.push op reply after).events = changesOf m.events := by
    show changesOf m.events ++ (change (m.event op reply after)).toList = _
    rw [notSave]
    exact List.append_nil _
  have recorded : (m.push op reply after).events.any accepts = m.events.any accepts := by
    show (accepts (m.event op reply after) || _) = _
    rw [notJournal]
    rfl
  have files : (m.push op reply after).events.any failsFile = m.events.any failsFile := by
    show (failsFile (m.event op reply after) || _) = _
    rw [notFile]
    rfl
  show Track.mk after.switch _ _ _ = Track.mk m.world.switch _ _ _
  rw [same, changes, recorded, files]

theorem meets_load :
    Meets assume ready t load fun result t' => result = .ok t.memory ∧ t' = t := by
  refine meets_call (fun _ other => by cases other) ?_
  rintro m reply after rfl ⟨switch, ⟨replied, same⟩, moved⟩ _
  exact ⟨replied, track_push_quiet (by rw [moved, same]) rfl (by subst replied; rfl) rfl⟩

/-- Replacing the memory, the state with it. -/
def Track.saved (t : Track) (memory : SwitchMemory) : Track :=
  { t with
    switch := { t.switch with memory }
    changes := t.changes ++ if memory.state = t.state then [] else [(t.state, memory.state)] }

theorem Track.saved_noted (auditEvents unrecorded : List SwitchEvent) :
    t.saved ⟨t.state, auditEvents, unrecorded⟩ = t.noted auditEvents unrecorded := by
  simp [saved, noted]

theorem Track.saved_moved {target : KillSwitchState} (different : target ≠ t.state) :
    t.saved { t.memory with state := target } = t.moved target := by
  simp [saved, moved, memory, different]

theorem meets_save (memory : SwitchMemory) :
    Meets assume ready t (ask (.switch (.save memory)))
      fun result t' => result = .ok () ∧ t' = t.saved memory := by
  refine meets_call (fun _ other => by cases other) ?_
  rintro m reply after rfl ⟨switch, ⟨replied, same⟩, moved⟩ _
  refine ⟨replied, ?_⟩
  have changes : changesOf (m.push (.switch (.save memory)) reply after).events =
      changesOf m.events ++
        if memory.state = stateOf m.world then [] else [(stateOf m.world, memory.state)] := by
    show changesOf m.events ++ (if _ then _ else _ : Option _).toList = _
    split <;> rfl
  have left : after.switch = { m.world.switch with memory } := by rw [moved, same]
  show Track.mk after.switch _ _ (changesOf _) = _
  rw [changes, left]
  rfl

theorem meets_modify (by_ : SwitchMemory → SwitchMemory) :
    Meets assume ready t (modify by_) fun result t' => result = .ok () ∧ t' = t.saved (by_ t.memory) := by
  refine meets_bind meets_load ?_ ?_
  · rintro memory t' ⟨loaded, rfl⟩
    cases loaded
    exact meets_save _
  · rintro exc t' ⟨loaded, _⟩
    cases loaded

theorem meets_state : Meets assume ready t state fun result t' => result = .ok t.state ∧ t' = t := by
  refine meets_bind meets_load ?_ ?_
  · rintro memory t' ⟨loaded, rfl⟩
    cases loaded
    exact meets_pure ⟨rfl, rfl⟩
  · rintro exc t' ⟨loaded, _⟩
    cases loaded

theorem meets_utcNow :
    Meets assume ready t (ask (.host .utcNow)) fun result t' => ∃ now, result = .ok now ∧ t' = t := by
  refine meets_call (fun _ other => by cases other) ?_
  rintro m reply after rfl ⟨⟨now, replied⟩, switch, still, moved⟩ _
  subst replied
  exact ⟨now, rfl, track_push_quiet (by rw [moved, still]) rfl rfl rfl⟩

theorem meets_uuid4 :
    Meets assume ready t (ask (.host .uuid4)) fun result t' =>
      ∃ id, result = .ok id ∧ t' = t ∧ Drawn assume t id := by
  refine meets_call (fun _ other => by cases other) ?_
  rintro m reply after rfl ⟨⟨id, replied⟩, switch, still, moved⟩ assumed
  subst replied
  exact ⟨id, rfl, track_push_quiet (by rw [moved, still]) rfl rfl rfl, _, assumed, rfl, rfl⟩

theorem meets_environ :
    Meets assume ready t (ask (.switch .environ)) fun result t' =>
      ∃ text, result = .ok text ∧ t' = t ∧
        ∃ before after, assume ⟨.switch .environ, .ok text, before, after⟩ := by
  refine meets_call (fun _ other => by cases other) ?_
  rintro m reply after rfl ⟨switch, ⟨⟨text, replied⟩, same⟩, moved⟩ assumed
  subst replied
  exact ⟨text, rfl, track_push_quiet (by rw [moved, same]) rfl rfl rfl, _, _, assumed⟩

theorem meets_flagExists :
    Meets assume ready t (ask (.switch .flagExists)) fun result t' =>
      ∃ present, result = .ok present ∧ t' = t ∧
        ∃ before after, assume ⟨.switch .flagExists, .ok present, before, after⟩ := by
  refine meets_call (fun _ other => by cases other) ?_
  rintro m reply after rfl ⟨switch, ⟨⟨present, replied⟩, same⟩, moved⟩ assumed
  subst replied
  exact ⟨present, rfl, track_push_quiet (by rw [moved, same]) rfl rfl rfl, _, _, assumed⟩

theorem meets_readFlagText :
    Meets assume ready t (ask (.switch .readFlag)) fun result t' => t' = t ∧
      ∃ before after, assume ⟨.switch .readFlag, result, before, after⟩ := by
  refine meets_call (fun _ other => by cases other) ?_
  rintro m reply after rfl ⟨switch, same, moved⟩ assumed
  exact ⟨track_push_quiet (by rw [moved, same]) rfl rfl rfl, _, _, assumed⟩

theorem meets_stageFile (written : KillSwitchState) :
    Meets assume ready t (ask (.switch (.stageFile written))) fun result t' =>
      result = .ok () ∧ t' = t ∨ ∃ exc, result = .error exc ∧ t' = t.unwritten := by
  refine meets_call (fun _ other => by cases other) ?_
  rintro m reply after rfl ⟨switch, same, moved⟩ _
  have still : after.switch = m.world.switch := by rw [moved, same]
  cases reply with
  | ok value => exact .inl ⟨rfl, track_push_quiet still rfl rfl rfl⟩
  | error exc =>
      have changes : changesOf (m.push (.switch (.stageFile written)) (.error exc) after).events =
          changesOf m.events := List.append_nil _
      refine .inr ⟨exc, rfl, ?_⟩
      show Track.mk after.switch _ _ (changesOf _) = _
      rw [changes, still]
      rfl

theorem meets_replaceFile (may : ready t.state t) :
    Meets assume ready t (ask (.switch (.replaceFile t.state))) fun result t' =>
      result = .ok () ∧ t' = t.written ∨ ∃ exc, result = .error exc ∧ t' = t.unwritten := by
  refine meets_call (fun _ same => by cases same; exact may) ?_
  rintro m reply after here ⟨switch, served, moved⟩ _
  have changes : changesOf (m.push (.switch (.replaceFile t.state)) reply after).events =
      changesOf m.events := List.append_nil _
  rcases served with ⟨rfl, left⟩ | ⟨⟨exc, rfl⟩, left⟩
  · refine .inl ⟨rfl, ?_⟩
    subst here
    show Track.mk after.switch _ _ (changesOf _) = _
    rw [changes, moved, left]
    rfl
  · refine .inr ⟨exc, rfl, ?_⟩
    subst here
    show Track.mk after.switch _ _ (changesOf _) = _
    rw [changes, moved, left]
    rfl

theorem meets_persist (config : Config) (may : ready t.state t) :
    Meets assume ready t (persist config) (Persists config t) := by
  refine meets_when (fun path => ?_) fun off => .off off
  refine meets_bind meets_load ?_ ?_
  · rintro memory t' ⟨loaded, rfl⟩
    cases loaded
    refine meets_bind (meets_stageFile _) ?_ ?_
    · rintro _ t₁ (⟨_, rfl⟩ | ⟨exc, failed, _⟩)
      · refine (meets_replaceFile may).mono ?_
        rintro result t₂ (⟨rfl, rfl⟩ | ⟨exc, rfl, rfl⟩)
        · exact .written path
        · exact .failed path exc
      · cases failed
    · rintro exc t₁ (⟨done, _⟩ | ⟨_, _, rfl⟩)
      · cases done
      · exact .failed path exc
  · rintro exc t' ⟨loaded, _⟩
    cases loaded

theorem meets_journal (events : List SwitchEvent) :
    Meets assume ready t (ask (.switch (.journal events))) fun result t' =>
      result = .ok () ∧ t' = { t with switch := t.switch.record events, recorded := true } ∨
        ∃ exc, result = .error exc ∧ t' = t := by
  refine meets_call (fun _ other => by cases other) ?_
  rintro m reply after rfl ⟨switch, served, moved⟩ _
  rcases served with ⟨rfl, left⟩ | ⟨⟨exc, rfl⟩, left⟩
  · have changes : changesOf (m.push (.switch (.journal events)) (.ok ()) after).events =
        changesOf m.events := List.append_nil _
    refine .inl ⟨rfl, ?_⟩
    show Track.mk after.switch _ _ (changesOf _) = _
    rw [changes, moved, left]
    rfl
  · exact .inr ⟨exc, rfl, track_push_quiet (by rw [moved, left]) rfl rfl rfl⟩

/-! ## The methods -/

/-- The queue saved in the journal. -/
def Track.flushed (t : Track) : Track :=
  { t with
    switch :=
      { t.switch.record t.memory.unrecorded with
        memory := ⟨t.state, t.memory.auditEvents, []⟩ }
    recorded := true }

theorem meets_flush :
    Meets assume ready t flush fun result t' =>
      result = .ok true ∧ t' = t.flushed ∨ result = .ok false ∧ t' = t := by
  refine meets_bind meets_load ?_ ?_
  · rintro memory t' ⟨loaded, rfl⟩
    cases loaded
    refine meets_bind (meets_attempt (meets_journal _)) ?_ ?_
    · rintro outcome t₁ ⟨_, here, saved⟩
      cases here
      rcases saved with ⟨rfl, rfl⟩ | ⟨exc, rfl, rfl⟩
      · refine meets_bind (meets_modify _) ?_ ?_
        · rintro _ t₂ ⟨_, rfl⟩
          exact meets_pure (.inl ⟨rfl, Track.saved_noted _ _⟩)
        · rintro exc t₂ ⟨done, _⟩
          cases done
      · exact meets_pure (.inr ⟨rfl, rfl⟩)
    · rintro exc t₁ ⟨_, here, _⟩
      cases here
  · rintro exc t' ⟨loaded, _⟩
    cases loaded

/-- The first step of recording: the event joins the queue. -/
theorem meets_queue (event : SwitchEvent) :
    Meets assume ready t
      (modify fun memory => { memory with unrecorded := memory.unrecorded ++ [event] })
      fun result t' => result = .ok () ∧
        t' = t.noted t.memory.auditEvents (t.memory.unrecorded ++ [event]) :=
  (meets_modify _).mono fun _ _ ⟨done, left⟩ => ⟨done, left.trans (Track.saved_noted _ _)⟩

/-- The step back of a refusal: the event leaves the queue. -/
theorem meets_drop (event : SwitchEvent) :
    Meets assume ready t
      (modify fun memory => { memory with unrecorded := memory.unrecorded.erase event })
      fun result t' => result = .ok () ∧
        t' = t.noted t.memory.auditEvents (t.memory.unrecorded.erase event) :=
  (meets_modify _).mono fun _ _ ⟨done, left⟩ => ⟨done, left.trans (Track.saved_noted _ _)⟩

/-- The last step of recording: the event joins the history. -/
theorem meets_remember (event : SwitchEvent) :
    Meets assume ready t
      (modify fun memory => { memory with auditEvents := memory.auditEvents ++ [event] })
      fun result t' => result = .ok () ∧
        t' = t.noted (t.memory.auditEvents ++ [event]) t.memory.unrecorded :=
  (meets_modify _).mono fun _ _ ⟨done, left⟩ => ⟨done, left.trans (Track.saved_noted _ _)⟩

theorem meets_record (config : Config) (event : SwitchEvent) (required : Bool) :
    Meets assume ready t (record config event required) (Records config event t required) := by
  refine meets_bind (meets_queue event) ?_ ?_
  · rintro _ t₁ ⟨_, rfl⟩
    by_cases journal : config.journal = true
    · have attached : flushed config = flush := by
        unfold flushed
        rw [if_pos journal]
      rw [attached]
      refine meets_bind meets_flush ?_ ?_
      · rintro saved t₂ (⟨here, rfl⟩ | ⟨here, rfl⟩)
        · cases here
          refine (meets_remember event).mono ?_
          rintro result t₃ ⟨rfl, rfl⟩
          exact .saved required journal
        · cases here
          cases required with
          | true =>
              refine meets_bind (meets_drop event) ?_ ?_
              · rintro _ t₃ ⟨_, rfl⟩
                exact meets_raise (.refused journal _)
              · rintro exc t₃ ⟨done, _⟩
                cases done
          | false =>
              refine (meets_remember event).mono ?_
              rintro result t₃ ⟨rfl, rfl⟩
              exact .pending journal
      · rintro exc t₂ (⟨here, _⟩ | ⟨here, _⟩)
        · cases here
        · cases here
    · have detached : flushed config = pure true := by
        unfold flushed
        rw [if_neg journal]
      rw [detached]
      refine (meets_remember event).mono ?_
      rintro result t₂ ⟨rfl, rfl⟩
      exact .unattached required (Bool.eq_false_iff.2 journal)
  · rintro exc t₁ ⟨done, _⟩
    cases done

/-- Where the file may be replaced: by a state no less severe than `floor`. -/
def Steady (ready : KillSwitchState → Track → Prop) (floor : Nat) : Prop :=
  ∀ state t, floor ≤ severity state → ready state t

/-- Where the file may be replaced by a lower state: after its event was recorded. -/
def Lowering (assume : Served → Prop) (ready : KillSwitchState → Track → Prop) (config : Config)
    (t : Track) : Prop :=
  ∀ event t₁, event.previous = t.state → event.target = .running → Drawn assume t event.eventId →
    Records config event t true (.ok ()) t₁ → ready .running (t₁.moved .running)

theorem meets_setStateOf (target : KillSwitchState) (different : target ≠ t.state) :
    Meets assume ready t (modify fun memory => { memory with state := target })
      fun result t' => result = .ok () ∧ t' = t.moved target :=
  (meets_modify _).mono fun _ _ ⟨done, left⟩ => ⟨done, left.trans (Track.saved_moved different)⟩

/-- Recording an event leaves the state as it is. -/
theorem Records.state {config : Config} {event : SwitchEvent} {required : Bool}
    {result : Except Exc Unit} {t' : Track} (recorded : Records config event t required result t') :
    t'.state = t.state := by
  cases recorded <;> rfl

theorem meets_transition (config : Config) {event : SwitchEvent} (different : event.target ≠ t.state)
    (lowers : severity event.target < severity event.previous →
      ∀ t₁, Records config event t true (.ok ()) t₁ → ready event.target (t₁.moved event.target))
    (raises : ¬severity event.target < severity event.previous →
      ready event.target (t.moved event.target)) :
    Meets assume ready t (transition config event) (Transits config event t) := by
  unfold transition
  by_cases lower : severity event.target < severity event.previous
  · rw [if_pos lower]
    refine meets_bind (meets_record config event true) ?_ ?_
    · intro _ t₁ recorded
      have still : event.target ≠ t₁.state := recorded.state ▸ different
      refine meets_bind (meets_setStateOf _ still) ?_ ?_
      · rintro _ t₂ ⟨_, rfl⟩
        exact (meets_persist config (lowers lower t₁ recorded)).mono fun _ _ persisted =>
          .lowered lower recorded persisted
      · rintro exc t₂ ⟨done, _⟩
        cases done
    · intro exc t₁ refused
      exact .refused lower refused
  · rw [if_neg lower]
    refine meets_bind (meets_setStateOf _ different) ?_ ?_
    · rintro _ t₁ ⟨_, rfl⟩
      refine meets_bind (meets_persist config (raises lower)) ?_ ?_
      · intro _ t₂ persisted
        exact (meets_record config event false).mono fun _ _ recorded =>
          .raised lower persisted recorded
      · intro exc t₂ failed
        exact .unsaved lower failed
    · rintro exc t₁ ⟨done, _⟩
      cases done

/-- A request the switch allows and that lowers it asks for `running`. -/
theorem running_of_lower {previous target : KillSwitchState} {automatic : Bool}
    (allowed : ¬Forbidden previous target automatic) (lower : severity target < severity previous) :
    target = .running ∧ automatic = false := by
  have running : target = .running := by
    by_contra other
    exact allowed (.inr ⟨other, lower⟩)
  refine ⟨running, ?_⟩
  cases automatic with
  | false => rfl
  | true => exact absurd (.inl ⟨rfl, running⟩) allowed

theorem meets_setState (config : Config) (target : KillSwitchState) (automatic : Bool)
    (reason : String) (actor : Option String) (checklist : List String) {floor : Nat}
    (steady : Steady ready floor) (above : floor ≤ severity t.state)
    (lowering : target = .running → automatic = false → Lowering assume ready config t) :
    Meets assume ready t (setState config target automatic reason actor checklist)
      (Sets assume config target automatic t) := by
  refine meets_bind meets_state ?_ ?_
  · rintro previous t' ⟨here, rfl⟩
    cases here
    split
    · rename_i refused
      exact meets_raise (.refused _ (.inl ⟨refused.2.2, refused.2.1⟩))
    split
    · rename_i _ refused
      exact meets_raise (.refused _ (.inl refused))
    split
    · rename_i _ _ refused
      exact meets_raise (.refused _ (.inr refused))
    rename_i _ notAutomatic notLower
    have allowed : ¬Forbidden t'.state target automatic := by
      rintro (refused | refused)
      · exact notAutomatic refused
      · exact notLower refused
    split
    · rename_i same
      exact (meets_persist config (steady _ _ above)).mono fun _ _ persisted => .same same persisted
    · rename_i different
      refine meets_bind meets_uuid4 ?_ ?_
      · rintro eventId t₁ ⟨_, here, rfl, drawn⟩
        cases here
        refine meets_bind meets_utcNow ?_ ?_
        · rintro createdAt t₂ ⟨_, _, rfl⟩
          refine (meets_transition config different ?_ ?_).mono fun _ _ transited =>
            .moved _ allowed different rfl rfl drawn transited
          · intro lower t₃ recorded
            obtain ⟨rfl, byHand⟩ := running_of_lower allowed lower
            exact lowering rfl byHand _ _ rfl rfl drawn recorded
          · intro raises
            exact steady _ _ (le_trans above (Nat.not_lt.1 raises))
        · rintro exc t₂ ⟨_, here, _⟩
          cases here
      · rintro exc t₁ ⟨_, here, _⟩
        cases here
  · rintro exc t' ⟨here, _⟩
    cases here

theorem meets_rearm (config : Config) (actor reason : String) (checklist : List String)
    (steady : Steady ready (severity t.state))
    (lowering : config.journal = true → Lowering assume ready config t) :
    Meets assume ready t (rearm config actor reason checklist) (Rearms assume config t) := by
  unfold rearm
  by_cases journal : config.journal = true
  · rw [if_neg (by simp [journal])]
    refine meets_bind meets_state ?_ ?_
    · rintro current t' ⟨here, rfl⟩
      cases here
      split
      · rename_i running
        refine meets_bind (meets_persist config (steady _ _ (le_refl _))) ?_ ?_
        · intro _ t₁ persisted
          exact meets_pure (.already running persisted)
        · intro exc t₁ persisted
          exact .already running persisted
      · rename_i stopped
        refine meets_bind
          (meets_setState config .running false reason _ checklist steady (le_refl _) fun _ _ => lowering journal)
          ?_ ?_
        · intro _ t₁ moved
          exact meets_pure (.set journal stopped moved)
        · intro exc t₁ moved
          exact .set journal stopped moved
    · rintro exc t' ⟨here, _⟩
      cases here
  · rw [if_pos (by simp [journal])]
    exact meets_raise (.unattached (Bool.eq_false_iff.2 journal) _)

theorem severity_running : severity .running = 0 := rfl

/-- A stop is never a request for `running`. -/
theorem ne_running_of_above {current target : KillSwitchState}
    (above : severity current < severity target) : target ≠ .running := by
  rintro rfl
  rw [severity_running] at above
  omega

section Stops

variable {floor : Nat} (steady : Steady ready floor) (config : Config)

include steady

theorem meets_tighten (target : KillSwitchState) (reason : String) (actor : Option String)
    (above : floor ≤ severity t.state) :
    Meets assume ready t (tighten config target reason actor) (Tightens assume config target t) := by
  refine meets_bind meets_state ?_ ?_
  · rintro current t' ⟨here, rfl⟩
    cases here
    split
    · rename_i higher
      refine meets_bind (meets_setState config target false reason actor [] steady above
        fun running => absurd running (ne_running_of_above higher)) ?_ ?_
      · intro _ t₁ moved
        exact meets_pure (.above higher moved)
      · intro exc t₁ moved
        exact .above higher moved
    · rename_i notHigher
      refine meets_bind (meets_persist config (steady _ _ above)) ?_ ?_
      · intro _ t₁ persisted
        exact meets_pure (.below notHigher persisted)
      · intro exc t₁ persisted
        exact .below notHigher persisted
  · rintro exc t' ⟨here, _⟩
    cases here

theorem meets_automatic (target : KillSwitchState) (reason : String)
    (above : floor ≤ severity t.state) :
    Meets assume ready t (setState config target true reason none [])
      (Sets assume config target true t) :=
  meets_setState config target true reason none [] steady above fun _ byHand => by cases byHand

theorem meets_trip (reason : String) (above : floor ≤ severity t.state) :
    Meets assume ready t (trip config reason) (Sets assume config .halted true t) :=
  meets_automatic steady config .halted reason above

theorem meets_applyFlag (source raw : String) (above : floor ≤ severity t.state) :
    Meets assume ready t (applyFlag config source raw) (AppliesFlag assume config raw t) := by
  unfold applyFlag
  dsimp only
  split
  · rename_i blank
    exact meets_pure (.blank blank)
  · rename_i text
    split
    · rename_i unknown
      exact (meets_trip steady config _ above).mono fun _ _ moved => .unknown text unknown moved
    · rename_i requested known
      refine meets_bind meets_state ?_ ?_
      · rintro current t' ⟨here, rfl⟩
        cases here
        refine meets_when (fun higher => ?_) fun notHigher => ?_
        · exact (meets_automatic steady config requested _ above).mono fun _ _ moved =>
            .above requested text known (of_decide_eq_true higher) moved
        · exact .below requested text known (of_decide_eq_false notHigher)
      · rintro exc t' ⟨here, _⟩
        cases here

end Stops

theorem meets_readFlag (config : Config) :
    Meets assume ready t (readFlag config) fun result t' =>
      t' = t ∧ ReadsFlag assume config result := by
  unfold readFlag
  by_cases path : config.flagPath = true
  · rw [if_pos path]
    refine meets_bind meets_flagExists ?_ ?_
    · rintro present t₁ ⟨_, here, rfl, before, after, there⟩
      cases here
      cases present with
      | false => exact meets_pure ⟨rfl, .missing path _ _ there⟩
      | true =>
          refine meets_bind (meets_attempt meets_readFlagText) ?_ ?_
          · rintro reply t₂ ⟨_, here, rfl, before', after', read⟩
            cases here
            have outcome := ReadsFlag.present path before after before' after' there reply read
            cases reply with
            | ok text => exact meets_pure ⟨rfl, outcome⟩
            | error exc =>
                unfold understood at outcome
                dsimp only at outcome ⊢
                split
                · rename_i unreadable
                  rw [if_pos unreadable] at outcome
                  exact meets_pure ⟨rfl, outcome⟩
                · rename_i other
                  rw [if_neg other] at outcome
                  exact meets_raise ⟨rfl, outcome⟩
          · rintro exc t₂ ⟨_, here, _⟩
            cases here
    · rintro exc t₁ ⟨_, here, _⟩
      cases here
  · rw [if_neg path]
    exact meets_pure ⟨rfl, .unset (Bool.eq_false_iff.2 path)⟩

end Meets

/-! ## What the outcomes do to the state -/

section Outcomes

variable {assume : Served → Prop} {config : Config} {t t' : Track}

theorem Persists.state {result : Except Exc Unit} (persisted : Persists config t result t') :
    t'.state = t.state := by
  cases persisted <;> rfl

theorem Transits.state {event : SwitchEvent} {result : Except Exc Unit}
    (transited : Transits config event t result t') : t'.state = event.target ∨
      severity event.target < severity event.previous ∧ t'.state = t.state := by
  cases transited with
  | lowered lower recorded persisted => exact .inl persisted.state
  | refused lower recorded => exact .inr ⟨lower, recorded.state⟩
  | raised raises persisted recorded => exact .inl (recorded.state.trans persisted.state)
  | unsaved raises persisted => exact .inl persisted.state

/-- No outcome of a stop, or of an automatic request, lowers the switch. -/
theorem Sets.raises {target : KillSwitchState} {automatic : Bool} {result : Except Exc Unit}
    (sets : Sets assume config target automatic t result t')
    (stop : target = .running → automatic = true) : severity t.state ≤ severity t'.state := by
  cases sets with
  | refused exc forbidden => exact le_refl _
  | same same persisted => exact (congrArg severity persisted.state).ge
  | moved event allowed different previous goal drawn transited =>
      have notLower : ¬severity target < severity t.state := by
        intro lower
        obtain ⟨running, byHand⟩ := running_of_lower allowed lower
        rw [stop running] at byHand
        cases byHand
      rcases transited.state with reached | ⟨lower, _⟩
      · rw [reached, goal]
        exact Nat.not_lt.1 notLower
      · rw [goal, previous] at lower
        exact absurd lower notLower

theorem AppliesFlag.raises {raw : String} {result : Except Exc Unit}
    (applied : AppliesFlag assume config raw t result t') : severity t.state ≤ severity t'.state := by
  cases applied with
  | blank blank => exact le_refl _
  | unknown text unknown moved => exact moved.raises fun _ => rfl
  | above requested text known above moved => exact moved.raises fun _ => rfl
  | below requested text known below => exact le_refl _

end Outcomes

section Meets

variable {assume : Served → Prop} {ready : KillSwitchState → Track → Prop} {t : Track}

theorem meets_syncExternalState (config : Config) (steady : Steady ready (severity t.state)) :
    Meets assume ready t (syncExternalState config) (Syncs assume config t) := by
  refine meets_bind meets_environ ?_ ?_
  · rintro text t₁ ⟨_, here, rfl, before, after, environ⟩
    cases here
    refine meets_bind (meets_readFlag config) ?_ ?_
    · rintro file t₂ ⟨rfl, read⟩
      have applied : ∀ {result t'}, Applies assume config (text :: file.toList) t₂ result t' →
          Syncs assume config t₂ result t' := fun outcome => .applied text before after environ read outcome
      refine meets_bind (meets_applyFlag steady config _ _ (le_refl _)) ?_ ?_
      · intro _ t₃ first
        cases file with
        | none =>
            have nothing : Meets assume ready t₃ (pure () : Proc Unit)
                fun result t' => result = .ok () ∧ t' = t₃ :=
              meets_pure ⟨rfl, rfl⟩
            refine meets_bind nothing ?_ ?_
            · rintro _ t₄ ⟨_, rfl⟩
              exact meets_state.mono fun _ _ ⟨here, same⟩ =>
                applied (.next first (here ▸ same ▸ .done _))
            · rintro exc t₄ ⟨here, _⟩
              cases here
        | some raw =>
            refine meets_bind (meets_applyFlag steady config _ _ first.raises) ?_ ?_
            · intro _ t₄ second
              exact meets_state.mono fun _ _ ⟨here, same⟩ =>
                applied (.next first (.next second (here ▸ same ▸ .done _)))
            · intro exc t₄ second
              exact applied (.next first (.failed second))
      · intro exc t₃ first
        exact applied (.failed first)
    · rintro exc t₂ ⟨rfl, read⟩
      exact .unread read
  · rintro exc t₁ ⟨_, here, _⟩
    cases here

end Meets

/-! ## Complete runs -/

theorem anywhere {floor : Nat} : Steady (fun _ _ => True) floor := fun _ _ _ => trivial

theorem lowering_anywhere {assume : Served → Prop} {config : Config} {t : Track} :
    Lowering assume (fun _ _ => True) config t := fun _ _ _ _ _ _ => trivial

section Runs

variable {assume : Served → Prop} {config : Config} {world : World} {final : Instant}
  (assumed : ∀ e ∈ final.events, assume e)

include assumed

theorem rearm_outcome {actor reason : String} {checklist : List String} {result : Except Exc Bool}
    (run : (rearm config actor reason checklist).Runs (Serve locked) ⟨world, []⟩ result final) :
    Rearms assume config (.start world.switch) result (track final) := by
  have meets : Meets assume (fun _ _ => True) (.start world.switch)
      (rearm config actor reason checklist) (Rearms assume config (.start world.switch)) :=
    meets_rearm config actor reason checklist anywhere fun _ => lowering_anywhere
  exact meets.run run assumed

theorem tighten_outcome {target : KillSwitchState} {reason : String} {actor : Option String}
    {result : Except Exc Bool}
    (run : (tighten config target reason actor).Runs (Serve locked) ⟨world, []⟩ result final) :
    Tightens assume config target (.start world.switch) result (track final) := by
  have meets : Meets assume (fun _ _ => True) (.start world.switch)
      (tighten config target reason actor) (Tightens assume config target (.start world.switch)) :=
    meets_tighten anywhere config target reason actor (le_refl _)
  exact meets.run run assumed

theorem trip_outcome {reason : String} {result : Except Exc Unit}
    (run : (trip config reason).Runs (Serve locked) ⟨world, []⟩ result final) :
    Sets assume config .halted true (.start world.switch) result (track final) := by
  have meets : Meets assume (fun _ _ => True) (.start world.switch) (trip config reason)
      (Sets assume config .halted true (.start world.switch)) :=
    meets_trip anywhere config reason (le_refl _)
  exact meets.run run assumed

theorem sync_outcome {result : Except Exc KillSwitchState}
    (run : (syncExternalState config).Runs (Serve locked) ⟨world, []⟩ result final) :
    Syncs assume config (.start world.switch) result (track final) := by
  have meets : Meets assume (fun _ _ => True) (.start world.switch) (syncExternalState config)
      (Syncs assume config (.start world.switch)) := meets_syncExternalState config anywhere
  exact meets.run run assumed

end Runs

end AlgoTrader.Risk.KillSwitch
