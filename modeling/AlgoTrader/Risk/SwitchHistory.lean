/-
# Risk.SwitchHistory -- the journal and the queue tell what happened

Calls on the switch come one after another.  A stop takes effect and is recorded
afterwards, perhaps much later; a re-arm is recorded and takes effect afterwards,
perhaps never.  Each call still only appends to what the journal and the queue hold
together (`Appends`), one event for each change of the state.

* `history_exact` -- after any calls, what was saved and what is still queued are the
  changes of the state, each once and in order;
* a re-arm that raises leaves the switch as it was, journal and queue included.

A write to the journal is all or none, and the journal keys events by their ids, so
identifiers have to be new (`FreshId`).
-/
import AlgoTrader.Risk.SwitchFailures

namespace AlgoTrader.Risk.KillSwitch

open AlgoTrader.Core Brokers Theory Process

set_option autoImplicit false

/-! ## Calls -/

/-- The calls on a switch. -/
inductive Call where
  | tighten (target : KillSwitchState) (reason : String) (actor : Option String)
  | trip (reason : String)
  | syncExternalState
  | rearm (actor reason : String) (checklist : List String)

def Call.program (config : Config) : Call → Proc Unit
  | .tighten target reason actor => (KillSwitch.tighten config target reason actor).discard
  | .trip reason => KillSwitch.trip config reason
  | .syncExternalState => (KillSwitch.syncExternalState config).discard
  | .rearm actor reason checklist => (KillSwitch.rearm config actor reason checklist).discard

def Call.isRearm : Call → Bool
  | .rearm .. => true
  | _ => false

/-- The outcomes of a call. -/
def Call.Does (assume : Served → Prop) (config : Config) (t : Track) :
    Call → Except Exc Unit → Track → Prop
  | .tighten target _ _, result, t' =>
      ∃ reply, Tightens assume config target t reply t' ∧ result = reply.map fun _ => ()
  | .trip _, result, t' => Sets assume config .halted true t result t'
  | .syncExternalState, result, t' =>
      ∃ reply, Syncs assume config t reply t' ∧ result = reply.map fun _ => ()
  | .rearm .., result, t' => ∃ reply, Rearms assume config t reply t' ∧ result = reply.map fun _ => ()

theorem meets_discard {α : Type} {assume : Served → Prop} {ready : KillSwitchState → Track → Prop}
    {t : Track} {p : Proc α} {outcome : Except Exc α → Track → Prop}
    (meets : Meets assume ready t p outcome) :
    Meets assume ready t p.discard fun result t' =>
      ∃ reply, outcome reply t' ∧ result = reply.map fun _ => () := by
  refine meets_bind meets ?_ ?_
  · intro value t' ended
    exact meets_pure ⟨.ok value, ended, rfl⟩
  · intro exc t' ended
    exact ⟨.error exc, ended, rfl⟩

theorem meets_program {assume : Served → Prop} {ready : KillSwitchState → Track → Prop} {t : Track}
    (config : Config) (entry : Call) (steady : Steady ready (severity t.state))
    (lowering : entry.isRearm = true → config.journal = true → Lowering assume ready config t) :
    Meets assume ready t (entry.program config) (entry.Does assume config t) := by
  cases entry with
  | tighten target reason actor =>
      exact meets_discard (meets_tighten steady config target reason actor (le_refl _))
  | trip reason => exact meets_trip steady config reason (le_refl _)
  | syncExternalState => exact meets_discard (meets_syncExternalState config steady)
  | rearm actor reason checklist =>
      exact meets_discard (meets_rearm config actor reason checklist steady (lowering rfl))

theorem call_outcome {assume : Served → Prop} {config : Config} {entry : Call} {world : World}
    {result : Except Exc Unit} {final : Instant} (assumed : ∀ e ∈ final.events, assume e)
    (run : (entry.program config).Runs (Serve locked) ⟨world, []⟩ result final) :
    entry.Does assume config (.start world.switch) result (track final) := by
  have meets : Meets assume (fun _ _ => True) (.start world.switch) (entry.program config)
      (entry.Does assume config (.start world.switch)) :=
    meets_program config entry anywhere fun _ _ => lowering_anywhere
  exact meets.run run assumed

def idsOf (events : List SwitchEvent) : List Uuid := events.map SwitchEvent.eventId

/-- What the switch holds of its history: what is saved, then what is not yet. -/
def historyOf (switch : SwitchWorld) : List SwitchEvent :=
  switch.journal ++ switch.memory.unrecorded

/-- An identifier is not one the journal or the queue holds. -/
def FreshId (e : Served) : Prop :=
  ∀ id, minted e = some id → id ∉ idsOf (historyOf e.before.switch)

instance : DecidablePred FreshId := fun e =>
  match drawn : minted e with
  | none => .isTrue fun id draw => by
      rw [drawn] at draw
      cases draw
  | some id =>
      decidable_of_iff (id ∉ idsOf (historyOf e.before.switch)) (by simp [FreshId, drawn])

/-- Calls one after another, each run to its end with every write to the file done. -/
def recorder (config : Config) : Component effects Exc World where
  Entry := Call
  program := Call.program config
  serve := Serve locked
  assume := FreshId
  finished e := failsFile e = false
  restart _ _ := False

/-! ## What a call appends -/

/-- Each event starts where the one before it ended. -/
def Chained : KillSwitchState → List SwitchEvent → KillSwitchState → Prop
  | before, [], after => before = after
  | before, event :: rest, after => event.previous = before ∧ Chained event.target rest after

theorem Chained.append {first second : List SwitchEvent} {before middle after : KillSwitchState}
    (one : Chained before first middle) (other : Chained middle second after) :
    Chained before (first ++ second) after := by
  induction first generalizing before with
  | nil =>
      cases one
      exact other
  | cons event first ih => exact ⟨one.1, ih one.2⟩

/-- Nothing in the queue is saved already. -/
def Unsaved (switch : SwitchWorld) : Prop :=
  ∀ event ∈ switch.memory.unrecorded, event.eventId ∉ idsOf switch.journal

/-- From `t` to `t'` the history has grown by `events`, one for each change of the state. -/
structure Appends (t : Track) (events : List SwitchEvent) (t' : Track) : Prop where
  unsaved : Unsaved t'.switch
  ledger : historyOf t'.switch = historyOf t.switch ++ events
  kept : t.switch.journal <+: t'.switch.journal
  changes : t'.changes = t.changes ++ events.map fun event => (event.previous, event.target)
  chained : Chained t.state events t'.state
  once : (idsOf events).Nodup
  fresh : ∀ event ∈ events, event.eventId ∉ idsOf (historyOf t.switch)

namespace Appends

variable {t t₁ t' : Track}

/-- A step that leaves the history and the state. -/
theorem same (unsaved : Unsaved t.switch)
    (journal : t'.switch.journal = t.switch.journal) (memory : t'.memory.unrecorded = t.memory.unrecorded)
    (changes : t'.changes = t.changes) (state : t'.state = t.state) : Appends t [] t' where
  unsaved := by
    intro event queued
    have queued' : event ∈ t.switch.memory.unrecorded := memory ▸ queued
    rw [journal]
    exact unsaved event queued'
  ledger := by
    have queue : t'.switch.memory.unrecorded = t.switch.memory.unrecorded := memory
    rw [historyOf, journal, queue, List.append_nil, historyOf]
  kept := journal ▸ List.prefix_refl _
  changes := by rw [changes, List.map_nil, List.append_nil]
  chained := state.symm
  once := List.nodup_nil
  fresh := by
    intro event member
    cases member

theorem refl (unsaved : Unsaved t.switch) : Appends t [] t := same unsaved rfl rfl rfl rfl

theorem trans {events later : List SwitchEvent} (first : Appends t events t₁)
    (second : Appends t₁ later t') : Appends t (events ++ later) t' where
  unsaved := second.unsaved
  ledger := by rw [second.ledger, first.ledger, List.append_assoc]
  kept := first.kept.trans second.kept
  changes := by rw [second.changes, first.changes, List.map_append, List.append_assoc]
  chained := first.chained.append second.chained
  once := by
    have apart : ∀ id ∈ idsOf events, ∀ id' ∈ idsOf later, id ≠ id' := by
      intro id before id' after same
      obtain ⟨event, member, rfl⟩ := List.mem_map.1 after
      refine second.fresh event member ?_
      have held : idsOf (historyOf t₁.switch) =
          idsOf (historyOf t.switch) ++ idsOf events := by
        rw [first.ledger, idsOf, List.map_append]
        rfl
      rw [held, ← same]
      exact List.mem_append_right _ before
    have joined : idsOf (events ++ later) = idsOf events ++ idsOf later := List.map_append
    rw [joined]
    exact List.nodup_append.2 ⟨first.once, second.once, apart⟩
  fresh := by
    intro event member
    rcases List.mem_append.1 member with old | new
    · exact first.fresh event old
    · intro held
      refine second.fresh event new ?_
      rw [first.ledger, idsOf, List.map_append]
      exact List.mem_append_left _ held

/-- A change of the state and its event. -/
theorem one {event : SwitchEvent} (unsaved : Unsaved t'.switch)
    (ledger : historyOf t'.switch = historyOf t.switch ++ [event])
    (kept : t.switch.journal <+: t'.switch.journal)
    (changes : t'.changes = t.changes ++ [(t.state, event.target)]) (state : t'.state = event.target)
    (previous : event.previous = t.state) (fresh : event.eventId ∉ idsOf (historyOf t.switch)) :
    Appends t [event] t' where
  unsaved := unsaved
  ledger := ledger
  kept := kept
  changes := by rw [changes, List.map_singleton, previous]
  chained := ⟨previous, state.symm⟩
  once := List.nodup_singleton _
  fresh := by
    intro other member
    rw [List.mem_singleton] at member
    rw [member]
    exact fresh

end Appends

section Outcomes

variable {config : Config} {t t' : Track}

/-- Writing the file, or failing to, leaves the memory, the journal and what was done. -/
theorem Persists.kept {result : Except Exc Unit} (persisted : Persists config t result t') :
    t'.memory = t.memory ∧ t'.switch.journal = t.switch.journal ∧ t'.changes = t.changes := by
  cases persisted <;> exact ⟨rfl, rfl, rfl⟩

theorem Persists.appends {result : Except Exc Unit} (persisted : Persists config t result t')
    (unsaved : Unsaved t.switch) : Appends t [] t' := by
  obtain ⟨memory, journal, changes⟩ := persisted.kept
  exact .same unsaved journal (congrArg SwitchMemory.unrecorded memory) changes persisted.state

/-- An event with a new id joins the history, saved or queued. -/
theorem Records.joins {event : SwitchEvent} {required : Bool}
    (recorded : Records config event t required (.ok ()) t') (unsaved : Unsaved t.switch)
    (fresh : event.eventId ∉ idsOf (historyOf t.switch)) :
    Unsaved t'.switch ∧ historyOf t'.switch = historyOf t.switch ++ [event] ∧
      t.switch.journal <+: t'.switch.journal ∧ t'.changes = t.changes := by
  have unsavedToo : ∀ other ∈ t.memory.unrecorded ++ [event],
      other.eventId ∉ idsOf t.switch.journal := by
    intro other member
    rcases List.mem_append.1 member with queued | last
    · exact unsaved other queued
    · rw [List.mem_singleton.1 last]
      intro held
      refine fresh ?_
      rw [historyOf, idsOf, List.map_append]
      exact List.mem_append_left _ held
  have queued : historyOf (t.noted (t.memory.auditEvents ++ [event])
      (t.memory.unrecorded ++ [event])).switch = historyOf t.switch ++ [event] :=
    (List.append_assoc _ _ _).symm
  cases recorded with
  | unattached _ none => exact ⟨unsavedToo, queued, List.prefix_refl _, rfl⟩
  | pending journal => exact ⟨unsavedToo, queued, List.prefix_refl _, rfl⟩
  | saved _ journal =>
      have all : (t.memory.unrecorded ++ [event]).filter
          (fun other => other.eventId ∉ t.switch.journal.map SwitchEvent.eventId) =
          t.memory.unrecorded ++ [event] := by
        rw [List.filter_eq_self]
        intro other member
        exact decide_eq_true (unsavedToo other member)
      have saved : (t.journalled event).switch.journal =
          t.switch.journal ++ (t.memory.unrecorded ++ [event]) :=
        congrArg (t.switch.journal ++ ·) all
      refine ⟨?_, ?_, ?_, rfl⟩
      · intro other member
        cases member
      · show (t.journalled event).switch.journal ++ [] = _
        rw [List.append_nil, saved, ← List.append_assoc]
        rfl
      · rw [saved]
        exact List.prefix_append _ _

/-- A refused event leaves no trace. -/
theorem Records.refused_same {event : SwitchEvent} {required : Bool} {exc : Exc}
    (recorded : Records config event t required (.error exc) t')
    (fresh : event.eventId ∉ idsOf (historyOf t.switch)) : t' = t := by
  cases recorded with
  | refused journal _ =>
      have absent : event ∉ t.memory.unrecorded := by
        intro queued
        refine fresh (List.mem_map.2 ⟨event, ?_, rfl⟩)
        exact List.mem_append_right _ queued
      rw [List.erase_append_right _ absent, List.erase_cons_head, List.append_nil]
      rfl

theorem Transits.appends {event : SwitchEvent} {result : Except Exc Unit}
    (transited : Transits config event t result t') (unsaved : Unsaved t.switch)
    (previous : event.previous = t.state) (fresh : event.eventId ∉ idsOf (historyOf t.switch)) :
    (∃ events, Appends t events t') ∨ (∃ exc, result = .error exc) ∧ t'.fileFailed = true := by
  cases transited with
  | @lowered t₁ _ _ lower recorded persisted =>
      obtain ⟨unsaved₁, joined, kept, changes⟩ := recorded.joins unsaved fresh
      have moved : Appends t [event] (t₁.moved event.target) := by
        refine .one unsaved₁ joined kept ?_ rfl previous fresh
        show t₁.changes ++ [(t₁.state, event.target)] = _
        rw [changes, recorded.state]
      exact .inl ⟨_, moved.trans (persisted.appends moved.unsaved)⟩
  | refused lower recorded =>
      rw [recorded.refused_same fresh]
      exact .inl ⟨[], .refl unsaved⟩
  | @raised t₁ _ _ raises persisted recorded =>
      obtain ⟨memory, journal, changes⟩ := persisted.kept
      have queue : t₁.switch.memory.unrecorded = t.switch.memory.unrecorded := by
        have same := congrArg SwitchMemory.unrecorded memory
        exact same
      have history : historyOf t₁.switch = historyOf t.switch := by
        rw [historyOf, queue, journal]
        rfl
      have unsaved₁ : Unsaved t₁.switch := by
        intro other member
        rw [journal]
        rw [queue] at member
        exact unsaved other member
      cases done : result with
      | error exc =>
          rw [done] at recorded
          cases recorded
      | ok value =>
          rw [done] at recorded
          obtain ⟨unsaved₂, joined, kept, changes₂⟩ := recorded.joins unsaved₁ (history ▸ fresh)
          refine .inl ⟨[event], .one unsaved₂ ?_ ?_ ?_ ?_ previous fresh⟩
          · rw [joined, history]
          · rw [journal] at kept
            exact kept
          · rw [changes₂, changes]
            rfl
          · rw [recorded.state, persisted.state]
            rfl
  | unsaved raises persisted =>
      cases persisted with
      | failed path exc => exact .inr ⟨⟨_, rfl⟩, rfl⟩

theorem Drawn.fresh {id : Uuid} (drawn : Drawn FreshId t id) : id ∉ idsOf (historyOf t.switch) := by
  obtain ⟨e, new, draw, here⟩ := drawn
  exact here ▸ new id draw

theorem Sets.appends {target : KillSwitchState} {automatic : Bool} {result : Except Exc Unit}
    (sets : Sets FreshId config target automatic t result t') (unsaved : Unsaved t.switch) :
    (∃ events, Appends t events t') ∨ (∃ exc, result = .error exc) ∧ t'.fileFailed = true := by
  cases sets with
  | refused exc forbidden => exact .inl ⟨[], .refl unsaved⟩
  | same same persisted => exact .inl ⟨[], persisted.appends unsaved⟩
  | moved event allowed different previous goal drawn transited =>
      exact transited.appends unsaved previous drawn.fresh

theorem AppliesFlag.appends {raw : String} {result : Except Exc Unit}
    (applied : AppliesFlag FreshId config raw t result t') (unsaved : Unsaved t.switch) :
    (∃ events, Appends t events t') ∨ (∃ exc, result = .error exc) ∧ t'.fileFailed = true := by
  cases applied with
  | blank blank => exact .inl ⟨[], .refl unsaved⟩
  | unknown text unknown moved => exact moved.appends unsaved
  | above requested text known above moved => exact moved.appends unsaved
  | below requested text known below => exact .inl ⟨[], .refl unsaved⟩

theorem Applies.appends {raws : List String} {result : Except Exc KillSwitchState}
    (applied : Applies FreshId config raws t result t') (unsaved : Unsaved t.switch) :
    (∃ events, Appends t events t') ∨ t'.fileFailed = true := by
  induction applied with
  | done t => exact .inl ⟨[], .refl unsaved⟩
  | next first others ih =>
      rcases first.appends unsaved with ⟨events, one⟩ | ⟨⟨exc, raised⟩, _⟩
      · rcases ih one.unsaved with ⟨later, rest⟩ | failed
        · exact .inl ⟨_, one.trans rest⟩
        · exact .inr failed
      · cases raised
  | failed first =>
      rcases first.appends unsaved with one | ⟨_, failed⟩
      · exact .inl one
      · exact .inr failed

theorem Call.Does.appends {entry : Call} {result : Except Exc Unit}
    (does : entry.Does FreshId config t result t') (unsaved : Unsaved t.switch) :
    (∃ events, Appends t events t') ∨ t'.fileFailed = true := by
  have either : ∀ {result : Except Exc Unit},
      (∃ events, Appends t events t') ∨ (∃ exc, result = .error exc) ∧ t'.fileFailed = true →
        (∃ events, Appends t events t') ∨ t'.fileFailed = true := by
    rintro result (one | ⟨_, failed⟩)
    · exact .inl one
    · exact .inr failed
  cases entry with
  | tighten target reason actor =>
      obtain ⟨reply, tightens, _⟩ := does
      cases tightens with
      | above above moved => exact either (moved.appends unsaved)
      | below below persisted => exact .inl ⟨[], persisted.appends unsaved⟩
  | trip reason => exact either (Sets.appends does unsaved)
  | syncExternalState =>
      obtain ⟨reply, syncs, _⟩ := does
      cases syncs with
      | unread read => exact .inl ⟨[], .refl unsaved⟩
      | applied text before after environ read applied => exact applied.appends unsaved
  | rearm actor reason checklist =>
      obtain ⟨reply, rearms, _⟩ := does
      cases rearms with
      | unattached none exc => exact .inl ⟨[], .refl unsaved⟩
      | already running persisted => exact .inl ⟨[], persisted.appends unsaved⟩
      | set journal stopped moved => exact either (moved.appends unsaved)

/-- A re-arm that raises, with no failure of the file, leaves no trace. -/
theorem Rearms.raised_same {exc : Exc} (rearms : Rearms FreshId config t (.error exc) t')
    (files : t'.fileFailed = false) : t'.switch = t.switch := by
  have mapped : ∀ {result : Except Exc Unit} {flag : Bool},
      Except.error exc = result.map (fun _ => flag) → ∃ exc', result = .error exc' := by
    intro result flag raised
    cases result with
    | ok value => cases raised
    | error exc' => exact ⟨exc', rfl⟩
  have written : ∀ {t₁ : Track} {exc' : Exc}, Persists config t₁ (.error exc') t' → False := by
    intro t₁ exc' persisted
    cases persisted with
    | failed path _ => cases files
  generalize outcome : (Except.error exc : Except Exc Bool) = reply at rearms
  cases rearms with
  | unattached none _ => rfl
  | already running persisted =>
      obtain ⟨exc', rfl⟩ := mapped outcome
      exact (written persisted).elim
  | set journal stopped moved =>
      obtain ⟨exc', rfl⟩ := mapped outcome
      cases moved with
      | refused _ forbidden => rfl
      | same same persisted => exact (written persisted).elim
      | moved event allowed different previous goal drawn transited =>
          cases transited with
          | lowered lower recorded persisted => exact (written persisted).elim
          | refused lower recorded => rw [recorded.refused_same drawn.fresh]
          | raised raises persisted recorded => cases recorded
          | unsaved raises persisted => exact (written persisted).elim

end Outcomes

/-! ## After any calls -/

theorem files_done {m : Instant} (finished : ∀ e ∈ m.events, failsFile e = false) :
    (track m).fileFailed = false := by
  show m.events.any failsFile = false
  rw [List.any_eq_false]
  intro e member failed
  rw [finished e member] at failed
  cases failed

/-- What a call appends, it appends to whatever was done before it. -/
theorem Appends.after {t t' : Track} {events : List SwitchEvent} {switch : SwitchWorld}
    (appends : Appends (.start switch) events t') (here : t.switch = switch) :
    Appends t events { t' with changes := t.changes ++ t'.changes } := by
  subst here
  exact
    { unsaved := appends.unsaved
      ledger := appends.ledger
      kept := appends.kept
      changes := congrArg (t.changes ++ ·) appends.changes
      chained := appends.chained
      once := appends.once
      fresh := appends.fresh }

/-- The switch after some calls, and what they have done to it. -/
def settled (events : List Served) (world : World) : Track :=
  ⟨world.switch, false, false, changesOf events⟩

theorem lives_append {config : Config} {world world' : World} {events : List Served}
    (unsaved : Unsaved world.switch) (lived : (recorder config).Lives world events world') :
    ∃ history, Appends (.start world.switch) history (settled events world') := by
  refine lived.invariant
    (fun events world' => ∃ history, Appends (.start world.switch) history (settled events world'))
    ⟨[], .refl unsaved⟩ ?_ ?_
  · rintro earlier before entry result final ⟨history, soFar⟩ run assumed finished
    have does := call_outcome assumed run
    rcases does.appends soFar.unsaved with ⟨more, appends⟩ | failed
    · have next := appends.after (t := settled earlier before) rfl
      refine ⟨history ++ more, ?_⟩
      have whole := soFar.trans next
      exact
        { unsaved := whole.unsaved
          ledger := whole.ledger
          kept := whole.kept
          changes := (changesOf_append _ _).trans whole.changes
          chained := whole.chained
          once := whole.once
          fresh := whole.fresh }
    · rw [files_done finished] at failed
      cases failed
  · intro _ _ _ _ _ _ _ _ _ crashed
    exact crashed.elim

/-- With no failure of the file, whatever writes to the journal fail: since a switch with
an empty queue, the events saved and then those still queued are the changes of the
state, each once and in order, from the state there to the state here.  And a re-arm
from here that raises leaves the switch as it is. -/
theorem history_exact {config : Config} {world world' : World} {events : List Served}
    (empty : world.switch.memory.unrecorded = [])
    (lived : (recorder config).Lives world events world') :
    (∃ saved, world'.switch.journal = world.switch.journal ++ saved ∧
      (saved ++ world'.switch.memory.unrecorded).map (fun event => (event.previous, event.target)) =
        changesOf events ∧
      Chained (stateOf world) (saved ++ world'.switch.memory.unrecorded) (stateOf world') ∧
      (idsOf (saved ++ world'.switch.memory.unrecorded)).Nodup ∧
      ∀ event ∈ saved ++ world'.switch.memory.unrecorded,
        event.eventId ∉ idsOf world.switch.journal) ∧
    ∀ {actor reason checklist exc final},
      (rearm config actor reason checklist).Runs (Serve locked) ⟨world', []⟩ (.error exc) final →
      (∀ e ∈ final.events, FreshId e) → (∀ e ∈ final.events, failsFile e = false) →
      final.world.switch = world'.switch := by
  have unsaved : Unsaved world.switch := by
    intro event queued
    rw [empty] at queued
    cases queued
  constructor
  · obtain ⟨history, appends⟩ := lives_append unsaved lived
    obtain ⟨saved, here⟩ := appends.kept
    have journal : world'.switch.journal = world.switch.journal ++ saved := here.symm
    have before : historyOf (Track.start world.switch).switch = world.switch.journal := by
      show world.switch.journal ++ world.switch.memory.unrecorded = _
      rw [empty, List.append_nil]
    have all : history = saved ++ world'.switch.memory.unrecorded := by
      have whole : world'.switch.journal ++ world'.switch.memory.unrecorded =
          world.switch.journal ++ history := before ▸ appends.ledger
      rw [journal, List.append_assoc] at whole
      exact (List.append_cancel_left whole).symm
    subst all
    exact ⟨saved, journal, appends.changes.symm, appends.chained, appends.once, before ▸ appends.fresh⟩
  · intro actor reason checklist exc final run assumed finished
    exact (rearm_outcome assumed run).raised_same (files_done finished)

/-- A running switch without a file or a history. -/
def idleWorld : World := emptyWorld (.inMemory .empty) (.inMemory .empty .empty)

/-- A trip of the idle switch, run to its end. -/
def tripped : Except Exc Unit × Instant :=
  ((Call.trip "stale data").program allConfigured).play quiet.script ⟨idleWorld, []⟩

theorem tripped_runs : ((Call.trip "stale data").program allConfigured).Runs (Serve locked)
    ⟨idleWorld, []⟩ tripped.1 tripped.2 := Prog.play_runs quiet_sound _ _

theorem tripped_fresh : ∀ e ∈ tripped.2.events, FreshId e := by decide +kernel

theorem tripped_done : ∀ e ∈ tripped.2.events, failsFile e = false := by decide +kernel

theorem tripped_lives :
    (recorder allConfigured).Lives idleWorld (tripped.2.events ++ []) tripped.2.world :=
  .call (K := recorder allConfigured) .start (.trip "stale data") tripped_runs tripped_fresh tripped_done

theorem history_exact_tripped : ∃ saved, tripped.2.world.switch.journal = [] ++ saved ∧
    (saved ++ tripped.2.world.switch.memory.unrecorded).map
      (fun event => (event.previous, event.target)) = changesOf (tripped.2.events ++ []) ∧
    Chained .running (saved ++ tripped.2.world.switch.memory.unrecorded) (stateOf tripped.2.world) ∧
    (idsOf (saved ++ tripped.2.world.switch.memory.unrecorded)).Nodup ∧
    ∀ event ∈ saved ++ tripped.2.world.switch.memory.unrecorded, event.eventId ∉ idsOf [] :=
  (history_exact rfl tripped_lives).1

end AlgoTrader.Risk.KillSwitch
