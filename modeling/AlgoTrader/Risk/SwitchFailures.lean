/-
# Risk.SwitchFailures -- what a failing step leaves behind

Two methods of the kill switch promise something about every failure.

* `rearm` lowers the memory once its event is saved and writes the file after that.
  A file that cannot be written then leaves a lowered switch behind an exception:
  `rearm_failure_iff` says that this is the one failure that does.
* `syncExternalState` reads two flags and takes what it cannot understand for a halt.
  A flag file that is no text raises instead, before any flag is applied:
  `sync_strictest_iff` says that this is the one content that does.
-/
import AlgoTrader.Process.Rehearsal
import AlgoTrader.Risk.SwitchMethods

namespace AlgoTrader.Risk.KillSwitch

open AlgoTrader.Core Brokers Theory Process

set_option autoImplicit false

/-- The state a restart reads back. -/
def restartState (config : Config) (switch : SwitchWorld) : KillSwitchState :=
  if config.path then switch.file.getD .running else .running

/-- The memory is not less severe than what a restart would read. -/
def Agrees (config : Config) (switch : SwitchWorld) : Prop :=
  severity (restartState config switch) ≤ severity switch.memory.state

/-! ## A re-arm that raises -/

section Rearm

variable {assume : Served → Prop} {config : Config} {t t' : Track}

/-- What a re-arm that raises has to leave: the state as it was, and nothing a restart
would read that is more severe than it. -/
def Undone (config : Config) (t : Track) (result : Except Exc Bool) (t' : Track) : Prop :=
  ∀ exc, result = .error exc →
    t'.state = t.state ∧ (Agrees config t.switch → Agrees config t'.switch)

theorem undone_ok {flag : Bool} : Undone config t (.ok flag) t' := by
  intro exc raised
  cases raised

/-- A re-arm that gets as far as its event and fails on the file is the one that is not undone. -/
theorem Rearms.undone_iff {switch : SwitchWorld} {result : Except Exc Bool}
    (rearms : Rearms assume config (.start switch) result t') :
    Undone config (.start switch) result t' ↔ ¬(t'.recorded = true ∧ t'.fileFailed = true) := by
  cases rearms with
  | unattached none exc =>
      refine iff_of_true ?_ fun both => by cases both.1
      intro _ _
      exact ⟨rfl, id⟩
  | already running persisted =>
      cases persisted with
      | off none => exact iff_of_true undone_ok fun both => by cases both.1
      | written path => exact iff_of_true undone_ok fun both => by cases both.1
      | failed path exc =>
          refine iff_of_true ?_ fun both => by cases both.1
          intro _ _
          exact ⟨rfl, id⟩
  | set journal stopped moved =>
      cases moved with
      | refused exc forbidden =>
          rcases forbidden with ⟨automatic, _⟩ | ⟨other, _⟩
          · cases automatic
          · exact absurd rfl other
      | same same persisted => exact absurd same.symm stopped
      | moved event allowed different previous goal drawn transited =>
          have lower : severity event.target < severity event.previous := by
            rw [goal, previous, severity_running]
            cases here : (Track.start switch).state with
            | running => exact absurd here stopped
            | paused => decide
            | halted => decide
          cases transited with
          | lowered _ recorded persisted =>
              cases recorded with
              | unattached _ none => rw [none] at journal; cases journal
              | saved _ _ =>
                  cases persisted with
                  | off none => exact iff_of_true undone_ok fun both => by cases both.2
                  | written path => exact iff_of_true undone_ok fun both => by cases both.2
                  | failed path exc =>
                      -- The memory is lowered and the caller is told it is not.
                      refine iff_of_false ?_ fun not => not ⟨rfl, rfl⟩
                      intro undone
                      have left : event.target = (Track.start switch).state := (undone _ rfl).1
                      exact different (goal ▸ left)
          | refused _ recorded =>
              cases recorded with
              | refused _ exc =>
                  refine iff_of_true ?_ fun both => by cases both.1
                  intro _ _
                  exact ⟨rfl, id⟩
          | raised raises _ _ => exact absurd lower raises
          | unsaved raises _ => exact absurd lower raises

end Rearm

/-- A re-arm that raises leaves the switch as it was exactly unless the journal has
accepted its event and a step on the file failed. -/
theorem rearm_failure_iff {config : Config} {actor reason : String} {checklist : List String}
    {world : World} {result : Except Exc Bool} {final : Instant}
    (run : (rearm config actor reason checklist).Runs (Serve locked) ⟨world, []⟩ result final) :
    (∀ exc, result = .error exc → stateOf final.world = stateOf world ∧
        (Agrees config world.switch → Agrees config final.world.switch)) ↔
      ¬((∃ e ∈ final.events, accepts e = true) ∧ ∃ e ∈ final.events, failsFile e = true) := by
  have rearms : Rearms (fun _ => True) config (.start world.switch) result (track final) :=
    rearm_outcome (fun _ _ => trivial) run
  have failure := rearms.undone_iff
  rw [← List.any_eq_true, ← List.any_eq_true]
  exact failure

/-! ## Flags that are no text -/

/-- What the flag file holds. -/
inductive FlagFile where
  | missing
  | unreadable
  | bytes (content : ByteArray)

namespace FlagFile

def present : FlagFile → Bool
  | .missing => false
  | _ => true

/-- `read_text(encoding="utf-8")`.  Text mode also translates line ends, which no name of
a state contains. -/
def text : FlagFile → Except Exc String
  | .missing =>
      .error { kind := .osError, typeName := "FileNotFoundError", message := "No such file or directory" }
  | .unreadable =>
      .error { kind := .osError, typeName := "PermissionError", message := "Permission denied" }
  | .bytes content =>
      match String.fromUTF8? content with
      | some text => .ok text
      | none =>
          .error { kind := .valueError, typeName := "UnicodeDecodeError", message := "invalid start byte" }

/-- The file holds bytes that no text is encoded as. -/
def Undecodable (flag : FlagFile) : Prop :=
  ∃ content, flag = .bytes content ∧ String.fromUTF8? content = none

end FlagFile

/-- The flags a call reads: the environment variable, and the file throughout the call. -/
def Reads (environ : String) (flag : FlagFile) : Served → Prop
  | ⟨.switch .environ, reply, _, _⟩ => reply = .ok environ
  | ⟨.switch .flagExists, reply, _, _⟩ => reply = .ok flag.present
  | ⟨.switch .readFlag, reply, _, _⟩ => reply = flag.text
  | _ => True

/-- What a flag asks for; blanks ask for nothing, and what is no state asks for a halt. -/
def requestOf (raw : String) : KillSwitchState :=
  if normalise raw = [] then .running else (readState (normalise raw)).getD .halted

/-- What the flag file asks for. -/
def fileRequest (config : Config) (flag : FlagFile) : KillSwitchState :=
  if config.flagPath then
    match flag with
    | .missing => .running
    | .unreadable => .halted
    | .bytes content => ((String.fromUTF8? content).map requestOf).getD .halted
  else .running

section Flags

variable {config : Config} {t t' : Track}

/-- A stop at or above the current state takes effect, and only the file can fail. -/
theorem Sets.stops {assume : Served → Prop} {target : KillSwitchState} {automatic : Bool}
    {result : Except Exc Unit} (sets : Sets assume config target automatic t result t')
    (stop : target ≠ .running) (above : severity t.state ≤ severity target) :
    result = .ok () ∧ t'.state = target ∨ (∃ exc, result = .error exc) ∧ t'.fileFailed = true := by
  cases sets with
  | refused exc forbidden =>
      rcases forbidden with ⟨_, running⟩ | ⟨_, lower⟩
      · exact absurd running stop
      · omega
  | same same persisted =>
      cases persisted with
      | off none => exact .inl ⟨rfl, same.symm⟩
      | written path => exact .inl ⟨rfl, same.symm⟩
      | failed path exc => exact .inr ⟨⟨exc, rfl⟩, rfl⟩
  | moved event allowed different previous goal drawn transited =>
      have raises : ¬severity event.target < severity event.previous := by
        rw [goal, previous]
        omega
      cases transited with
      | lowered lower _ _ => exact absurd lower raises
      | refused lower _ => exact absurd lower raises
      | raised _ persisted recorded =>
          have left := recorded.state.trans persisted.state
          cases recorded with
          | unattached _ none => exact .inl ⟨rfl, left.trans goal⟩
          | saved _ journal => exact .inl ⟨rfl, left.trans goal⟩
          | pending journal => exact .inl ⟨rfl, left.trans goal⟩
      | unsaved _ persisted =>
          cases persisted with
          | failed path exc => exact .inr ⟨⟨_, rfl⟩, rfl⟩

theorem severity_le_halted (state : KillSwitchState) : severity state ≤ severity .halted := by
  cases state <;> decide

/-- A request to halt leaves the switch halted, however it ends. -/
theorem Sets.halts {assume : Served → Prop} {automatic : Bool} {result : Except Exc Unit}
    (sets : Sets assume config .halted automatic t result t') : t'.state = .halted := by
  cases sets with
  | refused exc forbidden =>
      rcases forbidden with ⟨_, running⟩ | ⟨_, lower⟩
      · cases running
      · exact absurd lower (Nat.not_lt.2 (severity_le_halted _))
  | same same persisted => exact persisted.state.trans same.symm
  | moved event allowed different previous goal drawn transited =>
      rcases transited.state with reached | ⟨lower, _⟩
      · exact reached.trans goal
      · rw [goal] at lower
        exact absurd lower (Nat.not_lt.2 (severity_le_halted _))

/-- Applying a flag raises the switch to what it asks for. -/
theorem AppliesFlag.strictest {assume : Served → Prop} {raw : String} {result : Except Exc Unit}
    (applied : AppliesFlag assume config raw t result t') :
    result = .ok () ∧ severity t'.state = max (severity t.state) (severity (requestOf raw)) ∨
      (∃ exc, result = .error exc) ∧ t'.fileFailed = true := by
  cases applied with
  | blank blank =>
      refine .inl ⟨rfl, ?_⟩
      rw [requestOf, if_pos blank, severity_running]
      omega
  | unknown text unknown moved =>
      have asked : requestOf raw = .halted := by
        rw [requestOf, if_neg text, unknown]
        rfl
      have top := severity_le_halted t.state
      rcases moved.stops (by decide) top with ⟨done, left⟩ | failed
      · refine .inl ⟨done, ?_⟩
        rw [left, asked]
        omega
      · exact .inr failed
  | above requested text known above moved =>
      have asked : requestOf raw = requested := by
        rw [requestOf, if_neg text, known]
        rfl
      rcases moved.stops (ne_running_of_above above) (by omega) with ⟨done, left⟩ | failed
      · refine .inl ⟨done, ?_⟩
        rw [left, asked]
        omega
      · exact .inr failed
  | below requested text known below =>
      have asked : requestOf raw = requested := by
        rw [requestOf, if_neg text, known]
        rfl
      refine .inl ⟨rfl, ?_⟩
      rw [asked]
      omega

/-- Applying flags one after the other raises the switch to the strictest. -/
theorem Applies.strictest {assume : Served → Prop} {raws : List String}
    {result : Except Exc KillSwitchState} (applied : Applies assume config raws t result t') :
    result = .ok t'.state ∧ severity t'.state =
        (raws.map fun raw => severity (requestOf raw)).foldl max (severity t.state) ∨
      (∃ exc, result = .error exc) ∧ t'.fileFailed = true := by
  induction applied with
  | done t => exact .inl ⟨rfl, rfl⟩
  | next first others ih =>
      rcases first.strictest with ⟨_, here⟩ | ⟨⟨exc, raised⟩, _⟩
      · rw [here] at ih
        exact ih
      · cases raised
  | failed first =>
      rcases first.strictest with ⟨done, _⟩ | failed
      · cases done
      · exact .inr ⟨⟨_, rfl⟩, failed.2⟩

variable {environ : String} {flag : FlagFile}

/-- A file that asks for `request`, if it asks for anything. -/
def AsksFor (file : Option String) (request : KillSwitchState) : Prop :=
  ∀ floor, (file.toList.map fun raw => severity (requestOf raw)).foldl max floor =
    max floor (severity request)

theorem asksFor_none : AsksFor none .running := by
  intro floor
  rw [severity_running]
  simp

theorem asksFor_some (text : String) : AsksFor (some text) (requestOf text) := fun _ => rfl

theorem requestOf_unreadable : requestOf "unreadable" = .halted := by decide

/-- Reading the flag file raises exactly when the file is no text. -/
theorem ReadsFlag.decodable {read : Except Exc (Option String)}
    (reads : ReadsFlag (Reads environ flag) config read) :
    (∃ exc, read = .error exc) ∧ config.flagPath = true ∧ flag.Undecodable ∨
      ∃ file, read = .ok file ∧ ¬(config.flagPath = true ∧ flag.Undecodable) ∧
        AsksFor file (fileRequest config flag) := by
  cases reads with
  | unset unset =>
      have asked : fileRequest config flag = .running := if_neg (by simp [unset])
      refine .inr ⟨none, rfl, ?_, asked ▸ asksFor_none⟩
      rintro ⟨path, _⟩
      rw [unset] at path
      cases path
  | missing path before after gone =>
      have absent : false = flag.present := Except.ok.inj gone
      cases flag with
      | missing =>
          have asked : fileRequest config .missing = .running := if_pos path
          refine .inr ⟨none, rfl, ?_, asked ▸ asksFor_none⟩
          rintro ⟨_, content, here, _⟩
          cases here
      | unreadable => cases absent
      | bytes content => cases absent
  | present path before after before' after' there reply read =>
      have text : reply = flag.text := read
      have present : true = flag.present := Except.ok.inj there
      subst text
      cases flag with
      | missing => cases present
      | unreadable =>
          have asked : fileRequest config .unreadable = requestOf "unreadable" :=
            (if_pos path).trans requestOf_unreadable.symm
          refine .inr ⟨some "unreadable", rfl, ?_, asked ▸ asksFor_some _⟩
          rintro ⟨_, content, here, _⟩
          cases here
      | bytes content =>
          cases decoded : String.fromUTF8? content with
          | none =>
              refine .inl ⟨?_, path, content, rfl, decoded⟩
              simp [FlagFile.text, understood, decoded]
          | some text =>
              have asked : fileRequest config (.bytes content) = requestOf text := by
                simp [fileRequest, path, decoded]
              refine .inr ⟨some text, ?_, ?_, asked ▸ asksFor_some text⟩
              · simp [FlagFile.text, understood, decoded]
              · rintro ⟨_, content', here, undecoded⟩
                cases here
                rw [decoded] at undecoded
                cases undecoded

/-- While the file can be written, a call leaves the strictest of the state and the two
requests, and returns it; only a file that is no text makes it raise. -/
theorem Syncs.strictest_iff {switch : SwitchWorld} {result : Except Exc KillSwitchState}
    (syncs : Syncs (Reads environ flag) config (.start switch) result t')
    (writable : t'.fileFailed = false) :
    (result = .ok t'.state ∧ severity t'.state = max (severity switch.memory.state)
        (max (severity (requestOf environ)) (severity (fileRequest config flag)))) ↔
      ¬(config.flagPath = true ∧ flag.Undecodable) := by
  cases syncs with
  | unread read =>
      rcases read.decodable with ⟨_, both⟩ | ⟨file, here, _⟩
      · exact iff_of_false (fun ended => by cases ended.1) fun not => not both
      · cases here
  | applied text before after environ read applied =>
      have same : text = _ := Except.ok.inj environ
      subst same
      rcases read.decodable with ⟨⟨exc, raised⟩, _⟩ | ⟨file, here, decodable, asks⟩
      · cases raised
      · cases here
        refine iff_of_true ?_ decodable
        rcases applied.strictest with ⟨done, here⟩ | ⟨_, failed⟩
        · refine ⟨done, here.trans ?_⟩
          rw [List.map_cons, List.foldl_cons, asks, max_assoc]
          rfl
        · rw [writable] at failed
          cases failed

end Flags

/-- A halted switch, with its file up to date. -/
def haltedWorld : World :=
  { emptyWorld (.inMemory .empty) (.inMemory .empty .empty) with
    switch := ⟨⟨.halted, [], []⟩, some .halted, []⟩ }

def allConfigured : Config where
  path := true
  journal := true
  flagPath := true

/-- Everything works; nobody else does anything. -/
def quiet : Cast where
  broker _ _ := .error (.valueError "no broker")

theorem quiet_sound : quiet.script.Sound (Serve locked) :=
  Cast.sound locked (fun _ => rfl) fun _ _ => rfl

/-- The disk refuses to replace the file. -/
def fullDisk : Script effects Exc World
  | .switch (.replaceFile _), m =>
      (.error { kind := .osError, typeName := "OSError", message := "No space left on device" }, m.world)
  | op, m => quiet.script op m

theorem fullDisk_sound : fullDisk.Sound (Serve locked) := by
  intro op m
  cases op with
  | switch call =>
      cases call with
      | replaceFile state => exact ⟨m.world.switch, .inr ⟨⟨_, rfl⟩, rfl⟩, rfl⟩
      | _ => exact quiet_sound (.switch _) m
  | _ => exact quiet_sound _ m

/-- The re-arm on the full disk, run to its end. -/
def rearmed : Except Exc Bool × Instant :=
  (rearm allConfigured "admin" "reviewed" []).play fullDisk ⟨haltedWorld, []⟩

theorem rearmed_runs : (rearm allConfigured "admin" "reviewed" []).Runs (Serve locked)
    ⟨haltedWorld, []⟩ rearmed.1 rearmed.2 := Prog.play_runs fullDisk_sound _ _

theorem rearm_failure_iff_fullDisk :
    (∀ exc, rearmed.1 = .error exc → stateOf rearmed.2.world = stateOf haltedWorld ∧
        (Agrees allConfigured haltedWorld.switch → Agrees allConfigured rearmed.2.world.switch)) ↔
      ¬((∃ e ∈ rearmed.2.events, accepts e = true) ∧ ∃ e ∈ rearmed.2.events, failsFile e = true) :=
  rearm_failure_iff rearmed_runs

/-- The caller is told that the re-arm failed, the file still says halted, and the
switch is running. -/
theorem rearm_fails_running : ∃ exc final,
    (rearm allConfigured "admin" "reviewed" []).Runs (Serve locked) ⟨haltedWorld, []⟩ (.error exc) final ∧
      stateOf haltedWorld = .halted ∧ stateOf final.world = .running ∧
      restartState allConfigured final.world.switch = .halted := by
  have raised : rearmed.1.toBool = false := by decide +kernel
  have running : stateOf rearmed.2.world = .running := by decide +kernel
  have onDisk : restartState allConfigured rearmed.2.world.switch = .halted := by decide +kernel
  have run := rearmed_runs
  cases outcome : rearmed.1 with
  | ok changed =>
      rw [outcome] at raised
      cases raised
  | error exc =>
      rw [outcome] at run
      exact ⟨exc, _, run, rfl, running, onDisk⟩

/-- A byte that begins no character. -/
def noText : FlagFile := .bytes ⟨#[255]⟩

/-- The flag file holds `noText`, and everything else works. -/
def flagged : Script effects Exc World
  | .switch .flagExists, m => (.ok noText.present, m.world)
  | .switch .readFlag, m => (noText.text, m.world)
  | op, m => quiet.script op m

theorem flagged_sound : flagged.Sound (Serve locked) := by
  intro op m
  cases op with
  | switch call =>
      cases call with
      | flagExists => exact ⟨m.world.switch, ⟨⟨_, rfl⟩, rfl⟩, rfl⟩
      | readFlag => exact ⟨m.world.switch, rfl, rfl⟩
      | _ => exact quiet_sound (.switch _) m
  | _ => exact quiet_sound _ m

def synced : Except Exc KillSwitchState × Instant :=
  (syncExternalState allConfigured).play flagged ⟨haltedWorld, []⟩

theorem synced_runs : (syncExternalState allConfigured).Runs (Serve locked) ⟨haltedWorld, []⟩ synced.1
    synced.2 := Prog.play_runs flagged_sound _ _

theorem flagged_reads (op : Op) (m : Instant) :
    Reads "" noText (m.event op (flagged op m).1 (flagged op m).2) ∧
      failsFile (m.event op (flagged op m).1 (flagged op m).2) = false := by
  cases op with
  | switch call => cases call <;> exact ⟨by first | exact rfl | exact trivial, rfl⟩
  | _ => exact ⟨trivial, rfl⟩

theorem synced_events : ∀ e ∈ synced.2.events, Reads "" noText e ∧ failsFile e = false :=
  forall_of_along (Prog.play_along flagged_reads _ trivial)

end AlgoTrader.Risk.KillSwitch
