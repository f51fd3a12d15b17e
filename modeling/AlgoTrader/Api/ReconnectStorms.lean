/-
# Api.ReconnectStorms -- the storms of the digest and of the live runtime

The runtime keeps the disconnects of its rolling window in a deque it trims from the front.
The digest reads the disconnects of its range from the table and keeps such a window of its
own: it starts empty at the first day of the range, whatever happened before.

* `trace_eq` -- what the runtime held at each disconnect, trimmed as events arrive, is what a
  recount of the whole history gives;
* `stormDays_iff` -- what the digest flags is what a recount from the first day gives;
* `storms_agree_iff` -- when the two agree on a day.
-/
import Mathlib.Data.List.Pairwise
import Mathlib.Data.List.Sort
import Mathlib.Data.List.TakeWhile
import AlgoTrader.Core.Models
import AlgoTrader.Theory.Dict

namespace AlgoTrader.Theory

set_option autoImplicit false

/-! ## Trimming a sorted window -/

variable {α : Type} [LinearOrder α]

/-- What a sorted list drops from its front is all that lies before the cutoff. -/
theorem dropWhile_eq_filter {xs : List α} (sorted : xs.Pairwise (· ≤ ·)) (cutoff : α) :
    xs.dropWhile (· < cutoff) = xs.filter (cutoff ≤ ·) := by
  induction xs with
  | nil => rfl
  | cons x xs ih =>
      obtain ⟨least, sorted⟩ := List.pairwise_cons.1 sorted
      by_cases early : x < cutoff
      · simp [early, not_le.2 early, ih sorted]
      · have late := not_lt.1 early
        have rest : xs.filter (cutoff ≤ ·) = xs :=
          List.filter_eq_self.2 fun y member => by simpa using late.trans (least y member)
        simp [early, late, rest]

/-- Trimming at an earlier cutoff is not seen at a later one. -/
theorem filter_trimmed (xs : List α) {cutoff later : α} (earlier : cutoff ≤ later) :
    (xs.filter (cutoff ≤ ·)).filter (later ≤ ·) = xs.filter (later ≤ ·) := by
  rw [List.filter_filter]
  refine List.filter_congr fun x _ => ?_
  by_cases kept : later ≤ x
  · simp [kept, earlier.trans kept]
  · simp [kept]

end AlgoTrader.Theory

namespace AlgoTrader.App

open AlgoTrader.Core Theory

set_option autoImplicit false

/-! ## The live runtime -/

structure StormSettings where
  threshold : Int
  window : Duration
  alertInterval : Duration

/-- What `PaperRuntime` keeps of the stream's disconnects and of the alerts on them. -/
structure PaperRuntime where
  disconnects : List Timestamp := []
  streamHealthy : Bool := false
  activeAlerts : List String := []
  alertedAt : Dict String Timestamp := .empty

inductive StreamEvent where
  /-- A disconnect, saved to the journal or not; the operator takes an alert on it or not. -/
  | disconnect (at_ : Timestamp) (saved delivers : Bool)
  | healthy (at_ : Timestamp)
  | candle (at_ : Timestamp)

def StreamEvent.time : StreamEvent → Timestamp
  | disconnect at_ _ _ => at_
  | healthy at_ => at_
  | candle at_ => at_

/-- When a disconnect was saved. -/
def StreamEvent.savedAt : StreamEvent → Option Timestamp
  | disconnect at_ true _ => some at_
  | _ => none

namespace PaperRuntime

variable (settings : StormSettings)

def expireDisconnects (at_ : Timestamp) (runtime : PaperRuntime) : PaperRuntime :=
  { runtime with disconnects := runtime.disconnects.dropWhile (· < at_ - settings.window) }

def clearAlert (condition : String) (runtime : PaperRuntime) : PaperRuntime :=
  { runtime with
    activeAlerts := runtime.activeAlerts.filter (· ≠ condition)
    alertedAt := runtime.alertedAt.erase condition }

def alertOnce (condition : String) (repeatAfter : Duration) (current : Timestamp) (delivers : Bool)
    (runtime : PaperRuntime) : PaperRuntime :=
  let quiet : Bool := match runtime.alertedAt.get? condition with
    | none => true
    | some last => current - last < repeatAfter
  if condition ∈ runtime.activeAlerts ∧ quiet then runtime
  else if delivers then
    { runtime with
      activeAlerts := condition :: runtime.activeAlerts.filter (· ≠ condition)
      alertedAt := runtime.alertedAt.set condition current }
  else runtime.clearAlert condition

def onDisconnect (at_ : Timestamp) (saved delivers : Bool) (runtime : PaperRuntime) : PaperRuntime :=
  -- The journal is written first; where that raises, nothing else is done.
  if ¬saved then runtime
  else
    let runtime := { runtime with streamHealthy := false }.expireDisconnects settings at_
    let runtime := { runtime with disconnects := runtime.disconnects ++ [at_] }
    if settings.threshold ≤ runtime.disconnects.length then
      runtime.alertOnce "market_data_reconnect_storm" settings.alertInterval at_ delivers
    else runtime

def clearRecoveredStorm (at_ : Timestamp) (runtime : PaperRuntime) : PaperRuntime :=
  if ¬runtime.streamHealthy then runtime
  else
    let runtime := runtime.expireDisconnects settings at_
    if runtime.disconnects.length < settings.threshold then
      runtime.clearAlert "market_data_reconnect_storm"
    else runtime

def onStreamHealthy (at_ : Timestamp) (runtime : PaperRuntime) : PaperRuntime :=
  ({ runtime with streamHealthy := true }.clearRecoveredStorm settings at_).clearAlert
    "market_data_disconnected"

def step (event : StreamEvent) (runtime : PaperRuntime) : PaperRuntime :=
  match event with
  | .disconnect at_ saved delivers => runtime.onDisconnect settings at_ saved delivers
  | .healthy at_ => runtime.onStreamHealthy settings at_
  | .candle at_ => runtime.clearRecoveredStorm settings at_

/-- Each disconnect a run saves, with the number the rolling window held at it. -/
def trace : List StreamEvent → PaperRuntime → List (Timestamp × Nat)
  | [], _ => []
  | event :: events, runtime =>
      let next := runtime.step settings event
      match event.savedAt with
      | some at_ => (at_, next.disconnects.length) :: trace events next
      | none => trace events next

end PaperRuntime

/-- The disconnects a run saves to the journal. -/
def recorded (events : List StreamEvent) : List Timestamp := events.filterMap StreamEvent.savedAt

end AlgoTrader.App

namespace AlgoTrader.Api

open AlgoTrader.Core Theory

/-! ## The digest -/

/-- What the loop over the disconnects of the range keeps. -/
structure StormCount where
  recent : List Timestamp
  storms : List Bool

/-- The first day whose end a moment comes before. -/
def dayIndex (ends : List Timestamp) (moment : Timestamp) : Option Nat :=
  ends.findIdx? (moment < ·)

def countDisconnect (ends : List Timestamp) (threshold : Int) (window : Duration) (moment : Timestamp)
    (count : StormCount) : StormCount :=
  let recent := count.recent.filter (moment - window ≤ ·) ++ [moment]
  if recent.length < threshold then { count with recent }
  else
    match dayIndex ends moment with
    | none => { count with recent }
    | some index => { recent, storms := count.storms.set index true }

/-- The disconnects of the range as the query reads them. -/
def inRange (rows : List Timestamp) (first last : Timestamp) : List Timestamp :=
  (rows.filter fun row => first ≤ row ∧ row < last).insertionSort (· ≤ ·)

/-- `_daily_reconnect_storms`, over the edges `first :: ends`. -/
def dailyReconnectStorms (rows : List Timestamp) (first : Timestamp) (ends : List Timestamp)
    (threshold : Int) (window : Duration) : List Bool :=
  let moments := inRange rows first ((first :: ends).getLast (List.cons_ne_nil _ _))
  (moments.foldl (fun count moment => countDisconnect ends threshold window moment count)
    ⟨[], List.replicate ends.length false⟩).storms

/-! ## Recounting a window -/

/-- How many a window holds at a moment, with those before it. -/
def heldAt (window : Duration) (earlier : List Timestamp) (moment : Timestamp) : Nat :=
  (earlier.filter (moment - window ≤ ·)).length + 1

/-- Every moment with what a window holds at it. -/
def heldTrace (window : Duration) : List Timestamp → List Timestamp → List (Timestamp × Nat)
  | _, [] => []
  | earlier, moment :: moments =>
      (moment, heldAt window earlier moment) :: heldTrace window (earlier ++ [moment]) moments

theorem mem_heldTrace {window : Duration} {earlier moments : List Timestamp} {moment : Timestamp}
    {held : Nat} : (moment, held) ∈ heldTrace window earlier moments ↔
      ∃ before after, moments = before ++ moment :: after ∧
        held = heldAt window (earlier ++ before) moment := by
  induction moments generalizing earlier with
  | nil => simp [heldTrace]
  | cons first moments ih =>
      rw [heldTrace, List.mem_cons, ih]
      constructor
      · rintro (here | ⟨before, after, rfl, rfl⟩)
        · cases here
          exact ⟨[], moments, rfl, by rw [List.append_nil]⟩
        · refine ⟨first :: before, after, rfl, ?_⟩
          rw [List.append_assoc, List.singleton_append]
      · rintro ⟨before, after, split, rfl⟩
        cases before with
        | nil =>
            cases split
            rw [List.append_nil]
            exact .inl rfl
        | cons _ before =>
            cases split
            refine .inr ⟨before, after, rfl, ?_⟩
            rw [List.append_assoc, List.singleton_append]

/-- A window trimmed so far holds what matters at any later moment. -/
structure Tracks (window : Duration) (earlier : List Timestamp) (now : Timestamp)
    (kept : List Timestamp) : Prop where
  sorted : kept.Pairwise (· ≤ ·)
  past : ∀ t ∈ kept, t ≤ now
  tail : ∀ cutoff, now - window ≤ cutoff →
    kept.filter (cutoff ≤ ·) = earlier.filter (cutoff ≤ ·)

section Tracks

variable {window : Duration} {earlier kept : List Timestamp} {now moment : Timestamp}

theorem Tracks.none (window : Duration) (now : Timestamp) : Tracks window [] now [] :=
  ⟨.nil, (fun _ never => by cases never), fun _ _ => rfl⟩

theorem Tracks.later (tracks : Tracks window earlier now kept) (onward : now ≤ moment) :
    Tracks window earlier moment kept :=
  ⟨tracks.sorted, fun t member => (tracks.past t member).trans onward, fun cutoff after =>
    tracks.tail cutoff ((Int.sub_le_sub_right onward window).trans after)⟩

theorem Tracks.expire (tracks : Tracks window earlier now kept) (onward : now ≤ moment) :
    kept.dropWhile (· < moment - window) = earlier.filter (moment - window ≤ ·) ∧
      Tracks window earlier moment (kept.dropWhile (· < moment - window)) := by
  have trimmed := dropWhile_eq_filter tracks.sorted (moment - window)
  have same := tracks.tail _ (Int.sub_le_sub_right onward window)
  refine ⟨trimmed.trans same, ?_⟩
  rw [trimmed]
  refine ⟨tracks.sorted.filter _, fun t member => ?_, fun cutoff after => ?_⟩
  · exact (tracks.past t (List.mem_filter.1 member).1).trans onward
  · rw [filter_trimmed kept after]
    exact tracks.tail cutoff ((Int.sub_le_sub_right onward window).trans after)

theorem Tracks.append (tracks : Tracks window earlier now kept) :
    Tracks window (earlier ++ [now]) now (kept ++ [now]) := by
  refine ⟨?_, fun t member => ?_, fun cutoff after => ?_⟩
  · refine List.pairwise_append.2 ⟨tracks.sorted, List.pairwise_singleton .., fun t member u last => ?_⟩
    rw [List.mem_singleton.1 last]
    exact tracks.past t member
  · rcases List.mem_append.1 member with old | new
    · exact tracks.past t old
    · exact (List.mem_singleton.1 new).le
  · rw [List.filter_append, List.filter_append, tracks.tail cutoff after]

end Tracks

section Live

open App

variable {settings : StormSettings} {runtime : PaperRuntime} {earlier : List Timestamp} {now : Timestamp}

@[simp] theorem clearAlert_disconnects (condition : String) :
    (runtime.clearAlert condition).disconnects = runtime.disconnects := rfl

@[simp] theorem alertOnce_disconnects (condition : String) (repeatAfter : Duration)
    (current : Timestamp) (delivers : Bool) :
    (runtime.alertOnce condition repeatAfter current delivers).disconnects = runtime.disconnects := by
  simp only [PaperRuntime.alertOnce]
  split_ifs
  · rfl
  · rfl
  · rfl

theorem onDisconnect_disconnects (at_ : Timestamp) (delivers : Bool) :
    (runtime.onDisconnect settings at_ true delivers).disconnects =
      runtime.disconnects.dropWhile (· < at_ - settings.window) ++ [at_] := by
  unfold PaperRuntime.onDisconnect
  rw [if_neg (by simp)]
  dsimp only
  split
  · rw [alertOnce_disconnects]
    rfl
  · rfl

theorem clearRecoveredStorm_tracks (tracks : Tracks settings.window earlier now runtime.disconnects)
    {at_ : Timestamp} (onward : now ≤ at_) : Tracks settings.window earlier at_
      (runtime.clearRecoveredStorm settings at_).disconnects := by
  unfold PaperRuntime.clearRecoveredStorm
  dsimp only
  split
  · exact tracks.later onward
  · split
    · exact (tracks.expire onward).2
    · exact (tracks.expire onward).2

/-- Whatever the runtime does, its deque goes on holding what matters. -/
theorem step_tracks (tracks : Tracks settings.window earlier now runtime.disconnects)
    {event : StreamEvent} (onward : now ≤ event.time) :
    Tracks settings.window (earlier ++ event.savedAt.toList) event.time
      (runtime.step settings event).disconnects := by
  cases event with
  | disconnect at_ saved delivers =>
      cases saved with
      | false =>
          have untouched := tracks.later onward
          rw [← List.append_nil earlier] at untouched
          exact untouched
      | true =>
          have trimmed := (tracks.expire onward).2.append
          rw [PaperRuntime.step, onDisconnect_disconnects]
          exact trimmed
  | healthy at_ =>
      have connected : Tracks settings.window earlier now
          { runtime with streamHealthy := true }.disconnects := tracks
      have trimmed := clearRecoveredStorm_tracks connected onward
      rw [← List.append_nil earlier] at trimmed
      exact trimmed
  | candle at_ =>
      have trimmed := clearRecoveredStorm_tracks tracks onward
      rw [← List.append_nil earlier] at trimmed
      exact trimmed

theorem step_held (tracks : Tracks settings.window earlier now runtime.disconnects)
    {event : StreamEvent} {at_ : Timestamp} (saved : event.savedAt = some at_)
    (onward : now ≤ event.time) :
    (runtime.step settings event).disconnects.length = heldAt settings.window earlier at_ := by
  cases event with
  | disconnect moment kept delivers =>
      cases kept with
      | false => cases saved
      | true =>
          cases saved
          have trimmed := (tracks.expire onward).1
          change runtime.disconnects.dropWhile (· < at_ - settings.window) = _ at trimmed
          rw [PaperRuntime.step, onDisconnect_disconnects, trimmed, List.length_append]
          rfl
  | healthy moment => cases saved
  | candle moment => cases saved

/-- What the runtime held at every disconnect is a recount of the whole history. -/
theorem trace_eq {events : List StreamEvent} (ordered : (events.map StreamEvent.time).Pairwise (· ≤ ·))
    (tracks : Tracks settings.window earlier now runtime.disconnects)
    (onward : ∀ event ∈ events, now ≤ event.time) :
    runtime.trace settings events = heldTrace settings.window earlier (recorded events) := by
  induction events generalizing runtime earlier now with
  | nil => rfl
  | cons event events ih =>
      obtain ⟨least, ordered⟩ := List.pairwise_cons.1 ordered
      have here := onward event List.mem_cons_self
      have next := step_tracks tracks here
      have rest := ih ordered next fun other member => least _ (List.mem_map_of_mem member)
      unfold recorded
      rw [PaperRuntime.trace, List.filterMap_cons]
      cases saved : event.savedAt with
      | none =>
          rw [saved, Option.toList_none, List.append_nil] at rest
          exact rest
      | some at_ =>
          rw [saved, Option.toList_some] at rest
          rw [step_held tracks saved here, rest]
          rfl

end Live

/-! ## What the digest flags -/

section Digest

variable {ends : List Timestamp} {threshold : Int} {window : Duration} {earlier : List Timestamp}
  {now moment : Timestamp} {count : StormCount}

theorem countDisconnect_tracks (tracks : Tracks window earlier now count.recent) (onward : now ≤ moment) :
    Tracks window (earlier ++ [moment]) moment
      (countDisconnect ends threshold window moment count).recent := by
  have trimmed := (tracks.expire onward).2.append
  rw [dropWhile_eq_filter tracks.sorted] at trimmed
  unfold countDisconnect
  dsimp only
  split
  · exact trimmed
  · split
    · exact trimmed
    · exact trimmed

theorem countDisconnect_storms (tracks : Tracks window earlier now count.recent) (onward : now ≤ moment)
    {day : Nat} (inside : day < count.storms.length) :
    (countDisconnect ends threshold window moment count).storms.length = count.storms.length ∧
      ((countDisconnect ends threshold window moment count).storms[day]? = some true ↔
        count.storms[day]? = some true ∨
          threshold ≤ heldAt window earlier moment ∧ dayIndex ends moment = some day) := by
  have held : (count.recent.filter (moment - window ≤ ·) ++ [moment]).length =
      heldAt window earlier moment := by
    rw [tracks.tail _ (Int.sub_le_sub_right onward window), List.length_append]
    rfl
  unfold countDisconnect
  dsimp only
  rw [held]
  split
  · rename_i few
    simp [few]
  · rename_i enough
    have reached := not_lt.1 enough
    cases index : dayIndex ends moment with
    | none => simp
    | some other =>
        rw [List.length_set]
        refine ⟨rfl, ?_⟩
        by_cases same : other = day
        · subst same
          simp [reached, List.getElem?_set_self inside]
        · simp [same, List.getElem?_set_ne same]

/-- A day is flagged where the window held enough at some disconnect of it. -/
theorem counted_storms {moments : List Timestamp} (ordered : moments.Pairwise (· ≤ ·))
    (tracks : Tracks window earlier now count.recent) (onward : ∀ moment ∈ moments, now ≤ moment)
    {day : Nat} (inside : day < count.storms.length) :
    (moments.foldl (fun count moment => countDisconnect ends threshold window moment count)
        count).storms[day]? = some true ↔
      count.storms[day]? = some true ∨ ∃ entry ∈ heldTrace window earlier moments,
        threshold ≤ entry.2 ∧ dayIndex ends entry.1 = some day := by
  induction moments generalizing count earlier now with
  | nil => simp [heldTrace]
  | cons moment moments ih =>
      obtain ⟨least, ordered⟩ := List.pairwise_cons.1 ordered
      have here := onward moment List.mem_cons_self
      obtain ⟨length, flagged⟩ := countDisconnect_storms tracks here inside
      rw [List.foldl_cons, ih ordered (countDisconnect_tracks tracks here) least (length ▸ inside),
        flagged, heldTrace, List.exists_mem_cons_iff, or_assoc]

end Digest

/-! ## The days of a range -/

/-- A moment of a day of the range. -/
def InDay (first : Timestamp) (ends : List Timestamp) (day : Nat) (moment : Timestamp) : Prop :=
  ∃ start stop, (first :: ends)[day]? = some start ∧ ends[day]? = some stop ∧
    start ≤ moment ∧ moment < stop

theorem dayIndex_iff {first : Timestamp} {ends : List Timestamp}
    (ordered : (first :: ends).Pairwise (· ≤ ·)) {day : Nat} {moment : Timestamp}
    (since : first ≤ moment) : dayIndex ends moment = some day ↔ InDay first ends day moment := by
  unfold dayIndex InDay
  rw [List.findIdx?_eq_some_iff_getElem]
  constructor
  · rintro ⟨inside, before, earliest⟩
    have within : day < (first :: ends).length := Nat.lt_succ_of_lt inside
    refine ⟨(first :: ends)[day], ends[day], List.getElem?_eq_getElem within,
      List.getElem?_eq_getElem inside, ?_, by simpa using before⟩
    cases day with
    | zero => exact since
    | succ day =>
        have past := earliest day (Nat.lt_succ_self day)
        simpa using past
  · rintro ⟨start, stop, atStart, atStop, since, before⟩
    obtain ⟨inside, rfl⟩ := List.getElem?_eq_some_iff.1 atStop
    obtain ⟨within, rfl⟩ := List.getElem?_eq_some_iff.1 atStart
    refine ⟨inside, by simpa using before, fun earlier sooner => ?_⟩
    have upTo : ends[earlier] ≤ (first :: ends)[day] := by
      rcases Nat.lt_or_ge (earlier + 1) day with apart | next
      · exact List.pairwise_iff_getElem.1 ordered (earlier + 1) day (by simp; omega) within apart
      · have same : day = earlier + 1 := by omega
        subst same
        exact le_refl _
    simpa using upTo.trans since

/-- At some disconnect of the day the window of the runtime held the threshold number. -/
def LiveStorm (settings : App.StormSettings) (events : List App.StreamEvent) (first : Timestamp)
    (ends : List Timestamp) (day : Nat) : Prop :=
  ∃ entry ∈ App.PaperRuntime.trace settings events {}, InDay first ends day entry.1 ∧
    settings.threshold ≤ entry.2

/-- The digest flags the day. -/
def DigestStorm (settings : App.StormSettings) (events : List App.StreamEvent) (first : Timestamp)
    (ends : List Timestamp) (day : Nat) : Prop :=
  (dailyReconnectStorms (App.recorded events) first ends settings.threshold settings.window)[day]? =
    some true

section Agreement

variable {settings : App.StormSettings} {events : List App.StreamEvent} {first : Timestamp}
  {ends : List Timestamp} {day : Nat}

theorem recorded_ordered (ordered : (events.map App.StreamEvent.time).Pairwise (· ≤ ·)) :
    (App.recorded events).Pairwise (· ≤ ·) := by
  have saved : ∀ {event : App.StreamEvent} {at_ : Timestamp}, event.savedAt = some at_ →
      event.time = at_ := by
    intro event at_ kept
    cases event with
    | disconnect moment saved delivers =>
        cases saved
        · cases kept
        · exact Option.some.inj kept
    | healthy moment => cases kept
    | candle moment => cases kept
  refine (List.pairwise_map.1 ordered).filterMap _ fun a b before x isA y isB => ?_
  rw [← saved isA, ← saved isB]
  exact before

theorem liveStorm_iff (ordered : (events.map App.StreamEvent.time).Pairwise (· ≤ ·)) :
    LiveStorm settings events first ends day ↔
      ∃ before at_ after, App.recorded events = before ++ at_ :: after ∧
        InDay first ends day at_ ∧ settings.threshold ≤ heldAt settings.window before at_ := by
  have whole : App.PaperRuntime.trace settings events {} =
      heldTrace settings.window [] (App.recorded events) := by
    cases events with
    | nil => rfl
    | cons event events =>
        refine trace_eq ordered (.none settings.window event.time) fun other member => ?_
        rcases List.mem_cons.1 member with rfl | later
        · exact le_refl _
        · exact (List.pairwise_cons.1 ordered).1 _ (List.mem_map_of_mem later)
  unfold LiveStorm
  rw [whole]
  constructor
  · rintro ⟨⟨at_, held⟩, member, inDay, enough⟩
    obtain ⟨before, after, split, rfl⟩ := mem_heldTrace.1 member
    exact ⟨before, at_, after, split, inDay, enough⟩
  · rintro ⟨before, at_, after, split, inDay, enough⟩
    exact ⟨(at_, _), mem_heldTrace.2 ⟨before, after, split, rfl⟩, inDay, enough⟩

/-- The moments of a day are those of the range. -/
theorem InDay.inRange {at_ : Timestamp} (edges : (first :: ends).Pairwise (· ≤ ·))
    (inDay : InDay first ends day at_) :
    first ≤ at_ ∧ at_ < (first :: ends).getLast (List.cons_ne_nil _ _) := by
  obtain ⟨start, stop, starts, stops, since, before⟩ := inDay
  constructor
  · refine le_trans ?_ since
    rcases List.mem_cons.1 (List.mem_of_getElem? starts) with rfl | later
    · exact le_refl _
    · exact (List.pairwise_cons.1 edges).1 start later
  · exact before.trans_le (edges.rel_getLast (List.mem_cons_of_mem _ (List.mem_of_getElem? stops)))

/-- Of what came before a moment of the range, the query leaves out what came before the range. -/
theorem split_inRange {rows : List Timestamp} (sorted : rows.Pairwise (· ≤ ·))
    {first last at_ : Timestamp} (since : first ≤ at_) (within : at_ < last)
    (enough : List Timestamp → Prop) :
    (∃ before after, rows.filter (fun row => first ≤ row ∧ row < last) = before ++ at_ :: after ∧
        enough before) ↔
      ∃ before after, rows = before ++ at_ :: after ∧ enough (before.filter (first ≤ ·)) := by
  have earlier : ∀ {before after : List Timestamp}, rows = before ++ at_ :: after →
      before.filter (fun row => first ≤ row ∧ row < last) = before.filter (first ≤ ·) := by
    intro before after split
    rw [split] at sorted
    obtain ⟨_, _, apart⟩ := List.pairwise_append.1 sorted
    refine List.filter_congr fun row member => ?_
    have upTo : row < last := (apart row member at_ List.mem_cons_self).trans_lt within
    simp [upTo]
  constructor
  · rintro ⟨before, after, split, holds⟩
    obtain ⟨head, tail, whole, kept, rest⟩ := List.filter_eq_append_iff.1 split
    obtain ⟨skipped, final, same, none, _, _⟩ := List.filter_eq_cons_iff.1 rest
    have resplit : rows = (head ++ skipped) ++ at_ :: final := by
      rw [whole, same, List.append_assoc]
    refine ⟨head ++ skipped, final, resplit, ?_⟩
    have skips : skipped.filter (fun row => first ≤ row ∧ row < last) = [] :=
      List.filter_eq_nil_iff.2 none
    rw [← earlier resplit, List.filter_append, kept, skips, List.append_nil]
    exact holds
  · rintro ⟨before, after, split, holds⟩
    refine ⟨_, after.filter fun row => first ≤ row ∧ row < last, ?_, earlier split ▸ holds⟩
    rw [split, List.filter_append, List.filter_cons_of_pos (by simp [since, within]), earlier split]

theorem digestStorm_iff (ordered : (events.map App.StreamEvent.time).Pairwise (· ≤ ·))
    (edges : (first :: ends).Pairwise (· ≤ ·)) (inside : day < ends.length) :
    DigestStorm settings events first ends day ↔
      ∃ before at_ after, App.recorded events = before ++ at_ :: after ∧
        InDay first ends day at_ ∧
        settings.threshold ≤ heldAt settings.window (before.filter (first ≤ ·)) at_ := by
  have sorted := recorded_ordered ordered
  have bounds : ∀ at_, InDay first ends day at_ → _ := fun at_ inDay => inDay.inRange edges
  unfold DigestStorm dailyReconnectStorms inRange
  generalize App.recorded events = rows at sorted ⊢
  generalize (first :: ends).getLast (List.cons_ne_nil _ _) = last at bounds ⊢
  have read := sorted.filter fun row => decide (first ≤ row ∧ row < last)
  have since : ∀ row ∈ rows.filter fun row => decide (first ≤ row ∧ row < last), first ≤ row := by
    intro row member
    have kept := (List.mem_filter.1 member).2
    simp only [decide_eq_true_eq] at kept
    exact kept.1
  rw [read.insertionSort_eq,
    counted_storms read (.none settings.window first) since (by simpa using inside)]
  simp only [List.getElem?_replicate, inside, if_true, Option.some.injEq, Bool.false_eq_true, false_or]
  constructor
  · rintro ⟨⟨at_, held⟩, member, enough, index⟩
    obtain ⟨before, after, split, rfl⟩ := mem_heldTrace.1 member
    have here : at_ ∈ rows.filter fun row => decide (first ≤ row ∧ row < last) := by
      rw [split]
      exact List.mem_append_right _ List.mem_cons_self
    have inDay := (dayIndex_iff edges (since at_ here)).1 index
    obtain ⟨before, after, split, enough⟩ := (split_inRange sorted (bounds at_ inDay).1
      (bounds at_ inDay).2 fun before => settings.threshold ≤ heldAt settings.window before at_).1
        ⟨before, after, split, enough⟩
    exact ⟨before, at_, after, split, inDay, enough⟩
  · rintro ⟨before, at_, after, split, inDay, enough⟩
    obtain ⟨before, after, split, enough⟩ := (split_inRange sorted (bounds at_ inDay).1
      (bounds at_ inDay).2 fun before => settings.threshold ≤ heldAt settings.window before at_).2
        ⟨before, after, split, enough⟩
    exact ⟨(at_, _), mem_heldTrace.2 ⟨before, after, split, rfl⟩, enough,
      (dayIndex_iff edges (bounds at_ inDay).1).2 inDay⟩

/-- A recount from the first day of the range never holds more. -/
theorem heldAt_filter_le (window : Duration) (before : List Timestamp) (first at_ : Timestamp) :
    heldAt window (before.filter (first ≤ ·)) at_ ≤ heldAt window before at_ :=
  Nat.succ_le_succ (List.Sublist.length_le (List.filter_sublist.filter _))

theorem heldAt_filter_eq {window : Duration} {before : List Timestamp} {first at_ : Timestamp}
    (within : first ≤ at_ - window) :
    heldAt window (before.filter (first ≤ ·)) at_ = heldAt window before at_ := by
  unfold heldAt
  rw [filter_trimmed before within]

/-- Digest and runtime agree on a day exactly when every storm of the day that needs
disconnects from before the range comes with one on the same day that does not. -/
theorem storms_agree_iff (ordered : (events.map App.StreamEvent.time).Pairwise (· ≤ ·))
    (edges : (first :: ends).Pairwise (· ≤ ·)) (inside : day < ends.length) :
    (DigestStorm settings events first ends day ↔ LiveStorm settings events first ends day) ↔
      ∀ before at_ after, App.recorded events = before ++ at_ :: after → InDay first ends day at_ →
        at_ - settings.window < first → settings.threshold ≤ heldAt settings.window before at_ →
        ∃ before at_ after, App.recorded events = before ++ at_ :: after ∧
          InDay first ends day at_ ∧
          settings.threshold ≤ heldAt settings.window (before.filter (first ≤ ·)) at_ := by
  rw [liveStorm_iff ordered, digestStorm_iff ordered edges inside]
  constructor
  · intro agree before at_ after split inDay _ enough
    exact agree.2 ⟨before, at_, after, split, inDay, enough⟩
  · intro condition
    constructor
    · rintro ⟨before, at_, after, split, inDay, enough⟩
      refine ⟨before, at_, after, split, inDay, enough.trans ?_⟩
      exact_mod_cast heldAt_filter_le settings.window before first at_
    · rintro ⟨before, at_, after, split, inDay, enough⟩
      by_cases reaches : at_ - settings.window < first
      · exact condition before at_ after split inDay reaches enough
      · refine ⟨before, at_, after, split, inDay, ?_⟩
        rw [heldAt_filter_eq (not_lt.1 reaches)]
        exact enough

end Agreement

/-! ## A storm over midnight -/

/-- Three disconnects in five minutes are a storm. -/
def fiveMinutes : App.StormSettings := ⟨3, 300000000, 900000000⟩

/-- Two disconnects before midnight and one after it, all within half a minute. -/
def overMidnight : List App.StreamEvent :=
  [.disconnect (-20000000) true true, .disconnect (-10000000) true true, .disconnect 10000000 true true]

/-- The thirty days from that midnight on. -/
def thirtyDays : List Timestamp := (List.range 30).map fun day => (day + 1) * 86400000000

theorem overMidnight_ordered : (overMidnight.map App.StreamEvent.time).Pairwise (· ≤ ·) := by
  decide

theorem thirtyDays_ordered : ((0 : Timestamp) :: thirtyDays).Pairwise (· ≤ ·) := by
  decide

theorem thirtyDays_first : 0 < thirtyDays.length := by decide

theorem storms_agree_iff_overMidnight :
    (DigestStorm fiveMinutes overMidnight 0 thirtyDays 0 ↔
        LiveStorm fiveMinutes overMidnight 0 thirtyDays 0) ↔
      ∀ before at_ after, App.recorded overMidnight = before ++ at_ :: after →
        InDay 0 thirtyDays 0 at_ → at_ - fiveMinutes.window < 0 →
        fiveMinutes.threshold ≤ heldAt fiveMinutes.window before at_ →
        ∃ before at_ after, App.recorded overMidnight = before ++ at_ :: after ∧
          InDay 0 thirtyDays 0 at_ ∧
          fiveMinutes.threshold ≤ heldAt fiveMinutes.window (before.filter (0 ≤ ·)) at_ :=
  storms_agree_iff overMidnight_ordered thirtyDays_ordered thirtyDays_first

/-- The runtime held three disconnects after midnight; the digest counts one. -/
theorem overMidnight_missed : ∃ settings events first ends day,
    (events.map App.StreamEvent.time).Pairwise (· ≤ ·) ∧ (first :: ends).Pairwise (· ≤ ·) ∧
      day < ends.length ∧
      ¬(DigestStorm settings events first ends day ↔ LiveStorm settings events first ends day) := by
  refine ⟨fiveMinutes, overMidnight, 0, thirtyDays, 0, overMidnight_ordered, thirtyDays_ordered,
    thirtyDays_first, fun agree => ?_⟩
  have live : LiveStorm fiveMinutes overMidnight 0 thirtyDays 0 :=
    ⟨(10000000, 3), by decide, ⟨0, 86400000000, rfl, rfl, by decide, by decide⟩, by decide⟩
  have flagged := agree.2 live
  unfold DigestStorm at flagged
  revert flagged
  decide

end AlgoTrader.Api
