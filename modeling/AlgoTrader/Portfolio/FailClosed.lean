/-
# Portfolio.FailClosed -- an iteration ends clean, or with the switch halted

Whatever the broker, the refresh, the store, the alert and the hooks do, an iteration of
the schedule ends with a comparison that found nothing, or behind a trip -- but for one
exit: an alert that raises `ReconciliationUnavailable` is taken for the reconciler's own
exception, which is only raised behind a trip.

* `compare_closed`, `runOnce_closed` -- what is known where a comparison and a run return;
* `iteration_closed` -- the result, for every complete iteration.
-/
import AlgoTrader.Portfolio.Scheduler

namespace AlgoTrader.Portfolio

open AlgoTrader.Core Brokers Theory Process Risk

set_option autoImplicit false

/-- No alert is mistaken for the reconciler: one that raises `ReconciliationUnavailable`
leaves the switch halted. -/
def Unmistaken (e : DeskEvent) : Prop :=
  ∀ exc, alertFailed e = some exc → exc.kind = .reconciliationUnavailable → e.after.state = .halted

section Closed

variable {around : Surroundings} {assume : DeskEvent → Prop} {α : Type}
  (stays : ∀ e, assume e → StaysHalted e)

include stays in
/-- Once halted, whatever the program does. -/
theorem stays_halted (p : Desk α) {m : DeskMoment} (halted : m.world.state = .halted) :
    wp (deskLogic around assume) (fun _ m' => m'.world.state = .halted) p m := by
  induction p generalizing m with
  | pure value => exact halted
  | raise error => exact halted
  | request op next ih =>
      refine ⟨trivial, fun reply after _ assumed => ⟨trivial, ih reply ?_⟩⟩
      exact stays _ assumed halted

theorem trip_halts {reason : String} {m : DeskMoment} :
    wp (deskLogic around assume) (fun _ m' => m'.world.state = .halted) (desk (.trip reason)) m :=
  wp_desk fun _ _ served _ => tripped served

/-- Where a comparison returns: nothing was found, or the switch is halted. -/
def Compared (result : Except Exc (Except String ReconciliationResult)) (m : DeskMoment) : Prop :=
  ∀ outcome, result = .ok outcome →
    m.world.state = .halted ∨ ∃ value, outcome = .ok value ∧ value.discrepancies = []

theorem compared_raised {exc : Exc} {m : DeskMoment} : Compared (.error exc) m :=
  fun _ never => nomatch never

theorem tripUnavailable_compared {detail : String} {m : DeskMoment} :
    wp (deskLogic around assume) Compared (tripUnavailable detail) m := by
  refine wp_bind.2 (wp_mono trip_halts ?_)
  intro reply m' halted
  cases reply with
  | error exc => exact compared_raised
  | ok value => exact fun _ _ => .inl halted

theorem loadTracking_noAlert : Issues NoAlert loadTracking := issues_call fun _ => by simp

theorem refreshTrackedOrders_noAlert : Issues NoAlert refreshTrackedOrders := by
  refine issues_bind loadTracking_noAlert fun tracking => visit_issues _ fun entry => ?_
  exact issues_bind (issues_call fun _ => by simp) fun _ =>
    issues_when fun _ => issues_call fun _ => by simp

variable (unmistaken : ∀ e, assume e → Unmistaken e)

include stays unmistaken in
theorem compareAndAdopt_compared (wiring : Wiring) (local_ : PortfolioState) {m : DeskMoment}
    (alerts : AlertsHalt m.events) :
    wp (deskLogic around assume) Compared (compareAndAdopt wiring local_) m := by
  have exits : wp (deskLogic around assume) (Exits assume) (reconcile wiring local_) m :=
    reconcile_exits (fun e assumed _ => stays e assumed) wiring local_ alerts
  refine wp_bind.2 (wp_attempt.2 (wp_mono exits ?_))
  rintro (exc | value) m₁ left
  · show wp _ Compared (if exc.kind = .reconciliationUnavailable then _ else _) m₁
    split
    · rename_i unavailable
      rintro outcome ⟨⟩
      rcases left with ⟨_, never, _⟩ | halted | ⟨raised, same, e, earlier, _, assumed, failed, after, _⟩
      · cases never
      · exact .inl halted.1
      · cases same
        have state := unmistaken e assumed exc failed unavailable
        rw [after] at state
        exact .inl state
    · exact compared_raised
  · have kept : wp (deskLogic around assume)
        (fun _ m' => m₁.world.state = .halted → m'.world.state = .halted)
        (modifyTracking fun tracking => tracking.adopt value.authoritative local_) m₁ := by
      by_cases halted : m₁.world.state = .halted
      · exact wp_mono (stays_halted stays _ halted) fun _ _ still _ => still
      · exact wp_mono (wp_any _ m₁) fun _ _ _ before => absurd before halted
    refine wp_bind.2 (wp_mono kept ?_)
    rintro (exc | _) m₂ still
    · exact compared_raised
    · rintro outcome ⟨⟩
      rcases left with ⟨found, same, none⟩ | halted | ⟨_, never, _⟩
      · cases same
        exact .inr ⟨value, rfl, none⟩
      · exact .inl (still halted.1)
      · cases never

include stays unmistaken in
theorem compare_closed (wiring : Wiring) {m : DeskMoment} (alerts : AlertsHalt m.events) :
    wp (deskLogic around assume) Compared (compare wiring) m := by
  refine wp_bind.2 (wp_attempt.2 (wp_mono (keeps_alerts refreshTrackedOrders_noAlert alerts) ?_))
  rintro (exc | _) m₁ alerts₁
  · exact tripUnavailable_compared
  refine wp_bind.2 (wp_mono (keeps_alerts loadTracking_noAlert alerts₁) ?_)
  rintro (exc | tracking) m₂ alerts₂
  · exact compared_raised
  have clock : Issues NoAlert (desk (.schedule .utcNow)) := issues_call fun _ => by simp
  refine wp_bind.2 (wp_mono (keeps_alerts clock alerts₂) ?_)
  rintro (exc | now) m₃ alerts₃
  · exact compared_raised
  dsimp only [andThen]
  cases tracking.expectedState wiring.balanceIncrements now with
  | error exc =>
      dsimp only
      split
      · exact tripUnavailable_compared
      · exact compared_raised
  | ok local_ => exact compareAndAdopt_compared stays unmistaken wiring local_ alerts₃

/-- Where a run returns: its comparison found nothing, or the switch is halted. -/
def RanClosed (result : Except Exc (Option ReconciliationResult)) (m : DeskMoment) : Prop :=
  ∀ reported, result = .ok reported →
    m.world.state = .halted ∨ ∃ value, reported = some value ∧ value.discrepancies = []

include stays in
/-- Reporting the outcome of a comparison keeps what is known of it. -/
theorem report_closed (wiring : Wiring) (outcome : ReconciliationResult) {m : DeskMoment}
    (known : m.world.state = .halted ∨ outcome.discrepancies = []) :
    wp (deskLogic around assume) RanClosed
      (do let reported ← reportRun wiring outcome
          reconciled wiring outcome.authoritative
          return some reported) m := by
  rcases known with halted | nothing
  · exact wp_mono (stays_halted stays _ halted) fun _ _ still _ _ => .inl still
  · have reports : wp (deskLogic around assume)
        (fun result _ => ∀ reported, result = .ok reported → reported = outcome)
        (reportRun wiring outcome) m := by
      refine wp_bind.2 (wp_mono (wp_any _ m) ?_)
      rintro (exc | _) m₁ _
      · exact fun _ never => nomatch never
      refine wp_bind.2 (wp_mono (wp_any _ m₁) ?_)
      rintro (exc | _) m₂ _
      · exact fun _ never => nomatch never
      · rintro reported ⟨⟩
        rfl
    refine wp_bind.2 (wp_mono reports ?_)
    rintro (exc | reported) m₁ same
    · exact fun _ never => nomatch never
    cases same _ rfl
    refine wp_bind.2 (wp_mono (wp_any _ m₁) ?_)
    rintro (exc | _) m₂ _
    · exact fun _ never => nomatch never
    · rintro given ⟨⟩
      exact .inr ⟨_, rfl, nothing⟩

include stays unmistaken in
theorem runOnce_closed (wiring : Wiring) {m : DeskMoment} (alerts : AlertsHalt m.events) :
    wp (deskLogic around assume) RanClosed (runOnce wiring) m := by
  refine wp_bind.2 (wp_mono (compare_closed stays unmistaken wiring alerts) ?_)
  rintro (exc | outcome) m₁ compared
  · exact fun _ never => nomatch never
  have known := compared outcome rfl
  cases outcome with
  | error detail =>
      have halted : m₁.world.state = .halted := by
        rcases known with halted | ⟨_, never, _⟩
        · exact halted
        · cases never
      exact wp_mono (stays_halted stays _ halted) fun _ _ still _ _ => .inl still
  | ok value =>
      refine report_closed stays wiring value ?_
      rcases known with halted | ⟨_, same, nothing⟩
      · exact .inl halted
      · cases same
        exact .inr nothing

include stays unmistaken in
theorem iteration_ends (wiring : Wiring) {m : DeskMoment} (alerts : AlertsHalt m.events) :
    wp (deskLogic around assume) (fun result m' => m'.world.state = .halted ∨
      ∃ value, result = .ok (some value) ∧ value.discrepancies = []) (iteration wiring) m := by
  refine wp_bind.2 (wp_attempt.2 (wp_mono (runOnce_closed stays unmistaken wiring alerts) ?_))
  rintro (exc | reported) m₁ ran
  -- Whatever escaped the run, the loop halts trading, and a trip that fails has tripped.
  · refine wp_bind.2 (wp_mono trip_halts ?_)
    intro reply m₂ halted
    cases reply <;> exact .inl halted
  · rcases ran reported rfl with halted | ⟨value, rfl, nothing⟩
    · exact .inl halted
    · exact .inr ⟨value, rfl, nothing⟩

end Closed

/-- Where nobody re-arms a halted switch and no alert is mistaken for the reconciler, every
iteration ends with a comparison that found nothing, or with the switch halted. -/
theorem iteration_closed {around : Surroundings} {wiring : Wiring} {world : DeskWorld}
    {final : DeskMoment} {result : Except Exc (Option ReconciliationResult)}
    (run : (iteration wiring).Runs (DeskServe around) ⟨world, []⟩ result final)
    (stays : ∀ e ∈ final.events, StaysHalted e) (unmistaken : ∀ e ∈ final.events, Unmistaken e) :
    final.world.state = .halted ∨ ∃ value, result = .ok (some value) ∧ value.discrepancies = [] := by
  have obligation : wp (deskLogic around fun e => StaysHalted e ∧ Unmistaken e)
      (fun result m => m.world.state = .halted ∨
        ∃ value, result = .ok (some value) ∧ value.discrepancies = []) (iteration wiring) ⟨world, []⟩ :=
    iteration_ends (fun _ both => both.1) (fun _ both => both.2) wiring alertsHalt_nil
  exact desk_run run (fun e member => ⟨stays e member, unmistaken e member⟩) obligation

/-- An iteration in which the alert cannot be sent. -/
def unheardIteration : Except Exc (Option ReconciliationResult) × DeskMoment :=
  (iteration alerting).play deafOperator.script ⟨.start, []⟩

theorem unheardIteration_runs : (iteration alerting).Runs (DeskServe unreliable) ⟨.start, []⟩
    unheardIteration.1 unheardIteration.2 := Prog.play_runs (unreliable_sound _) _ _

theorem unheardIteration_stays : ∀ e ∈ unheardIteration.2.events, StaysHalted e := by
  unfold StaysHalted
  decide +kernel

theorem unheardIteration_unmistaken : ∀ e ∈ unheardIteration.2.events, Unmistaken e := by
  have other : ∀ e ∈ unheardIteration.2.events,
      (alertFailed e).all (fun exc => exc.kind ≠ .reconciliationUnavailable) = true := by
    decide +kernel
  intro e member exc failed unavailable
  have kind := other e member
  rw [failed] at kind
  simp [unavailable] at kind

theorem iteration_closed_unheard : unheardIteration.2.world.state = .halted ∨
    ∃ value, unheardIteration.1 = .ok (some value) ∧ value.discrepancies = [] :=
  iteration_closed unheardIteration_runs unheardIteration_stays unheardIteration_unmistaken

/-- The balance differs, and the alert raises what the reconciler raises behind a trip. -/
def mistakenAlert : DeskCast :=
  { deafOperator with
    report := fun
      | .alert _ => .error (.reconciliationUnavailable "alert channel unavailable")
      | _ => .ok () }

def mistaken : Except Exc (Option ReconciliationResult) × DeskMoment :=
  (iteration alerting).play mistakenAlert.script ⟨.start, []⟩

/-- The iteration ends without a comparison, and the switch is still running. -/
theorem mistaken_runs_on : ∃ result final,
    (iteration alerting).Runs (DeskServe unreliable) ⟨.start, []⟩ result final ∧
      (∀ e ∈ final.events, StaysHalted e) ∧ (∃ e ∈ final.events, (logged e).isSome) ∧
      final.world.state = .running ∧
      ¬∃ value, result = .ok (some value) ∧ value.discrepancies = [] := by
  have run : (iteration alerting).Runs (DeskServe unreliable) ⟨.start, []⟩ mistaken.1 mistaken.2 :=
    Prog.play_runs (unreliable_sound _) _ _
  have stays : ∀ e ∈ mistaken.2.events, StaysHalted e := by
    unfold StaysHalted
    decide +kernel
  have found : ∃ e ∈ mistaken.2.events, (logged e).isSome := by decide +kernel
  have running : mistaken.2.world.state = .running := by decide +kernel
  have none : (mistaken.1.map Option.isSome).toOption = some false := by decide +kernel
  refine ⟨_, _, run, stays, found, running, ?_⟩
  rintro ⟨value, returned, _⟩
  rw [returned] at none
  cases none

end AlgoTrader.Portfolio
