/-
# Portfolio.Halts -- a discrepancy halts trading, unless the alert gets in between

Every exit of a reconciliation but a clean return is behind a trip of the switch, with one
exception: the alert callback is called for each discrepancy before the switch is tripped,
and nothing catches what it raises.

* `reconcile_exits` -- a reconciliation returns clean, or leaves the switch halted, or is left
  where an alert raised;
* `reconcile_halts_iff` -- on every exit but a clean return the switch is halted exactly when
  every alert that raised had left it halted.  Nothing is assumed of the broker or of the
  alert callback, and of the store only that saving does not re-arm the switch.
-/
import AlgoTrader.Portfolio.Reconciliation

namespace AlgoTrader.Portfolio

open AlgoTrader.Core Brokers Theory Process Risk
set_option autoImplicit false

/-! ## The switch while the desk waits -/

/-- Nobody re-arms a halted switch while this request is served. -/
def StaysHalted (e : DeskEvent) : Prop := e.before.state = .halted → e.after.state = .halted

/-- The requests that save what was found. -/
def Saving (op : DeskOp) : Prop :=
  (∃ state, op = .report (.saveSnapshot state)) ∨
    ∃ discrepancy action, op = .report (.saveDiscrepancy discrepancy action)

theorem tripped {around : Surroundings} {reason : String} {w w' : DeskWorld}
    {reply : Except Exc Unit} (served : DeskServe around (.trip reason) w reply w') :
    w'.state = .halted := by
  obtain ⟨switch, trips, rfl⟩ := served
  exact trips_halts trips

/-! ## Alerts -/

/-- What the alert callback raised. -/
def alertFailed : DeskEvent → Option Exc
  | ⟨.report (.alert _), .error exc, _, _⟩ => some exc
  | _ => none

/-- Every alert that raised left the switch halted. -/
def AlertsHalt (events : List DeskEvent) : Prop :=
  ∀ e ∈ events, (alertFailed e).isSome → e.after.state = .halted

theorem alertsHalt_nil : AlertsHalt [] := by
  intro e member
  cases member

theorem alertsHalt_cons {e : DeskEvent} {events : List DeskEvent} :
    AlertsHalt (e :: events) ↔
      ((alertFailed e).isSome → e.after.state = .halted) ∧ AlertsHalt events := by
  simp [AlertsHalt]

/-- An event that is no failed alert changes nothing. -/
theorem alertsHalt_quiet {e : DeskEvent} {events : List DeskEvent} (quiet : alertFailed e = none)
    (before : AlertsHalt events) : AlertsHalt (e :: events) := by
  rw [alertsHalt_cons, quiet]
  exact ⟨fun failed => absurd failed (by simp), before⟩

/-- Halted, and no alert stood in the way. -/
def Halted (m : DeskMoment) : Prop := m.world.state = .halted ∧ AlertsHalt m.events

/-- The run stands where an alert has just raised this. -/
def Struck (assume : DeskEvent → Prop) (exc : Exc) (m : DeskMoment) : Prop :=
  ∃ e earlier, m.events = e :: earlier ∧ assume e ∧ alertFailed e = some exc ∧
    e.after = m.world ∧ AlertsHalt earlier

theorem Halted.told {m : DeskMoment} (halted : Halted m) :
    m.world.state = .halted ↔ AlertsHalt m.events :=
  ⟨fun _ => halted.2, fun _ => halted.1⟩

theorem Struck.told {assume : DeskEvent → Prop} {exc : Exc} {m : DeskMoment}
    (struck : Struck assume exc m) : m.world.state = .halted ↔ AlertsHalt m.events := by
  obtain ⟨e, earlier, events, _, failed, after, alerts⟩ := struck
  rw [events, alertsHalt_cons, failed, after]
  exact ⟨fun halted => ⟨fun _ => halted, alerts⟩, fun told => told.1 rfl⟩

/-- The reconciliation came to its end and found nothing. -/
def Clean (result : Except Exc ReconciliationResult) : Prop :=
  ∃ value, result = .ok value ∧ value.discrepancies = []

/-! ## Programs without alerts -/

/-- The requests that are no alert. -/
def NoAlert (op : DeskOp) : Prop := ∀ discrepancy, op ≠ .report (.alert discrepancy)

theorem alertFailed_of_noAlert {e : DeskEvent} (quiet : NoAlert e.op) : alertFailed e = none := by
  obtain ⟨op, reply, before, after⟩ := e
  match op, reply with
  | .report (.alert discrepancy), _ => exact absurd rfl (quiet discrepancy)
  | .report (.logDiscrepancy _), _ => rfl
  | .report (.saveSnapshot _), _ => rfl
  | .report (.saveDiscrepancy _ _), _ => rfl
  | .read _, _ => rfl
  | .schedule _, _ => rfl
  | .trip _, _ => rfl

theorem readHoldings_noAlert : Issues NoAlert readHoldings :=
  issues_bind (issues_call fun _ => by simp) fun _ =>
    issues_bind (issues_call fun _ => by simp) fun _ => issues_pure _

theorem visit_issues {α : Type} {allowed : DeskOp → Prop} {f : α → Desk Unit} (xs : List α)
    (each : ∀ x, Issues allowed (f x)) : Issues allowed (Prog.visit f xs) := by
  induction xs with
  | nil => exact issues_pure ()
  | cons x xs ih => exact issues_bind (each x) fun _ => ih

theorem saveAll_saving (authoritative : PortfolioState) (discrepancies : List Discrepancy) :
    Issues Saving (saveAll authoritative discrepancies) :=
  issues_bind (issues_call (.inl ⟨_, rfl⟩)) fun _ =>
    visit_issues discrepancies fun _ => issues_call (.inr ⟨_, _, rfl⟩)

theorem Saving.noAlert {op : DeskOp} (saving : Saving op) : NoAlert op := by
  intro discrepancy same
  rcases saving with ⟨state, rfl⟩ | ⟨found, action, rfl⟩
  · cases same
  · cases same

/-! ## Following the exits -/

section Exits

variable {around : Surroundings} {assume : DeskEvent → Prop} {α : Type}

/-- A program without alerts leaves what is known of the alerts as it is. -/
theorem keeps_alerts {p : Desk α} (quiet : Issues NoAlert p) {m : DeskMoment}
    (alerts : AlertsHalt m.events) :
    wp (deskLogic around assume) (fun _ m' => AlertsHalt m'.events) p m := by
  refine wp_kept (C := deskContract around assume) (fun m => AlertsHalt m.events)
    (fun _ _ _ _ => trivial) ?_ quiet alerts
  intro op m reply after noAlert before _ _
  exact ⟨alertsHalt_quiet (alertFailed_of_noAlert noAlert) before, trivial⟩

/-- An exit through `unavailable` is behind a trip. -/
theorem unavailable_halts {reason message : String} {goOn : DeskMoment → Prop} {m : DeskMoment}
    (alerts : AlertsHalt m.events) :
    wp (deskLogic around assume) (stepPost goOn fun _ => Halted)
      (unavailable (α := α) reason message) m :=
  wp_unavailable fun _ _ _ served _ =>
    ⟨tripped served, alertsHalt_quiet rfl alerts⟩

theorem readOrder_told (key : String) (localOrder : Order) (read : OrdersRead) {m : DeskMoment}
    (alerts : AlertsHalt m.events) :
    wp (deskLogic around assume) (stepPost (fun m' => AlertsHalt m'.events) fun _ => Halted)
      (readOrder key localOrder read) m := by
  have asked : ∀ (op : ReadOp) {m : DeskMoment}, AlertsHalt m.events →
      wp (deskLogic around assume) (fun _ m' => AlertsHalt m'.events) (desk (.read op)) m :=
    fun op _ alerts => keeps_alerts (issues_call fun _ => by simp) alerts
  refine wp_bind.2 (wp_attempt.2 (wp_mono (asked (.getOrder key) alerts) ?_))
  intro reply m' once
  match reply with
  | .error exc => exact unavailable_halts once
  | .ok none => exact once
  | .ok (some brokerOrder) =>
      refine wp_bind.2 (wp_attempt.2 (wp_mono (asked (.getFills key) once) ?_))
      intro reply' m'' twice
      match reply' with
      | .error exc => exact unavailable_halts twice
      | .ok fills => exact twice

theorem readOrders_told (orders : List (String × Order)) (read : OrdersRead) {m : DeskMoment}
    (alerts : AlertsHalt m.events) :
    wp (deskLogic around assume) (stepPost (fun m' => AlertsHalt m'.events) fun _ => Halted)
      (readOrders orders read) m := by
  induction orders generalizing read m with
  | nil => exact alerts
  | cons first rest ih =>
      exact wp_step (readOrder_told first.1 first.2 read alerts) fun next m' alerts' => ih next alerts'

theorem reportOne_told (wiring : Wiring) (discrepancy : Discrepancy) {m : DeskMoment}
    (alerts : AlertsHalt m.events) :
    wp (deskLogic around assume) (stepPost (fun m' => AlertsHalt m'.events) (Struck assume))
      (reportOne wiring discrepancy) m := by
  have logs : Issues NoAlert (desk (.report (.logDiscrepancy discrepancy))) :=
    issues_call fun _ => by simp
  refine wp_bind.2 (wp_attempt.2 (wp_mono (keeps_alerts logs alerts) ?_))
  intro _ m' logged
  refine wp_when (fun _ => wp_desk fun reply after _ assumed => ?_) fun _ => logged
  cases reply with
  | ok value => exact alertsHalt_quiet rfl logged
  -- The exception leaves the reconciliation here, before the switch is tripped.
  | error exc => exact ⟨_, _, rfl, assumed, rfl, rfl, logged⟩

theorem report_told (wiring : Wiring) (discrepancies : List Discrepancy) {m : DeskMoment}
    (alerts : AlertsHalt m.events) :
    wp (deskLogic around assume) (stepPost (fun m' => AlertsHalt m'.events) (Struck assume))
      (Prog.visit (reportOne wiring) discrepancies) m := by
  refine wp_visit (fun _ m' => AlertsHalt m'.events) (Struck assume) (reportOne wiring) ?_ alerts
  intro _ discrepancy _ _ _ before
  exact reportOne_told wiring discrepancy before

section Saves

variable (stays : ∀ e, assume e → Saving e.op → StaysHalted e)

include stays

/-- Saving keeps a halt. -/
theorem saveAll_halted (authoritative : PortfolioState) (discrepancies : List Discrepancy)
    {m : DeskMoment} (halted : Halted m) :
    wp (deskLogic around assume) (fun _ => Halted) (saveAll authoritative discrepancies) m := by
  refine wp_kept (C := deskContract around assume) Halted (fun _ _ _ _ => trivial) ?_
    (saveAll_saving authoritative discrepancies) halted
  intro op m reply after saving before _ assumed
  have still : AlertsHalt (m.push op reply after).events :=
    alertsHalt_quiet (alertFailed_of_noAlert saving.noAlert) before.2
  exact ⟨⟨stays _ assumed saving before.1, still⟩, trivial⟩

theorem saveAll_alerts (authoritative : PortfolioState) (discrepancies : List Discrepancy)
    {m : DeskMoment} (alerts : AlertsHalt m.events) :
    wp (deskLogic around assume) (fun _ m' => AlertsHalt m'.events ∧
      (m.world.state = .halted → m'.world.state = .halted)) (saveAll authoritative discrepancies) m := by
  by_cases halted : m.world.state = .halted
  · refine wp_mono (saveAll_halted stays authoritative discrepancies ⟨halted, alerts⟩) ?_
    intro _ m' still
    exact ⟨still.2, fun _ => still.1⟩
  · have quiet : Issues NoAlert (saveAll authoritative discrepancies) :=
      issues_mono (saveAll_saving authoritative discrepancies) fun _ saving => saving.noAlert
    refine wp_mono (keeps_alerts quiet alerts) ?_
    intro _ m' still
    exact ⟨still, fun before => absurd before halted⟩

/-- Where saving fails, it halts. -/
theorem persist_told (wiring : Wiring) (authoritative : PortfolioState)
    (discrepancies : List Discrepancy) {m : DeskMoment} (alerts : AlertsHalt m.events) :
    wp (deskLogic around assume)
      (stepPost (fun m' => AlertsHalt m'.events ∧ (m.world.state = .halted → m'.world.state = .halted))
        fun _ => Halted)
      (persistResult wiring authoritative discrepancies) m := by
  refine wp_when (fun _ => ?_) fun _ => ⟨alerts, fun halted => halted⟩
  refine wp_bind.2 (wp_attempt.2 (wp_mono (saveAll_alerts stays authoritative discrepancies alerts) ?_))
  intro reply m' still
  cases reply with
  | ok value => exact still
  | error exc => exact unavailable_halts still.1

/-- How a reconciliation is left: clean, or halted, or where an alert raised. -/
def Exits (assume : DeskEvent → Prop) (result : Except Exc ReconciliationResult)
    (m : DeskMoment) : Prop :=
  Clean result ∨ Halted m ∨ ∃ exc, result = .error exc ∧ Struck assume exc m

/-- Persisting comes last: it keeps the halt, or there is nothing to halt for. -/
theorem finish_exits (wiring : Wiring) (authoritative : PortfolioState)
    (discrepancies : List Discrepancy) {m : DeskMoment} (alerts : AlertsHalt m.events)
    (either : discrepancies = [] ∨ m.world.state = .halted) :
    wp (deskLogic around assume) (Exits assume)
      (do persistResult wiring authoritative discrepancies
          return { authoritative, discrepancies, safetyTripped := !discrepancies.isEmpty }) m := by
  refine wp_bind.2 (wp_mono (persist_told stays wiring authoritative discrepancies alerts) ?_)
  rintro (exc | value) m' saved
  · exact .inr (.inl saved)
  · rcases either with nothing | halted
    · exact .inl ⟨_, rfl, nothing⟩
    · exact .inr (.inl ⟨saved.2 halted, saved.1⟩)

theorem respond_exits (wiring : Wiring) (authoritative : PortfolioState)
    (discrepancies : List Discrepancy) {m : DeskMoment} (alerts : AlertsHalt m.events) :
    wp (deskLogic around assume) (Exits assume) (respond wiring authoritative discrepancies) m := by
  refine wp_bind.2 (wp_mono (report_told wiring discrepancies alerts) ?_)
  rintro (exc | value) m₁ reported
  · exact .inr (.inr ⟨exc, rfl, reported⟩)
  refine wp_bind.2 (wp_when (fun _ => wp_desk fun reply after served _ => ?_) fun off => ?_)
  · have halted : Halted (m₁.push (S := deskEffects)
        (.trip "broker-authoritative reconciliation divergence") reply after) :=
      ⟨tripped served, alertsHalt_quiet rfl reported⟩
    cases reply with
    | error exc => exact .inr (.inl halted)
    | ok value => exact finish_exits stays wiring authoritative discrepancies halted.2 (.inr halted.1)
  · exact finish_exits stays wiring authoritative discrepancies reported (.inl (by simpa using off))

theorem reconcile_exits (wiring : Wiring) (local_ : PortfolioState) {m : DeskMoment}
    (alerts : AlertsHalt m.events) :
    wp (deskLogic around assume) (Exits assume) (reconcile wiring local_) m := by
  refine wp_bind.2 (wp_attempt.2 (wp_mono (keeps_alerts readHoldings_noAlert alerts) ?_))
  rintro (exc | ⟨balances, positions⟩) m₁ alerts₁
  · have halts : wp (deskLogic around assume) (stepPost (fun _ => False) fun _ => Halted)
        (unavailable (α := ReconciliationResult) "broker unavailable during reconciliation"
          "broker state could not be read") m₁ := unavailable_halts alerts₁
    refine wp_mono halts ?_
    rintro (exc | value) m₂ ended
    · exact .inr (.inl ended)
    · exact ended.elim
  · refine wp_bind.2 (wp_mono (readOrders_told local_.orders.entries .none alerts₁) ?_)
    rintro (exc | read) m₂ ended
    · exact .inr (.inl ended)
    · exact respond_exits stays wiring _ _ ended

end Saves

end Exits

/-- A reconciliation that does not come to its end with nothing found leaves the switch
halted exactly when every alert that raised had left it halted. -/
theorem reconcile_halts_iff {around : Surroundings} (wiring : Wiring) (local_ : PortfolioState)
    {world : DeskWorld} {final : DeskMoment} {result : Except Exc ReconciliationResult}
    (run : (reconcile wiring local_).Runs (DeskServe around) ⟨world, []⟩ result final)
    (stays : ∀ e ∈ final.events, Saving e.op → StaysHalted e) (found : ¬Clean result) :
    final.world.state = .halted ↔ AlertsHalt final.events := by
  have obligation : wp (deskLogic around fun e => Saving e.op → StaysHalted e) (Exits _)
      (reconcile wiring local_) ⟨world, []⟩ :=
    reconcile_exits (fun _ assumed => assumed) wiring local_ alertsHalt_nil
  rcases desk_run run stays obligation with clean | halted | ⟨exc, _, struck⟩
  · exact absurd clean found
  · exact halted.told
  · exact struck.told

/-- What a reconciliation logs that it found. -/
def logged : DeskEvent → Option Discrepancy
  | ⟨.report (.logDiscrepancy discrepancy), _, _, _⟩ => some discrepancy
  | _ => none

/-- The broker reports a dollar nobody expected, and the alert cannot be sent. -/
def deafOperator : DeskCast where
  read
    | .getBalances, m => (.ok [{ asset := "USD", available := ⟨1, decimal_filled_one⟩, hold := ⟨0, decimal_zero⟩, asOf := 0 }], m.world.venue)
    | .getPositions, m => (.ok [], m.world.venue)
    | .getOrder _, m => (.ok none, m.world.venue)
    | .getFills _, m => (.ok [], m.world.venue)
  report
    | .alert _ => .error { kind := .provider, typeName := "ConnectError", message := "alert not sent" }
    | _ => .ok ()

def PortfolioState.nothing : PortfolioState := ⟨.empty, .empty, [], []⟩

def alerting : Wiring := ⟨true, false, false, false, false, .empty⟩

def unheard : Except Exc ReconciliationResult × DeskMoment :=
  (reconcile alerting .nothing).play deafOperator.script ⟨.start, []⟩

theorem unheard_runs :
    (reconcile alerting .nothing).Runs (DeskServe unreliable) ⟨.start, []⟩ unheard.1 unheard.2 :=
  Prog.play_runs (unreliable_sound _) _ _

theorem unheard_found : ¬Clean unheard.1 := by
  have raised : unheard.1.toBool = false := by decide +kernel
  rintro ⟨value, returned, _⟩
  rw [returned] at raised
  cases raised

theorem unheard_stays : ∀ e ∈ unheard.2.events, Saving e.op → StaysHalted e := by
  unfold StaysHalted
  have still : ∀ e ∈ unheard.2.events, e.before.state = .running := by decide +kernel
  intro e member _ halted
  rw [still e member] at halted
  cases halted

theorem reconcile_halts_iff_unheard :
    unheard.2.world.state = .halted ↔ AlertsHalt unheard.2.events :=
  reconcile_halts_iff alerting .nothing unheard_runs unheard_stays unheard_found

/-- The balance differs, and the switch is still running when the reconciliation is left. -/
theorem discrepancy_runs_on : ∃ result final,
    (reconcile alerting .nothing).Runs (DeskServe unreliable) ⟨.start, []⟩ result final ∧
      (∃ e ∈ final.events, (logged e).isSome) ∧ ¬Clean result ∧ final.world.state = .running := by
  have found : ∃ e ∈ unheard.2.events, (logged e).isSome := by decide +kernel
  have running : unheard.2.world.state = .running := by decide +kernel
  exact ⟨_, _, unheard_runs, found, unheard_found, running⟩

end AlgoTrader.Portfolio
