/-
# Api.ResearchJobs -- the research workspace and the jobs it keeps

A submission that is valid puts a job into the store, behind all others, and evicts the oldest
ones as long as there are too many and the oldest is finished.  The job runs on its own; it is
started once, and completes or fails.

* `evict_split`, `evict_length_iff` -- what an eviction drops, and when it drops enough;
* `step_evicts` -- whatever happens, only finished jobs are dropped, oldest first;
* `jobs_bounded_iff` -- the runs in which the store keeps to its limit;
* `windows_walked_iff` -- the accepted requests whose walk returns the windows that were counted;
* `replay_summarised_iff` -- the replays that have a summary.
-/
import AlgoTrader.Api.Research
import AlgoTrader.App.Trading
import AlgoTrader.Strategy.WalkForward

namespace AlgoTrader.Api.Research

open AlgoTrader.Core Brokers Theory Strategy

set_option autoImplicit false

def maxActiveJobs : Nat := 2

def maxStoredJobs : Nat := 24

def maxWalkForwardWindows : Int := 24

inductive ResearchJobStatus where
  | queued
  | running
  | complete
  | failed
  deriving DecidableEq

/-- What validation and a walk use of a dataset. -/
structure ApprovedDataset where
  datasetId : String
  candles : List Candle

/-- A job; what its runner returns is its `result`. -/
structure ResearchJob (R : Type) where
  runId : String
  request : ResearchRunRequest
  status : ResearchJobStatus := .queued
  createdAt : Timestamp
  startedAt : Option Timestamp := none
  finishedAt : Option Timestamp := none
  result : Option R := none
  error : Option String := none

/-- `status in {QUEUED, RUNNING}`. -/
def ResearchJob.active {R : Type} (job : ResearchJob R) : Bool :=
  job.status = .queued || job.status = .running

structure ResearchWorkspace (R : Type) where
  datasets : Dict String ApprovedDataset
  jobs : Dict String (ResearchJob R)

namespace ResearchWorkspace

variable {R : Type}

/-- A workspace over some datasets; the fixtures that stand in for none at all are left out. -/
def new (datasets : List ApprovedDataset) : ResearchWorkspace R where
  datasets := .ofList (datasets.map fun item => (item.datasetId, item))
  jobs := .empty

/-- Whether a ratio differs from one. -/
def notWhole (ratio : RawDecimal) : Bool := ratio.lt 1 || ratio.gt 1

/-- `validate_request`: the dataset, and the number of windows. -/
def validateRequest (workspace : ResearchWorkspace R) (request : ResearchRunRequest) :
    Except Exc (ApprovedDataset × Int) :=
  match workspace.datasets.get? request.datasetId with
  | none => .error (.valueError "dataset_id is not an approved dataset")
  | some dataset =>
      let available : Int := dataset.candles.length - request.holdoutBars
      let step := intOr request.stepBars request.testBars
      let windows := 1 + (available - request.trainBars - request.testBars) / step
      if maxCandles < dataset.candles.length then
        .error (.valueError s!"approved dataset exceeds the {maxCandles}-candle limit")
      else if available < request.trainBars + request.testBars then
        .error (.valueError "the selected dataset is too short for these walk-forward windows")
      else if maxWalkForwardWindows < windows then
        .error (.valueError
          s!"walk-forward configuration exceeds {maxWalkForwardWindows} windows")
      else if request.runType = .replay ∧ notWhole request.partialFillRatio then
        .error (.valueError "replay requires a full-fill ratio of 1")
      else if maxActiveJobs ≤ workspace.jobs.values.countP ResearchJob.active then
        .error (.valueError "the research queue is full; wait for a run to finish")
      else .ok (dataset, windows)

/-- The loop that evicts: from the front, while there are too many and the first is finished. -/
def evict : List (String × ResearchJob R) → List (String × ResearchJob R)
  | [] => []
  | old :: rest =>
      if maxStoredJobs < rest.length + 1 then
        if old.2.active then old :: rest else evict rest
      else old :: rest

theorem evict_split (jobs : List (String × ResearchJob R)) :
    ∃ evicted, jobs = evicted ++ evict jobs ∧ ∀ old ∈ evicted, old.2.active = false := by
  induction jobs with
  | nil => exact ⟨[], rfl, by simp⟩
  | cons old rest ih =>
      unfold evict
      split
      · split
        · exact ⟨[], rfl, by simp⟩
        · rename_i finished
          obtain ⟨evicted, split, all⟩ := ih
          refine ⟨old :: evicted, by rw [List.cons_append, ← split], ?_⟩
          intro old' member
          rcases List.mem_cons.1 member with rfl | member
          · simpa using finished
          · exact all old' member
      · exact ⟨[], rfl, by simp⟩

theorem evict_keys (jobs : Dict String (ResearchJob R)) :
    ((evict jobs.entries).map Prod.fst).Nodup := by
  obtain ⟨evicted, split, _⟩ := evict_split jobs.entries
  have distinct := jobs.nodup
  rw [split, List.map_append] at distinct
  exact (List.nodup_append.1 distinct).2.1

/-- `submit`, under the identifier the job is given. -/
def submit (workspace : ResearchWorkspace R) (runId : String) (request : ResearchRunRequest)
    (now : Timestamp) : Except Exc (ResearchWorkspace R) :=
  (workspace.validateRequest request).map fun _ =>
    let jobs := workspace.jobs.set runId { runId, request, createdAt := now }
    { workspace with jobs := ⟨evict jobs.entries, evict_keys jobs⟩ }

/-- What happens to the jobs: `_run` starts one, and it completes or fails. -/
inductive Event (R : Type) where
  | submit (runId : String) (request : ResearchRunRequest) (now : Timestamp)
  | start (runId : String) (now : Timestamp)
  | complete (runId : String) (result : R) (now : Timestamp)
  | fail (runId : String) (message : String) (now : Timestamp)

/-- A change to a stored job that has some status. -/
def update (workspace : ResearchWorkspace R) (runId : String) (status : ResearchJobStatus)
    (change : ResearchJob R → ResearchJob R) : Option (ResearchWorkspace R) :=
  (workspace.jobs.get? runId).bind fun job =>
    if job.status = status then
      some { workspace with jobs := workspace.jobs.set runId (change job) }
    else none

/-- What an event makes of the workspace; nothing where it cannot happen.  `uuid4` gives no
identifier twice, and a submission that raises changes nothing. -/
def step (workspace : ResearchWorkspace R) : Event R → Option (ResearchWorkspace R)
  | .submit runId request now =>
      if runId ∈ workspace.jobs.keys then none
      else some ((workspace.submit runId request now).toOption.getD workspace)
  | .start runId now =>
      workspace.update runId .queued fun job =>
        { job with status := .running, startedAt := some now }
  | .complete runId result now =>
      workspace.update runId .running fun job =>
        { job with status := .complete, result := some result, finishedAt := some now }
  | .fail runId message now =>
      workspace.update runId .running fun job =>
        { job with
          status := .failed
          error := some (String.ofList (message.toList.take 500))
          finishedAt := some now }

/-- The workspace after some events, if they can happen one after the other. -/
def after (datasets : List ApprovedDataset) (events : List (Event R)) :
    Option (ResearchWorkspace R) :=
  events.foldlM step (new datasets)

theorem after_snoc (datasets : List ApprovedDataset) (events : List (Event R)) (event : Event R) :
    after datasets (events ++ [event]) = (after datasets events).bind (step · event) := by
  simp [after, List.foldlM_append]

/-! ## What a step does to the store -/

theorem update_keys {workspace changed : ResearchWorkspace R} {runId : String}
    {status : ResearchJobStatus} {change : ResearchJob R → ResearchJob R}
    (done : workspace.update runId status change = some changed) :
    changed.jobs.keys = workspace.jobs.keys := by
  obtain ⟨job, held, rest⟩ := Option.bind_eq_some_iff.1 done
  split at rest
  · cases rest
    have present : runId ∈ workspace.jobs.keys := by
      rw [← Dict.isSome_get?, held]
      rfl
    exact Dict.map_set_present present fun _ _ => rfl
  · cases rest

/-- The job of a submission. -/
def newJob (runId : String) (request : ResearchRunRequest) (now : Timestamp) : ResearchJob R :=
  { runId, request, createdAt := now }

theorem step_accepted {workspace : ResearchWorkspace R} {runId : String}
    {request : ResearchRunRequest} {now : Timestamp} {accepted : ApprovedDataset × Int}
    (absent : runId ∉ workspace.jobs.keys)
    (valid : workspace.validateRequest request = .ok accepted) :
    ∃ changed, workspace.step (.submit runId request now) = some changed ∧
      changed.jobs.entries =
        evict (workspace.jobs.entries ++ [(runId, newJob runId request now)]) := by
  simp only [step, if_neg absent, submit, valid, Except.map, Except.toOption, Option.getD_some]
  exact ⟨_, rfl, congrArg evict (Dict.entries_set_absent _ absent)⟩

/-- A step is a submission that is accepted, or it keeps the jobs that are stored. -/
theorem step_cases {workspace changed : ResearchWorkspace R} {event : Event R}
    (stepped : workspace.step event = some changed) :
    (∃ runId request now accepted, event = .submit runId request now ∧
      runId ∉ workspace.jobs.keys ∧ workspace.validateRequest request = .ok accepted ∧
      changed.jobs.entries =
        evict (workspace.jobs.entries ++ [(runId, newJob runId request now)])) ∨
    changed.jobs.keys = workspace.jobs.keys := by
  cases event with
  | submit runId request now =>
      by_cases stored : runId ∈ workspace.jobs.keys
      · rw [step, if_pos stored] at stepped
        cases stepped
      · cases valid : workspace.validateRequest request with
        | error exc =>
            rw [step, if_neg stored, submit, valid] at stepped
            cases stepped
            exact .inr rfl
        | ok accepted =>
            obtain ⟨changed', stepped', jobs⟩ := step_accepted stored valid
            cases stepped.symm.trans stepped'
            exact .inl ⟨runId, request, now, accepted, rfl, stored, valid, jobs⟩
  | start runId now => exact .inr (update_keys stepped)
  | complete runId result now => exact .inr (update_keys stepped)
  | fail runId message now => exact .inr (update_keys stepped)

/-- A new job stays: what is evicted stood before it. -/
theorem evict_new (jobs : List (String × ResearchJob R)) {new : String × ResearchJob R}
    (active : new.2.active = true) :
    ∃ evicted kept, jobs = evicted ++ kept ∧ evict (jobs ++ [new]) = kept ++ [new] ∧
      ∀ old ∈ evicted, old.2.active = false := by
  obtain ⟨evicted, split, all⟩ := evict_split (jobs ++ [new])
  rcases List.append_eq_append_iff.1 split with ⟨more, rfl, rest⟩ | ⟨kept, same, rest⟩
  · cases more with
    | nil => exact ⟨jobs, [], by rw [List.append_nil], rest.symm, by simpa using all⟩
    | cons first more =>
        rw [(List.cons.inj rest).1] at active
        rw [all first (by simp)] at active
        cases active
  · exact ⟨evicted, kept, same, rest, all⟩

/-- What leaves the store was finished, and older than all that stays. -/
def EvictsOldest (workspace changed : ResearchWorkspace R) : Prop :=
  ∃ evicted kept, workspace.jobs.keys = evicted ++ kept ∧ kept <+: changed.jobs.keys ∧
    ∀ runId ∈ evicted, ∃ job, workspace.jobs.get? runId = some job ∧ job.active = false

theorem step_evicts {workspace changed : ResearchWorkspace R} {event : Event R}
    (stepped : workspace.step event = some changed) : EvictsOldest workspace changed := by
  rcases step_cases stepped with ⟨runId, request, now, _, _, _, _, stored⟩ | same
  · obtain ⟨evicted, kept, split, left, all⟩ := evict_new workspace.jobs.entries
      (show (runId, (newJob runId request now : ResearchJob R)).2.active = true from rfl)
    refine ⟨evicted.map Prod.fst, kept.map Prod.fst, ?_, ?_, ?_⟩
    · rw [Dict.keys, split, List.map_append]
    · rw [Dict.keys, stored, left, List.map_append]
      exact List.prefix_append _ _
    · intro old member
      obtain ⟨⟨_, job⟩, there, rfl⟩ := List.mem_map.1 member
      refine ⟨job, Dict.get?_eq_some.2 ?_, all _ there⟩
      rw [split]
      exact List.mem_append_left kept there
  · exact ⟨[], workspace.jobs.keys, rfl, same ▸ List.prefix_refl _, by simp⟩

/-- A full store whose oldest job is finished has room for another one. -/
def Room (workspace : ResearchWorkspace R) : Prop :=
  maxStoredJobs ≤ workspace.jobs.entries.length →
    ∀ oldest ∈ workspace.jobs.entries.head?, oldest.2.active = false

theorem evict_short {jobs : List (String × ResearchJob R)} (few : jobs.length ≤ maxStoredJobs) :
    evict jobs = jobs := by
  cases jobs with
  | nil => rfl
  | cons old rest =>
      rw [evict, if_neg]
      rw [List.length_cons] at few
      omega

theorem evict_length_iff {jobs : List (String × ResearchJob R)} {new : String × ResearchJob R}
    (few : jobs.length ≤ maxStoredJobs) :
    (evict (jobs ++ [new])).length ≤ maxStoredJobs ↔
      (maxStoredJobs ≤ jobs.length → ∀ oldest ∈ jobs.head?, oldest.2.active = false) := by
  cases jobs with
  | nil =>
      refine iff_of_true ?_ (by simp)
      rw [List.nil_append, evict_short (by simp [maxStoredJobs])]
      simp [maxStoredJobs]
  | cons old rest =>
      rw [List.length_cons] at few
      by_cases full : maxStoredJobs ≤ rest.length + 1
      · have over_ : maxStoredJobs < (rest ++ [new]).length + 1 := by
          rw [List.length_append, List.length_singleton]
          omega
        rw [List.cons_append, evict, if_pos over_]
        by_cases active : old.2.active = true
        · rw [if_pos active]
          refine iff_of_false ?_ fun room => ?_
          · rw [List.length_cons]
            omega
          · rw [room full old rfl] at active
            cases active
        · rw [if_neg active, evict_short (by simpa using few)]
          refine iff_of_true (by simpa using few) fun _ oldest first => ?_
          cases first
          simpa using active
      · refine iff_of_true ?_ fun more => absurd more full
        have whole : (old :: rest ++ [new]).length ≤ maxStoredJobs := by
          simp only [List.length_append, List.length_cons, List.length_nil]
          omega
        rw [evict_short whole]
        exact whole

/-! ## Runs -/

/-- In every workspace a run goes through there are no more jobs than the limit, and every step
evicts finished jobs only, oldest first. -/
structure Bounded (datasets : List ApprovedDataset) (events : List (Event R)) : Prop where
  stored : ∀ before workspace, before <+: events → after datasets before = some workspace →
    workspace.jobs.entries.length ≤ maxStoredJobs
  evicts : ∀ before event workspace changed, before ++ [event] <+: events →
    after datasets before = some workspace → workspace.step event = some changed →
    EvictsOldest workspace changed

/-- Every submission that is accepted finds room. -/
def FindsRoom (datasets : List ApprovedDataset) (events : List (Event R)) : Prop :=
  ∀ before runId request now workspace, before ++ [.submit runId request now] <+: events →
    after datasets before = some workspace → runId ∉ workspace.jobs.keys →
    (∃ accepted, workspace.validateRequest request = .ok accepted) → workspace.Room

theorem stored_bounded {datasets : List ApprovedDataset} {events : List (Event R)}
    (room : FindsRoom datasets events) {before : List (Event R)} {workspace : ResearchWorkspace R}
    (within : before <+: events) (reached : after datasets before = some workspace) :
    workspace.jobs.entries.length ≤ maxStoredJobs := by
  induction before using List.reverseRecOn generalizing workspace with
  | nil =>
      cases reached
      exact Nat.zero_le _
  | append_singleton before event ih =>
      rw [after_snoc] at reached
      obtain ⟨earlier, there, stepped⟩ := Option.bind_eq_some_iff.1 reached
      have few := ih ((List.prefix_append before [event]).trans within) there
      rcases step_cases stepped with ⟨runId, request, now, accepted, rfl, absent, valid, stored⟩ | same
      · rw [stored]
        exact (evict_length_iff few).2
          (room before runId request now earlier within there absent ⟨accepted, valid⟩)
      · have long := congrArg List.length same
        simp only [Dict.keys, List.length_map] at long
        omega

/-- The store keeps to its limit exactly as long as every submission that finds it full finds the
oldest job finished. -/
theorem jobs_bounded_iff (datasets : List ApprovedDataset) (events : List (Event R)) :
    Bounded datasets events ↔ FindsRoom datasets events := by
  constructor
  · intro bounded before runId request now workspace within reached absent valid
    obtain ⟨accepted, valid⟩ := valid
    have few := bounded.stored before workspace
      ((List.prefix_append before _).trans within) reached
    obtain ⟨changed, stepped, stored⟩ := step_accepted absent valid
    have onward : after datasets (before ++ [.submit runId request now]) = some changed := by
      rw [after_snoc, reached]
      exact stepped
    have few' := bounded.stored _ changed within onward
    rw [stored] at few'
    exact (evict_length_iff few).1 few'
  · intro room
    exact ⟨fun _ _ => stored_bounded room, fun _ _ _ _ _ _ => step_evicts⟩

end ResearchWorkspace

/-! ## A store that grows -/

def threeBars : ApprovedDataset := ⟨"calm", Strategy.NoLookAhead.rising⟩

/-- A request for one window over three bars. -/
def shortArguments : Arguments :=
  { paddedArguments with datasetId := "calm", trainBars := 1, testBars := 2 }

theorem short_valid : validate shortArguments = .ok () := by decide +kernel

def shortRequest : ResearchRunRequest := ⟨shortArguments, short_valid, padded_stripped⟩

/-- The first job runs on while the others are finished one after the other. -/
def crowding : List (ResearchWorkspace.Event Unit) :=
  [.submit "0" shortRequest 0, .start "0" 0] ++
    (List.range 24).flatMap fun n =>
      [.submit (toString (n + 1)) shortRequest 0, .start (toString (n + 1)) 0,
        .complete (toString (n + 1)) () 0]

open ResearchWorkspace in
/-- The oldest job is never finished, so none of the finished ones is evicted. -/
theorem storeGrows : ¬ Bounded [threeBars] crowding := by
  intro bounded
  have grown : (after [threeBars] crowding).map (fun workspace => workspace.jobs.entries.length) =
      some 25 := by
    decide +kernel
  obtain ⟨workspace, reached, stored⟩ := Option.map_eq_some_iff.1 grown
  have few := bounded.stored crowding workspace (List.prefix_refl _) reached
  rw [stored] at few
  exact absurd few (by decide)

/-! ## The walk of a request -/

theorem steps_positive (request : ResearchRunRequest) :
    1 ≤ request.trainBars ∧ 1 ≤ request.testBars ∧ 0 ≤ request.holdoutBars ∧
      ∀ step ∈ request.stepBars, 1 ≤ step := by
  have passed := validate_ok.1 request.valid
  simp only [tests, List.forall_mem_cons] at passed
  obtain ⟨_, _, _, _, _, _, _, _, _, _, train, test, steps, holdout, _⟩ := passed
  refine ⟨(Test.within train).1, (Test.within test).1, (Test.within holdout).1, fun step given => ?_⟩
  rw [given] at steps
  exact (Test.within steps).1

theorem train_pos (request : ResearchRunRequest) : 0 < request.trainBars.toNat := by
  have positive := steps_positive request
  omega

theorem test_pos (request : ResearchRunRequest) : 0 < request.testBars.toNat := by
  have positive := steps_positive request
  omega

theorem step_pos (request : ResearchRunRequest) (step : Nat)
    (given : request.stepBars.map Int.toNat = some step) : 0 < step := by
  obtain ⟨bars, here, rfl⟩ := Option.map_eq_some_iff.1 given
  have positive := (steps_positive request).2.2.2 bars here
  omega

/-- The `WalkForwardConfig` of a request. -/
def walkConfig (request : ResearchRunRequest) : WalkForwardConfig where
  trainBars := request.trainBars.toNat
  testBars := request.testBars.toNat
  stepBars := request.stepBars.map Int.toNat
  holdoutBars := request.holdoutBars.toNat
  trains := train_pos request
  tests := test_pos request
  steps := step_pos request

theorem walkConfig_step (request : ResearchRunRequest) :
    ((walkConfig request).step : Int) = intOr request.stepBars request.testBars := by
  obtain ⟨_, test, _, steps⟩ := steps_positive request
  cases given : request.stepBars with
  | none =>
      have default : (walkConfig request).step = request.testBars.toNat := by
        simp [WalkForwardConfig.step, walkConfig, given]
      rw [default]
      simp [intOr]
      omega
  | some bars =>
      have positive := steps bars given
      have own : (walkConfig request).step = bars.toNat := by
        simp [WalkForwardConfig.step, walkConfig, given]
      have other : bars ≠ 0 := by omega
      rw [own]
      simp [intOr, other]
      omega

namespace ResearchWorkspace

variable {R : Type}

/-- What the validation of a request says: the bars fit, and as many windows as it counts. -/
theorem validateRequest_ok {workspace : ResearchWorkspace R} {request : ResearchRunRequest}
    {dataset : ApprovedDataset} {windows : Int}
    (accepted : workspace.validateRequest request = .ok (dataset, windows)) :
    (walkConfig request).trainBars + (walkConfig request).testBars +
        (walkConfig request).holdoutBars ≤ dataset.candles.length ∧
      windows = windowsFrom (walkConfig request)
        (dataset.candles.length - (walkConfig request).holdoutBars) 0 ∧
      windows ≤ maxWalkForwardWindows := by
  obtain ⟨train, test, holdout, _⟩ := steps_positive request
  unfold validateRequest at accepted
  split at accepted
  · cases accepted
  · rename_i found _
    simp only at accepted
    split_ifs at accepted with long short many
    cases accepted
    have fits : (walkConfig request).trainBars + (walkConfig request).testBars +
        (walkConfig request).holdoutBars ≤ dataset.candles.length := by
      simp only [walkConfig]
      omega
    refine ⟨fits, ?_, by omega⟩
    rw [windowsFrom, if_pos (by omega), ← walkConfig_step]
    push_cast
    congr 2
    simp only [walkConfig] at fits ⊢
    omega

end ResearchWorkspace

/-- A walk returned what was announced: as many windows, each walked where it stands, and in it the
training bars before the test bars, and those before the holdout. -/
structure Walked (backtest : BacktestConfig) (factory : List Candle → Strategy)
    (config : WalkForwardConfig) (series : List Candle) (windows : Int)
    (report : WalkForwardReport) : Prop where
  counted : report.windows.length = windows
  limited : windows ≤ maxWalkForwardWindows
  ordered : ∀ k window, report.windows[k]? = some window →
    walkWindow backtest factory config series (k * config.step) = .ok window ∧
      Ordered config series (series.length - config.holdoutBars) (k * config.step)

/-- The walk of an accepted request, over a series, with orders that can be paid, returns what was
announced exactly when its test windows and its holdout have two bars. -/
theorem windows_walked_iff {R : Type} {workspace : ResearchWorkspace R}
    {request : ResearchRunRequest} {dataset : ApprovedDataset} {windows : Int}
    (backtest : BacktestConfig) (factory : List Candle → Strategy)
    (accepted : workspace.validateRequest request = .ok (dataset, windows))
    (valid : validateSeries dataset.candles = .ok ())
    (affords : AffordsAll backtest factory (walkConfig request) dataset.candles
      (dataset.candles.length - (walkConfig request).holdoutBars)) :
    (∃ report, runWalkForward backtest factory (walkConfig request) dataset.candles = .ok report ∧
        Walked backtest factory (walkConfig request) dataset.candles windows report) ↔
      2 ≤ request.testBars ∧ request.holdoutBars ≠ 1 := by
  obtain ⟨fits, counted, limited⟩ := ResearchWorkspace.validateRequest_ok accepted
  have sizes : 2 ≤ request.testBars ∧ request.holdoutBars ≠ 1 ↔
      2 ≤ (walkConfig request).testBars ∧ (walkConfig request).holdoutBars ≠ 1 := by
    have positive := steps_positive request
    simp only [walkConfig]
    omega
  rw [sizes, ← walkForward_ok_iff valid fits affords]
  constructor
  · rintro ⟨report, walked, _⟩
    exact ⟨report, walked⟩
  · rintro ⟨report, walked⟩
    obtain ⟨long, places⟩ := walkForward_windows fits walked
    refine ⟨report, walked, by rw [long, counted], limited, fun k window here => ?_⟩
    have inside : k < windowsFrom (walkConfig request)
        (dataset.candles.length - (walkConfig request).holdoutBars) 0 := by
      rw [← long]
      exact (List.getElem?_eq_some_iff.1 here).1
    obtain ⟨window', there, made⟩ := places k inside
    rw [here] at there
    cases there
    exact ⟨made, window_ordered valid (window_fits inside)⟩

theorem affords_of {backtest : BacktestConfig} {strategy : Strategy} {bars : List Candle}
    (paid : (Backtester.simulate backtest strategy bars).toOption.map
      (fun sim => decide (0 ≤ money sim.account.cash)) = some true) :
    Affords backtest strategy bars := by
  cases ran : Backtester.simulate backtest strategy bars with
  | error exc =>
      rw [ran] at paid
      cases paid
  | ok sim =>
      rw [ran] at paid
      exact ⟨sim, ran, of_decide_eq_true (Option.some.inj paid)⟩

def calm : ResearchWorkspace Unit := .new [threeBars]

theorem rising_valid : validateSeries threeBars.candles = .ok () := by decide +kernel

theorem short_accepted : calm.validateRequest shortRequest = .ok (threeBars, 1) := by rfl

theorem short_affords : AffordsAll {} (fun _ => NoLookAhead.buyOnce) (walkConfig shortRequest)
    threeBars.candles (threeBars.candles.length - (walkConfig shortRequest).holdoutBars) := by
  have one : windowsFrom (walkConfig shortRequest)
      (threeBars.candles.length - (walkConfig shortRequest).holdoutBars) 0 = 1 := by decide +kernel
  constructor
  · intro k inside
    rw [one, Nat.lt_one_iff] at inside
    rw [inside]
    exact affords_of (by decide +kernel)
  · exact affords_of (by decide +kernel)

theorem windows_walked_iff_short :
    ∃ report, runWalkForward {} (fun _ => NoLookAhead.buyOnce) (walkConfig shortRequest)
        threeBars.candles = .ok report ∧
      Walked {} (fun _ => NoLookAhead.buyOnce) (walkConfig shortRequest) threeBars.candles 1
        report :=
  (windows_walked_iff {} _ short_accepted rising_valid short_affords).2 (by decide)

/-- Two windows of one test bar each. -/
def singleArguments : Arguments := { shortArguments with testBars := 1 }

theorem single_valid : validate singleArguments = .ok () := by decide +kernel

def singleRequest : ResearchRunRequest := ⟨singleArguments, single_valid, padded_stripped⟩

theorem single_affords : AffordsAll {} (fun _ => NoLookAhead.buyOnce) (walkConfig singleRequest)
    threeBars.candles (threeBars.candles.length - (walkConfig singleRequest).holdoutBars) := by
  have two : windowsFrom (walkConfig singleRequest)
      (threeBars.candles.length - (walkConfig singleRequest).holdoutBars) 0 = 2 := by decide +kernel
  constructor
  · intro k inside
    rw [two] at inside
    obtain rfl | rfl : k = 0 ∨ k = 1 := by omega
    · exact affords_of (by decide +kernel)
    · exact affords_of (by decide +kernel)
  · exact affords_of (by decide +kernel)

/-- A request for windows of one bar is accepted, and its walk fails for want of another bar. -/
theorem singleBarsRefused : calm.validateRequest singleRequest = .ok (threeBars, 2) ∧
    validateSeries threeBars.candles = .ok () ∧
    AffordsAll {} (fun _ => NoLookAhead.buyOnce) (walkConfig singleRequest) threeBars.candles
      (threeBars.candles.length - (walkConfig singleRequest).holdoutBars) ∧
    runWalkForward {} (fun _ => NoLookAhead.buyOnce) (walkConfig singleRequest) threeBars.candles =
      .error (.valueError "a backtest requires at least two closed candles") := by
  refine ⟨rfl, rising_valid, single_affords, ?_⟩
  have raised : (runWalkForward {} (fun _ => NoLookAhead.buyOnce) (walkConfig singleRequest)
      threeBars.candles).map (fun _ => ()) =
        .error (.valueError "a backtest requires at least two closed candles") := by
    decide +kernel
  cases outcome : runWalkForward {} (fun _ => NoLookAhead.buyOnce) (walkConfig singleRequest)
      threeBars.candles with
  | ok report =>
      rw [outcome] at raised
      cases raised
  | error exc =>
      rw [outcome] at raised
      exact congrArg Except.error (Except.error.inj raised)

/-! ## The summary of a replay -/

/-- What a summary uses of a `ReplayResult`. -/
structure ReplayResult where
  outcomes : List App.CycleOutcome
  fills : List Fill
  finalEquity : Decimal

namespace ReplayResult

def signals (result : ReplayResult) : List Signal := result.outcomes.filterMap App.CycleOutcome.signal

def refusals (result : ReplayResult) : List App.CycleOutcome :=
  result.outcomes.filter fun item => item.status = .refused

end ReplayResult

/-- What an attribute of an outcome holds. -/
inductive AttributeValue where
  | status (value : App.CycleStatus)
  | detail (value : String)
  | signal (value : Option Signal)
  | decision (value : Option RiskApproval)
  | order (value : Option Order)

def attributeError (owner name : String) : Exc :=
  { kind := .provider
    typeName := "AttributeError"
    message := s!"'{owner}' object has no attribute '{name}'" }

/-- `getattr(item, name)`: an outcome has the attributes it has slots for. -/
def getattr (item : App.CycleOutcome) (name : String) : Except Exc AttributeValue :=
  match name with
  | "status" => .ok (.status item.status)
  | "detail" => .ok (.detail item.detail)
  | "signal" => .ok (.signal item.signal)
  | "decision" => .ok (.decision item.decision)
  | "order" => .ok (.order item.order)
  | _ => .error (attributeError "CycleOutcome" name)

/-- `value.failed_gate if value else None`. -/
def failedGateOf : AttributeValue → Except Exc (Option String)
  | .decision value => .ok (value.bind RiskApproval.failedGate)
  | .detail "" => .ok none
  | .signal none => .ok none
  | .order none => .ok none
  | .status _ => .error (attributeError "CycleStatus" "failed_gate")
  | .detail _ => .error (attributeError "str" "failed_gate")
  | .signal _ => .error (attributeError "Signal" "failed_gate")
  | .order _ => .error (attributeError "Order" "failed_gate")

structure Refusal where
  status : App.CycleStatus
  detail : String
  failedGate : Option String

/-- The summary; where the source writes a number as text the number stands. -/
structure ReplaySummary where
  signalCount : Nat
  fillCount : Nat
  refusalCount : Nat
  finalEquity : Decimal
  backtestFinalEquity : Decimal
  parityDelta : Decimal
  refusals : List Refusal

def refusalOf (item : App.CycleOutcome) : Except Exc Refusal := do
  let failedGate ← (getattr item "approval").bind failedGateOf
  return { status := item.status, detail := item.detail, failedGate }

/-- `_replay_summary`. -/
def replaySummary (result : ReplayResult) (report : BacktestReport) : Except Exc ReplaySummary := do
  let refusals ← (result.refusals.take 25).mapM refusalOf
  return {
    signalCount := result.signals.length
    fillCount := result.fills.length
    refusalCount := result.refusals.length
    finalEquity := result.finalEquity
    backtestFinalEquity := report.finalEquity
    parityDelta := result.finalEquity - report.finalEquity
    refusals }

/-- A summary counts the refused cycles, and names the gate of each of the first ones. -/
structure Summarises (result : ReplayResult) (summary : ReplaySummary) : Prop where
  counted : summary.refusalCount = result.outcomes.countP fun item => item.status = .refused
  gates : summary.refusals.map Refusal.failedGate =
    ((result.outcomes.filter fun item => item.status = .refused).take 25).map
      fun item => item.decision.bind RiskApproval.failedGate

/-- An outcome has no `approval`. -/
theorem refusalOf_raises (item : App.CycleOutcome) :
    refusalOf item = .error (attributeError "CycleOutcome" "approval") := rfl

/-- A replay has its summary exactly when none of its cycles was refused. -/
theorem replay_summarised_iff (result : ReplayResult) (report : BacktestReport) :
    (∃ summary, replaySummary result report = .ok summary ∧ Summarises result summary) ↔
      ∀ item ∈ result.outcomes, item.status ≠ .refused := by
  constructor
  · rintro ⟨summary, made, _⟩ item member refused
    obtain ⟨refusals, read, _⟩ := bind_eq_ok.1 made
    have listed : item ∈ result.refusals := List.mem_filter.2 ⟨member, decide_eq_true refused⟩
    obtain ⟨first, rest, some_⟩ := List.exists_cons_of_ne_nil (List.ne_nil_of_mem listed)
    have here : first ∈ result.refusals.take 25 := by
      rw [some_, List.take_succ_cons]
      exact List.mem_cons_self
    obtain ⟨exc, raised⟩ := mapM_raises here (refusalOf_raises first)
    rw [raised] at read
    cases read
  · intro clear
    have none_ : result.refusals = [] := by
      refine List.filter_eq_nil_iff.2 fun item member => ?_
      simpa using clear item member
    have counted : result.outcomes.countP (fun item => item.status = .refused) = 0 := by
      rw [List.countP_eq_length_filter]
      exact congrArg List.length none_
    have made : (result.refusals.take 25).mapM refusalOf = .ok [] := by
      rw [none_]
      rfl
    refine ⟨_, bind_eq_ok.2 ⟨[], made, rfl⟩, ?_, ?_⟩
    · rw [counted]
      exact congrArg List.length none_
    · have same : result.outcomes.filter (fun item => item.status = .refused) = [] := none_
      rw [same]
      rfl

/-- One cycle, refused at the volatility gate. -/
def refusedReplay : ReplayResult where
  outcomes := [
    { status := .refused, detail := "volatility above the limit"
      decision := some
        { approvalId := ⟨1⟩, signalId := ⟨2⟩, approved := false
          reason := "volatility above the limit", failedGate := some "abnormal_volatility"
          approvedAt := 0, correlationId := ⟨3⟩ } }]
  fills := []
  finalEquity := 100000

/-- The summary of a replay with a refused cycle is never made. -/
theorem refusalLosesSummary : ∃ report,
    Backtester.run {} NoLookAhead.buyOnce NoLookAhead.rising = .ok report ∧
      ¬ ∃ summary, replaySummary refusedReplay report = .ok summary ∧
        Summarises refusedReplay summary := by
  have returned : (Backtester.run {} NoLookAhead.buyOnce NoLookAhead.rising).toOption.isSome := by
    decide +kernel
  cases outcome : Backtester.run {} NoLookAhead.buyOnce NoLookAhead.rising with
  | error exc =>
      rw [outcome] at returned
      cases returned
  | ok report =>
      refine ⟨report, rfl, ?_⟩
      rintro ⟨summary, made, _⟩
      cases made

end AlgoTrader.Api.Research
