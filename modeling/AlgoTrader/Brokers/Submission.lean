/-
# Brokers.Submission -- a retry against what the venue already has

An adapter looks an order up before it sends one again whose outcome it does not know, and
goes on to the create request unless the lookup tells it what became of the order.

* `Lookups` -- what of a run is a create, what a record of the order, and which records are
  read as `UNKNOWN`;
* `submit_agrees` -- a create follows a record exactly when a record that is read as
  `UNKNOWN` came before any create, for every adapter whose parts keep to that.
-/
import AlgoTrader.Brokers.Venue
import AlgoTrader.Theory.Loops

namespace AlgoTrader.Brokers

open AlgoTrader.Core Theory

set_option autoImplicit false

variable {Cache Request : Type}

/-! ## Creates and records -/

/-- What the requests and answers of an adapter mean for one client order id: which requests
create an order, which answers hold a record of it, and which of these records the cache that
finds them reads as an order of status `UNKNOWN`. -/
structure Lookups (Cache Request : Type) where
  creates : Request → Prop
  record : VenueEvent Cache Request → Option Json
  unknown : Cache → Json → Prop
  /-- Only requests are answered with records. -/
  asked : ∀ e raw, record e = some raw → ∃ request, e.op = .request request

variable (L : Lookups Cache Request)

namespace Lookups

def Creates (e : VenueEvent Cache Request) : Prop := ∃ request, e.op = .request request ∧ L.creates request

/-- The answer holds a record of the order. -/
def Records (e : VenueEvent Cache Request) : Prop := ∃ raw, L.record e = some raw

/-- The answer holds a record of the order that is read as `UNKNOWN`. -/
def RecordsUnknown (e : VenueEvent Cache Request) : Prop :=
  ∃ raw, L.record e = some raw ∧ L.unknown e.after raw

/-- A create request was issued after a record of the order had been returned. -/
def CreatesAfterRecord : List (VenueEvent Cache Request) → Prop
  | [] => False
  | e :: earlier => (L.Creates e ∧ ∃ r ∈ earlier, L.Records r) ∨ CreatesAfterRecord earlier

/-- A lookup before any create returned a record that is read as `UNKNOWN`. -/
def FindsUnknown : List (VenueEvent Cache Request) → Prop
  | [] => False
  | e :: earlier => ((∀ c ∈ earlier, ¬L.Creates c) ∧ L.RecordsUnknown e) ∨ FindsUnknown earlier

instance [DecidablePred L.creates] : DecidablePred L.Creates := fun e =>
  match e with
  | ⟨.request request, _, _, _⟩ =>
      decidable_of_iff (L.creates request) ⟨fun creates => ⟨request, rfl, creates⟩, fun ⟨_, same, creates⟩ => by
        cases same
        exact creates⟩
  | ⟨.load, _, _, _⟩ => .isFalse fun ⟨_, never, _⟩ => nomatch never
  | ⟨.save _, _, _, _⟩ => .isFalse fun ⟨_, never, _⟩ => nomatch never
  | ⟨.savedOrder _, _, _, _⟩ => .isFalse fun ⟨_, never, _⟩ => nomatch never
  | ⟨.getQuote _, _, _, _⟩ => .isFalse fun ⟨_, never, _⟩ => nomatch never
  | ⟨.utcNow, _, _, _⟩ => .isFalse fun ⟨_, never, _⟩ => nomatch never

instance : DecidablePred L.Records := fun _ => decidable_of_iff _ Option.isSome_iff_exists

instance createsAfterRecordDecidable [DecidablePred L.creates] : DecidablePred L.CreatesAfterRecord
  | [] => .isFalse id
  | e :: earlier =>
      have rest : Decidable (L.CreatesAfterRecord earlier) := createsAfterRecordDecidable earlier
      @instDecidableOr _ _ (inferInstance : Decidable (L.Creates e ∧ ∃ r ∈ earlier, L.Records r)) rest

variable {L}

theorem not_findsUnknown (never : ∀ cache raw, ¬L.unknown cache raw)
    (events : List (VenueEvent Cache Request)) : ¬L.FindsUnknown events := by
  induction events with
  | nil => exact id
  | cons e earlier ih =>
      rintro (⟨_, raw, _, unknown⟩ | before)
      · exact never _ raw unknown
      · exact ih before

theorem findsUnknown_iff {events : List (VenueEvent Cache Request)}
    (none : ∀ c ∈ events, ¬L.Creates c) : L.FindsUnknown events ↔ ∃ e ∈ events, L.RecordsUnknown e := by
  induction events with
  | nil => exact iff_of_false id fun ⟨_, never, _⟩ => nomatch never
  | cons e earlier ih =>
      have before : ∀ c ∈ earlier, ¬L.Creates c := fun c member => none c (List.mem_cons_of_mem _ member)
      rw [List.exists_mem_cons_iff]
      exact or_congr (and_iff_right before) (ih before)

theorem not_createsAfterRecord {events : List (VenueEvent Cache Request)}
    (none : ∀ c ∈ events, ¬L.Creates c) : ¬L.CreatesAfterRecord events := by
  induction events with
  | nil => exact id
  | cons e earlier ih =>
      rintro (⟨creates, _⟩ | later)
      · exact none e List.mem_cons_self creates
      · exact ih (fun c member => none c (List.mem_cons_of_mem _ member)) later

end Lookups

/-! ## What the parts of an adapter keep to -/

abbrev venueLogic (Cache Request : Type) :
    Logic (venueEffects Cache Request) VenueError (VenueMoment Cache Request) :=
  (Contract.plain (VenueServe Cache Request) fun _ => True).logic

/-- A retry goes on to the create request. -/
def GoesOn (result : Except VenueError (Option Order)) : Prop :=
  result = .ok none ∨ ∃ order, result = .ok (some order) ∧ order.status = .unknown

/-- Nothing has been created, and nothing of the order was found. -/
structure Clear (m : VenueMoment Cache Request) : Prop where
  created : ∀ c ∈ m.events, ¬L.Creates c
  recorded : ∀ r ∈ m.events, ¬L.Records r

/-- Nothing has been created, and what was found of the order, if anything, is read as `UNKNOWN`. -/
structure Ready (m : VenueMoment Cache Request) : Prop where
  created : ∀ c ∈ m.events, ¬L.Creates c
  unknown : (∃ r ∈ m.events, L.Records r) ↔ ∃ r ∈ m.events, L.RecordsUnknown r

/-- Nothing was created, and nothing that was found of the order is read as `UNKNOWN`. -/
structure Settled (m : VenueMoment Cache Request) : Prop where
  created : ∀ c ∈ m.events, ¬L.Creates c
  known : ∀ r ∈ m.events, ¬L.RecordsUnknown r

/-- A run whose creates and records agree. -/
def Agrees (m : VenueMoment Cache Request) : Prop :=
  L.CreatesAfterRecord m.events ↔ L.FindsUnknown m.events

variable {L} {m : VenueMoment Cache Request}

theorem recordsUnknown_records {e : VenueEvent Cache Request} (unknown : L.RecordsUnknown e) :
    L.Records e := by
  obtain ⟨raw, recorded, _⟩ := unknown
  exact ⟨raw, recorded⟩

theorem clear_start (cache : Cache) : Clear L ⟨cache, []⟩ :=
  ⟨fun _ never => absurd never List.not_mem_nil, fun _ never => absurd never List.not_mem_nil⟩

theorem Clear.settled (clear : Clear L m) : Settled L m :=
  ⟨clear.created, fun r member unknown => clear.recorded r member (recordsUnknown_records unknown)⟩

theorem Clear.ready (clear : Clear L m) : Ready L m :=
  ⟨clear.created, iff_of_false (fun ⟨r, member, records⟩ => clear.recorded r member records)
    fun ⟨r, member, unknown⟩ => clear.recorded r member (recordsUnknown_records unknown)⟩

/-- Where no record is read as `UNKNOWN`, it is enough that nothing was created. -/
theorem settled_of_never (never : ∀ cache raw, ¬L.unknown cache raw)
    (created : ∀ c ∈ m.events, ¬L.Creates c) : Settled L m :=
  ⟨created, fun _ _ ⟨raw, _, unknown⟩ => never _ raw unknown⟩

theorem Settled.agrees (settled : Settled L m) : Agrees L m := by
  refine iff_of_false (Lookups.not_createsAfterRecord settled.created) ?_
  rw [Lookups.findsUnknown_iff settled.created]
  rintro ⟨r, member, unknown⟩
  exact settled.known r member unknown

section Pushed

variable {op : VenueOp Cache Request} {reply : Except VenueError op.Reply} {after : Cache}

/-- A create, once the records have been looked at. -/
theorem Ready.creates (ready : Ready L m) {request : Request} (creates : L.creates request)
    (answer : Except VenueError Json) (none : ∀ raw, L.record
      (m.event (S := venueEffects Cache Request) (.request request) answer after) ≠ some raw) :
    Agrees L (m.push (S := venueEffects Cache Request) (.request request) answer after) := by
  have here : L.Creates (m.event (S := venueEffects Cache Request) (.request request) answer after) :=
    ⟨request, rfl, creates⟩
  have silent : ¬L.RecordsUnknown
      (m.event (S := venueEffects Cache Request) (.request request) answer after) :=
    fun ⟨raw, recorded, _⟩ => none raw recorded
  show (L.Creates _ ∧ (∃ r ∈ m.events, L.Records r)) ∨ L.CreatesAfterRecord m.events ↔
    ((∀ c ∈ m.events, ¬L.Creates c) ∧ L.RecordsUnknown _) ∨ L.FindsUnknown m.events
  rw [Lookups.findsUnknown_iff ready.created, ← ready.unknown]
  constructor
  · rintro (⟨_, recorded⟩ | before)
    · exact .inr recorded
    · exact absurd before (Lookups.not_createsAfterRecord ready.created)
  · rintro (⟨_, unknown⟩ | recorded)
    · exact absurd unknown silent
    · exact .inl ⟨here, recorded⟩

/-- Something was created, and the creates and records agree. -/
structure Created (L : Lookups Cache Request) (m : VenueMoment Cache Request) : Prop where
  some : ∃ c ∈ m.events, L.Creates c
  agrees : Agrees L m

/-- After a create nothing but another create makes a difference. -/
theorem Created.push (created : Created L m) (other : ∀ request, op = .request request → ¬L.creates request) :
    Created L (m.push (S := venueEffects Cache Request) op reply after) := by
  obtain ⟨c, member, creates⟩ := created.some
  refine ⟨⟨c, List.mem_cons_of_mem _ member, creates⟩, ?_⟩
  have idle : ¬L.Creates (m.event (S := venueEffects Cache Request) op reply after) :=
    fun ⟨request, same, creates⟩ => other request same creates
  show (L.Creates _ ∧ (∃ r ∈ m.events, L.Records r)) ∨ L.CreatesAfterRecord m.events ↔
    ((∀ c ∈ m.events, ¬L.Creates c) ∧ L.RecordsUnknown _) ∨ L.FindsUnknown m.events
  constructor
  · rintro (⟨never, _⟩ | before)
    · exact absurd never idle
    · exact .inr (created.agrees.1 before)
  · rintro (⟨never, _⟩ | before)
    · exact absurd creates (never c member)
    · exact .inr (created.agrees.2 before)

end Pushed

/-! ## Requests that make no difference -/

/-- What is no request to the venue for an order: the cache, the store, the clock, a quote. -/
def Aside (op : VenueOp Cache Request) : Prop := ∀ request, op ≠ .request request

/-- What an adapter does within itself: its cache, and the clock. -/
inductive Inside : VenueOp Cache Request → Prop
  | load : Inside .load
  | save (cache : Cache) : Inside (.save cache)
  | utcNow : Inside .utcNow

/-- No request to create an order. -/
def NoCreate (L : Lookups Cache Request) (op : VenueOp Cache Request) : Prop :=
  ∀ request, op = .request request → ¬L.creates request

section Asides

variable {op : VenueOp Cache Request} {reply : Except VenueError op.Reply} {after : Cache}

theorem not_creates_of_aside (aside : Aside op) :
    ¬L.Creates (m.event (S := venueEffects Cache Request) op reply after) :=
  fun ⟨request, same, _⟩ => aside request same

theorem not_records_of_aside (aside : Aside op) :
    ¬L.Records (m.event (S := venueEffects Cache Request) op reply after) := by
  rintro ⟨raw, recorded⟩
  obtain ⟨request, same⟩ := L.asked _ raw recorded
  exact aside request same

theorem Clear.push (clear : Clear L m)
    (idle : ¬L.Creates (m.event (S := venueEffects Cache Request) op reply after))
    (blank : ¬L.Records (m.event (S := venueEffects Cache Request) op reply after)) :
    Clear L (m.push (S := venueEffects Cache Request) op reply after) :=
  ⟨List.forall_mem_cons.2 ⟨idle, clear.created⟩, List.forall_mem_cons.2 ⟨blank, clear.recorded⟩⟩

theorem Settled.push (settled : Settled L m)
    (idle : ¬L.Creates (m.event (S := venueEffects Cache Request) op reply after))
    (known : ¬L.RecordsUnknown (m.event (S := venueEffects Cache Request) op reply after)) :
    Settled L (m.push (S := venueEffects Cache Request) op reply after) :=
  ⟨List.forall_mem_cons.2 ⟨idle, settled.created⟩, List.forall_mem_cons.2 ⟨known, settled.known⟩⟩

theorem Ready.push (ready : Ready L m) (aside : Aside op) :
    Ready L (m.push (S := venueEffects Cache Request) op reply after) := by
  have blank : ¬L.Records (m.event (S := venueEffects Cache Request) op reply after) :=
    not_records_of_aside aside
  refine ⟨List.forall_mem_cons.2 ⟨not_creates_of_aside aside, ready.created⟩, ?_⟩
  rw [Moment.push_events, List.exists_mem_cons_iff, List.exists_mem_cons_iff, ready.unknown]
  exact or_congr_left (iff_of_false blank fun unknown => blank (recordsUnknown_records unknown))

end Asides

section Programs

variable {α : Type} {p : Venue Cache Request α}

theorem asides_clear (asides : Issues Aside p) (clear : Clear L m) :
    wp (venueLogic Cache Request) (fun _ => Clear L) p m :=
  wp_kept (C := Contract.plain (VenueServe Cache Request) fun _ => True) (Clear L)
    (fun _ _ _ _ => trivial)
    (fun _ _ _ _ aside before _ _ =>
      ⟨before.push (not_creates_of_aside aside) (not_records_of_aside aside), trivial⟩) asides clear

theorem asides_ready (asides : Issues Aside p) (ready : Ready L m) :
    wp (venueLogic Cache Request) (fun _ => Ready L) p m :=
  wp_kept (C := Contract.plain (VenueServe Cache Request) fun _ => True) (Ready L)
    (fun _ _ _ _ => trivial) (fun _ _ _ _ aside before _ _ => ⟨before.push aside, trivial⟩) asides ready

theorem asides_settled (asides : Issues Aside p) (settled : Settled L m) :
    wp (venueLogic Cache Request) (fun _ => Settled L) p m :=
  wp_kept (C := Contract.plain (VenueServe Cache Request) fun _ => True) (Settled L)
    (fun _ _ _ _ => trivial)
    (fun _ _ _ _ aside before _ _ => ⟨before.push (not_creates_of_aside aside)
      fun unknown => not_records_of_aside aside (recordsUnknown_records unknown), trivial⟩)
    asides settled

theorem created_agrees (issues : Issues (NoCreate L) p) (created : Created L m) :
    wp (venueLogic Cache Request) (fun _ => Agrees L) p m := by
  refine wp_mono (wp_kept (C := Contract.plain (VenueServe Cache Request) fun _ => True) (Created L)
    (fun _ _ _ _ => trivial) ?_ issues created) fun _ _ kept => kept.agrees
  intro op m reply after other before _ _
  exact ⟨before.push other, trivial⟩

end Programs

/-- A sequence that is judged by what its last part returns. -/
theorem wp_last {α β : Type} {p : Venue Cache Request α} {f : α → Venue Cache Request β}
    {post : Except VenueError β → Prop} (raised : ∀ error, post (.error error))
    (rest : ∀ value m, wp (venueLogic Cache Request) (fun result _ => post result) (f value) m)
    (m : VenueMoment Cache Request) :
    wp (venueLogic Cache Request) (fun result _ => post result) (p >>= f) m := by
  refine wp_bind.2 (wp_mono (wp_nothing p m) ?_)
  rintro (error | value) m' _
  · exact raised error
  · exact rest value m'

theorem reads_issues {allowed : VenueOp Cache Request → Prop} {α : Type} (outcome : Except Exc α) :
    Issues allowed (reads outcome : Venue Cache Request α) := by
  cases outcome <;> trivial

theorem inside_aside {α : Type} {p : Venue Cache Request α} (inside : Issues Inside p) : Issues Aside p :=
  issues_mono inside fun op inside request same => by
    cases inside <;> cases same

theorem aside_noCreate {α : Type} {p : Venue Cache Request α} (asides : Issues Aside p) :
    Issues (NoCreate L) p := issues_mono asides fun _ aside request same => absurd same (aside request)

/-- A conversion leaves what it read. -/
theorem reads_read {x : Except Exc Order} {m : VenueMoment Cache Request} :
    wp (venueLogic Cache Request)
      (fun result _ => (∃ order, result = .ok order ∧ order.status = .unknown) ↔
        ∃ order, x = .ok order ∧ order.status = .unknown) (reads x) m := by
  cases x with
  | error exc => exact iff_of_false (fun ⟨_, never, _⟩ => nomatch never) fun ⟨_, never, _⟩ => nomatch never
  | ok order =>
      constructor
      · rintro ⟨_, same, unknown⟩
        cases same
        exact ⟨order, rfl, unknown⟩
      · rintro ⟨_, same, unknown⟩
        cases same
        exact ⟨order, rfl, unknown⟩

theorem load_inside : Issues Inside (loadCache : Venue Cache Request Cache) := issues_call .load

theorem modify_inside (change : Cache → Cache) : Issues Inside (modifyCache change : Venue Cache Request Unit) :=
  issues_bind load_inside fun cache => issues_call (.save (change cache))

theorem utcNow_inside : Issues Inside (utcNow : Venue Cache Request Timestamp) := issues_call .utcNow

theorem load_aside : Issues Aside (loadCache : Venue Cache Request Cache) := inside_aside load_inside

theorem modify_aside (change : Cache → Cache) : Issues Aside (modifyCache change : Venue Cache Request Unit) :=
  inside_aside (modify_inside change)

theorem utcNow_aside : Issues Aside (utcNow : Venue Cache Request Timestamp) := inside_aside utcNow_inside

theorem modify_ok {assume : VenueEvent Cache Request → Prop} (change : Cache → Cache)
    (m : VenueMoment Cache Request) :
    wp (Contract.plain (VenueServe Cache Request) assume).logic (fun result _ => result = .ok ())
      (modifyCache change) m := by
  refine wp_bind.2 (wp_served ?_)
  rintro _ cache ⟨rfl, _⟩ _
  exact wp_served fun reply after served _ => served.1

/-- A lookup that ends where a retry goes on from, or not. -/
def LooksUp (L : Lookups Cache Request) (result : Except VenueError (Option Order))
    (m : VenueMoment Cache Request) : Prop :=
  (GoesOn result → Ready L m) ∧ (¬GoesOn result → Settled L m)

theorem Clear.looksUp (clear : Clear L m) (result : Except VenueError (Option Order)) :
    LooksUp L result m := ⟨fun _ => clear.ready, fun _ => clear.settled⟩

theorem utcNow_ok {m : VenueMoment Cache Request} :
    wp (venueLogic Cache Request) (fun result _ => ∃ now, result = .ok now) utcNow m :=
  wp_served fun _ _ served _ => served.1

/-- One record of the order was found, which is read in the cache as it is now. -/
structure Found (L : Lookups Cache Request) (raw : Json) (m : VenueMoment Cache Request) : Prop where
  created : ∀ c ∈ m.events, ¬L.Creates c
  recorded : ∃ r ∈ m.events, L.Records r
  unknown : (∃ r ∈ m.events, L.RecordsUnknown r) ↔ L.unknown m.world raw

theorem Found.ready {raw : Json} (found : Found L raw m) (unknown : L.unknown m.world raw) :
    Ready L m := ⟨found.created, iff_of_true found.recorded (found.unknown.2 unknown)⟩

theorem Found.settled {raw : Json} (found : Found L raw m) (known : ¬L.unknown m.world raw) :
    Settled L m :=
  ⟨found.created, fun r member unknown => known (found.unknown.1 ⟨r, member, unknown⟩)⟩

/-- A lookup's answer with the first record of the order. -/
theorem Clear.found (clear : Clear L m) {raw : Json} {request : Request}
    {answer : Except VenueError Json} {after : Cache}
    (recorded : L.record (m.event (S := venueEffects Cache Request) (.request request) answer after) = some raw)
    (other : ¬L.creates request) :
    Found L raw (m.push (S := venueEffects Cache Request) (.request request) answer after) where
  created := by
    refine List.forall_mem_cons.2 ⟨?_, clear.created⟩
    rintro ⟨request', same, creates⟩
    cases same
    exact other creates
  recorded := ⟨_, List.mem_cons_self, raw, recorded⟩
  unknown := by
    constructor
    · rintro ⟨r, member, unknown⟩
      rcases List.mem_cons.1 member with rfl | member
      · obtain ⟨raw', recorded', unknown⟩ := unknown
        rw [recorded] at recorded'
        cases recorded'
        exact unknown
      · exact absurd (recordsUnknown_records unknown) (clear.recorded r member)
    · exact fun unknown => ⟨_, List.mem_cons_self, raw, recorded, unknown⟩

/-- A lookup's answer without a record of the order. -/
theorem Clear.asks (clear : Clear L m) {request : Request} {answer : Except VenueError Json} {after : Cache}
    (blank : L.record (m.event (S := venueEffects Cache Request) (.request request) answer after) = none)
    (other : ¬L.creates request) :
    Clear L (m.push (S := venueEffects Cache Request) (.request request) answer after) := by
  refine clear.push ?_ ?_
  · rintro ⟨request', same, creates⟩
    cases same
    exact other creates
  · rintro ⟨raw, recorded⟩
    rw [blank] at recorded
    cases recorded

theorem Found.load {raw : Json} (found : Found L raw m) :
    wp (venueLogic Cache Request)
      (fun result m' => result = .ok m.world ∧ m'.world = m.world ∧ Found L raw m') loadCache m := by
  refine wp_served ?_
  rintro _ _ ⟨rfl, rfl⟩ _
  refine ⟨rfl, rfl, List.forall_mem_cons.2 ⟨not_creates_of_aside (fun _ never => nomatch never),
    found.created⟩, ?_, ?_⟩
  · obtain ⟨r, member, records⟩ := found.recorded
    exact ⟨r, List.mem_cons_of_mem _ member, records⟩
  · rw [Moment.push_events, List.exists_mem_cons_iff, found.unknown]
    refine or_iff_right fun unknown => ?_
    exact not_records_of_aside (fun request same => by cases same) (recordsUnknown_records unknown)

/-- What a lookup hands on: the record it found, or nothing. -/
def Reports (L : Lookups Cache Request) :
    Except VenueError (Option Json) → VenueMoment Cache Request → Prop
  | .ok (some raw), m => Found L raw m
  | _, m => Clear L m

/-- The record that was found, kept as the order it is read as. -/
theorem Found.looksUp {raw : Json} {p : Venue Cache Request Order} {change : Order → Cache → Cache}
    (found : Found L raw m) (asides : Issues Aside p)
    (read : wp (venueLogic Cache Request)
      (fun result _ => (∃ order, result = .ok order ∧ order.status = .unknown) ↔
        L.unknown m.world raw) p m) :
    wp (venueLogic Cache Request) (LooksUp L)
      (do
        let order ← p
        modifyCache (change order)
        return some order) m := by
  by_cases unknown : L.unknown m.world raw
  · refine wp_bind.2 (wp_mono (wp_conj (asides_ready asides (found.ready unknown)) read) ?_)
    rintro result m₁ ⟨ready₁, status⟩
    obtain ⟨order, rfl, unsettled⟩ := status.2 unknown
    refine wp_bind.2 (wp_mono (wp_conj (asides_ready (modify_aside _) ready₁) (modify_ok _ _)) ?_)
    rintro _ m₂ ⟨ready₂, rfl⟩
    exact ⟨fun _ => ready₂, fun stuck => absurd (.inr ⟨order, rfl, unsettled⟩) stuck⟩
  · refine wp_bind.2 (wp_mono (wp_conj (asides_settled asides (found.settled unknown)) read) ?_)
    rintro (error | order) m₁ ⟨settled₁, status⟩
    · refine ⟨?_, fun _ => settled₁⟩
      rintro (never | ⟨_, never, _⟩) <;> cases never
    refine wp_bind.2 (wp_mono (wp_conj (asides_settled (modify_aside _) settled₁) (modify_ok _ _)) ?_)
    rintro _ m₂ ⟨settled₂, rfl⟩
    refine ⟨?_, fun _ => settled₂⟩
    rintro (never | ⟨_, same, known⟩)
    · cases never
    · cases same
      exact absurd (status.1 ⟨order, rfl, known⟩) unknown

/-- What is cached as ended is returned without a lookup. -/
theorem settledOr_looksUp (orders : Cache → Dict String Order) (clientOrderId : String)
    {lookUp : Venue Cache Request (Option Order)}
    (looks : ∀ m, Clear L m → wp (venueLogic Cache Request) (LooksUp L) lookUp m) (clear : Clear L m) :
    wp (venueLogic Cache Request) (LooksUp L) (settledOr orders clientOrderId lookUp) m := by
  refine wp_bind.2 (wp_mono (asides_clear load_aside clear) ?_)
  rintro (error | cache) m₁ clear₁
  · exact clear₁.looksUp _
  dsimp only [andThen]
  split
  · exact clear₁.looksUp _
  · exact looks m₁ clear₁

/-- The create request, and whatever is made of its answer without another one. -/
theorem Ready.sends (ready : Ready L m) {request : Request} (creates : L.creates request)
    (none : ∀ e : VenueEvent Cache Request, e.op = .request request → L.record e = Option.none)
    {next : Except VenueError Json → Venue Cache Request Order}
    (rest : ∀ answer, Issues (NoCreate L) (next answer)) :
    wp (venueLogic Cache Request) (fun _ => Agrees L)
      ((venue (.request request) : Venue Cache Request Json).attempt >>= next) m := by
  refine wp_bind.2 (wp_attempt.2 (wp_served fun answer after _ _ => ?_))
  refine created_agrees (rest answer) ⟨⟨_, List.mem_cons_self, request, rfl, creates⟩, ?_⟩
  refine ready.creates creates answer fun raw recorded => ?_
  rw [none _ rfl] at recorded
  cases recorded

theorem submit_agrees (orders : Cache → Dict String Order) {getOrder : Venue Cache Request (Option Order)}
    {create : Venue Cache Request Order} (request : OrderRequest) (approval : RiskApproval)
    (looks : ∀ m, Clear L m → wp (venueLogic Cache Request) (LooksUp L) getOrder m)
    (creates : ∀ m, Ready L m → wp (venueLogic Cache Request) (fun _ => Agrees L) create m)
    (clear : Clear L m) :
    wp (venueLogic Cache Request) (fun _ => Agrees L)
      (submitUnlessKnown orders getOrder create request approval) m := by
  refine wp_bind.2 (wp_mono (asides_clear (reads_issues _) clear) ?_)
  rintro (error | _) m₁ clear₁
  · exact clear₁.settled.agrees
  refine wp_bind.2 (wp_mono (asides_clear load_aside clear₁) ?_)
  rintro (error | cache) m₂ clear₂
  · exact clear₂.settled.agrees
  dsimp only [andThen]
  cases (orders cache).get? request.clientOrderId.str with
  | none => exact creates m₂ clear₂.ready
  | some existing =>
      dsimp only
      split
      · exact clear₂.settled.agrees
      refine wp_bind.2 (wp_mono (looks m₂ clear₂) ?_)
      rintro (error | found) m₃ ⟨goesOn, ends⟩
      · refine (ends ?_).agrees
        rintro (never | ⟨_, never, _⟩) <;> cases never
      dsimp only [andThen]
      cases found with
      | none => exact creates m₃ (goesOn (.inl rfl))
      | some order =>
          by_cases unknown : order.status = .unknown
          · rw [Option.filter_some_neg (by simpa using unknown)]
            exact creates m₃ (goesOn (.inr ⟨order, rfl, unknown⟩))
          · rw [Option.filter_some_pos (by simpa using unknown)]
            refine (ends ?_).agrees
            rintro (never | ⟨_, same, status⟩)
            · cases never
            · cases same
              exact unknown status

end AlgoTrader.Brokers
