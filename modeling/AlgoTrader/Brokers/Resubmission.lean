/-
# Brokers.Resubmission -- the adapters' retries

The two adapters share the shape of a submission and differ in which records tell them what
became of an order: Coinbase has a status for an order whose status it does not know, and a
record of it is taken for no record.

* `Coinbase.readUnknown_iff` -- what such a record looks like;
* `submit_after_record_iff` -- Coinbase creates an order again exactly after such a record,
  Gemini never.
-/
import AlgoTrader.Brokers.Gemini
import AlgoTrader.Brokers.Listings
import AlgoTrader.Brokers.Submission
import AlgoTrader.Process.Rehearsal
import AlgoTrader.Theory.Raising

namespace AlgoTrader.Brokers

open AlgoTrader.Core AlgoTrader.Process Theory

set_option autoImplicit false

theorem map_known {x : Except Exc Decimal} {status : Decimal → OrderStatus}
    (known : ∀ filled, status filled ≠ .unknown) : x.map status ≠ .ok .unknown := by
  cases x with
  | error exc => exact fun never => nomatch never
  | ok filled => exact fun same => known filled (Except.ok.inj same)

/-! ## Coinbase -/

namespace Coinbase

/-- The order a payload is read as, were it read at the epoch. -/
def readOrder (lib : Library) (clientOrderId : String) (cache : Cache) (payload : Json) :
    Except Exc Order := do
  let raw := unwrap payload ["order", "success_response"]
  let request := cache.requests.get? clientOrderId
  let clientId := clientIdOf raw (some clientOrderId) request
  let request ← requestFor lib raw clientId (request.or (cache.requests.get? clientId))
  orderFields lib raw (providerIdOf raw clientId) request epoch epoch

/-- The payload can be read as an order, and its status text is the venue's for an order it
does not know the status of. -/
def ReadUnknown (lib : Library) (clientOrderId : String) (cache : Cache) (payload : Json) : Prop :=
  statusText (unwrap payload ["order", "success_response"]) = "unknown_order_status" ∧
    ∃ order, readOrder lib clientOrderId cache payload = .ok order

/-- The record of an order in a lookup's answer: by the id the venue gave it, or the first row of
a page that carries ours. -/
def recordIn (clientOrderId : String) : Params → Json → Option Json
  | [], payload => recordOf payload
  | _ :: _, payload => (rows payload "orders").find? (carries clientOrderId)

def record (clientOrderId : String) : BrokerEvent → Option Json
  | ⟨.request (.get _ params), .ok payload, _, _⟩ => recordIn clientOrderId params payload
  | _ => none

def lookups (lib : Library) (clientOrderId : String) : Lookups Cache Request where
  creates request := ∃ body, request = .createOrder body
  record := record clientOrderId
  unknown := ReadUnknown lib clientOrderId
  asked e raw recorded := by
    obtain ⟨op, reply, before, after⟩ := e
    cases op with
    | request request => exact ⟨request, rfl⟩
    | _ => cases recorded

section Reading

variable {lib : Library} {raw : Json} {providerId : String} {request : OrderRequest}

theorem orderStatus_unknown_iff {requested : Decimal} :
    orderStatus raw requested = .ok .unknown ↔ statusText raw = "unknown_order_status" := by
  unfold orderStatus
  dsimp only
  split
  · exact iff_of_true rfl ‹_›
  · rename_i known
    refine iff_of_false (fun never => ?_) known
    split at never
    · cases never
    split at never
    · cases never
    · refine absurd never (map_known fun filled => ?_)
      split_ifs <;> exact fun never => nomatch never

/-- What is read of an order, apart from its times, does not depend on the clock. -/
theorem orderFields_ok {createdNow now : Timestamp} {order : Order}
    (read : orderFields lib raw providerId request createdNow now = .ok order) :
    orderStatus raw request.quantity = .ok order.status ∧
      decimalOr 0 (((raw.get "filled_size").or (raw.get "filled_quantity")).or (raw.get "executed_size")) = .ok order.filledQuantity.1 ∧
      ∀ createdNow' now', ∃ again, orderFields lib raw providerId request createdNow' now' = .ok again ∧
        again.status = order.status ∧ again.filledQuantity = order.filledQuantity := by
  obtain ⟨status, status_eq, read⟩ := bind_eq_ok.1 read
  obtain ⟨filled, filled_eq, read⟩ := bind_eq_ok.1 read
  obtain ⟨average, average_eq, read⟩ := bind_eq_ok.1 read
  obtain ⟨createdAt, created_eq, read⟩ := bind_eq_ok.1 read
  obtain ⟨filledQuantity, quantity_eq, read⟩ := bind_eq_ok.1 read
  obtain ⟨averageFillPrice, price_eq, read⟩ := bind_eq_ok.1 read
  rw [← Except.ok.inj read]
  refine ⟨status_eq, (nonNegative_ok quantity_eq).symm ▸ filled_eq, fun createdNow' now' => ?_⟩
  obtain ⟨createdAt', created_eq'⟩ := timestampOr_anytime createdNow' created_eq
  exact ⟨_, bind_eq_ok.2 ⟨status, status_eq, bind_eq_ok.2 ⟨filled, filled_eq,
    bind_eq_ok.2 ⟨average, average_eq, bind_eq_ok.2 ⟨createdAt', created_eq',
      bind_eq_ok.2 ⟨filledQuantity, quantity_eq, bind_eq_ok.2 ⟨averageFillPrice, price_eq, rfl⟩⟩⟩⟩⟩⟩, rfl, rfl⟩

/-- A payload is read as an order of status `UNKNOWN`, whatever the clock says. -/
theorem orderFields_unknown_iff {createdNow now : Timestamp} :
    (∃ order, orderFields lib raw providerId request createdNow now = .ok order ∧
        order.status = .unknown) ↔
      statusText raw = "unknown_order_status" ∧
        ∃ order, orderFields lib raw providerId request epoch epoch = .ok order := by
  constructor
  · rintro ⟨order, read, unknown⟩
    obtain ⟨status, _, anytime⟩ := orderFields_ok read
    obtain ⟨again, read', _⟩ := anytime epoch epoch
    rw [unknown] at status
    exact ⟨orderStatus_unknown_iff.1 status, again, read'⟩
  · rintro ⟨text, order, read⟩
    obtain ⟨order', read', _⟩ := (orderFields_ok read).2.2 createdNow now
    refine ⟨order', read', ?_⟩
    have status := (orderFields_ok read').1
    rw [orderStatus_unknown_iff.2 text] at status
    exact (Except.ok.inj status).symm

end Reading

section Lookups

variable {lib : Library} {key : String} {m : BrokerMoment}

theorem orderFromPayload_aside (payload : Json) (request : Option OrderRequest)
    (clientOrderId : Option String) :
    Issues Aside (orderFromPayload lib payload request clientOrderId) := by
  refine inside_aside (issues_bind load_inside fun cache => issues_bind (reads_issues _) fun request' => ?_)
  refine issues_bind (modify_inside _) fun _ => issues_bind utcNow_inside fun createdNow => ?_
  exact issues_bind utcNow_inside fun now => reads_issues _

theorem orderFromPayload_read (payload : Json) :
    wp brokerLogic
      (fun result _ => (∃ order, result = .ok order ∧ order.status = .unknown) ↔
        ReadUnknown lib key m.world payload)
      (orderFromPayload lib payload (m.world.requests.get? key) (some key)) m := by
  refine wp_bind.2 (wp_served ?_)
  rintro _ _ ⟨rfl, rfl⟩ _
  refine wp_bind.2 ?_
  let raw := unwrap payload ["order", "success_response"]
  let clientId := clientIdOf raw (some key) (m.world.requests.get? key)
  cases known : requestFor lib raw clientId
      ((m.world.requests.get? key).or (m.world.requests.get? clientId)) with
  | error exc =>
      have raised : ¬∃ order, readOrder lib key m.world payload = .ok order := by
        rintro ⟨order, read⟩
        obtain ⟨request, here, _⟩ := bind_eq_ok.1 read
        rw [known] at here
        cases here
      exact iff_of_false (fun ⟨_, never, _⟩ => nomatch never) fun unknown => raised unknown.2
  | ok request =>
      refine wp_bind.2 (wp_mono (modify_ok _ _) ?_)
      rintro _ m₁ rfl
      refine wp_bind.2 (wp_served ?_)
      rintro _ _ ⟨⟨createdNow, rfl⟩, _⟩ _
      refine wp_bind.2 (wp_served ?_)
      rintro _ _ ⟨⟨now, rfl⟩, _⟩ _
      have epochs : readOrder lib key m.world payload =
          orderFields lib raw (providerIdOf raw clientId) request epoch epoch := by
        show (requestFor lib raw clientId _).bind _ = _
        rw [known]
        rfl
      refine wp_mono reads_read fun result _ read => read.trans ?_
      rw [ReadUnknown, epochs]
      exact orderFields_unknown_iff

theorem recordIn_withCursor {params : Params} (narrowed : params ≠ []) (cursor : String) (payload : Json) :
    recordIn key (withCursor params cursor) payload = (rows payload "orders").find? (carries key) := by
  cases given : withCursor params cursor with
  | nil =>
      unfold withCursor at given
      split at given
      · exact absurd given narrowed
      · simp at given
  | cons _ _ => rfl

/-- The search reports the first row that carries the id, of the first page that has one. -/
theorem searchPages_reports {params : Params} (narrowed : params ≠ []) (pagesLeft : Nat)
    (cursor : String) (clear : Clear (lookups lib key) m) :
    wp brokerLogic (Reports (lookups lib key)) (searchPages params key pagesLeft cursor) m := by
  induction pagesLeft generalizing cursor m with
  | zero => exact clear
  | succ left ih =>
      have listed : ∀ payload, recordIn key (withCursor params cursor) payload =
          (rows payload "orders").find? (carries key) := recordIn_withCursor narrowed cursor
      have other : ¬(lookups lib key).creates
          (.get "/orders/historical/batch" (withCursor params cursor)) := fun ⟨_, never⟩ => nomatch never
      refine wp_bind.2 (wp_served fun reply after _ _ => ?_)
      match reply with
      | .error error => exact clear.asks rfl other
      | .ok payload =>
          dsimp only [andThen]
          cases found : (rows payload "orders").find? (carries key) with
          | some row => exact clear.found ((listed payload).trans found) other
          | none =>
              have clear' : Clear (lookups lib key) (m.push (S := venueEffects Cache Request)
                  (.request (.get "/orders/historical/batch" (withCursor params cursor))) (.ok payload)
                  after) := clear.asks ((listed payload).trans found) other
              refine wp_bind.2 (wp_mono (asides_clear (reads_issues _) clear') ?_)
              rintro (error | next) m₁ clear₁
              · exact clear₁
              show wp _ _ (if next = "" then
                if payload.isMapping && (payload.get "has_next").is true then _ else pure none
                else searchPages params key left next) m₁
              split
              · split
                · exact clear₁
                · exact clear₁
              · exact ih next clear₁

theorem searchParams_ne_nil (request : Option OrderRequest) (saved : Option Order) :
    searchParams lib request saved ≠ [] := by
  simp [searchParams]

theorem savedOrder_aside (clientOrderId : String) : Issues Aside (savedOrder clientOrderId) := by
  refine issues_bind (issues_attempt (issues_call fun _ never => nomatch never)) fun saved => ?_
  cases saved <;> trivial

theorem find_reports (clear : Clear (lookups lib key) m) :
    wp brokerLogic (Reports (lookups lib key)) (findByClientOrderId lib key) m := by
  refine wp_bind.2 (wp_mono (asides_clear (savedOrder_aside key) clear) ?_)
  rintro (error | saved) m₁ clear₁
  · exact clear₁
  refine wp_bind.2 (wp_mono (asides_clear load_aside clear₁) ?_)
  rintro (error | cache) m₂ clear₂
  · exact clear₂
  · exact searchPages_reports (searchParams_ne_nil _ _) _ _ clear₂

theorem venueRecord_reports (providerId : Option String) (clear : Clear (lookups lib key) m) :
    wp brokerLogic (Reports (lookups lib key)) (venueRecord lib key providerId) m := by
  cases providerId with
  | none => exact find_reports clear
  | some providerId =>
      have other : ¬(lookups lib key).creates (.get s!"/orders/historical/{providerId}" []) :=
        fun ⟨_, never⟩ => nomatch never
      refine wp_bind.2 (wp_attempt.2 (wp_served fun reply after _ _ => ?_))
      match reply with
      | .error error =>
          have clear' : Clear (lookups lib key) (m.push (S := venueEffects Cache Request)
              (.request (.get s!"/orders/historical/{providerId}" [])) (.error error) after) :=
            clear.asks rfl other
          show wp _ _ (if error.exc.kind = .providerHttp ∧ error.exc.statusCode = some 404 then
            pure none else .raise error) _
          split
          · exact clear'
          · exact clear'
      | .ok payload =>
          show Reports _ (.ok (recordOf payload)) _
          cases recorded : recordOf payload with
          | none => exact clear.asks recorded other
          | some raw => exact clear.found recorded other

theorem lookUp_looksUp (clear : Clear (lookups lib key) m) :
    wp brokerLogic (LooksUp (lookups lib key)) (lookUp lib key) m := by
  refine wp_bind.2 (wp_mono (asides_clear load_aside clear) ?_)
  rintro (error | cache) m₁ clear₁
  · exact clear₁.looksUp _
  refine wp_bind.2 (wp_mono (venueRecord_reports _ clear₁) ?_)
  rintro (error | _ | raw) m₂ reported
  · exact Clear.looksUp reported _
  · exact Clear.looksUp reported _
  have found : Found (lookups lib key) raw m₂ := reported
  refine wp_bind.2 (wp_mono found.load ?_)
  rintro _ m₃ ⟨rfl, same, found₃⟩
  refine found₃.looksUp (orderFromPayload_aside _ _ _) ?_
  rw [← same]
  exact orderFromPayload_read raw

/-! ## Coinbase: sending -/

theorem get_noCreate (path : String) (params : Params) :
    Issues (NoCreate (lookups lib key)) (get path params) :=
  issues_call fun request same creates => by
    cases same
    obtain ⟨_, never⟩ := creates
    cases never

theorem searchPages_noCreate (params : Params) (clientOrderId : String) (pagesLeft : Nat) (cursor : String) :
    Issues (NoCreate (lookups lib key)) (searchPages params clientOrderId pagesLeft cursor) := by
  induction pagesLeft generalizing cursor with
  | zero => trivial
  | succ left ih =>
      refine issues_bind (get_noCreate _ _) fun payload => ?_
      split
      · trivial
      · refine issues_bind (aside_noCreate (reads_issues _)) fun next => ?_
        split
        · split <;> trivial
        · exact ih next

theorem venueRecord_noCreate (clientOrderId : String) (providerId : Option String) :
    Issues (NoCreate (lookups lib key)) (venueRecord lib clientOrderId providerId) := by
  cases providerId with
  | none =>
      refine issues_bind (aside_noCreate (savedOrder_aside _)) fun saved => ?_
      exact issues_bind (aside_noCreate load_aside) fun cache => searchPages_noCreate _ _ _ _
  | some providerId =>
      refine issues_bind (issues_attempt (get_noCreate _ _)) fun answer => ?_
      cases answer with
      | ok payload => trivial
      | error error =>
          dsimp only
          split <;> trivial

theorem getOrder_noCreate (clientOrderId : String) :
    Issues (NoCreate (lookups lib key)) (getOrder lib clientOrderId) := by
  refine issues_bind (aside_noCreate load_aside) fun cache => ?_
  split
  · trivial
  refine issues_bind (aside_noCreate load_aside) fun cache => ?_
  refine issues_bind (venueRecord_noCreate _ _) fun found => ?_
  cases found with
  | none => trivial
  | some raw =>
      refine issues_bind (aside_noCreate load_aside) fun cache => ?_
      refine issues_bind (aside_noCreate (orderFromPayload_aside _ _ _)) fun order => ?_
      exact issues_bind (aside_noCreate (modify_aside _)) fun _ => trivial

theorem reject_noCreate (clientOrderId : String) (unknown : Order) (message : String) :
    Issues (NoCreate (lookups lib key)) (reject clientOrderId unknown message) :=
  issues_bind (aside_noCreate (modify_aside _)) fun _ => trivial

theorem acknowledged_noCreate (request : OrderRequest) (unknown : Order) (payload : Json) :
    Issues (NoCreate (lookups lib key)) (acknowledged lib request unknown payload) := by
  unfold acknowledged
  dsimp only
  split
  · trivial
  split
  · exact reject_noCreate _ _ _
  refine issues_bind (aside_noCreate (orderFromPayload_aside _ _ _)) fun order => ?_
  refine issues_bind (aside_noCreate (modify_aside _)) fun _ => ?_
  refine issues_bind (issues_attempt (getOrder_noCreate _)) fun refreshed => ?_
  cases refreshed with
  | ok refreshed => trivial
  | error error =>
      dsimp only
      split <;> trivial

theorem create_agrees (request : OrderRequest) (ready : Ready (lookups lib key) m) :
    wp brokerLogic (fun _ => Agrees (lookups lib key)) (create lib request) m := by
  refine wp_bind.2 (wp_mono (wp_conj (asides_ready (modify_aside _) ready) (modify_ok _ _)) ?_)
  rintro _ m₁ ⟨ready₁, rfl⟩
  refine wp_bind.2 (wp_mono (wp_conj (asides_ready utcNow_aside ready₁) utcNow_ok) ?_)
  rintro _ m₂ ⟨ready₂, createdAt, rfl⟩
  refine wp_bind.2 (wp_mono (wp_conj (asides_ready utcNow_aside ready₂) utcNow_ok) ?_)
  rintro _ m₃ ⟨ready₃, updatedAt, rfl⟩
  refine ready₃.sends ⟨_, rfl⟩ ?_ fun answer => ?_
  · rintro ⟨op, reply, before, after⟩ rfl
    rfl
  cases answer with
  | ok payload => exact acknowledged_noCreate _ _ _
  | error error =>
      dsimp only
      split
      · exact issues_bind (aside_noCreate (modify_aside _)) fun _ => trivial
      split
      · exact reject_noCreate _ _ _
      · trivial

theorem submitOrder_agrees (request : OrderRequest) (approval : RiskApproval)
    (clear : Clear (lookups lib request.clientOrderId.str) m) :
    wp brokerLogic (fun _ => Agrees (lookups lib request.clientOrderId.str))
      (submitOrder lib request approval) m :=
  submit_agrees Cache.orders request approval
    (fun _ clear' => settledOr_looksUp Cache.orders _ (fun _ clear'' => lookUp_looksUp clear'') clear')
    (fun _ ready => create_agrees request ready) clear

end Lookups

end Coinbase

/-! ## Gemini -/

namespace Gemini

abbrev BrokerEvent := VenueEvent Cache Request

abbrev BrokerMoment := VenueMoment Cache Request

abbrev brokerLogic : Logic (venueEffects Cache Request) VenueError BrokerMoment := venueLogic Cache Request

/-- The record of an order in a lookup's answer. -/
def recordIn (clientOrderId : String) : Json → Option Json
  | .list rows => (rows.find? (carries clientOrderId)).filter Json.truthy
  | payload => if payload.truthy then some payload else none

def record (clientOrderId : String) : BrokerEvent → Option Json
  | ⟨.request (.orderStatus _), .ok payload, _, _⟩ => recordIn clientOrderId payload
  | _ => none

/-- No record is read as `UNKNOWN`. -/
def lookups (clientOrderId : String) : Lookups Cache Request where
  creates request := ∃ body, request = .newOrder body
  record := record clientOrderId
  unknown _ _ := False
  asked e raw recorded := by
    obtain ⟨op, reply, before, after⟩ := e
    cases op with
    | request request => exact ⟨request, rfl⟩
    | _ => cases recorded

section Lookups

variable {lib : Library} {collar : Decimal} {key : String} {m : BrokerMoment}

theorem orderStatus_known (raw : Json) (requested : Decimal) : orderStatus raw requested ≠ .ok .unknown := by
  unfold orderStatus
  split
  · refine map_known fun executed => ?_
    split_ifs <;> exact fun never => nomatch never
  split
  · exact fun never => nomatch never
  · refine map_known fun filled => ?_
    split_ifs <;> exact fun never => nomatch never

section Reading

variable {raw : Json} {providerId : String} {request : OrderRequest}

/-- What is read of an order, apart from its times, does not depend on the clock. -/
theorem orderFields_ok {createdNow now : Timestamp} {order : Order}
    (read : orderFields lib raw providerId request createdNow now = .ok order) :
    orderStatus raw request.quantity = .ok order.status ∧
      decimalOr 0 (raw.get "executed_amount") = .ok order.filledQuantity.1 ∧
      ∀ createdNow' now', ∃ again, orderFields lib raw providerId request createdNow' now' = .ok again ∧
        again.status = order.status ∧ again.filledQuantity = order.filledQuantity := by
  obtain ⟨status, status_eq, read⟩ := bind_eq_ok.1 read
  obtain ⟨filled, filled_eq, read⟩ := bind_eq_ok.1 read
  obtain ⟨average, average_eq, read⟩ := bind_eq_ok.1 read
  obtain ⟨createdAt, created_eq, read⟩ := bind_eq_ok.1 read
  obtain ⟨filledQuantity, quantity_eq, read⟩ := bind_eq_ok.1 read
  obtain ⟨averageFillPrice, price_eq, read⟩ := bind_eq_ok.1 read
  rw [← Except.ok.inj read]
  refine ⟨status_eq, (nonNegative_ok quantity_eq).symm ▸ filled_eq, fun createdNow' now' => ?_⟩
  obtain ⟨createdAt', created_eq'⟩ := timestampOr_anytime createdNow' created_eq
  exact ⟨_, bind_eq_ok.2 ⟨status, status_eq, bind_eq_ok.2 ⟨filled, filled_eq,
    bind_eq_ok.2 ⟨average, average_eq, bind_eq_ok.2 ⟨createdAt', created_eq',
      bind_eq_ok.2 ⟨filledQuantity, quantity_eq, bind_eq_ok.2 ⟨averageFillPrice, price_eq, rfl⟩⟩⟩⟩⟩⟩, rfl, rfl⟩

theorem orderFields_known {createdNow now : Timestamp} {order : Order}
    (read : orderFields lib raw providerId request createdNow now = .ok order) : order.status ≠ .unknown := by
  intro unknown
  exact orderStatus_known raw _ (unknown ▸ (orderFields_ok read).1)

end Reading

theorem orderFromPayload_inside (payload : Json) (request : Option OrderRequest)
    (clientOrderId : Option String) :
    Issues Inside (orderFromPayload lib payload request clientOrderId) := by
  refine issues_bind (reads_issues _) fun raw => ?_
  refine issues_bind load_inside fun cache => issues_bind (reads_issues _) fun request' => ?_
  refine issues_bind (modify_inside _) fun _ => ?_
  have times : Issues Inside (do
      let createdNow ← utcNow
      let now ← utcNow
      reads (orderFields lib raw (providerIdOf raw (clientIdOf raw clientOrderId request)) request'
        createdNow now) : Broker Order) :=
    issues_bind utcNow_inside fun _ => issues_bind utcNow_inside fun _ => reads_issues _
  dsimp only
  split
  · refine issues_bind (reads_issues _) fun trades => issues_bind (modify_inside _) fun _ => times
  · exact times

theorem orderFromPayload_aside (payload : Json) (request : Option OrderRequest)
    (clientOrderId : Option String) :
    Issues Aside (orderFromPayload lib payload request clientOrderId) :=
  inside_aside (orderFromPayload_inside payload request clientOrderId)

theorem orderFromPayload_known (payload : Json) (request : Option OrderRequest)
    (clientOrderId : Option String) :
    wp brokerLogic (fun result _ => ∀ order, result = .ok order → order.status ≠ .unknown)
      (orderFromPayload lib payload request clientOrderId) m := by
  have raised : ∀ error : VenueError, ∀ order : Order, Except.error error = .ok order →
      order.status ≠ .unknown := fun _ _ never => nomatch never
  refine wp_last raised (fun raw m => wp_last raised (fun cache m => wp_last raised
    (fun request' m => wp_last raised (fun _ m => ?_) m) m) m) m
  have times : ∀ m, wp brokerLogic (fun result _ => ∀ order, result = .ok order → order.status ≠ .unknown)
      (do
        let createdNow ← utcNow
        let now ← utcNow
        reads (orderFields lib raw (providerIdOf raw (clientIdOf raw clientOrderId request)) request'
          createdNow now) : Broker Order) m := by
    refine wp_last raised fun createdNow m => wp_last raised (fun now m => ?_) m
    cases read : orderFields lib raw (providerIdOf raw (clientIdOf raw clientOrderId request)) request'
        createdNow now with
    | error exc => exact fun _ never => nomatch never
    | ok order =>
        intro order' same
        cases same
        exact orderFields_known read
  dsimp only
  split
  · exact wp_last raised (fun trades m => wp_last raised (fun _ m => times m) m) m
  · exact times m

/-- The row the adapter takes is the first one that carries the id. -/
theorem venueRecord_none {payload : Json} (nothing : venueRecord payload key = .ok none) :
    recordIn key payload = none := by
  cases payload with
  | list rows =>
      unfold venueRecord onlyOrderFor at nothing
      dsimp only at nothing
      split at nothing
      · cases nothing
      · show (rows.find? (carries key)).filter Json.truthy = none
        rw [← List.head?_filter]
        exact Except.ok.inj nothing
  | _ => exact Except.ok.inj nothing

theorem Ready.settled (ready : Ready (lookups key) m) : Settled (lookups key) m :=
  settled_of_never (fun _ _ => id) ready.created

section Asked

variable {query : StatusQuery} {answer : Except VenueError Json} {after : Cache}

theorem asked_error (clear : Clear (lookups key) m) (error : VenueError) : Clear (lookups key)
    (m.push (S := venueEffects Cache Request) (.request (.orderStatus query)) (.error error) after) :=
  clear.asks rfl fun ⟨_, never⟩ => nomatch never

theorem asked_none {payload : Json} (clear : Clear (lookups key) m) (nothing : recordIn key payload = none) :
    Clear (lookups key)
      (m.push (S := venueEffects Cache Request) (.request (.orderStatus query)) (.ok payload) after) :=
  clear.asks nothing fun ⟨_, never⟩ => nomatch never

theorem asked_settled (clear : Clear (lookups key) m) : Settled (lookups key)
    (m.push (S := venueEffects Cache Request) (.request (.orderStatus query)) answer after) := by
  refine settled_of_never (fun _ _ => id) (List.forall_mem_cons.2 ⟨?_, clear.created⟩)
  rintro ⟨request, same, _, creates⟩
  cases same
  cases creates

end Asked

theorem Settled.looksUp {result : Except VenueError (Option Order)} (settled : Settled (lookups key) m)
    (ends : ¬GoesOn result) : LooksUp (lookups key) result m :=
  ⟨fun goesOn => absurd goesOn ends, fun _ => settled⟩

theorem not_goesOn_error (error : VenueError) : ¬GoesOn (.error error) := by
  rintro (never | ⟨_, never, _⟩) <;> cases never

theorem lookUp_looksUp (clear : Clear (lookups key) m) :
    wp brokerLogic (LooksUp (lookups key)) (lookUp lib key) m := by
  refine wp_bind.2 (wp_mono (asides_clear load_aside clear) ?_)
  rintro (error | cache) m₁ clear₁
  · exact clear₁.looksUp _
  refine wp_bind.2 (wp_attempt.2 (wp_served fun reply after _ _ => ?_))
  match reply with
  | .error error =>
      show wp _ _ (if error.exc.kind = .providerHttp ∧ error.exc.statusCode = some 404 then
        pure none else .raise error) _
      split
      · exact (asked_error clear₁ error).looksUp _
      · exact (asked_error clear₁ error).looksUp _
  | .ok payload =>
      refine wp_bind.2 ?_
      cases recorded : venueRecord payload key with
      | error exc => exact Settled.looksUp (asked_settled clear₁) (not_goesOn_error _)
      | ok found =>
          cases found with
          | none => exact (asked_none clear₁ (venueRecord_none recorded)).looksUp _
          | some raw =>
              refine wp_bind.2 (wp_mono (wp_conj
                (asides_settled (orderFromPayload_aside _ _ _) (asked_settled clear₁))
                (orderFromPayload_known raw _ _)) ?_)
              rintro (error | order) m₂ ⟨settled₂, known⟩
              · exact Settled.looksUp settled₂ (not_goesOn_error _)
              refine wp_bind.2 (wp_mono (asides_settled (modify_aside _) settled₂) ?_)
              rintro (error | _) m₃ settled₃
              · exact Settled.looksUp settled₃ (not_goesOn_error _)
              refine Settled.looksUp settled₃ ?_
              rintro (never | ⟨_, same, unknown⟩)
              · cases never
              · cases same
                exact known order rfl unknown

/-! ## Gemini: sending -/

theorem acknowledged_noCreate (request : OrderRequest) (unknown : Order) (payload : Json) :
    Issues (NoCreate (lookups key)) (acknowledged lib request unknown payload) := by
  refine aside_noCreate ?_
  unfold acknowledged
  dsimp only
  split
  · exact issues_bind (modify_aside _) fun _ => trivial
  refine issues_bind (orderFromPayload_aside _ _ _) fun order => ?_
  exact issues_bind (modify_aside _) fun _ => trivial

theorem marketCap_aside (request : OrderRequest) (unknown : Order) :
    Issues Aside (marketCap collar request unknown) := by
  refine issues_bind (issues_attempt (issues_call fun _ never => nomatch never)) fun quoted => ?_
  cases quoted with
  | error error => exact issues_bind (modify_aside _) fun _ => trivial
  | ok quote =>
      have capped : ∀ cap : Decimal, Issues Aside (if cap ≤ 0 then
          reject request.clientOrderId.str unknown "the quote cannot price a capped order"
          else pure cap : Broker Decimal) := by
        intro cap
        split
        · exact issues_bind (modify_aside _) fun _ => trivial
        · trivial
      exact capped _

theorem send_agrees (request : OrderRequest) (unknown : Order) (price : Option Decimal)
    (ready : Ready (lookups key) m) :
    wp brokerLogic (fun _ => Agrees (lookups key))
      (do
        match ← (post (.newOrder (newOrder request price))).attempt with
        | .error error =>
            if error.exc.kind = .providerTimeout then do
              keepOrder request.clientOrderId.str unknown
              raises (ambiguousSubmission unknown)
            else if error.exc.kind = .providerHttp ∧
                (error.exc.statusCode.any fun code => code ∈ rejectionStatuses) then
              reject request.clientOrderId.str unknown (refusalText error)
            else .raise error
        | .ok payload => acknowledged lib request unknown payload) m := by
  refine ready.sends ⟨_, rfl⟩ ?_ fun answer => ?_
  · rintro ⟨op, reply, before, after⟩ rfl
    rfl
  cases answer with
  | ok payload => exact acknowledged_noCreate _ _ _
  | error error =>
      dsimp only
      split
      · exact issues_bind (aside_noCreate (modify_aside _)) fun _ => trivial
      split
      · exact issues_bind (aside_noCreate (modify_aside _)) fun _ => trivial
      · trivial

theorem create_agrees (request : OrderRequest) (ready : Ready (lookups key) m) :
    wp brokerLogic (fun _ => Agrees (lookups key)) (create lib collar request) m := by
  refine wp_bind.2 (wp_mono (asides_ready (modify_aside _) ready) ?_)
  rintro (error | _) m₁ ready₁
  · exact (Ready.settled ready₁).agrees
  refine wp_bind.2 (wp_mono (asides_ready utcNow_aside ready₁) ?_)
  rintro (error | createdAt) m₂ ready₂
  · exact (Ready.settled ready₂).agrees
  refine wp_bind.2 (wp_mono (asides_ready utcNow_aside ready₂) ?_)
  rintro (error | updatedAt) m₃ ready₃
  · exact (Ready.settled ready₃).agrees
  dsimp only
  cases request.orderType with
  | limit => exact send_agrees request _ _ ready₃
  | market =>
      refine wp_bind.2 (wp_mono (asides_ready (marketCap_aside _ _) ready₃) ?_)
      rintro (error | cap) m₄ ready₄
      · exact (Ready.settled ready₄).agrees
      · exact send_agrees request _ _ ready₄

theorem submitOrder_agrees (request : OrderRequest) (approval : RiskApproval)
    (clear : Clear (lookups request.clientOrderId.str) m) :
    wp brokerLogic (fun _ => Agrees (lookups request.clientOrderId.str))
      (submitOrder lib collar request approval) m :=
  submit_agrees Cache.orders request approval
    (fun _ clear' => settledOr_looksUp Cache.orders _ (fun _ clear'' => lookUp_looksUp clear'') clear')
    (fun _ ready => create_agrees request ready) clear

end Lookups

end Gemini

/-! ## Both adapters -/

/-- In every run Coinbase creates no order that a lookup returned a record of exactly when no
such record was read as `UNKNOWN`; Gemini creates none in any run. -/
theorem submit_after_record_iff (lib : Library) (collar : Decimal) (request : OrderRequest)
    (approval : RiskApproval) :
    (∀ cache result final,
      (Coinbase.submitOrder lib request approval).Runs (VenueServe Coinbase.Cache Coinbase.Request)
        ⟨cache, []⟩ result final →
      (¬(Coinbase.lookups lib request.clientOrderId.str).CreatesAfterRecord final.events ↔
        ¬(Coinbase.lookups lib request.clientOrderId.str).FindsUnknown final.events)) ∧
    ∀ cache result final,
      (Gemini.submitOrder lib collar request approval).Runs (VenueServe Gemini.Cache Gemini.Request)
        ⟨cache, []⟩ result final →
      ¬(Gemini.lookups request.clientOrderId.str).CreatesAfterRecord final.events := by
  constructor
  · intro cache result final run
    have agrees := plain_run run (fun _ _ => trivial)
      (Coinbase.submitOrder_agrees request approval (clear_start cache))
    exact not_congr agrees
  · intro cache result final run creates
    have agrees := plain_run run (fun _ _ => trivial)
      (Gemini.submitOrder_agrees request approval (clear_start cache))
    exact Lookups.not_findsUnknown (fun _ _ => id) _ (agrees.1 creates)

/-- An order whose submission timed out after the venue had given it an id. -/
def timedOut : Coinbase.Cache where
  requests := Dict.empty.set (marketBuy ⟨1⟩ ⟨2⟩).clientOrderId.str (marketBuy ⟨1⟩ ⟨2⟩)
  orders := Dict.empty.set (marketBuy ⟨1⟩ ⟨2⟩).clientOrderId.str
    (reportOf (marketBuy ⟨1⟩ ⟨2⟩) .unknown ⟨0, decimal_zero⟩)
  providerOrderIds := Dict.empty.set (marketBuy ⟨1⟩ ⟨2⟩).clientOrderId.str "p1"

/-- The venue has the order, and does not say what became of it. -/
def unsaid : Coinbase.Request → Except VenueError Json
  | .get _ _ => .ok (.object [("order_id", .string "p1"), ("status", .string "UNKNOWN_ORDER_STATUS")])
  | _ => .error { exc := .providerHttp 500 "Internal Server Error" }

def createdAgain : Except VenueError Order × Coinbase.BrokerMoment :=
  (Coinbase.submitOrder noDates (marketBuy ⟨1⟩ ⟨2⟩) (approvalOf (marketBuy ⟨1⟩ ⟨2⟩))).play
    (answering unsaid) ⟨timedOut, []⟩

theorem createdAgain_runs :
    (Coinbase.submitOrder noDates (marketBuy ⟨1⟩ ⟨2⟩) (approvalOf (marketBuy ⟨1⟩ ⟨2⟩))).Runs
      (VenueServe Coinbase.Cache Coinbase.Request) ⟨timedOut, []⟩ createdAgain.1 createdAgain.2 :=
  Prog.play_runs (answering_sound _) _ _

instance (lib : Library) (key : String) : DecidablePred (Coinbase.lookups lib key).creates
  | .createOrder body => .isTrue ⟨body, rfl⟩
  | .get _ _ => .isFalse fun ⟨_, never⟩ => nomatch never
  | .batchCancel _ => .isFalse fun ⟨_, never⟩ => nomatch never
  | .editOrder .. => .isFalse fun ⟨_, never⟩ => nomatch never

theorem submit_after_record_iff_createdAgain :
    ¬(Coinbase.lookups noDates (marketBuy ⟨1⟩ ⟨2⟩).clientOrderId.str).CreatesAfterRecord
        createdAgain.2.events ↔
      ¬(Coinbase.lookups noDates (marketBuy ⟨1⟩ ⟨2⟩).clientOrderId.str).FindsUnknown
        createdAgain.2.events :=
  (submit_after_record_iff noDates 0 (marketBuy ⟨1⟩ ⟨2⟩) (approvalOf (marketBuy ⟨1⟩ ⟨2⟩))).1 _ _ _
    createdAgain_runs

/-- A record that is read as `UNKNOWN` does not keep Coinbase from creating the order again. -/
theorem unknown_record_created_again : ∃ cache result final,
    (Coinbase.submitOrder noDates (marketBuy ⟨1⟩ ⟨2⟩) (approvalOf (marketBuy ⟨1⟩ ⟨2⟩))).Runs
      (VenueServe Coinbase.Cache Coinbase.Request) ⟨cache, []⟩ result final ∧
    (Coinbase.lookups noDates (marketBuy ⟨1⟩ ⟨2⟩).clientOrderId.str).CreatesAfterRecord final.events := by
  refine ⟨timedOut, createdAgain.1, createdAgain.2, createdAgain_runs, ?_⟩
  decide +kernel

end AlgoTrader.Brokers
