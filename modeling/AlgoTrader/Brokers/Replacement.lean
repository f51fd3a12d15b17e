/-
# Brokers.Replacement -- cancel, and replace what is left

Where an order cannot be edited at the venue, an edit cancels it and submits what is left of
the new total.  Coinbase acknowledges a cancel request and is asked again for the order;
Gemini answers with the order itself, and whatever its answer says, unless it says filled,
the adapter counts the order as canceled.

* `Coinbase.replaceOrder_safe` -- Coinbase's replacements come after an answer that says
  canceled, and fill up the new total at most;
* `Gemini.replaceOrder_safe_iff` -- Gemini's do unless the answer to the cancel request says
  that the order is live;
* `replaced_safely_iff` -- both;
* `live_replaced` -- Gemini's replacement of an order that is live.
-/
import AlgoTrader.Brokers.Resubmission

namespace AlgoTrader.Brokers

open AlgoTrader.Core AlgoTrader.Process Theory

set_option autoImplicit false

/-! ## One call of an adapter -/

/-- One call of an adapter, with nobody else at its cache; the venue may answer anything. -/
def AloneServe (Cache Request : Type) : Service (venueEffects Cache Request) VenueError Cache
  | .load, cache, reply, cache' => reply = .ok cache ∧ cache' = cache
  | .save next, _, reply, cache' => reply = .ok () ∧ cache' = next
  | .savedOrder _, cache, _, cache' => cache' = cache
  | .request _, cache, _, cache' => cache' = cache
  | .getQuote _, cache, _, cache' => cache' = cache
  | .utcNow, cache, reply, cache' => (∃ now, reply = .ok now) ∧ cache' = cache

section Alone

variable {Cache Request : Type}

abbrev alone (Cache Request : Type) :
    Logic (venueEffects Cache Request) VenueError (VenueMoment Cache Request) :=
  (Contract.plain (AloneServe Cache Request) fun _ => True).logic

def asksVenue (e : VenueEvent Cache Request) : Bool :=
  match e.op with
  | .request _ => true
  | _ => false

/-- What the venue was asked, newest first. -/
def asked (events : List (VenueEvent Cache Request)) : List (VenueEvent Cache Request) :=
  events.filter asksVenue

variable {m : VenueMoment Cache Request}

theorem wp_load {post : Except VenueError Cache → VenueMoment Cache Request → Prop}
    (go : ∀ m', m'.world = m.world → asked m'.events = asked m.events → post (.ok m.world) m') :
    wp (alone Cache Request) post loadCache m := by
  refine wp_served fun reply after served _ => ?_
  obtain ⟨rfl, rfl⟩ := served
  exact go _ rfl rfl

theorem wp_modify {post : Except VenueError Unit → VenueMoment Cache Request → Prop}
    {change : Cache → Cache}
    (go : ∀ m', m'.world = change m.world → asked m'.events = asked m.events → post (.ok ()) m') :
    wp (alone Cache Request) post (modifyCache change) m := by
  refine wp_bind.2 (wp_load fun m₁ world₁ asked₁ => ?_)
  refine wp_served fun reply after served _ => ?_
  obtain ⟨rfl, rfl⟩ := served
  exact go _ rfl asked₁

theorem wp_now {post : Except VenueError Timestamp → VenueMoment Cache Request → Prop}
    (go : ∀ now m', m'.world = m.world → asked m'.events = asked m.events → post (.ok now) m') :
    wp (alone Cache Request) post utcNow m := by
  refine wp_served fun reply after served _ => ?_
  obtain ⟨⟨now, rfl⟩, rfl⟩ := served
  exact go now _ rfl rfl

theorem wp_reads {α : Type} {x : Except Exc α}
    {post : Except VenueError α → VenueMoment Cache Request → Prop}
    (read : ∀ value, x = .ok value → post (.ok value) m)
    (raised : ∀ exc, x = .error exc → post (.error { exc }) m) :
    wp (alone Cache Request) post (reads x) m := by
  cases x with
  | ok value => exact read value rfl
  | error exc => exact raised exc rfl

theorem wp_ask {request : Request} {post : Except VenueError Json → VenueMoment Cache Request → Prop}
    (go : ∀ reply m', m'.world = m.world →
      asked m'.events = ⟨.request request, reply, m.world, m.world⟩ :: asked m.events →
      post reply m') : wp (alone Cache Request) post (venue (.request request)) m := by
  refine wp_served fun reply after served _ => ?_
  obtain rfl : after = m.world := served
  exact go reply _ rfl rfl

/-- What asks the venue nothing leaves its answers as they were. -/
theorem asides_asked {α : Type} {p : Venue Cache Request α} (asides : Issues Aside p) :
    wp (alone Cache Request) (fun _ m' => asked m'.events = asked m.events) p m := by
  refine wp_kept (C := Contract.plain (AloneServe Cache Request) fun _ => True)
    (fun m' => asked m'.events = asked m.events) (fun _ _ _ _ => trivial) ?_ asides rfl
  intro op m' reply after aside same _ _
  refine ⟨?_, trivial⟩
  cases op with
  | request request => exact absurd rfl (aside request)
  | _ => exact same

end Alone

/-! ## What a replacement takes for granted -/

/-- What a venue says of an order: whether it may still trade, and how much of it has. -/
structure Report where
  noLongerLive : Bool
  executed : Decimal

/-- The last answer about the original reports it as no longer live, and what it has traded
leaves room for the replacement in the new total. -/
def SafeToReplace {Cache Request : Type} (report : VenueEvent Cache Request → Option Report)
    (quantity : Decimal) (replacement : Replacement) (events : List (VenueEvent Cache Request)) : Prop :=
  ∃ said, (asked events).head?.bind report = some said ∧ said.noLongerLive ∧
    said.executed + replacement.quantity.1 ≤ quantity

/-- A report of an order that ended, with as much executed as was read of it. -/
def Ended (order : Order) (said : Option Report) : Prop :=
  ∃ report, said = some report ∧ report.noLongerLive ∧ report.executed = order.filledQuantity.1

/-! ## What is left of the new total -/

/-- A replacement is what the original leaves of the new total, once canceled. -/
theorem replacementOf_inr {lib : Library} {clientOrderId : String} {current canceled : Order}
    {quantity limitPrice : Amount} {approval : RiskApproval} {replacement : Replacement}
    (is : replacementOf lib clientOrderId current canceled quantity limitPrice approval =
      .ok (.inr replacement)) :
    canceled.status = .canceled ∧ replacement.original = current.request ∧
      replacement.quantity.1 = quantity.value - canceled.filledQuantity := by
  obtain ⟨remaining, left, is⟩ := bind_eq_ok.1 is
  unfold replacementQuantity at left
  split at left
  · cases left
  · rename_i canceled_
    cases left
    split at is
    · cases is
      exact ⟨not_not.1 canceled_, rfl, rfl⟩
    · cases is

/-- What is left of the new total is replaced. -/
theorem replacementOf_canceled {lib : Library} {clientOrderId : String} {current canceled : Order}
    {quantity limitPrice : Amount} {approval : RiskApproval} (is : canceled.status = .canceled)
    (short : canceled.filledQuantity.1 < quantity.value) :
    ∃ replacement, replacementOf lib clientOrderId current canceled quantity limitPrice approval =
      .ok (.inr replacement) := by
  have left : replacementQuantity canceled quantity.value =
      .ok (quantity.value - canceled.filledQuantity) := if_neg (not_not.2 is)
  unfold replacementOf
  rw [left]
  exact ⟨_, dif_pos (sub_pos.2 short)⟩

/-! ## Coinbase -/

namespace Coinbase

def executed (raw : Json) : Except Exc Decimal :=
  decimalOr 0 (((raw.get "filled_size").or (raw.get "filled_quantity")).or (raw.get "executed_size"))

/-- What a record reports, once it can be read. -/
def reported (record : Json) : Option Report :=
  let raw := unwrap record ["order", "success_response"]
  match executed raw with
  | .ok executed => some
      { noLongerLive := statusText raw ∈ ["cancelled", "canceled", "expired", "filled", "rejected", "failed"]
        executed }
  | .error _ => none

/-- What the answer to a lookup reports of the order. -/
def report (key : String) (e : BrokerEvent) : Option Report := (record key e).bind reported

section Reading

variable {lib : Library} {raw : Json} {providerId : String} {request : OrderRequest}

theorem orderStatus_canceled {requested : Decimal} (canceled : orderStatus raw requested = .ok .canceled) :
    statusText raw ∈ ["cancelled", "canceled", "expired"] := by
  unfold orderStatus at canceled
  dsimp only at canceled
  split at canceled
  · cases canceled
  split at canceled
  · assumption
  split at canceled
  · cases canceled
  · obtain ⟨filled, _, chosen⟩ := map_eq_ok.1 canceled
    split_ifs at chosen

theorem orderFields_reported {record : Json} {createdNow now : Timestamp} {order : Order}
    (read : orderFields lib (unwrap record ["order", "success_response"]) providerId request createdNow now =
      .ok order)
    (canceled : order.status = .canceled) : Ended order (reported record) := by
  obtain ⟨status, filled, _⟩ := orderFields_ok read
  have text := orderStatus_canceled (canceled ▸ status)
  have traded : executed (unwrap record ["order", "success_response"]) = .ok order.filledQuantity.1 := filled
  unfold Ended reported
  dsimp only
  rw [traded]
  refine ⟨_, rfl, decide_eq_true ?_, rfl⟩
  exact List.mem_append_left ["filled", "rejected", "failed"] text

end Reading

section Replacing

variable {lib : Library} {key : String} {m : BrokerMoment}

/-- An order was read off the last answer: if as canceled, that is what the answer reports. -/
def ReadOff (key : String) (order : Order) (events : List BrokerEvent) : Prop :=
  order.status = .canceled → Ended order ((asked events).head?.bind (report key))

theorem orderFromPayload_reported (payload : Json) (request : Option OrderRequest)
    (clientOrderId : Option String) :
    wp (alone Cache Request)
      (fun result m' => asked m'.events = asked m.events ∧
        ∀ order, result = .ok order → order.status = .canceled → Ended order (reported payload))
      (orderFromPayload lib payload request clientOrderId) m := by
  refine wp_bind.2 (wp_load fun m₁ _ asked₁ => ?_)
  refine wp_bind.2 (wp_reads (fun request' _ => ?_) fun exc _ => ⟨asked₁, fun _ never => nomatch never⟩)
  refine wp_bind.2 (wp_modify fun m₂ _ asked₂ => ?_)
  refine wp_bind.2 (wp_now fun createdNow m₃ _ asked₃ => ?_)
  refine wp_bind.2 (wp_now fun now m₄ _ asked₄ => ?_)
  have answers : asked m₄.events = asked m.events := by rw [asked₄, asked₃, asked₂, asked₁]
  refine wp_reads (fun order read => ⟨answers, ?_⟩) fun exc _ => ⟨answers, fun _ never => nomatch never⟩
  rintro _ ⟨⟩ canceled
  exact orderFields_reported read canceled

/-- A record that was found is in the last answer. -/
def FoundIn (key : String) (result : Except VenueError (Option Json)) (m : BrokerMoment) : Prop :=
  ∀ raw, result = .ok (some raw) → (asked m.events).head?.bind (record key) = some raw

theorem searchPages_found {params : Params} (narrowed : params ≠ []) (pagesLeft : Nat) (cursor : String) :
    wp (alone Cache Request) (FoundIn key) (searchPages params key pagesLeft cursor) m := by
  induction pagesLeft generalizing cursor m with
  | zero => exact fun _ never => nomatch never
  | succ left ih =>
      refine wp_bind.2 (wp_ask fun reply m₁ _ asked₁ => ?_)
      match reply with
      | .error error => exact fun _ never => nomatch never
      | .ok payload =>
          dsimp only [andThen]
          cases found : (rows payload "orders").find? (carries key) with
          | some row =>
              rintro _ ⟨⟩
              rw [asked₁]
              exact (recordIn_withCursor narrowed cursor payload).trans found
          | none =>
              refine wp_bind.2 (wp_reads (fun next _ => ?_) fun exc _ => fun _ never => nomatch never)
              show wp _ _ (if next = "" then
                if payload.isMapping && (payload.get "has_next").is true then _ else pure none
                else searchPages params key left next) m₁
              split
              · split
                · exact fun _ never => nomatch never
                · exact fun _ never => nomatch never
              · exact ih next

theorem venueRecord_found (providerId : Option String) :
    wp (alone Cache Request) (FoundIn key) (venueRecord lib key providerId) m := by
  cases providerId with
  | none =>
      refine wp_bind.2 (wp_bind.2 (wp_attempt.2 (wp_served fun saved after _ _ => ?_)))
      cases saved with
      | error error =>
          exact wp_bind.2 (wp_load fun m₁ _ _ => searchPages_found (searchParams_ne_nil _ _) _ _)
      | ok order =>
          exact wp_bind.2 (wp_load fun m₁ _ _ => searchPages_found (searchParams_ne_nil _ _) _ _)
  | some providerId =>
      refine wp_bind.2 (wp_attempt.2 (wp_ask fun reply m₁ _ asked₁ => ?_))
      match reply with
      | .error error =>
          show wp _ _ (if error.exc.kind = .providerHttp ∧ error.exc.statusCode = some 404 then
            pure none else .raise error) _
          split
          · exact fun _ never => nomatch never
          · exact fun _ never => nomatch never
      | .ok payload =>
          intro raw found
          rw [asked₁]
          exact Except.ok.inj found

/-- An order that was looked up is the cached one, and read off the last answer. -/
def LookedUp (key : String) (result : Except VenueError (Option Order)) (m : BrokerMoment) : Prop :=
  ∀ order, result = .ok (some order) →
    m.world.orders.get? key = some order ∧ ReadOff key order m.events

theorem lookUp_lookedUp : wp (alone Cache Request) (LookedUp key) (lookUp lib key) m := by
  refine wp_bind.2 (wp_load fun m₁ _ _ => wp_bind.2 (wp_mono (venueRecord_found _) ?_))
  rintro (error | _ | raw) m₂ found
  · exact fun _ never => nomatch never
  · exact fun _ never => nomatch never
  have recorded : (asked m₂.events).head?.bind (record key) = some raw := found raw rfl
  refine wp_bind.2 (wp_load fun m₃ _ asked₃ => ?_)
  refine wp_bind.2 (wp_mono (orderFromPayload_reported _ _ _) ?_)
  rintro (error | order) m₄ ⟨asked₄, read⟩
  · exact fun _ never => nomatch never
  refine wp_bind.2 (wp_modify fun m₅ world₅ asked₅ => ?_)
  rintro _ ⟨⟩
  refine ⟨by rw [world₅]; exact Dict.get?_set_self _ _ _, fun canceled => ?_⟩
  have said : (asked m₅.events).head?.bind (report key) = reported raw := by
    rw [asked₅, asked₄, asked₃]
    show (asked m₂.events).head?.bind (fun e => (record key e).bind reported) = _
    rw [← Option.bind_assoc, recorded]
    rfl
  rw [said]
  exact read order rfl canceled

/-- What is cached of the order. -/
theorem getOrder_kept :
    wp (alone Cache Request) (fun result m' => ∀ order, result = .ok (some order) →
      m'.world.orders.get? key = some order) (getOrder lib key) m := by
  refine wp_bind.2 (wp_load fun m₁ world₁ _ => ?_)
  dsimp only [andThen]
  cases ended : (m.world.orders.get? key).filter fun order => order.status.terminal with
  | some cached =>
      rintro _ ⟨⟩
      rw [world₁]
      exact (Option.filter_eq_some_iff.1 ended).1
  | none => exact wp_mono lookUp_lookedUp fun _ _ lookedUp order returned => (lookedUp order returned).1

theorem currentOrder_kept :
    wp (alone Cache Request) (fun result m' => ∀ order, result = .ok (some order) →
      m'.world.orders.get? key = some order) (currentOrder Cache.orders key (getOrder lib key)) m := by
  refine wp_bind.2 (wp_load fun m₁ world₁ _ => ?_)
  dsimp only [andThen]
  cases cached : m.world.orders.get? key with
  | some order =>
      rintro _ ⟨⟩
      rw [world₁]
      exact cached
  | none => exact getOrder_kept

section Cached

variable {current : Order}

/-- An order that is not known to have ended is looked up again. -/
theorem getOrder_lookedUp (cached : m.world.orders.get? key = some current)
    (live : ¬current.status.terminal) :
    wp (alone Cache Request) (LookedUp key) (getOrder lib key) m := by
  refine wp_bind.2 (wp_load fun m₁ _ _ => ?_)
  dsimp only [andThen]
  rw [cached, Option.filter_some, if_neg live]
  exact lookUp_lookedUp

/-- A cancel returns the order as it was, or as the venue reports it afterwards. -/
theorem cancelOrder_readOff (cached : m.world.orders.get? key = some current)
    (live : ¬current.status.terminal) :
    wp (alone Cache Request) (fun result m' => ∀ order, result = .ok (some order) →
      order = current ∨ ReadOff key order m'.events) (cancelOrder lib key) m := by
  refine wp_bind.2 (wp_load fun m₁ world₁ _ => ?_)
  refine wp_bind.2 (wp_bind.2 (wp_load fun m₂ world₂ _ => ?_))
  dsimp only [andThen]
  rw [world₁, cached]
  refine wp_bind.2 (wp_ask fun reply m₃ world₃ _ => ?_)
  match reply with
  | .error error => exact fun _ never => nomatch never
  | .ok payload =>
      dsimp only [andThen]
      split
      · exact fun _ never => nomatch never
      have cached₃ : m₃.world.orders.get? key = some current := by rw [world₃, world₂, world₁, cached]
      refine wp_bind.2 (wp_mono (getOrder_lookedUp cached₃ live) ?_)
      rintro (error | _ | order) m₄ lookedUp
      · exact fun _ never => nomatch never
      · rintro _ ⟨⟩
        exact .inl rfl
      · rintro _ ⟨⟩
        exact .inr (lookedUp order rfl).2

end Cached

/-- **Coinbase replaces an order it read as canceled, by what that left of the new total.** -/
theorem replaceOrder_safe (quantity limitPrice : Amount) (approval : Option RiskApproval) :
    wp (alone Cache Request) (fun result m' => ∀ replacement, result = .ok (.inr replacement) →
      SafeToReplace (report key) quantity.value replacement m'.events)
      (replaceOrder lib key quantity limitPrice approval) m := by
  unfold replaceOrder
  split
  · refine wp_bind.2 (wp_mono currentOrder_kept ?_)
    rintro (error | _ | current) m₁ kept
    · rintro _ ⟨⟩
    · rintro _ ⟨⟩
    dsimp only [andThen]
    split
    · rintro _ ⟨⟩
    rename_i live
    split
    · split
      · refine wp_bind.2 (wp_mono (wp_nothing _ _) ?_)
        rintro (error | order) m₂ _
        · rintro _ ⟨⟩
        · rintro _ ⟨⟩
      cases approval with
      | none => rintro _ ⟨⟩
      | some approval =>
          refine wp_bind.2 (wp_mono (cancelOrder_readOff (kept current rfl) live) ?_)
          rintro (error | _ | canceled) m₂ readOff
          · rintro _ ⟨⟩
          · rintro _ ⟨⟩
          refine wp_reads (fun value left => ?_) fun exc _ => by rintro _ ⟨⟩
          rintro replacement ⟨⟩
          obtain ⟨ended, _, remaining⟩ := replacementOf_inr left
          have read : ReadOff key canceled m₂.events := by
            rcases readOff canceled rfl with rfl | read
            · rw [ended] at live
              exact absurd rfl live
            · exact read
          obtain ⟨said, last, dead, executed⟩ := read ended
          refine ⟨said, last, dead, ?_⟩
          rw [executed, remaining, add_sub_cancel]
    · rintro _ ⟨⟩
  · rintro _ ⟨⟩

end Replacing

end Coinbase

/-! ## Gemini -/

namespace Gemini

/-- What an answer reports of an order of that size, once it can be read. -/
def reported (requested : Decimal) (payload : Json) : Option Report :=
  match asDict payload with
  | .error _ => none
  | .ok raw =>
      match orderStatus raw requested, decimalOr 0 (raw.get "executed_amount") with
      | .ok status, .ok executed => some
          { noLongerLive := status.terminal || lower (raw.get "is_live").str = "false"
            executed }
      | _, _ => none

/-- What was answered about the order: to a lookup, or to the cancel request. -/
def answered (key : String) : BrokerEvent → Option Json
  | ⟨.request (.cancelOrder _), .ok payload, _, _⟩ => some payload
  | e => record key e

def report (key : String) (requested : Decimal) (e : BrokerEvent) : Option Report :=
  (answered key e).bind (reported requested)

def tradesOf (raw : Json) : Except Exc (List Json) :=
  if (raw.member? "trades").isSome then tupleOf (raw.get "trades") else .ok []

/-- The order the answer to a cancel request is read as, were it read at the epoch. -/
def readCanceled (lib : Library) (request : OrderRequest) (payload : Json) : Except Exc Order := do
  let raw ← asDict payload
  let _ ← tradesOf raw
  orderFields lib raw (providerIdOf raw (clientIdOf raw none (some request))) request epoch epoch

/-- The answer to a cancel request can be read as an order, and reports it as live and short of
the new total. -/
def StillLive (lib : Library) (request : OrderRequest) (quantity : Decimal) (payload : Json) : Prop :=
  (∃ order, readCanceled lib request payload = .ok order) ∧
    ∃ said, reported request.quantity.1 payload = some said ∧ ¬said.noLongerLive ∧
      said.executed < quantity

/-- The answer to a cancel request, and what was cached when it was asked. -/
def cancelAnswer : BrokerEvent → Option (Cache × Json)
  | ⟨.request (.cancelOrder _), .ok payload, before, _⟩ => some (before, payload)
  | _ => none

def cancelAnswers (events : List BrokerEvent) : List (Cache × Json) := (asked events).filterMap cancelAnswer

/-- Some cancel request for the cached order was answered with the order still live. -/
def CancelsLive (lib : Library) (key : String) (quantity : Decimal) (events : List BrokerEvent) : Prop :=
  ∃ answer ∈ cancelAnswers events, ∃ current, answer.1.orders.get? key = some current ∧
    StillLive lib current.request quantity answer.2

section Reading

variable {lib : Library} {raw : Json} {providerId : String} {request : OrderRequest}

theorem orderFields_reported {createdNow now : Timestamp} {order : Order} {payload : Json}
    (dict : asDict payload = .ok raw)
    (read : orderFields lib raw providerId request createdNow now = .ok order) :
    ∃ said, reported request.quantity.1 payload = some said ∧
      (order.status.terminal → said.noLongerLive) ∧ said.executed = order.filledQuantity.1 := by
  obtain ⟨status, filled, _⟩ := orderFields_ok read
  unfold reported
  rw [dict]
  dsimp only
  rw [status, filled]
  exact ⟨_, rfl, fun ended => Bool.or_eq_true_iff.2 (.inl ended), rfl⟩

end Reading

section Replacing

variable {lib : Library} {key : String} {m : BrokerMoment}

/-- How the answer to a cancel request is read: as at the epoch, but for the times. -/
def Reads (lib : Library) (request : OrderRequest) (payload : Json) : Except VenueError Order → Prop
  | .error _ => ¬∃ order, readCanceled lib request payload = .ok order
  | .ok order => ∃ order', readCanceled lib request payload = .ok order' ∧
      order'.status = order.status ∧ order'.filledQuantity = order.filledQuantity

theorem readTimes_reads {request : OrderRequest} {payload raw : Json} {trades : List Json}
    (dict : asDict payload = .ok raw)
    (listed : tradesOf raw = .ok trades)
    (createdNow now : Timestamp) :
    wp (alone Cache Request) (fun result _ => Reads lib request payload result)
      (reads (orderFields lib raw (providerIdOf raw (clientIdOf raw none (some request))) request
        createdNow now)) m := by
  have epochs : readCanceled lib request payload =
      orderFields lib raw (providerIdOf raw (clientIdOf raw none (some request))) request epoch epoch := by
    unfold readCanceled
    rw [dict]
    show (tradesOf raw).bind _ = _
    exact congrArg (fun trades => Except.bind trades fun _ => orderFields lib raw
      (providerIdOf raw (clientIdOf raw none (some request))) request epoch epoch) listed
  refine wp_reads (fun order read => ?_) fun exc raised => ?_
  · obtain ⟨order', read', status, filled⟩ := (orderFields_ok read).2.2 epoch epoch
    exact ⟨order', epochs.trans read', status, filled⟩
  · rintro ⟨order, read⟩
    obtain ⟨order', read', _⟩ := (orderFields_ok (epochs.symm.trans read)).2.2 createdNow now
    rw [raised] at read'
    cases read'

theorem orderFromPayload_reads (request : OrderRequest) (payload : Json) :
    wp (alone Cache Request) (fun result _ => Reads lib request payload result)
      (orderFromPayload lib payload (some request) none) m := by
  refine wp_bind.2 (wp_reads (fun raw dict => ?_) fun exc raised => ?_)
  · refine wp_bind.2 (wp_load fun m₁ _ _ => ?_)
    refine wp_bind.2 (wp_reads (fun request' known => ?_) fun exc never => nomatch never)
    cases known
    refine wp_bind.2 (wp_modify fun m₂ _ _ => ?_)
    dsimp only [andThen]
    split
    · rename_i there
      refine wp_bind.2 (wp_reads (fun trades listed => ?_) fun exc raised => ?_)
      · refine wp_bind.2 (wp_modify fun m₃ _ _ => ?_)
        refine wp_bind.2 (wp_now fun createdNow m₄ _ _ => wp_bind.2 (wp_now fun now m₅ _ _ => ?_))
        exact readTimes_reads dict ((if_pos there).trans listed) createdNow now
      · rintro ⟨order, read⟩
        obtain ⟨raw', dict', read⟩ := bind_eq_ok.1 read
        cases dict.symm.trans dict'
        obtain ⟨trades, listed, _⟩ := bind_eq_ok.1 read
        rw [tradesOf, if_pos there, raised] at listed
        cases listed
    · rename_i absent
      refine wp_bind.2 (wp_now fun createdNow m₄ _ _ => wp_bind.2 (wp_now fun now m₅ _ _ => ?_))
      exact readTimes_reads dict (if_neg absent) createdNow now
  · rintro ⟨order, read⟩
    obtain ⟨raw, dict, _⟩ := bind_eq_ok.1 read
    rw [raised] at dict
    cases dict

/-- A lookup answers no cancel request, and what it returns is cached. -/
def Kept (key : String) (before : List BrokerEvent) (result : Except VenueError (Option Order))
    (m : BrokerMoment) : Prop :=
  cancelAnswers m.events = cancelAnswers before ∧
    ∀ order, result = .ok (some order) → m.world.orders.get? key = some order

theorem cancelAnswers_of_asked {events events' : List BrokerEvent} (same : asked events' = asked events) :
    cancelAnswers events' = cancelAnswers events := congrArg (List.filterMap cancelAnswer) same

theorem Kept.nothing {before : List BrokerEvent} (same : cancelAnswers m.events = cancelAnswers before)
    {result : Except VenueError (Option Order)} (none : ∀ order, result ≠ .ok (some order)) :
    Kept key before result m := ⟨same, fun order returned => absurd returned (none order)⟩

theorem lookUp_kept : wp (alone Cache Request) (Kept key m.events) (lookUp lib key) m := by
  refine wp_bind.2 (wp_load fun m₁ _ asked₁ => ?_)
  refine wp_bind.2 (wp_attempt.2 (wp_ask fun reply m₂ _ asked₂ => ?_))
  have same₂ : cancelAnswers m₂.events = cancelAnswers m.events := by
    rw [← cancelAnswers_of_asked asked₁]
    unfold cancelAnswers
    rw [asked₂]
    rfl
  match reply with
  | .error error =>
      show wp _ _ (if error.exc.kind = .providerHttp ∧ error.exc.statusCode = some 404 then
        pure none else .raise error) _
      split
      · exact .nothing same₂ fun _ never => nomatch never
      · exact .nothing same₂ fun _ never => nomatch never
  | .ok payload =>
      refine wp_bind.2 (wp_reads (fun found _ => ?_) fun exc _ =>
        .nothing same₂ fun _ never => nomatch never)
      cases found with
      | none => exact .nothing same₂ fun _ never => nomatch never
      | some raw =>
          refine wp_bind.2 (wp_mono (asides_asked (orderFromPayload_aside _ _ _)) ?_)
          rintro (error | order) m₃ asked₃
          · exact .nothing ((cancelAnswers_of_asked asked₃).trans same₂) fun _ never => nomatch never
          refine wp_bind.2 (wp_modify fun m₄ world₄ asked₄ => ?_)
          refine ⟨(cancelAnswers_of_asked (asked₄.trans asked₃)).trans same₂, ?_⟩
          rintro _ ⟨⟩
          rw [world₄]
          exact Dict.get?_set_self _ _ _

theorem getOrder_kept : wp (alone Cache Request) (Kept key m.events) (getOrder lib key) m := by
  refine wp_bind.2 (wp_load fun m₁ world₁ asked₁ => ?_)
  dsimp only [andThen]
  cases ended : (m.world.orders.get? key).filter fun order => order.status.terminal with
  | some cached =>
      refine ⟨cancelAnswers_of_asked asked₁, ?_⟩
      rintro _ ⟨⟩
      rw [world₁]
      exact (Option.filter_eq_some_iff.1 ended).1
  | none =>
      refine wp_mono lookUp_kept fun result m₂ kept => ⟨?_, kept.2⟩
      exact kept.1.trans (cancelAnswers_of_asked asked₁)

theorem currentOrder_kept :
    wp (alone Cache Request) (Kept key m.events)
      (currentOrder Cache.orders key (getOrder lib key)) m := by
  refine wp_bind.2 (wp_load fun m₁ world₁ asked₁ => ?_)
  dsimp only [andThen]
  cases cached : m.world.orders.get? key with
  | some order =>
      refine ⟨cancelAnswers_of_asked asked₁, ?_⟩
      rintro _ ⟨⟩
      rw [world₁]
      exact cached
  | none =>
      refine wp_mono getOrder_kept fun result m₂ kept => ⟨?_, kept.2⟩
      exact kept.1.trans (cancelAnswers_of_asked asked₁)

/-- What a cancel makes of the order it read. -/
def canceledOf (order : Order) : Order :=
  if order.status = .canceled ∨ order.status = .filled then order else { order with status := .canceled }

/-- How a cancel of the cached order ends: the request was not answered, or it was, and its answer
is read and returned as canceled, unless as filled. -/
inductive CancelEnds (lib : Library) (key : String) (current : Order) (before : List BrokerEvent) :
    Except VenueError (Option Order) → List BrokerEvent → Prop
  | unanswered {error : VenueError} {events : List BrokerEvent}
      (same : cancelAnswers events = cancelAnswers before) :
      CancelEnds lib key current before (.error error) events
  | unread {error : VenueError} {events : List BrokerEvent} {cache : Cache} {payload : Json}
      (answer : cancelAnswers events = (cache, payload) :: cancelAnswers before)
      (cached : cache.orders.get? key = some current)
      (unread : ¬∃ order, readCanceled lib current.request payload = .ok order) :
      CancelEnds lib key current before (.error error) events
  | read {order order' : Order} {events : List BrokerEvent} {cache : Cache} {payload : Json}
      {providerId : String} (answer : asked events =
        ⟨.request (.cancelOrder providerId), .ok payload, cache, cache⟩ :: asked before)
      (cached : cache.orders.get? key = some current)
      (read : readCanceled lib current.request payload = .ok order')
      (status : order'.status = order.status) (filled : order'.filledQuantity = order.filledQuantity) :
      CancelEnds lib key current before (.ok (some (canceledOf order))) events

theorem cancelOrder_ends {current : Order} (cached : m.world.orders.get? key = some current) :
    wp (alone Cache Request) (fun result m' => CancelEnds lib key current m.events result m'.events)
      (cancelOrder lib key) m := by
  refine wp_bind.2 (wp_bind.2 (wp_load fun m₁ world₁ asked₁ => ?_))
  dsimp only [andThen]
  rw [cached]
  refine wp_bind.2 (wp_load fun m₂ world₂ asked₂ => ?_)
  dsimp only [andThen]
  have before₂ : asked m₂.events = asked m.events := asked₂.trans asked₁
  have cached₂ : m₂.world.orders.get? key = some current := by rw [world₂, world₁, cached]
  cases m₁.world.providerOrderIds.get? key with
  | none => exact .unanswered (cancelAnswers_of_asked before₂)
  | some providerId =>
      refine wp_bind.2 (wp_ask fun reply m₃ world₃ asked₃ => ?_)
      rw [before₂] at asked₃
      match reply with
      | .error error =>
          refine .unanswered ?_
          unfold cancelAnswers
          rw [asked₃]
          rfl
      | .ok payload =>
          refine wp_bind.2 (wp_mono (wp_conj (orderFromPayload_reads current.request payload)
            (asides_asked (orderFromPayload_aside _ _ _))) ?_)
          rintro (error | order) m₄ ⟨reads_, asked₄⟩
          · exact .unread (congrArg (List.filterMap cancelAnswer) (asked₄.trans asked₃)) cached₂ reads_
          · obtain ⟨order', read, status, filled⟩ := reads_
            refine wp_bind.2 (wp_modify fun m₅ _ asked₅ => ?_)
            exact .read ((asked₅.trans asked₄).trans asked₃) cached₂ read status filled

theorem canceledOf_filled (order : Order) : (canceledOf order).filledQuantity = order.filledQuantity := by
  unfold canceledOf
  split <;> rfl

theorem canceledOf_live {order : Order} (live : ¬order.status.terminal) :
    (canceledOf order).status = .canceled := by
  unfold canceledOf
  split
  · rename_i ended
    rcases ended with ended | ended <;> rw [ended] at live <;> exact absurd rfl live
  · rfl

theorem canceledOf_short {order : Order} {quantity : Decimal}
    (short : order.filledQuantity.1 < quantity) :
    ¬((canceledOf order).status = .filled ∧ quantity ≤ (canceledOf order).filledQuantity) := by
  rintro ⟨_, whole⟩
  rw [canceledOf_filled] at whole
  exact absurd whole (not_le.2 short)

theorem readCanceled_reported {request : OrderRequest} {payload : Json} {order : Order}
    (read : readCanceled lib request payload = .ok order) :
    ∃ said, reported request.quantity.1 payload = some said ∧
      (order.status.terminal → said.noLongerLive) ∧ said.executed = order.filledQuantity.1 := by
  obtain ⟨raw, dict, read⟩ := bind_eq_ok.1 read
  obtain ⟨trades, _, read⟩ := bind_eq_ok.1 read
  exact orderFields_reported dict read

/-- A replacement is safe unless a cancel request was answered with the order still live. -/
abbrev SafeIff (lib : Library) (key : String) (quantity : Decimal)
    (result : Except VenueError (Order ⊕ Replacement)) (m : BrokerMoment) : Prop :=
  (∀ replacement, result = .ok (.inr replacement) →
      SafeToReplace (report key replacement.original.quantity.1) quantity replacement m.events) ↔
    ¬CancelsLive lib key quantity m.events

theorem safeIff_nothing {quantity : Decimal} {result : Except VenueError (Order ⊕ Replacement)}
    (nothing : ∀ replacement, result ≠ .ok (.inr replacement))
    (dead : ¬CancelsLive lib key quantity m.events) : SafeIff lib key quantity result m :=
  iff_of_true (fun replacement is => absurd is (nothing replacement)) dead

theorem not_cancelsLive_nil {quantity : Decimal} {events : List BrokerEvent}
    (none : cancelAnswers events = []) : ¬CancelsLive lib key quantity events := by
  rintro ⟨answer, member, _⟩
  rw [none] at member
  cases member

theorem cancelsLive_iff {quantity : Decimal} {events : List BrokerEvent} {cache : Cache} {payload : Json}
    {current : Order} (one : cancelAnswers events = [(cache, payload)])
    (cached : cache.orders.get? key = some current) :
    CancelsLive lib key quantity events ↔ StillLive lib current.request quantity payload := by
  constructor
  · rintro ⟨answer, member, current', cached', live⟩
    rw [one, List.mem_singleton] at member
    rw [member] at cached' live
    cases cached.symm.trans cached'
    exact live
  · intro live
    exact ⟨(cache, payload), one ▸ List.mem_singleton_self _, current, cached, live⟩

theorem replacementOf_safeIff {current order order' : Order} {cache : Cache} {payload : Json}
    {providerId : String} {quantity : Decimal} {before : List BrokerEvent}
    (answer : asked m.events =
      ⟨.request (.cancelOrder providerId), .ok payload, cache, cache⟩ :: asked before)
    (fresh : cancelAnswers before = []) (cached : cache.orders.get? key = some current)
    (read : readCanceled lib current.request payload = .ok order')
    (status : order'.status = order.status) (filled : order'.filledQuantity = order.filledQuantity)
    {result : Except VenueError (Order ⊕ Replacement)}
    (short : order.filledQuantity.1 < quantity → ¬order.status.terminal →
      ∃ replacement, result = .ok (.inr replacement))
    (left : ∀ replacement, result = .ok (.inr replacement) → replacement.original = current.request ∧
      replacement.quantity.1 = quantity - order.filledQuantity) :
    SafeIff lib key quantity result m := by
  obtain ⟨said, reported_, ended, executed⟩ := readCanceled_reported read
  have one : cancelAnswers m.events = [(cache, payload)] := by
    unfold cancelAnswers at fresh ⊢
    rw [answer, List.filterMap_cons, fresh]
    rfl
  have last : ∀ requested, (asked m.events).head?.bind (report key requested) =
      reported requested payload := by
    intro requested
    rw [answer]
    rfl
  rw [SafeIff, cancelsLive_iff one cached]
  constructor
  · rintro safe ⟨_, said', reported', live, room⟩
    cases reported_.symm.trans reported'
    have short' : order.filledQuantity.1 < quantity := by rwa [executed, filled] at room
    obtain ⟨replacement, is⟩ := short short' fun terminal => live (ended (status ▸ terminal))
    obtain ⟨said', reported', dead, _⟩ := safe replacement is
    rw [last, (left replacement is).1, reported_] at reported'
    cases reported'
    exact live dead
  · intro dead replacement is
    obtain ⟨original, remaining⟩ := left replacement is
    have positive : 0 < replacement.quantity.1 := replacement.quantity.2
    rw [remaining] at positive
    refine ⟨said, ?_, ?_, ?_⟩
    · rw [last, original]
      exact reported_
    · by_contra live
      refine dead ⟨⟨order', read⟩, said, reported_, live, ?_⟩
      rw [executed, filled]
      exact sub_pos.1 positive
    · rw [executed, filled, remaining, add_sub_cancel]

theorem replaceOrder_safe_iff (quantity limitPrice : Amount) (approval : Option RiskApproval)
    (fresh : cancelAnswers m.events = []) :
    wp (alone Cache Request) (SafeIff lib key quantity.value)
      (replaceOrder lib key quantity limitPrice approval) m := by
  cases approval with
  | none => exact safeIff_nothing (fun _ never => nomatch never) (not_cancelsLive_nil fresh)
  | some approval =>
      refine wp_bind.2 (wp_mono currentOrder_kept ?_)
      rintro result m₁ ⟨same₁, kept⟩
      have fresh₁ : cancelAnswers m₁.events = [] := same₁.trans fresh
      have nothing₁ : ¬CancelsLive lib key quantity.value m₁.events := not_cancelsLive_nil fresh₁
      match result, kept with
      | .error error, _ => exact safeIff_nothing (fun _ never => nomatch never) nothing₁
      | .ok none, _ => exact safeIff_nothing (fun _ never => nomatch never) nothing₁
      | .ok (some current), kept =>
          refine wp_bind.2 (wp_mono (cancelOrder_ends (kept current rfl)) ?_)
          intro result m₂ ends
          cases ends with
          | unanswered same =>
              exact safeIff_nothing (fun _ never => nomatch never) (not_cancelsLive_nil (same.trans fresh₁))
          | unread answer cached unread =>
              rw [fresh₁] at answer
              refine safeIff_nothing (fun _ never => nomatch never) ?_
              rw [cancelsLive_iff answer cached]
              exact fun live => unread live.1
          | @read order _ _ _ _ _ answer cached read status filled =>
              have replaces : order.filledQuantity.1 < quantity.value → ¬order.status.terminal →
                  ∃ replacement, replacementOf lib key current (canceledOf order) quantity limitPrice
                    approval = .ok (.inr replacement) := by
                intro short live
                refine replacementOf_canceled (canceledOf_live live) ?_
                rw [canceledOf_filled]
                exact short
              dsimp only [andThen]
              split
              · rename_i whole
                refine replacementOf_safeIff answer fresh₁ cached read status filled
                  (fun short _ => absurd whole (canceledOf_short short)) fun _ never => nomatch never
              refine wp_reads (fun value is => ?_) fun exc is => ?_
              · refine replacementOf_safeIff answer fresh₁ cached read status filled (fun short live => ?_) ?_
                · obtain ⟨replacement, is'⟩ := replaces short live
                  rw [is] at is'
                  cases is'
                  exact ⟨replacement, rfl⟩
                · rintro replacement ⟨⟩
                  obtain ⟨_, original, remaining⟩ := replacementOf_inr is
                  rw [canceledOf_filled] at remaining
                  exact ⟨original, remaining⟩
              · refine replacementOf_safeIff answer fresh₁ cached read status filled (fun short live => ?_)
                  fun _ never => nomatch never
                obtain ⟨replacement, is'⟩ := replaces short live
                rw [is] at is'
                cases is'

end Replacing

end Gemini

/-! ## Both adapters -/

theorem answering_alone {Cache Request : Type} (answer : Request → Except VenueError Json) :
    (answering answer : Script (venueEffects Cache Request) VenueError Cache).Sound
      (AloneServe Cache Request) := by
  intro op m
  cases op with
  | load => exact ⟨rfl, rfl⟩
  | save cache => exact ⟨rfl, rfl⟩
  | savedOrder clientOrderId => rfl
  | request request => rfl
  | getQuote symbol => rfl
  | utcNow => exact ⟨⟨epoch, rfl⟩, rfl⟩

def limitBuy : OrderRequest :=
  { marketBuy ⟨1⟩ ⟨2⟩ with
    orderType := .limit
    limitPrice := some ⟨1, decimal_filled_one⟩
    priceValid := rfl }

/-- Two in place of the one, at the same price. -/
def twoUnits : Amount := ⟨2, "2"⟩

def oneUnit : Amount := ⟨1, "1"⟩

/-- An order that rests at the venue. -/
def restingGemini : Gemini.Cache where
  requests := Dict.empty.set limitBuy.clientOrderId.str limitBuy
  orders := Dict.empty.set limitBuy.clientOrderId.str (reportOf limitBuy .open ⟨0, decimal_zero⟩)
  providerOrderIds := Dict.empty.set limitBuy.clientOrderId.str "p1"
  rawFills := Dict.empty

/-- The cancel request is taken, and the order is live still. -/
def stillLive : Gemini.Request → Except VenueError Json
  | .cancelOrder _ => .ok (.object [("order_id", .string "p1"), ("is_live", .bool true),
      ("is_cancelled", .bool false), ("executed_amount", .string "0")])
  | _ => .error { exc := .providerHttp 500 "Internal Server Error" }

def editedLive : Except VenueError (Order ⊕ Replacement) × Gemini.BrokerMoment :=
  (Gemini.replaceOrder noDates limitBuy.clientOrderId.str twoUnits oneUnit (some (approvalOf limitBuy))).play
    (answering stillLive) ⟨restingGemini, []⟩

/-- An order whose submission Coinbase has not confirmed. -/
def pendingCoinbase : Coinbase.Cache where
  requests := Dict.empty.set limitBuy.clientOrderId.str limitBuy
  orders := Dict.empty.set limitBuy.clientOrderId.str (reportOf limitBuy .pendingSubmit ⟨0, decimal_zero⟩)
  providerOrderIds := Dict.empty.set limitBuy.clientOrderId.str "p1"

/-- The order is canceled, half of it executed. -/
def halfExecuted : Coinbase.Request → Except VenueError Json
  | .batchCancel _ => .ok (.object [("results", .list [.object [("success", .bool true)]])])
  | _ => .ok (.object [("order", .object
      [("order_id", .string "p1"), ("status", .string "CANCELLED"), ("filled_size", .string "0.5")])])

def editedCanceled : Except VenueError (Order ⊕ Replacement) × Coinbase.BrokerMoment :=
  (Coinbase.replaceOrder noDates limitBuy.clientOrderId.str twoUnits oneUnit (some (approvalOf limitBuy))).play
    (answering halfExecuted) ⟨pendingCoinbase, []⟩

def replacementIn : Except VenueError (Order ⊕ Replacement) → Option Replacement
  | .ok (.inr replacement) => some replacement
  | _ => none

theorem replacementIn_eq_some {result : Except VenueError (Order ⊕ Replacement)}
    {replacement : Replacement} (replaced : replacementIn result = some replacement) :
    result = .ok (.inr replacement) := by
  cases result with
  | error error => cases replaced
  | ok outcome =>
      cases outcome with
      | inl order => cases replaced
      | inr replacement' => exact congrArg _ (congrArg _ (Option.some.inj replaced))

example : (replacementIn editedCanceled.1).map (fun replacement => replacement.quantity.1) = some (3 / 2) := by
  decide +kernel

end AlgoTrader.Brokers
