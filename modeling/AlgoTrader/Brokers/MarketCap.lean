/-
# Brokers.MarketCap -- the price a Gemini market order is capped at

A market request is sent as a limit order, capped a collar past a fresh quote and rounded to
whole cents against the trader.  The rounding does not look at the size of the price: where
the collar is narrower than a cent, it can pass the quote itself.

* `submitOrder_capped` -- in every run, what is sent is capped at `capOf`, and what is not sent
  is refused;
* `capOf_protects_iff` -- such a cap lets the order trade at the quote exactly where some whole
  number of cents lies between the quote and the collar;
* `submitOrder_protects_iff` -- so it is for the orders that are sent.
-/
import AlgoTrader.Brokers.Resubmission

namespace AlgoTrader.Brokers.Gemini

open AlgoTrader.Core AlgoTrader.Process Theory

set_option autoImplicit false

/-- A `market_collar` the adapter is made with. -/
structure MarketCollar where
  value : Decimal
  positive : 0 < value
  belowTenth : value < 1 / 10

/-- The cap of an order, before it is known to be positive. -/
def capOf (collar : Decimal) (side : OrderSide) (quote : Quote) : Decimal :=
  match side with
  | .buy => cents Int.floor (quote.ask * (1 + collar))
  | .sell => cents Int.ceil (quote.bid * (1 - collar))

theorem marketCap_eq (collar : Decimal) (request : OrderRequest) (unknown : Order) :
    marketCap collar request unknown = (do
      match ← (venue (.getQuote request.symbol) : Broker Quote).attempt with
      | .error _ => reject request.clientOrderId.str unknown "no quote to cap the order's price"
      | .ok quote =>
          if capOf collar request.side quote ≤ 0 then
            reject request.clientOrderId.str unknown "the quote cannot price a capped order"
          else return capOf collar request.side quote) := rfl

/-- The cap lets the order trade at the quote, and no further than the collar past it. -/
def Protects (collar : Decimal) (quote : Quote) (cap : Decimal) : OrderSide → Prop
  | .buy => quote.ask ≤ cap ∧ cap ≤ quote.ask * (1 + collar)
  | .sell => quote.bid * (1 - collar) ≤ cap ∧ cap ≤ quote.bid

/-- Some whole number of cents lies between the quote and the collar; or the collar is below
the first cent, and no buy is sent. -/
def Priceable (collar : Decimal) (quote : Quote) : OrderSide → Prop
  | .buy => quote.ask * (1 + collar) < 1 / 100 ∨
      ∃ n : Int, (quote.ask : Decimal) ≤ n / 100 ∧ (n / 100 : Decimal) ≤ quote.ask * (1 + collar)
  | .sell => ∃ n : Int, quote.bid * (1 - collar) ≤ (n / 100 : Decimal) ∧ (n / 100 : Decimal) ≤ quote.bid

/-! ## Rounding -/

section Rounding

variable {price bound : Decimal} {n : Int}

theorem cents_floor_le : cents Int.floor price ≤ price := by
  rw [cents, div_le_iff₀ decimal_hundred]
  exact Int.floor_le _

theorem le_cents_ceil : price ≤ cents Int.ceil price := by
  rw [cents, le_div_iff₀ decimal_hundred]
  exact Int.le_ceil _

/-- Rounded down, a price is still above a bound exactly where some cents lie between them. -/
theorem le_cents_floor_iff :
    bound ≤ cents Int.floor price ↔ ∃ n : Int, bound ≤ n / 100 ∧ (n / 100 : Decimal) ≤ price := by
  constructor
  · intro above
    exact ⟨⌊price * 100⌋, above, cents_floor_le⟩
  · rintro ⟨n, above, below⟩
    rw [div_le_iff₀ decimal_hundred] at below
    refine above.trans ?_
    rw [cents, div_le_div_iff_of_pos_right decimal_hundred]
    exact Int.cast_le.2 (Int.le_floor.2 below)

theorem cents_ceil_le_iff :
    cents Int.ceil price ≤ bound ↔ ∃ n : Int, price ≤ n / 100 ∧ (n / 100 : Decimal) ≤ bound := by
  constructor
  · intro below
    exact ⟨⌈price * 100⌉, le_cents_ceil, below⟩
  · rintro ⟨n, above, below⟩
    rw [le_div_iff₀ decimal_hundred] at above
    refine le_trans ?_ below
    rw [cents, div_le_div_iff_of_pos_right decimal_hundred]
    exact Int.cast_le.2 (Int.ceil_le.2 above)

theorem cents_floor_pos_iff : 0 < cents Int.floor price ↔ 1 / 100 ≤ price := by
  rw [cents, div_pos_iff_of_pos_right decimal_hundred, Int.cast_pos, Int.floor_pos,
    div_le_iff₀ decimal_hundred]

theorem cents_ceil_pos (positive : 0 < price) : 0 < cents Int.ceil price :=
  positive.trans_le le_cents_ceil

end Rounding

section Caps

variable (collar : MarketCollar) (quote : Quote)

/-- A sell has a cap at every quote. -/
theorem sell_cap_pos : 0 < capOf collar.value .sell quote := by
  have below : collar.value < 1 := collar.belowTenth.trans (by norm_num)
  exact cents_ceil_pos (mul_pos quote.bid.2 (sub_pos.2 below))

/-- An order that is given a cap is protected by it exactly where its price can be told from
the quote in cents. -/
theorem capOf_protects_iff (side : OrderSide) :
    (0 < capOf collar.value side quote → Protects collar.value quote (capOf collar.value side quote) side) ↔
      Priceable collar.value quote side := by
  cases side with
  | buy =>
      show (0 < cents Int.floor _ → _ ≤ cents Int.floor _ ∧ cents Int.floor _ ≤ _) ↔ (_ ∨ _)
      rw [cents_floor_pos_iff, and_iff_left cents_floor_le, le_cents_floor_iff, ← not_lt]
      exact imp_iff_not_or.trans (or_congr_left not_not)
  | sell =>
      rw [imp_iff_right (sell_cap_pos collar quote)]
      show (_ ≤ cents Int.ceil _ ∧ cents Int.ceil _ ≤ _) ↔ ∃ n : Int, _
      rw [and_iff_right le_cents_ceil, cents_ceil_le_iff]

/-- A collar at least a cent wide holds a whole number of cents. -/
theorem priceable_of_wide (side : OrderSide)
    (wide : match side with
      | .buy => 1 / 100 ≤ quote.ask * collar.value
      | .sell => 1 / 100 ≤ quote.bid * collar.value) : Priceable collar.value quote side := by
  cases side with
  | buy =>
      refine .inr ⟨⌈(quote.ask : Decimal) * 100⌉, le_cents_ceil, ?_⟩
      have above := Int.ceil_lt_add_one ((quote.ask : Decimal) * 100)
      rw [div_le_iff₀ decimal_hundred]
      dsimp only at wide
      linarith
  | sell =>
      refine ⟨⌊(quote.bid : Decimal) * 100⌋, ?_, cents_floor_le⟩
      have below := Int.lt_floor_add_one ((quote.bid : Decimal) * 100)
      rw [le_div_iff₀ decimal_hundred]
      dsimp only at wide
      linarith

end Caps

/-! ## What is sent -/

/-- Every quote that is asked for is this one. -/
def Quoted (quote : Quote) : BrokerEvent → Prop
  | ⟨.getQuote _, reply, _, _⟩ => reply = .ok quote
  | _ => True

def Sent (body : NewOrder) (events : List BrokerEvent) : Prop :=
  ∃ e ∈ events, e.op = .request (.newOrder body)

def AskedQuote (events : List BrokerEvent) : Prop :=
  ∃ e ∈ events, ∃ symbol, e.op = .getQuote symbol

/-- The submission ends in `ProviderOrderRejectedError`, with the order as rejected. -/
def Refused (result : Except VenueError Order) : Prop :=
  ∃ order message, order.status = .rejected ∧ result = .error { exc := orderRejected order message }

/-- Whatever was sent has this positive cap; where a quote was asked for, something was sent or
the order is refused. -/
def Capped (cap : Decimal) (result : Except VenueError Order) (m : BrokerMoment) : Prop :=
  (∀ body, Sent body m.events → body.price = some cap ∧ 0 < cap) ∧
    (AskedQuote m.events → (∃ body, Sent body m.events) ∨ Refused result)

/-- No request that sends an order or asks for a quote. -/
def Idle (op : VenueOp Cache Request) : Prop :=
  (∀ body, op ≠ .request (.newOrder body)) ∧ ∀ symbol, op ≠ .getQuote symbol

section Idle

theorem inside_idle {α : Type} {p : Broker α} (inside : Issues Inside p) : Issues Idle p :=
  issues_mono inside fun op inside => by
    cases inside <;> exact ⟨fun _ never => (nomatch never), fun _ never => (nomatch never)⟩

variable (lib : Library)

theorem getOrder_idle (clientOrderId : String) : Issues Idle (getOrder lib clientOrderId) := by
  refine issues_bind (inside_idle load_inside) fun cache => ?_
  split
  · trivial
  refine issues_bind (inside_idle load_inside) fun cache => issues_bind (issues_attempt ?_) fun answer => ?_
  · exact issues_call ⟨fun _ never => (nomatch never), fun _ never => (nomatch never)⟩
  cases answer with
  | error error =>
      dsimp only
      split
      · trivial
      · trivial
  | ok payload =>
      refine issues_bind (reads_issues _) fun found => ?_
      cases found with
      | none => trivial
      | some raw =>
          exact issues_bind (inside_idle (orderFromPayload_inside _ _ _)) fun _ =>
            issues_bind (inside_idle (modify_inside _)) fun _ => trivial

end Idle

/-! ## Runs -/

/-- The runs in which every quote that is asked for is this one. -/
abbrev quotedLogic (quote : Quote) : Logic (venueEffects Cache Request) VenueError BrokerMoment :=
  (Contract.plain (VenueServe Cache Request) (Quoted quote)).logic

section Runs

variable {collar : Decimal} {quote : Quote} {request : OrderRequest} {m : BrokerMoment} {lib : Library}

/-- Nothing has been sent, and no quote was asked for. -/
def Fresh (m : BrokerMoment) : Prop := ∀ e ∈ m.events, Idle e.op

theorem Fresh.unsent (fresh : Fresh m) (body : NewOrder) : ¬Sent body m.events :=
  fun ⟨e, member, sent⟩ => (fresh e member).1 body sent

theorem Fresh.capped (fresh : Fresh m) (cap : Decimal) (result : Except VenueError Order) :
    Capped cap result m :=
  ⟨fun body sent => absurd sent (fresh.unsent body),
    fun ⟨e, member, symbol, asked⟩ => absurd asked ((fresh e member).2 symbol)⟩

theorem idle_fresh {α : Type} {p : Broker α} (idle : Issues Idle p) (fresh : Fresh m) :
    wp (quotedLogic quote) (fun _ => Fresh) p m :=
  wp_kept (C := Contract.plain (VenueServe Cache Request) (Quoted quote)) Fresh
    (fun _ _ _ _ => trivial)
    (fun _ _ _ _ idle fresh _ _ => ⟨List.forall_mem_cons.2 ⟨idle, fresh⟩, trivial⟩) idle fresh

theorem sent_cons {body : NewOrder} {e : BrokerEvent} {events : List BrokerEvent} :
    Sent body (e :: events) ↔ e.op = .request (.newOrder body) ∨ Sent body events :=
  List.exists_mem_cons_iff ..

/-- Where nothing was sent, a refusal sends nothing. -/
theorem reject_refused {key message : String} {unknown : Order} {α : Type}
    (unsent : ∀ body, ¬Sent body m.events) :
    wp (quotedLogic quote)
      (fun result m' => (∃ order, order.status = .rejected ∧
          result = .error { exc := orderRejected order message }) ∧ ∀ body, ¬Sent body m'.events)
      (reject key unknown message : Broker α) m := by
  have kept : wp (quotedLogic quote) (fun _ m' => ∀ body, ¬Sent body m'.events)
      (keepOrder key { unknown with status := .rejected }) m := by
    refine wp_kept (C := Contract.plain (VenueServe Cache Request) (Quoted quote))
      (fun m' => ∀ body, ¬Sent body m'.events) (fun _ _ _ _ => trivial) ?_ (inside_idle (modify_inside _)) unsent
    intro op m reply after idle before _ _
    exact ⟨fun body sent => (sent_cons.1 sent).elim (idle.1 body) (before body), trivial⟩
  refine wp_bind.2 (wp_mono (wp_conj (modify_ok _ _) kept) ?_)
  rintro _ m₁ ⟨rfl, kept⟩
  exact ⟨⟨_, rfl, rfl⟩, kept⟩

/-- The quote is asked for, and gives the cap or the refusal; nothing is sent yet. -/
theorem marketCap_capped (unknown : Order) (fresh : Fresh m) :
    wp (quotedLogic quote)
      (fun result m' => (∀ body, ¬Sent body m'.events) ∧
        ((result = .ok (capOf collar request.side quote) ∧ 0 < capOf collar request.side quote) ∨
          ∃ order message, order.status = .rejected ∧
            result = .error { exc := orderRejected order message }))
      (marketCap collar request unknown) m := by
  rw [marketCap_eq]
  refine wp_bind.2 (wp_attempt.2 (wp_served fun reply after _ assumed => ?_))
  obtain rfl : reply = .ok quote := assumed
  have unsent : ∀ body, ¬Sent body (m.push (S := venueEffects Cache Request)
      (.getQuote request.symbol) (.ok quote) after).events :=
    fun body sent => (sent_cons.1 sent).elim (fun never => nomatch never) (fresh.unsent body)
  show wp (quotedLogic quote) _ (if capOf collar request.side quote ≤ 0 then _ else _) _
  split
  · refine wp_mono (reject_refused unsent) ?_
    rintro result m₁ ⟨⟨order, rejected, same⟩, unsent₁⟩
    exact ⟨unsent₁, .inr ⟨order, _, rejected, same⟩⟩
  · rename_i positive
    exact ⟨unsent, .inl ⟨rfl, not_le.1 positive⟩⟩

/-- Something was sent, and everything that was has this cap. -/
def SentAt (cap : Decimal) (m : BrokerMoment) : Prop :=
  (∀ body, Sent body m.events → body.price = some cap ∧ 0 < cap) ∧ ∃ body, Sent body m.events

theorem sentAt_kept {cap : Decimal} {p : Broker Order} (key : String)
    (issues : Issues (NoCreate (lookups key)) p) (sent : SentAt cap m) :
    wp (quotedLogic quote) (Capped cap) p m := by
  refine wp_mono (wp_kept (C := Contract.plain (VenueServe Cache Request) (Quoted quote)) (SentAt cap)
    (fun _ _ _ _ => trivial) ?_ issues sent) fun _ _ kept => ⟨kept.1, fun _ => .inl kept.2⟩
  intro op m reply after other before _ _
  refine ⟨⟨fun body sent => ?_, before.2.imp fun body sent => sent_cons.2 (.inr sent)⟩, trivial⟩
  rcases sent_cons.1 sent with same | earlier
  · exact absurd ⟨body, rfl⟩ (other _ same)
  · exact before.1 body earlier

/-- What is sent keeps its price, whatever comes back. -/
theorem send_capped {cap : Decimal} (unknown : Order) (positive : 0 < cap)
    (unsent : ∀ body, ¬Sent body m.events) :
    wp (quotedLogic quote) (Capped cap)
      (do
        match ← (post (.newOrder (newOrder request (some cap)))).attempt with
        | .error error =>
            if error.exc.kind = .providerTimeout then do
              keepOrder request.clientOrderId.str unknown
              raises (ambiguousSubmission unknown)
            else if error.exc.kind = .providerHttp ∧
                (error.exc.statusCode.any fun code => code ∈ rejectionStatuses) then
              reject request.clientOrderId.str unknown (refusalText error)
            else .raise error
        | .ok payload => acknowledged lib request unknown payload) m := by
  refine wp_bind.2 (wp_attempt.2 (wp_served fun answer after _ _ => ?_))
  have sent : SentAt cap (m.push (S := venueEffects Cache Request)
      (.request (.newOrder (newOrder request (some cap)))) answer after) := by
    refine ⟨fun body sent => ?_, _, sent_cons.2 (.inl rfl)⟩
    rcases sent_cons.1 sent with same | before
    · rw [← Request.newOrder.inj (VenueOp.request.inj same)]
      exact ⟨rfl, positive⟩
    · exact absurd before (unsent body)
  refine sentAt_kept request.clientOrderId.str ?_ sent
  cases answer with
  | ok payload => exact acknowledged_noCreate _ _ _
  | error error =>
      dsimp only
      split
      · exact issues_bind (aside_noCreate (modify_aside _)) fun _ => trivial
      split
      · exact issues_bind (aside_noCreate (modify_aside _)) fun _ => trivial
      · trivial

theorem create_capped (market : request.orderType = .market) (fresh : Fresh m) :
    wp (quotedLogic quote) (Capped (capOf collar request.side quote)) (create lib collar request) m := by
  refine wp_bind.2 (wp_mono (idle_fresh (inside_idle (modify_inside _)) fresh) ?_)
  rintro (error | _) m₁ fresh₁
  · exact fresh₁.capped _ _
  refine wp_bind.2 (wp_mono (idle_fresh (inside_idle utcNow_inside) fresh₁) ?_)
  rintro (error | createdAt) m₂ fresh₂
  · exact fresh₂.capped _ _
  refine wp_bind.2 (wp_mono (idle_fresh (inside_idle utcNow_inside) fresh₂) ?_)
  rintro (error | updatedAt) m₃ fresh₃
  · exact fresh₃.capped _ _
  dsimp only
  cases kind : request.orderType with
  | limit => exact absurd (kind.symm.trans market) (fun never => nomatch never)
  | market =>
      refine wp_bind.2 (wp_mono (marketCap_capped _ fresh₃) ?_)
      rintro _ m₄ ⟨unsent, (⟨rfl, positive⟩ | ⟨order, message, rejected, rfl⟩)⟩
      · exact send_capped _ positive unsent
      · exact ⟨fun body sent => absurd sent (unsent body), fun _ => .inr ⟨order, message, rejected, rfl⟩⟩

theorem submitOrder_capped {approval : RiskApproval} (market : request.orderType = .market)
    (fresh : Fresh m) :
    wp (quotedLogic quote) (Capped (capOf collar request.side quote))
      (submitOrder lib collar request approval) m := by
  refine wp_bind.2 (wp_mono (idle_fresh (reads_issues _) fresh) ?_)
  rintro (error | _) m₁ fresh₁
  · exact fresh₁.capped _ _
  refine wp_bind.2 (wp_mono (idle_fresh (inside_idle load_inside) fresh₁) ?_)
  rintro (error | cache) m₂ fresh₂
  · exact fresh₂.capped _ _
  show wp _ _ _ m₂
  dsimp only
  split
  · exact create_capped market fresh₂
  split
  · exact fresh₂.capped _ _
  refine wp_bind.2 (wp_mono (idle_fresh (getOrder_idle lib _) fresh₂) ?_)
  rintro (error | recovered) m₃ fresh₃
  · exact fresh₃.capped _ _
  show wp _ _ _ m₃
  dsimp only
  split
  · exact fresh₃.capped _ _
  · exact create_capped market fresh₃

end Runs

/-! ## Orders at one quote -/

/-- Whatever was sent is protected by its cap; otherwise, where a quote was asked for, the order
is refused. -/
def Protected (collar : Decimal) (quote : Quote) (side : OrderSide) (result : Except VenueError Order)
    (events : List BrokerEvent) : Prop :=
  (∀ body, Sent body events → ∃ cap, body.price = some cap ∧ Protects collar quote cap side) ∧
    (AskedQuote events → (∃ body, Sent body events) ∨ Refused result)

/-- Every market order on a side that is submitted while this is the quote is protected. -/
def AlwaysProtected (collar : Decimal) (quote : Quote) (side : OrderSide) : Prop :=
  ∀ (lib : Library) (request : OrderRequest) (approval : RiskApproval) (cache : Cache)
    (result : Except VenueError Order) (final : BrokerMoment),
    request.orderType = .market → request.side = side →
    (submitOrder lib collar request approval).Runs (VenueServe Cache Request) ⟨cache, []⟩ result final →
    (∀ e ∈ final.events, Quoted quote e) → Protected collar quote side result final.events

/-- A request for one coin at the market. -/
def marketOrder (side : OrderSide) : OrderRequest := { marketBuy ⟨1⟩ ⟨2⟩ with side }

def serverError : VenueError := { exc := .providerHttp 500 "Internal Server Error" }

/-- A request that is answered so, and the rest of the run. -/
theorem replied {α : Type} (op : VenueOp Cache Request)
    {next : Except VenueError op.Reply → Broker α} {m final : BrokerMoment} {result : Except VenueError α}
    (reply : Except VenueError op.Reply) (after : Cache) (served : VenueServe Cache Request op m.world reply after)
    (rest : (next reply).Runs (VenueServe Cache Request)
      (m.push (S := venueEffects Cache Request) op reply after) result final) :
    Prog.Runs (S := venueEffects Cache Request) (VenueServe Cache Request) (.request op next) m result
      final := .request served rest

/-- The first order of an adapter, at a quote that gives it a cap; the venue fails. -/
theorem marketOrder_sent {collar : Decimal} {quote : Quote} {side : OrderSide}
    (positive : 0 < capOf collar side quote) :
    ∃ result final, (submitOrder noDates collar (marketOrder side) (approvalOf (marketOrder side))).Runs
        (VenueServe Cache Request) ⟨⟨.empty, .empty, .empty, .empty⟩, []⟩ result final ∧
      (∀ e ∈ final.events, Quoted quote e) ∧
      Sent (newOrder (marketOrder side) (some (capOf collar side quote))) final.events := by
  let empty : Cache := ⟨.empty, .empty, .empty, .empty⟩
  let noticed : Cache :=
    ⟨Dict.empty.set (marketOrder side).clientOrderId.str (marketOrder side), .empty, .empty, .empty⟩
  let looked : BrokerMoment := (⟨empty, []⟩ : BrokerMoment).push .load (.ok empty) empty
  let kept : BrokerMoment :=
    (looked.push .load (.ok empty) empty).push (.save noticed) (.ok ()) noticed
  let timed : BrokerMoment := (kept.push .utcNow (.ok epoch) noticed).push .utcNow (.ok epoch) noticed
  let quoted : BrokerMoment := timed.push (.getQuote "BTC-USD") (.ok quote) noticed
  let body := newOrder (marketOrder side) (some (capOf collar side quote))
  let sent : BrokerMoment := quoted.push (.request (.newOrder body)) (.error serverError) noticed
  refine ⟨.error serverError, sent, ?_, ?_, _, List.mem_cons_self, rfl⟩
  · refine replied .load (.ok empty) empty ⟨rfl, rfl⟩ (replied .load (.ok empty) empty ⟨rfl, rfl⟩ ?_)
    refine replied (.save noticed) (.ok ()) noticed ⟨rfl, rfl⟩ ?_
    refine replied .utcNow (.ok epoch) noticed ⟨⟨epoch, rfl⟩, rfl⟩ ?_
    refine replied .utcNow (.ok epoch) noticed ⟨⟨epoch, rfl⟩, rfl⟩ ?_
    refine replied (.getQuote "BTC-USD") (.ok quote) noticed trivial ?_
    show Prog.Runs _ (Prog.bind (if capOf collar side quote ≤ 0 then _ else pure (capOf collar side quote)) _)
      _ _ _
    rw [if_neg (not_le.2 positive)]
    exact replied (.request (.newOrder body)) (.error serverError) noticed trivial (.raise _ _)
  · intro e member
    simp only [sent, quoted, timed, kept, looked, Moment.push_events, List.mem_cons, List.not_mem_nil,
      or_false] at member
    rcases member with rfl | rfl | rfl | rfl | rfl | rfl | rfl
    all_goals first | exact trivial | exact rfl

/-- **The cap and the quote.**  A market order that is submitted at a quote is protected by its
cap, or refused, exactly where some whole number of cents lies between the quote and the
collar, or a buy's collar is below the first cent. -/
theorem submitOrder_protects_iff (collar : MarketCollar) (quote : Quote) (side : OrderSide) :
    AlwaysProtected collar.value quote side ↔ Priceable collar.value quote side := by
  rw [← capOf_protects_iff]
  constructor
  · intro always positive
    obtain ⟨result, final, run, quoted, sent⟩ := marketOrder_sent positive
    obtain ⟨cap, same, protects⟩ := (always _ _ _ _ _ _ rfl rfl run quoted).1 _ sent
    cases same
    exact protects
  · rintro protects lib request approval cache result final market rfl run quoted
    have capped : Capped _ result final :=
      plain_run run quoted (submitOrder_capped market fun _ never => nomatch never)
    refine ⟨fun body sent => ?_, capped.2⟩
    obtain ⟨price, positive⟩ := capped.1 body sent
    exact ⟨_, price, protects positive⟩

theorem decimal_halfCents : (0 : Decimal) < 3 / 200 := by decide +kernel

/-- A coin at one and a half cents. -/
def halfCents : Quote where
  symbol := "BTC-USD"
  bid := ⟨3 / 200, decimal_halfCents⟩
  ask := ⟨3 / 200, decimal_halfCents⟩
  asOf := epoch
  source := "gemini"
  receivedAt := epoch
  askNotBelowBid := le_refl _

theorem decimal_cent : (0 : Decimal) < 1 / 100 := by decide +kernel

theorem cent_belowTenth : (1 / 100 : Decimal) < 1 / 10 := by decide +kernel

/-- `DEFAULT_MARKET_COLLAR`. -/
def defaultCollar : MarketCollar := ⟨1 / 100, decimal_cent, cent_belowTenth⟩

/-- A buy of that coin is sent, capped at one cent. -/
theorem halfCents_unprotected : ¬AlwaysProtected defaultCollar.value halfCents .buy := by
  intro always
  have cap : capOf defaultCollar.value .buy halfCents = 1 / 100 := by decide +kernel
  have positive : 0 < capOf defaultCollar.value .buy halfCents := by
    rw [cap]
    norm_num
  obtain ⟨result, final, run, quoted, sent⟩ := marketOrder_sent positive
  obtain ⟨price, same, above, _⟩ := (always _ _ _ _ _ _ rfl rfl run quoted).1 _ sent
  cases same
  rw [cap] at above
  exact absurd above (by decide +kernel)

end AlgoTrader.Brokers.Gemini
