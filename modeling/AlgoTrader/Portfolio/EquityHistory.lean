/-
# Portfolio.EquityHistory -- where the recorded equity comes from

The sampler values the account again and again and keeps two tables: the last known price of each symbol, and
the equity curve.  The venue may answer no quote or a bad one, the database may refuse a write or commit it and
raise all the same, and a sample may be cut short.

The sampler here is a program over its requests; `sample_plays` says that against a broker and a store that
answer once and for all it does what the sampler of `App.Equity` does.

* `wp_freshMark`, `wp_valueAll`, `wp_value` -- what a price, the holdings and the account are valued at;
* `Traced` -- every stored price and every snapshot goes back to bids the venue quoted;
* `sampled_traced` -- after any samples, however they ended;
* `lastPrices_newest` -- a stored price never gives way to an older one.
-/
import AlgoTrader.App.Equity
import AlgoTrader.Theory.Frames
import AlgoTrader.Theory.Lives

namespace AlgoTrader.Portfolio.EquityHistory

open AlgoTrader.Core AlgoTrader.Brokers AlgoTrader.App AlgoTrader.Theory

set_option autoImplicit false

/-! ## The tables -/

/-- A row of the equity curve, with the holdings that were not priced afresh. -/
structure Snapshot where
  snapshotId : Nat
  equity : Option Decimal
  asOf : Timestamp
  isPartial : Bool
  holdings : List ValuedHolding
  deriving DecidableEq

/-- `last_known_prices` and `equity_curve`. -/
structure Tables where
  prices : Dict String LastPrice
  curve : List Snapshot

/-- What the decimal columns give back. -/
abbrev Column := Decimal → Decimal

namespace Tables

variable (column : Column)

/-- `record`: only a newer observation replaces a stored price. -/
def recorded (tables : Tables) (price : LastPrice) : Tables :=
  match tables.prices.get? price.symbol with
  | none => { tables with prices := tables.prices.set price.symbol { price with bid := column price.bid } }
  | some row =>
      if row.observedAt ≤ price.observedAt then
        { tables with prices := tables.prices.set price.symbol { price with bid := column price.bid } }
      else tables

@[simp] theorem recorded_curve (tables : Tables) (price : LastPrice) :
    (tables.recorded column price).curve = tables.curve := by
  unfold recorded
  split
  · rfl
  · split <;> rfl

/-- The row a sample is saved as. -/
def rowOf (id : Nat) (sample : EquitySample) : Snapshot where
  snapshotId := id
  equity := sample.equity.map column
  asOf := sample.asOf
  isPartial := sample.equity.isNone
  holdings := (sample.holdings.filter (·.basis ≠ .fresh)).map fun holding =>
    { holding with quantity := column holding.quantity, price := holding.price.map column }

/-- `save`. -/
def saved (tables : Tables) (sample : EquitySample) : Tables :=
  { tables with curve := tables.curve ++ [rowOf column tables.curve.length sample] }

end Tables

/-! ## The requests -/

inductive Op where
  | getBalances
  | getPositions
  | latest (symbols : List String)
  | clock
  | getQuote (symbol : String)
  | record (price : LastPrice)
  | save (sample : EquitySample)

abbrev Requests : Signature where
  Op := Op
  Reply
    | .getBalances => List Balance
    | .getPositions => List Position
    | .latest _ => Dict String LastPrice
    | .clock => Timestamp
    | .getQuote _ => Quote
    | .record _ => Unit
    | .save _ => Unit

abbrev Sampling (α : Type) := Prog Requests StoreFailure α

abbrev Log := List (Event Requests StoreFailure Tables)

abbrev SampleMoment := Moment Requests StoreFailure Tables

/-- The venue answers anything.  A read of the stored prices is exact; a write that raises may have been made. -/
def serve (column : Column) : Service Requests StoreFailure Tables
  | .getBalances, w, _, after_ => after_ = w
  | .getPositions, w, _, after_ => after_ = w
  | .latest symbols, w, reply, after_ =>
      (reply = .ok (w.prices.filter fun row => decide (row.1 ∈ symbols)) ∨ ∃ error, reply = .error error) ∧ after_ = w
  | .clock, w, reply, after_ => (∃ now, reply = .ok now) ∧ after_ = w
  | .getQuote _, w, _, after_ => after_ = w
  | .record price, w, reply, after_ =>
      after_ = w.recorded column price ∨ ((∃ error, reply = .error error) ∧ after_ = w)
  | .save sample, w, reply, after_ =>
      after_ = w.saved column sample ∨ ((∃ error, reply = .error error) ∧ after_ = w)

def ask (op : Op) : Sampling (Requests.Reply op) := Prog.call (S := Requests) op

/-! ## The sampler -/

/-- `_stored_prices`. -/
def storedPrices (symbols : List String) : Sampling (Dict String LastPrice) := do
  match ← (ask (.latest symbols)).attempt with
  | .ok stored => return stored
  | .error .storage => return .empty
  | .error error => .raise error

/-- `_fresh_mark`. -/
def freshMark (symbol : String) : Sampling (Option Decimal) := do
  match ← (ask (.getQuote symbol)).attempt with
  | .error _ => return none
  | .ok quote =>
      match markFromQuote quote symbol with
      | none => return none
      | some mark =>
          if mark ≤ 0 then return none
          else
            match ← (ask (.record ⟨symbol, mark, quote.asOf, (quote.source.take 64).toString⟩)).attempt with
            | .error (.other exc) => .raise (.other exc)
            | _ => return some mark

/-- What a turn of the loop over the holdings makes of the mark. -/
def settleHolding (stored : Dict String LastPrice) (now : Timestamp) (entry : String × Position) (valuing : Valuing) :
    Option Decimal → Valuing
  | some mark =>
      { valuing with
        exposure := valuing.exposure + positionValue entry.2 mark
        holdings := valuing.holdings ++ [⟨entry.1, entry.2.quantity, .fresh, mark, none, none⟩] }
  | none =>
      match stored.get? entry.1 with
      | some last =>
          let age := max 0 ((now - last.observedAt) / 1000000)
          { valuing with
            exposure := valuing.exposure + positionValue entry.2 last.bid
            holdings := valuing.holdings ++
              [⟨entry.1, entry.2.quantity, .lastKnown, last.bid, last.observedAt, age⟩] }
      | none =>
          { valuing with
            unpriced := true
            holdings := valuing.holdings ++ [⟨entry.1, entry.2.quantity, .unpriced, none, none, none⟩] }

/-- The loop over the holdings. -/
def valueAll (stored : Dict String LastPrice) (now : Timestamp) : List (String × Position) → Valuing → Sampling Valuing
  | [], valuing => return valuing
  | entry :: rest, valuing => do
      let mark ← freshMark entry.1
      valueAll stored now rest (settleHolding stored now entry valuing mark)

/-- `_value`. -/
def value (quoteAsset : String) (balances : List Balance) (positions : List Position) : Sampling EquitySample := do
  let held := heldPositions positions
  let totalCash := (quoteCash balances quoteAsset).2
  let stored ← storedPrices held.keys
  let now ← ask .clock
  let valuing ← valueAll stored now held.entries {}
  let equity := if valuing.unpriced then none else some (equityValue totalCash valuing.exposure)
  return { asOf := now, equity, holdings := valuing.holdings }

/-- The value of the balances and positions a caller has read, or of the broker's own. -/
def valued (quoteAsset : String) : Option (List Balance × List Position) → Sampling EquitySample
  | some (balances, positions) => value quoteAsset balances positions
  | none => do
      let balances ← ask .getBalances
      let positions ← ask .getPositions
      value quoteAsset balances positions

/-- `sample`. -/
def sample (quoteAsset : String) (state : Option (List Balance × List Position)) : Sampling (Option EquitySample) := do
  match ← (valued quoteAsset state).attempt with
  | .error _ => return none
  | .ok sample =>
      match ← (ask (.save sample)).attempt with
      | .ok () => return some sample
      | .error .storage => return none
      | .error error => .raise error

/-! ## The sampler of one answer

Against a broker and a store that answer in one way, the program is `EquitySampler.sample`. -/

section Plays

variable (sampler : EquitySampler)

/-- The answers of the sampler's broker, store and clock. -/
def answering : Script Requests StoreFailure Tables := fun op m =>
  match op with
  | .getBalances => (sampler.broker.getBalances.mapError .other, m.world)
  | .getPositions => (sampler.broker.getPositions.mapError .other, m.world)
  | .latest symbols => (sampler.store.latest symbols, m.world)
  | .clock => (.ok sampler.clock, m.world)
  | .getQuote symbol => ((sampler.broker.getQuote symbol).mapError .other, m.world)
  | .record price => (sampler.store.record price, m.world)
  | .save sample => (sampler.store.save sample, m.world)

variable {sampler}

/-- What a program comes to against those answers, whatever the moment. -/
def Comes {α : Type} (sampler : EquitySampler) (p : Sampling α) (result : Except Exc α) : Prop :=
  ∀ m, (p.play (answering sampler) m).1 = result.mapError .other

theorem comes_bind {α β : Type} {p : Sampling α} {f : α → Sampling β} {first : Except Exc α} {g : α → Except Exc β}
    (before : Comes sampler p first) (rest : ∀ value, Comes sampler (f value) (g value)) :
    Comes sampler (p >>= f) (first >>= g) := by
  intro m
  rw [play_bind_fst, before m]
  cases first with
  | error error => rfl
  | ok value => exact rest value _

theorem comes_pure {α : Type} (value : α) : Comes sampler (pure value) (.ok value) := fun m => by
  rw [Prog.play_pure]
  rfl

/-- What comes after an attempt at one request. -/
theorem comes_attempt {op : Op} {β : Type} {f : Except StoreFailure (Requests.Reply op) → Sampling β}
    {answer : Except StoreFailure (Requests.Reply op)} {result : Except Exc β}
    (answers : ∀ m, (answering sampler op m).1 = answer) (rest : Comes sampler (f answer) result) :
    Comes sampler ((ask op).attempt >>= f) result := by
  intro m
  rw [play_bind_fst, Prog.play_attempt, ask, Prog.play_call]
  dsimp only [Except.bind]
  rw [answers m]
  exact rest _

theorem storedPrices_comes (symbols : List String) :
    Comes sampler (storedPrices symbols) (sampler.storedPrices symbols) := by
  have answers : ∀ m, (answering sampler (.latest symbols) m).1 = sampler.store.latest symbols := fun m => rfl
  refine comes_attempt answers ?_
  unfold EquitySampler.storedPrices
  cases sampler.store.latest symbols with
  | ok stored => exact comes_pure stored
  | error error =>
    cases error with
    | storage => exact comes_pure _
    | other exc => exact fun m => by rw [play_raise]; rfl

theorem freshMark_comes (symbol : String) : Comes sampler (freshMark symbol) (sampler.freshMark symbol) := by
  refine comes_attempt (fun m => rfl) ?_
  unfold EquitySampler.freshMark
  cases sampler.broker.getQuote symbol with
  | error exc => exact comes_pure none
  | ok quote =>
    dsimp only [Except.mapError]
    cases markFromQuote quote symbol with
    | none => exact comes_pure none
    | some mark =>
      dsimp only
      split
      · exact comes_pure none
      · have answers : ∀ m, (answering sampler
            (.record ⟨symbol, mark, quote.asOf, (quote.source.take 64).toString⟩) m).1 =
              sampler.store.record ⟨symbol, mark, quote.asOf, (quote.source.take 64).toString⟩ := fun m => rfl
        refine comes_attempt answers ?_
        cases sampler.store.record ⟨symbol, mark, quote.asOf, (quote.source.take 64).toString⟩ with
        | ok _ => exact comes_pure (some mark)
        | error error =>
          cases error with
          | storage => exact comes_pure (some mark)
          | other exc => exact fun m => by rw [play_raise]; rfl

theorem valueAll_comes (stored : Dict String LastPrice) (entries : List (String × Position)) (valuing : Valuing) :
    Comes sampler (valueAll stored sampler.clock entries valuing)
      (runs (sampler.valueHolding stored) entries valuing) := by
  induction entries generalizing valuing with
  | nil => exact comes_pure valuing
  | cons entry rest ih =>
    have turn : sampler.valueHolding stored entry valuing =
        (sampler.freshMark entry.1).map (settleHolding stored sampler.clock entry valuing) := by
      obtain ⟨symbol, position⟩ := entry
      unfold EquitySampler.valueHolding
      dsimp only
      cases sampler.freshMark symbol with
      | error exc => rfl
      | ok mark =>
        cases mark with
        | some mark => rfl
        | none =>
          dsimp only [Bind.bind, Except.bind, Except.map, settleHolding]
          cases stored.get? symbol <;> rfl
    have split : runs (sampler.valueHolding stored) (entry :: rest) valuing =
        (sampler.freshMark entry.1 >>= fun mark =>
          runs (sampler.valueHolding stored) rest (settleHolding stored sampler.clock entry valuing mark)) := by
      rw [runs, turn]
      cases sampler.freshMark entry.1 <;> rfl
    rw [split]
    exact comes_bind (freshMark_comes entry.1) fun mark => ih _

theorem value_comes (balances : List Balance) (positions : List Position) :
    Comes sampler (value sampler.quoteAsset balances positions) (sampler.value balances positions) := by
  refine comes_bind (storedPrices_comes _) fun stored m => ?_
  rw [play_bind_fst, ask, Prog.play_call]
  exact comes_bind (valueAll_comes stored _ {}) (fun valuing => comes_pure _) _

/-- The program and the sampler it is a program of. -/
theorem sample_plays (state : Option (List Balance × List Position)) (m : SampleMoment) :
    ((sample sampler.quoteAsset state).play (answering sampler) m).1 = (sampler.sample state).mapError .other := by
  have valued_ : Comes sampler (valued sampler.quoteAsset state) (sampler.valued state) := by
    cases state with
    | some told => exact value_comes told.1 told.2
    | none =>
      have read : ∀ {α : Type} (op : Op) (answer : Except Exc (Requests.Reply op)),
          (∀ m, (answering sampler op m).1 = answer.mapError .other) → Comes sampler (ask op) answer :=
        fun op answer answers m => by rw [ask, Prog.play_call]; exact answers m
      exact comes_bind (read (α := Unit) .getBalances _ fun m => rfl) fun balances =>
        comes_bind (read (α := Unit) .getPositions _ fun m => rfl) fun positions => value_comes balances positions
  unfold sample
  rw [play_bind_fst, Prog.play_attempt, valued_ m]
  unfold EquitySampler.sample
  cases sampler.valued state with
  | error exc => rw [Except.mapError]; exact congrArg Prod.fst (Prog.play_pure none _)
  | ok sample =>
    have answers : ∀ m, (answering sampler (.save sample) m).1 = sampler.store.save sample := fun m => rfl
    refine (comes_attempt answers ?_) _
    dsimp only
    cases sampler.store.save sample with
    | ok _ => exact comes_pure (some sample)
    | error error =>
      cases error with
      | storage => exact comes_pure none
      | other exc => exact fun m => by rw [play_raise]; rfl

end Plays

/-! ## What was read -/

/-- The quotes the venue answered for the symbol it was asked for. -/
def quotes : Log → List Quote
  | [] => []
  | e :: earlier =>
      (match e.op, e.reply with
        | .getQuote symbol, .ok quote => if quote.symbol = symbol then [quote] else []
        | _, _ => []) ++ quotes earlier

/-- The balances the broker answered. -/
def balancesRead : Log → List (List Balance)
  | [] => []
  | e :: earlier =>
      (match e.op, e.reply with
        | .getBalances, .ok balances => [balances]
        | _, _ => []) ++ balancesRead earlier

def positionsRead : Log → List (List Position)
  | [] => []
  | e :: earlier =>
      (match e.op, e.reply with
        | .getPositions, .ok positions => [positions]
        | _, _ => []) ++ positionsRead earlier

/-- The venue has bid this for the symbol. -/
def Bid (log : Log) (symbol : String) (bid : Decimal) : Prop :=
  ∃ quote ∈ quotes log, quote.symbol = symbol ∧ (quote.bid : Decimal) = bid

/-- The account as it was read, or as a caller who had read it handed it over. -/
def Account (given : List (List Balance × List Position)) (log : Log) (balances : List Balance)
    (positions : List Position) : Prop :=
  (balances, positions) ∈ given ∨ balances ∈ balancesRead log ∧ positions ∈ positionsRead log

theorem quotes_suffix {log later : Log} (suffix : log <:+ later) : quotes log ⊆ quotes later := by
  obtain ⟨newer, rfl⟩ := suffix
  induction newer with
  | nil => exact List.Subset.refl _
  | cons e newer ih => exact fun quote member => List.mem_append_right _ (ih member)

theorem Bid.later {log later : Log} {symbol : String} {bid : Decimal} (suffix : log <:+ later)
    (was : Bid log symbol bid) : Bid later symbol bid := by
  obtain ⟨quote, member, is⟩ := was
  exact ⟨quote, quotes_suffix suffix member, is⟩

theorem Account.later {given : List (List Balance × List Position)} {log later : Log} {balances : List Balance}
    {positions : List Position} (suffix : log <:+ later) (was : Account given log balances positions) :
    Account given later balances positions := by
  refine was.imp id fun ⟨balance, position⟩ => ?_
  obtain ⟨newer, rfl⟩ := suffix
  constructor
  · induction newer with
    | nil => exact balance
    | cons e newer ih => exact List.mem_append_right _ ih
  · induction newer with
    | nil => exact position
    | cons e newer ih => exact List.mem_append_right _ ih

/-! ## Where the tables come from -/

section Tracing

variable (column : Column) (quoteAsset : String) (given : List (List Balance × List Position))

/-- A price goes back to a quote. -/
def Observed (log : Log) (price : LastPrice) : Prop :=
  ∃ quote ∈ quotes log, quote.symbol = price.symbol ∧ quote.asOf = price.observedAt ∧
    price.bid = column quote.bid

/-- The holding is valued at a bid of now, or is listed as valued at one the venue made before. -/
def Priced (log : Log) (holdings : List ValuedHolding) (symbol : String) (price : Decimal) : Prop :=
  Bid log symbol price ∨
    (∃ holding ∈ holdings, holding.symbol = symbol ∧ holding.basis = .lastKnown) ∧
      ∃ bid, Bid log symbol bid ∧ price = column bid

/-- An equity is the dollars and the holdings of an account that was read, at bids the venue made. -/
def Worth (log : Log) (holdings : List ValuedHolding) (equity : Decimal) : Prop :=
  ∃ balances positions price, Account given log balances positions ∧
    equity = equityValue (quoteCash balances quoteAsset).2 (worth price (heldPositions positions).entries) ∧
    ∀ entry ∈ (heldPositions positions).entries, Priced column log holdings entry.1 (price entry.1)

/-- A snapshot that was taken so; it is partial just when a holding could not be priced. -/
structure Valued (log : Log) (row : Snapshot) : Prop where
  isPartial : row.isPartial = row.equity.isNone
  unpriced : row.isPartial = true ↔ ∃ holding ∈ row.holdings, holding.basis = .unpriced
  worth : ∀ equity, row.equity = some equity → ∃ exact, Worth column quoteAsset given log row.holdings exact ∧
    equity = column exact

/-- Everything in the tables goes back to what was read. -/
structure Traced (log : Log) (tables : Tables) : Prop where
  prices : ∀ symbol price, tables.prices.get? symbol = some price → price.symbol = symbol ∧ Observed column log price
  curve : ∀ row ∈ tables.curve, Valued column quoteAsset given log row
  ids : tables.curve.map Snapshot.snapshotId = List.range tables.curve.length

variable {column quoteAsset given}

theorem Observed.later {log later : Log} {price : LastPrice} (suffix : log <:+ later)
    (was : Observed column log price) : Observed column later price := by
  obtain ⟨quote, member, is⟩ := was
  exact ⟨quote, quotes_suffix suffix member, is⟩

theorem Priced.later {log later : Log} {holdings more : List ValuedHolding} {symbol : String} {price : Decimal}
    (suffix : log <:+ later) (listed : holdings ⊆ more) (was : Priced column log holdings symbol price) :
    Priced column later more symbol price := by
  refine was.imp (·.later suffix) ?_
  rintro ⟨⟨holding, member, is⟩, bid, made, at_⟩
  exact ⟨⟨holding, listed member, is⟩, bid, made.later suffix, at_⟩

theorem Worth.later {log later : Log} {holdings : List ValuedHolding} {equity : Decimal} (suffix : log <:+ later)
    (was : Worth column quoteAsset given log holdings equity) :
    Worth column quoteAsset given later holdings equity := by
  obtain ⟨balances, positions, price, account, is, priced⟩ := was
  exact ⟨balances, positions, price, account.later suffix, is,
    fun entry member => (priced entry member).later suffix (List.Subset.refl _)⟩

theorem Valued.later {log later : Log} {row : Snapshot} (suffix : log <:+ later)
    (was : Valued column quoteAsset given log row) : Valued column quoteAsset given later row :=
  ⟨was.isPartial, was.unpriced, fun equity is =>
    (was.worth equity is).imp fun _ ⟨worth, rounded⟩ => ⟨worth.later suffix, rounded⟩⟩

theorem Traced.later {log later : Log} {tables : Tables} (suffix : log <:+ later)
    (was : Traced column quoteAsset given log tables) : Traced column quoteAsset given later tables :=
  ⟨fun symbol price found => (was.prices symbol price found).imp id (·.later suffix),
    fun row member => (was.curve row member).later suffix, was.ids⟩

/-- A price that goes back to a quote may be stored. -/
theorem Traced.recorded {log : Log} {tables : Tables} {price : LastPrice}
    (was : Traced column quoteAsset given log tables)
    (quoted : Observed column log { price with bid := column price.bid }) :
    Traced column quoteAsset given log (tables.recorded column price) := by
  have stored : Traced column quoteAsset given log
      { tables with prices := tables.prices.set price.symbol { price with bid := column price.bid } } := by
    refine ⟨fun symbol found is => ?_, was.curve, was.ids⟩
    rw [Dict.get?_set] at is
    split at is
    · rename_i same
      cases is
      exact ⟨same.symm, quoted⟩
    · exact was.prices symbol found is
  unfold Tables.recorded
  split
  · exact stored
  · split
    · exact stored
    · exact was

theorem Traced.saved {log : Log} {tables : Tables} {sample : EquitySample}
    (was : Traced column quoteAsset given log tables)
    (valued : ∀ id, Valued column quoteAsset given log (Tables.rowOf column id sample)) :
    Traced column quoteAsset given log (tables.saved column sample) := by
  refine ⟨was.prices, fun row member => ?_, ?_⟩
  · rcases List.mem_append.1 member with older | new
    · exact was.curve row older
    · rw [List.mem_singleton.1 new]
      exact valued _
  · rw [Tables.saved, List.map_append, was.ids, List.length_append, List.length_singleton, List.range_succ]
    rfl

/-! ## The programs -/

variable (column quoteAsset given)

/-- A price is stored only with a quote behind it, and a sample is saved only with its account behind it. -/
def Allowed (op : Op) (m : SampleMoment) : Prop :=
  match op with
  | .record price => Observed column m.events { price with bid := column price.bid }
  | .save sample => ∀ id, Valued column quoteAsset given m.events (Tables.rowOf column id sample)
  | _ => True

/-- Steps that keep to that, through which the tables stay traced. -/
def tracing : Contract Requests StoreFailure Tables where
  serve := serve column
  assume _ _ := True
  guard := Allowed column quoteAsset given
  invariant m := Traced column quoteAsset given m.events m.world

variable {column quoteAsset given}

abbrev Holds (column : Column) (quoteAsset : String) (given : List (List Balance × List Position)) (m : SampleMoment) :
    Prop := Traced column quoteAsset given m.events m.world

theorem Holds.push {op : Op} {m : SampleMoment} {reply : Except StoreFailure (Requests.Reply op)} {after_ : Tables}
    (held : Holds column quoteAsset given m) (allowed : Allowed column quoteAsset given op m)
    (served : serve column op m.world reply after_) : Holds column quoteAsset given (m.push op reply after_) := by
  have onward := Traced.later (List.suffix_cons (m.event op reply after_) m.events) held
  cases op with
  | record price =>
    rcases served with rfl | ⟨_, rfl⟩
    · exact onward.recorded (allowed.later (List.suffix_cons ..))
    · exact onward
  | save sample =>
    rcases served with rfl | ⟨_, rfl⟩
    · exact onward.saved fun id => (allowed id).later (List.suffix_cons ..)
    · exact onward
  | latest symbols =>
    obtain ⟨_, rfl⟩ := served
    exact onward
  | clock =>
    obtain ⟨_, rfl⟩ := served
    exact onward
  | getBalances =>
    obtain rfl : after_ = m.world := served
    exact onward
  | getPositions =>
    obtain rfl : after_ = m.world := served
    exact onward
  | getQuote symbol =>
    obtain rfl : after_ = m.world := served
    exact onward

/-- One request of a program that keeps to the contract. -/
theorem wp_ask {op : Op} {m : SampleMoment} {post : Except StoreFailure (Requests.Reply op) → SampleMoment → Prop}
    (held : Holds column quoteAsset given m) (allowed : Allowed column quoteAsset given op m)
    (replied : ∀ reply after_, serve column op m.world reply after_ →
      Holds column quoteAsset given (m.push op reply after_) → post reply (m.push op reply after_)) :
    wp (tracing column quoteAsset given).logic post (ask op) m :=
  wp_call.2 ⟨allowed, fun reply after_ served _ =>
    have kept := held.push allowed served
    ⟨kept, replied reply after_ served kept⟩⟩

/-- The prices that were read at the start of a sample. -/
def Known (column : Column) (log : Log) (stored : Dict String LastPrice) : Prop :=
  ∀ symbol price, stored.get? symbol = some price → price.symbol = symbol ∧ Observed column log price

/-- What every piece of a sample ends in: more was read, and the tables are traced. -/
def Onward (column : Column) (quoteAsset : String) (given : List (List Balance × List Position))
    (m m' : SampleMoment) : Prop :=
  Holds column quoteAsset given m' ∧ m.events <:+ m'.events

theorem Onward.trans {m m' m'' : SampleMoment} (first : Onward column quoteAsset given m m')
    (rest : Onward column quoteAsset given m' m'') : Onward column quoteAsset given m m'' :=
  ⟨rest.1, first.2.trans rest.2⟩

theorem wp_storedPrices {m : SampleMoment} (held : Holds column quoteAsset given m) (symbols : List String) :
    wp (tracing column quoteAsset given).logic (fun result m' => Onward column quoteAsset given m m' ∧
      ∀ stored, result = .ok stored → Known column m'.events stored) (storedPrices symbols) m := by
  refine wp_bind.2 (wp_attempt.2 (wp_ask held trivial fun reply after_ served kept => ?_))
  have onward : Onward column quoteAsset given m (m.push (.latest symbols) reply after_) :=
    ⟨kept, List.suffix_cons ..⟩
  cases reply with
  | ok stored =>
    refine ⟨onward, fun _ is => ?_⟩
    cases is
    intro symbol price found
    obtain ⟨is | ⟨error, never⟩, rfl⟩ := served
    · cases is
      rw [Dict.get?_filter] at found
      exact kept.prices symbol price (Option.filter_eq_some_iff.1 found).1
    · cases never
  | error error =>
    cases error with
    | storage =>
      refine ⟨onward, fun _ is => ?_⟩
      cases is
      exact fun symbol price found => by cases found
    | other exc => exact ⟨onward, fun _ never => by cases never⟩

/-- A fresh mark is a bid the venue made. -/
theorem wp_freshMark {m : SampleMoment} (held : Holds column quoteAsset given m) (symbol : String) :
    wp (tracing column quoteAsset given).logic (fun result m' => Onward column quoteAsset given m m' ∧
      ∀ mark, result = .ok (some mark) → Bid m'.events symbol mark) (freshMark symbol) m := by
  refine wp_bind.2 (wp_attempt.2 (wp_ask held trivial fun reply after_ _ kept => ?_))
  have onward : Onward column quoteAsset given m (m.push (.getQuote symbol) reply after_) :=
    ⟨kept, List.suffix_cons ..⟩
  cases reply with
  | error error => exact ⟨onward, fun _ never => by cases never⟩
  | ok quote =>
    change wp _ _ (match markFromQuote quote symbol with | none => _ | some mark => _) _
    cases marked : markFromQuote quote symbol with
    | none => exact ⟨onward, fun _ never => by cases never⟩
    | some mark =>
      unfold markFromQuote at marked
      split at marked
      · rename_i named
        cases marked
        have listed : quote ∈ quotes (m.push (.getQuote symbol) (.ok quote) after_).events := by
          have own : quote ∈ if Quote.symbol quote = symbol then [quote] else [] := by
            rw [if_pos named]
            exact List.mem_singleton_self quote
          exact List.mem_append_left _ own
        dsimp only
        split
        · exact ⟨onward, fun _ never => by cases never⟩
        · refine wp_bind.2 (wp_attempt.2 (wp_ask kept ⟨quote, listed, named, rfl, rfl⟩ fun reply _ _ kept' => ?_))
          have further := onward.trans ⟨kept', List.suffix_cons ..⟩
          have marks : ∀ mark, Except.ok (some (quote.bid : Decimal)) = (.ok (some mark) : Except StoreFailure _) →
              Bid (m.push (.getQuote symbol) (.ok quote) after_).events symbol mark := by
            intro mark is
            cases is
            exact ⟨quote, listed, named, rfl⟩
          cases reply with
          | ok _ => exact ⟨further, fun mark is => (marks mark is).later (List.suffix_cons ..)⟩
          | error error =>
            cases error with
            | storage => exact ⟨further, fun mark is => (marks mark is).later (List.suffix_cons ..)⟩
            | other exc => exact ⟨further, fun _ never => by cases never⟩
      · cases marked

/-- What the loop has made of the holdings so far. -/
structure Settled (column : Column) (log : Log) (done : List (String × Position)) (valuing : Valuing) : Prop where
  unpriced : valuing.unpriced = true ↔ ∃ holding ∈ valuing.holdings, holding.basis = .unpriced
  exposure : valuing.unpriced = false → ∃ price, valuing.exposure = worth price done ∧
    ∀ entry ∈ done, Priced column log valuing.holdings entry.1 (price entry.1)

theorem Settled.later {log later : Log} {done : List (String × Position)} {valuing : Valuing}
    (suffix : log <:+ later) (settled : Settled column log done valuing) : Settled column later done valuing :=
  ⟨settled.unpriced, fun priced => (settled.exposure priced).imp fun _ ⟨is, each⟩ =>
    ⟨is, fun entry member => (each entry member).later suffix (List.Subset.refl _)⟩⟩

theorem worth_snoc (price : String → Decimal) (done : List (String × Position)) (entry : String × Position) :
    worth price (done ++ [entry]) = worth price done + positionValue entry.2 (price entry.1) := by
  rw [worth, List.map_append, List.sum_append]
  exact congrArg (worth price done + ·) (List.sum_singleton)

/-- A holding that got a price, whichever way, on top of the ones before it. -/
theorem Settled.priced {log : Log} {done : List (String × Position)} {valuing : Valuing}
    (settled : Settled column log done valuing) {entry : String × Position} (new : entry.1 ∉ done.map Prod.fst)
    {mark : Decimal} {holding : ValuedHolding} (basis : holding.basis ≠ .unpriced)
    (priced : Priced column log [holding] entry.1 mark) :
    Settled column log (done ++ [entry]) { valuing with
      exposure := valuing.exposure + positionValue entry.2 mark
      holdings := valuing.holdings ++ [holding] } := by
  refine ⟨?_, fun all => ?_⟩
  · rw [settled.unpriced]
    constructor
    · rintro ⟨other, member, is⟩
      exact ⟨other, List.mem_append_left _ member, is⟩
    · rintro ⟨other, member, is⟩
      rcases List.mem_append.1 member with older | own
      · exact ⟨other, older, is⟩
      · exact absurd (List.mem_singleton.1 own ▸ is) basis
  · obtain ⟨price, is, each⟩ := settled.exposure all
    have apart : ∀ other ∈ done, other.1 ≠ entry.1 := fun other member same => new (same ▸ List.mem_map_of_mem member)
    -- The price of the new holding takes its place in the prices so far.
    refine ⟨fun symbol => if symbol = entry.1 then mark else price symbol, ?_, fun other member => ?_⟩
    · have before : worth (fun symbol => if symbol = entry.1 then mark else price symbol) done = worth price done :=
        worth_congr fun other member => if_neg (apart other member)
      rw [worth_snoc, before, if_pos rfl, is]
    · dsimp only
      rcases List.mem_append.1 member with older | own
      · rw [if_neg (apart other older)]
        exact (each other older).later (List.suffix_refl _) (List.subset_append_left _ _)
      · rw [List.mem_singleton.1 own, if_pos rfl]
        exact priced.later (List.suffix_refl _) (List.subset_append_right _ _)

theorem Settled.turn {log : Log} {stored : Dict String LastPrice} {now : Timestamp}
    {done : List (String × Position)} {valuing : Valuing} (settled : Settled column log done valuing)
    (known : Known column log stored) {entry : String × Position} (new : entry.1 ∉ done.map Prod.fst)
    {mark : Option Decimal} (fresh : ∀ bid, mark = some bid → Bid log entry.1 bid) :
    Settled column log (done ++ [entry]) (settleHolding stored now entry valuing mark) := by
  cases mark with
  | some bid => exact settled.priced new (fun never => by cases never) (.inl (fresh bid rfl))
  | none =>
    cases found : stored.get? entry.1 with
    | some last =>
      obtain ⟨named, quote, listed, same, _, bid⟩ := known _ _ found
      rw [settleHolding, found]
      refine settled.priced new (fun never => by cases never)
        (.inr ⟨⟨_, List.mem_singleton_self _, rfl, rfl⟩, quote.bid, ?_, bid⟩)
      exact ⟨quote, listed, same.trans named, rfl⟩
    | none =>
      rw [settleHolding, found]
      refine ⟨iff_of_true rfl ⟨_, List.mem_append_right _ (List.mem_singleton_self _), rfl⟩, ?_⟩
      exact fun never => by cases never

theorem wp_valueAll {stored : Dict String LastPrice} {now : Timestamp} {done entries : List (String × Position)}
    {m : SampleMoment} {valuing : Valuing} (held : Holds column quoteAsset given m)
    (known : Known column m.events stored) (settled : Settled column m.events done valuing)
    (distinct : ((done ++ entries).map Prod.fst).Nodup) :
    wp (tracing column quoteAsset given).logic (fun result m' => Onward column quoteAsset given m m' ∧
      ∀ valuing', result = .ok valuing' → Settled column m'.events (done ++ entries) valuing')
      (valueAll stored now entries valuing) m := by
  induction entries generalizing done m valuing with
  | nil =>
    refine ⟨⟨held, List.suffix_refl _⟩, fun _ is => ?_⟩
    cases is
    rwa [List.append_nil]
  | cons entry rest ih =>
    refine wp_bind.2 (wp_mono (wp_freshMark held entry.1) ?_)
    rintro result m' ⟨onward, marked⟩
    cases result with
    | error error => exact ⟨onward, fun _ never => by cases never⟩
    | ok mark =>
      have new : entry.1 ∉ done.map Prod.fst := by
        rw [List.map_append, List.map_cons] at distinct
        exact fun member => (List.nodup_append.1 distinct).2.2 _ member _ (List.mem_cons_self ..) rfl
      have turn : Settled column m'.events (done ++ [entry]) (settleHolding stored now entry valuing mark) :=
        (settled.later onward.2).turn (fun symbol price found =>
          (known symbol price found).imp id (·.later onward.2)) new fun bid is => marked bid (is ▸ rfl)
      have shift : done ++ entry :: rest = done ++ [entry] ++ rest := by rw [List.append_assoc]; rfl
      refine wp_mono (ih onward.1 (fun symbol price found => (known symbol price found).imp id (·.later onward.2))
        turn (shift ▸ distinct)) ?_
      rintro result m'' ⟨onward', settled'⟩
      exact ⟨onward.trans onward', fun valuing' is => shift ▸ settled' valuing' is⟩

/-- A kind of holding that is kept with the row is there just when it was in the sample. -/
theorem exists_rowOf {id : Nat} {sample : EquitySample} {basis : Basis} (kept : basis ≠ .fresh)
    (symbol : String → Prop) :
    (∃ holding ∈ (Tables.rowOf column id sample).holdings, symbol holding.symbol ∧ holding.basis = basis) ↔
      ∃ holding ∈ sample.holdings, symbol holding.symbol ∧ holding.basis = basis := by
  constructor
  · rintro ⟨_, member, is⟩
    obtain ⟨holding, inside, rfl⟩ := List.mem_map.1 member
    exact ⟨holding, (List.mem_filter.1 inside).1, is⟩
  · rintro ⟨holding, member, is⟩
    refine ⟨_, List.mem_map.2 ⟨holding, List.mem_filter.2 ⟨member, ?_⟩, rfl⟩, is⟩
    rw [is.2]
    exact decide_eq_true kept

/-- A sample whose holdings were settled so is saved as a row that goes back to what was read. -/
theorem Settled.valued {log : Log} {balances : List Balance} {positions : List Position} {valuing : Valuing}
    (account : Account given log balances positions)
    (settled : Settled column log (heldPositions positions).entries valuing) {sample : EquitySample}
    (equity : sample.equity =
      if valuing.unpriced then none else some (equityValue (quoteCash balances quoteAsset).2 valuing.exposure))
    (holdings : sample.holdings = valuing.holdings) (number : Nat) :
    Valued column quoteAsset given log (Tables.rowOf column number sample) := by
  refine ⟨?_, ?_, fun rounded is => ?_⟩
  · exact Option.isNone_map.symm
  · have listed : (∃ holding ∈ (Tables.rowOf column number sample).holdings, True ∧ holding.basis = .unpriced) ↔
        ∃ holding ∈ sample.holdings, True ∧ holding.basis = .unpriced := exists_rowOf (by decide) fun _ => True
    simp only [true_and] at listed
    rw [listed, holdings, ← settled.unpriced, Tables.rowOf, equity]
    cases valuing.unpriced <;> simp
  · obtain ⟨exact, was, rfl⟩ := Option.map_eq_some_iff.1 is
    rw [equity] at was
    split at was
    · cases was
    · rename_i priced
      cases was
      obtain ⟨price, sum, each⟩ := settled.exposure (Bool.eq_false_iff.2 priced)
      refine ⟨_, ⟨balances, positions, price, account, by rw [sum], fun entry member => ?_⟩, rfl⟩
      refine (each entry member).imp_right (And.imp_left fun there => ?_)
      rw [← holdings] at there
      exact (exists_rowOf (by decide) (· = entry.1)).2 there

theorem wp_value {m : SampleMoment} {balances : List Balance} {positions : List Position}
    (held : Holds column quoteAsset given m) (account : Account given m.events balances positions) :
    wp (tracing column quoteAsset given).logic (fun result m' => Onward column quoteAsset given m m' ∧
      ∀ sample, result = .ok sample → Allowed column quoteAsset given (.save sample) m')
      (value quoteAsset balances positions) m := by
  refine wp_bind.2 (wp_mono (wp_storedPrices held _) ?_)
  rintro result m₁ ⟨onward, known⟩
  cases result with
  | error error => exact ⟨onward, fun _ never => by cases never⟩
  | ok stored =>
    refine wp_bind.2 (wp_ask onward.1 trivial fun reply after_ _ kept => ?_)
    have read : Onward column quoteAsset given m (m₁.push .clock reply after_) :=
      onward.trans ⟨kept, List.suffix_cons ..⟩
    cases reply with
    | error error => exact ⟨read, fun _ never => by cases never⟩
    | ok now =>
      have known' : Known column (m₁.push .clock (.ok now) after_).events stored := fun symbol price found =>
        (known stored rfl symbol price found).imp_right (·.later (List.suffix_cons ..))
      have none_ : Settled column (m₁.push .clock (.ok now) after_).events [] {} := by
        refine ⟨iff_of_false Bool.false_ne_true ?_, fun _ => ⟨fun _ => 0, rfl, fun _ never => by cases never⟩⟩
        rintro ⟨_, never, _⟩
        cases never
      refine wp_bind.2 (wp_mono (wp_valueAll kept known' none_ (heldPositions positions).nodup) ?_)
      rintro result m₂ ⟨onward', settled⟩
      cases result with
      | error error => exact ⟨read.trans onward', fun _ never => by cases never⟩
      | ok valuing =>
        refine ⟨read.trans onward', fun sample is number => ?_⟩
        cases is
        exact (settled valuing rfl).valued (account.later (read.trans onward').2) rfl rfl number

theorem wp_valued {m : SampleMoment} (held : Holds column quoteAsset given m)
    {state : Option (List Balance × List Position)} (told : ∀ account ∈ state, account ∈ given) :
    wp (tracing column quoteAsset given).logic (fun result m' => Onward column quoteAsset given m m' ∧
      ∀ sample, result = .ok sample → Allowed column quoteAsset given (.save sample) m')
      (valued quoteAsset state) m := by
  cases state with
  | some account => exact wp_value held (.inl (told account rfl))
  | none =>
    refine wp_bind.2 (wp_ask held trivial fun reply after_ _ kept => ?_)
    cases reply with
    | error error => exact ⟨⟨kept, List.suffix_cons ..⟩, fun _ never => by cases never⟩
    | ok balances =>
      refine wp_bind.2 (wp_ask kept trivial fun reply after_' _ kept' => ?_)
      have onward : Onward column quoteAsset given m
          ((m.push .getBalances (.ok balances) after_).push .getPositions reply after_') :=
        ⟨kept', (List.suffix_cons ..).trans (List.suffix_cons ..)⟩
      cases reply with
      | error error => exact ⟨onward, fun _ never => by cases never⟩
      | ok positions =>
        refine wp_mono (wp_value kept' (.inr ⟨List.mem_cons_self .., List.mem_cons_self ..⟩)) ?_
        rintro result m' ⟨onward', allowed⟩
        exact ⟨onward.trans onward', allowed⟩

theorem wp_sample {m : SampleMoment} (held : Holds column quoteAsset given m)
    {state : Option (List Balance × List Position)} (told : ∀ account ∈ state, account ∈ given) :
    wp (tracing column quoteAsset given).logic (fun _ _ => True) (sample quoteAsset state) m := by
  refine wp_bind.2 (wp_attempt.2 (wp_mono (wp_valued held told) ?_))
  rintro result m' ⟨onward, allowed⟩
  cases result with
  | error error => trivial
  | ok sample =>
    refine wp_bind.2 (wp_attempt.2 (wp_ask onward.1 (allowed sample rfl) fun reply _ _ _ => ?_))
    cases reply with
    | ok _ => trivial
    | error error => cases error <;> trivial

/-! ## Samples one after another -/

variable (column quoteAsset given) in
/-- The tables after any samples, the last of which may have been cut short anywhere; the account is one that was
handed over, or is read. -/
inductive Sampled : SampleMoment → Prop
  | start : Sampled ⟨⟨.empty, []⟩, []⟩
  | sample {m m' : SampleMoment} {state : Option (List Balance × List Position)} {rest : Sampling (Option EquitySample)}
      (before : Sampled m) (told : ∀ account ∈ state, account ∈ given)
      (reached : (sample quoteAsset state).Reaches (serve column) m rest m') : Sampled m'

/-- A requirement that holds where a run has come to. -/
theorem holds_reaches {α : Type} {post : Except StoreFailure α → SampleMoment → Prop} {p p' : Sampling α}
    {m m' : SampleMoment} (held : Holds column quoteAsset given m) (reached : p.Reaches (serve column) m p' m')
    (obligation : wp (tracing column quoteAsset given).logic post p m) : Holds column quoteAsset given m' :=
  reaches_invariant (C := tracing column quoteAsset given) (fun m => Holds column quoteAsset given m)
    (fun _ _ _ _ held allowed served _ => held.push allowed served) reached (along_of_forall fun _ _ => trivial)
    obligation held

/-- **Every figure goes back to the venue.**  After any samples, whatever failed in them. -/
theorem sampled_traced {m : SampleMoment} (sampled : Sampled column quoteAsset given m) :
    Traced column quoteAsset given m.events m.world := by
  induction sampled with
  | start => exact ⟨(fun _ _ never => by cases never), (fun _ never => by cases never), rfl⟩
  | sample _ told reached held => exact holds_reaches held reached (wp_sample held told)

theorem curve_grows {m m' : SampleMoment} {state : Option (List Balance × List Position)}
    {rest : Sampling (Option EquitySample)} (reached : (sample quoteAsset state).Reaches (serve column) m rest m') :
    m.world.curve <+: m'.world.curve := by
  refine reaches_invariant (C := Contract.plain (serve column) fun _ => True) (m.world.curve <+: ·.world.curve) ?_
    reached (along_of_forall fun _ _ => trivial) (wp_nothing _ _) (List.prefix_refl _)
  intro op m₁ reply after_ grown _ served _
  cases op with
  | save sample =>
    rcases served with rfl | ⟨_, rfl⟩
    · exact grown.trans (List.prefix_append ..)
    · exact grown
  | record price =>
    rcases served with rfl | ⟨_, rfl⟩
    · rw [Moment.push, Tables.recorded_curve]
      exact grown
    · exact grown
  | latest symbols => exact served.2 ▸ grown
  | clock => exact served.2 ▸ grown
  | getBalances => exact (show after_ = m₁.world from served) ▸ grown
  | getPositions => exact (show after_ = m₁.world from served) ▸ grown
  | getQuote symbol => exact (show after_ = m₁.world from served) ▸ grown

/-! ## The last known prices -/

/-- The prices whose writes returned. -/
def stored : Log → List LastPrice
  | [] => []
  | e :: earlier =>
      (match e.op, e.reply with
        | .record price, .ok _ => [price]
        | _, _ => []) ++ stored earlier

/-- A stored price is there, or a newer one of its symbol is. -/
def Newest (m : SampleMoment) : Prop :=
  ∀ price ∈ stored m.events, ∃ row, m.world.prices.get? price.symbol = some row ∧ price.observedAt ≤ row.observedAt

theorem recorded_newer (tables : Tables) (price : LastPrice) :
    ∃ row, (tables.recorded column price).prices.get? price.symbol = some row ∧ price.observedAt ≤ row.observedAt := by
  unfold Tables.recorded
  cases found : tables.prices.get? price.symbol with
  | none => exact ⟨_, (Dict.get?_set ..).trans (if_pos rfl), le_refl _⟩
  | some row =>
    dsimp only
    split
    · exact ⟨_, (Dict.get?_set ..).trans (if_pos rfl), le_refl _⟩
    · rename_i newer
      exact ⟨row, found, (not_le.1 newer).le⟩

/-- No price gives way to an older one of its symbol. -/
theorem recorded_keeps (column : Column) {tables : Tables} (price : LastPrice) {symbol : String} {row : LastPrice}
    (found : tables.prices.get? symbol = some row) :
    ∃ row', (tables.recorded column price).prices.get? symbol = some row' ∧ row.observedAt ≤ row'.observedAt := by
  by_cases same : symbol = price.symbol
  · subst same
    unfold Tables.recorded
    rw [found]
    dsimp only
    split
    · rename_i newer
      exact ⟨_, (Dict.get?_set ..).trans (if_pos rfl), newer⟩
    · exact ⟨row, found, le_refl _⟩
  · refine ⟨row, ?_, le_refl _⟩
    unfold Tables.recorded
    split
    · rwa [Dict.get?_set_ne _ _ same]
    · split
      · rwa [Dict.get?_set_ne _ _ same]
      · exact found

theorem Newest.push {op : Op} {m : SampleMoment} {reply : Except StoreFailure (Requests.Reply op)} {after_ : Tables}
    (newest : Newest m) (served : serve column op m.world reply after_) : Newest (m.push op reply after_) := by
  -- What was stored before is kept by every request.
  have older : ∀ price ∈ stored m.events, ∃ row, after_.prices.get? price.symbol = some row ∧
      price.observedAt ≤ row.observedAt := by
    intro price member
    obtain ⟨row, found, newer⟩ := newest price member
    cases op with
    | record other =>
      rcases served with rfl | ⟨_, rfl⟩
      · obtain ⟨row', found', further⟩ := recorded_keeps column other found
        exact ⟨row', found', newer.trans further⟩
      · exact ⟨row, found, newer⟩
    | save sample => rcases served with rfl | ⟨_, rfl⟩ <;> exact ⟨row, found, newer⟩
    | latest symbols => exact ⟨row, served.2 ▸ found, newer⟩
    | clock => exact ⟨row, served.2 ▸ found, newer⟩
    | getBalances => exact ⟨row, (show after_ = m.world from served) ▸ found, newer⟩
    | getPositions => exact ⟨row, (show after_ = m.world from served) ▸ found, newer⟩
    | getQuote symbol => exact ⟨row, (show after_ = m.world from served) ▸ found, newer⟩
  intro price member
  rcases List.mem_append.1 member with now | before
  · cases op with
    | record own =>
      cases reply with
      | ok _ =>
        obtain rfl := List.mem_singleton.1 now
        rcases served with rfl | ⟨⟨_, never⟩, _⟩
        · exact recorded_newer _ price
        · cases never
      | error error => cases now
    | _ => cases now
  · exact older price before

theorem sampled_newest {m : SampleMoment} (sampled : Sampled column quoteAsset given m) : Newest m := by
  induction sampled with
  | start => exact fun _ never => by cases never
  | sample _ _ reached newest =>
    exact reaches_invariant (C := Contract.plain (serve column) fun _ => True) Newest
      (fun _ _ _ _ newest _ served _ => newest.push served) reached (along_of_forall fun _ _ => trivial)
      (wp_nothing _ _) newest

/-- **The newest price stays.**  After any samples the stored price of a symbol is at least as new as every one
whose write had returned, and is a bid the venue made at that time. -/
theorem lastPrices_newest {m : SampleMoment} (sampled : Sampled column quoteAsset given m) :
    ∀ price ∈ stored m.events, ∃ row, m.world.prices.get? price.symbol = some row ∧
      price.observedAt ≤ row.observedAt ∧ Observed column m.events row := by
  intro price member
  obtain ⟨row, found, newer⟩ := sampled_newest sampled price member
  exact ⟨row, found, newer, ((sampled_traced sampled).prices _ row found).2⟩

end Tracing

/-! ## Two samples of a coin -/

/-- The account has a hundred dollars and two coins, then fifty dollars more; a quote for the coin comes only while
the curve is empty.  The database does what it is asked. -/
def coinAnswers : Script Requests StoreFailure Tables := fun op m =>
  match op with
  | .getBalances => (.ok [⟨"USD", ⟨if m.world.curve.isEmpty then 100 else 150, by split <;> decide⟩, 0, 0⟩], m.world)
  | .getPositions => (.ok [⟨"BTC-USD", 2, none, 0⟩], m.world)
  | .latest symbols => (.ok (m.world.prices.filter fun row => decide (row.1 ∈ symbols)), m.world)
  | .clock => (.ok (60000000 * m.world.curve.length), m.world)
  | .getQuote _ => (if m.world.curve.isEmpty then .ok quietMarket.quote else .error .storage, m.world)
  | .record price => (.ok (), m.world.recorded id price)
  | .save sample => (.ok (), m.world.saved id sample)

theorem coinAnswers_sound : coinAnswers.Sound (serve id) := by
  intro op m
  cases op with
  | latest symbols => exact ⟨.inl rfl, rfl⟩
  | clock => exact ⟨⟨_, rfl⟩, rfl⟩
  | record price => exact .inl rfl
  | save sample => exact .inl rfl
  | _ => rfl

def oneSample : SampleMoment := ((sample "USD" none).play coinAnswers ⟨⟨.empty, []⟩, []⟩).2

def twoSamples : SampleMoment := ((sample "USD" none).play coinAnswers oneSample).2

theorem twoSamples_sampled : Sampled id "USD" [] twoSamples := by
  have more : ∀ {m}, Sampled id "USD" [] m → Sampled id "USD" [] ((sample "USD" none).play coinAnswers m).2 := by
    intro m sampled
    obtain ⟨rest, reached⟩ := (Prog.play_runs coinAnswers_sound (sample "USD" none) m).reaches
    exact .sample sampled (fun _ never => by cases never) reached
  exact more (more .start)

deriving instance DecidableEq for LastPrice

theorem lastPrices_newest_two : ∃ row, twoSamples.world.prices.get? "BTC-USD" = some row ∧
    0 ≤ row.observedAt ∧ Observed id twoSamples.events row :=
  lastPrices_newest twoSamples_sampled ⟨"BTC-USD", 100, 0, "venue"⟩ (by decide +kernel)

end AlgoTrader.Portfolio.EquityHistory
