/-
# Data.Stream -- the live candle stream

One task connects to the venue, subscribes, and reads messages until something fails;
it then drops the bucket in progress, has the closed buckets filled in over REST, waits,
and connects again.  A bucket is emitted once an update for a newer one has come.

The ingestor's fields are read and written by requests of their own, one for each
assignment of the source, so that what a callback or a failure finds is what the code
has assigned by then.  A callback that is not configured is one that does nothing; only
`gap_fill` changes the ingestor by being there.

The two loops are cut off after `fuel` turns.
-/
import AlgoTrader.Brokers.Http
import AlgoTrader.Theory.Dict
import AlgoTrader.Theory.Loops

namespace AlgoTrader.Data

open AlgoTrader.Core Brokers Theory

set_option autoImplicit false

/-! ## Buckets -/

def second : Duration := 1000000

/-- `GRANULARITY_SECONDS[WEBSOCKET_CANDLE_INTERVAL]`: five minutes. -/
def interval : Duration := 300 * second

def websocketCandleInterval : String := "FIVE_MINUTE"

/-- `_bucket_start`: the seconds, cut to whole ones and then to whole intervals. -/
def bucketStart (moment : Timestamp) : Timestamp :=
  (moment.tdiv second).fdiv 300 * interval

/-- The opening time of a bucket. -/
def Aligned (openedAt : Timestamp) : Prop := interval ∣ openedAt

/-! ## Messages -/

/-- A candle as the venue sends it: each field as `int` or `Decimal` reads it, `none`
where it is missing or unreadable. -/
structure RawCandle where
  productId : Option String
  start : Option Int
  /-- `none` when the field is missing, which has a default. -/
  end_ : Option (Option Int)
  openPrice : Option Decimal
  high : Option Decimal
  low : Option Decimal
  close : Option Decimal
  volume : Option Decimal

structure RawTicker where
  productId : Option String
  /-- `raw.get("time", payload.get("timestamp"))`, if that is a string, as
  `datetime.fromisoformat` reads it. -/
  observedAt : Option (Option Timestamp)
  bestBid : Option Decimal
  bestAsk : Option Decimal

structure FeedEvent where
  candles : List RawCandle
  tickers : List RawTicker

structure Payload where
  channel : Option String
  type_ : Option String
  events : List FeedEvent

/-- A message, as `json.loads` reads it. -/
inductive Message where
  | notJson
  | notObject
  | object (payload : Payload)

/-- What waiting for a message comes to. -/
inductive Reception where
  | timeout
  | message (message : Message)

namespace Payload

def isHeartbeat (payload : Payload) : Bool :=
  payload.channel = some "heartbeats" || payload.type_ = some "heartbeat"

end Payload

def malformed (message : String) : Exc :=
  { kind := .valueError, typeName := "MalformedPayload", message }

def staleMarketData (message : String) : Exc :=
  { kind := .provider, typeName := "StaleMarketData", message }

def heartbeatTimeout (message : String) : Exc :=
  { kind := .provider, typeName := "HeartbeatTimeout", message }

/-- The failure of a connection whose heartbeat is too old. -/
def staleHeartbeat : Exc := heartbeatTimeout "Coinbase heartbeat is stale"

def _parseMessage : Message → Except Exc Payload
  | .notJson => .error (malformed "message is not valid JSON")
  | .notObject => .error (malformed "message is not a JSON object")
  | .object payload => .ok payload

/-- `normalize_coinbase_candle`; `none` is any of the errors of a malformed candle. -/
def normalizeCoinbaseCandle (productId : String) (raw : RawCandle) (receivedAt : Timestamp) :
    Option Candle := do
  let start ← raw.start
  let end_ ← raw.end_.getD (some (start + 300))
  let openPrice ← raw.openPrice
  let high ← raw.high
  let low ← raw.low
  let close ← raw.close
  let volume ← raw.volume
  let openedAt : Timestamp := start * second
  let closedAt : Timestamp := end_ * second
  if valid : 0 < openPrice ∧ 0 < high ∧ 0 < low ∧ 0 < close ∧ 0 ≤ volume ∧ openedAt < closedAt ∧
      openPrice ≤ high ∧ low ≤ high ∧ low ≤ close ∧ close ≤ high then
    some
      { symbol := productId, interval := websocketCandleInterval, openedAt, closedAt
        openPrice := ⟨openPrice, valid.1⟩, high := ⟨high, valid.2.1⟩, low := ⟨low, valid.2.2.1⟩
        close := ⟨close, valid.2.2.2.1⟩, volume := ⟨volume, valid.2.2.2.2.1⟩
        source := "coinbase-advanced-trade", asOf := closedAt, ingestedAt := receivedAt
        closeAfterOpen := valid.2.2.2.2.2.1
        highIsHigh := valid.2.2.2.2.2.2.1
        lowIsLow := valid.2.2.2.2.2.2.2.1
        closeIsWithinBar := valid.2.2.2.2.2.2.2.2 }
  else none

/-- The quote of a ticker; `none` is any of the errors of a malformed one. -/
def normalizeTicker (productId : String) (raw : RawTicker) (observedAt : Option Timestamp)
    (receivedAt : Timestamp) : Option Quote := do
  let bid ← raw.bestBid
  let ask ← raw.bestAsk
  let asOf ← observedAt
  if valid : 0 < bid ∧ 0 < ask ∧ bid ≤ ask then
    some
      { symbol := productId, bid := ⟨bid, valid.1⟩, ask := ⟨ask, valid.2.1⟩, asOf
        source := "coinbase-advanced-trade", receivedAt, askNotBelowBid := valid.2.2 }
  else none

/-! ## The ingestor -/

structure Ingestor where
  lastHeartbeat : Option Timestamp
  /-- Opening time of the newest bucket known to be closed, per product. -/
  lastCandleAt : Dict String Timestamp
  openBuckets : Dict String Candle
  lastQuote : Dict String Quote
  connectionHealthy : Bool

/-- The assignments to the ingestor's fields. -/
inductive Assign where
  | lastHeartbeat (at_ : Timestamp)
  | lastCandleAt (product : String) (openedAt : Timestamp)
  | openBucket (product : String) (candle : Candle)
  | clearOpenBuckets
  | lastQuote (product : String) (quote : Quote)
  | connectionHealthy (flag : Bool)

def Assign.apply (ingestor : Ingestor) : Assign → Ingestor
  | .lastHeartbeat at_ => { ingestor with lastHeartbeat := some at_ }
  | .lastCandleAt product openedAt =>
      { ingestor with lastCandleAt := ingestor.lastCandleAt.set product openedAt }
  | .openBucket product candle =>
      { ingestor with openBuckets := ingestor.openBuckets.set product candle }
  | .clearOpenBuckets => { ingestor with openBuckets := .empty }
  | .lastQuote product quote => { ingestor with lastQuote := ingestor.lastQuote.set product quote }
  | .connectionHealthy flag => { ingestor with connectionHealthy := flag }

structure StreamConfig where
  productIds : List String
  gapFill : Bool
  heartbeatTimeout : Duration
  reconnectBase : Duration
  reconnectMax : Duration
  healthyConnection : Duration
  maxConnections : Option Nat

/-- The requests of the stream: its own fields, the stop event and the clock, the
transport, and the callbacks. -/
inductive StreamOp where
  | read
  | assign (change : Assign)
  | stopped
  | clock
  | connect
  | send (channel : String)
  | recv
  | close
  | sleep (delay : Duration)
  | record (payload : Payload) (receivedAt : Timestamp)
  | report (exc : Exc) (stage : String) (attempt : Nat) (backoff : Duration)
  | onCandle (candle : Candle)
  | onQuote (quote : Quote)
  | onHealthy (receivedAt : Timestamp)
  | onDisconnect (at_ : Timestamp) (kind : String)
  | gapFill (product : String) (previous : Option Timestamp) (gapEnd : Timestamp)

abbrev StreamOp.Reply : StreamOp → Type
  | .read => Ingestor
  | .stopped => Bool
  | .clock => Timestamp
  | .recv => Reception
  | _ => Unit

abbrev feed : Signature := ⟨StreamOp, StreamOp.Reply⟩

abbrev Feed (α : Type) := Prog feed Exc α

abbrev want (op : StreamOp) : Feed op.Reply := Prog.call (S := feed) op

/-- `_update_bucket`: hold the bucket in progress; emit it only once a newer one starts. -/
def updateBucket (product : String) (candle : Candle) : Feed Unit := do
  let ingestor ← want .read
  if (ingestor.lastCandleAt.get? product).any (candle.openedAt ≤ ·) then return ()
  else
    match ingestor.openBuckets.get? product with
    | none => want (.assign (.openBucket product candle))
    | some current =>
        -- A late update for a bucket that has already closed.
        if candle.openedAt < current.openedAt then return ()
        else if current.openedAt < candle.openedAt then do
          want (.assign (.lastCandleAt product current.openedAt))
          want (.onCandle current)
          want (.assign (.openBucket product candle))
        else want (.assign (.openBucket product candle))

def handleCandle (receivedAt : Timestamp) (raw : RawCandle) : Feed Unit :=
  match raw.productId with
  | none => pure ()
  | some product =>
      if product = "" then pure ()
      else
        match normalizeCoinbaseCandle product raw receivedAt with
        | none => .raise (malformed "candle payload could not be parsed")
        | some candle => updateBucket product candle

def handleTicker (receivedAt : Timestamp) (raw : RawTicker) : Feed Unit :=
  match raw.productId with
  | none => pure ()
  | some product =>
      if product = "" then pure ()
      else
        match raw.observedAt with
        | none => .raise (staleMarketData "Coinbase ticker omitted its timestamp")
        | some observedAt =>
            match normalizeTicker product raw observedAt receivedAt with
            | none => .raise (malformed "ticker payload could not be parsed")
            | some quote => do
                want (.assign (.lastQuote product quote))
                want (.onQuote quote)

/-- `_handle_payload`. -/
def handlePayload (payload : Payload) (receivedAt : Timestamp) : Feed Unit :=
  if payload.channel = some "candles" then
    Prog.visit (handleCandle receivedAt) (payload.events.flatMap FeedEvent.candles)
  else if payload.channel = some "ticker" then
    Prog.visit (handleTicker receivedAt) (payload.events.flatMap FeedEvent.tickers)
  else pure ()

/-- One turn of `_consume`: whether the connection is healthy by now, or nothing once the
stop event is set. -/
def consumeTurn (config : StreamConfig) (started : Timestamp) (healthy : Bool) :
    Feed (Option Bool) := do
  let stopped ← want .stopped
  if stopped then return none
  else
    match ← want .recv with
    | .timeout => .raise (heartbeatTimeout "Coinbase heartbeat timeout")
    | .message message =>
        match _parseMessage message with
        | .error exc => .raise exc
        | .ok payload => do
            let receivedAt ← want .clock
            want (.record payload receivedAt)
            Prog.when payload.isHeartbeat (want (.assign (.lastHeartbeat receivedAt)))
            let ingestor ← want .read
            if config.heartbeatTimeout < receivedAt - ingestor.lastHeartbeat.getD started then
              .raise staleHeartbeat
            else do
              handlePayload payload receivedAt
              if payload.isHeartbeat && !healthy &&
                  config.healthyConnection ≤ receivedAt - started then do
                want (.assign (.connectionHealthy true))
                -- A failing callback is logged.
                let _ ← (want (.onHealthy receivedAt)).attempt
                return some true
              else return some healthy

/-- `_consume`; `some` when it was cut off. -/
def consume (config : StreamConfig) (fuel : Nat) : Feed (Option Bool) := do
  let started ← want .clock
  Prog.turns (consumeTurn config started) fuel false

/-- `_subscribe`. -/
def subscribe : Feed Unit := Prog.visit (fun channel => want (.send channel)) ["heartbeats", "candles", "ticker"]

/-- `classify_disconnect`, without its note. -/
def classifyDisconnect (exc : Exc) (stage : String) : String :=
  if stage = "connect" then "connect_failed"
  else if stage = "subscribe" then "subscribe_failed"
  else if exc.typeName = "HeartbeatTimeout" then "heartbeat_timeout"
  else if exc.typeName = "StaleMarketData" then "stale_data"
  else if exc.typeName = "MalformedPayload" then "parse_error"
  else if exc.typeName = "ConnectionClosedError" ∨ exc.typeName = "ConnectionClosedOK" then
    "closed_by_peer"
  else "unknown"

/-- `_notify_disconnect`: a diagnostic failure must not stop the reconnect. -/
def notifyDisconnect (kind : String) : Feed Unit := do
  let _ ← (do
    let at_ ← want .clock
    want (.onDisconnect at_ kind)).attempt
  return ()

/-- Fill the closed buckets of one product, up to the one in progress. -/
def fillGap (gapEnd : Timestamp) (product : String) : Feed Unit := do
  let ingestor ← want .read
  let previous := ingestor.lastCandleAt.get? product
  -- No bucket has closed since the last backfill or emitted bar.
  if previous.any (gapEnd - interval ≤ ·) then return ()
  else do
    want (.gapFill product previous gapEnd)
    want (.assign (.lastCandleAt product (gapEnd - interval)))

def fillGaps (config : StreamConfig) : Feed Unit := do
  let now ← want .clock
  Prog.visit (fillGap (bucketStart now)) config.productIds

/-- What `run` carries from one connection to the next. -/
structure Retry where
  attempts : Nat
  delay : Duration

/-- The handler of a failed connection; nothing once the stop event is set. -/
def recover (config : StreamConfig) (retry : Retry) (exc : Exc) (stage : String) :
    Feed (Option Retry) := do
  -- The bucket in progress at the disconnect never closed on the stream.
  want (.assign .clearOpenBuckets)
  want (.report exc stage retry.attempts retry.delay)
  let stopped ← want .stopped
  Prog.when (!stopped) (notifyDisconnect (classifyDisconnect exc stage))
  Prog.when config.gapFill do
    let stopped ← want .stopped
    Prog.when (!stopped) (fillGaps config)
  let stopped ← want .stopped
  if stopped then return none
  else do
    let ingestor ← want .read
    let delay := if ingestor.connectionHealthy then config.reconnectBase else retry.delay
    want (.sleep delay)
    return some { retry with delay := min config.reconnectMax (delay * 2) }

/-- How a connection that came up ended. -/
inductive Ending where
  | cutOff
  | ended (outcome : Except Exc (Option Retry))

/-- The body of the `try` once the transport is there, with its handler. -/
def serveConnection (config : StreamConfig) (fuel : Nat) (retry : Retry) : Feed Ending := do
  match ← subscribe.attempt with
  | .error exc => return .ended (← (recover config retry exc "subscribe").attempt)
  | .ok _ =>
      match ← (consume config fuel).attempt with
      | .error exc => return .ended (← (recover config retry exc "consume").attempt)
      | .ok (some _) => return .cutOff
      | .ok none => return .ended (.ok (some retry))

/-- One turn of `run`: what to go on with, or nothing when the loop is over. -/
def runTurn (config : StreamConfig) (fuel : Nat) (before : Retry) : Feed (Option Retry) := do
  let stopped ← want .stopped
  if stopped then return none
  else if config.maxConnections.any (· ≤ before.attempts) then return none
  else do
    let retry := { before with attempts := before.attempts + 1 }
    want (.assign (.connectionHealthy false))
    match ← (want .connect).attempt with
    | .error exc => recover config retry exc "connect"
    | .ok _ =>
        match ← serveConnection config fuel retry with
        | .cutOff => return none
        | .ended outcome => do
            want .close
            match outcome with
            | .ok next => return next
            | .error exc => .raise exc

def run (config : StreamConfig) (fuel : Nat) : Feed (Option Retry) :=
  Prog.turns (runTurn config fuel) fuel ⟨0, config.reconnectBase⟩

/-! ## The world of the stream -/

structure FeedWorld where
  ingestor : Ingestor
  stop : Bool
  /-- The time, whatever a clock says. -/
  now : Timestamp

/-- While a request is awaited, time passes and the stop event may be set. -/
def Elapsed (w w' : FeedWorld) : Prop :=
  w'.ingestor = w.ingestor ∧ (w.stop = true → w'.stop = true) ∧ w.now ≤ w'.now

/-- Only the task itself writes the ingestor's fields; the transport and the callbacks may
answer and raise anything, and a clock may say anything. -/
def FeedServe : Service feed Exc FeedWorld
  | .read, w, reply, w' => reply = .ok w.ingestor ∧ w' = w
  | .assign change, w, reply, w' =>
      reply = .ok () ∧ w' = { w with ingestor := change.apply w.ingestor }
  | .stopped, w, reply, w' => reply = .ok w.stop ∧ w' = w
  | .clock, w, reply, w' => (∃ reading, reply = .ok reading) ∧ Elapsed w w'
  | .report .., w, reply, w' => reply = .ok () ∧ w' = w
  | _, w, _, w' => Elapsed w w'

abbrev FeedMoment := Moment feed Exc FeedWorld

abbrev Streamed := Event feed Exc FeedWorld

end AlgoTrader.Data
