/-
# Execution.Closure -- close a pending order the venue never received

The closer reads the saved order, asks the venue about it, then about its fills,
and ends it `canceled` only when the venue answered "no such order" and returned
no fill.  Every other answer refuses the close.  It can only read from the venue.

* `close_follows` -- `close` follows an automaton of five requests, and its
  outcome is `CLOSED` exactly at the end of the whole chain.
-/
import AlgoTrader.Process.Rehearsal
import AlgoTrader.Theory.Logic

namespace AlgoTrader.Execution

open AlgoTrader.Core Brokers Theory Process

set_option autoImplicit false

def lookupNotFound : String := "not found (the venue has no record of this order)"

inductive ClosureCode where
  | closed
  | invalidId
  | orderNotFound
  | notUnresolved
  | venueHasOrder
  | venueHasFills
  | lookupFailed
  | notRecorded
  deriving DecidableEq, Repr

/-- What a close attempt did. -/
structure ClosureOutcome where
  code : ClosureCode
  clientOrderId : String
  detail : String
  brokerLookup : String := "not asked"
  record : Option OrderClosureRecord := none

namespace OrderCloser

def refused (code : ClosureCode) (clientOrderId detail : String)
    (brokerLookup : String := "not asked") : ClosureOutcome :=
  { code, clientOrderId, detail, brokerLookup }

/-- `f"{what[0].upper()}{what[1:]}"`. -/
def capitalised (what : String) : String :=
  match what.toList with
  | [] => ""
  | c :: rest => String.ofList (c.toUpper :: rest)

/-- A failed lookup is not an answer. -/
def lookupFailed (clientOrderId what : String) (exc : Exc) : ClosureOutcome :=
  let failure := match exc.statusCode with
    | some status => s!"HTTP {status}"
    | none => exc.typeName
  { code := .lookupFailed, clientOrderId
    detail := s!"{capitalised what} failed ({failure}), so the venue has not said the order is " ++
      "absent. Only a definite not-found answer allows a close. Try again when the venue responds."
    brokerLookup := s!"failed ({failure})" }

variable (clientOrderId actor reason : String)

def closureRecord (order : Order) (closedAt : Timestamp) : OrderClosureRecord where
  order
  previousStatus := order.status
  actor
  reason
  closedAt
  brokerLookup := lookupNotFound

/-- Write the closure; the venue has neither the order nor a fill. -/
def applyClosure (order : Order) : Proc ClosureOutcome := do
  let closedAt ← ask (.host .clock)
  let record := closureRecord actor reason order closedAt
  match ← (ask (.store (.closeUnreceived clientOrderId orderClosedEvent record.toPayload
      closedAt))).attempt with
  | .error exc =>
      if exc.kind = .persistenceUnavailable then
        return refused .notRecorded clientOrderId
          "The closure could not be recorded in the audit history, so it was not applied."
          lookupNotFound
      else .raise exc
  | .ok false =>
      return refused .notUnresolved clientOrderId
        ("The order was resolved by something else while the venue was being asked, so it " ++
          "was left as it is.") lookupNotFound
  | .ok true =>
      return {
        code := .closed, clientOrderId
        detail := "The venue has no record of this order and no fills. It is closed, never " ++
          "resubmitted, and no replacement was created."
        brokerLookup := lookupNotFound, record := some record }

/-- The order is not at the venue; ask for its fills. -/
def askFills (order : Order) : Proc ClosureOutcome := do
  match ← (ask (.broker (.getFills clientOrderId))).attempt with
  | .error exc => return lookupFailed clientOrderId "the fills lookup" exc
  | .ok [] => applyClosure clientOrderId actor reason order
  | .ok fills =>
      return refused .venueHasFills clientOrderId
        (s!"The venue reports {fills.length} fill(s) for this order. It was received, so it " ++
          "is not closed here. Let startup recovery or reconciliation resolve it.")
        s!"not found, but {fills.length} fill(s) reported"

/-- The saved order is unresolved; ask the venue about it. -/
def askVenue (order : Order) : Proc ClosureOutcome := do
  match ← (ask (.broker (.getOrder clientOrderId))).attempt with
  | .error exc => return lookupFailed clientOrderId "the order lookup" exc
  | .ok none => askFills clientOrderId actor reason order
  | .ok (some found) =>
      return refused .venueHasOrder clientOrderId
        (s!"The venue has a record of this order ({found.status.value}). It was received, " ++
          "so it is not closed here. Let startup recovery or reconciliation resolve it.")
        s!"found ({found.status.value})"

/-- Close one order, or say why not. -/
def close : Proc ClosureOutcome :=
  if (Uuid.parse clientOrderId).isNone then
    return refused .invalidId clientOrderId "That is not an order ID."
  else do
    match ← (ask (.store (.get clientOrderId))).attempt with
    | .error exc =>
        if exc.kind = .persistenceUnavailable then
          return refused .notRecorded clientOrderId
            "The order store could not be read, so nothing was changed."
        else .raise exc
    | .ok none => return refused .orderNotFound clientOrderId "No such order is saved here."
    | .ok (some order) =>
        if order.status.unresolved then askVenue clientOrderId actor reason order
        else
          return refused .notUnresolved clientOrderId
            (s!"The order is {order.status.value}. Only a pending_submit or unknown order " ++
              "can be closed.")

end OrderCloser

/-! ## The control flow -/

/-- How far a close attempt has come. -/
inductive CloseStage where
  | start
  | saved (order : Order)
  /-- The venue has no record of the order. -/
  | absent (order : Order)
  /-- Nor any fill. -/
  | unfilled (order : Order)
  | timed (order : Order) (closedAt : Timestamp)
  | closed
  | refused

def afterGet : Except Exc (Option Order) → CloseStage
  | .ok (some order) => if order.status.unresolved then .saved order else .refused
  | _ => .refused

def afterCloseLookup (order : Order) : Except Exc (Option Order) → CloseStage
  | .ok none => .absent order
  | _ => .refused

def afterCloseFills (order : Order) : Except Exc (List Fill) → CloseStage
  | .ok [] => .unfilled order
  | _ => .refused

def afterClock (order : Order) : Except Exc Timestamp → CloseStage
  | .ok closedAt => .timed order closedAt
  | .error _ => .refused

def afterClose : Except Exc Bool → CloseStage
  | .ok true => .closed
  | _ => .refused

inductive CloseEdge (clientOrderId actor reason : String) : Flow effects Exc CloseStage
  | get : CloseEdge clientOrderId actor reason .start (.store (.get clientOrderId)) afterGet
  | lookup (order : Order) :
      CloseEdge clientOrderId actor reason (.saved order) (.broker (.getOrder clientOrderId))
        (afterCloseLookup order)
  | fills (order : Order) :
      CloseEdge clientOrderId actor reason (.absent order) (.broker (.getFills clientOrderId))
        (afterCloseFills order)
  | clock (order : Order) :
      CloseEdge clientOrderId actor reason (.unfilled order) (.host .clock) (afterClock order)
  | close (order : Order) (closedAt : Timestamp) :
      CloseEdge clientOrderId actor reason (.timed order closedAt)
        (.store (.closeUnreceived clientOrderId orderClosedEvent
          (OrderCloser.closureRecord actor reason order closedAt).toPayload closedAt))
        afterClose

/-- The outcome is `CLOSED`. -/
def IsClosed (result : Except Exc ClosureOutcome) : Prop :=
  ∃ outcome, result = .ok outcome ∧ outcome.code = .closed

/-- The outcome is `CLOSED` exactly at the end of the chain. -/
def Concluded (result : Except Exc ClosureOutcome) (stage : CloseStage) : Prop :=
  IsClosed result ↔ stage = .closed

namespace OrderCloser

theorem concluded_refused {outcome : ClosureOutcome} {stage : CloseStage}
    (refusal : outcome.code ≠ .closed) (short : stage ≠ .closed) :
    Concluded (.ok outcome) stage := by
  constructor
  · rintro ⟨_, same, closed⟩
    cases same
    exact absurd closed refusal
  · exact fun ended => absurd ended short

theorem concluded_raise (exc : Exc) : Concluded (.error exc) .refused := by
  constructor
  · rintro ⟨_, same, _⟩
    cases same
  · exact nofun

variable {clientOrderId actor reason : String}

abbrev closeFlow (clientOrderId actor reason : String) : Logic effects Exc CloseStage :=
  Logic.flow (CloseEdge clientOrderId actor reason)

theorem applyClosure_follows (order : Order) :
    wp (closeFlow clientOrderId actor reason) Concluded
      (applyClosure clientOrderId actor reason order) (.unfilled order) := by
  refine wp_bind.2 (wp_call.2 ⟨_, .clock order, ?_⟩)
  rintro (exc | closedAt)
  · exact concluded_raise exc
  refine wp_bind.2 (wp_attempt.2 (wp_call.2 ⟨_, .close order closedAt, ?_⟩))
  rintro (exc | _ | _)
  · simp only [andThen]
    split
    · exact concluded_refused nofun nofun
    · exact concluded_raise exc
  · exact concluded_refused nofun nofun
  · exact ⟨fun _ => rfl, fun _ => ⟨_, rfl, rfl⟩⟩

theorem askFills_follows (order : Order) :
    wp (closeFlow clientOrderId actor reason) Concluded
      (askFills clientOrderId actor reason order) (.absent order) := by
  refine wp_bind.2 (wp_attempt.2 (wp_call.2 ⟨_, .fills order, ?_⟩))
  rintro (exc | _ | ⟨fill, fills⟩)
  · exact concluded_refused nofun nofun
  · exact applyClosure_follows order
  · exact concluded_refused nofun nofun

theorem askVenue_follows (order : Order) :
    wp (closeFlow clientOrderId actor reason) Concluded
      (askVenue clientOrderId actor reason order) (.saved order) := by
  refine wp_bind.2 (wp_attempt.2 (wp_call.2 ⟨_, .lookup order, ?_⟩))
  rintro (exc | _ | found)
  · exact concluded_refused nofun nofun
  · exact askFills_follows order
  · exact concluded_refused nofun nofun

theorem close_follows :
    wp (closeFlow clientOrderId actor reason) Concluded (close clientOrderId actor reason)
      .start := by
  unfold close
  split
  · exact concluded_refused nofun nofun
  refine wp_bind.2 (wp_attempt.2 (wp_call.2 ⟨_, .get, ?_⟩))
  rintro (exc | _ | order)
  · simp only [andThen]
    split
    · exact concluded_refused nofun nofun
    · exact concluded_raise exc
  · exact concluded_refused nofun nofun
  · simp only [andThen, afterGet]
    split
    · exact askVenue_follows order
    · exact concluded_refused nofun nofun

-- From here on `close` is known by `close_follows`; computing it means reading an id.
attribute [irreducible] close

end OrderCloser

end AlgoTrader.Execution
