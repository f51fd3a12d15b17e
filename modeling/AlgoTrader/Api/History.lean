/-
# Api.History -- the query parameters of the operator's history

`parseQuery` turns the parameters of a request into a bounded query: a window of at
most 31 days, a page of at most 100 rows, and known filters.  What it does not
accept it refuses with the list of its reasons; what it does not foresee it raises
as the conversion it called does.

Three things of Python are parameters of the model: `datetime.fromisoformat`,
`repr` and `upper` of a string.

* `Cursor.decode_encode` -- a cursor reads back as it was written;
* `parseQuery_answers_iff` -- when a request is answered with a bounded query or
  refused.
-/
import AlgoTrader.Core.Calendar
import AlgoTrader.Risk.Engine

namespace AlgoTrader.Api.History

open AlgoTrader.Core

set_option autoImplicit false

/-! ## Cursors -/

structure Cursor where
  at_ : DateTime
  key : Uuid
  deriving DecidableEq

namespace Cursor

def encode (cursor : Cursor) : String :=
  String.ofList (cursor.at_.compact ++ '-' :: Uuid.hexDigits 32 cursor.key.int)

def isStamp (text : List Char) : Bool :=
  text.length = 22 && (text.take 8).all DateTime.isDecimal && text[8]? = some 'T' &&
    ((text.drop 9).take 12).all DateTime.isDecimal && text[21]? = some 'Z'

def isLowerHex (c : Char) : Bool := DateTime.between '0' '9' c || DateTime.between 'a' 'f' c

/-- `Cursor.decode`: the pattern `(\d{8}T\d{12}Z)-([0-9a-f]{32})`, then its two groups.
Every failure is a `ValueError`. -/
def decode (value : String) : Option Cursor :=
  let stamp := value.toList.take 22
  let rest := value.toList.drop 22
  if isStamp stamp && rest.head? = some '-' && rest.tail.length = 32 && rest.tail.all isLowerHex then
    (DateTime.parseCompact stamp).bind fun at_ =>
      (Uuid.parseChars rest.tail).map fun key => ⟨at_, key⟩
  else none

theorem isStamp_compact (t : DateTime) (four : 1000 ≤ t.year) : isStamp t.compact = true := by
  rw [DateTime.compact_fields t four]
  simp [isStamp]

theorem isLowerHex_hexChar : ∀ d < 16, isLowerHex (Uuid.hexChar d) = true := by decide

/-- **A cursor with a year of four digits reads back as it was written.** -/
theorem decode_encode (cursor : Cursor) (four : 1000 ≤ cursor.at_.year) :
    decode cursor.encode = some cursor := by
  have long := DateTime.length_compact cursor.at_ four
  have key : (Uuid.hexDigits 32 cursor.key.int).all isLowerHex = true := by
    refine List.all_eq_true.2 fun c member => ?_
    obtain ⟨d, small, rfl⟩ := Uuid.mem_hexDigits member
    exact isLowerHex_hexChar d small
  rw [decode, encode, String.toList_ofList, List.take_left' long, List.drop_left' long]
  simp [isStamp_compact cursor.at_ four, key, DateTime.parseCompact_compact cursor.at_ four,
    Uuid.parseChars_hexDigits]

end Cursor

/-! ## Kinds and filters -/

inductive Kind where
  | orders
  | signals
  | riskDecisions
  | discrepancies
  | events
  | refusals
  deriving DecidableEq, Repr

inductive FilterKind where
  | text
  | choice (choices : List String)
  | uuid
  deriving DecidableEq

structure Filter where
  name : String
  kind : FilterKind
  deriving DecidableEq

def symbolFilter : Filter := ⟨"symbol", .text⟩

def strategyFilter : Filter := ⟨"strategy_version", .text⟩

def correlationFilter : Filter := ⟨"correlation_id", .uuid⟩

def orderStatuses : List String :=
  [.pendingSubmit, .unknown, .open, .partiallyFilled, .filled, .canceled, .rejected].map
    OrderStatus.value

/-- The names of `RISK_GATES`, and the gate the trading cycle refuses with. -/
def gateNames : List String := Risk.riskGates.map Prod.fst ++ ["risk_inputs"]

def discrepancyTypes : List String := ["order", "fill", "position", "balance"]

def eventTypes : List String :=
  ["kill_switch_transition", "disconnect", "gap_fill", "heartbeat", "restart",
    "order_closed_never_received", "alerts_dismissed"]

/-- `FILTERS[kind]`. -/
def filters : Kind → List Filter
  | .orders => [symbolFilter, ⟨"status", .choice orderStatuses⟩, strategyFilter,
      ⟨"client_order_id", .uuid⟩, correlationFilter]
  | .signals => [symbolFilter, strategyFilter]
  | .riskDecisions => [⟨"outcome", .choice ["approved", "refused"]⟩,
      ⟨"failed_gate", .choice gateNames⟩, symbolFilter, strategyFilter, correlationFilter]
  | .discrepancies => [⟨"entity_type", .choice discrepancyTypes⟩]
  | .events => [⟨"event_type", .choice eventTypes⟩]
  | .refusals => []

def filterNames (kind : Kind) : List String := (filters kind).map (·.name)

def paging : List String := ["since", "until", "window", "limit", "before"]

def defaultLimit : Nat := 25

def maxLimit : Nat := 100

def textLimit : Nat := 128

def hour : Duration := 3600 * 1000000

/-- `WINDOWS`. -/
def windows : List (String × Duration) :=
  [("1h", hour), ("24h", 24 * hour), ("7d", 7 * 24 * hour), ("31d", 31 * 24 * hour)]

def defaultWindow : String := "24h"

def maxWindow : Duration := 31 * 24 * hour

inductive FilterValue where
  | text (value : String)
  | uuid (value : Uuid)
  deriving DecidableEq

structure HistoryQuery where
  kind : Kind
  since : UtcInstant
  until_ : UtcInstant
  limit : Nat
  window : Option String
  before : Option Cursor
  filters : List (String × FilterValue)

inductive Raised where
  /-- `HistoryQueryRefused`. -/
  | refused (errors : List String)
  | valueError
  | overflowError
  | assertionError

/-- What `fromisoformat` reads: the fields as if they were UTC, and the offset if one is
written. -/
structure IsoTime where
  wall : UtcInstant
  offset : Option Duration

/-- `astimezone(UTC)`, of a time that is taken for UTC when it has no offset. -/
def IsoTime.toUtc (time : IsoTime) : Option UtcInstant :=
  match time.offset with
  | none => some time.wall
  | some offset => UtcInstant.sub time.wall offset

/-- What the parser uses of Python. -/
structure Python where
  /-- `datetime.fromisoformat`, or nothing where it raises `ValueError`. -/
  fromIsoFormat : String → Option IsoTime
  repr : String → String
  upper : String → String

/-! ## Parsing -/

section Parsing

variable (py : Python) (kind : Kind)

/-- What is known of the parameters that were gone through. -/
structure Given where
  values : List (String × String)
  seen : List String
  errors : List String

def stripped (raw : String) : String := String.ofList (Text.strip raw.toList)

def takeItem (given : Given) (item : String × String) : Given :=
  let (key, raw) := item
  if key ∉ filterNames kind ∧ key ∉ paging then
    { given with errors := given.errors ++
        ["Unknown parameter " ++ py.repr (String.ofList (key.toList.take textLimit)) ++ "."] }
  else if key ∈ given.seen then
    { given with errors := given.errors ++ ["Give " ++ py.repr key ++ " once."] }
  else
    { given with
      seen := given.seen ++ [key]
      values := if stripped raw = "" then given.values else given.values ++ [(key, stripped raw)] }

def takeItems (items : List (String × String)) : Given :=
  items.foldl (takeItem py kind) ⟨[], [], []⟩

/-- Values as the parser keeps them: at most one for each key. -/
abbrev Values := List (String × String)

def limitError : String := "limit must be a whole number from 1 to 100."

def readLimit (values : Values) : Except Raised (Nat × List String) :=
  match values.lookup "limit" with
  | none => .ok (defaultLimit, [])
  | some text =>
    if !Text.allDigits text.toList then .ok (defaultLimit, [limitError])
    else match Text.intOf text.toList with
      | none => .error .valueError
      | some n =>
          if 1 ≤ n ∧ n ≤ maxLimit then .ok (n.toNat, []) else .ok (defaultLimit, [limitError])

def isoError (name : String) : String :=
  name ++ " must be an ISO 8601 time, for example 2026-09-27T12:00:00Z."

def moment (text name : String) : Except Raised (Option UtcInstant × List String) :=
  match py.fromIsoFormat text with
  | none => .ok (none, [isoError name])
  | some time =>
    match time.toUtc with
    | none => .error .overflowError
    | some instant => .ok (some instant, [])

def readUntil (values : Values) (now : UtcInstant) : Except Raised (UtcInstant × List String) :=
  match values.lookup "until" with
  | none => .ok (now, [])
  | some text => (moment py text "until").map fun read => (read.1.getD now, read.2)

/-- The window a request asks for, and whether there is one of that name. -/
def windowOf (values : Values) : String × Duration × List String :=
  let window := (values.lookup "window").getD defaultWindow
  match windows.lookup window with
  | some span => (window, span, [])
  | none => (defaultWindow, 24 * hour,
      ["window must be one of " ++ ", ".intercalate (windows.map Prod.fst) ++ "."])

structure Since where
  since : Option UtcInstant
  window : Option String
  errors : List String

def readSince (values : Values) (until_ : UtcInstant) : Except Raised Since :=
  match values.lookup "since", values.lookup "window" with
  | some _, some _ => .ok ⟨none, none, ["Give since or window, not both."]⟩
  | some text, none => (moment py text "since").map fun read => ⟨read.1, none, read.2⟩
  | none, _ =>
    let (window, span, errors) := windowOf values
    match until_.sub span with
    | none => .error .overflowError
    | some since => .ok ⟨some since, some window, errors⟩

def boundErrors (since : Option UtcInstant) (until_ : UtcInstant) : List String :=
  match since with
  | none => []
  | some since =>
      if until_.1 ≤ since.1 then ["since must be earlier than until."]
      else if maxWindow < until_.1 - since.1 then ["The time window can be at most 31 days."]
      else []

def readBefore (values : Values) : Option Cursor × List String :=
  match values.lookup "before" with
  | none => (none, [])
  | some text =>
    match Cursor.decode text with
    | none => (none, ["before is not a cursor from a previous page."])
    | some cursor => (some cursor, [])

/-- One value that may be a filter's: the filter it becomes, or what is wrong with it. -/
def readFilter (item : String × String) : List (String × FilterValue) × List String :=
  let (name, value) := item
  match (filters kind).find? fun filter => filter.name = name with
  | none => ([], [])
  | some filter =>
    let text := if name = "symbol" then py.upper value else value
    let bounded : List (String × FilterValue) × List String :=
      if textLimit < value.length then ([], [name ++ " can be at most 128 characters."])
      else ([(name, .text text)], [])
    match filter.kind with
    | .choice choices =>
        if value ∉ choices then ([], [name ++ " must be one of " ++ ", ".intercalate choices ++ "."])
        else bounded
    | .uuid =>
        match Uuid.parse value with
        | none => ([], [name ++ " must be a UUID."])
        | some key => ([(name, .uuid key)], [])
    | .text => bounded

def readFilters (values : Values) : List (String × FilterValue) × List String :=
  ((values.map (readFilter py kind)).flatMap Prod.fst,
    (values.map (readFilter py kind)).flatMap Prod.snd)

/-- The end of the parser: every reason for a refusal is reported at once. -/
def conclude (errors : List String) (since : Since) (until_ : UtcInstant) (limit : Nat)
    (before : Option Cursor) (read : List (String × FilterValue)) :
    Except Raised HistoryQuery :=
  if errors ≠ [] then .error (.refused errors)
  else match since.since with
    | none => .error .assertionError
    | some start => .ok ⟨kind, start, until_, limit, since.window, before, read⟩

def parseQuery (items : List (String × String)) (now : UtcInstant) : Except Raised HistoryQuery := do
  let given := takeItems py kind items
  let limit ← readLimit given.values
  let until_ ← readUntil py given.values now
  let since ← readSince py given.values until_.1
  let before := readBefore given.values
  let read := readFilters py kind given.values
  conclude kind (given.errors ++ limit.2 ++ until_.2 ++ since.errors ++
    boundErrors since.since until_.1 ++ before.2 ++ read.2) since until_.1 limit.1 before.1 read.1

end Parsing

/-! ## When a request is answered -/

section Answers

variable (py : Python) (kind : Kind)

/-- A window of at most 31 days, a page of at most 100 rows, and filters of the kind. -/
structure Bounded (query : HistoryQuery) : Prop where
  ordered : query.since.1 < query.until_.1
  window : query.until_.1 - query.since.1 ≤ maxWindow
  limit : 1 ≤ query.limit ∧ query.limit ≤ maxLimit
  filters : ∀ filter ∈ query.filters, filter.1 ∈ filterNames kind

/-- A bounded query, or a refusal. -/
def Answered (result : Except Raised HistoryQuery) : Prop :=
  (∃ errors, result = .error (.refused errors)) ∨
    ∃ query, result = .ok query ∧ Bounded kind query

/-- The end of the window that is asked for. -/
def untilOf (values : Values) (now : UtcInstant) : UtcInstant :=
  (((values.lookup "until").bind py.fromIsoFormat).bind IsoTime.toUtc).getD now

/-- Every conversion the parser makes succeeds: a limit of digits is a number, a time
that can be read can be expressed in UTC, and the window does not begin before the
calendar. -/
structure Readable (values : Values) (now : UtcInstant) : Prop where
  limit : ∀ text, values.lookup "limit" = some text → Text.allDigits text.toList = true →
    (Text.intOf text.toList).isSome
  until_ : ∀ text, values.lookup "until" = some text → ∀ time, py.fromIsoFormat text = some time →
    time.toUtc.isSome
  since : ∀ text, values.lookup "since" = some text → values.lookup "window" = none →
    ∀ time, py.fromIsoFormat text = some time → time.toUtc.isSome
  window : values.lookup "since" = none →
    ((untilOf py values now).sub (windowOf values).2.1).isSome

variable {kind} {values : Values} {now : UtcInstant}

theorem readLimit_spec (values : Values) :
    (∃ limit errors, readLimit values = .ok (limit, errors) ∧ 1 ≤ limit ∧ limit ≤ maxLimit ∧
      ∀ text, values.lookup "limit" = some text → Text.allDigits text.toList = true →
        (Text.intOf text.toList).isSome) ∨
    (readLimit values = .error .valueError ∧
      ∃ text, values.lookup "limit" = some text ∧ Text.allDigits text.toList = true ∧
        Text.intOf text.toList = none) := by
  unfold readLimit
  cases given : values.lookup "limit" with
  | none => exact .inl ⟨_, _, rfl, by decide, by decide, nofun⟩
  | some text =>
    by_cases digits : Text.allDigits text.toList = true
    swap
    · refine .inl ⟨defaultLimit, [limitError], if_pos (by simpa using digits), by decide,
        by decide, ?_⟩
      intro _ same isDigits
      obtain rfl := Option.some.inj same
      exact absurd isDigits digits
    dsimp only
    rw [if_neg (by simpa using digits)]
    cases read : Text.intOf text.toList with
    | none => exact .inr ⟨rfl, text, rfl, digits, read⟩
    | some n =>
      have found : ∀ other, some text = some other → Text.allDigits other.toList = true →
          (Text.intOf other.toList).isSome := by
        intro _ same _
        obtain rfl := Option.some.inj same
        simp [read]
      dsimp only
      by_cases inside : 1 ≤ n ∧ n ≤ maxLimit
      · rw [if_pos inside]
        exact .inl ⟨n.toNat, [], rfl, by omega, by omega, found⟩
      · rw [if_neg inside]
        exact .inl ⟨_, _, rfl, by decide, by decide, found⟩

/-- A moment is read unless it lies outside the calendar in UTC. -/
theorem moment_spec (text name : String) :
    ((∀ time, py.fromIsoFormat text = some time → time.toUtc.isSome) ∧
      ∃ errors, moment py text name =
        .ok ((py.fromIsoFormat text).bind IsoTime.toUtc, errors) ∧
        ((py.fromIsoFormat text).bind IsoTime.toUtc = none → errors ≠ [])) ∨
    (¬(∀ time, py.fromIsoFormat text = some time → time.toUtc.isSome) ∧
      moment py text name = .error .overflowError) := by
  unfold moment
  cases read : py.fromIsoFormat text with
  | none =>
    exact .inl ⟨by simp, [isoError name], rfl, by simp⟩
  | some time =>
    cases inside : time.toUtc with
    | none =>
      refine .inr ⟨fun all => ?_, by simp only [inside]⟩
      have := all time rfl
      simp [inside] at this
    | some instant =>
      refine .inl ⟨?_, [], by simp [inside], by simp [inside]⟩
      intro _ same
      obtain rfl := Option.some.inj same
      simp [inside]

theorem readUntil_spec (values : Values) (now : UtcInstant) :
    ((∀ text, values.lookup "until" = some text → ∀ time, py.fromIsoFormat text = some time →
        time.toUtc.isSome) ∧
      ∃ errors, readUntil py values now = .ok (untilOf py values now, errors)) ∨
    (¬(∀ text, values.lookup "until" = some text → ∀ time, py.fromIsoFormat text = some time →
        time.toUtc.isSome) ∧ readUntil py values now = .error .overflowError) := by
  unfold readUntil untilOf
  cases given : values.lookup "until" with
  | none => exact .inl ⟨nofun, [], rfl⟩
  | some text =>
    rcases moment_spec py text "until" with ⟨fine, errors, read, -⟩ | ⟨bad, raised⟩
    · refine .inl ⟨fun _ same => Option.some.inj same ▸ fine, errors, ?_⟩
      simp only [read, Except.map, Option.bind_some]
    · exact .inr ⟨fun all => bad (all text rfl), by simp only [raised, Except.map]⟩

theorem readSince_spec (values : Values) (until_ : UtcInstant) :
    (((∀ text, values.lookup "since" = some text → values.lookup "window" = none →
          ∀ time, py.fromIsoFormat text = some time → time.toUtc.isSome) ∧
        (values.lookup "since" = none → (until_.sub (windowOf values).2.1).isSome)) ∧
      ∃ since, readSince py values until_ = .ok since ∧
        (since.since = none → since.errors ≠ [])) ∨
    (¬((∀ text, values.lookup "since" = some text → values.lookup "window" = none →
          ∀ time, py.fromIsoFormat text = some time → time.toUtc.isSome) ∧
        (values.lookup "since" = none → (until_.sub (windowOf values).2.1).isSome)) ∧
      readSince py values until_ = .error .overflowError) := by
  unfold readSince
  cases since : values.lookup "since" with
  | some text =>
    cases window : values.lookup "window" with
    | some name =>
      exact .inl ⟨⟨fun _ _ => nofun, nofun⟩, _, rfl, fun _ => List.cons_ne_nil _ _⟩
    | none =>
      rcases moment_spec py text "since" with ⟨fine, errors, read, missing⟩ | ⟨bad, raised⟩
      · refine .inl ⟨⟨fun _ same _ => Option.some.inj same ▸ fine, nofun⟩,
          ⟨(py.fromIsoFormat text).bind IsoTime.toUtc, none, errors⟩, ?_, missing⟩
        simp only [read, Except.map]
      · exact .inr ⟨fun all => bad (all.1 text rfl rfl), by simp only [raised, Except.map]⟩
  | none =>
    cases start : until_.sub (windowOf values).2.1 with
    | none =>
      refine .inr ⟨fun all => ?_, by simp only [start]⟩
      have := all.2 rfl
      simp at this
    | some instant =>
      exact .inl ⟨⟨nofun, fun _ => rfl⟩,
        ⟨some instant, some (windowOf values).1, (windowOf values).2.2⟩, by simp only [start], nofun⟩

theorem readFilter_named (item : String × String) :
    ∀ filter ∈ (readFilter py kind item).1, filter.1 ∈ filterNames kind := by
  obtain ⟨name, value⟩ := item
  cases found : (filters kind).find? fun filter => filter.name = name with
  | none => simp [readFilter, found]
  | some filter =>
    have named : name ∈ filterNames kind := by
      have same : filter.name = name := by simpa using List.find?_some found
      exact List.mem_map.2 ⟨filter, List.mem_of_find?_eq_some found, same⟩
    intro read member
    have same : read.1 = name := by
      simp only [readFilter, found] at member
      cases choice : filter.kind with
      | text =>
        simp only [choice] at member
        split at member <;> simp_all
      | choice choices =>
        simp only [choice] at member
        split at member
        · simp at member
        · split at member <;> simp_all
      | uuid =>
        simp only [choice] at member
        split at member <;> simp_all
    rw [same]
    exact named

theorem readFilters_named (values : Values) :
    ∀ filter ∈ (readFilters py kind values).1, filter.1 ∈ filterNames kind := by
  intro filter member
  obtain ⟨read, listed, within⟩ := List.mem_flatMap.1 member
  obtain ⟨item, -, rfl⟩ := List.mem_map.1 listed
  exact readFilter_named py item filter within

/-- A window without errors is bounded. -/
theorem boundErrors_nil {since until_ : UtcInstant} (fine : boundErrors (some since) until_ = []) :
    since.1 < until_.1 ∧ until_.1 - since.1 ≤ maxWindow := by
  simp only [boundErrors] at fine
  split at fine
  · cases fine
  · split at fine
    · cases fine
    · rename_i ordered short
      exact ⟨Int.not_le.1 ordered, Int.not_lt.1 short⟩

/-- The parser ends in a refusal or in a bounded query. -/
theorem conclude_answered {errors : List String} {since : Since} {until_ : UtcInstant} {limit : Nat}
    {before : Option Cursor} {read : List (String × FilterValue)}
    (missing : since.since = none → since.errors ≠ [])
    (known : since.errors = [] ∧ boundErrors since.since until_ = [] ∨ errors ≠ [])
    (inRange : 1 ≤ limit ∧ limit ≤ maxLimit)
    (named : ∀ filter ∈ read, filter.1 ∈ filterNames kind) :
    Answered kind (conclude kind errors since until_ limit before read) := by
  by_cases bad : errors ≠ []
  · exact .inl ⟨errors, if_pos bad⟩
  obtain ⟨noErrors, bounds⟩ := known.resolve_right bad
  have outcome : conclude kind errors since until_ limit before read = _ := if_neg bad
  rw [outcome]
  cases start : since.since with
  | none => exact absurd noErrors (missing start)
  | some instant =>
    rw [start] at bounds
    obtain ⟨ordered, window⟩ := boundErrors_nil bounds
    exact .inr ⟨_, rfl, ordered, window, inRange, named⟩

theorem not_answered {result : Except Raised HistoryQuery}
    (raised : result = .error .valueError ∨ result = .error .overflowError) :
    ¬Answered kind result := by
  rintro (⟨errors, refused⟩ | ⟨query, done, -⟩)
  · rcases raised with raised | raised <;> cases raised.symm.trans refused
  · rcases raised with raised | raised <;> cases raised.symm.trans done

/-- A request is answered, with a bounded query or with a refusal, exactly when every
conversion of its values succeeds. -/
theorem parseQuery_answers_iff (py : Python) (kind : Kind) (items : List (String × String))
    (now : UtcInstant) :
    Answered kind (parseQuery py kind items now) ↔
      Readable py (takeItems py kind items).values now := by
  have limits := readLimit_spec (takeItems py kind items).values
  have untils := readUntil_spec py (takeItems py kind items).values now
  have sinces := readSince_spec py (takeItems py kind items).values
    (untilOf py (takeItems py kind items).values now)
  rcases limits with ⟨limit, limitErrors, limited, low, high, numbers⟩ | ⟨raised, text, given, digits, none_⟩
  swap
  · constructor
    · intro answered
      refine absurd answered (not_answered (.inl ?_))
      simp only [parseQuery, raised, bind, Except.bind]
    · intro readable
      have := readable.limit text given digits
      simp [none_] at this
  rcases untils with ⟨fineUntil, untilErrors, readUntil⟩ | ⟨bad, raised⟩
  swap
  · constructor
    · intro answered
      refine absurd answered (not_answered (.inr ?_))
      simp only [parseQuery, limited, raised, bind, Except.bind]
    · exact fun readable => absurd readable.until_ bad
  rcases sinces with ⟨⟨fineSince, fineWindow⟩, since, readSince, missing⟩ | ⟨bad, raised⟩
  swap
  · constructor
    · intro answered
      refine absurd answered (not_answered (.inr ?_))
      simp only [parseQuery, limited, readUntil, raised, bind, Except.bind]
    · exact fun readable => absurd ⟨readable.since, readable.window⟩ bad
  refine ⟨fun _ => ⟨numbers, fineUntil, fineSince, fineWindow⟩, fun _ => ?_⟩
  have outcome : parseQuery py kind items now =
      conclude kind
        ((takeItems py kind items).errors ++ limitErrors ++ untilErrors ++ since.errors ++
          boundErrors since.since (untilOf py (takeItems py kind items).values now) ++
          (readBefore (takeItems py kind items).values).2 ++
          (readFilters py kind (takeItems py kind items).values).2)
        since (untilOf py (takeItems py kind items).values now) limit
        (readBefore (takeItems py kind items).values).1
        (readFilters py kind (takeItems py kind items).values).1 := by
    simp only [parseQuery, limited, readUntil, readSince, bind, Except.bind]
  rw [outcome]
  refine conclude_answered missing ?_ ⟨low, high⟩ (readFilters_named py _)
  by_cases fine : since.errors = [] ∧ boundErrors since.since
      (untilOf py (takeItems py kind items).values now) = []
  · exact .inl fine
  · refine .inr fun nothing => fine ?_
    simp only [List.append_eq_nil_iff] at nothing
    exact ⟨nothing.1.1.1.2, nothing.1.1.2⟩

/-- A superscript is a digit and no number: the request is not answered. -/
theorem superscript_limit_raises :
    ¬Answered .orders (parseQuery ⟨fun _ => none, id, id⟩ .orders [("limit", "²")]
      ⟨1790510400000000, by decide⟩) :=
  not_answered (.inl rfl)

end Answers

end AlgoTrader.Api.History
