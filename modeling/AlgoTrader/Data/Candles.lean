/-
# Data.Candles -- the candle store and the validator

One candle is kept for each symbol, interval and opening time.  A write of several is all
or nothing; a candle with the same key is replaced.

The validator refuses a series with a repeated candle, one of the wrong length, one out
of order or not right after the one before it, or one that opens too far from the last
close.
-/
import Mathlib.Data.List.Chain
import AlgoTrader.Brokers.Http
import AlgoTrader.Theory.Dict

namespace AlgoTrader.Data

open AlgoTrader.Core Brokers Theory

set_option autoImplicit false

/-! ## The store -/

/-- Symbol, interval, and opening time. -/
abbrev CandleKey := String × String × Timestamp

def candleKey (candle : Candle) : CandleKey := (candle.symbol, candle.interval, candle.openedAt)

structure CandleStore where
  candles : Dict CandleKey Candle

namespace CandleStore

def empty : CandleStore := ⟨.empty⟩

/-- The opening times kept of a symbol. -/
def openings (store : CandleStore) (symbol interval : String) : List Timestamp :=
  store.candles.keys.filterMap fun key =>
    if key.1 = symbol ∧ key.2.1 = interval then some key.2.2 else none

def latestOpenedAt (store : CandleStore) (symbol interval : String) : Option Timestamp :=
  (store.openings symbol interval).max?

/-- `upsert_many`, without its count. -/
def upsertMany (store : CandleStore) (candles : List Candle) : CandleStore :=
  ⟨candles.foldl (fun kept candle => kept.set (candleKey candle) candle) store.candles⟩

/-- The number of candles that were not there before. -/
def inserted (store : CandleStore) (candles : List Candle) : Nat :=
  (store.upsertMany candles).candles.entries.length - store.candles.entries.length

/-- The candles of a symbol, by opening time. -/
def read (store : CandleStore) (symbol interval : String) : List Candle :=
  (store.candles.values.filter fun candle =>
    candle.symbol = symbol ∧ candle.interval = interval).mergeSort (·.openedAt ≤ ·.openedAt)

/-- The newest candles, oldest first. -/
def latest (store : CandleStore) (symbol interval : String) (limit : Int) :
    Except Exc (List Candle) :=
  if limit ≤ 0 then .error (.valueError "candle limit must be positive")
  else
    let rows := store.read symbol interval
    .ok (rows.drop (rows.length - limit.toNat))

/-- `prune_before`: the oldest candles opened before the cutoff, at most so many. -/
def pruneBefore (store : CandleStore) (symbol interval : String) (cutoff : Timestamp) (limit : Nat) :
    Except Exc (Nat × CandleStore) :=
  if limit = 0 then .error (.valueError "prune limit must be positive")
  else
    let old := (((store.openings symbol interval).filter (· < cutoff)).mergeSort (· ≤ ·)).take limit
    .ok (old.length, ⟨store.candles.filter fun entry =>
      ¬ (entry.1.1 = symbol ∧ entry.1.2.1 = interval ∧ entry.1.2.2 ∈ old)⟩)

/-- A candle is kept for this opening time. -/
def Holds (store : CandleStore) (symbol interval : String) (openedAt : Timestamp) : Prop :=
  (symbol, interval, openedAt) ∈ store.candles.keys

section Reading

variable {store : CandleStore} {symbol interval : String} {openedAt : Timestamp}

theorem mem_openings : openedAt ∈ store.openings symbol interval ↔
    store.Holds symbol interval openedAt := by
  unfold openings Holds
  rw [List.mem_filterMap]
  constructor
  · intro member
    obtain ⟨⟨symbol', interval', at_⟩, kept, is⟩ := member
    split at is
    · rename_i same
      obtain ⟨rfl, rfl⟩ := same
      cases is
      exact kept
    · cases is
  · intro kept
    exact ⟨_, kept, if_pos ⟨rfl, rfl⟩⟩

theorem latestOpenedAt_newest {latest : Timestamp}
    (is : store.latestOpenedAt symbol interval = some latest) :
    store.Holds symbol interval latest ∧
      ∀ openedAt, store.Holds symbol interval openedAt → openedAt ≤ latest := by
  obtain ⟨member, newest⟩ := List.max?_eq_some_iff.1 is
  exact ⟨mem_openings.1 member, fun openedAt kept => newest openedAt (mem_openings.2 kept)⟩

theorem latestOpenedAt_none (none_ : store.latestOpenedAt symbol interval = none) (openedAt : Timestamp) :
    ¬ store.Holds symbol interval openedAt := by
  intro held
  rw [latestOpenedAt, List.max?_eq_none_iff] at none_
  rw [← mem_openings, none_] at held
  cases held

theorem holds_set {d : Dict CandleKey Candle} {candle : Candle} {key : CandleKey} :
    key ∈ (d.set (candleKey candle) candle).keys ↔ key = candleKey candle ∨ key ∈ d.keys := by
  rw [← Dict.isSome_get?, Dict.get?_set]
  split
  · rename_i same
    simp [same]
  · rename_i other
    simp [other, Dict.isSome_get?]

theorem holds_upsertMany {candles : List Candle} :
    (store.upsertMany candles).Holds symbol interval openedAt ↔
      store.Holds symbol interval openedAt ∨
        ∃ candle ∈ candles, candleKey candle = (symbol, interval, openedAt) := by
  obtain ⟨kept⟩ := store
  unfold upsertMany Holds
  induction candles generalizing kept with
  | nil => simp
  | cons candle rest ih =>
      have first : (symbol, interval, openedAt) ∈ (kept.set (candleKey candle) candle).keys ↔ _ :=
        holds_set
      simp only [List.foldl_cons, ih, first, List.mem_cons, exists_eq_or_imp]
      rw [eq_comm (a := candleKey candle)]
      tauto

/-- Where a key stands for one candle of a page, the page is kept as it is. -/
theorem get?_upsertMany {candles : List Candle}
    (own : ∀ candle ∈ candles, ∀ other ∈ candles, candleKey candle = candleKey other → candle = other)
    (key : CandleKey) {found : Candle} : (store.upsertMany candles).candles.get? key = some found ↔
      (found ∈ candles ∧ candleKey found = key) ∨
        (∀ candle ∈ candles, candleKey candle ≠ key) ∧ store.candles.get? key = some found := by
  obtain ⟨kept⟩ := store
  unfold upsertMany
  induction candles using List.reverseRecOn with
  | nil => simp
  | append_singleton candles last ih =>
      have earlier := ih fun candle member other there =>
        own candle (List.mem_append_left _ member) other (List.mem_append_left _ there)
      have lastIn : last ∈ candles ++ [last] := List.mem_append_right _ (List.mem_singleton_self _)
      rw [List.foldl_append, List.foldl_cons, List.foldl_nil, Dict.get?_set]
      by_cases same : key = candleKey last
      · rw [if_pos same]
        constructor
        · intro is
          cases is
          exact .inl ⟨lastIn, same.symm⟩
        · rintro (⟨member, named⟩ | ⟨none_, _⟩)
          · rw [own found member last lastIn (named.trans same)]
          · exact absurd same.symm (none_ last lastIn)
      · rw [if_neg same, earlier]
        simp only [List.mem_append, List.mem_singleton]
        constructor
        · rintro (⟨member, named⟩ | ⟨none_, old⟩)
          · exact .inl ⟨.inl member, named⟩
          · refine .inr ⟨?_, old⟩
            rintro candle (member | rfl)
            · exact none_ candle member
            · exact fun named => same named.symm
        · rintro (⟨member | rfl, named⟩ | ⟨none_, old⟩)
          · exact .inl ⟨member, named⟩
          · exact absurd named.symm same
          · exact .inr ⟨fun candle member => none_ candle (.inl member), old⟩

/-- Only candles opened before the cutoff are pruned. -/
theorem get?_pruneBefore {cutoff : Timestamp} {limit count : Nat} {pruned : CandleStore}
    (done : store.pruneBefore symbol interval cutoff limit = .ok (count, pruned)) (key : CandleKey) :
    (∀ found, pruned.candles.get? key = some found → store.candles.get? key = some found) ∧
      (cutoff ≤ key.2.2 → pruned.candles.get? key = store.candles.get? key) := by
  unfold pruneBefore at done
  split at done
  · cases done
  cases done
  rw [Dict.get?_filter]
  refine ⟨fun found is => (Option.filter_eq_some_iff.1 is).1, fun from_ => ?_⟩
  cases store.candles.get? key with
  | none => rfl
  | some found =>
      refine Option.filter_some_pos (decide_eq_true fun ⟨_, _, old⟩ => ?_)
      have before := (List.mem_filter.1 ((List.mergeSort_perm _ _).mem_iff.1 (List.mem_of_mem_take old))).2
      exact absurd (of_decide_eq_true before) (not_lt.2 from_)

end Reading

end CandleStore

/-! ## The validator -/

structure ValidationIssue where
  code : String
  message : String
  openedAt : Option Timestamp

structure MarketDataValidator where
  maxPriceChangeRatio : PositiveDecimal
  maxQuoteAge : Duration

namespace MarketDataValidator

theorem quarter_pos : (0 : Decimal) < 1 / 4 := by decide +kernel

/-- `MarketDataValidator()`. -/
def standard : MarketDataValidator := ⟨⟨1 / 4, quarter_pos⟩, 60 * 1000000⟩

variable (validator : MarketDataValidator)

/-- What a candle may be reproached with after the one before it. -/
def successionIssues (interval : Duration) (previous candle : Candle) : List ValidationIssue :=
  (if candle.openedAt ≤ previous.openedAt then
    [⟨"ordering", "candle timestamps are not increasing", none⟩] else []) ++
  (if candle.openedAt - previous.openedAt ≠ interval then
    [⟨"gap", "candle series contains an unexplained gap", none⟩] else []) ++
  (if validator.maxPriceChangeRatio.1 <
      |candle.openPrice.1 - previous.close.1| / previous.close.1 then
    [⟨"outlier", "candle open moved beyond the configured suspicious-outlier threshold",
      some candle.openedAt⟩] else [])

/-- The issues of the candles from here on, after `previous` and the keys seen. -/
def issues (interval : Duration) :
    Option Candle → List CandleKey → List Candle → List ValidationIssue
  | _, _, [] => []
  | previous, seen, candle :: rest =>
      (if candleKey candle ∈ seen then
        [⟨"duplicate", "duplicate candle", some candle.openedAt⟩] else []) ++
      (if candle.closedAt - candle.openedAt ≠ interval then
        [⟨"duration", "candle duration does not match the requested interval",
          some candle.openedAt⟩] else []) ++
      (previous.map fun previous => validator.successionIssues interval previous candle).getD [] ++
      issues interval (some candle) (candleKey candle :: seen) rest

def validationError (found : List ValidationIssue) : Exc :=
  { kind := .valueError, typeName := "MarketDataValidationError"
    message := "; ".intercalate (found.map fun issue => s!"{issue.code}: {issue.message}") }

def validateCandles (candles : List Candle) (interval : Duration) : Except Exc (List Candle) :=
  let found := validator.issues interval none [] candles
  if found.isEmpty then .ok candles else .error (validationError found)

section Valid

variable {validator} {interval : Duration}

/-- Each candle of a series without issues opens one interval after the one before. -/
theorem issues_eq_nil {previous : Option Candle} {seen : List CandleKey} {candles : List Candle}
    (fine : validator.issues interval previous seen candles = []) :
    (previous.toList ++ candles).IsChain fun earlier later =>
      later.openedAt - earlier.openedAt = interval := by
  induction candles generalizing previous seen with
  | nil => cases previous <;> simp
  | cons candle rest ih =>
      simp only [issues, List.append_eq_nil_iff] at fine
      obtain ⟨⟨_, succession⟩, others⟩ := fine
      have chain := ih others
      cases previous with
      | none => exact chain
      | some earlier =>
          refine List.isChain_cons_cons.2 ⟨?_, chain⟩
          by_contra apart
          simp [successionIssues, apart] at succession

theorem validateCandles_ok {candles validated : List Candle}
    (fine : validator.validateCandles candles interval = .ok validated) :
    validated = candles ∧ candles.IsChain fun earlier later =>
      later.openedAt - earlier.openedAt = interval := by
  change (if (validator.issues interval none [] candles).isEmpty then Except.ok candles
    else _) = _ at fine
  split at fine
  · rename_i none_found
    cases fine
    exact ⟨rfl, issues_eq_nil (List.isEmpty_iff.1 none_found)⟩
  · cases fine

end Valid

end MarketDataValidator

end AlgoTrader.Data
