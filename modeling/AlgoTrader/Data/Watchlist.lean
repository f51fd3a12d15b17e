/-
# Data.Watchlist -- the saved watchlist

The ordered list of at most nine coins, kept in a table whose positions are
unique and limited to 0-8 by constraints of the database.  Every call is one
transaction that also writes one `system_events` row; a statement the table
refuses rolls the whole transaction back.

The table's constraints are fields of `Table`, so every statement either keeps
them or is refused.  Changed rows are written one at a time in the order of
their primary key, as the unit of work flushes them.
-/
import Mathlib.Data.List.Sort
import AlgoTrader.Core.Models
import AlgoTrader.Core.Text
import AlgoTrader.Theory.Slots

namespace AlgoTrader.Data.Watchlist

open AlgoTrader.Core
open AlgoTrader.Theory

set_option autoImplicit false

def watchlistLimit : Nat := 9

def watchlistEvent : String := "watchlist_change"

inductive Failure where
  | refused (message : String)
  | integrity
  deriving DecidableEq, Repr

structure WatchlistEntry where
  symbol : String
  position : Nat
  addedAt : Timestamp
  addedBy : String
  deriving DecidableEq, Repr

/-- The stored row; `entries` reads it field by field. -/
abbrev WatchlistRecord := WatchlistEntry

structure Payload where
  action : String
  symbol : Option String
  role : String
  order : List String
  deriving DecidableEq

structure SystemEventRecord where
  eventId : Uuid
  eventType : String
  correlationId : Uuid
  payload : Payload
  createdAt : Timestamp
  deriving DecidableEq

/-! ## Symbols -/

def isSymbolChar (c : Char) : Bool :=
  (65 ≤ c.toNat && c.toNat ≤ 90) || (48 ≤ c.toNat && c.toNat ≤ 57)

/-- `SYMBOL_PATTERN.fullmatch`: `[A-Z0-9]+-USD`, read from its end. -/
def matchesPattern (symbol : List Char) : Bool :=
  match symbol.reverse with
  | 'D' :: 'S' :: 'U' :: '-' :: rest => !rest.isEmpty && rest.all isSymbolChar
  | _ => false

def normalForm (raw : String) : String := String.ofList (Text.upper (Text.strip raw.toList))

def normalizeSymbol (raw : String) : Except Failure String :=
  let symbol := normalForm raw
  if !matchesPattern symbol.toList || 32 < symbol.length then
    .error (.refused "Enter a Coinbase USD product such as ETH-USD.")
  else .ok symbol

example : normalizeSymbol " eth-usd" = .ok "ETH-USD" := by decide

theorem normalizeSymbol_ok {raw symbol : String} (valid : normalizeSymbol raw = .ok symbol) :
    symbol = normalForm raw := by
  simp only [normalizeSymbol] at valid
  split at valid
  · cases valid
  · exact (Except.ok.inj valid).symm

/-! ## The table and its statements -/

/-- The rows, with what the primary key, `uq_watchlist_position` and
`ck_watchlist_position` say of them. -/
structure Table where
  rows : List WatchlistRecord
  keyed : (rows.map (·.symbol)).Nodup
  unique : (rows.map (·.position)).Nodup
  ranged : ∀ row ∈ rows, row.position < 9

namespace Table

def empty : Table := ⟨[], List.nodup_nil, List.nodup_nil, nofun⟩

/-- `select(WatchlistRecord).order_by(WatchlistRecord.position)`. -/
def ordered (t : Table) : List WatchlistRecord :=
  t.rows.insertionSort fun a b => a.position ≤ b.position

def delete (t : Table) (symbol : String) : Table where
  rows := t.rows.filter fun row => row.symbol ≠ symbol
  keyed := (List.filter_sublist.map _).nodup t.keyed
  unique := (List.filter_sublist.map _).nodup t.unique
  ranged row member := t.ranged row (List.mem_filter.1 member).1

def insert (t : Table) (row : WatchlistRecord) : Except Failure Table :=
  if h : row.symbol ∉ t.rows.map (·.symbol) ∧ row.position ∉ t.rows.map (·.position) ∧
      row.position < 9 then
    .ok {
      rows := t.rows ++ [row]
      keyed := by
        rw [List.map_append]
        exact List.nodup_append'.2 ⟨t.keyed, List.nodup_singleton _, by simpa using h.1⟩
      unique := by
        rw [List.map_append]
        exact List.nodup_append'.2 ⟨t.unique, List.nodup_singleton _, by simpa using h.2.1⟩
      ranged := by
        intro other member
        rcases List.mem_append.1 member with old | new
        · exact t.ranged other old
        · rw [List.mem_singleton.1 new]
          exact h.2.2 }
  else .error .integrity

def move (m : String × Nat) (row : WatchlistRecord) : WatchlistRecord :=
  if row.symbol = m.1 then { row with position := m.2 } else row

@[simp] theorem move_symbol (m : String × Nat) (row : WatchlistRecord) :
    (move m row).symbol = row.symbol := by
  unfold move
  split <;> rfl

theorem move_self {m : String × Nat} {row : WatchlistRecord} (hit : row.symbol = m.1) :
    move m row = { row with position := m.2 } := if_pos hit

theorem move_other {m : String × Nat} {row : WatchlistRecord} (miss : row.symbol ≠ m.1) :
    move m row = row := if_neg miss

/-- `UPDATE watchlist SET position = ? WHERE symbol = ?`. -/
def place (t : Table) (m : String × Nat) : Except Failure Table :=
  if h : m.2 < 9 ∧ ∀ row ∈ t.rows, row.symbol ≠ m.1 → row.position ≠ m.2 then
    .ok {
      rows := t.rows.map (move m)
      keyed := by
        rw [List.map_map]
        simpa [Function.comp_def] using t.keyed
      unique := by
        have apart := (List.pairwise_map.1 t.keyed).and (List.pairwise_map.1 t.unique)
        rw [List.map_map]
        refine List.pairwise_map.2 (apart.imp_of_mem fun {a b} memberA memberB differ => ?_)
        by_cases hitA : a.symbol = m.1
        · have missB : b.symbol ≠ m.1 := fun hitB => differ.1 (hitA.trans hitB.symm)
          simpa [move_self hitA, move_other missB] using (h.2 b memberB missB).symm
        · by_cases hitB : b.symbol = m.1
          · simpa [move_other hitA, move_self hitB] using h.2 a memberA hitA
          · simpa [move_other hitA, move_other hitB] using differ.2
      ranged := by
        intro row member
        obtain ⟨old, stored, rfl⟩ := List.mem_map.1 member
        by_cases hit : old.symbol = m.1
        · simpa [move_self hit] using h.1
        · simpa [move_other hit] using t.ranged old stored }
  else .error .integrity

/-- Statements one after another; the first refused one ends the flush. -/
def inserts (t : Table) (rows : List WatchlistRecord) : Except Failure Table :=
  rows.foldlM insert t

/-- The unit of work writes changed rows in the order of their primary key. -/
def updates (t : Table) (moves : List (String × Nat)) : Except Failure Table :=
  (moves.insertionSort fun a b => a.1 ≤ b.1).foldlM place t

def deletes (t : Table) (symbols : List String) : Table := symbols.foldl delete t

end Table

/-! ## The watchlist -/

structure Database where
  watchlist : Table
  events : List SystemEventRecord

def Database.empty : Database := ⟨Table.empty, []⟩

/-- What a call runs with: who makes it, the time it names, and what the clock
and `uuid4` answer. -/
structure Setting where
  role : String
  now : Option Timestamp
  clock : Timestamp
  eventId : Uuid

/-- `now or utc_now()`. -/
def Setting.moment (setting : Setting) : Timestamp := setting.now.getD setting.clock

def entries (db : Database) : List WatchlistEntry :=
  db.watchlist.ordered.map fun row =>
    ⟨row.symbol, row.position, row.addedAt, row.addedBy⟩

def symbols (db : Database) : List String := (entries db).map (·.symbol)

def recordEvent (setting : Setting) (action : String) (symbol : Option String)
    (order : List String) (events : List SystemEventRecord) : List SystemEventRecord :=
  events ++ [⟨setting.eventId, watchlistEvent, setting.eventId,
    ⟨action, symbol, setting.role, order⟩, setting.moment⟩]

def add (setting : Setting) (raw : String) (db : Database) :
    Except Failure (Database × WatchlistEntry) := do
  let symbol ← normalizeSymbol raw
  let rows := db.watchlist.ordered
  if rows.any fun row => row.symbol = symbol then
    .error (.refused (symbol ++ " is already on the watchlist."))
  else if watchlistLimit ≤ rows.length then
    .error (.refused
      ("The watchlist holds at most " ++ toString watchlistLimit ++ " coins. Remove one first."))
  else
    let record : WatchlistRecord := ⟨symbol, rows.length, setting.moment, setting.role⟩
    let table ← db.watchlist.inserts [record]
    return (⟨table, recordEvent setting "add" (some symbol)
      (rows.map (·.symbol) ++ [symbol]) db.events⟩, record)

/-- The rows whose position an enumeration changes, with the position it gives. -/
def shifted (rows : List WatchlistRecord) : List (String × Nat) :=
  (rows.zipIdx.filter fun r => r.1.position ≠ r.2).map fun r => (r.1.symbol, r.2)

def remove (setting : Setting) (raw : String) (db : Database) : Except Failure (Database × Unit) := do
  let symbol ← normalizeSymbol raw
  let rows := db.watchlist.ordered
  match rows.find? fun row => row.symbol = symbol with
  | none => .error (.refused (symbol ++ " is not on the watchlist."))
  | some target =>
    let remaining := rows.filter fun row => row.symbol ≠ target.symbol
    let table ← (db.watchlist.delete target.symbol).updates (shifted remaining)
    return (⟨table, recordEvent setting "remove" (some symbol)
      (remaining.map (·.symbol)) db.events⟩, ())

/-- The rows a new order puts down: each coin keeps who added it and when. -/
def replaced (rows : List WatchlistRecord) (wanted : List String) : List WatchlistRecord :=
  wanted.zipIdx.filterMap fun w =>
    (rows.find? fun row => row.symbol = w.1).map fun row =>
      ⟨w.1, w.2, row.addedAt, row.addedBy⟩

def sameCoins (wanted present : List String) : Bool :=
  wanted.insertionSort (· ≤ ·) = present.insertionSort (· ≤ ·)

def reorder (setting : Setting) (raws : List String) (db : Database) :
    Except Failure (Database × List String) := do
  let wanted ← raws.mapM normalizeSymbol
  let rows := db.watchlist.ordered
  let present := rows.map (·.symbol)
  if ¬wanted.Nodup ∨ sameCoins wanted present = false then
    .error (.refused "The new order must list every watched coin exactly once.")
  else if wanted = present then
    return (db, wanted)
  else
    let cleared := db.watchlist.deletes present
    let table ← cleared.inserts (replaced rows wanted)
    return (⟨table, recordEvent setting "reorder" none wanted db.events⟩, wanted)

/-! ## Calls -/

inductive Change where
  | add (symbol : String)
  | remove (symbol : String)
  | reorder (symbols : List String)

structure Call where
  change : Change
  setting : Setting

/-- What a call hands back. -/
inductive Reply where
  | entry (entry : WatchlistEntry)
  | nothing
  | order (symbols : List String)

def carryOut (call : Call) (db : Database) : Except Failure (Database × Reply) :=
  match call.change with
  | .add symbol => (add call.setting symbol db).map fun r => (r.1, .entry r.2)
  | .remove symbol => (remove call.setting symbol db).map fun r => (r.1, .nothing)
  | .reorder symbols => (reorder call.setting symbols db).map fun r => (r.1, .order r.2)

/-- A transaction: what failed is rolled back. -/
def perform (call : Call) (db : Database) : Database × Except Failure Reply :=
  match carryOut call db with
  | .ok (after, reply) => (after, .ok reply)
  | .error failure => (db, .error failure)

/-- The database after a sequence of calls on an empty one. -/
def after (calls : List Call) : Database :=
  calls.foldl (fun db call => (perform call db).1) Database.empty

end AlgoTrader.Data.Watchlist
