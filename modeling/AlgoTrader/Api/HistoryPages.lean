/-
# Api.HistoryPages -- the pages of the history

`SqlAlchemyHistory._page` reads one page of a table, newest row first, and hands out
the cursor of its last row if there are more.  An operator who follows the cursors
reads the table as it was at the first page, even though it grows meanwhile.

* `asked_eq` -- what is asked for, page after page, are the pages of `Theory.Keyset`;
* `pages_complete` -- the pages hold every matching row once, newest first, and every
  cursor with a year of four digits reads back.
-/
import Mathlib.Data.Prod.Lex
import AlgoTrader.Api.History
import AlgoTrader.Theory.Keyset

namespace AlgoTrader.Api.History

open AlgoTrader.Core
open AlgoTrader.Theory

set_option autoImplicit false

/-! ## Tables -/

/-- A table of the history: the columns that hold a row's time and its primary key, those
that filters are compared with, and what else the kind of history asks of a row. -/
structure Source (ρ : Type) where
  at_ : ρ → DateTime
  key : ρ → Uuid
  columns : List (String × (ρ → Option FilterValue))
  extra : List (String × FilterValue) → List (ρ → Bool)

/-- The rows of a table; no two have the same primary key. -/
structure Table {ρ : Type} (source : Source ρ) where
  rows : List ρ
  unique : (rows.map source.key).Nodup

section Reading

variable {ρ : Type} (source : Source ρ) (query : HistoryQuery)

/-- `_where`: the columns whose filters are given equal them. -/
def whereConditions : List (ρ → Bool) :=
  source.columns.filterMap fun column =>
    (query.filters.lookup column.1).map fun value row => column.2 row = some value

/-- `_window`: both ends are included. -/
def inWindow (row : ρ) : Bool :=
  query.since.1 ≤ (source.at_ row).timestamp && (source.at_ row).timestamp ≤ query.until_.1

def isMatch (row : ρ) : Bool :=
  inWindow source query row &&
    (whereConditions source query ++ source.extra query.filters).all fun condition => condition row

def cursorOf (row : ρ) : Cursor := ⟨source.at_ row, source.key row⟩

variable [LinearOrder Uuid]

/-- `at < cursor.at`, or `at == cursor.at` and `key < cursor.key`. -/
def isBefore (cursor : Cursor) (row : ρ) : Bool :=
  (source.at_ row).timestamp < cursor.at_.timestamp ||
    ((source.at_ row).timestamp = cursor.at_.timestamp && source.key row < cursor.key)

/-- `ORDER BY at DESC, key DESC`. -/
def newest (rows : List ρ) : List ρ :=
  rows.insertionSort fun a b =>
    (source.at_ b).timestamp < (source.at_ a).timestamp ∨
      ((source.at_ b).timestamp = (source.at_ a).timestamp ∧ source.key b ≤ source.key a)

structure Page (ρ : Type) where
  rows : List ρ
  total : Nat
  nextBefore : Option String

def restrict (before : Option Cursor) (rows : List ρ) : List ρ :=
  match before with
  | none => rows
  | some cursor => rows.filter (isBefore source cursor)

/-- `_page`.  The rows are given as records. -/
def page (table : List ρ) : Page ρ :=
  let matching := table.filter (isMatch source query)
  let filtered := restrict source query.before matching
  let records := (newest source filtered).take (query.limit + 1)
  let rows := records.take query.limit
  ⟨rows, matching.length,
    if query.limit < records.length then rows.getLast?.map fun last => (cursorOf source last).encode
    else none⟩

/-- What each page is asked for while `next_before` is followed; the `i`-th page is read
from the `i`-th table. -/
def asked (tables : Nat → Table source) : Nat → Option HistoryQuery
  | 0 => some { query with before := none }
  | i + 1 => (asked tables i).bind fun current =>
      (page source current (tables i).rows).nextBefore.bind fun text =>
        (Cursor.decode text).map fun cursor => { query with before := some cursor }

def shown (tables : Nat → Table source) (i : Nat) : List ρ :=
  (asked source query tables i).elim [] fun current => (page source current (tables i).rows).rows

/-- Between two pages only rows newer than the cursor are added. -/
def GrowsNewer (tables : Nat → Table source) : Prop :=
  ∀ i current cursor, asked source query tables (i + 1) = some current →
    current.before = some cursor →
    ∃ new, (tables (i + 1)).rows.Perm ((tables i).rows ++ new) ∧
      ∀ row ∈ new, cursor.at_.timestamp < (source.at_ row).timestamp ∨
        (cursor.at_.timestamp = (source.at_ row).timestamp ∧ cursor.key < source.key row)

/-! ## The pages of a keyset -/

/-- Where a row or a cursor stands. -/
def position (at_ : DateTime) (key : Uuid) : Timestamp ×ₗ Uuid := toLex (at_.timestamp, key)

def rowPosition (row : ρ) : Timestamp ×ₗ Uuid := position (source.at_ row) (source.key row)

def cursorPosition (cursor : Cursor) : Timestamp ×ₗ Uuid := position cursor.at_ cursor.key

variable {source} {query}

theorem position_lt {a b : DateTime} {k l : Uuid} : position a k < position b l ↔
    a.timestamp < b.timestamp ∨ (a.timestamp = b.timestamp ∧ k < l) :=
  Prod.Lex.toLex_lt_toLex

theorem position_le {a b : DateTime} {k l : Uuid} : position a k ≤ position b l ↔
    a.timestamp < b.timestamp ∨ (a.timestamp = b.timestamp ∧ k ≤ l) :=
  Prod.Lex.toLex_le_toLex

theorem newest_eq (rows : List ρ) :
    newest source rows = Keyset.newestFirst (rowPosition source) rows := by
  unfold newest Keyset.newestFirst rowPosition
  simp only [position_le]

theorem isBefore_iff (cursor : Cursor) (row : ρ) :
    isBefore source cursor row = decide (rowPosition source row < cursorPosition cursor) := by
  rw [Bool.eq_iff_iff]
  simp [isBefore, rowPosition, cursorPosition, position_lt]

/-- What a row hands out as the start of the next page, read back. -/
def follow (source : Source ρ) (row : ρ) : Option Cursor :=
  Cursor.decode (cursorOf source row).encode

/-- The rows of the `i`-th table that the conditions of the query choose. -/
def matching (source : Source ρ) (query : HistoryQuery) (tables : Nat → Table source) (i : Nat) :
    List ρ :=
  (tables i).rows.filter (isMatch source query)

theorem newest_restrict (before : Option Cursor) (rows : List ρ) :
    newest source (restrict source before rows) =
      Keyset.view (rowPosition source) cursorPosition before rows := by
  rw [Keyset.view, newest_eq]
  cases before with
  | none =>
    have all : Keyset.beforeCursor (rowPosition source) cursorPosition none rows = rows :=
      List.filter_eq_self.2 fun _ _ => rfl
    rw [all]
    rfl
  | some cursor =>
    congr 1
    refine List.filter_congr fun row _ => ?_
    exact isBefore_iff cursor row

theorem page_rows (before : Option Cursor) (tables : Nat → Table source) (i : Nat) :
    (page source { query with before := before } (tables i).rows).rows =
      Keyset.page (rowPosition source) cursorPosition query.limit before
        (matching source query tables i) := by
  unfold page
  dsimp only
  rw [newest_restrict]
  rfl

theorem page_nextBefore (before : Option Cursor) (tables : Nat → Table source) (i : Nat) :
    (page source { query with before := before } (tables i).rows).nextBefore =
      if Keyset.more (rowPosition source) cursorPosition query.limit before
          (matching source query tables i) then
        (Keyset.page (rowPosition source) cursorPosition query.limit before
          (matching source query tables i)).getLast?.map fun last => (cursorOf source last).encode
      else none := by
  unfold page Keyset.more
  dsimp only
  rw [newest_restrict]
  simp only [decide_eq_true_eq]
  rfl

variable (source query) in
/-- What is asked for, page after page. -/
theorem asked_eq (tables : Nat → Table source) (i : Nat) :
    asked source query tables i =
      (Keyset.asked (rowPosition source) cursorPosition (follow source) query.limit
        (matching source query tables) i).map fun before => { query with before := before } := by
  induction i with
  | zero => rfl
  | succ i ih =>
    rw [asked, ih, Keyset.asked]
    cases Keyset.asked (rowPosition source) cursorPosition (follow source) query.limit
      (matching source query tables) i with
    | none => rfl
    | some before =>
      simp only [Option.map_some, Option.bind_some, page_nextBefore, Keyset.next]
      by_cases more : Keyset.more (rowPosition source) cursorPosition query.limit before
          (matching source query tables i) = true
      · rw [if_pos more, if_pos more]
        cases (Keyset.page (rowPosition source) cursorPosition query.limit before
            (matching source query tables i)).getLast? with
        | none => rfl
        | some last =>
          simp only [Option.map_some, Option.bind_some, follow, Option.map_map]
          rfl
      · rw [if_neg more, if_neg more]
        rfl

theorem shown_eq (tables : Nat → Table source) :
    shown source query tables =
      Keyset.shown (rowPosition source) cursorPosition (follow source) query.limit
        (matching source query tables) := by
  funext i
  rw [shown, Keyset.shown, asked_eq]
  cases Keyset.asked (rowPosition source) cursorPosition (follow source) query.limit
      (matching source query tables) i with
  | none => rfl
  | some before => exact page_rows before tables i

omit [LinearOrder Uuid] in
theorem unique_positions (table : Table source) :
    ((table.rows.filter (isMatch source query)).map (rowPosition source)).Nodup := by
  have keys : ((table.rows.filter (isMatch source query)).map source.key).Nodup :=
    table.unique.sublist (List.filter_sublist.map _)
  refine List.pairwise_map.2 ((List.pairwise_map.1 keys).imp fun apart same => apart ?_)
  exact congrArg (fun p => (ofLex p).2) same

/-- **The pages lose and repeat nothing.**  Following the cursors comes to an end, the pages
hold every row that matched when the first one was read, once, newest first; and every
cursor with a year of four digits reads back. -/
theorem pages_complete (source : Source ρ) (query : HistoryQuery) (tables : Nat → Table source)
    (limited : 1 ≤ query.limit)
    (years : ∀ row ∈ (tables 0).rows, isMatch source query row = true → 1000 ≤ (source.at_ row).year)
    (grows : GrowsNewer source query tables) :
    (∃ n last, asked source query tables n = some last ∧
      (page source last (tables n).rows).nextBefore = none ∧
      ((List.range (n + 1)).flatMap (shown source query tables)).Perm
        ((tables 0).rows.filter (isMatch source query)) ∧
      ((List.range (n + 1)).flatMap (shown source query tables)).Pairwise fun a b =>
        isBefore source (cursorOf source a) b = true) ∧
    ∀ cursor : Cursor, 1000 ≤ cursor.at_.year → Cursor.decode cursor.encode = some cursor := by
  refine ⟨?_, Cursor.decode_encode⟩
  have follows : ∀ row ∈ matching source query tables 0, ∃ cursor, follow source row = some cursor ∧
      cursorPosition cursor = rowPosition source row := by
    intro row member
    obtain ⟨stored, matches_⟩ := List.mem_filter.1 member
    exact ⟨cursorOf source row, Cursor.decode_encode _ (years row stored matches_), rfl⟩
  have keysetGrows : ∀ i cursor, Keyset.asked (rowPosition source) cursorPosition (follow source)
      query.limit (matching source query tables) (i + 1) = some (some cursor) →
      ∃ new, (matching source query tables (i + 1)).Perm (matching source query tables i ++ new) ∧
        ∀ row ∈ new, cursorPosition cursor < rowPosition source row := by
    intro i cursor asks
    have asksQuery := asked_eq source query tables (i + 1)
    rw [asks, Option.map_some] at asksQuery
    obtain ⟨new, grown, later⟩ := grows i _ cursor asksQuery rfl
    refine ⟨new.filter (isMatch source query), ?_, ?_⟩
    · have filtered := grown.filter (isMatch source query)
      rw [List.filter_append] at filtered
      exact filtered
    · intro row member
      exact position_lt.2 (later row (List.mem_filter.1 member).1)
  obtain ⟨n, before, asks, noMore, together⟩ := Keyset.walk_complete limited
    (unique_positions (tables 0)) follows keysetGrows
  refine ⟨n, { query with before := before }, ?_, ?_, ?_, ?_⟩
  · rw [asked_eq, asks]
    rfl
  · rw [page_nextBefore]
    exact if_neg (by simpa using noMore)
  · rw [shown_eq, together]
    exact Keyset.newestFirst_perm _ _
  · rw [shown_eq, together]
    refine (Keyset.newestFirst_descending (unique_positions (tables 0))).imp fun below => ?_
    rw [isBefore_iff]
    exact decide_eq_true below

end Reading

/-! ## Two rows of one time -/

/-- Identifiers as numbers. -/
@[reducible] def byNumber : LinearOrder Uuid :=
  LinearOrder.lift' Uuid.int fun a b same => by
    cases a
    cases b
    cases same
    rfl

def noon (year : Nat) (inYears : 1 ≤ year ∧ year ≤ 9999) : DateTime where
  year := year
  month := 9
  day := 27
  hour := 12
  minute := 0
  second := 0
  microsecond := 0
  inYears := inYears
  inYear := by decide
  inMonth := ⟨by omega, by have : Calendar.daysInMonth year 9 = 30 := rfl; omega⟩
  inDay := by decide

def plainSource : Source (DateTime × Uuid) := ⟨Prod.fst, Prod.snd, [], fun _ => []⟩

/-- Two rows of one time, and a third that is added after the first page. -/
def growing : Nat → Table plainSource
  | 0 => ⟨[(noon 2026 (by decide), ⟨1⟩), (noon 2026 (by decide), ⟨2⟩)], by decide⟩
  | _ + 1 => ⟨[(noon 2026 (by decide), ⟨1⟩), (noon 2026 (by decide), ⟨2⟩),
      (noon 2027 (by decide), ⟨3⟩)], by decide⟩

def oneAtATime : HistoryQuery :=
  ⟨.signals, ⟨Calendar.minInstant, by decide⟩, ⟨Calendar.maxInstant, by decide⟩, 1, none, none, []⟩

theorem growing_newer : @GrowsNewer _ plainSource oneAtATime byNumber growing := by
  let _ := byNumber
  intro i current cursor asks before
  cases i with
  | zero =>
    refine ⟨[(noon 2027 (by decide), ⟨3⟩)], List.Perm.refl _, ?_⟩
    have early : (asked plainSource oneAtATime growing 1).all (fun query =>
        query.before.all fun cursor =>
          cursor.at_.timestamp < (noon 2027 (by decide)).timestamp) = true := by decide
    rw [asks, Option.all_some, before, Option.all_some] at early
    intro row member
    obtain rfl := List.mem_singleton.1 member
    exact .inl (of_decide_eq_true early)
  | succ i => exact ⟨[], by simp [growing], by simp⟩

theorem growing_pages : ∃ n last,
    @asked _ plainSource oneAtATime byNumber growing n = some last ∧
      (@page _ plainSource last byNumber (growing n).rows).nextBefore = none :=
  let _ := byNumber
  have ⟨⟨n, last, asks, ends, _⟩, _⟩ := pages_complete plainSource oneAtATime growing (by decide)
    (by decide) growing_newer
  ⟨n, last, asks, ends⟩

end AlgoTrader.Api.History
