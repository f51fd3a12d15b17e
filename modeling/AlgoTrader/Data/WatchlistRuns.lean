/-
# Data.WatchlistRuns -- every sequence of watchlist calls

What a call that its own checks let through does to the list, from any state a
sequence of calls can reach.  Positions stay exactly 0..n-1 (`after_dense`), also
through the calls that fail, since those are rolled back.  `add` and `reorder`
write into free positions and always go through.  `remove` shifts the coins after
the removed one down by one, row by row in primary-key order: a row goes into the
position the row before it in the list has left, or has not left yet
(`shift_clear_iff`).
-/
import Mathlib.Data.List.Range
import Mathlib.Data.List.Chain
import Mathlib.Data.List.TakeWhile
import Mathlib.Data.String.Basic
import AlgoTrader.Theory.Raising
import AlgoTrader.Data.Watchlist

namespace AlgoTrader.Data.Watchlist

open AlgoTrader.Core
open AlgoTrader.Theory

set_option autoImplicit false

namespace Table

/-! ## Rows in list order -/

theorem ordered_perm (t : Table) : t.ordered.Perm t.rows := List.perm_insertionSort _ _

theorem mem_ordered {t : Table} {row : WatchlistRecord} : row ∈ t.ordered ↔ row ∈ t.rows :=
  t.ordered_perm.mem_iff

theorem ordered_keyed (t : Table) : (t.ordered.map (·.symbol)).Nodup :=
  (t.ordered_perm.map _).nodup_iff.2 t.keyed

theorem ordered_increasing (t : Table) :
    t.ordered.Pairwise fun a b => a.position < b.position := by
  have sorted : t.ordered.Pairwise fun a b => a.position ≤ b.position :=
    List.pairwise_insertionSort (fun a b : WatchlistRecord => a.position ≤ b.position) t.rows
  have apart := List.pairwise_map.1 ((t.ordered_perm.map (·.position)).nodup_iff.2 t.unique)
  exact (sorted.and apart).imp fun both => Nat.lt_of_le_of_ne both.1 both.2

/-- The rows in increasing position are the rows in list order. -/
theorem ordered_eq {t : Table} {rows : List WatchlistRecord} (same : rows.Perm t.rows)
    (increasing : rows.Pairwise fun a b => a.position < b.position) : t.ordered = rows := by
  have ordered : t.ordered.Pairwise fun a b => a.position < b.position := t.ordered_increasing
  exact List.Perm.eq_of_pairwise (fun a b _ _ before after => absurd before (Nat.lt_asymm after))
    ordered increasing (t.ordered_perm.trans same.symm)

/-! ## Who holds which position -/

def held (t : Table) (symbol : String) : Option Nat :=
  (t.rows.find? fun row => row.symbol = symbol).map (·.position)

theorem eq_of_symbol {t : Table} {a b : WatchlistRecord} (memberA : a ∈ t.rows)
    (memberB : b ∈ t.rows) (same : a.symbol = b.symbol) : a = b :=
  List.inj_on_of_nodup_map t.keyed memberA memberB same

theorem held_eq_some {t : Table} {symbol : String} {position : Nat} :
    t.held symbol = some position ↔
      ∃ row ∈ t.rows, row.symbol = symbol ∧ row.position = position := by
  constructor
  · intro holds
    obtain ⟨row, found, place⟩ := Option.map_eq_some_iff.1 holds
    exact ⟨row, List.mem_of_find?_eq_some found, by simpa using List.find?_some found, place⟩
  · rintro ⟨row, member, rfl, rfl⟩
    have some : (t.rows.find? fun other => other.symbol = row.symbol).isSome := by
      rw [List.find?_isSome]
      exact ⟨row, member, by simp⟩
    obtain ⟨other, found⟩ := Option.isSome_iff_exists.1 some
    have same : other.symbol = row.symbol := by simpa using List.find?_some found
    have equal := eq_of_symbol (List.mem_of_find?_eq_some found) member same
    rw [held, found, equal]
    rfl

theorem free_iff {t : Table} {m : String × Nat} :
    Slots.Free t.held m.1 m.2 ↔ ∀ row ∈ t.rows, row.symbol ≠ m.1 → row.position ≠ m.2 := by
  constructor
  · intro free row member other same
    exact free row.symbol other (held_eq_some.2 ⟨row, member, rfl, same⟩)
  · intro free symbol other holds
    obtain ⟨row, member, rfl, place⟩ := held_eq_some.1 holds
    exact free row member other place

/-! ## One statement -/

theorem place_rows {t t' : Table} {m : String × Nat} (done : t.place m = .ok t') :
    t'.rows = t.rows.map (move m) := by
  unfold place at done
  split at done
  · cases done
    rfl
  · cases done

theorem place_ok {t : Table} {m : String × Nat} (inRange : m.2 < 9)
    (free : Slots.Free t.held m.1 m.2) : ∃ t', t.place m = .ok t' :=
  ⟨_, dif_pos ⟨inRange, free_iff.1 free⟩⟩

theorem place_refused {t : Table} {m : String × Nat}
    (bad : ¬(m.2 < 9 ∧ Slots.Free t.held m.1 m.2)) : t.place m = .error .integrity :=
  dif_neg fun both => bad ⟨both.1, free_iff.2 both.2⟩

theorem place_held {t t' : Table} {m : String × Nat} (done : t.place m = .ok t')
    (present : m.1 ∈ t.rows.map (·.symbol)) :
    t'.held = Function.update t.held m.1 (some m.2) := by
  have rows := place_rows done
  funext symbol
  by_cases same : symbol = m.1
  · subst same
    obtain ⟨row, member, hit⟩ := List.mem_map.1 present
    rw [Function.update_self, held_eq_some, rows]
    exact ⟨move m row, List.mem_map_of_mem member, by simpa using hit, by simp [move_self hit]⟩
  · rw [Function.update_of_ne same]
    refine Option.ext fun position => ?_
    rw [held_eq_some, held_eq_some, rows]
    constructor
    · rintro ⟨row, member, rfl, rfl⟩
      obtain ⟨old, stored, rfl⟩ := List.mem_map.1 member
      rw [move_symbol] at same
      exact ⟨old, stored, by simp, by simp [move_other same]⟩
    · rintro ⟨row, member, rfl, rfl⟩
      exact ⟨move m row, List.mem_map_of_mem member, by simp, by simp [move_other same]⟩

/-! ## A flush of updates -/

def moveAll (moves : List (String × Nat)) (row : WatchlistRecord) : WatchlistRecord :=
  moves.foldl (fun row m => move m row) row

@[simp] theorem moveAll_symbol (moves : List (String × Nat)) (row : WatchlistRecord) :
    (moveAll moves row).symbol = row.symbol := by
  induction moves generalizing row with
  | nil => rfl
  | cons m rest ih => exact (ih (move m row)).trans (move_symbol m row)

theorem moveAll_unmoved {moves : List (String × Nat)} {row : WatchlistRecord}
    (unmoved : row.symbol ∉ moves.map Prod.fst) : moveAll moves row = row := by
  induction moves with
  | nil => rfl
  | cons m rest ih =>
    simp only [List.map_cons, List.mem_cons, not_or] at unmoved
    have step : moveAll (m :: rest) row = moveAll rest (move m row) := rfl
    rw [step, move_other unmoved.1]
    exact ih unmoved.2

theorem moveAll_moved {moves : List (String × Nat)} {row : WatchlistRecord} {position : Nat}
    (once : (moves.map Prod.fst).Nodup) (moved : (row.symbol, position) ∈ moves) :
    moveAll moves row = { row with position := position } := by
  induction moves with
  | nil => cases moved
  | cons m rest ih =>
    obtain ⟨alone, once⟩ := List.nodup_cons.1 once
    have step : moveAll (m :: rest) row = moveAll rest (move m row) := rfl
    rw [step]
    rcases List.mem_cons.1 moved with rfl | later
    · rw [move_self rfl]
      exact moveAll_unmoved alone
    · have other : row.symbol ≠ m.1 := fun same =>
        alone (same ▸ List.mem_map_of_mem (f := Prod.fst) later)
      rw [move_other other]
      exact ih once later

theorem flush_rows {t t' : Table} {moves : List (String × Nat)}
    (done : moves.foldlM place t = .ok t') : t'.rows = t.rows.map (moveAll moves) := by
  induction moves generalizing t with
  | nil =>
    cases done
    exact (List.map_id' _).symm
  | cons m rest ih =>
    rw [List.foldlM_cons] at done
    obtain ⟨middle, placed, done⟩ := bind_eq_ok.1 done
    rw [ih done, place_rows placed, List.map_map]
    rfl

/-- A flush goes through when every row finds its position in range and free at
its turn, which leaves the table as the moves settle, and is refused otherwise. -/
theorem flush_spec {t : Table} {moves : List (String × Nat)}
    (present : ∀ m ∈ moves, m.1 ∈ t.rows.map (·.symbol)) (inRange : ∀ m ∈ moves, m.2 < 9) :
    (Slots.Clear t.held moves ∧
        ∃ t', moves.foldlM place t = .ok t' ∧ t'.held = Slots.settle t.held moves) ∨
      (¬Slots.Clear t.held moves ∧ moves.foldlM place t = .error .integrity) := by
  induction moves generalizing t with
  | nil => exact .inl ⟨trivial, t, rfl, rfl⟩
  | cons m rest ih =>
    rw [List.foldlM_cons, Slots.Clear]
    by_cases free : Slots.Free t.held m.1 m.2
    · obtain ⟨middle, placed⟩ := place_ok (inRange m List.mem_cons_self) free
      have keys : middle.rows.map (·.symbol) = t.rows.map (·.symbol) := by
        rw [place_rows placed, List.map_map]
        exact List.map_congr_left fun row _ => move_symbol m row
      have rest := ih (t := middle)
        (fun later member => keys ▸ present later (List.mem_cons_of_mem _ member))
        fun later member => inRange later (List.mem_cons_of_mem _ member)
      rw [place_held placed (present m List.mem_cons_self)] at rest
      rw [placed]
      rcases rest with ⟨clear, done⟩ | ⟨blocked, failed⟩
      · exact .inl ⟨⟨free, clear⟩, done⟩
      · exact .inr ⟨fun both => blocked both.2, failed⟩
    · refine .inr ⟨fun both => free both.1, ?_⟩
      rw [place_refused fun both => free both.2]
      rfl

end Table

/-! ## Dense positions -/

/-- The positions in list order are 0, 1, 2, ... -/
def Dense (rows : List WatchlistRecord) : Prop :=
  rows.map (·.position) = List.range rows.length

theorem dense_iff {rows : List WatchlistRecord} :
    Dense rows ↔ ∀ i (h : i < rows.length), rows[i].position = i := by
  rw [Dense, List.ext_getElem_iff]
  simp

theorem Dense.increasing {rows : List WatchlistRecord} (dense : Dense rows) :
    rows.Pairwise fun a b => a.position < b.position := by
  have sorted : (rows.map (·.position)).Pairwise (· < ·) := by
    rw [dense]
    exact List.pairwise_lt_range
  exact List.pairwise_map.1 sorted

theorem Dense.length_le {t : Table} (dense : Dense t.ordered) : t.ordered.length ≤ 9 := by
  by_cases empty : t.ordered.length = 0
  · omega
  · have last := dense_iff.1 dense (t.ordered.length - 1) (by omega)
    have inside : t.ordered.length - 1 < t.ordered.length := by omega
    have bound := t.ranged _ (Table.mem_ordered.1 (List.getElem_mem inside))
    omega

theorem Dense.append {rows : List WatchlistRecord} (dense : Dense rows) (row : WatchlistRecord)
    (last : row.position = rows.length) : Dense (rows ++ [row]) := by
  rw [Dense, List.map_append, dense, List.length_append, List.length_singleton, List.range_succ,
    List.map_singleton, last]

/-- Rows numbered from a position on. -/
def numbered (k : Nat) (rows : List WatchlistRecord) : List WatchlistRecord :=
  (rows.zipIdx k).map fun r => { r.1 with position := r.2 }

@[simp] theorem numbered_length (k : Nat) (rows : List WatchlistRecord) :
    (numbered k rows).length = rows.length := by simp [numbered]

theorem numbered_getElem (k : Nat) {rows : List WatchlistRecord} {i : Nat} (h : i < rows.length)
    (h' : i < (numbered k rows).length) :
    (numbered k rows)[i] = { rows[i] with position := k + i } := by
  simp [numbered]

theorem keeps_position {row : WatchlistRecord} {position : Nat} (same : row.position = position) :
    { row with position := position } = row := by
  subst same
  rfl

theorem numbered_symbols (k : Nat) (rows : List WatchlistRecord) :
    (numbered k rows).map (·.symbol) = rows.map (·.symbol) := by
  calc (numbered k rows).map (·.symbol)
      = ((rows.zipIdx k).map Prod.fst).map (·.symbol) := by
        rw [numbered, List.map_map, List.map_map]
        rfl
    _ = rows.map (·.symbol) := by rw [List.zipIdx_map_fst]

theorem Dense.numbered_eq {rows : List WatchlistRecord} (dense : Dense rows) :
    numbered 0 rows = rows := by
  refine List.ext_getElem (by simp) fun i h h' => ?_
  rw [numbered_getElem 0 h' h]
  exact keeps_position (by rw [dense_iff.1 dense i h', Nat.zero_add])

theorem numbered_dense (rows : List WatchlistRecord) : Dense (numbered 0 rows) := by
  rw [dense_iff]
  intro i h
  simp [numbered]

theorem mem_numbered {k : Nat} {rows : List WatchlistRecord} {row : WatchlistRecord}
    (member : row ∈ numbered k rows) :
    ∃ old ∈ rows, row.symbol = old.symbol ∧ row.addedAt = old.addedAt ∧
      row.addedBy = old.addedBy := by
  obtain ⟨r, listed, rfl⟩ := List.mem_map.1 member
  exact ⟨r.1, (List.mem_zipIdx listed).2.2 ▸ List.getElem_mem _, rfl, rfl, rfl⟩

/-! ## Closing the gap

`pre` are the rows before the removed one and `post` those after it, which are
one position further back than their place in the list now is. -/

def shift (k : Nat) (post : List WatchlistRecord) : List (String × Nat) :=
  (post.zipIdx k).map fun r => (r.1.symbol, r.2)

theorem shift_keys (k : Nat) (post : List WatchlistRecord) :
    (shift k post).map Prod.fst = post.map (·.symbol) := by
  rw [← numbered_symbols k post]
  simp [shift, numbered]

theorem shift_places (k : Nat) (post : List WatchlistRecord) :
    (shift k post).map Prod.snd = List.range' k post.length := by
  simp only [shift, List.map_map]
  exact List.zipIdx_map_snd k post

theorem mem_shift {k : Nat} {post : List WatchlistRecord} {m : String × Nat} :
    m ∈ shift k post ↔ ∃ j, ∃ h : j < post.length, m = (post[j].symbol, k + j) := by
  constructor
  · intro member
    obtain ⟨r, listed, rfl⟩ := List.mem_map.1 member
    obtain ⟨low, high, row⟩ := List.mem_zipIdx listed
    refine ⟨r.2 - k, by omega, ?_⟩
    rw [row]
    simp only [Prod.mk.injEq, true_and]
    omega
  · rintro ⟨j, h, rfl⟩
    refine List.mem_map.2 ⟨(post[j], k + j), ?_, rfl⟩
    rw [List.mem_iff_getElem]
    exact ⟨j, by simpa using h, by simp⟩

/-- Only the rows after the removed one change position. -/
theorem shifted_eq {pre post : List WatchlistRecord} {target : WatchlistRecord}
    (dense : Dense (pre ++ target :: post)) : shifted (pre ++ post) = shift pre.length post := by
  have at' := dense_iff.1 dense
  rw [shifted, List.zipIdx_append, List.filter_append]
  have before : (pre.zipIdx.filter fun r => r.1.position ≠ r.2) = [] := by
    rw [List.filter_eq_nil_iff]
    rintro ⟨row, i⟩ listed
    obtain ⟨-, high, row⟩ := List.mem_zipIdx listed
    have place := at' i (by simp; omega)
    rw [List.getElem_append_left (by omega)] at place
    simp_all
  have behind : ((post.zipIdx (0 + pre.length)).filter fun r => r.1.position ≠ r.2) =
      post.zipIdx pre.length := by
    rw [Nat.zero_add, List.filter_eq_self]
    rintro ⟨row, i⟩ listed
    obtain ⟨low, high, row⟩ := List.mem_zipIdx listed
    have place := at' (i + 1) (by simp; omega)
    rw [List.getElem_append_right (by omega)] at place
    have later : i + 1 - pre.length = (i - pre.length) + 1 := by omega
    simp only [later, List.getElem_cons_succ] at place
    simp only [ne_eq, decide_not, Bool.not_eq_eq_eq_not, Bool.not_true, decide_eq_false_iff_not]
    rw [row, place]
    omega
  rw [before, behind]
  rfl

section Gap

variable {t : Table} {pre post : List WatchlistRecord}

theorem shift_once (same : (pre ++ post).Perm t.rows) :
    ((shift pre.length post).map Prod.fst).Nodup := by
  have keyed := (same.map (·.symbol)).nodup_iff.2 t.keyed
  rw [shift_keys]
  rw [List.map_append] at keyed
  exact (List.nodup_append'.1 keyed).2.1

/-- The rows behind the gap move up in turn exactly when their symbols increase
with their positions. -/
theorem shift_clear_iff (same : (pre ++ post).Perm t.rows)
    (before : ∀ row ∈ pre, row.position < pre.length)
    (behind : ∀ j (h : j < post.length), post[j].position = pre.length + 1 + j) :
    Slots.Clear t.held ((shift pre.length post).insertionSort fun a b => a.1 ≤ b.1) ↔
      (post.map (·.symbol)).Pairwise (· < ·) := by
  have sorting := List.perm_insertionSort (fun a b : String × Nat => a.1 ≤ b.1)
    (shift pre.length post)
  have once := (sorting.map Prod.fst).nodup_iff.2 (shift_once same)
  have apart : (((shift pre.length post).insertionSort fun a b => a.1 ≤ b.1).map
      Prod.snd).Nodup := by
    rw [(sorting.map Prod.snd).nodup_iff, shift_places]
    exact List.nodup_range'
  have sorted : ((shift pre.length post).insertionSort fun a b => a.1 ≤ b.1).Pairwise
      fun a b => a.1 < b.1 :=
    ((List.pairwise_insertionSort (fun a b : String × Nat => a.1 ≤ b.1) _).and
      (List.pairwise_map.1 once)).imp fun both => lt_of_le_of_ne both.1 both.2
  have holds : ∀ j (h : j < post.length),
      t.held post[j].symbol = some (pre.length + 1 + j) := by
    intro j h
    have stored : post[j] ∈ t.rows :=
      same.mem_iff.1 (List.mem_append_right _ (List.getElem_mem h))
    exact Table.held_eq_some.2 ⟨post[j], stored, rfl, behind j h⟩
  have outside : ∀ m ∈ (shift pre.length post).insertionSort fun a b => a.1 ≤ b.1,
      ∀ k, k ∉ ((shift pre.length post).insertionSort fun a b => a.1 ≤ b.1).map Prod.fst →
        t.held k ≠ some m.2 := by
    intro m member k unmoved taken
    obtain ⟨j, h, rfl⟩ := mem_shift.1 (sorting.mem_iff.1 member)
    obtain ⟨row, stored, rfl, place⟩ := Table.held_eq_some.1 taken
    rcases List.mem_append.1 (same.mem_iff.2 stored) with early | late
    · have := before row early
      omega
    · refine unmoved ((sorting.map Prod.fst).mem_iff.2 ?_)
      rw [shift_keys]
      exact List.mem_map_of_mem late
  rw [Slots.clear_iff once apart, and_iff_right outside, Slots.pairwise_sorted_iff sorted,
    ← List.isChain_iff_pairwise, List.isChain_iff_getElem]
  constructor
  · intro leaves j h
    simp only [List.length_map] at h
    rw [List.getElem_map, List.getElem_map]
    by_contra notBefore
    have differ : post[j + 1].symbol ≠ post[j].symbol := by
      have distinct := shift_once same
      rw [shift_keys] at distinct
      intro equal
      have inside : j + 1 < (post.map (·.symbol)).length := by simpa using h
      have positions := (List.Nodup.getElem_inj_iff distinct (i := j + 1) (j := j)).1
        (show (post.map (·.symbol))[j + 1] = (post.map (·.symbol))[j] by simpa using equal)
      omega
    have after := lt_of_le_of_ne (not_lt.1 notBefore) differ
    refine leaves (post[j + 1].symbol, pre.length + (j + 1))
      (sorting.mem_iff.2 (mem_shift.2 ⟨j + 1, h, rfl⟩)) (post[j].symbol, pre.length + j)
      (sorting.mem_iff.2 (mem_shift.2 ⟨j, by omega, rfl⟩)) after ?_
    rw [holds j (by omega)]
    congr 1
    omega
  · intro chain a memberA b memberB below taken
    obtain ⟨i, hi, rfl⟩ := mem_shift.1 (sorting.mem_iff.1 memberA)
    obtain ⟨j, hj, rfl⟩ := mem_shift.1 (sorting.mem_iff.1 memberB)
    rw [holds j hj, Option.some.injEq] at taken
    obtain rfl : i = j + 1 := by omega
    have step := chain j (by simpa using hi)
    rw [List.getElem_map, List.getElem_map] at step
    exact lt_irrefl _ (lt_trans step below)

end Gap

/-! ## Inserting and deleting -/

namespace Table

/-- Rows that meet the constraints together with the stored ones all go in. -/
theorem inserts_ok (t : Table) (rows : List WatchlistRecord)
    (keyed : ((t.rows ++ rows).map (·.symbol)).Nodup)
    (unique : ((t.rows ++ rows).map (·.position)).Nodup)
    (ranged : ∀ row ∈ rows, row.position < 9) :
    ∃ t', t.inserts rows = .ok t' ∧ t'.rows = t.rows ++ rows := by
  induction rows generalizing t with
  | nil => exact ⟨t, rfl, by simp⟩
  | cons row rest ih =>
    rw [List.map_append, List.map_cons] at keyed unique
    have newKey := (List.nodup_append'.1 keyed).2.2
    have newPlace := (List.nodup_append'.1 unique).2.2
    have fits : row.symbol ∉ t.rows.map (·.symbol) ∧ row.position ∉ t.rows.map (·.position) ∧
        row.position < 9 :=
      ⟨fun member => newKey member List.mem_cons_self,
        fun member => newPlace member List.mem_cons_self, ranged row List.mem_cons_self⟩
    obtain ⟨middle, inserted, stored⟩ : ∃ middle, t.insert row = .ok middle ∧
        middle.rows = t.rows ++ [row] := ⟨_, dif_pos fits, rfl⟩
    obtain ⟨t', done, rows⟩ := ih (t := middle) (by simpa [stored] using keyed)
      (by simpa [stored] using unique) fun later member =>
        ranged later (List.mem_cons_of_mem _ member)
    refine ⟨t', ?_, by simp [rows, stored]⟩
    rw [inserts, List.foldlM_cons, inserted]
    exact done

theorem deletes_rows (t : Table) (symbols : List String) :
    (t.deletes symbols).rows = t.rows.filter fun row => row.symbol ∉ symbols := by
  induction symbols generalizing t with
  | nil => simp [deletes]
  | cons symbol rest ih =>
    have step : t.deletes (symbol :: rest) = (t.delete symbol).deletes rest := rfl
    rw [step, ih, delete, List.filter_filter]
    refine List.filter_congr fun row _ => ?_
    simp [Bool.and_comm]

theorem deletes_all (t : Table) : (t.deletes (t.ordered.map (·.symbol))).rows = [] := by
  rw [deletes_rows, List.filter_eq_nil_iff]
  intro row member absent
  refine absurd (List.mem_map_of_mem (mem_ordered.2 member)) (of_decide_eq_true absent)

end Table

/-! ## The calls -/

section Calls

variable {setting : Setting} {db : Database}

theorem entries_eq (db : Database) : entries db = db.watchlist.ordered := List.map_id' _

theorem symbols_eq (db : Database) : symbols db = db.watchlist.ordered.map (·.symbol) := by
  rw [symbols, entries_eq]

theorem normalizeSymbol_refused {raw : String} {failure : Failure}
    (invalid : normalizeSymbol raw = .error failure) : ∃ message, failure = .refused message := by
  simp only [normalizeSymbol] at invalid
  split at invalid
  · exact ⟨_, (Except.error.inj invalid).symm⟩
  · cases invalid

/-- One row behind the others goes in. -/
theorem insert_last (t : Table) (dense : Dense t.ordered) (row : WatchlistRecord)
    (fresh : row.symbol ∉ t.ordered.map (·.symbol)) (last : row.position = t.ordered.length)
    (room : t.ordered.length < 9) :
    ∃ t', t.inserts [row] = .ok t' ∧ t'.ordered = t.ordered ++ [row] := by
  have stored : (t.ordered ++ [row]).Perm (t.rows ++ [row]) := t.ordered_perm.append_right _
  have numbered := dense.append row last
  have keyed : ((t.ordered ++ [row]).map (·.symbol)).Nodup := by
    rw [List.map_append]
    exact List.nodup_append'.2 ⟨t.ordered_keyed, List.nodup_singleton _, by simpa using fresh⟩
  have unique : ((t.ordered ++ [row]).map (·.position)).Nodup := by
    rw [numbered]
    exact List.nodup_range
  obtain ⟨t', done, rows⟩ := Table.inserts_ok t [row]
    ((stored.map _).nodup_iff.1 keyed) ((stored.map _).nodup_iff.1 unique) (by
      intro other member
      rw [List.mem_singleton.1 member]
      omega)
  exact ⟨t', done, Table.ordered_eq (rows ▸ stored) numbered.increasing⟩

variable (setting) in
theorem add_spec (raw : String) (dense : Dense db.watchlist.ordered) :
    (∃ message, add setting raw db = .error (.refused message)) ∨
      normalForm raw ∉ symbols db ∧
      ∃ t', t'.ordered = db.watchlist.ordered ++
          [⟨normalForm raw, db.watchlist.ordered.length, setting.moment, setting.role⟩] ∧
        add setting raw db = .ok (⟨t', recordEvent setting "add" (some (normalForm raw))
            (db.watchlist.ordered.map (·.symbol) ++ [normalForm raw]) db.events⟩,
          ⟨normalForm raw, db.watchlist.ordered.length, setting.moment, setting.role⟩) := by
  cases normal : normalizeSymbol raw with
  | error failure =>
    obtain ⟨message, rfl⟩ := normalizeSymbol_refused normal
    exact .inl ⟨message, by rw [add, normal]; rfl⟩
  | ok symbol =>
    obtain rfl := normalizeSymbol_ok normal
    by_cases listed : db.watchlist.ordered.any fun row => row.symbol = normalForm raw
    · exact .inl ⟨_, by rw [add, normal]; exact if_pos listed⟩
    by_cases full : watchlistLimit ≤ db.watchlist.ordered.length
    · exact .inl ⟨_, by rw [add, normal]; exact (if_neg listed).trans (if_pos full)⟩
    have fresh : normalForm raw ∉ db.watchlist.ordered.map (·.symbol) := by
      intro member
      obtain ⟨row, stored, same⟩ := List.mem_map.1 member
      exact listed (List.any_eq_true.2 ⟨row, stored, by simpa using same⟩)
    obtain ⟨t', inserted, listing⟩ := insert_last db.watchlist dense
      ⟨normalForm raw, db.watchlist.ordered.length, setting.moment, setting.role⟩
      fresh rfl (Nat.lt_of_not_le full)
    refine .inr ⟨symbols_eq db ▸ fresh, t', listing, ?_⟩
    rw [add, normal]
    refine ((if_neg listed).trans (if_neg full)).trans ?_
    dsimp only
    rw [inserted]
    rfl

/-- The rows before the removed coin, the removed one and those after it. -/
theorem split_at_found {rows : List WatchlistRecord} {symbol : String} {target : WatchlistRecord}
    (keyed : (rows.map (·.symbol)).Nodup)
    (found : (rows.find? fun row => row.symbol = symbol) = some target) :
    ∃ pre post, rows = pre ++ target :: post ∧ target.symbol = symbol ∧
      (rows.filter fun row => row.symbol ≠ target.symbol) = pre ++ post := by
  obtain ⟨hit, pre, post, rfl, -⟩ := List.find?_eq_some_iff_append.1 found
  refine ⟨pre, post, rfl, by simpa using hit, ?_⟩
  rw [List.map_append, List.map_cons] at keyed
  obtain ⟨-, tail, apart⟩ := List.nodup_append'.1 keyed
  have before : pre.filter (fun row => row.symbol ≠ target.symbol) = pre := by
    refine List.filter_eq_self.2 fun row member => decide_eq_true fun same => ?_
    exact apart (List.mem_map_of_mem member) (by simp [same])
  have behind : post.filter (fun row => row.symbol ≠ target.symbol) = post := by
    refine List.filter_eq_self.2 fun row member => decide_eq_true fun same => ?_
    exact (List.nodup_cons.1 tail).1 (same ▸ List.mem_map_of_mem member)
  rw [List.filter_append, List.filter_cons_of_neg (by simp), before, behind]

/-- What moving the rows behind the gap leaves: the same rows, numbered. -/
theorem numbered_moved {pre post : List WatchlistRecord} {moves : List (String × Nat)}
    (dense : ∀ i (h : i < pre.length), pre[i].position = i)
    (apart : ((pre ++ post).map (·.symbol)).Nodup) (moved : moves.Perm (shift pre.length post)) :
    (pre ++ post).map (Table.moveAll moves) = numbered 0 (pre ++ post) := by
  rw [List.map_append] at apart
  obtain ⟨-, tail, disjoint⟩ := List.nodup_append'.1 apart
  have keys : (moves.map Prod.fst).Perm (post.map (·.symbol)) :=
    shift_keys pre.length post ▸ moved.map Prod.fst
  have still : pre.map (Table.moveAll moves) = numbered 0 pre := by
    refine List.ext_getElem (by simp) fun i h _ => ?_
    simp only [List.length_map] at h
    have unmoved : pre[i].symbol ∉ moves.map Prod.fst := fun member =>
      disjoint (List.mem_map_of_mem (List.getElem_mem h)) (keys.mem_iff.1 member)
    rw [List.getElem_map, Table.moveAll_unmoved unmoved, numbered_getElem 0 h (by simpa using h),
      keeps_position (by rw [dense i h, Nat.zero_add])]
  have shiftedUp : post.map (Table.moveAll moves) = numbered pre.length post := by
    refine List.ext_getElem (by simp) fun j h _ => ?_
    simp only [List.length_map] at h
    rw [List.getElem_map, Table.moveAll_moved (keys.nodup_iff.2 tail)
      (moved.mem_iff.2 (mem_shift.2 ⟨j, h, rfl⟩)), numbered_getElem pre.length h (by simpa using h)]
  rw [List.map_append, still, shiftedUp]
  simp only [numbered, List.zipIdx_append, List.map_append, Nat.zero_add]

/-- The rows before a removed row keep their positions; those behind it are one too far. -/
theorem Dense.gap {pre post : List WatchlistRecord} {target : WatchlistRecord}
    (dense : Dense (pre ++ target :: post)) :
    (∀ i (h : i < pre.length), pre[i].position = i) ∧
      ∀ j (h : j < post.length), post[j].position = pre.length + 1 + j := by
  have places := dense_iff.1 dense
  constructor
  · intro i h
    have place := places i (by simp; omega)
    simpa [List.getElem_append_left h] using place
  · intro j h
    have place := places (pre.length + 1 + j) (by simp; omega)
    rw [List.getElem_append_right (by omega)] at place
    have later : pre.length + 1 + j - pre.length = j + 1 := by omega
    simpa only [later, List.getElem_cons_succ] using place

/-- Closing a gap numbers the rows, or is refused because two of them pass each other. -/
theorem shift_spec {t : Table} {pre post : List WatchlistRecord} (stored : (pre ++ post).Perm t.rows)
    (early : ∀ i (h : i < pre.length), pre[i].position = i)
    (behind : ∀ j (h : j < post.length), post[j].position = pre.length + 1 + j) :
    ((post.map (·.symbol)).Pairwise (· < ·) ∧
        ∃ t', t'.ordered = numbered 0 (pre ++ post) ∧ t.updates (shift pre.length post) = .ok t') ∨
      (¬(post.map (·.symbol)).Pairwise (· < ·) ∧
        t.updates (shift pre.length post) = .error .integrity) := by
  have before : ∀ row ∈ pre, row.position < pre.length := by
    intro row member
    obtain ⟨i, h, rfl⟩ := List.getElem_of_mem member
    rw [early i h]
    exact h
  have clear := shift_clear_iff stored before behind
  have sorting := List.perm_insertionSort (fun a b : String × Nat => a.1 ≤ b.1)
    (shift pre.length post)
  have present : ∀ m ∈ (shift pre.length post).insertionSort fun a b => a.1 ≤ b.1,
      m.1 ∈ t.rows.map (·.symbol) := by
    intro m member
    obtain ⟨j, h, rfl⟩ := mem_shift.1 (sorting.mem_iff.1 member)
    exact List.mem_map_of_mem (stored.mem_iff.1 (List.mem_append_right _ (List.getElem_mem h)))
  have inRange : ∀ m ∈ (shift pre.length post).insertionSort fun a b => a.1 ≤ b.1, m.2 < 9 := by
    intro m member
    obtain ⟨j, h, rfl⟩ := mem_shift.1 (sorting.mem_iff.1 member)
    have bound := t.ranged post[j]
      (stored.mem_iff.1 (List.mem_append_right _ (List.getElem_mem h)))
    have place := behind j h
    dsimp only
    omega
  rcases Table.flush_spec present inRange with ⟨free, t', done, -⟩ | ⟨blocked, failed⟩
  · have apart := (stored.map (·.symbol)).nodup_iff.2 t.keyed
    refine .inl ⟨clear.1 free, t', Table.ordered_eq ?_ (numbered_dense _).increasing, done⟩
    rw [Table.flush_rows done, ← numbered_moved early apart sorting]
    exact stored.map _
  · exact .inr ⟨fun increasing => blocked (clear.2 increasing), failed⟩

variable (setting) in
theorem remove_spec (raw : String) (dense : Dense db.watchlist.ordered) :
    ((∃ message, remove setting raw db = .error (.refused message)) ∧
        ∀ symbol, normalizeSymbol raw = .ok symbol → symbol ∉ symbols db) ∨
      ∃ pre target post, db.watchlist.ordered = pre ++ target :: post ∧
        target.symbol = normalForm raw ∧ normalizeSymbol raw = .ok (normalForm raw) ∧
        (((post.map (·.symbol)).Pairwise (· < ·) ∧
            ∃ t', t'.ordered = numbered 0 (pre ++ post) ∧
              remove setting raw db = .ok (⟨t', recordEvent setting "remove"
                (some (normalForm raw)) ((pre ++ post).map (·.symbol)) db.events⟩, ())) ∨
          (¬(post.map (·.symbol)).Pairwise (· < ·) ∧
            remove setting raw db = .error .integrity)) := by
  cases normal : normalizeSymbol raw with
  | error failure =>
    obtain ⟨message, rfl⟩ := normalizeSymbol_refused normal
    exact .inl ⟨⟨message, by rw [remove, normal]; rfl⟩, nofun⟩
  | ok symbol =>
    obtain rfl := normalizeSymbol_ok normal
    cases found : db.watchlist.ordered.find? fun row => row.symbol = normalForm raw with
    | none =>
      refine .inl ⟨⟨normalForm raw ++ " is not on the watchlist.", ?_⟩, ?_⟩
      · rw [remove, normal]
        dsimp only [bind, Except.bind]
        rw [found]
      · rintro symbol same member
        cases same
        rw [symbols_eq] at member
        obtain ⟨row, stored, hit⟩ := List.mem_map.1 member
        simpa [hit] using List.find?_eq_none.1 found row stored
    | some target =>
      obtain ⟨pre, post, rows, hit, rest⟩ := split_at_found db.watchlist.ordered_keyed found
      refine .inr ⟨pre, target, post, rows, hit, rfl, ?_⟩
      have outcome : remove setting raw db =
          ((db.watchlist.delete target.symbol).updates (shift pre.length post)).bind fun table =>
            .ok (⟨table, recordEvent setting "remove" (some (normalForm raw))
              ((pre ++ post).map (·.symbol)) db.events⟩, ()) := by
        rw [remove, normal]
        dsimp only [bind, Except.bind]
        rw [found]
        dsimp only
        rw [rest, shifted_eq (rows ▸ dense)]
        rfl
      have stored : (pre ++ post).Perm (db.watchlist.delete target.symbol).rows := by
        rw [← rest]
        exact db.watchlist.ordered_perm.filter _
      obtain ⟨early, behind⟩ := (rows ▸ dense : Dense (pre ++ target :: post)).gap
      rcases shift_spec stored early behind with
        ⟨increasing, t', numbers, done⟩ | ⟨passing, failed⟩
      · exact .inl ⟨increasing, t', numbers, by rw [outcome, done]; rfl⟩
      · exact .inr ⟨passing, by rw [outcome, failed]; rfl⟩

theorem mapM_normal {raws wanted : List String} (valid : raws.mapM normalizeSymbol = .ok wanted) :
    wanted = raws.map normalForm := by
  induction raws generalizing wanted with
  | nil =>
    cases valid
    rfl
  | cons raw rest ih =>
    rw [List.mapM_cons] at valid
    obtain ⟨symbol, first, valid⟩ := bind_eq_ok.1 valid
    obtain ⟨later, others, valid⟩ := bind_eq_ok.1 valid
    cases valid
    rw [normalizeSymbol_ok first, ih others, List.map_cons]

theorem mapM_refused {raws : List String} {failure : Failure}
    (invalid : raws.mapM normalizeSymbol = .error failure) : ∃ message, failure = .refused message := by
  induction raws with
  | nil => cases invalid
  | cons raw rest ih =>
    rw [List.mapM_cons] at invalid
    rcases bind_eq_error.1 invalid with first | ⟨symbol, -, invalid⟩
    · exact normalizeSymbol_refused first
    rcases bind_eq_error.1 invalid with later | ⟨others, -, never⟩
    · exact ih later
    · cases never

theorem sameCoins_perm {wanted present : List String} (same : sameCoins wanted present = true) :
    wanted.Perm present := by
  have sorted := of_decide_eq_true same
  refine (List.perm_insertionSort (· ≤ ·) wanted).symm.trans ?_
  rw [sorted]
  exact List.perm_insertionSort _ _

/-- Every wanted coin is on the list, so the new rows are the old ones, renumbered. -/
theorem replaced_cons (rows : List WatchlistRecord) {wanted : List String} (k : Nat)
    (listed : ∀ symbol ∈ wanted, symbol ∈ rows.map (·.symbol)) :
    ∃ chosen : List WatchlistRecord, (∀ row ∈ chosen, row ∈ rows) ∧
      chosen.map (·.symbol) = wanted ∧
      ((wanted.zipIdx k).filterMap fun w =>
        (rows.find? fun row => row.symbol = w.1).map fun row =>
          (⟨w.1, w.2, row.addedAt, row.addedBy⟩ : WatchlistRecord)) = numbered k chosen := by
  induction wanted generalizing k with
  | nil => exact ⟨[], by simp, rfl, rfl⟩
  | cons symbol rest ih =>
    obtain ⟨chosen, within, symbols, replaced⟩ := ih (k + 1) fun later member =>
      listed later (List.mem_cons_of_mem _ member)
    have some : (rows.find? fun row => row.symbol = symbol).isSome := by
      obtain ⟨row, stored, same⟩ := List.mem_map.1 (listed symbol List.mem_cons_self)
      rw [List.find?_isSome]
      exact ⟨row, stored, by simpa using same⟩
    obtain ⟨row, found⟩ := Option.isSome_iff_exists.1 some
    have hit : row.symbol = symbol := by simpa using List.find?_some found
    refine ⟨row :: chosen, ?_, by rw [List.map_cons, symbols, hit], ?_⟩
    · intro other member
      rcases List.mem_cons.1 member with rfl | later
      · exact List.mem_of_find?_eq_some found
      · exact within other later
    · rw [List.zipIdx_cons, List.filterMap_cons_some (by rw [found]; rfl), replaced, ← hit]
      rfl

variable (setting) in
theorem reorder_spec (raws : List String) (dense : Dense db.watchlist.ordered) :
    ((∃ message, reorder setting raws db = .error (.refused message)) ∧
        raws.mapM normalizeSymbol ≠ .ok (symbols db)) ∨
      (raws.mapM normalizeSymbol = .ok (symbols db) ∧
        reorder setting raws db = .ok (db, symbols db)) ∨
      (raws.mapM normalizeSymbol ≠ .ok (symbols db) ∧
        ∃ chosen : List WatchlistRecord, (∀ row ∈ chosen, row ∈ db.watchlist.ordered) ∧
          chosen.map (·.symbol) = raws.map normalForm ∧
          ∃ t', t'.ordered = numbered 0 chosen ∧
            reorder setting raws db = .ok (⟨t', recordEvent setting "reorder" none
              (raws.map normalForm) db.events⟩, raws.map normalForm)) := by
  rw [symbols_eq]
  cases normal : raws.mapM normalizeSymbol with
  | error failure =>
    obtain ⟨message, rfl⟩ := mapM_refused normal
    exact .inl ⟨⟨message, by rw [reorder, normal]; rfl⟩, nofun⟩
  | ok wanted =>
    obtain rfl := mapM_normal normal
    by_cases bad : ¬(raws.map normalForm).Nodup ∨
        sameCoins (raws.map normalForm) (db.watchlist.ordered.map (·.symbol)) = false
    · refine .inl ⟨⟨_, by rw [reorder, normal]; exact if_pos bad⟩, fun same => ?_⟩
      rw [Except.ok.inj same] at bad
      rcases bad with repeated | others
      · exact repeated db.watchlist.ordered_keyed
      · simp [sameCoins] at others
    by_cases same : raws.map normalForm = db.watchlist.ordered.map (·.symbol)
    · refine .inr (.inl ⟨by rw [same], ?_⟩)
      rw [reorder, normal]
      refine ((if_neg bad).trans (if_pos same)).trans ?_
      rw [same]
      rfl
    obtain ⟨distinct, coins⟩ := not_or.1 bad
    have perm := sameCoins_perm (eq_true_of_ne_false coins)
    obtain ⟨chosen, within, chosenSymbols, rows⟩ := replaced_cons db.watchlist.ordered 0
      fun symbol member => perm.mem_iff.1 member
    have cleared := db.watchlist.deletes_all
    have size : chosen.length = db.watchlist.ordered.length := by
      have := perm.length_eq
      rw [← chosenSymbols, List.length_map, List.length_map] at this
      exact this
    obtain ⟨t', inserted, stored⟩ := Table.inserts_ok
      (db.watchlist.deletes (db.watchlist.ordered.map (·.symbol))) (numbered 0 chosen)
      (by rw [cleared, List.nil_append, numbered_symbols, chosenSymbols]; exact not_not.1 distinct)
      (by rw [cleared, List.nil_append, numbered_dense]; exact List.nodup_range)
      (by
        intro row member
        obtain ⟨i, h, rfl⟩ := List.getElem_of_mem member
        rw [numbered_length] at h
        have inside := dense_iff.1 (numbered_dense chosen) i (by simpa using h)
        have := (dense : Dense db.watchlist.ordered).length_le
        omega)
    refine .inr (.inr ⟨fun equal => same (Except.ok.inj equal), chosen, within, chosenSymbols, t',
      Table.ordered_eq (by rw [stored, cleared]; rfl) (numbered_dense _).increasing, ?_⟩)
    rw [reorder, normal]
    refine ((if_neg bad).trans (if_neg same)).trans ?_
    dsimp only
    rw [show replaced db.watchlist.ordered (raws.map normalForm) = numbered 0 chosen from rows,
      inserted]
    rfl

end Calls

/-! ## Every call of every sequence -/

/-- The order a change asks for. -/
def Change.newOrder : Change → List String → List String
  | .add symbol, order => order ++ [normalForm symbol]
  | .remove symbol, order => order.erase (normalForm symbol)
  | .reorder symbols, _ => symbols.map normalForm

/-- What a change that went through has left. -/
structure Done (change : Change) (before after : Database) : Prop where
  order : symbols after = change.newOrder (symbols before)
  positions : (entries after).map (·.position) = List.range (entries after).length
  bounded : (entries after).length ≤ 9
  survivors : ∀ coin ∈ entries before, ∀ kept ∈ entries after, kept.symbol = coin.symbol →
    kept.addedAt = coin.addedAt ∧ kept.addedBy = coin.addedBy
  recorded : ∃ event, after.events = before.events ++ [event] ∧
    event.eventType = watchlistEvent ∧ event.payload.order = change.newOrder (symbols before)

/-- The call is refused by its own checks, or succeeds and leaves what it should. -/
def Meets (call : Call) (db : Database) : Prop :=
  (∃ message, (perform call db).2 = .error (.refused message)) ∨
    (∃ reply, (perform call db).2 = .ok reply) ∧ Done call.change db (perform call db).1

/-- The coins listed behind a symbol. -/
def behind (symbol : String) (order : List String) : List String :=
  (order.dropWhile (· ≠ symbol)).tail

/-- A removed coin is followed by coins in the order of their symbols; a new order
is another one than the present. -/
def Safe (change : Change) (order : List String) : Prop :=
  match change with
  | .add _ => True
  | .remove raw => ∀ symbol ∈ (normalizeSymbol raw).toOption,
      (behind symbol order).Pairwise (· < ·)
  | .reorder raws => (raws.mapM normalizeSymbol).toOption ≠ some order

instance (change : Change) (order : List String) : Decidable (Safe change order) := by
  cases change <;> unfold Safe <;> infer_instance

theorem mem_toOption {ε α : Type} {x : Except ε α} {a : α} : a ∈ x.toOption ↔ x = .ok a := by
  cases x <;> simp [Except.toOption]

theorem behind_absent {symbol : String} {order : List String} (absent : symbol ∉ order) :
    behind symbol order = [] := by
  have all : ∀ other ∈ order, other ≠ symbol := fun other member same => absent (same ▸ member)
  have dropped : order.dropWhile (fun other => other ≠ symbol) = [] :=
    List.dropWhile_eq_nil_iff.2 fun other member => decide_eq_true (all other member)
  rw [behind, dropped]
  rfl

theorem behind_split {pre post : List WatchlistRecord} {target : WatchlistRecord}
    (keyed : ((pre ++ target :: post).map (·.symbol)).Nodup) :
    behind target.symbol ((pre ++ target :: post).map (·.symbol)) = post.map (·.symbol) := by
  rw [List.map_append] at keyed
  have apart := (List.nodup_append'.1 keyed).2.2
  have before : ∀ symbol ∈ pre.map (·.symbol), symbol ≠ target.symbol := by
    intro symbol member same
    exact apart member (by simp [same])
  rw [behind, List.map_append, List.dropWhile_append_of_pos (by simpa using before)]
  simp

theorem perform_ok {call : Call} {db after : Database} {reply : Reply}
    (done : carryOut call db = .ok (after, reply)) : perform call db = (after, .ok reply) := by
  rw [perform, done]

theorem perform_error {call : Call} {db : Database} {failure : Failure}
    (failed : carryOut call db = .error failure) : perform call db = (db, .error failure) := by
  rw [perform, failed]

/-- What a call left behind when the list is now some rows, renumbered: old rows
keep who added them and when. -/
theorem done_of_numbered {change : Change} {before after : Database}
    {rows : List WatchlistRecord}
    (within : ∀ row ∈ rows, row ∈ before.watchlist.ordered ∨ row.symbol ∉ symbols before)
    (listed : after.watchlist.ordered = numbered 0 rows)
    (order : rows.map (·.symbol) = change.newOrder (symbols before))
    (recorded : ∃ event, after.events = before.events ++ [event] ∧
      event.eventType = watchlistEvent ∧ event.payload.order = rows.map (·.symbol)) :
    Done change before after where
  order := by rw [symbols_eq, listed, numbered_symbols, order]
  positions := by
    rw [entries_eq, listed]
    exact numbered_dense rows
  bounded := by
    rw [entries_eq]
    exact Dense.length_le (listed ▸ numbered_dense rows)
  survivors := by
    intro coin member kept stays same
    rw [entries_eq, listed] at stays
    obtain ⟨old, source, symbol, addedAt, addedBy⟩ := mem_numbered stays
    have symbols : old.symbol = coin.symbol := symbol ▸ same
    rcases within old source with stored | new
    · rw [entries_eq] at member
      obtain rfl : old = coin := before.watchlist.eq_of_symbol (Table.mem_ordered.1 stored)
        (Table.mem_ordered.1 member) symbols
      exact ⟨addedAt, addedBy⟩
    · exact absurd (List.mem_map_of_mem member) (symbols ▸ new)
  recorded := order ▸ recorded

section Outcomes

variable {call : Call} {db : Database}

/-- The list stays dense, and the call does what it should exactly when it is safe. -/
def Judged (call : Call) (db : Database) : Prop :=
  Dense (perform call db).1.watchlist.ordered ∧ (Meets call db ↔ Safe call.change (symbols db))

theorem judged_refused (dense : Dense db.watchlist.ordered) {message : String}
    (result : carryOut call db = .error (.refused message))
    (safe : Safe call.change (symbols db)) : Judged call db := by
  rw [Judged, Meets, perform_error result]
  exact ⟨dense, fun _ => safe, fun _ => .inl ⟨message, rfl⟩⟩

theorem judged_failed (dense : Dense db.watchlist.ordered)
    (result : carryOut call db = .error .integrity) (unsafely : ¬Safe call.change (symbols db)) :
    Judged call db := by
  rw [Judged, Meets, perform_error result]
  refine ⟨dense, ?_, fun safe => absurd safe unsafely⟩
  rintro (⟨message, refused⟩ | ⟨⟨reply, done⟩, -⟩)
  · cases refused
  · cases done

theorem judged_done {after : Database} {reply : Reply} {rows : List WatchlistRecord}
    (result : carryOut call db = .ok (after, reply))
    (listed : after.watchlist.ordered = numbered 0 rows) (done : Done call.change db after)
    (safe : Safe call.change (symbols db)) : Judged call db := by
  rw [Judged, Meets, perform_ok result]
  exact ⟨listed ▸ numbered_dense rows, fun _ => safe, fun _ => .inr ⟨⟨reply, rfl⟩, done⟩⟩

end Outcomes

section Judgements

variable {db : Database} (setting : Setting)

theorem add_judged (raw : String) (dense : Dense db.watchlist.ordered) :
    Judged ⟨.add raw, setting⟩ db := by
  rcases add_spec setting raw dense with
    ⟨message, refused⟩ | ⟨fresh, t', listed, done⟩
  · have result : carryOut ⟨.add raw, setting⟩ db = .error (.refused message) := by
      simp [carryOut, refused, Except.map]
    exact judged_refused dense result trivial
  · have result := congrArg (Except.map fun r => (r.1, Reply.entry r.2)) done
    have numbers := (dense.append ⟨normalForm raw, _, setting.moment, setting.role⟩
      rfl).numbered_eq
    refine judged_done result (listed.trans numbers.symm)
      (done_of_numbered ?_ (listed.trans numbers.symm) ?_ ⟨_, rfl, rfl, ?_⟩) trivial
    · intro row member
      rcases List.mem_append.1 member with old | new
      · exact .inl old
      · rw [List.mem_singleton.1 new]
        exact .inr fresh
    · simp [Change.newOrder, symbols_eq]
    · simp

theorem remove_judged (raw : String) (dense : Dense db.watchlist.ordered) :
    Judged ⟨.remove raw, setting⟩ db := by
  rcases remove_spec setting raw dense with
    ⟨⟨message, refused⟩, absent⟩ | ⟨pre, target, post, rows, hit, normal, outcome⟩
  · have result : carryOut ⟨.remove raw, setting⟩ db = .error (.refused message) := by
      simp [carryOut, refused, Except.map]
    refine judged_refused dense result fun symbol found => ?_
    rw [behind_absent (absent symbol (mem_toOption.1 found))]
    exact List.Pairwise.nil
  have keyed := db.watchlist.ordered_keyed
  rw [rows] at keyed
  have safe : Safe (.remove raw) (symbols db) ↔ (post.map (·.symbol)).Pairwise (· < ·) := by
    have split := behind_split keyed
    rw [hit, ← rows, ← symbols_eq] at split
    constructor
    · intro safe
      exact split ▸ safe (normalForm raw) (mem_toOption.2 normal)
    · intro increasing symbol found
      obtain rfl := normalizeSymbol_ok (mem_toOption.1 found)
      exact split ▸ increasing
  rcases outcome with ⟨increasing, t', listed, done⟩ | ⟨unordered, failed⟩
  · have result := congrArg (Except.map fun r => (r.1, Reply.nothing)) done
    refine judged_done result listed
      (done_of_numbered ?_ listed ?_ ⟨_, rfl, rfl, rfl⟩) (safe.2 increasing)
    · intro row member
      rw [rows]
      refine .inl ?_
      rcases List.mem_append.1 member with early | late
      · exact List.mem_append_left _ early
      · exact List.mem_append_right _ (List.mem_cons_of_mem _ late)
    · have distinct : target.symbol ∉ pre.map (·.symbol) := by
        rw [List.map_append] at keyed
        exact fun member => (List.nodup_append'.1 keyed).2.2 member (by simp)
      rw [Change.newOrder, symbols_eq, rows, List.map_append, List.map_append, List.map_cons,
        List.erase_append_right _ (hit ▸ distinct), hit, List.erase_cons_head]
  · have result : carryOut ⟨.remove raw, setting⟩ db = .error .integrity := by
      simp [carryOut, failed, Except.map]
    exact judged_failed dense result fun ok => unordered (safe.1 ok)

theorem reorder_judged (raws : List String) (dense : Dense db.watchlist.ordered) :
    Judged ⟨.reorder raws, setting⟩ db := by
  rcases reorder_spec setting raws dense with
    ⟨⟨message, refused⟩, other⟩ | ⟨same, done⟩ | ⟨other, chosen, within, order, t', listed, done⟩
  · have result : carryOut ⟨.reorder raws, setting⟩ db = .error (.refused message) := by
      simp [carryOut, refused, Except.map]
    exact judged_refused dense result fun equal => other (mem_toOption.1 equal)
  · have result : carryOut ⟨.reorder raws, setting⟩ db = .ok (db, .order (symbols db)) := by
      simp [carryOut, done, Except.map]
    rw [Judged, Meets, perform_ok result]
    refine ⟨dense, ?_, fun safe => absurd (mem_toOption.2 same) safe⟩
    -- Nothing was recorded, so the events cannot be one longer.
    rintro (⟨message, refused⟩ | ⟨-, met⟩)
    · cases refused
    · obtain ⟨event, longer, -⟩ := met.recorded
      simp at longer
  · have result := congrArg (Except.map fun r => (r.1, Reply.order r.2)) done
    exact judged_done result listed
      (done_of_numbered (fun row member => .inl (within row member)) listed order
        ⟨_, rfl, rfl, order.symm⟩) fun equal => other (mem_toOption.1 equal)

end Judgements

theorem judged (call : Call) {db : Database} (dense : Dense db.watchlist.ordered) :
    Judged call db := by
  obtain ⟨change, setting⟩ := call
  cases change with
  | add raw => exact add_judged setting raw dense
  | remove raw => exact remove_judged setting raw dense
  | reorder raws => exact reorder_judged setting raws dense

theorem after_dense (calls : List Call) : Dense (after calls).watchlist.ordered := by
  induction calls using List.reverseRecOn with
  | nil => rfl
  | append_singleton calls call ih =>
    rw [after, List.foldl_append]
    exact (judged call ih).1

/-- A call made after any others is refused or does what it should exactly when
it is safe. -/
theorem call_meets_iff (calls : List Call) (call : Call) :
    Meets call (after calls) ↔ Safe call.change (symbols (after calls)) :=
  (judged call (after_dense calls)).2

/-- A call of the operator's at a fixed time. -/
def byOperator (change : Change) : Call := ⟨change, ⟨"operator", some 0, 0, ⟨0⟩⟩⟩

def threeCoins : List Call :=
  ["ETH-USD", "SOL-USD", "ADA-USD"].map fun coin => byOperator (.add coin)

/-- ADA-USD is written before SOL-USD and meets it in position 1. -/
theorem remove_collides : ¬Meets (byOperator (.remove "ETH-USD")) (after threeCoins) := by
  intro met
  have unordered : ¬Safe (.remove "ETH-USD") (symbols (after threeCoins)) := by decide
  exact unordered ((judged _ (after_dense threeCoins)).2.1 met)

end AlgoTrader.Data.Watchlist
