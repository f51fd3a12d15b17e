/-
# Theory.Keyset -- pages that continue where the last one ended

Rows have positions in a linear order and are read newest first, a page at a time.
A page that is not the last hands out the position of its last row, and the next
page is read from the rows before it.  The table may grow between the pages.

* `Page.next_view` -- a full page and what is read before its last row make up what
  was to be read;
* `walk_complete` -- the pages make up the table the first page saw, in order, as
  long as every row that is added lies after the position handed out last.

What a page hands out need not be a position: it is turned back into one by
`follow`, which may fail on some rows.
-/
import Mathlib.Data.List.Nodup
import Mathlib.Data.List.Sort
import Mathlib.Data.List.TakeDrop

namespace AlgoTrader.Theory.Keyset

set_option autoImplicit false

variable {ρ α : Type} [LinearOrder α]

section Order

variable (pos : ρ → α)

/-- `ORDER BY position DESC`. -/
def newestFirst (rows : List ρ) : List ρ := rows.insertionSort fun a b => pos b ≤ pos a

/-- Strictly descending. -/
def Descending (rows : List ρ) : Prop := rows.Pairwise fun a b => pos b < pos a

theorem newestFirst_perm (rows : List ρ) : (newestFirst pos rows).Perm rows :=
  List.perm_insertionSort _ _

variable {pos}

theorem newestFirst_descending {rows : List ρ} (distinct : (rows.map pos).Nodup) :
    Descending pos (newestFirst pos rows) := by
  have total : Std.Total fun a b : ρ => pos b ≤ pos a := ⟨fun a b => le_total (pos b) (pos a)⟩
  have trans : IsTrans ρ fun a b => pos b ≤ pos a := ⟨fun _ _ _ first then_ => le_trans then_ first⟩
  have sorted := List.pairwise_insertionSort (fun a b : ρ => pos b ≤ pos a) rows
  have apart := List.pairwise_map.1 (((newestFirst_perm pos rows).map pos).nodup_iff.2 distinct)
  exact (sorted.and apart).imp fun both => lt_of_le_of_ne both.1 (Ne.symm both.2)

/-- Only one order of the rows is descending. -/
theorem newestFirst_eq {rows sorted : List ρ} (same : sorted.Perm rows)
    (descending : Descending pos sorted) : newestFirst pos rows = sorted := by
  have distinct : (rows.map pos).Nodup := by
    rw [← (same.map pos).nodup_iff]
    exact List.pairwise_map.2 (descending.imp fun below => ne_of_gt below)
  have ordered : (newestFirst pos rows).Pairwise fun a b => pos b < pos a :=
    newestFirst_descending distinct
  exact List.Perm.eq_of_pairwise (fun a b _ _ below above => absurd below (lt_asymm above)) ordered
    descending ((newestFirst_perm pos rows).trans same.symm)

end Order

/-! ## One page -/

section Page

variable {γ : Type} (pos : ρ → α) (at_ : γ → α)

/-- The rows before a cursor, if there is one. -/
def beforeCursor (before : Option γ) (rows : List ρ) : List ρ :=
  rows.filter fun row => before.all fun cursor => pos row < at_ cursor

def view (before : Option γ) (rows : List ρ) : List ρ :=
  newestFirst pos (beforeCursor pos at_ before rows)

/-- One row more than the page holds is read, to know whether there are more. -/
def read (limit : Nat) (before : Option γ) (rows : List ρ) : List ρ :=
  (view pos at_ before rows).take (limit + 1)

def page (limit : Nat) (before : Option γ) (rows : List ρ) : List ρ :=
  (read pos at_ limit before rows).take limit

def more (limit : Nat) (before : Option γ) (rows : List ρ) : Bool :=
  limit < (read pos at_ limit before rows).length

variable {pos at_}

theorem page_eq {limit : Nat} {before : Option γ} {rows : List ρ} :
    page pos at_ limit before rows = (view pos at_ before rows).take limit := by
  rw [page, read, List.take_take, Nat.min_eq_left (Nat.le_succ limit)]

theorem more_iff {limit : Nat} {before : Option γ} {rows : List ρ} :
    more pos at_ limit before rows = true ↔ limit < (view pos at_ before rows).length := by
  simp only [more, read, List.length_take, decide_eq_true_eq]
  omega

/-- Rows added after the cursor do not enter what is read before it. -/
theorem beforeCursor_grown {cursor : γ} {rows grown new : List ρ} (same : grown.Perm (rows ++ new))
    (later : ∀ row ∈ new, at_ cursor < pos row) :
    (beforeCursor pos at_ (some cursor) grown).Perm (beforeCursor pos at_ (some cursor) rows) := by
  have none_new : beforeCursor pos at_ (some cursor) new = [] := by
    refine List.filter_eq_nil_iff.2 fun row member => ?_
    simpa using le_of_lt (later row member)
  refine (same.filter _).trans ?_
  rw [List.filter_append]
  have dropped : new.filter (fun row => (some cursor).all fun cursor => pos row < at_ cursor) = [] :=
    none_new
  rw [dropped, List.append_nil]
  exact List.Perm.refl _

/-- In a descending list, what lies before the last row of a prefix is the rest. -/
theorem filter_before_last {taken rest : List ρ} {last : ρ}
    (descending : Descending pos (taken ++ last :: rest)) :
    (taken ++ last :: rest).filter (fun row => pos row < pos last) = rest := by
  obtain ⟨-, tail, above⟩ := List.pairwise_append.1 descending
  have behind := (List.pairwise_cons.1 tail).1
  have none_taken : taken.filter (fun row => pos row < pos last) = [] := by
    refine List.filter_eq_nil_iff.2 fun row member => ?_
    simpa using le_of_lt (above row member last List.mem_cons_self)
  have all_rest : rest.filter (fun row => pos row < pos last) = rest := by
    refine List.filter_eq_self.2 fun row member => ?_
    simpa using behind row member
  rw [List.filter_append, none_taken, List.filter_cons_of_neg (by simp), all_rest]
  rfl

/-- After a page that ends in `last`, the rows before it are the rest of the view. -/
theorem Page.next_view {before : Option γ} {cursor : γ} {rows grown new taken rest : List ρ}
    {last : ρ} (shown : view pos at_ before rows = taken ++ last :: rest)
    (descending : Descending pos (taken ++ last :: rest)) (here : at_ cursor = pos last)
    (same : grown.Perm (rows ++ new)) (later : ∀ row ∈ new, at_ cursor < pos row) :
    view pos at_ (some cursor) grown = rest := by
  have older : ∀ row, pos row < at_ cursor → before.all (fun c => pos row < at_ c) = true := by
    intro row earlier
    cases before with
    | none => rfl
    | some c =>
      have member : last ∈ beforeCursor pos at_ (some c) rows :=
        (newestFirst_perm pos _).mem_iff.1
          (show last ∈ view pos at_ (some c) rows by rw [shown]; simp)
      have below := (List.mem_filter.1 member).2
      simp only [Option.all_some, decide_eq_true_eq] at below ⊢
      exact lt_trans (here ▸ earlier) below
  have narrowed : beforeCursor pos at_ (some cursor) rows =
      (beforeCursor pos at_ before rows).filter fun row => pos row < pos last := by
    rw [beforeCursor, beforeCursor, List.filter_filter]
    refine List.filter_congr fun row _ => ?_
    by_cases earlier : pos row < at_ cursor
    · simp [older row earlier, ← here, earlier]
    · simp [← here, earlier]
  have kept : rest.Perm ((beforeCursor pos at_ before rows).filter fun row => pos row < pos last) := by
    have sorted := (newestFirst_perm pos (beforeCursor pos at_ before rows)).filter
      fun row => pos row < pos last
    have listed : newestFirst pos (beforeCursor pos at_ before rows) = taken ++ last :: rest := shown
    rw [listed, filter_before_last descending] at sorted
    exact sorted
  refine newestFirst_eq ?_ ?_
  · exact kept.trans (narrowed ▸ (beforeCursor_grown same later).symm)
  · exact (List.pairwise_cons.1 (List.pairwise_append.1 descending).2.1).2

end Page

/-! ## Page after page -/

section Walk

variable {γ : Type} (pos : ρ → α) (at_ : γ → α) (follow : ρ → Option γ) (limit : Nat)
  (tables : Nat → List ρ)

/-- The cursor of the next page, if there is one and it can be followed. -/
def next (before : Option γ) (rows : List ρ) : Option γ :=
  if more pos at_ limit before rows then (page pos at_ limit before rows).getLast?.bind follow
  else none

/-- What each page is asked for: the first from the newest row on, every other one
from the cursor of the page before it. -/
def asked : Nat → Option (Option γ)
  | 0 => some none
  | i + 1 => (asked i).bind fun before => (next pos at_ follow limit before (tables i)).map some

/-- The rows of a page that is asked for. -/
def shown (i : Nat) : List ρ :=
  (asked pos at_ follow limit tables i).elim [] fun before => page pos at_ limit before (tables i)

variable {pos at_ follow limit tables}

/-- A view that does not fit on the page is a full page and a rest. -/
theorem split_page {rows : List ρ} (positive : 0 < limit) (long : limit < rows.length) :
    ∃ taken last rest, rows = taken ++ last :: rest ∧ rows.take limit = taken ++ [last] := by
  have inside : limit - 1 < rows.length := by omega
  refine ⟨rows.take (limit - 1), rows[limit - 1], rows.drop limit, ?_, ?_⟩
  · have back : limit - 1 + 1 = limit := by omega
    have dropped := List.drop_eq_getElem_cons inside
    rw [back] at dropped
    rw [← dropped, List.take_append_drop]
  · have back : limit - 1 + 1 = limit := by omega
    have last := List.take_concat_get' rows (limit - 1) inside
    rw [back] at last
    exact last.symm

/-- The pages from some page on make up what that page was to be read from. -/
theorem walk_from (positive : 0 < limit)
    (follows : ∀ row ∈ tables 0, ∃ cursor, follow row = some cursor ∧ at_ cursor = pos row)
    (grows : ∀ i cursor, asked pos at_ follow limit tables (i + 1) = some (some cursor) →
      ∃ new, (tables (i + 1)).Perm (tables i ++ new) ∧ ∀ row ∈ new, at_ cursor < pos row)
    {i : Nat} {before : Option γ} {rows : List ρ}
    (asks : asked pos at_ follow limit tables i = some before)
    (sees : view pos at_ before (tables i) = rows) (descending : Descending pos rows)
    (original : ∀ row ∈ rows, row ∈ tables 0) :
    ∃ n last, asked pos at_ follow limit tables (i + n) = some last ∧
      more pos at_ limit last (tables (i + n)) = false ∧
      (List.range' i (n + 1)).flatMap (shown pos at_ follow limit tables) = rows := by
  induction size : rows.length using Nat.strong_induction_on generalizing i before rows with
  | _ bound ih =>
    have shows : shown pos at_ follow limit tables i = rows.take limit := by
      rw [shown, asks, ← sees]
      exact page_eq
    by_cases long : limit < rows.length
    · obtain ⟨taken, last, rest, split, full⟩ := split_page positive long
      have isMore : more pos at_ limit before (tables i) = true := more_iff.2 (sees ▸ long)
      obtain ⟨cursor, followed, here⟩ := follows last (original last (by rw [split]; simp))
      have asksNext : asked pos at_ follow limit tables (i + 1) = some (some cursor) := by
        rw [asked, asks]
        simp only [Option.bind_some, next, isMore, if_true, page_eq, sees, full,
          List.getLast?_append, List.getLast?_singleton, Option.some_or, followed, Option.map_some]
      obtain ⟨new, grown, later⟩ := grows i cursor asksNext
      have seesNext : view pos at_ (some cursor) (tables (i + 1)) = rest :=
        Page.next_view (sees.trans split) (split ▸ descending) here grown later
      have shorter : rest.length < bound := by
        rw [← size, split, List.length_append, List.length_cons]
        omega
      obtain ⟨n, final, asksFinal, noMore, together⟩ := ih _ shorter asksNext seesNext
        (List.pairwise_cons.1 (List.pairwise_append.1 (split ▸ descending)).2.1).2
        (fun row member => original row (by rw [split]; simp [member])) rfl
      refine ⟨n + 1, final, ?_, ?_, ?_⟩
      · rw [← asksFinal]
        congr 1
        omega
      · rw [← noMore]
        congr 2
        omega
      · rw [List.range'_succ, List.flatMap_cons, shows, full, together, split]
        simp
    · refine ⟨0, before, asks, ?_, ?_⟩
      · by_contra isMore
        exact long (sees ▸ more_iff.1 (Bool.not_eq_false _ ▸ isMore))
      · have whole : rows.take limit = rows := List.take_of_length_le (by omega)
        simp [shows, whole]

/-- The pages that are read until there are no more make up the first table, newest
first. -/
theorem walk_complete (positive : 0 < limit) (distinct : ((tables 0).map pos).Nodup)
    (follows : ∀ row ∈ tables 0, ∃ cursor, follow row = some cursor ∧ at_ cursor = pos row)
    (grows : ∀ i cursor, asked pos at_ follow limit tables (i + 1) = some (some cursor) →
      ∃ new, (tables (i + 1)).Perm (tables i ++ new) ∧ ∀ row ∈ new, at_ cursor < pos row) :
    ∃ n last, asked pos at_ follow limit tables n = some last ∧
      more pos at_ limit last (tables n) = false ∧
      (List.range (n + 1)).flatMap (shown pos at_ follow limit tables) =
        newestFirst pos (tables 0) := by
  have everything : view pos at_ none (tables 0) = newestFirst pos (tables 0) := by
    have all : beforeCursor pos at_ none (tables 0) = tables 0 :=
      List.filter_eq_self.2 fun _ _ => rfl
    rw [view, all]
  obtain ⟨n, last, asks, noMore, together⟩ := walk_from positive follows grows
    (show asked pos at_ follow limit tables 0 = some none from rfl) everything
    (newestFirst_descending distinct) fun row member => (newestFirst_perm pos _).mem_iff.1 member
  rw [Nat.zero_add] at asks noMore
  exact ⟨n, last, asks, noMore, by rw [List.range_eq_range']; exact together⟩

end Walk

end AlgoTrader.Theory.Keyset
