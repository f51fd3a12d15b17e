/-
# Theory.Newest -- the newest rows of several tables

Each table is cut to its own newest rows before the rest is put together and cut once more.  No row
is lost by it, as long as the first cut is no shorter than the second.

* `newest_of_dropped` -- rows that enough newer ones are kept of may be dropped before the cut;
* `newest_flatten` -- so each of several tables may be cut first;
* `oldestFirst_eq` -- the same rows, sorted the other way.
-/
import AlgoTrader.Theory.Keyset

namespace AlgoTrader.Theory.Keyset

set_option autoImplicit false

variable {ρ α : Type} [LinearOrder α] (pos : ρ → α)

/-- `ORDER BY position DESC LIMIT limit`. -/
def newest (limit : Nat) (rows : List ρ) : List ρ := (newestFirst pos rows).take limit

/-- What `LIMIT` leaves out. -/
def older (limit : Nat) (rows : List ρ) : List ρ := (newestFirst pos rows).drop limit

/-- The rows sorted by position. -/
def oldestFirst (rows : List ρ) : List ρ := rows.insertionSort fun a b => pos a ≤ pos b

theorem newest_perm (limit : Nat) (rows : List ρ) :
    (newest pos limit rows ++ older pos limit rows).Perm rows := by
  rw [newest, older, List.take_append_drop]
  exact newestFirst_perm pos rows

theorem length_newestFirst (rows : List ρ) : (newestFirst pos rows).length = rows.length :=
  (newestFirst_perm pos rows).length_eq

theorem length_newest (limit : Nat) (rows : List ρ) :
    (newest pos limit rows).length = min limit rows.length := by
  rw [newest, List.length_take, length_newestFirst]

variable {pos}

theorem newestFirst_map {σ β : Type} [LinearOrder β] {key : σ → β} {row : ρ → σ}
    (same : ∀ a b, pos a ≤ pos b ↔ key (row a) ≤ key (row b)) (rows : List ρ) :
    (newestFirst pos rows).map row = newestFirst key (rows.map row) :=
  List.map_insertionSort _ _ row rows fun a _ b _ => same b a

theorem newest_map {σ β : Type} [LinearOrder β] {key : σ → β} {row : ρ → σ}
    (same : ∀ a b, pos a ≤ pos b ↔ key (row a) ≤ key (row b)) (limit : Nat) (rows : List ρ) :
    (newest pos limit rows).map row = newest key limit (rows.map row) := by
  rw [newest, newest, List.map_take, newestFirst_map same]

section Distinct

variable {rows : List ρ} {limit : Nat}

theorem older_lt_newest (distinct : (rows.map pos).Nodup) :
    ∀ new ∈ newest pos limit rows, ∀ old ∈ older pos limit rows, pos old < pos new := by
  have descending : (newestFirst pos rows).Pairwise fun a b => pos b < pos a :=
    newestFirst_descending distinct
  rw [← List.take_append_drop limit (newestFirst pos rows)] at descending
  exact (List.pairwise_append.1 descending).2.2

/-- A row left out has as many newer ones as the limit says. -/
theorem countP_newest (distinct : (rows.map pos).Nodup) {old : ρ} (dropped : old ∈ older pos limit rows) :
    limit ≤ (newest pos limit rows).countP fun new => pos old < pos new := by
  have all : (newest pos limit rows).countP (fun new => pos old < pos new) =
      (newest pos limit rows).length :=
    List.countP_eq_length.2 fun new member =>
      decide_eq_true (older_lt_newest distinct new member old dropped)
  have long : 0 < (older pos limit rows).length := List.length_pos_of_mem dropped
  rw [older, List.length_drop, length_newestFirst] at long
  rw [all, length_newest]
  omega

/-- A row with so many newer ones is older than all within the limit. -/
theorem lt_newest_of_countP (distinct : (rows.map pos).Nodup) {old : α}
    (enough : limit ≤ rows.countP fun new => old < pos new) :
    ∀ new ∈ newest pos limit rows, old < pos new := by
  intro new member
  by_contra notNewer
  have descending : (newestFirst pos rows).Pairwise fun a b => pos b < pos a :=
    newestFirst_descending distinct
  obtain ⟨before, after, split⟩ := List.append_of_mem member
  have short : (before ++ new :: after).length ≤ limit := by
    rw [← split, newest]
    exact List.length_take_le _ _
  rw [← List.take_append_drop limit (newestFirst pos rows), ← newest, split] at descending
  -- Only the rows before it can be newer than `old`.
  have none_ : ∀ row ∈ new :: (after ++ older pos limit rows), ¬ old < pos row := by
    intro row among
    rcases List.mem_cons.1 among with rfl | later
    · exact notNewer
    · rw [List.append_assoc, List.cons_append] at descending
      have below := (List.pairwise_cons.1 (List.pairwise_append.1 descending).2.1).1 row later
      exact fun above => notNewer (above.trans below)
  have rest : (new :: (after ++ older pos limit rows)).countP (fun row => old < pos row) = 0 :=
    List.countP_eq_zero.2 fun row among newer => none_ row among (of_decide_eq_true newer)
  have counted : rows.countP (fun row => old < pos row) = before.countP fun row => old < pos row := by
    rw [← (newest_perm pos limit rows).countP_eq, split, List.append_assoc, List.cons_append,
      List.countP_append, rest, Nat.add_zero]
  have few := List.countP_le_length (p := fun row => decide (old < pos row)) (l := before)
  rw [List.length_append, List.length_cons] at short
  omega

/-- Rows may be dropped before the cut, if enough newer ones are kept. -/
theorem newest_of_dropped {kept dropped : List ρ} (same : (kept ++ dropped).Perm rows)
    (distinct : (rows.map pos).Nodup)
    (newer : ∀ old ∈ dropped, limit ≤ kept.countP fun new => pos old < pos new) :
    newest pos limit rows = newest pos limit kept := by
  have apart : ((kept ++ dropped).map pos).Nodup := (same.map pos).nodup_iff.2 distinct
  rw [List.map_append] at apart
  have keptApart := (List.nodup_append'.1 apart).1
  have whole : (newest pos limit kept ++ (older pos limit kept ++ dropped)).Perm rows := by
    rw [← List.append_assoc]
    exact ((newest_perm pos limit kept).append_right dropped).trans same
  have restApart : ((older pos limit kept ++ dropped).map pos).Nodup := by
    have parts := (whole.map pos).nodup_iff.2 distinct
    rw [List.map_append] at parts
    exact (List.nodup_append'.1 parts).2.1
  have sorted : newestFirst pos rows =
      newest pos limit kept ++ newestFirst pos (older pos limit kept ++ dropped) := by
    refine newestFirst_eq (((newestFirst_perm pos _).append_left _).trans whole) ?_
    refine List.pairwise_append.2 ⟨(newestFirst_descending keptApart).sublist (List.take_sublist _ _),
      newestFirst_descending restApart, fun new member old left => ?_⟩
    rcases List.mem_append.1 ((newestFirst_perm pos _).mem_iff.1 left) with cut | gone
    · exact older_lt_newest keptApart new member old cut
    · exact lt_newest_of_countP keptApart (newer old gone) new member
  rw [newest, sorted]
  rcases Nat.lt_or_ge kept.length limit with short | long
  · -- Nothing can have been dropped.
    have nothing : older pos limit kept ++ dropped = [] := by
      refine List.eq_nil_iff_forall_not_mem.2 fun old left => ?_
      rcases List.mem_append.1 left with cut | gone
      · rw [older, List.drop_eq_nil_of_le (by rw [length_newestFirst]; exact short.le)] at cut
        exact List.not_mem_nil cut
      · exact absurd ((newer old gone).trans List.countP_le_length) (not_le.2 short)
    rw [nothing]
    have all : newest pos limit kept ++ newestFirst pos [] = newest pos limit kept := List.append_nil _
    rw [all]
    exact List.take_of_length_le ((length_newest ..).trans_le (Nat.min_le_left _ _))
  · refine List.take_left' ?_
    rw [length_newest, Nat.min_eq_left long]

end Distinct

variable (pos) in
theorem cut_perm (cut : Nat) (tables : List (List ρ)) :
    ((tables.map (newest pos cut)).flatten ++ (tables.map (older pos cut)).flatten).Perm tables.flatten := by
  induction tables with
  | nil => exact .nil
  | cons table rest ih =>
      simp only [List.map_cons, List.flatten_cons]
      refine List.Perm.trans ?_ ((newest_perm pos cut table).append ih)
      rw [List.append_assoc, List.append_assoc]
      exact (List.perm_append_comm_assoc ..).append_left _

/-- Each of several tables may be cut first. -/
theorem newest_flatten {tables : List (List ρ)} {limit cut : Nat} (wide : limit ≤ cut)
    (distinct : (tables.flatten.map pos).Nodup) :
    newest pos limit tables.flatten = newest pos limit (tables.map (newest pos cut)).flatten := by
  refine newest_of_dropped (cut_perm pos cut tables) distinct fun old dropped => ?_
  obtain ⟨_, listed, inside⟩ := List.mem_flatten.1 dropped
  obtain ⟨table, member, rfl⟩ := List.mem_map.1 listed
  have apart : (table.map pos).Nodup := ((List.sublist_flatten_of_mem member).map pos).nodup distinct
  have own : (newest pos cut table).Sublist (tables.map (newest pos cut)).flatten :=
    List.sublist_flatten_of_mem (List.mem_map_of_mem member)
  exact wide.trans ((countP_newest apart inside).trans own.countP_le)

theorem oldestFirst_eq {rows : List ρ} (distinct : (rows.map pos).Nodup) :
    oldestFirst pos rows = (newestFirst pos rows).reverse :=
  @newestFirst_eq ρ αᵒᵈ _ (fun row => OrderDual.toDual (pos row)) rows _
    ((List.reverse_perm _).trans (newestFirst_perm pos rows))
    (List.pairwise_reverse.2 (newestFirst_descending distinct))

end AlgoTrader.Theory.Keyset
