/-
# Theory.Grouping -- grouped aggregates and the edges they are taken over

`SELECT key, aggregate ... GROUP BY key` lists every key that occurs once, beside the aggregate
of its rows, in no particular order (`Grouped`).

A range is cut at edges, the last of which lie a step apart and on multiples of the step.  An
element belongs to the first edge beyond it, as a `CASE` over the edges finds it.

* `sum_countP_keys` -- elements counted under distinct keys are those whose key is among them;
* `Grouped.sum_counts` -- so the counts of some groups are those of the rows in them;
* `bucketOf_eq_some` -- the bucket of an element has it between its edges, and no other has;
* `Edged.sum_inBucket` -- so the counts of the buckets of a range add up;
* `alignedEdges_spec` -- the edges are contiguous, aligned, and end after what they were made for.
-/
import Mathlib.Data.List.Dedup
import Mathlib.Algebra.Order.Ring.Int
import Mathlib.Tactic.Ring
import Mathlib.Data.List.Pairwise

namespace AlgoTrader.Theory

set_option autoImplicit false

/-! ## Elements under keys -/

section Keys

variable {α κ : Type} [DecidableEq κ] {key : α → κ}

theorem countP_apart {k : κ} {keys : List κ} (xs : List α)
    (apart : ∀ x, key x = k → key x ∉ keys) :
    (xs.countP fun x => key x = k) + (xs.countP fun x => key x ∈ keys) =
      xs.countP fun x => key x ∈ k :: keys := by
  induction xs with
  | nil => rfl
  | cons x xs ih =>
      simp only [List.countP_cons, List.mem_cons, decide_eq_true_eq] at ih ⊢
      by_cases own : key x = k
      · have absent := apart x own
        simp only [own, true_or, if_true]
        rw [own] at absent
        simp only [absent, if_false]
        omega
      · simp only [own, false_or, if_false]
        omega

/-- Elements counted under distinct keys are those whose key is among them. -/
theorem sum_countP_keys (key : α → κ) (xs : List α) {keys : List κ} (distinct : keys.Nodup) :
    (keys.map fun k => xs.countP fun x => key x = k).sum = xs.countP fun x => key x ∈ keys := by
  induction keys with
  | nil => simp
  | cons k keys ih =>
      obtain ⟨absent, rest⟩ := List.nodup_cons.1 distinct
      rw [List.map_cons, List.sum_cons, ih rest]
      exact countP_apart xs fun x own member => absent (own ▸ member)

end Keys

/-! ## Groups -/

section Groups

variable {ρ κ γ : Type} [DecidableEq κ]

/-- The rows of one key. -/
def rowsUnder (key : ρ → κ) (rows : List ρ) (k : κ) : List ρ := rows.filter fun row => key row = k

/-- What a grouped read of some rows may list. -/
def Grouped (key : ρ → κ) (aggregate : List ρ → γ) (rows : List ρ) (groups : List (κ × γ)) : Prop :=
  groups.Perm ((rows.map key).dedup.map fun k => (k, aggregate (rowsUnder key rows k)))

variable {key : ρ → κ} {aggregate : List ρ → γ} {rows : List ρ} {groups : List (κ × γ)}

theorem Grouped.keys_perm (grouped : Grouped key aggregate rows groups) :
    (groups.map Prod.fst).Perm (rows.map key).dedup := by
  have keys := grouped.map Prod.fst
  rwa [List.map_map, show (Prod.fst ∘ fun k => (k, aggregate (rowsUnder key rows k))) = id from rfl,
    List.map_id] at keys

theorem Grouped.nodup (grouped : Grouped key aggregate rows groups) : (groups.map Prod.fst).Nodup :=
  grouped.keys_perm.nodup_iff.2 (List.nodup_dedup _)

theorem Grouped.mem (grouped : Grouped key aggregate rows groups) {k : κ} {value : γ} :
    (k, value) ∈ groups ↔ (∃ row ∈ rows, key row = k) ∧ value = aggregate (rowsUnder key rows k) := by
  rw [grouped.mem_iff, List.mem_map]
  simp only [List.mem_dedup, List.mem_map, Prod.mk.injEq]
  constructor
  · rintro ⟨_, occurs, rfl, rfl⟩
    exact ⟨occurs, rfl⟩
  · rintro ⟨occurs, rfl⟩
    exact ⟨k, occurs, rfl, rfl⟩

/-- The counts of the groups whose keys satisfy a condition are those of the rows that do. -/
theorem Grouped.sum_counts {groups : List (κ × Nat)} (grouped : Grouped key List.length rows groups)
    (holds : κ → Bool) :
    ((groups.filter fun group => holds group.1).map Prod.snd).sum = rows.countP fun row => holds (key row) := by
  have same : ((groups.filter fun group => holds group.1).map Prod.snd).sum =
      (((rows.map key).dedup.filter holds).map fun k => rows.countP fun row => key row = k).sum := by
    rw [((grouped.filter _).map Prod.snd).sum_nat, List.filter_map, List.map_map]
    congr 1
    refine List.map_congr_left fun k _ => ?_
    exact List.countP_eq_length_filter.symm
  rw [same, sum_countP_keys key rows ((List.nodup_dedup _).filter _)]
  refine List.countP_congr fun row member => ?_
  simp [List.mem_map_of_mem member]

end Groups

/-! ## Least and greatest -/

section Extremes

variable {ρ α : Type} [LinearOrder α] (key : ρ → α) (default : α) {rows : List ρ}

theorem exists_least (some_ : rows ≠ []) : ∃ row ∈ rows,
    ((rows.map key).min?).getD default = key row ∧ ∀ other ∈ rows, key row ≤ key other := by
  have mapped : rows.map key ≠ [] := mt List.map_eq_nil_iff.1 some_
  obtain ⟨value, found⟩ := Option.isSome_iff_exists.1 (List.isSome_min?_of_ne_nil mapped)
  obtain ⟨member, least⟩ := List.min?_eq_some_iff.1 found
  obtain ⟨row, here, rfl⟩ := List.mem_map.1 member
  refine ⟨row, here, by rw [found, Option.getD_some], fun other there => ?_⟩
  exact least _ (List.mem_map_of_mem there)

theorem exists_greatest (some_ : rows ≠ []) : ∃ row ∈ rows,
    ((rows.map key).max?).getD default = key row ∧ ∀ other ∈ rows, key other ≤ key row := by
  have mapped : rows.map key ≠ [] := mt List.map_eq_nil_iff.1 some_
  obtain ⟨value, found⟩ := Option.isSome_iff_exists.1 (List.isSome_max?_of_ne_nil mapped)
  obtain ⟨member, greatest⟩ := List.max?_eq_some_iff.1 found
  obtain ⟨row, here, rfl⟩ := List.mem_map.1 member
  refine ⟨row, here, by rw [found, Option.getD_some], fun other there => ?_⟩
  exact greatest _ (List.mem_map_of_mem there)

/-- The least of some keys is one of them and bounds them all. -/
theorem min_getD_iff (some_ : rows ≠ []) {value : α} : ((rows.map key).min?).getD default = value ↔
    (∃ row ∈ rows, key row = value) ∧ ∀ row ∈ rows, value ≤ key row := by
  obtain ⟨row, member, is, least⟩ := exists_least key default some_
  rw [is]
  constructor
  · rintro rfl
    exact ⟨⟨row, member, rfl⟩, least⟩
  · rintro ⟨⟨other, there, rfl⟩, bound⟩
    exact le_antisymm (least other there) (bound row member)

theorem max_getD_iff (some_ : rows ≠ []) {value : α} : ((rows.map key).max?).getD default = value ↔
    (∃ row ∈ rows, key row = value) ∧ ∀ row ∈ rows, key row ≤ value := by
  obtain ⟨row, member, is, greatest⟩ := exists_greatest key default some_
  rw [is]
  constructor
  · rintro rfl
    exact ⟨⟨row, member, rfl⟩, greatest⟩
  · rintro ⟨⟨other, there, rfl⟩, bound⟩
    exact le_antisymm (bound row member) (greatest other there)

end Extremes

/-! ## Buckets -/

section Buckets

variable {α : Type} [LinearOrder α]

/-- `CASE WHEN t < edges[1] THEN 0 WHEN t < edges[2] THEN 1 ... END`. -/
def bucketOf (edges : List α) (t : α) : Option Nat := edges.tail.findIdx? (t < ·)

/-- The element lies in the `i`-th bucket: at its first edge or after it, and before the next. -/
def InBucket (edges : List α) (i : Nat) (t : α) : Prop :=
  (∃ start ∈ edges[i]?, start ≤ t) ∧ ∃ stop ∈ edges[i + 1]?, t < stop

instance (edges : List α) (i : Nat) (t : α) : Decidable (InBucket edges i t) :=
  inferInstanceAs (Decidable (_ ∧ _))

theorem bucketOf_eq_some {edges : List α} (ascending : edges.Pairwise (· < ·)) {t first : α}
    (head : edges.head? = some first) (from_ : first ≤ t) {i : Nat} :
    bucketOf edges t = some i ↔ InBucket edges i t := by
  obtain ⟨rest, rfl⟩ : ∃ rest, edges = first :: rest := by
    cases edges with
    | nil => cases head
    | cons e rest => exact ⟨rest, by rw [Option.some.inj head]⟩
  rw [bucketOf, List.tail_cons, List.findIdx?_eq_some_iff_getElem]
  simp only [InBucket, decide_eq_true_eq, List.getElem?_cons_succ, Option.mem_def]
  constructor
  · rintro ⟨inside, here, earlier⟩
    refine ⟨?_, _, List.getElem?_eq_getElem inside, here⟩
    cases i with
    | zero => exact ⟨first, rfl, from_⟩
    | succ i =>
        have within : i < rest.length := Nat.lt_of_succ_lt inside
        exact ⟨rest[i], List.getElem?_eq_getElem within, not_lt.1 (earlier i (Nat.lt_succ_self i))⟩
  · rintro ⟨⟨start, place, after⟩, stop, next, here⟩
    obtain ⟨inside, rfl⟩ := List.getElem?_eq_some_iff.1 next
    refine ⟨inside, here, fun j earlier => ?_⟩
    cases i with
    | zero => cases earlier
    | succ i =>
        rw [List.getElem?_cons_succ] at place
        obtain ⟨within, rfl⟩ := List.getElem?_eq_some_iff.1 place
        have sorted := (List.pairwise_cons.1 ascending).2
        have before : rest[j] ≤ rest[i] := by
          rcases Nat.lt_succ_iff_lt_or_eq.1 earlier with less | rfl
          · exact (List.pairwise_iff_getElem.1 sorted j i _ within less).le
          · exact le_refl _
        exact not_lt.2 (before.trans after)

/-- What lies in a bucket lies in the range. -/
theorem InBucket.bounds {edges : List α} (ascending : edges.Pairwise (· < ·)) {i : Nat} {t first last : α}
    (here : InBucket edges i t) (head : edges.head? = some first) (ends : edges.getLast? = some last) :
    first ≤ t ∧ t < last := by
  obtain ⟨⟨start, place, from_⟩, stop, next, upTo⟩ := here
  obtain ⟨inside, rfl⟩ := List.getElem?_eq_some_iff.1 place
  obtain ⟨inside', rfl⟩ := List.getElem?_eq_some_iff.1 next
  rw [List.head?_eq_getElem?] at head
  obtain ⟨some_, rfl⟩ := List.getElem?_eq_some_iff.1 head
  rw [List.getLast?_eq_getElem?] at ends
  obtain ⟨final, rfl⟩ := List.getElem?_eq_some_iff.1 ends
  have sorted := List.pairwise_iff_getElem.1 ascending
  constructor
  · refine le_trans ?_ from_
    rcases Nat.eq_zero_or_pos i with rfl | positive
    · exact le_refl _
    · exact (sorted 0 i some_ inside positive).le
  · refine upTo.trans_le ?_
    rcases Nat.lt_or_ge (i + 1) (edges.length - 1) with less | most
    · exact (sorted (i + 1) (edges.length - 1) inside' final less).le
    · have same : i + 1 = edges.length - 1 := by omega
      simp only [same, le_refl]

/-- Before the last edge there is a bucket. -/
theorem bucketOf_some {edges : List α} {t last : α} (ends : edges.getLast? = some last) (before : t < last)
    (more : 1 < edges.length) : ∃ i, bucketOf edges t = some i ∧ i + 1 < edges.length := by
  have member : last ∈ edges.tail := by
    cases edges with
    | nil => cases ends
    | cons e rest =>
        rw [List.getLast?_cons_of_ne_nil] at ends
        · exact List.mem_of_getLast? ends
        · rintro rfl
          simp at more
  cases found : bucketOf edges t with
  | none =>
      have beyond := List.findIdx?_eq_none_iff.1 found last member
      simp only [decide_eq_false_iff_not] at beyond
      exact absurd before beyond
  | some i =>
      obtain ⟨inside, _⟩ := List.findIdx?_eq_some_iff_getElem.1 found
      rw [List.length_tail] at inside
      exact ⟨i, rfl, by omega⟩

/-- Edges that are in order and have a bucket between them. -/
structure Edged (edges : List α) : Prop where
  ascending : edges.Pairwise (· < ·)
  some_ : 1 < edges.length

theorem Edged.head {edges : List α} (edged : Edged edges) (default : α) :
    edges.head? = some (edges.head?.getD default) := by
  cases found : edges.head? with
  | none => exact absurd edged.some_ (by simp [List.head?_eq_none_iff.1 found])
  | some first => rfl

theorem Edged.last {edges : List α} (edged : Edged edges) (default : α) :
    edges.getLast? = some (edges.getLast?.getD default) := by
  cases found : edges.getLast? with
  | none => exact absurd edged.some_ (by simp [List.getLast?_eq_none_iff.1 found])
  | some last => rfl

/-- What lies in the range lies in one bucket; so the counts of the buckets add up. -/
theorem Edged.sum_inBucket {edges : List α} (edged : Edged edges) {ρ : Type} (at_ : ρ → α) {rows : List ρ}
    {first last : α} (head : edges.head? = some first) (ends : edges.getLast? = some last)
    (within : ∀ row ∈ rows, first ≤ at_ row ∧ at_ row < last) :
    ((List.range (edges.length - 1)).map fun i => rows.countP fun row => InBucket edges i (at_ row)).sum =
      rows.length := by
  have placed : ∀ i, (rows.countP fun row => InBucket edges i (at_ row)) =
      rows.countP fun row => bucketOf edges (at_ row) = some i := by
    intro i
    refine List.countP_congr fun row member => ?_
    simp only [decide_eq_true_eq, bucketOf_eq_some edged.ascending head (within row member).1]
  have distinct : ((List.range (edges.length - 1)).map some).Nodup :=
    List.nodup_range.map fun _ _ => Option.some.inj
  have all := sum_countP_keys (fun row => bucketOf edges (at_ row)) rows distinct
  rw [List.map_map] at all
  simp only [placed]
  refine all.trans (List.countP_eq_length.2 fun row member => ?_)
  obtain ⟨i, found, inside⟩ := bucketOf_some ends (within row member).2 edged.some_
  simpa [found] using Nat.lt_sub_of_add_lt inside

end Buckets

/-! ## Aligned edges -/

section Aligned

variable {step : Int} {count : Nat}

/-- `(t // step) * step`. -/
def floorTo (step t : Int) : Int := t / step * step

theorem floorTo_le (positive : 0 < step) (t : Int) : floorTo step t ≤ t :=
  Int.ediv_mul_le t positive.ne'

theorem lt_floorTo_add (positive : 0 < step) (t : Int) : t < floorTo step t + step :=
  Int.lt_ediv_add_one_mul_self t positive |>.trans_eq (by rw [floorTo, Int.add_mul, Int.one_mul])

/-- The edges of some buckets of one width, the last of which contains a time. -/
def alignedEdges (step now : Int) (count : Nat) : List Int :=
  let stop := floorTo step now + step
  (List.range (count + 1)).map fun index : Nat => stop - step * (count - index)

@[simp] theorem alignedEdges_length (now : Int) : (alignedEdges step now count).length = count + 1 := by
  simp [alignedEdges]

theorem alignedEdges_get (now : Int) {i : Nat} (inside : i ≤ count) :
    (alignedEdges step now count)[i]? = some (floorTo step now + step - step * (count - i)) := by
  simp [alignedEdges, Nat.lt_succ_of_le inside]

theorem alignedEdges_ascending (positive : 0 < step) (now : Int) :
    (alignedEdges step now count).Pairwise (· < ·) := by
  rw [alignedEdges, List.pairwise_map]
  refine List.pairwise_lt_range.imp fun {i j} before => ?_
  have wider : step * (count - j) < step * (count - i) :=
    mul_lt_mul_of_pos_left (by omega) positive
  omega

/-- The edges are a step apart and on multiples of the step, and the last bucket has the time. -/
theorem alignedEdges_spec (positive : 0 < step) (now : Int) :
    (∀ i a b, (alignedEdges step now count)[i]? = some a →
      (alignedEdges step now count)[i + 1]? = some b → b = a + step) ∧
    (∀ edge ∈ alignedEdges step now count, step ∣ edge) ∧
    (0 < count → InBucket (alignedEdges step now count) (count - 1) now) := by
  refine ⟨fun i a b here next => ?_, fun edge member => ?_, fun some_ => ?_⟩
  · have inside : i + 1 ≤ count := by
      obtain ⟨inside, _⟩ := List.getElem?_eq_some_iff.1 next
      rw [alignedEdges_length] at inside
      omega
    rw [alignedEdges_get now (by omega)] at here
    rw [alignedEdges_get now inside] at next
    rw [← Option.some.inj here, ← Option.some.inj next]
    push_cast
    ring
  · obtain ⟨i, _, rfl⟩ := List.mem_map.1 member
    exact Int.dvd_sub (Int.dvd_add (Dvd.intro_left _ rfl) (Int.dvd_refl _)) (Dvd.intro _ rfl)
  · have last : ((count : Int) - ((count - 1 : Nat) : Int)) = 1 := by omega
    refine ⟨⟨_, alignedEdges_get now (Nat.sub_le ..), ?_⟩, _, alignedEdges_get now (by omega), ?_⟩
    · rw [last]
      have := floorTo_le positive now
      omega
    · rw [Nat.sub_add_cancel some_, sub_self, mul_zero, sub_zero]
      exact lt_floorTo_add positive now

end Aligned

end AlgoTrader.Theory
