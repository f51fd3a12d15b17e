/-
# Theory.Slots -- moving keys one at a time between slots no two may share

Every key holds at most one slot.  A move puts one key in a slot and is refused
while another key holds that slot, as a unique constraint that is checked after
every statement does.  Whether a list of moves goes through is then a matter of
their order: when every key moves once and to a slot of its own, the moves go
through exactly when nobody outside the list holds a slot they need and each key
leaves a slot before the key that needs it arrives (`clear_iff`).

`pairwise_sorted_iff` reads the second condition off a list that is sorted by
key: it holds between all pairs of keys in their order.
-/
import Mathlib.Data.List.Nodup
import Mathlib.Data.List.Pairwise
import Mathlib.Data.List.Sort
import Mathlib.Logic.Function.Basic

namespace AlgoTrader.Theory.Slots

set_option autoImplicit false

variable {κ σ : Type}

/-- No key but this one holds the slot. -/
def Free (held : κ → Option σ) (k : κ) (s : σ) : Prop :=
  ∀ other, other ≠ k → held other ≠ some s

section Moves

variable [DecidableEq κ]

/-- Every move finds its slot free at its turn. -/
def Clear : (κ → Option σ) → List (κ × σ) → Prop
  | _, [] => True
  | held, m :: rest => Free held m.1 m.2 ∧ Clear (Function.update held m.1 (some m.2)) rest

/-- Who holds what once the moves are made. -/
def settle (held : κ → Option σ) (moves : List (κ × σ)) : κ → Option σ :=
  moves.foldl (fun held m => Function.update held m.1 (some m.2)) held

/-- The keys outside the list hold no slot the moves need, and within it a slot
is left before it is taken. -/
theorem clear_iff {held : κ → Option σ} {moves : List (κ × σ)}
    (once : (moves.map Prod.fst).Nodup) (apart : (moves.map Prod.snd).Nodup) :
    Clear held moves ↔
      (∀ m ∈ moves, ∀ k, k ∉ moves.map Prod.fst → held k ≠ some m.2) ∧
      moves.Pairwise fun m later => held later.1 ≠ some m.2 := by
  induction moves generalizing held with
  | nil => simp [Clear]
  | cons first rest ih =>
    obtain ⟨alone, once⟩ := List.nodup_cons.1 once
    obtain ⟨own, apart⟩ := List.nodup_cons.1 apart
    have elsewhere : ∀ m ∈ rest, first.2 ≠ m.2 := fun m member same =>
      own (List.mem_map.2 ⟨m, member, same.symm⟩)
    rw [Clear, ih once apart, List.pairwise_cons]
    constructor
    · rintro ⟨free, outside, ordered⟩
      refine ⟨?_, ?_, ?_⟩
      · intro m member k unmoved
        simp only [List.map_cons, List.mem_cons, not_or] at unmoved
        rcases List.mem_cons.1 member with rfl | later
        · exact free k unmoved.1
        · have := outside m later k unmoved.2
          rwa [Function.update_of_ne unmoved.1] at this
      · intro m member
        have other : m.1 ≠ first.1 := fun same =>
          alone (List.mem_map.2 ⟨m, member, same⟩)
        exact free m.1 other
      · refine ordered.imp_of_mem fun {m later} _ member taken => ?_
        have other : later.1 ≠ first.1 := fun same =>
          alone (List.mem_map.2 ⟨later, member, same⟩)
        rwa [Function.update_of_ne other] at taken
    · rintro ⟨outside, leaves, ordered⟩
      refine ⟨?_, ?_, ?_⟩
      · intro k other
        by_cases moved : k ∈ rest.map Prod.fst
        · obtain ⟨m, member, rfl⟩ := List.mem_map.1 moved
          exact leaves m member
        · exact outside first List.mem_cons_self k (by simp [other, moved])
      · intro m member k unmoved
        by_cases same : k = first.1
        · subst same
          rw [Function.update_self]
          exact fun equal => elsewhere m member (Option.some.inj equal)
        · rw [Function.update_of_ne same]
          exact outside m (List.mem_cons_of_mem _ member) k (by simp [same, unmoved])
      · refine ordered.imp_of_mem fun {m later} _ member taken => ?_
        have other : later.1 ≠ first.1 := fun same =>
          alone (List.mem_map.2 ⟨later, member, same⟩)
        rwa [Function.update_of_ne other]

end Moves

/-- In a sorted list, a relation holds down the list exactly when it holds from
every smaller key to every larger one. -/
theorem pairwise_sorted_iff {α κ : Type} [LinearOrder κ] {key : α → κ} {R : α → α → Prop}
    {l : List α} (sorted : l.Pairwise fun a b => key a < key b) :
    l.Pairwise R ↔ ∀ a ∈ l, ∀ b ∈ l, key a < key b → R a b := by
  induction l with
  | nil => simp
  | cons x rest ih =>
    obtain ⟨first, sorted⟩ := List.pairwise_cons.1 sorted
    rw [List.pairwise_cons, ih sorted]
    constructor
    · rintro ⟨head, tail⟩ a memberA b memberB before
      rcases List.mem_cons.1 memberA with rfl | laterA
      · rcases List.mem_cons.1 memberB with rfl | laterB
        · exact absurd before (lt_irrefl _)
        · exact head b laterB
      · rcases List.mem_cons.1 memberB with rfl | laterB
        · exact absurd (lt_trans before (first a laterA)) (lt_irrefl _)
        · exact tail a laterA b laterB before
    · intro all
      exact ⟨fun b member =>
          all x List.mem_cons_self b (List.mem_cons_of_mem _ member) (first b member),
        fun a memberA b memberB =>
          all a (List.mem_cons_of_mem _ memberA) b (List.mem_cons_of_mem _ memberB)⟩

end AlgoTrader.Theory.Slots
