/-
# Theory.Stretches -- maximal stretches, found in one pass

A pass over a list keeps where the stretch it is in began, and writes a stretch down when it
meets an element that does not hold.  A list that ends with such an element, a sentinel, leaves no
stretch open.

* `mem_stretches` -- what is written down is every maximal stretch, and nothing else;
* `stretches_ordered` -- in order, each after the end of the one before.
-/
import Mathlib.Data.List.Induction
import Mathlib.Tactic.Common

namespace AlgoTrader.Theory

set_option autoImplicit false

variable {α : Type} (holds : α → Bool)

/-- A turn of the pass: the stretches written down, and where the one it is in began. -/
def stretchTurn (turn : List (Nat × Nat) × Option Nat) (entry : α × Nat) :
    List (Nat × Nat) × Option Nat :=
  if holds entry.1 then (turn.1, some (turn.2.getD entry.2))
  else match turn.2 with
    | some start => (turn.1 ++ [(start, entry.2)], none)
    | none => (turn.1, none)

def scan (xs : List α) : List (Nat × Nat) × Option Nat :=
  xs.zipIdx.foldl (stretchTurn holds) ([], none)

/-- The stretches of a list, from where they begin to where they stop. -/
def stretches (xs : List α) : List (Nat × Nat) := (scan holds xs).1

/-- There is an element here, and it holds. -/
def HoldsAt (xs : List α) (i : Nat) : Prop := ∃ x ∈ xs[i]?, holds x = true

/-- Every place from one to another has what is looked for, and neither side goes on with it. -/
structure Stretch (at_ : Nat → Prop) (start stop : Nat) : Prop where
  some_ : start < stop
  within : ∀ i, start ≤ i → i < stop → at_ i
  before : start = 0 ∨ ¬ at_ (start - 1)
  after : ¬ at_ stop

theorem Stretch.congr {at_ at_' : Nat → Prop} (same : ∀ i, at_ i ↔ at_' i) {start stop : Nat} :
    Stretch at_ start stop ↔ Stretch at_' start stop := by
  rw [show at_ = at_' from funext fun i => propext (same i)]

variable {holds}

theorem scan_snoc (xs : List α) (x : α) :
    scan holds (xs ++ [x]) = stretchTurn holds (scan holds xs) (x, xs.length) := by
  simp [scan, List.zipIdx_append]

theorem HoldsAt.inside {xs : List α} {i : Nat} (here : HoldsAt holds xs i) : i < xs.length := by
  obtain ⟨x, place, _⟩ := here
  exact (List.getElem?_eq_some_iff.1 place).1

theorem holdsAt_snoc {xs : List α} {x : α} {i : Nat} (inside : i < xs.length) :
    HoldsAt holds (xs ++ [x]) i ↔ HoldsAt holds xs i := by
  rw [HoldsAt, HoldsAt, List.getElem?_append_left inside]

theorem holdsAt_last {xs : List α} {x : α} : HoldsAt holds (xs ++ [x]) xs.length ↔ holds x = true := by
  simp [HoldsAt]

theorem Stretch.stop_le {xs : List α} {start stop : Nat} (stretch : Stretch (HoldsAt holds xs) start stop) :
    stop ≤ xs.length := by
  have last := (stretch.within (stop - 1) (by have := stretch.some_; omega)
    (by have := stretch.some_; omega)).inside
  omega

/-- One more element changes nothing before it. -/
theorem stretch_snoc {xs : List α} {x : α} {start stop : Nat} (inside : stop < xs.length) :
    Stretch (HoldsAt holds (xs ++ [x])) start stop ↔ Stretch (HoldsAt holds xs) start stop := by
  constructor
  · rintro ⟨some_, within, before, after⟩
    refine ⟨some_, fun i from_ upTo => ?_, before.imp_right fun none_ here => ?_, fun here => ?_⟩
    · exact (holdsAt_snoc (by omega)).1 (within i from_ upTo)
    · exact none_ ((holdsAt_snoc (by omega)).2 here)
    · exact after ((holdsAt_snoc inside).2 here)
  · rintro ⟨some_, within, before, after⟩
    refine ⟨some_, fun i from_ upTo => ?_, before.imp_right fun none_ here => ?_, fun here => ?_⟩
    · exact (holdsAt_snoc (by omega)).2 (within i from_ upTo)
    · exact none_ ((holdsAt_snoc (by omega)).1 here)
    · exact after ((holdsAt_snoc inside).1 here)

/-- What ends where an element is added goes on if that element holds, and ends there if not. -/
theorem stretch_snoc_end {xs : List α} {x : α} {start stop : Nat} (before : start < xs.length)
    (goes : if holds x then stop = xs.length + 1 else stop = xs.length) :
    Stretch (HoldsAt holds (xs ++ [x])) start stop ↔ Stretch (HoldsAt holds xs) start xs.length := by
  have beyond : ¬ HoldsAt holds xs xs.length := fun here => Nat.lt_irrefl _ here.inside
  constructor
  · intro stretch
    refine ⟨before, fun i from_ upTo => ?_, stretch.before.imp_right fun none_ here => ?_, beyond⟩
    · refine (holdsAt_snoc upTo).1 (stretch.within i from_ ?_)
      split at goes <;> omega
    · exact none_ ((holdsAt_snoc (by omega)).2 here)
  · intro stretch
    refine ⟨by split at goes <;> omega, fun i from_ upTo => ?_,
      stretch.before.imp_right fun none_ here => ?_, fun here => ?_⟩
    · by_cases inside : i < xs.length
      · exact (holdsAt_snoc inside).2 (stretch.within i from_ inside)
      · split at goes
        · rename_i on
          rw [show i = xs.length by omega]
          exact holdsAt_last.2 on
        · omega
    · exact none_ ((holdsAt_snoc (by omega)).1 here)
    · split at goes
      · have := here.inside
        rw [goes, List.length_append, List.length_singleton] at this
        omega
      · rename_i off
        rw [goes, holdsAt_last] at here
        exact off here

variable (holds) in
/-- What the pass knows after some elements. -/
structure Scanned (xs : List α) (turn : List (Nat × Nat) × Option Nat) : Prop where
  found : ∀ start stop, (start, stop) ∈ turn.1 ↔ Stretch (HoldsAt holds xs) start stop ∧ stop < xs.length
  opened : ∀ start, turn.2 = some start ↔ Stretch (HoldsAt holds xs) start xs.length
  closed : turn.2 = none → xs.length = 0 ∨ ¬ HoldsAt holds xs (xs.length - 1)

theorem Scanned.hold {xs : List α} {turn : List (Nat × Nat) × Option Nat} {x : α}
    (scanned : Scanned holds xs turn) (on : holds x = true) :
    Scanned holds (xs ++ [x]) (turn.1, some (turn.2.getD xs.length)) := by
  have length : (xs ++ [x]).length = xs.length + 1 := by simp
  refine ⟨fun start stop => ?_, fun start => ?_, nofun⟩
  · rw [scanned.found, length]
    constructor
    · rintro ⟨stretch, inside⟩
      exact ⟨(stretch_snoc inside).2 stretch, by omega⟩
    · rintro ⟨stretch, inside⟩
      have earlier : stop ≠ xs.length := fun same => stretch.after (same ▸ holdsAt_last.2 on)
      exact ⟨(stretch_snoc (by omega)).1 stretch, by omega⟩
  · have goes : if holds x then (xs ++ [x]).length = xs.length + 1 else (xs ++ [x]).length = xs.length := by
      rw [if_pos on, length]
    constructor
    · intro same
      cases began : turn.2 with
      | some first =>
          rw [began] at same
          obtain rfl : first = start := Option.some.inj same
          have stretch := (scanned.opened first).1 began
          exact (stretch_snoc_end stretch.some_ goes).2 stretch
      | none =>
          rw [began] at same
          obtain rfl : xs.length = start := Option.some.inj same
          refine ⟨by omega, fun i from_ upTo => ?_, ?_, fun here => Nat.lt_irrefl _ here.inside⟩
          · rw [show i = xs.length by omega]
            exact holdsAt_last.2 on
          · by_cases empty : xs.length = 0
            · exact .inl empty
            · exact .inr fun here =>
                (scanned.closed began).resolve_left empty ((holdsAt_snoc (by omega)).1 here)
    · intro stretch
      by_cases before : start < xs.length
      · have began := (scanned.opened start).2 ((stretch_snoc_end before goes).1 stretch)
        rw [began]
        rfl
      · have same : start = xs.length := by
          have := stretch.some_
          omega
        cases began : turn.2 with
        | none => exact congrArg some same.symm
        | some first =>
            have open_ := (scanned.opened first).1 began
            have last := open_.within (xs.length - 1) (by have := open_.some_; omega)
              (by have := open_.some_; omega)
            rcases stretch.before with none_ | none_
            · have := open_.some_
              omega
            · exact absurd ((holdsAt_snoc last.inside).2 last) (same ▸ none_)

theorem Scanned.ends {xs : List α} {turn : List (Nat × Nat) × Option Nat} {x : α}
    (scanned : Scanned holds xs turn) (off : holds x ≠ true) :
    Scanned holds (xs ++ [x]) (turn.1 ++ (turn.2.map fun start => (start, xs.length)).toList, none) := by
  have length : (xs ++ [x]).length = xs.length + 1 := by simp
  refine ⟨fun start stop => ?_, fun start => ?_, fun _ => .inr fun here => ?_⟩
  · rw [List.mem_append, scanned.found, length]
    have ended : (start, stop) ∈ (turn.2.map fun start => (start, xs.length)).toList ↔
        stop = xs.length ∧ Stretch (HoldsAt holds xs) start xs.length := by
      rw [← scanned.opened]
      cases turn.2 with
      | none => simp
      | some first => simp [eq_comm, and_comm]
    rw [ended]
    constructor
    · rintro (⟨stretch, inside⟩ | ⟨rfl, stretch⟩)
      · exact ⟨(stretch_snoc inside).2 stretch, by omega⟩
      · exact ⟨(stretch_snoc_end stretch.some_ (by rw [if_neg off])).2 stretch, by omega⟩
    · rintro ⟨stretch, inside⟩
      by_cases earlier : stop < xs.length
      · exact .inl ⟨(stretch_snoc earlier).1 stretch, earlier⟩
      · have same : stop = xs.length := by omega
        subst same
        exact .inr ⟨rfl, (stretch_snoc_end stretch.some_ (by rw [if_neg off])).1 stretch⟩
  · constructor
    · nofun
    · intro stretch
      have last := stretch.within xs.length (by have := stretch.some_; omega) (by omega)
      exact absurd (holdsAt_last.1 last) off
  · rw [length, Nat.add_sub_cancel] at here
    exact off (holdsAt_last.1 here)

theorem scanned (xs : List α) : Scanned holds xs (scan holds xs) := by
  induction xs using List.reverseRecOn with
  | nil =>
      refine ⟨fun start stop => ?_, fun start => ?_, fun _ => .inl rfl⟩
      · exact ⟨nofun, fun both => absurd both.2 (Nat.not_lt_zero _)⟩
      · exact ⟨nofun, fun stretch => absurd stretch.some_ (Nat.not_lt_zero _)⟩
  | append_singleton xs x ih =>
      rw [scan_snoc]
      by_cases on : holds x = true
      · rw [stretchTurn, if_pos on]
        exact ih.hold on
      · rw [stretchTurn, if_neg on]
        have after := ih.ends on
        cases began : (scan holds xs).2 with
        | none => simpa [began] using after
        | some start => simpa [began] using after

/-- Of a list and a sentinel every maximal stretch of the list is found, and nothing else. -/
theorem mem_stretches {xs : List α} {sentinel : α} (off : holds sentinel ≠ true) {start stop : Nat} :
    (start, stop) ∈ stretches holds (xs ++ [sentinel]) ↔ Stretch (HoldsAt holds xs) start stop := by
  rw [stretches, (scanned (xs ++ [sentinel])).found]
  constructor
  · rintro ⟨stretch, inside⟩
    rw [List.length_append, List.length_singleton] at inside
    by_cases earlier : stop < xs.length
    · exact (stretch_snoc earlier).1 stretch
    · obtain rfl : stop = xs.length := by omega
      exact (stretch_snoc_end stretch.some_ (by rw [if_neg off])).1 stretch
  · intro stretch
    have within := stretch.stop_le
    refine ⟨?_, by simpa using Nat.lt_succ_of_le within⟩
    by_cases earlier : stop < xs.length
    · exact (stretch_snoc earlier).2 stretch
    · obtain rfl : stop = xs.length := by omega
      exact (stretch_snoc_end stretch.some_ (by rw [if_neg off])).2 stretch

theorem scan_ordered (xs : List α) :
    (scan holds xs).1.Pairwise (fun earlier later => earlier.2 < later.1) ∧
      ∀ found ∈ (scan holds xs).1, found.2 < xs.length ∧
        ∀ start, (scan holds xs).2 = some start → found.2 < start := by
  induction xs using List.reverseRecOn with
  | nil => exact ⟨.nil, nofun⟩
  | append_singleton xs x ih =>
      obtain ⟨ordered, before⟩ := ih
      rw [scan_snoc, List.length_append, List.length_singleton]
      by_cases on : holds x = true
      · rw [stretchTurn, if_pos on]
        refine ⟨ordered, fun found member => ⟨Nat.lt_succ_of_lt (before found member).1, fun start same => ?_⟩⟩
        rw [← Option.some.inj same]
        cases began : (scan holds xs).2 with
        | none => exact (before found member).1
        | some first => exact (before found member).2 first began
      · rw [stretchTurn, if_neg on]
        cases began : (scan holds xs).2 with
        | none => exact ⟨ordered, fun found member => ⟨Nat.lt_succ_of_lt (before found member).1, nofun⟩⟩
        | some first =>
            refine ⟨List.pairwise_append.2 ⟨ordered, List.pairwise_singleton .., ?_⟩, fun found member => ?_⟩
            · rintro found member _ (_ | ⟨_, ⟨⟩⟩)
              exact (before found member).2 first began
            · refine ⟨?_, nofun⟩
              rcases List.mem_append.1 member with earlier | last
              · exact Nat.lt_succ_of_lt (before found earlier).1
              · rw [List.mem_singleton.1 last]
                exact Nat.lt_succ_self _

theorem stretches_ordered (xs : List α) :
    (stretches holds xs).Pairwise fun earlier later => earlier.2 < later.1 := (scan_ordered xs).1

end AlgoTrader.Theory
