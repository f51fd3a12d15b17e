/-
# Theory.Resume -- catching up with a source

A copy of a source is brought up to date in order, page by page, and may be interrupted after any
page.  It resumes after the newest item it has, so what it is missing before that it never gets.
Nothing is missed as long as the copy has no hole between some edge and its newest item; the edge
may move forwards, and items before it may be dropped.

* `FilledTo.page` -- one more page;
* `FilledTo.unbroken` -- wherever it is interrupted, the copy has no hole;
* `Unbroken.later`, `Unbroken.drop` -- nor has it after the edge moved, or older items were dropped;
* `Unbroken.resume`, `Unbroken.restart` -- so the copy can be filled further from where it stands.
-/
import Mathlib.Data.Set.Basic
import Mathlib.Order.Basic

namespace AlgoTrader.Theory

set_option autoImplicit false

section Resume

variable {α τ : Type} [LinearOrder τ]

/-- Of the source all that lies between the edge and the cursor has been copied, and nothing from the
cursor on. -/
structure FilledTo (place : α → τ) (source copy : Set α) (edge cursor : τ) : Prop where
  own : copy ⊆ source
  filled : ∀ x ∈ source, edge ≤ place x → place x < cursor → x ∈ copy
  below : ∀ x ∈ copy, place x < cursor

/-- From the edge on, nothing before an item of the copy is missing. -/
structure Unbroken (place : α → τ) (source copy : Set α) (edge : τ) : Prop where
  own : copy ⊆ source
  filled : ∀ x ∈ source, edge ≤ place x → ∀ y ∈ copy, place x ≤ place y → x ∈ copy

variable {place : α → τ} {source copy : Set α} {edge cursor : τ}

theorem unbroken_empty : Unbroken place source ∅ edge := ⟨Set.empty_subset _, fun _ _ _ _ never => never.elim⟩

/-- Between the edge and the cursor the copy is the source. -/
theorem FilledTo.exact (filled : FilledTo place source copy edge cursor) {x : α} (from_ : edge ≤ place x)
    (before : place x < cursor) : x ∈ copy ↔ x ∈ source :=
  ⟨fun copied => filled.own copied, fun listed => filled.filled x listed from_ before⟩

theorem FilledTo.unbroken (filled : FilledTo place source copy edge cursor) :
    Unbroken place source copy edge :=
  ⟨filled.own, fun x listed from_ y copied upTo =>
    filled.filled x listed from_ (lt_of_le_of_lt upTo (filled.below y copied))⟩

/-- A page is copied as a whole. -/
theorem FilledTo.page {next : τ} (filled : FilledTo place source copy edge cursor) (forward : cursor ≤ next) :
    FilledTo place source (copy ∪ {x ∈ source | cursor ≤ place x ∧ place x < next}) edge next := by
  refine ⟨Set.union_subset filled.own fun x page => page.1, fun x listed from_ before => ?_, ?_⟩
  · by_cases old : place x < cursor
    · exact .inl (filled.filled x listed from_ old)
    · exact .inr ⟨listed, not_lt.1 old, before⟩
  · rintro x (old | ⟨_, _, before⟩)
    · exact lt_of_lt_of_le (filled.below x old) forward
    · exact before

theorem Unbroken.later {edge' : τ} (unbroken : Unbroken place source copy edge) (forward : edge ≤ edge') :
    Unbroken place source copy edge' :=
  ⟨unbroken.own, fun x listed from_ => unbroken.filled x listed (le_trans forward from_)⟩

/-- Only items before the edge are dropped. -/
theorem Unbroken.drop {rest : Set α} (unbroken : Unbroken place source copy edge) (fewer : rest ⊆ copy)
    (kept : ∀ x ∈ copy, edge ≤ place x → x ∈ rest) : Unbroken place source rest edge :=
  ⟨fewer.trans unbroken.own, fun x listed from_ y there upTo =>
    kept x (unbroken.filled x listed from_ y (fewer there) upTo) from_⟩

/-- After the newest item of the copy, where the source has none between it and the cursor. -/
theorem Unbroken.resume {newest : α} (unbroken : Unbroken place source copy edge) (there : newest ∈ copy)
    (last : ∀ x ∈ copy, place x ≤ place newest) (after : place newest < cursor)
    (gap : ∀ x ∈ source, edge ≤ place x → place x < cursor → place x ≤ place newest) :
    FilledTo place source copy edge cursor :=
  ⟨unbroken.own, fun x listed from_ before =>
    unbroken.filled x listed from_ newest there (gap x listed from_ before),
    fun x copied => lt_of_le_of_lt (last x copied) after⟩

/-- From the edge, where there is no item at all. -/
theorem Unbroken.restart (unbroken : Unbroken place source copy edge) (none_ : ∀ x, x ∉ copy) :
    FilledTo place source copy edge edge :=
  ⟨unbroken.own, fun _ _ from_ before => absurd before (not_lt.2 from_),
    fun x copied => absurd copied (none_ x)⟩

end Resume

end AlgoTrader.Theory
