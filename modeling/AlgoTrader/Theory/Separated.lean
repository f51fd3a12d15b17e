/-
# Theory.Separated -- texts joined with a separator

A joined text is taken apart where the separators are counted off: two ways to read it
that put as many separators before a place agree on what stands there.
-/
import Mathlib.Data.List.Basic

namespace AlgoTrader.Theory

set_option autoImplicit false

variable {α : Type} [DecidableEq α] {sep : α}

/-- **Reading up to a separator.** -/
theorem joined_inj {first first' rest rest' : List α}
    (same : first ++ sep :: rest = first' ++ sep :: rest')
    (counts : first.count sep = first'.count sep) : first = first' ∧ rest = rest' := by
  induction first generalizing first' with
  | nil =>
    cases first' with
    | nil => exact ⟨rfl, (List.cons.inj same).2⟩
    | cons c others =>
      obtain ⟨rfl, -⟩ := List.cons.inj same
      simp at counts
  | cons c others ih =>
    cases first' with
    | nil =>
      obtain ⟨rfl, -⟩ := List.cons.inj same
      simp at counts
    | cons c' others' =>
      obtain ⟨rfl, left⟩ := List.cons.inj same
      have fewer : others.count sep = others'.count sep := by
        simp only [List.count_cons] at counts
        omega
      obtain ⟨rfl, rfl⟩ := ih left fewer
      exact ⟨rfl, rfl⟩

/-- What holds no separator ends where the first one stands. -/
theorem joined_inj_of_notMem {first first' rest rest' : List α} (bare : sep ∉ first)
    (bare' : sep ∉ first') (same : first ++ sep :: rest = first' ++ sep :: rest') :
    first = first' ∧ rest = rest' := by
  apply joined_inj same
  rw [List.count_eq_zero_of_not_mem bare, List.count_eq_zero_of_not_mem bare']

/-- What stands before as many separators as are left is told by those. -/
theorem joined_inj_of_rest {first first' rest rest' : List α}
    (same : first ++ sep :: rest = first' ++ sep :: rest')
    (counts : rest.count sep = rest'.count sep) : first = first' ∧ rest = rest' := by
  apply joined_inj same
  have whole := congrArg (List.count sep) same
  simp only [List.count_append, List.count_cons_self] at whole
  omega

end AlgoTrader.Theory
