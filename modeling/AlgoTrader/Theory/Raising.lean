/-
# Theory.Raising -- computations and loops that may raise

A loop whose passes may raise is run by `loop`: the state after the first passes,
or the error of the first pass that raised.

* `loop_invariant` -- what every pass keeps holds of the state reached;
* `loop_onward` -- so does what holds at some point and is kept from there on;
* `loop_congr` -- a state depends on no later pass;
* `runs_invariant`, `runs_error` -- one step for each element of a list: what every
  step keeps, and where a run raises.
-/
import Mathlib.Data.List.Induction

namespace AlgoTrader.Theory

set_option autoImplicit false

variable {ε σ τ α β : Type}

theorem bind_eq_ok {x : Except ε α} {f : α → Except ε β} {b : β} :
    x.bind f = .ok b ↔ ∃ a, x = .ok a ∧ f a = .ok b := by
  cases x with
  | error e =>
      constructor
      · intro raised
        cases raised
      · rintro ⟨a, raised, _⟩
        cases raised
  | ok a =>
      constructor
      · intro done
        exact ⟨a, rfl, done⟩
      · rintro ⟨_, here, done⟩
        cases here
        exact done

theorem bind_eq_error {x : Except ε α} {f : α → Except ε β} {e : ε} :
    x.bind f = .error e ↔ x = .error e ∨ ∃ a, x = .ok a ∧ f a = .error e := by
  cases x with
  | error e' =>
      constructor
      · intro raised
        cases raised
        exact .inl rfl
      · rintro (raised | ⟨_, here, _⟩)
        · cases raised
          rfl
        · cases here
  | ok a =>
      constructor
      · intro raised
        exact .inr ⟨a, rfl, raised⟩
      · rintro (raised | ⟨_, here, failed⟩)
        · cases raised
        · cases here
          exact failed

theorem map_eq_ok {x : Except ε α} {f : α → β} {b : β} :
    x.map f = .ok b ↔ ∃ a, x = .ok a ∧ f a = b := by
  cases x <;> simp [Except.map]

theorem mapM_cons_bind (f : α → Except ε β) (x : α) (xs : List α) :
    (x :: xs).mapM f = (f x).bind fun y => (xs.mapM f).bind fun ys => .ok (y :: ys) := by
  rw [List.mapM_cons]
  rfl

theorem mapM_map {γ : Type} (f : β → Except ε γ) (g : α → β) (xs : List α) :
    (xs.map g).mapM f = xs.mapM fun x => f (g x) := by
  induction xs with
  | nil => rfl
  | cons x xs ih => rw [List.map_cons, mapM_cons_bind, mapM_cons_bind, ih]

/-- A `mapM` raises what one of its elements does. -/
theorem mapM_error {f : α → Except ε β} {xs : List α} {e : ε} (raised : xs.mapM f = .error e) :
    ∃ x ∈ xs, f x = .error e := by
  induction xs with
  | nil => cases raised
  | cons x xs ih =>
      rw [mapM_cons_bind] at raised
      rcases bind_eq_error.1 raised with first | ⟨y, _, rest⟩
      · exact ⟨x, List.mem_cons_self, first⟩
      · rcases bind_eq_error.1 rest with later | ⟨_, _, done⟩
        · obtain ⟨x', member, failed⟩ := ih later
          exact ⟨x', List.mem_cons_of_mem x member, failed⟩
        · cases done

/-- A `mapM` returns what it makes of every element, and nothing else. -/
theorem mapM_members {f : α → Except ε β} {xs : List α} {ys : List β} (done : xs.mapM f = .ok ys) :
    (∀ x ∈ xs, ∃ y ∈ ys, f x = .ok y) ∧ ∀ y ∈ ys, ∃ x ∈ xs, f x = .ok y := by
  induction xs generalizing ys with
  | nil =>
      cases done
      simp
  | cons x xs ih =>
      rw [mapM_cons_bind] at done
      obtain ⟨y, first, rest⟩ := bind_eq_ok.1 done
      obtain ⟨ys', later, whole⟩ := bind_eq_ok.1 rest
      cases whole
      obtain ⟨forward, backward⟩ := ih later
      constructor
      · rintro x' (_ | ⟨_, member⟩)
        · exact ⟨y, List.mem_cons_self, first⟩
        · obtain ⟨y', listed, same⟩ := forward x' member
          exact ⟨y', List.mem_cons_of_mem _ listed, same⟩
      · rintro y' (_ | ⟨_, member⟩)
        · exact ⟨x, List.mem_cons_self, first⟩
        · obtain ⟨x', listed, same⟩ := backward y' member
          exact ⟨x', List.mem_cons_of_mem _ listed, same⟩

/-- A `mapM` returns its results in place. -/
theorem mapM_places {f : α → Except ε β} {xs : List α} {ys : List β} (done : xs.mapM f = .ok ys) :
    ys.length = xs.length ∧
      ∀ (n : Nat) (x : α), xs[n]? = some x → ∃ y, ys[n]? = some y ∧ f x = .ok y := by
  induction xs generalizing ys with
  | nil =>
      cases done
      simp
  | cons x xs ih =>
      rw [mapM_cons_bind] at done
      obtain ⟨y, first, rest⟩ := bind_eq_ok.1 done
      obtain ⟨ys', later, whole⟩ := bind_eq_ok.1 rest
      cases whole
      obtain ⟨long, places⟩ := ih later
      refine ⟨by simp [long], fun n x' here => ?_⟩
      cases n with
      | zero =>
          cases here
          exact ⟨y, rfl, first⟩
      | succ n => exact places n x' here

/-- What a `mapM` returns tells what it was given, where each result tells its element. -/
theorem mapM_ok_map {f : α → Except ε β} {back : β → α} {xs : List α} {ys : List β}
    (told : ∀ x y, f x = .ok y → back y = x) (done : xs.mapM f = .ok ys) : ys.map back = xs := by
  induction xs generalizing ys with
  | nil =>
      cases done
      rfl
  | cons x xs ih =>
      rw [mapM_cons_bind] at done
      obtain ⟨y, first, rest⟩ := bind_eq_ok.1 done
      obtain ⟨ys', later, whole⟩ := bind_eq_ok.1 rest
      cases whole
      rw [List.map_cons, told x y first, ih later]

/-- A `mapM` follows another one whose results tell its own. -/
theorem mapM_follows {γ : Type} {f : α → Except ε β} {g : α → Except ε γ} {next : β → γ} {xs : List α}
    {ys : List β} (tells : ∀ x y, f x = .ok y → g x = .ok (next y)) (done : xs.mapM f = .ok ys) :
    xs.mapM g = .ok (ys.map next) := by
  induction xs generalizing ys with
  | nil =>
      cases done
      rfl
  | cons x xs ih =>
      rw [mapM_cons_bind] at done
      obtain ⟨y, first, rest⟩ := bind_eq_ok.1 done
      obtain ⟨ys', later, whole⟩ := bind_eq_ok.1 rest
      cases whole
      rw [mapM_cons_bind, tells x y first, ih later]
      rfl

theorem mapM_ok {f : α → Except ε β} {xs : List α} (returns : ∀ x ∈ xs, ∃ y, f x = .ok y) :
    ∃ ys, xs.mapM f = .ok ys := by
  cases outcome : xs.mapM f with
  | ok ys => exact ⟨ys, rfl⟩
  | error e =>
      obtain ⟨x, member, raised⟩ := mapM_error outcome
      obtain ⟨y, returned⟩ := returns x member
      rw [raised] at returned
      cases returned

theorem mapM_eq_map {f : α → Except ε β} {g : α → β} {xs : List α} (returns : ∀ x ∈ xs, f x = .ok (g x)) :
    xs.mapM f = .ok (xs.map g) := by
  induction xs with
  | nil => rfl
  | cons x xs ih =>
      rw [List.mapM_cons, returns x List.mem_cons_self, ih fun y member =>
        returns y (List.mem_cons_of_mem x member)]
      rfl

/-- A `mapM` returns only where each of its elements does. -/
theorem mapM_raises {f : α → Except ε β} {xs : List α} {x : α} {e : ε} (member : x ∈ xs)
    (raised : f x = .error e) : ∃ e', xs.mapM f = .error e' := by
  induction xs with
  | nil => cases member
  | cons y xs ih =>
      rw [mapM_cons_bind]
      cases first : f y with
      | error e' => exact ⟨e', rfl⟩
      | ok z =>
          rcases List.mem_cons.1 member with rfl | later
          · rw [raised] at first
            cases first
          · obtain ⟨e', rest⟩ := ih later
            rw [rest]
            exact ⟨e', rfl⟩

/-- The state after the first `n` passes. -/
def loop (pass : Nat → σ → Except ε σ) (start : σ) : Nat → Except ε σ
  | 0 => .ok start
  | n + 1 => (loop pass start n).bind (pass n)

section

variable {pass pass' : Nat → σ → Except ε σ} {start : σ}

theorem loop_zero : loop pass start 0 = .ok start := rfl

theorem loop_succ {n : Nat} {s : σ} :
    loop pass start (n + 1) = .ok s ↔ ∃ before, loop pass start n = .ok before ∧
      pass n before = .ok s := bind_eq_ok

/-- A loop that comes far comes through everything before. -/
theorem loop_earlier {m n : Nat} {s : σ} (reached : loop pass start n = .ok s) (earlier : m ≤ n) :
    ∃ before, loop pass start m = .ok before := by
  induction n generalizing s with
  | zero =>
      have same : m = 0 := by omega
      exact ⟨start, by rw [same, loop_zero]⟩
  | succ n ih =>
      by_cases last : m = n + 1
      · exact ⟨s, by rw [last, reached]⟩
      · obtain ⟨before, through, _⟩ := loop_succ.1 reached
        exact ih through (by omega)

theorem loop_invariant (inv : Nat → σ → Prop) (initially : inv 0 start)
    (kept : ∀ n s s', inv n s → pass n s = .ok s' → inv (n + 1) s') {n : Nat} {s : σ}
    (reached : loop pass start n = .ok s) : inv n s := by
  induction n generalizing s with
  | zero =>
      cases reached
      exact initially
  | succ n ih =>
      obtain ⟨before, through, passed⟩ := loop_succ.1 reached
      exact kept n before s (ih through) passed

/-- What holds at some point and is kept from there on. -/
theorem loop_onward (inv : σ → Prop) {m n : Nat} {s later : σ} (earlier : m ≤ n)
    (reached : loop pass start m = .ok s) (here : inv s)
    (kept : ∀ k s s', inv s → pass k s = .ok s' → inv s')
    (reachedLater : loop pass start n = .ok later) : inv later := by
  induction n generalizing later with
  | zero =>
      have same : m = 0 := by omega
      rw [same, reachedLater] at reached
      cases reached
      exact here
  | succ n ih =>
      by_cases last : m = n + 1
      · rw [last, reachedLater] at reached
        cases reached
        exact here
      · obtain ⟨before, through, passed⟩ := loop_succ.1 reachedLater
        exact kept n before later (ih (by omega) through) passed

/-- Passes that are alike up to some point lead to the same state there. -/
theorem loop_congr {n : Nat} (alike : ∀ m < n, pass m = pass' m) :
    loop pass start n = loop pass' start n := by
  induction n with
  | zero => rfl
  | succ n ih =>
      have before := ih fun m earlier => alike m (by omega)
      have here := alike n (by omega)
      show (loop pass start n).bind _ = (loop pass' start n).bind _
      rw [before, here]

end

/-! ## One step for each element -/

/-- The state after one step for each element, in order. -/
def runs (step : α → σ → Except ε σ) : List α → σ → Except ε σ
  | [], s => .ok s
  | x :: xs, s => (step x s).bind (runs step xs)

section

variable {step : α → σ → Except ε σ}

@[simp] theorem runs_nil (s : σ) : runs step [] s = .ok s := rfl

theorem runs_cons_ok {x : α} {xs : List α} {s t : σ} :
    runs step (x :: xs) s = .ok t ↔ ∃ after, step x s = .ok after ∧ runs step xs after = .ok t :=
  bind_eq_ok

theorem runs_append (xs ys : List α) (s : σ) :
    runs step (xs ++ ys) s = (runs step xs s).bind (runs step ys) := by
  induction xs generalizing s with
  | nil => rfl
  | cons x xs ih =>
      show (step x s).bind (runs step (xs ++ ys)) = ((step x s).bind (runs step xs)).bind _
      cases step x s with
      | error e => rfl
      | ok after => exact ih after

theorem runs_snoc_ok {x : α} {xs : List α} {s t : σ} :
    runs step (xs ++ [x]) s = .ok t ↔ ∃ before, runs step xs s = .ok before ∧ step x before = .ok t := by
  rw [runs_append]
  refine Iff.trans bind_eq_ok ?_
  constructor
  · rintro ⟨before, through, last⟩
    obtain ⟨after, stepped, done⟩ := runs_cons_ok.1 last
    cases done
    exact ⟨before, through, stepped⟩
  · rintro ⟨before, through, stepped⟩
    exact ⟨before, through, runs_cons_ok.2 ⟨t, stepped, rfl⟩⟩

/-- A step that raises everywhere lets no run through. -/
theorem runs_raises {x : α} {xs : List α} (member : x ∈ xs) (raises : ∀ s, ∃ e, step x s = .error e)
    (s : σ) : ∃ e, runs step xs s = .error e := by
  induction xs generalizing s with
  | nil => cases member
  | cons y xs ih =>
      show ∃ e, (step y s).bind (runs step xs) = .error e
      cases stepped : step y s with
      | error e => exact ⟨e, rfl⟩
      | ok next =>
          rcases List.mem_cons.1 member with rfl | later
          · obtain ⟨e, raised⟩ := raises s
            rw [raised] at stepped
            cases stepped
          · exact ih later next

theorem runs_map {f : β → α} (xs : List β) (s : σ) :
    runs step (xs.map f) s = runs (fun x => step (f x)) xs s := by
  induction xs generalizing s with
  | nil => rfl
  | cons x xs ih => exact congrArg (Except.bind (step (f x) s)) (funext ih)

/-- What every step keeps, of the elements before it and the state they lead to. -/
theorem runs_invariant (inv : List α → σ → Prop) {start : σ} (initially : inv [] start)
    (kept : ∀ before x s s', inv before s → step x s = .ok s' → inv (before ++ [x]) s')
    {xs : List α} {s : σ} (reached : runs step xs start = .ok s) : inv xs s := by
  induction xs using List.reverseRecOn generalizing s with
  | nil =>
      cases reached
      exact initially
  | append_singleton xs x ih =>
      obtain ⟨before, through, stepped⟩ := runs_snoc_ok.1 reached
      exact kept xs x before s (ih through) stepped

/-- A run raises where its first raising step does. -/
theorem runs_error {xs : List α} {s : σ} {e : ε} :
    runs step xs s = .error e ↔ ∃ before x after here,
      xs = before ++ x :: after ∧ runs step before s = .ok here ∧ step x here = .error e := by
  constructor
  · intro raised
    induction xs generalizing s with
    | nil => cases raised
    | cons x xs ih =>
        cases stepped : step x s with
        | error e' =>
            have same : Except.error e' = (Except.error e : Except ε σ) := by
              rw [← raised]
              show _ = (step x s).bind _
              rw [stepped]
              rfl
            cases same
            exact ⟨[], x, xs, s, rfl, rfl, stepped⟩
        | ok next =>
            have rest : runs step xs next = .error e := by
              rw [← raised]
              show _ = (step x s).bind _
              rw [stepped]
              rfl
            obtain ⟨before, y, after, here, split, through, failed⟩ := ih rest
            refine ⟨x :: before, y, after, here, ?_, runs_cons_ok.2 ⟨next, stepped, through⟩, failed⟩
            rw [split, List.cons_append]
  · rintro ⟨before, x, after, here, rfl, through, failed⟩
    rw [runs_append, through]
    show (step x here).bind _ = _
    rw [failed]
    rfl

end

end AlgoTrader.Theory
