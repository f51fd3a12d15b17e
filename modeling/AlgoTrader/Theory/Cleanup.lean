/-
# Theory.Cleanup -- what is done however a program ends

`try` with a `finally`: the cleanup runs when the program has ended, and what the cleanup raises is raised in the
place of what the program came to.

* `wp_ensure`, `wp_cleanUp` -- cleanups nested in one another: each is done, whatever the others raise;
* `Loud` -- programs that swallow nothing: they return just when no request raised, and otherwise raise what the
  last request that raised did.
-/
import AlgoTrader.Theory.Frames

namespace AlgoTrader.Theory

set_option autoImplicit false

variable {S : Signature} {ε σ W α β : Type}

/-- What a program came to and what its cleanup came to, as one end. -/
def settle : Except ε α → Except ε Unit → Except ε α
  | result, .ok () => result
  | _, .error error => .error error

namespace Prog

/-- `try: p`, `finally: cleanup`. -/
def ensure (p : Prog S ε α) (cleanup : Prog S ε Unit) : Prog S ε α := do
  let result ← p.attempt
  cleanup
  match result with
  | .ok value => .pure value
  | .error error => .raise error

/-- Each program in a `try` whose `finally` is the ones after it. -/
def cleanUp : List (Prog S ε Unit) → Prog S ε Unit
  | [] => .pure ()
  | [p] => p
  | p :: q :: rest => p.ensure (cleanUp (q :: rest))

end Prog

section Rules

variable {L : Logic S ε σ}

theorem wp_ensure {post : Except ε α → σ → Prop} {p : Prog S ε α} {cleanup : Prog S ε Unit} {s : σ} :
    wp L post (p.ensure cleanup) s ↔
      wp L (fun result s' => wp L (fun cleaned s'' => post (settle result cleaned) s'') cleanup s') p s := by
  refine wp_bind.trans (wp_attempt.trans ⟨fun ends => wp_mono ends ?_, fun ends => wp_mono ends ?_⟩)
  · intro result s' goes
    refine wp_mono (wp_bind.1 goes) fun cleaned s'' ended => ?_
    cases cleaned with
    | ok _ => cases result <;> exact ended
    | error error => exact ended
  · intro result s' goes
    refine wp_bind.2 (wp_mono goes fun cleaned s'' ended => ?_)
    cases cleaned with
    | ok _ => cases result <;> exact ended
    | error error => exact ended

/-- Every cleanup is reached: an invariant over the ones still to do carries through, whatever is raised. -/
theorem wp_cleanUp (inv : List α → σ → Prop) {f : α → Prog S ε Unit}
    (body : ∀ x rest s, inv (x :: rest) s → wp L (fun _ => inv rest) (f x) s) {xs : List α} {s : σ}
    (start : inv xs s) : wp L (fun _ => inv []) (Prog.cleanUp (xs.map f)) s := by
  induction xs generalizing s with
  | nil => exact start
  | cons x rest ih =>
    cases rest with
    | nil => exact body x [] s start
    | cons y rest => exact wp_ensure.2 (wp_mono (body x (y :: rest) s start) fun _ _ left => ih left)

theorem issues_ensure {allowed : S.Op → Prop} {p : Prog S ε α} {cleanup : Prog S ε Unit}
    (inside : Issues allowed p) (cleans : Issues allowed cleanup) : Issues allowed (p.ensure cleanup) := by
  refine issues_bind (issues_attempt inside) fun result => issues_bind cleans fun _ => ?_
  cases result with
  | ok value => exact issues_pure value
  | error error => exact issues_raise error

theorem issues_cleanUp {allowed : S.Op → Prop} {ps : List (Prog S ε Unit)}
    (each : ∀ p ∈ ps, Issues allowed p) : Issues allowed (Prog.cleanUp ps) := by
  induction ps with
  | nil => exact issues_pure ()
  | cons p rest ih =>
    obtain ⟨first, others⟩ := List.forall_mem_cons.1 each
    cases rest with
    | nil => exact first
    | cons q rest => exact issues_ensure first (ih others)

end Rules

/-! ## Programs that swallow nothing -/

section Loud

variable {serve : Service S ε W}

/-- What the last request that raised did raise. -/
def lastRaised : List (Event S ε W) → Option ε
  | [] => none
  | e :: earlier =>
      match e.reply with
      | .ok _ => lastRaised earlier
      | .error error => some error

/-- The end of a run whose new events are these. -/
def Told (new : List (Event S ε W)) : Except ε α → Prop
  | .ok _ => lastRaised new = none
  | .error error => lastRaised new = some error

theorem lastRaised_append (new older : List (Event S ε W)) :
    lastRaised (new ++ older) = (lastRaised new).or (lastRaised older) := by
  induction new with
  | nil => rfl
  | cons e rest ih =>
    simp only [List.cons_append, lastRaised]
    split
    · exact ih
    · rfl

variable (serve) in
def Loud (p : Prog S ε α) : Prop :=
  ∀ m : Moment S ε W, wp (Contract.plain serve fun _ => True).logic
    (fun result m' => ∃ new, m'.events = new ++ m.events ∧ Told new result) p m

theorem loud_pure (value : α) : Loud serve (.pure value : Prog S ε α) := fun _ => ⟨[], rfl, rfl⟩

theorem loud_call (op : S.Op) : Loud serve (Prog.call op : Prog S ε (S.Reply op)) := fun m =>
  wp_served fun reply after _ _ => ⟨[m.event op reply after], rfl, by cases reply <;> rfl⟩

/-- What comes after a piece that returned, or was cleaned up after. -/
theorem Told.after {newer older : List (Event S ε W)} {result : Except ε α} (ended : Told newer result)
    (before : lastRaised older = none) : Told (newer ++ older) result := by
  cases result with
  | ok value => exact (lastRaised_append newer older).trans (by rw [ended, before]; rfl)
  | error error => exact (lastRaised_append newer older).trans (by rw [ended]; rfl)

theorem Loud.bind {p : Prog S ε α} {f : α → Prog S ε β} (first : Loud serve p)
    (rest : ∀ value, Loud serve (f value)) : Loud serve (p >>= f) := by
  refine fun m => wp_bind.2 (wp_mono (first m) ?_)
  rintro result m' ⟨new, events, ended⟩
  cases result with
  | error error => exact ⟨new, events, ended⟩
  | ok value =>
    refine wp_mono (rest value m') ?_
    rintro final m'' ⟨newer, events', ended'⟩
    exact ⟨newer ++ new, by rw [events', events, List.append_assoc], ended'.after ended⟩

theorem loud_when {flag : Bool} {p : Prog S ε Unit} (inside : Loud serve p) : Loud serve (Prog.when flag p) :=
  fun m => wp_when (fun _ => inside m) fun _ => ⟨[], rfl, rfl⟩

theorem Loud.ensure {p : Prog S ε α} {cleanup : Prog S ε Unit} (inside : Loud serve p)
    (cleans : Loud serve cleanup) : Loud serve (p.ensure cleanup) := by
  refine fun m => wp_ensure.2 (wp_mono (inside m) ?_)
  rintro result m' ⟨new, events, ended⟩
  refine wp_mono (cleans m') ?_
  rintro cleaned m'' ⟨newer, events', ended'⟩
  refine ⟨newer ++ new, by rw [events', events, List.append_assoc], ?_⟩
  cases cleaned with
  | ok _ =>
    -- Nothing newer was raised, so what the program came to stands.
    have same : lastRaised (newer ++ new) = lastRaised new := by rw [lastRaised_append, ended']; rfl
    cases result with
    | ok value => exact same.trans ended
    | error error => exact same.trans ended
  | error error => exact (lastRaised_append newer new).trans (by rw [ended']; rfl)

theorem loud_cleanUp {ps : List (Prog S ε Unit)} (each : ∀ p ∈ ps, Loud serve p) : Loud serve (Prog.cleanUp ps) := by
  induction ps with
  | nil => exact loud_pure ()
  | cons p rest ih =>
    obtain ⟨first, others⟩ := List.forall_mem_cons.1 each
    cases rest with
    | nil => exact first
    | cons q rest => exact first.ensure (ih others)

/-- How a complete run of such a program ends. -/
theorem Loud.run {p : Prog S ε α} {world : W} {final : Moment S ε W} {result : Except ε α}
    (loud : Loud serve p) (run : p.Runs serve ⟨world, []⟩ result final) : Told final.events result := by
  obtain ⟨new, events, ended⟩ := run_ends run (loud ⟨world, []⟩)
  rw [List.append_nil] at events
  rwa [events]

end Loud

end AlgoTrader.Theory
