/-
# Theory.Loops -- programs that repeat

A `for` loop visits the elements of a list; a `while` loop takes turns until one of
them says to stop.  A `while` loop is cut off after some number of turns: a partial
run of the real loop is a partial run of one that is cut off later.

* `wp_visit` -- an invariant over the elements visited so far;
* `wp_turns` -- an invariant over what one turn hands to the next;
* `wp_kept` -- what every request of some kind keeps is kept by every program that
  issues no others.
-/
import AlgoTrader.Theory.Logic

namespace AlgoTrader.Theory

set_option autoImplicit false

variable {S : Signature} {ε σ W : Type}

namespace Prog

variable {α β : Type}

/-- Run one program for each element, in order. -/
def visit (f : α → Prog S ε Unit) : List α → Prog S ε Unit
  | [] => .pure ()
  | x :: xs => (f x).bind fun _ => visit f xs

/-- Take turns until one hands over nothing; `some` when that never came. -/
def turns (turn : β → Prog S ε (Option β)) : Nat → β → Prog S ε (Option β)
  | 0, b => .pure (some b)
  | n + 1, b => (turn b).bind fun
    | none => .pure none
    | some next => turns turn n next

end Prog

section Rules

variable {L : Logic S ε σ} {α β : Type}

/-- The ends of one step: how it goes on, and how it raises. -/
def stepPost {γ : Type} (goOn : σ → Prop) (raised : ε → σ → Prop) : Except ε γ → σ → Prop
  | .ok _, s => goOn s
  | .error error, s => raised error s

/-- One step after another. -/
theorem wp_step {goOn mid : σ → Prop} {raised : ε → σ → Prop} {p : Prog S ε α}
    {f : α → Prog S ε β} {s : σ} (first : wp L (stepPost mid raised) p s)
    (rest : ∀ value s', mid s' → wp L (stepPost goOn raised) (f value) s') :
    wp L (stepPost goOn raised) (p >>= f) s := by
  refine wp_bind.2 (wp_mono first ?_)
  intro result s' ended
  cases result with
  | error error => exact ended
  | ok value => exact rest value s' ended

theorem wp_visit_rest (inv : List α → σ → Prop) (raised : ε → σ → Prop) (f : α → Prog S ε Unit)
    (visited xs : List α)
    (body : ∀ before x after s, visited ++ xs = before ++ x :: after → inv before s →
      wp L (stepPost (inv (before ++ [x])) raised) (f x) s)
    {s : σ} (start : inv visited s) :
    wp L (stepPost (inv (visited ++ xs)) raised) (Prog.visit f xs) s := by
  induction xs generalizing visited s with
  | nil =>
      have all : visited ++ [] = visited := List.append_nil visited
      exact all.symm ▸ start
  | cons x xs ih =>
      refine (wp_bind (p := f x)).2 (wp_mono (body visited x xs s rfl start) ?_)
      intro result s' ended
      have split : visited ++ [x] ++ xs = visited ++ x :: xs := List.append_assoc visited [x] xs
      cases result with
      | error error => exact ended
      | ok value =>
          refine split ▸ ih (visited ++ [x]) ?_ ended
          intro before y after s'' here
          exact body before y after s'' (split ▸ here)

theorem wp_visit (inv : List α → σ → Prop) (raised : ε → σ → Prop) (f : α → Prog S ε Unit)
    {xs : List α}
    (body : ∀ before x after s, xs = before ++ x :: after → inv before s →
      wp L (stepPost (inv (before ++ [x])) raised) (f x) s)
    {s : σ} (start : inv [] s) : wp L (stepPost (inv xs) raised) (Prog.visit f xs) s :=
  wp_visit_rest inv raised f [] xs body start

/-- The ends of one turn: how it goes on, how it stops, and how it raises. -/
def turnPost (goOn : β → σ → Prop) (stops : σ → Prop) (raised : ε → σ → Prop) :
    Except ε (Option β) → σ → Prop
  | .ok (some next), s => goOn next s
  | .ok none, s => stops s
  | .error error, s => raised error s

theorem wp_turns (inv : β → σ → Prop) (stops : σ → Prop) (raised : ε → σ → Prop)
    (turn : β → Prog S ε (Option β))
    (body : ∀ b s, inv b s → wp L (turnPost inv stops raised) (turn b) s) (n : Nat) {b : β} {s : σ}
    (start : inv b s) : wp L (turnPost inv stops raised) (Prog.turns turn n b) s := by
  induction n generalizing b s with
  | zero => exact start
  | succ n ih =>
      refine (wp_bind (p := turn b)).2 (wp_mono (body b s start) ?_)
      intro result s' ended
      match result with
      | .ok (some next) => exact ih ended
      | .ok none => exact ended
      | .error error => exact ended

end Rules

theorem issues_mono {allowed wider : S.Op → Prop} {α : Type} {p : Prog S ε α}
    (issues : Issues allowed p) (within : ∀ op, allowed op → wider op) : Issues wider p := by
  refine wp_refine (fun _ _ => True) ?_ (fun _ _ _ _ _ => trivial) (t := ()) trivial issues
  intro op s t k k' _ handled go
  exact ⟨within op handled.1, fun reply => go reply () () (handled.2 reply) trivial⟩

/-- What every request of some kind keeps, a program that issues only those keeps. -/
theorem wp_kept {C : Contract S ε W} {allowed : S.Op → Prop} (inv : Moment S ε W → Prop)
    (guarded : ∀ op m, allowed op → inv m → C.guard op m)
    (kept : ∀ op m reply after, allowed op → inv m → C.serve op m.world reply after →
      C.assume (m.event op reply after) m.events →
      inv (m.push op reply after) ∧ C.invariant (m.push op reply after))
    {α : Type} {p : Prog S ε α} (issues : Issues allowed p) {m : Moment S ε W} (start : inv m) :
    wp C.logic (fun _ => inv) p m := by
  refine wp_refine (fun _ m => inv m) ?_ (fun _ _ _ _ held => held) start issues
  rintro op s m k k' held ⟨member, replied⟩ go
  refine ⟨guarded op m member held, fun reply after served assumed => ?_⟩
  obtain ⟨next, invariant⟩ := kept op m reply after member held served assumed
  exact ⟨invariant, go reply () _ (replied reply) next⟩

end AlgoTrader.Theory
