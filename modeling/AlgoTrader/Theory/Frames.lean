/-
# Theory.Frames -- what a program leaves as it is

A program leaves a part of its moments as it is when each of its requests does.  The rules follow
the shape of the program, so that a long one is framed by framing the pieces it is put together of.

* `Leaves.bind`, `Leaves.attempt` -- pieces together leave what each of them leaves;
* `leaves_issues` -- a program that only issues requests that leave the part leaves it;
* `Sustains.bind`, `Sustains.attempt` -- the same for a property that every request keeps, in any
  logic;
* `runs_bind`, `runs_attempt` -- a complete run of a sequence is one of its pieces, one after the
  other.
-/
import AlgoTrader.Theory.Loops

namespace AlgoTrader.Theory

set_option autoImplicit false

variable {S : Signature} {ε W ρ : Type} {serve : Service S ε W} {α β : Type}

/-! ## Runs, piece by piece -/

theorem runs_bind {p : Prog S ε α} {f : α → Prog S ε β} {m final : Moment S ε W} {result : Except ε β} :
    (p >>= f).Runs serve m result final ↔
      (∃ value mid, p.Runs serve m (.ok value) mid ∧ (f value).Runs serve mid result final) ∨
      ∃ error, p.Runs serve m (.error error) final ∧ result = .error error := by
  show (p.bind f).Runs serve m result final ↔ _
  induction p generalizing m with
  | pure value =>
      constructor
      · exact fun run => .inl ⟨value, _, .pure value _, run⟩
      · rintro (⟨_, _, ⟨⟩, run⟩ | ⟨_, ⟨⟩, _⟩)
        exact run
  | raise error =>
      constructor
      · rintro ⟨⟩
        exact .inr ⟨error, .raise error _, rfl⟩
      · rintro (⟨_, _, ⟨⟩, _⟩ | ⟨_, ⟨⟩, rfl⟩)
        exact .raise error _
  | request op next ih =>
      constructor
      · rintro (_ | _ | ⟨served, rest⟩)
        rcases (ih _).1 rest with ⟨value, mid, first, run⟩ | ⟨error, failed, same⟩
        · exact .inl ⟨value, mid, .request served first, run⟩
        · exact .inr ⟨error, .request served failed, same⟩
      · rintro (⟨value, mid, _ | _ | ⟨served, first⟩, run⟩ | ⟨error, _ | _ | ⟨served, failed⟩, same⟩)
        · exact .request served ((ih _).2 (.inl ⟨value, mid, first, run⟩))
        · exact .request served ((ih _).2 (.inr ⟨error, failed, same⟩))

theorem runs_call {op : S.Op} {m final : Moment S ε W} {result : Except ε (S.Reply op)} :
    (Prog.call op : Prog S ε (S.Reply op)).Runs serve m result final ↔
      ∃ after, serve op m.world result after ∧ final = m.push op result after := by
  constructor
  · rintro (_ | _ | @⟨_, _, _, _, reply, after, _, served, rest⟩)
    cases reply with
    | error error =>
        cases rest
        exact ⟨after, served, rfl⟩
    | ok value =>
        cases rest
        exact ⟨after, served, rfl⟩
  · rintro ⟨after, served, rfl⟩
    cases result with
    | error error => exact .request served (.raise _ _)
    | ok value => exact .request served (.pure _ _)

theorem runs_attempt {p : Prog S ε α} {m final : Moment S ε W} {result : Except ε (Except ε α)} :
    p.attempt.Runs serve m result final ↔ ∃ outcome, p.Runs serve m outcome final ∧ result = .ok outcome := by
  induction p generalizing m with
  | pure value =>
      constructor
      · rintro ⟨⟩
        exact ⟨_, .pure value _, rfl⟩
      · rintro ⟨_, ⟨⟩, rfl⟩
        exact .pure _ _
  | raise error =>
      constructor
      · rintro ⟨⟩
        exact ⟨_, .raise error _, rfl⟩
      · rintro ⟨_, ⟨⟩, rfl⟩
        exact .pure _ _
  | request op next ih =>
      constructor
      · rintro (_ | _ | ⟨served, rest⟩)
        obtain ⟨outcome, run, same⟩ := (ih _).1 rest
        exact ⟨outcome, .request served run, same⟩
      · rintro ⟨outcome, _ | _ | ⟨served, run⟩, same⟩
        exact .request served ((ih _).2 ⟨outcome, run, same⟩)

section Ends

variable {p : Prog S ε α} {f : α → Prog S ε β} {m : Moment S ε W} {result : Except ε β} {ended : Moment S ε W → Prop}

/-- A run to an end of some kind, one piece after the other. -/
theorem ends_bind {value : α} {mid : Moment S ε W} (first : p.Runs serve m (.ok value) mid)
    (rest : ∃ final, (f value).Runs serve mid result final ∧ ended final) :
    ∃ final, (p >>= f).Runs serve m result final ∧ ended final := by
  obtain ⟨final, run, held⟩ := rest
  exact ⟨final, runs_bind.2 (.inl ⟨value, mid, first, run⟩), held⟩

theorem ends_answered {op : S.Op} {f : S.Reply op → Prog S ε β} (value : S.Reply op) (after : W)
    (served : serve op m.world (.ok value) after)
    (rest : ∃ final, (f value).Runs serve (m.push op (.ok value) after) result final ∧ ended final) :
    ∃ final, (Prog.call op >>= f).Runs serve m result final ∧ ended final :=
  ends_bind (runs_call.2 ⟨after, served, rfl⟩) rest

end Ends

/-- A run adds to the events it began after. -/
theorem runs_suffix {p : Prog S ε α} {m final : Moment S ε W} {result : Except ε α}
    (run : p.Runs serve m result final) : m.events <:+ final.events := by
  induction run with
  | pure value m => exact List.suffix_refl _
  | raise error m => exact List.suffix_refl _
  | request served rest ih => exact (List.suffix_cons _ _).trans ih

/-- What an obligation says of a complete run from anywhere. -/
theorem run_ends {post : Except ε α → Moment S ε W → Prop} {p : Prog S ε α} {m final : Moment S ε W}
    {result : Except ε α} (run : p.Runs serve m result final)
    (obligation : wp (Contract.plain serve fun _ => True).logic post p m) : post result final :=
  wp_runs (C := Contract.plain serve fun _ => True) run (along_of_forall fun _ _ => trivial) obligation

/-! ## Runs against a function -/

@[simp] theorem play_raise {script : Script S ε W} (error : ε) (m : Moment S ε W) :
    (.raise error : Prog S ε α).play script m = (.error error, m) := by
  rw [Prog.play]

/-- What a sequence comes to. -/
theorem play_bind_fst {script : Script S ε W} (p : Prog S ε α) (f : α → Prog S ε β) (m : Moment S ε W) :
    ((p >>= f).play script m).1 =
      (p.play script m).1.bind fun value => ((f value).play script (p.play script m).2).1 := by
  rw [Prog.play_bind]
  rcases p.play script m with ⟨_ | _, _⟩ <;> rfl

/-! ## Properties that are sustained -/

section Sustains

variable {σ : Type} {L : Logic S ε σ} {inv : σ → Prop}

/-- Begun where the property holds, the program ends where it holds, however it ends. -/
def Sustains (L : Logic S ε σ) (inv : σ → Prop) (p : Prog S ε α) : Prop :=
  ∀ s, inv s → wp L (fun _ => inv) p s

theorem sustains_pure (value : α) : Sustains L inv (pure value) := fun _ held => held

theorem sustains_raise (error : ε) : Sustains L inv (.raise error : Prog S ε α) := fun _ held => held

/-- Where the first piece ends the rest goes on. -/
theorem Sustains.after {p : Prog S ε α} {f : α → Prog S ε β} {s : σ} (first : wp L (fun _ => inv) p s)
    (rest : ∀ value, Sustains L inv (f value)) : wp L (fun _ => inv) (p >>= f) s := by
  refine wp_bind.2 (wp_mono first ?_)
  rintro (error | value) s' held
  · exact held
  · exact rest value s' held

/-- What follows a piece, where it ends in another way than by sustaining the property. -/
theorem Sustains.andThen {p : Prog S ε α} {f : α → Prog S ε β} {post : Except ε β → σ → Prop} {s : σ}
    (first : Sustains L inv p) (held : inv s) (raised : ∀ error s', inv s' → post (.error error) s')
    (rest : ∀ value s', inv s' → wp L post (f value) s') : wp L post (p >>= f) s := by
  refine wp_bind.2 (wp_mono (first s held) ?_)
  rintro (error | value) s' held'
  · exact raised error s' held'
  · exact rest value s' held'

theorem Sustains.bind {p : Prog S ε α} {f : α → Prog S ε β} (first : Sustains L inv p)
    (rest : ∀ value, Sustains L inv (f value)) : Sustains L inv (p >>= f) :=
  fun s held => Sustains.after (first s held) rest

theorem Sustains.attempt {p : Prog S ε α} (inside : Sustains L inv p) : Sustains L inv p.attempt :=
  fun s held => wp_attempt.2 (inside s held)

theorem sustains_when {flag : Bool} {p : Prog S ε Unit} (inside : Sustains L inv p) :
    Sustains L inv (Prog.when flag p) :=
  fun s held => wp_when (fun _ => inside s held) fun _ => held

theorem Sustains.discard {p : Prog S ε α} (inside : Sustains L inv p) : Sustains L inv p.discard :=
  inside.bind fun _ => sustains_pure ()

theorem sustains_visit {f : α → Prog S ε Unit} (body : ∀ x, Sustains L inv (f x)) (xs : List α) :
    Sustains L inv (Prog.visit f xs) := by
  induction xs with
  | nil => exact sustains_pure ()
  | cons x xs ih => exact (body x).bind fun _ => ih

theorem sustains_each {f : α → Prog S ε β} (body : ∀ x, Sustains L inv (f x)) (xs : List α) :
    Sustains L inv (Prog.each f xs) :=
  fun _ held => wp_each inv xs (fun x _ s held => body x s held) held

theorem sustains_turns {turn : β → Prog S ε (Option β)} (body : ∀ b, Sustains L inv (turn b)) (n : Nat) (b : β) :
    Sustains L inv (Prog.turns turn n b) := by
  induction n generalizing b with
  | zero => exact sustains_pure _
  | succ n ih =>
      refine (body b).bind fun next => ?_
      cases next with
      | none => exact sustains_pure _
      | some next => exact ih next

/-- A program that issues only requests that sustain the property. -/
theorem sustains_issues {allowed : S.Op → Prop} {p : Prog S ε α}
    (each : ∀ op, allowed op → Sustains L inv (Prog.call op)) (issues : Issues allowed p) :
    Sustains L inv p := by
  intro s held
  refine wp_refine (fun _ s => inv s) ?_ (fun _ _ _ _ held => held) held issues
  rintro op _ s k k' held ⟨member, replied⟩ go
  exact L.mono (wp_call.1 (each op member s held)) fun reply s' kept => go reply () s' (replied reply) kept

end Sustains

/-! ## Frames -/

theorem issues_each {allowed : S.Op → Prop} {f : α → Prog S ε β} (body : ∀ x, Issues allowed (f x))
    (xs : List α) : Issues allowed (Prog.each f xs) :=
  wp_each (fun _ => True) xs (fun x _ _ _ => body x) trivial

section Frames

variable (serve) in
/-- However it ends, the program leaves the part as it found it. -/
def Leaves (part : Moment S ε W → ρ) (p : Prog S ε α) : Prop :=
  ∀ m, wp (Contract.plain serve fun _ => True).logic (fun _ m' => part m' = part m) p m

variable {part : Moment S ε W → ρ}

theorem leaves_pure (value : α) : Leaves serve part (pure value) := fun _ => rfl

theorem leaves_raise (error : ε) : Leaves serve part (.raise error : Prog S ε α) := fun _ => rfl

theorem leaves_call {op : S.Op} (still : ∀ m reply after, serve op m.world reply after →
    part (m.push op reply after) = part m) : Leaves serve part (Prog.call op) :=
  fun m => wp_served fun reply after served _ => still m reply after served

/-- Where the first piece ends the rest goes on, and leaves what it finds there. -/
theorem Leaves.after {p : Prog S ε α} {f : α → Prog S ε β} {m : Moment S ε W} {found : ρ}
    (first : wp (Contract.plain serve fun _ => True).logic (fun _ m' => part m' = found) p m)
    (rest : ∀ value, Leaves serve part (f value)) :
    wp (Contract.plain serve fun _ => True).logic (fun _ m' => part m' = found) (p >>= f) m := by
  refine wp_bind.2 (wp_mono first ?_)
  rintro (error | value) m' same
  · exact same
  · exact wp_mono (rest value m') fun _ _ still => still.trans same

theorem Leaves.bind {p : Prog S ε α} {f : α → Prog S ε β} (first : Leaves serve part p)
    (rest : ∀ value, Leaves serve part (f value)) : Leaves serve part (p >>= f) :=
  fun m => Leaves.after (first m) rest

theorem Leaves.attempt {p : Prog S ε α} (inside : Leaves serve part p) : Leaves serve part p.attempt :=
  fun m => wp_attempt.2 (inside m)

theorem leaves_when {flag : Bool} {p : Prog S ε Unit} (inside : Leaves serve part p) :
    Leaves serve part (Prog.when flag p) :=
  fun m => wp_when (fun _ => inside m) fun _ => rfl

theorem Leaves.discard {p : Prog S ε α} (inside : Leaves serve part p) : Leaves serve part p.discard :=
  inside.bind fun _ => leaves_pure ()

/-- A program that issues only requests that leave the part as it is. -/
theorem leaves_issues {allowed : S.Op → Prop} {p : Prog S ε α}
    (still : ∀ op, allowed op → ∀ m reply after, serve op m.world reply after →
      part (m.push op reply after) = part m)
    (issues : Issues allowed p) : Leaves serve part p := by
  intro m
  refine wp_kept (fun m' => part m' = part m) (fun _ _ _ _ => trivial) ?_ issues rfl
  intro op m' reply after member same served _
  exact ⟨(still op member m' reply after served).trans same, trivial⟩

theorem Leaves.run {p : Prog S ε α} (leaves : Leaves serve part p) {m final : Moment S ε W}
    {result : Except ε α} (run : p.Runs serve m result final) : part final = part m :=
  run_ends run (leaves m)

end Frames

end AlgoTrader.Theory
