/-
# Theory.Substitution -- what a substitution leaves of a text

A pattern says, of what stands before a place and of the text from there on, how long a match is: a group that
stays, and a value that is replaced.  A substitution goes over the text once and goes on behind each match.

* `substitute_substituted` -- the substitution, as a relation with one case for each way a place is passed;
* `Substituted.next`, `Substituted.infix_kept` -- what a result shows apart from the replacements, the text shows too;
* `Substituted.absent` -- what was nowhere in a text and what the replacement cannot be part of is nowhere in the
  result.
-/
import Mathlib.Data.List.Basic

namespace AlgoTrader.Theory

set_option autoImplicit false

/-- How long a match is: its group, and the whole of it. -/
abbrev Pattern (α : Type) := Option α → List α → Option (Nat × Nat)

namespace Pattern

variable {α : Type}

/-- The value of a match is not empty, and the text has it. -/
def Proper (pattern : Pattern α) : Prop :=
  ∀ before text group whole, pattern before text = some (group, whole) → group < whole ∧ whole ≤ text.length

/-- The rest of a substitution, once some characters of the last match are skipped. -/
def substituteFrom (pattern : Pattern α) (replacement : List α) : Option α → Nat → List α → List α
  | _, _, [] => []
  | _, skip + 1, c :: text => substituteFrom pattern replacement (some c) skip text
  | before, 0, c :: text =>
      match pattern before (c :: text) with
      | some (group, whole) =>
          (c :: text).take group ++ replacement ++ substituteFrom pattern replacement (some c) (whole - 1) text
      | none => c :: substituteFrom pattern replacement (some c) 0 text

/-- `pattern.sub(replacement, text)`. -/
def substitute (pattern : Pattern α) (replacement text : List α) : List α :=
  pattern.substituteFrom replacement none 0 text

/-- A substitution of what stands behind some character. -/
inductive Substituted (pattern : Pattern α) (replacement : List α) : Option α → List α → List α → Prop
  | nil (before : Option α) : Substituted pattern replacement before [] []
  | keep {before : Option α} {c : α} {text out : List α} (free : pattern before (c :: text) = none)
      (rest : Substituted pattern replacement (some c) text out) :
      Substituted pattern replacement before (c :: text) (c :: out)
  | cut {before : Option α} {group value text out : List α} {first : α}
      (found : pattern before (group ++ first :: value ++ text) =
        some (group.length, group.length + (value.length + 1)))
      (rest : Substituted pattern replacement ((first :: value).getLast?) text out) :
      Substituted pattern replacement before (group ++ first :: value ++ text) (group ++ replacement ++ out)

section

variable {pattern : Pattern α} {replacement : List α}

theorem substituteFrom_skip (before : Option α) (skip : Nat) (text : List α) :
    pattern.substituteFrom replacement before skip text =
      pattern.substituteFrom replacement ((text.take skip).getLast?.or before) 0 (text.drop skip) := by
  induction text generalizing before skip with
  | nil => cases skip <;> rfl
  | cons c text ih =>
    cases skip with
    | zero => rfl
    | succ skip =>
      rw [substituteFrom, ih, List.take_succ_cons, List.drop_succ_cons, List.getLast?_cons]
      cases (text.take skip).getLast? <;> rfl

theorem substitute_substituted (proper : pattern.Proper) : ∀ (before : Option α) (text : List α),
    pattern.Substituted replacement before text (pattern.substituteFrom replacement before 0 text)
  | before, [] => .nil before
  | before, c :: text => by
    cases found : pattern before (c :: text) with
    | none =>
      rw [substituteFrom, found]
      exact .keep found (substitute_substituted proper _ text)
    | some lengths =>
      obtain ⟨group, whole⟩ := lengths
      obtain ⟨some, inside⟩ := proper before (c :: text) group whole found
      obtain ⟨skip, rfl⟩ : ∃ skip, whole = skip + 1 := ⟨whole - 1, by omega⟩
      obtain ⟨first, value, is⟩ : ∃ first value, ((c :: text).take (skip + 1)).drop group = first :: value := by
        apply List.exists_cons_of_length_pos
        rw [List.length_drop, List.length_take]
        omega
      -- The text is the group, the value and the rest.
      have matched : (c :: text).take group ++ first :: value = (c :: text).take (skip + 1) := by
        have split := List.take_append_drop group ((c :: text).take (skip + 1))
        rwa [List.take_take, Nat.min_eq_left (Nat.le_of_lt some), is] at split
      have parts : (c :: text).take group ++ first :: value ++ text.drop skip = c :: text := by
        rw [matched]
        exact List.take_append_drop (skip + 1) (c :: text)
      have length : ((c :: text).take group).length = group := by
        rw [List.length_take]
        omega
      have last : (first :: value).getLast? = (text.take skip).getLast?.or (Option.some c) := by
        have suffix := congrArg List.getLast? matched
        rw [List.getLast?_append_of_ne_nil _ (List.cons_ne_nil first value), List.take_succ_cons] at suffix
        rw [suffix, List.getLast?_cons]
        cases (text.take skip).getLast? <;> rfl
      have lengths : group + (value.length + 1) = skip + 1 := by
        have same := congrArg List.length matched
        rw [List.length_append, length, List.length_take, List.length_cons, Nat.min_eq_left inside] at same
        exact same
      rw [substituteFrom, found]
      dsimp only
      rw [Nat.add_sub_cancel, substituteFrom_skip, ← last]
      have rest := substitute_substituted proper ((first :: value).getLast?) (text.drop skip)
      have here : pattern before ((c :: text).take group ++ first :: value ++ text.drop skip) =
          Option.some (((c :: text).take group).length, ((c :: text).take group).length + (value.length + 1)) := by
        rw [parts, length, lengths]
        exact found
      have cut := Substituted.cut here rest
      rwa [parts] at cut
termination_by _ text => text.length
decreasing_by
  · exact Nat.lt_succ_self _
  · rw [List.length_drop, List.length_cons]
    omega

/-- The pattern of what comes to its end somewhere further on. -/
def upTo (after : Option α → List α → Option (List α)) : Pattern α := fun before text =>
  (after before text).map fun rest => (0, text.length - rest.length)

/-- What is consumed is no empty text, and begins so. -/
def Consumes (starts : α → Prop) (after : Option α → List α → Option (List α)) : Prop :=
  ∀ before text rest, after before text = some rest → ∃ first value, text = first :: value ++ rest ∧ starts first

section UpTo

variable {after : Option α → List α → Option (List α)} {starts : α → Prop} (consumes : Consumes starts after)
include consumes

theorem upTo_proper : (upTo after).Proper := by
  intro before text group whole found
  obtain ⟨rest, is, lengths⟩ := Option.map_eq_some_iff.1 found
  obtain ⟨first, value, rfl, _⟩ := consumes before text rest is
  obtain ⟨rfl, rfl⟩ := Prod.mk.inj lengths
  rw [List.length_append, List.length_cons]
  omega

omit consumes in
theorem upTo_plain : ∀ before text group whole, upTo after before text = some (group, whole) → group = 0 := by
  intro before text group whole found
  obtain ⟨rest, _, lengths⟩ := Option.map_eq_some_iff.1 found
  exact (Prod.mk.inj lengths).1.symm

/-- The rest behind a match. -/
theorem upTo_rest {before : Option α} {value rest : List α}
    (found : upTo after before (value ++ rest) = some (0, value.length)) :
    after before (value ++ rest) = some rest := by
  obtain ⟨rest', is, lengths⟩ := Option.map_eq_some_iff.1 found
  obtain ⟨first, value', split, _⟩ := consumes before _ rest' is
  have length : (value ++ rest).length - rest'.length = value.length := (Prod.mk.inj lengths).2
  have whole := congrArg List.length split
  rw [List.length_append, List.length_append] at whole
  rw [List.length_append] at length
  have same : value.length = (first :: value').length := by omega
  rw [is, (List.append_inj split same).2]

theorem upTo_begins {before : Option α} {group value rest : List α} {first : α}
    (found : upTo after before (group ++ first :: value ++ rest) =
      some (group.length, group.length + (value.length + 1))) : starts first := by
  obtain rfl : group = [] := List.length_eq_zero_iff.1 (upTo_plain _ _ _ _ found)
  have whole : upTo after before (first :: value ++ rest) = some (0, (first :: value).length) := by
    rw [List.nil_append] at found
    rw [found]
    simp
  obtain ⟨first', _, is, begins⟩ := consumes _ _ _ (upTo_rest consumes whole)
  rwa [(List.cons.inj is).1]

end UpTo

/-! ## What a result shows -/

variable (pattern replacement) in
/-- The pattern matches nowhere inside the replacement, whatever comes after it. -/
def Inert : Prop :=
  ∀ before part rest, part ≠ [] → part <:+ replacement → pattern before (part ++ rest) = none

variable (pattern) in
/-- No match has a group. -/
def Plain : Prop := ∀ before text group whole, pattern before text = some (group, whole) → group = 0

theorem Substituted.replacement_kept (inert : pattern.Inert replacement) {before : Option α} {part text out : List α}
    (inside : part <:+ replacement) (result : pattern.Substituted replacement before (part ++ text) out) :
    ∃ out', out = part ++ out' := by
  induction part generalizing before out with
  | nil => exact ⟨out, rfl⟩
  | cons c part ih =>
    have none_ := inert before (c :: part) text (List.cons_ne_nil _ _) inside
    generalize is : c :: part ++ text = whole at result none_
    cases result with
    | nil => cases is
    | keep _ rest =>
      cases is
      obtain ⟨out', rfl⟩ := ih ((List.suffix_cons ..).trans inside) rest
      exact ⟨out', rfl⟩
    | cut found => cases none_.symm.trans found

variable {mark : α} {tail : List α}

/-- Behind characters that no replacement begins with, the result goes on like the text or with a replacement. -/
theorem Substituted.next {starts : α → Prop} (begins : ∀ before group first value rest,
      pattern before (group ++ first :: value ++ rest) = some (group.length, group.length + (value.length + 1)) →
      starts first)
    {before : Option α} {shown text out : List α} {x : α} (apart : mark ∉ shown)
    (result : pattern.Substituted (mark :: tail) before text (shown ++ x :: out)) :
    ∃ y rest, text = shown ++ y :: rest ∧
      ((y = x ∧ (pattern.Plain → ∃ before', pattern.Substituted (mark :: tail) before' (y :: rest) (x :: out))) ∨
        starts y ∧ mark :: tail <+: x :: out) := by
  generalize is : shown ++ x :: out = result' at result
  induction result generalizing shown with
  | nil => simp at is
  | @keep before c text' out' free rest ih =>
    cases shown with
    | nil =>
      cases is
      exact ⟨x, text', rfl, .inl ⟨rfl, fun _ => ⟨_, .keep free rest⟩⟩⟩
    | cons d shown =>
      obtain ⟨rfl, is'⟩ := List.cons.inj is
      obtain ⟨y, rest', rfl, next⟩ := ih (fun there => apart (List.mem_cons_of_mem _ there)) is'
      exact ⟨y, rest', rfl, next⟩
  | @cut before group value text' out' first found rest ih =>
    rw [List.append_assoc, List.append_eq_append_iff] at is
    rcases is with ⟨more, rfl, is⟩ | ⟨more, rfl, is⟩
    · -- The characters end inside the group.
      cases more with
      | nil =>
        refine ⟨first, value ++ text', by simp, .inr ⟨begins _ _ _ _ _ found, ?_⟩⟩
        rw [is]
        exact List.prefix_append ..
      | cons y more =>
        obtain ⟨rfl, is⟩ := List.cons.inj is
        refine ⟨x, more ++ first :: value ++ text', by simp, .inl ⟨rfl, fun plain => ?_⟩⟩
        have none_ := plain _ _ _ _ found
        simp at none_
    · cases more with
      | nil =>
        refine ⟨first, value ++ text', by simp, .inr ⟨begins _ _ _ _ _ found, ?_⟩⟩
        rw [List.nil_append] at is
        exact ⟨out', is⟩
      | cons d more =>
        obtain ⟨rfl, _⟩ := List.cons.inj is
        exact absurd (List.mem_append_right _ (List.mem_cons_self ..)) apart

theorem prefix_before {part front behind : List α} (apart : mark ∉ part) (before : part <+: front ++ mark :: behind) :
    part <+: front := by
  induction front generalizing part with
  | nil =>
    cases part with
    | nil => exact List.prefix_refl _
    | cons c part =>
      obtain ⟨rfl, _⟩ := List.cons_prefix_cons.1 before
      exact absurd (List.mem_cons_self ..) apart
  | cons d front ih =>
    cases part with
    | nil => exact List.nil_prefix
    | cons c part =>
      obtain ⟨rfl, rest⟩ := List.cons_prefix_cons.1 before
      exact List.cons_prefix_cons.2 ⟨rfl, ih (fun inside => apart (List.mem_cons_of_mem _ inside)) rest⟩

theorem infix_split {part front behind : List α} (apart : mark ∉ part) (inside : part <:+: front ++ mark :: behind) :
    part <:+: front ∨ part <:+: behind := by
  induction front with
  | nil =>
    rcases List.infix_cons_iff.1 inside with before | inside
    · have none_ : part <+: [] := prefix_before apart before
      exact .inl none_.isInfix
    · exact .inr inside
  | cons d front ih =>
    rcases List.infix_cons_iff.1 inside with before | inside
    · exact .inl (prefix_before apart before).isInfix
    · exact (ih inside).imp_left fun within => List.infix_cons within

theorem Substituted.prefix_kept {before : Option α} {part text out : List α} (apart : mark ∉ part)
    (result : pattern.Substituted (mark :: tail) before text out) (start : part <+: out) : part <+: text := by
  induction result generalizing part with
  | nil => exact start
  | keep _ _ ih =>
    cases part with
    | nil => exact List.nil_prefix
    | cons c part =>
      obtain ⟨rfl, rest⟩ := List.cons_prefix_cons.1 start
      exact List.cons_prefix_cons.2 ⟨rfl, ih (fun inside => apart (List.mem_cons_of_mem _ inside)) rest⟩
  | cut _ _ =>
    rw [List.append_assoc, List.cons_append] at start
    rw [List.append_assoc]
    exact (prefix_before apart start).trans (List.prefix_append ..)

/-- What has neither end of the replacement in it, and is not inside it, was in the text. -/
theorem Substituted.infix_kept {before : Option α} {close : α} {part inner text out : List α} (apart : mark ∉ part)
    (apart' : close ∉ part) (outside : ¬ part <:+: inner)
    (result : pattern.Substituted (mark :: (inner ++ [close])) before text out) (inside : part <:+: out) :
    part <:+: text := by
  induction result with
  | nil => exact inside
  | @keep _ c text out free rest ih =>
    rcases List.infix_cons_iff.1 inside with start | inside
    · exact ((Substituted.keep free rest).prefix_kept apart start).isInfix
    · exact List.infix_cons (ih inside)
  | @cut _ group value text out first _ _ ih =>
    have shape : group ++ mark :: (inner ++ [close]) ++ out = group ++ mark :: (inner ++ close :: out) := by simp
    rw [shape] at inside
    rcases infix_split apart inside with within | behind
    · rw [List.append_assoc]
      exact within.trans (List.prefix_append ..).isInfix
    · rcases infix_split apart' behind with within | behind
      · exact absurd within outside
      · exact (ih behind).trans (List.suffix_append ..).isInfix

theorem Substituted.mem {before : Option α} {c : α} {text out : List α}
    (result : pattern.Substituted replacement before text out) (member : c ∈ out) : c ∈ text ∨ c ∈ replacement := by
  induction result with
  | nil => exact .inl member
  | keep _ _ ih =>
    rcases List.mem_cons.1 member with rfl | member
    · exact .inl (List.mem_cons_self ..)
    · exact (ih member).imp_left (List.mem_cons_of_mem _)
  | cut _ _ ih =>
    rw [List.append_assoc, List.mem_append, List.mem_append] at member
    rcases member with inGroup | inside | behind
    · exact .inl (List.mem_append_left _ (List.mem_append_left _ inGroup))
    · exact .inr inside
    · exact (ih behind).imp_left (List.mem_append_right _)

/-- Nowhere in a text that stands behind some character is this found. -/
def Absent (found : Option α → List α → Prop) : Option α → List α → Prop
  | _, [] => True
  | before, c :: text => ¬ found before (c :: text) ∧ Absent found (some c) text

theorem absent_iff {found : Option α → List α → Prop} {before : Option α} {text : List α} :
    Absent found before text ↔
      ∀ earlier c later, text = earlier ++ c :: later → ¬ found (earlier.getLast?.or before) (c :: later) := by
  induction text generalizing before with
  | nil => exact iff_of_true trivial fun earlier c later never => by simp at never
  | cons d text ih =>
    rw [Absent, ih]
    constructor
    · rintro ⟨here, further⟩ earlier c later is
      cases earlier with
      | nil =>
        cases is
        exact here
      | cons e earlier =>
        obtain ⟨rfl, rfl⟩ := List.cons.inj is
        rw [List.getLast?_cons]
        have there := further earlier c later rfl
        cases last : earlier.getLast? <;> rw [last] at there <;> exact there
    · intro nowhere
      refine ⟨nowhere [] d text rfl, fun earlier c later is => ?_⟩
      have there := nowhere (d :: earlier) c later (by rw [is]; rfl)
      rw [List.getLast?_cons] at there
      cases last : earlier.getLast? <;> rw [last] at there <;> exact there

theorem absent_mono {found found' : Option α → List α → Prop}
    (weaker : ∀ before text, found before text → found' before text) {before : Option α} {text : List α}
    (absent : Absent found' before text) : Absent found before text := by
  induction text generalizing before with
  | nil => trivial
  | cons c text ih => exact ⟨fun there => absent.1 (weaker _ _ there), ih absent.2⟩

theorem absent_never {found : Option α → List α → Prop} (never : ∀ before text, ¬ found before text)
    {before : Option α} {text : List α} : Absent found before text := by
  induction text generalizing before with
  | nil => trivial
  | cons c text ih => exact ⟨never _ _, ih⟩

theorem absent_append {found : Option α → List α → Prop} {before : Option α} {part text : List α}
    (inside : ∀ before piece, piece ≠ [] → piece <:+ part → ¬ found before (piece ++ text))
    (behind : Absent found (part.getLast?.or before) text) : Absent found before (part ++ text) := by
  induction part generalizing before with
  | nil => exact behind
  | cons c part ih =>
    refine ⟨inside before (c :: part) (List.cons_ne_nil _ _) (List.suffix_refl _), ih ?_ ?_⟩
    · exact fun before piece some suffix => inside before piece some (suffix.trans (List.suffix_cons ..))
    · rw [List.getLast?_cons] at behind
      cases last : part.getLast? <;> rw [last] at behind <;> exact behind

theorem absent_behind {found : Option α → List α → Prop} {before : Option α} {part text : List α}
    (absent : Absent found before (part ++ text)) : Absent found (part.getLast?.or before) text := by
  induction part generalizing before with
  | nil => exact absent
  | cons c part ih =>
    have behind := ih absent.2
    rw [List.getLast?_cons]
    cases last : part.getLast? <;> rw [last] at behind <;> exact behind

/-- **Nothing new is found.**  What was found nowhere in a text -- or only where the pattern matches -- is found
nowhere in the result, if no part of the replacement can begin it and what stands behind a kept character in the
result would have let it be found in the text. -/
theorem Substituted.absent {found : Option α → List α → Prop} (stop : List α → Prop) (plain : pattern.Plain)
    (ends : ∀ before value rest, pattern before (value ++ rest) = some (0, value.length) → stop rest)
    (made : ∀ before part rest, part ≠ [] → part <:+ replacement → ¬ found before (part ++ rest))
    (keeps : ∀ before before' c text out, pattern.Substituted replacement before (c :: text) (c :: out) →
      before' = before ∨ stop (c :: text) → found before' (c :: out) → found before (c :: text))
    {before before' : Option α} {text out : List α} (result : pattern.Substituted replacement before text out)
    (was : Absent (fun before text => found before text ∧ pattern before text = none) before text)
    (start : before' = before ∨ stop text) : Absent found before' out := by
  induction result generalizing before' with
  | nil => trivial
  | keep free rest ih =>
    refine ⟨fun there => was.1 ⟨keeps _ _ _ _ _ (.keep free rest) start there, free⟩, ih was.2 (.inl rfl)⟩
  | @cut before group value text' out' first cut rest ih =>
    obtain rfl : group = [] := List.length_eq_zero_iff.1 (plain _ _ _ _ cut)
    rw [List.nil_append]
    refine absent_append (fun before piece some suffix => made before piece out' some suffix) (ih ?_ (.inr ?_))
    · have behind := absent_behind was
      rw [List.nil_append] at behind
      rwa [Option.or_of_isSome (by simp)] at behind
    · exact ends before (first :: value) text' (by simpa using cut)

end

end Pattern

end AlgoTrader.Theory
