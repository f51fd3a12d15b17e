/-
# Core.RedactedText -- what a text made safe may still show

A later replacement could in principle bring forth what an earlier pattern was to remove: it joins what stood apart,
and is itself a text.

* `url_inert`, `email_inert`, `run_inert` -- no pattern matches inside a replacement;
* `url_kept`, `email_kept`, `run_kept`, `announces_kept` -- what a result shows was in the text before;
* `Pass`, `Unwanted` -- what that takes of a pattern, and of what it is to remove;
* `redact_leaves_nothing` -- each pattern removes what it is for, and those after it bring none of it back;
* `redact_some` -- a text that is not blank does not come to nothing.
-/
import AlgoTrader.Core.Announcements

namespace AlgoTrader.Core.Redaction

open AlgoTrader.Core.Text AlgoTrader.Core.Logging AlgoTrader.Theory

set_option autoImplicit false

variable (words : Words)

/-! ## What a replacement leaves of them -/

theorem letters_of {letters : List Char} (inside : letters <:+ "REDACTED".toList) {c : Char} (member : c ∈ letters) :
    c.isAlphanum = true ∧ isScheme c = true ∧ isRun c = true := by
  have all : ∀ c ∈ "REDACTED".toList, c.isAlphanum = true ∧ isScheme c = true ∧ isRun c = true := each (by decide)
  exact all c (inside.subset member)

theorem url_inert : (Pattern.upTo (afterUrl words)).Inert redacted.toList := by
  intro before part rest some inside
  rw [Pattern.upTo, Option.map_eq_none_iff]
  cases found : afterUrl words before (part ++ rest) with
  | none => rfl
  | some rest' =>
    rcases redacted_part some inside with rfl | ⟨letters, rfl, part⟩
    · have letter := ((afterUrl_iff words).1 found).1
      exact absurd letter (by decide)
    · cases letters with
      | nil =>
        have letter := ((afterUrl_iff words).1 found).1
        exact absurd letter (by decide)
      | cons c letters =>
        obtain ⟨_, _, scheme, x, tail, is, all, _⟩ := (afterUrl_iff words).1 found
        have shape : letters ++ ']' :: rest = scheme ++ ':' :: '/' :: '/' :: x :: tail := by simpa using is
        have drops := congrArg (List.dropWhile isScheme) shape
        rw [dropWhile_append all (by decide), dropWhile_append
          (fun d member => (letters_of part (List.mem_cons_of_mem _ member)).2.1) (by decide)] at drops
        cases drops

theorem email_inert : (Pattern.upTo fun _ => afterEmail words).Inert redacted.toList := by
  intro before part rest some inside
  rw [Pattern.upTo, Option.map_eq_none_iff, ← Option.not_isSome_iff_eq_none, afterEmail_iff]
  rintro ⟨user, label, x, tail, is, some', users, _⟩
  obtain ⟨c, user, rfl⟩ := List.exists_cons_of_ne_nil some'
  have first := user_inner words (users c (List.mem_cons_self ..))
  rcases redacted_part some inside with rfl | ⟨letters, rfl, part⟩
  · rw [redacted_toList] at is
    exact first.1.bracket (List.cons.inj is).1.symm
  · have stop : isUser words ']' = false :=
      Bool.eq_false_iff.2 fun user => (user_inner words user).1.closing rfl
    have at_ : isUser words '@' = false := Bool.eq_false_iff.2 fun user => (user_inner words user).2 rfl
    have shape : letters ++ ']' :: rest = c :: user ++ '@' :: (label ++ '.' :: x :: tail) := by simpa using is
    have drops := congrArg (List.dropWhile (isUser words)) shape
    rw [dropWhile_append users at_, dropWhile_append (fun d member => ?_) stop] at drops
    · cases drops
    · rw [isUser, word_of_alphanum words (letters_of part member).1]
      rfl

theorem run_inert : (Pattern.upTo fun _ => afterRun).Inert redacted.toList := by
  intro before part rest some inside
  rw [Pattern.upTo, Option.map_eq_none_iff, ← Option.not_isSome_iff_eq_none, afterRun_iff]
  rintro ⟨run, tail, is, all, long, _⟩
  have short : ∀ (front : List Char) (c : Char) (behind : List Char), run ++ tail = front ++ c :: behind →
      isRun c = false → run.length ≤ front.length := by
    intro front c behind same stops
    rcases List.append_eq_append_iff.1 same with ⟨more, rfl, _⟩ | ⟨more, rfl, split⟩
    · simp
    · cases more with
      | nil => simp
      | cons d more =>
        obtain ⟨rfl, _⟩ := List.cons.inj split
        have inside : isRun c = true := all c (List.mem_append_right _ (List.mem_cons_self ..))
        exact absurd (stops.symm.trans inside) Bool.false_ne_true
  rcases redacted_part some inside with rfl | ⟨letters, rfl, part⟩
  · have none_ := short [] '[' ("REDACTED]".toList ++ rest) (by rw [← is, redacted_toList]; rfl) (by decide)
    rw [List.length_nil] at none_
    omega
  · have few := short letters ']' rest (by rw [← is]; simp) (by decide)
    have eight : letters.length ≤ 8 := part.length_le
    omega

/-- Behind a kept character, the text has what the result shows. -/
theorem shown_again {after : Option Char → List Char → Option (List Char)}
    (consumes : Pattern.Consumes (isOpaque · = true) after) {before : Option Char} {text shown out : List Char}
    {x : Char} (apart : '[' ∉ shown)
    (result : (Pattern.upTo after).Substituted redacted.toList before text (shown ++ x :: out)) :
    ∃ y rest, text = shown ++ y :: rest ∧
      ((y = x ∧ ∃ before', (Pattern.upTo after).Substituted redacted.toList before' (y :: rest) (x :: out)) ∨
        isOpaque y = true ∧ redacted.toList <+: x :: out) := by
  rw [redacted_toList] at result ⊢
  obtain ⟨y, rest, is, next⟩ := result.next (fun _ _ _ _ _ found => Pattern.upTo_begins consumes found) apart
  exact ⟨y, rest, is, next.imp_left (And.imp_right fun same => same Pattern.upTo_plain)⟩

theorem bracket_of {p : Char → Bool} {shown : List Char} (all : ∀ d ∈ shown, p d = true) (never : p '[' = false) :
    '[' ∉ shown := fun member => Bool.false_ne_true (never.symm.trans (all _ member))

section Kept

variable {after : Option Char → List Char → Option (List Char)}
  (consumes : Pattern.Consumes (isOpaque · = true) after) {before before' : Option Char} {c : Char}
  {text out : List Char}
  (result : (Pattern.upTo after).Substituted redacted.toList before (c :: text) (c :: out))
include consumes result

/-- An address that the result shows was in the text, where a letter there was not cut off from a word. -/
theorem url_kept (edge : before' = before ∨ c.isAlpha = false) (found : UrlAt words before' (c :: out)) :
    UrlAt words before (c :: text) := by
  obtain ⟨some, first⟩ := found
  have alpha : c.isAlpha = true := by simpa using first
  obtain ⟨rest, is⟩ := Option.isSome_iff_exists.1 some
  obtain ⟨letter, bound, scheme, x, tail, rfl, all, solid, _⟩ := (afterUrl_iff words).1 is
  obtain rfl : before' = before := edge.resolve_right (by simp [alpha])
  have apart : '[' ∉ c :: scheme ++ [':', '/', '/'] := by
    simp only [List.cons_append, List.mem_cons, List.mem_append, not_or]
    exact ⟨(letter_inner letter).bracket.symm, bracket_of all (by decide), by decide, by decide, by decide, by simp⟩
  have shape : c :: (scheme ++ ':' :: '/' :: '/' :: x :: tail) = c :: scheme ++ [':', '/', '/'] ++ x :: tail := by simp
  rw [shape] at result
  obtain ⟨y, rest, same, next⟩ := shown_again consumes apart result
  have text_ : text = scheme ++ ':' :: '/' :: '/' :: y :: rest := by simpa using same
  have solid' : isSpace y = false := by
    rcases next with ⟨rfl, _⟩ | ⟨opaque_, _⟩
    · exact solid
    · simp only [isOpaque, Bool.and_eq_true, Bool.not_eq_true'] at opaque_
      exact opaque_.1.1
  refine ⟨Option.isSome_iff_exists.2 ⟨_, (afterUrl_iff words).2 ⟨letter, bound, scheme, y, rest, text_, all, solid',
    rfl⟩⟩, by simpa using alpha⟩

theorem email_kept (found : EmailAt words before' (c :: out)) : EmailAt words before (c :: text) := by
  obtain ⟨user, label, x, tail, is, some, users, some', labels, last⟩ := (afterEmail_iff words).1 found
  have apart : '[' ∉ user ++ '@' :: label ++ ['.'] := by
    have none_ : isUser words '[' = false := Bool.eq_false_iff.2 fun user => (user_inner words user).1.bracket rfl
    simp only [List.mem_cons, List.mem_append, not_or]
    refine ⟨⟨bracket_of users none_, by decide, ?_⟩, by decide, by simp⟩
    exact bracket_of (fun d member => label_user words (labels d member)) none_
  have shape : c :: out = user ++ '@' :: label ++ ['.'] ++ x :: tail := by rw [is]; simp
  rw [shape] at result
  obtain ⟨y, rest, same, next⟩ := shown_again consumes apart result
  rcases next with ⟨rfl, _⟩ | ⟨_, bracket⟩
  · refine (afterEmail_iff words).2 ⟨user, label, y, rest, ?_, some, users, some', labels, last⟩
    rw [same]
    simp
  · rw [redacted_toList] at bracket
    obtain ⟨more, is⟩ := bracket
    have bad := user_inner words (label_user words last)
    exact absurd (List.cons.inj is).1.symm bad.1.bracket

theorem run_kept (found : RunAt before' (c :: out)) : RunAt before (c :: text) := by
  obtain ⟨run, tail, is, all, long, digit, alpha⟩ := afterRun_iff.1 found
  have some : run ≠ [] := by
    rintro rfl
    simp at long
  have split : run.dropLast ++ [run.getLast some] = run := List.dropLast_append_getLast some
  have apart : '[' ∉ run.dropLast := fun member =>
    bracket_of all (by decide) ((List.dropLast_sublist run).subset member)
  have shape : c :: out = run.dropLast ++ run.getLast some :: tail := by
    rw [is]
    nth_rewrite 1 [← split]
    simp
  rw [shape] at result
  obtain ⟨y, rest, same, next⟩ := shown_again consumes apart result
  rcases next with ⟨rfl, _⟩ | ⟨_, bracket⟩
  · refine afterRun_iff.2 ⟨run, rest, ?_, all, long, digit, alpha⟩
    rw [same]
    nth_rewrite 3 [← split]
    simp
  · rw [redacted_toList] at bracket
    obtain ⟨more, is⟩ := bracket
    have bad := run_inner (all _ (List.getLast_mem some))
    exact absurd (List.cons.inj is).1.symm bad.bracket

/-- What a result announces was announced, once a replacement stays one. -/
theorem announces_kept (inert : (Pattern.upTo after).Inert redacted.toList) (found : Announces (c :: out)) :
    Announces (c :: text) := by
  obtain ⟨x, rest', announces, opaque_, other⟩ := found
  obtain ⟨word, sep, is, member, seps, solid, again⟩ := announced_again announces
  rw [is] at result
  obtain ⟨y, rest, same, next⟩ := shown_again consumes (announced_bracket member seps) result
  rcases next with ⟨rfl, behind, kept⟩ | ⟨_, bracket⟩
  · refine ⟨y, rest, by rw [same, again y rest solid], opaque_, fun there => other ?_⟩
    obtain ⟨more, is⟩ := there
    rw [← is] at kept
    obtain ⟨out', is'⟩ := kept.replacement_kept inert (List.suffix_refl _)
    exact ⟨out', is'.symm⟩
  · exact absurd bracket other

end Kept

/-! ## One pattern after another -/

/-- A pattern of the last three: it leaves a replacement alone, and no letter stands behind its matches. -/
structure Pass (after : Option Char → List Char → Option (List Char)) : Prop where
  consumes : Pattern.Consumes (isOpaque · = true) after
  inert : (Pattern.upTo after).Inert redacted.toList
  ends : ∀ before text rest, after before text = some rest → ∀ c, rest.head? = some c → c.isAlpha = false

theorem url_pass : Pass (afterUrl words) where
  consumes := url_consumes words
  inert := url_inert words
  ends before text rest found c first := by
    have space := url_ends words found c first
    refine Bool.eq_false_iff.2 fun alpha => ?_
    have range := toNat_of_alphanum (c := c) (by simp [Char.isAlphanum, alpha])
    have apart := blank_toNat space
    omega

theorem email_pass : Pass fun _ => afterEmail words where
  consumes := email_consumes words
  inert := email_inert words
  ends _ text rest found c first := by
    refine Bool.eq_false_iff.2 fun alpha => ?_
    have label := (afterEmail_ends words found).2.2 c first
    rw [isLabel, word_of_alphanum words (by simp [Char.isAlphanum, alpha])] at label
    cases label

theorem run_pass : Pass fun _ => afterRun where
  consumes := run_consumes
  inert := run_inert
  ends _ text rest found c first := by
    refine Bool.eq_false_iff.2 fun alpha => ?_
    have run := run_ends found c first
    simp [isRun, Char.isAlphanum, alpha] at run

/-- What is to be nowhere: a replacement does not bring it forth, and no pass does. -/
structure Unwanted (found : Option Char → List Char → Prop) : Prop where
  made : ∀ before part rest, part ≠ [] → part <:+ redacted.toList → ¬ found before (part ++ rest)
  keeps : ∀ after, Pass after → ∀ before before' c text out,
    (Pattern.upTo after).Substituted redacted.toList before (c :: text) (c :: out) →
    before' = before ∨ c.isAlpha = false → found before' (c :: out) → found before (c :: text)

theorem inert_made {after : Option Char → List Char → Option (List Char)}
    (inert : (Pattern.upTo after).Inert redacted.toList) (before : Option Char) {part : List Char} (rest : List Char)
    (some : part ≠ []) (inside : part <:+ redacted.toList) : ¬ (after before (part ++ rest)).isSome = true := by
  have none_ := inert before part rest some inside
  rw [Pattern.upTo, Option.map_eq_none_iff] at none_
  rw [none_]
  exact Bool.false_ne_true

theorem announces_unwanted : Unwanted fun _ text => Announces text where
  made _ _ rest some inside := redacted_announces rest some inside
  keeps _ pass _ _ _ _ _ result _ found := announces_kept pass.consumes result pass.inert found

theorem url_unwanted : Unwanted (UrlAt words) where
  made _ _ rest some inside found := inert_made (url_inert words) _ rest some inside found.1
  keeps _ pass _ _ _ _ _ result edge found := url_kept words pass.consumes result edge found

theorem email_unwanted : Unwanted (EmailAt words) where
  made before _ rest some inside := inert_made (email_inert words) before rest some inside
  keeps _ pass _ _ _ _ _ result _ found := email_kept words pass.consumes result found

theorem run_unwanted : Unwanted RunAt where
  made before _ rest some inside := inert_made run_inert before rest some inside
  keeps _ pass _ _ _ _ _ result _ found := run_kept pass.consumes result found

/-- What was nowhere but where the pass finds a match is nowhere after it. -/
theorem Pass.absent {after : Option Char → List Char → Option (List Char)} (pass : Pass after)
    {found : Option Char → List Char → Prop} (unwanted : Unwanted found) {text : List Char}
    (was : Pattern.Absent (fun before text => found before text ∧ Pattern.upTo after before text = none) none text) :
    Pattern.Absent found none ((Pattern.upTo after).substitute redacted.toList text) := by
  refine Pattern.Substituted.absent (fun rest => ∀ c, rest.head? = some c → c.isAlpha = false)
    Pattern.upTo_plain ?_ unwanted.made ?_
    (Pattern.substitute_substituted (Pattern.upTo_proper pass.consumes) none text) was (.inl rfl)
  · intro before value rest cut
    exact pass.ends before _ rest (Pattern.upTo_rest pass.consumes cut)
  · intro before before' c text out result edge
    exact unwanted.keeps after pass before before' c text out result (edge.imp_right fun stops => stops c rfl)

theorem Pass.still {after : Option Char → List Char → Option (List Char)} (pass : Pass after)
    {found : Option Char → List Char → Prop} (unwanted : Unwanted found) {text : List Char}
    (was : Pattern.Absent found none text) :
    Pattern.Absent found none ((Pattern.upTo after).substitute redacted.toList text) :=
  pass.absent unwanted (Pattern.absent_mono (fun _ _ => And.left) was)

theorem Pass.removed {after : Option Char → List Char → Option (List Char)} (pass : Pass after)
    {found : Option Char → List Char → Prop} (unwanted : Unwanted found)
    (matched : ∀ before text, found before text → (after before text).isSome = true) (text : List Char) :
    Pattern.Absent found none ((Pattern.upTo after).substitute redacted.toList text) := by
  refine pass.absent unwanted (Pattern.absent_never fun before text there => ?_)
  obtain ⟨found, none_⟩ := there
  rw [Pattern.upTo, Option.map_eq_none_iff] at none_
  have some_ := matched before text found
  rw [none_] at some_
  cases some_

/-! ## The secrets that are known -/

/-- A secret that a replacement cannot be part of. -/
structure Removable (secret : List Char) : Prop where
  some : secret ≠ []
  bracket : '[' ∉ secret
  closing : ']' ∉ secret
  apart : ¬ secret <:+: "REDACTED".toList

theorem literal_proper {secret : List Char} (some_ : secret ≠ []) : (literal secret).Proper := by
  intro before text group whole found
  unfold literal at found
  split at found
  · rename_i there
    obtain ⟨rfl, rfl⟩ := Prod.mk.inj (Option.some.inj found)
    exact ⟨List.length_pos_iff.2 some_, (List.isPrefixOf_iff_prefix.1 there).length_le⟩
  · cases found

theorem Removable.kept {secret : List Char} (removable : Removable secret) {pattern : Pattern Char}
    (proper : pattern.Proper) {before : Option Char} {text : List Char} (was : ¬ secret <:+: text) :
    ¬ secret <:+: pattern.substituteFrom redacted.toList before 0 text := by
  intro inside
  have result := @Pattern.substitute_substituted _ pattern redacted.toList proper before text
  rw [redacted_ends] at result inside
  exact was (result.infix_kept removable.bracket removable.closing removable.apart inside)

theorem Removable.removed {secret : List Char} (removable : Removable secret) {before : Option Char}
    {text out : List Char} (result : (literal secret).Substituted redacted.toList before text out) :
    ¬ secret <:+: out := by
  induction result with
  | nil => exact fun inside => removable.some (List.infix_nil.1 inside)
  | @keep before c text out free rest ih =>
    intro inside
    rcases List.infix_cons_iff.1 inside with start | inside
    · have start' := (Pattern.Substituted.keep free rest).prefix_kept removable.bracket start
      rw [literal, if_pos (List.isPrefixOf_iff_prefix.2 start')] at free
      cases free
    · exact ih inside
  | @cut before group value text out first found rest ih =>
    have plain : group = [] := by
      unfold literal at found
      split at found
      · exact List.length_eq_zero_iff.1 (Prod.mk.inj (Option.some.inj found)).1.symm
      · cases found
    intro inside
    have shape : group ++ redacted.toList ++ out = [] ++ '[' :: ("REDACTED".toList ++ ']' :: out) := by
      rw [plain, redacted_toList]
      simp
    rw [shape] at inside
    rcases Pattern.infix_split removable.bracket inside with within | behind
    · exact removable.some (List.infix_nil.1 within)
    · rcases Pattern.infix_split removable.closing behind with within | behind
      · exact removable.apart within
      · exact ih behind

/-- One secret after another: each is gone when its turn is over, and none comes back. -/
theorem literals_removed {secrets : List (List Char)} {secret text : List Char} (removable : Removable secret)
    (known : secret ∈ secrets ∨ ¬ secret <:+: text) :
    ¬ secret <:+: secrets.foldl (fun value secret =>
      if secret = [] then value else (literal secret).substitute redacted.toList value) text := by
  induction secrets generalizing text with
  | nil => exact known.resolve_left List.not_mem_nil
  | cons first rest ih =>
    rw [List.foldl_cons]
    refine ih ?_
    by_cases empty : first = []
    · rw [if_pos empty]
      refine known.imp_left fun member => (List.mem_cons.1 member).resolve_left ?_
      rintro rfl
      exact removable.some empty
    · rw [if_neg empty]
      rcases known with member | absent
      · rcases List.mem_cons.1 member with rfl | member
        · exact .inr (removable.removed (Pattern.substitute_substituted (literal_proper empty) none text))
        · exact .inl member
      · exact .inr (removable.kept (literal_proper empty) absent)

/-! ## Blanks -/

theorem solid_of_splitOnP {part : List Char} {text : List Char} (member : part ∈ text.splitOnP isSpace) :
    ∀ c ∈ part, isSpace c = false := by
  induction text generalizing part with
  | nil =>
    rw [List.splitOnP_nil, List.mem_singleton] at member
    subst member
    exact fun c inside => absurd inside List.not_mem_nil
  | cons d text ih =>
    rw [List.splitOnP_cons_eq_if_modifyHead] at member
    split at member
    · rcases List.mem_cons.1 member with rfl | member
      · exact fun c inside => absurd inside List.not_mem_nil
      · exact ih member
    · rename_i solid
      cases parts : text.splitOnP isSpace with
      | nil => exact absurd parts (List.splitOnP_ne_nil _ _)
      | cons first rest =>
        rw [parts] at member ih
        rcases List.mem_cons.1 member with rfl | member
        · intro c inside
          rcases List.mem_cons.1 inside with rfl | inside
          · exact Bool.eq_false_iff.2 solid
          · exact ih (List.mem_cons_self ..) c inside
        · exact ih (List.mem_cons_of_mem _ member)

theorem mem_intercalate {c blank : Char} {parts : List (List Char)} (member : c ∈ List.intercalate [blank] parts) :
    c = blank ∨ ∃ part ∈ parts, c ∈ part := by
  induction parts with
  | nil => cases member
  | cons first rest ih =>
    cases rest with
    | nil =>
      rw [List.intercalate_singleton] at member
      exact .inr ⟨first, List.mem_cons_self .., member⟩
    | cons second rest =>
      rw [List.intercalate_cons_cons, List.mem_append, List.mem_append, List.mem_singleton] at member
      rcases member with (inside | rfl) | behind
      · exact .inr ⟨first, List.mem_cons_self .., inside⟩
      · exact .inl rfl
      · exact (ih behind).imp_right fun ⟨part, there, inside⟩ => ⟨part, List.mem_cons_of_mem _ there, inside⟩

/-- The only blanks of a text are single characters ` `. -/
def Plainly (text : List Char) : Prop := ∀ c ∈ text, isSpace c = true → c = ' '

theorem collapsed_plainly (text : List Char) : Plainly (collapsed text) := by
  intro c member space
  rcases mem_intercalate member with rfl | ⟨part, there, inside⟩
  · rfl
  · have solid := solid_of_splitOnP (List.mem_filter.1 there).1 c inside
    exact absurd (solid.symm.trans space) Bool.false_ne_true

theorem Plainly.substitute {text : List Char} (plainly : Plainly text) {pattern : Pattern Char}
    (proper : pattern.Proper) : Plainly (pattern.substitute redacted.toList text) := by
  intro c member space
  rcases (Pattern.substitute_substituted proper none text).mem member with inside | inside
  · exact plainly c inside space
  · have solid : ∀ c ∈ redacted.toList, isSpace c = false := each (by decide)
    exact absurd ((solid c inside).symm.trans space) Bool.false_ne_true

theorem Plainly.literals {secrets : List (List Char)} {text : List Char} (plainly : Plainly text) :
    Plainly (secrets.foldl (fun value secret =>
      if secret = [] then value else (literal secret).substitute redacted.toList value) text) := by
  induction secrets generalizing text with
  | nil => exact plainly
  | cons first rest ih =>
    rw [List.foldl_cons]
    refine ih ?_
    split
    · exact plainly
    · rename_i some_
      exact plainly.substitute (literal_proper some_)

/-- What a text made safe is free of. -/
structure Clean (secrets : List (List Char)) (text : List Char) : Prop where
  plainly : Plainly text
  known : ∀ secret ∈ secrets, Removable secret → ¬ secret <:+: text
  announced : Pattern.Absent (fun _ text => Announces text) none text
  urls : Pattern.Absent (UrlAt words) none text
  emails : Pattern.Absent (EmailAt words) none text
  runs : Pattern.Absent RunAt none text

/-- Each pattern removes what it is for, and those after it bring none of it back. -/
theorem redact_clean (secrets : List (List Char)) (text : List Char) :
    Clean words secrets (redactFreeText words secrets text) := by
  unfold redactFreeText
  extract_lets value known announced urls emails
  have url := url_pass words
  have email := email_pass words
  have run := run_pass
  have secretText : announced = secretPattern.substituteFrom redacted.toList none 0 known := secretTextFrom_eq ..
  refine ⟨?_, fun secret member removable => ?_, ?_, ?_, ?_, ?_⟩
  · have plainly : Plainly announced := by
      rw [secretText]
      exact (collapsed_plainly text).literals.substitute secret_proper
    exact ((plainly.substitute (Pattern.upTo_proper url.consumes)).substitute
      (Pattern.upTo_proper email.consumes)).substitute (Pattern.upTo_proper run.consumes)
  · have gone : ¬ secret <:+: announced := by
      rw [secretText]
      exact removable.kept secret_proper (literals_removed removable (.inl member))
    exact removable.kept (Pattern.upTo_proper run.consumes) (removable.kept (Pattern.upTo_proper email.consumes)
      (removable.kept (Pattern.upTo_proper url.consumes) gone))
  · have gone : Pattern.Absent (fun _ text => Announces text) none announced := by
      rw [secretText]
      exact secret_absent (Pattern.substitute_substituted secret_proper none known)
    exact run.still announces_unwanted (email.still announces_unwanted (url.still announces_unwanted gone))
  · have gone := url.removed (url_unwanted words) (fun _ _ => And.left) announced
    exact run.still (url_unwanted words) (email.still (url_unwanted words) gone)
  · have gone := email.removed (email_unwanted words) (fun _ _ found => found) urls
    exact run.still (email_unwanted words) gone
  · exact run.removed run_unwanted (fun _ _ found => found) emails

/-- **Nothing is left.**  Whatever the text and the known secrets are, at no place of the text made safe does a known
secret begin, a secret that is announced, a web or a mail address, or a long run of letters and digits. -/
theorem redact_leaves_nothing (secrets : List (List Char)) (text earlier later : List Char) (c : Char)
    (split : redactFreeText words secrets text = earlier ++ c :: later) :
    (∀ secret ∈ secrets, Removable secret → ¬ secret <+: c :: later) ∧ ¬ Announces (c :: later) ∧
      ¬ UrlAt words earlier.getLast? (c :: later) ∧ ¬ EmailAt words earlier.getLast? (c :: later) ∧
      ¬ RunAt earlier.getLast? (c :: later) ∧ (isSpace c = true → c = ' ') := by
  have clean := redact_clean words secrets text
  have last : earlier.getLast? = earlier.getLast?.or none := (Option.or_none ..).symm
  rw [last]
  refine ⟨fun secret member removable start => ?_, ?_, ?_, ?_, ?_, clean.plainly c ?_⟩
  · refine clean.known secret member removable (start.isInfix.trans ?_)
    rw [split]
    exact (List.suffix_append ..).isInfix
  · exact Pattern.absent_iff.1 clean.announced earlier c later split
  · exact Pattern.absent_iff.1 clean.urls earlier c later split
  · exact Pattern.absent_iff.1 clean.emails earlier c later split
  · exact Pattern.absent_iff.1 clean.runs earlier c later split
  · rw [split]
    exact List.mem_append_right _ (List.mem_cons_self ..)

/-- A note with a link in it. -/
theorem redact_leaves_nothing_link : ¬ UrlAt asciiWords (some ' ') "[REDACTED]".toList :=
  (redact_leaves_nothing asciiWords [] "see https://x.y".toList "see ".toList "REDACTED]".toList '['
    (by decide +kernel)).2.2.1

/-! ## Something is left -/

theorem mem_splitOnP {c : Char} {text : List Char} (member : c ∈ text) (solid : isSpace c = false) :
    ∃ part ∈ text.splitOnP isSpace, c ∈ part := by
  induction text with
  | nil => cases member
  | cons d text ih =>
    rw [List.splitOnP_cons_eq_if_modifyHead]
    split
    · rename_i space
      rcases List.mem_cons.1 member with rfl | member
      · exact absurd (solid.symm.trans space) Bool.false_ne_true
      · obtain ⟨part, there, inside⟩ := ih member
        exact ⟨part, List.mem_cons_of_mem _ there, inside⟩
    · cases parts : text.splitOnP isSpace with
      | nil => exact absurd parts (List.splitOnP_ne_nil _ _)
      | cons first rest =>
        rw [parts] at ih
        rcases List.mem_cons.1 member with rfl | member
        · exact ⟨c :: first, List.mem_cons_self .., List.mem_cons_self ..⟩
        · obtain ⟨part, there, inside⟩ := ih member
          rcases List.mem_cons.1 there with rfl | there
          · exact ⟨d :: part, List.mem_cons_self .., List.mem_cons_of_mem _ inside⟩
          · exact ⟨part, List.mem_cons_of_mem _ there, inside⟩

theorem collapsed_some {c : Char} {text : List Char} (member : c ∈ text) (solid : isSpace c = false) :
    collapsed text ≠ [] := by
  obtain ⟨part, there, inside⟩ := mem_splitOnP member solid
  have kept : part ∈ (text.splitOnP isSpace).filter (· ≠ []) := by
    rw [List.mem_filter, decide_eq_true_eq]
    exact ⟨there, List.ne_nil_of_mem inside⟩
  have inside : ∀ parts : List (List Char), part ∈ parts → c ∈ List.intercalate [' '] parts := by
    intro parts
    induction parts with
    | nil => exact fun never => absurd never List.not_mem_nil
    | cons first rest ih =>
      intro here
      cases rest with
      | nil =>
        rw [List.intercalate_singleton, ← List.mem_singleton.1 here]
        exact inside
      | cons second rest =>
        rw [List.intercalate_cons_cons]
        rcases List.mem_cons.1 here with rfl | behind
        · exact List.mem_append_left _ (List.mem_append_left _ inside)
        · exact List.mem_append_right _ (ih behind)
  exact List.ne_nil_of_mem (inside _ kept)

theorem substitute_some {pattern : Pattern Char} (proper : pattern.Proper) {text : List Char} (some : text ≠ []) :
    pattern.substitute redacted.toList text ≠ [] := by
  have result := @Pattern.substitute_substituted _ pattern redacted.toList proper none text
  change pattern.Substituted redacted.toList none text (pattern.substitute redacted.toList text) at result
  intro empty
  rw [empty] at result
  generalize shown : ([] : List Char) = out at result
  cases result with
  | nil => exact some rfl
  | keep => cases shown
  | cut =>
    have mark : '[' ∈ ([] : List Char) := by
      rw [shown, redacted_toList]
      simp
    exact absurd mark List.not_mem_nil

/-- A text that is not blank does not come to nothing. -/
theorem redact_some {c : Char} {text : List Char} (member : c ∈ text) (solid : isSpace c = false) :
    redactFreeText words [] text ≠ [] := by
  have secretText : secretTextFrom 0 (collapsed text) ≠ [] := by
    rw [secretTextFrom_eq none]
    exact substitute_some secret_proper (collapsed_some member solid)
  exact substitute_some (Pattern.upTo_proper run_pass.consumes) (substitute_some
    (Pattern.upTo_proper (email_pass words).consumes) (substitute_some
      (Pattern.upTo_proper (url_pass words).consumes) secretText))

end AlgoTrader.Core.Redaction
