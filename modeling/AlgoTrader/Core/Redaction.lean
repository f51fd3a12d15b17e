/-
# Core.Redaction -- what makes an operator's text safe

`redact_free_text` makes text that somebody has typed safe to store and to show.  Its patterns are tried one after
another, each on what the one before it has left.

* `afterUrl`, `afterEmail`, `afterRun` -- the patterns whose classes never give back what they took, so that one look
  ahead decides each match;
* `Inner` -- what the characters of these classes are not;
* `afterUrl_iff`, `afterEmail_iff`, `afterRun_iff` -- what a match looks like.
-/
import AlgoTrader.Core.Logging
import AlgoTrader.Theory.Substitution

namespace AlgoTrader.Core.Redaction

open AlgoTrader.Core.Text AlgoTrader.Core.Logging AlgoTrader.Theory

set_option autoImplicit false

/-! ## The patterns -/

/-- `\w`, which is `str.isalnum` and the underscore; a table of Unicode that ASCII and the blanks determine only
in part. -/
structure Words where
  isWord : Char → Bool
  ascii : ∀ c, c.toNat < 128 → isWord c = (c.isAlphanum || c == '_')
  blanks : ∀ c, isSpace c = true → isWord c = false

/-- `[a-z]`, without case. -/
def isLetter (c : Char) : Bool := 'a' ≤ fold c && fold c ≤ 'z'

/-- `[a-z0-9+.-]`, without case. -/
def isScheme (c : Char) : Bool := isLetter c || c.isDigit || c == '+' || c == '.' || c == '-'

/-- `[\w+/=-]`, in ASCII. -/
def isRun (c : Char) : Bool := c.isAlphanum || c == '_' || c == '+' || c == '/' || c == '=' || c == '-'

section Patterns

variable (words : Words)

/-- `[\w.+-]`. -/
def isUser (c : Char) : Bool := words.isWord c || c == '.' || c == '+' || c == '-'

/-- `[\w-]`. -/
def isLabel (c : Char) : Bool := words.isWord c || c == '-'

/-- `\b`. -/
def boundary (before : Option Char) (c : Char) : Bool := before.any words.isWord != words.isWord c

/-- What follows a match of `_URL`. -/
def afterUrl (before : Option Char) : List Char → Option (List Char)
  | [] => none
  | c :: text =>
      if isLetter c && boundary words before c then
        match text.dropWhile isScheme with
        | ':' :: '/' :: '/' :: x :: tail => if isSpace x then none else some (tail.dropWhile fun c => !isSpace c)
        | _ => none
      else none

/-- What follows `(?:[\w-]|\.[\w-])*`. -/
def afterLabels : List Char → List Char
  | [] => []
  | c :: text => if isLabel words c || (c == '.' && text.head?.any (isLabel words)) then afterLabels text else c :: text

/-- What follows a match of `_EMAIL`. -/
def afterEmail (text : List Char) : Option (List Char) :=
  if text.head?.any (isUser words) then
    match text.dropWhile (isUser words) with
    | '@' :: c :: domain =>
        if isLabel words c then
          match domain.dropWhile (isLabel words) with
          | '.' :: x :: rest => if isLabel words x then some (afterLabels words rest) else none
          | _ => none
        else none
    | _ => none
  else none

end Patterns

/-- What follows a match of `_OPAQUE`. -/
def afterRun (text : List Char) : Option (List Char) :=
  let run := text.takeWhile isRun
  if 32 ≤ run.length && run.any Char.isDigit && run.any Char.isAlpha then some (text.dropWhile isRun) else none

/-- A secret, as it stands. -/
def literal (secret : List Char) : Pattern Char := fun _ text =>
  if secret.isPrefixOf text then some (0, secret.length) else none

/-- `" ".join(text.split())`. -/
def collapsed (text : List Char) : List Char :=
  List.intercalate [' '] ((text.splitOnP isSpace).filter (· ≠ []))

/-- `redact_free_text`. -/
def redactFreeText (words : Words) (secrets : List (List Char)) (text : List Char) : List Char :=
  let value := collapsed text
  let value := secrets.foldl (fun value secret =>
    if secret = [] then value else (literal secret).substitute redacted.toList value) value
  let value := secretTextFrom 0 value
  let value := (Pattern.upTo (afterUrl words)).substitute redacted.toList value
  let value := (Pattern.upTo fun _ => afterEmail words).substitute redacted.toList value
  (Pattern.upTo fun _ => afterRun).substitute redacted.toList value

/-! ## Characters -/

/-- What holds of each of some characters, looked up one by one. -/
theorem each {p : Char → Prop} [DecidablePred p] {chars : List Char} (all : chars.all (p ·) = true) :
    ∀ c ∈ chars, p c := fun c member => of_decide_eq_true (List.all_eq_true.1 all c member)

theorem isUpper_eq (c : Char) : c.isUpper = decide (c.val ≥ 'A'.val ∧ c.val ≤ 'Z'.val) := rfl

theorem isLower_eq (c : Char) : c.isLower = (decide (c.val ≥ 'a'.val) && decide (c.val ≤ 'z'.val)) := rfl

theorem isAlpha_eq (c : Char) : c.isAlpha = (c.isUpper || c.isLower) := rfl

theorem toNat_of_alphanum {c : Char} (alphanum : c.isAlphanum = true) :
    (48 ≤ c.toNat ∧ c.toNat ≤ 57) ∨ (65 ≤ c.toNat ∧ c.toNat ≤ 90) ∨ (97 ≤ c.toNat ∧ c.toNat ≤ 122) := by
  simp only [Char.isAlphanum, isAlpha_eq, isUpper_eq, isLower_eq, Char.isDigit, Bool.or_eq_true,
    Bool.and_eq_true, decide_eq_true_eq, UInt32.le_iff_toNat_le, ge_iff_le] at alphanum
  change ((65 ≤ c.toNat ∧ c.toNat ≤ 90) ∨ (97 ≤ c.toNat ∧ c.toNat ≤ 122)) ∨ 48 ≤ c.toNat ∧ c.toNat ≤ 57 at alphanum
  omega

theorem blank_toNat {c : Char} (space : isSpace c = true) : c.toNat ≤ 32 ∨ 133 ≤ c.toNat := by
  simp only [isSpace, Bool.or_eq_true, Bool.and_eq_true, decide_eq_true_eq, List.contains_eq_mem] at space
  rcases space with ((_ | _) | _) | member
  · omega
  · omega
  · omega
  · have beyond : ∀ n ∈ [133, 160, 5760, 8232, 8233, 8239, 8287, 12288], 133 ≤ n := by decide
    exact .inr (beyond _ member)

/-- ASCII words. -/
def asciiWords : Words where
  isWord c := c.toNat < 128 && (c.isAlphanum || c == '_')
  ascii c small := by simp [small]
  blanks c space := by
    rw [Bool.and_eq_false_iff]
    by_cases small : c.toNat < 128
    · right
      rw [Bool.or_eq_false_iff, beq_eq_false_iff_ne]
      have apart := blank_toNat space
      refine ⟨Bool.eq_false_iff.2 fun alphanum => ?_, ?_⟩
      · have range := toNat_of_alphanum alphanum
        omega
      · rintro rfl
        exact absurd space (by decide)
    · exact .inl (decide_eq_false small)

example : redactFreeText asciiWords ["k-1".toList] "see  https://x.y/z , mail ops@desk.example k-1 token: abc".toList =
    "see [REDACTED] , mail [REDACTED] [REDACTED] token: [REDACTED]".toList := by decide +kernel

theorem redacted_toList : redacted.toList = '[' :: "REDACTED]".toList := by decide

theorem redacted_ends : redacted.toList = '[' :: ("REDACTED".toList ++ [']']) := by decide

/-- A last part of the replacement. -/
theorem redacted_part {part : List Char} (some : part ≠ []) (inside : part <:+ redacted.toList) :
    part = redacted.toList ∨ ∃ letters, part = letters ++ [']'] ∧ letters <:+ "REDACTED".toList := by
  rw [redacted_toList, List.suffix_cons_iff, ← redacted_toList] at inside
  refine inside.imp id fun inside => ?_
  obtain ⟨before, is⟩ := inside
  refine ⟨part.dropLast, ?_, before, ?_⟩
  · have last : part.getLast some = ']' := by
      have ends := congrArg List.getLast? is
      rw [List.getLast?_append_of_ne_nil _ some, List.getLast?_eq_some_getLast some] at ends
      exact Option.some.inj ends
    rw [← last, List.dropLast_append_getLast]
  · have front := congrArg List.dropLast is
    rw [List.dropLast_append_of_ne_nil some] at front
    exact front

variable (words : Words)

theorem word_of_alphanum {c : Char} (alphanum : c.isAlphanum = true) : words.isWord c = true := by
  have range := toNat_of_alphanum alphanum
  rw [words.ascii c (by omega), alphanum, Bool.true_or]

theorem nonword {c : Char} (small : c.toNat < 128) (other : c.isAlphanum = false) (under : c ≠ '_') :
    words.isWord c = false := by
  rw [words.ascii c small, other, Bool.false_or, beq_eq_false_iff_ne]
  exact under

/-- Blanks, the signs that end a value and the brackets of a replacement are in no class. -/
structure Inner (c : Char) : Prop where
  opaque_ : isOpaque c = true
  bracket : c ≠ '['
  closing : c ≠ ']'

theorem user_inner {c : Char} (user : isUser words c = true) : Inner c ∧ c ≠ '@' := by
  have sign : ∀ c ∈ ['[', ']', '@', ',', ';'], isUser words c = false := by
    intro c member
    have plain : ∀ c ∈ ['[', ']', '@', ',', ';'], c.toNat < 128 ∧ c.isAlphanum = false ∧ c ≠ '_' ∧
        (c == '.' || c == '+' || c == '-') = false := each (by decide)
    obtain ⟨small, other, under, signs⟩ := plain c member
    rw [isUser, nonword words small other under, Bool.or_assoc, Bool.or_assoc, ← Bool.or_assoc (c == '.'), signs]
    rfl
  have apart : ∀ d ∈ ['[', ']', '@', ',', ';'], c ≠ d := by
    rintro d member rfl
    exact Bool.false_ne_true ((sign c member).symm.trans user)
  have solid : isSpace c = false := by
    refine Bool.eq_false_iff.2 fun space => ?_
    rw [isUser, words.blanks c space, Bool.false_or, Bool.or_eq_true, Bool.or_eq_true, beq_iff_eq, beq_iff_eq,
      beq_iff_eq] at user
    rcases user with (rfl | rfl) | rfl <;> exact absurd space (by decide)
  refine ⟨⟨?_, apart _ (by decide), apart _ (by decide)⟩, apart _ (by decide)⟩
  simp [isOpaque, solid, apart ',' (by decide), apart ';' (by decide)]

theorem label_user {c : Char} (label : isLabel words c = true) : isUser words c = true := by
  rw [isLabel, Bool.or_eq_true] at label
  rcases label with word | dash
  · simp [isUser, word]
  · simp [isUser, beq_iff_eq.1 dash]

theorem label_not_dot : isLabel words '.' = false := by
  rw [isLabel, nonword words (by decide) (by decide) (by decide)]
  rfl

theorem run_inner {c : Char} (run : isRun c = true) : Inner c := by
  have apart : ∀ d ∈ ['[', ']', ',', ';'], c ≠ d := by
    rintro d member rfl
    have sign : ∀ c ∈ ['[', ']', ',', ';'], isRun c = false := each (by decide)
    exact Bool.false_ne_true ((sign c member).symm.trans run)
  have solid : isSpace c = false := by
    refine Bool.eq_false_iff.2 fun space => ?_
    rw [isRun, Bool.or_eq_true, Bool.or_eq_true, Bool.or_eq_true, Bool.or_eq_true, Bool.or_eq_true] at run
    have asciiSpace := blank_toNat space
    rcases run with ((((alphanum | sign) | sign) | sign) | sign) | sign
    · have range := toNat_of_alphanum alphanum
      omega
    all_goals
      rw [beq_iff_eq.1 sign] at space
      exact absurd space (by decide)
  refine ⟨?_, apart _ (by decide), apart _ (by decide)⟩
  simp [isOpaque, solid, apart ',' (by decide), apart ';' (by decide)]

/-- The letters of a pattern without case: ASCII's, and four others. -/
theorem letter_cases {c : Char} (letter : isLetter c = true) :
    c.isAlpha = true ∨ c ∈ ['\u0130', '\u0131', '\u017f', '\u212a'] := by
  unfold isLetter fold at letter
  have other : ∀ d ∈ ['\u0130', '\u0131', '\u017f', '\u212a'], c.toNat = d.toNat →
      c ∈ ['\u0130', '\u0131', '\u017f', '\u212a'] := fun d member same => Char.toNat_inj.1 same ▸ member
  split at letter
  · rename_i same
    exact .inr (other '\u0130' (by decide) same)
  · rename_i same
    exact .inr (other '\u0131' (by decide) same)
  · rename_i same
    exact .inr (other '\u017f' (by decide) same)
  · rename_i same
    exact .inr (other '\u212a' (by decide) same)
  · refine .inl ?_
    by_cases upper : 'A'.val ≤ c.val ∧ c.val ≤ 'Z'.val
    · rw [isAlpha_eq, Bool.or_eq_true]
      exact .inl (decide_eq_true upper)
    · have same : c.toLower = c := dif_neg upper
      rw [same, Bool.and_eq_true, decide_eq_true_eq, decide_eq_true_eq] at letter
      rw [isAlpha_eq, Bool.or_eq_true, isLower_eq, Bool.and_eq_true, decide_eq_true_eq, decide_eq_true_eq]
      exact .inr letter

theorem letter_inner {c : Char} (letter : isLetter c = true) : Inner c := by
  rcases letter_cases letter with alpha | member
  · refine run_inner ?_
    simp [isRun, Char.isAlphanum, alpha]
  · have all : ∀ d ∈ ['\u0130', '\u0131', '\u017f', '\u212a'], isOpaque d = true ∧ d ≠ '[' ∧ d ≠ ']' :=
      each (by decide)
    exact ⟨(all c member).1, (all c member).2.1, (all c member).2.2⟩

/-! ## Web addresses -/

theorem dropWhile_append {p : Char → Bool} {part rest : List Char} {c : Char} (all : ∀ d ∈ part, p d = true)
    (stops : p c = false) : (part ++ c :: rest).dropWhile p = c :: rest := by
  rw [List.dropWhile_append_of_pos all, List.dropWhile_cons_of_neg (by rw [stops]; exact Bool.false_ne_true)]

theorem afterUrl_iff {before : Option Char} {c : Char} {text rest : List Char} :
    afterUrl words before (c :: text) = some rest ↔ isLetter c = true ∧ boundary words before c = true ∧
      ∃ scheme x tail, text = scheme ++ ':' :: '/' :: '/' :: x :: tail ∧ (∀ d ∈ scheme, isScheme d = true) ∧
        isSpace x = false ∧ rest = tail.dropWhile fun d => !isSpace d := by
  rw [afterUrl]
  constructor
  · intro found
    split at found
    · rename_i starts
      rw [Bool.and_eq_true] at starts
      split at found
      · rename_i x tail is
        split at found
        · cases found
        · rename_i solid
          refine ⟨starts.1, starts.2, text.takeWhile isScheme, x, tail, ?_, ?_, Bool.eq_false_iff.2 solid, ?_⟩
          · rw [← is, List.takeWhile_append_dropWhile]
          · exact List.all_eq_true.1 List.all_takeWhile
          · exact (Option.some.inj found).symm
      · cases found
    · cases found
  · rintro ⟨letter, edge, scheme, x, tail, rfl, all, solid, rfl⟩
    rw [letter, edge, dropWhile_append all (by decide)]
    simp [solid]

theorem url_consumes : Pattern.Consumes (isOpaque · = true) (afterUrl words) := by
  intro before text rest found
  cases text with
  | nil => cases found
  | cons c text =>
    obtain ⟨letter, _, scheme, x, tail, rfl, _, _, rfl⟩ := (afterUrl_iff words).1 found
    refine ⟨c, scheme ++ ':' :: '/' :: '/' :: x :: tail.takeWhile fun d => !isSpace d, ?_,
      (letter_inner letter).opaque_⟩
    rw [List.cons_append, List.append_assoc]
    simp only [List.cons_append, List.takeWhile_append_dropWhile]

/-- Behind a match there is a blank, or nothing. -/
theorem url_ends {before : Option Char} {text rest : List Char} (found : afterUrl words before text = some rest) :
    ∀ c, rest.head? = some c → isSpace c = true := by
  intro c first
  cases text with
  | nil => cases found
  | cons d text =>
    obtain ⟨_, _, _, _, tail, _, _, _, is⟩ := (afterUrl_iff words).1 found
    have stops := List.head?_dropWhile_not (fun d => !isSpace d) tail
    rw [← is, first] at stops
    simpa using stops

/-- Where there is an address in a text: it begins with an ASCII letter. -/
def UrlAt (before : Option Char) (text : List Char) : Prop :=
  (afterUrl words before text).isSome = true ∧ text.head?.any Char.isAlpha = true

/-! ## Mail addresses -/

theorem afterEmail_iff {text : List Char} : (afterEmail words text).isSome = true ↔
    ∃ user label x tail, text = user ++ '@' :: label ++ '.' :: x :: tail ∧ user ≠ [] ∧
      (∀ d ∈ user, isUser words d = true) ∧ label ≠ [] ∧ (∀ d ∈ label, isLabel words d = true) ∧
      isLabel words x = true := by
  have at_ : isUser words '@' = false :=
    Bool.eq_false_iff.2 fun user => (user_inner words user).2 rfl
  rw [afterEmail]
  constructor
  · intro found
    split at found
    · rename_i starts
      split at found
      · rename_i c domain is
        split at found
        · rename_i first
          split at found
          · rename_i x rest is'
            split at found
            · rename_i second
              refine ⟨text.takeWhile (isUser words), c :: domain.takeWhile (isLabel words), x, rest, ?_, ?_, ?_,
                List.cons_ne_nil _ _, ?_, second⟩
              · rw [List.append_assoc, List.cons_append, List.cons_append, ← is', List.takeWhile_append_dropWhile,
                  ← is, List.takeWhile_append_dropWhile]
              · intro none_
                cases text with
                | nil => cases starts
                | cons d text =>
                  rw [List.takeWhile_cons_of_pos (by simpa using starts)] at none_
                  cases none_
              · exact List.all_eq_true.1 List.all_takeWhile
              · intro d member
                rcases List.mem_cons.1 member with rfl | member
                · exact first
                · exact List.all_eq_true.1 List.all_takeWhile d member
            · cases found
          · cases found
        · cases found
      · cases found
    · cases found
  · rintro ⟨user, label, x, tail, rfl, some, users, some', labels, last⟩
    obtain ⟨c, user, rfl⟩ := List.exists_cons_of_ne_nil some
    obtain ⟨d, label, rfl⟩ := List.exists_cons_of_ne_nil some'
    have first : isLabel words d = true := labels d (List.mem_cons_self ..)
    rw [if_pos (by simpa using users c (List.mem_cons_self ..)), List.append_assoc]
    simp only [List.cons_append]
    rw [← List.cons_append, dropWhile_append users at_]
    show (if isLabel words d = true then _ else none).isSome = true
    rw [if_pos first, dropWhile_append (fun e member => labels e (List.mem_cons_of_mem _ member))
      (label_not_dot words)]
    show (if isLabel words x = true then _ else none).isSome = true
    rw [if_pos last]
    rfl

theorem afterLabels_suffix (text : List Char) : afterLabels words text <:+ text := by
  induction text with
  | nil => exact List.suffix_refl _
  | cons c text ih =>
    rw [afterLabels]
    split
    · exact ih.trans (List.suffix_cons ..)
    · exact List.suffix_refl _

/-- No label goes on behind the labels. -/
theorem afterLabels_stops {text : List Char} {c : Char} (first : (afterLabels words text).head? = some c) :
    isLabel words c = false := by
  induction text with
  | nil => cases first
  | cons d text ih =>
    rw [afterLabels] at first
    split at first
    · exact ih first
    · rename_i stops
      cases first
      rw [Bool.not_eq_true, Bool.or_eq_false_iff] at stops
      exact stops.1

/-- A match of the address, with what stops it. -/
theorem afterEmail_ends {text rest : List Char} (found : afterEmail words text = some rest) :
    rest <:+ text.tail ∧ text.head?.any (isUser words) = true ∧
      ∀ c, rest.head? = some c → isLabel words c = false := by
  rw [afterEmail] at found
  split at found
  · rename_i starts
    split at found
    · rename_i c domain is
      split at found
      · split at found
        · rename_i x rest' is'
          split at found
          · cases found
            refine ⟨?_, starts, fun c => afterLabels_stops words⟩
            refine (afterLabels_suffix words rest').trans ?_
            have first : rest' <:+ domain := by
              have tail := (List.suffix_cons x rest').trans (List.suffix_cons '.' (x :: rest'))
              rw [← is'] at tail
              exact tail.trans (List.dropWhile_suffix _)
            have second : domain <:+ text.tail := by
              cases text with
              | nil => cases starts
              | cons d text =>
                rw [List.dropWhile_cons_of_pos (by simpa using starts)] at is
                have tail := (List.suffix_cons c domain).trans (List.suffix_cons '@' (c :: domain))
                rw [← is] at tail
                exact tail.trans (List.dropWhile_suffix _)
            exact first.trans second
          · cases found
        · cases found
      · cases found
    · cases found
  · cases found

theorem email_consumes : Pattern.Consumes (isOpaque · = true) fun _ => afterEmail words := by
  intro _ text rest found
  obtain ⟨⟨value, is⟩, starts, _⟩ := afterEmail_ends words found
  cases text with
  | nil => cases starts
  | cons c text =>
    refine ⟨c, value, ?_, (user_inner words (by simpa using starts)).1.opaque_⟩
    rw [List.cons_append]
    exact congrArg _ is.symm

/-- Where there is a mail address. -/
def EmailAt (_ : Option Char) (text : List Char) : Prop := (afterEmail words text).isSome = true

/-! ## Long runs -/

theorem afterRun_iff {text : List Char} : (afterRun text).isSome = true ↔
    ∃ run tail, text = run ++ tail ∧ (∀ d ∈ run, isRun d = true) ∧ 32 ≤ run.length ∧
      (∃ d ∈ run, d.isDigit = true) ∧ ∃ d ∈ run, d.isAlpha = true := by
  unfold afterRun
  dsimp only
  constructor
  · intro found
    split at found
    · rename_i long
      rw [Bool.and_eq_true, Bool.and_eq_true, decide_eq_true_eq, List.any_eq_true, List.any_eq_true] at long
      exact ⟨text.takeWhile isRun, text.dropWhile isRun, List.takeWhile_append_dropWhile.symm,
        List.all_eq_true.1 List.all_takeWhile, long.1.1, long.1.2, long.2⟩
    · cases found
  · rintro ⟨run, tail, rfl, all, long, ⟨digit, member, isDigit⟩, alpha, member', isAlpha⟩
    have inside : run <+: (run ++ tail).takeWhile isRun := by
      rw [List.takeWhile_append_of_pos all]
      exact List.prefix_append ..
    rw [if_pos]
    · rfl
    · rw [Bool.and_eq_true, Bool.and_eq_true, decide_eq_true_eq, List.any_eq_true, List.any_eq_true]
      exact ⟨⟨long.trans inside.length_le, digit, inside.subset member, isDigit⟩, alpha, inside.subset member', isAlpha⟩

theorem run_consumes : Pattern.Consumes (isOpaque · = true) fun _ => afterRun := by
  intro _ text rest found
  unfold afterRun at found
  dsimp only at found
  split at found
  · rename_i long
    cases found
    cases run : text.takeWhile isRun with
    | nil =>
      rw [run] at long
      cases long
    | cons c run' =>
      refine ⟨c, run', ?_, ?_⟩
      · rw [← run, List.takeWhile_append_dropWhile]
      · have member : c ∈ text.takeWhile isRun := run ▸ List.mem_cons_self ..
        exact (run_inner (List.all_eq_true.1 List.all_takeWhile c member)).opaque_
  · cases found

theorem run_ends {text rest : List Char} (found : afterRun text = some rest) :
    ∀ c, rest.head? = some c → isRun c = false := by
  intro c first
  unfold afterRun at found
  dsimp only at found
  split at found
  · cases found
    have stops := List.head?_dropWhile_not isRun text
    rw [first] at stops
    simpa using stops
  · cases found

/-- Where there is a long run of letters and digits. -/
def RunAt (_ : Option Char) (text : List Char) : Prop := (afterRun text).isSome = true

end AlgoTrader.Core.Redaction
