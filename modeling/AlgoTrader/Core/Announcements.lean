/-
# Core.Announcements -- how a text announces a secret

`_SECRET_TEXT` replaces what stands behind a bearer word, or behind the name of a secret field.

* `announced_again` -- a word and what separates it announce whatever stands behind them;
* `redacted_announces`, `group_announces` -- inside a replacement, and inside what announces a secret, nothing else is
  announced, since none of the words is a part of another;
* `secret_absent` -- so nothing but a replacement is announced in what the substitution leaves.
-/
import AlgoTrader.Core.Redaction
import Mathlib.Data.List.Infix

namespace AlgoTrader.Core.Redaction

open AlgoTrader.Core.Text AlgoTrader.Core.Logging AlgoTrader.Theory

set_option autoImplicit false

/-! ## Announced secrets -/

/-- What follows the first group of `_SECRET_TEXT`. -/
def announced (text : List Char) : Option (List Char) := afterBearer text <|> afterField text

/-- The words that announce a secret. -/
def bearerWord : List Char := "bearer".toList

def apiKeyWords : List (List Char) := ["apikey".toList, "api_key".toList, "api-key".toList]

def fieldWords : List (List Char) :=
  apiKeyWords ++ ["secret".toList, "token".toList, "password".toList, "signature".toList]

theorem afterWord_iff {word text rest : List Char} :
    afterWord word text = some rest ↔ ∃ part, text = part ++ rest ∧ part.map fold = word := by
  induction word generalizing text with
  | nil =>
    constructor
    · intro found
      exact ⟨[], (Option.some.inj found), rfl⟩
    · rintro ⟨part, rfl, none_⟩
      rw [List.map_eq_nil_iff.1 none_]
      rfl
  | cons letter word ih =>
    cases text with
    | nil =>
      constructor
      · intro found
        cases found
      · rintro ⟨part, is, letters⟩
        obtain ⟨rfl, _⟩ := List.append_eq_nil_iff.1 is.symm
        cases letters
    | cons c text =>
      rw [afterWord]
      constructor
      · intro found
        split at found
        · rename_i same
          obtain ⟨part, rfl, rfl⟩ := ih.1 found
          exact ⟨c :: part, rfl, by rw [List.map_cons, same]⟩
        · cases found
      · rintro ⟨part, is, letters⟩
        cases part with
        | nil => cases letters
        | cons d part =>
          obtain ⟨rfl, rfl⟩ := List.cons.inj is
          obtain ⟨same, rest'⟩ := List.cons.inj letters
          rw [if_pos same]
          exact ih.2 ⟨part, rfl, rest'⟩

/-- Two words at the head of one text: one begins with the other. -/
theorem afterWord_both {word word' text rest rest' : List Char} (found : afterWord word text = some rest)
    (found' : afterWord word' text = some rest') : word <+: word' ∨ word' <+: word := by
  obtain ⟨part, rfl, rfl⟩ := afterWord_iff.1 found
  obtain ⟨part', is, rfl⟩ := afterWord_iff.1 found'
  have both := List.prefix_or_prefix_of_prefix (List.prefix_append part rest) (is ▸ List.prefix_append part' rest')
  exact both.imp (List.IsPrefix.map fold ·) (List.IsPrefix.map fold ·)

/-- No sign is folded to another. -/
theorem fold_sign {c d : Char} (folded : fold c = d) (sign : d.isLower = false) : c = d := by
  subst folded
  unfold fold at sign ⊢
  split at sign
  · cases sign
  · cases sign
  · cases sign
  · cases sign
  · by_cases upper : 'A'.val ≤ c.val ∧ c.val ≤ 'Z'.val
    · have up : c.toLower.val = c.val + 32 := by
        have low : c.toLower = _ := dif_pos upper
        rw [low]
        rfl
      have low : 65 ≤ c.val.toNat ∧ c.val.toNat ≤ 90 := upper
      have range : (c.val + 32).toNat = c.val.toNat + 32 := by
        rw [UInt32.toNat_add]
        exact Nat.mod_eq_of_lt (by have : (32 : UInt32).toNat = 32 := rfl; omega)
      exfalso
      rw [isLower_eq, Bool.and_eq_false_iff, decide_eq_false_iff_not, decide_eq_false_iff_not, up, ge_iff_le,
        UInt32.le_iff_toNat_le, UInt32.le_iff_toNat_le, range] at sign
      have a : 'a'.val.toNat = 97 := rfl
      have z : 'z'.val.toNat = 122 := rfl
      omega
    · have same : c.toLower = c := dif_neg upper
      exact same.symm

theorem findSome_word {words : List (List Char)}
    (apart : ∀ word ∈ words, ∀ word' ∈ words, word <+: word' → word = word') {text rest : List Char} :
    words.findSome? (afterWord · text) = some rest ↔ ∃ word ∈ words, afterWord word text = some rest := by
  constructor
  · intro found
    obtain ⟨word, member, is⟩ := List.exists_of_findSome?_eq_some found
    exact ⟨word, member, is⟩
  · rintro ⟨word, member, is⟩
    cases found : words.findSome? (afterWord · text) with
    | none =>
      rw [List.findSome?_eq_none_iff.1 found word member] at is
      cases is
    | some rest' =>
      obtain ⟨word', member', is'⟩ := List.exists_of_findSome?_eq_some found
      have same : word = word' := by
        rcases afterWord_both is is' with before | before
        · exact apart _ member _ member' before
        · exact (apart _ member' _ member before).symm
      subst same
      rw [← is, ← is']


theorem afterApiKey_some {text rest : List Char} (found : afterApiKey text = some rest) :
    ∃ word ∈ apiKeyWords, afterWord word text = some rest := by
  unfold afterApiKey at found
  obtain ⟨behind, api, key⟩ := Option.bind_eq_some_iff.1 found
  obtain ⟨first, rfl, letters⟩ := afterWord_iff.1 api
  split at key
  · obtain ⟨second, rfl, letters'⟩ := afterWord_iff.1 key
    refine ⟨"api_key".toList, by decide, afterWord_iff.2 ⟨first ++ '_' :: second, by simp, ?_⟩⟩
    rw [List.map_append, List.map_cons, letters, letters']
    decide
  · obtain ⟨second, rfl, letters'⟩ := afterWord_iff.1 key
    refine ⟨"api-key".toList, by decide, afterWord_iff.2 ⟨first ++ '-' :: second, by simp, ?_⟩⟩
    rw [List.map_append, List.map_cons, letters, letters']
    decide
  · obtain ⟨second, rfl, letters'⟩ := afterWord_iff.1 key
    refine ⟨"apikey".toList, by decide, afterWord_iff.2 ⟨first ++ second, by simp, ?_⟩⟩
    rw [List.map_append, letters, letters']
    decide

theorem afterApiKey_of {text rest : List Char} {word : List Char}
    (member : word ∈ apiKeyWords) (found : afterWord word text = some rest) : afterApiKey text = some rest := by
  obtain ⟨part, rfl, rfl⟩ := afterWord_iff.1 found
  have split : ∃ first second, part = first ++ second ∧ first.map fold = "api".toList ∧
      (second.map fold = "key".toList ∨ second.map fold = "_key".toList ∨ second.map fold = "-key".toList) := by
    refine ⟨part.take 3, part.drop 3, (List.take_append_drop ..).symm, ?_, ?_⟩
    · rw [List.map_take]
      have all : ∀ word ∈ apiKeyWords, word.take 3 = "api".toList := by decide
      exact all _ member
    · rw [List.map_drop]
      have all : ∀ word ∈ apiKeyWords, word.drop 3 = "key".toList ∨
        word.drop 3 = "_key".toList ∨ word.drop 3 = "-key".toList := by decide
      exact all _ member
  obtain ⟨first, second, rfl, api, key⟩ := split
  have behind : afterWord "api".toList (first ++ second ++ rest) = some (second ++ rest) :=
    afterWord_iff.2 ⟨first, List.append_assoc .., api⟩
  unfold afterApiKey
  rw [behind, Option.bind_eq_bind, Option.bind_some]
  rcases key with key | key | key
  · have plain : afterWord "key".toList (second ++ rest) = some rest := afterWord_iff.2 ⟨second, rfl, key⟩
    cases second with
    | nil => cases key
    | cons c second =>
      have letter : fold c = 'k' := (List.cons.inj key).1
      rw [List.cons_append] at plain ⊢
      split
      · rename_i is
        rw [(List.cons.inj is).1] at letter
        exact absurd letter (by decide)
      · rename_i is
        rw [(List.cons.inj is).1] at letter
        exact absurd letter (by decide)
      · exact plain
  all_goals
    cases second with
    | nil => cases key
    | cons c second =>
      obtain ⟨letter, key⟩ := List.cons.inj key
      rw [fold_sign letter (by decide)]
      exact afterWord_iff.2 ⟨second, rfl, key⟩


/-- None of the words begins another. -/
theorem words_apart : ∀ word ∈ bearerWord :: fieldWords, ∀ word' ∈ bearerWord :: fieldWords, word <+: word' →
    word = word' := by decide

theorem afterApiKey_eq (text : List Char) : afterApiKey text = apiKeyWords.findSome? (afterWord · text) := by
  have apart : ∀ word ∈ apiKeyWords, ∀ word' ∈ apiKeyWords, word <+: word' → word = word' :=
    fun word member word' member' => words_apart word (List.mem_cons_of_mem _ (List.mem_append_left _ member)) word'
      (List.mem_cons_of_mem _ (List.mem_append_left _ member'))
  ext rest
  rw [findSome_word apart]
  exact ⟨afterApiKey_some, fun ⟨_, member, found⟩ => afterApiKey_of member found⟩

theorem fieldWord_iff {text rest : List Char} :
    (afterApiKey text <|> afterWord "secret".toList text <|> afterWord "token".toList text <|>
      afterWord "password".toList text <|> afterWord "signature".toList text) = some rest ↔
    ∃ word ∈ fieldWords, afterWord word text = some rest := by
  have chain : (afterApiKey text <|> afterWord "secret".toList text <|> afterWord "token".toList text <|>
      afterWord "password".toList text <|> afterWord "signature".toList text) =
      fieldWords.findSome? (afterWord · text) := by
    rw [afterApiKey_eq, fieldWords, List.findSome?_append]
    simp only [List.findSome?_cons]
    cases apiKeyWords.findSome? (afterWord · text)
    · cases afterWord "secret".toList text
      · cases afterWord "token".toList text
        · cases afterWord "password".toList text
          · cases afterWord "signature".toList text <;> rfl
          · rfl
        · rfl
      · rfl
    · rfl
  rw [chain]
  exact findSome_word fun word member word' member' =>
    words_apart word (List.mem_cons_of_mem _ member) word' (List.mem_cons_of_mem _ member')

theorem dropWhile_solid {text rest : List Char} {x : Char} (drops : text.dropWhile isSpace = x :: rest) :
    isSpace x = false := by
  have stops := List.head?_dropWhile_not isSpace text
  rw [drops] at stops
  simpa using stops

/-- `[=:]`. -/
def isSign (c : Char) : Bool := c == '=' || c == ':'

theorem bearer_again {text rest : List Char} {x : Char} (found : afterBearer text = some (x :: rest)) :
    ∃ word sep, text = word ++ sep ++ x :: rest ∧ word.map fold = bearerWord ∧ (∀ c ∈ sep, isSpace c = true) ∧
      isSpace x = false ∧
      ∀ y rest', isSpace y = false → afterBearer (word ++ sep ++ y :: rest') = some (y :: rest') := by
  unfold afterBearer at found
  obtain ⟨after, word, blanks⟩ := Option.bind_eq_some_iff.1 found
  split at blanks
  · rename_i blank
    have drops : after.dropWhile isSpace = x :: rest := Option.some.inj blanks
    obtain ⟨part, rfl, letters⟩ := afterWord_iff.1 word
    have all : ∀ c ∈ after.takeWhile isSpace, isSpace c = true := List.all_eq_true.1 List.all_takeWhile
    refine ⟨part, after.takeWhile isSpace, ?_, letters, all, dropWhile_solid drops, ?_⟩
    · rw [List.append_assoc, ← drops, List.takeWhile_append_dropWhile]
    · intro y rest' solid
      unfold afterBearer
      rw [List.append_assoc, afterWord_iff.2 ⟨part, rfl, letters⟩, Option.bind_eq_bind, Option.bind_some,
        dropWhile_append all solid, if_pos]
      cases after with
      | nil => cases blank
      | cons c after =>
        rw [List.takeWhile_cons_of_pos (by simpa using blank)]
        exact blank
  · cases blanks

theorem field_again {text rest : List Char} {x : Char} (found : afterField text = some (x :: rest)) :
    ∃ word sep, text = word ++ sep ++ x :: rest ∧ word.map fold ∈ fieldWords ∧
      (∀ c ∈ sep, isSpace c = true ∨ isSign c = true) ∧ isSpace x = false ∧
      ∀ y rest', isSpace y = false → afterField (word ++ sep ++ y :: rest') = some (y :: rest') := by
  unfold afterField at found
  obtain ⟨after, word, sign⟩ := Option.bind_eq_some_iff.1 found
  obtain ⟨_, member, word⟩ := fieldWord_iff.1 word
  obtain ⟨part, rfl, rfl⟩ := afterWord_iff.1 word
  have split : ∃ mark behind, after.dropWhile isSpace = mark :: behind ∧ isSign mark = true ∧
      behind.dropWhile isSpace = x :: rest := by
    split at sign
    · rename_i behind is
      exact ⟨_, behind, is, rfl, Option.some.inj sign⟩
    · rename_i behind is
      exact ⟨_, behind, is, rfl, Option.some.inj sign⟩
    · cases sign
  obtain ⟨mark, behind, is, isMark, drops⟩ := split
  have all : ∀ c ∈ after.takeWhile isSpace, isSpace c = true := List.all_eq_true.1 List.all_takeWhile
  have all' : ∀ c ∈ behind.takeWhile isSpace, isSpace c = true := List.all_eq_true.1 List.all_takeWhile
  refine ⟨part, after.takeWhile isSpace ++ mark :: behind.takeWhile isSpace, ?_, member, ?_, dropWhile_solid drops, ?_⟩
  · rw [List.append_assoc, List.append_assoc, List.cons_append, ← drops, List.takeWhile_append_dropWhile, ← is,
      List.takeWhile_append_dropWhile]
  · intro c inside
    rcases List.mem_append.1 inside with blank | blank
    · exact .inl (all c blank)
    · rcases List.mem_cons.1 blank with rfl | blank
      · exact .inr isMark
      · exact .inl (all' c blank)
  · intro y rest' solid
    have shape : part ++ (after.takeWhile isSpace ++ mark :: behind.takeWhile isSpace) ++ y :: rest' =
        part ++ (after.takeWhile isSpace ++ mark :: (behind.takeWhile isSpace ++ y :: rest')) := by simp
    unfold afterField
    rw [shape, fieldWord_iff.2 ⟨_, member, afterWord_iff.2 ⟨part, rfl, rfl⟩⟩, Option.bind_eq_bind, Option.bind_some,
      dropWhile_append all (dropWhile_solid is)]
    have last : (behind.takeWhile isSpace ++ y :: rest').dropWhile isSpace = y :: rest' := dropWhile_append all' solid
    rw [isSign, Bool.or_eq_true, beq_iff_eq, beq_iff_eq] at isMark
    rcases isMark with rfl | rfl
    · exact congrArg some last
    · exact congrArg some last

theorem field_not_bearer {word rest : List Char} (field : word.map fold ∈ fieldWords) :
    afterBearer (word ++ rest) = none := by
  unfold afterBearer
  cases other : afterWord "bearer".toList (word ++ rest) with
  | none => rfl
  | some _ =>
    have never : bearerWord ∉ fieldWords := by decide
    have same : bearerWord = word.map fold := by
      rcases afterWord_both other (afterWord_iff.2 ⟨word, rfl, rfl⟩) with before | before
      · exact words_apart _ (List.mem_cons_self ..) _ (List.mem_cons_of_mem _ field) before
      · exact (words_apart _ (List.mem_cons_of_mem _ field) _ (List.mem_cons_self ..) before).symm
    exact absurd (same ▸ field) never

/-- **How a secret is announced**: by a word and what separates it from the secret, whatever that is. -/
theorem announced_again {text rest : List Char} {x : Char} (found : announced text = some (x :: rest)) :
    ∃ word sep, text = word ++ sep ++ x :: rest ∧ word.map fold ∈ bearerWord :: fieldWords ∧
      (∀ c ∈ sep, isSpace c = true ∨ isSign c = true) ∧ isSpace x = false ∧
      ∀ y rest', isSpace y = false → announced (word ++ sep ++ y :: rest') = some (y :: rest') := by
  unfold announced at found
  cases bearer : afterBearer text with
  | some behind =>
    rw [bearer] at found
    cases found
    obtain ⟨word, sep, is, letters, blanks, solid, again⟩ := bearer_again bearer
    refine ⟨word, sep, is, letters ▸ List.mem_cons_self .., fun c member => .inl (blanks c member), solid, ?_⟩
    intro y rest' solid'
    unfold announced
    rw [again y rest' solid']
    rfl
  | none =>
    rw [bearer] at found
    obtain ⟨word, sep, is, member, seps, solid, again⟩ := field_again found
    refine ⟨word, sep, is, List.mem_cons_of_mem _ member, seps, solid, ?_⟩
    intro y rest' solid'
    unfold announced
    rw [again y rest' solid', List.append_assoc, field_not_bearer member]
    rfl

/-- The letters of the words: they separate nothing, and are no bracket. -/
theorem word_inner {word : List Char} (member : word.map fold ∈ bearerWord :: fieldWords) {c : Char}
    (inside : c ∈ word) : Inner c ∧ isSign c = false := by
  have letters : ∀ d ∈ (bearerWord :: fieldWords).flatten, ('a' ≤ d ∧ d ≤ 'z') ∨ d = '_' ∨ d = '-' := each (by decide)
  rcases letters _ (List.mem_flatten_of_mem member (List.mem_map_of_mem inside)) with letter | sign | sign
  · have isLetter : isLetter c = true := by
      rw [isLetter, Bool.and_eq_true, decide_eq_true_eq, decide_eq_true_eq]
      exact letter
    refine ⟨letter_inner isLetter, Bool.eq_false_iff.2 fun sign => ?_⟩
    rw [isSign, Bool.or_eq_true, beq_iff_eq, beq_iff_eq] at sign
    rcases sign with rfl | rfl <;> exact absurd isLetter (by decide)
  · rw [fold_sign sign (by decide)]
    exact ⟨⟨by decide, by decide, by decide⟩, by decide⟩
  · rw [fold_sign sign (by decide)]
    exact ⟨⟨by decide, by decide, by decide⟩, by decide⟩

theorem announced_bracket {word sep : List Char} (member : word.map fold ∈ bearerWord :: fieldWords)
    (seps : ∀ c ∈ sep, isSpace c = true ∨ isSign c = true) : '[' ∉ word ++ sep := by
  intro inside
  rcases List.mem_append.1 inside with inside | inside
  · exact (word_inner member inside).1.bracket rfl
  · exact absurd (seps _ inside) (by decide)

/-- A word that announces something stands before whatever is no letter of a word. -/
theorem announced_word {front behind rest : List Char} {mark x : Char} (other : Inner mark → isSign mark = true)
    (found : announced (front ++ mark :: behind) = some (x :: rest)) :
    ∃ word, word <+: front ∧ word.map fold ∈ bearerWord :: fieldWords := by
  obtain ⟨word, sep, is, member, _⟩ := announced_again found
  refine ⟨word, Pattern.prefix_before (fun inside => ?_) ⟨sep ++ x :: rest, by rw [is]; simp⟩, member⟩
  obtain ⟨inner, sign⟩ := word_inner member inside
  exact absurd (other inner) (by rw [sign]; exact Bool.false_ne_true)

/-- Where a text gives a secret away: something else than a replacement is announced. -/
def Announces (text : List Char) : Prop :=
  ∃ x rest, announced text = some (x :: rest) ∧ isOpaque x = true ∧ ¬ redacted.toList <+: x :: rest

/-- Inside a replacement nothing is announced. -/
theorem redacted_announces {part : List Char} (rest : List Char) (some : part ≠ [])
    (inside : part <:+ redacted.toList) : ¬ Announces (part ++ rest) := by
  rintro ⟨x, rest', found, _⟩
  have never : ∀ word ∈ bearerWord :: fieldWords, ¬ word <:+: "REDACTED".toList.map fold := by decide
  rcases redacted_part some inside with rfl | ⟨letters, rfl, part⟩
  · have bracket : Inner '[' → isSign '[' = true := fun inner => absurd rfl inner.bracket
    have shape : redacted.toList ++ rest = [] ++ '[' :: ("REDACTED]".toList ++ rest) := by
      rw [redacted_toList]
      rfl
    rw [shape] at found
    obtain ⟨word, before, member⟩ := announced_word bracket found
    rw [List.prefix_nil.1 before] at member
    exact absurd member (by decide)
  · rw [List.append_assoc] at found
    have closing : Inner ']' → isSign ']' = true := fun inner => absurd rfl inner.closing
    obtain ⟨word, before, member⟩ := announced_word closing found
    exact never _ member ((before.isInfix.trans part.isInfix).map fold)

/-- Inside what announces a secret no other is announced. -/
theorem group_announces {word sep piece behind : List Char} (member : word.map fold ∈ bearerWord :: fieldWords)
    (seps : ∀ c ∈ sep, isSpace c = true ∨ isSign c = true) (inside : piece <:+ word ++ sep)
    (less : piece ≠ word ++ sep) : ¬ Announces (piece ++ (redacted.toList ++ behind)) := by
  rintro ⟨x, rest, found, _⟩
  -- What is left of the word, and the separator or the bracket behind it.
  have split : ∃ front mark behind', piece ++ (redacted.toList ++ behind) = front ++ mark :: behind' ∧
      front <:+ word.tail ∧ (Inner mark → isSign mark = true) := by
    have edge : ∀ sep' ⊆ sep, ∃ mark behind', sep' ++ (redacted.toList ++ behind) = mark :: behind' ∧
        (Inner mark → isSign mark = true) := by
      intro sep' part
      cases sep' with
      | nil => exact ⟨'[', "REDACTED]".toList ++ behind, rfl, fun inner => absurd rfl inner.bracket⟩
      | cons c sep' =>
        refine ⟨c, _, rfl, fun inner => (seps c (part (List.mem_cons_self ..))).resolve_left fun space => ?_⟩
        have opaque_ := inner.opaque_
        rw [isOpaque, space] at opaque_
        cases opaque_
    obtain ⟨cut, is⟩ := inside
    rcases List.append_eq_append_iff.1 is with ⟨front, rfl, rfl⟩ | ⟨more, rfl, rfl⟩
    · obtain ⟨mark, behind', is, other⟩ := edge sep (List.Subset.refl _)
      refine ⟨front, mark, behind', by rw [List.append_assoc, is], ?_, other⟩
      cases cut with
      | nil => exact absurd rfl less
      | cons c cut => exact List.suffix_append ..
    · obtain ⟨mark, behind', is, other⟩ := edge piece (List.subset_append_right ..)
      exact ⟨[], mark, behind', by rw [List.nil_append, is], List.nil_suffix, other⟩
  obtain ⟨front, mark, behind', is, tail, other⟩ := split
  rw [is] at found
  obtain ⟨word', before, member'⟩ := announced_word other found
  have never : ∀ word ∈ bearerWord :: fieldWords, ∀ word' ∈ bearerWord :: fieldWords, ¬ word' <:+: word.tail := by
    decide
  refine never _ member _ member' ?_
  rw [← List.map_tail]
  exact (before.isInfix.trans tail.isInfix).map fold

/-- `_SECRET_TEXT`. -/
def secretPattern : Pattern Char := fun _ => secretMatch

theorem secretTextFrom_eq (before : Option Char) (skip : Nat) (text : List Char) :
    secretTextFrom skip text = secretPattern.substituteFrom redacted.toList before skip text := by
  induction text generalizing before skip with
  | nil => cases skip <;> rfl
  | cons c text ih =>
    cases skip with
    | succ skip => exact ih ..
    | zero =>
      have matched : secretPattern before (c :: text) = secretMatch (c :: text) := rfl
      rw [secretTextFrom, Pattern.substituteFrom, matched]
      cases secretMatch (c :: text) with
      | none => exact congrArg _ (ih ..)
      | some lengths => exact congrArg _ (ih ..)

theorem secretMatch_iff {text : List Char} {group whole : Nat} : secretMatch text = some (group, whole) ↔
    ∃ x rest, announced text = some (x :: rest) ∧ isOpaque x = true ∧ group = text.length - (rest.length + 1) ∧
      whole = text.length - (rest.dropWhile isOpaque).length := by
  unfold secretMatch
  change (announced text >>= _) = _ ↔ _
  rw [Option.bind_eq_bind, Option.bind_eq_some_iff]
  constructor
  · rintro ⟨rest, found, lengths⟩
    split at lengths
    · rename_i head
      cases rest with
      | nil => cases head
      | cons x rest =>
        have opaque_ : isOpaque x = true := by simpa using head
        rw [List.dropWhile_cons_of_pos opaque_] at lengths
        obtain ⟨rfl, rfl⟩ := Prod.mk.inj (Option.some.inj lengths)
        exact ⟨x, rest, found, opaque_, rfl, rfl⟩
    · cases lengths
  · rintro ⟨x, rest, found, opaque_, rfl, rfl⟩
    refine ⟨x :: rest, found, ?_⟩
    rw [if_pos (by simpa using opaque_), List.dropWhile_cons_of_pos opaque_]
    rfl

theorem announced_length {text rest : List Char} {x : Char} (found : announced text = some (x :: rest)) :
    ∃ group, text = group ++ x :: rest := by
  obtain ⟨word, sep, is, _⟩ := announced_again found
  exact ⟨word ++ sep, is⟩

theorem secret_proper : secretPattern.Proper := by
  intro before text group whole found
  obtain ⟨x, rest, announces, _, rfl, rfl⟩ := secretMatch_iff.1 found
  obtain ⟨front, rfl⟩ := announced_length announces
  have shorter : (rest.dropWhile isOpaque).length ≤ rest.length := (List.dropWhile_suffix _).length_le
  rw [List.length_append, List.length_cons]
  omega

/-- A match of `_SECRET_TEXT`, with the value that is replaced. -/
theorem secret_cut {before : Option Char} {group value text : List Char} {first : Char}
    (found : secretPattern before (group ++ first :: value ++ text) =
      some (group.length, group.length + (value.length + 1))) :
    announced (group ++ first :: value ++ text) = some (first :: value ++ text) ∧ isOpaque first = true := by
  obtain ⟨x, rest, announces, opaque_, length, _⟩ := secretMatch_iff.1 found
  obtain ⟨front, is⟩ := announced_length announces
  have lengths := congrArg List.length is
  rw [is, List.length_append, List.length_cons, Nat.add_sub_cancel] at length
  rw [List.append_assoc] at is
  obtain ⟨rfl, same⟩ := List.append_inj is length
  obtain ⟨rfl, rfl⟩ := List.cons.inj same
  exact ⟨announces, opaque_⟩

/-- Nothing is announced in what `_SECRET_TEXT` leaves. -/
theorem secret_absent {before before' : Option Char} {text out : List Char}
    (result : secretPattern.Substituted redacted.toList before text out) :
    Pattern.Absent (fun _ text => Announces text) before' out := by
  induction result generalizing before' with
  | nil => trivial
  | @keep before c text out free rest ih =>
    refine ⟨?_, ih⟩
    rintro ⟨x, rest', found, opaque_, _⟩
    obtain ⟨word, sep, is, member, seps, _, again⟩ := announced_again found
    have shown := Pattern.Substituted.keep free rest
    rw [is, redacted_toList] at shown
    obtain ⟨y, behind, is', next⟩ := shown.next (fun _ _ _ _ _ cut => (secret_cut cut).2)
      (announced_bracket member seps)
    have value : isOpaque y = true := by
      rcases next with ⟨rfl, _⟩ | ⟨opaque', _⟩
      · exact opaque_
      · exact opaque'
    have solid : isSpace y = false := by
      rw [isOpaque, Bool.and_eq_true, Bool.and_eq_true, Bool.not_eq_true'] at value
      exact value.1.1
    have matched : secretMatch (c :: text) = some _ :=
      secretMatch_iff.2 ⟨y, behind, by rw [is', again y behind solid], value, rfl, rfl⟩
    cases free.symm.trans matched
  | @cut before group value text out first found rest ih =>
    obtain ⟨announces, opaque_⟩ := secret_cut found
    obtain ⟨word, sep, is, member, seps, _, again⟩ := announced_again announces
    rw [List.append_assoc] at is
    obtain rfl : group = word ++ sep := List.append_cancel_right is
    rw [List.append_assoc]
    refine Pattern.absent_append (fun _ piece _ inside => ?_) (Pattern.absent_append (fun _ piece some inside =>
      redacted_announces out some inside) ih)
    by_cases whole : piece = word ++ sep
    · subst whole
      rintro ⟨x, rest', found', _, other⟩
      rw [redacted_toList, List.cons_append, again '[' _ (by decide)] at found'
      obtain ⟨rfl, rfl⟩ := List.cons.inj (Option.some.inj found')
      exact other (List.prefix_append redacted.toList out)
    · exact group_announces member seps inside whole

end AlgoTrader.Core.Redaction
