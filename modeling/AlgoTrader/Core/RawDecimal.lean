/-
# Core.RawDecimal -- a `Decimal` as it is read and written

Where a number comes from a text, `Decimal` is more than a rational: it keeps its exponent, it
may be infinite, and it may be no number at all.  `parse` is `Decimal(text)` and `str` is
`str(value)`; the first gives nothing where the constructor raises.

* `number_written` -- digits, a point and an exponent are read as what they say;
* `parse_written` -- what is written of a value is read as that value.
-/
import Mathlib.Data.List.TakeDrop
import Mathlib.Data.List.TakeWhile
import AlgoTrader.Core.Models
import AlgoTrader.Core.Text

namespace AlgoTrader.Core

set_option autoImplicit false

/-- The digits and the exponent a `Decimal` can have: `MAX_PREC`, `MIN_ETINY` and `MAX_EMAX`. -/
def Bounded (coefficient : Nat) (exponent : Int) : Prop :=
  (Nat.toDigits 10 coefficient).length ≤ 999999999999999999 ∧
    -1999999999999999997 ≤ exponent ∧
    exponent + (Nat.toDigits 10 coefficient).length - 1 ≤ 999999999999999999

instance (coefficient : Nat) (exponent : Int) : Decidable (Bounded coefficient exponent) :=
  inferInstanceAs (Decidable (_ ∧ _ ∧ _))

inductive RawDecimal where
  /-- The coefficient times a power of ten. -/
  | finite (negative : Bool) (coefficient : Nat) (exponent : Int)
      (bounded : Bounded coefficient exponent)
  | infinity (negative : Bool)
  /-- `NaN`, or `sNaN` when it signals, with the digits behind it. -/
  | nan (negative signaling : Bool) (payload : Nat)
  deriving DecidableEq

namespace RawDecimal

/-! ## Values -/

def isNan : RawDecimal → Bool
  | .nan _ _ _ => true
  | _ => false

def value (negative : Bool) (coefficient : Nat) (exponent : Int) : Decimal :=
  (if negative then -1 else 1) * coefficient * (10 : Decimal) ^ exponent

/-- `number < bound`, for what is no `NaN`: that comparison raises. -/
def lt (bound : Decimal) : RawDecimal → Bool
  | .finite negative coefficient exponent _ => value negative coefficient exponent < bound
  | .infinity negative => negative
  | .nan _ _ _ => false

/-- `number > bound`. -/
def gt (bound : Decimal) : RawDecimal → Bool
  | .finite negative coefficient exponent _ => bound < value negative coefficient exponent
  | .infinity negative => !negative
  | .nan _ _ _ => false

/-! ## Reading -/

/-- A character as far as a number goes: any decimal digit is an ASCII one. -/
def ascii (c : Char) : Option Char :=
  if c.toNat < 128 then some c else (Text.decimal? c).map Nat.digitChar

def signed : List Char → Bool × List Char
  | '-' :: rest => (true, rest)
  | '+' :: rest => (false, rest)
  | text => (false, text)

/-- The digits before and after the point. -/
def mantissa (text : List Char) : Option (List Char × List Char) :=
  let parts := text.span (· ≠ '.')
  let whole := parts.1
  let part := parts.2.tail
  if whole ++ part ≠ [] ∧ (whole ++ part).all Char.isDigit then some (whole, part) else none

def exponentOf (text : List Char) : Option Int :=
  let sign := signed text
  let size := Nat.ofDigitChars 10 sign.2 0
  if sign.2 ≠ [] ∧ sign.2.all Char.isDigit then some (if sign.1 then -size else size) else none

/-- The power of ten behind an `e`, if there is one. -/
def scaleOf : List Char → Option Int
  | [] => some 0
  | _ :: power => exponentOf power

def number (negative : Bool) (text : List Char) : Option RawDecimal := do
  let parts := text.span fun c => c ≠ 'e' ∧ c ≠ 'E'
  let digits ← mantissa parts.1
  let scale ← scaleOf parts.2
  if bounded : Bounded (Nat.ofDigitChars 10 (digits.1 ++ digits.2) 0) (scale - digits.2.length) then
    some (.finite negative _ _ bounded)
  else none

/-- `NaN` with its digits. -/
def undefined (negative signaling : Bool) (digits : List Char) : Option RawDecimal :=
  if digits.all Char.isDigit then some (.nan negative signaling (Nat.ofDigitChars 10 digits 0))
  else none

/-- A number without its sign. -/
def unsigned (negative : Bool) (text : List Char) : Option RawDecimal :=
  match text.map Char.toLower with
  | ['i', 'n', 'f'] => some (.infinity negative)
  | ['i', 'n', 'f', 'i', 'n', 'i', 't', 'y'] => some (.infinity negative)
  | 'n' :: 'a' :: 'n' :: digits => undefined negative false digits
  | 's' :: 'n' :: 'a' :: 'n' :: digits => undefined negative true digits
  | _ => number negative text

/-- `Decimal(text)`; nothing where it raises `InvalidOperation`. -/
def parse (text : List Char) : Option RawDecimal := do
  let plain ← ((Text.strip text).filter (· ≠ '_')).mapM ascii
  let sign := signed plain
  unsigned sign.1 sign.2

/-! ## Writing -/

/-- `%+d`. -/
def signedDigits (n : Int) : List Char :=
  (if n < 0 then '-' else '+') :: Nat.toDigits 10 n.natAbs

/-- The digits before and after the point, with the point `place` digits in. -/
def pointed (digits : List Char) (place : Int) : List Char × List Char :=
  if place ≤ 0 then (['0'], List.replicate (-place).toNat '0' ++ digits)
  else if digits.length ≤ place then
    (digits ++ List.replicate (place - digits.length).toNat '0', [])
  else (digits.take place.toNat, digits.drop place.toNat)

/-- Where `str` puts the point: before the exponent is needed, else after the first digit. -/
def pointAt (exponent left : Int) : Int := if exponent ≤ 0 ∧ -6 < left then left else 1

/-- `str` of a finite number without its sign. -/
def written (coefficient : Nat) (exponent : Int) : List Char :=
  let digits := Nat.toDigits 10 coefficient
  let left := exponent + digits.length
  let place := pointAt exponent left
  let parts := pointed digits place
  parts.1 ++ (if parts.2 = [] then [] else '.' :: parts.2) ++
    if left = place then [] else 'E' :: signedDigits (left - place)

def sign (negative : Bool) : List Char := if negative then ['-'] else []

/-- `str(value)`. -/
def str : RawDecimal → List Char
  | .finite negative coefficient exponent _ => sign negative ++ written coefficient exponent
  | .infinity negative => sign negative ++ "Infinity".toList
  | .nan negative signaling payload =>
      sign negative ++ (if signaling then ['s'] else []) ++ "NaN".toList ++
        if payload = 0 then [] else Nat.toDigits 10 payload

example : (parse " -1_2.50e1 ".toList).map str = some "-125.0".toList ∧
    (parse "1E-9".toList).map str = some "1E-9".toList ∧
    (parse "-inf".toList).map str = some "-Infinity".toList ∧ parse "1,5".toList = none := by
  decide

/-! ## Digits -/

theorem toDigits_digit (n : Nat) : ∀ c ∈ Nat.toDigits 10 n, c.isDigit = true :=
  fun _ member => Nat.isDigit_of_mem_toDigits (by decide) (by decide) member

theorem zeros_digit (n : Nat) : ∀ c ∈ List.replicate n '0', c.isDigit = true := by
  intro c member
  rw [List.eq_of_mem_replicate member]
  decide

theorem not_digit {c : Char} (other : c.isDigit = false) {digits : List Char}
    (all : ∀ d ∈ digits, d.isDigit = true) : ∀ d ∈ digits, d ≠ c := by
  rintro d member rfl
  rw [all d member] at other
  cases other

/-- A prefix that satisfies a predicate, up to where that first fails. -/
theorem span_append {p : Char → Bool} {before rest : List Char} (all : ∀ c ∈ before, p c = true)
    (ends : ∀ c ∈ rest.head?, p c = false) : (before ++ rest).span p = (before, rest) := by
  rw [List.span_eq_takeWhile_dropWhile]
  have stops : rest.takeWhile p = [] ∧ rest.dropWhile p = rest := by
    cases rest with
    | nil => exact ⟨rfl, rfl⟩
    | cons c rest =>
        have fails := ends c rfl
        simp [fails]
  rw [List.takeWhile_append_of_pos all, List.dropWhile_append_of_pos all, stops.1, stops.2,
    List.append_nil]

theorem digits_ne_nil (n : Nat) : Nat.toDigits 10 n ≠ [] := Nat.toDigits_ne_nil

theorem ofDigits_toDigits (n : Nat) : Nat.ofDigitChars 10 (Nat.toDigits 10 n) 0 = n :=
  Nat.ofDigitChars_toDigits (by decide) (by decide)

/-! ## What is written is read -/

section Pointed

variable {whole part : List Char}

/-- What is written around a point is split at it. -/
theorem span_pointed (wholeDigits : ∀ c ∈ whole, c.isDigit = true) :
    (whole ++ if part = [] then [] else '.' :: part).span (fun c => decide (c ≠ '.')) =
      (whole, if part = [] then [] else '.' :: part) := by
  refine span_append (fun c member => ?_) fun c first => ?_
  · have other := not_digit (c := '.') (by decide) wholeDigits c member
    simpa using other
  · split at first
    · cases first
    · cases first
      rfl

theorem tail_pointed : (if part = [] then [] else '.' :: part : List Char).tail = part := by
  split
  · rename_i none
    exact none.symm
  · rfl

theorem all_digits (wholeDigits : ∀ c ∈ whole, c.isDigit = true) (partDigits : ∀ c ∈ part, c.isDigit = true) :
    (whole ++ part).all Char.isDigit = true := by
  rw [List.all_eq_true]
  intro c member
  rcases List.mem_append.1 member with inWhole | inPart
  · exact wholeDigits c inWhole
  · exact partDigits c inPart

theorem mantissa_written (some : whole ≠ [])
    (wholeDigits : ∀ c ∈ whole, c.isDigit = true) (partDigits : ∀ c ∈ part, c.isDigit = true) :
    mantissa (whole ++ if part = [] then [] else '.' :: part) = .some (whole, part) := by
  simp only [mantissa, span_pointed wholeDigits, tail_pointed]
  rw [if_pos ⟨List.append_ne_nil_of_left_ne_nil some part, all_digits wholeDigits partDigits⟩]

end Pointed

theorem exponentOf_written (n : Int) : exponentOf (signedDigits n) = some n := by
  have digits := toDigits_digit n.natAbs
  have all : (Nat.toDigits 10 n.natAbs).all Char.isDigit = true := List.all_eq_true.2 digits
  by_cases negative : n < 0
  · have here : signed (signedDigits n) = (true, Nat.toDigits 10 n.natAbs) := by
      rw [signedDigits, if_pos negative]
      rfl
    simp only [exponentOf, here, ofDigits_toDigits]
    rw [if_pos ⟨digits_ne_nil _, all⟩]
    congr 1
    simp only [if_true]
    omega
  · have here : signed (signedDigits n) = (false, Nat.toDigits 10 n.natAbs) := by
      rw [signedDigits, if_neg negative]
      rfl
    simp only [exponentOf, here, ofDigits_toDigits]
    rw [if_pos ⟨digits_ne_nil _, all⟩]
    congr 1
    simp only [Bool.false_eq_true, if_false]
    omega

/-- Digits, a point and an exponent are read as what they say. -/
theorem number_written {negative : Bool} {whole part : List Char} {scale exponent : Int}
    {coefficient : Nat} (some : whole ≠ []) (wholeDigits : ∀ c ∈ whole, c.isDigit = true)
    (partDigits : ∀ c ∈ part, c.isDigit = true)
    (value : Nat.ofDigitChars 10 (whole ++ part) 0 = coefficient)
    (power : scale - part.length = exponent) (bounded : Bounded coefficient exponent) :
    number negative (whole ++ (if part = [] then [] else '.' :: part) ++
        if scale = 0 then [] else 'E' :: signedDigits scale) =
      .some (.finite negative coefficient exponent bounded) := by
  subst value power
  have plain : ∀ c ∈ whole ++ (if part = [] then [] else '.' :: part : List Char),
      decide (c ≠ 'e' ∧ c ≠ 'E') = true := by
    intro c member
    have digit : c.isDigit = true ∨ c = '.' := by
      rcases List.mem_append.1 member with inWhole | inPart
      · exact .inl (wholeDigits c inWhole)
      · split at inPart
        · cases inPart
        · rcases List.mem_cons.1 inPart with rfl | inPart
          · exact .inr rfl
          · exact .inl (partDigits c inPart)
    rw [decide_eq_true_eq]
    rcases digit with digit | rfl
    · constructor
      · rintro rfl
        exact absurd digit (by decide)
      · rintro rfl
        exact absurd digit (by decide)
    · decide
  have split : (whole ++ (if part = [] then [] else '.' :: part) ++
      (if scale = 0 then [] else 'E' :: signedDigits scale)).span
        (fun c => decide (c ≠ 'e' ∧ c ≠ 'E')) =
      (whole ++ (if part = [] then [] else '.' :: part),
        if scale = 0 then [] else 'E' :: signedDigits scale) := by
    refine span_append plain fun c first => ?_
    split at first
    · cases first
    · cases first
      rfl
  have scaled : scaleOf (if scale = 0 then [] else 'E' :: signedDigits scale) = .some scale := by
    by_cases none : scale = 0
    · rw [if_pos none, none]
      rfl
    · rw [if_neg none]
      exact exponentOf_written scale
  unfold number
  simp only [split, mantissa_written some wholeDigits partDigits, scaled, Option.bind_eq_bind,
    Option.bind_some]
  exact dif_pos bounded

/-- Wherever `str` puts the point, the digits say the same. -/
theorem pointed_digits {digits : List Char} (some : digits ≠ [])
    (all : ∀ c ∈ digits, c.isDigit = true) (exponent : Int) :
    let left := exponent + digits.length
    let place := pointAt exponent left
    let parts := pointed digits place
    parts.1 ≠ [] ∧ (∀ c ∈ parts.1, c.isDigit = true) ∧ (∀ c ∈ parts.2, c.isDigit = true) ∧
      Nat.ofDigitChars 10 (parts.1 ++ parts.2) 0 = Nat.ofDigitChars 10 digits 0 ∧
      left - place - parts.2.length = exponent := by
  intro left place parts
  have long : 0 < digits.length := List.length_pos_iff.2 some
  have positions : place = left ∧ exponent ≤ 0 ∨ place = 1 := by
    show pointAt exponent left = left ∧ exponent ≤ 0 ∨ pointAt exponent left = 1
    unfold pointAt
    split
    · rename_i near
      exact .inl ⟨rfl, near.1⟩
    · exact .inr rfl
  by_cases leading : place ≤ 0
  · -- A zero, the point, and zeros before the digits.
    have here : parts = (['0'], List.replicate (-place).toNat '0' ++ digits) := by
      show pointed digits place = _
      rw [pointed, if_pos leading]
    rw [here]
    refine ⟨by simp, fun c member => ?_, fun c member => ?_, ?_, ?_⟩
    · rw [List.mem_singleton.1 member]
      decide
    · rcases List.mem_append.1 member with zero | digit
      · exact zeros_digit _ c zero
      · exact all c digit
    · rw [Nat.ofDigitChars_append, Nat.ofDigitChars_append, Nat.ofDigitChars_replicate_zero]
      rfl
    · simp only [List.length_append, List.length_replicate, Nat.cast_add]
      omega
  · by_cases whole : (digits.length : Int) ≤ place
    · -- No digit is left for behind the point.
      have none : (place - digits.length).toNat = 0 := by omega
      have here : parts = (digits, []) := by
        show pointed digits place = _
        rw [pointed, if_neg leading, if_pos whole, none, List.replicate_zero, List.append_nil]
      rw [here]
      refine ⟨some, all, by simp, by rw [List.append_nil], ?_⟩
      simp only [List.length_nil, Nat.cast_zero]
      omega
    · have here : parts = (digits.take place.toNat, digits.drop place.toNat) := by
        show pointed digits place = _
        rw [pointed, if_neg leading, if_neg whole]
      rw [here]
      refine ⟨?_, fun c member => all c (List.mem_of_mem_take member),
        fun c member => all c (List.mem_of_mem_drop member), by rw [List.take_append_drop], ?_⟩
      · rw [← List.length_pos_iff, List.length_take]
        omega
      · simp only [List.length_drop]
        omega

theorem number_str (negative : Bool) {coefficient : Nat} {exponent : Int}
    (bounded : Bounded coefficient exponent) :
    number negative (written coefficient exponent) =
      some (.finite negative coefficient exponent bounded) := by
  obtain ⟨some, whole, part, value, scale⟩ :=
    pointed_digits (digits_ne_nil coefficient) (toDigits_digit coefficient) exponent
  rw [ofDigits_toDigits] at value
  have read : number negative _ = _ := number_written some whole part value scale bounded
  simp only [sub_eq_zero] at read
  exact read

/-! ## Plain text -/

/-- A character that stays as it is when a number is read, wherever it stands. -/
def Plain (c : Char) : Prop := c.toNat < 128 ∧ Text.isSpace c = false ∧ c ≠ '_'

instance : DecidablePred Plain := fun _ => inferInstanceAs (Decidable (_ ∧ _ ∧ _))

theorem digit_cases {c : Char} (digit : c.isDigit = true) : ∃ n < 10, c = Nat.digitChar n := by
  have range : 48 ≤ c.toNat ∧ c.toNat ≤ 57 := by
    simp only [Char.isDigit, ge_iff_le, Bool.and_eq_true, decide_eq_true_eq,
      UInt32.le_iff_toNat_le] at digit
    exact digit
  refine ⟨c.toNat - 48, by omega, ?_⟩
  apply Char.ext
  apply UInt32.toNat_inj.1
  show c.toNat = (Nat.digitChar (c.toNat - 48)).toNat
  rw [Nat.toNat_digitChar_of_lt_ten (by omega)]
  omega

theorem plain_digit {c : Char} (digit : c.isDigit = true) : Plain c := by
  obtain ⟨n, small, rfl⟩ := digit_cases digit
  revert n
  decide

theorem strip_plain {text : List Char} (plain : ∀ c ∈ text, Plain c) : Text.strip text = text := by
  have whole : ∀ xs : List Char, (∀ c ∈ xs, Plain c) → xs.dropWhile Text.isSpace = xs := by
    intro xs all
    cases xs with
    | nil => rfl
    | cons c xs =>
        have solid := (all c List.mem_cons_self).2.1
        simp [solid]
  rw [Text.strip, whole text plain, whole _ (fun c member => plain c (List.mem_reverse.1 member)),
    List.reverse_reverse]

theorem parse_plain {text : List Char} (plain : ∀ c ∈ text, Plain c) :
    parse text = unsigned (signed text).1 (signed text).2 := by
  have kept : text.filter (· ≠ '_') = text := by
    refine List.filter_eq_self.2 fun c member => ?_
    simpa using (plain c member).2.2
  have same : text.mapM ascii = some text := by
    have here : ∀ xs : List Char, (∀ c ∈ xs, Plain c) → xs.mapM ascii = some xs := by
      intro xs all
      induction xs with
      | nil => rfl
      | cons c xs ih =>
          have low : ascii c = some c := if_pos (all c List.mem_cons_self).1
          rw [List.mapM_cons, low, ih fun d member => all d (List.mem_cons_of_mem c member)]
          rfl
    exact here text plain
  unfold parse
  rw [strip_plain plain, kept, same]
  rfl

theorem unsigned_digit (negative : Bool) {c : Char} (digit : c.isDigit = true) (rest : List Char) :
    unsigned negative (c :: rest) = number negative (c :: rest) := by
  obtain ⟨n, small, rfl⟩ := digit_cases digit
  have lowered : (Nat.digitChar n).toLower = Nat.digitChar n := by
    revert n
    decide
  have other : Nat.digitChar n ≠ 'i' ∧ Nat.digitChar n ≠ 'n' ∧ Nat.digitChar n ≠ 's' := by
    clear lowered digit
    revert n
    decide
  unfold unsigned
  rw [List.map_cons, lowered]
  split
  · rename_i same
    exact absurd (List.cons.inj same).1 other.1
  · rename_i same
    exact absurd (List.cons.inj same).1 other.1
  · rename_i same
    exact absurd (List.cons.inj same).1 other.2.1
  · rename_i same
    exact absurd (List.cons.inj same).1 other.2.2
  · rfl

/-- What `str` writes of a finite number begins with a digit, and is plain. -/
theorem written_plain (coefficient : Nat) (exponent : Int) :
    (∃ c rest, written coefficient exponent = c :: rest ∧ c.isDigit = true) ∧
      ∀ c ∈ written coefficient exponent, Plain c := by
  obtain ⟨some, whole, part, _, _⟩ :=
    pointed_digits (digits_ne_nil coefficient) (toDigits_digit coefficient) exponent
  constructor
  · obtain ⟨c, rest, first⟩ := List.exists_cons_of_ne_nil some
    have digit := whole c (by rw [first]; exact List.mem_cons_self)
    have begins : ∃ rest, written coefficient exponent = c :: rest := by
      dsimp only [written]
      rw [first, List.cons_append, List.cons_append]
      exact ⟨_, rfl⟩
    obtain ⟨rest, begins⟩ := begins
    exact ⟨c, rest, begins, digit⟩
  · intro c member
    rcases List.mem_append.1 member with mantissa | power
    · rcases List.mem_append.1 mantissa with inWhole | inPart
      · exact plain_digit (whole c inWhole)
      · split at inPart
        · cases inPart
        · rcases List.mem_cons.1 inPart with rfl | inPart
          · decide
          · exact plain_digit (part c inPart)
    · split at power
      · cases power
      · rcases List.mem_cons.1 power with rfl | power
        · decide
        · rcases List.mem_cons.1 power with same | digit
          · rw [same]
            split
            · decide
            · decide
          · exact plain_digit (toDigits_digit _ c digit)

theorem signed_sign (negative : Bool) {c : Char} {rest : List Char} (unsigned : c ≠ '-' ∧ c ≠ '+') :
    signed (sign negative ++ c :: rest) = (negative, c :: rest) := by
  cases negative with
  | true => rfl
  | false =>
      show signed (c :: rest) = _
      unfold signed
      split
      · rename_i same
        exact absurd (List.cons.inj same).1 unsigned.1
      · rename_i same
        exact absurd (List.cons.inj same).1 unsigned.2
      · rfl

theorem plain_sign (negative : Bool) {text : List Char} (plain : ∀ c ∈ text, Plain c) :
    ∀ c ∈ sign negative ++ text, Plain c := by
  intro c member
  rcases List.mem_append.1 member with first | rest
  · cases negative with
    | true =>
        rw [List.mem_singleton.1 first]
        decide
    | false => cases first
  · exact plain c rest

theorem infinity_plain : ∀ c ∈ "Infinity".toList, Plain c := by
  have all : "Infinity".toList.all (fun c => decide (Plain c)) = true := by decide
  intro c member
  exact of_decide_eq_true (List.all_eq_true.1 all c member)

/-- What is written of a value that is a number is plain, and is read as that value. -/
theorem parse_str {number : RawDecimal} (defined : number.isNan = false) :
    parse number.str = some number ∧ ∀ c ∈ number.str, Plain c := by
  cases number with
  | nan negative signaling payload => cases defined
  | infinity negative =>
      have plain : ∀ c ∈ (RawDecimal.infinity negative).str, Plain c :=
        plain_sign negative infinity_plain
      refine ⟨?_, plain⟩
      rw [parse_plain plain]
      cases negative with
      | true => rfl
      | false => rfl
  | finite negative coefficient exponent bounded =>
      obtain ⟨⟨c, rest, first, digit⟩, all⟩ := written_plain coefficient exponent
      have plain : ∀ d ∈ (RawDecimal.finite negative coefficient exponent bounded).str, Plain d :=
        plain_sign negative all
      have unsigned : c ≠ '-' ∧ c ≠ '+' := by
        obtain ⟨n, small, rfl⟩ := digit_cases digit
        clear first digit
        revert n
        decide
      refine ⟨?_, plain⟩
      rw [parse_plain plain]
      show RawDecimal.unsigned (signed (sign negative ++ written coefficient exponent)).1
        (signed (sign negative ++ written coefficient exponent)).2 = _
      rw [first, signed_sign negative unsigned, unsigned_digit negative digit, ← first,
        number_str negative bounded]

end RawDecimal

end AlgoTrader.Core
