/-
# Core.Numerals -- finite decimals and plain numerals

A `Decimal` that a bound has let through is finite.  It keeps its digits and its exponent, and
`str` writes it without an exponent only where that is short.

* `parse_text` -- whatever `str` writes, `Decimal` reads back;
* `denoted_text_iff` -- what it writes is a plain numeral exactly where the number is `Plain`,
  and then denotes the number.
-/
import Mathlib.Algebra.Order.Field.Rat
import Mathlib.Tactic.FieldSimp
import AlgoTrader.Core.RawDecimal

namespace AlgoTrader.Core

set_option autoImplicit false

/-- What a numeral without a sign and an exponent denotes: digits, or digits around a point. -/
def denotedUnsigned (text : List Char) : Option Decimal :=
  let parts := text.span (· ≠ '.')
  let whole := parts.1
  let part := parts.2.tail
  if whole ≠ [] ∧ (parts.2 ≠ [] → part ≠ []) ∧ (whole ++ part).all Char.isDigit then
    some (Nat.ofDigitChars 10 (whole ++ part) 0 / 10 ^ part.length)
  else none

/-- What a plain numeral denotes. -/
def denoted : List Char → Option Decimal
  | '-' :: text => (denotedUnsigned text).map Neg.neg
  | text => denotedUnsigned text

/-- A finite `Decimal`, as it is kept. -/
structure Numeral where
  negative : Bool
  coefficient : Nat
  exponent : Int
  bounded : Bounded coefficient exponent

namespace Numeral

def raw (number : Numeral) : RawDecimal :=
  .finite number.negative number.coefficient number.exponent number.bounded

def value (number : Numeral) : Decimal :=
  RawDecimal.value number.negative number.coefficient number.exponent

/-- `str(number)`. -/
def text (number : Numeral) : List Char := number.raw.str

/-- Digits behind the point at most, and no more than six places before the first one that
counts. -/
def Plain (number : Numeral) : Prop :=
  number.exponent ≤ 0 ∧ -6 < number.exponent + (Nat.toDigits 10 number.coefficient).length

instance : DecidablePred Plain := fun _ => inferInstanceAs (Decidable (_ ∧ _))

/-- Nothing that is written of a number is lost to a reader who knows exponents. -/
theorem parse_text (number : Numeral) : RawDecimal.parse number.text = some number.raw :=
  (RawDecimal.parse_str rfl).1

end Numeral

/-! ## Characters of a plain numeral -/

theorem denotedUnsigned_digits {text : List Char} {value : Decimal}
    (read : denotedUnsigned text = some value) : ∀ c ∈ text, c.isDigit = true ∨ c = '.' := by
  unfold denotedUnsigned at read
  dsimp only at read
  split at read
  · rename_i shape
    have digits := List.all_eq_true.1 shape.2.2
    intro c member
    rw [← List.takeWhile_append_dropWhile (p := fun c => decide (c ≠ '.')) (l := text)] at member
    rw [List.span_eq_takeWhile_dropWhile] at digits
    rcases List.mem_append.1 member with first | rest
    · exact .inl (digits c (List.mem_append_left _ first))
    · cases behind : text.dropWhile fun c => decide (c ≠ '.') with
      | nil =>
          rw [behind] at rest
          cases rest
      | cons point part =>
          rw [behind] at rest digits
          rcases List.mem_cons.1 rest with rfl | inPart
          · have stops := List.head?_dropWhile_not (fun c => decide (c ≠ '.')) text
            rw [behind] at stops
            exact .inr (by simpa using stops)
          · exact .inl (digits c (List.mem_append_right _ inPart))
  · cases read

theorem denoted_digits {text : List Char} {value : Decimal} (read : denoted text = some value) :
    ∀ c ∈ text, c.isDigit = true ∨ c = '.' ∨ c = '-' := by
  unfold denoted at read
  split at read
  · rename_i rest
    obtain ⟨_, inner, _⟩ := Option.map_eq_some_iff.1 read
    intro c member
    rcases List.mem_cons.1 member with rfl | member
    · exact .inr (.inr rfl)
    · exact (denotedUnsigned_digits inner c member).imp_right .inl
  · exact fun c member => (denotedUnsigned_digits read c member).imp_right .inl

/-! ## When `str` writes one -/

/-- Digits around a point denote what they spell, so many places in. -/
theorem denotedUnsigned_pointed {whole part : List Char} (some : whole ≠ [])
    (wholeDigits : ∀ c ∈ whole, c.isDigit = true) (partDigits : ∀ c ∈ part, c.isDigit = true) :
    denotedUnsigned (whole ++ if part = [] then [] else '.' :: part) =
      .some (Nat.ofDigitChars 10 (whole ++ part) 0 / 10 ^ part.length) := by
  have behind : (if part = [] then [] else '.' :: part : List Char) ≠ [] → part ≠ [] := by
    intro there none
    exact there (if_pos none)
  simp only [denotedUnsigned, RawDecimal.span_pointed wholeDigits, RawDecimal.tail_pointed]
  exact if_pos ⟨some, behind, RawDecimal.all_digits wholeDigits partDigits⟩

namespace RawDecimal

theorem pointAt_near {exponent left : Int} (near : exponent ≤ 0 ∧ -6 < left) :
    pointAt exponent left = left := if_pos near

/-- Beyond six places, or above the units, an exponent is needed. -/
theorem pointAt_far {exponent : Int} {digits : Nat} (some : 0 < digits)
    (far : ¬(exponent ≤ 0 ∧ -6 < exponent + digits)) :
    exponent + digits ≠ pointAt exponent (exponent + digits) := by
  rw [pointAt, if_neg far]
  omega

theorem written_near {coefficient : Nat} {exponent : Int}
    (near : exponent ≤ 0 ∧ -6 < exponent + (Nat.toDigits 10 coefficient).length) :
    denotedUnsigned (written coefficient exponent) = some (coefficient * (10 : Decimal) ^ exponent) := by
  obtain ⟨some, whole, part, value, scale⟩ :=
    pointed_digits (digits_ne_nil coefficient) (toDigits_digit coefficient) exponent
  rw [ofDigits_toDigits] at value
  unfold written
  dsimp only
  rw [pointAt_near near] at some whole part value scale ⊢
  rw [if_pos rfl, List.append_nil, denotedUnsigned_pointed some whole part, value]
  have places : exponent = -((pointed (Nat.toDigits 10 coefficient)
      (exponent + (Nat.toDigits 10 coefficient).length)).2.length : Int) := by omega
  conv_rhs => rw [places, zpow_neg, zpow_natCast]
  rw [div_eq_mul_inv]

theorem written_far {coefficient : Nat} {exponent : Int}
    (far : ¬(exponent ≤ 0 ∧ -6 < exponent + (Nat.toDigits 10 coefficient).length)) :
    'E' ∈ written coefficient exponent := by
  have some : 0 < (Nat.toDigits 10 coefficient).length := List.length_pos_iff.2 (digits_ne_nil _)
  unfold written
  dsimp only
  rw [if_neg (pointAt_far some far)]
  exact List.mem_append_right _ List.mem_cons_self

end RawDecimal

namespace Numeral

theorem denoted_positive {text : List Char} {c : Char} {rest : List Char} (first : text = c :: rest)
    (digit : c.isDigit = true) : denoted text = denotedUnsigned text := by
  subst first
  unfold denoted
  split
  · rename_i same
    rw [(List.cons.inj same).1] at digit
    cases digit
  · rfl

/-- **Plain numerals.** `str` writes a finite number as a plain numeral exactly where it is
plain, and then the numeral denotes the number. -/
theorem denoted_text (number : Numeral) :
    denoted number.text = if number.Plain then some number.value else none := by
  obtain ⟨⟨c, rest, first, digit⟩, _⟩ :=
    RawDecimal.written_plain number.coefficient number.exponent
  by_cases plain : number.Plain
  · rw [if_pos plain]
    have written := RawDecimal.written_near plain
    unfold text raw RawDecimal.str value RawDecimal.value
    cases number.negative with
    | true =>
        show (denotedUnsigned (RawDecimal.written _ _)).map Neg.neg = _
        rw [written, Option.map_some, if_pos rfl, neg_one_mul, neg_mul]
    | false =>
        show denoted (RawDecimal.written _ _) = _
        rw [denoted_positive first digit, written, if_neg Bool.false_ne_true, one_mul]
  · rw [if_neg plain, Option.eq_none_iff_forall_ne_some]
    intro read some
    have exponent : 'E' ∈ number.text := List.mem_append_right _ (RawDecimal.written_far plain)
    exact absurd (denoted_digits some 'E' exponent) (by decide)

theorem denoted_text_iff (number : Numeral) :
    denoted number.text = some number.value ↔ number.Plain := by
  rw [denoted_text]
  by_cases plain : number.Plain
  · simp [plain]
  · simp [plain]

end Numeral

end AlgoTrader.Core
