/-
# Core.Text -- what the string methods of the source do

Strings are read as lists of characters.  `upper` is `str.upper` as far as ASCII
can tell: it writes out every character whose upper case is made of ASCII
characters, and keeps the others, none of which an ASCII pattern accepts before
or after.
-/
import Mathlib.Data.List.Basic

namespace AlgoTrader.Core.Text

set_option autoImplicit false

/-- `c.isspace()`. -/
def isSpace (c : Char) : Bool :=
  (9 ≤ c.toNat && c.toNat ≤ 13) || (28 ≤ c.toNat && c.toNat ≤ 32) ||
    (8192 ≤ c.toNat && c.toNat ≤ 8202) ||
    [133, 160, 5760, 8232, 8233, 8239, 8287, 12288].contains c.toNat

/-- `text.strip()`. -/
def strip (text : List Char) : List Char :=
  ((text.dropWhile isSpace).reverse.dropWhile isSpace).reverse

def upperOf (c : Char) : List Char :=
  if 'a' ≤ c ∧ c ≤ 'z' then [Char.ofNat (c.toNat - 32)]
  else match c.toNat with
    | 0x00DF => ['S', 'S']
    | 0x0131 => ['I']
    | 0x017F => ['S']
    | 0xFB00 => ['F', 'F']
    | 0xFB01 => ['F', 'I']
    | 0xFB02 => ['F', 'L']
    | 0xFB03 => ['F', 'F', 'I']
    | 0xFB04 => ['F', 'F', 'L']
    | 0xFB05 => ['S', 'T']
    | 0xFB06 => ['S', 'T']
    | _ => [c]

/-- `text.upper()`. -/
def upper (text : List Char) : List Char := text.flatMap upperOf

/-- `text.isascii()`. -/
def isAscii (text : List Char) : Bool := text.all fun c => c.toNat < 128

/-! ## Digits and integers -/

/-- The zeros of Unicode's decimal digits; the digits 1 to 9 follow each. -/
def zeros : List Nat :=
  [48, 1632, 1776, 1984, 2406, 2534, 2662, 2790, 2918, 3046, 3174, 3302, 3430, 3558, 3664, 3792,
    3872, 4160, 4240, 6112, 6160, 6470, 6608, 6784, 6800, 6992, 7088, 7232, 7248, 42528, 43216,
    43264, 43472, 43504, 43600, 44016, 65296, 66720, 68912, 69734, 69872, 69942, 70096, 70384,
    70736, 70864, 71248, 71360, 71472, 71904, 72016, 72784, 73040, 73120, 73552, 92768, 92864,
    93008, 120782, 120792, 120802, 120812, 120822, 123200, 123632, 124144, 125264, 130032]

/-- The value of a decimal digit. -/
def decimal? (c : Char) : Option Nat :=
  (zeros.find? fun start => start ≤ c.toNat && c.toNat < start + 10).map fun start =>
    c.toNat - start

/-- The digits that are no decimal digits, such as superscripts and circled ones. -/
def otherDigits : List (Nat × Nat) :=
  [(178, 179), (185, 185), (4969, 4977), (6618, 6618), (8304, 8304), (8308, 8313), (8320, 8329),
    (9312, 9320), (9332, 9340), (9352, 9360), (9450, 9450), (9461, 9469), (9471, 9471), (10102,
    10110), (10112, 10120), (10122, 10130), (68160, 68163), (69216, 69224), (69714, 69722),
    (127232, 127242)]

/-- `c.isdigit()`. -/
def isDigit (c : Char) : Bool :=
  (decimal? c).isSome || otherDigits.any fun range => range.1 ≤ c.toNat && c.toNat ≤ range.2

/-- `text.isdigit()`. -/
def allDigits (text : List Char) : Bool := !text.isEmpty && text.all isDigit

/-- The blanks `int` skips around its digits; unlike `strip` it stops at 28 to 31. -/
def isBlank (c : Char) : Bool := isSpace c && !(28 ≤ c.toNat && c.toNat ≤ 31)

/-- `sys.get_int_max_str_digits()`. -/
def maxDigits : Nat := 4300

/-- Decimal digits with single underscores between them. -/
def natOf (text : List Char) : Option Nat := do
  let groups := text.splitOn '_'
  let digits ← if groups.any List.isEmpty then none else groups.flatten.mapM decimal?
  if maxDigits < digits.length then none
  else some (digits.foldl (fun value digit => 10 * value + digit) 0)

/-- `int(text)`: nothing where it raises `ValueError`. -/
def intOf (text : List Char) : Option Int :=
  match ((text.dropWhile isBlank).reverse.dropWhile isBlank).reverse with
  | '-' :: rest => (natOf rest).map fun n => -(n : Int)
  | '+' :: rest => (natOf rest).map fun n => (n : Int)
  | rest => (natOf rest).map fun n => (n : Int)

example : intOf " -٥_5".toList = some (-55) := by decide

example : allDigits "²".toList = true ∧ intOf "²".toList = none := by decide

end AlgoTrader.Core.Text
