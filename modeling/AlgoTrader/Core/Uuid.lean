/-
# Core.Uuid -- order identifiers and their spellings

Every order is keyed by a UUID.  The code writes it one way, `str(uuid)`, and reads
it many ways: `UUID(text)` drops `urn:`, `uuid:`, braces and hyphens and hands what
is left to `int(text, 16)`, which itself folds case, Unicode digits and blanks and
takes a sign, a `0x` and single underscores.

* `Uuid.str` -- the one canonical spelling.
* `Uuid.parse` -- the reading, spelling by spelling.
* `Uuid.parse_str` -- the canonical spelling reads back; so `str` is injective.
-/
import Mathlib.Data.List.Basic
import Mathlib.Tactic.Ring

namespace AlgoTrader.Core

set_option autoImplicit false

instance uuidBound : NeZero (2 ^ 128) := ⟨by decide⟩

/-- A 128-bit identifier. -/
structure Uuid where
  int : Fin (2 ^ 128)
  deriving DecidableEq, Repr

namespace Uuid

/-! ## Writing -/

def hexChar (n : Nat) : Char :=
  if n < 10 then Char.ofNat (48 + n) else Char.ofNat (87 + n)

/-- The low `k` hexadecimal digits of `n`, most significant first. -/
def hexDigits : Nat → Nat → List Char
  | 0, _ => []
  | k + 1, n => hexDigits k (n / 16) ++ [hexChar (n % 16)]

/-- The characters of `str(uuid)`: 32 lower-case digits in groups of 8, 4, 4, 4 and 12. -/
def chars (u : Uuid) : List Char :=
  let hex := hexDigits 32 u.int
  hex.take 8 ++ '-' :: ((hex.drop 8).take 4 ++ '-' :: ((hex.drop 12).take 4 ++
    '-' :: ((hex.drop 16).take 4 ++ '-' :: hex.drop 20)))

def str (u : Uuid) : String := String.ofList u.chars

/-! ## Reading -/

/-- `text.replace(pattern, '')`: every occurrence, from the left, is removed.  The
number is what is still to be skipped of the occurrence under way. -/
def removeAll (pattern : List Char) : Nat → List Char → List Char
  | _, [] => []
  | skip + 1, _ :: cs => removeAll pattern skip cs
  | 0, c :: cs =>
      if pattern.isPrefixOf (c :: cs) then removeAll pattern (pattern.length - 1) cs
      else c :: removeAll pattern 0 cs

def isBrace (c : Char) : Bool := c = '\x7b' || c = '\x7d'

/-- `text.strip('{}')`. -/
def stripBraces (cs : List Char) : List Char :=
  ((cs.dropWhile isBrace).reverse.dropWhile isBrace).reverse

/-- The blanks `int` skips around an ASCII numeral. -/
def isBlank (c : Char) : Bool := c = ' ' || (9 ≤ c.toNat && c.toNat ≤ 13)

/-- The other blanks of `str.isspace`, outside ASCII. -/
def wideBlanks : List Nat :=
  [0x85, 0xa0, 0x1680, 0x2000, 0x2001, 0x2002, 0x2003, 0x2004, 0x2005, 0x2006, 0x2007,
    0x2008, 0x2009, 0x200a, 0x2028, 0x2029, 0x202f, 0x205f, 0x3000]

/-- The zeros of the runs of ten decimal digits outside ASCII. -/
def wideZeros : List Nat :=
  [0x660, 0x6f0, 0x7c0, 0x966, 0x9e6, 0xa66, 0xae6, 0xb66, 0xbe6, 0xc66, 0xce6, 0xd66,
    0xde6, 0xe50, 0xed0, 0xf20, 0x1040, 0x1090, 0x17e0, 0x1810, 0x1946, 0x19d0, 0x1a80,
    0x1a90, 0x1b50, 0x1bb0, 0x1c40, 0x1c50, 0xa620, 0xa8d0, 0xa900, 0xa9d0, 0xa9f0, 0xaa50,
    0xabf0, 0xff10, 0x104a0, 0x10d30, 0x11066, 0x110f0, 0x11136, 0x111d0, 0x112f0, 0x11450,
    0x114d0, 0x11650, 0x116c0, 0x11730, 0x118e0, 0x11950, 0x11c50, 0x11d50, 0x11da0, 0x11f50,
    0x16a60, 0x16ac0, 0x16b50, 0x1d7ce, 0x1d7d8, 0x1d7e2, 0x1d7ec, 0x1d7f6, 0x1e140, 0x1e2f0,
    0x1e4f0, 0x1e950, 0x1fbf0]

/-- One character as `int` sees it: blanks outside ASCII become a space, decimal
digits become ASCII digits, and anything else outside ASCII becomes `?`. -/
def foldChar (c : Char) : Char :=
  if c.toNat < 127 then c
  else if c.toNat ∈ wideBlanks then ' '
  else match wideZeros.find? fun start => start ≤ c.toNat && c.toNat < start + 10 with
    | some start => hexChar (c.toNat - start)
    | none => '?'

/-- The value of a hexadecimal digit of either case. -/
def digitValue (c : Char) : Option Nat :=
  if '0' ≤ c ∧ c ≤ '9' then some (c.toNat - 48)
  else if 'a' ≤ c ∧ c ≤ 'f' then some (c.toNat - 87)
  else if 'A' ≤ c ∧ c ≤ 'F' then some (c.toNat - 55)
  else none

/-- The digits of a numeral: their value and what follows them.  `previous` is the
character before; an underscore may stand only between two digits. -/
def scanDigits (previous : Char) (value : Nat) : List Char → Option (Nat × List Char)
  | [] => if previous = '_' then none else some (value, [])
  | c :: cs =>
      if c = '_' then
        if previous = '_' then none else scanDigits c value cs
      else match digitValue c with
        | some d => scanDigits c (value * 16 + d) cs
        | none => if previous = '_' then none else some (value, c :: cs)

/-- The optional `0x` of a numeral, with the one underscore allowed after it. -/
def dropHexPrefix : List Char → List Char
  | '0' :: x :: cs =>
      if x = 'x' ∨ x = 'X' then
        match cs with
        | '_' :: rest => rest
        | cs => cs
      else '0' :: x :: cs
  | cs => cs

/-- The optional sign of a numeral: whether it is negative, and what follows. -/
def readSign : List Char → Bool × List Char
  | '+' :: rest => (false, rest)
  | '-' :: rest => (true, rest)
  | cs => (false, cs)

/-- `int(text, 16)`. -/
def intBase16 (cs : List Char) : Option Int :=
  let signed := readSign ((cs.map foldChar).dropWhile isBlank)
  match dropHexPrefix signed.2 with
  | [] => none
  | start :: rest =>
      match digitValue start, scanDigits '0' 0 (start :: rest) with
      | some _, some (value, trailing) =>
          if trailing.all isBlank then some (if signed.1 then -(value : Int) else value)
          else none
      | _, _ => none

/-- `UUID(text)`, or `none` where it raises `ValueError`. -/
def parseChars (cs : List Char) : Option Uuid :=
  let hex := removeAll "uuid:".toList 0 (removeAll "urn:".toList 0 cs)
  let hex := removeAll ['-'] 0 (stripBraces hex)
  if hex.length = 32 then
    match intBase16 hex with
    | some value =>
        if bound : 0 ≤ value ∧ value < 2 ^ 128 then
          some ⟨⟨value.toNat, by omega⟩⟩
        else none
    | none => none
  else none

def parse (text : String) : Option Uuid := parseChars text.toList

/-- Whether `text` is the spelling `str` gives the identifier it reads as. -/
def Canonical (text : String) : Prop := ∃ u : Uuid, text = u.str

/-! ## The canonical spelling reads back -/

/-- What reading needs to know of one hexadecimal character. -/
theorem hexChar_facts : ∀ n < 16, digitValue (hexChar n) = some n ∧ hexChar n ≠ '_' ∧
    hexChar n ≠ '-' ∧ hexChar n ≠ 'u' ∧ hexChar n ≠ '+' ∧ hexChar n ≠ 'x' ∧ hexChar n ≠ 'X' ∧
    isBrace (hexChar n) = false ∧ isBlank (hexChar n) = false ∧
    foldChar (hexChar n) = hexChar n := by
  decide

theorem mem_hexDigits {k n : Nat} {c : Char} (member : c ∈ hexDigits k n) :
    ∃ d < 16, c = hexChar d := by
  induction k generalizing n with
  | zero => simp [hexDigits] at member
  | succ k ih =>
      rcases List.mem_append.1 member with older | last
      · exact ih older
      · exact ⟨n % 16, Nat.mod_lt _ (by decide), List.mem_singleton.1 last⟩

@[simp] theorem length_hexDigits (k n : Nat) : (hexDigits k n).length = k := by
  induction k generalizing n with
  | zero => rfl
  | succ k ih => simp [hexDigits, ih]

/-- A pattern whose first character does not occur is not found. -/
theorem removeAll_absent {p : Char} {pattern cs : List Char} (absent : p ∉ cs) :
    removeAll (p :: pattern) 0 cs = cs := by
  induction cs with
  | nil => rfl
  | cons c cs ih =>
      have different : ¬ (p == c) = true := by
        simpa using fun same : p = c => absent (same ▸ List.mem_cons_self ..)
      have rest := ih fun member => absent (List.mem_cons_of_mem _ member)
      simp [removeAll, List.isPrefixOf, different, rest]

theorem removeAll_single (p : Char) (cs : List Char) :
    removeAll [p] 0 cs = cs.filter (· ≠ p) := by
  induction cs with
  | nil => rfl
  | cons c cs ih =>
      by_cases same : c = p
      · simp [removeAll, List.isPrefixOf, same, ih]
      · simp [removeAll, List.isPrefixOf, same, Ne.symm same, ih]

theorem dropWhile_absent {p : Char → Bool} {cs : List Char} (absent : ∀ c ∈ cs, p c = false) :
    cs.dropWhile p = cs := by
  cases cs with
  | nil => rfl
  | cons c cs => simp [absent c (List.mem_cons_self ..)]

theorem stripBraces_absent {cs : List Char} (absent : ∀ c ∈ cs, isBrace c = false) :
    stripBraces cs = cs := by
  have reversed : ∀ c ∈ cs.reverse, isBrace c = false := by simpa using absent
  rw [stripBraces, dropWhile_absent absent, dropWhile_absent reversed, List.reverse_reverse]

theorem mem_chars {u : Uuid} {c : Char} (member : c ∈ u.chars) :
    c = '-' ∨ c ∈ hexDigits 32 u.int := by
  simp only [chars, List.mem_append, List.mem_cons] at member
  rcases member with h | h | h | h | h | h | h | h | h
  · exact .inr (List.mem_of_mem_take h)
  · exact .inl h
  · exact .inr (List.mem_of_mem_drop (List.mem_of_mem_take h))
  · exact .inl h
  · exact .inr (List.mem_of_mem_drop (List.mem_of_mem_take h))
  · exact .inl h
  · exact .inr (List.mem_of_mem_drop (List.mem_of_mem_take h))
  · exact .inl h
  · exact .inr (List.mem_of_mem_drop h)

theorem filter_hexDigits {cs : List Char} (hex : ∀ c ∈ cs, ∃ d < 16, c = hexChar d) :
    cs.filter (· ≠ '-') = cs := by
  rw [List.filter_eq_self]
  intro c member
  obtain ⟨d, bound, rfl⟩ := hex c member
  simpa using (hexChar_facts d bound).2.2.1

theorem filter_chars (u : Uuid) : u.chars.filter (· ≠ '-') = hexDigits 32 u.int := by
  have hex : ∀ c ∈ hexDigits 32 u.int, ∃ d < 16, c = hexChar d := fun _ => mem_hexDigits
  have groups : hexDigits 32 u.int = (hexDigits 32 u.int).take 8 ++
      (((hexDigits 32 u.int).drop 8).take 4 ++ (((hexDigits 32 u.int).drop 12).take 4 ++
        (((hexDigits 32 u.int).drop 16).take 4 ++ (hexDigits 32 u.int).drop 20))) := by
    have cut : ∀ n k, ((hexDigits 32 u.int).drop n).take k ++ (hexDigits 32 u.int).drop (n + k) =
        (hexDigits 32 u.int).drop n := fun n k => by
      rw [← List.drop_drop, List.take_append_drop]
    rw [cut 16 4, cut 12 4, cut 8 4, List.take_append_drop]
  conv_rhs => rw [groups]
  simp only [chars, List.filter_append, List.filter_cons]
  rw [filter_hexDigits fun c h => hex c (List.mem_of_mem_take h),
    filter_hexDigits fun c h => hex c (List.mem_of_mem_drop (List.mem_of_mem_take h)),
    filter_hexDigits fun c h => hex c (List.mem_of_mem_drop (List.mem_of_mem_take h)),
    filter_hexDigits fun c h => hex c (List.mem_of_mem_drop (List.mem_of_mem_take h)),
    filter_hexDigits fun c h => hex c (List.mem_of_mem_drop h)]
  simp

/-- One more digit of a numeral read left to right. -/
def shiftIn (value : Nat) (c : Char) : Nat := value * 16 + (digitValue c).getD 0

theorem scanDigits_hex {cs : List Char} (hex : ∀ c ∈ cs, ∃ d < 16, c = hexChar d)
    {previous : Char} (start : previous ≠ '_') (value : Nat) :
    scanDigits previous value cs = some (cs.foldl shiftIn value, []) := by
  induction cs generalizing previous value with
  | nil => simp [scanDigits, start]
  | cons c cs ih =>
      obtain ⟨d, bound, rfl⟩ := hex c (List.mem_cons_self ..)
      have facts := hexChar_facts d bound
      have rest := ih (fun c member => hex c (List.mem_cons_of_mem _ member)) facts.2.1
        (value * 16 + d)
      simp [scanDigits, facts.1, facts.2.1, rest, shiftIn]

/-- The digits `hexDigits` writes add up to the number again. -/
theorem foldl_hexDigits (k n value : Nat) :
    (hexDigits k n).foldl shiftIn value = value * 16 ^ k + n % 16 ^ k := by
  induction k generalizing n with
  | zero => simp [hexDigits, Nat.mod_one]
  | succ k ih =>
      have digit := (hexChar_facts (n % 16) (Nat.mod_lt _ (by decide))).1
      have split : n % 16 ^ (k + 1) = n / 16 % 16 ^ k * 16 + n % 16 := by
        rw [Nat.pow_succ, Nat.mul_comm, Nat.mod_mul]
        ring
      rw [hexDigits, List.foldl_append, ih, split]
      simp only [List.foldl_cons, List.foldl_nil, shiftIn, digit, Option.getD_some]
      ring

/-- A list of hexadecimal characters is a numeral with no sign, prefix or blanks. -/
theorem intBase16_hex {c : Char} {cs : List Char}
    (hex : ∀ x ∈ c :: cs, ∃ d < 16, x = hexChar d) :
    intBase16 (c :: cs) = some (((c :: cs).foldl shiftIn 0 : Nat) : Int) := by
  have folded : (c :: cs).map foldChar = c :: cs := by
    refine (List.map_congr_left fun x member => ?_).trans (List.map_id _)
    obtain ⟨d, bound, rfl⟩ := hex x member
    exact (hexChar_facts d bound).2.2.2.2.2.2.2.2.2
  have unblanked : (c :: cs).dropWhile isBlank = c :: cs := dropWhile_absent fun x member => by
    obtain ⟨d, bound, rfl⟩ := hex x member
    exact (hexChar_facts d bound).2.2.2.2.2.2.2.2.1
  obtain ⟨d, bound, rfl⟩ := hex c (List.mem_cons_self ..)
  obtain ⟨digit, -, minus, -, plus, -⟩ := hexChar_facts d bound
  have unsigned : readSign (hexChar d :: cs) = (false, hexChar d :: cs) := by
    unfold readSign
    split <;> simp_all
  have unprefixed : dropHexPrefix (hexChar d :: cs) = hexChar d :: cs := by
    cases cs with
    | nil => unfold dropHexPrefix; split <;> simp_all
    | cons y ys =>
        obtain ⟨e, small, rfl⟩ := hex y (by simp)
        obtain ⟨-, -, -, -, -, lower, upper, -⟩ := hexChar_facts e small
        unfold dropHexPrefix
        split <;> simp_all
  have scanned := scanDigits_hex hex (show '0' ≠ '_' by decide) 0
  simp [intBase16, folded, unblanked, unsigned, unprefixed, digit, scanned]

theorem intBase16_hexDigits (u : Uuid) :
    intBase16 (hexDigits 32 u.int) = some ((u.int : Nat) : Int) := by
  have hex : ∀ c ∈ hexDigits 32 u.int, ∃ d < 16, c = hexChar d := fun _ => mem_hexDigits
  have total := foldl_hexDigits 32 u.int 0
  cases digits : hexDigits 32 u.int with
  | nil => simpa [digits] using length_hexDigits 32 u.int
  | cons c cs =>
      have small : (u.int : Nat) % 16 ^ 32 = u.int := Nat.mod_eq_of_lt u.int.isLt
      rw [intBase16_hex (digits ▸ hex), ← digits, total, Nat.zero_mul, Nat.zero_add, small]

/-- A text without letters or braces to drop is read by its digits. -/
theorem parseChars_plain {cs : List Char} {u : Uuid}
    (plain : ∀ c ∈ cs, c ≠ 'u' ∧ isBrace c = false)
    (digits : cs.filter (· ≠ '-') = hexDigits 32 u.int) : parseChars cs = some u := by
  have unlettered : ∀ pattern, removeAll ('u' :: pattern) 0 cs = cs := fun pattern =>
    removeAll_absent fun member => (plain _ member).1 rfl
  have hyphens : removeAll ['-'] 0 cs = hexDigits 32 u.int := (removeAll_single '-' cs).trans digits
  have unbraced := stripBraces_absent fun c member => (plain c member).2
  have inRange : (0 : Int) ≤ (u.int : Nat) ∧ ((u.int : Nat) : Int) < 2 ^ 128 := by
    have := u.int.isLt
    omega
  rw [parseChars, show "urn:".toList = 'u' :: ['r', 'n', ':'] from rfl,
    show "uuid:".toList = 'u' :: ['u', 'i', 'd', ':'] from rfl]
  simp [unlettered, unbraced, hyphens, intBase16_hexDigits, inRange]

theorem hexDigits_plain {u : Uuid} {c : Char} (member : c ∈ hexDigits 32 u.int) :
    c ≠ 'u' ∧ isBrace c = false := by
  obtain ⟨d, bound, rfl⟩ := mem_hexDigits member
  have facts := hexChar_facts d bound
  exact ⟨facts.2.2.2.1, facts.2.2.2.2.2.2.2.1⟩

/-- `UUID(uuid.hex)`. -/
theorem parseChars_hexDigits (u : Uuid) : parseChars (hexDigits 32 u.int) = some u :=
  parseChars_plain (fun _ => hexDigits_plain) (filter_hexDigits fun _ => mem_hexDigits)

/-- **The canonical spelling reads back.** -/
theorem parse_str (u : Uuid) : parse u.str = some u := by
  have plain : ∀ c ∈ u.chars, c ≠ 'u' ∧ isBrace c = false := by
    intro c member
    rcases mem_chars member with rfl | member
    · decide
    · exact hexDigits_plain member
  rw [parse, str, String.toList_ofList]
  exact parseChars_plain plain (filter_chars u)

theorem str_injective : Function.Injective str := by
  intro u v same
  have read := parse_str u
  rw [same, parse_str v] at read
  exact (Option.some.inj read).symm

end Uuid

end AlgoTrader.Core
