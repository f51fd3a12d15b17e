/-
# Brokers.Json -- what a venue answers with

A response body as `response.json()` gives it, and the parts of the language the adapters
read one with: `isinstance(_, Mapping)`, `Mapping.get`, truth values, `str`, `lower`, and
`Decimal` of a text.  A member that is missing reads as `None` does.

Of a float only its text is kept; of the characters a string is quoted with, those beyond
ASCII are taken to be printable.
-/
import AlgoTrader.Brokers.Http

namespace AlgoTrader.Brokers

open AlgoTrader.Core

set_option autoImplicit false

inductive Json where
  | null
  | bool (value : Bool)
  | int (value : Int)
  /-- A float, as `repr` writes it. -/
  | float (text : String)
  | string (value : String)
  | list (items : List Json)
  | object (members : List (String × Json))

namespace Json

def isMapping : Json → Bool
  | .object _ => true
  | _ => false

def isList : Json → Bool
  | .list _ => true
  | _ => false

theorem eq_list {json : Json} (list : json.isList) : ∃ items, json = .list items := by
  cases json with
  | list items => exact ⟨items, rfl⟩
  | _ => cases list

/-- The member of an object; of a repeated name the last one counts. -/
def member? (name : String) : Json → Option Json
  | .object members => (members.reverse.find? fun m => m.1 = name).map Prod.snd
  | _ => none

/-- `payload.get(name)`. -/
def get (json : Json) (name : String) : Json := (json.member? name).getD .null

/-- `bool(value)`. -/
def truthy : Json → Bool
  | .null => false
  | .bool value => value
  | .int value => value ≠ 0
  | .float text => text ≠ "0.0" ∧ text ≠ "-0.0"
  | .string value => value ≠ ""
  | .list items => !items.isEmpty
  | .object members => !members.isEmpty

/-- `a or b`. -/
def or (a b : Json) : Json := if a.truthy then a else b

/-- `value is False` and `value is True`. -/
def is (value : Bool) : Json → Bool
  | .bool b => b = value
  | _ => false

/-! ## Texts -/

def hexDigit (n : Nat) : Char := (Nat.digitChar n)

/-- A character inside quotes. -/
def escaped (quote : Char) (c : Char) : List Char :=
  if c = quote ∨ c = '\\' then ['\\', c]
  else if c = '\n' then ['\\', 'n']
  else if c = '\r' then ['\\', 'r']
  else if c = '\t' then ['\\', 't']
  else if c.toNat < 32 ∨ c.toNat = 127 then
    ['\\', 'x', hexDigit (c.toNat / 16), hexDigit (c.toNat % 16)]
  else [c]

/-- `repr` of a string. -/
def quoted (s : String) : String :=
  let quote := if '\'' ∈ s.toList ∧ '"' ∉ s.toList then '"' else '\''
  String.ofList (quote :: s.toList.flatMap (escaped quote) ++ [quote])

mutual

def repr : Json → String
  | .null => "None"
  | .bool true => "True"
  | .bool false => "False"
  | .int value => toString value
  | .float text => text
  | .string value => quoted value
  | .list items => "[" ++ ", ".intercalate (reprItems items) ++ "]"
  | .object members => "\x7b" ++ ", ".intercalate (reprMembers members) ++ "\x7d"

def reprItems : List Json → List String
  | [] => []
  | item :: rest => repr item :: reprItems rest

def reprMembers : List (String × Json) → List String
  | [] => []
  | (name, value) :: rest => (quoted name ++ ": " ++ repr value) :: reprMembers rest

end

/-- `str(value)`. -/
def str : Json → String
  | .string value => value
  | value => value.repr

end Json

/-- `text.lower()`, as far as a comparison with an ASCII word can tell: the one character
beyond ASCII with a lower case in it is the Kelvin sign. -/
def lower (text : String) : String :=
  String.ofList (text.toList.map fun c => if c = '\u212a' then 'k' else c.toLower)

/-! ## Numbers -/

/-- Some digits, and how many there are. -/
def digits (text : List Char) : Option (Nat × Nat) :=
  if text.all Char.isDigit then
    some (text.foldl (fun n c => 10 * n + (c.toNat - '0'.toNat)) 0, text.length)
  else none

/-- Digits with a point among them. -/
def mantissa (text : List Char) : Option Decimal := do
  let (whole, rest) := text.span (· ≠ '.')
  let (n, before) ← digits whole
  let (m, after) ← digits rest.tail
  if before + after = 0 then none else some (n + m / 10 ^ after)

/-- A number and its sign. -/
def signedBy {α : Type} (negate : α → α) (read : List Char → Option α) : List Char → Option α
  | '-' :: rest => (read rest).map negate
  | '+' :: rest => read rest
  | text => read text

def exponent (text : List Char) : Option Int :=
  signedBy Neg.neg (fun rest => do
    let (n, count) ← digits rest
    if count = 0 then none else some (n : Int)) text

/-- `text.strip()`. -/
def strip (text : List Char) : List Char :=
  ((text.dropWhile Char.isWhitespace).reverse.dropWhile Char.isWhitespace).reverse

/-- `Decimal(text)` where it is a number: nothing for what is none, nor for the infinite and
undefined values, which no field and no comparison of the adapters accepts. -/
def decimalOf (text : String) : Option Decimal :=
  let (number, power) := ((strip text.toList).filter (· ≠ '_')).span fun c => c ≠ 'e' ∧ c ≠ 'E'
  match power with
  | [] => signedBy Neg.neg mantissa number
  | _ :: power => do
      let value ← signedBy Neg.neg mantissa number
      let scale ← exponent power
      return if 0 ≤ scale then value * 10 ^ scale.toNat else value / 10 ^ (-scale).toNat

example : decimalOf " -1_2.50e1" = some (-125) := by decide +kernel

end AlgoTrader.Brokers
