/-
# Api.Research -- what a research run is asked for

A `ResearchRunRequest` is made of a mapping of submitted values: each argument is read as a
text, a decimal or an integer, and the constructor then tests all of them in turn.

* `strip_strip`, `intOf_toDigits` -- what `to_dict` writes is read again;
* `arguments_kept` -- what the readings make of the submitted values;
* `request_kept_iff` -- which mappings are taken as they were submitted or refused with a
  `ValueError`, and which requests survive `to_dict` and `from_mapping`.
-/
import AlgoTrader.Theory.Dict
import AlgoTrader.Theory.Raising
import AlgoTrader.Brokers.Json
import AlgoTrader.Core.RawDecimal

namespace AlgoTrader.Api.Research

open AlgoTrader.Core Brokers Theory

set_option autoImplicit false

def maxCandles : Int := 5000

/-- The keys of `STRATEGY_VERSIONS`. -/
def strategyVersions : List String := ["always-buy-v1", "ma-cross-3-8-v1"]

inductive RunType where
  | backtest
  | replay
  deriving DecidableEq

def RunType.text : RunType → String
  | .backtest => "backtest"
  | .replay => "replay"

def RunType.ofText (text : String) : Option RunType :=
  if text = "backtest" then some .backtest else if text = "replay" then some .replay else none

/-- `text.strip()`. -/
def strip (text : String) : String := String.ofList (Text.strip text.toList)

/-- What the constructor is called with. -/
structure Arguments where
  datasetId : String
  strategyVersion : String
  runType : RunType
  initialCash : RawDecimal
  makerFeeRate : RawDecimal
  takerFeeRate : RawDecimal
  spreadBps : RawDecimal
  slippageBps : RawDecimal
  feeAsset : String
  partialFillRatio : RawDecimal
  trainBars : Int
  testBars : Int
  stepBars : Option Int
  holdoutBars : Int
  quantity : RawDecimal
  deriving DecidableEq

/-! ## The constructor -/

/-- Comparing the order of a `NaN` and a number raises. -/
def invalidOperation : Exc :=
  { kind := .provider
    typeName := "InvalidOperation"
    message := "[<class 'decimal.InvalidOperation'>]" }

/-- One test of the constructor: the number it compares, if there is one, and its answer. -/
structure Test where
  compared : Option RawDecimal := none
  refuses : Bool
  message : String

namespace Test

def undefined (test : Test) : Bool := test.compared.any RawDecimal.isNan

def run (test : Test) : Except Exc Unit :=
  if test.undefined then .error invalidOperation
  else if test.refuses then .error (.valueError test.message)
  else .ok ()

/-- The tests are made one after another; they keep nothing. -/
def step (test : Test) (_ : Unit) : Except Exc Unit := test.run

/-- `value <= 0 or value > most`. -/
def positive (value : RawDecimal) (most : Decimal) (message : String) : Test :=
  { compared := some value, refuses := !value.gt 0 || value.gt most, message }

/-- One of the numbers of which `any(value < 0 for value in ...)` takes one after another. -/
def cost (value : RawDecimal) : Test :=
  { compared := some value
    refuses := value.lt 0
    message := "cost assumptions cannot be negative" }

/-- A number of bars; `step_bars` may be left out. -/
def bars (least : Int) (value : Option Int) (name : String) : Test :=
  { refuses := value.any fun count => count < least ∨ maxCandles < count
    message := s!"{name} must be between {least} and {maxCandles}" }

end Test

/-- The tests of the constructor.  That `run_type` is one of two is a matter of its type. -/
def tests (given : Arguments) : List Test := [
  { refuses := given.datasetId = "" ∨ 64 < given.datasetId.length
    message := "dataset_id is required and must be at most 64 characters" },
  { refuses := given.strategyVersion ∉ strategyVersions
    message := "strategy_version is not an approved strategy" },
  .positive given.initialCash 1000000000 "initial_cash must be between 0 and 1000000000",
  .cost given.makerFeeRate,
  .cost given.takerFeeRate,
  .cost given.spreadBps,
  .cost given.slippageBps,
  { refuses := strip given.feeAsset = "" ∨ 16 < given.feeAsset.length
    message := "fee_asset is required and must be at most 16 characters" },
  .positive given.partialFillRatio 1 "partial_fill_ratio must be greater than 0 and at most 1",
  .positive given.quantity 1000 "quantity must be greater than 0 and at most 1000",
  .bars 1 given.trainBars "train_bars",
  .bars 1 given.testBars "test_bars",
  .bars 1 given.stepBars "step_bars",
  .bars 0 given.holdoutBars "holdout_bars"]

def validate (given : Arguments) : Except Exc Unit := runs Test.step (tests given) ()

theorem validate_ok {given : Arguments} :
    validate given = .ok () ↔ ∀ test ∈ tests given, test.run = .ok () := by
  unfold validate
  generalize tests given = all
  induction all with
  | nil => simp
  | cons test rest ih =>
      rw [runs_cons_ok, List.forall_mem_cons, ← ih]
      constructor
      · rintro ⟨_, first, later⟩
        exact ⟨first, later⟩
      · rintro ⟨first, later⟩
        exact ⟨(), first, later⟩

theorem Test.run_ok {test : Test} :
    test.run = .ok () ↔ test.undefined = false ∧ test.refuses = false := by
  unfold Test.run
  cases test.undefined with
  | true => simp
  | false =>
      cases test.refuses with
      | true => simp
      | false => simp

/-! ## Stripping -/

theorem head_dropWhile (text : List Char) :
    ∀ c ∈ (text.dropWhile Text.isSpace).head?, Text.isSpace c = false := by
  intro c first
  have solid := List.head?_dropWhile_not Text.isSpace text
  rw [first] at solid
  simpa using solid

theorem dropWhile_solid {text : List Char} (first : ∀ c ∈ text.head?, Text.isSpace c = false) :
    text.dropWhile Text.isSpace = text := by
  cases text with
  | nil => rfl
  | cons c rest =>
      have solid := first c rfl
      simp [solid]

theorem strip_strip (text : String) : strip (strip text) = strip text := by
  have again : ∀ cs : List Char, Text.strip (Text.strip cs) = Text.strip cs := by
    intro cs
    -- What is left begins as it did once the blanks in front were gone.
    have front : ∀ c ∈ (Text.strip cs).head?, Text.isSpace c = false := by
      intro c first
      refine head_dropWhile cs c ?_
      have before : Text.strip cs <+: cs.dropWhile Text.isSpace := by
        rw [← List.reverse_suffix, Text.strip, List.reverse_reverse]
        exact List.dropWhile_suffix _
      obtain ⟨rest, whole⟩ := before
      rw [← whole]
      exact List.mem_head?_append_of_mem_head? first
    have back : ∀ c ∈ (Text.strip cs).reverse.head?, Text.isSpace c = false := by
      rw [Text.strip, List.reverse_reverse]
      exact head_dropWhile _
    rw [Text.strip, dropWhile_solid front, dropWhile_solid back, List.reverse_reverse]
  rw [strip, strip, String.toList_ofList, again]

theorem length_strip (text : String) : (strip text).length ≤ text.length := by
  have shorter : (Text.strip text.toList).length ≤ text.toList.length := by
    rw [Text.strip, List.length_reverse]
    refine (List.dropWhile_suffix _).length_le.trans ?_
    rw [List.length_reverse]
    exact (List.dropWhile_suffix _).length_le
  rwa [String.length_toList, ← String.length_ofList] at shorter

/-- The tests take a stripped `fee_asset` as they take the given one. -/
theorem validate_stripped {given : Arguments} (valid : validate given = .ok ()) :
    validate { given with feeAsset := strip given.feeAsset } = .ok () := by
  rw [validate_ok] at valid ⊢
  simp only [tests, List.forall_mem_cons] at valid ⊢
  obtain ⟨dataset, strategy, cash, maker, taker, spread, slippage, fee, rest⟩ := valid
  refine ⟨dataset, strategy, cash, maker, taker, spread, slippage, ?_, rest⟩
  rw [Test.run_ok] at fee ⊢
  refine ⟨rfl, ?_⟩
  have shorter := length_strip given.feeAsset
  simp only [decide_eq_false_iff_not, not_or, not_lt, strip_strip] at fee ⊢
  exact ⟨fee.2.1, shorter.trans fee.2.2⟩

structure ResearchRunRequest extends Arguments where
  valid : validate toArguments = .ok ()
  stripped : strip feeAsset = feeAsset

/-- `ResearchRunRequest(...)`. -/
def ResearchRunRequest.new (given : Arguments) : Except Exc ResearchRunRequest :=
  match tested : validate given with
  | .error exc => .error exc
  | .ok () =>
      .ok ⟨{ given with feeAsset := strip given.feeAsset }, validate_stripped tested, strip_strip _⟩

/-! ## Reading what was submitted -/

abbrev Values := Dict String Json

/-- Whether `str` refuses an integer for the number of its digits. -/
def tooLong : Json → Bool
  | .int value => Text.maxDigits < (Nat.toDigits 10 value.natAbs).length
  | _ => false

/-- `str(raw).strip()`. -/
def shown (raw : Json) : Except Exc String :=
  if tooLong raw then
    .error (.valueError ("Exceeds the limit (4300 digits) for integer string conversion; " ++
      "use sys.set_int_max_str_digits() to increase the limit"))
  else .ok (strip raw.str)

def text (values : Values) (name default : String) : Except Exc String :=
  shown ((values.get? name).getD (.string default))

def decimal (values : Values) (name default : String) : Except Exc RawDecimal :=
  let refused := Exc.valueError s!"{name} must be a decimal number"
  match shown ((values.get? name).getD (.string default)) with
  | .error _ => .error refused
  | .ok shown => (RawDecimal.parse shown.toList).elim (.error refused) .ok

def isNull : Json → Bool
  | .null => true
  | _ => false

def integer (values : Values) (name : String) (default : Int) (optional : Bool) :
    Except Exc (Option Int) :=
  let refused := Exc.valueError s!"{name} must be a whole number"
  let raw := (values.get? name).getD (if optional then .string "" else .int default)
  if optional && isNull raw then .ok none
  else match shown raw with
    -- The text of an optional one is first looked at where nothing is caught.
    | .error exc => .error (if optional then exc else refused)
    | .ok shown =>
        if optional && shown = "" then .ok none
        else (Text.intOf shown.toList).elim (.error refused) fun n => .ok (some n)

/-- `text or default`. -/
def textOr (text default : String) : String := if text = "" then default else text

/-- `number or default`. -/
def intOr (number : Option Int) (default : Int) : Int :=
  if number.getD 0 = 0 then default else number.getD 0

def runTypeOf (values : Values) : Except Exc RunType :=
  (text values "run_type" "backtest").bind fun raw =>
    (RunType.ofText (textOr raw "backtest")).elim
      (.error (.valueError "run_type must be backtest or replay")) .ok

/-- The arguments as `from_mapping` reads them. -/
def arguments (values : Values) : Except Exc Arguments := do
  let runType ← runTypeOf values
  let datasetId ← text values "dataset_id" ""
  let strategyVersion ← text values "strategy_version" ""
  let initialCash ← decimal values "initial_cash" "100000"
  let makerFeeRate ← decimal values "maker_fee_rate" "0"
  let takerFeeRate ← decimal values "taker_fee_rate" "0"
  let spreadBps ← decimal values "spread_bps" "0"
  let slippageBps ← decimal values "slippage_bps" "0"
  let feeAsset ← text values "fee_asset" "USD"
  let partialFillRatio ← decimal values "partial_fill_ratio" "1"
  let trainBars ← integer values "train_bars" 16 false
  let testBars ← integer values "test_bars" 16 false
  let stepBars ← integer values "step_bars" 0 true
  let holdoutBars ← integer values "holdout_bars" 0 false
  let quantity ← decimal values "quantity" "1"
  return {
    datasetId, strategyVersion, runType, initialCash, makerFeeRate, takerFeeRate, spreadBps
    slippageBps, partialFillRatio, stepBars, quantity
    feeAsset := textOr feeAsset "USD"
    trainBars := intOr trainBars 16
    testBars := intOr testBars 16
    holdoutBars := intOr holdoutBars 0 }

/-- `ResearchRunRequest.from_mapping(values)`. -/
def fromMapping (values : Values) : Except Exc ResearchRunRequest :=
  (arguments values).bind ResearchRunRequest.new

/-! ## What was submitted -/

/-- What was submitted under a name: nothing where that is absent, null or blank. -/
def submitted (values : Values) (name : String) : Option String :=
  match values.get? name with
  | none => none
  | some .null => none
  | some value => if strip value.str = "" then none else some (strip value.str)

/-- Every argument is what was submitted, or the default where nothing was. -/
structure Kept (values : Values) (given : Arguments) : Prop where
  datasetId : given.datasetId = (submitted values "dataset_id").getD ""
  strategyVersion : given.strategyVersion = (submitted values "strategy_version").getD ""
  runType : given.runType.text = (submitted values "run_type").getD "backtest"
  initialCash : RawDecimal.parse ((submitted values "initial_cash").getD "100000").toList =
    some given.initialCash
  makerFeeRate : RawDecimal.parse ((submitted values "maker_fee_rate").getD "0").toList =
    some given.makerFeeRate
  takerFeeRate : RawDecimal.parse ((submitted values "taker_fee_rate").getD "0").toList =
    some given.takerFeeRate
  spreadBps : RawDecimal.parse ((submitted values "spread_bps").getD "0").toList =
    some given.spreadBps
  slippageBps : RawDecimal.parse ((submitted values "slippage_bps").getD "0").toList =
    some given.slippageBps
  feeAsset : given.feeAsset = (submitted values "fee_asset").getD "USD"
  partialFillRatio : RawDecimal.parse ((submitted values "partial_fill_ratio").getD "1").toList =
    some given.partialFillRatio
  trainBars : Text.intOf ((submitted values "train_bars").getD "16").toList = some given.trainBars
  testBars : Text.intOf ((submitted values "test_bars").getD "16").toList = some given.testBars
  stepBars : (submitted values "step_bars").map (fun shown => Text.intOf shown.toList) =
    given.stepBars.map some
  holdoutBars : Text.intOf ((submitted values "holdout_bars").getD "0").toList =
    some given.holdoutBars
  quantity : RawDecimal.parse ((submitted values "quantity").getD "1").toList = some given.quantity

/-- A number was submitted, and it is zero. -/
def ReadsZero (values : Values) (name : String) : Prop :=
  (submitted values name).bind (fun shown => Text.intOf shown.toList) = some 0

section

variable {values : Values} {name : String}

/-- No default, no version and not the text of a null has blanks around it. -/
theorem strip_plain : ∀ text ∈ ["", "0", "1", "16", "100000", "None", "USD", "backtest", "replay"] ++
    strategyVersions, strip text = text := by
  decide

/-- No number is read of nothing, or of a null. -/
theorem numbers_read : Text.intOf "16".toList = some 16 ∧ ∀ text ∈ ["", "None"],
    Text.intOf text.toList = none ∧ RawDecimal.parse text.toList = none := by
  decide

theorem shown_ok {raw : Json} {t : String} (read : shown raw = .ok t) : t = strip raw.str := by
  unfold shown at read
  split at read
  · cases read
  · cases read
    rfl

theorem submitted_absent (absent : values.get? name = none) : submitted values name = none := by
  rw [submitted, absent]

theorem submitted_null (null : values.get? name = some .null) : submitted values name = none := by
  rw [submitted, null]

theorem submitted_value {raw : Json} (held : values.get? name = some raw)
    (value : isNull raw = false) :
    submitted values name = if strip raw.str = "" then none else some (strip raw.str) := by
  rw [submitted, held]
  cases raw with
  | null => cases value
  | _ => rfl

theorem eq_null {raw : Json} (null : isNull raw = true) : raw = .null := by
  cases raw with
  | null => rfl
  | _ => cases null

/-- What is read under a name: the default, the text of a null, or what was submitted. -/
theorem read_cases {default : Json} {t : String}
    (read : shown ((values.get? name).getD default) = .ok t) :
    values.get? name = none ∧ submitted values name = none ∧ t = strip default.str ∨
      values.get? name = some .null ∧ submitted values name = none ∧ t = "None" ∨
      values.get? name ≠ some .null ∧
        submitted values name = if t = "" then none else some t := by
  cases held : values.get? name with
  | none =>
      rw [held] at read
      exact .inl ⟨rfl, submitted_absent held, shown_ok read⟩
  | some raw =>
      rw [held] at read
      have same := shown_ok read
      cases null : isNull raw with
      | true =>
          cases eq_null null
          refine .inr (.inl ⟨rfl, submitted_null held, ?_⟩)
          rw [same]
          exact strip_plain "None" (by simp)
      | false =>
          refine .inr (.inr ⟨?_, ?_⟩)
          · intro is
            cases is
            cases null
          · rw [submitted_value held null]
            exact congrArg (fun s => if s = "" then none else some s) same.symm

theorem text_stripped {default t : String} (read : text values name default = .ok t) :
    strip t = t := by
  rw [shown_ok read, strip_strip]

/-- A text is what was submitted, unless that is null. -/
theorem text_kept {default t : String} (read : text values name default = .ok t)
    (plain : strip default = default) (other : default ≠ "None") :
    textOr t default = (submitted values name).getD default ↔ values.get? name ≠ some .null := by
  obtain ⟨absent, nothing, same⟩ | ⟨null, nothing, same⟩ | ⟨value, something⟩ := read_cases read
  · have kept : t = default := same.trans plain
    rw [absent, nothing, kept]
    simp [textOr]
  · rw [null, nothing, same]
    have different : textOr "None" default ≠ default := fun equal => other equal.symm
    simpa using different
  · rw [something]
    by_cases blank : t = ""
    · simpa [textOr, blank] using value
    · simpa [textOr, blank] using value

theorem decimal_ok {default : String} {d : RawDecimal}
    (read : decimal values name default = .ok d) :
    ∃ t, shown ((values.get? name).getD (.string default)) = .ok t ∧
      RawDecimal.parse t.toList = some d := by
  unfold decimal at read
  cases here : shown ((values.get? name).getD (.string default)) with
  | error exc =>
      rw [here] at read
      cases read
  | ok t =>
      rw [here] at read
      refine ⟨t, rfl, ?_⟩
      cases parsed : RawDecimal.parse t.toList with
      | none =>
          simp only [parsed] at read
          cases read
      | some d' =>
          simp only [parsed] at read
          cases read
          rfl

/-- No decimal is read of nothing, or of a null. -/
theorem decimal_kept {default : String} {d : RawDecimal}
    (read : decimal values name default = .ok d) (plain : strip default = default) :
    RawDecimal.parse ((submitted values name).getD default).toList = some d := by
  obtain ⟨t, here, parsed⟩ := decimal_ok read
  obtain ⟨_, nothing, same⟩ | ⟨_, _, same⟩ | ⟨_, something⟩ := read_cases here
  · have kept : t = default := same.trans plain
    rw [nothing, Option.getD_none, ← kept, parsed]
  · rw [same, (numbers_read.2 "None" (by simp)).2] at parsed
    cases parsed
  · have solid : t ≠ "" := by
      rintro rfl
      rw [(numbers_read.2 "" (by simp)).2] at parsed
      cases parsed
    rw [something, if_neg solid, Option.getD_some, parsed]

theorem integer_ok {default : Int} {o : Option Int}
    (read : integer values name default false = .ok o) :
    ∃ t n, shown ((values.get? name).getD (.int default)) = .ok t ∧
      Text.intOf t.toList = some n ∧ o = some n := by
  simp only [integer, Bool.false_and, Bool.false_eq_true, if_false] at read
  cases here : shown ((values.get? name).getD (.int default)) with
  | error exc =>
      rw [here] at read
      cases read
  | ok t =>
      rw [here] at read
      cases parsed : Text.intOf t.toList with
      | none =>
          simp only [parsed] at read
          cases read
      | some n =>
          simp only [parsed] at read
          cases read
          exact ⟨t, n, rfl, parsed, rfl⟩

theorem integer_kept {default : Int} {plain : String} {o : Option Int}
    (read : integer values name default false = .ok o) (written : strip (Json.int default).str = plain) :
    ∃ n, o = some n ∧ Text.intOf ((submitted values name).getD plain).toList = some n := by
  obtain ⟨t, n, here, parsed, whole⟩ := integer_ok read
  refine ⟨n, whole, ?_⟩
  obtain ⟨_, nothing, same⟩ | ⟨_, _, same⟩ | ⟨_, something⟩ := read_cases here
  · rw [nothing, Option.getD_none, ← written, ← same, parsed]
  · rw [same, (numbers_read.2 "None" (by simp)).1] at parsed
    cases parsed
  · have solid : t ≠ "" := by
      rintro rfl
      rw [(numbers_read.2 "" (by simp)).1] at parsed
      cases parsed
    rw [something, if_neg solid, Option.getD_some, parsed]

/-- Sixteen bars stand for zero. -/
theorem bars_kept {o : Option Int} (read : integer values name 16 false = .ok o) :
    Text.intOf ((submitted values name).getD "16").toList = some (intOr o 16) ↔
      ¬ ReadsZero values name := by
  obtain ⟨n, rfl, reads⟩ := integer_kept read (strip_plain "16" (by simp))
  have zero : ReadsZero values name ↔ n = 0 := by
    unfold ReadsZero
    cases something : submitted values name with
    | none =>
        rw [something] at reads
        have same : n = 16 := Option.some.inj (reads.symm.trans numbers_read.1)
        simp [same]
    | some shown =>
        rw [something] at reads
        have same : Text.intOf shown.toList = some n := reads
        simp [same]
  rw [reads, zero]
  by_cases none_ : n = 0
  · simp [intOr, none_]
  · simp [intOr, none_]

theorem holdout_kept {o : Option Int} (read : integer values name 0 false = .ok o) :
    Text.intOf ((submitted values name).getD "0").toList = some (intOr o 0) := by
  obtain ⟨n, rfl, reads⟩ := integer_kept read (strip_plain "0" (by simp))
  rw [reads]
  by_cases none_ : n = 0
  · simp [intOr, none_]
  · simp [intOr, none_]

theorem step_kept {o : Option Int} (read : integer values name 0 true = .ok o) :
    (submitted values name).map (fun shown => Text.intOf shown.toList) = o.map some := by
  simp only [integer, Bool.true_and, if_true] at read
  split at read
  · rename_i null
    cases read
    have nothing : submitted values name = none := by
      cases held : values.get? name with
      | none => exact submitted_absent held
      | some raw =>
          rw [held] at null
          exact submitted_null (held.trans (congrArg some (eq_null null)))
    rw [nothing]
    rfl
  · rename_i value
    cases here : shown ((values.get? name).getD (.string "")) with
    | error exc =>
        rw [here] at read
        cases read
    | ok t =>
        rw [here] at read
        have blankOr : submitted values name = if t = "" then none else some t := by
          obtain ⟨_, nothing, same⟩ | ⟨null, _⟩ | ⟨_, something⟩ := read_cases here
          · have blank : t = "" := same.trans (strip_plain "" (by simp))
            rw [nothing, if_pos blank]
          · rw [null] at value
            exact absurd rfl value
          · exact something
        by_cases blank : t = ""
        · simp only [blank, decide_true, if_true] at read
          cases read
          rw [blankOr, if_pos blank]
          rfl
        · simp only [blank, decide_false, Bool.false_eq_true, if_false] at read
          rw [blankOr, if_neg blank]
          cases parsed : Text.intOf t.toList with
          | none =>
              simp only [parsed] at read
              cases read
          | some n =>
              simp only [parsed] at read
              cases read
              exact congrArg some parsed

end

/-! ## The request -/

/-- What `from_mapping` replaces without a word: a number of bars by sixteen, a null by its text. -/
def Misread (values : Values) : Prop :=
  ReadsZero values "train_bars" ∨ ReadsZero values "test_bars" ∨
    values.get? "dataset_id" = some .null ∨ values.get? "fee_asset" = some .null

theorem runType_text {raw : String} {runType : RunType} (read : RunType.ofText raw = some runType) :
    runType.text = raw := by
  unfold RunType.ofText at read
  split at read
  · rename_i same
    cases read
    exact same.symm
  · split at read
    · rename_i same
      cases read
      exact same.symm
    · cases read

theorem runType_kept {values : Values} {runType : RunType} (read : runTypeOf values = .ok runType) :
    runType.text = (submitted values "run_type").getD "backtest" := by
  obtain ⟨raw, here, known⟩ := bind_eq_ok.1 read
  cases found : RunType.ofText (textOr raw "backtest") with
  | none =>
      rw [found] at known
      cases known
  | some runType' =>
      rw [found] at known
      cases known
      rw [runType_text found]
      refine (text_kept here (strip_plain _ (by simp)) (by decide)).2 fun null => ?_
      obtain ⟨absent, _⟩ | ⟨_, _, same⟩ | ⟨value, _⟩ := read_cases here
      · rw [absent] at null
        cases null
      · have unknown : RunType.ofText (textOr "None" "backtest") = none := by
          simp [RunType.ofText, textOr]
        rw [same, unknown] at found
        cases found
      · exact value null

/-- A null is read as `None`, which is no version there is. -/
theorem strategy_kept {values : Values} {version : String}
    (read : text values "strategy_version" "" = .ok version) (known : version ∈ strategyVersions) :
    version = (submitted values "strategy_version").getD "" := by
  obtain ⟨_, nothing, same⟩ | ⟨_, _, same⟩ | ⟨_, something⟩ := read_cases read
  · rw [nothing, same]
    exact strip_plain "" (by simp)
  · rw [same] at known
    exact absurd known (by decide)
  · rw [something]
    split
    · rename_i blank
      exact blank
    · rfl

/-- Of arguments that pass the tests, only what is `Misread` is not kept. -/
theorem arguments_kept {values : Values} {given : Arguments} (read : arguments values = .ok given)
    (valid : validate given = .ok ()) :
    Kept values { given with feeAsset := strip given.feeAsset } ↔ ¬ Misread values := by
  obtain ⟨runType, readRunType, read⟩ := bind_eq_ok.1 read
  obtain ⟨datasetId, readDataset, read⟩ := bind_eq_ok.1 read
  obtain ⟨strategyVersion, readStrategy, read⟩ := bind_eq_ok.1 read
  obtain ⟨initialCash, readCash, read⟩ := bind_eq_ok.1 read
  obtain ⟨makerFeeRate, readMaker, read⟩ := bind_eq_ok.1 read
  obtain ⟨takerFeeRate, readTaker, read⟩ := bind_eq_ok.1 read
  obtain ⟨spreadBps, readSpread, read⟩ := bind_eq_ok.1 read
  obtain ⟨slippageBps, readSlippage, read⟩ := bind_eq_ok.1 read
  obtain ⟨feeAsset, readFee, read⟩ := bind_eq_ok.1 read
  obtain ⟨partialFillRatio, readRatio, read⟩ := bind_eq_ok.1 read
  obtain ⟨trainBars, readTrain, read⟩ := bind_eq_ok.1 read
  obtain ⟨testBars, readTest, read⟩ := bind_eq_ok.1 read
  obtain ⟨stepBars, readStep, read⟩ := bind_eq_ok.1 read
  obtain ⟨holdoutBars, readHoldout, read⟩ := bind_eq_ok.1 read
  obtain ⟨quantity, readQuantity, read⟩ := bind_eq_ok.1 read
  cases read
  have zero := strip_plain "0" (by simp)
  have one := strip_plain "1" (by simp)
  have train := bars_kept readTrain
  have test := bars_kept readTest
  have dataset := text_kept readDataset (strip_plain _ (by simp)) (by decide)
  have fee := text_kept readFee (strip_plain _ (by simp)) (by decide)
  have same : textOr datasetId "" = datasetId := by
    by_cases blank : datasetId = ""
    · rw [textOr, if_pos blank, blank]
    · rw [textOr, if_neg blank]
  have listed := Test.run_ok.1 (validate_ok.1 valid _ (.tail _ (.head _)))
  have stripped : strip (textOr feeAsset "USD") = textOr feeAsset "USD" := by
    by_cases blank : feeAsset = ""
    · rw [textOr, if_pos blank]
      exact strip_plain "USD" (by simp)
    · rw [textOr, if_neg blank, text_stripped readFee]
  have strategy := strategy_kept readStrategy (by simpa using listed.2)
  constructor
  · rintro kept (noTrain | noTest | noDataset | noFee)
    · exact train.1 kept.trainBars noTrain
    · exact test.1 kept.testBars noTest
    · exact dataset.1 (same.trans kept.datasetId) noDataset
    · exact fee.1 (stripped.symm.trans kept.feeAsset) noFee
  · intro clear
    simp only [Misread, not_or] at clear
    obtain ⟨someTrain, someTest, someDataset, someFee⟩ := clear
    exact {
      datasetId := same.symm.trans (dataset.2 someDataset)
      strategyVersion := strategy
      runType := runType_kept readRunType
      initialCash := decimal_kept readCash (strip_plain _ (by simp))
      makerFeeRate := decimal_kept readMaker zero
      takerFeeRate := decimal_kept readTaker zero
      spreadBps := decimal_kept readSpread zero
      slippageBps := decimal_kept readSlippage zero
      feeAsset := stripped.trans (fee.2 someFee)
      partialFillRatio := decimal_kept readRatio one
      trainBars := train.2 someTrain
      testBars := test.2 someTest
      stepBars := step_kept readStep
      holdoutBars := holdout_kept readHoldout
      quantity := decimal_kept readQuantity one }

/-- A computation that raises nothing but `ValueError`. -/
def Refuses {α : Type} (x : Except Exc α) : Prop := ∀ exc, x = .error exc → exc.kind = .valueError

theorem Refuses.bind {α β : Type} {x : Except Exc α} {f : α → Except Exc β} (first : Refuses x)
    (rest : ∀ a, Refuses (f a)) : Refuses (x.bind f) := by
  intro exc raised
  rcases bind_eq_error.1 raised with here | ⟨a, _, later⟩
  · exact first exc here
  · exact rest a exc later

theorem refuses_ok {α : Type} (a : α) : Refuses (.ok a) := fun _ raised => nomatch raised

theorem refuses_valueError {α : Type} (message : String) :
    Refuses (.error (.valueError message) : Except Exc α) := by
  intro exc raised
  cases raised
  rfl

theorem refuses_elim {α β : Type} {x : Option β} {message : String} {f : β → Except Exc α}
    (found : ∀ b, Refuses (f b)) : Refuses (x.elim (.error (.valueError message)) f) := by
  cases x with
  | none => exact refuses_valueError message
  | some b => exact found b

theorem shown_refuses (raw : Json) : Refuses (shown raw) := by
  unfold shown
  split
  · exact refuses_valueError _
  · exact refuses_ok _

theorem decimal_refuses (values : Values) (name default : String) :
    Refuses (decimal values name default) := by
  unfold decimal
  dsimp only
  split
  · exact refuses_valueError _
  · exact refuses_elim refuses_ok

theorem integer_refuses (values : Values) (name : String) (default : Int) (optional : Bool) :
    Refuses (integer values name default optional) := by
  have parsed (t message : String) :
      Refuses ((Text.intOf t.toList).elim (.error (.valueError message)) fun n => .ok (some n)) :=
    refuses_elim fun n => refuses_ok (some n)
  cases optional with
  | false =>
      simp only [integer, Bool.false_and, Bool.false_eq_true, if_false]
      split
      · exact refuses_valueError _
      · exact parsed _ _
  | true =>
      simp only [integer, Bool.true_and, if_true]
      split
      · exact refuses_ok _
      · split
        · rename_i raised
          intro exc same
          cases same
          exact shown_refuses _ _ raised
        · split
          · exact refuses_ok _
          · exact parsed _ _

theorem arguments_refuses (values : Values) : Refuses (arguments values) := by
  refine .bind (.bind (shown_refuses _) fun _ => refuses_elim refuses_ok) fun _ => ?_
  refine .bind (shown_refuses _) fun _ => .bind (shown_refuses _) fun _ => ?_
  refine .bind (decimal_refuses _ _ _) fun _ => .bind (decimal_refuses _ _ _) fun _ => ?_
  refine .bind (decimal_refuses _ _ _) fun _ => .bind (decimal_refuses _ _ _) fun _ => ?_
  refine .bind (decimal_refuses _ _ _) fun _ => .bind (shown_refuses _) fun _ => ?_
  refine .bind (decimal_refuses _ _ _) fun _ => .bind (integer_refuses _ _ _ _) fun _ => ?_
  refine .bind (integer_refuses _ _ _ _) fun _ => .bind (integer_refuses _ _ _ _) fun _ => ?_
  refine .bind (integer_refuses _ _ _ _) fun _ => .bind (decimal_refuses _ _ _) fun _ => ?_
  exact refuses_ok _

/-- The mapping gives the request that was submitted, or a `ValueError`. -/
def Taken (values : Values) : Prop :=
  (∀ request, fromMapping values = .ok request → Kept values request.toArguments) ∧
    Refuses (fromMapping values)

/-- Whatever would go wrong, a test before it refuses the arguments. -/
def Guarded (values : Values) : Prop :=
  ∀ given, arguments values = .ok given →
    (∀ before test after, tests given = before ++ test :: after → test.undefined = true →
      ∃ earlier ∈ before, earlier.refuses = true) ∧
    (Misread values → ∃ test ∈ tests given, test.refuses = true)

/-- Of two places in a list, the one that may not come first comes second. -/
theorem earlier_place {α : Type} {before after before' after' : List α} {x y : α}
    (same : before ++ x :: after = before' ++ y :: after') (notBefore : y ∉ before) (other : x ≠ y) :
    x ∈ before' := by
  rcases List.append_eq_append_iff.1 same with ⟨between, rfl, rest⟩ | ⟨between, rfl, rest⟩
  · cases between with
    | nil => exact absurd (List.cons.inj rest).1 other
    | cons z between =>
        rw [(List.cons.inj rest).1]
        exact List.mem_append_right before List.mem_cons_self
  · cases between with
    | nil => exact absurd (List.cons.inj rest).1.symm other
    | cons z between =>
        rw [(List.cons.inj rest).1] at notBefore
        exact absurd (List.mem_append_right before' List.mem_cons_self) notBefore

theorem new_error {given : Arguments} {exc : Exc} (raised : validate given = .error exc) :
    ResearchRunRequest.new given = .error exc := by
  unfold ResearchRunRequest.new
  split
  · rename_i exc' raised'
    rw [raised] at raised'
    cases raised'
    rfl
  · rename_i valid
    rw [raised] at valid
    cases valid

theorem new_ok {given : Arguments} (valid : validate given = .ok ()) :
    ∃ request, ResearchRunRequest.new given = .ok request ∧
      request.toArguments = { given with feeAsset := strip given.feeAsset } := by
  unfold ResearchRunRequest.new
  split
  · rename_i raised
    rw [valid] at raised
    cases raised
  · exact ⟨_, rfl, rfl⟩

/-- Where the constructor raises, a test fails and all before it passed. -/
theorem validate_error {given : Arguments} {exc : Exc} (raised : validate given = .error exc) :
    ∃ before test after, tests given = before ++ test :: after ∧
      (∀ earlier ∈ before, earlier.undefined = false ∧ earlier.refuses = false) ∧
      (test.undefined = true ∧ exc = invalidOperation ∨
        test.undefined = false ∧ test.refuses = true ∧ exc.kind = .valueError) := by
  obtain ⟨before, test, after, _, split, through, failed⟩ := runs_error.1 raised
  refine ⟨before, test, after, split, fun earlier member => ?_, ?_⟩
  · cases outcome : earlier.run with
    | ok _ => exact Test.run_ok.1 outcome
    | error exc' =>
        have raises : ∀ s, ∃ e, Test.step earlier s = .error e := fun _ => ⟨exc', outcome⟩
        obtain ⟨_, failed⟩ := runs_raises member raises ()
        rw [failed] at through
        cases through
  · change test.run = .error exc at failed
    cases undefined : test.undefined with
    | true =>
        simp only [Test.run, undefined, if_true] at failed
        cases failed
        exact .inl ⟨rfl, rfl⟩
    | false =>
        simp only [Test.run, undefined, Bool.false_eq_true, if_false] at failed
        split at failed
        · rename_i refuses
          cases failed
          exact .inr ⟨rfl, refuses, rfl⟩
        · cases failed

theorem refuses_error {α : Type} {exc : Exc} :
    Refuses (.error exc : Except Exc α) ↔ exc.kind = .valueError := by
  constructor
  · intro refuses
    exact refuses exc rfl
  · intro kind exc' same
    cases same
    exact kind

theorem taken_error {values : Values} {exc : Exc} (raised : fromMapping values = .error exc) :
    Taken values ↔ exc.kind = .valueError := by
  rw [Taken, raised, refuses_error]
  refine and_iff_right fun request returned => ?_
  cases returned

/-- The arguments were read, and a test of theirs fails. -/
theorem taken_refused {values : Values} {given : Arguments} {exc : Exc}
    (read : arguments values = .ok given) (tested : validate given = .error exc) :
    exc.kind = .valueError ↔ Guarded values := by
  obtain ⟨before, test, after, split, passed, failed⟩ := validate_error tested
  rcases failed with ⟨undefined, same⟩ | ⟨defined, refuses, kind⟩
  · constructor
    · intro kind
      rw [same] at kind
      cases kind
    · intro guarded
      obtain ⟨earlier, member, refuses⟩ := (guarded given read).1 before test after split undefined
      rw [(passed earlier member).2] at refuses
      cases refuses
  · refine iff_of_true kind fun given' same => ?_
    cases read.symm.trans same
    have here : test ∈ tests given := by
      rw [split]
      exact List.mem_append_right before List.mem_cons_self
    refine ⟨fun before' test' after' split' undefined' => ?_, fun _ => ⟨test, here, refuses⟩⟩
    -- A test that finds a `NaN` comes after the one that refuses.
    refine ⟨test, earlier_place (split.symm.trans split') (fun member => ?_) fun same => ?_, refuses⟩
    · rw [(passed test' member).1] at undefined'
      cases undefined'
    · rw [same, undefined'] at defined
      cases defined

/-- The arguments were read, and pass every test. -/
theorem taken_valid {values : Values} {given : Arguments} (read : arguments values = .ok given)
    (tested : validate given = .ok ()) : ¬ Misread values ↔ Guarded values := by
  have passed (test : Test) (member : test ∈ tests given) :=
    Test.run_ok.1 (validate_ok.1 tested test member)
  constructor
  · intro clear given' same
    cases read.symm.trans same
    refine ⟨fun before test after split undefined => ?_, fun misread => absurd misread clear⟩
    have member : test ∈ tests given := by
      rw [split]
      exact List.mem_append_right before List.mem_cons_self
    rw [(passed test member).1] at undefined
    cases undefined
  · intro guarded misread
    obtain ⟨test, member, refuses⟩ := (guarded given read).2 misread
    rw [(passed test member).2] at refuses
    cases refuses

theorem taken_iff_guarded (values : Values) : Taken values ↔ Guarded values := by
  cases read : arguments values with
  | error exc =>
      have raised : fromMapping values = .error exc := by
        rw [fromMapping, read]
        rfl
      rw [taken_error raised]
      refine iff_of_true (arguments_refuses values exc read) fun given returned => ?_
      rw [read] at returned
      cases returned
  | ok given =>
      have called : fromMapping values = ResearchRunRequest.new given := by
        rw [fromMapping, read]
        rfl
      cases tested : validate given with
      | error exc =>
          rw [taken_error (called.trans (new_error tested))]
          exact taken_refused read tested
      | ok _ =>
          obtain ⟨request, made, fields⟩ := new_ok tested
          rw [← taken_valid read tested, ← arguments_kept read tested, ← fields, Taken, called, made]
          constructor
          · rintro ⟨all, _⟩
            exact all request rfl
          · intro kept
            refine ⟨fun request' same => ?_, refuses_ok request⟩
            cases same
            exact kept

/-! ## Written and read again -/

namespace ResearchRunRequest

theorem names_nodup : ["dataset_id", "strategy_version", "run_type", "initial_cash",
    "maker_fee_rate", "taker_fee_rate", "spread_bps", "slippage_bps", "fee_asset",
    "partial_fill_ratio", "train_bars", "test_bars", "step_bars", "holdout_bars",
    "quantity"].Nodup := by
  simp

def number (value : RawDecimal) : Json := .string (String.ofList value.str)

/-- `request.to_dict()`. -/
def toDict (request : ResearchRunRequest) : Values where
  entries := [
    ("dataset_id", .string request.datasetId),
    ("strategy_version", .string request.strategyVersion),
    ("run_type", .string request.runType.text),
    ("initial_cash", number request.initialCash),
    ("maker_fee_rate", number request.makerFeeRate),
    ("taker_fee_rate", number request.takerFeeRate),
    ("spread_bps", number request.spreadBps),
    ("slippage_bps", number request.slippageBps),
    ("fee_asset", .string request.feeAsset),
    ("partial_fill_ratio", number request.partialFillRatio),
    ("train_bars", .int request.trainBars),
    ("test_bars", .int request.testBars),
    ("step_bars", request.stepBars.elim .null .int),
    ("holdout_bars", .int request.holdoutBars),
    ("quantity", number request.quantity)]
  nodup := names_nodup

end ResearchRunRequest

open ResearchRunRequest

theorem decimal_digit {c : Char} (digit : c.isDigit = true) :
    Text.decimal? c = some (c.toNat - '0'.toNat) := by
  obtain ⟨n, small, rfl⟩ := RawDecimal.digit_cases digit
  clear digit
  revert n
  decide

theorem digits_value {digits : List Char} (all : ∀ c ∈ digits, c.isDigit = true) :
    digits.mapM Text.decimal? = some (digits.map fun c => c.toNat - '0'.toNat) := by
  induction digits with
  | nil => rfl
  | cons c digits ih =>
      rw [List.mapM_cons, decimal_digit (all c List.mem_cons_self),
        ih fun d member => all d (List.mem_cons_of_mem c member)]
      rfl

theorem plain_nat (n : Nat) : ∀ c ∈ Nat.toDigits 10 n, RawDecimal.Plain c :=
  fun c member => RawDecimal.plain_digit (RawDecimal.toDigits_digit n c member)

/-- The digits of a natural number are read as that number. -/
theorem intOf_toDigits {n : Nat} (short : (Nat.toDigits 10 n).length ≤ Text.maxDigits) :
    Text.intOf (Nat.toDigits 10 n) = some n := by
  have digits := RawDecimal.toDigits_digit n
  have whole : Text.natOf (Nat.toDigits 10 n) = some n := by
    have single : (Nat.toDigits 10 n).splitOn '_' = [Nat.toDigits 10 n] := by
      rw [List.splitOn_eq_splitOnP]
      refine List.splitOnP_eq_singleton fun c member => ?_
      simpa using (plain_nat n c member).2.2
    have some_ : (Nat.toDigits 10 n).isEmpty = false := by
      simp
    have value := RawDecimal.ofDigits_toDigits n
    rw [Nat.ofDigitChars_eq_foldl] at value
    simp only [Text.natOf, single, List.any_cons, some_, List.any_nil, Bool.or_false,
      Bool.false_eq_true, if_false, List.flatten_cons, List.flatten_nil, List.append_nil,
      digits_value digits, Option.bind_eq_bind, Option.bind_some, List.length_map,
      List.foldl_map]
    rw [if_neg (by omega), value]
  have blank : ∀ cs : List Char, (∀ c ∈ cs, RawDecimal.Plain c) →
      cs.dropWhile Text.isBlank = cs := by
    intro cs plain
    cases cs with
    | nil => rfl
    | cons c cs =>
        have solid : Text.isBlank c = false := by
          rw [Text.isBlank, (plain c List.mem_cons_self).2.1]
          rfl
        simp [solid]
  obtain ⟨c, rest, first⟩ := List.exists_cons_of_ne_nil (RawDecimal.digits_ne_nil n)
  have digit : c.isDigit = true := digits c (by rw [first]; exact List.mem_cons_self)
  unfold Text.intOf
  rw [blank _ (plain_nat n),
    blank _ (fun c member => plain_nat n c (List.mem_reverse.1 member)), List.reverse_reverse]
  split
  · rename_i minus
    rw [first] at minus
    rw [(List.cons.inj minus).1] at digit
    exact absurd digit (by decide)
  · rename_i plus
    rw [first] at plus
    rw [(List.cons.inj plus).1] at digit
    exact absurd digit (by decide)
  · rw [whole]
    rfl

section

variable {values : Values} {name : String}

theorem text_held {default raw : String} (held : values.get? name = some (.string raw)) :
    text values name default = .ok (strip raw) := by
  rw [text, held]
  rfl

theorem decimal_held {default : String} {value : RawDecimal}
    (held : values.get? name = some (number value)) (defined : value.isNan = false) :
    decimal values name default = .ok value := by
  obtain ⟨parsed, plain⟩ := RawDecimal.parse_str defined
  have same : strip (String.ofList value.str) = String.ofList value.str := by
    rw [strip, String.toList_ofList, RawDecimal.strip_plain plain]
  have read : shown (number value) = .ok (String.ofList value.str) := congrArg Except.ok same
  simp only [decimal, held, Option.getD_some, read, String.toList_ofList, parsed, Option.elim_some]

theorem integer_held {default n : Int} {optional : Bool} (held : values.get? name = some (.int n))
    (least : 0 ≤ n) (most : n ≤ maxCandles) :
    integer values name default optional = .ok (some n) := by
  obtain ⟨m, rfl⟩ := Int.eq_ofNat_of_zero_le least
  have bounded : m < 10 ^ 4 := by
    simp only [maxCandles] at most
    omega
  have digits : (Nat.toDigits 10 m).length ≤ 4 :=
    (Nat.length_toDigits_le_iff (by decide) (by decide)).2 bounded
  have short : (Nat.toDigits 10 m).length ≤ Text.maxDigits := digits.trans (by decide)
  have written : (toString m).toList = Nat.toDigits 10 m := Nat.toList_repr
  have same : strip (toString m) = toString m := by
    have plain : ∀ c ∈ (toString m).toList, RawDecimal.Plain c := by
      rw [written]
      exact plain_nat m
    rw [strip, RawDecimal.strip_plain plain, String.ofList_toList]
  have read : shown (.int m) = .ok (toString m) := by
    have fits : tooLong (.int m) = false := by simpa [tooLong] using short
    rw [shown, fits]
    exact congrArg Except.ok same
  simp [integer, held, isNull, read, intOf_toDigits short]

end

theorem Test.defined {test : Test} {value : RawDecimal} (passed : test.run = .ok ())
    (compares : test.compared = some value) : value.isNan = false := by
  have defined := (Test.run_ok.1 passed).1
  rwa [Test.undefined, compares] at defined

theorem Test.within {least n : Int} {name : String} (passed : (Test.bars least n name).run = .ok ()) :
    least ≤ n ∧ n ≤ maxCandles := by
  have inside := (Test.run_ok.1 passed).2
  simp only [Test.bars, Option.any_some, decide_eq_false_iff_not, not_or, not_lt] at inside
  exact inside

section

variable (request : ResearchRunRequest)

theorem toDict_held {name : String} {value : Json} (member : (name, value) ∈ request.toDict.entries) :
    request.toDict.get? name = some value := Dict.get?_eq_some.2 member

theorem runType_toDict : runTypeOf request.toDict = .ok request.runType := by
  have here : text request.toDict "run_type" "backtest" = .ok (strip request.runType.text) :=
    text_held (toDict_held request (by simp [toDict]))
  rw [runTypeOf, here]
  cases request.runType with
  | backtest =>
      rw [strip_plain _ (by simp [RunType.text])]
      rfl
  | replay =>
      rw [strip_plain _ (by simp [RunType.text])]
      rfl

theorem strategy_toDict (known : request.strategyVersion ∈ strategyVersions) :
    text request.toDict "strategy_version" "" = .ok request.strategyVersion := by
  have here : text request.toDict "strategy_version" "" = .ok (strip request.strategyVersion) :=
    text_held (toDict_held request (by simp [toDict]))
  rw [here, strip_plain _ (List.mem_append_right _ known)]

theorem fee_toDict : text request.toDict "fee_asset" "USD" = .ok request.feeAsset := by
  have here : text request.toDict "fee_asset" "USD" = .ok (strip request.feeAsset) :=
    text_held (toDict_held request (by simp [toDict]))
  rw [here, request.stripped]

theorem step_toDict (within : ∀ n ∈ request.stepBars, 1 ≤ n ∧ n ≤ maxCandles) :
    integer request.toDict "step_bars" 0 true = .ok request.stepBars := by
  have here : request.toDict.get? "step_bars" = some (request.stepBars.elim .null .int) :=
    toDict_held request (by simp [toDict])
  cases bars : request.stepBars with
  | none =>
      rw [bars] at here
      simp [integer, here, isNull]
  | some n =>
      rw [bars] at here
      have inside := within n bars
      exact integer_held here (by omega) inside.2

/-- What `to_dict` writes is read as the same arguments, but that `dataset_id` is stripped. -/
theorem arguments_toDict :
    arguments request.toDict =
      .ok { request.toArguments with datasetId := strip request.datasetId } := by
  have passed := validate_ok.1 request.valid
  simp only [tests, List.forall_mem_cons] at passed
  obtain ⟨_, strategy, cash, maker, taker, spread, slippage, fee, ratio, quantity, train, test, step,
    holdout, _⟩ := passed
  have known : request.strategyVersion ∈ strategyVersions := by
    simpa using (Test.run_ok.1 strategy).2
  have stepWithin : ∀ n ∈ request.stepBars, 1 ≤ n ∧ n ≤ maxCandles := by
    intro n bars
    rw [bars] at step
    exact Test.within step
  have trainWithin := Test.within train
  have testWithin := Test.within test
  have holdoutWithin := Test.within holdout
  have decimals {name default : String} {value : RawDecimal} (defined : value.isNan = false)
      (member : (name, number value) ∈ request.toDict.entries) :
      decimal request.toDict name default = .ok value :=
    decimal_held (toDict_held request member) defined
  have integers {name : String} {default n : Int} (least : 0 ≤ n) (most : n ≤ maxCandles)
      (member : (name, Json.int n) ∈ request.toDict.entries) :
      integer request.toDict name default false = .ok (some n) :=
    integer_held (toDict_held request member) least most
  have readDataset : text request.toDict "dataset_id" "" = .ok (strip request.datasetId) :=
    text_held (toDict_held request (by simp [toDict]))
  have feeSame : textOr request.feeAsset "USD" = request.feeAsset := by
    have some_ := (Test.run_ok.1 fee).2
    rw [request.stripped] at some_
    refine if_neg fun none_ => ?_
    simp [none_] at some_
  have trainSame : intOr (some request.trainBars) 16 = request.trainBars :=
    if_neg (show request.trainBars ≠ 0 by omega)
  have testSame : intOr (some request.testBars) 16 = request.testBars :=
    if_neg (show request.testBars ≠ 0 by omega)
  have holdoutSame : intOr (some request.holdoutBars) 0 = request.holdoutBars := by
    by_cases none_ : request.holdoutBars = 0
    · rw [intOr, Option.getD_some, if_pos none_, none_]
    · exact if_neg none_
  have readCash : decimal request.toDict "initial_cash" "100000" = .ok request.initialCash :=
    decimals (Test.defined cash rfl) (by simp [toDict])
  have readMaker : decimal request.toDict "maker_fee_rate" "0" = .ok request.makerFeeRate :=
    decimals (Test.defined maker rfl) (by simp [toDict])
  have readTaker : decimal request.toDict "taker_fee_rate" "0" = .ok request.takerFeeRate :=
    decimals (Test.defined taker rfl) (by simp [toDict])
  have readSpread : decimal request.toDict "spread_bps" "0" = .ok request.spreadBps :=
    decimals (Test.defined spread rfl) (by simp [toDict])
  have readSlippage : decimal request.toDict "slippage_bps" "0" = .ok request.slippageBps :=
    decimals (Test.defined slippage rfl) (by simp [toDict])
  have readRatio : decimal request.toDict "partial_fill_ratio" "1" = .ok request.partialFillRatio :=
    decimals (Test.defined ratio rfl) (by simp [toDict])
  have readQuantity : decimal request.toDict "quantity" "1" = .ok request.quantity :=
    decimals (Test.defined quantity rfl) (by simp [toDict])
  have readTrain : integer request.toDict "train_bars" 16 false = .ok (some request.trainBars) :=
    integers (by omega) trainWithin.2 (by simp [toDict])
  have readTest : integer request.toDict "test_bars" 16 false = .ok (some request.testBars) :=
    integers (by omega) testWithin.2 (by simp [toDict])
  have readHoldout : integer request.toDict "holdout_bars" 0 false = .ok (some request.holdoutBars) :=
    integers holdoutWithin.1 holdoutWithin.2 (by simp [toDict])
  unfold arguments
  rw [runType_toDict, readDataset, strategy_toDict request known, readCash, readMaker, readTaker,
    readSpread, readSlippage, fee_toDict, readRatio, readTrain, readTest,
    step_toDict request stepWithin, readHoldout, readQuantity]
  simp only [bind, Except.bind, feeSame, trainSame, testSame, holdoutSame]
  rfl

theorem reproduced_iff :
    fromMapping request.toDict = .ok request ↔ strip request.datasetId = request.datasetId := by
  have called : fromMapping request.toDict = ResearchRunRequest.new
      { request.toArguments with datasetId := strip request.datasetId } := by
    rw [fromMapping, arguments_toDict]
    rfl
  rw [called]
  constructor
  · intro same
    cases tested : validate { request.toArguments with datasetId := strip request.datasetId } with
    | error exc =>
        rw [new_error tested] at same
        cases same
    | ok _ =>
        obtain ⟨again, made, fields⟩ := new_ok tested
        rw [made] at same
        cases same
        exact (congrArg Arguments.datasetId fields).symm
  · intro plain
    rw [plain]
    obtain ⟨again, made, fields⟩ := new_ok request.valid
    refine made.trans (congrArg Except.ok ?_)
    rw [request.stripped] at fields
    cases again
    cases request
    cases fields
    rfl

end

/-- A mapping is taken as it was submitted exactly where whatever would go wrong is refused
before, and a request is reproduced exactly where its `dataset_id` has no blanks around it. -/
theorem request_kept_iff (values : Values) (request : ResearchRunRequest) :
    (Taken values ↔ Guarded values) ∧
      (fromMapping request.toDict = .ok request ↔
        strip request.datasetId = request.datasetId) :=
  ⟨taken_iff_guarded values, reproduced_iff request⟩

def noBars : Values := .ofList [
  ("dataset_id", .string "btc-usd-calm-trend-v1"), ("strategy_version", .string "always-buy-v1"),
  ("train_bars", .string "0")]

def noQuantity : Values := .ofList [
  ("dataset_id", .string "btc-usd-calm-trend-v1"), ("strategy_version", .string "always-buy-v1"),
  ("quantity", .string "NaN")]

theorem bounded_digit : Bounded 1 0 := by decide

def one : RawDecimal := .finite false 1 0 bounded_digit

/-- A name with a blank before it. -/
def paddedArguments : Arguments where
  datasetId := " calm"
  strategyVersion := "always-buy-v1"
  runType := .backtest
  initialCash := one
  makerFeeRate := one
  takerFeeRate := one
  spreadBps := one
  slippageBps := one
  feeAsset := "USD"
  partialFillRatio := one
  trainBars := 16
  testBars := 16
  stepBars := none
  holdoutBars := 0
  quantity := one

theorem padded_valid : validate paddedArguments = .ok () := by decide +kernel

theorem padded_stripped : strip paddedArguments.feeAsset = paddedArguments.feeAsset :=
  strip_plain "USD" (by simp)

def padded : ResearchRunRequest := ⟨paddedArguments, padded_valid, padded_stripped⟩

/-- Zero bars become sixteen, a `NaN` raises `InvalidOperation`, and a blank is lost. -/
theorem request_altered : ¬ Taken noBars ∧ ¬ Taken noQuantity ∧
    fromMapping padded.toDict ≠ .ok padded := by
  refine ⟨?_, ?_, ?_⟩
  · rintro ⟨all, _⟩
    have sixteen : (fromMapping noBars).map (fun request => request.trainBars) = .ok 16 := by
      decide +kernel
    cases outcome : fromMapping noBars with
    | error exc =>
        rw [outcome] at sixteen
        cases sixteen
    | ok request =>
        rw [outcome] at sixteen
        have held : request.trainBars = 16 := Except.ok.inj sixteen
        have reads := (all request outcome).trainBars
        have zero : Text.intOf ((submitted noBars "train_bars").getD "16").toList = some 0 := by
          decide
        rw [zero, held] at reads
        cases reads
  · rintro ⟨_, refuses⟩
    have raised : (fromMapping noQuantity).map (fun _ => ()) = .error invalidOperation := by
      decide +kernel
    cases outcome : fromMapping noQuantity with
    | error exc =>
        rw [outcome] at raised
        have wrong := refuses exc outcome
        rw [Except.error.inj raised] at wrong
        cases wrong
    | ok request =>
        rw [outcome] at raised
        cases raised
  · intro same
    have plain := (reproduced_iff padded).1 same
    exact absurd plain (by decide)

end AlgoTrader.Api.Research
