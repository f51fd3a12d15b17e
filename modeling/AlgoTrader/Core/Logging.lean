/-
# Core.Logging -- what the log keeps of a value

`scrub_secrets` walks a value of any depth.  What stands under a secret key is replaced whole,
and inside every other text the part that a field or a bearer word announces.

* `secretText` -- the substitution of `_SECRET_TEXT`, whose groups never give back what they
  took, so that one look ahead decides each match;
* `Agree` -- two values that differ under secret keys only;
* `Keeps` -- what a node looks like before and after, its children apart;
* `scrubSecrets_agree`, `scrubSecrets_keeps` -- the two halves of `scrubSecrets_blind`.
-/
import AlgoTrader.Core.Text
import AlgoTrader.Brokers.Json

namespace AlgoTrader.Core.Logging

open AlgoTrader.Core.Text AlgoTrader.Brokers

set_option autoImplicit false

def redacted : String := "[REDACTED]"

def secretFieldNames : List String :=
  ["api_key", "apikey", "api_secret", "apisecret", "private_key", "privatekey", "secret", "password",
    "token", "access_token", "refresh_token", "jwt", "signature", "authorization",
    "authorization_header", "auth_header", "account_id", "portfolio_id", "client_order_id", "email",
    "ip_address"]

/-- `_normalise_key`. -/
def normaliseKey (key : String) : String :=
  lower (String.ofList (key.toList.map fun c => if c = '-' then '_' else c))

def isSecretKey (key : String) : Bool := secretFieldNames.contains (normaliseKey key)

/-! ## Texts -/

/-- The small letter a pattern without case takes `c` for, where that is an ASCII one. -/
def fold (c : Char) : Char :=
  match c.toNat with
  | 0x0130 | 0x0131 => 'i'
  | 0x017F => 's'
  | 0x212A => 'k'
  | _ => c.toLower

/-- What follows a word. -/
def afterWord : List Char → List Char → Option (List Char)
  | [], text => some text
  | letter :: word, c :: text => if fold c = letter then afterWord word text else none
  | _ :: _, [] => none

/-- What follows `api[_-]?key`. -/
def afterApiKey (text : List Char) : Option (List Char) := do
  match ← afterWord "api".toList text with
  | '_' :: rest | '-' :: rest => afterWord "key".toList rest
  | rest => afterWord "key".toList rest

/-- What follows `(?:api[_-]?key|secret|token|password|signature)\s*[=:]\s*`. -/
def afterField (text : List Char) : Option (List Char) := do
  let rest ← afterApiKey text <|> afterWord "secret".toList text <|> afterWord "token".toList text <|>
    afterWord "password".toList text <|> afterWord "signature".toList text
  match rest.dropWhile isSpace with
  | '=' :: rest | ':' :: rest => some (rest.dropWhile isSpace)
  | _ => none

/-- What follows `bearer\s+`. -/
def afterBearer (text : List Char) : Option (List Char) := do
  let rest ← afterWord "bearer".toList text
  if rest.head?.any isSpace then some (rest.dropWhile isSpace) else none

/-- `[^\s,;]`. -/
def isOpaque (c : Char) : Bool := !isSpace c && c ≠ ',' && c ≠ ';'

/-- A match at the head of a text: how long its first group is, and the whole of it. -/
def secretMatch (text : List Char) : Option (Nat × Nat) := do
  let rest ← afterBearer text <|> afterField text
  if rest.head?.any isOpaque then
    some (text.length - rest.length, text.length - (rest.dropWhile isOpaque).length)
  else none

/-- The rest of the substitution, once some characters of the last match are skipped. -/
def secretTextFrom : Nat → List Char → List Char
  | _, [] => []
  | skip + 1, _ :: text => secretTextFrom skip text
  | 0, c :: text =>
      match secretMatch (c :: text) with
      | some (group, whole) =>
          (c :: text).take group ++ redacted.toList ++ secretTextFrom (whole - 1) text
      | none => c :: secretTextFrom 0 text

/-- `_SECRET_TEXT.sub`: the first group stays, the rest of each match is replaced. -/
def secretText (text : String) : String := String.ofList (secretTextFrom 0 text.toList)

example : secretText "via Bearer  x.y, API-Key : k1;ſecret==z token" =
    "via Bearer  [REDACTED], API-Key : [REDACTED];ſecret=[REDACTED] token" := by decide +kernel

/-! ## Values -/

/-- A value as the log meets one; a set in the order it is read. -/
inductive Value where
  | mapping (items : List (String × Value))
  | tuple (items : List Value)
  | list (items : List Value)
  | set (items : List Value)
  | text (text : String)
  | number (value : Decimal)
  | bool (value : Bool)
  | none

mutual

/-- `scrub_secrets`. -/
def scrubSecrets : Value → Value
  | .mapping items => .mapping (scrubMembers items)
  | .tuple items => .tuple (scrubItems items)
  | .list items => .list (scrubItems items)
  | .set items => .list (scrubItems items)
  | .text text => .text (secretText text)
  | value => value

def scrubItems : List Value → List Value
  | [] => []
  | item :: rest => scrubSecrets item :: scrubItems rest

def scrubMembers : List (String × Value) → List (String × Value)
  | [] => []
  | (key, item) :: rest =>
      (key, if isSecretKey key then .text redacted else scrubSecrets item) :: scrubMembers rest

end

theorem scrubItems_eq (items : List Value) : scrubItems items = items.map scrubSecrets := by
  induction items with
  | nil => rfl
  | cons item rest ih => rw [scrubItems, ih, List.map_cons]

theorem scrubMembers_eq (items : List (String × Value)) :
    scrubMembers items = items.map fun (key, item) =>
      (key, if isSecretKey key then .text redacted else scrubSecrets item) := by
  induction items with
  | nil => rfl
  | cons item rest ih => rw [scrubMembers, ih, List.map_cons]

/-! ## Two runs -/

mutual

/-- Two values that differ only in what is stored under secret keys. -/
inductive Agree : Value → Value → Prop
  | mapping {left right : List (String × Value)} : AgreeMembers left right →
      Agree (.mapping left) (.mapping right)
  | tuple {left right : List Value} : AgreeItems left right → Agree (.tuple left) (.tuple right)
  | list {left right : List Value} : AgreeItems left right → Agree (.list left) (.list right)
  | set {left right : List Value} : AgreeItems left right → Agree (.set left) (.set right)
  | text (text : String) : Agree (.text text) (.text text)
  | number (value : Decimal) : Agree (.number value) (.number value)
  | bool (value : Bool) : Agree (.bool value) (.bool value)
  | none : Agree .none .none

inductive AgreeItems : List Value → List Value → Prop
  | nil : AgreeItems [] []
  | cons {left right : Value} {lefts rights : List Value} : Agree left right →
      AgreeItems lefts rights → AgreeItems (left :: lefts) (right :: rights)

inductive AgreeMembers : List (String × Value) → List (String × Value) → Prop
  | nil : AgreeMembers [] []
  | secret {key : String} {left right : Value} {lefts rights : List (String × Value)} :
      isSecretKey key → AgreeMembers lefts rights →
      AgreeMembers ((key, left) :: lefts) ((key, right) :: rights)
  | cons {key : String} {left right : Value} {lefts rights : List (String × Value)} : Agree left right →
      AgreeMembers lefts rights → AgreeMembers ((key, left) :: lefts) ((key, right) :: rights)

end

mutual

theorem scrubSecrets_agree {left right : Value} (agree : Agree left right) :
    scrubSecrets left = scrubSecrets right := by
  cases agree with
  | mapping members => rw [scrubSecrets, scrubSecrets, scrubMembers_agree members]
  | tuple items => rw [scrubSecrets, scrubSecrets, scrubItems_agree items]
  | list items => rw [scrubSecrets, scrubSecrets, scrubItems_agree items]
  | set items => rw [scrubSecrets, scrubSecrets, scrubItems_agree items]
  | text text => rfl
  | number value => rfl
  | bool value => rfl
  | none => rfl

theorem scrubItems_agree {left right : List Value} (agree : AgreeItems left right) :
    scrubItems left = scrubItems right := by
  cases agree with
  | nil => rfl
  | cons head rest =>
      rw [scrubItems, scrubItems, scrubSecrets_agree head, scrubItems_agree rest]

theorem scrubMembers_agree {left right : List (String × Value)} (agree : AgreeMembers left right) :
    scrubMembers left = scrubMembers right := by
  cases agree with
  | nil => rfl
  | secret secret rest =>
      rw [scrubMembers, scrubMembers, if_pos secret, if_pos secret, scrubMembers_agree rest]
  | cons head rest =>
      rw [scrubMembers, scrubMembers, scrubSecrets_agree head, scrubMembers_agree rest]

end

/-! ## What stays -/

/-- One step down. -/
inductive Step where
  | key (key : String)
  | index (index : Nat)

namespace Value

def child : Value → Step → Option Value
  | .mapping items, .key key => (items.find? fun item => item.1 = key).map Prod.snd
  | .tuple items, .index index | .list items, .index index | .set items, .index index => items[index]?
  | _, _ => Option.none

/-- What stands at the end of a path. -/
def at? (value : Value) : List Step → Option Value
  | [] => some value
  | step :: path => (value.child step).bind fun below => below.at? path

end Value

def Step.isSecret : Step → Bool
  | .key name => isSecretKey name
  | .index _ => false

/-- A node before and after: the same keys, the same length, the same leaf but for what its text
says of secrets.  Of a set a list is made. -/
def Keeps : Value → Value → Prop
  | .mapping before, .mapping after => after.map Prod.fst = before.map Prod.fst
  | .tuple before, .tuple after | .list before, .list after | .set before, .list after =>
      after.length = before.length
  | .text before, .text after => after = secretText before
  | .number before, .number after => after = before
  | .bool before, .bool after => after = before
  | .none, .none => True
  | _, _ => False

theorem scrubMembers_keys (items : List (String × Value)) :
    (scrubMembers items).map Prod.fst = items.map Prod.fst := by
  rw [scrubMembers_eq, List.map_map]
  exact List.map_congr_left fun item _ => rfl

theorem scrubSecrets_node (value : Value) : Keeps value (scrubSecrets value) := by
  cases value with
  | mapping items => exact scrubMembers_keys items
  | tuple items => exact (congrArg List.length (scrubItems_eq items)).trans (List.length_map _)
  | list items => exact (congrArg List.length (scrubItems_eq items)).trans (List.length_map _)
  | set items => exact (congrArg List.length (scrubItems_eq items)).trans (List.length_map _)
  | text text => exact rfl
  | number value => exact rfl
  | bool value => exact rfl
  | none => trivial

/-- A member of a mapping after the scrub. -/
theorem find_scrubMembers (items : List (String × Value)) (key : String) :
    ((scrubMembers items).find? fun item => item.1 = key).map Prod.snd =
      ((items.find? fun item => item.1 = key).map Prod.snd).map fun item =>
        if isSecretKey key then .text redacted else scrubSecrets item := by
  induction items with
  | nil => rfl
  | cons item rest ih =>
      obtain ⟨name, value⟩ := item
      rw [scrubMembers, List.find?_cons, List.find?_cons]
      by_cases same : name = key
      · subst same
        simp
      · simpa [same] using ih

/-- The step down to anything that is not secret. -/
theorem child_scrubSecrets (value : Value) {step : Step} (plain : step.isSecret = false) :
    (scrubSecrets value).child step = (value.child step).map scrubSecrets := by
  cases step with
  | key key =>
      cases value with
      | mapping items =>
          rw [scrubSecrets, Value.child, find_scrubMembers, Value.child]
          rw [Step.isSecret] at plain
          rw [plain]
          rfl
      | _ => rfl
  | index index =>
      cases value with
      | tuple items =>
          rw [scrubSecrets, Value.child, scrubItems_eq, List.getElem?_map]
          rfl
      | list items =>
          rw [scrubSecrets, Value.child, scrubItems_eq, List.getElem?_map]
          rfl
      | set items =>
          rw [scrubSecrets, Value.child, scrubItems_eq, List.getElem?_map]
          rfl
      | _ => rfl

/-- The end of a path that leads through no secret key. -/
theorem at_scrubSecrets (value : Value) (path : List Step) (plain : ∀ step ∈ path, step.isSecret = false) :
    (scrubSecrets value).at? path = (value.at? path).map scrubSecrets := by
  induction path generalizing value with
  | nil => rfl
  | cons step path ih =>
      rw [Value.at?, Value.at?, child_scrubSecrets value (plain step List.mem_cons_self)]
      cases value.child step with
      | none => rfl
      | some below => exact ih below fun other member => plain other (List.mem_cons_of_mem _ member)

/-- **Secrets leave no trace.** Two values that differ only under secret keys are scrubbed to the
same value.  A path through no secret key leads somewhere after the scrub exactly where it did
before, to a node with the same keys, as many items, or the same leaf; and every secret key there
holds the same text. -/
theorem scrubSecrets_blind :
    (∀ left right, Agree left right → scrubSecrets left = scrubSecrets right) ∧
      ∀ value path, (∀ step ∈ path, step.isSecret = false) →
        Option.Rel Keeps (value.at? path) ((scrubSecrets value).at? path) ∧
        ∀ items key, value.at? path = some (.mapping items) → key ∈ items.map Prod.fst → isSecretKey key →
          (((scrubSecrets value).at? path).bind fun node => node.child (.key key)) =
            some (.text redacted) := by
  refine ⟨fun left right => scrubSecrets_agree, fun value path plain => ⟨?_, ?_⟩⟩
  · rw [at_scrubSecrets value path plain]
    cases value.at? path with
    | none => exact .none
    | some node => exact .some (scrubSecrets_node node)
  · intro items key here member secret
    rw [at_scrubSecrets value path plain, here, Option.map_some, Option.bind_some, scrubSecrets, Value.child,
      find_scrubMembers]
    obtain ⟨item, inside, rfl⟩ := List.mem_map.1 member
    cases found : items.find? fun other => other.1 = item.1 with
    | none => exact absurd (decide_eq_true rfl) (List.find?_eq_none.1 found item inside)
    | some other => rw [Option.map_some, Option.map_some, if_pos secret]

/-- Two notes with other keys and tokens. -/
theorem scrubSecrets_blind_note :
    scrubSecrets (.list [.mapping [("Api-Key", .text "k1"), ("note", .number 3)]]) =
        scrubSecrets (.list [.mapping [("Api-Key", .tuple [.none]), ("note", .number 3)]]) ∧
      ((scrubSecrets (.list [.mapping [("Api-Key", .text "k1")]])).at? [.index 0]).bind
        (fun node => node.child (.key "Api-Key")) = some (.text redacted) :=
  ⟨scrubSecrets_blind.1 _ _ (.list (.cons (.mapping (.secret (by decide) (.cons (.number 3) .nil))) .nil)),
    (scrubSecrets_blind.2 (.list [.mapping [("Api-Key", .text "k1")]]) [.index 0]
      (fun step member => by rw [List.mem_singleton.1 member]; rfl)).2 _ "Api-Key" rfl (by decide) (by decide)⟩

end AlgoTrader.Core.Logging
