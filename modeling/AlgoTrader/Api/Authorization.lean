/-
# Api.Authorization -- who may use the operator's pages

The role of a request, from the token in its header or from the signed cookie a
sign-in sets.  What the network sends is any text; the primitives the checks rest
on are not total on it.  `hmac.compare_digest` takes only ASCII strings, a message
is encoded as ASCII before it is signed, and the age of a cookie is a float.  Each
of them raises in the model where it raises in the code, so a request ends in a
role, in an `HTTPException` or in another exception.

The keyed digest is a parameter: nothing here depends on what it computes.
-/
import Mathlib.Algebra.Order.Ring.Rat
import Mathlib.Data.Rat.Floor
import AlgoTrader.Core.Text
import AlgoTrader.Theory.Dict

namespace AlgoTrader.Api.Authorization

open AlgoTrader.Core
open AlgoTrader.Theory

set_option autoImplicit false

inductive Raised where
  | http (statusCode : Nat) (detail : String)
  | typeError
  | unicodeEncodeError
  | unicodeDecodeError
  | overflowError
  deriving DecidableEq, Repr

/-- `os.environ`, the clock, and `hmac.new(key, message, sha256).digest()`. -/
structure Environment where
  operatorToken : Option String
  adminToken : Option String
  time : ℚ
  digest : List UInt8 → List UInt8 → List UInt8

/-- What the checks read of a request. -/
structure Request where
  /-- `"token" in request.query_params`. -/
  tokenInUrl : Bool
  /-- The `x-operator-token` header. -/
  supplied : Option String
  /-- The session cookie. -/
  cookie : Option String
  /-- The nonces signed out so far and when each would have expired. -/
  revoked : Dict String Int

structure Session where
  role : String
  nonce : String
  expiresAt : Int
  deriving DecidableEq, Repr

def sessionTtlSeconds : Int := 8 * 60 * 60

def roleLabels : List (String × String) := [("operator", "Operator"), ("admin", "Administrator")]

def ascii (text : String) : Bool := Text.isAscii text.toList

/-- A variable that is set and not empty. -/
def truthy (value : Option String) : Option String := value.filter (· ≠ "")

/-! ## Primitives -/

/-- `hmac.compare_digest` on strings. -/
def compareDigest (a b : String) : Except Raised Bool :=
  if ascii a && ascii b then .ok (a = b) else .error .typeError

def base64Char (n : Nat) : Char :=
  ("ABCDEFGHIJKLMNOPQRSTUVWXYZabcdefghijklmnopqrstuvwxyz0123456789-_".toList).getD n '='

/-- `base64.urlsafe_b64encode(data).decode("ascii").rstrip("=")`. -/
def base64 : List UInt8 → List Char
  | a :: b :: c :: rest =>
      let n := a.toNat * 65536 + b.toNat * 256 + c.toNat
      base64Char (n / 262144) :: base64Char (n / 4096 % 64) :: base64Char (n / 64 % 64) ::
        base64Char (n % 64) :: base64 rest
  | [a, b] =>
      let n := a.toNat * 65536 + b.toNat * 256
      [base64Char (n / 262144), base64Char (n / 4096 % 64), base64Char (n / 64 % 64)]
  | [a] => [base64Char (a.toNat / 4), base64Char (a.toNat % 4 * 16)]
  | [] => []

/-- `message.encode("ascii")`. -/
def encodeAscii (message : String) : Except Raised (List UInt8) :=
  if ascii message then .ok message.toUTF8.toList else .error .unicodeEncodeError

/-- The least magnitude of an integer that has no float. -/
def floatLimit : Int := 2 ^ 1024 - 2 ^ 970

/-- `abs(time.time() - issued_at)`: the clock is a float, so the integer becomes one.  Near
the limit the difference is compared with, the subtraction is exact. -/
def age (time : ℚ) (issuedAt : Int) : Except Raised ℚ :=
  if floatLimit ≤ |issuedAt| then .error .overflowError else .ok |time - issuedAt|

/-- `value.split(".", n)`. -/
def splitDots : Nat → List Char → List (List Char)
  | 0, text => [text]
  | n + 1, text =>
      match text.span (· ≠ '.') with
      | (part, []) => [part]
      | (part, _ :: rest) => part :: splitDots n rest

/-! ## Tokens and cookies -/

variable (env : Environment)

def matchesToken (supplied : String) : Option String → Except Raised Bool
  | some token => compareDigest supplied token
  | none => .ok false

def roleForToken (supplied : String) : Except Raised (Option String) :=
  if supplied = "" then .ok none
  else do
    let isAdmin ← matchesToken supplied (truthy env.adminToken)
    if isAdmin then return some "admin"
    else do
      let isOperator ← matchesToken supplied (truthy env.operatorToken)
      if isOperator then
        return some (if (truthy env.adminToken).isSome then "operator" else "admin")
      else return none

def sign (message : String) : Except Raised String := do
  let secret := (env.operatorToken.getD "").toUTF8.toList
  let message ← encodeAscii message
  return String.ofList (base64 (env.digest secret message))

/-- The parts of a cookie's value, and its time of issue as a number. -/
structure Parts where
  role : String
  issued : String
  nonce : String
  signature : String
  issuedAt : Int

/-- Nothing where the `try` block meets a `ValueError`. -/
def cookieParts (value : String) : Option Parts :=
  match splitDots 3 value.toList with
  | [role, issued, nonce, signature] =>
      (Text.intOf issued).map fun issuedAt =>
        ⟨String.ofList role, String.ofList issued, String.ofList nonce, String.ofList signature,
          issuedAt⟩
  | _ => none

def messageOf (role issued nonce : String) : String := role ++ "." ++ issued ++ "." ++ nonce

/-- The checks on a cookie whose parts could be read. -/
def sessionOf (parts : Parts) : Except Raised (Option Session) :=
  if parts.role ∉ roleLabels.map Prod.fst then .ok none
  else do
    let elapsed ← age env.time parts.issuedAt
    if sessionTtlSeconds < elapsed then return none
    else do
      let expected ← sign env (messageOf parts.role parts.issued parts.nonce)
      let genuine ← compareDigest parts.signature expected
      if genuine then
        return some ⟨parts.role, parts.nonce, parts.issuedAt + sessionTtlSeconds⟩
      else return none

def sessionFromCookie (value : Option String) : Except Raised (Option Session) :=
  match (truthy value).bind cookieParts with
  | none => .ok none
  | some parts => sessionOf env parts

/-! ## The two ways in -/

/-- The role of the header's token, or else of the cookie's session. -/
def requestRole (request : Request) : Except Raised (Option String) :=
  match truthy request.supplied with
  | some supplied => roleForToken env supplied
  | none => (sessionFromCookie env request.cookie).map fun session =>
      (session.filter fun session => session.nonce ∉ request.revoked.keys).map (·.role)

/-- The last checks of a request, on the role it has. -/
def allow (requiredRole : String) : Option String → Except Raised String
  | none => .error (.http 401 "operator authentication required")
  | some role =>
      if requiredRole = "admin" ∧ role ≠ "admin" then
        .error (.http 403 "administrator authorization required")
      else .ok role

def authorize (request : Request) (requiredRole : String) : Except Raised String :=
  if (truthy env.operatorToken).isNone then
    .error (.http 503 "operator authentication is not configured")
  else if request.tokenInUrl then
    .error (.http 400
      "tokens are not accepted in URLs; use the x-operator-token header or sign in")
  else (requestRole env request).bind (allow requiredRole)

/-- `int(x)` of a float. -/
def truncate (x : ℚ) : Int := if 0 ≤ x then ⌊x⌋ else ⌈x⌉

/-- The cookie a sign-in sets; the drawn bytes are those of `secrets.token_urlsafe(16)`. -/
def setSessionCookie (role : String) (drawn : List UInt8) : Except Raised String := do
  let message := messageOf role (toString (truncate env.time)) (String.ofList (base64 drawn))
  let signature ← sign env message
  return message ++ "." ++ signature

/-- A sign-in form: the fields in order, or nothing where the body is not UTF-8. -/
abbrev Body := Option (List (String × String))

def tokenOf (fields : List (String × String)) : String :=
  ((fields.find? fun field => field.1 = "token").map Prod.snd).getD ""

/-- The answer to a sign-in, and the cookie it sets. -/
def signIn (drawn : List UInt8) : Option String → Except Raised (String × String)
  | none => .error (.http 401 "operator authentication required")
  | some role => (setSessionCookie env role drawn).map fun cookie => (role, cookie)

def operatorLoginSubmit (body : Body) (drawn : List UInt8) : Except Raised (String × String) :=
  match body with
  | none => .error .unicodeDecodeError
  | some fields => (roleForToken env (tokenOf fields)).bind (signIn env drawn)

/-! ## What ASCII text is made of -/

theorem ascii_iff {text : String} : ascii text = true ↔ ∀ c ∈ text.toList, c.toNat < 128 := by
  simp [ascii, Text.isAscii]

theorem ascii_append {a b : String} : ascii (a ++ b) = (ascii a && ascii b) := by
  simp [ascii, Text.isAscii]

theorem messageOf_ascii {role issued nonce : String} :
    ascii (messageOf role issued nonce) = (ascii role && ascii issued && ascii nonce) := by
  have dot : ascii "." = true := by decide
  simp [messageOf, ascii_append, dot]

theorem base64Char_ascii (n : Nat) : (base64Char n).toNat < 128 := by
  have listed : ∀ c ∈ "ABCDEFGHIJKLMNOPQRSTUVWXYZabcdefghijklmnopqrstuvwxyz0123456789-_".toList,
      c.toNat < 128 := by simp
  rw [base64Char, List.getD_eq_getElem?_getD]
  cases found : ("ABCDEFGHIJKLMNOPQRSTUVWXYZabcdefghijklmnopqrstuvwxyz0123456789-_".toList)[n]? with
  | none => decide
  | some c => exact listed c (List.mem_of_getElem? found)

theorem base64_ascii (data : List UInt8) : ascii (String.ofList (base64 data)) = true := by
  rw [ascii_iff, String.toList_ofList]
  induction data using base64.induct with
  | case1 a b c rest ih =>
    intro ch member
    simp only [base64, List.mem_cons] at member
    rcases member with rfl | rfl | rfl | rfl | later
    · exact base64Char_ascii _
    · exact base64Char_ascii _
    · exact base64Char_ascii _
    · exact base64Char_ascii _
    · exact ih ch later
  | case2 a b =>
    intro ch member
    simp only [base64, List.mem_cons, List.not_mem_nil, or_false] at member
    rcases member with rfl | rfl | rfl
    · exact base64Char_ascii _
    · exact base64Char_ascii _
    · exact base64Char_ascii _
  | case3 a =>
    intro ch member
    simp only [base64, List.mem_cons, List.not_mem_nil, or_false] at member
    rcases member with rfl | rfl
    · exact base64Char_ascii _
    · exact base64Char_ascii _
  | case4 => exact nofun

theorem nat_ascii (n : Nat) : ascii (toString n) = true := by
  rw [ascii_iff]
  intro c member
  have digit : c.isDigit = true :=
    Nat.isDigit_of_mem_toDigits (b := 10) (n := n) (by decide) (by decide) (by simpa using member)
  simp only [Char.isDigit, Bool.and_eq_true, decide_eq_true_eq] at digit
  have : c.toNat ≤ 57 := digit.2
  omega

theorem int_ascii (n : Int) : ascii (toString n) = true := by
  cases n with
  | ofNat m => exact nat_ascii m
  | negSucc m =>
    have minus : ascii "-" = true := by decide
    have shown : toString (Int.negSucc m) = "-" ++ toString (m + 1) := rfl
    rw [shown, ascii_append, minus, nat_ascii]
    rfl

/-! ## Where the checks are total -/

def Raised.isHttp : Raised → Bool
  | .http _ _ => true
  | _ => false

/-- A value that is what it should be, or an `HTTPException`. -/
def Answers {α : Type} (result : Except Raised α) (justified : α → Prop) : Prop :=
  (∃ a, result = .ok a ∧ justified a) ∨
    ∃ statusCode detail, result = .error (.http statusCode detail)

theorem not_answers {α : Type} {result : Except Raised α} {justified : α → Prop} {e : Raised}
    (raised : result = .error e) (other : e.isHttp = false) : ¬Answers result justified := by
  rintro (⟨a, done, -⟩ | ⟨statusCode, detail, refused⟩)
  · cases raised.symm.trans done
  · cases raised.symm.trans refused
    cases other

/-- A text can be compared with a token, if there is one. -/
def Comparable (supplied : String) (token : Option String) : Prop :=
  ∀ known ∈ token, ascii supplied = true ∧ ascii known = true

/-- A token is only compared with tokens it can be compared with: with the
administrator's, and with the operator's unless it is the administrator's. -/
def TokenSafe (env : Environment) (supplied : String) : Prop :=
  supplied ≠ "" → Comparable supplied (truthy env.adminToken) ∧
    (truthy env.adminToken ≠ some supplied → Comparable supplied (truthy env.operatorToken))

/-- A cookie of a known role was issued at a time that has a float and, unless it
is too old or too new, is ASCII throughout. -/
def CookieSafe (env : Environment) (parts : Parts) : Prop :=
  parts.role ∈ roleLabels.map Prod.fst →
    |parts.issuedAt| < floatLimit ∧
      (|env.time - parts.issuedAt| ≤ sessionTtlSeconds →
        ascii parts.issued = true ∧ ascii parts.nonce = true ∧ ascii parts.signature = true)

/-- The token is one of the configured ones, and the role is that token's. -/
def HoldsToken (env : Environment) (supplied role : String) : Prop :=
  supplied ≠ "" ∧
    ((env.adminToken = some supplied ∧ role = "admin") ∨
      (env.operatorToken = some supplied ∧
        role = if (truthy env.adminToken).isSome then "operator" else "admin"))

/-- The cookie's signature verifies and it is not expired. -/
structure Genuine (env : Environment) (parts : Parts) : Prop where
  known : parts.role ∈ roleLabels.map Prod.fst
  fresh : |env.time - parts.issuedAt| ≤ sessionTtlSeconds
  signed : sign env (messageOf parts.role parts.issued parts.nonce) = .ok parts.signature

section Checks

variable {env : Environment}

theorem truthy_eq_some {value : Option String} {text : String} :
    truthy value = some text ↔ value = some text ∧ text ≠ "" := by
  simp [truthy, Option.filter_eq_some_iff]

theorem matchesToken_spec (supplied : String) (token : Option String) :
    (Comparable supplied token ∧ matchesToken supplied token = .ok (token = some supplied)) ∨
      (¬Comparable supplied token ∧ matchesToken supplied token = .error .typeError) := by
  cases token with
  | none => exact .inl ⟨nofun, rfl⟩
  | some known =>
    by_cases both : ascii supplied = true ∧ ascii known = true
    · refine .inl ⟨fun _ same => Option.some.inj same ▸ both, ?_⟩
      simp [matchesToken, compareDigest, both, eq_comm]
    · refine .inr ⟨fun comparable => both (comparable known rfl), ?_⟩
      simp only [matchesToken, compareDigest, Bool.and_eq_true]
      exact if_neg both

theorem roleForToken_spec (env : Environment) (supplied : String) :
    (TokenSafe env supplied ∧ ∃ role, roleForToken env supplied = .ok role ∧
        ∀ held ∈ role, HoldsToken env supplied held) ∨
      (¬TokenSafe env supplied ∧ roleForToken env supplied = .error .typeError) := by
  by_cases empty : supplied = ""
  · exact .inl ⟨fun present => absurd empty present, none, if_pos empty, nofun⟩
  rw [roleForToken, if_neg empty]
  rcases matchesToken_spec supplied (truthy env.adminToken) with ⟨admin, compared⟩ | ⟨bad, raised⟩
  swap
  · exact .inr ⟨fun safe => bad (safe empty).1, by rw [raised]; rfl⟩
  rw [compared]
  by_cases isAdmin : truthy env.adminToken = some supplied
  · refine .inl ⟨fun _ => ⟨admin, fun other => absurd isAdmin other⟩, some "admin", ?_, ?_⟩
    · simp [bind, Except.bind, isAdmin, pure, Except.pure]
    · intro held is
      obtain rfl := Option.some.inj is
      exact ⟨empty, .inl ⟨(truthy_eq_some.1 isAdmin).1, rfl⟩⟩
  rcases matchesToken_spec supplied (truthy env.operatorToken) with ⟨operator, compared⟩ | ⟨bad, raised⟩
  swap
  · refine .inr ⟨fun safe => bad ((safe empty).2 isAdmin), ?_⟩
    simp [bind, Except.bind, isAdmin, raised]
  by_cases isOperator : truthy env.operatorToken = some supplied
  · refine .inl ⟨fun _ => ⟨admin, fun _ => operator⟩,
      some (if (truthy env.adminToken).isSome then "operator" else "admin"), ?_, ?_⟩
    · have hit := compared.trans (congrArg Except.ok (decide_eq_true isOperator))
      simp [bind, Except.bind, isAdmin, hit, pure, Except.pure]
    · intro held is
      obtain rfl := Option.some.inj is
      exact ⟨empty, .inr ⟨(truthy_eq_some.1 isOperator).1, rfl⟩⟩
  · refine .inl ⟨fun _ => ⟨admin, fun _ => operator⟩, none, ?_, nofun⟩
    simp [bind, Except.bind, isAdmin, compared, isOperator, pure, Except.pure]

theorem role_ascii {role : String} (known : role ∈ roleLabels.map Prod.fst) :
    ascii role = true := by
  have all : ∀ role ∈ roleLabels.map Prod.fst, ascii role = true := by decide
  exact all role known

variable (env) in
/-- Signing succeeds on ASCII text, with an ASCII signature. -/
theorem sign_ok {message : String} (readable : ascii message = true) :
    ∃ signature, sign env message = .ok signature ∧ ascii signature = true := by
  refine ⟨_, ?_, base64_ascii (env.digest (env.operatorToken.getD "").toUTF8.toList
    message.toUTF8.toList)⟩
  rw [sign, encodeAscii, if_pos readable]
  rfl

theorem sign_raises {message : String} (unreadable : ascii message ≠ true) :
    sign env message = .error .unicodeEncodeError := by
  rw [sign, encodeAscii, if_neg unreadable]
  rfl

theorem sessionOf_spec (env : Environment) (parts : Parts) :
    (CookieSafe env parts ∧ ∃ session, sessionOf env parts = .ok session ∧
        ∀ opened ∈ session, Genuine env parts ∧ opened.role = parts.role ∧
          opened.nonce = parts.nonce) ∨
      (¬CookieSafe env parts ∧ ∃ e, sessionOf env parts = .error e ∧ e.isHttp = false) := by
  by_cases known : parts.role ∈ roleLabels.map Prod.fst
  swap
  · exact .inl ⟨fun is => absurd is known, none, if_pos known, nofun⟩
  rw [sessionOf, if_neg (not_not.2 known)]
  by_cases large : floatLimit ≤ |parts.issuedAt|
  · refine .inr ⟨fun safe => absurd (safe known).1 (Int.not_lt.2 large), .overflowError, ?_, rfl⟩
    rw [age, if_pos large]
    rfl
  have bounded := Int.not_le.1 large
  rw [age, if_neg large]
  by_cases old : (sessionTtlSeconds : ℚ) < |env.time - parts.issuedAt|
  · refine .inl ⟨fun _ => ⟨bounded, fun fresh => absurd old (not_lt.2 fresh)⟩, none, ?_, nofun⟩
    simp only [bind, Except.bind, if_pos old]
    rfl
  have fresh := not_lt.1 old
  by_cases readable : ascii (messageOf parts.role parts.issued parts.nonce) = true
  swap
  · refine .inr ⟨fun safe => readable ?_, .unicodeEncodeError, ?_, rfl⟩
    · obtain ⟨issued, nonce, -⟩ := (safe known).2 fresh
      rw [messageOf_ascii, role_ascii known, issued, nonce]
      rfl
    · simp only [bind, Except.bind, if_neg old, sign_raises readable]
  obtain ⟨expected, signed, expectedAscii⟩ := sign_ok env readable
  by_cases signature : ascii parts.signature = true
  swap
  · refine .inr ⟨fun safe => signature ((safe known).2 fresh).2.2, .typeError, ?_, rfl⟩
    simp [bind, Except.bind, old, signed, compareDigest, signature]
  have safe : CookieSafe env parts := by
    intro _
    rw [messageOf_ascii, Bool.and_eq_true, Bool.and_eq_true] at readable
    exact ⟨bounded, fun _ => ⟨readable.1.2, readable.2, signature⟩⟩
  by_cases same : parts.signature = expected
  · refine .inl ⟨safe, some ⟨parts.role, parts.nonce, parts.issuedAt + sessionTtlSeconds⟩, ?_, ?_⟩
    · simp [bind, Except.bind, old, signed, compareDigest, ← same, signature, pure, Except.pure]
    · intro opened is
      obtain rfl := Option.some.inj is
      exact ⟨⟨known, fresh, same ▸ signed⟩, rfl, rfl⟩
  · refine .inl ⟨safe, none, ?_, nofun⟩
    simp [bind, Except.bind, old, signed, compareDigest, expectedAscii, signature, same, pure,
      Except.pure]

variable (env) in
/-- A sign-in sets its cookie without fail. -/
theorem setSessionCookie_ok {role : String} (known : role ∈ roleLabels.map Prod.fst)
    (drawn : List UInt8) : ∃ cookie, setSessionCookie env role drawn = .ok cookie := by
  have readable : ascii (messageOf role (toString (truncate env.time))
      (String.ofList (base64 drawn))) = true := by
    rw [messageOf_ascii, role_ascii known, int_ascii, base64_ascii]
    rfl
  obtain ⟨signature, signed, -⟩ := sign_ok env readable
  exact ⟨_, by rw [setSessionCookie, signed]; rfl⟩

theorem holdsToken_known {supplied role : String} (holds : HoldsToken env supplied role) :
    role ∈ roleLabels.map Prod.fst := by
  rcases holds.2 with ⟨-, rfl⟩ | ⟨-, rfl⟩
  · decide
  · split <;> decide

end Checks

/-- Whoever has the role: the header holds a token, or there is no header and the
cookie is genuine and not signed out. -/
inductive Entitled (env : Environment) (request : Request) : String → Prop
  | byToken {supplied role : String} (header : truthy request.supplied = some supplied)
      (holds : HoldsToken env supplied role) : Entitled env request role
  | byCookie {value : String} {parts : Parts} (noHeader : truthy request.supplied = none)
      (cookie : request.cookie = some value) (read : cookieParts value = some parts)
      (genuine : Genuine env parts) (valid : parts.nonce ∉ request.revoked.keys) :
      Entitled env request parts.role

/-- A request that is looked at has a header that can be compared or, without one,
a cookie that can be checked. -/
def RequestSafe (env : Environment) (request : Request) : Prop :=
  (truthy env.operatorToken).isSome → request.tokenInUrl = false →
    (∀ supplied ∈ truthy request.supplied, TokenSafe env supplied) ∧
    (truthy request.supplied = none →
      ∀ parts ∈ (truthy request.cookie).bind cookieParts, CookieSafe env parts)

/-- The form can be read, and its token compared. -/
def BodySafe (env : Environment) (body : Body) : Prop :=
  ∃ fields, body = some fields ∧ TokenSafe env (tokenOf fields)

section Ways

variable (env : Environment)

theorem requestRole_spec (request : Request) :
    (((∀ supplied ∈ truthy request.supplied, TokenSafe env supplied) ∧
        (truthy request.supplied = none →
          ∀ parts ∈ (truthy request.cookie).bind cookieParts, CookieSafe env parts)) ∧
      ∃ role, requestRole env request = .ok role ∧ ∀ held ∈ role, Entitled env request held) ∨
    (¬((∀ supplied ∈ truthy request.supplied, TokenSafe env supplied) ∧
        (truthy request.supplied = none →
          ∀ parts ∈ (truthy request.cookie).bind cookieParts, CookieSafe env parts)) ∧
      ∃ e, requestRole env request = .error e ∧ e.isHttp = false) := by
  cases header : truthy request.supplied with
  | some supplied =>
    rw [requestRole, header]
    rcases roleForToken_spec env supplied with ⟨safe, role, done, holds⟩ | ⟨bad, raised⟩
    · refine .inl ⟨⟨fun _ same => Option.some.inj same ▸ safe, nofun⟩, role, done, ?_⟩
      exact fun held is => .byToken header (holds held is)
    · exact .inr ⟨fun safe => bad (safe.1 supplied rfl), .typeError, raised, rfl⟩
  | none =>
    rw [requestRole, header]
    cases read : (truthy request.cookie).bind cookieParts with
    | none =>
      refine .inl ⟨⟨nofun, fun _ => nofun⟩, none, ?_, nofun⟩
      rw [sessionFromCookie, read]
      rfl
    | some parts =>
      have opened : sessionFromCookie env request.cookie = sessionOf env parts := by
        rw [sessionFromCookie, read]
      rcases sessionOf_spec env parts with ⟨safe, session, done, genuine⟩ | ⟨bad, e, raised, other⟩
      · refine .inl ⟨⟨nofun, fun _ _ same => Option.some.inj same ▸ safe⟩, _,
          by rw [opened, done]; rfl, ?_⟩
        intro held is
        obtain ⟨session, kept, rfl⟩ := Option.map_eq_some_iff.1 is
        obtain ⟨here, valid⟩ := Option.filter_eq_some_iff.1 kept
        obtain ⟨checked, role, nonce⟩ := genuine session here
        obtain ⟨value, present, parsed⟩ := Option.bind_eq_some_iff.1 read
        rw [role]
        exact .byCookie header (truthy_eq_some.1 present).1 parsed checked
          (nonce ▸ of_decide_eq_true valid)
      · exact .inr ⟨fun safe => bad (safe.2 rfl parts rfl), e, by rw [opened, raised]; rfl, other⟩

theorem authorize_answers_iff (request : Request) (requiredRole : String) :
    Answers (authorize env request requiredRole) (Entitled env request) ↔
      RequestSafe env request := by
  by_cases configured : (truthy env.operatorToken).isNone
  · refine ⟨fun _ is => ?_, fun _ => .inr ⟨_, _, if_pos configured⟩⟩
    simp_all
  by_cases inUrl : request.tokenInUrl = true
  · have refused : authorize env request requiredRole = _ :=
      (if_neg configured).trans (if_pos inUrl)
    exact ⟨fun _ _ off => absurd inUrl (by simp [off]), fun _ => .inr ⟨_, _, refused⟩⟩
  have checked : (truthy env.operatorToken).isSome := by
    rw [Option.isSome_iff_ne_none]
    simpa using configured
  have looked : RequestSafe env request ↔ _ ∧ _ :=
    ⟨fun safe => safe checked (by simpa using inUrl), fun both _ _ => both⟩
  have outcome : authorize env request requiredRole =
      (requestRole env request).bind (allow requiredRole) :=
    (if_neg configured).trans (if_neg inUrl)
  rcases requestRole_spec env request with ⟨safe, role, done, entitled⟩ | ⟨bad, e, raised, other⟩
  · refine ⟨fun _ => looked.2 safe, fun _ => ?_⟩
    rw [outcome, done]
    cases role with
    | none => exact .inr ⟨_, _, rfl⟩
    | some role =>
      by_cases forbidden : requiredRole = "admin" ∧ role ≠ "admin"
      · exact .inr ⟨_, _, if_pos forbidden⟩
      · exact .inl ⟨role, if_neg forbidden, entitled role rfl⟩
  · refine ⟨fun answers => absurd answers (not_answers ?_ other), fun safe =>
      absurd (looked.1 safe) bad⟩
    rw [outcome, raised]
    rfl

theorem login_answers_iff (body : Body) (drawn : List UInt8) :
    Answers (operatorLoginSubmit env body drawn)
        (fun signedIn => ∃ fields, body = some fields ∧
          HoldsToken env (tokenOf fields) signedIn.1) ↔
      BodySafe env body := by
  cases body with
  | none =>
    refine ⟨fun answers => absurd answers (not_answers (e := .unicodeDecodeError) rfl rfl), ?_⟩
    rintro ⟨fields, never, -⟩
    cases never
  | some fields =>
    have outcome : operatorLoginSubmit env (some fields) drawn =
        (roleForToken env (tokenOf fields)).bind (signIn env drawn) := rfl
    rcases roleForToken_spec env (tokenOf fields) with ⟨safe, role, done, holds⟩ | ⟨bad, raised⟩
    · refine ⟨fun _ => ⟨fields, rfl, safe⟩, fun _ => ?_⟩
      rw [outcome, done]
      cases role with
      | none => exact .inr ⟨_, _, rfl⟩
      | some role =>
        obtain ⟨cookie, set⟩ := setSessionCookie_ok env
          (holdsToken_known (holds role rfl)) drawn
        refine .inl ⟨(role, cookie), ?_, fields, rfl, holds role rfl⟩
        dsimp only [Except.bind, signIn]
        rw [set]
        rfl
    · refine ⟨fun answers => absurd answers (not_answers ?_ (e := .typeError) rfl), ?_⟩
      · rw [outcome, raised]
        rfl
      · rintro ⟨_, same, safe⟩
        cases same
        exact absurd safe bad

/-- The request's role and the sign-in are answered, with a role only for who is
entitled to it or with an `HTTPException`, exactly when what was sent can be
compared, signed and dated. -/
theorem authorization_total_iff :
    (∀ request requiredRole, Answers (authorize env request requiredRole) (Entitled env request) ↔
      RequestSafe env request) ∧
    (∀ body drawn, Answers (operatorLoginSubmit env body drawn)
        (fun signedIn => ∃ fields, body = some fields ∧
          HoldsToken env (tokenOf fields) signedIn.1) ↔
      BodySafe env body) :=
  ⟨authorize_answers_iff env, login_answers_iff env⟩

end Ways

/-- One token is configured, and a request sends a header that is not ASCII. -/
theorem accented_header_raises :
    ¬Answers (authorize ⟨some "secret", none, 1700000000, fun _ _ => []⟩
        ⟨false, some "é", none, Dict.empty⟩ "operator")
      (Entitled ⟨some "secret", none, 1700000000, fun _ _ => []⟩
        ⟨false, some "é", none, Dict.empty⟩) := by
  refine not_answers (e := .typeError) ?_ rfl
  decide

end AlgoTrader.Api.Authorization
