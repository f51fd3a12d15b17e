/-
# Api.Revocation -- signed out for good

A sign-out enters the nonce of its session in a table, with the time the cookie expires, and
drops the entries whose time has passed.  An entry is dropped only when its cookie could not be
used any more, and no other session has its nonce.

The clock is read anew for every check.  What the sessions rest on is in `Lawful`: the clock
does not go back, a cookie whose signature verifies was set by a sign-in, and no nonce is drawn
twice.

* `revokedAfter_tells` -- what is in the table was put there by a sign-out;
* `stays_gone` -- once signed out, a session is in the table or past its time, whatever follows;
* `revocation_permanent` -- no request is authorized by the cookie of a session that has signed
  out, and no sign-out changes anything for another cookie.
-/
import Mathlib.Tactic.Linarith
import AlgoTrader.Api.Authorization
import AlgoTrader.Theory.Raising

namespace AlgoTrader.Api.Authorization

open AlgoTrader.Core
open AlgoTrader.Theory

set_option autoImplicit false

/-! ## Signing out -/

/-- What stays the same while the process runs. -/
structure Keys where
  operatorToken : Option String
  adminToken : Option String
  digest : List UInt8 → List UInt8 → List UInt8

def Keys.at (keys : Keys) (time : ℚ) : Environment :=
  ⟨keys.operatorToken, keys.adminToken, time, keys.digest⟩

/-- `_revoke`: drop what has expired, and enter the session. -/
def revoke (now : ℚ) (session : Session) (revoked : Dict String Int) : Dict String Int :=
  (revoked.filter fun entry : String × Int => ¬(entry.2 : ℚ) < now).set session.nonce
    session.expiresAt

/-- `operator_logout`: the session that was signed out, if there was one, and the table. -/
def operatorLogout (keys : Keys) (checkedAt revokedAt : ℚ) (cookie : Option String)
    (revoked : Dict String Int) : Except Raised (Option Session) × Dict String Int :=
  match sessionFromCookie (keys.at checkedAt) cookie with
  | .ok (some session) => (.ok (some session), revoke revokedAt session revoked)
  | .ok none => (.ok none, revoked)
  | .error e => (.error e, revoked)

/-- A request to the process, with the clock as it reads it. -/
inductive Call where
  | signIn (at_ : ℚ) (body : Body) (drawn : List UInt8)
  | authorize (at_ : ℚ) (request : Request) (requiredRole : String)
  | signOut (checkedAt revokedAt : ℚ) (cookie : Option String)

namespace Call

def readings : Call → List ℚ
  | signIn at_ _ _ => [at_]
  | authorize at_ _ _ => [at_]
  | signOut checkedAt revokedAt _ => [checkedAt, revokedAt]

/-- The cookie a call bears. -/
def cookie : Call → Option String
  | signIn _ _ _ => none
  | authorize _ request _ => request.cookie
  | signOut _ _ cookie => cookie

/-- The cookie a call sets. -/
def issued (keys : Keys) : Call → Option String
  | signIn at_ body drawn =>
      match operatorLoginSubmit (keys.at at_) body drawn with
      | .ok (_, cookie) => some cookie
      | .error _ => none
  | _ => none

/-- What a call does to the table. -/
def run (keys : Keys) (call : Call) (revoked : Dict String Int) : Dict String Int :=
  match call with
  | signOut checkedAt revokedAt cookie =>
      (operatorLogout keys checkedAt revokedAt cookie revoked).2
  | _ => revoked

end Call

/-- The table after some calls. -/
def revokedAfter (keys : Keys) (calls : List Call) : Dict String Int :=
  calls.foldl (fun revoked call => call.run keys revoked) .empty

/-- A request as it is answered after some calls. -/
def answered (keys : Keys) (calls : List Call) (at_ : ℚ) (request : Request) (requiredRole : String) :
    Except Raised String :=
  authorize (keys.at at_) { request with revoked := revokedAfter keys calls } requiredRole

/-! ## What the sessions rest on -/

/-- The signature of a cookie verifies. -/
def Signed (keys : Keys) (parts : Parts) : Prop :=
  sign (keys.at 0) (messageOf parts.role parts.issued parts.nonce) = .ok parts.signature

/-- The cookies in use: those of earlier processes and those the calls set. -/
def cookiesOf (keys : Keys) (before : List String) (calls : List Call) : List String :=
  before ++ calls.filterMap (Call.issued keys)

structure Lawful (keys : Keys) (before : List String) (calls : List Call) : Prop where
  /-- The clock does not go back. -/
  clock : (calls.flatMap Call.readings).Pairwise (· ≤ ·)
  /-- A cookie whose signature verifies was set by a sign-in. -/
  unforged : ∀ call ∈ calls, ∀ value parts, call.cookie = some value →
    cookieParts value = some parts → Signed keys parts → value ∈ cookiesOf keys before calls
  /-- No nonce is drawn twice. -/
  fresh : (((cookiesOf keys before calls).filterMap cookieParts).map Parts.nonce).Nodup

/-! ## What a cookie opens -/

section Cookies

variable {keys : Keys}

theorem splitDots_ne_nil (n : Nat) (text : List Char) : splitDots n text ≠ [] := by
  cases n with
  | zero => simp [splitDots]
  | succ n =>
      rw [splitDots]
      split
      · simp
      · simp

/-- A text is its parts with dots between them. -/
theorem splitDots_join (n : Nat) (text : List Char) :
    List.intercalate ['.'] (splitDots n text) = text := by
  induction n generalizing text with
  | zero => exact List.intercalate_singleton
  | succ n ih =>
      have whole := List.takeWhile_append_dropWhile (p := (· ≠ '.')) (l := text)
      rw [splitDots, List.span_eq_takeWhile_dropWhile]
      cases rest : text.dropWhile (· ≠ '.') with
      | nil =>
          rw [rest, List.append_nil] at whole
          exact List.intercalate_singleton.trans whole
      | cons dot rest' =>
          have isDot : dot = '.' := by
            have first := List.head?_dropWhile_not (· ≠ '.') text
            rw [rest] at first
            simpa using first
          dsimp only
          rw [rest, isDot] at whole
          rw [List.intercalate_cons_of_ne_nil (splitDots_ne_nil n rest'), ih, List.append_assoc]
          exact whole

theorem cookieParts_inj {value other : String} {parts : Parts} (read : cookieParts value = some parts)
    (read' : cookieParts other = some parts) : value = other := by
  have joined : ∀ {text : String}, cookieParts text = some parts →
      text.toList = List.intercalate ['.']
        [parts.role.toList, parts.issued.toList, parts.nonce.toList, parts.signature.toList] := by
    intro text here
    have whole := splitDots_join 3 text.toList
    unfold cookieParts at here
    split at here
    · rename_i role issued nonce signature split
      obtain ⟨issuedAt, _, rfl⟩ := Option.map_eq_some_iff.1 here
      rw [split] at whole
      simpa using whole.symm
    · cases here
  exact String.toList_injective ((joined read).trans (joined read').symm)

/-- A session is that of a cookie whose signature verifies, before its time is over. -/
theorem opened {at_ : ℚ} {value : String} {session : Session}
    (opens : sessionFromCookie (keys.at at_) (some value) = .ok (some session)) :
    ∃ parts, cookieParts value = some parts ∧ Signed keys parts ∧ session.nonce = parts.nonce ∧
      session.expiresAt = parts.issuedAt + sessionTtlSeconds ∧ at_ ≤ session.expiresAt := by
  unfold sessionFromCookie at opens
  split at opens
  · cases opens
  · rename_i parts read
    obtain ⟨text, present, parsed⟩ := Option.bind_eq_some_iff.1 read
    cases (truthy_eq_some.1 present).1
    refine ⟨parts, parsed, ?_⟩
    unfold sessionOf at opens
    split at opens
    · cases opens
    · obtain ⟨elapsed, aged, rest⟩ := bind_eq_ok.1 opens
      split at rest
      · cases rest
      · rename_i young
        obtain ⟨expected, signed, rest⟩ := bind_eq_ok.1 rest
        obtain ⟨genuine, compared, rest⟩ := bind_eq_ok.1 rest
        split at rest
        · rename_i same
          cases rest
          refine ⟨?_, rfl, rfl, ?_⟩
          · have equal : parts.signature = expected := by
              unfold compareDigest at compared
              split at compared
              · have told : decide (parts.signature = expected) = true :=
                  (Except.ok.inj compared).trans same
                exact of_decide_eq_true told
              · cases compared
            rw [Signed, equal]
            exact signed
          · have since : elapsed = |at_ - parts.issuedAt| := by
              unfold age at aged
              split at aged
              · cases aged
              · exact (Except.ok.inj aged).symm
            rw [since] at young
            have upTo := (le_abs_self (at_ - parts.issuedAt)).trans (not_lt.1 young)
            push_cast
            linarith
        · cases rest

end Cookies

/-! ## The table -/

section Table

variable {keys : Keys}

theorem revokedAfter_snoc (calls : List Call) (call : Call) :
    revokedAfter keys (calls ++ [call]) = call.run keys (revokedAfter keys calls) := by
  rw [revokedAfter, List.foldl_append]
  rfl

theorem revokedAfter_append (calls more : List Call) : revokedAfter keys (calls ++ more) =
    more.foldl (fun revoked call => call.run keys revoked) (revokedAfter keys calls) := by
  rw [revokedAfter, List.foldl_append]
  rfl

theorem get?_revoke (now : ℚ) (session : Session) (revoked : Dict String Int) (nonce : String) :
    (revoke now session revoked).get? nonce =
      if nonce = session.nonce then some session.expiresAt
      else (revoked.get? nonce).filter fun expires : Int => ¬(expires : ℚ) < now := by
  rw [revoke, Dict.get?_set, Dict.get?_filter]

/-- A call leaves the table as it is, or signs out the session its cookie opens. -/
theorem run_cases (keys : Keys) (call : Call) (revoked : Dict String Int) : call.run keys revoked = revoked ∨
    ∃ checkedAt revokedAt value session, call = .signOut checkedAt revokedAt (some value) ∧
      sessionFromCookie (keys.at checkedAt) (some value) = .ok (some session) ∧
      call.run keys revoked = revoke revokedAt session revoked := by
  cases call with
  | signIn at_ body drawn => exact .inl rfl
  | authorize at_ request requiredRole => exact .inl rfl
  | signOut checkedAt revokedAt cookie =>
      cases opens : sessionFromCookie (keys.at checkedAt) cookie with
      | error e =>
          refine .inl ?_
          simp only [Call.run, operatorLogout, opens]
      | ok found =>
          cases found with
          | none =>
              refine .inl ?_
              simp only [Call.run, operatorLogout, opens]
          | some session =>
              cases cookie with
              | none => cases opens
              | some value =>
                  refine .inr ⟨checkedAt, revokedAt, value, session, rfl, opens, ?_⟩
                  simp only [Call.run, operatorLogout, opens]

/-- What is in the table was entered when a session with that nonce was signed out. -/
theorem revokedAfter_tells {calls : List Call} {nonce : String}
    (entered : nonce ∈ (revokedAfter keys calls).keys) :
    ∃ checkedAt revokedAt value parts, .signOut checkedAt revokedAt (some value) ∈ calls ∧
      cookieParts value = some parts ∧ Signed keys parts ∧ parts.nonce = nonce := by
  induction calls using List.reverseRecOn with
  | nil => cases entered
  | append_singleton calls call ih =>
      have earlier : nonce ∈ (revokedAfter keys calls).keys →
          ∃ checkedAt revokedAt value parts, .signOut checkedAt revokedAt (some value) ∈ calls ++ [call] ∧
            cookieParts value = some parts ∧ Signed keys parts ∧ parts.nonce = nonce := by
        intro before
        obtain ⟨checkedAt, revokedAt, value, parts, member, told⟩ := ih before
        exact ⟨checkedAt, revokedAt, value, parts, List.mem_append_left _ member, told⟩
      rw [revokedAfter_snoc] at entered
      rcases run_cases keys call (revokedAfter keys calls) with
        same | ⟨checkedAt, revokedAt, value, session, is, opens, ran⟩
      · rw [same] at entered
        exact earlier entered
      · rw [ran, revoke, Dict.mem_keys_set] at entered
        rcases entered with own | kept
        · obtain ⟨parts, read, signed, named, _⟩ := opened opens
          exact ⟨checkedAt, revokedAt, value, parts, by simp [is], read, signed, by rw [own, named]⟩
        · obtain ⟨expires, member⟩ := Dict.mem_keys.1 kept
          exact earlier (Dict.mem_keys.2 ⟨expires, (List.mem_filter.1 member).1⟩)

end Table

/-! ## Signed out for good -/

section Lawful

variable {keys : Keys} {before : List String} {calls : List Call}

/-- Two cookies in use with one nonce have the same parts. -/
theorem Lawful.parts_eq (lawful : Lawful keys before calls) {call other : Call} (made : call ∈ calls)
    (made' : other ∈ calls) {value value' : String} {parts parts' : Parts}
    (bears : call.cookie = some value) (bears' : other.cookie = some value')
    (read : cookieParts value = some parts) (read' : cookieParts value' = some parts')
    (signed : Signed keys parts) (signed' : Signed keys parts') (nonce : parts.nonce = parts'.nonce) :
    parts = parts' := by
  have inUse := lawful.unforged call made value parts bears read signed
  have inUse' := lawful.unforged other made' value' parts' bears' read' signed'
  exact List.inj_on_of_nodup_map lawful.fresh (List.mem_filterMap.2 ⟨value, inUse, read⟩)
    (List.mem_filterMap.2 ⟨value', inUse', read'⟩) nonce

/-- A nonce is in the table with the time its cookie expires, or that time is past. -/
def Gone (nonce : String) (expires : Int) (now : ℚ) (revoked : Dict String Int) : Prop :=
  revoked.get? nonce = some expires ∨ (expires : ℚ) < now

/-- Once signed out, a session is in the table or past its time, whatever follows. -/
theorem stays_gone (lawful : Lawful keys before calls) {call : Call} (made : call ∈ calls)
    {value : String} {parts : Parts} (bears : call.cookie = some value)
    (read : cookieParts value = some parts) (signed : Signed keys parts) {more : List Call}
    (later : ∀ other ∈ more, other ∈ calls) {now : ℚ}
    (upTo : ∀ reading ∈ more.flatMap Call.readings, reading ≤ now) {revoked : Dict String Int}
    (gone : Gone parts.nonce (parts.issuedAt + sessionTtlSeconds) now revoked) :
    Gone parts.nonce (parts.issuedAt + sessionTtlSeconds) now
      (more.foldl (fun revoked call => call.run keys revoked) revoked) := by
  induction more generalizing revoked with
  | nil => exact gone
  | cons other more ih =>
      refine ih (fun next member => later next (List.mem_cons_of_mem _ member)) (fun reading member =>
        upTo reading (List.mem_append_right _ member)) ?_
      show Gone _ _ _ (other.run keys revoked)
      rcases run_cases keys other revoked with same | ⟨checkedAt, revokedAt, value', session, is, opens, ran⟩
      · rw [same]
        exact gone
      · rcases gone with entered | past
        · obtain ⟨parts', read', signed', named, until_, _⟩ := opened opens
          rw [ran, Gone, get?_revoke]
          split
          · rename_i own
            have same := lawful.parts_eq made (later other List.mem_cons_self) bears (by rw [is]; rfl)
              read read' signed signed' (own.trans named)
            rw [until_, same]
            exact .inl rfl
          · by_cases past : ((parts.issuedAt + sessionTtlSeconds : Int) : ℚ) < revokedAt
            · right
              refine past.trans_le (upTo revokedAt ?_)
              rw [is]
              simp [Call.readings]
            · left
              rw [entered]
              simpa using past
        · exact .inr past

end Lawful

/-! ## Who is authorized -/

section Authorized

variable {env : Environment} {request : Request} {requiredRole : String}

theorem requestRole_header {supplied : String} (header : truthy request.supplied = some supplied) :
    requestRole env request = roleForToken env supplied := by
  rw [requestRole, header]

theorem requestRole_cookie (noHeader : truthy request.supplied = none) : requestRole env request =
    (sessionFromCookie env request.cookie).map fun session =>
      (session.filter fun session => session.nonce ∉ request.revoked.keys).map (·.role) := by
  rw [requestRole, noHeader]

/-- A request that is authorized bears a token, or the cookie of a session that is not in the
table. -/
theorem authorized_by {role : String} (allowed : authorize env request requiredRole = .ok role) :
    ((truthy request.supplied).isSome ∧
        ∀ cookie, authorize env { request with cookie } requiredRole = .ok role) ∨
      ∃ session, sessionFromCookie env request.cookie = .ok (some session) ∧
        session.nonce ∉ request.revoked.keys := by
  unfold authorize at allowed ⊢
  split at allowed
  · cases allowed
  · rename_i configured
    split at allowed
    · cases allowed
    · rename_i plain
      cases header : truthy request.supplied with
      | some supplied =>
          left
          refine ⟨rfl, fun cookie => ?_⟩
          have kept : truthy ({ request with cookie } : Request).supplied = some supplied := header
          have same : requestRole env { request with cookie } = requestRole env request := by
            rw [requestRole_header header, requestRole_header kept]
          rw [if_neg configured, if_neg plain, same]
          exact allowed
      | none =>
          right
          rw [requestRole_cookie header] at allowed
          obtain ⟨found, read, permitted⟩ := bind_eq_ok.1 allowed
          obtain ⟨session, opens, kept⟩ := map_eq_ok.1 read
          subst kept
          cases session with
          | none => cases permitted
          | some session =>
              refine ⟨session, opens, fun entered => ?_⟩
              have refused : (some session).filter (fun session =>
                  session.nonce ∉ request.revoked.keys) = none := by
                simp [Option.filter, entered]
              rw [refused] at permitted
              cases permitted

/-- The table is only asked about the session of the request's cookie. -/
theorem authorize_congr {revoked revoked' : Dict String Int}
    (same : ∀ session, sessionFromCookie env request.cookie = .ok (some session) →
      (session.nonce ∈ revoked.keys ↔ session.nonce ∈ revoked'.keys)) :
    authorize env { request with revoked } requiredRole =
      authorize env { request with revoked := revoked' } requiredRole := by
  have roles : requestRole env { request with revoked } =
      requestRole env { request with revoked := revoked' } := by
    unfold requestRole
    dsimp only
    cases truthy request.supplied with
    | some supplied => rfl
    | none =>
        cases opens : sessionFromCookie env request.cookie with
        | error e => rfl
        | ok found =>
            cases found with
            | none => rfl
            | some session =>
                have asked := same session opens
                simp only [Except.map, Option.filter, asked]
  unfold authorize
  rw [roles]

end Authorized

/-- A sign-out finds the session of a cookie, or finds that its time is over. -/
def Ends (keys : Keys) (checkedAt : ℚ) (value : String) : Prop :=
  (∃ session, sessionFromCookie (keys.at checkedAt) (some value) = .ok (some session)) ∨
    ∃ parts, cookieParts value = some parts ∧
      ((parts.issuedAt + sessionTtlSeconds : Int) : ℚ) < checkedAt

section Permanent

variable {keys : Keys} {before : List String}

/-- The last call of a run reads the clock after all others. -/
theorem Lawful.upTo {calls : List Call} {at_ : ℚ} {request : Request} {requiredRole : String}
    (lawful : Lawful keys before (calls ++ [.authorize at_ request requiredRole])) :
    ∀ reading ∈ calls.flatMap Call.readings, reading ≤ at_ := by
  have ordered := lawful.clock
  rw [List.flatMap_append] at ordered
  obtain ⟨_, _, apart⟩ := List.pairwise_append.1 ordered
  exact fun reading member => apart reading member at_ (by simp [Call.readings])

/-- After a sign-out its session is in the table, or past its time. -/
theorem gone_signOut {earlier : List Call} {checkedAt revokedAt at_ : ℚ} {value : String} {parts : Parts}
    (read : cookieParts value = some parts) (ends : Ends keys checkedAt value) (upTo : checkedAt ≤ at_) :
    Gone parts.nonce (parts.issuedAt + sessionTtlSeconds) at_
      (revokedAfter keys (earlier ++ [.signOut checkedAt revokedAt (some value)])) := by
  rcases ends with ⟨session, opens⟩ | ⟨parts', read', past⟩
  · obtain ⟨parts', read', _, named, until_, _⟩ := opened opens
    cases read.symm.trans read'
    left
    have ran : revokedAfter keys (earlier ++ [.signOut checkedAt revokedAt (some value)]) =
        revoke revokedAt session (revokedAfter keys earlier) := by
      rw [revokedAfter_snoc]
      simp only [Call.run, operatorLogout, opens]
    rw [ran, get?_revoke, if_pos named.symm, until_]
  · cases read.symm.trans read'
    exact .inr (past.trans_le upTo)

theorem signedOut_refused {earlier later : List Call} {checkedAt revokedAt at_ : ℚ} {value : String}
    {request : Request} {requiredRole role : String}
    (lawful : Lawful keys before
      (earlier ++ .signOut checkedAt revokedAt (some value) :: later ++
        [.authorize at_ request requiredRole]))
    (ends : Ends keys checkedAt value) (bears : request.cookie = some value)
    (allowed : answered keys (earlier ++ .signOut checkedAt revokedAt (some value) :: later) at_ request
      requiredRole = .ok role) :
    (truthy request.supplied).isSome ∧
      answered keys (earlier ++ .signOut checkedAt revokedAt (some value) :: later) at_
        { request with cookie := none } requiredRole = .ok role := by
  rcases authorized_by allowed with ⟨header, without⟩ | ⟨session, opens, valid⟩
  · exact ⟨header, without none⟩
  · exfalso
    dsimp only at opens valid
    rw [bears] at opens
    obtain ⟨parts, read, signed, named, until_, inTime⟩ := opened opens
    have upTo := lawful.upTo
    have made : Call.authorize at_ request requiredRole ∈
        earlier ++ .signOut checkedAt revokedAt (some value) :: later ++
          [.authorize at_ request requiredRole] := by simp
    have signedOut : Gone parts.nonce (parts.issuedAt + sessionTtlSeconds) at_
        (revokedAfter keys (earlier ++ [.signOut checkedAt revokedAt (some value)])) :=
      gone_signOut read ends (upTo checkedAt (by simp [Call.readings]))
    have stays : Gone parts.nonce (parts.issuedAt + sessionTtlSeconds) at_
        (revokedAfter keys (earlier ++ .signOut checkedAt revokedAt (some value) :: later)) := by
      rw [List.append_cons, revokedAfter_append]
      refine stays_gone lawful made bears read signed (fun other member => by simp [member])
        (fun reading member => upTo reading ?_) signedOut
      rw [List.flatMap_append, List.flatMap_cons]
      exact List.mem_append_right _ (List.mem_append_right _ member)
    rw [named] at valid
    rcases stays with entered | past
    · exact valid (Dict.isSome_get?.1 (by rw [entered]; rfl))
    · rw [until_] at inTime
      exact absurd past (not_lt.2 inTime)

theorem notSignedOut_spared {calls : List Call} {at_ : ℚ} {request : Request} {requiredRole : String}
    (lawful : Lawful keys before (calls ++ [.authorize at_ request requiredRole]))
    (others : ∀ checkedAt revokedAt, .signOut checkedAt revokedAt request.cookie ∉ calls) :
    answered keys calls at_ request requiredRole =
      authorize (keys.at at_) { request with revoked := .empty } requiredRole := by
  refine authorize_congr fun session opens => ?_
  refine iff_of_false (fun entered => ?_) fun never => by cases never
  cases bears : request.cookie with
  | none =>
      rw [bears] at opens
      cases opens
  | some value =>
      rw [bears] at opens others
      obtain ⟨parts, read, signed, named, _⟩ := opened opens
      obtain ⟨checkedAt, revokedAt, other, parts', made, read', signed', nonce⟩ := revokedAfter_tells entered
      have asked : Call.authorize at_ request requiredRole ∈
          calls ++ [.authorize at_ request requiredRole] := by simp
      have same := lawful.parts_eq asked (List.mem_append_left _ made) bears rfl read read' signed signed'
        (named.symm.trans nonce.symm)
      -- The sign-out bore the very cookie of the request.
      have own := cookieParts_inj read (same ▸ read')
      subst own
      exact others checkedAt revokedAt made

end Permanent

/-- After a sign-out of a session no request is authorized by its cookie again: what such a
request is allowed, its token allows it without the cookie.  And a request whose cookie was not
signed out is answered as if nothing had been, whatever other sessions have done. -/
theorem revocation_permanent {keys : Keys} {before : List String} {calls : List Call} {at_ : ℚ}
    {request : Request} {requiredRole : String}
    (lawful : Lawful keys before (calls ++ [.authorize at_ request requiredRole])) :
    (∀ earlier later checkedAt revokedAt value role,
      calls = earlier ++ .signOut checkedAt revokedAt (some value) :: later →
      Ends keys checkedAt value → request.cookie = some value →
      answered keys calls at_ request requiredRole = .ok role →
      (truthy request.supplied).isSome ∧
        answered keys calls at_ { request with cookie := none } requiredRole = .ok role) ∧
    ((∀ checkedAt revokedAt, .signOut checkedAt revokedAt request.cookie ∉ calls) →
      answered keys calls at_ request requiredRole =
        authorize (keys.at at_) { request with revoked := .empty } requiredRole) := by
  constructor
  · rintro earlier later checkedAt revokedAt value role rfl ends bears allowed
    exact signedOut_refused lawful ends bears allowed
  · exact notSignedOut_spared lawful

/-! ## Two browsers -/

namespace TwoBrowsers

/-- The code of the two messages that are signed here, with the token `secret`. -/
def digest (_key message : List UInt8) : List UInt8 :=
  if message = "admin.1700000000.AQEBAQEBAQEBAQEBAQEBAQ".toUTF8.toList then
    [52, 161, 31, 130, 202, 6, 74, 64, 2, 174, 9, 13, 73, 250, 252, 116, 136, 244, 247, 8, 194, 133,
      92, 44, 126, 59, 245, 218, 82, 153, 184, 6]
  else
    [199, 35, 206, 80, 197, 192, 246, 216, 113, 194, 148, 46, 89, 231, 180, 21, 31, 246, 6, 155, 39,
      187, 212, 100, 46, 105, 231, 133, 64, 125, 204, 11]

def keys : Keys := ⟨some "secret", none, digest⟩

def first : String :=
  "admin.1700000000.AQEBAQEBAQEBAQEBAQEBAQ.NKEfgsoGSkACrgkNSfr8dIj09wjChVwsfjv12lKZuAY"

def second : String :=
  "admin.1700000060.AgICAgICAgICAgICAgICAg.xyPOUMXA9thxwpQuWee0FR_2Bpsnu9RkLmnnhUB9zAs"

/-- Both browsers sign in, and the first signs out. -/
def calls : List Call :=
  [.signIn 1700000000 (some [("token", "secret")]) (List.replicate 16 1),
    .signIn 1700000060 (some [("token", "secret")]) (List.replicate 16 2),
    .signOut 1700000120 1700000120 (some first)]

def asking (cookie : String) : Request := ⟨false, none, some cookie, .empty⟩

theorem cookies (cookie : String) :
    cookiesOf keys [] (calls ++ [.authorize 1700000180 (asking cookie) "operator"]) = [first, second] := by
  have signedIn : calls.filterMap (Call.issued keys) = [first, second] := by decide +kernel
  rw [cookiesOf, List.filterMap_append, signedIn]
  rfl

theorem lawful {cookie : String} (either : cookie = first ∨ cookie = second) :
    Lawful keys [] (calls ++ [.authorize 1700000180 (asking cookie) "operator"]) where
  clock := by
    simp only [calls, Call.readings, List.flatMap_append, List.flatMap_cons, List.flatMap_nil]
    norm_num
  unforged := by
    intro call made value parts bears _ _
    rw [cookies]
    simp only [calls, List.cons_append, List.nil_append, List.mem_cons, List.not_mem_nil, or_false] at made
    rcases made with rfl | rfl | rfl | rfl
    · cases bears
    · cases bears
    · cases bears
      simp
    · cases bears
      simpa using either
  fresh := by
    rw [cookies]
    decide

end TwoBrowsers

/-- The first browser is not let in again, and the second is. -/
theorem revocation_permanent_twoBrowsers :
    (∀ role, answered TwoBrowsers.keys TwoBrowsers.calls 1700000180 (TwoBrowsers.asking TwoBrowsers.first)
      "operator" ≠ .ok role) ∧
    answered TwoBrowsers.keys TwoBrowsers.calls 1700000180 (TwoBrowsers.asking TwoBrowsers.second)
      "operator" = .ok "admin" := by
  constructor
  · intro role allowed
    have ends : Ends TwoBrowsers.keys 1700000120 TwoBrowsers.first :=
      .inl ⟨⟨"admin", "AQEBAQEBAQEBAQEBAQEBAQ", 1700028800⟩, by decide +kernel⟩
    have header := (revocation_permanent (TwoBrowsers.lawful (.inl rfl))).1
      (TwoBrowsers.calls.take 2) [] 1700000120 1700000120 TwoBrowsers.first role rfl ends rfl allowed
    cases header.1
  · rw [(revocation_permanent (TwoBrowsers.lawful (.inr rfl))).2]
    · decide +kernel
    · intro checkedAt revokedAt
      simp [TwoBrowsers.calls, TwoBrowsers.asking, TwoBrowsers.first, TwoBrowsers.second]

end AlgoTrader.Api.Authorization
