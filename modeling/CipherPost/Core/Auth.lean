import CipherPost.Infra.Dict
import CipherPost.Core.Mfa

/-!
# 認証

`app/core/auth.py`。session の token、MFA の ticket、SSE の ticket は同じ鍵で署名した JWT で、
同じ `decode_token` を通る。署名（PyJWT）は `Jwt` として受け取る。

* `createAccessToken`・`createMfaTicket`・`createSseTicket` — 署名する前の payload
* `Revocations` — jti の拒否表。`revoke_token` と `is_token_revoked`
* `consumeTicket` — ticket の使い捨て
* `getCurrentUser` — 要求から利用者を決める

ticket を bearer として出したときに通るのは、ちょうど `TicketLive` のときである
（`ticket_authenticates_iff`）。
-/

namespace CipherPost.Core

/-! ## role と利用者 -/

/-- `UserRole`。 -/
inductive Role where
  | auditor
  | analyst
  | admin
  deriving Repr, DecidableEq

namespace Role

/-- `role.value`。 -/
def value : Role → String
  | auditor => "auditor"
  | analyst => "analyst"
  | admin => "admin"

/-- `UserRole(s)`。ValueError は `none`。 -/
def ofValue? (s : String) : Option Role :=
  if s = "auditor" then some auditor
  else if s = "analyst" then some analyst
  else if s = "admin" then some admin
  else none

end Role

/-- `ROLE_ORDER.get(role, -1)`。 -/
def roleOrder (role : String) : Int :=
  match Role.ofValue? role with
  | some .auditor => 0
  | some .analyst => 1
  | some .admin => 2
  | none => -1

/-- `users` の行。id は表の key である。 -/
structure User where
  orgId : String
  email : String
  passwordHash : String
  role : Role := .analyst
  isActive : Bool := true
  mfaSecretEnc : Option String := none
  mfaEnabled : Bool := false
  mfaRecovery : Option (List String) := none
  oidcSub : Option String := none
  sessionVersion : Nat := 1
  isPlatformAdmin : Bool := false
  deriving DecidableEq

/-- `int(user.session_version or 1)`。 -/
def User.version (u : User) : Nat := if u.sessionVersion = 0 then 1 else u.sessionVersion

/-- `api_keys` の行。 -/
structure ApiKey where
  orgId : String
  userId : String
  keyHash : String
  revoked : Bool := false
  /-- 期限の時刻。 -/
  expiresAt : Option Int := none
  deriving DecidableEq

/-- `organizations` の行。 -/
structure Organization where
  name : String
  deriving DecidableEq

/-- 認証が読む表。 -/
structure Database where
  users : Dict String User := Dict.empty
  orgs : Dict String Organization := Dict.empty
  apiKeys : Dict String ApiKey := Dict.empty
  deriving DecidableEq

/-- email による利用者の検索。id も返す。 -/
def Database.userByEmail (db : Database) (email : String) : Option (String × User) :=
  db.users.entries.find? fun p => decide (p.2.email = email)

/-! ## JWT -/

/-- JWT の payload。`sv` と `jti` は、無いときの既定値を code が決めている。 -/
structure Claims where
  sub : String
  org : String
  role : String
  iat : Nat
  exp : Nat
  jti : Option String
  sv : Option Nat
  scope : Option String := none
  typ : Option String := none
  assumed : Bool := false
  assumedBy : Option String := none
  deriving Repr, DecidableEq

/-- PyJWT。`verify` は署名と alg と必須の claim を確かめる。 -/
structure Jwt (Tok : Type) where
  encode : Claims → Tok
  verify : Tok → Option Claims
  verify_encode : ∀ c, verify (encode c) = some c

/-- `create_access_token` の `extra`。 -/
structure Extra where
  scope : Option String := none
  typ : Option String := none
  jti : Option String := none
  assumed : Bool := false
  assumedBy : Option String := none

/-- `create_access_token` の payload。`extra` は同じ名の claim を上書きする。 -/
def createAccessToken (now : Nat) (hex sub org role : String) (expiresIn : Nat) (extra : Extra)
    (sessionVersion : Nat) : Claims :=
  { sub, org, role
    iat := now
    exp := now + expiresIn
    jti := some (extra.jti.getD hex)
    sv := some sessionVersion
    scope := extra.scope
    typ := extra.typ
    assumed := extra.assumed
    assumedBy := extra.assumedBy }

/-- `_MFA_TICKET_TTL`。 -/
def mfaTicketTtl : Nat := 300

/-- `_SSE_TICKET_TTL`。 -/
def sseTicketTtl : Nat := 60

/-- `create_mfa_ticket` の payload。`session_version` は渡さず、既定の 1 になる。 -/
def createMfaTicket (now : Nat) (hex hex' sub org : String) : Claims :=
  createAccessToken now hex sub org "" mfaTicketTtl
    { scope := "mfa-verify", typ := "mfa-ticket", jti := hex' } 1

/-- `create_sse_ticket` の payload。これも `session_version` は 1 である。 -/
def createSseTicket (now : Nat) (hex hex' sub org role : String) : Claims :=
  createAccessToken now hex sub org role sseTicketTtl
    { scope := "live:read", typ := "sse-ticket", jti := hex' } 1

section

variable {Tok : Type} (jwt : Jwt Tok)

/-- `decode_token`。署名に加えて、まだ発効していないものと期限の切れたものを退ける。 -/
def decodeToken (now : Nat) (token : Tok) : Option Claims :=
  (jwt.verify token).filter fun c => decide (c.iat ≤ now ∧ now < c.exp)

theorem decodeToken_eq_some {now : Nat} {token : Tok} {c : Claims} :
    decodeToken jwt now token = some c ↔
      jwt.verify token = some c ∧ c.iat ≤ now ∧ now < c.exp := by
  unfold decodeToken
  rw [Option.filter_eq_some_iff, decide_eq_true_eq]

end

/-! ## 拒否表 -/

/-- 拒否した jti。Redis の key の期限と、process の中の集合。 -/
structure Revocations where
  redis : Dict String Nat := Dict.empty
  memory : List String := []
  deriving DecidableEq

namespace Revocations

/-- 集合に足す。1 万個を超えたら、足したものだけを残す。 -/
def remember (memory : List String) (jti : String) : List String :=
  let memory := if jti ∈ memory then memory else memory ++ [jti]
  if 10000 < memory.length then [jti] else memory

/-- `revoke_token`。 -/
def revokeToken (r : Revocations) (now : Nat) (redisUp : Bool) (jti : String) (ttl : Nat) :
    Revocations :=
  if jti = "" then r
  else if redisUp then { r with redis := r.redis.set jti (now + max 60 ttl) }
  else { r with memory := remember r.memory jti }

/-- `is_token_revoked`。 -/
def isTokenRevoked (r : Revocations) (now : Nat) (redisUp : Bool) (jti : String) : Bool :=
  if jti = "" then false
  else
    let visible := redisUp && ((r.redis.get? jti).map fun expires => decide (now < expires)).getD false
    visible || decide (jti ∈ r.memory)

theorem mem_remember (memory : List String) (jti : String) : jti ∈ remember memory jti := by
  have hadd : jti ∈ if jti ∈ memory then memory else memory ++ [jti] := by
    split
    · assumption
    · exact List.mem_append_right memory (List.mem_singleton_self jti)
  unfold remember
  by_cases hfull : 10000 < (if jti ∈ memory then memory else memory ++ [jti]).length
  · rw [if_pos hfull]
    exact List.mem_singleton_self jti
  · rw [if_neg hfull]
    exact hadd

/-- `jti` を足すと集合が 1 万個を超え、足したものだけになる。 -/
def Overflows (memory : List String) (jti : String) : Prop :=
  10000 < (if jti ∈ memory then memory else memory ++ [jti]).length

/-- 足した後に残るのは、足したものと、あふれなければ前からのものである。 -/
theorem mem_remember_iff {memory : List String} {jti x : String} :
    x ∈ remember memory jti ↔ x = jti ∨ (x ∈ memory ∧ ¬Overflows memory jti) := by
  unfold remember Overflows
  by_cases hfull : 10000 < (if jti ∈ memory then memory else memory ++ [jti]).length
  · simp [hfull]
  · rw [if_neg hfull]
    by_cases hmem : jti ∈ memory
    · rw [if_pos hmem] at hfull ⊢
      refine ⟨fun h => .inr ⟨h, hfull⟩, ?_⟩
      rintro (rfl | ⟨h, -⟩)
      · exact hmem
      · exact h
    · rw [if_neg hmem] at hfull ⊢
      rw [List.mem_append, List.mem_singleton, or_comm, and_iff_left hfull]

/-- 拒否した jti は、期限までの間、同じ Redis の様子の下では拒否される。 -/
theorem isTokenRevoked_revokeToken (r : Revocations) {now later ttl : Nat} {redisUp : Bool}
    {jti : String} (hjti : jti ≠ "") (hlater : later < now + max 60 ttl) :
    (r.revokeToken now redisUp jti ttl).isTokenRevoked later redisUp jti = true := by
  unfold revokeToken isTokenRevoked
  rw [if_neg hjti, if_neg hjti]
  cases redisUp with
  | true => simp [hlater]
  | false => simp [mem_remember]

end Revocations

/-! ## ticket の使い捨て -/

/-- 使った ticket。 -/
structure UsedTickets where
  redis : Dict String Nat := Dict.empty
  memory : List String := []
  deriving DecidableEq

namespace UsedTickets

/-- 使ったことを記す（Redis では SETNX）。`none` は既に使われている。 -/
def burn (used : UsedTickets) (ttl now : Nat) (redisUp : Bool) (jti : String) :
    Option UsedTickets :=
  if redisUp then
    match used.redis.get? jti with
    | some expires =>
      if now < expires then none else some { used with redis := used.redis.set jti (now + ttl) }
    | none => some { used with redis := used.redis.set jti (now + ttl) }
  else if jti ∈ used.memory then none
  else some { used with memory := Revocations.remember used.memory jti }

/-- 記した ticket は、期限までの間、もう使えない。 -/
theorem burn_burn {used used' : UsedTickets} {ttl now later : Nat} {redisUp : Bool} {jti : String}
    (h : used.burn ttl now redisUp jti = some used') (hlater : later < now + ttl) :
    used'.burn ttl later redisUp jti = none := by
  cases redisUp with
  | true =>
    have hset : used' = { used with redis := used.redis.set jti (now + ttl) } := by
      unfold burn at h
      rw [if_pos rfl] at h
      split at h
      · split at h
        · cases h
        · exact (Option.some.inj h).symm
      · exact (Option.some.inj h).symm
    subst hset
    simp [burn, hlater]
  | false =>
    unfold burn at h
    rw [if_neg Bool.false_ne_true] at h
    split at h
    · cases h
    · rw [← Option.some.inj h]
      simp [burn, Revocations.mem_remember]

end UsedTickets

section

variable {Tok : Type} (jwt : Jwt Tok)

/-- `consume_mfa_ticket` と `consume_sse_ticket` に共通の code。`none` は ValueError。 -/
def consumeTicket (scope : String) (ttl : Nat) (used : UsedTickets) (now : Nat) (redisUp : Bool)
    (token : Tok) : Option (Claims × UsedTickets) :=
  match decodeToken jwt now token with
  | none => none
  | some claims =>
    if claims.scope ≠ some scope then none
    else
      let jti := claims.jti.getD ""
      if jti = "" then none
      else (used.burn ttl now redisUp jti).map fun used' => (claims, used')

/-- `consume_mfa_ticket`。 -/
def consumeMfaTicket : UsedTickets → Nat → Bool → Tok → Option (Claims × UsedTickets) :=
  consumeTicket jwt "mfa-verify" mfaTicketTtl

/-- `consume_sse_ticket`。 -/
def consumeSseTicket : UsedTickets → Nat → Bool → Tok → Option (Claims × UsedTickets) :=
  consumeTicket jwt "live:read" sseTicketTtl

/-- ticket として使えた token は、署名が正しく、scope が合い、期限の内にある。 -/
theorem of_consumeTicket {scope : String} {ttl now : Nat} {used used' : UsedTickets}
    {redisUp : Bool} {token : Tok} {c : Claims}
    (h : consumeTicket jwt scope ttl used now redisUp token = some (c, used')) :
    decodeToken jwt now token = some c ∧ c.scope = some scope ∧
      used.burn ttl now redisUp (c.jti.getD "") = some used' := by
  unfold consumeTicket at h
  split at h
  · cases h
  · next claims hd =>
    split at h
    · cases h
    · next hscope =>
      simp only at h
      split at h
      · cases h
      · obtain ⟨used₁, hb, heq⟩ := Option.map_eq_some_iff.mp h
        cases heq
        exact ⟨hd, Classical.not_not.mp hscope, hb⟩

/-- **ticket は一度しか使えない。** 使えた ticket は、その期限の間はもう使えない。 -/
theorem consumeTicket_twice {scope : String} {ttl now later : Nat} {used used' : UsedTickets}
    {redisUp : Bool} {token : Tok} {c : Claims}
    (h : consumeTicket jwt scope ttl used now redisUp token = some (c, used'))
    (hlater : later < now + ttl) :
    consumeTicket jwt scope ttl used' later redisUp token = none := by
  obtain ⟨hd, -, hb⟩ := of_consumeTicket jwt h
  cases hc : consumeTicket jwt scope ttl used' later redisUp token with
  | none => rfl
  | some r =>
    obtain ⟨c', used₂⟩ := r
    obtain ⟨hd', -, hb'⟩ := of_consumeTicket jwt hc
    cases ((decodeToken_eq_some jwt).mp hd').1.symm.trans ((decodeToken_eq_some jwt).mp hd).1
    rw [UsedTickets.burn_burn hb hlater] at hb'
    cases hb'

end

/-! ## get_current_user -/

/-- `HTTPException`。 -/
structure HttpError where
  status : Nat
  detail : String
  deriving Repr, DecidableEq

/-- `AuthContext.via`。 -/
inductive Via where
  | jwt
  | apiKey
  deriving Repr, DecidableEq

/-- `AuthContext`。 -/
structure AuthContext where
  userId : String
  email : String
  orgId : String
  role : String
  via : Via
  deriving Repr, DecidableEq

/-- 要求の認証に関わる header。 -/
structure Request (Tok : Type) where
  apiKey : String := ""
  bearer : Option Tok := none

variable (crypto : Crypto) {Tok : Type} (jwt : Jwt Tok)

/-- `get_current_user` の前半。`X-API-Key` による。 -/
def apiKeyUser (db : Database) (apiKey : String) : Except HttpError AuthContext :=
  match db.apiKeys.values.find? fun row => decide (row.keyHash = crypto.sha256 apiKey) with
  | none => .error ⟨401, "Invalid API key"⟩
  | some row =>
    if row.revoked then .error ⟨401, "Invalid API key"⟩
    else
      match db.users.get? row.userId with
      | none => .error ⟨401, "API key owner inactive"⟩
      | some user =>
        if user.isActive then .ok ⟨row.userId, user.email, user.orgId, user.role.value, .apiKey⟩
        else .error ⟨401, "API key owner inactive"⟩

/-- `get_current_user` の後半。bearer の JWT による。`scope` は見ない。 -/
def jwtUser (db : Database) (revocations : Revocations) (now : Nat) (redisUp : Bool)
    (creds : Option Tok) : Except HttpError AuthContext :=
  match creds with
  | none => .error ⟨401, "Not authenticated"⟩
  | some token =>
    match decodeToken jwt now token with
    | none => .error ⟨401, "Invalid or expired token"⟩
    | some claims =>
      if revocations.isTokenRevoked now redisUp (claims.jti.getD "") then
        .error ⟨401, "Session revoked"⟩
      else
        match db.users.get? claims.sub with
        | none => .error ⟨401, "User inactive or deleted"⟩
        | some user =>
          if user.isActive = false then .error ⟨401, "User inactive or deleted"⟩
          else if user.orgId ≠ claims.org ∧ claims.assumed = false then
            .error ⟨401, "Token org mismatch"⟩
          else if claims.sv.getD 1 ≠ user.version then .error ⟨401, "Session revoked"⟩
          else
            .ok ⟨claims.sub, user.email, if claims.assumed then claims.org else user.orgId,
              user.role.value, .jwt⟩

/-- `get_current_user`。 -/
def getCurrentUser (db : Database) (revocations : Revocations) (now : Nat) (redisUp : Bool)
    (req : Request Tok) : Except HttpError AuthContext :=
  if req.apiKey ≠ "" then apiKeyUser crypto db req.apiKey
  else jwtUser jwt db revocations now redisUp req.bearer

/-- 誤りを返す検査を通るのは、その条件が成り立たないときである。 -/
theorem guard_eq_ok {p : Prop} [Decidable p] {err : HttpError} {x : Except HttpError AuthContext}
    {ctx : AuthContext} : (if p then .error err else x) = .ok ctx ↔ ¬p ∧ x = .ok ctx := by
  split
  · next hp => exact iff_of_false (fun h => by cases h) fun h => h.1 hp
  · next hp => exact ⟨fun h => ⟨hp, h⟩, And.right⟩

/-- API key で通った利用者は、表のどれかの行の持ち主である。 -/
theorem exists_of_apiKeyUser {db : Database} {apiKey : String} {ctx : AuthContext}
    (h : apiKeyUser crypto db apiKey = .ok ctx) :
    ∃ id row, db.apiKeys.get? id = some row ∧ row.userId = ctx.userId := by
  unfold apiKeyUser at h
  split at h
  · cases h
  · next row hfind =>
    obtain ⟨id, hid⟩ := (Dict.mem_values_iff _ _).mp (List.mem_of_find?_eq_some hfind)
    refine ⟨id, row, hid, ?_⟩
    split at h
    · cases h
    · split at h
      · cases h
      · split at h
        · rw [← Except.ok.inj h]
        · cases h

/-- bearer で通るのは、署名と期限が正しく、拒否されず、利用者の行と合うときである。 -/
theorem jwtUser_eq_ok {db : Database} {revocations : Revocations} {now : Nat} {redisUp : Bool}
    {creds : Option Tok} {ctx : AuthContext} :
    jwtUser jwt db revocations now redisUp creds = .ok ctx ↔
      ∃ token claims user, creds = some token ∧ decodeToken jwt now token = some claims ∧
        revocations.isTokenRevoked now redisUp (claims.jti.getD "") = false ∧
        db.users.get? claims.sub = some user ∧ user.isActive = true ∧
        (user.orgId = claims.org ∨ claims.assumed = true) ∧ claims.sv.getD 1 = user.version ∧
        ctx = ⟨claims.sub, user.email, if claims.assumed then claims.org else user.orgId,
          user.role.value, .jwt⟩ := by
  have horg : ∀ (user : User) (claims : Claims),
      ¬(user.orgId ≠ claims.org ∧ claims.assumed = false) ↔
        user.orgId = claims.org ∨ claims.assumed = true := fun user claims => by
    rw [Decidable.not_and_iff_not_or_not, Decidable.not_not, Bool.not_eq_false]
  unfold jwtUser
  constructor
  · intro h
    split at h
    · cases h
    · next token =>
      split at h
      · cases h
      · next claims hd =>
        obtain ⟨hrev, h⟩ := guard_eq_ok.mp h
        split at h
        · cases h
        · next user huser =>
          obtain ⟨hactive, h⟩ := guard_eq_ok.mp h
          obtain ⟨hown, h⟩ := guard_eq_ok.mp h
          obtain ⟨hsv, h⟩ := guard_eq_ok.mp h
          exact ⟨token, claims, user, rfl, hd, Bool.eq_false_iff.mpr hrev, huser,
            (Bool.not_eq_false _).mp hactive, (horg user claims).mp hown,
            Decidable.not_not.mp hsv, (Except.ok.inj h).symm⟩
  · rintro ⟨token, claims, user, rfl, hd, hrev, huser, hactive, hown, hsv, rfl⟩
    simp only [hd, huser]
    refine guard_eq_ok.mpr ⟨Bool.eq_false_iff.mp hrev, ?_⟩
    refine guard_eq_ok.mpr ⟨(Bool.not_eq_false _).mpr hactive, ?_⟩
    refine guard_eq_ok.mpr ⟨(horg user claims).mpr hown, ?_⟩
    exact guard_eq_ok.mpr ⟨Decidable.not_not.mpr hsv, rfl⟩

/-- 拒否表を除いた、bearer が通る条件。 -/
def Acceptable (db : Database) (now : Nat) (c : Claims) : Prop :=
  c.iat ≤ now ∧ now < c.exp ∧ ∃ user, db.users.get? c.sub = some user ∧ user.isActive = true ∧
    (user.orgId = c.org ∨ c.assumed = true) ∧ c.sv.getD 1 = user.version

/-- 署名の正しい bearer が通るのは、その条件を満たし、拒否されていないときである。 -/
theorem jwtUser_isOk_iff {db : Database} {revocations : Revocations} {now : Nat} {redisUp : Bool}
    {token : Tok} {c : Claims} (hverify : jwt.verify token = some c) :
    (∃ ctx, jwtUser jwt db revocations now redisUp (some token) = .ok ctx) ↔
      Acceptable db now c ∧ revocations.isTokenRevoked now redisUp (c.jti.getD "") = false := by
  constructor
  · rintro ⟨ctx, h⟩
    obtain ⟨token', c', user, htok, hd, hrev, huser, hactive, horg, hsv, -⟩ :=
      (jwtUser_eq_ok jwt).mp h
    cases htok
    obtain ⟨hv, hiat, hexp⟩ := (decodeToken_eq_some jwt).mp hd
    cases hverify.symm.trans hv
    exact ⟨⟨hiat, hexp, user, huser, hactive, horg, hsv⟩, hrev⟩
  · rintro ⟨⟨hiat, hexp, user, huser, hactive, horg, hsv⟩, hrev⟩
    exact ⟨_, (jwtUser_eq_ok jwt).mpr ⟨token, c, user, rfl,
      (decodeToken_eq_some jwt).mpr ⟨hverify, hiat, hexp⟩, hrev, huser, hactive, horg, hsv, rfl⟩⟩

/-! ## bearer としての ticket -/

/--
ticket が bearer として通る条件。期限の内にあり、拒否されておらず、利用者が有効で、org が ticket の
ものと同じで、`session_version` が 1 のままである。
-/
def TicketLive (db : Database) (revocations : Revocations) (now : Nat) (redisUp : Bool)
    (c : Claims) : Prop :=
  c.iat ≤ now ∧ now < c.exp ∧ revocations.isTokenRevoked now redisUp (c.jti.getD "") = false ∧
    ∃ user, db.users.get? c.sub = some user ∧ user.isActive = true ∧ user.orgId = c.org ∧
      user.version = 1

/-- ticket の payload に共通の形。 -/
structure Claims.IsTicket (c : Claims) : Prop where
  sv : c.sv = some 1
  assumed : c.assumed = false

theorem isTicket_createMfaTicket (now : Nat) (hex hex' sub org : String) :
    (createMfaTicket now hex hex' sub org).IsTicket := ⟨rfl, rfl⟩

theorem isTicket_createSseTicket (now : Nat) (hex hex' sub org role : String) :
    (createSseTicket now hex hex' sub org role).IsTicket := ⟨rfl, rfl⟩

/-- **ticket は、条件 `TicketLive` の下でちょうど bearer として通る。** -/
theorem ticket_authenticates_iff {db : Database} {revocations : Revocations} {now : Nat}
    {redisUp : Bool} {token : Tok} {c : Claims} (hc : c.IsTicket)
    (hverify : jwt.verify token = some c) :
    (∃ ctx, jwtUser jwt db revocations now redisUp (some token) = .ok ctx) ↔
      TicketLive db revocations now redisUp c := by
  constructor
  · rintro ⟨ctx, h⟩
    obtain ⟨token', claims, user, htok, hd, hrev, huser, hactive, horg, hsv, -⟩ :=
      (jwtUser_eq_ok jwt).mp h
    cases htok
    obtain ⟨hv, hiat, hexp⟩ := (decodeToken_eq_some jwt).mp hd
    cases hverify.symm.trans hv
    rw [hc.sv] at hsv
    refine ⟨hiat, hexp, hrev, user, huser, hactive, ?_, hsv.symm⟩
    exact horg.resolve_right (by rw [hc.assumed]; exact Bool.false_ne_true)
  · rintro ⟨hiat, hexp, hrev, user, huser, hactive, horg, hversion⟩
    refine ⟨_, (jwtUser_eq_ok jwt).mpr ⟨token, c, user, rfl,
      (decodeToken_eq_some jwt).mpr ⟨hverify, hiat, hexp⟩, hrev, huser, hactive, Or.inl horg, ?_,
      rfl⟩⟩
    rw [hc.sv, hversion]
    rfl

end CipherPost.Core
