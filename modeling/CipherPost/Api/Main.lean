import CipherPost.Core.Auth

/-!
# API の口

`app/api/main.py` のうち、token を発行するか、利用者・API key・拒否表を変える口。
要求を一つ処理する `handle` は、次の状態と応答を返す。

* `login`・`oidcCallback` — password と SSO。MFA が要るなら ticket を返す
* `mfaEnroll`・`mfaConfirm`・`mfaVerify`・`mfaDisable` — MFA
* `assumeOrg`・`liveTicket`・`liveStream` — 他の org の session と SSE の ticket
* `logout`・`revokeAll`・`createUser`・`updateUser`・`createApiKey`・`revokeApiKey`・`createOrg`

状態には、発行した JWT を種類とともに `issued` に並べる。code の判断には使わない。
login の失敗の数え上げと audit は省き、lock されているかは要求ごとの `Env` が答える。
-/

namespace CipherPost.Api

open CipherPost.Core

/-! ## 設定と状態 -/

/-- 検証を終えた ID token の claim。 -/
structure IdClaims where
  email : Option String
  sub : String
  /-- その他の claim の値（`OIDC_CLAIM_RULES` が読む）。 -/
  values : String → List String := fun _ => []

/-- 設定のうち、ここの口が読むもの。 -/
structure Settings where
  jwtExpirySeconds : Nat := 86400
  disablePasswordLogin : Bool := false
  breakGlassEmail : String := ""
  breakGlassPassword : String := ""
  mfaEnrollAllow : Bool := true
  mfaRequiredOrgs : String := ""
  oidcJitProvisioning : Bool := true
  defaultOrgName : String := "default"
  /-- `map_role_org`。`OIDC_CLAIM_RULES` による role と org の名。 -/
  mapRoleOrg : IdClaims → String × String := fun _ => ("auditor", "default")

/-- 設定と、口が呼ぶ外の library。 -/
structure App (Tok : Type) where
  settings : Settings := {}
  crypto : Crypto
  jwt : Jwt Tok

/-- 発行した JWT の種類。 -/
inductive Kind where
  | session
  | mfaTicket
  | sseTicket
  deriving Repr, DecidableEq

/-- 種類ごとの `scope`。 -/
def Kind.scope : Kind → Option String
  | session => none
  | mfaTicket => some "mfa-verify"
  | sseTicket => some "live:read"

/-- サービスの状態。 -/
structure Service where
  db : Database
  revocations : Revocations := {}
  /-- `_used_mfa_tickets` と `mfa-ticket:{jti}`。 -/
  usedMfa : UsedTickets := {}
  /-- `_used_sse_tickets` と `sse-ticket:{jti}`。 -/
  usedSse : UsedTickets := {}
  /-- 発行した JWT の記録。 -/
  issued : List (Kind × Claims) := []
  deriving DecidableEq

/-- 要求を処理する間の、時計と Redis と乱数。 -/
structure Env where
  now : Nat
  redisUp : Bool := true
  /-- `is_login_locked`。 -/
  loginLocked : Bool := false
  /-- `mfa_locked`。 -/
  mfaLocked : Bool := false
  /-- `secrets.token_hex` の値。引数は何度目の呼び出しか。 -/
  tokenHex : Nat → String := fun _ => "00"
  /-- `uuid4().hex[:12]`。 -/
  uuid : String := "0"
  salt : String := ""
  nonce : String := ""
  /-- `random_secret`。 -/
  mfaSecret : String := ""
  /-- `new_recovery_codes`。 -/
  recoveryCodes : List String := []

/-- 応答のうち、token と id を運ぶ部分。 -/
inductive Response (Tok : Type) where
  | token (t : Tok)
  | mfaTicket (t : Tok)
  | sseTicket (t : Tok)
  | enrolled (secret : String) (codes : List String)
  | rawKey (raw : String)
  | created (id : String)
  | context (ctx : AuthContext)
  | status (text : String)

/-- 次の状態と応答。 -/
abbrev Outcome (Tok : Type) := Service × Except HttpError (Response Tok)

variable {Tok : Type}

/-- `raise HTTPException(status, detail)`。 -/
def reject (s : Service) (status : Nat) (detail : String) : Outcome Tok :=
  (s, .error ⟨status, detail⟩)

/-- 捕まえられない例外。commit していない変更は残らない。 -/
def crash (s : Service) : Outcome Tok := reject s 500 "Internal Server Error"

/-- `body.get(k) or ""` を `strip` して `lower` したもの。 -/
def normalized (o : Option String) : String := lower (strip (o.getD ""))

/-- 利用者の行を書く。 -/
def Service.setUser (s : Service) (id : String) (user : User) : Service :=
  { s with db := { s.db with users := s.db.users.set id user } }

variable (app : App Tok)

/-- JWT を発行して応答に載せる。 -/
def grant (s : Service) (kind : Kind) (c : Claims) (reply : Tok → Response Tok) : Outcome Tok :=
  ({ s with issued := (kind, c) :: s.issued }, .ok (reply (app.jwt.encode c)))

/-! ## 認証 -/

/-- `Depends(get_current_user)` が返すもの。 -/
def Service.currentUser (s : Service) (env : Env) (req : Request Tok) :
    Except HttpError AuthContext :=
  getCurrentUser app.crypto app.jwt s.db s.revocations env.now env.redisUp req

/-- `ctx: AuthContext = Depends(get_current_user)`。 -/
def withUser (s : Service) (env : Env) (req : Request Tok) (k : AuthContext → Outcome Tok) :
    Outcome Tok :=
  match s.currentUser app env req with
  | .error e => (s, .error e)
  | .ok ctx => k ctx

/-- `Depends(require_roles(needed))`。 -/
def withRole (needed : Role) (s : Service) (env : Env) (req : Request Tok)
    (k : AuthContext → Outcome Tok) : Outcome Tok :=
  withUser app s env req fun ctx =>
    if roleOrder ctx.role < roleOrder needed.value then reject s 403 "Insufficient role" else k ctx

/-- `Depends(require_platform_admin())`。 -/
def withPlatformAdmin (s : Service) (env : Env) (req : Request Tok)
    (k : AuthContext → User → Outcome Tok) : Outcome Tok :=
  withUser app s env req fun ctx =>
    match s.db.users.get? ctx.userId with
    | none => reject s 403 "Platform admins only"
    | some user => if user.isPlatformAdmin then k ctx user else reject s 403 "Platform admins only"

/-! ## login -/

/-- `MFA_REQUIRED_ORGS` の名の集合。 -/
def requiredOrgs (s : String) : List String :=
  (go [] s.toList).map strip |>.filter (· ≠ "")
where
  /-- `split(",")`。 -/
  go (acc : List Char) : List Char → List String
    | [] => [String.ofList acc.reverse]
    | c :: l => if c = ',' then String.ofList acc.reverse :: go [] l else go (c :: acc) l

/-- `_mfa_required`。 -/
def mfaRequired (db : Database) (user : User) : Bool :=
  user.mfaEnabled ||
    match db.orgs.get? user.orgId with
    | none => false
    | some org => decide (org.name ∈ requiredOrgs app.settings.mfaRequiredOrgs)

/-- 利用者の session の token。 -/
def sessionToken (env : Env) (id : String) (user : User) : Claims :=
  createAccessToken env.now (env.tokenHex 0) id user.orgId user.role.value
    app.settings.jwtExpirySeconds {} user.version

/-- `_finish_password_login`。`oidc_callback` の終わりも同じである。 -/
def finishPasswordLogin (s : Service) (env : Env) (id : String) (user : User) : Outcome Tok :=
  if mfaRequired app s.db user then
    grant app s .mfaTicket
      (createMfaTicket env.now (env.tokenHex 0) (env.tokenHex 1) id user.orgId) .mfaTicket
  else grant app s .session (sessionToken app env id user) .token

/-- `_break_glass_configured`。 -/
def breakGlassConfigured : Bool :=
  decide (strip app.settings.breakGlassEmail ≠ "") && decide (app.settings.breakGlassPassword ≠ "")

/-- `_break_glass_login` が受け入れる利用者。 -/
def breakGlassUser (s : Service) (password : String) : Option (String × User) :=
  (s.db.userByEmail (lower (strip app.settings.breakGlassEmail))).filter fun p =>
    p.2.isActive && p.2.isPlatformAdmin && decide (password = app.settings.breakGlassPassword)

/-- `_break_glass_login`。 -/
def breakGlassLogin (s : Service) (env : Env) (password : String) : Outcome Tok :=
  match breakGlassUser app s password with
  | none => reject s 401 "Invalid email or password"
  | some (id, user) => grant app s .session (sessionToken app env id user) .token

/-- `POST /auth/login`。 -/
def login (s : Service) (env : Env) (email password : Option String) : Outcome Tok :=
  let email := normalized email
  let password := password.getD ""
  if email ≠ "" && env.loginLocked then reject s 401 "Invalid email or password"
  else if email ≠ "" && breakGlassConfigured app &&
      decide (email = lower (strip app.settings.breakGlassEmail)) then
    breakGlassLogin app s env password
  else if app.settings.disablePasswordLogin then
    reject s 403 "Password login is disabled (SSO enforced)"
  else
    match s.db.userByEmail email with
    | none => reject s 401 "Invalid email or password"
    | some (id, user) =>
      if user.isActive && app.crypto.verifyPassword password user.passwordHash then
        finishPasswordLogin app s env id user
      else reject s 401 "Invalid email or password"

/-! ## SSO -/

/-- `oidc_sub` か email で見つかる利用者。email で見つけた者が別の sub を持てば退ける。 -/
def oidcUser (db : Database) (sub email : String) : Except HttpError (Option (String × User)) :=
  match db.users.entries.find? fun p => decide (p.2.oidcSub = some sub) with
  | some p => .ok (some p)
  | none =>
    match db.userByEmail email with
    | none => .ok none
    | some p =>
      if p.2.oidcSub = none ∨ p.2.oidcSub = some sub then .ok (some p)
      else .error ⟨403, "SSO account conflict"⟩

/-- 初めての SSO の利用者を作る。`none` は 500 になる失敗。 -/
def provision (db : Database) (env : Env) (claims : IdClaims) (sub email : String) :
    Option (String × User) :=
  let (role, orgName) := app.settings.mapRoleOrg claims
  let org := (db.orgs.entries.find? fun p => decide (p.2.name = orgName)).or
    (db.orgs.entries.find? fun p => decide (p.2.name = app.settings.defaultOrgName))
  match org, Role.ofValue? role with
  | some org, some role =>
    let id := "user-" ++ env.uuid
    if (db.users.get? id).isSome then none
    else
      some (id, { orgId := org.1, email
                  passwordHash := app.crypto.hashPassword env.salt (env.tokenHex 2)
                  role, oidcSub := some sub })
  | _, _ => none

/--
`POST /auth/oidc/callback`。state の消費、code の交換、ID token の検証の結果（その失敗は 401 か 404）を
受け取ってからの処理。
-/
def oidcCallback (s : Service) (env : Env) (verified : Except HttpError IdClaims) : Outcome Tok :=
  match verified with
  | .error e => (s, .error e)
  | .ok claims =>
    let email := normalized claims.email
    if email = "" || !email.toList.contains '@' || claims.sub = "" then
      reject s 401 "SSO verification failed"
    else
      match oidcUser s.db claims.sub email with
      | .error e => (s, .error e)
      | .ok none =>
        if app.settings.oidcJitProvisioning then
          match provision app s.db env claims claims.sub email with
          | none => crash s
          | some (id, user) => finishPasswordLogin app (s.setUser id user) env id user
        else reject s 403 "SSO account not provisioned"
      | .ok (some (id, user)) =>
        if user.isActive then
          let user := { user with oidcSub := user.oidcSub.or (some claims.sub) }
          finishPasswordLogin app (s.setUser id user) env id user
        else reject s 401 "User inactive or deleted"

/-! ## MFA -/

/-- `POST /auth/mfa/enroll`。 -/
def mfaEnroll (s : Service) (env : Env) (req : Request Tok) : Outcome Tok :=
  withUser app s env req fun ctx =>
    if !app.settings.mfaEnrollAllow then reject s 403 "MFA enrollment is disabled"
    else
      match s.db.users.get? ctx.userId with
      | none => reject s 401 "User inactive or deleted"
      | some user =>
        match app.crypto.encryptSecret env.nonce env.mfaSecret with
        | none => crash s
        | some enc =>
          (s.setUser ctx.userId
            { user with
              mfaSecretEnc := some enc
              mfaRecovery := some (env.recoveryCodes.map (hashRecoveryCode app.crypto)) },
           .ok (.enrolled env.mfaSecret env.recoveryCodes))

/-- `POST /auth/mfa/confirm`。 -/
def mfaConfirm (s : Service) (env : Env) (req : Request Tok) (code : Option String) : Outcome Tok :=
  withUser app s env req fun ctx =>
    match s.db.users.get? ctx.userId with
    | none => reject s 400 "No pending MFA enrollment"
    | some user =>
      match user.mfaSecretEnc.filter (· ≠ "") with
      | none => reject s 400 "No pending MFA enrollment"
      | some enc =>
        match app.crypto.decryptSecret enc with
        | none => reject s 500 "MFA secret unreadable; re-enroll"
        | some secret =>
          if verifyCode app.crypto secret (code.getD "") env.now then
            (s.setUser ctx.userId { user with mfaEnabled := true }, .ok (.status "enabled"))
          else reject s 401 "Invalid MFA code"

/-- TOTP が正しいか。読めない secret はどの code も受け入れない。 -/
def totpAccepted (user : User) (code : Option String) (now : Nat) : Bool :=
  match app.crypto.decryptSecret (user.mfaSecretEnc.getD "") with
  | none => false
  | some secret => verifyCode app.crypto secret (code.getD "") now

/-- recovery code が正しければ、残りの hash。 -/
def recoveryAccepted (user : User) (code : Option String) : Option (List String) :=
  match code.filter (· ≠ "") with
  | none => none
  | some code => consumeRecoveryCode app.crypto (user.mfaRecovery.getD []) code

/-- `POST /auth/mfa/verify`。ticket は code を確かめる前に使い捨てる。 -/
def mfaVerify (s : Service) (env : Env) (ticket : Tok) (code recoveryCode : Option String) :
    Outcome Tok :=
  match consumeMfaTicket app.jwt s.usedMfa env.now env.redisUp ticket with
  | none => reject s 401 "Invalid or expired MFA ticket"
  | some (claims, used) =>
    let s := { s with usedMfa := used }
    match s.db.users.get? claims.sub with
    | none => reject s 401 "User inactive or deleted"
    | some user =>
      if !user.isActive then reject s 401 "User inactive or deleted"
      else if env.mfaLocked then reject s 401 "Invalid MFA code"
      else if totpAccepted app user code env.now then
        grant app s .session (sessionToken app env claims.sub user) .token
      else
        match recoveryAccepted app user recoveryCode with
        | none => reject s 401 "Invalid MFA code"
        | some remaining =>
          grant app (s.setUser claims.sub { user with mfaRecovery := some remaining }) .session
            (sessionToken app env claims.sub user) .token

/-- `POST /auth/mfa/disable`。 -/
def mfaDisable (s : Service) (env : Env) (req : Request Tok) (userId : Option String) : Outcome Tok :=
  withRole app .admin s env req fun ctx =>
    let target := strip (userId.getD "")
    match s.db.users.get? target with
    | none => reject s 404 "User not found"
    | some user =>
      if user.orgId ≠ ctx.orgId then reject s 404 "User not found"
      else
        (s.setUser target { user with mfaEnabled := false, mfaSecretEnc := none, mfaRecovery := none },
         .ok (.status "disabled"))

/-! ## session の取り消し -/

/-- `POST /auth/logout`。出した bearer の jti を拒否表に入れる。 -/
def logout (s : Service) (env : Env) (req : Request Tok) : Outcome Tok :=
  withUser app s env req fun _ =>
    match req.bearer.bind (decodeToken app.jwt env.now) with
    | none => (s, .ok (.status "logged out"))
    | some claims =>
      let ttl := claims.exp - env.now
      ({ s with
          revocations := s.revocations.revokeToken env.now env.redisUp (claims.jti.getD "") ttl },
       .ok (.status "logged out"))

/-- `POST /auth/revoke-all`。 -/
def revokeAll (s : Service) (env : Env) (req : Request Tok) (userId : Option String) : Outcome Tok :=
  withUser app s env req fun ctx =>
    let target := (userId.filter (· ≠ "")).getD ctx.userId
    if target ≠ ctx.userId ∧ ctx.role ≠ "admin" then reject s 403 "Admins only for other users"
    else
      match s.db.users.get? target with
      | none => reject s 404 "User not found"
      | some user =>
        if user.orgId ≠ ctx.orgId ∧ ctx.role ≠ "admin" then reject s 404 "User not found"
        else
          (s.setUser target { user with sessionVersion := user.version + 1 },
           .ok (.status "revoked"))

/-! ## 利用者と API key -/

/-- `POST /users`。 -/
def createUser (s : Service) (env : Env) (req : Request Tok) (email role password : Option String) :
    Outcome Tok :=
  withRole app .admin s env req fun ctx =>
    let email := normalized email
    let role := lower (strip ((role.filter (· ≠ "")).getD "analyst"))
    let password := password.getD ""
    if email = "" || !email.toList.contains '@' then reject s 400 "Valid email required"
    else
      match Role.ofValue? role with
      | none => reject s 400 "role must be admin|analyst|auditor"
      | some role =>
        if password.length < 10 then reject s 400 "password must be >= 10 chars"
        else if (s.db.userByEmail email).isSome then reject s 409 "User already exists"
        else
          let id := "user-" ++ env.uuid
          if (s.db.users.get? id).isSome then crash s
          else
            (s.setUser id { orgId := ctx.orgId, email, role
                            passwordHash := app.crypto.hashPassword env.salt password },
             .ok (.created id))

/-- `PATCH /users/{user_id}`。途中で退けた変更は commit されない。 -/
def updateUser (s : Service) (env : Env) (req : Request Tok) (userId : String) (role : Option String)
    (isActive : Option Bool) (password : Option String) : Outcome Tok :=
  withRole app .admin s env req fun ctx =>
    match s.db.users.get? userId with
    | none => reject s 404 "User not found"
    | some user =>
      if user.orgId ≠ ctx.orgId then reject s 404 "User not found"
      else if userId = ctx.userId ∧ isActive = some false then
        reject s 400 "Cannot deactivate yourself"
      else
        match role.map Role.ofValue? with
        | some none => reject s 400 "role must be admin|analyst|auditor"
        | newRole =>
          let password := password.getD ""
          if password ≠ "" ∧ password.length < 10 then reject s 400 "password must be >= 10 chars"
          else
            (s.setUser userId
              { user with
                role := (newRole.bind id).getD user.role
                isActive := isActive.getD user.isActive
                passwordHash :=
                  if password = "" then user.passwordHash
                  else app.crypto.hashPassword env.salt password },
             .ok (.created userId))

/-- `datetime.now(timezone.utc) + timedelta(days=days)`。`none` は OverflowError。 -/
def expiryAt (now : Nat) (days : Int) : Option Int :=
  let expires := (now : Int) + 86400 * days
  -- `timedelta` の日数の限りと、`datetime` の表せる最初と最後の年
  if -999999999 ≤ days ∧ days ≤ 999999999 ∧ -62135596800 ≤ expires ∧ expires < 253402300800 then
    some expires
  else none

/-- `create_api_key` の `expires_at`。引数の `none` は無いか偽の値、`some none` は `int` の受け付けない
値である。結果の `none` は例外である。 -/
def promisedExpiry (now : Nat) : Option (Option Int) → Option (Option Int)
  | none => some none
  | some days => (days.bind (expiryAt now)).map some

/-- `POST /api-keys`。key は呼んだ利用者のものになる。 -/
def createApiKey (s : Service) (env : Env) (req : Request Tok) (expiresDays : Option (Option Int)) :
    Outcome Tok :=
  withRole app .admin s env req fun ctx =>
    let id := "key-" ++ env.uuid
    let raw := "cp_" ++ env.tokenHex 0
    let keyHash := app.crypto.sha256 raw
    match promisedExpiry env.now expiresDays with
    | none => crash s
    | some expiresAt =>
      -- id は主 key で、`key_hash` は unique である
      if (s.db.apiKeys.get? id).isSome ∨
          (s.db.apiKeys.values.find? fun row => decide (row.keyHash = keyHash)).isSome then
        crash s
      else
        let row : ApiKey :=
          { orgId := ctx.orgId, userId := ctx.userId, keyHash, expiresAt }
        ({ s with db := { s.db with apiKeys := s.db.apiKeys.set id row } }, .ok (.rawKey raw))

/-- `DELETE /api-keys/{key_id}`。 -/
def revokeApiKey (s : Service) (env : Env) (req : Request Tok) (keyId : String) : Outcome Tok :=
  withRole app .admin s env req fun ctx =>
    match s.db.apiKeys.get? keyId with
    | none => reject s 404 "API key not found"
    | some row =>
      if row.orgId ≠ ctx.orgId then reject s 404 "API key not found"
      else
        ({ s with db := { s.db with apiKeys := s.db.apiKeys.set keyId { row with revoked := true } } },
         .ok (.status "revoked"))

/-! ## org -/

/-- `POST /orgs`。 -/
def createOrg (s : Service) (env : Env) (req : Request Tok) (name : Option String) : Outcome Tok :=
  withPlatformAdmin app s env req fun _ _ =>
    let name := strip (name.getD "")
    if name = "" ∨ 256 < name.length then reject s 400 "Valid org name required"
    else if (s.db.orgs.values.find? fun o => decide (o.name = name)).isSome then
      reject s 409 "Org already exists"
    else
      let id := "org-" ++ env.uuid
      if (s.db.orgs.get? id).isSome then crash s
      else ({ s with db := { s.db with orgs := s.db.orgs.set id ⟨name⟩ } }, .ok (.created id))

/-- `POST /admin/assume`。他の org に向けた session の token を、呼んだ利用者に出す。 -/
def assumeOrg (s : Service) (env : Env) (req : Request Tok) (orgId reason : Option String) :
    Outcome Tok :=
  withPlatformAdmin app s env req fun ctx user =>
    let reason := strip (reason.getD "")
    let orgId := strip (orgId.getD "")
    if reason = "" ∨ orgId = "" then reject s 400 "org_id and reason are required"
    else
      match s.db.orgs.get? orgId with
      | none => reject s 404 "Org not found"
      | some _ =>
        grant app s .session
          (createAccessToken env.now (env.tokenHex 0) ctx.userId orgId user.role.value 3600
            { assumed := true, assumedBy := some ctx.email } user.version) .token

/-! ## live -/

/-- `POST /live/ticket`。 -/
def liveTicket (s : Service) (env : Env) (req : Request Tok) : Outcome Tok :=
  withUser app s env req fun ctx =>
    grant app s .sseTicket
      (createSseTicket env.now (env.tokenHex 0) (env.tokenHex 1) ctx.userId ctx.orgId ctx.role)
      .sseTicket

/-- `GET /live/stream` などの `_sse_ctx`。URL の ticket があれば、それだけを見る。 -/
def liveStream (s : Service) (env : Env) (req : Request Tok) (token ticket : Option Tok) :
    Outcome Tok :=
  match ticket.or token with
  | none => withUser app s env req fun ctx => (s, .ok (.context ctx))
  | some raw =>
    match consumeSseTicket app.jwt s.usedSse env.now env.redisUp raw with
    | none => reject s 401 "Invalid or expired SSE ticket"
    | some (claims, used) =>
      let s := { s with usedSse := used }
      match s.db.users.get? claims.sub with
      | none => reject s 401 "User inactive"
      | some user =>
        if user.isActive then
          (s, .ok (.context ⟨claims.sub, user.email, user.orgId, user.role.value, .jwt⟩))
        else reject s 401 "User inactive"

/-! ## 呼び出し -/

/-- API の呼び出し。`other` は、認証を求めるが状態のこの部分を変えない口。 -/
inductive Call (Tok : Type) where
  | login (email password : Option String)
  | oidcCallback (verified : Except HttpError IdClaims)
  | mfaEnroll (req : Request Tok)
  | mfaConfirm (req : Request Tok) (code : Option String)
  | mfaVerify (ticket : Tok) (code recoveryCode : Option String)
  | mfaDisable (req : Request Tok) (userId : Option String)
  | logout (req : Request Tok)
  | revokeAll (req : Request Tok) (userId : Option String)
  | createUser (req : Request Tok) (email role password : Option String)
  | updateUser (req : Request Tok) (userId : String) (role : Option String) (isActive : Option Bool)
      (password : Option String)
  | createApiKey (req : Request Tok) (expiresDays : Option (Option Int))
  | revokeApiKey (req : Request Tok) (keyId : String)
  | createOrg (req : Request Tok) (name : Option String)
  | assumeOrg (req : Request Tok) (orgId reason : Option String)
  | liveTicket (req : Request Tok)
  | liveStream (req : Request Tok) (token ticket : Option Tok)
  | other (req : Request Tok)

/-- 呼び出しの header。認証を求めない口では空とする。 -/
def Call.request : Call Tok → Request Tok
  | login .. | oidcCallback .. | mfaVerify .. => {}
  | mfaEnroll req | mfaConfirm req _ | mfaDisable req _ | logout req | revokeAll req _
  | createUser req .. | updateUser req .. | createApiKey req _ | revokeApiKey req _
  | createOrg req _ | assumeOrg req .. | liveTicket req | liveStream req .. | other req => req

/-- 呼び出しを一つ処理する。 -/
def handle (s : Service) (env : Env) : Call Tok → Outcome Tok
  | .login email password => login app s env email password
  | .oidcCallback verified => oidcCallback app s env verified
  | .mfaEnroll req => mfaEnroll app s env req
  | .mfaConfirm req code => mfaConfirm app s env req code
  | .mfaVerify ticket code recovery => mfaVerify app s env ticket code recovery
  | .mfaDisable req userId => mfaDisable app s env req userId
  | .logout req => logout app s env req
  | .revokeAll req userId => revokeAll app s env req userId
  | .createUser req email role password => createUser app s env req email role password
  | .updateUser req userId role isActive password =>
    updateUser app s env req userId role isActive password
  | .createApiKey req expiresDays => createApiKey app s env req expiresDays
  | .revokeApiKey req keyId => revokeApiKey app s env req keyId
  | .createOrg req name => createOrg app s env req name
  | .assumeOrg req orgId reason => assumeOrg app s env req orgId reason
  | .liveTicket req => liveTicket app s env req
  | .liveStream req token ticket => liveStream app s env req token ticket
  | .other req => withUser app s env req fun ctx => (s, .ok (.context ctx))

/-- 呼び出しと、その間の環境。 -/
abbrev Event (Tok : Type) := Env × Call Tok

/-- 呼び出し一つの後の状態。 -/
def Service.step (s : Service) (ev : Event Tok) : Service := (handle app s ev.1 ev.2).1

end CipherPost.Api
