import CipherPost.Api.UserChanges

/-!
# org の境を越えない管理

利用者の security の状態を変える口は、それぞれ自分で org を確かめる。ある org の者の要求が、他の org の
利用者の行や API key の行を変えないことを、どの口についても調べる。

* `SameSecurity` — ある org の利用者と API key の行が、そのままである
* `CrossRevokes` — 他の org の利用者に対する、admin の `revoke-all`
* `tenantBound_iff` — 要求が他の org を変えないのは、`CrossRevokes` でないとき
* `keysAtHome_run` — 引き受けた token を使わない run では、API key の org は持ち主の org である
-/

namespace CipherPost.Api

open CipherPost.Core

variable {Tok : Type} (app : App Tok)

/-- org `B` の利用者と API key の行が、そのままである。 -/
structure SameSecurity (B : String) (s s' : Service) : Prop where
  users : ∀ id (user : User), user.orgId = B →
    (s'.db.users.get? id = some user ↔ s.db.users.get? id = some user)
  apiKeys : ∀ id (row : ApiKey), row.orgId = B →
    (s'.db.apiKeys.get? id = some row ↔ s.db.apiKeys.get? id = some row)

/-- 要求は、他の org を引き受けた token によらない。 -/
def AtHome (ev : Event Tok) : Prop :=
  ∀ t c, ev.2.request.apiKey = "" → ev.2.request.bearer = some t → app.jwt.verify t = some c →
    c.assumed = false

/-- 要求は、呼んだ者の org の他の org を変えない。 -/
def TenantBound (s : Service) (ev : Event Tok) : Prop :=
  ∀ ctx, s.currentUser app ev.1 ev.2.request = .ok ctx →
    ∀ B, B ≠ ctx.orgId → SameSecurity B s (s.step app ev)

/-- 他の org の利用者に対する `revoke-all` が、admin であることだけで認められる。 -/
def CrossRevokes (s : Service) (ev : Event Tok) : Prop :=
  ∃ u user ctx, RevokesAll app s ev u ∧ s.currentUser app ev.1 ev.2.request = .ok ctx ∧
    s.db.users.get? u = some user ∧ user.orgId ≠ ctx.orgId

variable {app} {s : Service} {env : Env} {ev : Event Tok} {req : Request Tok}

/-! ## 呼んだ者の org -/

theorem home_of_apiKeyUser {crypto : Crypto} {db : Database} {apiKey : String} {ctx : AuthContext}
    (h : apiKeyUser crypto db apiKey = .ok ctx) :
    ∃ user, db.users.get? ctx.userId = some user ∧ user.orgId = ctx.orgId := by
  unfold apiKeyUser at h
  split at h
  · cases h
  · split at h
    · cases h
    · split at h
      · cases h
      · next user huser =>
        split at h
        · cases h
          exact ⟨user, huser, rfl⟩
        · cases h

/-- 引き受けた token によらない要求の org は、呼んだ者の行の org である。 -/
theorem AtHome.home (hhome : AtHome app ev) {ctx : AuthContext}
    (hctx : s.currentUser app ev.1 ev.2.request = .ok ctx) :
    ∃ user, s.db.users.get? ctx.userId = some user ∧ user.orgId = ctx.orgId := by
  unfold Service.currentUser getCurrentUser at hctx
  split at hctx
  · exact home_of_apiKeyUser hctx
  · next hkey =>
    obtain ⟨t, c, user, hbearer, hd, -, huser, -, -, -, rfl⟩ := (jwtUser_eq_ok app.jwt).mp hctx
    have hverify := ((decodeToken_eq_some app.jwt).mp hd).1
    have hassumed := hhome t c (Decidable.not_not.mp hkey) hbearer hverify
    exact ⟨user, huser, by simp [hassumed]⟩

theorem AtHome.orgId_of_caller (hhome : AtHome app ev) {ctx : AuthContext}
    (hctx : s.currentUser app ev.1 ev.2.request = .ok ctx) {u : String} {user : User}
    (hcaller : Caller app s ev u) (huser : s.db.users.get? u = some user) :
    user.orgId = ctx.orgId := by
  obtain ⟨ctx', hctx', rfl⟩ := hcaller
  cases hctx.symm.trans hctx'
  obtain ⟨user', huser', horg⟩ := hhome.home hctx
  cases huser.symm.trans huser'
  exact horg

/-! ## 利用者の行 -/

theorem orgId_rowChange {u : String} {old new : User} (h : RowChange app s ev u old new) :
    new.orgId = old.orgId := by
  cases h <;> rfl

/-- 書き換わる行は、`CrossRevokes` でなければ、呼んだ者の org のものである。 -/
theorem orgId_of_rowChange (hhome : AtHome app ev) {ctx : AuthContext}
    (hctx : s.currentUser app ev.1 ev.2.request = .ok ctx) {u : String} {old new : User}
    (hold : s.db.users.get? u = some old) (h : RowChange app s ev u old new) :
    old.orgId = ctx.orgId ∨ CrossRevokes app s ev := by
  cases h with
  | linked _ hcall | spent _ hcall =>
    -- これらの口は header を見ない
    rw [hcall] at hctx
    exact absurd hctx (currentUser_anonymous s ev.1 ctx)
  | enrolled _ _ h =>
    obtain ⟨_, _, -, hcaller, -⟩ := h
    exact .inl (hhome.orgId_of_caller hctx hcaller hold)
  | confirmed _ h =>
    obtain ⟨_, _, _, _, -, hcaller, -⟩ := h
    exact .inl (hhome.orgId_of_caller hctx hcaller hold)
  | disabled _ hctx' horg | updated _ _ _ _ hctx' horg =>
    cases hctx.symm.trans hctx'
    exact .inl horg
  | revoked h =>
    by_cases horg : old.orgId = ctx.orgId
    · exact .inl horg
    · exact .inr ⟨u, old, ctx, h, hctx, hold, horg⟩

/-! ## API key の行 -/

variable (app) in
/-- API key の表の変わり方。 -/
inductive KeyChanges (s : Service) (ev : Event Tok) (s' : Service) : Prop where
  | kept (h : s'.db.apiKeys = s.db.apiKeys)
  | created (id : String) (new : ApiKey) (ctx : AuthContext)
      (hctx : s.currentUser app ev.1 ev.2.request = .ok ctx) (hfresh : s.db.apiKeys.get? id = none)
      (horg : new.orgId = ctx.orgId) (howner : new.userId = ctx.userId)
      (hpromised : ∃ req days, ev.2 = .createApiKey req days ∧
        promisedExpiry ev.1.now days = some new.expiresAt)
      (hunique : ∀ row ∈ s.db.apiKeys.values, row.keyHash ≠ new.keyHash)
      (hset : s'.db.apiKeys = s.db.apiKeys.set id new)
  | revoked (id : String) (old : ApiKey) (ctx : AuthContext)
      (hctx : s.currentUser app ev.1 ev.2.request = .ok ctx) (hold : s.db.apiKeys.get? id = some old)
      (horg : old.orgId = ctx.orgId)
      (hset : s'.db.apiKeys = s.db.apiKeys.set id { old with revoked := true })

theorem keyChanges_createApiKey {expiresDays : Option (Option Int)} :
    KeyChanges app s (env, .createApiKey req expiresDays)
      (createApiKey app s env req expiresDays).1 := by
  have hrefl : KeyChanges app s (env, .createApiKey req expiresDays) s := .kept rfl
  refine withRole_rule hrefl fun ctx hctx => ?_
  simp only
  split
  · exact hrefl
  · next expires hexpires =>
    split
    · exact hrefl
    · next hfresh =>
      obtain ⟨hid, hhash⟩ := not_or.mp hfresh
      refine .created _ _ ctx hctx (by simpa using hid) rfl rfl ⟨req, expiresDays, rfl, hexpires⟩ ?_ rfl
      intro row hrow heq
      exact hhash (List.find?_isSome.mpr ⟨row, hrow, decide_eq_true heq⟩)

theorem keyChanges_revokeApiKey {keyId : String} :
    KeyChanges app s (env, .revokeApiKey req keyId) (revokeApiKey app s env req keyId).1 := by
  have hrefl : KeyChanges app s (env, .revokeApiKey req keyId) s := .kept rfl
  refine withRole_rule hrefl fun ctx hctx => ?_
  split
  · exact hrefl
  · next row hrow =>
    split
    · exact hrefl
    · next horg => exact .revoked keyId row ctx hctx hrow (Decidable.not_not.mp horg) rfl

theorem apiKeys_oidcCallback {verified : Except HttpError IdClaims} :
    (oidcCallback app s env verified).1.db.apiKeys = s.db.apiKeys := by
  have hfinish : ∀ id user,
      (finishPasswordLogin app (s.setUser id user) env id user).1.db.apiKeys = s.db.apiKeys := by
    intro id user
    rw [db_finishPasswordLogin]
    rfl
  exact oidcCallback_rule (P := fun s' => s'.db.apiKeys = s.db.apiKeys) rfl
    (fun _ id user _ => hfinish id user) fun _ id _ _ => hfinish id _

theorem apiKeys_mfaVerify {ticket : Tok} {code recovery : Option String} :
    (mfaVerify app s env ticket code recovery).1.db.apiKeys = s.db.apiKeys :=
  mfaVerify_rule (P := fun s' => s'.db.apiKeys = s.db.apiKeys) rfl (fun _ _ _ => rfl)
    (fun _ _ _ _ _ _ => rfl) fun _ _ _ _ _ _ _ => rfl

theorem keyChanges_step (app : App Tok) (s : Service) (ev : Event Tok) :
    KeyChanges app s ev (s.step app ev) := by
  obtain ⟨env, call⟩ := ev
  unfold Service.step handle
  cases call with
  | createApiKey req expiresDays => exact keyChanges_createApiKey
  | revokeApiKey req keyId => exact keyChanges_revokeApiKey
  | login email password => exact .kept (by rw [db_login])
  | oidcCallback verified => exact .kept apiKeys_oidcCallback
  | mfaVerify ticket code recovery => exact .kept apiKeys_mfaVerify
  | mfaEnroll req => exact .kept quiet_mfaEnroll.2
  | mfaConfirm req code => exact .kept quiet_mfaConfirm.2
  | mfaDisable req userId => exact .kept quiet_mfaDisable.2
  | logout req => exact .kept quiet_logout.2
  | revokeAll req userId => exact .kept quiet_revokeAll.2
  | createUser req email role password => exact .kept quiet_createUser.2
  | updateUser req userId role isActive password => exact .kept quiet_updateUser.2
  | createOrg req name => exact .kept quiet_createOrg.2
  | assumeOrg req orgId reason =>
    refine .kept (withPlatformAdmin_rule (P := fun s' => s'.db.apiKeys = s.db.apiKeys) rfl
      fun ctx _ _ => ?_)
    simp only
    repeat' split
    all_goals rfl
  | liveTicket req =>
    exact .kept (withUser_rule (P := fun s' => s'.db.apiKeys = s.db.apiKeys) rfl fun ctx _ => rfl)
  | liveStream req token ticket => exact .kept quiet_liveStream.2
  | other req =>
    exact .kept (withUser_rule (P := fun s' => s'.db.apiKeys = s.db.apiKeys) rfl fun ctx _ => rfl)

/-! ## 要求一つ -/

/-- `CrossRevokes` でなければ、他の org の利用者の行は変わらない。 -/
theorem users_bound (hhome : AtHome app ev) (hno : ¬CrossRevokes app s ev) {ctx : AuthContext}
    (hctx : s.currentUser app ev.1 ev.2.request = .ok ctx) (id : String) {user : User}
    (hB : user.orgId ≠ ctx.orgId) :
    (s.step app ev).db.users.get? id = some user ↔ s.db.users.get? id = some user := by
  cases changes_step app s ev with
  | kept h => rw [h]
  | changed u old new hold h hset =>
    have hown : old.orgId = ctx.orgId := (orgId_of_rowChange hhome hctx hold h).resolve_right hno
    rw [hset]
    refine Dict.get?_set_iff (p := fun row => row.orgId = user.orgId) (fun w hw heq => ?_)
      (fun heq => ?_) rfl
    · cases hold.symm.trans hw
      exact hB (heq.symm.trans hown)
    · exact hB (heq.symm.trans ((orgId_rowChange h).trans hown))
  | created u new hfresh _ horg hset =>
    rw [hset]
    refine Dict.get?_set_iff (p := fun row => row.orgId = user.orgId) (fun w hw => ?_)
      (fun heq => ?_) rfl
    · rw [hfresh] at hw
      cases hw
    · exact hB (heq.symm.trans (horg ctx hctx))

/-- 他の org の API key の行は変わらない。 -/
theorem apiKeys_bound {ctx : AuthContext} (hctx : s.currentUser app ev.1 ev.2.request = .ok ctx)
    (id : String) {row : ApiKey} (hB : row.orgId ≠ ctx.orgId) :
    (s.step app ev).db.apiKeys.get? id = some row ↔ s.db.apiKeys.get? id = some row := by
  cases keyChanges_step app s ev with
  | kept h => rw [h]
  | created k new ctx' hctx' hfresh horg _ _ _ hset =>
    cases hctx.symm.trans hctx'
    rw [hset]
    refine Dict.get?_set_iff (p := fun key => key.orgId = row.orgId) (fun w hw => ?_)
      (fun heq => ?_) rfl
    · rw [hfresh] at hw
      cases hw
    · exact hB (heq.symm.trans horg)
  | revoked k old ctx' hctx' hold horg hset =>
    cases hctx.symm.trans hctx'
    rw [hset]
    refine Dict.get?_set_iff (p := fun key => key.orgId = row.orgId) (fun w hw heq => ?_)
      (fun heq => ?_) rfl
    · cases hold.symm.trans hw
      exact hB (heq.symm.trans horg)
    · exact hB (heq.symm.trans horg)

/--
引き受けた token によらない要求が、どの他の org の利用者と API key の行も変えないのは、他の org の利用者
に対する `revoke-all` でないとき、かつそのときに限る。
-/
theorem tenantBound_iff (app : App Tok) (s : Service) (ev : Event Tok) (hhome : AtHome app ev) :
    TenantBound app s ev ↔ ¬CrossRevokes app s ev := by
  constructor
  · rintro hbound ⟨u, user, ctx, h, hctx, huser, horg⟩
    have hsame := (hbound ctx hctx user.orgId horg).users u user rfl
    have hrow := hsame.mpr huser
    rw [step_revokesAll h huser] at hrow
    have hversion : { user with sessionVersion := user.version + 1 } = user :=
      Option.some.inj ((Dict.get?_set_self ..).symm.trans hrow)
    have hbumped : user.version + 1 = user.sessionVersion := congrArg User.sessionVersion hversion
    unfold User.version at hbumped
    split at hbumped <;> omega
  · intro hno ctx hctx B hB
    constructor
    · rintro id user rfl
      exact users_bound hhome hno hctx id hB
    · rintro id row rfl
      exact apiKeys_bound hctx id hB

/-! ## 隣の org の admin -/

/-- 隣の org の利用者。 -/
def bo : User := { orgId := "org-2", email := "bo@example.net", passwordHash := "staple" }

/-- 二つの org に、利用者が一人ずついる。 -/
def twoTenants : Dict String User := plainUser.set "user-2" bo

/-- `org-1` の admin が、`org-2` の利用者に `revoke-all` をかける。 -/
def revokeNeighbour : Event Claims :=
  ({ now := 1010 }, .revokeAll { bearer := some anaSession } (some "user-2"))

/-- 引き受けた token によらない要求が、他の org の利用者の `session_version` を変える。 -/
theorem tenantBound_revokeNeighbour : AtHome plainApp revokeNeighbour ∧
    ¬TenantBound plainApp
      (Run.exec (Service.step plainApp) (boot twoTenants Dict.empty) [anaLogin]) revokeNeighbour := by
  refine ⟨?_, fun h => ?_⟩
  · rintro t c - ⟨⟩ ⟨⟩
    rfl
  · have hsame := (h ⟨"user-1", "ana@example.org", "org-1", "admin", .jwt⟩ rfl "org-2"
      (by decide)).users "user-2" bo rfl
    exact absurd (hsame.mpr rfl) (by decide)

/-- 自分の session を取り消すだけなら、他の org は変わらない。 -/
theorem tenantBound_iff_own :
    AtHome plainApp ({ now := 1010 }, .revokeAll { bearer := some anaSession } none) ∧
    TenantBound plainApp
      (Run.exec (Service.step plainApp) (boot twoTenants Dict.empty) [anaLogin])
      ({ now := 1010 }, .revokeAll { bearer := some anaSession } none) := by
  have hhome : AtHome plainApp ({ now := 1010 }, .revokeAll { bearer := some anaSession } none) := by
    rintro t c - ⟨⟩ ⟨⟩
    rfl
  refine ⟨hhome, (tenantBound_iff plainApp _ _ hhome).mpr ?_⟩
  rintro ⟨u, user, ctx, ⟨req, userId, ctx', user', hcall, hctx', rfl, -⟩, hctx, huser, horg⟩
  cases hcall
  cases hctx'
  cases hctx
  cases huser
  exact horg rfl

/-! ## API key の持ち主 -/

/-- API key の org は、持ち主の利用者の org である。 -/
def KeysAtHome (s : Service) : Prop :=
  ∀ id row, s.db.apiKeys.get? id = some row →
    ∃ owner, s.db.users.get? row.userId = some owner ∧ owner.orgId = row.orgId

theorem orgId_step (app : App Tok) (ev : Event Tok) {u : String} {old : User}
    (hold : s.db.users.get? u = some old) :
    ∃ new, (s.step app ev).db.users.get? u = some new ∧ new.orgId = old.orgId := by
  obtain ⟨new, hnew, rfl | h⟩ := row_step app ev hold
  · exact ⟨_, hnew, rfl⟩
  · exact ⟨new, hnew, orgId_rowChange h⟩

theorem keysAtHome_step (hhome : AtHome app ev) (h : KeysAtHome s) : KeysAtHome (s.step app ev) := by
  -- 前からの key の持ち主の org は変わらない
  have hkept : ∀ id row, s.db.apiKeys.get? id = some row →
      ∃ owner, (s.step app ev).db.users.get? row.userId = some owner ∧ owner.orgId = row.orgId := by
    intro id row hrow
    obtain ⟨owner, howner, horg⟩ := h id row hrow
    obtain ⟨new, hnew, hsame⟩ := orgId_step app ev howner
    exact ⟨new, hnew, hsame.trans horg⟩
  intro id row hrow
  cases keyChanges_step app s ev with
  | kept heq => exact hkept id row (heq ▸ hrow)
  | created k new ctx hctx _ horg howner _ _ hset =>
    rw [hset, Dict.get?_set] at hrow
    split at hrow
    · cases hrow
      obtain ⟨owner, hrow, hown⟩ := hhome.home hctx
      obtain ⟨owner', hrow', hsame⟩ := orgId_step app ev hrow
      exact ⟨owner', howner ▸ hrow', hsame.trans (hown.trans horg.symm)⟩
    · exact hkept id row hrow
  | revoked k old ctx hctx hold horg hset =>
    rw [hset, Dict.get?_set] at hrow
    split at hrow
    · cases hrow
      exact hkept k old hold
    · exact hkept id row hrow

/-- **引き受けた token を使わない run では、API key の org は持ち主の org である。** -/
theorem keysAtHome_run (users : Dict String User) (orgs : Dict String Organization)
    {evs : List (Event Tok)}
    (hhome : Run.Along (Service.step app) (fun _ ev => AtHome app ev) (boot users orgs) evs) :
    KeysAtHome (Run.exec (Service.step app) (boot users orgs) evs) := by
  refine Run.Along.invariant (fun s ev h hc => keysAtHome_step hc h) hhome ?_
  intro id row hrow
  cases hrow

end CipherPost.Api
