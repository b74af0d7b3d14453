import CipherPost.Infra.Run
import CipherPost.Api.Main

/-!
# ticket と session の区別

三種類の JWT は同じ鍵で署名され、`get_current_user` は `scope` を見ない。発行した JWT の記録を
run に沿って追い、bearer として通るものを調べる。

* `accounted_step` — 呼び出し一つで増える session の token と API key には、理由がある
* `sealed_step` — MFA の要る利用者に session の token も API key も無いことは、保たれる
* `bearer_of_session` — bearer で通るのが session の token だけであるのは、出された ticket が
  `TicketLive` でないときで、そうである run では MFA を飛ばせない
-/

namespace CipherPost.Api

open CipherPost.Core

variable {Tok : Type} (app : App Tok)

/-! ## 増えたものの理由 -/

/-- 呼んだ者は、利用者 `u` として認証される。 -/
def Caller (s : Service) (ev : Event Tok) (u : String) : Prop :=
  ∃ ctx, s.currentUser app ev.1 ev.2.request = .ok ctx ∧ ctx.userId = u

/-- `mfa_verify` に、利用者 `u` の正しい TOTP か recovery code を出す。 -/
def PresentsCode (s : Service) (ev : Event Tok) (u : String) : Prop :=
  ∃ ticket code recovery claims user, ev.2 = .mfaVerify ticket code recovery ∧
    app.jwt.verify ticket = some claims ∧ claims.sub = u ∧ s.db.users.get? u = some user ∧
    (totpAccepted app user code ev.1.now = true ∨ (recoveryAccepted app user recovery).isSome)

/-- break-glass の口から、利用者 `u` として login する。 -/
def BreaksGlass (s : Service) (ev : Event Tok) (u : String) : Prop :=
  ∃ email password user, ev.2 = .login email password ∧ breakGlassConfigured app = true ∧
    normalized email = lower (strip app.settings.breakGlassEmail) ∧
    breakGlassUser app s (password.getD "") = some (u, user)

/-- 状態 `s` で、利用者 `u`（いれば）には MFA が要る。 -/
def RequiredAt (s : Service) (u : String) : Prop :=
  ∀ user, s.db.users.get? u = some user → mfaRequired app s.db user = true

/-- 利用者 `u` に session の token を出す理由。 -/
inductive Grounds (s : Service) (ev : Event Tok) (s' : Service) (u : String) : Prop where
  /-- 呼んだ者が、既に `u` として認証されている。 -/
  | caller (h : Caller app s ev u)
  /-- `u` には MFA が要らない。 -/
  | free (h : ¬RequiredAt app s' u)
  /-- `u` の code が確かめられた。 -/
  | code (h : PresentsCode app s ev u)
  /-- break-glass である。 -/
  | breakGlass (h : BreaksGlass app s ev u)

/-- 種類に合う payload。 -/
structure Kind.Fits (k : Kind) (c : Claims) : Prop where
  scope : c.scope = k.scope
  ticket : k ≠ session → c.IsTicket

/-- 呼び出しで増えた JWT と API key には、理由がある。 -/
structure Accounted (s : Service) (ev : Event Tok) (s' : Service) : Prop where
  issued : ∀ k c, (k, c) ∈ s'.issued → (k, c) ∈ s.issued ∨
    (k.Fits c ∧ (k = .session → Grounds app s ev s' c.sub))
  apiKeys : ∀ id row, s'.db.apiKeys.get? id = some row →
    (∃ old, s.db.apiKeys.get? id = some old ∧ old.userId = row.userId) ∨ Caller app s ev row.userId

/-- JWT も API key も増えていない。 -/
def Quiet (s s' : Service) : Prop := s'.issued = s.issued ∧ s'.db.apiKeys = s.db.apiKeys

variable {app} {s : Service} {env : Env} {ev : Event Tok}

theorem Quiet.accounted {s' : Service} (h : Quiet s s') : Accounted app s ev s' where
  issued := by
    intro k c hm
    rw [h.1] at hm
    exact Or.inl hm
  apiKeys := by
    intro id row hrow
    rw [h.2] at hrow
    exact Or.inl ⟨row, hrow, rfl⟩

theorem accounted_grant {s₁ : Service} {kind : Kind} {c : Claims} {reply : Tok → Response Tok}
    (h : Quiet s s₁) (hfits : kind.Fits c)
    (hgrounds : kind = .session → Grounds app s ev (grant app s₁ kind c reply).1 c.sub) :
    Accounted app s ev (grant app s₁ kind c reply).1 where
  issued := by
    intro k c' hm
    rcases List.mem_cons.mp hm with heq | hm
    · cases heq
      exact Or.inr ⟨hfits, hgrounds⟩
    · rw [h.1] at hm
      exact Or.inl hm
  apiKeys := by
    intro id row hrow
    have hrow : s₁.db.apiKeys.get? id = some row := hrow
    rw [h.2] at hrow
    exact Or.inl ⟨row, hrow, rfl⟩

/-! ## 認証つきの口の規則 -/

variable {P : Service → Prop} {req : Request Tok}

theorem withUser_rule {k : AuthContext → Outcome Tok} (hs : P s)
    (hk : ∀ ctx, s.currentUser app env req = .ok ctx → P (k ctx).1) :
    P (withUser app s env req k).1 := by
  unfold withUser
  split
  · exact hs
  · next ctx hctx => exact hk ctx hctx

theorem withRole_rule {needed : Role} {k : AuthContext → Outcome Tok} (hs : P s)
    (hk : ∀ ctx, s.currentUser app env req = .ok ctx → P (k ctx).1) :
    P (withRole app needed s env req k).1 := by
  refine withUser_rule hs fun ctx hctx => ?_
  split
  · exact hs
  · exact hk ctx hctx

theorem withPlatformAdmin_rule {k : AuthContext → User → Outcome Tok} (hs : P s)
    (hk : ∀ ctx user, s.currentUser app env req = .ok ctx → P (k ctx user).1) :
    P (withPlatformAdmin app s env req k).1 := by
  refine withUser_rule hs fun ctx hctx => ?_
  split
  · exact hs
  · next user _ =>
    split
    · exact hk ctx user hctx
    · exact hs

/-! ## login の口の規則 -/

theorem login_rule {email password : Option String} (hs : P s)
    (hbreak : ∀ id user, breakGlassConfigured app = true →
      normalized email = lower (strip app.settings.breakGlassEmail) →
      breakGlassUser app s (password.getD "") = some (id, user) →
      P (grant app s .session (sessionToken app env id user) .token).1)
    (hfinish : ∀ id user, s.db.userByEmail (normalized email) = some (id, user) →
      P (finishPasswordLogin app s env id user).1) : P (login app s env email password).1 := by
  unfold login
  simp only
  split
  · exact hs
  · split
    · next hbg =>
      simp only [Bool.and_eq_true, decide_eq_true_eq] at hbg
      unfold breakGlassLogin
      split
      · exact hs
      · next id user hfound => exact hbreak id user hbg.1.2 hbg.2 hfound
    · split
      · exact hs
      · split
        · exact hs
        · next id user hfound =>
          split
          · exact hfinish id user hfound
          · exact hs

theorem oidcCallback_rule {verified : Except HttpError IdClaims} (hs : P s)
    (hcreated : ∀ (claims : IdClaims) id user,
      provision app s.db env claims claims.sub (normalized claims.email) = some (id, user) →
      P (finishPasswordLogin app (s.setUser id user) env id user).1)
    (hlinked : ∀ (claims : IdClaims) id user,
      oidcUser s.db claims.sub (normalized claims.email) = .ok (some (id, user)) →
      P (finishPasswordLogin app
        (s.setUser id { user with oidcSub := user.oidcSub.or (some claims.sub) }) env id
        { user with oidcSub := user.oidcSub.or (some claims.sub) }).1) :
    P (oidcCallback app s env verified).1 := by
  unfold oidcCallback
  split
  · exact hs
  · next claims =>
    simp only
    split
    · exact hs
    · split
      · exact hs
      · split
        · split
          · exact hs
          · next id user hprovision => exact hcreated claims id user hprovision
        · exact hs
      · next id user hfound =>
        split
        · exact hlinked claims id user hfound
        · exact hs

theorem mfaVerify_rule {ticket : Tok} {code recovery : Option String} (hs : P s)
    (hused : ∀ claims used,
      consumeMfaTicket app.jwt s.usedMfa env.now env.redisUp ticket = some (claims, used) →
      P { s with usedMfa := used })
    (hcode : ∀ claims used user,
      consumeMfaTicket app.jwt s.usedMfa env.now env.redisUp ticket = some (claims, used) →
      s.db.users.get? claims.sub = some user → totpAccepted app user code env.now = true →
      P (grant app { s with usedMfa := used } .session (sessionToken app env claims.sub user)
        .token).1)
    (hrecovery : ∀ claims used user remaining,
      consumeMfaTicket app.jwt s.usedMfa env.now env.redisUp ticket = some (claims, used) →
      s.db.users.get? claims.sub = some user → recoveryAccepted app user recovery = some remaining →
      P (grant app
        ({ s with usedMfa := used }.setUser claims.sub { user with mfaRecovery := some remaining })
        .session (sessionToken app env claims.sub user) .token).1) :
    P (mfaVerify app s env ticket code recovery).1 := by
  unfold mfaVerify
  split
  · exact hs
  · next claims used hconsume =>
    have hrest := hused claims used hconsume
    simp only
    split
    · exact hrest
    · next user huser =>
      split
      · exact hrest
      · split
        · exact hrest
        · split
          · next htotp => exact hcode claims used user hconsume huser htotp
          · split
            · exact hrest
            · next remaining hremaining =>
              exact hrecovery claims used user remaining hconsume huser hremaining

/-! ## 何も増やさない口 -/

theorem quiet_refl (s : Service) : Quiet s s := ⟨rfl, rfl⟩

theorem quiet_setUser (s : Service) (id : String) (user : User) : Quiet s (s.setUser id user) :=
  ⟨rfl, rfl⟩

theorem quiet_mfaEnroll : Quiet s (mfaEnroll app s env req).1 := by
  refine withUser_rule (quiet_refl s) fun ctx _ => ?_
  repeat' split
  all_goals exact ⟨rfl, rfl⟩

theorem quiet_mfaConfirm {code : Option String} : Quiet s (mfaConfirm app s env req code).1 := by
  refine withUser_rule (quiet_refl s) fun ctx _ => ?_
  repeat' split
  all_goals exact ⟨rfl, rfl⟩

theorem quiet_mfaDisable {userId : Option String} :
    Quiet s (mfaDisable app s env req userId).1 := by
  refine withRole_rule (quiet_refl s) fun ctx _ => ?_
  simp only
  repeat' split
  all_goals exact ⟨rfl, rfl⟩

theorem quiet_logout : Quiet s (logout app s env req).1 := by
  refine withUser_rule (quiet_refl s) fun ctx _ => ?_
  split <;> exact ⟨rfl, rfl⟩

theorem quiet_revokeAll {userId : Option String} : Quiet s (revokeAll app s env req userId).1 := by
  refine withUser_rule (quiet_refl s) fun ctx _ => ?_
  simp only
  repeat' split
  all_goals exact ⟨rfl, rfl⟩

theorem quiet_createUser {email role password : Option String} :
    Quiet s (createUser app s env req email role password).1 := by
  refine withRole_rule (quiet_refl s) fun ctx _ => ?_
  simp only
  repeat' split
  all_goals exact ⟨rfl, rfl⟩

theorem quiet_updateUser {userId : String} {role password : Option String} {isActive : Option Bool} :
    Quiet s (updateUser app s env req userId role isActive password).1 := by
  refine withRole_rule (quiet_refl s) fun ctx _ => ?_
  simp only
  repeat' split
  all_goals exact ⟨rfl, rfl⟩

theorem quiet_createOrg {name : Option String} : Quiet s (createOrg app s env req name).1 := by
  refine withPlatformAdmin_rule (quiet_refl s) fun ctx _ _ => ?_
  simp only
  repeat' split
  all_goals exact ⟨rfl, rfl⟩

theorem quiet_liveStream {token ticket : Option Tok} :
    Quiet s (liveStream app s env req token ticket).1 := by
  unfold liveStream
  split
  · exact withUser_rule (quiet_refl s) fun ctx _ => quiet_refl s
  · simp only
    repeat' split
    all_goals exact ⟨rfl, rfl⟩

/-! ## 発行する口 -/

theorem fits_sessionToken (id : String) (user : User) :
    Kind.session.Fits (sessionToken app env id user) := ⟨rfl, fun h => absurd rfl h⟩

/-- password か SSO の後の token は、MFA の要らない利用者にだけ出る。 -/
theorem accounted_finishPasswordLogin {s₁ : Service} {id : String} {user : User} (h : Quiet s s₁)
    (huser : s₁.db.users.get? id = some user) :
    Accounted app s ev (finishPasswordLogin app s₁ env id user).1 := by
  unfold finishPasswordLogin
  split
  · refine accounted_grant h ⟨rfl, fun _ => isTicket_createMfaTicket ..⟩ ?_
    rintro ⟨⟩
  · next hfree =>
    refine accounted_grant h (fits_sessionToken id user) fun _ => .free fun hreq => ?_
    exact hfree (hreq user huser)

theorem get?_of_userByEmail {db : Database} {email id : String} {user : User}
    (h : db.userByEmail email = some (id, user)) : db.users.get? id = some user :=
  (Dict.mem_entries_iff _ _ _).mp (List.mem_of_find?_eq_some h)

theorem accounted_login {email password : Option String} :
    Accounted app s (env, .login email password) (login app s env email password).1 := by
  refine login_rule (quiet_refl s).accounted (fun id user hconf hemail hfound => ?_)
    fun id user hfound => accounted_finishPasswordLogin (quiet_refl s) (get?_of_userByEmail hfound)
  -- 設定された緊急用の password は、MFA によらず token を出す
  refine accounted_grant (quiet_refl s) (fits_sessionToken id user) fun _ => .breakGlass ?_
  exact ⟨email, password, user, rfl, hconf, hemail, hfound⟩

theorem accounted_oidcCallback {verified : Except HttpError IdClaims} :
    Accounted app s ev (oidcCallback app s env verified).1 := by
  have hfinish : ∀ id user, Accounted app s ev
      (finishPasswordLogin app (s.setUser id user) env id user).1 := fun id user =>
    accounted_finishPasswordLogin (quiet_setUser s id user) (Dict.get?_set_self _ _ _)
  exact oidcCallback_rule (quiet_refl s).accounted (fun _ id user _ => hfinish id user)
    fun _ id _ _ => hfinish id _

theorem accounted_mfaVerify {ticket : Tok} {code recovery : Option String} :
    Accounted app s (env, .mfaVerify ticket code recovery)
      (mfaVerify app s env ticket code recovery).1 := by
  have hused : ∀ used, Quiet s { s with usedMfa := used } := fun _ => ⟨rfl, rfl⟩
  have hverify : ∀ {claims used},
      consumeMfaTicket app.jwt s.usedMfa env.now env.redisUp ticket = some (claims, used) →
      app.jwt.verify ticket = some claims := fun hconsume =>
    ((decodeToken_eq_some app.jwt).mp (of_consumeTicket app.jwt hconsume).1).1
  refine mfaVerify_rule (quiet_refl s).accounted (fun _ used _ => (hused used).accounted)
    (fun claims used user hconsume huser htotp => ?_)
    fun claims used user remaining hconsume huser hrecovery => ?_
  · refine accounted_grant (hused used) (fits_sessionToken _ user) fun _ => .code ?_
    exact ⟨ticket, code, recovery, claims, user, rfl, hverify hconsume, rfl, huser, .inl htotp⟩
  · refine accounted_grant ⟨rfl, rfl⟩ (fits_sessionToken _ user) fun _ => .code ?_
    exact ⟨ticket, code, recovery, claims, user, rfl, hverify hconsume, rfl, huser,
      .inr (by rw [hrecovery]; rfl)⟩

theorem accounted_assumeOrg {orgId reason : Option String} :
    Accounted app s (env, .assumeOrg req orgId reason) (assumeOrg app s env req orgId reason).1 := by
  have hquiet : Accounted app s (env, .assumeOrg req orgId reason) s := (quiet_refl s).accounted
  refine withPlatformAdmin_rule hquiet fun ctx user hctx => ?_
  simp only
  split
  · exact hquiet
  · split
    · exact hquiet
    · exact accounted_grant (quiet_refl s) ⟨rfl, fun h => absurd rfl h⟩
        fun _ => .caller ⟨ctx, hctx, rfl⟩

theorem accounted_liveTicket : Accounted app s ev (liveTicket app s env req).1 := by
  refine withUser_rule (quiet_refl s).accounted fun ctx _ => ?_
  refine accounted_grant (quiet_refl s) ⟨rfl, fun _ => isTicket_createSseTicket ..⟩ ?_
  rintro ⟨⟩

/-! ## API key の口 -/

theorem accounted_createApiKey {expiresDays : Option (Option Int)} :
    Accounted app s (env, .createApiKey req expiresDays)
      (createApiKey app s env req expiresDays).1 := by
  have hquiet : Accounted app s (env, .createApiKey req expiresDays) s := (quiet_refl s).accounted
  refine withRole_rule hquiet fun ctx hctx => ?_
  simp only
  repeat' split
  · exact hquiet
  · exact hquiet
  · refine ⟨fun k c hm => Or.inl hm, fun id row hrow => ?_⟩
    simp only [Dict.get?_set] at hrow
    split at hrow
    · cases hrow
      exact Or.inr ⟨ctx, hctx, rfl⟩
    · exact Or.inl ⟨row, hrow, rfl⟩

/-- 取り消した API key の持ち主は変わらない。 -/
theorem accounted_revokeApiKey {keyId : String} :
    Accounted app s ev (revokeApiKey app s env req keyId).1 := by
  have hquiet : Accounted app s ev s := (quiet_refl s).accounted
  refine withRole_rule hquiet fun ctx _ => ?_
  split
  · exact hquiet
  · next old hold =>
    split
    · exact hquiet
    · refine ⟨fun k c hm => Or.inl hm, fun id row hrow => ?_⟩
      simp only [Dict.get?_set] at hrow
      split at hrow
      · next heq =>
        cases hrow
        exact Or.inl ⟨old, heq ▸ hold, rfl⟩
      · exact Or.inl ⟨row, hrow, rfl⟩

/-- **呼び出し一つで増える session の token と API key には、理由がある。** -/
theorem accounted_step (s : Service) (ev : Event Tok) : Accounted app s ev (s.step app ev) := by
  obtain ⟨env, call⟩ := ev
  unfold Service.step handle
  cases call with
  | login email password => exact accounted_login
  | oidcCallback verified => exact accounted_oidcCallback
  | mfaEnroll req => exact quiet_mfaEnroll.accounted
  | mfaConfirm req code => exact quiet_mfaConfirm.accounted
  | mfaVerify ticket code recovery => exact accounted_mfaVerify
  | mfaDisable req userId => exact quiet_mfaDisable.accounted
  | logout req => exact quiet_logout.accounted
  | revokeAll req userId => exact quiet_revokeAll.accounted
  | createUser req email role password => exact quiet_createUser.accounted
  | updateUser req userId role isActive password => exact quiet_updateUser.accounted
  | createApiKey req expiresDays => exact accounted_createApiKey
  | revokeApiKey req keyId => exact accounted_revokeApiKey
  | createOrg req name => exact quiet_createOrg.accounted
  | assumeOrg req orgId reason => exact accounted_assumeOrg
  | liveTicket req => exact accounted_liveTicket
  | liveStream req token ticket => exact quiet_liveStream.accounted
  | other req =>
    exact withUser_rule (P := Accounted app s (env, .other req)) (quiet_refl s).accounted
      fun ctx _ => (quiet_refl s).accounted

/-! ## 不変量 -/

/-- 発行した JWT は、どれも種類に合う payload を持つ。 -/
def Fitted (s : Service) : Prop := ∀ k c, (k, c) ∈ s.issued → k.Fits c

theorem fitted_step (s : Service) (ev : Event Tok) (h : Fitted s) : Fitted (s.step app ev) := by
  intro k c hm
  rcases (accounted_step s ev).issued k c hm with hm | ⟨hfits, -⟩
  · exact h k c hm
  · exact hfits

/-- 利用者 `u` には、session の token も API key も無い。 -/
structure Sealed (u : String) (s : Service) : Prop where
  sessions : ∀ c, (Kind.session, c) ∈ s.issued → c.sub ≠ u
  apiKeys : ∀ id row, s.db.apiKeys.get? id = some row → row.userId ≠ u

variable (app)

/-- 署名の正しい bearer は、発行した JWT である。 -/
def Unforged (s : Service) (req : Request Tok) : Prop :=
  ∀ t c, req.bearer = some t → app.jwt.verify t = some c → ∃ k, (k, c) ∈ s.issued

/-- bearer として出された ticket は、期限の外か、拒否されたか、利用者の行と合わない。 -/
def TicketsDead (s : Service) (env : Env) (req : Request Tok) : Prop :=
  ∀ t k c, req.bearer = some t → app.jwt.verify t = some c → (k, c) ∈ s.issued → k ≠ .session →
    ¬TicketLive s.db s.revocations env.now env.redisUp c

/-- bearer は session の token として発行され、ticket の `scope` を持たない。 -/
def IsSession (s : Service) (req : Request Tok) : Prop :=
  ∃ t c, req.bearer = some t ∧ app.jwt.verify t = some c ∧ (Kind.session, c) ∈ s.issued ∧
    c.scope = none

/-- 要求が、JWT の側で利用者を得る。 -/
def ByJwt (s : Service) (env : Env) (req : Request Tok) : Prop :=
  ∃ ctx, jwtUser app.jwt s.db s.revocations env.now env.redisUp req.bearer = .ok ctx

variable {app}

/-- **bearer で通るのが session の token だけであるのは、ticket が死んでいるとき、かつそのときに限る。** -/
theorem isSession_iff (hfit : Fitted s) (hun : Unforged app s req) :
    (ByJwt app s env req → IsSession app s req) ↔ TicketsDead app s env req := by
  constructor
  · intro h t k c hbearer hverify hm hk hlive
    have hpass : ByJwt app s env req := by
      unfold ByJwt
      rw [hbearer]
      exact (ticket_authenticates_iff app.jwt ((hfit k c hm).ticket hk) hverify).mpr hlive
    obtain ⟨t', c', hbearer', hverify', -, hscope⟩ := h hpass
    cases hbearer.symm.trans hbearer'
    cases hverify.symm.trans hverify'
    -- `scope` の無いのは session の token だけである
    rw [(hfit k c hm).scope] at hscope
    cases k with
    | session => exact hk rfl
    | mfaTicket => cases hscope
    | sseTicket => cases hscope
  · rintro hdead ⟨ctx, hctx⟩
    obtain ⟨t, c, -, hbearer, hd, -⟩ := (jwtUser_eq_ok app.jwt).mp hctx
    have hverify := ((decodeToken_eq_some app.jwt).mp hd).1
    obtain ⟨k, hm⟩ := hun t c hbearer hverify
    cases k with
    | session => exact ⟨t, c, hbearer, hverify, hm, (hfit _ c hm).scope⟩
    | mfaTicket | sseTicket =>
      refine absurd ?_ (hdead t _ c hbearer hverify hm (by simp))
      exact (ticket_authenticates_iff app.jwt ((hfit _ c hm).ticket (by simp)) hverify).mp
        ⟨ctx, hbearer ▸ hctx⟩

/-- 封じられた利用者としては、死んだ ticket の要求は通らない。 -/
theorem userId_ne_of_sealed {u : String} (hsealed : Sealed u s) (hfit : Fitted s)
    (hun : Unforged app s req) (hdead : req.apiKey = "" → TicketsDead app s env req)
    {ctx : AuthContext} (hctx : s.currentUser app env req = .ok ctx) : ctx.userId ≠ u := by
  unfold Service.currentUser getCurrentUser at hctx
  split at hctx
  · obtain ⟨id, row, hrow, howner⟩ := exists_of_apiKeyUser app.crypto hctx
    rw [← howner]
    exact hsealed.apiKeys id row hrow
  · next hkey =>
    obtain ⟨t, c, hbearer, hverify, hm, -⟩ :=
      (isSession_iff hfit hun).mpr (hdead (Classical.not_not.mp hkey)) ⟨ctx, hctx⟩
    obtain ⟨t', c', user, hbearer', hd, -, -, -, -, -, rfl⟩ := (jwtUser_eq_ok app.jwt).mp hctx
    cases hbearer.symm.trans hbearer'
    cases hverify.symm.trans ((decodeToken_eq_some app.jwt).mp hd).1
    exact hsealed.sessions c hm

variable (app)

/-- 要求の bearer は偽造されず、JWT の側を通るなら死んだ ticket でしかない。 -/
def Guarded (s : Service) (env : Env) (req : Request Tok) : Prop :=
  Unforged app s req ∧ (req.apiKey = "" → TicketsDead app s env req)

/-- 利用者 `u` には MFA が要り、呼び出しは `u` の code も break-glass も使わない。 -/
def NoStepUp (u : String) (s : Service) (ev : Event Tok) : Prop :=
  RequiredAt app (s.step app ev) u ∧ ¬PresentsCode app s ev u ∧ ¬BreaksGlass app s ev u

variable {app}

/-- **MFA の要る利用者が封じられていることは、保たれる。** -/
theorem sealed_step {u : String} (hsealed : Sealed u s) (hfit : Fitted s)
    (hguard : Guarded app s ev.1 ev.2.request) (hno : NoStepUp app u s ev) :
    Sealed u (s.step app ev) := by
  have hcaller : ¬Caller app s ev u := by
    rintro ⟨ctx, hctx, heq⟩
    exact userId_ne_of_sealed hsealed hfit hguard.1 hguard.2 hctx heq
  have hacc : Accounted app s ev (s.step app ev) := accounted_step s ev
  constructor
  · intro c hm heq
    rcases hacc.issued _ c hm with hm | ⟨-, hgrounds⟩
    · exact hsealed.sessions c hm heq
    · subst heq
      cases hgrounds rfl with
      | caller h => exact hcaller h
      | free h => exact h hno.1
      | code h => exact hno.2.1 h
      | breakGlass h => exact hno.2.2 h
  · intro id row hrow heq
    rcases hacc.apiKeys id row hrow with ⟨old, hold, howner⟩ | h
    · exact hsealed.apiKeys id old hold (howner.trans heq)
    · exact hcaller (heq ▸ h)

/-- 利用者と org を登録しただけの、始めの状態。 -/
def boot (users : Dict String User) (orgs : Dict String Organization) : Service :=
  { db := { users, orgs } }

/-- 始めの状態では、誰も通らない。 -/
theorem sealed_boot (users : Dict String User) (orgs : Dict String Organization) (u : String) :
    Sealed u (boot users orgs) where
  sessions := fun _ hm => absurd hm List.not_mem_nil
  apiKeys := fun _ _ hrow => by cases hrow

/--
正しい password の後に受け取る ticket は、利用者の `session_version` が 1 なら、そのまま bearer として
通る。code は要らない。
-/
theorem mfaTicket_authenticates {id : String} {user : User} (huser : s.db.users.get? id = some user)
    (hactive : user.isActive = true) (hrequired : mfaRequired app s.db user = true)
    (hversion : user.version = 1)
    (hrev : s.revocations.isTokenRevoked env.now env.redisUp (env.tokenHex 1) = false) :
    ∃ ticket, (finishPasswordLogin app s env id user).2 = .ok (.mfaTicket ticket) ∧
      (finishPasswordLogin app s env id user).1.currentUser app env { bearer := some ticket } =
        .ok ⟨id, user.email, user.orgId, user.role.value, .jwt⟩ := by
  have hfinish : finishPasswordLogin app s env id user = grant app s .mfaTicket
      (createMfaTicket env.now (env.tokenHex 0) (env.tokenHex 1) id user.orgId) .mfaTicket := by
    unfold finishPasswordLogin
    rw [if_pos hrequired]
  rw [hfinish]
  refine ⟨_, rfl, ?_⟩
  refine (jwtUser_eq_ok app.jwt).mpr
    ⟨_, createMfaTicket env.now (env.tokenHex 0) (env.tokenHex 1) id user.orgId, user, rfl,
      (decodeToken_eq_some app.jwt).mpr ⟨app.jwt.verify_encode _, Nat.le_refl _, ?_⟩, hrev, huser,
      hactive, Or.inl rfl, hversion.symm, rfl⟩
  exact Nat.lt_add_of_pos_right (by decide)

/--
始めの状態からの run の後、偽造でない bearer を出す要求について、bearer で通るのが session の token
だけであるのは、出された ticket が死んでいるとき、かつそのときに限る。どの要求もそうである run では、
ずっと MFA の要る利用者は、code を確かめられず break-glass も使わなければ、決して返らない。
-/
theorem bearer_of_session (app : App Tok) (users : Dict String User)
    (orgs : Dict String Organization) (evs : List (Event Tok)) (env : Env) (req : Request Tok)
    (hun : Unforged app (Run.exec (Service.step app) (boot users orgs) evs) req) :
    ((ByJwt app (Run.exec (Service.step app) (boot users orgs) evs) env req →
        IsSession app (Run.exec (Service.step app) (boot users orgs) evs) req) ↔
      TicketsDead app (Run.exec (Service.step app) (boot users orgs) evs) env req) ∧
    (Run.Along (Service.step app) (fun s ev => Guarded app s ev.1 ev.2.request) (boot users orgs)
        evs →
      (req.apiKey = "" →
        TicketsDead app (Run.exec (Service.step app) (boot users orgs) evs) env req) →
      ∀ u, Run.Along (Service.step app) (NoStepUp app u) (boot users orgs) evs →
        ∀ ctx, (Run.exec (Service.step app) (boot users orgs) evs).currentUser app env req = .ok ctx →
          ctx.userId ≠ u) := by
  have hboot : Fitted (boot users orgs) := fun _ _ hm => absurd hm List.not_mem_nil
  have hfit : Fitted (Run.exec (Service.step app) (boot users orgs) evs) :=
    Run.invariant (fun s ev h => fitted_step s ev h) evs hboot
  refine ⟨isSession_iff hfit hun, fun hguard hdead u hno ctx hctx => ?_⟩
  have hinv := Run.Along.invariant (I := fun s => Fitted s ∧ Sealed u s)
    (fun s ev hi hc => ⟨fitted_step s ev hi.1, sealed_step hi.2 hi.1 hc.1 hc.2⟩)
    (hguard.and hno) ⟨hboot, sealed_boot users orgs u⟩
  exact userId_ne_of_sealed hinv.2 hfit hun hdead hctx

/-! ## MFA の要る利用者の login -/

/-- hash も暗号も素通しの library。 -/
def plainCrypto : Crypto where
  hashPassword := fun salt password => salt ++ password
  verifyPassword := fun password stored => decide (password = stored)
  hotp := fun secret _ => secret
  sha256 := id
  encryptSecret := fun _ secret => some secret
  decryptSecret := some

/-- payload をそのまま token とする JWT。 -/
def plainJwt : Jwt Claims := ⟨id, some, fun _ => rfl⟩

def plainApp : App Claims := { crypto := plainCrypto, jwt := plainJwt }

/-- MFA を有効にした利用者が一人いる。 -/
def oneUser : Dict String User :=
  Dict.empty.set "user-1"
    { orgId := "org-1", email := "ana@example.org", passwordHash := "correct horse",
      mfaSecretEnc := some "secret", mfaEnabled := true }

/-- その利用者の password による login。 -/
def passwordLogin : Event Claims :=
  ({ now := 1000, tokenHex := fun n => if n = 0 then "a0" else "a1" },
    .login (some "Ana@example.org") (some "correct horse"))

/-- login が返す ticket。 -/
def anaTicket : Claims := createMfaTicket 1000 "a0" "a1" "user-1" "org-1"

/-- login は、利用者の code も break-glass も使わない。 -/
theorem noStepUp_passwordLogin :
    NoStepUp plainApp "user-1" (boot oneUser Dict.empty) passwordLogin := by
  refine ⟨fun user huser => ?_, ?_, ?_⟩
  · have hsame : (Service.step plainApp (boot oneUser Dict.empty) passwordLogin).db.users =
        oneUser := by decide
    rw [hsame] at huser
    cases huser
    decide
  · rintro ⟨_, _, _, _, _, hcall, -⟩
    cases hcall
  · rintro ⟨_, _, _, -, hconf, -⟩
    exact absurd hconf (by decide)

/-- 期限の切れた ticket を bearer として出しても、利用者としては通らない。 -/
theorem bearer_of_session_expired :
    (ByJwt plainApp (Run.exec (Service.step plainApp) (boot oneUser Dict.empty) [passwordLogin])
        { now := 1300 } { bearer := some anaTicket } →
      IsSession plainApp (Run.exec (Service.step plainApp) (boot oneUser Dict.empty) [passwordLogin])
        { bearer := some anaTicket }) ∧
    ∀ ctx, (Run.exec (Service.step plainApp) (boot oneUser Dict.empty)
      [passwordLogin]).currentUser plainApp { now := 1300 } { bearer := some anaTicket } = .ok ctx →
      ctx.userId ≠ "user-1" := by
  have hissued : (Run.exec (Service.step plainApp) (boot oneUser Dict.empty) [passwordLogin]).issued
      = [(.mfaTicket, anaTicket)] := by decide
  have hdead : TicketsDead plainApp
      (Run.exec (Service.step plainApp) (boot oneUser Dict.empty) [passwordLogin])
      { now := 1300 } { bearer := some anaTicket } := by
    rintro t k c ⟨⟩ ⟨⟩ - - ⟨-, hexp, -⟩
    exact absurd hexp (by decide)
  obtain ⟨hiff, hrun⟩ := bearer_of_session plainApp oneUser Dict.empty [passwordLogin]
    { now := 1300 } { bearer := some anaTicket } (by
      rintro t c ⟨⟩ ⟨⟩
      exact ⟨.mfaTicket, by rw [hissued]; exact List.mem_singleton_self _⟩)
  refine ⟨hiff.mpr hdead, hrun ?_ (fun _ => hdead) "user-1" ⟨noStepUp_passwordLogin, trivial⟩⟩
  refine ⟨⟨fun t c ht => ?_, fun _ t k c ht => ?_⟩, trivial⟩ <;> cases ht

/-- password だけで受け取った ticket が、bearer として通る。 -/
theorem bearer_of_ticket :
    (Run.exec (Service.step plainApp) (boot oneUser Dict.empty) [passwordLogin]).currentUser
        plainApp { now := 1001 } { bearer := some anaTicket } =
      .ok ⟨"user-1", "ana@example.org", "org-1", "analyst", .jwt⟩ ∧
    (Run.exec (Service.step plainApp) (boot oneUser Dict.empty) [passwordLogin]).issued =
      [(.mfaTicket, anaTicket)] ∧
    anaTicket.scope = some "mfa-verify" ∧
    Run.Along (Service.step plainApp) (fun s ev => Unforged plainApp s ev.2.request)
      (boot oneUser Dict.empty) [passwordLogin] ∧
    Run.Along (Service.step plainApp) (NoStepUp plainApp "user-1") (boot oneUser Dict.empty)
      [passwordLogin] := by
  refine ⟨by rfl, by decide, by decide, ⟨fun t c ht => ?_, trivial⟩,
    ⟨noStepUp_passwordLogin, trivial⟩⟩
  cases ht

end CipherPost.Api
