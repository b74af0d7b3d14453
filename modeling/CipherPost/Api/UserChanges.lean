import CipherPost.Api.TokenScope

/-!
# 利用者の行の変わり方

呼び出し一つが利用者の表に何をするかを、一度だけ場合に分ける。MFA、org の境、`session_version` の性質は、
どれもここから導く。

* `Enrolls`・`Confirms`・`RevokesAll`・`ChangesPassword` — 行を変える呼び出し
* `RowChange` — 行の変え方。変えた口と、その口が確かめたこと
* `changes_step` — 表は、そのままか、行が一つ変わるか、行が一つ増える
-/

namespace CipherPost.Api

open CipherPost.Core

variable {Tok : Type} (app : App Tok)

/-! ## 行を変える呼び出し -/

/-- 利用者 `u` の `mfa_enroll` が、新しい secret を書く。 -/
def Enrolls (s : Service) (ev : Event Tok) (u : String) : Prop :=
  ∃ req user, ev.2 = .mfaEnroll req ∧ Caller app s ev u ∧ app.settings.mfaEnrollAllow = true ∧
    s.db.users.get? u = some user ∧ (app.crypto.encryptSecret ev.1.nonce ev.1.mfaSecret).isSome

/-- 利用者 `u` の `mfa_confirm` に、保存された secret `enc` の正しい code が出される。 -/
def Confirms (s : Service) (ev : Event Tok) (u enc : String) : Prop :=
  ∃ req code user secret, ev.2 = .mfaConfirm req code ∧ Caller app s ev u ∧
    s.db.users.get? u = some user ∧ user.mfaSecretEnc = some enc ∧
    app.crypto.decryptSecret enc = some secret ∧
    verifyCode app.crypto secret (code.getD "") ev.1.now = true

/-- 利用者 `u` に対する `revoke-all` が認められる。 -/
def RevokesAll (s : Service) (ev : Event Tok) (u : String) : Prop :=
  ∃ req userId ctx user, ev.2 = .revokeAll req userId ∧ s.currentUser app ev.1 req = .ok ctx ∧
    (userId.filter (· ≠ "")).getD ctx.userId = u ∧ s.db.users.get? u = some user ∧
    (u = ctx.userId ∨ ctx.role = "admin") ∧ (user.orgId = ctx.orgId ∨ ctx.role = "admin")

/-- 利用者 `u` に対する `update_user` が認められ、password を書き換える。 -/
def ChangesPassword (s : Service) (ev : Event Tok) (u : String) : Prop :=
  ∃ req role isActive password, ev.2 = .updateUser req u role isActive (some password) ∧
    password ≠ "" ∧ (handle app s ev.1 ev.2).2.isOk = true

/-- 呼び出し一つが、利用者 `id` の行 `old` を書き換える仕方。 -/
inductive RowChange (s : Service) (ev : Event Tok) (id : String) (old : User) : User → Prop where
  | linked {verified} (sub : Option String) (hcall : ev.2 = .oidcCallback verified) :
    RowChange s ev id old { old with oidcSub := sub }
  | enrolled (enc : String) (codes : List String) (h : Enrolls app s ev id) :
    RowChange s ev id old { old with mfaSecretEnc := some enc, mfaRecovery := some codes }
  | confirmed (enc : String) (h : Confirms app s ev id enc) :
    RowChange s ev id old { old with mfaEnabled := true }
  | spent {ticket code recovery} (remaining : List String)
      (hcall : ev.2 = .mfaVerify ticket code recovery) :
    RowChange s ev id old { old with mfaRecovery := some remaining }
  | disabled {req userId ctx} (hcall : ev.2 = .mfaDisable req userId)
      (hctx : s.currentUser app ev.1 ev.2.request = .ok ctx) (horg : old.orgId = ctx.orgId) :
    RowChange s ev id old { old with mfaEnabled := false, mfaSecretEnc := none, mfaRecovery := none }
  | revoked (h : RevokesAll app s ev id) :
    RowChange s ev id old { old with sessionVersion := old.version + 1 }
  | updated {req role isActive password ctx} (newRole : Role) (active : Bool) (hash : String)
      (hcall : ev.2 = .updateUser req id role isActive password)
      (hctx : s.currentUser app ev.1 ev.2.request = .ok ctx) (horg : old.orgId = ctx.orgId) :
    RowChange s ev id old { old with role := newRole, isActive := active, passwordHash := hash }

/-- 利用者の表の変わり方。 -/
inductive Changes (s : Service) (ev : Event Tok) (s' : Service) : Prop where
  | kept (h : s'.db.users = s.db.users)
  | changed (id : String) (old new : User) (hold : s.db.users.get? id = some old)
      (h : RowChange app s ev id old new) (hset : s'.db.users = s.db.users.set id new)
  /-- 新しい行。呼んだ者がいれば、その org のものである。 -/
  | created (id : String) (new : User) (hfresh : s.db.users.get? id = none)
      (henabled : new.mfaEnabled = false)
      (horg : ∀ ctx, s.currentUser app ev.1 ev.2.request = .ok ctx → new.orgId = ctx.orgId)
      (hset : s'.db.users = s.db.users.set id new)

variable {app} {s : Service} {env : Env} {ev : Event Tok} {req : Request Tok}

theorem changes_refl (app : App Tok) (s : Service) (ev : Event Tok) : Changes app s ev s := .kept rfl

theorem changes_of_db {s' : Service} (h : s'.db = s.db) : Changes app s ev s' := .kept (by rw [h])

/-- header の無い要求は、誰としても通らない。 -/
theorem currentUser_anonymous (s : Service) (env : Env) (ctx : AuthContext) :
    s.currentUser app env {} ≠ .ok ctx := by
  unfold Service.currentUser getCurrentUser
  simp [jwtUser]

/-! ## 口ごとの変わり方 -/

theorem changes_mfaEnroll : Changes app s (env, .mfaEnroll req) (mfaEnroll app s env req).1 := by
  have hrefl := changes_refl app s (env, .mfaEnroll req)
  refine withUser_rule hrefl fun ctx hctx => ?_
  split
  · exact hrefl
  · next hallow =>
    split
    · exact hrefl
    · next user huser =>
      split
      · exact hrefl
      · next enc henc =>
        have hallow : app.settings.mfaEnrollAllow = true := by simpa using hallow
        refine .changed ctx.userId user _ huser (.enrolled enc _ ?_) rfl
        exact ⟨req, user, rfl, ⟨ctx, hctx, rfl⟩, hallow, huser, by rw [henc]; rfl⟩

theorem changes_mfaConfirm {code : Option String} :
    Changes app s (env, .mfaConfirm req code) (mfaConfirm app s env req code).1 := by
  have hrefl := changes_refl app s (env, .mfaConfirm req code)
  refine withUser_rule hrefl fun ctx hctx => ?_
  split
  · exact hrefl
  · next user huser =>
    split
    · exact hrefl
    · next enc henc =>
      split
      · exact hrefl
      · next secret hsecret =>
        split
        · next hverify =>
          have henc : user.mfaSecretEnc = some enc := (Option.filter_eq_some_iff.mp henc).1
          refine .changed ctx.userId user _ huser (.confirmed enc ?_) rfl
          exact ⟨req, code, user, secret, rfl, ⟨ctx, hctx, rfl⟩, huser, henc, hsecret, hverify⟩
        · exact hrefl

theorem changes_mfaDisable {userId : Option String} :
    Changes app s (env, .mfaDisable req userId) (mfaDisable app s env req userId).1 := by
  have hrefl := changes_refl app s (env, .mfaDisable req userId)
  refine withRole_rule hrefl fun ctx hctx => ?_
  simp only
  split
  · exact hrefl
  · next user huser =>
    split
    · exact hrefl
    · next horg =>
      exact .changed _ user _ huser (.disabled rfl hctx (Decidable.not_not.mp horg)) rfl

theorem changes_revokeAll {userId : Option String} :
    Changes app s (env, .revokeAll req userId) (revokeAll app s env req userId).1 := by
  have hrefl := changes_refl app s (env, .revokeAll req userId)
  refine withUser_rule hrefl fun ctx hctx => ?_
  simp only
  split
  · exact hrefl
  · next hself =>
    split
    · exact hrefl
    · next user huser =>
      split
      · exact hrefl
      · next horg =>
        rw [Decidable.not_and_iff_not_or_not, Decidable.not_not, Decidable.not_not] at hself horg
        refine .changed _ user _ huser (.revoked ?_) rfl
        exact ⟨req, userId, ctx, user, rfl, hctx, rfl, huser, hself, horg⟩

theorem changes_createUser {email role password : Option String} :
    Changes app s (env, .createUser req email role password)
      (createUser app s env req email role password).1 := by
  have hrefl := changes_refl app s (env, .createUser req email role password)
  refine withRole_rule hrefl fun ctx hctx => ?_
  simp only
  split
  · exact hrefl
  · split
    · exact hrefl
    · next newRole _ =>
      split
      · exact hrefl
      · split
        · exact hrefl
        · split
          · exact hrefl
          · next hfresh =>
            refine .created _ _ (by simpa using hfresh) rfl (fun ctx' hctx' => ?_) rfl
            cases hctx.symm.trans hctx'
            rfl

theorem changes_updateUser {userId : String} {role password : Option String}
    {isActive : Option Bool} :
    Changes app s (env, .updateUser req userId role isActive password)
      (updateUser app s env req userId role isActive password).1 := by
  have hrefl := changes_refl app s (env, .updateUser req userId role isActive password)
  refine withRole_rule hrefl fun ctx hctx => ?_
  split
  · exact hrefl
  · next user huser =>
    split
    · exact hrefl
    · next horg =>
      split
      · exact hrefl
      · split
        · exact hrefl
        · simp only
          split
          · exact hrefl
          · refine .changed userId user _ huser ?_ rfl
            exact .updated _ _ _ rfl hctx (Decidable.not_not.mp horg)

theorem db_finishPasswordLogin {s₁ : Service} {id : String} {user : User} :
    (finishPasswordLogin app s₁ env id user).1.db = s₁.db := by
  unfold finishPasswordLogin
  split <;> rfl

theorem db_login {email password : Option String} :
    (login app s env email password).1.db = s.db := by
  refine login_rule (P := fun s' => s'.db = s.db) rfl (fun _ _ _ _ _ => rfl) fun id user _ => ?_
  rw [db_finishPasswordLogin]

theorem changes_login {email password : Option String} :
    Changes app s (env, .login email password) (login app s env email password).1 :=
  changes_of_db db_login

theorem of_provision {db : Database} {claims : IdClaims} {sub email id : String} {user : User}
    (h : provision app db env claims sub email = some (id, user)) :
    db.users.get? id = none ∧ user.mfaEnabled = false := by
  unfold provision at h
  simp only at h
  split at h
  · split at h
    · cases h
    · next hfresh =>
      cases h
      exact ⟨by simpa using hfresh, rfl⟩
  · cases h

theorem get?_of_oidcUser {db : Database} {sub email id : String} {user : User}
    (h : oidcUser db sub email = .ok (some (id, user))) : db.users.get? id = some user := by
  unfold oidcUser at h
  split at h
  · next p hfind =>
    cases h
    exact (Dict.mem_entries_iff _ _ _).mp (List.mem_of_find?_eq_some hfind)
  · split at h
    · cases h
    · next p hfind =>
      split at h
      · cases h
        exact get?_of_userByEmail hfind
      · cases h

theorem changes_oidcCallback {verified : Except HttpError IdClaims} :
    Changes app s (env, .oidcCallback verified) (oidcCallback app s env verified).1 := by
  refine oidcCallback_rule (changes_refl app s _) (fun claims id user hprovision => ?_)
    fun claims id user hfound => ?_
  · obtain ⟨hfresh, henabled⟩ := of_provision hprovision
    refine .created id user hfresh henabled (fun ctx hctx => ?_) ?_
    · exact absurd hctx (currentUser_anonymous s env ctx)
    · rw [db_finishPasswordLogin]
      rfl
  · refine .changed id user { user with oidcSub := user.oidcSub.or (some claims.sub) }
      (get?_of_oidcUser hfound) (.linked _ rfl) ?_
    rw [db_finishPasswordLogin]
    rfl

theorem changes_mfaVerify {ticket : Tok} {code recovery : Option String} :
    Changes app s (env, .mfaVerify ticket code recovery)
      (mfaVerify app s env ticket code recovery).1 :=
  mfaVerify_rule (changes_refl app s _) (fun _ _ _ => .kept rfl) (fun _ _ _ _ _ _ => .kept rfl)
    fun claims _ user remaining _ huser _ =>
      .changed claims.sub user _ huser (.spent remaining rfl) rfl

theorem db_liveStream {token ticket : Option Tok} :
    (liveStream app s env req token ticket).1.db = s.db := by
  unfold liveStream
  split
  · exact withUser_rule (P := fun s' => s'.db = s.db) rfl fun ctx _ => rfl
  · simp only
    repeat' split
    all_goals rfl

theorem changes_liveStream {token ticket : Option Tok} :
    Changes app s (env, .liveStream req token ticket) (liveStream app s env req token ticket).1 :=
  changes_of_db db_liveStream

/-- **呼び出し一つで、利用者の表は、そのままか、行が一つ変わるか、行が一つ増える。** -/
theorem changes_step (app : App Tok) (s : Service) (ev : Event Tok) : Changes app s ev (s.step app ev) := by
  obtain ⟨env, call⟩ := ev
  unfold Service.step handle
  cases call with
  | login email password => exact changes_login
  | oidcCallback verified => exact changes_oidcCallback
  | mfaEnroll req => exact changes_mfaEnroll
  | mfaConfirm req code => exact changes_mfaConfirm
  | mfaVerify ticket code recovery => exact changes_mfaVerify
  | mfaDisable req userId => exact changes_mfaDisable
  | revokeAll req userId => exact changes_revokeAll
  | createUser req email role password => exact changes_createUser
  | updateUser req userId role isActive password => exact changes_updateUser
  | logout req =>
    refine .kept (withUser_rule (P := fun s' => s'.db.users = s.db.users) rfl fun ctx _ => ?_)
    split <;> rfl
  | createApiKey req expiresDays =>
    refine .kept (withRole_rule (P := fun s' => s'.db.users = s.db.users) rfl fun ctx _ => ?_)
    simp only
    repeat' split
    all_goals rfl
  | revokeApiKey req keyId =>
    refine .kept (withRole_rule (P := fun s' => s'.db.users = s.db.users) rfl fun ctx _ => ?_)
    repeat' split
    all_goals rfl
  | createOrg req name =>
    refine .kept (withPlatformAdmin_rule (P := fun s' => s'.db.users = s.db.users) rfl
      fun ctx _ _ => ?_)
    simp only
    repeat' split
    all_goals rfl
  | assumeOrg req orgId reason =>
    refine .kept (withPlatformAdmin_rule (P := fun s' => s'.db.users = s.db.users) rfl
      fun ctx _ _ => ?_)
    simp only
    repeat' split
    all_goals rfl
  | liveTicket req =>
    exact .kept (withUser_rule (P := fun s' => s'.db.users = s.db.users) rfl fun ctx _ => rfl)
  | liveStream req token ticket => exact changes_liveStream
  | other req =>
    exact .kept (withUser_rule (P := fun s' => s'.db.users = s.db.users) rfl fun ctx _ => rfl)

/-- 認められた `revoke-all` は、`session_version` を一つ進める。 -/
theorem step_revokesAll {u : String} {old : User} (h : RevokesAll app s ev u)
    (hold : s.db.users.get? u = some old) :
    s.step app ev = s.setUser u { old with sessionVersion := old.version + 1 } := by
  obtain ⟨env, call⟩ := ev
  obtain ⟨req, userId, ctx, user, hcall, hctx, rfl, huser, hself, horg⟩ := h
  cases hcall
  cases hold.symm.trans huser
  have hself : ¬((userId.filter (· ≠ "")).getD ctx.userId ≠ ctx.userId ∧ ctx.role ≠ "admin") := by
    rwa [Decidable.not_and_iff_not_or_not, Decidable.not_not, Decidable.not_not]
  have horg : ¬(old.orgId ≠ ctx.orgId ∧ ctx.role ≠ "admin") := by
    rwa [Decidable.not_and_iff_not_or_not, Decidable.not_not, Decidable.not_not]
  simp only [Service.step, handle, revokeAll, withUser, hctx]
  rw [if_neg hself]
  simp only [huser]
  rw [if_neg horg]

/-- ある利用者の行は、そのままか、`RowChange` のどれかで変わる。 -/
theorem row_step (app : App Tok) (ev : Event Tok) {u : String} {old : User}
    (hold : s.db.users.get? u = some old) :
    ∃ new, (s.step app ev).db.users.get? u = some new ∧
      (new = old ∨ RowChange app s ev u old new) := by
  cases changes_step app s ev with
  | kept h => exact ⟨old, h ▸ hold, .inl rfl⟩
  | changed id row new hrow h hset =>
    rw [hset, Dict.get?_set]
    split
    · next heq =>
      cases hold.symm.trans (heq ▸ hrow)
      exact ⟨new, rfl, .inr (heq ▸ h)⟩
    · exact ⟨old, hold, .inl rfl⟩
  | created id new hfresh henabled horg hset =>
    refine ⟨old, ?_, .inl rfl⟩
    rw [hset, Dict.get?_set_of_ne]
    · exact hold
    · rintro rfl
      rw [hfresh] at hold
      cases hold

/-! ## 素の利用者 -/

/-- MFA を有効にしていない利用者が一人いる。 -/
def plainUser : Dict String User :=
  Dict.empty.set "user-1"
    { orgId := "org-1", email := "ana@example.org", passwordHash := "correct horse", role := .admin }

/-- その利用者の password による login と、受け取る session の token。 -/
def anaLogin : Event Claims :=
  ({ now := 1000, tokenHex := fun _ => "a0" }, .login (some "ana@example.org") (some "correct horse"))

def anaSession : Claims := createAccessToken 1000 "a0" "user-1" "org-1" "admin" 86400 {} 1

end CipherPost.Api
