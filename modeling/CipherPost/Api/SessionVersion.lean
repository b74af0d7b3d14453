import CipherPost.Api.Denylist

/-!
# session の版

session の token は、発行した時の利用者の `session_version` を持ち、`get_current_user` は今の版と比べる。
版は password の変更と `revoke-all` で進むと書かれているので、どちらの後にも前の token が通らないかを、
run に沿って調べる。

* `issued_step` — 新しい session の token は、その利用者の今の版を持つ
* `version_step` — 版を進めるのは `revoke-all` だけで、戻すものは無い
* `SessionsExpire` — 変更の前に発行した session の token は、もう通らない
* `sessionsExpire_iff` — それが成り立つのは、password の変更の前の token に `revoke-all` もかかっているとき
-/

namespace CipherPost.Api

open CipherPost.Core

variable {Tok : Type} (app : App Tok)

/-- session の token `c` を発行する。 -/
def Issues (c : Claims) (s : Service) (ev : Event Tok) : Prop :=
  (s.step app ev).issued = (.session, c) :: s.issued

/-- 既に発行した session の token `c` の利用者に、`change` が起きる。 -/
def Overtakes (change : Service → Event Tok → String → Prop) (c : Claims) (s : Service)
    (ev : Event Tok) : Prop :=
  (Kind.session, c) ∈ s.issued ∧ change s ev c.sub

/-- password の変更か `revoke-all` の前に発行した session の token は、その後は通らない。 -/
def SessionsExpire (s : Service) (evs : List (Event Tok)) : Prop :=
  ∀ pre ev c, pre ++ [ev] <+: evs → Presents app ev c →
    Run.Once (Service.step app)
      (fun s e => Overtakes (ChangesPassword app) c s e ∨ Overtakes (RevokesAll app) c s e) s pre →
    ∀ ctx, (Run.exec (Service.step app) s pre).currentUser app ev.1 ev.2.request ≠ .ok ctx

/-- 版を除いて、token `c` が通る条件。 -/
def AcceptableButVersion (s : Service) (env : Env) (c : Claims) : Prop :=
  c.iat ≤ env.now ∧ env.now < c.exp ∧
    s.revocations.isTokenRevoked env.now env.redisUp (c.jti.getD "") = false ∧
    ∃ user, s.db.users.get? c.sub = some user ∧ user.isActive = true ∧
      (user.orgId = c.org ∨ c.assumed = true)

/-- 発行の記録は、そのままか、一つ増える。増えた session の token は、その利用者の今の版を持つ。 -/
def IssuesCurrent (s s' : Service) : Prop :=
  s'.issued = s.issued ∨ ∃ k c, s'.issued = (k, c) :: s.issued ∧
    (k = .session → ∃ user, s'.db.users.get? c.sub = some user ∧ c.sv = some user.version)

variable {app} {s : Service} {env : Env} {ev : Event Tok} {req : Request Tok}

/-! ## 発行 -/

theorem Quiet.issuesCurrent {s' : Service} (h : Quiet s s') : IssuesCurrent s s' := .inl h.1

theorem issuesCurrent_refl (s : Service) : IssuesCurrent s s := .inl rfl

/-- 利用者の行から作った session の token は、その版を持つ。 -/
theorem issuesCurrent_session {s₁ : Service} {id : String} {user : User} {reply : Tok → Response Tok}
    (hissued : s₁.issued = s.issued) (huser : s₁.db.users.get? id = some user) :
    IssuesCurrent s (grant app s₁ .session (sessionToken app env id user) reply).1 := by
  refine .inr ⟨.session, sessionToken app env id user, ?_, fun _ => ⟨user, huser, rfl⟩⟩
  rw [← hissued]
  rfl

theorem issuesCurrent_finishPasswordLogin {s₁ : Service} {id : String} {user : User}
    (hissued : s₁.issued = s.issued) (huser : s₁.db.users.get? id = some user) :
    IssuesCurrent s (finishPasswordLogin app s₁ env id user).1 := by
  unfold finishPasswordLogin
  split
  · refine .inr ⟨.mfaTicket, _, by rw [← hissued]; rfl, ?_⟩
    rintro ⟨⟩
  · exact issuesCurrent_session hissued huser

theorem issuesCurrent_login {email password : Option String} :
    IssuesCurrent s (login app s env email password).1 := by
  refine login_rule (issuesCurrent_refl s) (fun id user _ _ hfound => ?_)
    fun id user hfound => issuesCurrent_finishPasswordLogin rfl (get?_of_userByEmail hfound)
  have hemail := (Option.filter_eq_some_iff.mp hfound).1
  exact issuesCurrent_session rfl (get?_of_userByEmail hemail)

theorem issuesCurrent_oidcCallback {verified : Except HttpError IdClaims} :
    IssuesCurrent s (oidcCallback app s env verified).1 := by
  have hfinish : ∀ id user,
      IssuesCurrent s (finishPasswordLogin app (s.setUser id user) env id user).1 :=
    fun id user => issuesCurrent_finishPasswordLogin rfl (Dict.get?_set_self _ _ _)
  exact oidcCallback_rule (issuesCurrent_refl s) (fun _ id user _ => hfinish id user)
    fun _ id _ _ => hfinish id _

theorem issuesCurrent_mfaVerify {ticket : Tok} {code recovery : Option String} :
    IssuesCurrent s (mfaVerify app s env ticket code recovery).1 := by
  refine mfaVerify_rule (issuesCurrent_refl s) (fun _ _ _ => .inl rfl)
    (fun _ _ user _ huser _ => issuesCurrent_session rfl huser)
    fun claims _ user remaining _ huser _ => ?_
  -- recovery code を減らしても、版は同じである
  refine .inr ⟨.session, sessionToken app env claims.sub user, rfl, fun _ => ?_⟩
  exact ⟨_, Dict.get?_set_self _ _ _, rfl⟩

theorem issuesCurrent_assumeOrg {orgId reason : Option String} :
    IssuesCurrent s (assumeOrg app s env req orgId reason).1 := by
  have hrefl := issuesCurrent_refl s
  unfold assumeOrg withPlatformAdmin
  refine withUser_rule hrefl fun ctx _ => ?_
  split
  · exact hrefl
  · next user huser =>
    split
    · simp only
      split
      · exact hrefl
      · split
        · exact hrefl
        · exact .inr ⟨.session, _, rfl, fun _ => ⟨user, huser, rfl⟩⟩
    · exact hrefl

theorem issuesCurrent_liveTicket : IssuesCurrent s (liveTicket app s env req).1 := by
  refine withUser_rule (issuesCurrent_refl s) fun ctx _ => .inr ⟨.sseTicket, _, rfl, ?_⟩
  rintro ⟨⟩

/-- **新しい session の token は、その利用者の今の版を持つ。** -/
theorem issued_step (app : App Tok) (s : Service) (ev : Event Tok) : IssuesCurrent s (s.step app ev) := by
  obtain ⟨env, call⟩ := ev
  unfold Service.step handle
  cases call with
  | login email password => exact issuesCurrent_login
  | oidcCallback verified => exact issuesCurrent_oidcCallback
  | mfaVerify ticket code recovery => exact issuesCurrent_mfaVerify
  | assumeOrg req orgId reason => exact issuesCurrent_assumeOrg
  | liveTicket req => exact issuesCurrent_liveTicket
  | mfaEnroll req => exact quiet_mfaEnroll.issuesCurrent
  | mfaConfirm req code => exact quiet_mfaConfirm.issuesCurrent
  | mfaDisable req userId => exact quiet_mfaDisable.issuesCurrent
  | logout req => exact quiet_logout.issuesCurrent
  | revokeAll req userId => exact quiet_revokeAll.issuesCurrent
  | createUser req email role password => exact quiet_createUser.issuesCurrent
  | updateUser req userId role isActive password => exact quiet_updateUser.issuesCurrent
  | createOrg req name => exact quiet_createOrg.issuesCurrent
  | liveStream req token ticket => exact quiet_liveStream.issuesCurrent
  | createApiKey req expiresDays | revokeApiKey req =>
    refine withRole_rule (issuesCurrent_refl s) fun ctx _ => ?_
    try simp only
    repeat' split
    all_goals exact .inl rfl
  | other req => exact withUser_rule (issuesCurrent_refl s) fun ctx _ => issuesCurrent_refl s

/-! ## 版 -/

/-- 版を進めるのは `revoke-all` だけである。 -/
theorem version_step (app : App Tok) (ev : Event Tok) {u : String} {old : User}
    (hold : s.db.users.get? u = some old) :
    ∃ new, (s.step app ev).db.users.get? u = some new ∧
      ((RevokesAll app s ev u ∧ new.version = old.version + 1) ∨
        (¬RevokesAll app s ev u ∧ new.version = old.version)) := by
  by_cases h : RevokesAll app s ev u
  · refine ⟨{ old with sessionVersion := old.version + 1 }, ?_, .inl ⟨h, ?_⟩⟩
    · rw [step_revokesAll h hold]
      exact Dict.get?_set_self _ _ _
    · simp [User.version]
  · obtain ⟨new, hnew, rfl | hchange⟩ := row_step app ev hold
    · exact ⟨_, hnew, .inr ⟨h, rfl⟩⟩
    · refine ⟨new, hnew, .inr ⟨h, ?_⟩⟩
      cases hchange with
      | revoked hrevoked => exact absurd hrevoked h
      | linked | enrolled | confirmed | spent | disabled | updated => rfl

/-- 発行した session の token の版は、利用者の今の版を超えない。 -/
def VersionsBounded (s : Service) : Prop :=
  ∀ c, (Kind.session, c) ∈ s.issued →
    ∃ user v, s.db.users.get? c.sub = some user ∧ c.sv = some v ∧ v ≤ user.version

/-- 発行した session の token は、前からのものか、いま発行されたものである。 -/
theorem mem_issued_step {c : Claims} : (Kind.session, c) ∈ (s.step app ev).issued ↔
    Issues app c s ev ∨ (Kind.session, c) ∈ s.issued := by
  unfold Issues
  rcases issued_step app s ev with h | ⟨k, c', h, -⟩
  · rw [h]
    simp
  · rw [h]
    simp [eq_comm]

theorem version_of_issues {c : Claims} (h : Issues app c s ev) :
    ∃ user, (s.step app ev).db.users.get? c.sub = some user ∧ c.sv = some user.version := by
  unfold Issues at h
  rcases issued_step app s ev with hsame | ⟨k, c', hcons, hversion⟩
  · rw [hsame] at h
    simp at h
  · rw [hcons] at h
    cases h
    exact hversion rfl

theorem versionsBounded_step (h : VersionsBounded s) : VersionsBounded (s.step app ev) := by
  intro c hc
  rcases mem_issued_step.mp hc with hissues | hold
  · obtain ⟨user, huser, hsv⟩ := version_of_issues hissues
    exact ⟨user, user.version, huser, hsv, Nat.le_refl _⟩
  · obtain ⟨user, v, huser, hsv, hle⟩ := h c hold
    obtain ⟨new, hnew, hversion⟩ := version_step app ev huser
    refine ⟨new, v, hnew, hsv, ?_⟩
    rcases hversion with ⟨-, heq⟩ | ⟨-, heq⟩ <;> omega

/-- 発行した session の token `c` が、利用者の今の版を持つ。 -/
def Current (c : Claims) (s : Service) : Prop :=
  (Kind.session, c) ∈ s.issued ∧ ∃ user, s.db.users.get? c.sub = some user ∧
    c.sv = some user.version

/-- **今の版であるのは、いま発行されたものか、前から今の版で `revoke-all` のかからないものである。** -/
theorem current_step {c : Claims} (hinv : VersionsBounded s) : Current c (s.step app ev) ↔
    Issues app c s ev ∨ (Current c s ∧ ¬RevokesAll app s ev c.sub) := by
  constructor
  · rintro ⟨hmem, user, huser, hsv⟩
    rcases mem_issued_step.mp hmem with h | hold
    · exact .inl h
    · obtain ⟨old, v, hrow, hsv', hle⟩ := hinv c hold
      obtain ⟨new, hnew, hversion⟩ := version_step app ev hrow
      cases huser.symm.trans hnew
      cases hsv.symm.trans hsv'
      rcases hversion with ⟨-, heq⟩ | ⟨hno, heq⟩
      · omega
      · exact .inr ⟨⟨hold, old, hrow, heq ▸ hsv⟩, hno⟩
  · rintro (h | ⟨⟨hmem, user, huser, hsv⟩, hno⟩)
    · exact ⟨mem_issued_step.mpr (.inl h), version_of_issues h⟩
    · obtain ⟨new, hnew, hversion⟩ := version_step app ev huser
      refine ⟨mem_issued_step.mpr (.inr hmem), new, hnew, ?_⟩
      rcases hversion with ⟨h, -⟩ | ⟨-, heq⟩
      · exact absurd h hno
      · rw [hsv, heq]

/-- 発行した session の token `c` の版は、利用者の今の版より古い。 -/
def Outdated (c : Claims) (s : Service) : Prop :=
  ∃ user v, s.db.users.get? c.sub = some user ∧ c.sv = some v ∧ v < user.version

theorem outdated_step {c : Claims} (h : Outdated c s) : Outdated c (s.step app ev) := by
  obtain ⟨user, v, huser, hsv, hlt⟩ := h
  obtain ⟨new, hnew, hversion⟩ := version_step app ev huser
  refine ⟨new, v, hnew, hsv, ?_⟩
  rcases hversion with ⟨-, heq⟩ | ⟨-, heq⟩ <;> omega

/-- `revoke-all` は、それまでに発行した session の token を古くする。 -/
theorem outdated_of_revokesAll {c : Claims} (hinv : VersionsBounded s)
    (h : Overtakes (RevokesAll app) c s ev) : Outdated c (s.step app ev) := by
  obtain ⟨user, v, huser, hsv, hle⟩ := hinv c h.1
  obtain ⟨new, hnew, hversion⟩ := version_step app ev huser
  refine ⟨new, v, hnew, hsv, ?_⟩
  rcases hversion with ⟨-, heq⟩ | ⟨hno, -⟩
  · omega
  · exact absurd h.2 hno

/-! ## run -/

theorem versionsBounded_exec (app : App Tok) (users : Dict String User) (orgs : Dict String Organization)
    (evs : List (Event Tok)) :
    VersionsBounded (Run.exec (Service.step app) (boot users orgs) evs) :=
  Run.invariant (fun _ _ h => versionsBounded_step h) evs
    fun _ hc => absurd hc List.not_mem_nil

theorem current_exec (users : Dict String User) (orgs : Dict String Organization)
    (pre : List (Event Tok)) (c : Claims) :
    Current c (Run.exec (Service.step app) (boot users orgs) pre) ↔
      Run.Since (Service.step app) (Issues app c) (fun s e => RevokesAll app s e c.sub)
        (boot users orgs) pre := by
  refine Run.since_iff (I := VersionsBounded) (fun _ hc => absurd hc List.not_mem_nil)
    (fun _ _ h => versionsBounded_step h) ?_ (fun s e h => current_step h) pre
  rintro ⟨hmem, -⟩
  exact absurd hmem List.not_mem_nil

theorem outdated_exec {users : Dict String User} {orgs : Dict String Organization}
    {pre : List (Event Tok)} {c : Claims}
    (h : Run.Once (Service.step app) (fun s e => Overtakes (RevokesAll app) c s e)
      (boot users orgs) pre) :
    Outdated c (Run.exec (Service.step app) (boot users orgs) pre) := by
  obtain ⟨before, e, ⟨post, rfl⟩, hrevoked⟩ := h
  rw [Run.exec_append]
  refine Run.invariant (fun _ _ h => outdated_step h) post ?_
  rw [Run.exec_append]
  exact outdated_of_revokesAll (versionsBounded_exec app users orgs before) hrevoked

/-- 前に発行した session の token は、その後も発行した記録にある。 -/
theorem mem_issued_of_once {change : Service → Event Tok → String → Prop} {s₀ : Service}
    {pre : List (Event Tok)} {c : Claims}
    (h : Run.Once (Service.step app) (fun s e => Overtakes change c s e) s₀ pre) :
    (Kind.session, c) ∈ (Run.exec (Service.step app) s₀ pre).issued := by
  obtain ⟨before, e, ⟨post, rfl⟩, hmem, -⟩ := h
  rw [Run.exec_append]
  refine Run.invariant (I := fun s : Service => (Kind.session, c) ∈ s.issued)
    (fun _ _ h => mem_issued_step.mpr (.inr h)) post ?_
  rw [Run.exec_append]
  exact mem_issued_step.mpr (.inr hmem)

/-- 発行した session の token が通るのは、版の他の条件を満たし、今の版を持つときである。 -/
theorem Presents.isOk_iff_current {c : Claims} (h : Presents app ev c) (hinv : VersionsBounded s)
    (hmem : (Kind.session, c) ∈ s.issued) :
    (∃ ctx, s.currentUser app ev.1 ev.2.request = .ok ctx) ↔
      AcceptableButVersion s ev.1 c ∧ Current c s := by
  obtain ⟨old, v, hold, hsv, -⟩ := hinv c hmem
  have hgetD : c.sv.getD 1 = v := by rw [hsv]; rfl
  rw [h.isOk_iff]
  constructor
  · rintro ⟨⟨hiat, hexp, user, huser, hactive, horg, hversion⟩, hseen⟩
    refine ⟨⟨hiat, hexp, hseen, user, huser, hactive, horg⟩, hmem, user, huser, ?_⟩
    rw [hsv, ← hversion, hgetD]
  · rintro ⟨⟨hiat, hexp, hseen, user, huser, hactive, horg⟩, -, user', huser', hversion⟩
    cases huser.symm.trans huser'
    refine ⟨⟨hiat, hexp, user, huser, hactive, horg, ?_⟩, hseen⟩
    rw [hgetD]
    exact Option.some.inj (hsv.symm.trans hversion)

/--
始めの状態からの run で、password の変更か `revoke-all` の前に発行した session の token がその後は通らない
のは、password の変更の前に発行し、版の他の条件を満たす token を確かめるどの呼び出しでも、その発行の後に
利用者に `revoke-all` がかかっているとき、かつそのときに限る。
-/
theorem sessionsExpire_iff (app : App Tok) (users : Dict String User)
    (orgs : Dict String Organization) (evs : List (Event Tok)) :
    SessionsExpire app (boot users orgs) evs ↔
      ∀ pre ev c, pre ++ [ev] <+: evs → Presents app ev c →
        Run.Once (Service.step app) (fun s e => Overtakes (ChangesPassword app) c s e)
          (boot users orgs) pre →
        AcceptableButVersion (Run.exec (Service.step app) (boot users orgs) pre) ev.1 c →
          ¬Run.Since (Service.step app) (Issues app c) (fun s e => RevokesAll app s e c.sub)
            (boot users orgs) pre := by
  constructor
  · intro h pre ev c hpre hpresents hchange hrest hsince
    have hinv := versionsBounded_exec app users orgs pre
    have hcurrent := (current_exec users orgs pre c).mpr hsince
    obtain ⟨ctx, hctx⟩ := (hpresents.isOk_iff_current hinv hcurrent.1).mpr ⟨hrest, hcurrent⟩
    obtain ⟨before, e, hbefore, hover⟩ := hchange
    exact h pre ev c hpre hpresents ⟨before, e, hbefore, .inl hover⟩ ctx hctx
  · rintro h pre ev c hpre hpresents ⟨before, e, hbefore, hover⟩ ctx hctx
    have hinv := versionsBounded_exec app users orgs pre
    rcases hover with hover | hover
    · have hmem := mem_issued_of_once ⟨before, e, hbefore, hover⟩
      obtain ⟨hrest, hcurrent⟩ := (hpresents.isOk_iff_current hinv hmem).mp ⟨ctx, hctx⟩
      exact h pre ev c hpre hpresents ⟨before, e, hbefore, hover⟩ hrest
        ((current_exec users orgs pre c).mp hcurrent)
    · -- `revoke-all` の後は、いつも版が古い
      have hmem := mem_issued_of_once ⟨before, e, hbefore, hover⟩
      obtain ⟨-, -, user, huser, hsv⟩ := (hpresents.isOk_iff_current hinv hmem).mp ⟨ctx, hctx⟩
      obtain ⟨user', v, huser', hsv', hlt⟩ := outdated_exec ⟨before, e, hbefore, hover⟩
      cases huser.symm.trans huser'
      cases hsv.symm.trans hsv'
      exact Nat.lt_irrefl _ hlt

/-! ## password の変更 -/

/-- 盗まれた session に気づいて password を変えた後、その token が出される。 -/
def passwordChange : List (Event Claims) :=
  [anaLogin,
   ({ now := 1010 }, .updateUser { bearer := some anaSession } "user-1" none none
     (some "a new password")),
   ({ now := 1020 }, .other { bearer := some anaSession })]

/-- password の変更の前に発行した session の token が、変更の後も通る。 -/
theorem not_sessionsExpire_passwordChange :
    ¬SessionsExpire plainApp (boot plainUser Dict.empty) passwordChange := by
  intro h
  refine h (passwordChange.take 2) _ anaSession List.prefix_rfl ⟨?_, rfl, _, rfl, rfl⟩ ?_
    ⟨"user-1", "ana@example.org", "org-1", "admin", .jwt⟩ rfl
  · rintro req token ticket ⟨⟩
  · exact ⟨[anaLogin], _, List.prefix_rfl, .inl ⟨List.mem_singleton_self _, _, _, _, _, rfl,
      by decide, rfl⟩⟩

end CipherPost.Api
