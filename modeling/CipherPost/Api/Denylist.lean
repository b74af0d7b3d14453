import CipherPost.Api.Records

/-!
# 取り消した token

`revoke_token` は、その時の Redis の様子によって Redis か process の集合に記し、`is_token_revoked` は
その時に見えるものだけを見る。logout した token がその後も退けられるかを、run に沿って調べる。

* `Permanent` — 取り消した token は、期限までの間、二度と通らない
* `Visible` — 取り消しが、確かめる時に見える
* `permanent_iff` — `Permanent` であるのは、取り消した token を確かめるどの時にも見えるとき
-/

namespace CipherPost.Api

open CipherPost.Core

variable {Tok : Type} (app : App Tok)

/-- 呼び出しが、bearer として payload `c` の token を `get_current_user` に見せる。 -/
def Presents (ev : Event Tok) (c : Claims) : Prop :=
  (∀ req token ticket, ev.2 = .liveStream req token ticket → ticket.or token = none) ∧
    ev.2.request.apiKey = "" ∧ ∃ t, ev.2.request.bearer = some t ∧ app.jwt.verify t = some c

/-- 前に jti を取り消された token を、期限の前に確かめる。 -/
def Rechecks (s : Service) (pre : List (Event Tok)) (ev : Event Tok) (c : Claims) : Prop :=
  Presents app ev c ∧ ev.1.now < c.exp ∧
    Run.Once (Service.step app) (fun s ev => ∃ ttl, revocation app s ev = some (c.jti.getD "", ttl))
      s pre

/-- 取り消した token は、期限までの間、二度と通らない。 -/
def Permanent (s : Service) (evs : List (Event Tok)) : Prop :=
  ∀ pre ev c, pre ++ [ev] <+: evs → Rechecks app s pre ev c →
    ∀ ctx, (Run.exec (Service.step app) s pre).currentUser app ev.1 ev.2.request ≠ .ok ctx

/-! ## 記すことと、見えること -/

/-- `jti` を、`now` より後まで残るものとして Redis に記す。 -/
def Shares (jti : String) (now : Nat) (s : Service) (ev : Event Tok) : Prop :=
  ∃ ttl, revocation app s ev = some (jti, ttl) ∧ ev.1.redisUp = true ∧ now < ev.1.now + max 60 ttl

/-- `jti` の Redis の記録を、`now` までに切れるものにする。 -/
def Shortens (jti : String) (now : Nat) (s : Service) (ev : Event Tok) : Prop :=
  ∃ ttl, revocation app s ev = some (jti, ttl) ∧ ev.1.redisUp = true ∧ ev.1.now + max 60 ttl ≤ now

/-- Redis が止まっていて、`jti` を process の集合に記す。 -/
def Remembers (jti : String) (s : Service) (ev : Event Tok) : Prop :=
  ∃ ttl, revocation app s ev = some (jti, ttl) ∧ ev.1.redisUp = false

/-- 他の jti を記して集合があふれ、`jti` を失う。 -/
def Forgets (jti : String) (s : Service) (ev : Event Tok) : Prop :=
  ∃ jti' ttl, revocation app s ev = some (jti', ttl) ∧ ev.1.redisUp = false ∧ jti' ≠ "" ∧
    jti' ≠ jti ∧ Revocations.Overflows s.revocations.memory jti'

/--
取り消しが見える。Redis が動いていて、動いている間の取り消しが残っているか、止まっている間の取り消しの
後に集合があふれていない。
-/
def Visible (s : Service) (pre : List (Event Tok)) (env : Env) (jti : String) : Prop :=
  jti ≠ "" ∧
    ((env.redisUp = true ∧
        Run.Since (Service.step app) (Shares app jti env.now) (Shortens app jti env.now) s pre) ∨
      Run.Since (Service.step app) (Remembers app jti) (Forgets app jti) s pre)

variable {app} {s : Service} {env : Env} {ev : Event Tok}

/-! ## 記録が残る間 -/

/-- Redis に、`now` より後まで残る記録がある。 -/
def SharedPast (jti : String) (now : Nat) (s : Service) : Prop :=
  ∃ expires, s.revocations.redis.get? jti = some expires ∧ now < expires

theorem isTokenRevoked_iff {s : Service} {now : Nat} {redisUp : Bool} {jti : String} :
    s.revocations.isTokenRevoked now redisUp jti = true ↔
      jti ≠ "" ∧ ((redisUp = true ∧ SharedPast jti now s) ∨ jti ∈ s.revocations.memory) := by
  unfold Revocations.isTokenRevoked SharedPast
  by_cases hjti : jti = ""
  · simp [hjti]
  · rw [if_neg hjti]
    cases hget : s.revocations.redis.get? jti with
    | none => simp [hjti]
    | some expires => simp [hjti]

theorem sharedPast_step {jti : String} {now : Nat} (hjti : jti ≠ "") :
    SharedPast jti now (s.step app ev) ↔
      Shares app jti now s ev ∨ (SharedPast jti now s ∧ ¬Shortens app jti now s ev) := by
  unfold SharedPast Shares Shortens
  rw [revocations_step]
  cases hr : revocation app s ev with
  | none => simp
  | some r =>
    obtain ⟨jti', ttl⟩ := r
    by_cases hempty : jti' = ""
    · have hne : jti' ≠ jti := fun h => hjti (h ▸ hempty)
      simp [Revocations.revokeToken, hempty, Ne.symm hjti]
    · cases hup : ev.1.redisUp with
      | false => simp [Revocations.revokeToken, hempty]
      | true =>
        by_cases heq : jti' = jti
        · subst heq
          simp only [Revocations.revokeToken, hempty, if_false, if_true, Dict.get?_set_self]
          simp
        · simp [Revocations.revokeToken, hempty, Dict.get?_set_of_ne _ _ heq, heq]

theorem memory_step {jti : String} (hjti : jti ≠ "") :
    jti ∈ (s.step app ev).revocations.memory ↔
      Remembers app jti s ev ∨ (jti ∈ s.revocations.memory ∧ ¬Forgets app jti s ev) := by
  unfold Remembers Forgets
  rw [revocations_step]
  cases hr : revocation app s ev with
  | none => simp
  | some r =>
    obtain ⟨jti', ttl⟩ := r
    by_cases hempty : jti' = ""
    · simp [Revocations.revokeToken, hempty, Ne.symm hjti]
    · cases hup : ev.1.redisUp with
      | true => simp [Revocations.revokeToken, hempty]
      | false =>
        simp only [Revocations.revokeToken, hempty, if_false, Bool.false_eq_true,
          Revocations.mem_remember_iff]
        by_cases heq : jti' = jti
        · subst heq
          simp
        · simp [heq, Ne.symm heq, hempty]

/-- 始めの状態からの run の後、確かめる時に退けられるのは、取り消しが見えるときである。 -/
theorem isTokenRevoked_exec (users : Dict String User) (orgs : Dict String Organization)
    (pre : List (Event Tok)) (env : Env) (jti : String) :
    (Run.exec (Service.step app) (boot users orgs) pre).revocations.isTokenRevoked env.now
      env.redisUp jti = true ↔ Visible app (boot users orgs) pre env jti := by
  rw [isTokenRevoked_iff, Visible]
  refine and_congr_right fun hjti => or_congr (and_congr_right fun _ => ?_) ?_
  · refine Run.since_iff (I := fun _ => True) (R := SharedPast jti env.now) trivial
      (fun _ _ _ => trivial) ?_ (fun s ev _ => sharedPast_step hjti) pre
    rintro ⟨expires, hget, -⟩
    cases hget
  · exact Run.since_iff (I := fun _ => True) (R := fun s : Service => jti ∈ s.revocations.memory)
      trivial (fun _ _ _ => trivial) List.not_mem_nil (fun s ev _ => memory_step hjti) pre

/-- bearer を見せる呼び出しが通るのは、その条件を満たし、拒否されていないときである。 -/
theorem Presents.isOk_iff {c : Claims} (h : Presents app ev c) :
    (∃ ctx, s.currentUser app ev.1 ev.2.request = .ok ctx) ↔
      Acceptable s.db ev.1.now c ∧
        s.revocations.isTokenRevoked ev.1.now ev.1.redisUp (c.jti.getD "") = false := by
  obtain ⟨-, hkey, t, hbearer, hverify⟩ := h
  unfold Service.currentUser getCurrentUser
  rw [if_neg (by simp [hkey]), hbearer]
  exact jwtUser_isOk_iff app.jwt hverify

/--
始めの状態からの run で、取り消した token が期限までの間に二度と通らないのは、取り消した token を確かめる
どの呼び出しでも、他の条件を満たす限り取り消しが見えるとき、かつそのときに限る。
-/
theorem permanent_iff (app : App Tok) (users : Dict String User) (orgs : Dict String Organization)
    (evs : List (Event Tok)) :
    Permanent app (boot users orgs) evs ↔
      ∀ pre ev c, pre ++ [ev] <+: evs → Rechecks app (boot users orgs) pre ev c →
        Acceptable (Run.exec (Service.step app) (boot users orgs) pre).db ev.1.now c →
          Visible app (boot users orgs) pre ev.1 (c.jti.getD "") := by
  constructor
  · intro h pre ev c hpre hre hacc
    rw [← isTokenRevoked_exec]
    by_contra hseen
    obtain ⟨ctx, hctx⟩ := hre.1.isOk_iff.mpr ⟨hacc, Bool.eq_false_iff.mpr hseen⟩
    exact h pre ev c hpre hre ctx hctx
  · intro h pre ev c hpre hre ctx hctx
    obtain ⟨hacc, hseen⟩ := hre.1.isOk_iff.mp ⟨ctx, hctx⟩
    rw [(isTokenRevoked_exec users orgs pre ev.1 _).mpr (h pre ev c hpre hre hacc)] at hseen
    cases hseen

/-! ## Redis が止まる -/

/-- logout した後、Redis が止まっている間に同じ token を出す。 -/
def logoutThenOutage : List (Event Claims) :=
  [anaLogin,
   ({ now := 1010 }, .logout { bearer := some anaSession }),
   ({ now := 1020, redisUp := false }, .other { bearer := some anaSession })]

/-- Redis の動いている間に取り消した token が、Redis の止まった同じ process で通る。 -/
theorem not_permanent_logoutThenOutage :
    ¬Permanent plainApp (boot plainUser Dict.empty) logoutThenOutage := by
  intro h
  refine h (logoutThenOutage.take 2) _ anaSession List.prefix_rfl ⟨⟨?_, rfl, _, rfl, rfl⟩, ?_, ?_⟩
    ⟨"user-1", "ana@example.org", "org-1", "admin", .jwt⟩ rfl
  · rintro req token ticket ⟨⟩
  · decide
  · exact ⟨[anaLogin], ({ now := 1010 }, .logout { bearer := some anaSession }), List.prefix_rfl,
      86390, rfl⟩

end CipherPost.Api
