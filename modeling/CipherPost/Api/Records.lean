import CipherPost.Api.UserChanges
import CipherPost.Core.SingleUse

/-!
# process の記録の変わり方

拒否表と、使った ticket の記録は、それぞれ決まった口だけが変える。呼び出し一つがこれらに何をするかを、
一度だけ場合に分ける。

* `revocation` — 呼び出しが `revoke_token` に渡す jti と ttl
* `attempt` — 呼び出しが `consume_mfa_ticket` か `consume_sse_ticket` に渡す ticket
* `revocations_step`・`tickets_step` — 呼び出し一つの後の記録
* `tickets_exec` — service の run の ticket の記録は、その試みだけの run の記録である
-/

namespace CipherPost.Api

open CipherPost.Core

variable {Tok : Type} (app : App Tok)

/-- 呼び出しが `revoke_token` に渡す jti と ttl。 -/
def revocation (s : Service) (ev : Event Tok) : Option (String × Nat) :=
  match ev.2 with
  | .logout req =>
    match s.currentUser app ev.1 req with
    | .error _ => none
    | .ok _ =>
      (req.bearer.bind (decodeToken app.jwt ev.1.now)).map fun c => (c.jti.getD "", c.exp - ev.1.now)
  | _ => none

/-- 呼び出しが `consume_mfa_ticket` か `consume_sse_ticket` に渡す ticket。 -/
def attempt (ev : Event Tok) : Option (Attempt Tok) :=
  match ev.2 with
  | .mfaVerify ticket _ _ => some ⟨.mfa, ev.1.now, ev.1.redisUp, ticket⟩
  | .liveStream _ token ticket =>
    (ticket.or token).map fun raw => ⟨.sse, ev.1.now, ev.1.redisUp, raw⟩
  | _ => none

/-- 使った ticket の記録。 -/
def Service.tickets (s : Service) : Tickets := ⟨s.usedMfa, s.usedSse⟩

/-- どの記録も変わっていない。 -/
def SameRecords (s s' : Service) : Prop := s'.revocations = s.revocations ∧ s'.tickets = s.tickets

variable {app} {s : Service} {env : Env} {ev : Event Tok} {req : Request Tok}

theorem sameRecords_refl (s : Service) : SameRecords s s := ⟨rfl, rfl⟩

/-! ## 記録を変えない口 -/

theorem sameRecords_finishPasswordLogin {s₁ : Service} {id : String} {user : User}
    (h : SameRecords s s₁) : SameRecords s (finishPasswordLogin app s₁ env id user).1 := by
  unfold finishPasswordLogin
  split <;> exact h

theorem sameRecords_login {email password : Option String} :
    SameRecords s (login app s env email password).1 :=
  login_rule (sameRecords_refl s) (fun _ _ _ _ _ => ⟨rfl, rfl⟩)
    fun _ _ _ => sameRecords_finishPasswordLogin (sameRecords_refl s)

theorem sameRecords_oidcCallback {verified : Except HttpError IdClaims} :
    SameRecords s (oidcCallback app s env verified).1 := by
  have hfinish : ∀ id user,
      SameRecords s (finishPasswordLogin app (s.setUser id user) env id user).1 :=
    fun id user => sameRecords_finishPasswordLogin ⟨rfl, rfl⟩
  exact oidcCallback_rule (sameRecords_refl s) (fun _ id user _ => hfinish id user)
    fun _ id _ _ => hfinish id _

/-- 記録を変えるのは、`logout` と、ticket を受け取る二つの口だけである。 -/
theorem sameRecords_step (hlogout : ∀ req, ev.2 ≠ .logout req) (hattempt : attempt ev = none) :
    SameRecords s (s.step app ev) := by
  have hrefl := sameRecords_refl s
  obtain ⟨env, call⟩ := ev
  unfold Service.step handle
  cases call with
  | logout req => exact absurd rfl (hlogout req)
  | mfaVerify ticket code recovery => cases hattempt
  | liveStream req token ticket =>
    have hnone : ticket.or token = none := Option.map_eq_none_iff.mp hattempt
    simp only [liveStream, hnone]
    exact withUser_rule hrefl fun ctx _ => hrefl
  | login email password => exact sameRecords_login
  | oidcCallback verified => exact sameRecords_oidcCallback
  | mfaEnroll req | mfaConfirm req | revokeAll req | liveTicket req | other req =>
    refine withUser_rule hrefl fun ctx _ => ?_
    try simp only
    repeat' split
    all_goals exact ⟨rfl, rfl⟩
  | mfaDisable req | createUser req | updateUser req | createApiKey req | revokeApiKey req =>
    refine withRole_rule hrefl fun ctx _ => ?_
    try simp only
    repeat' split
    all_goals exact ⟨rfl, rfl⟩
  | createOrg req | assumeOrg req =>
    refine withPlatformAdmin_rule hrefl fun ctx _ _ => ?_
    simp only
    repeat' split
    all_goals exact ⟨rfl, rfl⟩

/-! ## ticket を受け取る口 -/

/-- ticket を受け取る口は、その種類の記録だけを変える。 -/
theorem step_of_attempt {a : Attempt Tok} (h : attempt ev = some a) :
    (s.step app ev).revocations = s.revocations ∧
      (s.step app ev).tickets = s.tickets.step app.jwt a := by
  obtain ⟨env, call⟩ := ev
  cases call with
  | mfaVerify ticket code recovery =>
    cases h
    simp only [Service.step, handle, mfaVerify, Tickets.step, Tickets.consume, Service.tickets]
    cases consumeMfaTicket app.jwt s.usedMfa env.now env.redisUp ticket with
    | none => exact ⟨rfl, rfl⟩
    | some r =>
      simp only
      repeat' split
      all_goals exact ⟨rfl, rfl⟩
  | liveStream req token ticket =>
    obtain ⟨raw, hraw, rfl⟩ := Option.map_eq_some_iff.mp h
    simp only [Service.step, handle, liveStream, hraw, Tickets.step, Tickets.consume,
      Service.tickets]
    cases consumeSseTicket app.jwt s.usedSse env.now env.redisUp raw with
    | none => exact ⟨rfl, rfl⟩
    | some r =>
      simp only
      repeat' split
      all_goals exact ⟨rfl, rfl⟩
  | _ => cases h

/-! ## 拒否表 -/

theorem revocations_logout : (logout app s env req).1.revocations =
    match revocation app s (env, .logout req) with
    | none => s.revocations
    | some (jti, ttl) => s.revocations.revokeToken env.now env.redisUp jti ttl := by
  unfold logout withUser revocation
  simp only
  cases s.currentUser app env req with
  | error e => rfl
  | ok ctx => cases req.bearer.bind (decodeToken app.jwt env.now) <;> rfl

theorem revocation_eq_none (h : ∀ req, ev.2 ≠ .logout req) : revocation app s ev = none := by
  unfold revocation
  split
  · next req hcall => exact absurd hcall (h req)
  · rfl

/-- **拒否表を変えるのは `revoke_token` だけである。** -/
theorem revocations_step (s : Service) (ev : Event Tok) : (s.step app ev).revocations =
    match revocation app s ev with
    | none => s.revocations
    | some (jti, ttl) => s.revocations.revokeToken ev.1.now ev.1.redisUp jti ttl := by
  by_cases h : ∃ req, ev.2 = .logout req
  · obtain ⟨req, hcall⟩ := h
    obtain ⟨env, call⟩ := ev
    cases hcall
    exact revocations_logout
  · have h : ∀ req, ev.2 ≠ .logout req := fun req hcall => h ⟨req, hcall⟩
    rw [revocation_eq_none h]
    cases hattempt : attempt ev with
    | none => exact (sameRecords_step h hattempt).1
    | some a => exact (step_of_attempt hattempt).1

/-! ## 使った ticket -/

/-- **使った ticket の記録を変えるのは、ticket を受け取る二つの口だけである。** -/
theorem tickets_step (s : Service) (ev : Event Tok) : (s.step app ev).tickets =
    match attempt ev with
    | none => s.tickets
    | some a => s.tickets.step app.jwt a := by
  cases hattempt : attempt ev with
  | some a => exact (step_of_attempt hattempt).2
  | none =>
    by_cases h : ∃ req, ev.2 = .logout req
    · obtain ⟨req, hcall⟩ := h
      obtain ⟨env, call⟩ := ev
      cases hcall
      refine withUser_rule (P := fun s' => s'.tickets = s.tickets) rfl fun ctx _ => ?_
      split <;> rfl
    · exact (sameRecords_step (fun req hcall => h ⟨req, hcall⟩) hattempt).2

/-- service の run の ticket の記録は、その試みだけの run の記録である。 -/
theorem tickets_exec (s : Service) (evs : List (Event Tok)) :
    (Run.exec (Service.step app) s evs).tickets =
      Run.exec (Tickets.step app.jwt) s.tickets (evs.filterMap attempt) := by
  induction evs generalizing s with
  | nil => rfl
  | cons ev evs ih =>
    rw [Run.exec_cons, ih, tickets_step]
    cases hattempt : attempt ev with
    | none => rw [List.filterMap_cons_none hattempt]
    | some a => rw [List.filterMap_cons_some hattempt, Run.exec_cons]

end CipherPost.Api
