import CipherPost.Api.UserChanges

/-!
# 確かめた第二要素

MFA の secret は、登録の途中のものも有効なものも同じ列 `mfa_secret_enc` に入り、有効かどうかは
別の口が立てる `mfa_enabled` による。有効な利用者の secret が、作られた後に確かめられたものかを調べる。

* `FactorConfirmed` — 有効な利用者の secret は、`mfa_confirm` で確かめられている
* `ReEnrolls` — 既に有効な利用者の `mfa_enroll`
* `factorConfirmed_concat` — 呼び出し一つがそれを保つのは、`ReEnrolls` でないとき
-/

namespace CipherPost.Api

open CipherPost.Core

variable {Tok : Type} (app : App Tok)

/-- 利用者 `u` の secret `enc` の正しい code が出され、その後に新しい secret は作られていない。 -/
def SecretConfirmed (s : Service) (evs : List (Event Tok)) (u enc : String) : Prop :=
  Run.Since (Service.step app) (fun s ev => Confirms app s ev u enc) (fun s ev => Enrolls app s ev u)
    s evs

/-- run の終わりで、MFA の有効な利用者の secret は、作られた後に確かめられている。 -/
def FactorConfirmed (s : Service) (evs : List (Event Tok)) : Prop :=
  ∀ u user, (Run.exec (Service.step app) s evs).db.users.get? u = some user →
    user.mfaEnabled = true → ∃ enc, user.mfaSecretEnc = some enc ∧ SecretConfirmed app s evs u enc

/-- MFA の既に有効な利用者が、`mfa_enroll` で secret を書き換える。 -/
def ReEnrolls (s : Service) (ev : Event Tok) : Prop :=
  ∃ u user, Enrolls app s ev u ∧ s.db.users.get? u = some user ∧ user.mfaEnabled = true

variable {app} {s : Service} {ev : Event Tok}

/-- `mfa_enroll` は `mfa_enabled` を変えない。 -/
theorem mfaEnabled_of_enrolls {u : String} {old new : User} (he : Enrolls app s ev u)
    (h : new = old ∨ RowChange app s ev u old new) : new.mfaEnabled = old.mfaEnabled := by
  obtain ⟨req, user, hcall, -⟩ := he
  rcases h with rfl | h
  · rfl
  · cases h with
    | linked | enrolled | spent | revoked | updated => rfl
    | disabled h => cases hcall.symm.trans h
    | confirmed _ h =>
      obtain ⟨_, _, _, _, h, -⟩ := h
      cases hcall.symm.trans h

/-- 有効な利用者の行は、前から有効で secret も同じであるか、いま確かめられたものである。 -/
theorem enabled_step {u : String} {new : User}
    (hnew : (s.step app ev).db.users.get? u = some new) (henabled : new.mfaEnabled = true)
    (hre : ¬ReEnrolls app s ev) :
    (∃ old, s.db.users.get? u = some old ∧ old.mfaEnabled = true ∧
      new.mfaSecretEnc = old.mfaSecretEnc) ∨
    ∃ enc, new.mfaSecretEnc = some enc ∧ Confirms app s ev u enc := by
  cases hold : s.db.users.get? u with
  | none =>
    -- 行が無ければ、いま作られた行で、MFA は有効でない
    cases changes_step app s ev with
    | kept h => rw [h, hold] at hnew; cases hnew
    | changed id old row hrow h hset =>
      have hne : id ≠ u := by rintro rfl; rw [hrow] at hold; cases hold
      rw [hset, Dict.get?_set_of_ne _ _ hne, hold] at hnew
      cases hnew
    | created id row hfresh hdisabled horg hset =>
      rw [hset, Dict.get?_set] at hnew
      split at hnew
      · cases hnew
        rw [hdisabled] at henabled
        cases henabled
      · rw [hold] at hnew
        cases hnew
  | some old =>
    obtain ⟨row, hrow, hchange⟩ := row_step app ev hold
    cases hnew.symm.trans hrow
    rcases hchange with rfl | h
    · exact .inl ⟨_, rfl, henabled, rfl⟩
    · cases h with
      | linked | spent | revoked | updated => exact .inl ⟨_, rfl, henabled, rfl⟩
      | enrolled enc codes he => exact absurd ⟨u, old, he, hold, henabled⟩ hre
      | disabled => cases henabled
      | confirmed enc h =>
        obtain ⟨_, _, user, _, -, -, huser, henc, -⟩ := id h
        cases hold.symm.trans huser
        exact .inr ⟨enc, henc, h⟩

/-- **呼び出し一つが性質を保つのは、有効な利用者の `mfa_enroll` でないとき、かつそのときに限る。** -/
theorem factorConfirmed_concat {s₀ : Service} {pre : List (Event Tok)}
    (h : FactorConfirmed app s₀ pre) : FactorConfirmed app s₀ (pre ++ [ev]) ↔
      ¬ReEnrolls app (Run.exec (Service.step app) s₀ pre) ev := by
  constructor
  · rintro hnext ⟨u, old, he, hold, henabled⟩
    obtain ⟨new, hnew, hchange⟩ := row_step app ev hold
    have hkept : new.mfaEnabled = true := (mfaEnabled_of_enrolls he hchange).trans henabled
    rw [FactorConfirmed, Run.exec_append] at hnext
    obtain ⟨enc, -, hsince⟩ := hnext u new hnew hkept
    rcases Run.since_concat.mp hsince with ⟨_, _, _, _, hcall, -⟩ | ⟨-, hno⟩
    · obtain ⟨_, _, hcall', -⟩ := he
      rw [hcall'] at hcall
      cases hcall
    · exact hno he
  · intro hre u new hnew henabled
    rw [Run.exec_append] at hnew
    rcases enabled_step hnew henabled hre with ⟨old, hold, hon, hsecret⟩ | ⟨enc, henc, hconfirm⟩
    · obtain ⟨enc, henc, hsince⟩ := h u old hold hon
      refine ⟨enc, hsecret.trans henc, Run.since_concat.mpr (.inr ⟨hsince, fun he => ?_⟩)⟩
      exact hre ⟨u, old, he, hold, hon⟩
    · exact ⟨enc, henc, Run.since_concat.mpr (.inl hconfirm)⟩

/--
始めに MFA を有効にした者がいなければ、有効な利用者の secret がいつも確かめられたものであるのは、有効な
利用者が `mfa_enroll` をしない run、かつそのときに限る。
-/
theorem factorConfirmed_iff (app : App Tok) (users : Dict String User)
    (orgs : Dict String Organization) (evs : List (Event Tok))
    (hnew : ∀ u user, users.get? u = some user → user.mfaEnabled = false) :
    (∀ pre, pre <+: evs → FactorConfirmed app (boot users orgs) pre) ↔
      Run.Along (Service.step app) (fun s ev => ¬ReEnrolls app s ev) (boot users orgs) evs := by
  rw [Run.along_iff]
  refine Run.history_iff ?_ (fun pre ev h => factorConfirmed_concat h) evs
  intro u user huser henabled
  rw [hnew u user huser] at henabled
  cases henabled

/-! ## 有効な利用者の登録し直し -/

/-- secret を作り、確かめ、もう一度作る。 -/
def reEnrollment : List (Event Claims) :=
  [anaLogin,
   ({ now := 1010, mfaSecret := "111111" }, .mfaEnroll { bearer := some anaSession }),
   ({ now := 1020 }, .mfaConfirm { bearer := some anaSession } (some "111111")),
   ({ now := 1030, mfaSecret := "222222" }, .mfaEnroll { bearer := some anaSession })]

theorem not_mfaEnabled_plainUser (u : String) (user : User) (h : plainUser.get? u = some user) :
    user.mfaEnabled = false := by
  unfold plainUser at h
  rw [Dict.get?_set] at h
  split at h
  · cases h
    rfl
  · cases h

/-- 登録し直した後、有効な利用者の secret は、誰も確かめていないものである。 -/
theorem factorConfirmed_reEnrollment :
    (∀ u user, plainUser.get? u = some user → user.mfaEnabled = false) ∧
    ¬∀ pre, pre <+: reEnrollment → FactorConfirmed plainApp (boot plainUser Dict.empty) pre := by
  refine ⟨not_mfaEnabled_plainUser, fun h => ?_⟩
  have hlast := h reEnrollment List.prefix_rfl
  obtain ⟨user, huser, henabled⟩ : ∃ user, (Run.exec (Service.step plainApp)
      (boot plainUser Dict.empty) reEnrollment).db.users.get? "user-1" = some user ∧
      user.mfaEnabled = true := ⟨_, rfl, rfl⟩
  obtain ⟨enc, -, hsince⟩ := hlast "user-1" user huser henabled
  have hsplit : reEnrollment = reEnrollment.take 3 ++ reEnrollment.drop 3 := rfl
  rw [SecretConfirmed, hsplit] at hsince
  rcases Run.since_concat.mp hsince with ⟨_, _, _, _, hcall, -⟩ | ⟨-, hno⟩
  · cases hcall
  · exact hno ⟨_, _, rfl, ⟨_, rfl, rfl⟩, rfl, rfl, rfl⟩

/-- 確かめるところまでの run では、性質が崩れない。 -/
theorem factorConfirmed_iff_enrollment :
    FactorConfirmed plainApp (boot plainUser Dict.empty) (reEnrollment.take 3) := by
  refine (factorConfirmed_iff plainApp plainUser Dict.empty (reEnrollment.take 3)
    not_mfaEnabled_plainUser).mpr ⟨?_, ?_, ?_, trivial⟩ _ List.prefix_rfl
  · rintro ⟨_, _, ⟨_, _, hcall, -⟩, -⟩
    cases hcall
  · rintro ⟨u, user, ⟨_, _, _, ⟨ctx, hctx, rfl⟩, -⟩, huser, henabled⟩
    cases hctx
    cases huser
    cases henabled
  · rintro ⟨_, _, ⟨_, _, hcall, -⟩, -⟩
    cases hcall

end CipherPost.Api
