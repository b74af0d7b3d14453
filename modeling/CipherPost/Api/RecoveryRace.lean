import CipherPost.Api.UserChanges

/-!
# 同時の `mfa_verify`

`mfa_verify` は、利用者の行を読み（await）、recovery code の残りを Python で計算し、commit（await）で
その列全体を書き戻す。await のたびに他の要求が進むとして、一つの code が二度受け入れられるかを調べる。

* `Phase`・`Verifying.step` — 要求ごとの進み具合と、要求一つの一段
* `verify_alone` — 一つの要求の三段が続けば、`mfaVerify` である
* `CodesConserved` — 受け入れた code と残りの code の数は、始めの数を超えない
* `codesConserved_iff` — それが崩れないのは、code を使うどの commit も、読んだ後に他の commit が無いとき
-/

namespace CipherPost.Api

open CipherPost.Core

variable {Tok : Type} (app : App Tok)

/-- `mfa_verify` の要求の body。 -/
structure VerifyRequest (Tok : Type) where
  ticket : Tok
  code : Option String := none
  recoveryCode : Option String := none

/-- 要求の進み具合。 -/
inductive Phase where
  | waiting
  /-- ticket を使い、`await db.get(User, …)` を待つ。 -/
  | ticketed (sub : String)
  /-- code を確かめ、`await db.commit()` を待つ。`remaining` は recovery code の残り。 -/
  | decided (sub : String) (user : User) (remaining : Option (List String))
  | finished

/-! ## 要求の三段 -/

/-- ticket を使うところまで。 -/
def openTicket (s : Service) (env : Env) (req : VerifyRequest Tok) : Service × Phase :=
  match consumeMfaTicket app.jwt s.usedMfa env.now env.redisUp req.ticket with
  | none => (s, .finished)
  | some (claims, used) => ({ s with usedMfa := used }, .ticketed claims.sub)

/-- 利用者の行を読み、code を確かめる。 -/
def checkCode (s : Service) (env : Env) (req : VerifyRequest Tok) (sub : String) : Phase :=
  match s.db.users.get? sub with
  | none => .finished
  | some user =>
    if !user.isActive then .finished
    else if env.mfaLocked then .finished
    else if totpAccepted app user req.code env.now then .decided sub user none
    else
      match recoveryAccepted app user req.recoveryCode with
      | none => .finished
      | some remaining => .decided sub user (some remaining)

/-- commit の UPDATE。変えた列 `mfa_recovery` だけを、今の行に書く。 -/
def writeRecovery (s : Service) (sub : String) : Option (List String) → Service
  | none => s
  | some remaining =>
    match s.db.users.get? sub with
    | none => s
    | some row => s.setUser sub { row with mfaRecovery := some remaining }

/-- commit し、読んだ行から session の token を作る。 -/
def finishVerify (s : Service) (env : Env) (sub : String) (user : User)
    (remaining : Option (List String)) : Service :=
  (grant app (writeRecovery s sub remaining) .session (sessionToken app env sub user) .token).1

variable {ι : Type} [DecidableEq ι]

/-- 同時に処理している要求と、service の状態。 -/
structure Verifying (ι : Type) where
  service : Service
  phase : ι → Phase := fun _ => .waiting
  /-- 受け入れた recovery code の hash と、その利用者の記録。code の判断には使わない。 -/
  accepted : List (String × String) := []

namespace Verifying

/-- 要求 `i` の進み具合を書く。 -/
def setPhase (s : Verifying ι) (i : ι) (p : Phase) : Verifying ι :=
  { s with phase := fun j => if j = i then p else s.phase j }

/-- 要求 `e.1` を、次の await まで進める。 -/
def step (requests : ι → VerifyRequest Tok) (s : Verifying ι) (e : ι × Env) : Verifying ι :=
  match s.phase e.1 with
  | .waiting =>
    let (service, p) := openTicket app s.service e.2 (requests e.1)
    { s with service }.setPhase e.1 p
  | .ticketed sub => s.setPhase e.1 (checkCode app s.service e.2 (requests e.1) sub)
  | .decided sub user remaining =>
    { s with
      service := finishVerify app s.service e.2 sub user remaining
      accepted :=
        if remaining.isSome then
          s.accepted ++ [(sub, hashRecoveryCode app.crypto ((requests e.1).recoveryCode.getD ""))]
        else s.accepted }.setPhase e.1 .finished
  | .finished => s

/-- 利用者 `u` の残りの recovery code。 -/
def stored (s : Verifying ι) (u : String) : List String :=
  ((s.service.db.users.get? u).bind (·.mfaRecovery)).getD []

/-- 要求 `e.1` が、利用者の行を読む。 -/
def Reads (i : ι) (s : Verifying ι) (e : ι × Env) : Prop := e.1 = i ∧ ∃ sub, s.phase i = .ticketed sub

/-- 要求 `e.1` が、利用者 `u` の recovery code を使う commit をする。 -/
def Spends (u : String) (s : Verifying ι) (e : ι × Env) : Prop :=
  ∃ user remaining, s.phase e.1 = .decided u user (some remaining)

/-- どの code についても、受け入れた数と残りの数の和は、始めの数を超えない。 -/
def CodesConserved (requests : ι → VerifyRequest Tok) (s : Verifying ι) (es : List (ι × Env)) :
    Prop :=
  ∀ u h, (Run.exec (step app requests) s es).accepted.count (u, h) +
    ((Run.exec (step app requests) s es).stored u).count h ≤ (s.stored u).count h

/-- 要求 `i` が出す recovery code の hash。 -/
def spent (requests : ι → VerifyRequest Tok) (i : ι) : String :=
  hashRecoveryCode app.crypto ((requests i).recoveryCode.getD "")

variable {app} {requests : ι → VerifyRequest Tok} {s s₀ : Verifying ι} {e : ι × Env} {i : ι}
  {u : String} {user : User} {remaining : List String}

/-! ## 一段 -/

theorem phase_step_of_ne (h : i ≠ e.1) : (s.step app requests e).phase i = s.phase i := by
  unfold step setPhase
  cases s.phase e.1 <;> simp [h]

/-- 一つの要求の三段が続けば、`mfa_verify` である。 -/
theorem verify_alone (app : App Tok) (requests : ι → VerifyRequest Tok) (s : Verifying ι) (i : ι)
    (env : Env) (h : s.phase i = .waiting) :
    (Run.exec (step app requests) s [(i, env), (i, env), (i, env)]).service =
      (mfaVerify app s.service env (requests i).ticket (requests i).code
        (requests i).recoveryCode).1 := by
  simp only [Run.exec_cons, Run.exec_nil]
  rw [step, step, step]
  simp only [h, openTicket, mfaVerify]
  cases consumeMfaTicket app.jwt s.service.usedMfa env.now env.redisUp (requests i).ticket with
  | none => simp [setPhase, reject]
  | some r =>
    obtain ⟨claims, used⟩ := r
    simp only [setPhase, if_true, checkCode]
    cases hrow : s.service.db.users.get? claims.sub with
    | none => simp [reject]
    | some user =>
      simp only
      cases hactive : user.isActive with
      | false => simp [reject]
      | true =>
        cases hlocked : env.mfaLocked with
        | true => simp [reject]
        | false =>
          cases htotp : totpAccepted app user (requests i).code env.now with
          | true => simp [finishVerify, writeRecovery]
          | false =>
            cases hrecovery : recoveryAccepted app user (requests i).recoveryCode with
            | none => simp [reject]
            | some remaining => simp [finishVerify, writeRecovery, hrow, hactive]

theorem db_openTicket (s : Service) (env : Env) (req : VerifyRequest Tok) :
    (openTicket app s env req).1.db = s.db := by
  unfold openTicket
  split <;> rfl

/-- code を使わない一段は、表も記録も変えない。 -/
theorem quiet_step (app : App Tok) (requests : ι → VerifyRequest Tok)
    (h : ∀ u, ¬Spends u s e) :
    (s.step app requests e).service.db = s.service.db ∧
      (s.step app requests e).accepted = s.accepted := by
  unfold step
  cases hp : s.phase e.1 with
  | waiting => exact ⟨db_openTicket s.service e.2 (requests e.1), rfl⟩
  | ticketed sub => exact ⟨rfl, rfl⟩
  | finished => exact ⟨rfl, rfl⟩
  | decided sub user remaining =>
    cases remaining with
    | none => exact ⟨rfl, rfl⟩
    | some remaining => exact absurd ⟨user, remaining, hp⟩ (h sub)

omit [DecidableEq ι] in
theorem stored_of_db {s' : Verifying ι} (h : s'.service.db = s.service.db) (u : String) :
    s'.stored u = s.stored u := by
  unfold stored
  rw [h]

/-- code を使う commit は、その利用者の列を残りで置き換え、code を記録する。 -/
theorem spend_step (app : App Tok) (requests : ι → VerifyRequest Tok)
    (hp : s.phase e.1 = .decided u user (some remaining))
    (hrow : (s.service.db.users.get? u).isSome) :
    (∀ v, (s.step app requests e).stored v = if u = v then remaining else s.stored v) ∧
      (∀ v, ((s.step app requests e).service.db.users.get? v).isSome =
        (s.service.db.users.get? v).isSome) ∧
      (s.step app requests e).accepted = s.accepted ++ [(u, spent app requests e.1)] := by
  obtain ⟨row, hget⟩ := Option.isSome_iff_exists.mp hrow
  have hwrite : writeRecovery s.service u (some remaining) =
      s.service.setUser u { row with mfaRecovery := some remaining } := by
    simp only [writeRecovery, hget]
  have husers : (s.step app requests e).service.db.users =
      s.service.db.users.set u { row with mfaRecovery := some remaining } := by
    simp only [step, hp, finishVerify, hwrite]
    rfl
  refine ⟨fun v => ?_, fun v => ?_, ?_⟩
  · unfold stored
    rw [husers, Dict.get?_set]
    split <;> rfl
  · rw [husers, Dict.get?_set]
    split
    · next h => rw [← h, hget]; rfl
    · rfl
  · simp [step, hp, setPhase, spent]

/-- 受け入れられた recovery code は、読んだ行の列にあり、残りはそれを除いたものである。 -/
theorem of_recoveryAccepted {code : Option String}
    (h : recoveryAccepted app user code = some remaining) :
    hashRecoveryCode app.crypto (code.getD "") ∈ user.mfaRecovery.getD [] ∧
      remaining = (user.mfaRecovery.getD []).erase (hashRecoveryCode app.crypto (code.getD "")) := by
  unfold recoveryAccepted at h
  split at h
  · cases h
  · next c hc =>
    obtain ⟨rfl, -⟩ := Option.filter_eq_some_iff.mp hc
    unfold consumeRecoveryCode at h
    simp only at h
    split at h
    · next hmem => exact ⟨hmem, (Option.some.inj h).symm⟩
    · cases h

theorem sub_of_checkCode {s : Service} {env : Env} {req : VerifyRequest Tok} {sub : String}
    {p : Option (List String)} (h : checkCode app s env req sub = .decided u user p) : sub = u := by
  unfold checkCode at h
  repeat' split at h
  all_goals first | cases h; rfl | cases h

/-- 行を読んで code を使うことに決めた要求は、その行の列から code を除く。 -/
theorem of_checkCode {s : Service} {env : Env} {req : VerifyRequest Tok} {sub : String}
    (h : checkCode app s env req sub = .decided u user (some remaining)) :
    sub = u ∧ s.db.users.get? u = some user ∧
      hashRecoveryCode app.crypto (req.recoveryCode.getD "") ∈ user.mfaRecovery.getD [] ∧
      remaining = (user.mfaRecovery.getD []).erase
        (hashRecoveryCode app.crypto (req.recoveryCode.getD "")) := by
  unfold checkCode at h
  split at h
  · cases h
  · next row hrow =>
    split at h
    · cases h
    · split at h
      · cases h
      · split at h
        · cases h
        · split at h
          · cases h
          · next rest hrest =>
            cases h
            exact ⟨rfl, hrow, of_recoveryAccepted hrest⟩

/-- 一段の後に code を使うことに決めているのは、いま行を読んで決めた要求である。 -/
theorem of_phase_step {p : Option (List String)}
    (h : (s.step app requests e).phase e.1 = .decided u user p) :
    s.phase e.1 = .ticketed u ∧
      checkCode app s.service e.2 (requests e.1) u = .decided u user p := by
  unfold step at h
  cases hp : s.phase e.1 with
  | waiting =>
    rw [hp] at h
    simp only [setPhase, if_true, openTicket] at h
    split at h <;> cases h
  | ticketed sub =>
    rw [hp] at h
    simp only [setPhase, if_true] at h
    have hsub : sub = u := sub_of_checkCode h
    subst hsub
    exact ⟨rfl, h⟩
  | decided sub row rest =>
    rw [hp] at h
    simp [setPhase] at h
  | finished =>
    rw [hp] at h
    simp only at h
    rw [hp] at h
    cases h

/-! ## 不変量 -/

variable (app requests s₀)

/-- 要求 `i` が読んだ後に、他の commit は利用者 `u` の code を使っていない。 -/
def Fresh (pre : List (ι × Env)) (i : ι) (u : String) : Prop :=
  Run.Since (step app requests) (Reads i) (Spends u) s₀ pre

/--
code を使うことに決めた要求の状態。読んだ列が今の列と同じか、読んだ後に他の commit があって、受け入れた
数と読んだ列の数の和が、どれかの code で始めの数を超えている。
-/
structure Pending (pre : List (ι × Env)) (i : ι) (u : String) (user : User)
    (remaining : List String) : Prop where
  mem : spent app requests i ∈ user.mfaRecovery.getD []
  rest : remaining = (user.mfaRecovery.getD []).erase (spent app requests i)
  row : ((Run.exec (step app requests) s₀ pre).service.db.users.get? u).isSome
  snapshot : (Fresh app requests s₀ pre i u ∧
      user.mfaRecovery.getD [] = (Run.exec (step app requests) s₀ pre).stored u) ∨
    (¬Fresh app requests s₀ pre i u ∧ ∃ h, (s₀.stored u).count h <
      (Run.exec (step app requests) s₀ pre).accepted.count (u, h) +
        (user.mfaRecovery.getD []).count h)

/-- 受け入れた数と残りの数の和は始めの数で、使うことに決めたどの要求も `Pending` である。 -/
structure Tracked (pre : List (ι × Env)) : Prop where
  balanced : ∀ u h, (Run.exec (step app requests) s₀ pre).accepted.count (u, h) +
    ((Run.exec (step app requests) s₀ pre).stored u).count h = (s₀.stored u).count h
  pending : ∀ i u user remaining,
    (Run.exec (step app requests) s₀ pre).phase i = .decided u user (some remaining) →
    Pending app requests s₀ pre i u user remaining

variable {app requests s₀} {pre : List (ι × Env)}

/-- 列から除いた code は、記録した分だけ減っている。 -/
theorem count_erase_add {l : List String} {x h : String} (hx : x ∈ l) (acc : List (String × String)) :
    (acc ++ [(u, x)]).count (u, h) + (l.erase x).count h = acc.count (u, h) + l.count h := by
  rw [List.count_append, List.count_singleton]
  by_cases heq : x = h
  · subst heq
    have hpos : 0 < l.count x := List.count_pos_iff.mpr hx
    rw [List.count_erase_self]
    simp
    omega
  · rw [List.count_erase_of_ne (Ne.symm heq)]
    simp [heq]

theorem count_append_of_ne {v x h : String} (hne : u ≠ v) (acc : List (String × String)) :
    (acc ++ [(u, x)]).count (v, h) = acc.count (v, h) := by
  simp [List.count_append, hne]

/-- 別の利用者の code を使う一段や、code を使わない一段は、待っている要求に触れない。 -/
theorem fresh_concat_of_not (hread : ¬Reads i (Run.exec (step app requests) s₀ pre) e)
    (hspend : ¬Spends u (Run.exec (step app requests) s₀ pre) e) :
    Fresh app requests s₀ (pre ++ [e]) i u ↔ Fresh app requests s₀ pre i u := by
  unfold Fresh
  rw [Run.since_concat]
  simp [hread, hspend]

/-- 他の要求の、code を使わない一段の後も、待っている要求はそのままである。 -/
theorem Pending.quiet (h : Pending app requests s₀ pre i u user remaining) (hne : i ≠ e.1)
    (hquiet : ∀ v, ¬Spends v (Run.exec (step app requests) s₀ pre) e) :
    Pending app requests s₀ (pre ++ [e]) i u user remaining := by
  obtain ⟨hdb, hacc⟩ := quiet_step app requests hquiet
  have hread : ¬Reads i (Run.exec (step app requests) s₀ pre) e := fun hr => hne hr.1.symm
  have hfresh := fresh_concat_of_not hread (hquiet u)
  refine ⟨h.mem, h.rest, ?_, ?_⟩
  · rw [Run.exec_append]
    show ((step app requests _ e).service.db.users.get? u).isSome
    rw [hdb]
    exact h.row
  · rw [hfresh, Run.exec_append]
    show (_ ∧ _ = (step app requests _ e).stored u) ∨
      (_ ∧ ∃ h, _ < (step app requests _ e).accepted.count (u, h) + _)
    rw [hacc, stored_of_db hdb]
    exact h.snapshot

/-- 他の要求が code を使う commit の後も、待っている要求は `Pending` である。 -/
theorem Pending.spend {v : String} {row : User} {rest : List String}
    (h : Pending app requests s₀ pre i u user remaining) (hne : i ≠ e.1)
    (hbalanced : ∀ u h, (Run.exec (step app requests) s₀ pre).accepted.count (u, h) +
      ((Run.exec (step app requests) s₀ pre).stored u).count h = (s₀.stored u).count h)
    (hp : (Run.exec (step app requests) s₀ pre).phase e.1 = .decided v row (some rest))
    (hrow : ((Run.exec (step app requests) s₀ pre).service.db.users.get? v).isSome) :
    Pending app requests s₀ (pre ++ [e]) i u user remaining := by
  obtain ⟨hstored, hrows, hacc⟩ := spend_step app requests hp hrow
  have hread : ¬Reads i (Run.exec (step app requests) s₀ pre) e := fun hr => hne hr.1.symm
  refine ⟨h.mem, h.rest, ?_, ?_⟩
  · rw [Run.exec_append]
    show ((step app requests _ e).service.db.users.get? u).isSome
    rw [hrows]
    exact h.row
  · rw [Run.exec_append]
    show (_ ∧ _ = (step app requests _ e).stored u) ∨
      (_ ∧ ∃ h, _ < (step app requests _ e).accepted.count (u, h) + _)
    rw [hacc, hstored]
    by_cases hv : v = u
    · subst hv
      -- 読んだ後の commit なので、以後は `Fresh` でない
      have hstale : ¬Fresh app requests s₀ (pre ++ [e]) i v := by
        unfold Fresh
        rw [Run.since_concat]
        rintro (hr | ⟨-, hno⟩)
        · exact hread hr
        · exact hno ⟨row, rest, hp⟩
      refine .inr ⟨hstale, ?_⟩
      rcases h.snapshot with ⟨-, hsame⟩ | ⟨-, x, hx⟩
      · refine ⟨spent app requests e.1, ?_⟩
        rw [hsame, List.count_append, List.count_singleton_self]
        have := hbalanced v (spent app requests e.1)
        omega
      · refine ⟨x, ?_⟩
        rw [List.count_append]
        omega
    · have hother : ¬Spends u (Run.exec (step app requests) s₀ pre) e := by
        rintro ⟨_, _, hp'⟩
        cases hp.symm.trans hp'
        exact hv rfl
      rw [if_neg hv, fresh_concat_of_not hread hother]
      simp only [count_append_of_ne hv]
      exact h.snapshot

/-- 使うことに決めた code の commit は、`Fresh` のとき、かつそのときに限り、数の和を保つ。 -/
theorem count_spend (h : Pending app requests s₀ pre e.1 u user remaining)
    (hp : (Run.exec (step app requests) s₀ pre).phase e.1 = .decided u user (some remaining))
    (x : String) :
    (Run.exec (step app requests) s₀ (pre ++ [e])).accepted.count (u, x) +
        ((Run.exec (step app requests) s₀ (pre ++ [e])).stored u).count x =
      (Run.exec (step app requests) s₀ pre).accepted.count (u, x) +
        (user.mfaRecovery.getD []).count x := by
  obtain ⟨hstored, -, hacc⟩ := spend_step app requests hp h.row
  rw [Run.exec_append]
  show (step app requests _ e).accepted.count (u, x) + ((step app requests _ e).stored u).count x = _
  rw [hacc, hstored, if_pos rfl, h.rest, count_erase_add h.mem]

/-- **`Fresh` である commit は、不変量を保つ。** -/
theorem Tracked.concat (h : Tracked app requests s₀ pre)
    (hfresh : ∀ u, Spends u (Run.exec (step app requests) s₀ pre) e →
      Fresh app requests s₀ pre e.1 u) : Tracked app requests s₀ (pre ++ [e]) := by
  have hexec : Run.exec (step app requests) s₀ (pre ++ [e]) =
      (Run.exec (step app requests) s₀ pre).step app requests e := Run.exec_append ..
  by_cases hspend : ∃ v, Spends v (Run.exec (step app requests) s₀ pre) e
  · obtain ⟨v, row, rest, hp⟩ := hspend
    have hpending := h.pending _ _ _ _ hp
    obtain ⟨hstored, -, hacc⟩ := spend_step app requests hp hpending.row
    constructor
    · intro u x
      by_cases hv : v = u
      · subst hv
        rw [count_spend hpending hp]
        rcases hpending.snapshot with ⟨-, hsame⟩ | ⟨hstale, -⟩
        · rw [hsame]
          exact h.balanced v x
        · exact absurd (hfresh v ⟨row, rest, hp⟩) hstale
      · rw [hexec, hacc, hstored, if_neg hv, count_append_of_ne hv]
        exact h.balanced u x
    · intro i u user remaining hi
      have hne : i ≠ e.1 := by
        rintro rfl
        rw [hexec] at hi
        cases hp.symm.trans (of_phase_step hi).1
      rw [hexec, phase_step_of_ne hne] at hi
      exact (h.pending i u user remaining hi).spend hne h.balanced hp hpending.row
  · have hquiet : ∀ v, ¬Spends v (Run.exec (step app requests) s₀ pre) e :=
      fun v hv => hspend ⟨v, hv⟩
    obtain ⟨hdb, hacc⟩ := quiet_step app requests hquiet
    constructor
    · intro u x
      rw [hexec, hacc, stored_of_db hdb]
      exact h.balanced u x
    · intro i u user remaining hi
      by_cases hne : i = e.1
      · subst hne
        -- いま行を読んだので、読んだ列は今の列である
        rw [hexec] at hi
        obtain ⟨hticket, hcheck⟩ := of_phase_step hi
        obtain ⟨-, hrow, hmem, hrest⟩ := of_checkCode hcheck
        refine ⟨hmem, hrest, ?_, .inl ⟨Run.since_concat.mpr (.inl ⟨rfl, u, hticket⟩), ?_⟩⟩
        · rw [hexec, hdb, hrow]
          rfl
        · rw [hexec, stored_of_db hdb, stored, hrow]
          rfl
      · rw [hexec, phase_step_of_ne hne] at hi
        exact (h.pending i u user remaining hi).quiet hne hquiet

/-- 数の和を保つ commit は、`Fresh` である。 -/
theorem Tracked.fresh (h : Tracked app requests s₀ pre)
    (hcount : CodesConserved app requests s₀ (pre ++ [e]))
    (hspend : Spends u (Run.exec (step app requests) s₀ pre) e) :
    Fresh app requests s₀ pre e.1 u := by
  obtain ⟨row, rest, hp⟩ := hspend
  have hpending := h.pending _ _ _ _ hp
  rcases hpending.snapshot with ⟨hfresh, -⟩ | ⟨-, x, hx⟩
  · exact hfresh
  · have hle := hcount u x
    rw [count_spend hpending hp] at hle
    omega

/--
まだ始めていない要求のどの割り込みの順でも、受け入れた recovery code と残りの code の数の和が始めの数を
超えないのは、code を使うどの commit についても、その要求が行を読んだ後に、同じ利用者の code を使う他の
commit が無いとき、かつそのときに限る。
-/
theorem codesConserved_iff (app : App Tok) (requests : ι → VerifyRequest Tok) (service : Service)
    (es : List (ι × Env)) :
    (∀ pre, pre <+: es → CodesConserved app requests { service } pre) ↔
      ∀ pre e, pre ++ [e] <+: es → ∀ u,
        Spends u (Run.exec (step app requests) { service } pre) e →
          Run.Since (step app requests) (Reads e.1) (Spends u) { service } pre := by
  refine Run.history_property_iff (I := Tracked app requests { service }) ?_ ?_
    (fun pre e h hc => h.concat hc) (fun pre e h hcount u hspend => h.fresh hcount hspend) es
  · refine ⟨fun u h => by simp, fun i u user remaining hi => ?_⟩
    cases hi
  · exact fun pre h u x => Nat.le_of_eq (h.balanced u x)

/-- 数の和を超えないなら、重複の無い列の code は一度しか受け入れられず、列に戻ることもない。 -/
theorem CodesConserved.singleUse {es : List (ι × Env)} (h : CodesConserved app requests s es)
    {u c : String} (hnodup : (s.stored u).Nodup) :
    (Run.exec (step app requests) s es).accepted.count (u, c) ≤ 1 ∧
      ((u, c) ∈ (Run.exec (step app requests) s es).accepted →
        c ∉ (Run.exec (step app requests) s es).stored u) := by
  have hle := h u c
  have hone := List.nodup_iff_count.mp hnodup c
  refine ⟨by omega, fun hacc hstored => ?_⟩
  have hpos := List.count_pos_iff.mpr hacc
  have hpos' := List.count_pos_iff.mpr hstored
  omega

/-! ## 同じ code の二つの要求 -/

/-- MFA を有効にし、recovery code を二つ持つ利用者。 -/
def recoverable : User :=
  { orgId := "org-1", email := "ana@example.org", passwordHash := "correct horse"
    mfaSecretEnc := some "secret", mfaEnabled := true, mfaRecovery := some ["c1", "c2"] }

/-- その利用者が一人いる service。 -/
def recoveryService : Service := boot (Dict.empty.set "user-1" recoverable) Dict.empty

/-- 別々の ticket と、同じ recovery code を出す。 -/
def sameCode (i : Bool) : VerifyRequest Claims :=
  { ticket := createMfaTicket 1000 "a0" (if i then "a1" else "a2") "user-1" "org-1"
    recoveryCode := some "c1" }

/-- 二つの要求が、どちらも行を読んでから commit する。 -/
def readReadCommitCommit : List (Bool × Env) :=
  [true, false, true, false, true, false].map fun i => (i, { now := 1010 })

/-- 一つの recovery code が、二つの要求に受け入れられる。 -/
theorem not_codesConserved_sameCode :
    ¬∀ pre, pre <+: readReadCommitCommit →
      CodesConserved plainApp sameCode { service := recoveryService } pre := by
  intro h
  have hle := h readReadCommitCommit List.prefix_rfl "user-1" "c1"
  exact absurd hle (by decide)

end Verifying

end CipherPost.Api
