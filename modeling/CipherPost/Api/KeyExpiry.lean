import CipherPost.Api.TenantAdmin

/-!
# API key の期限

`POST /api-keys` は、`expires_days` を渡すと期限のある key を作る。その期限を見るのは
`get_current_user` だけのはずだが、見ていない。agent の token の口は、自分で期限を見る。

* `promised_exec` — 行の期限は、それを作った要求の約束したものである
* `HashesUnique` — 一つの key を表す行は一つである
* `Honoured` — 通した key の行は、取り消されず、期限の前で、持ち主も有効である
* `honoured_iff` — どの要求でもそうであるのは、期限の過ぎた有効な key を出さない run である
-/

namespace CipherPost.Api

open CipherPost.Core

variable {Tok : Type} {app : App Tok} {s : Service} {ev : Event Tok}

/-! ## 約束した期限 -/

/-- 要求は、期限が `expiresAt` の key を約束する。 -/
def Promises (expiresAt : Option Int) (ev : Event Tok) : Prop :=
  ∃ req days, ev.2 = .createApiKey req days ∧ promisedExpiry ev.1.now days = some expiresAt

/-- 一歩の後の行は、前からの行か、その取り消しか、いま約束した key の行である。 -/
theorem apiKey_step {id : String} {row : ApiKey}
    (h : (s.step app ev).db.apiKeys.get? id = some row) :
    (∃ old, s.db.apiKeys.get? id = some old ∧ row.keyHash = old.keyHash ∧
        row.expiresAt = old.expiresAt ∧ (old.revoked = true → row.revoked = true)) ∨
      Promises row.expiresAt ev ∧ ∀ other ∈ s.db.apiKeys.values, other.keyHash ≠ row.keyHash := by
  cases keyChanges_step app s ev with
  | kept heq => exact .inl ⟨row, heq ▸ h, rfl, rfl, fun hr => hr⟩
  | created k new ctx hctx hfresh horg howner hpromised hunique hset =>
    rw [hset, Dict.get?_set] at h
    split at h
    · cases h
      exact .inr ⟨hpromised, hunique⟩
    · exact .inl ⟨row, h, rfl, rfl, fun hr => hr⟩
  | revoked k old ctx hctx hold horg hset =>
    rw [hset, Dict.get?_set] at h
    split at h
    · next heq =>
      cases h
      exact .inl ⟨old, heq ▸ hold, rfl, rfl, fun _ => rfl⟩
    · exact .inl ⟨row, h, rfl, rfl, fun hr => hr⟩

/-- **行の期限は、それを作った要求の約束したもののまま変わらない。** -/
theorem promised_exec (users : Dict String User) (orgs : Dict String Organization)
    {evs : List (Event Tok)} {id : String} {row : ApiKey}
    (h : (Run.exec (Service.step app) (boot users orgs) evs).db.apiKeys.get? id = some row) :
    ∃ ev ∈ evs, Promises row.expiresAt ev := by
  let P (s : Service) : Prop :=
    ∃ row', s.db.apiKeys.get? id = some row' ∧ row'.expiresAt = row.expiresAt
  have hstep : ∀ (s : Service) (ev : Event Tok),
      P (s.step app ev) → P s ∨ Promises row.expiresAt ev := by
    rintro s ev ⟨row', hrow', hsame⟩
    rcases apiKey_step hrow' with ⟨old, hold, -, hexpires, -⟩ | ⟨hpromises, -⟩
    · exact .inl ⟨old, hold, hexpires.symm.trans hsame⟩
    · exact .inr (hsame ▸ hpromises)
  rcases Run.exists_of_exec hstep ⟨row, h, rfl⟩ with ⟨_, hboot, -⟩ | hev
  · cases hboot
  · exact hev

/-! ## key の行 -/

/-- 同じ hash の行は一つしかない。 -/
def HashesUnique (s : Service) : Prop :=
  ∀ id id' row row', s.db.apiKeys.get? id = some row → s.db.apiKeys.get? id' = some row' →
    row.keyHash = row'.keyHash → id = id'

theorem hashesUnique_step (ev : Event Tok) (h : HashesUnique s) : HashesUnique (s.step app ev) := by
  cases keyChanges_step app s ev with
  | kept heq =>
    unfold HashesUnique
    rw [heq]
    exact h
  | created k new ctx hctx hfresh horg howner hpromised hunique hset =>
    have hother : ∀ id row, s.db.apiKeys.get? id = some row → row.keyHash ≠ new.keyHash :=
      fun id row hrow => hunique row ((Dict.mem_values_iff _ _).mpr ⟨id, hrow⟩)
    intro id id' row row' hrow hrow' hhash
    rw [hset, Dict.get?_set] at hrow hrow'
    split at hrow <;> split at hrow'
    · next hk hk' => rw [← hk, ← hk']
    · cases hrow
      exact absurd hhash.symm (hother id' row' hrow')
    · cases hrow'
      exact absurd hhash (hother id row hrow)
    · exact h id id' row row' hrow hrow' hhash
  | revoked k old ctx hctx hold horg hset =>
    -- 取り消しても hash は変わらない
    have hback : ∀ id row, (s.step app ev).db.apiKeys.get? id = some row →
        ∃ before, s.db.apiKeys.get? id = some before ∧ before.keyHash = row.keyHash := by
      intro id row hrow
      rw [hset, Dict.get?_set] at hrow
      split at hrow
      · next heq =>
        cases hrow
        exact ⟨old, heq ▸ hold, rfl⟩
      · exact ⟨row, hrow, rfl⟩
    intro id id' row row' hrow hrow' hhash
    obtain ⟨before, hbefore, hsame⟩ := hback id row hrow
    obtain ⟨before', hbefore', hsame'⟩ := hback id' row' hrow'
    exact h id id' before before' hbefore hbefore' (by rw [hsame, hsame', hhash])

theorem hashesUnique_boot (users : Dict String User) (orgs : Dict String Organization) :
    HashesUnique (boot users orgs) := by
  intro id id' row row' hrow
  cases hrow

variable (app) in
/-- 示された key の行。取り消されず、持ち主が有効である。 -/
structure Live (s : Service) (ev : Event Tok) (row : ApiKey) : Prop where
  presented : ev.2.request.apiKey ≠ ""
  hash : row.keyHash = app.crypto.sha256 ev.2.request.apiKey
  exists_id : ∃ id, s.db.apiKeys.get? id = some row
  unrevoked : row.revoked = false
  owner : ∃ owner, s.db.users.get? row.userId = some owner ∧ owner.isActive = true

/-- key を通すのは、取り消されず、持ち主の有効な行があるときである。期限は見ない。 -/
theorem currentUser_isOk_iff (hunique : HashesUnique s) (hkey : ev.2.request.apiKey ≠ "") :
    (∃ ctx, s.currentUser app ev.1 ev.2.request = .ok ctx) ↔ ∃ row, Live app s ev row := by
  unfold Service.currentUser getCurrentUser
  rw [if_pos hkey]
  unfold apiKeyUser
  constructor
  · rintro ⟨ctx, h⟩
    split at h
    · cases h
    · next row hfind =>
      obtain ⟨id, hid⟩ := (Dict.mem_values_iff _ _).mp (List.mem_of_find?_eq_some hfind)
      split at h
      · cases h
      · next hrevoked =>
        split at h
        · cases h
        · next owner howner =>
          split at h
          · next hactive =>
            have hhash : row.keyHash = app.crypto.sha256 ev.2.request.apiKey := by
              simpa using List.find?_some hfind
            exact ⟨row, hkey, hhash, ⟨id, hid⟩, Bool.not_eq_true _ ▸ hrevoked, owner, howner, hactive⟩
          · cases h
  · rintro ⟨row, hlive⟩
    obtain ⟨id, hid⟩ := hlive.exists_id
    obtain ⟨owner, howner, hactive⟩ := hlive.owner
    have hfind : s.db.apiKeys.values.find?
        (fun row => decide (row.keyHash = app.crypto.sha256 ev.2.request.apiKey)) = some row := by
      have hmem : row ∈ s.db.apiKeys.values := (Dict.mem_values_iff _ _).mpr ⟨id, hid⟩
      cases hfound : s.db.apiKeys.values.find?
          (fun row => decide (row.keyHash = app.crypto.sha256 ev.2.request.apiKey)) with
      | none =>
        have hnone := List.find?_eq_none.mp hfound row hmem
        exact absurd (decide_eq_true hlive.hash) hnone
      | some found =>
        obtain ⟨id', hid'⟩ := (Dict.mem_values_iff _ _).mp (List.mem_of_find?_eq_some hfound)
        have hhash : found.keyHash = app.crypto.sha256 ev.2.request.apiKey := by
          simpa using List.find?_some hfound
        obtain rfl := hunique id' id found row hid' hid (hhash.trans hlive.hash.symm)
        exact hid'.symm.trans hid
    refine ⟨⟨row.userId, owner.email, owner.orgId, owner.role.value, .apiKey⟩, ?_⟩
    simp only [hfind, hlive.unrevoked, howner, hactive]
    rfl

/-! ## 期限 -/

variable (app) in
/-- 通した key の行はあり、取り消されず、期限の前で、持ち主が有効である。 -/
def Honoured (s : Service) (ev : Event Tok) : Prop :=
  ev.2.request.apiKey ≠ "" → ∀ ctx, s.currentUser app ev.1 ev.2.request = .ok ctx →
    ∃ row, Live app s ev row ∧ ∀ expires, row.expiresAt = some expires → (ev.1.now : Int) < expires

variable (app) in
/-- 要求は、他の条件はすべて満たすが期限の過ぎた key を示す。 -/
def Lapsed (s : Service) (ev : Event Tok) : Prop :=
  ∃ row expires, Live app s ev row ∧ row.expiresAt = some expires ∧ expires ≤ ev.1.now

theorem honoured_step_iff (hunique : HashesUnique s) (ev : Event Tok) :
    Honoured app s ev ↔ ¬Lapsed app s ev := by
  have hsame : ∀ row row', Live app s ev row → Live app s ev row' → row = row' := by
    intro row row' hrow hrow'
    obtain ⟨id, hid⟩ := hrow.exists_id
    obtain ⟨id', hid'⟩ := hrow'.exists_id
    obtain rfl := hunique id id' row row' hid hid' (hrow.hash.trans hrow'.hash.symm)
    exact Option.some.inj (hid.symm.trans hid')
  constructor
  · rintro h ⟨row, expires, hlive, hexpires, hle⟩
    obtain ⟨ctx, hctx⟩ := (currentUser_isOk_iff hunique hlive.presented).mpr ⟨row, hlive⟩
    obtain ⟨row', hlive', hbefore⟩ := h hlive.presented ctx hctx
    obtain rfl := hsame row row' hlive hlive'
    have hlt := hbefore expires hexpires
    omega
  · intro h hkey ctx hctx
    obtain ⟨row, hlive⟩ := (currentUser_isOk_iff hunique hkey).mp ⟨ctx, hctx⟩
    refine ⟨row, hlive, fun expires hexpires => ?_⟩
    by_contra hle
    exact h ⟨row, expires, hlive, hexpires, by omega⟩

/--
**どの要求でも通した key が約束どおり有効なのは、期限の過ぎた key を示す要求が、取り消しと持ち主の停止
のほかに退けるものの無いまま、届かない run である。**
-/
theorem honoured_iff (app : App Tok) (users : Dict String User) (orgs : Dict String Organization)
    (evs : List (Event Tok)) :
    Run.Along (Service.step app) (Honoured app) (boot users orgs) evs ↔
      Run.Along (Service.step app) (fun s ev => ¬Lapsed app s ev) (boot users orgs) evs := by
  have hunique : Run.Along (Service.step app) (fun s _ => HashesUnique s) (boot users orgs) evs :=
    Run.along_of_invariant (fun _ ev h => hashesUnique_step ev h) evs (hashesUnique_boot users orgs)
  exact Run.along_congr (fun _ ev h => honoured_step_iff h ev) hunique

/-- 一日の期限の key を作り、二日の後に使う。 -/
def staleKey : List (Event Claims) :=
  [anaLogin,
   ({ now := 1010, tokenHex := fun _ => "b0" },
    .createApiKey { bearer := some anaSession } (some (some 1))),
   ({ now := 173810 }, .other { apiKey := "cp_b0" })]

/-- 期限の過ぎた key が通る。 -/
theorem not_honoured_staleKey :
    ¬Run.Along (Service.step plainApp) (Honoured plainApp) (boot plainUser Dict.empty) staleKey := by
  rw [Run.along_iff]
  intro h
  obtain ⟨row, hlive, hbefore⟩ := h (staleKey.take 2) _ List.prefix_rfl (by decide)
    ⟨"user-1", "ana@example.org", "org-1", "admin", .apiKey⟩ rfl
  obtain ⟨id, hid⟩ := hlive.exists_id
  have hrows : (Run.exec (Service.step plainApp) (boot plainUser Dict.empty)
      (staleKey.take 2)).db.apiKeys = Dict.empty.set "key-0"
        { orgId := "org-1", userId := "user-1", keyHash := "cp_b0", expiresAt := some 87410 } := rfl
  rw [hrows, Dict.get?_set] at hid
  split at hid
  · cases hid
    exact absurd (hbefore 87410 rfl) (by decide)
  · cases hid

end CipherPost.Api
