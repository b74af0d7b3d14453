import CipherPost.Api.ConsoleIsolation
import CipherPost.Api.Ingest

/-!
# agent token の一生

管理の口が出す agent token と、それを確かめる sensor の口（`ingest_sessions`）をつなぐ。token の表は hash だけを持ち、
出した token そのものは応答で一度見えるだけである。

ある時に token が通るのは、ちょうど、その token が出されていて、その後に取り消されておらず、期限が来ていないときで
ある。通った要求の session には、それを出した admin の org が付く。hash については、出された token のうち見せられた
ものと hash が重なるものが無いことだけを使う。

* `ingestToken` — 見せられた token の行
* `Issues`・`Revokes` — 出すことと、取り消すこと
* `authenticates_iff` — 通る条件
* `ingested_org` — 付く org
-/

namespace CipherPost.Api.Console

open CipherPost.Core CipherPost.Live CipherPost.Proactive

/-- `select(AgentToken).where(key_hash == hash_api_key(raw)).first()`。 -/
def tokenRow (app : App) (s : Console) (raw : String) : Option TokenRow :=
  s.tokens.values.find? fun t => decide (t.keyHash = app.sha256 raw)

/-- `ingest_sessions` の読む token。時刻は µs で、1970 年より前の期限はいつでも過ぎている。 -/
def ingestToken (app : App) (s : Console) (raw : String) : Option AgentToken :=
  (tokenRow app s raw).map fun t => ⟨t.name, t.orgId, t.revoked, t.expiresAt.map Int.toNat⟩

/-- 番号 `id` で、token `raw` の行を足す。 -/
def Issues (app : App) (raw id : String) (row : TokenRow) (s : Console) (ev : Event) : Prop :=
  rawToken ev.env = raw ∧ ∃ e note, Commits app s ev e note ∧ e.change = .addToken id row

/-- 番号 `id` の token を取り消す。 -/
def Revokes (app : App) (id : String) (s : Console) (ev : Event) : Prop :=
  ∃ e note row, Commits app s ev e note ∧ e.change = .setToken id row

variable {app : App} {s : Console} {ev : Event} {id raw : String} {row : TokenRow}

/-- token を出すのは admin で、行はその org のものである。 -/
theorem Issues.facts (h : Issues app raw id row s ev) :
    IsAdmin ev.ctx ∧ row.orgId = ev.ctx.orgId ∧ row.keyHash = app.sha256 raw ∧
      row.revoked = false := by
  obtain ⟨hraw, e, note, hc, hchange⟩ := h
  have hmade := made_of_plan hc.1
  rw [hchange] at hmade
  obtain ⟨hadmin, -, horg, hhash, hrevoked⟩ := hmade
  exact ⟨hadmin, horg, by rw [hhash, hraw], hrevoked⟩

/-! ## 一歩 -/

theorem tokens_step {e : Effect} {note : Note} (hc : Commits app s ev e note) :
    (step app s ev).tokens = (s.apply e.change).tokens := by
  unfold step
  rw [handle_of_commits hc]
  unfold logAudit
  split <;> rfl

/-- 取り消されていない行は、出したときに現れ、取り消したときに消える。 -/
theorem live_step (hrow : row.revoked = false) :
    (step app s ev).tokens.get? id = some row ↔
      (∃ e note, Commits app s ev e note ∧ e.change = .addToken id row) ∨
        (s.tokens.get? id = some row ∧ ¬Revokes app id s ev) := by
  rcases handle_cases app s ev with ⟨e, note, hc⟩ | ⟨hn, hs⟩
  · have hadd : (∃ e note, Commits app s ev e note ∧ e.change = .addToken id row) ↔
        e.change = .addToken id row := by
      constructor
      · rintro ⟨e', note', hc', hchange⟩
        rwa [Except.ok.inj (hc'.1.symm.trans hc.1)] at hchange
      · exact fun h => ⟨e, note, hc, h⟩
    have hrevoke : Revokes app id s ev ↔ ∃ row, e.change = .setToken id row := by
      constructor
      · rintro ⟨e', note', row, hc', hchange⟩
        rw [Except.ok.inj (hc'.1.symm.trans hc.1)] at hchange
        exact ⟨row, hchange⟩
      · rintro ⟨row, h⟩
        exact ⟨e, note, row, hc, h⟩
    have hmade := made_of_plan hc.1
    have hfree := hc.2.2.2
    rw [tokens_step hc, hadd, hrevoke]
    cases hchange : e.change with
    | addToken id' row' =>
      rw [hchange] at hfree
      have hset : (s.apply (.addToken id' row')).tokens = s.tokens.set id' row' := rfl
      rw [hset, Dict.get?_set]
      by_cases hid : id' = id
      · -- 使われている番号では出せない
        subst hid
        have hnone : s.tokens.get? id' = none :=
          Option.isNone_iff_eq_none.mp (Bool.and_eq_true_iff.mp hfree).1
        simp [hnone]
      · simp [hid]
    | setToken id' row' =>
      rw [hchange] at hmade
      obtain ⟨-, old, hold, -, hnew⟩ := hmade
      have hset : (s.apply (.setToken id' row')).tokens = s.tokens.set id' row' := rfl
      rw [hset, Dict.get?_set]
      by_cases hid : id' = id
      · have hne : row' ≠ row := by
          intro heq
          rw [← heq, hnew] at hrow
          cases hrow
        simp [hid, hne]
      · simp [hid]
    | _ => simp [apply]
  · rw [hs]
    constructor
    · refine fun h => .inr ⟨h, ?_⟩
      rintro ⟨e, note, row, hc, -⟩
      exact hn e note hc
    · rintro (⟨e, note, hc, -⟩ | ⟨h, -⟩)
      · exact absurd hc (hn e note)
      · exact h

/-- hash の等しい行は一つしかない。 -/
def UniqueHashes (s : Console) : Prop :=
  ∀ id id' row row', s.tokens.get? id = some row → s.tokens.get? id' = some row' →
    row.keyHash = row'.keyHash → id = id'

theorem uniqueHashes_step (h : UniqueHashes s) : UniqueHashes (step app s ev) := by
  rcases handle_cases app s ev with ⟨e, note, hc⟩ | ⟨-, hs⟩
  · have hmade := made_of_plan hc.1
    have hfree := hc.2.2.2
    intro id id' row row' hget hget' hhash
    rw [tokens_step hc] at hget hget'
    cases hchange : e.change with
    | addToken key new =>
      rw [hchange] at hfree hget hget'
      have hset : (s.apply (.addToken key new)).tokens = s.tokens.set key new := rfl
      rw [hset, Dict.get?_set] at hget hget'
      -- 足す行の hash は、どの行のものとも異なる
      have hnew : ∀ k r, s.tokens.get? k = some r → r.keyHash ≠ new.keyHash := by
        intro k r hr
        exact of_decide_eq_true (List.all_eq_true.mp (Bool.and_eq_true_iff.mp hfree).2 r
          ((Dict.mem_values_iff _ _).mpr ⟨k, hr⟩))
      split at hget
      · next hk =>
        split at hget'
        · next hk' => exact hk.symm.trans hk'
        · rw [← Option.some.inj hget] at hhash
          exact absurd hhash.symm (hnew id' row' hget')
      · split at hget'
        · rw [← Option.some.inj hget'] at hhash
          exact absurd hhash (hnew id row hget)
        · exact h id id' row row' hget hget' hhash
    | setToken key new =>
      rw [hchange] at hmade hget hget'
      obtain ⟨-, old, hold, -, hnew⟩ := hmade
      have hset : (s.apply (.setToken key new)).tokens = s.tokens.set key new := rfl
      rw [hset, Dict.get?_set] at hget hget'
      have hkeep : new.keyHash = old.keyHash := by rw [hnew]
      split at hget
      · next hk =>
        split at hget'
        · next hk' => exact hk.symm.trans hk'
        · rw [← Option.some.inj hget, hkeep] at hhash
          exact hk ▸ h key id' old row' hold hget' hhash
      · split at hget'
        · next hk' =>
          rw [← Option.some.inj hget', hkeep] at hhash
          exact hk' ▸ h id key row old hget hold hhash
        · exact h id id' row row' hget hget' hhash
    | _ => rw [hchange] at hget hget'; exact h id id' row row' hget hget' hhash
  · rw [hs]
    exact h

/-! ## 実行 -/

theorem of_tokenRow (h : tokenRow app s raw = some row) :
    row ∈ s.tokens.values ∧ row.keyHash = app.sha256 raw :=
  ⟨List.mem_of_find?_eq_some h, of_decide_eq_true
    (List.find?_some (p := fun t : TokenRow => decide (t.keyHash = app.sha256 raw)) h)⟩

/-- 通る token の行は、hash の合う、取り消されていない行である。 -/
theorem tokenRow_eq_some_iff (huniq : UniqueHashes s) :
    tokenRow app s raw = some row ↔
      (∃ id, s.tokens.get? id = some row) ∧ row.keyHash = app.sha256 raw := by
  constructor
  · intro h
    exact (of_tokenRow h).imp_left (Dict.mem_values_iff _ _).mp
  · rintro ⟨⟨id, hid⟩, hhash⟩
    cases hfind : tokenRow app s raw with
    | none =>
      have hnone := List.find?_eq_none.mp hfind row ((Dict.mem_values_iff _ _).mpr ⟨id, hid⟩)
      exact absurd (decide_eq_true hhash) hnone
    | some row' =>
      obtain ⟨hmem, hhash'⟩ := of_tokenRow hfind
      obtain ⟨id', hid'⟩ := (Dict.mem_values_iff _ _).mp hmem
      have heq := huniq id' id row' row hid' hid (hhash'.trans hhash.symm)
      rw [heq] at hid'
      exact hid'.symm.trans hid

/-- token の確認が通るのは、取り消されておらず、期限の来ていない行があるときである。 -/
theorem checkToken_iff (req : IngestRequest) (hreq : req.token = ingestToken app s raw)
    (hhas : req.hasToken = true) {tok : AgentToken} :
    checkToken req = .ok tok ↔ ∃ row, tokenRow app s raw = some row ∧ row.revoked = false ∧
      (∀ t ∈ row.expiresAt, (req.now : Int) < t) ∧
      tok = ⟨row.name, row.orgId, row.revoked, row.expiresAt.map Int.toNat⟩ := by
  unfold checkToken ingestToken at *
  rw [hhas, hreq]
  cases hfind : tokenRow app s raw with
  | none => simp
  | some row =>
    simp only [Bool.not_true, Bool.false_eq_true, if_false, Option.map_some, Option.some.injEq]
    by_cases hrevoked : row.revoked = true
    · simp [hrevoked]
    · have hrev : row.revoked = false := by simpa using hrevoked
      rw [if_neg (by rw [hrev]; exact Bool.false_ne_true)]
      cases hexp : row.expiresAt with
      | none =>
        simp only [Option.map_none, Option.any_none, Bool.false_eq_true, if_false, Except.ok.injEq,
          exists_eq_left', hrev, hexp, Option.mem_def, reduceCtorEq, false_implies, implies_true,
          true_and]
        exact eq_comm
      | some t =>
        simp only [Option.map_some, Option.any_some, decide_eq_true_eq]
        by_cases ht : t.toNat ≤ req.now
        · have hnot : ¬(req.now : Int) < t := by omega
          simp [ht, hexp, hnot]
        · have hlt : (req.now : Int) < t := by omega
          simp only [ht, if_false, Except.ok.injEq, exists_eq_left', hrev, hexp, Option.mem_def,
            Option.some.injEq, forall_eq', hlt, true_and, Option.map_some]
          exact eq_comm

section Runs

variable (hinit : s.tokens = Dict.empty) (evs : List Event)
  (hcol : ∀ ev ∈ evs, app.sha256 (rawToken ev.env) = app.sha256 raw → rawToken ev.env = raw)

include hinit

/-- 取り消されていない行は、出されて、その後に取り消されていない行である。 -/
theorem live_iff (hrow : row.revoked = false) :
    (Run.exec (step app) s evs).tokens.get? id = some row ↔
      Run.Since (step app)
        (fun s ev => ∃ e note, Commits app s ev e note ∧ e.change = .addToken id row)
        (Revokes app id) s evs := by
  refine Run.since_iff (I := fun _ => True) trivial (fun _ _ _ => trivial)
    (R := fun s : Console => s.tokens.get? id = some row) (fun h => ?_)
    (fun _ _ _ => live_step hrow) evs
  rw [hinit] at h
  cases h

theorem uniqueHashes_of_run : UniqueHashes (Run.exec (step app) s evs) :=
  Run.invariant (fun _ _ h => uniqueHashes_step h) evs fun id _ row _ hget _ _ => by
    rw [hinit] at hget
    cases hget

include hcol

/-- 見せられた token の行は、その token として出されて、その後に取り消されていない行である。 -/
theorem tokenRow_iff_since :
    (tokenRow app (Run.exec (step app) s evs) raw = some row ∧ row.revoked = false) ↔
      ∃ id, Run.Since (step app) (Issues app raw id row) (Revokes app id) s evs := by
  rw [tokenRow_eq_some_iff (uniqueHashes_of_run hinit evs)]
  constructor
  · rintro ⟨⟨⟨id, hid⟩, hhash⟩, hrow⟩
    obtain ⟨pre, ev, hpre, ⟨e, note, hc, hchange⟩, hafter⟩ := (live_iff hinit evs hrow).mp hid
    have hmade := made_of_plan hc.1
    rw [hchange] at hmade
    have hraw : rawToken ev.env = raw := by
      refine hcol ev (hpre.subset (List.mem_append_right _ (List.mem_singleton_self _))) ?_
      rw [← hmade.2.2.2.1, hhash]
    exact ⟨id, pre, ev, hpre, ⟨hraw, e, note, hc, hchange⟩, hafter⟩
  · rintro ⟨id, pre, ev, hpre, hissue, hafter⟩
    obtain ⟨-, -, hhash, hrow⟩ := hissue.facts
    exact ⟨⟨⟨id, (live_iff hinit evs hrow).mpr ⟨pre, ev, hpre, hissue.2, hafter⟩⟩, hhash⟩, hrow⟩

end Runs

/-! ## session の org -/

/-- stamp された payload の org は、token のものである。 -/
theorem org_of_stamp {tok : AgentToken} {now : Nat} {entry : Json} (h : entry.isObj = true) :
    (stamp tok now entry).get? "org_id" = some (.str tok.orgId) := by
  cases entry with
  | obj fields =>
    -- 後の二つの代入は、org を変えない
    unfold stamp
    rw [Json.get?_set_of_ne (by decide), Json.get?_set_of_ne (by decide), Json.get?_set_obj,
      if_pos rfl]
  | _ => cases h

/-- stream に出る payload の org は、確認の通った token のものである。 -/
theorem org_of_published {cfg : IngestConfig} {req : IngestRequest} {p : Json}
    (h : p ∈ (ingestSessions cfg req).2) :
    ∃ tok, checkToken req = .ok tok ∧ p.get? "org_id" = some (.str tok.orgId) := by
  have hpublished : ∀ (tok : AgentToken) (l : List Json) (i : Nat),
      p ∈ publishEntries tok req.now req.publishOk i l →
        p.get? "org_id" = some (.str tok.orgId) := by
    intro tok l
    induction l with
    | nil => exact fun i h => absurd h List.not_mem_nil
    | cons entry l ih =>
      intro i h
      unfold publishEntries at h
      dsimp only at h
      split at h
      · next hok =>
        rcases List.mem_cons.mp h with rfl | h
        · have hobj : entry.isObj = true := by
            simp only [entryOk, Bool.and_eq_true] at hok
            exact hok.1.1.1
          exact org_of_stamp hobj
        · exact ih _ h
      · exact ih _ h
  unfold ingestSessions at h
  cases hcheck : checkRequest cfg req with
  | error r =>
    rw [hcheck] at h
    exact absurd h List.not_mem_nil
  | ok pair =>
    obtain ⟨tok, sessions⟩ := pair
    rw [hcheck] at h
    refine ⟨tok, ?_, hpublished tok sessions 0 h⟩
    unfold checkRequest at hcheck
    cases ht : checkToken req with
    | error e => simp [ht, bind, Except.bind] at hcheck
    | ok t =>
      cases hs : readSessions req with
      | error e => simp [ht, hs, bind, Except.bind] at hcheck
      | ok l =>
        cases hl : checkLoad cfg req l with
        | error e => simp [ht, hs, hl, bind, Except.bind] at hcheck
        | ok u =>
          simp only [ht, hs, hl, bind, Except.bind, Except.ok.injEq, Prod.mk.injEq] at hcheck
          rw [hcheck.1]

/--
**session の org。** 空から始まるどの呼び出しの列の後でも、token `raw` を見せた要求が stream に出す payload の org は、
その token を出した admin の org である。token は出された後に取り消されていない。sensor の書いた org は残らない。
-/
theorem ingested_org (hinit : s.tokens = Dict.empty) (evs : List Event)
    (hcol : ∀ ev ∈ evs, app.sha256 (rawToken ev.env) = app.sha256 raw → rawToken ev.env = raw)
    {cfg : IngestConfig} {req : IngestRequest}
    (hreq : req.token = ingestToken app (Run.exec (step app) s evs) raw)
    {p : Json} (hp : p ∈ (ingestSessions cfg req).2) :
    ∃ org id row, Run.Since (step app)
        (fun s ev => Issues app raw id row s ev ∧ IsAdmin ev.ctx ∧ ev.ctx.orgId = org)
        (Revokes app id) s evs ∧
      p.get? "org_id" = some (.str org) := by
  obtain ⟨tok, hcheck, horg⟩ := org_of_published hp
  have hhas : req.hasToken = true := by
    by_contra hno
    unfold checkToken at hcheck
    rw [if_pos (by simpa using hno)] at hcheck
    cases hcheck
  obtain ⟨row, hfind, hrow, -, rfl⟩ := (checkToken_iff req hreq hhas).mp hcheck
  obtain ⟨id, pre, ev, hpre, hissue, hafter⟩ :=
    (tokenRow_iff_since hinit evs hcol).mp ⟨hfind, hrow⟩
  obtain ⟨hadmin, hown, -⟩ := hissue.facts
  exact ⟨row.orgId, id, row, ⟨pre, ev, hpre, ⟨hissue, hadmin, hown.symm⟩, hafter⟩, horg⟩

/-! ## 例 -/

/-- 期限の無い token を出す。 -/
def issues : Event where
  env := { now := 0, tokenHex := "aa" }
  ctx := adminOf "org-a"
  call := .createAgentToken [("name", .str "sensor-1")]

/-- 出した token を取り消す。 -/
def revokes : Event where
  env := { now := 5, auditId := 2 }
  ctx := adminOf "org-a"
  call := .revokeAgentToken "at-0"

/-- token を見せる要求。 -/
def presents (evs : List Event) : IngestRequest where
  token := ingestToken plainApp (Run.exec (step plainApp) {} evs) "cpat_aa"
  body := some (.obj [("sessions", .arr [.obj [("five_tuple", .str "t"), ("protocol", .str "smtp"),
    ("org_id", .str "org-b")]])])
  now := 10

/-- sensor の書いた org は、token の org に置き換わる。 -/
theorem ingested_org_stamped :
    ∃ p ∈ (ingestSessions {} (presents [issues])).2, ∃ org id row,
      Run.Since (step plainApp)
        (fun s ev => Issues plainApp "cpat_aa" id row s ev ∧ IsAdmin ev.ctx ∧ ev.ctx.orgId = org)
        (Revokes plainApp id) {} [issues] ∧
      p.get? "org_id" = some (.str org) := by
  have hmem : (ingestSessions {} (presents [issues])).2 ≠ [] := List.cons_ne_nil _ _
  have hp := List.head_mem hmem
  exact ⟨_, hp, ingested_org rfl [issues] (fun _ _ h => h) rfl hp⟩

end CipherPost.Api.Console
