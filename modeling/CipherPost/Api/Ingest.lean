import CipherPost.Infra.Json

/-!
# sensor の口

`app/api/main.py` の `ingest_sessions`。agent token の org を payload に stamp し、entry ごとに session
stream へ出す。entry の publish の失敗は `rejected` に数えるだけで、応答は 200 である。

* `entryOk` — 受け付ける entry の条件
* `stamp` — stamp された payload
* `checkRequest` — entry の処理に入る前の確認
* `ingestSessions` — 応答と、stream に出た payload
-/

namespace CipherPost.Api

/-- 設定値。 -/
structure IngestConfig where
  ingestMaxBatch : Nat := 200
  ingestMaxQueue : Nat := 5000

/-- `AgentToken` の row。 -/
structure AgentToken where
  name : String
  orgId : String
  revoked : Bool := false
  expiresAt : Option Nat := none

/-- 要求一つと、その間の DB と Redis の様子。 -/
structure IngestRequest where
  /-- `X-Agent-Token` がある。 -/
  hasToken : Bool := true
  /-- token の hash に対応する row。 -/
  token : Option AgentToken
  /-- body の JSON。読めなければ `none`。 -/
  body : Option Json
  /-- 時刻（µs）。 -/
  now : Nat
  /-- session stream の長さ。Redis が応答しなければ `none`。 -/
  xlen : Option Nat := some 0
  /-- `i` 番目の entry の XADD が成功する。 -/
  publishOk : Nat → Bool := fun _ => true

/-- 拒む応答。 -/
inductive Refusal where
  | error (code : Nat) (detail : String)
  /-- 429。 -/
  | backedUp
  deriving Repr, DecidableEq

/-- 応答。 -/
inductive IngestResponse where
  | refused (r : Refusal)
  | ok (accepted rejected : Nat) (orgId : String)
  deriving Repr, DecidableEq

/-- 辞書であり、`five_tuple` と `protocol` が空でない。 -/
def entryOk (entry : Json) : Bool :=
  entry.isObj && ((entry.get? "five_tuple").any Json.truthy) &&
    ((entry.get? "protocol").any Json.truthy)

/-- stamp された payload。token の org が常に勝つ。`ingested_at` は秒である。 -/
def stamp (token : AgentToken) (now : Nat) (entry : Json) : Json :=
  ((entry.set "org_id" (.str token.orgId)).set "agent" (.str token.name)).set "ingested_at"
    (.float (now / 1000000))

/-- entry の列のうち、stream に出たもの。`i` は先頭の番号である。 -/
def publishEntries (token : AgentToken) (now : Nat) (publishOk : Nat → Bool) :
    Nat → List Json → List Json
  | _, [] => []
  | i, entry :: rest =>
    let published := publishEntries token now publishOk (i + 1) rest
    if entryOk entry && publishOk i then stamp token now entry :: published else published

/-- token の確認。 -/
def checkToken (req : IngestRequest) : Except Refusal AgentToken :=
  if !req.hasToken then .error (.error 401 "Agent token required")
  else
    match req.token with
    | none => .error (.error 401 "Invalid agent token")
    | some token =>
      if token.revoked then .error (.error 401 "Invalid agent token")
      else if token.expiresAt.any (fun t => decide (t ≤ req.now)) then
        .error (.error 401 "Agent token expired")
      else .ok token

/-- body の `sessions`。辞書でない body の `data.get` は AttributeError である。 -/
def readSessions (req : IngestRequest) : Except Refusal (List Json) :=
  match req.body with
  | none => .error (.error 400 "Invalid JSON body (or bad gzip)")
  | some (.obj d) =>
    match DictList.get? "sessions" d with
    | some (.arr (entry :: rest)) => .ok (entry :: rest)
    | _ => .error (.error 400 "sessions must be a non-empty list")
  | some _ => .error (.error 500 "Internal Server Error")

/-- batch と stream の大きさの確認。 -/
def checkLoad (cfg : IngestConfig) (req : IngestRequest) (sessions : List Json) :
    Except Refusal Unit :=
  if cfg.ingestMaxBatch < sessions.length then
    .error (.error 413 ("Batch over limit (" ++ toString cfg.ingestMaxBatch ++ ")"))
  else if req.xlen.any (fun n => decide (cfg.ingestMaxQueue < n)) then .error .backedUp
  else .ok ()

/-- entry の処理に入る前まで。 -/
def checkRequest (cfg : IngestConfig) (req : IngestRequest) :
    Except Refusal (AgentToken × List Json) := do
  let token ← checkToken req
  let sessions ← readSessions req
  checkLoad cfg req sessions
  .ok (token, sessions)

/-- `ingest_sessions`。応答と、stream に出た payload。 -/
def ingestSessions (cfg : IngestConfig) (req : IngestRequest) : IngestResponse × List Json :=
  match checkRequest cfg req with
  | .error r => (.refused r, [])
  | .ok (token, sessions) =>
    let published := publishEntries token req.now req.publishOk 0 sessions
    (.ok published.length (sessions.length - published.length) token.orgId, published)

/-- token が通った要求。 -/
theorem checkToken_eq_ok {req : IngestRequest} {token : AgentToken}
    (h : checkToken req = .ok token) : req.token = some token := by
  unfold checkToken at h
  cases hh : req.hasToken with
  | false => simp [hh] at h
  | true =>
    cases ht : req.token with
    | none => simp [hh, ht] at h
    | some t =>
      simp only [hh, ht, Bool.not_true, Bool.false_eq_true, if_false] at h
      by_cases hr : t.revoked = true
      · simp [hr] at h
      · by_cases he : t.expiresAt.any (fun x => decide (x ≤ req.now)) = true
        · simp [hr, he] at h
        · simp only [hr, he, Bool.false_eq_true, if_false, Except.ok.injEq] at h
          rw [h]

/-- 処理に入った要求の token と `sessions`。 -/
theorem checkRequest_eq_ok {cfg : IngestConfig} {req : IngestRequest} {token : AgentToken}
    {sessions : List Json} (h : checkRequest cfg req = .ok (token, sessions)) :
    req.token = some token ∧ readSessions req = .ok sessions := by
  unfold checkRequest at h
  cases ht : checkToken req with
  | error e => simp [ht, bind, Except.bind] at h
  | ok t =>
    cases hs : readSessions req with
    | error e => simp [ht, hs, bind, Except.bind] at h
    | ok l =>
      cases hl : checkLoad cfg req l with
      | error e => simp [ht, hs, hl, bind, Except.bind] at h
      | ok u =>
        simp only [ht, hs, hl, bind, Except.bind, Except.ok.injEq, Prod.mk.injEq] at h
        exact ⟨h.1 ▸ checkToken_eq_ok ht, congrArg Except.ok h.2⟩

theorem readSessions_eq_ok {req : IngestRequest} {d : List (String × Json)} {sessions : List Json}
    (hb : req.body = some (.obj d)) (hs : DictList.get? "sessions" d = some (.arr sessions))
    {l : List Json} (h : readSessions req = .ok l) : l = sessions := by
  simp only [readSessions, hb, hs] at h
  cases sessions with
  | nil => cases h
  | cons entry rest => exact (Except.ok.inj h).symm

/-- 200 の要求の stream は、token の下で出された `sessions` の entry である。 -/
theorem ingestSessions_ok {cfg : IngestConfig} {req : IngestRequest} {accepted rejected : Nat}
    {orgId : String} (h : (ingestSessions cfg req).1 = .ok accepted rejected orgId) :
    ∃ token sessions, req.token = some token ∧ readSessions req = .ok sessions ∧
      (ingestSessions cfg req).2 = publishEntries token req.now req.publishOk 0 sessions := by
  unfold ingestSessions at h ⊢
  cases ha : checkRequest cfg req with
  | error r => simp [ha] at h
  | ok p =>
    obtain ⟨token, sessions⟩ := p
    obtain ⟨ht, hs⟩ := checkRequest_eq_ok ha
    exact ⟨token, sessions, ht, hs, rfl⟩

end CipherPost.Api
