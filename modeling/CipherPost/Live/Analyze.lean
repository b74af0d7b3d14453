import CipherPost.Infra.PyMax
import CipherPost.Live.Streams

/-!
# analysis worker

`app/live/analyze.py` の `AnalysisWorker`。session stream の entry を解析し、row を DB に書き、
findings stream へ payload を出して、entry を ack する。三つは別々の作用である。

* `deterministicSessionId` — 再配達で重複しない session の id
* `findingsPayload` — findings stream に出す payload
* `AnalysisWorker.handleEntry` — `_handle_entry` が行う命令の列
* `AnalysisWorker.step` — 事象一つ

ここでは、解析（`session_from_payload` と `analyze_session`）と SHA-256 は引数 `Engine` とし、
採点と flow の照合の結果は呼び出しごとの環境 `WorkEnv` が与える。
-/

namespace CipherPost.Live

/-! ## session の payload -/

/-- session stream の dict。数値は `str` にした文字列で持つ。 -/
structure SessionPayload where
  protocol : Field String := .absent
  fiveTuple : Field String := .absent
  startTs : Field String := .absent
  endTs : Field String := .absent
  clientIp : Field String := .absent
  serverIp : Field String := .absent
  clientPort : Field String := .absent
  serverPort : Field String := .absent
  orgId : Field String := .absent
  /-- 解析だけが読む残りの bytes。 -/
  segments : String := ""
  deriving Repr, DecidableEq

/-- 一つの session。 -/
def smtpSession : SessionPayload where
  protocol := .value "SMTP"
  fiveTuple := .value "10.0.0.1:40000->10.0.0.2:25"
  startTs := .value "1.0"
  endTs := .value "2.0"
  clientIp := .value "10.0.0.1"
  serverIp := .value "10.0.0.2"
  clientPort := .value "40000"
  serverPort := .value "25"

/-- `rules.Finding`。`_persist` は `Severity(f.severity)` を通らない finding を row にしない。 -/
structure RuleFinding where
  ruleId : String
  severity : Severity
  title : String
  deriving Repr, DecidableEq

/-- session を解析した結果。 -/
structure Analysis where
  fiveTuple : String
  protocol : String
  findings : List RuleFinding
  deriving Repr, DecidableEq

/-- worker の呼ぶもの。`analyze` の中身は `sessionFromPayload` と `Parsing.analyzeSession` である。 -/
structure Engine where
  /-- `session_from_payload` と `analyze_session`。`none` は例外である。 -/
  analyze : SessionPayload → Option Analysis
  /-- SHA-256 の hexdigest。 -/
  sha256 : String → String

/-- `session_from_payload` が `d[k]` で読む欄があり、`protocol` は `Protocol` の値である。 -/
def SessionPayload.decodable (p : SessionPayload) : Bool :=
  decide (p.protocol ∈ ["SMTP", "IMAP", "POP3", "UNKNOWN"].map Field.value) &&
    [p.fiveTuple, p.clientIp, p.serverIp, p.clientPort, p.serverPort].all fun k => decide (k ≠ .absent)

/-- `key` の各部分。 -/
def idParts (p : SessionPayload) : List String :=
  [p.fiveTuple, p.startTs, p.endTs, p.clientIp, p.serverIp, p.clientPort, p.serverPort].map
    fun k => textOf (k.getD "")

/-- `deterministic_session_id`。key がどれも無いときだけ乱数になる。 -/
def deterministicSessionId (eng : Engine) (uuid : String) (p : SessionPayload) : String :=
  let key := "|".intercalate (idParts p)
  if key.toList.any (· ≠ '|') then
    "sess-" ++ String.ofList ((eng.sha256 key).toList.take 32)
  else "sess-" ++ uuid

/-! ## findings の payload -/

/-- 文字列の `max(..., default="none")`。辞書順の最大である。 -/
def maxText : List String → String
  | [] => "none"
  | s :: l => pyMax (fun a b => decide (a < b)) s l

/-- payload の `findings` の要素。 -/
def RuleFinding.item (f : RuleFinding) : Item :=
  { ruleId := some f.ruleId, severity := some f.severity.text, title := some f.title }

/-- `_process_one` が作る `findings_payload`。 -/
def findingsPayload (sessId : String) (org : Option String) (a : Analysis)
    (findings : List RuleFinding) (risk : Option Int) (isAnomaly : Bool) (now : Nat) : Finding :=
  { sessionId := .value (orText (some sessId) a.fiveTuple)
    orgId := .ofOption org
    fiveTuple := .value a.fiveTuple
    protocol := .value a.protocol
    findings := .value (findings.map RuleFinding.item)
    riskScore := .ofOption risk
    isAnomaly := .value isAnomaly
    maxSeverity := .value (maxText (findings.map fun f => f.severity.text))
    ts := .value now }

/-! ## 状態と命令 -/

/-- DB の session row。 -/
structure Row where
  org : Option String
  findings : List RuleFinding
  deriving DecidableEq

/-- worker と、それが使う DB と stream の状態。 -/
structure AnalysisWorker where
  /-- `AnalysisJob` の id と org。 -/
  jobs : Dict String (Option String) := Dict.empty
  rows : Dict String Row := Dict.empty
  /-- findings stream に加えた payload。 -/
  findings : List Finding := []
  consumer : Group SessionPayload := {}
  deriving DecidableEq

/-- 設定値。 -/
structure WorkConfig where
  singleTenant : Bool := true
  liveJobTag : String := "live"
  maxAttempts : Nat := 5

/-- 一回の呼び出しの環境。 -/
structure WorkEnv where
  now : Nat
  link : Link := {}
  uuid : String := ""
  /-- `_default_org_id`。 -/
  defaultOrg : Option String := none
  /-- flow の照合と deny list が足す finding。 -/
  extra : List RuleFinding := []
  /-- `scoring.risk.posture_score`。 -/
  risk : Option Int := none
  isAnomaly : Bool := false

/-- worker が行う命令。 -/
inductive WorkInstr where
  | commitJob (id : String) (org : Option String)
  | commitRow (id : String) (row : Row) (job : String)
  | publish (f : Finding)
  | consumer (op : GroupOp SessionPayload)
  deriving DecidableEq

/-- session stream の entry の中身。 -/
inductive WorkEntry where
  /-- JSON の object。 -/
  | object (p : SessionPayload)
  /-- key `v` に object を持つ object。 -/
  | wrapped (p : SessionPayload)
  /-- object でない JSON の値。 -/
  | scalar
  /-- decode できない文字列。`_handle_entry` の `try` の外で例外になる。 -/
  | garbage
  deriving DecidableEq

/-- `sess_payload` が dict なら、その dict。 -/
def WorkEntry.payload : WorkEntry → Option SessionPayload
  | object p => some p
  | wrapped p => some p
  | _ => none

namespace AnalysisWorker

/-- job の row。無ければ作る。 -/
def commitJob (w : AnalysisWorker) (id : String) (org : Option String) : AnalysisWorker :=
  match w.jobs.get? id with
  | none => { w with jobs := w.jobs.set id org }
  | some _ => w

/-- session の row。org の無い job は、同じ commit で org を得る。 -/
def commitRow (w : AnalysisWorker) (id : String) (row : Row) (job : String) : AnalysisWorker :=
  { w with
    rows := w.rows.set id row
    jobs := if w.jobs.get? job = some none then w.jobs.set job row.org else w.jobs }

/-- `bus.publish_finding`。失敗は飲み込まれる。 -/
def publish (w : AnalysisWorker) (io : Link) (f : Finding) : AnalysisWorker :=
  if io.publishes then { w with findings := w.findings ++ [f] } else w

@[simp] theorem rows_commitJob (w : AnalysisWorker) (id : String) (org : Option String) :
    (w.commitJob id org).rows = w.rows := by
  unfold commitJob
  split <;> rfl

@[simp] theorem consumer_commitJob (w : AnalysisWorker) (id : String) (org : Option String) :
    (w.commitJob id org).consumer = w.consumer := by
  unfold commitJob
  split <;> rfl

@[simp] theorem rows_publish (w : AnalysisWorker) (io : Link) (f : Finding) :
    (w.publish io f).rows = w.rows := by
  unfold publish
  split <;> rfl

@[simp] theorem consumer_publish (w : AnalysisWorker) (io : Link) (f : Finding) :
    (w.publish io f).consumer = w.consumer := by
  unfold publish
  split <;> rfl

end AnalysisWorker

/-- 命令一つの実行。 -/
def WorkInstr.run (env : WorkEnv) (w : AnalysisWorker) : WorkInstr → AnalysisWorker
  | commitJob id org => w.commitJob id org
  | commitRow id row job => w.commitRow id row job
  | publish f => w.publish env.link f
  | consumer op => { w with consumer := w.consumer.apply env.link op }

/-- 事象。 -/
inductive WorkEvent where
  | entry (e : EntryId) (env : WorkEnv) (fault : Fault)
  | restart

namespace AnalysisWorker

variable (eng : Engine) (cfg : WorkConfig)

/-- `payload_org_id`。空文字列は無いものと見なす。 -/
def payloadOrg (p : SessionPayload) : Option String := truthy p.orgId.get

/-- `_persist` が選ぶ org。`none` は multi-tenant での拒否である。 -/
def resolveOrg (env : WorkEnv) (p : SessionPayload) : Option (Option String) :=
  match payloadOrg p with
  | some org => some (some org)
  | none => if cfg.singleTenant then some env.defaultOrg else none

/-- `job_id`。 -/
def jobId (env : WorkEnv) (org : Option String) : String :=
  if org = env.defaultOrg then cfg.liveJobTag else cfg.liveJobTag ++ "-" ++ textOf org

/-- `_process_one` の、新しい row を書く道筋の命令。 -/
def persist (env : WorkEnv) (id : String) (a : Analysis) (org : Option String) :
    List WorkInstr :=
  let findings := a.findings ++ env.extra
  [ .commitJob (jobId cfg env org) org, .commitRow id ⟨org, findings⟩ (jobId cfg env org),
    .publish (findingsPayload id org a findings env.risk env.isAnomaly env.now)]

/-- `_process_one`。`none` は例外である。既にある row なら何もしない。 -/
def processOne (w : AnalysisWorker) (env : WorkEnv) (p : SessionPayload) :
    Option (List WorkInstr) :=
  match eng.analyze p, resolveOrg cfg env p with
  | some a, some org =>
    let id := deterministicSessionId eng env.uuid p
    match w.rows.get? id with
    | some _ => some []
    | none => some (persist cfg env id a org)
  | _, _ => none

/-- `_handle_entry` の `except` の部分。 -/
def failure (w : AnalysisWorker) (e : EntryId) (env : WorkEnv)
    (payload : Option SessionPayload) : List WorkInstr :=
  (w.consumer.failed env.link cfg.maxAttempts e payload).map WorkInstr.consumer

/-- `_handle_entry` が実際に行う命令。 -/
def handleEntry (w : AnalysisWorker) (e : EntryId) (entry : WorkEntry) (env : WorkEnv)
    (fault : Fault) : List WorkInstr :=
  match entry with
  | .garbage => []
  | _ =>
    let except := w.failure cfg e env entry.payload
    match entry.payload.bind (w.processOne eng cfg env) with
    | none => ({ fault with raiseAt := some 0 } : Fault).cut [] [] except
    | some body => fault.cut body [.consumer (.clearAttempts e), .consumer (.ack e)] except

/-- 事象一つ。`content` は session stream の中身である。process の停止で失う状態は無い。 -/
def step (content : EntryId → WorkEntry) (w : AnalysisWorker) : WorkEvent → AnalysisWorker
  | .entry e env fault =>
    Run.exec (WorkInstr.run env) w (w.handleEntry eng cfg e (content e) env fault)
  | .restart => w

end AnalysisWorker

end CipherPost.Live
