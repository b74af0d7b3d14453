import Mathlib.Algebra.GroupWithZero.Nat
import Mathlib.Algebra.Ring.Rat
import CipherPost.Infra.Transaction
import CipherPost.Proactive.Certs
import CipherPost.Services.SessionColumns

/-!
# 解析の job の実行

`app/services/tasks.py` の `process_analysis_job` を、database の書き込みと commit の列として見る。例外の handler は、
途中まで加えた row の残る同じ ORM session に `failed` を書いて commit する。

* `jobOps` — 命令の列。row を作れない session があれば、そこで例外になる
* `Fault`・`runJob` — 途中の例外と、その後の handler
* `NoPartial` — 失敗した job は、解析の row を残さない
* `noPartial_iff` — そのための、例外の位置についての条件
* `tables_runJob` — 例外の無い job の row

job の row は引けるものとする。
-/

namespace CipherPost.Services.JobRun

open Parsing Reporting Proactive Transaction

/-! ## database -/

/-- `JobStatus`。 -/
inductive JobStatus where
  | pending | processing | completed | failed
  deriving Repr, DecidableEq

/-- `analysis_jobs` の row。`progress` は百分率である。 -/
structure JobRow where
  status : JobStatus := .pending
  progress : Nat := 0
  message : String := ""
  error : String := ""
  deriving Repr, DecidableEq

/-- `shap_rows` の row。 -/
structure ShapRow where
  sessionId : String
  feature : String
  value : Rat
  impact : Rat
  deriving DecidableEq

/-- `session_summaries` の row。 -/
structure SummaryRow where
  jobId : String
  key : String
  value : Rat
  deriving DecidableEq

/-- 解析の row。 -/
structure Results extends Tables where
  shaps : List ShapRow := []
  summaries : List SummaryRow := []

structure JobDatabase extends Results where
  job : JobRow := {}
  certs : CertTable := Dict.empty

namespace Results

theorem ext {a b : Results} (hsessions : a.sessions = b.sessions) (hfindings : a.findings = b.findings)
    (hshaps : a.shaps = b.shaps) (hsummaries : a.summaries = b.summaries) : a = b := by
  obtain ⟨⟨_, _⟩, _, _⟩ := a
  obtain ⟨⟨_, _⟩, _, _⟩ := b
  simp_all

/-- row を後ろに加える。 -/
instance : Append Results where
  append a b :=
    { sessions := a.sessions ++ b.sessions, findings := a.findings ++ b.findings
      shaps := a.shaps ++ b.shaps, summaries := a.summaries ++ b.summaries }

theorem append_def (a b : Results) : a ++ b =
    { sessions := a.sessions ++ b.sessions, findings := a.findings ++ b.findings
      shaps := a.shaps ++ b.shaps, summaries := a.summaries ++ b.summaries } := rfl

@[simp] theorem append_empty (a : Results) : a ++ ({} : Results) = a := by
  refine ext ?_ ?_ ?_ ?_ <;> exact List.append_nil _

@[simp] theorem empty_append (a : Results) : ({} : Results) ++ a = a := rfl

theorem append_assoc (a b c : Results) : a ++ b ++ c = a ++ (b ++ c) := by
  refine ext ?_ ?_ ?_ ?_ <;> exact List.append_assoc _ _ _

/-- 加えて変わらないのは、何も加えないときである。 -/
theorem append_eq_self {a b : Results} : a ++ b = a ↔ b = {} := by
  refine ⟨fun h => ?_, fun h => h ▸ append_empty a⟩
  have hsessions : a.sessions ++ b.sessions = a.sessions := congrArg (fun r => r.sessions) h
  have hfindings : a.findings ++ b.findings = a.findings := congrArg (fun r => r.findings) h
  have hshaps : a.shaps ++ b.shaps = a.shaps := congrArg Results.shaps h
  have hsummaries : a.summaries ++ b.summaries = a.summaries := congrArg Results.summaries h
  exact ext (List.append_right_eq_self.mp hsessions) (List.append_right_eq_self.mp hfindings)
    (List.append_right_eq_self.mp hshaps) (List.append_right_eq_self.mp hsummaries)

end Results

/-! ## 命令 -/

/-- 書き込み一つ。 -/
inductive Write where
  | job (f : JobRow → JobRow)
  | session (row : SessionRow)
  | finding (row : FindingRow)
  | shap (row : ShapRow)
  | summary (row : SummaryRow)
  | certs (f : CertTable → CertTable)

/-- 加える row。 -/
def Write.added : Write → Results
  | .session row => { sessions := [row] }
  | .finding row => { findings := [row] }
  | .shap row => { shaps := [row] }
  | .summary row => { summaries := [row] }
  | .job _ | .certs _ => {}

def Write.apply (w : Write) (db : JobDatabase) : JobDatabase :=
  { toResults := db.toResults ++ w.added
    job := match w with
      | .job f => f db.job
      | _ => db.job
    certs := match w with
      | .certs f => f db.certs
      | _ => db.certs }

inductive Op where
  | write (w : Write)
  | commit

def Op.command : Op → Command JobDatabase
  | .write w => .write w.apply
  | .commit => .commit

/-- 命令の列が加える row。 -/
def added : List Op → Results
  | [] => {}
  | .write w :: ops => w.added ++ added ops
  | .commit :: ops => added ops

/-! ## `process_analysis_job` -/

section Job

variable (fingerprintDer : List UInt8 → String) (jobId : String) (orgId : Option String) (now : Int)

/-- 進み具合を書いて commit する。 -/
def stage (progress : Nat) (message : String) : List Op :=
  [.write (.job fun job => { job with progress := progress, message := message }), .commit]

/-- row を加え始めるまで。`n` は session の数である。 -/
def startOps (n : Nat) : List Op :=
  [.write (.job fun job =>
      { job with status := .processing, progress := 5, message := "Starting PCAP analysis..." }),
    .commit] ++
  stage 10 "Running protocol detection and TLS analysis..." ++
  stage 50 ("Parsed " ++ toString n ++ " sessions, running rules engine...") ++
  stage 60 "Running ML risk scoring and anomaly detection..." ++
  stage 80 "Persisting results..."

/-- finding の row。`Severity` の例外で止まる。 -/
def findingOps (sessionId : String) : List SessionFinding → List Op × Bool
  | [] => ([], true)
  | f :: fs =>
    match findingRow sessionId f with
    | none => ([], false)
    | some row =>
      let (ops, ok) := findingOps sessionId fs
      (.write (.finding row) :: ops, ok)

/-- `track_session_certs` の読む証明書。 -/
def leafCert (c : CertAnalysis) : LeafCert where
  der := c.der
  isCa := c.isCa
  subjectCn := c.subjectCn
  issuerCn := c.issuerCn
  notAfter := c.notAfter

/-- session 一つ。`min` の例外は、row を加える前に起こる。 -/
def sessionOps (x : Scored) : List Op × Bool :=
  match certAgeDays x.analysis.certs with
  | none => ([], false)
  | some age =>
    let session := Op.write (.session (sessionRow jobId x age))
    match findingOps x.id x.analysis.findings with
    | (ops, false) => (session :: ops, false)
    | (ops, true) =>
      (session :: ops ++
        (x.score.shapContributions.map fun c => .write (.shap ⟨x.id, c.feature, c.value, c.impact⟩)) ++
        [.write (.certs (trackSessionCerts fingerprintDer (x.analysis.certs.map leafCert) orgId now))],
        true)

/-- session の loop。 -/
def loopOps : List Scored → List Op × Bool
  | [] => ([], true)
  | x :: xs =>
    match sessionOps fingerprintDer jobId orgId now x with
    | (ops, false) => (ops, false)
    | (ops, true) =>
      let (rest, ok) := loopOps xs
      (ops ++ rest, ok)

/-- `SessionSummary` の row。 -/
def summaryRows (results : List Scored) : List SummaryRow :=
  [⟨jobId, "fleet_posture_score",
      (results.map fun x => (x.score.risk.postureScore : Rat)).sum / (max 1 results.length : Nat)⟩,
    ⟨jobId, "total_sessions", results.length⟩,
    ⟨jobId, "anomaly_count", (results.countP fun x => x.score.anomaly.isAnomaly : Nat)⟩]

/-- 終わりの commit。 -/
def finishOps (results : List Scored) : List Op :=
  [.write (.job fun job =>
      { job with
        status := .completed, progress := 100
        message := "Analysis complete: " ++ toString results.length ++ " sessions, " ++
          toString (results.map fun x => x.analysis.findings.length).sum ++ " findings" }),
    .commit]

/-- 最初の row から、それを残す commit の直前まで。 -/
def persistOps (results : List Scored) : List Write :=
  (summaryRows jobId results).map .summary ++
    [.job fun job => { job with progress := 90, message := "Generating reports..." }]

/-- `process_analysis_job` の命令。`false` は、row を作る途中の例外で終わることを表す。 -/
def jobOps (results : List Scored) : List Op × Bool :=
  match loopOps fingerprintDer jobId orgId now results with
  | (ops, false) => (startOps results.length ++ ops, false)
  | (ops, true) =>
    (startOps results.length ++ ops ++ (persistOps jobId results).map .write ++
      .commit :: finishOps results, true)

/-- 例外の handler。 -/
def failOps (exc : String) : List Op :=
  [.write (.job fun job =>
      { job with status := .failed, error := exc, message := "Analysis failed: " ++ exc }),
    .commit]

/-- 命令の列の実行。 -/
def execute (ops : List Op) (db : JobDatabase) : View JobDatabase := run (ops.map Op.command) db

/-- 途中の失敗。命令を `n` 個終えた所で起こる。 -/
inductive Fault where
  | python (n : Nat)
  /-- database の失敗。開いた transaction は rollback され、handler の commit は通るか、通らない。 -/
  | database (n : Nat) (recovers : Bool)

/-- `process_analysis_job`。`exc` は例外の文である。 -/
def runJob (results : List Scored) (exc : String) (fault : Option Fault) (db : JobDatabase) :
    JobDatabase :=
  let (ops, ok) := jobOps fingerprintDer jobId orgId now results
  match fault with
  | none => if ok then (execute ops db).stored else (execute (ops ++ failOps exc) db).stored
  | some (.python n) => (execute (ops.take n ++ failOps exc) db).stored
  | some (.database n recovers) =>
    let rolledBack := (execute (ops.take n) db).stored
    if recovers then (execute (failOps exc) rolledBack).stored else rolledBack

/-- 失敗した job は、この実行の加えた row を残さない。 -/
def NoPartial (results : List Scored) (exc : String) (fault : Option Fault) (db : JobDatabase) : Prop :=
  (runJob fingerprintDer jobId orgId now results exc fault db).job.status = .failed →
    (runJob fingerprintDer jobId orgId now results exc fault db).toResults = db.toResults

/-- 最初の row を加えるまでの命令の数。 -/
def beforeRows (results : List Scored) : Nat := (startOps results.length).length

/-- 加えた row を残す commit までの命令の数。 -/
def beforeCommit (results : List Scored) : Nat :=
  beforeRows results + (loopOps fingerprintDer jobId orgId now results).1.length +
    (persistOps jobId results).length

/--
row を残さない失敗。Python の例外は最初の row を加える前に起こり、database の失敗は row を残す commit の前に
起こるか、handler の commit が通らない。
-/
def Clean (results : List Scored) (fault : Option Fault) : Prop :=
  let (ops, ok) := jobOps fingerprintDer jobId orgId now results
  match fault with
  | none => ok = true ∨ ops.length ≤ beforeRows results
  | some (.python n) => (ops.take n).length ≤ beforeRows results
  | some (.database n recovers) => recovers = false ∨
      (ops.take n).length ≤ beforeCommit fingerprintDer jobId orgId now results

end Job

/-! ## 加える row -/

theorem Results.append_eq_empty {a b : Results} (h : a ++ b = {}) : a = {} ∧ b = {} := by
  have hsessions : a.sessions ++ b.sessions = [] := congrArg (fun r => r.sessions) h
  have hfindings : a.findings ++ b.findings = [] := congrArg (fun r => r.findings) h
  have hshaps : a.shaps ++ b.shaps = [] := congrArg Results.shaps h
  have hsummaries : a.summaries ++ b.summaries = [] := congrArg Results.summaries h
  rw [List.append_eq_nil_iff] at hsessions hfindings hshaps hsummaries
  exact ⟨Results.ext hsessions.1 hfindings.1 hshaps.1 hsummaries.1,
    Results.ext hsessions.2 hfindings.2 hshaps.2 hsummaries.2⟩

theorem added_append (ops ops' : List Op) : added (ops ++ ops') = added ops ++ added ops' := by
  induction ops with
  | nil => rfl
  | cons op ops ih =>
    cases op with
    | write w => exact (congrArg (w.added ++ ·) ih).trans (Results.append_assoc _ _ _).symm
    | commit => exact ih

/-- 命令の列の後に見える row は、加えた row を並べたものである。 -/
theorem working_foldl (ops : List Op) : ∀ v : View JobDatabase,
    ((ops.map Op.command).foldl step v).working.toResults = v.working.toResults ++ added ops := by
  induction ops with
  | nil => exact fun v => (Results.append_empty _).symm
  | cons op ops ih =>
    intro v
    cases op with
    | write w => exact (ih _).trans (Results.append_assoc _ _ _)
    | commit => exact ih _

/-- row を加えない命令。 -/
def Op.quiet : Op → Bool
  | .write (.job _) | .write (.certs _) | .commit => true
  | .write _ => false

/-- row を加えない命令は、残る row も見える row も変えない。 -/
theorem results_quiet {ops : List Op} (hquiet : ∀ op ∈ ops, op.quiet = true) {r : Results} :
    ∀ v : View JobDatabase, v.stored.toResults = r → v.working.toResults = r →
      ((ops.map Op.command).foldl step v).stored.toResults = r ∧
        ((ops.map Op.command).foldl step v).working.toResults = r := by
  induction ops with
  | nil => exact fun v hstored hworking => ⟨hstored, hworking⟩
  | cons op ops ih =>
    intro v hstored hworking
    obtain ⟨hop, hops⟩ := List.forall_mem_cons.mp hquiet
    cases op with
    | write w =>
      have hadded : w.added = {} := by cases w <;> first | rfl | cases hop
      refine ih hops _ hstored ?_
      show v.working.toResults ++ w.added = r
      rw [hadded, Results.append_empty, hworking]
    | commit => exact ih hops _ hworking hworking

theorem added_of_quiet {ops : List Op} (hquiet : ∀ op ∈ ops, op.quiet = true) : added ops = {} := by
  induction ops with
  | nil => rfl
  | cons op ops ih =>
    obtain ⟨hop, hops⟩ := List.forall_mem_cons.mp hquiet
    cases op with
    | write w =>
      have hadded : w.added = {} := by cases w <;> first | rfl | cases hop
      show w.added ++ added ops = {}
      rw [hadded, ih hops]
      rfl
    | commit => exact ih hops

theorem execute_append (ops ops' : List Op) (db : JobDatabase) :
    execute (ops ++ ops') db = (ops'.map Op.command).foldl step (execute ops db) := by
  unfold execute
  rw [List.map_append, run_append]

/-- handler の後には、そこまでに加えた row がすべて残る。 -/
theorem execute_failOps (ops : List Op) (exc : String) (db : JobDatabase) :
    (execute (ops ++ failOps exc) db).stored.job.status = .failed ∧
      (execute (ops ++ failOps exc) db).stored.toResults = db.toResults ++ added ops := by
  have hworking := working_foldl ops ⟨db, db⟩
  rw [execute_append]
  exact ⟨rfl, (Results.append_empty _).trans hworking⟩

/-! ## 命令の列の形 -/

theorem quiet_startOps (n : Nat) : ∀ op ∈ startOps n, op.quiet = true := by
  simp [startOps, stage, Op.quiet]

theorem quiet_finishOps (results : List Scored) : ∀ op ∈ finishOps results, op.quiet = true := by
  simp [finishOps, Op.quiet]

section Shape

variable (fingerprintDer : List UInt8 → String) (jobId : String) (orgId : Option String) (now : Int)

/-- finding の命令は、job に触れない書き込みである。 -/
theorem findingOps_writes (sessionId : String) : ∀ (fs : List SessionFinding),
    ∃ ws : List Write, (findingOps sessionId fs).1 = ws.map .write ∧
      ∀ w ∈ ws, ∀ db, (w.apply db).job = db.job := by
  intro fs
  induction fs with
  | nil => exact ⟨[], rfl, fun _ h => absurd h List.not_mem_nil⟩
  | cons f fs ih =>
    obtain ⟨ws, hws, hjob⟩ := ih
    unfold findingOps
    cases findingRow sessionId f with
    | none => exact ⟨[], rfl, fun _ h => absurd h List.not_mem_nil⟩
    | some row =>
      refine ⟨.finding row :: ws, congrArg (Op.write (.finding row) :: ·) hws, ?_⟩
      exact List.forall_mem_cons.mpr ⟨fun _ => rfl, hjob⟩

/-- session の命令は job に触れない書き込みで、あれば session の row から始まる。 -/
theorem sessionOps_writes (x : Scored) :
    sessionOps fingerprintDer jobId orgId now x = ([], false) ∨
    ∃ (row : SessionRow) (ws : List Write),
      (sessionOps fingerprintDer jobId orgId now x).1 = (Write.session row :: ws).map .write ∧
        ∀ w ∈ ws, ∀ db, (w.apply db).job = db.job := by
  unfold sessionOps
  cases certAgeDays x.analysis.certs with
  | none => exact .inl rfl
  | some age =>
    refine .inr ⟨sessionRow jobId x age, ?_⟩
    obtain ⟨ws, hws, hjob⟩ := findingOps_writes x.id x.analysis.findings
    dsimp only
    cases hops : findingOps x.id x.analysis.findings with
    | mk ops ok =>
      rw [hops] at hws
      cases ok with
      | false => exact ⟨ws, congrArg (_ :: ·) hws, hjob⟩
      | true =>
        refine ⟨ws ++ (x.score.shapContributions.map fun c =>
            .shap ⟨x.id, c.feature, c.value, c.impact⟩) ++
          [.certs (trackSessionCerts fingerprintDer (x.analysis.certs.map leafCert) orgId now)],
          ?_, ?_⟩
        · have hws : ops = ws.map .write := hws
          simp [hws]
        · simp only [List.mem_append, List.mem_map, List.mem_singleton]
          rintro w ((hw | ⟨c, -, rfl⟩) | rfl)
          · exact hjob w hw
          · exact fun _ => rfl
          · exact fun _ => rfl

/-- loop の命令は job に触れない書き込みで、あれば session の row から始まる。 -/
theorem loopOps_writes : ∀ (results : List Scored),
    ∃ ws : List Write, (loopOps fingerprintDer jobId orgId now results).1 = ws.map .write ∧
      (∀ w ∈ ws, ∀ db, (w.apply db).job = db.job) ∧ (ws = [] ∨ ∃ row rest, ws = .session row :: rest) := by
  intro results
  induction results with
  | nil => exact ⟨[], rfl, fun _ h => absurd h List.not_mem_nil, .inl rfl⟩
  | cons x xs ih =>
    obtain ⟨ws', hws', hjob', -⟩ := ih
    unfold loopOps
    rcases sessionOps_writes fingerprintDer jobId orgId now x with hx | ⟨row, ws, hws, hjob⟩
    · rw [hx]
      exact ⟨[], rfl, fun _ h => absurd h List.not_mem_nil, .inl rfl⟩
    · have hall : ∀ w ∈ Write.session row :: ws, ∀ db, (w.apply db).job = db.job :=
        List.forall_mem_cons.mpr ⟨fun _ => rfl, hjob⟩
      cases hops : sessionOps fingerprintDer jobId orgId now x with
      | mk ops ok =>
        rw [hops] at hws
        cases ok with
        | false => exact ⟨_, hws, hall, .inr ⟨row, ws, rfl⟩⟩
        | true =>
          refine ⟨(Write.session row :: ws) ++ ws', ?_, ?_, .inr ⟨row, ws ++ ws', rfl⟩⟩
          · show ops ++ (loopOps fingerprintDer jobId orgId now xs).1 = _
            rw [hws', List.map_append]
            exact congrArg (· ++ ws'.map Op.write) hws
          · exact List.forall_mem_append.mpr ⟨hall, hjob'⟩

/-- row を加え始めた後の命令。 -/
def restOps (results : List Scored) : List Op :=
  match loopOps fingerprintDer jobId orgId now results with
  | (ops, false) => ops
  | (ops, true) => ops ++ (persistOps jobId results).map .write ++ .commit :: finishOps results

theorem jobOps_eq (results : List Scored) : (jobOps fingerprintDer jobId orgId now results).1 =
    startOps results.length ++ restOps fingerprintDer jobId orgId now results := by
  unfold jobOps restOps
  rcases loopOps fingerprintDer jobId orgId now results with ⟨ops, _ | _⟩
  · rfl
  · show _ ++ _ ++ _ ++ _ = _
    simp [List.append_assoc]

/-- 始まりの後の命令は、あれば row を加える書き込みから始まる。 -/
theorem restOps_head (results : List Scored) :
    restOps fingerprintDer jobId orgId now results = [] ∨
    ∃ w rest, restOps fingerprintDer jobId orgId now results = .write w :: rest ∧ w.added ≠ {} := by
  have hsession : ∀ row, (Write.session row).added ≠ {} := fun row h =>
    List.cons_ne_nil _ _ (congrArg (fun r => r.sessions) h)
  have hsummary : ∀ row, (Write.summary row).added ≠ {} := fun row h =>
    List.cons_ne_nil _ _ (congrArg Results.summaries h)
  obtain ⟨ws, hws, -, hhead⟩ := loopOps_writes fingerprintDer jobId orgId now results
  unfold restOps
  rcases hloop : loopOps fingerprintDer jobId orgId now results with ⟨ops, ok⟩
  have hops : ops = ws.map .write := by rw [← hws, hloop]
  rw [hops]
  rcases hhead with rfl | ⟨row, rest, rfl⟩
  · cases ok with
    | false => exact .inl rfl
    | true => exact .inr ⟨_, _, rfl, hsummary _⟩
  · cases ok with
    | false => exact .inr ⟨_, _, rfl, hsession row⟩
    | true => exact .inr ⟨_, _, rfl, hsession row⟩

/-- 途中までの命令が row を加えないのは、始まりの中で止まるときである。 -/
theorem added_take_iff (results : List Scored) (n : Nat) :
    added ((jobOps fingerprintDer jobId orgId now results).1.take n) = {} ↔
      ((jobOps fingerprintDer jobId orgId now results).1.take n).length ≤ beforeRows results := by
  have hquiet := quiet_startOps results.length
  rw [jobOps_eq, List.take_append]
  constructor
  · intro hadded
    rw [added_append] at hadded
    have hrest := (Results.append_eq_empty hadded).2
    rcases restOps_head fingerprintDer jobId orgId now results with hnil | ⟨w, rest, hcons, hw⟩
    · rw [hnil, List.take_nil, List.append_nil]
      exact List.length_take_le' _ _
    · -- row を加える書き込みの手前で止まっている
      rw [hcons] at hrest ⊢
      unfold beforeRows
      cases hm : n - (startOps results.length).length with
      | zero =>
        rw [List.take_zero, List.append_nil]
        exact List.length_take_le' _ _
      | succ m =>
        rw [hm, List.take_succ_cons] at hrest
        exact absurd (Results.append_eq_empty hrest).1 hw
  · intro hlen
    rw [added_append, added_of_quiet fun op hop => hquiet op (List.mem_of_mem_take hop)]
    have hzero : (restOps fingerprintDer jobId orgId now results).take
        (n - (startOps results.length).length) = [] := by
      rw [List.length_append, List.length_take] at hlen
      unfold beforeRows at hlen
      refine List.eq_nil_of_length_eq_zero ?_
      by_cases hn : n ≤ (startOps results.length).length
      · rw [Nat.sub_eq_zero_of_le hn, List.take_zero]
        rfl
      · omega
    rw [hzero]
    rfl

/-! ## 失敗の後 -/

variable {results : List Scored} {db : JobDatabase}

/-- 例外の後の handler が row を残さないのは、例外が始まりの中で起こるときである。 -/
theorem noPartial_python (results : List Scored) (db : JobDatabase) (exc : String) (n : Nat) :
    ((execute ((jobOps fingerprintDer jobId orgId now results).1.take n ++ failOps exc) db).stored.job.status
        = .failed →
      (execute ((jobOps fingerprintDer jobId orgId now results).1.take n ++ failOps exc) db).stored.toResults
        = db.toResults) ↔
    ((jobOps fingerprintDer jobId orgId now results).1.take n).length ≤ beforeRows results := by
  obtain ⟨hstatus, hresults⟩ :=
    execute_failOps ((jobOps fingerprintDer jobId orgId now results).1.take n) exc db
  rw [hstatus, hresults, Results.append_eq_self, added_take_iff]
  exact ⟨fun h => h rfl, fun h _ => h⟩

/-- 最初の row を加える前から、row を残す commit の直前までの命令。 -/
def openOps (results : List Scored) : List Op :=
  startOps results.length ++ (loopOps fingerprintDer jobId orgId now results).1 ++
    (persistOps jobId results).map .write

theorem length_openOps (results : List Scored) :
    (openOps fingerprintDer jobId orgId now results).length =
      beforeCommit fingerprintDer jobId orgId now results := by
  unfold openOps beforeCommit beforeRows
  rw [List.length_append, List.length_append, List.length_map]

/-- 命令の列は、loop の例外で途切れるか、`openOps` の後に commit する。 -/
theorem jobOps_cases (results : List Scored) :
    (jobOps fingerprintDer jobId orgId now results).1 <+:
        openOps fingerprintDer jobId orgId now results ∨
      (jobOps fingerprintDer jobId orgId now results).1 =
        openOps fingerprintDer jobId orgId now results ++ .commit :: finishOps results := by
  unfold jobOps openOps
  rcases loopOps fingerprintDer jobId orgId now results with ⟨ops, _ | _⟩
  · exact .inl (List.prefix_append _ _)
  · exact .inr rfl

/-- commit の前で止まった命令の列は、`openOps` の始めの部分である。 -/
theorem take_of_le (results : List Scored) {n : Nat}
    (hlen : ((jobOps fingerprintDer jobId orgId now results).1.take n).length ≤
      beforeCommit fingerprintDer jobId orgId now results) :
    ∃ m, (jobOps fingerprintDer jobId orgId now results).1.take n =
      (openOps fingerprintDer jobId orgId now results).take m := by
  have hopen := length_openOps fingerprintDer jobId orgId now results
  rcases jobOps_cases fingerprintDer jobId orgId now results with hprefix | hcommit
  · exact ⟨_, List.prefix_iff_eq_take.mp ((List.take_prefix n _).trans hprefix)⟩
  · rw [hcommit] at hlen ⊢
    rw [List.length_take, List.length_append, List.length_cons] at hlen
    exact ⟨n, List.take_append_of_le_length (by omega)⟩

/-- commit の前の database の失敗は、row を残さない。 -/
theorem results_of_le (results : List Scored) {n : Nat} (db : JobDatabase)
    (hlen : ((jobOps fingerprintDer jobId orgId now results).1.take n).length ≤
      beforeCommit fingerprintDer jobId orgId now results) :
    (execute ((jobOps fingerprintDer jobId orgId now results).1.take n) db).stored.toResults =
      db.toResults := by
  obtain ⟨m, hm⟩ := take_of_le fingerprintDer jobId orgId now results hlen
  obtain ⟨ws, hws, -, -⟩ := loopOps_writes fingerprintDer jobId orgId now results
  have hstored : (execute ((openOps fingerprintDer jobId orgId now results).take m) db).stored =
      (execute ((startOps results.length).take m) db).stored := by
    have hcommands : (openOps fingerprintDer jobId orgId now results).map Op.command =
        (startOps results.length).map Op.command ++
          ((ws ++ persistOps jobId results).map Write.apply).map Command.write := by
      unfold openOps
      rw [hws]
      simp [Op.command, Function.comp_def]
    unfold execute
    rw [List.map_take, hcommands, stored_take, List.map_take]
  rw [hm, hstored]
  exact (results_quiet (fun op hop => quiet_startOps _ op (List.mem_of_mem_take hop)) ⟨db, db⟩
    rfl rfl).1

/-- commit の後の失敗では、例外の無い loop の row がすべて残っている。 -/
theorem take_of_lt (results : List Scored) {n : Nat}
    (hlen : beforeCommit fingerprintDer jobId orgId now results <
      ((jobOps fingerprintDer jobId orgId now results).1.take n).length) :
    ∃ m, (jobOps fingerprintDer jobId orgId now results).1.take n =
      openOps fingerprintDer jobId orgId now results ++ .commit :: (finishOps results).take m := by
  have hopen := length_openOps fingerprintDer jobId orgId now results
  rcases jobOps_cases fingerprintDer jobId orgId now results with hprefix | hcommit
  · have hle := ((List.take_prefix n _).trans hprefix).length_le
    omega
  · rw [hcommit] at hlen ⊢
    rw [List.length_take] at hlen
    rw [List.take_append, List.take_of_length_le (by omega)]
    cases hm : n - (openOps fingerprintDer jobId orgId now results).length with
    | zero => omega
    | succ m => exact ⟨m, rfl⟩

theorem added_openOps (results : List Scored) :
    added (openOps fingerprintDer jobId orgId now results) ≠ {} := by
  intro h
  unfold openOps at h
  rw [added_append] at h
  have hsummaries := congrArg Results.summaries (Results.append_eq_empty h).2
  exact absurd hsummaries (List.cons_ne_nil _ _)

theorem results_of_lt (results : List Scored) (db : JobDatabase) (m : Nat) :
    (execute (openOps fingerprintDer jobId orgId now results ++
      .commit :: (finishOps results).take m) db).stored.toResults ≠ db.toResults := by
  have hworking := working_foldl (openOps fingerprintDer jobId orgId now results) ⟨db, db⟩
  have hquiet : ∀ op ∈ (finishOps results).take m, op.quiet = true := fun op hop =>
    quiet_finishOps results op (List.mem_of_mem_take hop)
  rw [execute_append, List.map_cons, List.foldl_cons, (results_quiet hquiet _ rfl rfl).1]
  intro heq
  exact added_openOps fingerprintDer jobId orgId now results
    (Results.append_eq_self.mp (hworking.symm.trans heq))

/-! ## job の状態 -/

/-- 失敗でない job を失敗にしない命令。 -/
def Op.Alive : Op → Prop
  | .write w => ∀ db, db.job.status ≠ .failed → (w.apply db).job.status ≠ .failed
  | .commit => True

theorem alive_foldl {ops : List Op} (halive : ∀ op ∈ ops, op.Alive) : ∀ v : View JobDatabase,
    v.stored.job.status ≠ .failed → v.working.job.status ≠ .failed →
      ((ops.map Op.command).foldl step v).stored.job.status ≠ .failed ∧
        ((ops.map Op.command).foldl step v).working.job.status ≠ .failed := by
  induction ops with
  | nil => exact fun v hstored hworking => ⟨hstored, hworking⟩
  | cons op ops ih =>
    intro v hstored hworking
    obtain ⟨hop, hops⟩ := List.forall_mem_cons.mp halive
    cases op with
    | write w => exact ih hops _ hstored (hop _ hworking)
    | commit => exact ih hops _ hworking hworking

/-- handler より前の命令は、job を失敗にしない。 -/
theorem status_of_lt (results : List Scored) (db : JobDatabase) (m : Nat) :
    (execute (openOps fingerprintDer jobId orgId now results ++
      .commit :: (finishOps results).take m) db).stored.job.status ≠ .failed := by
  obtain ⟨ws, hws, hjob, -⟩ := loopOps_writes fingerprintDer jobId orgId now results
  have hstage : ∀ n, ∀ op ∈ (startOps n).drop 2, op.Alive := by
    intro n
    simp only [startOps, stage, List.cons_append, List.nil_append, List.drop_succ_cons,
      List.drop_zero, List.forall_mem_cons]
    exact ⟨fun _ h => h, trivial, fun _ h => h, trivial, fun _ h => h, trivial, fun _ h => h,
      trivial, fun _ h => absurd h List.not_mem_nil⟩
  have hfinish : ∀ op ∈ finishOps results, op.Alive := by
    simp only [finishOps, List.forall_mem_cons]
    exact ⟨fun _ _ h => JobStatus.noConfusion h, trivial, fun _ h => absurd h List.not_mem_nil⟩
  have hpersist : ∀ w ∈ persistOps jobId results, (Op.write w).Alive := by
    simp only [persistOps, summaryRows, List.map_cons, List.map_nil, List.cons_append,
      List.nil_append, List.forall_mem_cons]
    exact ⟨fun _ h => h, fun _ h => h, fun _ h => h, fun _ h => h,
      fun _ h => absurd h List.not_mem_nil⟩
  have hloop : ∀ op ∈ ws.map Op.write, op.Alive := by
    intro op hop
    obtain ⟨w, hw, rfl⟩ := List.mem_map.mp hop
    exact fun db h => (hjob w hw db).symm ▸ h
  have hall : ∀ op ∈ (startOps results.length).drop 2 ++ (ws.map Op.write ++
      ((persistOps jobId results).map Op.write ++ .commit :: (finishOps results).take m)),
      op.Alive := by
    refine List.forall_mem_append.mpr ⟨hstage _, List.forall_mem_append.mpr ⟨hloop,
      List.forall_mem_append.mpr ⟨?_, List.forall_mem_cons.mpr ⟨trivial, ?_⟩⟩⟩⟩
    · exact List.forall_mem_map.mpr hpersist
    · exact fun op hop => hfinish op (List.mem_of_mem_take hop)
  -- 始めの commit で job は processing になる
  have hsplit : openOps fingerprintDer jobId orgId now results ++
      .commit :: (finishOps results).take m = (startOps results.length).take 2 ++
        ((startOps results.length).drop 2 ++ (ws.map Op.write ++
          ((persistOps jobId results).map Op.write ++ .commit :: (finishOps results).take m))) := by
    unfold openOps
    rw [hws, ← List.append_assoc, List.take_append_drop]
    simp only [List.append_assoc]
  rw [hsplit, execute_append]
  refine (alive_foldl hall _ ?_ ?_).1
  · exact fun h => JobStatus.noConfusion h
  · exact fun h => JobStatus.noConfusion h

/-! ## 失敗の条件 -/

/-- database の失敗の後に row が残らないのは、commit の前か、handler の commit が通らないときである。 -/
theorem noPartial_database (exc : String) (n : Nat) (recovers : Bool) :
    NoPartial fingerprintDer jobId orgId now results exc (some (.database n recovers)) db ↔
      recovers = false ∨ ((jobOps fingerprintDer jobId orgId now results).1.take n).length ≤
        beforeCommit fingerprintDer jobId orgId now results := by
  unfold NoPartial runJob
  rcases Nat.lt_or_ge (beforeCommit fingerprintDer jobId orgId now results)
      ((jobOps fingerprintDer jobId orgId now results).1.take n).length with hlt | hle
  · obtain ⟨m, hm⟩ := take_of_lt fingerprintDer jobId orgId now results hlt
    have hresults := results_of_lt fingerprintDer jobId orgId now results db m
    have hstatus := status_of_lt fingerprintDer jobId orgId now results db m
    rw [or_iff_left (Nat.not_le_of_lt hlt)]
    dsimp only
    rw [hm]
    cases recovers with
    | false => exact iff_of_true (fun h => absurd h hstatus) rfl
    | true =>
      refine iff_of_false (fun h => hresults ?_) (fun h => Bool.noConfusion h)
      exact (Results.append_empty _).symm.trans (h rfl)
  · refine iff_of_true (fun _ => ?_) (.inr hle)
    have hresults := results_of_le fingerprintDer jobId orgId now results db hle
    dsimp only
    cases recovers with
    | false => exact hresults
    | true => exact (Results.append_empty _).trans hresults

/--
**失敗した job の row。** どの解析と、どの位置の例外でも、失敗した job が row を残さないのは、`Clean` のとき、
かつそのときに限る。
-/
theorem noPartial_iff (results : List Scored) (exc : String) (fault : Option Fault)
    (db : JobDatabase) : NoPartial fingerprintDer jobId orgId now results exc fault db ↔
      Clean fingerprintDer jobId orgId now results fault := by
  cases fault with
  | some fault =>
    cases fault with
    | python n => exact noPartial_python fingerprintDer jobId orgId now results db exc n
    | database n recovers => exact noPartial_database fingerprintDer jobId orgId now exc n recovers
  | none =>
    have hpython := noPartial_python fingerprintDer jobId orgId now results db exc
      (jobOps fingerprintDer jobId orgId now results).1.length
    rw [List.take_length] at hpython
    unfold NoPartial runJob Clean
    rcases hops : jobOps fingerprintDer jobId orgId now results with ⟨ops, _ | _⟩
    · rw [hops] at hpython
      exact hpython.trans (or_iff_right Bool.false_ne_true).symm
    · refine iff_of_true (fun h => ?_) (.inl rfl)
      -- 終わりの commit は job を completed にする
      unfold jobOps at hops
      rcases hloop : loopOps fingerprintDer jobId orgId now results with ⟨loop, _ | _⟩
      · rw [hloop] at hops
        cases hops
      · rw [hloop] at hops
        obtain ⟨rfl, -⟩ := Prod.mk.inj hops
        dsimp only at h
        rw [if_pos rfl, execute_append] at h
        cases h

/-! ## 例外の無い job -/

theorem findingOps_rows (sessionId : String) : ∀ (fs : List SessionFinding),
    (findingOps sessionId fs).2 = true → ∃ rows, fs.mapM (findingRow sessionId) = some rows ∧
      added (findingOps sessionId fs).1 = { findings := rows } := by
  intro fs
  induction fs with
  | nil => exact fun _ => ⟨[], rfl, rfl⟩
  | cons f fs ih =>
    intro hok
    unfold findingOps at hok ⊢
    rw [List.mapM_cons]
    cases hrow : findingRow sessionId f with
    | none =>
      rw [hrow] at hok
      cases hok
    | some row =>
      rw [hrow] at hok
      obtain ⟨rows, hrows, hadded⟩ := ih hok
      rw [hrows]
      refine ⟨row :: rows, rfl, ?_⟩
      show (Write.finding row).added ++ added (findingOps sessionId fs).1 = _
      rw [hadded]
      rfl

theorem sessionOps_rows {x : Scored} (hok : (sessionOps fingerprintDer jobId orgId now x).2 = true) :
    ∃ rows, rowsOf jobId x = some rows ∧
      (added (sessionOps fingerprintDer jobId orgId now x).1).toTables =
        { sessions := [rows.1], findings := rows.2 } := by
  unfold sessionOps at hok ⊢
  unfold rowsOf
  cases hage : certAgeDays x.analysis.certs with
  | none =>
    rw [hage] at hok
    cases hok
  | some age =>
    have hrows := findingOps_rows x.id x.analysis.findings
    rw [hage] at hok
    rcases hops : findingOps x.id x.analysis.findings with ⟨ops, _ | _⟩ <;> simp only [hops] at hok hrows ⊢
    · cases hok
    · obtain ⟨rows, hrows, hadded⟩ := hrows trivial
      refine ⟨(sessionRow jobId x age, rows), by rw [hrows]; rfl, ?_⟩
      -- SHAP の row と証明書は、session と finding の table に触れない
      have hshaps : ∀ cs : List FeatureContribution, (added (cs.map fun c =>
          .write (.shap ⟨x.id, c.feature, c.value, c.impact⟩))).toTables = {} := by
        intro cs
        induction cs with
        | nil => rfl
        | cons c cs ih => exact ih
      rw [added_append, added_append]
      show Tables.mk _ _ = _
      have hshaps := hshaps x.score.shapContributions
      simp [added, hadded, hshaps, Results.append_def, Write.added]

theorem loopOps_rows : ∀ (results : List Scored),
    (loopOps fingerprintDer jobId orgId now results).2 = true →
      ∃ rows, results.mapM (rowsOf jobId) = some rows ∧
        (added (loopOps fingerprintDer jobId orgId now results).1).toTables =
          { sessions := rows.map Prod.fst, findings := rows.flatMap Prod.snd } := by
  intro results
  induction results with
  | nil => exact fun _ => ⟨[], rfl, rfl⟩
  | cons x xs ih =>
    intro hok
    unfold loopOps at hok ⊢
    have hx := sessionOps_rows fingerprintDer jobId orgId now (x := x)
    rcases hops : sessionOps fingerprintDer jobId orgId now x with ⟨ops, _ | _⟩ <;>
      simp only [hops] at hok hx ⊢
    · cases hok
    · obtain ⟨row, hrow, hadded⟩ := hx trivial
      obtain ⟨rows, hrows, hrest⟩ := ih hok
      refine ⟨row :: rows, by rw [List.mapM_cons, hrow, hrows]; rfl, ?_⟩
      have hsessions := congrArg Tables.sessions hadded
      have hfindings := congrArg Tables.findings hadded
      have hsessions' := congrArg Tables.sessions hrest
      have hfindings' := congrArg Tables.findings hrest
      rw [added_append, Results.append_def, hsessions, hfindings, hsessions', hfindings']
      rfl

/-- **例外の無い job の row。** 命令の列は、`processAnalysisJob` の加える row を残す。 -/
theorem tables_runJob (results : List Scored) (exc : String) (db : JobDatabase)
    (hok : (jobOps fingerprintDer jobId orgId now results).2 = true) :
    processAnalysisJob jobId results db.toTables =
      some (runJob fingerprintDer jobId orgId now results exc none db).toTables := by
  have hloop := loopOps_rows fingerprintDer jobId orgId now results
  unfold runJob processAnalysisJob
  unfold jobOps at hok ⊢
  rcases hops : loopOps fingerprintDer jobId orgId now results with ⟨ops, _ | _⟩ <;>
    simp only [hops] at hok hloop ⊢
  · cases hok
  · obtain ⟨rows, hrows, hadded⟩ := hloop trivial
    rw [hrows, if_pos trivial]
    have hworking := working_foldl (startOps results.length ++ ops ++
      (persistOps jobId results).map .write) ⟨db, db⟩
    have hstored := (results_quiet (quiet_finishOps results) (step (execute (startOps results.length ++
      ops ++ (persistOps jobId results).map .write) db) .commit) rfl rfl).1
    have hadd : added (startOps results.length ++ ops ++ (persistOps jobId results).map .write) =
        added ops ++ added ((persistOps jobId results).map .write) := by
      rw [added_append, added_append, added_of_quiet (quiet_startOps _)]
      rfl
    rw [hadd] at hworking
    rw [execute_append, List.map_cons, List.foldl_cons]
    refine congrArg some (Eq.symm ((congrArg Results.toTables (hstored.trans hworking)).trans ?_))
    have hsessions := congrArg Tables.sessions hadded
    have hfindings := congrArg Tables.findings hadded
    rw [Results.append_def, Results.append_def, hsessions, hfindings]
    simp [persistOps, summaryRows, added, Write.added, Results.append_def]

/-- 二つ目の session の証明書が読めず、一つ目の row だけが加わった job。 -/
theorem partial_rows_kept : ¬ ∀ (fingerprintDer : List UInt8 → String) (jobId : String)
    (orgId : Option String) (now : Int) (results : List Scored) (exc : String) (fault : Option Fault)
    (db : JobDatabase), NoPartial fingerprintDer jobId orgId now results exc fault db := by
  intro h
  have hrows := congrArg (fun r => r.sessions.length) (h (fun _ => "") "job" none 0
    [⟨"u1", { unparseableSession with certs := [] }, plainScore⟩, ⟨"u2", unparseableSession, plainScore⟩]
    "min() arg is an empty sequence" none {} (by decide))
  revert hrows
  decide

end Shape

end CipherPost.Services.JobRun
