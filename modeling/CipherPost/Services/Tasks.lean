import CipherPost.Infra.Aligned
import CipherPost.Reporting.Generator

/-!
# 解析の row

`app/services/tasks.py` の `process_analysis_job` が書く session と finding の row。row を作る途中の例外は job を
失敗させ、row を残さない。

* `SessionRow`・`FindingRow`・`Tables` — row と table
* `processAnalysisJob` — row を加える
* `FreshJob` — job と session の id が新しいこと
* `exists_rows` — 加えられた row
* `filter_findings` — session の id で選んだ finding の row
-/

namespace CipherPost.Services

open Parsing Reporting

/-! ## table -/

/-- `sessions` の row のうち、解析から写す列。 -/
structure SessionRow where
  id : String
  jobId : String
  protocol : String
  fiveTuple : String
  isStarttls : Bool
  tlsVersion : Option String
  negotiatedCipher : Option String
  cipherStrength : Option Nat
  keyLength : Option Nat
  pfsSupported : Option Bool
  certChainValid : Bool
  certAgeDays : Option Int
  isAnomaly : Bool
  riskScore : Option Int
  modelVersion : Option String
  overallFindingCount : Nat
  maxSeverity : Option String
  deriving DecidableEq

/-- `findings` の row。 -/
structure FindingRow where
  sessionId : String
  ruleId : String
  ruleName : String
  severity : Live.Severity
  title : String
  description : String
  reference : String
  kind : String
  deriving DecidableEq

structure Tables where
  sessions : List SessionRow := []
  findings : List FindingRow := []

/-- 採点された session。`id` は row のために引いた uuid である。 -/
structure Scored where
  id : String
  analysis : SessionAnalysis
  score : ScoringResult

/-! ## row を作る -/

/-- `Severity(s)`。列挙に無ければ例外になる。 -/
def severityOf? (s : String) : Option Live.Severity :=
  [.info, .low, .medium, .high, .critical].find? fun sev => decide (sev.text = s)

/-- `cert_age_days`。証明書があるのに残りの日数が一つも分からなければ、`min` が例外になる。 -/
def certAgeDays : List CertAnalysis → Option (Option Int)
  | [] => some none
  | certs => match certs.filterMap (·.daysRemaining) with
    | [] => none
    | d :: ds => some (some (ds.foldl min d))

def sessionRow (jobId : String) (x : Scored) (age : Option Int) : SessionRow where
  id := x.id
  jobId := jobId
  protocol := x.analysis.protocol
  fiveTuple := x.analysis.fiveTuple
  isStarttls := x.analysis.isStarttls
  tlsVersion := x.analysis.negotiatedVersionName
  negotiatedCipher := x.analysis.cipher
  cipherStrength := x.analysis.cipherStrength
  keyLength := x.analysis.cipherMeta.map (·.keyLen)
  pfsSupported := x.analysis.cipherMeta.map (·.pfs)
  certChainValid := decide (x.analysis.chainResult = "ok")
  certAgeDays := age
  isAnomaly := x.score.anomaly.isAnomaly
  riskScore := some x.score.risk.postureScore
  modelVersion := some x.score.risk.modelVersion
  overallFindingCount := x.analysis.findings.length
  maxSeverity := maxSeverity x.analysis.findings

def findingRow (sessionId : String) (f : SessionFinding) : Option FindingRow := do
  let severity ← severityOf? f.severity
  some { sessionId := sessionId, ruleId := f.ruleId, ruleName := f.ruleName, severity := severity
         title := f.title, description := f.description, reference := f.reference, kind := f.kind }

/-- 一つの session の row。 -/
def rowsOf (jobId : String) (x : Scored) : Option (SessionRow × List FindingRow) := do
  let age ← certAgeDays x.analysis.certs
  let findings ← x.analysis.findings.mapM (findingRow x.id)
  some (sessionRow jobId x age, findings)

/-- `process_analysis_job` が row を加えた後の table。 -/
def processAnalysisJob (jobId : String) (results : List Scored) (db : Tables) : Option Tables := do
  let rows ← results.mapM (rowsOf jobId)
  some { sessions := db.sessions ++ rows.map Prod.fst
         findings := db.findings ++ rows.flatMap Prod.snd }

/-- job は初めて走り、uuid は新しい。 -/
structure FreshJob (jobId : String) (results : List Scored) (db : Tables) : Prop where
  job : ∀ row ∈ db.sessions, row.jobId ≠ jobId
  ids : (results.map Scored.id).Nodup
  findings : ∀ f ∈ db.findings, ∀ x ∈ results, f.sessionId ≠ x.id

/-! ## 加えられた row -/

theorem severityOf?_eq_some {s : String} {sev : Live.Severity} (h : severityOf? s = some sev) :
    s = sev.text := by
  have hfound := List.find?_some h
  exact (of_decide_eq_true hfound).symm

/-- finding の row は、session の id と finding を写す。 -/
theorem findingRow_eq_some {sessionId : String} {f : SessionFinding} {r : FindingRow}
    (h : findingRow sessionId f = some r) :
    r.sessionId = sessionId ∧
      f = ⟨r.ruleId, r.ruleName, r.severity.text, r.title, r.description, r.reference, r.kind⟩ := by
  obtain ⟨sev, hsev, h⟩ := Option.bind_eq_some_iff.mp h
  cases h
  exact ⟨rfl, by rw [← severityOf?_eq_some hsev]⟩

/-- 一つの session から作られた row。 -/
structure RowsOf (jobId : String) (x : Scored) (rows : SessionRow × List FindingRow) : Prop where
  session : ∃ age, rows.1 = sessionRow jobId x age
  findings : List.Forall₂ (fun f r => findingRow x.id f = some r) x.analysis.findings rows.2

namespace RowsOf

variable {jobId : String} {x : Scored} {rows : SessionRow × List FindingRow}

theorem of_eq (h : rowsOf jobId x = some rows) : RowsOf jobId x rows := by
  obtain ⟨age, -, h⟩ := Option.bind_eq_some_iff.mp h
  obtain ⟨fs, hfs, h⟩ := Option.bind_eq_some_iff.mp h
  cases h
  exact ⟨⟨age, rfl⟩, Aligned.of_mapM hfs⟩

theorem id_eq (h : RowsOf jobId x rows) : rows.1.id = x.id := by
  obtain ⟨age, hrow⟩ := h.session
  rw [hrow]
  rfl

theorem job_eq (h : RowsOf jobId x rows) : rows.1.jobId = jobId := by
  obtain ⟨age, hrow⟩ := h.session
  rw [hrow]
  rfl

theorem sessionId_eq (h : RowsOf jobId x rows) : ∀ r ∈ rows.2, r.sessionId = x.id := by
  intro r hr
  obtain ⟨f, -, hf⟩ := Aligned.exists_left h.findings hr
  exact (findingRow_eq_some hf).1

end RowsOf

variable {jobId : String} {results : List Scored} {db db' : Tables}

/-- 成功した job は、session ごとの row を加える。 -/
theorem exists_rows (h : processAnalysisJob jobId results db = some db') :
    ∃ rows, List.Forall₂ (RowsOf jobId) results rows ∧
      db'.sessions = db.sessions ++ rows.map Prod.fst ∧
      db'.findings = db.findings ++ rows.flatMap Prod.snd := by
  obtain ⟨rows, hrows, h⟩ := Option.bind_eq_some_iff.mp h
  cases h
  exact ⟨rows, (Aligned.of_mapM hrows).imp fun _ _ => RowsOf.of_eq, rfl, rfl⟩

/-- job で選んだ session の row は、加えられたものである。 -/
theorem filter_sessions (hfresh : FreshJob jobId results db)
    {rows : List (SessionRow × List FindingRow)} (hrows : List.Forall₂ (RowsOf jobId) results rows) :
    (db.sessions ++ rows.map Prod.fst).filter (fun r => decide (r.jobId = jobId)) =
      rows.map Prod.fst := by
  have hold : db.sessions.filter (fun r => decide (r.jobId = jobId)) = [] :=
    List.filter_eq_nil_iff.mpr fun r hr h => hfresh.job r hr (of_decide_eq_true h)
  have hnew : (rows.map Prod.fst).filter (fun r => decide (r.jobId = jobId)) = rows.map Prod.fst := by
    refine List.filter_eq_self.mpr fun r hr => decide_eq_true ?_
    obtain ⟨row, hrow, rfl⟩ := List.mem_map.mp hr
    obtain ⟨x, -, hx⟩ := Aligned.exists_left hrows hrow
    exact hx.job_eq
  rw [List.filter_append, hold, hnew, List.nil_append]

/-- id の重ならない session の、finding の row を id で選ぶ。 -/
theorem filter_flatMap {x : Scored} {row : SessionRow × List FindingRow} :
    ∀ {results : List Scored} {rows : List (SessionRow × List FindingRow)},
      List.Forall₂ (RowsOf jobId) results rows → (results.map Scored.id).Nodup → row ∈ rows →
        RowsOf jobId x row →
          (rows.flatMap Prod.snd).filter (fun r => decide (r.sessionId = x.id)) = row.2 := by
  intro results rows h
  induction h with
  | nil => exact fun _ hmem => absurd hmem List.not_mem_nil
  | @cons y r results rows hy hrest ih =>
    intro hnodup hmem hx
    obtain ⟨hne, hnodup⟩ := List.nodup_cons.mp hnodup
    rw [List.flatMap_cons, List.filter_append]
    -- `x` の id の row は、先頭にあるか、残りにあるかのどちらか一方である
    by_cases hid : y.id = x.id
    · have htail : (rows.flatMap Prod.snd).filter (fun r => decide (r.sessionId = x.id)) = [] := by
        refine List.filter_eq_nil_iff.mpr fun f hf h => hne ?_
        obtain ⟨r', hr', hf'⟩ := List.mem_flatMap.mp hf
        obtain ⟨z, hz, hzr⟩ := Aligned.exists_left hrest hr'
        have hzid : z.id = y.id :=
          ((hzr.sessionId_eq f hf').symm.trans (of_decide_eq_true h)).trans hid.symm
        exact List.mem_map.mpr ⟨z, hz, hzid⟩
      have hrow : row = r := by
        rcases List.mem_cons.mp hmem with heq | hmem
        · exact heq
        · obtain ⟨z, hz, hzr⟩ := Aligned.exists_left hrest hmem
          have hzid : z.id = y.id := (hzr.id_eq.symm.trans hx.id_eq).trans hid.symm
          exact absurd (List.mem_map.mpr ⟨z, hz, hzid⟩) hne
      rw [htail, List.append_nil, hrow]
      exact List.filter_eq_self.mpr fun f hf => decide_eq_true ((hy.sessionId_eq f hf).trans hid)
    · have hhead : r.2.filter (fun r => decide (r.sessionId = x.id)) = [] :=
        List.filter_eq_nil_iff.mpr fun f hf h =>
          hid ((hy.sessionId_eq f hf).symm.trans (of_decide_eq_true h))
      have hmem : row ∈ rows := by
        rcases List.mem_cons.mp hmem with heq | hmem
        · exact absurd (hy.id_eq.symm.trans (heq ▸ hx.id_eq)) hid
        · exact hmem
      rw [hhead, List.nil_append]
      exact ih hnodup hmem hx

/-- session の id で選んだ finding の row は、その session のものである。 -/
theorem filter_findings (hfresh : FreshJob jobId results db)
    {rows : List (SessionRow × List FindingRow)} (hrows : List.Forall₂ (RowsOf jobId) results rows)
    {x : Scored} (hx : x ∈ results) {row : SessionRow × List FindingRow} (hrow : row ∈ rows)
    (h : RowsOf jobId x row) :
    (db.findings ++ rows.flatMap Prod.snd).filter (fun r => decide (r.sessionId = x.id)) =
      row.2 := by
  have hold : db.findings.filter (fun r => decide (r.sessionId = x.id)) = [] :=
    List.filter_eq_nil_iff.mpr fun f hf h => hfresh.findings f hf x hx (of_decide_eq_true h)
  rw [List.filter_append, hold, List.nil_append]
  exact filter_flatMap hrows hfresh.ids hrow h

end CipherPost.Services
