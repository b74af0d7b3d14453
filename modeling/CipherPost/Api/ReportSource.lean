import CipherPost.Parsing.GreaseVersions
import CipherPost.Parsing.Observed
import CipherPost.Services.Tasks

/-!
# DB から作り直した report

`app/api/main.py` の `_load_analysis_from_db` は、`process_analysis_job` の書いた row から解析と採点を作り直し、
report と evidence bundle はそれから作られる。row は版を名前で、証明書の検証を真偽で持ち、visibility を
持たない。

* `versionHex` — `_version_hex`
* `RowOrder` — `order by` の無い select の返す順
* `loadAnalysisFromDb` — `_load_analysis_from_db`
* `Rebuilt` — 作り直した解析と採点が、元の session から保つもの
* `SameReport` — 二つの report の一致
* `rebuilt_report_matches_iff` — 一致するための条件
-/

namespace CipherPost.Api

open Parsing Reporting Services

/-! ## 読み出し -/

/-- `_version_hex` の表。 -/
def VERSION_HEX : List (String × Nat) :=
  [("SSLv3", 0x0300), ("TLS 1.0", 0x0301), ("TLS 1.1", 0x0302), ("TLS 1.2", 0x0303),
    ("TLS 1.3", 0x0304)]

/-- `_version_hex`。 -/
def versionHex (ver : Option String) : Option Nat :=
  (Live.truthy ver).bind fun s => VERSION_HEX.lookup s

/-- `order by` の無い select の返す順。並べ替えであることだけが決まっている。 -/
structure RowOrder where
  sessions : List SessionRow → List SessionRow
  findings : List FindingRow → List FindingRow
  sessions_perm : ∀ rows, (sessions rows).Perm rows
  findings_perm : ∀ rows, (findings rows).Perm rows

/-- 書いた順に返す。 -/
def RowOrder.stored : RowOrder := ⟨fun rows => rows, fun rows => rows, .refl, .refl⟩

/-- 作り直した finding。`kind` は既定の値になる。 -/
def rebuiltFinding (r : FindingRow) : SessionFinding where
  ruleId := r.ruleId
  ruleName := r.ruleName
  severity := r.severity.text
  title := r.title
  description := r.description
  reference := r.reference

def rebuiltAnalysis (row : SessionRow) (findings : List FindingRow) : SessionAnalysis where
  sessionId := row.id
  protocol := row.protocol
  fiveTuple := row.fiveTuple
  isStarttls := row.isStarttls
  tlsVersion := versionHex row.tlsVersion
  cipher := row.negotiatedCipher
  cipherStrength := row.cipherStrength
  chainResult := if row.certChainValid then "ok" else "untrusted"
  findings := findings.map rebuiltFinding

def rebuiltScore (row : SessionRow) : ScoringResult :=
  let posture := row.riskScore.getD 0
  { risk :=
      { probability := posture / 100
        postureScore := posture
        classLabel := if 50 ≤ posture then "at-risk" else "healthy" }
    anomaly := { isAnomaly := row.isAnomaly, anomalyScore := -1 } }

section Load

variable (order : RowOrder) (db : Tables)

/-- job で選んだ session の row。 -/
def selectSessions (jobId : String) : List SessionRow :=
  order.sessions (db.sessions.filter fun r => decide (r.jobId = jobId))

/-- session の id で選んだ finding の row。 -/
def selectFindings (id : String) : List FindingRow :=
  order.findings (db.findings.filter fun r => decide (r.sessionId = id))

/-- `_load_analysis_from_db`。 -/
def loadAnalysisFromDb (jobId : String) : List SessionAnalysis × List ScoringResult :=
  let rows := selectSessions order db jobId
  (rows.map fun row => rebuiltAnalysis row (selectFindings order db row.id), rows.map rebuiltScore)

end Load

/-! ## 版の名前 -/

/-- 書く表の名前は、読む表に無い。 -/
theorem versionHex_table : ∀ e ∈ TLS_VERSION_NAMES, ∀ e' ∈ VERSION_HEX, (e.2 != e'.1) = true := by
  decide

/-- 読む表の名前は、十六進の表記ではない。 -/
theorem versionHex_digits : ∀ e ∈ VERSION_HEX, e.1.toList.head? ≠ some '0' := by decide

/-- **row の版の名前は、どの版のものも読み戻せない。** -/
theorem versionHex_versionName (v : Option Nat) : versionHex (v.map versionName) = none := by
  cases v with
  | none => rfl
  | some v =>
    refine Option.bind_eq_none_iff.mpr fun s hs => ?_
    obtain ⟨hname, -⟩ := Live.truthy_eq_some.mp hs
    obtain rfl := Option.some.inj hname
    refine List.lookup_eq_none_iff.mpr fun e he => ?_
    rcases versionName_cases v with ⟨e', he', hname⟩ | ⟨l, hl⟩
    · rw [hname]
      exact versionHex_table e' he' e he
    · refine bne_iff_ne.mpr fun heq => versionHex_digits e he ?_
      rw [← heq, hl]
      rfl

/-! ## 作り直した解析 -/

/-- 作り直した解析と採点が、元の session から保つもの。 -/
structure Rebuilt (x : Scored) (sa : SessionAnalysis) (s : ScoringResult) : Prop where
  sessionId : sa.sessionId = x.id
  protocol : sa.protocol = x.analysis.protocol
  fiveTuple : sa.fiveTuple = x.analysis.fiveTuple
  cipher : sa.cipher = x.analysis.cipher
  tlsVersion : sa.tlsVersion = versionHex x.analysis.negotiatedVersionName
  chainResult : sa.chainResult = if x.analysis.chainResult = "ok" then "ok" else "untrusted"
  findings : (sa.findings.map (findingEntry sa.fiveTuple)).Perm
    (x.analysis.findings.map (findingEntry x.analysis.fiveTuple))
  maxSeverity : maxSeverity sa.findings = maxSeverity x.analysis.findings
  visibility : sa.visibility = none
  notObservable : sa.notObservable = []
  posture : s.risk.postureScore = x.score.risk.postureScore
  anomaly : s.anomaly.isAnomaly = x.score.anomaly.isAnomaly

/-- 一つの session の row から作り直す。 -/
theorem rebuilt_rows {jobId : String} {x : Scored} {rows : SessionRow × List FindingRow}
    (h : RowsOf jobId x rows) {fs : List FindingRow} (hfs : fs.Perm rows.2) :
    Rebuilt x (rebuiltAnalysis rows.1 fs) (rebuiltScore rows.1) := by
  obtain ⟨age, hrow⟩ := h.session
  -- row の finding は、並びの他は元の finding と同じである
  have hentry : x.analysis.findings.map (findingEntry x.analysis.fiveTuple) =
      rows.2.map fun r => findingEntry x.analysis.fiveTuple (rebuiltFinding r) := by
    refine Aligned.map_eq (fun f r hf => ?_) h.findings
    obtain ⟨-, rfl⟩ := findingRow_eq_some hf
    rfl
  have hsev : x.analysis.findings.map (·.severity) = rows.2.map fun r => r.severity.text := by
    refine Aligned.map_eq (fun f r hf => ?_) h.findings
    obtain ⟨-, rfl⟩ := findingRow_eq_some hf
    rfl
  rw [hrow]
  refine ⟨rfl, rfl, rfl, rfl, rfl, ?_, ?_, ?_, rfl, rfl, rfl, rfl⟩
  · show (if decide (x.analysis.chainResult = "ok") = true then "ok" else "untrusted") = _
    simp only [decide_eq_true_eq]
  · rw [hentry]
    show ((fs.map rebuiltFinding).map (findingEntry x.analysis.fiveTuple)).Perm _
    rw [List.map_map]
    exact hfs.map _
  · refine maxSeverity_perm ?_ fun f hf => ?_
    · rw [hsev]
      show ((fs.map rebuiltFinding).map (·.severity)).Perm _
      rw [List.map_map]
      exact hfs.map _
    · obtain ⟨r, -, rfl⟩ := List.mem_map.mp hf
      exact ⟨r.severity, rfl⟩

variable {jobId : String} {results : List Scored} {db db' : Tables}

/-- **作り直した解析と採点は、元の session を並べ替えたものに一つずつ対応する。** -/
theorem exists_rebuilt (order : RowOrder) (hfresh : FreshJob jobId results db)
    (h : processAnalysisJob jobId results db = some db') :
    ∃ results', results'.Perm results ∧
      List.Forall₂ (fun x row => Rebuilt x (rebuiltAnalysis row (selectFindings order db' row.id))
        (rebuiltScore row)) results' (selectSessions order db' jobId) := by
  obtain ⟨rows, hrows, hsessions, hfindings⟩ := exists_rows h
  -- 選ばれた row は、加えられた row を並べ替えたものである
  have hselect : (selectSessions order db' jobId).Perm (rows.map Prod.fst) := by
    unfold selectSessions
    rw [hsessions, filter_sessions hfresh hrows]
    exact order.sessions_perm _
  have halign : List.Forall₂ (fun row x => x ∈ results ∧ ∃ rs ∈ rows, rs.1 = row ∧
      RowsOf jobId x rs) (rows.map Prod.fst) results := by
    refine List.forall₂_map_left_iff.mpr ((Aligned.with_mem hrows).flip.imp ?_)
    rintro rs x ⟨hx, hrs, hrow⟩
    exact ⟨hx, rs, hrs, rfl, hrow⟩
  obtain ⟨results', hperm, haligned⟩ := Aligned.of_perm hselect halign
  refine ⟨results', hperm, haligned.flip.imp ?_⟩
  rintro x row ⟨hx, rs, hrs, rfl, hrow⟩
  refine rebuilt_rows hrow ?_
  unfold selectFindings
  rw [hfindings, hrow.id_eq, filter_findings hfresh hrows hx hrs hrow]
  exact order.findings_perm _

/-! ## 二つの report -/

/-- 解析の版と visibility は、版が分からず検証が `ok` か `untrusted` なら row から作り直せる。 -/
def Recoverable (sa : SessionAnalysis) : Prop :=
  sa.tlsVersion = none ∧ sa.chainResult ∈ ["ok", "untrusted"]

/-- session の行が同じになるのは、ちょうど作り直せるときである。 -/
theorem sessionLine_rebuilt_iff {x : Scored} {sa : SessionAnalysis} {s : ScoringResult}
    (h : Rebuilt x sa s) (hx : Observed x.analysis) :
    sessionLine sa (some s) = sessionLine x.analysis (some x.score) ↔ Recoverable x.analysis := by
  have hversion : sa.tlsVersion = none := by
    rw [h.tlsVersion, hx.named]
    exact versionHex_versionName _
  unfold sessionLine Recoverable
  rw [hversion, h.fiveTuple, h.protocol, h.cipher, h.chainResult, h.maxSeverity]
  constructor
  · intro heq
    have hv := congrArg SessionLine.tlsVersion heq
    have hc := congrArg SessionLine.chainResult heq
    dsimp only at hv hc
    refine ⟨Option.map_eq_none_iff.mp hv.symm, ?_⟩
    split at hc
    · rw [← hc]; exact List.mem_cons_self
    · rw [← hc]; exact List.mem_cons_of_mem _ List.mem_cons_self
  · rintro ⟨hv, hc⟩
    have hchain : (if x.analysis.chainResult = "ok" then "ok" else "untrusted") =
        x.analysis.chainResult := by
      rcases List.mem_cons.mp hc with hc | hc
      · rw [hc]; rfl
      · rw [List.mem_singleton.mp hc]; rfl
    rw [hchain, hv]
    simp [h.posture, h.anomaly]

/-- DB から作り直した report が、元の解析と採点の report と同じである。 -/
structure SameReport (results : List Scored) (loaded : List SessionAnalysis)
    (rebuilt memory : ReportData) : Prop where
  count : loaded.length = results.length
  /-- session ごとに、同じ行になる。 -/
  sessions : ∀ (i j : Nat) (sa : SessionAnalysis) (x : Scored), loaded[i]? = some sa → results[j]? = some x → sa.sessionId = x.id →
    rebuilt.sessions[i]? = memory.sessions[j]?
  findings : rebuilt.findings.Perm memory.findings
  tls13Sessions : rebuilt.tls13Sessions = memory.tls13Sessions
  notObservable : ∀ rid, rebuilt.notObservable.get? rid = memory.notObservable.get? rid
  limitations : rebuilt.limitations = memory.limitations

/-- 記録に残る解析は、どれも `analyze_session` の結果である。 -/
theorem observed_results {lib : Analyzer} {now : Int} {sessions : List Session}
    (h : analyzePcap (lib.withRules now) sessions = .ok (results.map Scored.analysis)) :
    ∀ x ∈ results, Observed x.analysis := by
  intro x hx
  obtain ⟨sess, -, hsess⟩ :=
    Aligned.exists_left (Aligned.of_mapM_ok h) (List.mem_map.mpr ⟨x, hx, rfl⟩)
  exact observed_analyzeSession hsess

/-- 作り直した report の行が元の行と同じなのは、作り直せる session である。 -/
theorem line_iff (generatedAt generatedAt' filename : String) {order : RowOrder} {i j : Nat}
    {row : SessionRow} {x : Scored} (hrow : (selectSessions order db' jobId)[i]? = some row)
    (hx : results[j]? = some x)
    (h : Rebuilt x (rebuiltAnalysis row (selectFindings order db' row.id)) (rebuiltScore row))
    (hobs : Observed x.analysis) :
    let loaded := loadAnalysisFromDb order db' jobId
    (buildReportData generatedAt filename loaded.1 loaded.2).sessions[i]? =
        (buildReportData generatedAt' filename (results.map Scored.analysis)
          (results.map Scored.score)).sessions[j]? ↔ Recoverable x.analysis := by
  dsimp only [loadAnalysisFromDb]
  rw [sessions_getElem?, sessions_getElem?]
  simp only [List.getElem?_map, hrow, hx, Option.map_some, Option.some.injEq]
  exact sessionLine_rebuilt_iff h hobs

/-- 同じ report になるのは、作り直せる session だけのときである。 -/
theorem recoverable_of_same (hobs : ∀ x ∈ results, Observed x.analysis)
    (hfresh : FreshJob jobId results db) (hjob : processAnalysisJob jobId results db = some db')
    {order : RowOrder} {generatedAt generatedAt' filename : String}
    (hsame : SameReport results (loadAnalysisFromDb order db' jobId).1
      (buildReportData generatedAt filename (loadAnalysisFromDb order db' jobId).1
        (loadAnalysisFromDb order db' jobId).2)
      (buildReportData generatedAt' filename (results.map Scored.analysis)
        (results.map Scored.score))) : ∀ x ∈ results, Recoverable x.analysis := by
  obtain ⟨results', hperm, halign⟩ := exists_rebuilt order hfresh hjob
  intro x hx
  -- `x` の row を、選んだ row の中から探す
  obtain ⟨i, hi⟩ := List.mem_iff_getElem?.mp (hperm.mem_iff.mpr hx)
  obtain ⟨j, hj⟩ := List.mem_iff_getElem?.mp hx
  have hlt : i < (selectSessions order db' jobId).length :=
    halign.length_eq ▸ (List.getElem?_eq_some_iff.mp hi).1
  have hrow := List.getElem?_eq_getElem hlt
  have hrebuilt := Aligned.getElem? halign hi hrow
  refine (line_iff generatedAt generatedAt' filename hrow hj hrebuilt (hobs x hx)).mp ?_
  refine hsame.sessions i j _ x ?_ hj hrebuilt.sessionId
  dsimp only [loadAnalysisFromDb]
  rw [List.getElem?_map, hrow]
  rfl

/-- **finding の一覧は、並びの他は元のものである。** -/
theorem findings_rebuilt (order : RowOrder) (hfresh : FreshJob jobId results db)
    (hjob : processAnalysisJob jobId results db = some db') :
    (allFindings (loadAnalysisFromDb order db' jobId).1).Perm
      (allFindings (results.map Scored.analysis)) := by
  obtain ⟨results', hperm, halign⟩ := exists_rebuilt order hfresh hjob
  have hrebuilt : (results'.flatMap fun x =>
      x.analysis.findings.map (findingEntry x.analysis.fiveTuple)).Perm
      (allFindings (loadAnalysisFromDb order db' jobId).1) := by
    unfold allFindings loadAnalysisFromDb
    rw [List.flatMap_map]
    exact Aligned.flatMap_perm (fun x row h => h.findings.symm) halign
  have hmemory : (results'.flatMap fun x =>
      x.analysis.findings.map (findingEntry x.analysis.fiveTuple)).Perm
      (allFindings (results.map Scored.analysis)) := by
    unfold allFindings
    rw [List.flatMap_map]
    exact hperm.flatMap_right _
  exact hrebuilt.symm.trans hmemory

/-- 作り直した解析には visibility が無い。 -/
theorem hidden_rebuilt (order : RowOrder) (db' : Tables) (jobId : String) : ∀ sa ∈ (loadAnalysisFromDb order db' jobId).1,
    sa.visibility.any (·.tls13) = false ∧ sa.notObservable = [] := by
  intro sa hsa
  obtain ⟨row, -, rfl⟩ := List.mem_map.mp hsa
  exact ⟨rfl, rfl⟩

/-- 版の分からない session には、見えなかったものの記録が無い。 -/
theorem hidden_unversioned (hobs : ∀ x ∈ results, Observed x.analysis)
    (hversion : ∀ x ∈ results, x.analysis.tlsVersion = none) :
    ∀ sa ∈ results.map Scored.analysis,
      sa.visibility.any (·.tls13) = false ∧ sa.notObservable = [] := by
  intro sa hsa
  obtain ⟨x, hx, rfl⟩ := List.mem_map.mp hsa
  have hsees : x.analysis.seesTls13 = false := by
    refine Bool.eq_false_iff.mpr fun h => ?_
    have h13 := (hobs x hx).tls13 h
    rw [hversion x hx] at h13
    cases h13
  exact ⟨hsees, (hobs x hx).skipped hsees⟩

/--
**DB から作り直した report が元の report と同じになるのは、どの session も版が分からず、証明書の検証が
`ok` か `untrusted` のときであり、そのときに限る。**
-/
theorem rebuilt_report_matches_iff {lib : Analyzer} {now : Int} {sessions : List Session}
    (hpcap : analyzePcap (lib.withRules now) sessions = .ok (results.map Scored.analysis))
    (hfresh : FreshJob jobId results db) (hjob : processAnalysisJob jobId results db = some db')
    (order : RowOrder) (generatedAt generatedAt' filename : String) :
    let loaded := loadAnalysisFromDb order db' jobId
    SameReport results loaded.1 (buildReportData generatedAt filename loaded.1 loaded.2)
        (buildReportData generatedAt' filename (results.map Scored.analysis)
          (results.map Scored.score)) ↔
      ∀ x ∈ results, Recoverable x.analysis := by
  have hobs := observed_results hpcap
  refine ⟨recoverable_of_same hobs hfresh hjob, fun hall => ?_⟩
  obtain ⟨results', hperm, halign⟩ := exists_rebuilt order hfresh hjob
  have hrebuilt := hidden_rebuilt order db' jobId
  have hmemory := hidden_unversioned hobs fun x hx => (hall x hx).1
  have htls : tls13SessionsOf (loadAnalysisFromDb order db' jobId).1 =
      tls13SessionsOf (results.map Scored.analysis) := by
    rw [tls13SessionsOf_eq_zero fun sa hsa => (hmemory sa hsa).1,
      tls13SessionsOf_eq_zero fun sa hsa => (hrebuilt sa hsa).1]
  have hskip : notObservableOf (loadAnalysisFromDb order db' jobId).1 =
      notObservableOf (results.map Scored.analysis) := by
    rw [notObservableOf_eq_empty fun sa hsa => (hmemory sa hsa).2,
      notObservableOf_eq_empty fun sa hsa => (hrebuilt sa hsa).2]
  refine ⟨?_, fun i j sa x hsa hx hid => ?_, ?_, htls, fun rid => ?_, ?_⟩
  · rw [← hperm.length_eq, halign.length_eq]
    exact List.length_map _
  · obtain ⟨row, hrow, rfl⟩ : ∃ row, (selectSessions order db' jobId)[i]? = some row ∧
        rebuiltAnalysis row (selectFindings order db' row.id) = sa := by
      rw [loadAnalysisFromDb, List.getElem?_map] at hsa
      exact Option.map_eq_some_iff.mp hsa
    have hlt : i < results'.length := halign.length_eq ▸ (List.getElem?_eq_some_iff.mp hrow).1
    have hx' := List.getElem?_eq_getElem hlt
    have hrow' := Aligned.getElem? halign hx' hrow
    have hmem := List.mem_of_getElem? hx
    -- uuid は重ならないので、row は `x` のものである
    have heq : results'[i] = x := List.inj_on_of_nodup_map hfresh.ids
      (hperm.mem_iff.mp (List.mem_of_getElem? hx')) hmem (hrow'.sessionId.symm.trans hid)
    rw [heq] at hrow'
    exact (line_iff generatedAt generatedAt' filename hrow hx hrow' (hobs x hmem)).mpr (hall x hmem)
  · exact sortFindings_perm (findings_rebuilt order hfresh hjob)
  · exact congrArg (fun d => Dict.get? d rid) hskip
  · show limitationsOf _ _ = limitationsOf _ _
    rw [htls, hskip]

/-! ## 例 -/

/-- TLS 1.2 の session の解析。比較の中で展開しない。 -/
@[irreducible] def tls12Analysis : SessionAnalysis :=
  runRules (bareAnalyzer.withRules 0) (assemble bareAnalyzer (helloSession [0x0303])
    (some (helloInfo [0x0303])) (some sentinelInfo) none [])

def tls12Scored : Scored where
  id := "7d1c"
  analysis := tls12Analysis
  score :=
    { risk := { probability := 0, postureScore := 0, classLabel := "healthy" }
      anomaly := { isAnomaly := false, anomalyScore := -1 } }

theorem analyzePcap_tls12 :
    analyzePcap (bareAnalyzer.withRules 0) [helloSession [0x0303]] =
      .ok ([tls12Scored].map Scored.analysis) := by
  have hprep : prepared bareAnalyzer (helloSession [0x0303]) =
      .ok (assemble bareAnalyzer (helloSession [0x0303]) (some (helloInfo [0x0303]))
        (some sentinelInfo) none []) :=
    prepared_of_ok bareAnalyzer (by decide +kernel)
      (clientHelloOf_helloSession [0x0303] (by decide)) serverSideOf_helloSession
  have hsess : analyzeSession (bareAnalyzer.withRules 0) (helloSession [0x0303]) =
      .ok tls12Analysis := by
    rw [analyzeSession_eq, prepared_withRules, hprep]
    unfold tls12Analysis
    rfl
  exact analyzePcap_singleton hsess

theorem freshJob_tls12 : FreshJob "job" [tls12Scored] {} :=
  ⟨fun _ h => absurd h List.not_mem_nil, List.nodup_singleton _,
    fun _ h => absurd h List.not_mem_nil⟩

/-- TLS 1.2 の session は、作り直せないので一致しない。 -/
theorem rebuilt_report_matches_tls12 :
    ∃ db', processAnalysisJob "job" [tls12Scored] {} = some db' ∧
      (SameReport [tls12Scored] (loadAnalysisFromDb .stored db' "job").1
        (buildReportData "" "a.pcap" (loadAnalysisFromDb .stored db' "job").1
          (loadAnalysisFromDb .stored db' "job").2)
        (buildReportData "" "a.pcap" ([tls12Scored].map Scored.analysis)
          ([tls12Scored].map Scored.score)) ↔
      ∀ x ∈ [tls12Scored], Recoverable x.analysis) := by
  have hsome : (processAnalysisJob "job" [tls12Scored] {}).isSome = true := by decide +kernel
  obtain ⟨db', hjob⟩ := Option.isSome_iff_exists.mp hsome
  refine ⟨db', hjob, ?_⟩
  exact rebuilt_report_matches_iff analyzePcap_tls12 freshJob_tls12 hjob .stored "" "" "a.pcap"

/-- TLS 1.2 と書かれた session の版が、作り直した report では消え、検証は `untrusted` になる。 -/
theorem rebuilt_report_loses_version :
    analyzePcap (bareAnalyzer.withRules 0) [helloSession [0x0303]] =
      .ok ([tls12Scored].map Scored.analysis) ∧
    FreshJob "job" [tls12Scored] {} ∧
    ∃ db', processAnalysisJob "job" [tls12Scored] {} = some db' ∧
      (sessionLine tls12Analysis (some tls12Scored.score)).tlsVersion = some "TLS1.2" ∧
      tls12Analysis.chainResult = "no-cert" ∧
      (loadAnalysisFromDb .stored db' "job").1.map (fun sa => (sa.tlsVersion, sa.chainResult)) =
        [(none, "untrusted")] ∧
      ¬SameReport [tls12Scored] (loadAnalysisFromDb .stored db' "job").1
        (buildReportData "" "a.pcap" (loadAnalysisFromDb .stored db' "job").1
          (loadAnalysisFromDb .stored db' "job").2)
        (buildReportData "" "a.pcap" ([tls12Scored].map Scored.analysis)
          ([tls12Scored].map Scored.score)) := by
  have hversion : tls12Analysis.tlsVersion = some 0x0303 := by decide +kernel
  have hrows : (processAnalysisJob "job" [tls12Scored] {}).map (fun db' =>
      (loadAnalysisFromDb .stored db' "job").1.map fun sa => (sa.tlsVersion, sa.chainResult)) =
      some [(none, "untrusted")] := by decide +kernel
  obtain ⟨db', hjob, hloaded⟩ := Option.map_eq_some_iff.mp hrows
  refine ⟨analyzePcap_tls12, freshJob_tls12, db', hjob, ?_, by decide +kernel, hloaded,
    fun hsame => ?_⟩
  · show tls12Analysis.tlsVersion.map versionName = _
    rw [hversion]
    decide
  · have hobs : ∀ x ∈ [tls12Scored], Observed x.analysis := observed_results analyzePcap_tls12
    have hrec := recoverable_of_same hobs freshJob_tls12 hjob hsame tls12Scored List.mem_cons_self
    rw [Recoverable] at hrec
    exact absurd (hversion.symm.trans hrec.1) (Option.some_ne_none _)

end CipherPost.Api
