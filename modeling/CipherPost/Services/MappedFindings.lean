import CipherPost.Infra.Run
import CipherPost.Live.Persist
import CipherPost.Parsing.CertVisibility
import CipherPost.Proactive.Compliance
import CipherPost.Services.SessionColumns

/-!
# 書かれる finding の規格

batch の job（`app/services/tasks.py`）と live の worker（`app/live/analyze.py`）の書く finding は、解析器の rule か、
worker の足す二つの rule のものである。`compliance_data/mapping-v1.json` は、そのどれにも札を付けている。

* `WRITTEN_IDS`・`complianceFor_written` — 書かれる finding の rule と、その札
* `ids_analyzeSession`・`ids_rows` — 解析の finding と、配達の書く finding の rule
* `all_mapped` — job と配達をどう並べても、札の無い finding は書かれない
-/

namespace CipherPost.Services

open CipherPost.Live CipherPost.Parsing CipherPost.Proactive

/-! ## rule -/

/-- `_persist` の足す finding の rule。 -/
def WORKER_IDS : List String := ["denied-fingerprint-match", "transport-regression"]

/-- 書かれる finding の rule。 -/
def WRITTEN_IDS : List String := (ruleTable 0).flatMap Prod.fst ++ WORKER_IDS

/-- **書かれる finding の rule には、札がある。** -/
theorem complianceFor_written : ∀ id ∈ WRITTEN_IDS, complianceFor id ≠ [] := by decide +kernel

/-- 解析の finding は、rule の列の出すものである。 -/
theorem ids_analyzeSession {lib : Analyzer} {now : Int} {sess : Parsing.Session} {sa : SessionAnalysis}
    (h : analyzeSession (lib.withRules now) sess = .ok sa) : ∀ f ∈ sa.findings, f.ruleId ∈ WRITTEN_IDS := by
  obtain ⟨start, hprep, rfl⟩ := analyzeSession_eq_ok_iff.mp h
  rw [findings_runRules, (fresh_prepared hprep).findings, List.nil_append]
  intro f hf
  obtain ⟨e, he, hemitted⟩ := List.mem_flatMap.mp hf
  have hid : f.ruleId ∈ e.1 := (appends_ruleTable now e he).ids start f hemitted
  -- rule の id は、時刻によらない
  have hids : (ruleTable now).flatMap Prod.fst = (ruleTable 0).flatMap Prod.fst := rfl
  refine List.mem_append_left _ ?_
  rw [← hids]
  exact List.mem_flatMap.mpr ⟨e, he, hid⟩

/-! ## batch の job -/

/-- 解析器の出した解析。 -/
def Analyzed (sa : SessionAnalysis) : Prop :=
  ∃ (lib : Analyzer) (now : Int) (sess : Parsing.Session), analyzeSession (lib.withRules now) sess = .ok sa

/-- job の書く finding の rule。 -/
theorem ids_processAnalysisJob {jobId : String} {results : List Scored} {db db' : Tables}
    (hresults : ∀ x ∈ results, Analyzed x.analysis) (h : processAnalysisJob jobId results db = some db') :
    ∀ row ∈ db'.findings, row ∈ db.findings ∨ row.ruleId ∈ WRITTEN_IDS := by
  obtain ⟨rows, hrows, -, hfindings⟩ := exists_rows h
  rw [hfindings]
  intro row hrow
  refine (List.mem_append.mp hrow).imp_right fun hnew => ?_
  obtain ⟨pair, hpair, hmem⟩ := List.mem_flatMap.mp hnew
  obtain ⟨x, hx, hof⟩ := Aligned.exists_left hrows hpair
  obtain ⟨f, hf, hcopy⟩ := Aligned.exists_left hof.findings hmem
  obtain ⟨lib, now, sess, hok⟩ := hresults x hx
  have hid := ids_analyzeSession hok f hf
  rw [(findingRow_eq_some hcopy).2] at hid
  exact hid

/-! ## live の配達 -/

theorem ruleId_detectRegression {flow : MailFlow} {tlsVersion : Option String} {encrypted : Bool}
    {f : RuleFinding} (h : detectRegression flow tlsVersion encrypted = some f) :
    f.ruleId = "transport-regression" := by
  unfold detectRegression at h
  dsimp only at h
  split at h
  · cases h
  · split at h
    · cases h
      rfl
    · split at h
      · split at h
        · cases h
          rfl
        · cases h
      · cases h

/-- 解析の finding のほかは、worker の足すものである。 -/
theorem ids_found {lib : Hashes} {d : Delivery} {a : Analysed} {org : Option String}
    {flows : FlowTable} {f : RuleFinding} (h : f ∈ d.found lib a org flows) :
    f ∈ a.findings ∨ f.ruleId ∈ WORKER_IDS := by
  rcases List.mem_append.mp h with hf | hregression
  · refine (List.mem_append.mp hf).imp_right fun hdenied => ?_
    obtain ⟨hit, -, rfl⟩ := Option.map_eq_some_iff.mp (Option.mem_toList.mp hdenied)
    exact List.mem_cons_self
  · right
    have hsome : (updateFlow lib.sha256 org d.now a.flowSession flows).2 = some f :=
      Option.mem_toList.mp hregression
    have hid : f.ruleId = "transport-regression" := by
      unfold updateFlow at hsome
      dsimp only at hsome
      split at hsome
      · cases hsome
      · exact ruleId_detectRegression hsome
    rw [hid]
    exact List.mem_cons_of_mem _ List.mem_cons_self

/-- 配達の解析は、解析器の出したものである。 -/
def FromEngine (d : Delivery) : Prop :=
  ∀ a, d.analysed = some a →
    ∃ sa, Analyzed sa ∧ a.findings.map (·.ruleId) = sa.findings.map (·.ruleId)

/-- 配達の書く finding の rule。 -/
theorem ids_rows {lib : Hashes} {cfg : WorkConfig} {d : Delivery} (h : FromEngine d)
    {flows : FlowTable} : ∀ r ∈ d.rows lib cfg flows, r.2.ruleId ∈ WRITTEN_IDS := by
  intro r hr
  unfold Delivery.rows at hr
  split at hr
  · next a org ha _ =>
    obtain ⟨f, hf, rfl⟩ := List.mem_map.mp hr
    rcases ids_found hf with hengine | hworker
    · obtain ⟨sa, ⟨engine, now, sess, hok⟩, hids⟩ := h a ha
      have hmem : f.ruleId ∈ sa.findings.map (·.ruleId) := hids ▸ List.mem_map_of_mem hengine
      obtain ⟨g, hg, hgid⟩ := List.mem_map.mp hmem
      rw [← hgid]
      exact ids_analyzeSession hok g hg
    · exact List.mem_append_right _ hworker
  · cases hr

/-- 配達一つの後の finding は、前からあるか、その配達の書いたものである。 -/
theorem findings_deliver {lib : Hashes} {cfg : WorkConfig} {d : Delivery} {db : LiveDatabase} :
    ∀ r ∈ (deliver lib cfg db d).findings, r ∈ db.findings ∨ ∃ flows, r ∈ d.rows lib cfg flows := by
  intro r hr
  by_cases hok : d.succeeds cfg = true
  · cases hrow : db.sessions.get? (d.id lib) with
    | some row =>
      rw [deliver_of_row lib cfg (Option.isSome_of_eq_some hrow)] at hr
      exact .inl hr
    | none =>
      rw [deliver_of_succeeds lib cfg hok hrow, findings_absorb] at hr
      exact (List.mem_append.mp hr).imp_right fun hnew => ⟨db.flows, hnew⟩
  · rw [deliver_of_not_succeeds lib cfg (Bool.not_eq_true _ ▸ hok)] at hr
    exact .inl hr

/-! ## 並び -/

/-- finding を書くもの。 -/
inductive Writing where
  | job (jobId : String) (results : List Scored)
  | delivery (d : Delivery)

/-- 二つの経路の書いた finding。 -/
structure Written where
  batch : Tables := {}
  live : LiveDatabase := {}

namespace Written

variable (lib : Hashes) (cfg : WorkConfig)

/-- 一つ書く。row を作れない job は何も残さない。 -/
def step (s : Written) : Writing → Written
  | .job jobId results => { s with batch := (processAnalysisJob jobId results s.batch).getD s.batch }
  | .delivery d => { s with live := deliver lib cfg s.live d }

/-- `summary_for_findings` に渡る finding。 -/
def findings (s : Written) : List MappedFinding :=
  (s.batch.findings.map fun r => ⟨r.ruleId, r.severity.text⟩) ++
    s.live.findings.map fun r => ⟨r.2.ruleId, r.2.severity.text⟩

end Written

/-- 解析器の出した解析を書く。 -/
def Writing.Engine : Writing → Prop
  | .job _ results => ∀ x ∈ results, Analyzed x.analysis
  | .delivery d => FromEngine d

/-- どの finding も、書かれる rule のものである。 -/
def Written.Known (s : Written) : Prop :=
  (∀ row ∈ s.batch.findings, row.ruleId ∈ WRITTEN_IDS) ∧
    ∀ r ∈ s.live.findings, r.2.ruleId ∈ WRITTEN_IDS

theorem known_step {lib : Hashes} {cfg : WorkConfig} (s : Written) (w : Writing) (h : s.Known)
    (hw : w.Engine) : (s.step lib cfg w).Known := by
  obtain ⟨hbatch, hlive⟩ := h
  cases w with
  | job jobId results =>
    refine ⟨?_, hlive⟩
    show ∀ row ∈ ((processAnalysisJob jobId results s.batch).getD s.batch).findings, _
    cases hjob : processAnalysisJob jobId results s.batch with
    | none => exact hbatch
    | some db =>
      exact fun row hrow => (ids_processAnalysisJob hw hjob row hrow).elim (hbatch row) id
  | delivery d =>
    refine ⟨hbatch, fun r hr => (findings_deliver r hr).elim (hlive r) ?_⟩
    rintro ⟨flows, hnew⟩
    exact ids_rows hw r hnew

/--
**書かれる finding には札がある。** 解析器の出した解析だけを、job と配達がどう並んで書いても、規格を選ばない
まとめに札の無い finding は無く、どの finding の rule も、どれかの組にある。
-/
theorem all_mapped {lib : Hashes} {cfg : WorkConfig} {ws : List Writing}
    (h : ∀ w ∈ ws, w.Engine) :
    ∃ s, summaryForFindings (Run.exec (Written.step lib cfg) {} ws).findings none = some s ∧
      s.unmappedFindings = 0 ∧
      ∀ f ∈ (Run.exec (Written.step lib cfg) {} ws).findings, ∃ g ∈ s.groups, f.ruleId ∈ g.rules := by
  have hstart : ({} : Written).Known := ⟨List.forall_mem_nil _, List.forall_mem_nil _⟩
  have hknown : (Run.exec (Written.step lib cfg) {} ws).Known :=
    (Run.along_of_mem h).invariant known_step hstart
  generalize Run.exec (Written.step lib cfg) {} ws = written at hknown ⊢
  have htags : ∀ f ∈ written.findings, tagsFor none f.ruleId ≠ [] := by
    intro f hf
    rcases List.mem_append.mp hf with hbatch | hlive
    · obtain ⟨row, hrow, rfl⟩ := List.mem_map.mp hbatch
      exact complianceFor_written _ (hknown.1 row hrow)
    · obtain ⟨r, hr, rfl⟩ := List.mem_map.mp hlive
      exact complianceFor_written _ (hknown.2 r hr)
  have hnone : ∀ fw ∈ chosen none, fw ∈ FRAMEWORKS := fun fw hfw => by cases hfw
  obtain ⟨s, hs, hcounted⟩ := counted_summary written.findings hnone
  refine ⟨s, hs, ?_, fun f hf => ?_⟩
  · rw [hcounted.unmapped, List.countP_eq_zero]
    exact fun f hf hnil => htags f hf (of_decide_eq_true hnil)
  · obtain ⟨t, ht⟩ := List.exists_mem_of_ne_nil _ (htags f hf)
    obtain ⟨g, hg, rfl⟩ := (hcounted.tags t).mpr ⟨f, hf, ht⟩
    exact ⟨g, hg, ((hcounted.rules g hg).2 f.ruleId).mpr ⟨f, hf, ht, rfl⟩⟩

/-- session の解析。 -/
def mailAnalysis (sess : Parsing.Session) : Option SessionAnalysis :=
  (analyzeSession (bareAnalyzer.withRules 0) sess).toOption

/-- 解析を、`ts` に始まる session の配達にする。 -/
def deliveryOf (ts : String) (denied : Option String) (sa : SessionAnalysis) : Delivery where
  payload := { smtpSession with startTs := .value ts }
  now := 0
  denied := denied
  analysed := some
    { fiveTuple := sa.fiveTuple
      protocol := sa.protocol
      tlsVersion := sa.negotiatedVersionName
      cipher := sa.cipher
      findings := sa.findings.map fun f =>
        { ruleId := f.ruleId, severity := (severityOf? f.severity).getD .info, title := f.title } }

/-- TLS 1.0 の session を job と三つの配達で書いた後で、同じ flow に平文の session が来る。 -/
def mailWritings : List Writing :=
  ((mailAnalysis tls10Session).toList.flatMap fun sa =>
    [.job "job-1" [⟨"sess-1", sa, plainScore⟩], .delivery (deliveryOf "1.0" (some "ja4") sa),
      .delivery (deliveryOf "2.0" none sa), .delivery (deliveryOf "3.0" none sa)]) ++
  (mailAnalysis { tls10Session with tlsSegment := [], tlsServerSegment := [] }).toList.map fun sa =>
    .delivery (deliveryOf "4.0" none sa)

theorem analyzed_mailAnalysis {sess : Parsing.Session} {sa : SessionAnalysis}
    (h : sa ∈ (mailAnalysis sess).toList) : Analyzed sa := by
  refine ⟨bareAnalyzer, 0, sess, ?_⟩
  have hsome : (analyzeSession (bareAnalyzer.withRules 0) sess).toOption = some sa :=
    Option.mem_toList.mp h
  cases hrun : analyzeSession (bareAnalyzer.withRules 0) sess with
  | error e =>
    rw [hrun] at hsome
    cases hsome
  | ok sa' =>
    rw [hrun] at hsome
    exact congrArg Except.ok (Option.some.inj hsome)

theorem engine_deliveryOf {sess : Parsing.Session} {sa : SessionAnalysis}
    (h : sa ∈ (mailAnalysis sess).toList) (ts : String) (denied : Option String) :
    (Writing.delivery (deliveryOf ts denied sa)).Engine := by
  rintro a ⟨⟩
  refine ⟨sa, analyzed_mailAnalysis h, ?_⟩
  rw [List.map_map]
  rfl

/-- 書かれた finding は、解析器のものと、worker の二つである。 -/
theorem all_mapped_mail :
    (Run.exec (Written.step plainHashes {}) {} mailWritings).findings.map (·.ruleId) =
      ["tls-version-tls1-0", "tls-version-downgrade-suspected",
        "tls-version-tls1-0", "tls-version-downgrade-suspected", "denied-fingerprint-match",
        "tls-version-tls1-0", "tls-version-downgrade-suspected",
        "tls-version-tls1-0", "tls-version-downgrade-suspected", "transport-regression"] ∧
    ∃ s, summaryForFindings
        (Run.exec (Written.step plainHashes {}) {} mailWritings).findings none = some s ∧
      s.unmappedFindings = 0 ∧
      ∀ f ∈ (Run.exec (Written.step plainHashes {}) {} mailWritings).findings,
        ∃ g ∈ s.groups, f.ruleId ∈ g.rules := by
  refine ⟨by decide +kernel, all_mapped fun w hw => ?_⟩
  rcases List.mem_append.mp hw with hw | hw
  · obtain ⟨sa, hsa, hw⟩ := List.mem_flatMap.mp hw
    simp only [List.mem_cons, List.not_mem_nil, or_false] at hw
    rcases hw with rfl | rfl | rfl | rfl
    · intro x hx
      rw [List.mem_singleton.mp hx]
      exact analyzed_mailAnalysis hsa
    · exact engine_deliveryOf hsa _ _
    · exact engine_deliveryOf hsa _ _
    · exact engine_deliveryOf hsa _ _
  · obtain ⟨sa, hsa, rfl⟩ := List.mem_map.mp hw
    exact engine_deliveryOf hsa _ _

end CipherPost.Services
