import CipherPost.Services.Tasks

/-!
# 二つの書き手の session の列

`process_analysis_job` と `AnalysisWorker._persist` は、同じ解析から同じ列を別々に作る。後者は flow の finding を
足した後の解析を写す。

* `persistRows` — `_persist` の row
* `SharedColumns` — 両方が書く列と、`details` から読む `not_observable`
* `SameColumns` — 二つの書き手が同じ列を書き、一方だけが例外を起こすことはない
* `sameColumns_iff` — そのための、証明書と `not_observable` についての条件
-/

namespace CipherPost.Services

open Parsing Reporting

/-! ## `_persist` の row -/

/-- `details` の、解析から写す部分。 -/
structure SessionDetails where
  visibility : Option Visibility
  notObservable : List String
  deriving DecidableEq

/-- `_persist` の書く `sessions` の row。 -/
structure LiveRow extends SessionRow where
  orgId : Option String
  details : SessionDetails
  deriving DecidableEq

/-- `_persist` の `cert_age_days`。`min` は `default=None` を持つ。 -/
def liveCertAgeDays : List CertAnalysis → Option Int
  | [] => none
  | certs => match certs.filterMap (·.daysRemaining) with
    | [] => none
    | d :: ds => some (ds.foldl min d)

def liveSessionRow (sessId jobId : String) (orgId : Option String) (sa : SessionAnalysis)
    (scoring : Option ScoringResult) : LiveRow where
  id := sessId
  jobId := jobId
  protocol := sa.protocol
  fiveTuple := sa.fiveTuple
  isStarttls := sa.isStarttls
  tlsVersion := sa.negotiatedVersionName
  negotiatedCipher := sa.cipher
  cipherStrength := sa.cipherStrength
  keyLength := sa.cipherMeta.map (·.keyLen)
  pfsSupported := sa.cipherMeta.map (·.pfs)
  certChainValid := decide (sa.chainResult = "ok")
  certAgeDays := liveCertAgeDays sa.certs
  isAnomaly := scoring.any (·.anomaly.isAnomaly)
  riskScore := scoring.map (·.risk.postureScore)
  modelVersion := scoring.map (·.risk.modelVersion)
  overallFindingCount := sa.findings.length
  maxSeverity := maxSeverity sa.findings
  orgId := orgId
  details := ⟨sa.visibility, sa.notObservable⟩

/-- `_persist` が一つの session に加える row。 -/
def persistRows (sessId jobId : String) (orgId : Option String) (sa : SessionAnalysis)
    (scoring : Option ScoringResult) : Option (LiveRow × List FindingRow) := do
  let findings ← sa.findings.mapM (findingRow sessId)
  some (liveSessionRow sessId jobId orgId sa scoring, findings)

/-! ## 両方が書く列 -/

/-- 二つの書き手に共通の列。 -/
structure SharedColumns where
  protocol : String
  fiveTuple : String
  isStarttls : Bool
  tlsVersion : Option String
  negotiatedCipher : Option String
  cipherStrength : Option Nat
  keyLength : Option Nat
  pfsSupported : Option Bool
  certChainValid : Bool
  certAgeDays : Option Int
  maxSeverity : Option String
  overallFindingCount : Nat
  notObservable : List String
  deriving DecidableEq

/-- row の共通の列。`not_observable` は `(details or {}).get("not_observable") or []` で読まれる。 -/
def SessionRow.shared (row : SessionRow) (details : Option SessionDetails) : SharedColumns where
  protocol := row.protocol
  fiveTuple := row.fiveTuple
  isStarttls := row.isStarttls
  tlsVersion := row.tlsVersion
  negotiatedCipher := row.negotiatedCipher
  cipherStrength := row.cipherStrength
  keyLength := row.keyLength
  pfsSupported := row.pfsSupported
  certChainValid := row.certChainValid
  certAgeDays := row.certAgeDays
  maxSeverity := row.maxSeverity
  overallFindingCount := row.overallFindingCount
  notObservable := (details.map (·.notObservable)).getD []

/-- batch の job の列。`details` は書かれない。 -/
def batchColumns (jobId : String) (x : Scored) : Option SharedColumns :=
  (rowsOf jobId x).map fun rows => rows.1.shared none

/-- live の worker の列。 -/
def liveColumns (sessId jobId : String) (orgId : Option String) (sa : SessionAnalysis)
    (scoring : Option ScoringResult) : Option SharedColumns :=
  (persistRows sessId jobId orgId sa scoring).map fun rows =>
    rows.1.toSessionRow.shared (some rows.1.details)

/-! ## 条件 -/

/-- どの finding の深刻度も、列挙の中にある。 -/
def Storable (sa : SessionAnalysis) : Prop :=
  ∀ f ∈ sa.findings, (severityOf? f.severity).isSome = true

/-- 証明書が無いか、残りの日数の分かる証明書がある。 -/
def AgeKnown (sa : SessionAnalysis) : Prop :=
  sa.certs = [] ∨ ∃ c ∈ sa.certs, c.daysRemaining.isSome = true

/-- finding の row は、深刻度が列挙の中にあれば作られる。 -/
theorem isSome_findingRows (sessId : String) (fs : List SessionFinding) :
    (fs.mapM (findingRow sessId)).isSome = true ↔
      ∀ f ∈ fs, (severityOf? f.severity).isSome = true := by
  rw [Aligned.isSome_mapM]
  refine forall₂_congr fun f _ => ?_
  unfold findingRow
  cases severityOf? f.severity <;> simp

/-- 残りの日数が分かるなら、二つの `cert_age_days` は等しい。 -/
theorem certAgeDays_of_known {sa : SessionAnalysis} (h : AgeKnown sa) :
    certAgeDays sa.certs = some (liveCertAgeDays sa.certs) := by
  unfold AgeKnown at h
  unfold certAgeDays liveCertAgeDays
  cases hcerts : sa.certs with
  | nil => rfl
  | cons c cs =>
    rw [hcerts] at h
    obtain ⟨c', hc', hdays⟩ := h.resolve_left (List.cons_ne_nil _ _)
    obtain ⟨d, hd⟩ := Option.isSome_iff_exists.mp hdays
    have hmem : d ∈ (c :: cs).filterMap (·.daysRemaining) := List.mem_filterMap.mpr ⟨c', hc', hd⟩
    dsimp only
    cases hdays : (c :: cs).filterMap (·.daysRemaining) with
    | nil => exact absurd (hdays ▸ hmem) List.not_mem_nil
    | cons d ds => rfl

/-- 分からなければ、batch の `min` は例外になる。 -/
theorem certAgeDays_of_not_known {sa : SessionAnalysis} (h : ¬ AgeKnown sa) :
    certAgeDays sa.certs = none := by
  obtain ⟨hne, hnone⟩ := not_or.mp h
  have hdays : sa.certs.filterMap (·.daysRemaining) = [] := by
    refine List.filterMap_eq_nil_iff.mpr fun c hc => ?_
    cases hd : c.daysRemaining with
    | none => rfl
    | some d => exact absurd ⟨c, hc, by rw [hd]; rfl⟩ hnone
  unfold certAgeDays
  split
  · next hnil => exact absurd hnil hne
  · rw [hdays]

/-! ## 二つの書き手 -/

section Columns

variable (batchJob : String) (x : Scored) (sessId liveJob : String) (orgId : Option String)
  (scoring : Option ScoringResult)

/-- 二つの書き手は、同じ解析から同じ列を書く。例外も同じときに起こる。 -/
def SameColumns : Prop :=
  batchColumns batchJob x = liveColumns sessId liveJob orgId x.analysis scoring

/-- 深刻度が列挙に無ければ、どちらの書き手も例外になる。 -/
theorem columns_of_not_storable (h : ¬ Storable x.analysis) :
    batchColumns batchJob x = none ∧
      liveColumns sessId liveJob orgId x.analysis scoring = none := by
  have hrows : ∀ sessId, x.analysis.findings.mapM (findingRow sessId) = none := by
    intro sessId
    rw [← Option.not_isSome_iff_eq_none, isSome_findingRows]
    exact h
  constructor
  · unfold batchColumns rowsOf
    rw [hrows]
    cases certAgeDays x.analysis.certs <;> rfl
  · unfold liveColumns persistRows
    rw [hrows]
    rfl

/-- 深刻度が列挙にあれば、live の書き手は例外を起こさない。 -/
theorem liveColumns_of_storable (h : Storable x.analysis) :
    liveColumns sessId liveJob orgId x.analysis scoring =
      some ((liveSessionRow sessId liveJob orgId x.analysis scoring).toSessionRow.shared
        (some ⟨x.analysis.visibility, x.analysis.notObservable⟩)) := by
  obtain ⟨rows, hrows⟩ := Option.isSome_iff_exists.mp ((isSome_findingRows sessId _).mpr h)
  unfold liveColumns persistRows
  rw [hrows]
  rfl

/-- batch の書き手は、`cert_age_days` が作れるときに row を書く。 -/
theorem batchColumns_of_storable (h : Storable x.analysis) : batchColumns batchJob x =
    (certAgeDays x.analysis.certs).map fun age => (sessionRow batchJob x age).shared none := by
  obtain ⟨rows, hrows⟩ := Option.isSome_iff_exists.mp ((isSome_findingRows x.id _).mpr h)
  unfold batchColumns rowsOf
  rw [hrows]
  cases certAgeDays x.analysis.certs <;> rfl

/--
**二つの書き手の列。** どの解析と採点でも、二つの書き手が同じ列を書くのは、どちらも深刻度で例外になるか、
証明書が無いか残りの日数の分かる証明書があって `not_observable` が空のとき、かつそのときに限る。
-/
theorem sameColumns_iff : SameColumns batchJob x sessId liveJob orgId scoring ↔
    ¬ Storable x.analysis ∨ AgeKnown x.analysis ∧ x.analysis.notObservable = [] := by
  unfold SameColumns
  by_cases hstorable : Storable x.analysis
  · rw [liveColumns_of_storable _ _ _ _ _ hstorable, batchColumns_of_storable _ _ hstorable]
    constructor
    · intro hsame
      obtain ⟨age, hage, hrow⟩ := Option.map_eq_some_iff.mp hsame
      refine .inr ⟨?_, (congrArg SharedColumns.notObservable hrow).symm⟩
      by_contra hknown
      rw [certAgeDays_of_not_known hknown] at hage
      cases hage
    · rintro (hbad | ⟨hknown, hnil⟩)
      · exact absurd hstorable hbad
      · rw [certAgeDays_of_known hknown, Option.map_some]
        refine congrArg some ?_
        unfold SessionRow.shared
        rw [Option.map_some, Option.getD_some, hnil]
        rfl
  · obtain ⟨hbatch, hlive⟩ := columns_of_not_storable batchJob x sessId liveJob orgId scoring hstorable
    exact iff_of_true (hbatch.trans hlive.symm) (.inl hstorable)

end Columns

/-- 読めない証明書一つの session。 -/
def unparseableSession : SessionAnalysis where
  sessionId := "s"
  protocol := "SMTP"
  fiveTuple := "10.0.0.1:40000->10.0.0.2:465"
  isStarttls := false
  certs := [{ subjectCn := "<unparseable>", issuerCn := "<unparseable>", chainResult := "parse-error" }]

def plainScore : ScoringResult where
  risk := { probability := 0, postureScore := 50, classLabel := "medium" }
  anomaly := { isAnomaly := false, anomalyScore := 0 }

/-- live の書き手は row を書き、batch の job は例外になる。 -/
theorem unparseable_raises : ¬ ∀ batchJob x sessId liveJob orgId scoring,
    SameColumns batchJob x sessId liveJob orgId scoring := by
  intro h
  have hsame := congrArg Option.isSome
    (h "job" ⟨"u", unparseableSession, plainScore⟩ "s" "live" none (some plainScore))
  revert hsame
  decide

end CipherPost.Services
