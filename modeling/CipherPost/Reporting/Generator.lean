import Mathlib.Algebra.Ring.Int.Defs
import Mathlib.Data.List.Sort
import CipherPost.Infra.Dict
import CipherPost.Infra.PyMax
import CipherPost.Live.Finding
import CipherPost.Parsing.SessionAnalysis

/-!
# report

`app/reporting/generator.py` の `build_report_data`。session の解析と採点から report を作る。ここでは
`pq_posture` を除く。

* `ScoringResult` — 採点
* `sessionLine`・`findingEntry` — report の一行
* `limitationsOf` — 見えなかったものの文
* `buildReportData` — `build_report_data`
* `maxSeverity_perm` — 最も重い深刻度は、finding の順によらない
-/

namespace CipherPost.Reporting

open Parsing

/-! ## 採点 -/

structure FeatureContribution where
  feature : String
  value : Rat
  impact : Rat

/-- `RiskScore`。`postureScore` は 0 から 100 である。 -/
structure RiskScore where
  probability : Rat
  postureScore : Int
  classLabel : String
  modelVersion : String := "0.1.0"

structure AnomalyResult where
  isAnomaly : Bool
  anomalyScore : Rat
  method : String := "isolation-forest"

structure ScoringResult where
  risk : RiskScore
  anomaly : AnomalyResult
  shapContributions : List FeatureContribution := []
  ruleMlAgreement : String := "agrees"

/-! ## 一行 -/

/-- `max_severity`。最も重いもののうち先頭のもの。 -/
def maxSeverity : List SessionFinding → Option String
  | [] => none
  | f :: fs => some (pyMax (fun a b => decide (Live.sevOrder a.severity < Live.sevOrder b.severity))
      f fs).severity

/-- `findings` の要素。 -/
structure FindingEntry where
  ruleId : String
  severity : String
  title : String
  description : String
  reference : String
  session : String
  deriving Repr, DecidableEq

/-- `sessions` の要素。 -/
structure SessionLine where
  fiveTuple : String
  protocol : String
  tlsVersion : Option String
  cipher : Option String
  chainResult : String
  posture : Int
  anomaly : Bool
  maxSeverity : String
  deriving Repr, DecidableEq

/-- `shap_details` の要素。 -/
structure ShapDetail where
  name : String
  score : Int
  contributions : List FeatureContribution

def findingEntry (fiveTuple : String) (f : SessionFinding) : FindingEntry where
  ruleId := f.ruleId
  severity := f.severity
  title := f.title
  description := f.description
  reference := f.reference
  session := fiveTuple

def sessionLine (a : SessionAnalysis) (s : Option ScoringResult) : SessionLine where
  fiveTuple := a.fiveTuple
  protocol := a.protocol
  tlsVersion := a.tlsVersion.map versionName
  cipher := a.cipher
  chainResult := a.chainResult
  posture := (s.map (·.risk.postureScore)).getD 0
  anomaly := s.any (·.anomaly.isAnomaly)
  maxSeverity := Live.orText (maxSeverity a.findings) "none"

def shapDetail (a : SessionAnalysis) (s : ScoringResult) : ShapDetail where
  name := a.fiveTuple
  score := s.risk.postureScore
  contributions := s.shapContributions.take 10

/-! ## report -/

/-- 並べる前の finding。 -/
def allFindings (analyses : List SessionAnalysis) : List FindingEntry :=
  analyses.flatMap fun a => a.findings.map (findingEntry a.fiveTuple)

/-- 深刻度の重い順の、安定な整列。 -/
def sortFindings (fs : List FindingEntry) : List FindingEntry :=
  fs.insertionSort fun a b => Live.sevOrder b.severity ≤ Live.sevOrder a.severity

/-- `sev_counts`。五つの深刻度は 0 から数える。 -/
def severityCountsOf (fs : List FindingEntry) : Dict String Nat :=
  (fs.map (·.severity)).foldl Dict.bump
    (["critical", "high", "medium", "low", "info"].foldl (fun d s => d.set s 0) Dict.empty)

/-- TLS 1.3 の session の数。 -/
def tls13SessionsOf (analyses : List SessionAnalysis) : Nat :=
  analyses.countP fun a => a.visibility.any (·.tls13)

/-- 飛ばされた rule の id ごとの数。 -/
def notObservableOf (analyses : List SessionAnalysis) : Dict String Nat :=
  (analyses.flatMap (·.notObservable)).foldl Dict.bump Dict.empty

/-- どの report にもある制限。 -/
def PASSIVE_LIMIT : String :=
  "Passive visibility limit: a capture point downstream of an on-path " ++
  "STARTTLS strip cannot see the original offer. Absence of TLS is " ++
  "reported with any plaintext-continuation evidence; stripping is " ++
  "alleged only when the offer itself is on the wire."

def tls13Limit (n : Nat) : String :=
  toString n ++ " TLS 1.3 session(s): certificate contents are " ++
  "encrypted on the wire and not passively observable. Certificate " ++
  "rules report not-observable (never pass/fail) for these sessions; " ++
  "use `cipherpost probe host:port` (authorized hosts only) to record " ++
  "their chains out-of-band."

/-- 飛ばされた rule の文。id の順に並べる。 -/
def skippedLimit (notObservable : Dict String Nat) : String :=
  let items := notObservable.entries.insertionSort fun a b => a.1 ≤ b.1
  "Skipped for lack of observed data: " ++
    ", ".intercalate (items.map fun (rid, n) => rid ++ " x" ++ toString n) ++ "."

/-- `limitations`。 -/
def limitationsOf (tls13Sessions : Nat) (notObservable : Dict String Nat) : List String :=
  [PASSIVE_LIMIT] ++ (if tls13Sessions = 0 then [] else [tls13Limit tls13Sessions]) ++
    if notObservable.entries = [] then [] else [skippedLimit notObservable]

/-- `build_report_data` の返す dict。 -/
structure ReportData where
  generatedAt : String
  filename : String
  totalSessions : Nat
  totalFindings : Nat
  severityCounts : Dict String Nat
  fleetPostureScore : Int
  sessions : List SessionLine
  findings : List FindingEntry
  shapDetails : List ShapDetail
  tls13Sessions : Nat
  notObservable : Dict String Nat
  limitations : List String

/-- `build_report_data`。採点は解析と同じ順で、足りなければ無いものとする。 -/
def buildReportData (generatedAt filename : String) (analyses : List SessionAnalysis)
    (scores : List ScoringResult) : ReportData :=
  let findings := allFindings analyses
  let sessions := analyses.mapIdx fun i a => sessionLine a scores[i]?
  let shap := analyses.mapIdx fun i a =>
    (scores[i]?.filter fun s => !s.shapContributions.isEmpty).map (shapDetail a)
  { generatedAt := generatedAt
    filename := filename
    totalSessions := analyses.length
    totalFindings := findings.length
    severityCounts := severityCountsOf findings
    fleetPostureScore := (sessions.map SessionLine.posture).sum.tdiv (max 1 sessions.length)
    sessions := sessions
    findings := sortFindings findings
    shapDetails := shap.filterMap fun d => d
    tls13Sessions := tls13SessionsOf analyses
    notObservable := notObservableOf analyses
    limitations := limitationsOf (tls13SessionsOf analyses) (notObservableOf analyses) }

/-! ## 順によらないもの -/

/-- 最も重い深刻度は、finding の一つの深刻度であり、どの finding よりも軽くない。 -/
theorem maxSeverity_eq_some {fs : List SessionFinding} {s : String} (h : maxSeverity fs = some s) :
    (∃ f ∈ fs, f.severity = s) ∧ ∀ f ∈ fs, Live.sevOrder f.severity ≤ Live.sevOrder s := by
  cases fs with
  | nil => cases h
  | cons f fs =>
    obtain rfl := Option.some.inj h
    refine ⟨⟨_, pyMax_mem fs f, rfl⟩, fun g hg => ?_⟩
    have hlt : ∀ a b : SessionFinding,
        decide (Live.sevOrder a.severity < Live.sevOrder b.severity) = true ↔
          Live.sevOrder a.severity < Live.sevOrder b.severity := fun a b => decide_eq_true_iff
    exact le_pyMax hlt fs f g hg

/-- **最も重い深刻度は、finding の順によらない。** -/
theorem maxSeverity_perm {fs fs' : List SessionFinding}
    (hperm : (fs.map (·.severity)).Perm (fs'.map (·.severity)))
    (hvalid : ∀ f ∈ fs, ∃ sev : Live.Severity, f.severity = sev.text) :
    maxSeverity fs = maxSeverity fs' := by
  have hmem : ∀ {l l' : List SessionFinding}, (l.map (·.severity)).Perm (l'.map (·.severity)) →
      ∀ f ∈ l, ∃ f' ∈ l', f'.severity = f.severity := fun h f hf =>
    List.mem_map.mp (h.mem_iff.mp (List.mem_map.mpr ⟨f, hf, rfl⟩))
  cases h : maxSeverity fs with
  | none =>
    cases fs with
    | nil =>
      have hnil := List.map_eq_nil_iff.mp (List.nil_perm.mp hperm)
      rw [hnil]
      rfl
    | cons f fs => cases h
  | some s =>
    cases h' : maxSeverity fs' with
    | none =>
      cases fs' with
      | nil =>
        rw [List.map_eq_nil_iff.mp (List.perm_nil.mp hperm)] at h
        cases h
      | cons f fs' => cases h'
    | some s' =>
      obtain ⟨⟨f, hf, rfl⟩, hle⟩ := maxSeverity_eq_some h
      obtain ⟨⟨f', hf', rfl⟩, hle'⟩ := maxSeverity_eq_some h'
      obtain ⟨g', hg', hgf⟩ := hmem hperm f hf
      obtain ⟨g, hg, hgf'⟩ := hmem hperm.symm f' hf'
      obtain ⟨sev, hsev⟩ := hvalid f hf
      obtain ⟨sev', hsev'⟩ := hvalid g hg
      have hrank : Live.sevOrder f.severity = Live.sevOrder f'.severity :=
        Nat.le_antisymm (hgf ▸ hle' g' hg') (hgf' ▸ hle g hg)
      rw [← hgf', hsev, hsev'] at hrank ⊢
      rw [Live.sevOrder_text, Live.sevOrder_text] at hrank
      cases sev <;> cases sev' <;> first | rfl | cases hrank

theorem sortFindings_perm {fs fs' : List FindingEntry} (h : fs.Perm fs') :
    (sortFindings fs).Perm (sortFindings fs') :=
  ((List.perm_insertionSort _ _).trans h).trans (List.perm_insertionSort _ _).symm

/-- report の session の行は、同じ位置の解析と採点から作られる。 -/
theorem sessions_getElem? (generatedAt filename : String) (analyses : List SessionAnalysis)
    (scores : List ScoringResult) (i : Nat) :
    (buildReportData generatedAt filename analyses scores).sessions[i]? =
      analyses[i]?.map fun a => sessionLine a scores[i]? := List.getElem?_mapIdx

/-! ## 見えなかったもの -/

theorem notObservableOf_eq_empty {analyses : List SessionAnalysis}
    (h : ∀ a ∈ analyses, a.notObservable = []) : notObservableOf analyses = Dict.empty := by
  unfold notObservableOf
  rw [List.flatMap_eq_nil_iff.mpr h]
  rfl

theorem tls13SessionsOf_eq_zero {analyses : List SessionAnalysis}
    (h : ∀ a ∈ analyses, a.visibility.any (·.tls13) = false) : tls13SessionsOf analyses = 0 :=
  List.countP_eq_zero.mpr fun a ha => by rw [h a ha]; exact Bool.false_ne_true

end CipherPost.Reporting
