import Mathlib.Data.List.Dedup
import Mathlib.Data.List.Sort
import CipherPost.Cli.Filters
import CipherPost.Parsing.CertVisibility

/-!
# SARIF

`app/cli.py` の `rule_catalog` と `to_sarif`。catalog は `rules.py` の `sa.add` の呼び出しの引数を AST から読み、
`to_sarif` は catalog に無い id の finding を書かない。

* `RuleIdArg`・`SA_ADD_RULE_IDS`・`ruleCatalog` — `rule_catalog` の id
* `toSarif` — `to_sarif`
* `Faithful` — どの finding も一つの result になること
* `results_toSarif`・`rules_toSarif` — 書かれる result と rule
* `faithful_iff` — 走査の結果がそのまま書かれる条件
-/

namespace CipherPost.Cli

open Parsing

/-! ## catalog -/

/-- `sa.add` の最初の引数。文字列の literal でなければ、式の source が id の代わりになる。 -/
inductive RuleIdArg where
  | literal (s : String)
  | segment (source : String)

/-- catalog に載る id。 -/
def RuleIdArg.recorded : RuleIdArg → String
  | literal s => s
  | segment source => source

/-- `rules.py` の `sa.add` の呼び出しの、最初の引数。 -/
def SA_ADD_RULE_IDS : List RuleIdArg :=
  [.segment "f\"tls-version-\x7bname.lower().replace('.', '-')\x7d\"",
    .literal "non-aead-bulk-cipher", .literal "weak-cipher-suite", .literal "non-pfs-key-exchange",
    .literal "export-grade-cipher", .literal "expired-certificate",
    .literal "certificate-not-yet-valid", .literal "self-signed-certificate",
    .literal "untrusted-certificate-chain", .literal "weak-signature-algorithm",
    .literal "short-public-key", .literal "rc4-cipher", .literal "3des-cipher",
    .literal "plaintext-mail-protocol", .literal "starttls-strip-attempt",
    .literal "client-no-pfs-suites", .literal "alpn-not-negotiated",
    .literal "deprecated-group-negotiated", .literal "deprecated-group-offered",
    .literal "no-modern-pfs-group", .literal "downgrade-attack-detected",
    .literal "hrr-group-mismatch", .literal "tls-version-downgrade-suspected",
    .literal "tls13-not-negotiated", .literal "ech-observed", .literal "outdated-client-stack",
    .literal "legacy-compression-offered", .literal "unknown-cipher-suite",
    .literal "no-tls-on-implicit-port", .literal "tls-handshake-incomplete"]

/-- `rule_catalog` の id。重なりを除いて並べる。 -/
def ruleCatalog : List String :=
  ((SA_ADD_RULE_IDS.map RuleIdArg.recorded).filter (· ≠ "")).dedup.insertionSort (· ≤ ·)

/-! ## to_sarif -/

/-- 深刻度の level。 -/
def levelOf (severity : String) : String :=
  if severity ∈ ["critical", "high"] then "error"
  else if severity = "medium" then "warning" else "note"

/-- driver の rule。 -/
structure SarifRule where
  id : String
  name : String
  shortDescription : String
  fullDescription : String
  helpUri : String
  severity : String
  level : String
  deriving Repr, DecidableEq

/-- result。 -/
structure SarifResult where
  ruleId : String
  level : String
  message : String
  uri : String
  startLine : Nat := 1
  deriving Repr, DecidableEq

/-- `to_sarif` の返す dict。 -/
structure Sarif where
  version : String := "2.1.0"
  driverName : String := "cipherpost"
  driverVersion : String
  rules : List SarifRule
  results : List SarifResult
  deriving Repr, DecidableEq

def sarifRule (f : ReportFinding) : SarifRule where
  id := f.ruleId
  name := f.ruleName
  shortDescription := f.title
  fullDescription := f.description
  helpUri := f.reference
  severity := f.severity
  level := levelOf f.severity

def sarifResult (pcap fiveTuple : String) (f : ReportFinding) : SarifResult where
  ruleId := f.ruleId
  level := levelOf f.severity
  message := f.title ++ " [" ++ fiveTuple ++ "]"
  uri := pcap

/-- finding を一つ書く。 -/
def sarifStep (pcap : String) (acc : List SarifRule × List SarifResult)
    (p : String × ReportFinding) : List SarifRule × List SarifResult :=
  if p.2.ruleId ∉ ruleCatalog then acc
  else
    (if p.2.ruleId ∈ acc.1.map (·.id) then acc.1 else acc.1 ++ [sarifRule p.2],
      acc.2 ++ [sarifResult pcap p.1 p.2])

section
variable {φ : Type} (finding : φ → ReportFinding)

/-- `to_sarif`。finding の dict は、印の有無によらずに読む。 -/
def toSarif (report : Report φ) : Sarif :=
  let acc := report.sessions.foldl (fun acc sess =>
    sess.findings.foldl (fun acc f => sarifStep report.pcap acc (sess.fiveTuple, finding f)) acc)
      ([], [])
  { driverVersion := report.cipherpostVersion, rules := acc.1, results := acc.2 }

/-- 五つ組と finding の列。 -/
def Report.located (report : Report φ) : List (String × ReportFinding) :=
  report.sessions.flatMap fun sess => sess.findings.map fun f => (sess.fiveTuple, finding f)

/-- **どの finding も、その id と level と session を持つ一つの result になり、現れる id は rule に一度ずつ並ぶ。** -/
structure Faithful (report : Report φ) (s : Sarif) : Prop where
  results : List.Forall₂ (fun p r => r.ruleId = p.2.ruleId ∧ r.level = levelOf p.2.severity ∧
    r.message = p.2.title ++ " [" ++ p.1 ++ "]") (report.located finding) s.results
  nodup : (s.rules.map (·.id)).Nodup
  rules : ∀ id, id ∈ s.rules.map (·.id) ↔ ∃ p ∈ report.located finding, p.2.ruleId = id

end

/-! ## 書かれるもの -/

/-- catalog にある id の finding。 -/
def catalogued (l : List (String × ReportFinding)) : List (String × ReportFinding) :=
  l.filter fun p => decide (p.2.ruleId ∈ ruleCatalog)

/-- 書かれる result は、catalog にある finding のものである。 -/
theorem foldl_sarifStep_results (pcap : String) (acc : List SarifRule × List SarifResult)
    (l : List (String × ReportFinding)) :
    (l.foldl (sarifStep pcap) acc).2 =
      acc.2 ++ (catalogued l).map fun p => sarifResult pcap p.1 p.2 := by
  induction l generalizing acc with
  | nil => simp [catalogued]
  | cons p l ih =>
    rw [List.foldl_cons, ih, catalogued, catalogued, sarifStep]
    by_cases hmem : p.2.ruleId ∈ ruleCatalog
    · simp [hmem]
    · simp [hmem]

/-- rule の id は、重ならずに、catalog にある finding の id を並べる。 -/
theorem foldl_sarifStep_rules (pcap : String) (l : List (String × ReportFinding)) :
    ((l.foldl (sarifStep pcap) ([], [])).1.map (·.id)).Nodup ∧
      ∀ id, id ∈ (l.foldl (sarifStep pcap) ([], [])).1.map (·.id) ↔
        ∃ p ∈ catalogued l, p.2.ruleId = id := by
  induction l using List.reverseRecOn with
  | nil => simp [catalogued]
  | append_singleton l p ih =>
    obtain ⟨hnodup, hids⟩ := ih
    rw [List.foldl_append, List.foldl_cons, List.foldl_nil, catalogued, List.filter_append]
    rw [sarifStep]
    by_cases hmem : p.2.ruleId ∈ ruleCatalog
    · rw [if_neg (not_not.mpr hmem), List.filter_cons_of_pos (by simpa using hmem)]
      dsimp only
      by_cases hseen : p.2.ruleId ∈ (l.foldl (sarifStep pcap) ([], [])).1.map (·.id)
      · rw [if_pos hseen]
        refine ⟨hnodup, fun id => ?_⟩
        rw [hids]
        obtain ⟨q, hq, hqid⟩ := (hids _).mp hseen
        constructor
        · rintro ⟨r, hr, rfl⟩
          exact ⟨r, List.mem_append_left _ hr, rfl⟩
        · rintro ⟨r, hr, rfl⟩
          rcases List.mem_append.mp hr with hr | hr
          · exact ⟨r, hr, rfl⟩
          · rw [List.mem_singleton.mp hr]
            exact ⟨q, hq, hqid⟩
      · rw [if_neg hseen, List.map_append]
        refine ⟨List.nodup_append.mpr ⟨hnodup, by simp, ?_⟩, fun id => ?_⟩
        · rintro a ha b hb rfl
          rw [List.map_singleton, List.mem_singleton] at hb
          rw [hb] at ha
          exact hseen ha
        · rw [List.mem_append, hids]
          simp only [catalogued, List.map_cons, List.map_nil, List.filter_nil, List.mem_append,
            List.mem_singleton, or_and_right, exists_or, exists_eq_left]
          exact or_congr_right eq_comm
    · rw [if_pos hmem, List.filter_cons_of_neg (by simpa using hmem), List.filter_nil,
        List.append_nil]
      exact ⟨hnodup, hids⟩

section
variable {φ : Type} {finding : φ → ReportFinding} {report : Report φ}

theorem toSarif_eq : toSarif finding report =
    { driverVersion := report.cipherpostVersion
      rules := ((report.located finding).foldl (sarifStep report.pcap) ([], [])).1
      results := ((report.located finding).foldl (sarifStep report.pcap) ([], [])).2 } := by
  have hfold : (report.located finding).foldl (sarifStep report.pcap) ([], []) =
      report.sessions.foldl (fun acc sess => sess.findings.foldl
        (fun acc f => sarifStep report.pcap acc (sess.fiveTuple, finding f)) acc) ([], []) := by
    rw [Report.located, List.foldl_flatMap]
    simp only [List.foldl_map]
  rw [toSarif, hfold]

theorem results_toSarif : (toSarif finding report).results =
    (catalogued (report.located finding)).map fun p => sarifResult report.pcap p.1 p.2 := by
  rw [toSarif_eq]
  exact (foldl_sarifStep_results _ _ _).trans (List.nil_append _)

/-- **`to_sarif` がどの finding も書くのは、どの id も catalog にあるときである。** -/
theorem faithful_toSarif_iff : Faithful finding report (toSarif finding report) ↔
    ∀ p ∈ report.located finding, p.2.ruleId ∈ ruleCatalog := by
  constructor
  · intro h
    have hlen := h.results.length_eq
    rw [results_toSarif, List.length_map, catalogued] at hlen
    have hall := List.length_filter_eq_length_iff.mp hlen.symm
    exact fun p hp => of_decide_eq_true (hall p hp)
  · intro h
    have hself : catalogued (report.located finding) = report.located finding :=
      List.filter_eq_self.mpr fun p hp => decide_eq_true (h p hp)
    obtain ⟨hnodup, hids⟩ := foldl_sarifStep_rules report.pcap (report.located finding)
    refine ⟨?_, ?_, fun id => ?_⟩
    · rw [results_toSarif, hself, List.forall₂_map_right_iff]
      exact List.forall₂_same.mpr fun p _ => ⟨rfl, rfl, rfl⟩
    · rw [toSarif_eq]
      exact hnodup
    · rw [toSarif_eq]
      exact (hids id).trans (by rw [hself])

end

/-! ## rule の id -/

/-- 弱い版の finding の id。実行時に作られる。 -/
def WEAK_VERSION_IDS : List String :=
  ["tls-version-sslv3", "tls-version-tls1-0", "tls-version-tls1-1"]

theorem mem_ruleCatalog {id : String} :
    id ∈ ruleCatalog ↔ id ∈ SA_ADD_RULE_IDS.map RuleIdArg.recorded ∧ id ≠ "" := by
  rw [ruleCatalog, List.mem_insertionSort, List.mem_dedup, List.mem_filter, decide_eq_true_iff]

/-- 実行時に作られる id は catalog に無い。 -/
theorem not_mem_ruleCatalog : ∀ id ∈ WEAK_VERSION_IDS, id ∉ ruleCatalog := by
  simp only [mem_ruleCatalog]
  decide +kernel

/-- 弱い版の rule は表の先頭にある。 -/
theorem ruleTable_eq (now : Int) :
    ruleTable now = (WEAK_VERSION_IDS, ruleDeprecatedVersion) :: (ruleTable now).tail := rfl

/-- 他の rule の id は、どれも catalog にある。 -/
theorem mem_ruleCatalog_of_rule (now : Int) :
    ∀ e ∈ (ruleTable now).tail, ∀ id ∈ e.1, id ∈ ruleCatalog := by
  have hall : ∀ ids ∈ ((ruleTable now).map Prod.fst).tail, ∀ id ∈ ids, id ∈ ruleCatalog := by
    have hmap : (ruleTable now).map Prod.fst = (ruleTable 0).map Prod.fst := rfl
    rw [hmap]
    simp only [mem_ruleCatalog]
    decide +kernel
  exact fun e he => hall e.1 (by rw [← List.map_tail]; exact List.mem_map_of_mem he)

/-- 弱い版が交わされている。 -/
def WeakVersion (sa : SessionAnalysis) : Prop :=
  sa.tlsVersion ∈ [some 0x0300, some 0x0301, some 0x0302]

instance (sa : SessionAnalysis) : Decidable (WeakVersion sa) := inferInstanceAs (Decidable (_ ∈ _))

/-- 弱い版の rule は、弱い版でだけ finding を出す。 -/
theorem emitted_ruleDeprecatedVersion_eq_nil_iff {sa : SessionAnalysis} :
    emitted ruleDeprecatedVersion sa = [] ↔ ¬WeakVersion sa := by
  have hversion : sa.facts.tlsVersion = sa.tlsVersion := rfl
  unfold emitted ruleDeprecatedVersion WeakVersion
  rw [hversion]
  cases sa.tlsVersion with
  | none => simp [SessionAnalysis.facts]
  | some v =>
    rw [Option.bind_some]
    by_cases h : v = 0x0300 ∨ v = 0x0301 ∨ v = 0x0302
    · rcases h with rfl | rfl | rfl <;> simp [WEAK_VERSIONS, List.lookup_cons, SessionAnalysis.add]
    · simp only [not_or] at h
      simp [WEAK_VERSIONS, List.lookup_cons, SessionAnalysis.facts, h, beq_false_of_ne]

/-- **rule の結果で catalog に無い id は、弱い版の session のものだけである。** -/
theorem catalogued_iff {an : Analyzer} {now : Int} {sess : Session} {sa : SessionAnalysis}
    (h : analyzeSession (an.withRules now) sess = .ok sa) :
    (∀ f ∈ sa.findings, f.ruleId ∈ ruleCatalog) ↔ ¬WeakVersion sa := by
  obtain ⟨start, hstart, rfl⟩ := analyzeSession_eq_ok_iff.mp h
  have hfindings := findings_runRules now an start
  rw [(fresh_prepared hstart).findings, List.nil_append] at hfindings
  have hversion : ∀ sa : SessionAnalysis, WeakVersion sa.facts ↔ WeakVersion sa := fun _ => Iff.rfl
  have hweak : WeakVersion (runRules (an.withRules now) start) ↔ WeakVersion start := by
    rw [← hversion, facts_runRules, hversion]
  rw [hfindings, hweak, ← emitted_ruleDeprecatedVersion_eq_nil_iff]
  have hids : ∀ e ∈ ruleTable now, ∀ f ∈ emitted e.2 start, f.ruleId ∈ e.1 :=
    fun e he => (appends_ruleTable now e he).ids start
  have hothers := mem_ruleCatalog_of_rule now
  rw [ruleTable_eq, List.forall_mem_cons] at hids
  rw [ruleTable_eq, List.flatMap_cons, List.forall_mem_append]
  generalize (ruleTable now).tail = others at hids hothers ⊢
  constructor
  · rintro ⟨hall, -⟩
    exact List.eq_nil_iff_forall_not_mem.mpr fun f hf =>
      not_mem_ruleCatalog f.ruleId (hids.1 f hf) (hall f hf)
  · intro hnil
    refine ⟨fun f hf => ?_, fun f hf => ?_⟩
    · rw [hnil] at hf
      cases hf
    · obtain ⟨e, he, hf⟩ := List.mem_flatMap.mp hf
      exact hothers e he f.ruleId (hids.2 e he f hf)

/--
**走査の結果が一つ残らず SARIF に書かれるのは、SSL 3.0・TLS 1.0・TLS 1.1 を交わした session が無いときだけで
ある。**
-/
theorem faithful_iff {an : Analyzer} {now : Int} {sessions : List Session}
    {analyses : List SessionAnalysis}
    (h : analyzePcap (an.withRules now) sessions = .ok analyses) (version pcap : String) :
    Faithful id (scanReport version pcap analyses) (toSarif id (scanReport version pcap analyses)) ↔
      ∀ sa ∈ analyses, ¬WeakVersion sa := by
  rw [faithful_toSarif_iff]
  have hlocated : (∀ p ∈ (scanReport version pcap analyses).located id, p.2.ruleId ∈ ruleCatalog) ↔
      ∀ sa ∈ analyses, ∀ f ∈ sa.findings, f.ruleId ∈ ruleCatalog := by
    rw [Report.located, List.forall_mem_flatMap, scanReport, List.forall_mem_map]
    refine forall₂_congr fun sa _ => ?_
    rw [List.forall_mem_map, scanSession, List.forall_mem_map]
    rfl
  rw [hlocated]
  refine forall₂_congr fun sa hsa => ?_
  obtain ⟨sess, -, hsess⟩ := Aligned.exists_left (Aligned.of_mapM_ok h) hsa
  exact catalogued_iff hsess

/-! ## 落ちる finding -/

/-- 平文の session の結果。 -/
theorem faithful_iff_plain : ∃ analyses,
    analyzePcap (bareAnalyzer.withRules 0) [plainSession] = .ok analyses ∧
      (Faithful id (scanReport "1" "a.pcap" analyses)
          (toSarif id (scanReport "1" "a.pcap" analyses)) ↔
        ∀ sa ∈ analyses, ¬WeakVersion sa) :=
  have hrun := @analyzePcap_singleton (bareAnalyzer.withRules 0) plainSession _ rfl
  ⟨_, hrun, faithful_iff hrun "1" "a.pcap"⟩

/-- TLS 1.0 の finding は SARIF から落ちる。 -/
theorem not_faithful_tls10 : ∃ sa,
    analyzePcap (bareAnalyzer.withRules 0) [tls10Session] = .ok [sa] ∧
      "tls-version-tls1-0" ∈ sa.findings.map (·.ruleId) ∧
      "tls-version-tls1-0" ∉ (toSarif id (scanReport "1" "a.pcap" [sa])).results.map (·.ruleId) ∧
      ¬Faithful id (scanReport "1" "a.pcap" [sa]) (toSarif id (scanReport "1" "a.pcap" [sa])) := by
  have heval : (analyzeSession (bareAnalyzer.withRules 0) tls10Session).map
      (fun sa => (decide (WeakVersion sa), sa.findings.map (·.ruleId))) =
        .ok (true, ["tls-version-tls1-0", "tls-version-downgrade-suspected"]) := by decide +kernel
  obtain ⟨sa, hsa, hfacts⟩ := exists_of_map_ok heval
  obtain ⟨hweak, hids⟩ := Prod.mk.inj hfacts
  have hrun := analyzePcap_singleton hsa
  refine ⟨sa, hrun, by rw [hids]; exact List.mem_cons_self, ?_, fun hfaithful => ?_⟩
  · rw [results_toSarif, List.map_map]
    intro hmem
    obtain ⟨p, hp, hid⟩ := List.mem_map.mp hmem
    have hcat : p.2.ruleId ∈ ruleCatalog := of_decide_eq_true (List.mem_filter.mp hp).2
    rw [show p.2.ruleId = "tls-version-tls1-0" from hid] at hcat
    exact not_mem_ruleCatalog "tls-version-tls1-0" (by decide) hcat
  · exact (faithful_iff hrun "1" "a.pcap").mp hfaithful sa List.mem_cons_self
      (of_decide_eq_true hweak)

end CipherPost.Cli
