import CipherPost.Parsing.CertVisibility

/-!
# 選ばれた cipher suite の判定

cipher を判定する rule は七つに分かれ、どれも `cipher_meta` を読む。`analyze_session` は suite の id の真偽を見て表を引くので、
id 0 は無いものとして扱われ、`null` の suite の専用の rule は無い。

* `cipherTable`・`CIPHER_RULE_IDS` — cipher の rule
* `Selects` — 選ばれた suite を書いた解析
* `Judged` — 選ばれた suite に判定が出ること
* `cipher_judged_iff` — 判定が出るのは、ちょうど `null` の suite でないときである
-/

namespace CipherPost.Parsing

/-- cipher を判定する rule。 -/
def cipherTable : List (List String × Rule) :=
  [(["non-aead-bulk-cipher"], ruleNonAeadCipher), (["weak-cipher-suite"], ruleWeakCipher),
    (["export-grade-cipher"], ruleExportCipher), (["non-pfs-key-exchange"], ruleNonPfs),
    (["rc4-cipher"], ruleRc4), (["3des-cipher"], rule3des),
    (["unknown-cipher-suite"], ruleUnknownCipher)]

/-- その rule の出す finding の id。 -/
def CIPHER_RULE_IDS : List String :=
  ["non-aead-bulk-cipher", "weak-cipher-suite", "export-grade-cipher", "non-pfs-key-exchange",
    "rc4-cipher", "3des-cipher", "unknown-cipher-suite"]

theorem ids_cipherTable : cipherTable.flatMap Prod.fst = CIPHER_RULE_IDS := rfl

theorem mem_ruleTable_of_cipher (now : Int) : ∀ e ∈ cipherTable, e ∈ ruleTable now := by
  simp only [cipherTable, List.forall_mem_cons]
  simp only [ruleTable, List.mem_cons, true_or, or_true, true_and]
  exact List.forall_mem_nil _

/-- cipher の欄が同じなら、cipher の rule は同じ finding を出す。 -/
theorem emitted_cipher {sa sa' : SessionAnalysis} (h : SameCipher sa sa') :
    ∀ e ∈ cipherTable, emitted e.2 sa' = emitted e.2 sa := by
  have hfacts : SameCipher sa.facts sa'.facts := ⟨h.cipher, h.cipherMeta, h.cipherIana⟩
  simp only [cipherTable, List.forall_mem_cons]
  exact ⟨(outcome_ruleNonAeadCipher hfacts).emitted_eq, (outcome_ruleWeakCipher hfacts).emitted_eq,
    (outcome_ruleExportCipher hfacts).emitted_eq, (outcome_ruleNonPfs hfacts).emitted_eq,
    (outcome_ruleRc4 hfacts).emitted_eq, (outcome_rule3des hfacts).emitted_eq,
    (outcome_ruleUnknownCipher hfacts).emitted_eq, List.forall_mem_nil _⟩

/-! ## 選ばれた suite -/

/-- suite `iana` を選んだ ServerHello を読んだ解析。id 0 では表を引かない。 -/
structure Selects (sa : SessionAnalysis) (iana : Nat) : Prop where
  cipherIana : sa.cipherIana = some iana
  looked : iana ≠ 0 → sa.cipherMeta = lookupCipher iana
  absent : iana = 0 → sa.cipherMeta = none ∧ sa.cipher = none
  named : ∀ m, sa.cipherMeta = some m → sa.cipher = some m.name

theorem selects_withHello {sa : SessionAnalysis} (hcipher : sa.cipher = none)
    (hmeta : sa.cipherMeta = none) (ch : Option ClientHelloInfo) {sh : ServerHelloInfo} {iana : Nat}
    (hsuite : sh.cipherSuite = some iana) : Selects (sa.withHello ch (some sh)) iana := by
  unfold SessionAnalysis.withHello
  cases iana with
  | zero =>
    simp only [hsuite]
    refine ⟨rfl, fun h => absurd rfl h, fun _ => ⟨hmeta, hcipher⟩, fun m hm => ?_⟩
    exact absurd (hm.symm.trans hmeta) (Option.some_ne_none m)
  | succ n =>
    cases hlook : lookupCipher (n + 1) with
    | some m =>
      simp only [hsuite, hlook]
      refine ⟨rfl, fun _ => hlook.symm, fun h => absurd h (Nat.succ_ne_zero n), fun m' hm => ?_⟩
      rw [Option.some.inj hm]
    | none =>
      simp only [hsuite, hlook]
      refine ⟨rfl, fun _ => hmeta.trans hlook.symm, fun h => absurd h (Nat.succ_ne_zero n), ?_⟩
      exact fun m hm => absurd (hm.symm.trans hmeta) (Option.some_ne_none m)

theorem selects_prepared {lib : Analyzer} {sess : Session} {sa : SessionAnalysis}
    (h : prepared lib sess = .ok sa) {sh : ServerHelloInfo} (hserver : sa.serverHello = some sh)
    {iana : Nat} (hsuite : sh.cipherSuite = some iana) : Selects sa iana := by
  unfold prepared at h
  split at h
  · cases h
    cases hserver
  · obtain ⟨ch, -, h⟩ := exists_of_bind h
    obtain ⟨⟨server, certificate⟩, -, h⟩ := exists_of_bind h
    obtain ⟨certs, -, h⟩ := exists_of_bind h
    cases h
    obtain ⟨version, name, cipher, cipherMeta, iana', strength, hhello⟩ :=
      withHello_rest (startAnalysis sess) ch server
    obtain ⟨certs', result, error, hcerts⟩ :=
      withCerts_rest lib ((startAnalysis sess).withHello ch server) certificate certs
    have hsame : server = some sh := by
      simp only [assemble, hcerts] at hserver
      rw [hhello] at hserver
      exact hserver
    have hsel : Selects ((startAnalysis sess).withHello ch (some sh)) iana :=
      selects_withHello rfl rfl ch hsuite
    rw [← hsame] at hsel
    simp only [assemble, hcerts]
    exact ⟨hsel.cipherIana, hsel.looked, hsel.absent, hsel.named⟩

/-! ## 判定 -/

/-- cipher の rule の、重さが `severities` の中にある finding がある。 -/
def CipherVerdict (findings : List SessionFinding) (severities : List String) : Prop :=
  ∃ f ∈ findings, f.ruleId ∈ CIPHER_RULE_IDS ∧ f.severity ∈ severities

/--
選ばれた suite に判定が出る。suite は表で引かれ、export と null の suite には critical の、RC4 の suite には high 以上の、
表に無い suite には `unknown-cipher-suite` の finding が出る。
-/
structure Judged (sa : SessionAnalysis) (iana : Nat) : Prop where
  looked : sa.cipherMeta = lookupCipher iana
  broken : ∀ m, lookupCipher iana = some m →
    m.exportClass = some "export" ∨ m.exportClass = some "null" →
    CipherVerdict sa.findings [Severity.CRITICAL]
  rc4 : ∀ m, lookupCipher iana = some m →
    m.exportClass = some "rc4" ∨ "RC4".toList <:+: m.name.toList →
    CipherVerdict sa.findings [Severity.HIGH, Severity.CRITICAL]
  unknown : lookupCipher iana = none → ∃ f ∈ sa.findings, f.ruleId = "unknown-cipher-suite"

/-- 暗号化しない suite。 -/
def NullSuite (iana : Nat) : Prop := ∃ m, lookupCipher iana = some m ∧ m.exportClass = some "null"

theorem nullSuite_iff {iana : Nat} : NullSuite iana ↔ iana = 0 ∨ iana = 1 := by
  constructor
  · rintro ⟨m, hm, hnull⟩
    obtain ⟨l₁, l₂, htable, -⟩ := List.lookup_eq_some_iff.mp hm
    have hmem : (iana, m) ∈ CIPHER_DB := by
      rw [htable]
      exact List.mem_append_right _ List.mem_cons_self
    have hall : ∀ e ∈ CIPHER_DB, e.2.exportClass = some "null" → e.1 = 0 ∨ e.1 = 1 := by
      decide +kernel
    exact hall (iana, m) hmem hnull
  · rintro (rfl | rfl)
    · exact ⟨_, rfl, rfl⟩
    · exact ⟨_, rfl, rfl⟩

section
variable {sa : SessionAnalysis} {iana : Nat}

/-- 暗号化する suite は、表で引かれる。 -/
theorem Selects.looked_of_not_null (h : Selects sa iana) (hnull : ¬NullSuite iana) :
    sa.cipherMeta = lookupCipher iana :=
  h.looked fun hzero => hnull (nullSuite_iff.mpr (.inl hzero))

theorem emitted_export {m : CipherMeta} (hmeta : sa.cipherMeta = some m)
    (hexport : m.exportClass = some "export") : ∃ f ∈ emitted ruleExportCipher sa,
      f.ruleId = "export-grade-cipher" ∧ f.severity = Severity.CRITICAL := by
  have hfacts : sa.facts.cipherMeta = some m := hmeta
  unfold emitted ruleExportCipher
  rw [hfacts]
  simp only [if_pos hexport]
  exact ⟨_, List.mem_singleton_self _, rfl, rfl⟩

/-- RC4 の名を持つ suite には `rc4-cipher` が出る。 -/
theorem emitted_rc4 {m : CipherMeta} (hmeta : sa.cipherMeta = some m)
    (hname : sa.cipher = some m.name) (hword : "RC4".toList <:+: m.name.toList) :
    ∃ f ∈ emitted ruleRc4 sa, f.ruleId = "rc4-cipher" ∧ f.severity = Severity.HIGH := by
  have hcond : sa.facts.cipherMeta.isSome ∧ "RC4".toList <:+: (sa.facts.cipher.getD "").toList := by
    refine ⟨Option.isSome_iff_exists.mpr ⟨m, hmeta⟩, ?_⟩
    have hcipher : sa.facts.cipher = some m.name := hname
    rw [hcipher]
    exact hword
  unfold emitted ruleRc4 cipherWordRule
  rw [if_pos hcond]
  exact ⟨_, List.mem_singleton_self _, rfl, rfl⟩

/-- 表の中の rc4 の suite は、名に RC4 を持つ。 -/
theorem rc4_named {m : CipherMeta} (hlook : lookupCipher iana = some m)
    (hclass : m.exportClass = some "rc4") : "RC4".toList <:+: m.name.toList := by
  obtain ⟨l₁, l₂, htable, -⟩ := List.lookup_eq_some_iff.mp hlook
  have hmem : (iana, m) ∈ CIPHER_DB := by
    rw [htable]
    exact List.mem_append_right _ List.mem_cons_self
  have hall : ∀ e ∈ CIPHER_DB, e.2.exportClass = some "rc4" →
      "RC4".toList <:+: e.2.name.toList := by decide +kernel
  exact hall (iana, m) hmem hclass

theorem emitted_unknown (h : Selects sa iana) (hlook : lookupCipher iana = none) :
    ∃ f ∈ emitted ruleUnknownCipher sa, f.ruleId = "unknown-cipher-suite" := by
  cases iana with
  | zero => cases hlook
  | succ n =>
    have hiana : sa.facts.cipherIana = some (n + 1) := h.cipherIana
    have hmeta : sa.facts.cipherMeta = none := (h.looked (Nat.succ_ne_zero n)).trans hlook
    unfold emitted ruleUnknownCipher
    rw [hiana]
    simp only [if_pos hmeta]
    exact ⟨_, List.mem_singleton_self _, rfl⟩

/-- suite `iana` を選んだだけの解析。 -/
def cipherView (iana : Nat) : SessionAnalysis :=
  (startAnalysis plainSession).withHello none (some { cipherSuite := some iana })

/-- 暗号化しない suite には、cipher の rule は critical の finding を出さない。 -/
theorem null_not_critical (h : Selects sa iana) (hnull : NullSuite iana) :
    ∀ e ∈ cipherTable, ∀ f ∈ emitted e.2 sa, f.severity ≠ Severity.CRITICAL := by
  rcases nullSuite_iff.mp hnull with rfl | rfl
  · obtain ⟨hmeta, hcipher⟩ := h.absent rfl
    have hsame : SameCipher (cipherView 0) sa := ⟨hcipher, hmeta, h.cipherIana⟩
    have hview : ∀ e ∈ cipherTable, ∀ f ∈ emitted e.2 (cipherView 0),
        f.severity ≠ Severity.CRITICAL := by decide +kernel
    intro e he f hf
    rw [emitted_cipher hsame e he] at hf
    exact hview e he f hf
  · have hmeta := h.looked Nat.one_ne_zero
    have hsame : SameCipher (cipherView 1) sa := ⟨h.named _ hmeta, hmeta, h.cipherIana⟩
    have hview : ∀ e ∈ cipherTable, ∀ f ∈ emitted e.2 (cipherView 1),
        f.severity ≠ Severity.CRITICAL := by decide +kernel
    intro e he f hf
    rw [emitted_cipher hsame e he] at hf
    exact hview e he f hf

end

/-- 解析 `start` に rule を走らせた結果。 -/
structure RunOf (start sa : SessionAnalysis) : Prop where
  facts : sa.facts = start.facts
  found : ∀ e ∈ cipherTable, ∀ f : SessionFinding, f.ruleId ∈ e.1 →
    (f ∈ sa.findings ↔ f ∈ emitted e.2 start)

theorem runOf_runRules (now : Int) (lib : Analyzer) {start : SessionAnalysis}
    (hfindings : start.findings = []) : RunOf start (runRules (lib.withRules now) start) where
  facts := facts_runRules now lib start
  found e he _ hid := mem_findings_iff now lib (mem_ruleTable_of_cipher now e he) hfindings hid

section
variable {start sa : SessionAnalysis} {iana : Nat}

/-- 表の中の rule の出す finding は、結果に残る。 -/
theorem RunOf.mem_findings (hrun : RunOf start sa) {id : String} {rule : Rule}
    (he : ([id], rule) ∈ cipherTable) {f : SessionFinding} (hf : f ∈ emitted rule start)
    (hid : f.ruleId = id) : f ∈ sa.findings :=
  (hrun.found ([id], rule) he f (List.mem_singleton.mpr hid)).mpr hf

/-- 暗号化する suite の判定。 -/
theorem RunOf.judged (hrun : RunOf start sa) (h : Selects start iana) (hnull : ¬NullSuite iana) :
    Judged sa iana := by
  have hstart : start.cipherMeta = lookupCipher iana := h.looked_of_not_null hnull
  have hmeta : sa.facts.cipherMeta = start.facts.cipherMeta := by rw [hrun.facts]
  have hexportMem : (["export-grade-cipher"], ruleExportCipher) ∈ cipherTable :=
    .tail _ (.tail _ (.head _))
  have hrc4Mem : (["rc4-cipher"], ruleRc4) ∈ cipherTable :=
    .tail _ (.tail _ (.tail _ (.tail _ (.head _))))
  have hunknownMem : (["unknown-cipher-suite"], ruleUnknownCipher) ∈ cipherTable :=
    .tail _ (.tail _ (.tail _ (.tail _ (.tail _ (.tail _ (.head _))))))
  refine ⟨hmeta.trans hstart, fun m hm hclass => ?_, fun m hm hclass => ?_, fun hm => ?_⟩
  · have hexport : m.exportClass = some "export" :=
      hclass.resolve_right fun hn => hnull ⟨m, hm, hn⟩
    obtain ⟨f, hf, hid, hsev⟩ := emitted_export (hstart.trans hm) hexport
    refine ⟨f, hrun.mem_findings hexportMem hf hid, ?_, List.mem_singleton.mpr hsev⟩
    rw [hid]
    decide
  · have hword : "RC4".toList <:+: m.name.toList := hclass.elim (rc4_named hm) id
    obtain ⟨f, hf, hid, hsev⟩ := emitted_rc4 (hstart.trans hm) (h.named m (hstart.trans hm)) hword
    refine ⟨f, hrun.mem_findings hrc4Mem hf hid, ?_, ?_⟩
    · rw [hid]
      decide
    · rw [hsev]
      exact List.mem_cons_self
  · obtain ⟨f, hf, hid⟩ := emitted_unknown h hm
    exact ⟨f, hrun.mem_findings hunknownMem hf hid, hid⟩

/-- 暗号化しない suite には、判定が出ない。 -/
theorem RunOf.not_judged (hrun : RunOf start sa) (h : Selects start iana) (hnull : NullSuite iana) :
    ¬Judged sa iana := by
  intro hjudged
  obtain ⟨m, hm, hclass⟩ := hnull
  obtain ⟨f, hf, hid, hsev⟩ := hjudged.broken m hm (.inr hclass)
  -- critical の finding は cipher の rule の出したものだが、どの rule も critical を出さない
  rw [← ids_cipherTable] at hid
  obtain ⟨e, he, hide⟩ := List.mem_flatMap.mp hid
  exact null_not_critical h ⟨m, hm, hclass⟩ e he f ((hrun.found e he f hide).mp hf)
    (List.mem_singleton.mp hsev)

end

/--
**ServerHello の読めたどの session でも、選ばれた suite に判定が出るのは、ちょうどそれが暗号化する suite のときである。**
-/
theorem cipher_judged_iff {lib : Analyzer} {now : Int} {sess : Session} {sa : SessionAnalysis}
    (h : analyzeSession (lib.withRules now) sess = .ok sa) {sh : ServerHelloInfo}
    (hserver : sa.serverHello = some sh) {iana : Nat} (hsuite : sh.cipherSuite = some iana) :
    Judged sa iana ↔ ¬NullSuite iana := by
  obtain ⟨start, hprep, hrun⟩ := analyzeSession_eq_ok_iff.mp h
  have hfacts : sa.facts.serverHello = start.facts.serverHello := by
    rw [← hrun, facts_runRules]
  have hsel : Selects start iana := selects_prepared hprep (hfacts.symm.trans hserver) hsuite
  have hof : RunOf start sa := hrun ▸ runOf_runRules now lib (fresh_prepared hprep).findings
  constructor
  · intro hjudged hnull
    exact hof.not_judged hsel hnull hjudged
  · exact hof.judged hsel

/-- suite `iana` を選ぶ ServerHello。 -/
def suiteHello (iana : Nat) : Bytes := [3, 3] ++ List.replicate 32 0 ++ [0] ++ u16 iana ++ [0]

/-- suite `iana` を交わす TLS 1.2 の session。 -/
def suiteSession (iana : Nat) : Session :=
  { helloSession [0x0303] with tlsServerSegment := handshakeRecord 2 (suiteHello iana) }

/-- RC4 の suite の session。 -/
theorem rc4_judged : ∃ sa, analyzeSession (bareAnalyzer.withRules 0) (suiteSession 5) = .ok sa ∧
    Judged sa 5 := by
  have hrun : (analyzeSession (bareAnalyzer.withRules 0) (suiteSession 5)).map
      (fun sa => sa.serverHello.map (·.cipherSuite)) = .ok (some (some 5)) := by decide +kernel
  obtain ⟨sa, hsa, hfacts⟩ := exists_of_map_ok hrun
  obtain ⟨sh, hserver, hsuite⟩ := Option.map_eq_some_iff.mp hfacts
  refine ⟨sa, hsa, (cipher_judged_iff hsa hserver hsuite).mpr ?_⟩
  rw [nullSuite_iff]
  decide

/-- critical の finding が無ければ、null の suite の判定は出ていない。 -/
theorem not_judged_of_verdicts {sa : SessionAnalysis} {iana : Nat} (hnull : NullSuite iana)
    (hcritical : ∀ v ∈ verdicts sa.findings, v.2 ≠ Severity.CRITICAL) : ¬Judged sa iana := by
  intro hjudged
  obtain ⟨m, hm, hclass⟩ := hnull
  obtain ⟨f, hf, -, hsev⟩ := hjudged.broken m hm (.inr hclass)
  exact hcritical _ (List.mem_map_of_mem hf) (List.mem_singleton.mp hsev)

/--
`TLS_NULL_WITH_NULL_NULL` を交わす session には、何の finding も出ない。`TLS_RSA_WITH_NULL_MD5` には medium の
`non-pfs-key-exchange` しか出ない。
-/
theorem null_suites_pass :
    (∃ sa, analyzeSession (bareAnalyzer.withRules 0) (suiteSession 0) = .ok sa ∧
      sa.cipherIana = some 0 ∧ verdicts sa.findings = [] ∧ ¬Judged sa 0) ∧
    ∃ sa, analyzeSession (bareAnalyzer.withRules 0) (suiteSession 1) = .ok sa ∧
      sa.cipherIana = some 1 ∧
      verdicts sa.findings = [("non-pfs-key-exchange", Severity.MEDIUM)] ∧ ¬Judged sa 1 := by
  have hrun : ∀ {iana : Nat} {fs : List (String × String)}, NullSuite iana →
      (∀ v ∈ fs, v.2 ≠ Severity.CRITICAL) →
      (analyzeSession (bareAnalyzer.withRules 0) (suiteSession iana)).map
        (fun sa => (sa.cipherIana, verdicts sa.findings)) = .ok (some iana, fs) →
      ∃ sa, analyzeSession (bareAnalyzer.withRules 0) (suiteSession iana) = .ok sa ∧
        sa.cipherIana = some iana ∧ verdicts sa.findings = fs ∧ ¬Judged sa iana := by
    intro iana fs hnull hcritical h
    obtain ⟨sa, hsa, hfacts⟩ := exists_of_map_ok h
    obtain ⟨hiana, hfs⟩ := Prod.mk.inj hfacts
    exact ⟨sa, hsa, hiana, hfs, not_judged_of_verdicts hnull (hfs ▸ hcritical)⟩
  exact ⟨hrun (nullSuite_iff.mpr (.inl rfl)) (by decide) (by decide +kernel),
    hrun (nullSuite_iff.mpr (.inr rfl)) (by decide) (by decide +kernel)⟩

end CipherPost.Parsing
