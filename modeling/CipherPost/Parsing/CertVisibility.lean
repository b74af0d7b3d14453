import CipherPost.Parsing.GreaseVersions
import CipherPost.Parsing.Observed

/-!
# 見えない証明書の rule

TLS 1.3 では Certificate が暗号の中にあり、傍受する側には見えない。証明書の rule は、見えない証明書には何も言わず、
飛ばしたことだけを `not_observable` に残す。

* `CERT_RULE_IDS` — 証明書の rule の id
* `noted` — 飛ばした rule の記録
* `Records` — rule が、飛ばす session では自分の id だけを残し、他の session では何も残さないこと
* `records_ruleTable` — どの rule もそうである
* `cert_visibility` — `analyze_session` の結果
-/

namespace CipherPost.Parsing

/-- `CERT_RULE_IDS`。 -/
def CERT_RULE_IDS : List String :=
  ["expired-certificate", "certificate-not-yet-valid", "self-signed-certificate",
    "untrusted-certificate-chain", "weak-signature-algorithm", "short-public-key"]

theorem nodup_CERT_RULE_IDS : CERT_RULE_IDS.Nodup := by decide

/-! ## 記録 -/

/-- 無ければ足す。 -/
def noted (skipped : List String) (ruleId : String) : List String :=
  if ruleId ∈ skipped then skipped else skipped ++ [ruleId]

/-- 互いに違う、まだ無い id は、順に一度ずつ残る。 -/
theorem foldl_noted : ∀ {ids skipped : List String}, (skipped ++ ids).Nodup →
    ids.foldl noted skipped = skipped ++ ids
  | [], skipped, _ => (List.append_nil skipped).symm
  | id :: ids, skipped, h => by
    rw [List.append_cons] at h
    have hnew : id ∉ skipped := by
      have hfront := (List.nodup_append.mp h).1
      exact fun hmem => (List.nodup_append.mp hfront).2.2 id hmem id (List.mem_singleton_self _) rfl
    rw [List.foldl_cons, noted, if_neg hnew, foldl_noted h, ← List.append_cons]

/-- 飛ばす rule は、記録だけを変える。 -/
theorem certRule_of_skips {sa : SessionAnalysis} (h : skipsCerts sa = true) (ruleId : String)
    (body : Rule) :
    sa.certRule ruleId body = { sa with notObservable := noted sa.notObservable ruleId } := by
  obtain ⟨hcerts, htls13⟩ := Bool.and_eq_true_iff.mp h
  have husable : certsUsable sa.certs = false := Bool.not_eq_true' _ ▸ hcerts
  unfold SessionAnalysis.certRule SessionAnalysis.requireUsableCerts noted
  rw [husable, htls13]
  by_cases hmem : ruleId ∈ sa.notObservable
  · rw [if_pos hmem, if_pos hmem]
    rfl
  · rw [if_neg hmem, if_neg hmem]
    rfl

/-- 飛ばさない rule は、本体を走らせる。 -/
theorem certRule_of_not_skips {sa : SessionAnalysis} (h : skipsCerts sa = false) (ruleId : String)
    (body : Rule) : sa.certRule ruleId body = body sa := by
  obtain ⟨no, hno⟩ := certRule_cases sa ruleId body
  rw [hno, if_neg (Bool.not_eq_true _ ▸ h)]

/-! ## 一つの rule -/

/-- rule は `not_observable` に触れない。 -/
def Keeps (rule : Rule) : Prop := ∀ sa, (rule sa).notObservable = sa.notObservable

theorem Keeps.foldl {step : SessionAnalysis → CertAnalysis → SessionAnalysis}
    (h : ∀ c, Keeps (step · c)) : ∀ (certs : List CertAnalysis), Keeps (certs.foldl step)
  | [], _ => rfl
  | c :: certs, sa => (Keeps.foldl h certs (step sa c)).trans (h c sa)

/--
証明書の見えない TLS 1.3 の session では、`ids` の中の証明書の rule の id だけが残り、その finding は出ない。
他の session では、記録は変わらない。
-/
structure Records (ids : List String) (rule : Rule) : Prop where
  skips : ∀ sa, skipsCerts sa = true →
    (rule sa).notObservable =
      (ids.filter fun id => decide (id ∈ CERT_RULE_IDS)).foldl noted sa.notObservable
  silent : (∀ id ∈ ids, id ∉ CERT_RULE_IDS) ∨ ∀ sa, skipsCerts sa = true → emitted rule sa = []
  keeps : ∀ sa, skipsCerts sa = false → (rule sa).notObservable = sa.notObservable

/-- 証明書の rule。 -/
theorem Records.of_cert {ruleId : String} {body : Rule} {fires : SessionAnalysis → Bool}
    (h : CertRule [ruleId] (fun sa => sa.certRule ruleId body) fires) (hbody : Keeps body)
    (hid : ruleId ∈ CERT_RULE_IDS) : Records [ruleId] fun sa => sa.certRule ruleId body := by
  refine ⟨fun sa hskip => ?_, .inr h.skips, fun sa hskip => ?_⟩
  · have hfilter : [ruleId].filter (fun id => decide (id ∈ CERT_RULE_IDS)) = [ruleId] :=
      List.filter_eq_self.mpr fun id hmem => decide_eq_true (List.mem_singleton.mp hmem ▸ hid)
    rw [certRule_of_skips hskip, hfilter]
    rfl
  · rw [certRule_of_not_skips hskip]
    exact hbody sa

/-- 証明書を見ない rule。 -/
theorem Records.of_keeps {ids : List String} {rule : Rule} (h : Keeps rule)
    (hids : ∀ id ∈ ids, id ∉ CERT_RULE_IDS) : Records ids rule := by
  refine ⟨fun sa _ => ?_, .inl hids, fun sa _ => h sa⟩
  have hfilter : ids.filter (fun id => decide (id ∈ CERT_RULE_IDS)) = [] :=
    List.filter_eq_nil_iff.mpr fun id hmem => by
      rw [decide_eq_true_eq]
      exact hids id hmem
  rw [hfilter, h sa]
  rfl

/-! ## rule の列 -/

section
variable (now : Int)

/-- 証明書ごとの loop も、証明書の他は見ない。 -/
theorem keeps_loop {step : SessionAnalysis → CertAnalysis → SessionAnalysis}
    (h : ∀ c, Keeps (step · c)) : Keeps fun sa => sa.certs.foldl step sa :=
  fun sa => Keeps.foldl h sa.certs sa

theorem keeps_ruleDeprecatedVersion : Keeps ruleDeprecatedVersion := by
  intro sa
  unfold ruleDeprecatedVersion
  split <;> rfl

theorem keeps_ruleNonAeadCipher : Keeps ruleNonAeadCipher := by
  intro sa
  unfold ruleNonAeadCipher
  split
  · rfl
  · split <;> rfl

theorem keeps_ruleWeakCipher : Keeps ruleWeakCipher := by
  intro sa
  unfold ruleWeakCipher
  split
  · rfl
  · split
    · rfl
    · split <;> rfl

theorem keeps_ruleExportCipher : Keeps ruleExportCipher := by
  intro sa
  unfold ruleExportCipher
  split
  · rfl
  · split <;> rfl

theorem keeps_ruleNonPfs : Keeps ruleNonPfs := by
  intro sa
  unfold ruleNonPfs
  split
  · rfl
  · split <;> rfl

theorem keeps_ruleRc4 : Keeps ruleRc4 := by
  intro sa
  unfold ruleRc4 cipherWordRule
  split <;> rfl

theorem keeps_rule3des : Keeps rule3des := by
  intro sa
  unfold rule3des cipherWordRule
  split <;> rfl

theorem keeps_ruleSslInPlaintext : Keeps ruleSslInPlaintext := by
  intro sa
  unfold ruleSslInPlaintext
  split <;> rfl

theorem keeps_ruleStarttlsStrip : Keeps ruleStarttlsStrip := by
  intro sa
  unfold ruleStarttlsStrip
  split <;> rfl

theorem keeps_ruleNoClientHelloPfsCapability : Keeps ruleNoClientHelloPfsCapability := by
  intro sa
  unfold ruleNoClientHelloPfsCapability
  split
  · split <;> rfl
  · rfl

theorem keeps_ruleNoTlsOnTlsPort : Keeps ruleNoTlsOnTlsPort := by
  intro sa
  unfold ruleNoTlsOnTlsPort
  split <;> rfl

theorem keeps_ruleHandshakeIncomplete : Keeps ruleHandshakeIncomplete := by
  intro sa
  unfold ruleHandshakeIncomplete
  split <;> rfl

theorem keeps_ruleUnknownCipher : Keeps ruleUnknownCipher := by
  intro sa
  unfold ruleUnknownCipher
  split
  · rfl
  · rfl
  · split <;> rfl

theorem keeps_ruleLegacyGroups : Keeps ruleLegacyGroups := by
  intro sa
  unfold ruleLegacyGroups
  split
  · rfl
  · dsimp only
    split
    · rfl
    · split <;> rfl

theorem keeps_ruleNoModernPfsGroup : Keeps ruleNoModernPfsGroup := by
  intro sa
  unfold ruleNoModernPfsGroup
  split
  · rfl
  · split
    · rfl
    · split <;> rfl

theorem keeps_ruleDowngradeSentinel : Keeps ruleDowngradeSentinel := by
  intro sa
  unfold ruleDowngradeSentinel
  split
  · rfl
  · split
    · split <;> rfl
    · rfl

theorem keeps_ruleHrrAnomaly : Keeps ruleHrrAnomaly := by
  intro sa
  unfold ruleHrrAnomaly
  split
  · rfl
  · split
    · rfl
    · dsimp only
      split
      · rfl
      · split <;> rfl

theorem keeps_ruleTlsVersionDowngrade : Keeps ruleTlsVersionDowngrade := by
  intro sa
  unfold ruleTlsVersionDowngrade
  split
  · split
    · rfl
    · split
      · rfl
      · split <;> rfl
  · rfl

theorem keeps_ruleEchPresent : Keeps ruleEchPresent := by
  intro sa
  unfold ruleEchPresent
  split <;> rfl

theorem keeps_ruleLegacyCompression : Keeps ruleLegacyCompression := by
  intro sa
  unfold ruleLegacyCompression
  split
  · rfl
  · split <;> rfl

theorem keeps_ruleOutdatedClientStack : Keeps ruleOutdatedClientStack := by
  intro sa
  unfold ruleOutdatedClientStack
  split
  · rfl
  · split <;> rfl

/-- 条件に当たる証明書ごとに finding を足す loop。 -/
theorem keeps_addLoop {p : CertAnalysis → Bool}
    {ruleId ruleName severity reference : String} {title description : CertAnalysis → String} :
    Keeps fun sa => sa.certs.foldl (fun sa cert =>
      if p cert then
        sa.add ruleId ruleName severity (title cert) (description cert) reference
      else sa) sa := by
  refine keeps_loop fun cert sa => ?_
  dsimp only
  split <;> rfl

/-- **飛ばす rule は自分の id だけを残し、飛ばさない rule は何も残さない。** -/
theorem records_ruleTable : ∀ e ∈ ruleTable now, Records e.1 e.2 := by
  have hself : Records ["self-signed-certificate"] ruleCertSelfSigned := by
    refine Records.of_cert certRule_ruleCertSelfSigned (fun sa => ?_) (by decide)
    split
    · rfl
    · split <;> rfl
  have hchain : Records ["untrusted-certificate-chain"] ruleChainUntrusted := by
    refine Records.of_cert certRule_ruleChainUntrusted (fun sa => ?_) (by decide)
    split <;> rfl
  simp only [ruleTable, List.forall_mem_cons]
  exact ⟨.of_keeps keeps_ruleDeprecatedVersion (by decide),
    .of_keeps keeps_ruleNonAeadCipher (by decide), .of_keeps keeps_ruleWeakCipher (by decide),
    .of_keeps keeps_ruleExportCipher (by decide), .of_keeps keeps_ruleNonPfs (by decide),
    .of_keeps keeps_ruleRc4 (by decide), .of_keeps keeps_rule3des (by decide),
    .of_cert (certRule_ruleCertExpired now) keeps_addLoop (by decide),
    .of_cert (certRule_ruleCertNotYetValid now) keeps_addLoop (by decide), hself, hchain,
    .of_cert certRule_ruleWeakSignature keeps_addLoop (by decide),
    .of_cert certRule_ruleShortKey keeps_addLoop (by decide),
    .of_keeps keeps_ruleSslInPlaintext (by decide), .of_keeps keeps_ruleStarttlsStrip (by decide),
    .of_keeps keeps_ruleNoClientHelloPfsCapability (by decide),
    .of_keeps keeps_ruleNoTlsOnTlsPort (by decide),
    .of_keeps keeps_ruleHandshakeIncomplete (by decide),
    .of_keeps keeps_ruleUnknownCipher (by decide), .of_keeps keeps_ruleLegacyGroups (by decide),
    .of_keeps keeps_ruleNoModernPfsGroup (by decide),
    .of_keeps keeps_ruleDowngradeSentinel (by decide), .of_keeps keeps_ruleHrrAnomaly (by decide),
    .of_keeps keeps_ruleTlsVersionDowngrade (by decide), .of_keeps keeps_ruleEchPresent (by decide),
    .of_keeps keeps_ruleLegacyCompression (by decide),
    .of_keeps keeps_ruleOutdatedClientStack (by decide), List.forall_mem_nil _⟩

/-- 事実が同じなら、飛ばすかどうかも同じである。 -/
theorem skipsCerts_congr {sa sa' : SessionAnalysis} (h : sa.facts = sa'.facts) :
    skipsCerts sa = skipsCerts sa' := by
  calc skipsCerts sa = skipsCerts sa.facts := rfl
    _ = skipsCerts sa'.facts := by rw [h]
    _ = skipsCerts sa' := rfl

/-- 飛ばす session では、列の中の証明書の rule の id が順に残る。 -/
theorem notObservable_runAll_skips : ∀ {table : List (List String × Rule)},
    (∀ e ∈ table, Appends e.1 e.2 ∧ Records e.1 e.2) → ∀ sa, skipsCerts sa = true →
    (runAll (table.map Prod.snd) sa).notObservable =
      (table.flatMap fun e => e.1.filter fun id => decide (id ∈ CERT_RULE_IDS)).foldl noted
        sa.notObservable := by
  intro table
  induction table with
  | nil => exact fun _ sa _ => rfl
  | cons e table ih =>
    intro h sa hskip
    obtain ⟨⟨happ, hrec⟩, hrest⟩ := List.forall_mem_cons.mp h
    have hskip' : skipsCerts (e.2 sa) = true := (skipsCerts_congr (happ.facts sa)).trans hskip
    rw [List.flatMap_cons, List.foldl_append, ← hrec.skips sa hskip]
    exact ih hrest (e.2 sa) hskip'

/-- 飛ばさない session では、何も残らない。 -/
theorem notObservable_runAll_keeps : ∀ {table : List (List String × Rule)},
    (∀ e ∈ table, Appends e.1 e.2 ∧ Records e.1 e.2) → ∀ sa, skipsCerts sa = false →
    (runAll (table.map Prod.snd) sa).notObservable = sa.notObservable := by
  intro table
  induction table with
  | nil => exact fun _ sa _ => rfl
  | cons e table ih =>
    intro h sa hskip
    obtain ⟨⟨happ, hrec⟩, hrest⟩ := List.forall_mem_cons.mp h
    have hskip' : skipsCerts (e.2 sa) = false := (skipsCerts_congr (happ.facts sa)).trans hskip
    exact (ih hrest (e.2 sa) hskip').trans (hrec.keeps sa hskip)

/-- 表の中の証明書の rule の id は、`CERT_RULE_IDS` の順に並ぶ。 -/
theorem ids_ruleTable : ((ruleTable now).flatMap fun e =>
    e.1.filter fun id => decide (id ∈ CERT_RULE_IDS)) = CERT_RULE_IDS := by
  have hmap : ((ruleTable now).map Prod.fst).flatMap (fun ids =>
      ids.filter fun id => decide (id ∈ CERT_RULE_IDS)) = CERT_RULE_IDS := by
    have hids : (ruleTable now).map Prod.fst = (ruleTable 0).map Prod.fst := rfl
    rw [hids]
    decide +kernel
  rw [List.flatMap_map] at hmap
  exact hmap

/-- **`run_rules` は、飛ばす session では証明書の rule の id を残し、その finding を出さない。** -/
theorem runRules_skips (lib : Analyzer) {sa : SessionAnalysis} (hfindings : sa.findings = [])
    (hquiet : sa.notObservable = []) (hskip : skipsCerts sa = true) :
    (∀ f ∈ (runRules (lib.withRules now) sa).findings, f.ruleId ∉ CERT_RULE_IDS) ∧
      (runRules (lib.withRules now) sa).notObservable = CERT_RULE_IDS := by
  constructor
  · intro f hf
    rw [findings_runRules, hfindings, List.nil_append, List.mem_flatMap] at hf
    obtain ⟨e, he, hf⟩ := hf
    rcases (records_ruleTable now e he).silent with hids | hnone
    · exact hids f.ruleId ((appends_ruleTable now e he).ids sa f hf)
    · rw [hnone sa hskip] at hf
      cases hf
  · have hrun := notObservable_runAll_skips (fun e he =>
      ⟨appends_ruleTable now e he, records_ruleTable now e he⟩) sa hskip
    rw [map_snd_ruleTable, ids_ruleTable, hquiet,
      foldl_noted ((List.nil_append CERT_RULE_IDS).symm ▸ nodup_CERT_RULE_IDS)] at hrun
    rw [runRules_withRules]
    exact hrun

/-- 飛ばさない session では、`run_rules` は何も残さない。 -/
theorem runRules_keeps (lib : Analyzer) {sa : SessionAnalysis} (hskip : skipsCerts sa = false) :
    (runRules (lib.withRules now) sa).notObservable = sa.notObservable := by
  have hrun := notObservable_runAll_keeps (fun e he =>
    ⟨appends_ruleTable now e he, records_ruleTable now e he⟩) sa hskip
  rw [map_snd_ruleTable] at hrun
  rw [runRules_withRules]
  exact hrun

end

/-! ## 解析 -/

/-- rule に渡る前の解析。 -/
structure Fresh (sa : SessionAnalysis) : Prop where
  findings : sa.findings = []
  notObservable : sa.notObservable = []
  seen : sa.startedTls = true → sa.tlsVersion = some 0x0304 → sa.seesTls13 = true

theorem fresh_prepared {lib : Analyzer} {sess : Session} {sa : SessionAnalysis}
    (h : prepared lib sess = .ok sa) : Fresh sa := by
  unfold prepared at h
  split at h
  · next htls =>
    cases h
    refine ⟨rfl, rfl, fun hstarted => ?_⟩
    have hoff : (startAnalysis sess).startedTls = !sess.tlsSegment.isEmpty := rfl
    rw [hoff, htls] at hstarted
    cases hstarted
  · obtain ⟨ch, -, h⟩ := exists_of_bind h
    obtain ⟨⟨server, certificate⟩, -, h⟩ := exists_of_bind h
    obtain ⟨certs, -, h⟩ := exists_of_bind h
    cases h
    obtain ⟨hquiet, hfindings⟩ := fresh_assemble lib sess ch server certificate certs
    exact ⟨hfindings, hquiet, fun _ hversion => decide_eq_true hversion⟩

/--
**証明書の見えない TLS 1.3 の session では、証明書の rule は finding を出さず、`not_observable` に一度ずつ残る。
使える証明書があるか、TLS 1.3 でなければ、`not_observable` は空である。**
-/
theorem cert_visibility {lib : Analyzer} {now : Int} {sess : Session} {sa : SessionAnalysis}
    (h : analyzeSession (lib.withRules now) sess = .ok sa) :
    (sa.startedTls = true → sa.tlsVersion = some 0x0304 → certsUsable sa.certs = false →
      (∀ f ∈ sa.findings, f.ruleId ∉ CERT_RULE_IDS) ∧
      sa.notObservable = CERT_RULE_IDS ∧ sa.notObservable.Nodup) ∧
    (certsUsable sa.certs = true ∨ sa.tlsVersion ≠ some 0x0304 → sa.notObservable = []) := by
  obtain ⟨start, hprep, hrun⟩ := analyzeSession_eq_ok_iff.mp h
  obtain ⟨hfindings, hquiet, hseen⟩ := fresh_prepared hprep
  -- rule は事実を変えないので、条件は rule に渡る前の解析のものである
  have hfacts : sa.facts = start.facts := hrun ▸ facts_runRules now lib start
  have hstarted : sa.facts.startedTls = start.facts.startedTls := by rw [hfacts]
  have hversion : sa.facts.tlsVersion = start.facts.tlsVersion := by rw [hfacts]
  have hcerts : sa.facts.certs = start.facts.certs := by rw [hfacts]
  constructor
  · intro hon htls13 hnone
    have hskip : skipsCerts start = true := by
      rw [skipsCerts, ← (show sa.certs = start.certs from hcerts), hnone]
      exact hseen (hstarted.symm.trans hon) (hversion.symm.trans htls13)
    obtain ⟨hsilent, hids⟩ := runRules_skips now lib hfindings hquiet hskip
    rw [hrun] at hsilent hids
    rw [hids]
    exact ⟨hsilent, rfl, nodup_CERT_RULE_IDS⟩
  · intro hcond
    have hskip : skipsCerts start = false := by
      rcases hcond with husable | hother
      · rw [skipsCerts, ← (show sa.certs = start.certs from hcerts), husable]
        rfl
      · have hplain : start.seesTls13 = false := Bool.eq_false_iff.mpr fun hon =>
          hother (hversion.trans ((observed_prepared hprep).tls13 hon))
        rw [skipsCerts, Bool.and_eq_false_iff]
        exact .inr hplain
    rw [← hrun]
    exact (runRules_keeps now lib hskip).trans hquiet

/-- TLS 1.3 を選ぶ ServerHello。 -/
def tls13Hello : Bytes :=
  [3, 3] ++ List.replicate 32 0 ++ [0, 0x13, 0x01, 0, 0, 6, 0, 43, 0, 2, 3, 4]

/-- TLS 1.3 を交わし、証明書の見えない session。 -/
def tls13Session : Session :=
  { helloSession [0x0304] with tlsServerSegment := handshakeRecord 2 tls13Hello }

theorem tls13_not_observable : ∃ sa, analyzeSession (bareAnalyzer.withRules 0) tls13Session = .ok sa ∧
    (∀ f ∈ sa.findings, f.ruleId ∉ CERT_RULE_IDS) ∧ sa.notObservable = CERT_RULE_IDS := by
  have hrun : (analyzeSession (bareAnalyzer.withRules 0) tls13Session).map
      (fun sa => (sa.startedTls, sa.tlsVersion, certsUsable sa.certs)) =
        .ok (true, some 0x0304, false) := by decide +kernel
  obtain ⟨sa, hsa, hfacts⟩ := exists_of_map_ok hrun
  obtain ⟨hon, htls13, hnone⟩ : sa.startedTls = true ∧ sa.tlsVersion = some 0x0304 ∧
      certsUsable sa.certs = false := by simpa using hfacts
  obtain ⟨hsilent, hids, -⟩ := (cert_visibility hsa).1 hon htls13 hnone
  exact ⟨sa, hsa, hsilent, hids⟩

end CipherPost.Parsing
