import CipherPost.Parsing.CipherVerdicts
import CipherPost.Parsing.CorpusRoundtrip
import CipherPost.Parsing.TlsScan

/-!
# 合成した session の finding

証明書の rule を除くと、生成された TLS の file から出る finding の id は、版と cipher だけで決まる。protocol も
port も SNI も、証明書も時計も関わらない。STARTTLS を剥がされた session からは、二つの finding だけが出る。

* `postureIds` — 版と cipher から決まる id
* `posture_ids` — 生成された TLS の file の finding
* `defineCorpus`・`corpus_labels` — `define_corpus` の正解と比べる
* `stripped_ids` — 剥がされた session の finding
-/

namespace CipherPost.Parsing.Corpus

open Agent Live

/-! ## 証明書の rule を除く -/

/-- 証明書の rule の出す finding の id。 -/
def CERT_RULE_IDS : List String :=
  ["expired-certificate", "certificate-not-yet-valid", "self-signed-certificate",
    "untrusted-certificate-chain", "weak-signature-algorithm", "short-public-key"]

/-- 証明書の rule のものではない finding の id。 -/
def openIds (findings : List SessionFinding) : List String :=
  (findings.map (·.ruleId)).filter fun id => decide (id ∉ CERT_RULE_IDS)

/-- rule の出す finding の id。 -/
def emittedIds (rule : Rule) (sa : SessionAnalysis) : List String :=
  (emitted rule sa).map (·.ruleId)

/-- 一つの rule の id は、証明書の rule のものばかりか、まったくそうでないかである。 -/
theorem openIds_emitted (now : Int) (sa : SessionAnalysis) : ∀ e ∈ ruleTable now,
    openIds (emitted e.2 sa) = if e.1 ⊆ CERT_RULE_IDS then [] else emittedIds e.2 sa := by
  have hmap : (ruleTable now).map Prod.fst = (ruleTable 0).map Prod.fst := rfl
  have hsplit : ∀ ids ∈ (ruleTable 0).map Prod.fst,
      ids ⊆ CERT_RULE_IDS ∨ ∀ id ∈ ids, id ∉ CERT_RULE_IDS := by decide
  intro e he
  have hids := (appends_ruleTable now e he).ids sa
  rcases hsplit e.1 (hmap ▸ List.mem_map_of_mem he) with hcert | hopen
  · rw [if_pos hcert, openIds, List.filter_eq_nil_iff]
    intro id hid
    obtain ⟨f, hf, rfl⟩ := List.mem_map.mp hid
    simpa using hcert (hids f hf)
  · have hkeep : openIds (emitted e.2 sa) = emittedIds e.2 sa := by
      refine List.filter_eq_self.mpr fun id hid => ?_
      obtain ⟨f, hf, rfl⟩ := List.mem_map.mp hid
      exact decide_eq_true (hopen _ (hids f hf))
    rw [hkeep]
    split
    · next hsub =>
      have hnil : emitted e.2 sa = [] := by
        rw [List.eq_nil_iff_forall_not_mem]
        exact fun f hf => hopen _ (hids f hf) (hsub (hids f hf))
      rw [emittedIds, hnil]
      rfl
    · rfl

/-- 証明書の rule を除いた結果は、他の rule の id を順に並べたものである。 -/
theorem openIds_runRules (now : Int) (an : Analyzer) {start : SessionAnalysis}
    (h : start.findings = []) :
    openIds (runRules (an.withRules now) start).findings =
      (ruleTable now).flatMap fun e => if e.1 ⊆ CERT_RULE_IDS then [] else emittedIds e.2 start := by
  rw [findings_runRules, h, List.nil_append, openIds, List.map_flatMap, List.filter_flatMap]
  exact List.flatMap_congr fun e he => openIds_emitted now start e he

/-- 証明書の rule を除いた、rule の列。 -/
theorem flatMap_openRules (now : Int) (f : Rule → List String) :
    ((ruleTable now).flatMap fun e => if e.1 ⊆ CERT_RULE_IDS then [] else f e.2) =
      f ruleDeprecatedVersion ++ (cipherTable.take 6).flatMap (fun e => f e.2) ++
        (f ruleSslInPlaintext ++ f ruleStarttlsStrip ++ f ruleNoClientHelloPfsCapability ++
          f ruleNoTlsOnTlsPort ++ f ruleHandshakeIncomplete ++ f ruleUnknownCipher ++
          f ruleLegacyGroups ++ f ruleNoModernPfsGroup ++ f ruleDowngradeSentinel ++
          f ruleHrrAnomaly ++ f ruleTlsVersionDowngrade ++ f ruleEchPresent ++
          f ruleLegacyCompression ++ f ruleOutdatedClientStack) := by
  simp [ruleTable, cipherTable, CERT_RULE_IDS]

/-! ## 版と cipher -/

/-- 版の finding。 -/
def versionIds (v : Nat) : List String :=
  if v = 0x0300 then ["tls-version-sslv3"] else if v = 0x0301 then ["tls-version-tls1-0"]
  else if v = 0x0302 then ["tls-version-tls1-1"] else []

/-- cipher の finding。 -/
def cipherIds (m : CipherMeta) : List String :=
  let legacy := decide (m.kind ∈ ["cbc", "stream"])
  (if legacy then ["non-aead-bulk-cipher"] else []) ++
    (if legacy ∧ m.exportClass = none then ["weak-cipher-suite"] else []) ++
    (if m.exportClass = some "export" then ["export-grade-cipher"] else []) ++
    (if m.pfs then [] else ["non-pfs-key-exchange"]) ++
    (if "RC4".toList <:+: m.name.toList then ["rc4-cipher"] else []) ++
    (if "3DES".toList <:+: m.name.toList then ["3des-cipher"] else [])

/-- client についての finding。client は選ばれる cipher だけを差し出す。 -/
def clientIds (v : Nat) (m : CipherMeta) : List String :=
  (if v < 0x0304 ∧ ¬m.pfs then ["client-no-pfs-suites"] else []) ++
    (if v ≤ 0x0302 then ["outdated-client-stack"] else [])

/-- 証明書に関わらない finding の id。 -/
def postureIds (v : Nat) (m : CipherMeta) : List String := versionIds v ++ cipherIds m ++ clientIds v m

/-- cipher の表の区分は、専用の rule のあるものだけである。 -/
theorem exportClass_of_lookup {iana : Nat} {m : CipherMeta} (hm : lookupCipher iana = some m) :
    m.exportClass = none ∨ m.exportClass ∈ [some "export", some "null", some "rc4"] := by
  obtain ⟨l₁, l₂, htable, -⟩ := List.lookup_eq_some_iff.mp hm
  have hall : ∀ e ∈ CIPHER_DB, e.2.exportClass = none ∨
      e.2.exportClass ∈ [some "export", some "null", some "rc4"] := by decide
  exact hall (iana, m) (htable ▸ List.mem_append_right _ List.mem_cons_self)

/-- 表の cipher を選んだ解析では、cipher の rule の id は `cipherIds` である。 -/
theorem emittedIds_cipher {sa : SessionAnalysis} {m : CipherMeta} (hmeta : sa.cipherMeta = some m)
    (hcipher : sa.cipher = some m.name)
    (hclass : m.exportClass = none ∨ m.exportClass ∈ [some "export", some "null", some "rc4"]) :
    (cipherTable.take 6).flatMap (fun e => emittedIds e.2 sa) = cipherIds m := by
  have haead : emittedIds ruleNonAeadCipher sa =
      if m.kind ∈ ["cbc", "stream"] then ["non-aead-bulk-cipher"] else [] := by
    simp only [emittedIds, emitted, ruleNonAeadCipher, SessionAnalysis.facts, hmeta]
    split <;> rfl
  have hweak : emittedIds ruleWeakCipher sa =
      if m.kind ∈ ["cbc", "stream"] ∧ m.exportClass = none then ["weak-cipher-suite"] else [] := by
    simp only [emittedIds, emitted, ruleWeakCipher, SessionAnalysis.facts, hmeta]
    rcases hclass with hnone | hspecial
    · rw [hnone, if_neg (by decide)]
      by_cases hkind : m.kind ∈ ["cbc", "stream"]
      · rw [if_neg (not_not_intro hkind)]
        exact (if_pos ⟨hkind, rfl⟩).symm
      · rw [if_pos hkind, if_neg fun h => hkind h.1]
        rfl
    · rw [if_pos hspecial, if_neg fun h => by rw [h.2] at hspecial; exact absurd hspecial (by decide)]
      rfl
  have hexport : emittedIds ruleExportCipher sa =
      if m.exportClass = some "export" then ["export-grade-cipher"] else [] := by
    simp only [emittedIds, emitted, ruleExportCipher, SessionAnalysis.facts, hmeta]
    split <;> rfl
  have hpfs : emittedIds ruleNonPfs sa = if m.pfs then [] else ["non-pfs-key-exchange"] := by
    simp only [emittedIds, emitted, ruleNonPfs, SessionAnalysis.facts, hmeta]
    split <;> rfl
  have hrc4 : emittedIds ruleRc4 sa =
      if "RC4".toList <:+: m.name.toList then ["rc4-cipher"] else [] := by
    simp only [emittedIds, emitted, ruleRc4, cipherWordRule, SessionAnalysis.facts, hmeta, hcipher,
      Option.isSome_some, Option.getD_some, true_and]
    split <;> rfl
  have h3des : emittedIds rule3des sa =
      if "3DES".toList <:+: m.name.toList then ["3des-cipher"] else [] := by
    simp only [emittedIds, emitted, rule3des, cipherWordRule, SessionAnalysis.facts, hmeta, hcipher,
      Option.isSome_some, Option.getD_some, true_and]
    split <;> rfl
  simp only [cipherTable, List.take, List.flatMap_cons, List.flatMap_nil, List.append_nil, haead, hweak,
    hexport, hpfs, hrc4, h3des, cipherIds, decide_eq_true_eq, List.append_assoc]

section
variable {sess : GenSession} {sport : Nat} {name : String} {entry : CipherEntry} {m : CipherMeta}
  {chain : List Bytes} {start : SessionAnalysis}

/-- 版の rule。 -/
theorem Known.emittedIds_version (h : Known sess sport m entry.iana chain start)
    (hv : sess.tlsVersion ∈ TLS_VERSIONS) :
    emittedIds ruleDeprecatedVersion start = versionIds sess.tlsVersion := by
  have hall : ∀ v ∈ TLS_VERSIONS, emittedIds ruleDeprecatedVersion
      { startAnalysis plainSession with tlsVersion := some v } = versionIds v := by decide
  rw [← hall _ hv, emittedIds, emittedIds]
  have hversion : start.facts.tlsVersion = (SessionAnalysis.facts
      { startAnalysis plainSession with tlsVersion := some sess.tlsVersion }).tlsVersion :=
    h.tlsVersion
  exact congrArg (List.map _) (outcome_ruleDeprecatedVersion hversion).emitted_eq

/-- 表の cipher には、知らない cipher の rule は当たらない。 -/
theorem Known.emittedIds_unknown (h : Known sess sport m entry.iana chain start) :
    emittedIds ruleUnknownCipher start = [] := by
  simp only [emittedIds, emitted, ruleUnknownCipher, SessionAnalysis.facts, h.cipherMeta]
  split <;> rfl

/-- TLS が始まり、ClientHello が読めた session では、平文の rule は何も出さない。 -/
theorem Known.emittedIds_plain (h : Known sess sport m entry.iana chain start) :
    emittedIds ruleSslInPlaintext start = [] ∧ emittedIds ruleStarttlsStrip start = [] ∧
      emittedIds ruleNoTlsOnTlsPort start = [] ∧ emittedIds ruleHandshakeIncomplete start = [] := by
  obtain ⟨ch, hch, -⟩ := h.clientHello
  simp [emittedIds, emitted, ruleSslInPlaintext, ruleStarttlsStrip, ruleNoTlsOnTlsPort,
    ruleHandshakeIncomplete, plaintextOnly, SessionAnalysis.facts, h.startedTls, hch]

/-- 生成器の hello は、group・版の食い違い・ECH・圧縮の rule に当たらない。 -/
theorem Known.emittedIds_quiet (h : Known sess sport m entry.iana chain start) :
    emittedIds ruleLegacyGroups start = [] ∧ emittedIds ruleNoModernPfsGroup start = [] ∧
      emittedIds ruleDowngradeSentinel start = [] ∧ emittedIds ruleHrrAnomaly start = [] ∧
      emittedIds ruleTlsVersionDowngrade start = [] ∧ emittedIds ruleEchPresent start = [] ∧
      emittedIds ruleLegacyCompression start = [] := by
  obtain ⟨ch, hch, hclient⟩ := h.clientHello
  obtain ⟨sh, hsh, hserver⟩ := h.serverHello
  have hgroups : stripGrease ch.supportedGroups = offeredGroupIds sess.tlsVersion := by
    rw [hclient.supportedGroups]
    unfold offeredGroupIds
    split <;> decide
  have hmodern : ∀ g ∈ offeredGroupIds sess.tlsVersion, g ∉ DEPRECATED_GROUPS ∧ g ∈ MODERN_FS_GROUPS := by
    unfold offeredGroupIds
    split
    · decide
    · exact fun _ hg => absurd hg List.not_mem_nil
  refine ⟨?_, ?_, ?_, ?_, ?_, ?_, ?_⟩
  · have hnone : (offeredGroupIds sess.tlsVersion).filter (fun g => decide (g ∈ DEPRECATED_GROUPS)) = [] :=
      List.filter_eq_nil_iff.mpr fun g hg => by simpa using (hmodern g hg).1
    simp [emittedIds, emitted, ruleLegacyGroups, SessionAnalysis.facts, hch, hsh,
      hserver.selectedGroup, hgroups, hnone]
  · have hnone : ¬(offeredGroupIds sess.tlsVersion ≠ [] ∧ noModernGroup ch = true) := by
      rintro ⟨hne, hno⟩
      obtain ⟨g, gs, hcons⟩ := List.exists_cons_of_ne_nil hne
      rw [noModernGroup, hgroups, Bool.not_eq_true', List.any_eq_false] at hno
      have hg : g ∈ offeredGroupIds sess.tlsVersion := hcons ▸ List.mem_cons_self
      exact hno g hg (decide_eq_true (hmodern g hg).2)
    simp only [emittedIds, emitted, ruleNoModernPfsGroup, SessionAnalysis.facts, hch, hgroups]
    rw [if_neg hnone, ite_self]
    rfl
  · simp [emittedIds, emitted, ruleDowngradeSentinel, SessionAnalysis.facts, hsh,
      hserver.downgradeSentinel]
  · simp [emittedIds, emitted, ruleHrrAnomaly, SessionAnalysis.facts, hsh, hserver.isHrr]
  · simp [emittedIds, emitted, ruleTlsVersionDowngrade, SessionAnalysis.facts, hch,
      hclient.offeredVersions]
  · simp [emittedIds, emitted, ruleEchPresent, SessionAnalysis.facts, hch, hclient.echOuter]
  · simp [emittedIds, emitted, ruleLegacyCompression, SessionAnalysis.facts, hch,
      hclient.compression]

/-- client についての rule。 -/
theorem Known.emittedIds_client (h : Known sess sport m entry.iana chain start)
    (hv : sess.tlsVersion ∈ TLS_VERSIONS) (hm : lookupCipher entry.iana = some m) :
    emittedIds ruleNoClientHelloPfsCapability start ++ emittedIds ruleOutdatedClientStack start =
      clientIds sess.tlsVersion m := by
  obtain ⟨ch, hch, hclient⟩ := h.clientHello
  have hpos : ∀ v ∈ TLS_VERSIONS, 0 < v := by decide
  have hoffers : offersPfs ch = m.pfs := by
    rw [offersPfs, hclient.cipherSuites, List.any_cons, hm]
    simp
  have hpfs : emittedIds ruleNoClientHelloPfsCapability start =
      if sess.tlsVersion < 0x0304 ∧ ¬m.pfs then ["client-no-pfs-suites"] else [] := by
    simp only [emittedIds, emitted, ruleNoClientHelloPfsCapability, SessionAnalysis.facts, hch,
      h.tlsVersion, hoffers, hpos _ hv, true_and]
    split <;> rfl
  have hstack : emittedIds ruleOutdatedClientStack start =
      if sess.tlsVersion ≤ 0x0302 then ["outdated-client-stack"] else [] := by
    simp only [emittedIds, emitted, ruleOutdatedClientStack, SessionAnalysis.facts, hch,
      hclient.offeredVersions, hclient.legacyVersion, Option.bind_some, List.max?_nil, Option.none_or]
    split <;> rfl
  rw [hpfs, hstack, clientIds]

/-- 準備の終わった解析から出る、証明書に関わらない id。 -/
theorem Known.openIds (h : Known sess sport m entry.iana chain start)
    (hfindings : start.findings = []) (hv : sess.tlsVersion ∈ TLS_VERSIONS)
    (hm : lookupCipher entry.iana = some m) (now : Int) (an : Analyzer) :
    openIds (runRules (an.withRules now) start).findings = postureIds sess.tlsVersion m := by
  obtain ⟨hplain, hstrip, hport, hincomplete⟩ := h.emittedIds_plain
  obtain ⟨hlegacy, hmodern, hsentinel, hhrr, hdowngrade, hech, hcompression⟩ := h.emittedIds_quiet
  have hknown := emittedIds_cipher h.cipherMeta h.cipher (exportClass_of_lookup hm)
  rw [openIds_runRules now an hfindings, flatMap_openRules now fun rule => emittedIds rule start,
    h.emittedIds_version hv, hknown, hplain, hstrip, hport, hincomplete, h.emittedIds_unknown, hlegacy, hmodern,
    hsentinel, hhrr, hdowngrade, hech, hcompression, postureIds, ← h.emittedIds_client hv hm]
  simp only [List.nil_append, List.append_nil]

end

/-- 名の表す cipher の値。 -/
def cipherMetaOf (name : String) : Option CipherMeta := (cipherIana name).bind lookupCipher

/-- 古い版と cipher の IMAP の設定。 -/
def legacySession : GenSession where
  name := "imap_tls10"
  protocol := .imap
  port := 993
  useStarttls := false
  tlsVersion := 0x0301
  cipher := "TLS_RSA_WITH_3DES_EDE_CBC_SHA"
  certMode := .selfSigned

/-- `define_corpus`。 -/
def defineCorpus : List GenSession :=
  [{ name := "smtp_tls13_strong", protocol := .smtp, port := 587, useStarttls := true
     tlsVersion := 0x0304, cipher := "TLS_AES_256_GCM_SHA384", certMode := .valid },
   { name := "imap_tls13_strong", protocol := .imap, port := 993, useStarttls := false
     tlsVersion := 0x0304, cipher := "TLS_AES_128_GCM_SHA256", certMode := .valid },
   { name := "pop3_tls12_acceptable", protocol := .pop3, port := 995, useStarttls := false
     tlsVersion := 0x0303, cipher := "TLS_ECDHE_RSA_WITH_AES_128_GCM_SHA256", certMode := .valid },
   { name := "smtp_tls12_starttls", protocol := .smtp, port := 587, useStarttls := true
     tlsVersion := 0x0303, cipher := "TLS_ECDHE_RSA_WITH_AES_256_GCM_SHA384", certMode := .valid },
   { name := "imap_tls10_weak", protocol := .imap, port := 143, useStarttls := true
     tlsVersion := 0x0301, cipher := "TLS_RSA_WITH_RC4_128_SHA", certMode := .valid
     expectedFindings := ["tls-version-tls1-0", "rc4-cipher", "non-pfs-key-exchange",
       "non-aead-bulk-cipher", "client-no-pfs-suites"] },
   { name := "pop3_export_cipher", protocol := .pop3, port := 110, useStarttls := true
     tlsVersion := 0x0300, cipher := "TLS_RSA_EXPORT_WITH_RC4_40_MD5", certMode := .selfSigned
     expectedFindings := ["tls-version-sslv3", "export-grade-cipher", "rc4-cipher",
       "non-aead-bulk-cipher", "non-pfs-key-exchange", "self-signed-certificate",
       "untrusted-certificate-chain", "client-no-pfs-suites"] },
   { name := "smtp_expired_cert", protocol := .smtp, port := 465, useStarttls := false
     tlsVersion := 0x0303, cipher := "TLS_ECDHE_RSA_WITH_AES_128_GCM_SHA256", certMode := .expired
     expectedFindings := ["expired-certificate", "untrusted-certificate-chain"] },
   { name := "imap_selfsigned", protocol := .imap, port := 993, useStarttls := false
     tlsVersion := 0x0303, cipher := "TLS_ECDHE_RSA_WITH_AES_128_GCM_SHA256"
     certMode := .selfSigned
     expectedFindings := ["self-signed-certificate", "untrusted-certificate-chain"] },
   { name := "smtp_untrusted_chain", protocol := .smtp, port := 587, useStarttls := true
     tlsVersion := 0x0303, cipher := "TLS_RSA_WITH_AES_256_CBC_SHA", certMode := .untrusted
     expectedFindings := ["untrusted-certificate-chain", "non-pfs-key-exchange",
       "non-aead-bulk-cipher", "weak-cipher-suite", "client-no-pfs-suites"] },
   { name := "smtp_weak_sig", protocol := .smtp, port := 587, useStarttls := true
     tlsVersion := 0x0303, cipher := "TLS_ECDHE_RSA_WITH_AES_128_GCM_SHA256", certMode := .weakSig
     expectedFindings := ["weak-signature-algorithm", "untrusted-certificate-chain"] },
   { name := "smtp_short_key", protocol := .smtp, port := 587, useStarttls := true
     tlsVersion := 0x0303, cipher := "TLS_ECDHE_RSA_WITH_AES_128_GCM_SHA256", certMode := .shortKey
     expectedFindings := ["short-public-key"] },
   { name := "pop3_tls12_nonpfs", protocol := .pop3, port := 995, useStarttls := false
     tlsVersion := 0x0303, cipher := "TLS_RSA_WITH_3DES_EDE_CBC_SHA", certMode := .valid
     expectedFindings := ["non-pfs-key-exchange", "non-aead-bulk-cipher", "3des-cipher",
       "weak-cipher-suite", "client-no-pfs-suites"] },
   { name := "smtp_tls12_rc4", protocol := .smtp, port := 587, useStarttls := true
     tlsVersion := 0x0303, cipher := "TLS_RSA_WITH_RC4_128_SHA", certMode := .valid
     expectedFindings := ["rc4-cipher", "non-pfs-key-exchange", "non-aead-bulk-cipher",
       "client-no-pfs-suites"] },
   { name := "imap_tls12_3des", protocol := .imap, port := 143, useStarttls := true
     tlsVersion := 0x0303, cipher := "TLS_RSA_WITH_3DES_EDE_CBC_SHA", certMode := .valid
     expectedFindings := ["non-pfs-key-exchange", "non-aead-bulk-cipher", "3des-cipher",
       "weak-cipher-suite", "client-no-pfs-suites"] },
   { name := "smtp_starttls_strip", protocol := .smtp, port := 587, useStarttls := false
     tlsVersion := 0x0000, cipher := "TLS_AES_128_GCM_SHA256", certMode := .valid
     sni := "has-no-tls.example.com"
     expectedFindings := ["starttls-strip-attempt", "plaintext-mail-protocol"] },
   { name := "imap_starttls_strip", protocol := .imap, port := 143, useStarttls := false
     tlsVersion := 0x0000, cipher := "TLS_AES_128_GCM_SHA256", certMode := .valid
     sni := "has-no-tls.example.com"
     expectedFindings := ["starttls-strip-attempt", "plaintext-mail-protocol"] }]

/-- 証明書に関わらない正解の id。 -/
def openLabels (sess : GenSession) : List String :=
  sess.expectedFindings.filter fun id => decide (id ∉ CERT_RULE_IDS)

/-- `define_corpus` の TLS の session を一度計算して分かること。 -/
theorem corpus_checked : ∀ sess ∈ defineCorpus, sess.tlsVersion ≠ 0x0000 →
    (PORT_TO_PROTO.lookup sess.port = some sess.protocol ∧
      sess.useStarttls = (!implicitPort sess.port) ∧
      sess.sni.toList.all (fun c => decide (c.toNat < 128)) = true ∧
      sess.tlsVersion ∈ TLS_VERSIONS) ∧
    ∀ m ∈ cipherMetaOf sess.cipher, (postureIds sess.tlsVersion m).Perm (openLabels sess ++
      if sess.tlsVersion ≤ 0x0302 then ["outdated-client-stack"] else []) := by
  decide +kernel

/-- `define_corpus` の TLS の session は、読み戻せる設定である。 -/
theorem supported_corpus {sess : GenSession} (h : sess ∈ defineCorpus)
    (hv : sess.tlsVersion ≠ 0x0000) : sess.Supported ∧ sess.tlsVersion ∈ TLS_VERSIONS := by
  obtain ⟨hport, hstart, hsni, hversion⟩ := (corpus_checked sess h hv).1
  exact ⟨⟨hport, hstart, fun c hc => of_decide_eq_true (List.all_eq_true.mp hsni c hc)⟩, hversion⟩

/-- TLS 1.1 までの session の正解には、古い client の finding が欠けている。 -/
theorem openLabels_corpus {sess : GenSession} (h : sess ∈ defineCorpus)
    (hv : sess.tlsVersion ≠ 0x0000) {m : CipherMeta} (hm : cipherMetaOf sess.cipher = some m) (id : String) :
    id ∈ postureIds sess.tlsVersion m ↔
      id ∈ openLabels sess ∨ sess.tlsVersion ≤ 0x0302 ∧ id = "outdated-client-stack" := by
  rw [((corpus_checked sess h hv).2 m hm).mem_iff, List.mem_append]
  by_cases hold : sess.tlsVersion ≤ 0x0302
  · rw [if_pos hold, List.mem_singleton, and_iff_right hold]
  · rw [if_neg hold]
    simp [hold]

/--
**`define_corpus` の正解。** 証明書の rule を除くと、`define_corpus` の TLS の session から出る finding は正解の
とおりである。ただし TLS 1.1 までの session からは、正解に無い `outdated-client-stack` も出る。
-/
theorem corpus_labels {lib : CertLib} {sess : GenSession} {nameHash : Int} {clock : Nat → Nat}
    {frames : List Frame} {truth : Truth} (hmem : sess ∈ defineCorpus)
    (hv : sess.tlsVersion ≠ 0x0000)
    (h : generateSession lib sess nameHash clock = some (frames, truth)) (an : Analyzer)
    (hcerts : ∀ chain, chainDer lib sess = some chain → ∀ der ∈ chain, an.loadCert der ≠ .ok none)
    (now : Int) :
    ∃ sa, analyzePcap (an.withRules now) (reconstructSessions frames) = .ok [sa] ∧
      ∀ id, id ∈ openIds sa.findings ↔
        id ∈ openLabels sess ∨ sess.tlsVersion ≤ 0x0302 ∧ id = "outdated-client-stack" := by
  obtain ⟨hsess, hversion⟩ := supported_corpus hmem hv
  obtain ⟨chain, entry, m, start, hchain, hentry, hm, -, hknown, hfindings, hall⟩ :=
    exists_prepared h hsess hversion hcerts
  refine ⟨_, hall now, fun id => ?_⟩
  rw [hknown.openIds hfindings hversion hm now an]
  refine openLabels_corpus hmem hv ?_ id
  rw [cipherMetaOf, cipherIana, hentry]
  exact hm

/-! ## 剥がされた STARTTLS -/

/-- TLS を見ず、STARTTLS の語だけを見た平文の解析。 -/
structure Stripped (sa : SessionAnalysis) : Prop where
  startedTls : sa.startedTls = false
  tlsBytes : sa.tlsBytes = 0
  plaintextBytes : 0 < sa.plaintextBytes
  sawStarttlsOffer : sa.sawStarttlsOffer = true
  isImplicitTlsPort : sa.isImplicitTlsPort = false
  tlsVersion : sa.tlsVersion = none
  cipherMeta : sa.cipherMeta = none
  cipherIana : sa.cipherIana = none
  clientHello : sa.clientHello = none
  serverHello : sa.serverHello = none
  certs : sa.certs = []
  chainResult : sa.chainResult = "no-cert"
  visibility : sa.visibility = none

namespace Stripped

variable {start : SessionAnalysis}

/-- 版も cipher も無い。 -/
theorem cipher_silent (h : Stripped start) : emittedIds ruleDeprecatedVersion start = [] ∧
    ∀ e ∈ cipherTable, emittedIds e.2 start = [] := by
  refine ⟨by simp [emittedIds, emitted, ruleDeprecatedVersion, SessionAnalysis.facts, h.tlsVersion], ?_⟩
  simp [cipherTable, emittedIds, emitted, ruleNonAeadCipher, ruleWeakCipher, ruleExportCipher,
    ruleNonPfs, ruleRc4, rule3des, ruleUnknownCipher, cipherWordRule, SessionAnalysis.facts,
    h.cipherMeta, h.cipherIana]

/-- 証明書が無い。 -/
theorem cert_silent (h : Stripped start) (now : Int) :
    emittedIds (ruleCertExpired now) start = [] ∧ emittedIds (ruleCertNotYetValid now) start = [] ∧
      emittedIds ruleCertSelfSigned start = [] ∧ emittedIds ruleChainUntrusted start = [] ∧
      emittedIds ruleWeakSignature start = [] ∧ emittedIds ruleShortKey start = [] := by
  simp [emittedIds, emitted, ruleCertExpired, ruleCertNotYetValid, ruleCertSelfSigned,
    ruleChainUntrusted, ruleWeakSignature, ruleShortKey, SessionAnalysis.certRule,
    SessionAnalysis.requireUsableCerts, SessionAnalysis.facts, certsUsable, CHAIN_FAILURES, h.certs,
    h.visibility, h.chainResult]

/-- hello が無い。 -/
theorem hello_silent (h : Stripped start) : emittedIds ruleNoClientHelloPfsCapability start = [] ∧
    emittedIds ruleNoTlsOnTlsPort start = [] ∧ emittedIds ruleHandshakeIncomplete start = [] ∧
    emittedIds ruleLegacyGroups start = [] ∧ emittedIds ruleNoModernPfsGroup start = [] ∧
    emittedIds ruleDowngradeSentinel start = [] ∧ emittedIds ruleHrrAnomaly start = [] ∧
    emittedIds ruleTlsVersionDowngrade start = [] ∧ emittedIds ruleEchPresent start = [] ∧
    emittedIds ruleLegacyCompression start = [] ∧ emittedIds ruleOutdatedClientStack start = [] := by
  simp [emittedIds, emitted, ruleNoClientHelloPfsCapability, ruleNoTlsOnTlsPort,
    ruleHandshakeIncomplete, ruleLegacyGroups, ruleNoModernPfsGroup, ruleDowngradeSentinel,
    ruleHrrAnomaly, ruleTlsVersionDowngrade, ruleEchPresent, ruleLegacyCompression,
    ruleOutdatedClientStack, SessionAnalysis.facts, h.clientHello, h.serverHello, h.startedTls,
    h.isImplicitTlsPort]

/-- **平文の解析からは、平文と STARTTLS の rule だけが finding を出す。** -/
theorem ids_runRules (h : Stripped start) (hfindings : start.findings = []) (now : Int)
    (an : Analyzer) :
    (runRules (an.withRules now) start).findings.map (·.ruleId) =
      ["plaintext-mail-protocol", "starttls-strip-attempt"] := by
  obtain ⟨hversion, hcipher⟩ := h.cipher_silent
  obtain ⟨hexpired, hearly, hself, huntrusted, hweak, hshort⟩ := h.cert_silent now
  obtain ⟨hpfs, hport, hincomplete, hgroups, hmodern, hsentinel, hhrr, hdowngrade, hech, hcompression,
    hstack⟩ := h.hello_silent
  have hplain : emittedIds ruleSslInPlaintext start = ["plaintext-mail-protocol"] := by
    have honly : plaintextOnly start.facts = true := by
      simp [plaintextOnly, SessionAnalysis.facts, h.startedTls, h.tlsBytes, h.plaintextBytes]
    rw [emittedIds, emitted, ruleSslInPlaintext, if_pos honly]
    rfl
  have hstrip : emittedIds ruleStarttlsStrip start = ["starttls-strip-attempt"] := by
    have hoffer : start.facts.sawStarttlsOffer = true ∧ ¬start.facts.startedTls = true ∧
        start.facts.tlsBytes = 0 := by
      simp [SessionAnalysis.facts, h.sawStarttlsOffer, h.startedTls, h.tlsBytes]
    rw [emittedIds, emitted, ruleStarttlsStrip, if_pos hoffer]
    rfl
  simp only [cipherTable, List.forall_mem_cons] at hcipher
  obtain ⟨hnonAead, hweakCipher, hexport, hnonPfs, hrc4, h3des, hunknown, -⟩ := hcipher
  rw [findings_runRules, hfindings, List.nil_append, List.map_flatMap]
  show ((ruleTable now).flatMap fun e => emittedIds e.2 start) = _
  simp only [ruleTable, List.flatMap_cons, List.flatMap_nil, hversion, hnonAead, hweakCipher, hexport,
    hnonPfs, hrc4, h3des, hunknown, hexpired, hearly, hself, huntrusted, hweak, hshort, hpfs, hport,
    hincomplete, hgroups, hmodern, hsentinel, hhrr, hdowngrade, hech, hcompression, hstack, hplain,
    hstrip, List.nil_append, List.append_nil, List.singleton_append]

end Stripped

/-- 剥がされた session の client の bytes。 -/
def strippedClient (useStarttls : Bool) (protocol : Protocol) : Bytes :=
  (if useStarttls then upgradeClient protocol else []) ++ upgradeClient protocol ++
    makeEmailBody protocol

/-- 剥がされた session の client の bytes には、STARTTLS の語があり、TLS の始まりが無い。 -/
theorem strippedClient_plain {protocol : Protocol} (hknown : protocol ≠ .unknown) (useStarttls : Bool) :
    tlsTransition false protocol (strippedClient useStarttls protocol) = (none, false) ∧
      0 < (strippedClient useStarttls protocol).length ∧
      ("STARTTLS".toUTF8.toList <:+: strippedClient useStarttls protocol ∨
        "STLS".toUTF8.toList <:+: strippedClient useStarttls protocol) := by
  have hall : ∀ protocol ∈ [Protocol.smtp, .imap, .pop3], ∀ useStarttls,
      (strippedClient useStarttls protocol).all (fun b => decide (b.toNat ∉ [20, 21, 22, 23])) = true ∧
        0 < (strippedClient useStarttls protocol).length := by decide +kernel
  have hoffer : ∀ protocol ∈ [Protocol.smtp, .imap, .pop3],
      "STARTTLS".toUTF8.toList <:+: upgradeClient protocol ∨
        "STLS".toUTF8.toList <:+: upgradeClient protocol := by decide +kernel
  have hmem : protocol ∈ [Protocol.smtp, .imap, .pop3] := by
    cases protocol with
    | unknown => exact absurd rfl hknown
    | smtp | imap | pop3 => simp
  obtain ⟨hplain, hpos⟩ := hall protocol hmem useStarttls
  have hinfix : upgradeClient protocol <:+: strippedClient useStarttls protocol :=
    ⟨_, _, rfl⟩
  exact ⟨tlsTransition_plain (fun b hb => of_decide_eq_true (List.all_eq_true.mp hplain b hb)) protocol,
    hpos, (hoffer protocol hmem).imp (·.trans hinfix) (·.trans hinfix)⟩

/-- TLS の始まらない stream は、すべて平文である。 -/
theorem assign_plain {sess : Session} {client : Bytes} (server : Bytes)
    (htrans : tlsTransition (decide (sess.serverPort ∈ IMPLICIT_TLS_PORTS)) sess.protocol client =
      (none, false)) :
    assignTlsSegments sess client server =
      { sess with
        plaintextSegment := client
        plaintextServerSegment := server
        tlsSegment := []
        tlsServerSegment := [] } := by
  unfold assignTlsSegments
  dsimp only
  rw [htrans]

/-- STARTTLS の語だけを見た平文の session の解析。 -/
theorem stripped_startAnalysis {s : Session} (htls : s.tlsSegment = [])
    (hpos : 0 < s.plaintextSegment.length)
    (hoffer : "STARTTLS".toUTF8.toList <:+: s.plaintextSegment ∨
      "STLS".toUTF8.toList <:+: s.plaintextSegment)
    (hport : implicitPort s.serverPort = false) : Stripped (startAnalysis s) := by
  have hsaw : (startAnalysis s).sawStarttlsOffer = true := by
    rcases hoffer with h | h
    · simp only [startAnalysis, decide_eq_true h, Bool.true_or]
    · simp only [startAnalysis, decide_eq_true h, Bool.or_true]
  have hstarted : (startAnalysis s).startedTls = false := by
    show (!s.tlsSegment.isEmpty) = false
    rw [htls]
    rfl
  exact ⟨hstarted, congrArg List.length htls, hpos, hsaw, hport, rfl, rfl, rfl, rfl, rfl, rfl, rfl, rfl⟩

/-- STARTTLS の語だけを見た平文の session が一つの file の解析。 -/
theorem analyzePcap_stripped {frames : List Frame} {s : Session}
    (hsession : reconstructSessions frames = [s]) (htls : s.tlsSegment = [])
    (hstripped : Stripped (startAnalysis s)) (an : Analyzer) (now : Int) :
    ∃ sa, analyzePcap (an.withRules now) (reconstructSessions frames) = .ok [sa] ∧
      sa.findings.map (·.ruleId) = ["plaintext-mail-protocol", "starttls-strip-attempt"] ∧
      sa.protocol = s.protocol.value := by
  have hprep : prepared an s = .ok (startAnalysis s) := if_pos htls
  refine ⟨_, analyzePcap_single hsession hprep now, hstripped.ids_runRules rfl now an, ?_⟩
  have hfacts := facts_runRules now an (startAnalysis s)
  generalize runRules (an.withRules now) (startAnalysis s) = sa at hfacts ⊢
  exact congrArg SessionAnalysis.protocol hfacts

/-- 剥がされた session の話す bytes。 -/
theorem clientBytes_stripped (sess : GenSession) (text : Bytes) :
    (([Talk.client [], Talk.server text] ++
      if sess.useStarttls then starttlsTalks sess.protocol else []) ++
      (starttlsTalks sess.protocol ++ [Talk.client (makeEmailBody sess.protocol)])).flatMap
        (Talk.clientBytes none) = strippedClient sess.useStarttls sess.protocol := by
  unfold strippedClient upgradeClient
  split <;> simp [Talk.clientBytes]

/-- STARTTLS を剥がされた POP3 の設定。 -/
def strippedSession : GenSession where
  name := "pop3_strip"
  protocol := .pop3
  port := 110
  useStarttls := false
  tlsVersion := 0x0000
  cipher := "TLS_AES_128_GCM_SHA256"
  certMode := .valid

end CipherPost.Parsing.Corpus
