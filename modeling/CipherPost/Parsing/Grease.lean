import CipherPost.Parsing.RunRules

/-!
# GREASE

ClientHello に GREASE の値を差し込むと、rule に渡る解析がどう変わるか。group の rule は GREASE を
除いてから読み、cipher の rule は表に無い値を無視するので、どちらも差し込みに気付かない。

* `Inserted`・`Greased` — 列への差し込みと、ClientHello への差し込み
* `bestOffer` — 解析が client の最良の版と見なす値
* `Twins` — 差し込む前と後の、rule に渡る解析
* `prepared_twins` — 差し込みで変わるのは ClientHello と版だけである
* `Twins.emitted_blind` — 版を読まない rule の結果は変わらない
-/

namespace CipherPost.Parsing

/-! ## 差し込み -/

/-- GREASE の値。`0x0A0A`、`0x1A1A` から `0xFAFA` までの 16 個である。 -/
def GREASE : List Nat := (List.range 16).map fun i => 0x0A0A + 0x1010 * i

/-- `l'` は `l` のどこかに GREASE の値を差し込んだものである。 -/
inductive Inserted : List Nat → List Nat → Prop
  | nil : Inserted [] []
  | keep (v : Nat) {l l' : List Nat} : Inserted l l' → Inserted (v :: l) (v :: l')
  | insert {g : Nat} {l l' : List Nat} : g ∈ GREASE → Inserted l l' → Inserted l (g :: l')

/-- ClientHello の五つの列への差し込み。extension は 32 個までしか読まれない。 -/
structure Greased (ch ch' : ClientHelloInfo) : Prop where
  cipherSuites : Inserted ch.cipherSuites ch'.cipherSuites
  supportedGroups : Inserted ch.supportedGroups ch'.supportedGroups
  offeredVersions : Inserted ch.offeredVersions ch'.offeredVersions
  keyShareGroups : Inserted ch.keyShareGroups ch'.keyShareGroups
  extensionIds : Inserted ch.extensionIds ch'.extensionIds
  extensions_le : ch'.extensionIds.length ≤ 32
  rest : ch' = { ch with
    cipherSuites := ch'.cipherSuites, supportedGroups := ch'.supportedGroups
    offeredVersions := ch'.offeredVersions, keyShareGroups := ch'.keyShareGroups
    extensionIds := ch'.extensionIds, greaseCount := ch'.greaseCount, raw := ch'.raw }

theorem isGrease_of_mem : ∀ g ∈ GREASE, isGrease g = true := by decide +kernel

/-- GREASE の値は、どの版より大きい。 -/
theorem lt_of_mem_grease : ∀ g ∈ GREASE, 0x0304 < g := by decide +kernel

/-- GREASE の値は cipher の表に無い。 -/
theorem lookupCipher_grease : ∀ g ∈ GREASE, lookupCipher g = none := by decide +kernel

namespace Inserted

variable {l l' : List Nat}

theorem mem_of_mem (h : Inserted l l') {a : Nat} (ha : a ∈ l) : a ∈ l' := by
  induction h with
  | nil => exact ha
  | keep v _ ih =>
    rcases List.mem_cons.mp ha with rfl | ha
    · exact List.mem_cons_self
    · exact List.mem_cons_of_mem _ (ih ha)
  | insert _ _ ih => exact List.mem_cons_of_mem _ (ih ha)

theorem mem_or_grease (h : Inserted l l') {a : Nat} (ha : a ∈ l') : a ∈ l ∨ a ∈ GREASE := by
  induction h with
  | nil => exact .inl ha
  | keep v _ ih =>
    rcases List.mem_cons.mp ha with rfl | ha
    · exact .inl List.mem_cons_self
    · exact (ih ha).imp_left (List.mem_cons_of_mem _)
  | insert hg _ ih =>
    rcases List.mem_cons.mp ha with rfl | ha
    · exact .inr hg
    · exact ih ha

theorem stripGrease_eq (h : Inserted l l') : stripGrease l' = stripGrease l := by
  induction h with
  | nil => rfl
  | keep v _ ih =>
    unfold stripGrease at ih ⊢
    rw [List.filter_cons, List.filter_cons, ih]
  | insert hg _ ih =>
    unfold stripGrease at ih ⊢
    rw [List.filter_cons, isGrease_of_mem _ hg, ih]
    rfl

theorem any_pfs (h : Inserted l l') :
    (l'.any fun cs => (lookupCipher cs).any (·.pfs)) =
      l.any fun cs => (lookupCipher cs).any (·.pfs) := by
  induction h with
  | nil => rfl
  | keep v _ ih => rw [List.any_cons, List.any_cons, ih]
  | insert hg _ ih => rw [List.any_cons, lookupCipher_grease _ hg, ih, Option.any_none, Bool.false_or]

/-- 最大の値は変わらないか、元のどの値よりも大きい GREASE の値に替わる。 -/
theorem max?_cases (h : Inserted l l') :
    l'.max? = l.max? ∨ ∃ g ∈ GREASE, l'.max? = some g ∧ ∀ a ∈ l, a < g := by
  cases hmax : l'.max? with
  | none =>
    have hnil : l' = [] := List.max?_eq_none_iff.mp hmax
    subst hnil
    cases h
    exact .inl rfl
  | some g =>
    obtain ⟨hg, hle⟩ := List.max?_eq_some_iff.mp hmax
    by_cases hmem : g ∈ l
    · refine .inl (List.max?_eq_some_iff.mpr ⟨hmem, fun a ha => hle a (h.mem_of_mem ha)⟩).symm
    · refine .inr ⟨g, (h.mem_or_grease hg).resolve_left hmem, rfl, fun a ha => ?_⟩
      exact Nat.lt_of_le_of_ne (hle a (h.mem_of_mem ha)) fun heq => hmem (heq ▸ ha)

end Inserted

/-! ## 差し込む前と後の解析 -/

/-- 解析が client の最良の版と見なす値。 -/
def bestOffer (ch : ClientHelloInfo) : Option Nat := ch.offeredVersions.max?.or ch.legacyVersion

/-- 結果の版。ServerHello が無ければ client の最良の版である。 -/
def versionOf (ch : ClientHelloInfo) (server : Option ServerHelloInfo) : Option Nat :=
  match server with
  | some sh => sh.negotiatedVersion
  | none => bestOffer ch

/-- rule に渡る二つの解析。ClientHello の差し込みと、そこから決まる版だけが違う。 -/
structure Twins (ch ch' : ClientHelloInfo) (sa sa' : SessionAnalysis) : Prop where
  hello : sa.clientHello = some ch
  hello' : sa'.clientHello = some ch'
  version : sa.tlsVersion = versionOf ch sa.serverHello
  version' : sa'.tlsVersion = versionOf ch' sa.serverHello
  tls13 : (sa.visibility.any fun v => v.tls13) = decide (sa.tlsVersion = some 0x0304)
  tls13' : (sa'.visibility.any fun v => v.tls13) = decide (sa'.tlsVersion = some 0x0304)
  started : sa.startedTls = true
  started' : sa'.startedTls = true
  findings : sa.findings = []
  findings' : sa'.findings = []
  serverHello : sa'.serverHello = sa.serverHello
  cipher : sa'.cipher = sa.cipher
  cipherMeta : sa'.cipherMeta = sa.cipherMeta
  cipherIana : sa'.cipherIana = sa.cipherIana
  certs : sa'.certs = sa.certs
  chainResult : sa'.chainResult = sa.chainResult
  chainError : sa'.chainError = sa.chainError

/-- 二つの session は、client の TLS の bytes だけが違う。 -/
structure SameBut (sess sess' : Session) (ch ch' : ClientHelloInfo) : Prop where
  rest : sess' = { sess with tlsSegment := sess'.tlsSegment }
  hello : clientHelloOf sess = .ok (some ch)
  hello' : clientHelloOf sess' = .ok (some ch')
  greased : Greased ch ch'

/-- ClientHello が読めるなら、TLS の部分は空でない。 -/
theorem tlsSegment_ne_nil {sess : Session} {ch : ClientHelloInfo}
    (h : clientHelloOf sess = .ok (some ch)) : sess.tlsSegment ≠ [] := by
  intro hnil
  unfold clientHelloOf at h
  rw [hnil] at h
  cases h

/-- 版と cipher を書いた後の欄。 -/
theorem withHello_version (sa : SessionAnalysis) (ch : ClientHelloInfo)
    (server : Option ServerHelloInfo) :
    (sa.withHello (some ch) server).clientHello = some ch ∧
      (sa.withHello (some ch) server).serverHello = server ∧
      (sa.withHello (some ch) server).tlsVersion = versionOf ch server ∧
      (sa.withHello (some ch) server).startedTls = sa.startedTls ∧
      (sa.withHello (some ch) server).certs = sa.certs ∧
      (sa.withHello (some ch) server).chainError = sa.chainError := by
  cases server with
  | none => exact ⟨rfl, rfl, rfl, rfl, rfl, rfl⟩
  | some sh =>
    unfold SessionAnalysis.withHello versionOf
    simp only
    split
    · exact ⟨rfl, rfl, rfl, rfl, rfl, rfl⟩
    · exact ⟨rfl, rfl, rfl, rfl, rfl, rfl⟩
    · split <;> exact ⟨rfl, rfl, rfl, rfl, rfl, rfl⟩

/-- cipher の欄は ServerHello だけから決まる。 -/
theorem withHello_cipher (sa sa' : SessionAnalysis) (ch ch' : ClientHelloInfo)
    (server : Option ServerHelloInfo) (hcipher : sa'.cipher = sa.cipher)
    (hmeta : sa'.cipherMeta = sa.cipherMeta) (hiana : sa'.cipherIana = sa.cipherIana) :
    (sa'.withHello (some ch') server).cipher = (sa.withHello (some ch) server).cipher ∧
      (sa'.withHello (some ch') server).cipherMeta = (sa.withHello (some ch) server).cipherMeta ∧
      (sa'.withHello (some ch') server).cipherIana =
        (sa.withHello (some ch) server).cipherIana := by
  cases server with
  | none => exact ⟨hcipher, hmeta, hiana⟩
  | some sh =>
    unfold SessionAnalysis.withHello
    simp only
    split
    · exact ⟨hcipher, hmeta, rfl⟩
    · exact ⟨hcipher, hmeta, rfl⟩
    · split
      · exact ⟨rfl, rfl, rfl⟩
      · exact ⟨rfl, hmeta, rfl⟩

/-- 証明書の欄は、ClientHello の名だけを読む。 -/
theorem withCerts_twins (lib : Analyzer) (sa sa' : SessionAnalysis)
    (certificate : Option CertificateInfo) (certs : List CertAnalysis)
    (hsni : (sa'.clientHello.bind fun ch => ch.sni) = sa.clientHello.bind fun ch => ch.sni)
    (hcerts : sa'.certs = sa.certs) (herror : sa'.chainError = sa.chainError) :
    (sa'.withCerts lib certificate certs).certs = (sa.withCerts lib certificate certs).certs ∧
      (sa'.withCerts lib certificate certs).chainResult =
        (sa.withCerts lib certificate certs).chainResult ∧
      (sa'.withCerts lib certificate certs).chainError =
        (sa.withCerts lib certificate certs).chainError := by
  unfold SessionAnalysis.withCerts
  simp only [hsni]
  split
  · exact ⟨hcerts, rfl, herror⟩
  · exact ⟨rfl, rfl, rfl⟩

/-- server の側の handshake は、client の bytes によらない。 -/
theorem serverSideOf_eq {sess sess' : Session} {ch ch' : ClientHelloInfo}
    (h : SameBut sess sess' ch ch') : serverSideOf sess' = serverSideOf sess := by
  rw [h.rest]
  rfl

/-- まとめた解析の欄。 -/
theorem assemble_fields (lib : Analyzer) (sess : Session) (ch : ClientHelloInfo)
    (server : Option ServerHelloInfo) (certificate : Option CertificateInfo)
    (certs : List CertAnalysis) (htls : sess.tlsSegment ≠ []) :
    let sa := assemble lib sess (some ch) server certificate certs
    sa.clientHello = some ch ∧ sa.serverHello = server ∧ sa.tlsVersion = versionOf ch server ∧
      (sa.visibility.any fun v => v.tls13) = decide (sa.tlsVersion = some 0x0304) ∧
      sa.startedTls = true ∧ sa.findings = [] := by
  have hstarted : (startAnalysis sess).startedTls = true := by
    rw [startAnalysis, Bool.not_eq_true', List.isEmpty_eq_false_iff]
    exact htls
  obtain ⟨h₁, h₂, h₃, h₄, -, -⟩ := withHello_version (startAnalysis sess) ch server
  have h₅ := findings_withHello (startAnalysis sess) (some ch) server
  obtain ⟨certs', result, error, hcerts⟩ :=
    withCerts_rest lib ((startAnalysis sess).withHello (some ch) server) certificate certs
  simp only [assemble, hcerts]
  exact ⟨h₁, h₂, h₃, rfl, h₄.trans hstarted, h₅⟩

/-- まとめた二つの解析は、ClientHello と版だけが違う。 -/
theorem assemble_twins (lib : Analyzer) {sess sess' : Session} {ch ch' : ClientHelloInfo}
    (h : SameBut sess sess' ch ch') (htls : sess.tlsSegment ≠ []) (htls' : sess'.tlsSegment ≠ [])
    (server : Option ServerHelloInfo) (certificate : Option CertificateInfo)
    (certs : List CertAnalysis) :
    Twins ch ch' (assemble lib sess (some ch) server certificate certs)
      (assemble lib sess' (some ch') server certificate certs) := by
  obtain ⟨h₁, h₂, h₃, h₄, h₅, h₆⟩ := assemble_fields lib sess ch server certificate certs htls
  obtain ⟨g₁, g₂, g₃, g₄, g₅, g₆⟩ := assemble_fields lib sess' ch' server certificate certs htls'
  obtain ⟨c₁, c₂, c₃⟩ := withHello_cipher (startAnalysis sess) (startAnalysis sess')
    ch ch' server rfl rfl rfl
  obtain ⟨k₁, -, -, -, k₅, k₆⟩ := withHello_version (startAnalysis sess) ch server
  obtain ⟨l₁, -, -, -, l₅, l₆⟩ := withHello_version (startAnalysis sess') ch' server
  obtain ⟨x, r, e, hx⟩ :=
    withCerts_rest lib ((startAnalysis sess).withHello (some ch) server) certificate certs
  obtain ⟨x', r', e', hx'⟩ :=
    withCerts_rest lib ((startAnalysis sess').withHello (some ch') server) certificate certs
  have hsni : ch'.sni = ch.sni := by rw [h.greased.rest]
  obtain ⟨d₁, d₂, d₃⟩ := withCerts_twins lib
    ((startAnalysis sess).withHello (some ch) server)
    ((startAnalysis sess').withHello (some ch') server) certificate certs
    (by rw [k₁, l₁, Option.bind_some, Option.bind_some, hsni]) (l₅.trans k₅.symm)
    (l₆.trans k₆.symm)
  exact {
    hello := h₁, hello' := g₁, version := by rw [h₂]; exact h₃, version' := by rw [h₂]; exact g₃
    tls13 := h₄, tls13' := g₄, started := h₅, started' := g₅, findings := h₆, findings' := g₆
    serverHello := g₂.trans h₂.symm
    cipher := by simpa only [assemble, hx, hx'] using c₁
    cipherMeta := by simpa only [assemble, hx, hx'] using c₂
    cipherIana := by simpa only [assemble, hx, hx'] using c₃
    certs := d₁, chainResult := d₂, chainError := d₃ }

/-- **差し込む前と後の解析は、ともに止まるか、ClientHello と版だけが違う。** -/
theorem prepared_twins (lib : Analyzer) {sess sess' : Session} {ch ch' : ClientHelloInfo}
    (h : SameBut sess sess' ch ch') :
    (∃ e, prepared lib sess = .error e ∧ prepared lib sess' = .error e) ∨
      ∃ sa sa', prepared lib sess = .ok sa ∧ prepared lib sess' = .ok sa' ∧
        Twins ch ch' sa sa' := by
  have htls := tlsSegment_ne_nil h.hello
  have htls' := tlsSegment_ne_nil h.hello'
  cases hside : serverSideOf sess with
  | error e =>
    exact .inl ⟨e, prepared_of_error lib htls h.hello hside,
      prepared_of_error lib htls' h.hello' ((serverSideOf_eq h).trans hside)⟩
  | ok side =>
    obtain ⟨server, certificate⟩ := side
    have hprep := prepared_of_ok lib htls h.hello hside
    have hprep' := prepared_of_ok lib htls' h.hello' ((serverSideOf_eq h).trans hside)
    cases hcerts : ((certificate.map (·.rawCerts)).getD []).mapM (analyzeCertificate lib) with
    | error e =>
      rw [hcerts] at hprep hprep'
      exact .inl ⟨e, hprep, hprep'⟩
    | ok certs =>
      rw [hcerts] at hprep hprep'
      exact .inr ⟨_, _, hprep, hprep', assemble_twins lib h htls htls' server certificate certs⟩

/-! ## 差し込みに気付かない rule -/

namespace Twins

variable {ch ch' : ClientHelloInfo} {sa sa' : SessionAnalysis}

theorem sameCipher (h : Twins ch ch' sa sa') : SameCipher sa.facts sa'.facts :=
  ⟨h.cipher, h.cipherMeta, h.cipherIana⟩

theorem sameCerts (h : Twins ch ch' sa sa') : SameCerts sa.facts sa'.facts :=
  ⟨h.certs, h.chainResult, h.chainError⟩

/-- group の rule は、GREASE を除いてから読む。 -/
theorem sameGroups (h : Twins ch ch' sa sa') (hg : Greased ch ch') :
    SameGroups sa.facts sa'.facts := by
  have hech : ch'.echOuter = ch.echOuter := by rw [hg.rest]
  refine ⟨h.serverHello, ?_, ?_⟩
  · show (sa'.clientHello.map fun ch => stripGrease ch.supportedGroups) =
      sa.clientHello.map fun ch => stripGrease ch.supportedGroups
    rw [h.hello, h.hello', Option.map_some, Option.map_some, hg.supportedGroups.stripGrease_eq]
  · show (sa'.clientHello.any fun ch => ch.echOuter) = sa.clientHello.any fun ch => ch.echOuter
    rw [h.hello, h.hello', Option.any_some, Option.any_some, hech]

/-- 版が同じなら、cipher と compression の rule も差し込みに気付かない。 -/
theorem sameOffer (h : Twins ch ch' sa sa') (hg : Greased ch ch')
    (hversion : sa'.tlsVersion = sa.tlsVersion) : SameOffer sa.facts sa'.facts := by
  have hcompression : ch'.compression = ch.compression := by rw [hg.rest]
  refine ⟨hversion, ?_⟩
  show (sa'.clientHello.map fun ch => (offersPfs ch, ch.compression)) =
    sa.clientHello.map fun ch => (offersPfs ch, ch.compression)
  rw [h.hello, h.hello', Option.map_some, Option.map_some, offersPfs, hg.cipherSuites.any_pfs,
    hcompression]
  rfl

/-- TLS の始まった session に、平文の rule は何も言わない。 -/
theorem emitted_plain {ch : ClientHelloInfo} (hstarted : sa.startedTls = true)
    (hello : sa.clientHello = some ch) :
    ∀ rule ∈ [ruleSslInPlaintext, ruleStarttlsStrip, ruleNoTlsOnTlsPort, ruleHandshakeIncomplete],
      emitted rule sa = [] := by
  have honly : plaintextOnly sa.facts = false := by
    simp [plaintextOnly, SessionAnalysis.facts, hstarted]
  simp only [List.forall_mem_cons, emitted, ruleSslInPlaintext, ruleStarttlsStrip,
    ruleNoTlsOnTlsPort, ruleHandshakeIncomplete, honly]
  simp [SessionAnalysis.facts, hstarted, hello]

/-- 版を読まない rule は、差し込みに気付かない。 -/
theorem emitted_blind (h : Twins ch ch' sa sa') (hg : Greased ch ch') :
    ∀ rule ∈ [ruleNonAeadCipher, ruleWeakCipher, ruleExportCipher, ruleNonPfs, ruleRc4, rule3des,
      ruleSslInPlaintext, ruleStarttlsStrip, ruleNoTlsOnTlsPort, ruleHandshakeIncomplete,
      ruleUnknownCipher, ruleLegacyGroups, ruleNoModernPfsGroup, ruleHrrAnomaly, ruleEchPresent],
      emitted rule sa' = emitted rule sa := by
  have hplain := emitted_plain h.started h.hello
  have hplain' := emitted_plain h.started' h.hello'
  simp only [List.forall_mem_cons] at hplain hplain' ⊢
  obtain ⟨p₁, p₂, p₃, p₄, -⟩ := hplain
  obtain ⟨q₁, q₂, q₃, q₄, -⟩ := hplain'
  exact ⟨(outcome_ruleNonAeadCipher h.sameCipher).emitted_eq,
    (outcome_ruleWeakCipher h.sameCipher).emitted_eq,
    (outcome_ruleExportCipher h.sameCipher).emitted_eq,
    (outcome_ruleNonPfs h.sameCipher).emitted_eq, (outcome_ruleRc4 h.sameCipher).emitted_eq,
    (outcome_rule3des h.sameCipher).emitted_eq, q₁.trans p₁.symm, q₂.trans p₂.symm,
    q₃.trans p₃.symm, q₄.trans p₄.symm, (outcome_ruleUnknownCipher h.sameCipher).emitted_eq,
    (outcome_ruleLegacyGroups (h.sameGroups hg)).emitted_eq,
    (outcome_ruleNoModernPfsGroup (h.sameGroups hg)).emitted_eq,
    (outcome_ruleHrrAnomaly (h.sameGroups hg)).emitted_eq,
    (outcome_ruleEchPresent (h.sameGroups hg)).emitted_eq, List.forall_mem_nil _⟩

/-- 結果の版が同じなら、版と証明書の rule のうち最大の版を読まないものも気付かない。 -/
theorem emitted_sameVersion (h : Twins ch ch' sa sa') (hg : Greased ch ch') (now : Int)
    (hversion : sa'.tlsVersion = sa.tlsVersion) :
    ∀ rule ∈ [ruleDeprecatedVersion, ruleCertExpired now, ruleCertNotYetValid now,
      ruleCertSelfSigned, ruleChainUntrusted, ruleWeakSignature, ruleShortKey,
      ruleNoClientHelloPfsCapability, ruleLegacyCompression],
      emitted rule sa' = emitted rule sa := by
  have hskip : skipsCerts sa'.facts = skipsCerts sa.facts := by
    show (!certsUsable sa'.certs && sa'.visibility.any fun v => v.tls13) =
      (!certsUsable sa.certs && sa.visibility.any fun v => v.tls13)
    rw [h.certs, h.tls13, h.tls13', hversion]
  have hfacts : sa'.facts.tlsVersion = sa.facts.tlsVersion := hversion
  simp only [List.forall_mem_cons]
  exact ⟨(outcome_ruleDeprecatedVersion hfacts).emitted_eq,
    ((certRule_ruleCertExpired now).outcome _ _ h.sameCerts hskip).emitted_eq,
    ((certRule_ruleCertNotYetValid now).outcome _ _ h.sameCerts hskip).emitted_eq,
    (certRule_ruleCertSelfSigned.outcome _ _ h.sameCerts hskip).emitted_eq,
    (certRule_ruleChainUntrusted.outcome _ _ h.sameCerts hskip).emitted_eq,
    (certRule_ruleWeakSignature.outcome _ _ h.sameCerts hskip).emitted_eq,
    (certRule_ruleShortKey.outcome _ _ h.sameCerts hskip).emitted_eq,
    (outcome_ruleNoClientHelloPfsCapability (h.sameOffer hg hversion)).emitted_eq,
    (outcome_ruleLegacyCompression (h.sameOffer hg hversion)).emitted_eq, List.forall_mem_nil _⟩

/-- 最大の版も同じなら、どの rule も気付かない。 -/
theorem emitted_sameTop (h : Twins ch ch' sa sa') (hg : Greased ch ch')
    (htop : ch'.offeredVersions.max? = ch.offeredVersions.max?) :
    sa'.tlsVersion = sa.tlsVersion ∧
    ∀ rule ∈ [ruleDowngradeSentinel, ruleTlsVersionDowngrade, ruleOutdatedClientStack],
      emitted rule sa' = emitted rule sa := by
  have hlegacy : ch'.legacyVersion = ch.legacyVersion := by rw [hg.rest]
  have hversion : sa'.tlsVersion = sa.tlsVersion := by
    rw [h.version, h.version']
    unfold versionOf bestOffer
    rw [htop, hlegacy]
  have hsame : SameTop sa.facts sa'.facts := by
    refine ⟨hversion, h.serverHello, ?_⟩
    show (sa'.clientHello.map fun ch => (ch.offeredVersions.max?, ch.legacyVersion)) =
      sa.clientHello.map fun ch => (ch.offeredVersions.max?, ch.legacyVersion)
    rw [h.hello, h.hello', Option.map_some, Option.map_some, htop, hlegacy]
  simp only [List.forall_mem_cons]
  exact ⟨hversion, (outcome_ruleDowngradeSentinel hsame).emitted_eq,
    (outcome_ruleTlsVersionDowngrade hsame).emitted_eq,
    (outcome_ruleOutdatedClientStack hsame).emitted_eq, List.forall_mem_nil _⟩

end Twins

end CipherPost.Parsing
