import CipherPost.Parsing.TlsSegments
import CipherPost.Parsing.RunRules

/-!
# 平文の session の報告

`_assign_tls_segments` は、implicit TLS の port では client の bytes をみな TLS の部分に入れる。
平文を咎める二つの rule は TLS の部分が空であることを求めるので、そこでは出ない。

* `NoRecord` — TLS の record がどこからも始まらない bytes
* `Reports` — 解析の結果に、ある id と重さの finding がある
* `plaintext_reported_iff` — 二つの finding が出るための条件
-/

namespace CipherPost.Parsing

/-! ## 分け方 -/

/-- TLS の record がどこからも始まらない。 -/
def NoRecord (data : Bytes) : Prop := ∀ pos, validRecordAt data pos = none

/-- record の種類の byte が無ければ、record は始まらない。 -/
theorem noRecord_of_forall {data : Bytes} (h : ∀ b ∈ data, b.toNat ∉ [20, 21, 22, 23]) :
    NoRecord data := by
  intro pos
  unfold validRecordAt
  split
  · rfl
  · next hlen =>
    have hpos : pos < data.length := by omega
    have hslice : slice data pos (pos + 1) = [data[pos]] := by
      rw [slice, Nat.add_sub_cancel_left, List.drop_eq_getElem_cons hpos]
      rfl
    have hct : fromBytes (slice data pos (pos + 1)) ∉ [20, 21, 22, 23] := by
      rw [hslice, fromBytes, List.foldl_cons, List.foldl_nil, Nat.zero_mul, Nat.zero_add]
      exact h _ (List.getElem_mem hpos)
    simp only [if_pos hct]

/-- implicit TLS の port では、client の bytes はみな TLS の部分に入る。 -/
theorem tlsSegment_of_implicit {sess : Session} (h : sess.serverPort ∈ IMPLICIT_TLS_PORTS)
    (client server : Bytes) : (assignTlsSegments sess client server).tlsSegment = client := by
  simp only [assignTlsSegments, tlsTransition, decide_eq_true h, if_true, List.drop_zero]
  split
  · split <;> rfl
  · rfl

/-- 他の port で TLS の始まる位置が無ければ、client の bytes はみな平文である。 -/
theorem segments_of_no_transition {sess : Session} {client server : Bytes}
    (h : (assignTlsSegments sess client server).transitionOffset = none) :
    (assignTlsSegments sess client server).tlsSegment = [] ∧
      (assignTlsSegments sess client server).plaintextSegment = client := by
  unfold assignTlsSegments at h ⊢
  simp only at h ⊢
  split at h
  · split at h
    · split at h <;> cases h
    · cases h
  · exact ⟨rfl, rfl⟩

/-! ## 解析の初めの欄 -/

/-- 平文の rule の読む欄が同じである。 -/
def SameStart (sa sa' : SessionAnalysis) : Prop :=
  sa'.startedTls = sa.startedTls ∧ sa'.tlsBytes = sa.tlsBytes ∧
    sa'.plaintextBytes = sa.plaintextBytes ∧ sa'.isImplicitTlsPort = sa.isImplicitTlsPort ∧
    sa'.findings = sa.findings

theorem sameStart_withHello (sa : SessionAnalysis) (ch : Option ClientHelloInfo)
    (sh : Option ServerHelloInfo) : SameStart sa (sa.withHello ch sh) := by
  unfold SessionAnalysis.withHello
  simp only
  split
  · split
    · exact ⟨rfl, rfl, rfl, rfl, rfl⟩
    · exact ⟨rfl, rfl, rfl, rfl, rfl⟩
    · split <;> exact ⟨rfl, rfl, rfl, rfl, rfl⟩
  · exact ⟨rfl, rfl, rfl, rfl, rfl⟩
  · exact ⟨rfl, rfl, rfl, rfl, rfl⟩

theorem sameStart_withCerts (sa : SessionAnalysis) (lib : Analyzer)
    (certificate : Option CertificateInfo) (certs : List CertAnalysis) :
    SameStart sa (sa.withCerts lib certificate certs) := by
  unfold SessionAnalysis.withCerts
  simp only
  split <;> exact ⟨rfl, rfl, rfl, rfl, rfl⟩

/-- 解析の途中は、初めの欄を書き換えない。 -/
theorem exists_start {lib : Analyzer} {sess : Session} {sa : SessionAnalysis}
    (h : analyzeSession lib sess = .ok sa) :
    ∃ sa₀, sa = runRules lib sa₀ ∧ SameStart (startAnalysis sess) sa₀ := by
  unfold analyzeSession at h
  simp only at h
  split at h
  · cases h
    exact ⟨_, rfl, rfl, rfl, rfl, rfl, rfl⟩
  · obtain ⟨ch, -, h⟩ := exists_of_bind h
    obtain ⟨⟨sh, certificate⟩, -, h⟩ := exists_of_bind h
    obtain ⟨certs, -, h⟩ := exists_of_bind h
    cases h
    refine ⟨_, rfl, ?_⟩
    obtain ⟨h₁, h₂, h₃, h₄, h₅⟩ := sameStart_withHello (startAnalysis sess) ch sh
    obtain ⟨g₁, g₂, g₃, g₄, g₅⟩ :=
      sameStart_withCerts ((startAnalysis sess).withHello ch sh) lib certificate certs
    exact ⟨g₁.trans h₁, g₂.trans h₂, g₃.trans h₃, g₄.trans h₄, g₅.trans h₅⟩

/-! ## 報告 -/

/-- 解析の結果に、その id と重さの finding がある。 -/
def Reports (r : Except AnalyzeError SessionAnalysis) (ruleId severity : String) : Prop :=
  ∃ sa, r = .ok sa ∧ ∃ f ∈ sa.findings, f.ruleId = ruleId ∧ f.severity = severity

variable {lib : Analyzer} {now : Int} {sess : Session}

theorem emitted_ruleSslInPlaintext {sa : SessionAnalysis} {f : SessionFinding}
    (hf : f ∈ emitted ruleSslInPlaintext sa) : plaintextOnly sa = true := by
  unfold emitted ruleSslInPlaintext at hf
  split at hf
  · assumption
  · cases hf

theorem emitted_ruleNoTlsOnTlsPort {sa : SessionAnalysis} {f : SessionFinding}
    (hf : f ∈ emitted ruleNoTlsOnTlsPort sa) : plaintextOnly sa = true := by
  unfold emitted ruleNoTlsOnTlsPort at hf
  split at hf
  · next h => exact (Bool.and_eq_true_iff.mp h).2
  · cases hf

/-- 二つの finding は、TLS の部分が空の session にしか出ない。 -/
theorem not_reports_of_tls (htls : sess.tlsSegment ≠ []) {e : List String × Rule}
    (he : e ∈ ruleTable now)
    (hplain : ∀ sa, ∀ f ∈ emitted e.2 sa, plaintextOnly sa = true) {ruleId severity : String}
    (hid : ruleId ∈ e.1) : ¬Reports (analyzeSession (lib.withRules now) sess) ruleId severity := by
  rintro ⟨sa, hsa, f, hf, hrule, -⟩
  obtain ⟨sa₀, hrun, hstarted, -, -, -, hfindings⟩ := exists_start hsa
  have hnil : sa₀.findings = [] := hfindings
  rw [hrun, mem_findings_iff now lib he hnil (by rw [hrule]; exact hid)] at hf
  have honly := hplain sa₀ f hf
  have hstart : sa₀.startedTls = true := by
    rw [hstarted, startAnalysis, Bool.not_eq_true', List.isEmpty_eq_false_iff]
    exact htls
  rw [plaintextOnly, hstart, Bool.not_true, Bool.false_and, Bool.false_and] at honly
  exact Bool.false_ne_true honly

/-- TLS の部分が空で平文があれば、平文の finding が出る。 -/
theorem reports_plaintext (htls : sess.tlsSegment = []) (hplain : sess.plaintextSegment ≠ []) :
    Reports (analyzeSession (lib.withRules now) sess) "plaintext-mail-protocol"
      Severity.HIGH := by
  have hok : analyzeSession (lib.withRules now) sess =
      .ok (runRules (lib.withRules now) (startAnalysis sess)) := by
    unfold analyzeSession
    simp only [if_pos htls]
  have honly : plaintextOnly (startAnalysis sess).facts = true := by
    have hpos : 0 < sess.plaintextSegment.length := List.length_pos_iff.mpr hplain
    simp [plaintextOnly, SessionAnalysis.facts, startAnalysis, htls, hpos]
  have hmem : ∃ f ∈ emitted ruleSslInPlaintext (startAnalysis sess),
      f.ruleId = "plaintext-mail-protocol" ∧ f.severity = Severity.HIGH := by
    unfold emitted ruleSslInPlaintext
    rw [if_pos honly]
    exact ⟨_, List.mem_singleton_self _, rfl, rfl⟩
  obtain ⟨f, hf, hid, hsev⟩ := hmem
  refine ⟨_, hok, f, ?_, hid, hsev⟩
  exact (mem_findings_iff now lib (e := (["plaintext-mail-protocol"], ruleSslInPlaintext))
    (by simp [ruleTable]) rfl (by rw [hid]; exact List.mem_singleton_self _)).mpr hf

/-- implicit TLS の port の session には、二つの finding が出ない。 -/
theorem silent_of_implicit (hport : sess.serverPort ∈ IMPLICIT_TLS_PORTS) {client : Bytes}
    (hclient : client ≠ []) (server : Bytes) (severity : String) :
    ¬Reports (analyzeSession (lib.withRules now) (assignTlsSegments sess client server))
        "no-tls-on-implicit-port" severity ∧
      ¬Reports (analyzeSession (lib.withRules now) (assignTlsSegments sess client server))
        "plaintext-mail-protocol" severity := by
  have htls : (assignTlsSegments sess client server).tlsSegment ≠ [] := by
    rw [tlsSegment_of_implicit hport]
    exact hclient
  exact ⟨not_reports_of_tls htls (e := (["no-tls-on-implicit-port"], ruleNoTlsOnTlsPort))
      (by simp [ruleTable]) (fun _ _ => emitted_ruleNoTlsOnTlsPort) (List.mem_singleton_self _),
    not_reports_of_tls htls (e := (["plaintext-mail-protocol"], ruleSslInPlaintext))
      (by simp [ruleTable]) (fun _ _ => emitted_ruleSslInPlaintext) (List.mem_singleton_self _)⟩

/--
client の bytes が空でない session について、implicit TLS の port なら二つの finding が、他の port で
TLS への移行が無ければ平文の finding が出ることは、port が implicit TLS の port でないことと
同値である。client の bytes から TLS の record が始まるかどうかにはよらない。
-/
theorem plaintext_reported_iff (lib : Analyzer) (now : Int) (sess : Session) (client server : Bytes)
    (hclient : client ≠ []) :
    ((sess.serverPort ∈ IMPLICIT_TLS_PORTS →
        Reports (analyzeSession (lib.withRules now) (assignTlsSegments sess client server))
          "no-tls-on-implicit-port" Severity.CRITICAL ∧
        Reports (analyzeSession (lib.withRules now) (assignTlsSegments sess client server))
          "plaintext-mail-protocol" Severity.HIGH) ∧
      (sess.serverPort ∉ IMPLICIT_TLS_PORTS →
        (assignTlsSegments sess client server).transitionOffset = none →
        Reports (analyzeSession (lib.withRules now) (assignTlsSegments sess client server))
          "plaintext-mail-protocol" Severity.HIGH)) ↔
      sess.serverPort ∉ IMPLICIT_TLS_PORTS := by
  constructor
  · rintro ⟨h, -⟩ hport
    exact (silent_of_implicit hport hclient server _).1 (h hport).1
  · intro hport
    refine ⟨fun h => absurd h hport, fun _ hnone => ?_⟩
    obtain ⟨htls, hplain⟩ := segments_of_no_transition hnone
    refine reports_plaintext htls ?_
    rw [hplain]
    exact hclient

/-- 平文の SMTP の client の bytes。 -/
def plainClient : Bytes := ascii "EHLO a"

/-- server の port だけが決まった session。 -/
def portSession (serverPort : Nat) : Session := { plainSession with serverPort := serverPort }

/-- port 25 の平文の session は報告される。 -/
theorem plain_smtp_reported :
    Reports (analyzeSession (bareAnalyzer.withRules 0)
      (assignTlsSegments (portSession 25) plainClient [])) "plaintext-mail-protocol"
      Severity.HIGH :=
  ((plaintext_reported_iff bareAnalyzer 0 (portSession 25) plainClient []
    (by decide)).mpr (by decide)).2 (by decide) (by decide +kernel)

/-- port 465 の平文の session には、二つの finding がどちらも出ない。 -/
theorem plain_smtps_silent :
    (portSession 465).serverPort ∈ IMPLICIT_TLS_PORTS ∧ plainClient ≠ [] ∧ NoRecord plainClient ∧
    ∀ lib now severity,
      ¬Reports (analyzeSession (Analyzer.withRules lib now)
        (assignTlsSegments (portSession 465) plainClient [])) "no-tls-on-implicit-port" severity ∧
      ¬Reports (analyzeSession (Analyzer.withRules lib now)
        (assignTlsSegments (portSession 465) plainClient [])) "plaintext-mail-protocol" severity := by
  refine ⟨by decide, by decide, noRecord_of_forall (by decide +kernel), fun lib now severity => ?_⟩
  exact silent_of_implicit (by decide) (by decide) [] severity

end CipherPost.Parsing
