import CipherPost.Parsing.RunRules

/-!
# 解析に残る版と visibility

`analyze_session` の結果では、版の名前は版から作られ、`visibility` の `tls13` は版が TLS 1.3 であることを言い、
`not_observable` に残る rule は TLS 1.3 の session のものだけである。

* `Observed`・`observed_analyzeSession` — 解析の結果の、版と visibility の関係
-/

namespace CipherPost.Parsing

/-- 解析の結果の、版と visibility の関係。 -/
structure Observed (sa : SessionAnalysis) : Prop where
  named : sa.negotiatedVersionName = sa.tlsVersion.map versionName
  tls13 : sa.seesTls13 = true → sa.tlsVersion = some 0x0304
  skipped : sa.seesTls13 = false → sa.notObservable = []

theorem observed_startAnalysis (sess : Session) : Observed (startAnalysis sess) :=
  ⟨rfl, fun h => Bool.noConfusion h, fun _ => rfl⟩

/-- 版の名前は版から作られる。 -/
theorem withHello_named (sa : SessionAnalysis) (ch : Option ClientHelloInfo)
    (server : Option ServerHelloInfo) (h : sa.negotiatedVersionName = sa.tlsVersion.map versionName) :
    (sa.withHello ch server).negotiatedVersionName =
      (sa.withHello ch server).tlsVersion.map versionName := by
  unfold SessionAnalysis.withHello
  dsimp only
  split
  · split
    · rfl
    · rfl
    · split <;> rfl
  · rfl
  · exact h

/-- まとめた解析では、飛ばした rule も finding もまだ無い。 -/
theorem fresh_assemble (lib : Analyzer) (sess : Session) (ch : Option ClientHelloInfo)
    (server : Option ServerHelloInfo) (certificate : Option CertificateInfo)
    (certs : List CertAnalysis) :
    (assemble lib sess ch server certificate certs).notObservable = [] ∧
      (assemble lib sess ch server certificate certs).findings = [] := by
  obtain ⟨version, name, cipher, cipherMeta, iana, strength, hhello⟩ :=
    withHello_rest (startAnalysis sess) ch server
  obtain ⟨certs', result, error, hcerts⟩ :=
    withCerts_rest lib ((startAnalysis sess).withHello ch server) certificate certs
  rw [assemble, hcerts, hhello]
  exact ⟨rfl, rfl⟩

theorem observed_assemble (lib : Analyzer) (sess : Session) (ch : Option ClientHelloInfo)
    (server : Option ServerHelloInfo) (certificate : Option CertificateInfo)
    (certs : List CertAnalysis) : Observed (assemble lib sess ch server certificate certs) := by
  have hname := withHello_named (startAnalysis sess) ch server rfl
  obtain ⟨certs', result, error, hcerts⟩ :=
    withCerts_rest lib ((startAnalysis sess).withHello ch server) certificate certs
  refine ⟨?_, of_decide_eq_true, fun _ => (fresh_assemble lib sess ch server certificate certs).1⟩
  simp only [assemble, hcerts]
  exact hname

theorem observed_prepared {lib : Analyzer} {sess : Session} {sa : SessionAnalysis}
    (h : prepared lib sess = .ok sa) : Observed sa := by
  unfold prepared at h
  split at h
  · cases h
    exact observed_startAnalysis sess
  · obtain ⟨ch, -, h⟩ := exists_of_bind h
    obtain ⟨⟨server, certificate⟩, -, h⟩ := exists_of_bind h
    obtain ⟨certs, -, h⟩ := exists_of_bind h
    cases h
    exact observed_assemble lib sess ch server certificate certs

/-- **`analyze_session` の結果は `Observed` である。** -/
theorem observed_analyzeSession {lib : Analyzer} {now : Int} {sess : Session} {sa : SessionAnalysis}
    (h : analyzeSession (lib.withRules now) sess = .ok sa) : Observed sa := by
  obtain ⟨start, hprep, rfl⟩ := analyzeSession_eq_ok_iff.mp h
  obtain ⟨hname, htls13, hskip⟩ := observed_prepared hprep
  have heq : runRules (lib.withRules now) start = runAll (ALL_RULES now) start :=
    runRules_withRules lib now start
  -- rule は事実を変えないので、版の関係は準備のときのままである
  obtain ⟨hfacts, -⟩ := findings_runAll (appends_allRules now) start
  have hquiet := notObservable_runAll (appends_allRules now) start
  rw [heq]
  generalize runAll (ALL_RULES now) start = t at hfacts hquiet
  have hsees : t.facts.seesTls13 = start.facts.seesTls13 := by rw [hfacts]
  have hversion : t.facts.tlsVersion = start.facts.tlsVersion := by rw [hfacts]
  have hnamed : t.facts.negotiatedVersionName = start.facts.negotiatedVersionName := by rw [hfacts]
  refine ⟨?_, fun h => ?_, fun h => ?_⟩
  · exact hnamed.trans (hname.trans (congrArg _ hversion.symm))
  · exact hversion.trans (htls13 (hsees.symm.trans h))
  · have hoff : start.seesTls13 = false := hsees.symm.trans h
    exact (hquiet hoff).trans (hskip hoff)

end CipherPost.Parsing
