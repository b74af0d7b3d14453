import CipherPost.Parsing.CertVisibility

/-!
# rule の付ける深刻度

どの rule も、深刻度の五つの文字列のどれかを付ける。

* `Graded` — 深刻度が五つのどれかである
* `graded_allRules` — どの rule もそれを保つ
* `graded_analyzePcap` — 解析の結果の finding
-/

namespace CipherPost.Parsing

open Severity

/-- 深刻度の文字列。 -/
def SEVERITIES : List String := [INFO, LOW, MEDIUM, HIGH, CRITICAL]

/-- どの finding の深刻度も、五つのどれかである。 -/
def Graded (sa : SessionAnalysis) : Prop := ∀ f ∈ sa.findings, f.severity ∈ SEVERITIES

namespace Graded

variable {sa sa' : SessionAnalysis}

theorem add (h : Graded sa) {ruleId ruleName severity title description reference : String}
    (hsev : severity ∈ SEVERITIES) :
    Graded (sa.add ruleId ruleName severity title description reference) := by
  intro f hf
  rcases List.mem_append.mp hf with hf | hf
  · exact h f hf
  · rw [List.mem_singleton.mp hf]
    exact hsev

/-- finding の列が同じなら、同じである。 -/
theorem of_findings (h : Graded sa) (heq : sa'.findings = sa.findings) : Graded sa' := by
  intro f hf
  rw [heq] at hf
  exact h f hf

theorem ite {c : Prop} [Decidable c] {t u : SessionAnalysis} (ht : Graded t) (hu : Graded u) :
    Graded (if c then t else u) := by
  split
  · exact ht
  · exact hu

theorem certRule (h : Graded sa) {ruleId : String} {body : Rule}
    (hbody : ∀ sa, Graded sa → Graded (body sa)) : Graded (sa.certRule ruleId body) := by
  obtain ⟨no, hno⟩ := certRule_cases sa ruleId body
  rw [hno]
  exact ite (h.of_findings rfl) (hbody sa h)

theorem foldl {step : SessionAnalysis → CertAnalysis → SessionAnalysis}
    (h : ∀ c sa, Graded sa → Graded (step sa c)) :
    ∀ (certs : List CertAnalysis) (sa : SessionAnalysis), Graded sa → Graded (certs.foldl step sa)
  | [], _, hsa => hsa
  | c :: certs, sa, hsa => foldl h certs _ (h c sa hsa)

end Graded

/-- 証明書ごとの rule は、決まった深刻度を付ける。 -/
theorem graded_certLoop {sa : SessionAnalysis} (h : Graded sa) {ruleId : String}
    {p : CertAnalysis → Bool} {add : SessionAnalysis → CertAnalysis → SessionAnalysis}
    (hadd : ∀ c sa, Graded sa → Graded (add sa c)) :
    Graded (sa.certRule ruleId fun sa =>
      sa.certs.foldl (fun sa c => if p c then add sa c else sa) sa) :=
  h.certRule fun sa hsa => Graded.foldl (fun c _ hsa => (hadd c _ hsa).ite hsa) sa.certs sa hsa

/-- 弱い版の表の深刻度。 -/
theorem severity_of_weakVersion {v : Nat} {name sev why : String}
    (h : WEAK_VERSIONS.lookup v = some (name, sev, why)) : sev ∈ SEVERITIES := by
  have hall : ∀ e ∈ WEAK_VERSIONS, e.2.2.1 ∈ SEVERITIES := by decide
  obtain ⟨l, l', hsplit, -⟩ := List.lookup_eq_some_iff.mp h
  exact hall (v, name, sev, why) (hsplit ▸ by simp)

/-- bulk cipher の表の深刻度。 -/
theorem severity_of_category {kind : String} (h : kind ∈ ["cbc", "stream"]) :
    ((CATEGORY_STRENGTH.lookup kind).getD ("", "")).2 ∈ SEVERITIES := by
  have hall : ∀ k ∈ ["cbc", "stream"],
      ((CATEGORY_STRENGTH.lookup k).getD ("", "")).2 ∈ SEVERITIES := by decide
  exact hall kind h

/-- 連鎖の検証結果の深刻度。 -/
theorem severity_of_chain (sa : SessionAnalysis) : (chainVerdict sa).1 ∈ SEVERITIES := by
  have hsides : (chainVerdict sa).1 = HIGH ∨ (chainVerdict sa).1 = MEDIUM := by
    unfold chainVerdict
    repeat' split
    all_goals first | exact .inl rfl | exact .inr rfl
  rcases hsides with h | h <;> rw [h] <;> decide

/-! ## rule ごと -/

section Rules
variable {sa : SessionAnalysis}

theorem graded_ruleDeprecatedVersion (h : Graded sa) : Graded (ruleDeprecatedVersion sa) := by
  unfold ruleDeprecatedVersion
  split
  · exact h
  · next name sev why hlookup =>
    obtain ⟨v, -, hv⟩ := Option.bind_eq_some_iff.mp hlookup
    exact h.add (severity_of_weakVersion hv)

theorem graded_ruleNonAeadCipher (h : Graded sa) : Graded (ruleNonAeadCipher sa) := by
  unfold ruleNonAeadCipher
  split
  · exact h
  · refine Graded.ite (h.add ?_) h
    split <;> decide

theorem graded_ruleWeakCipher (h : Graded sa) : Graded (ruleWeakCipher sa) := by
  unfold ruleWeakCipher
  split
  · exact h
  · split
    · exact h
    · split
      · exact h
      · next hkind =>
        refine h.add ?_
        split
        · split <;> decide
        · exact severity_of_category (not_not.mp hkind)

theorem graded_ruleExportCipher (h : Graded sa) : Graded (ruleExportCipher sa) := by
  unfold ruleExportCipher
  split
  · exact h
  · exact (h.add (by decide)).ite h

theorem graded_ruleNonPfs (h : Graded sa) : Graded (ruleNonPfs sa) := by
  unfold ruleNonPfs
  split
  · exact h
  · exact h.ite (h.add (by decide))

theorem graded_ruleRc4 (h : Graded sa) : Graded (ruleRc4 sa) := (h.add (by decide)).ite h

theorem graded_rule3des (h : Graded sa) : Graded (rule3des sa) := (h.add (by decide)).ite h

theorem graded_ruleCertExpired (now : Int) (h : Graded sa) : Graded (ruleCertExpired now sa) :=
  graded_certLoop h fun _ _ hsa => hsa.add (by decide)

theorem graded_ruleCertNotYetValid (now : Int) (h : Graded sa) :
    Graded (ruleCertNotYetValid now sa) := graded_certLoop h fun _ _ hsa => hsa.add (by decide)

theorem graded_ruleCertSelfSigned (h : Graded sa) : Graded (ruleCertSelfSigned sa) := by
  refine h.certRule fun sa hsa => ?_
  split
  · exact hsa
  · exact (hsa.add (by decide)).ite hsa

theorem graded_ruleChainUntrusted (h : Graded sa) : Graded (ruleChainUntrusted sa) :=
  h.certRule fun sa hsa => (hsa.add (severity_of_chain sa)).ite hsa

theorem graded_ruleWeakSignature (h : Graded sa) : Graded (ruleWeakSignature sa) :=
  graded_certLoop h fun _ _ hsa => hsa.add (by decide)

theorem graded_ruleShortKey (h : Graded sa) : Graded (ruleShortKey sa) :=
  graded_certLoop h fun _ _ hsa => hsa.add (by decide)

theorem graded_ruleSslInPlaintext (h : Graded sa) : Graded (ruleSslInPlaintext sa) :=
  (h.add (by decide)).ite h

theorem graded_ruleStarttlsStrip (h : Graded sa) : Graded (ruleStarttlsStrip sa) :=
  (h.add (by decide)).ite h

theorem graded_ruleNoTlsOnTlsPort (h : Graded sa) : Graded (ruleNoTlsOnTlsPort sa) :=
  (h.add (by decide)).ite h

theorem graded_ruleHandshakeIncomplete (h : Graded sa) : Graded (ruleHandshakeIncomplete sa) :=
  (h.add (by decide)).ite h

theorem graded_ruleUnknownCipher (h : Graded sa) : Graded (ruleUnknownCipher sa) := by
  unfold ruleUnknownCipher
  split
  · exact h
  · exact h
  · exact (h.add (by decide)).ite h

theorem graded_ruleNoClientHelloPfsCapability (h : Graded sa) :
    Graded (ruleNoClientHelloPfsCapability sa) := by
  unfold ruleNoClientHelloPfsCapability
  split
  · exact (h.add (by decide)).ite h
  · exact h

theorem graded_ruleLegacyGroups (h : Graded sa) : Graded (ruleLegacyGroups sa) := by
  unfold ruleLegacyGroups
  split
  · exact h
  · dsimp only
    split
    · exact h.add (by decide)
    · refine h.ite (h.add ?_)
      split <;> decide

theorem graded_ruleNoModernPfsGroup (h : Graded sa) : Graded (ruleNoModernPfsGroup sa) := by
  unfold ruleNoModernPfsGroup
  split
  · exact h
  · exact h.ite ((h.add (by decide)).ite h)

theorem graded_ruleDowngradeSentinel (h : Graded sa) : Graded (ruleDowngradeSentinel sa) := by
  unfold ruleDowngradeSentinel
  split
  · exact h
  · split
    · exact (h.add (by decide)).ite h
    · exact h

theorem graded_ruleHrrAnomaly (h : Graded sa) : Graded (ruleHrrAnomaly sa) := by
  unfold ruleHrrAnomaly
  split
  · exact h
  · split
    · exact h
    · dsimp only
      split
      · exact h
      · exact (h.add (by decide)).ite h

theorem graded_ruleTlsVersionDowngrade (h : Graded sa) : Graded (ruleTlsVersionDowngrade sa) := by
  unfold ruleTlsVersionDowngrade
  split
  · exact h.ite ((h.add (by decide)).ite ((h.add (by decide)).ite h))
  · exact h

theorem graded_ruleEchPresent (h : Graded sa) : Graded (ruleEchPresent sa) :=
  (h.add (by decide)).ite h

theorem graded_ruleOutdatedClientStack (h : Graded sa) : Graded (ruleOutdatedClientStack sa) := by
  unfold ruleOutdatedClientStack
  split
  · exact h
  · exact (h.add (by decide)).ite h

theorem graded_ruleLegacyCompression (h : Graded sa) : Graded (ruleLegacyCompression sa) := by
  unfold ruleLegacyCompression
  split
  · exact h
  · exact (h.add (by decide)).ite h

end Rules

/-! ## rule の列 -/

/-- **どの rule も、五つの深刻度のどれかを付ける。** -/
theorem graded_allRules (now : Int) : ∀ rule ∈ ALL_RULES now, ∀ sa, Graded sa →
    Graded (rule sa) := by
  simp only [ALL_RULES, List.forall_mem_cons]
  exact ⟨fun _ => graded_ruleDeprecatedVersion, fun _ => graded_ruleNonAeadCipher,
    fun _ => graded_ruleWeakCipher, fun _ => graded_ruleExportCipher, fun _ => graded_ruleNonPfs,
    fun _ => graded_ruleRc4, fun _ => graded_rule3des, fun _ => graded_ruleCertExpired now,
    fun _ => graded_ruleCertNotYetValid now, fun _ => graded_ruleCertSelfSigned,
    fun _ => graded_ruleChainUntrusted, fun _ => graded_ruleWeakSignature,
    fun _ => graded_ruleShortKey, fun _ => graded_ruleSslInPlaintext,
    fun _ => graded_ruleStarttlsStrip, fun _ => graded_ruleNoClientHelloPfsCapability,
    fun _ => graded_ruleNoTlsOnTlsPort, fun _ => graded_ruleHandshakeIncomplete,
    fun _ => graded_ruleUnknownCipher, fun _ => graded_ruleLegacyGroups,
    fun _ => graded_ruleNoModernPfsGroup, fun _ => graded_ruleDowngradeSentinel,
    fun _ => graded_ruleHrrAnomaly, fun _ => graded_ruleTlsVersionDowngrade,
    fun _ => graded_ruleEchPresent, fun _ => graded_ruleLegacyCompression,
    fun _ => graded_ruleOutdatedClientStack, List.forall_mem_nil _⟩

/-- rule を順に通しても保たれる。 -/
theorem graded_runAll {rules : List Rule} (h : ∀ rule ∈ rules, ∀ sa, Graded sa → Graded (rule sa))
    {sa : SessionAnalysis} (hsa : Graded sa) : Graded (runAll rules sa) := by
  induction rules generalizing sa with
  | nil => exact hsa
  | cons rule rules ih =>
    obtain ⟨hrule, hrules⟩ := List.forall_mem_cons.mp h
    exact ih hrules (hrule sa hsa)

/-- **解析の結果の finding の深刻度は、五つのどれかである。** -/
theorem graded_analyzePcap {lib : Analyzer} {now : Int} {sessions : List Session}
    {analyses : List SessionAnalysis}
    (h : analyzePcap (lib.withRules now) sessions = .ok analyses) : ∀ sa ∈ analyses, Graded sa := by
  intro sa hsa
  obtain ⟨sess, -, hsess⟩ := Aligned.exists_left (Aligned.of_mapM_ok h) hsa
  obtain ⟨start, hstart, rfl⟩ := analyzeSession_eq_ok_iff.mp hsess
  rw [runRules_withRules]
  refine graded_runAll (graded_allRules now) ?_
  intro f hf
  rw [(fresh_prepared hstart).findings] at hf
  cases hf

end CipherPost.Parsing
