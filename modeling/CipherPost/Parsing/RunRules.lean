import CipherPost.Infra.Aligned
import CipherPost.Parsing.Rules

/-!
# rule の列を走らせる

rule は session の事実を読み、finding を末尾に足すだけである。だから `run_rules` の結果は、
rule ごとに出す finding を順に並べたものになる。

* `SessionAnalysis.facts` — rule の読む部分
* `emitted` — rule の出す finding
* `Appends` — rule が事実を変えず、決まった id の finding だけを足し、TLS 1.3 でなければ何も記録しないこと
* `appends_ruleTable` — どの rule もそうである
* `findings_runRules`・`verdicts_eq_iff` — `run_rules` の結果
* `notObservable_runAll` — 飛ばした rule の記録
-/

namespace CipherPost.Parsing

/-- 一つの rule。 -/
abbrev Rule : Type := SessionAnalysis → SessionAnalysis

/-- rule の読む部分。rule の書く二つの欄を空にする。 -/
def SessionAnalysis.facts (sa : SessionAnalysis) : SessionAnalysis :=
  { sa with findings := [], notObservable := [] }

/-- 事実に対して rule の出す finding。 -/
def emitted (rule : Rule) (sa : SessionAnalysis) : List SessionFinding := (rule sa.facts).findings

/-- TLS 1.3 の session だと分かっている。 -/
def SessionAnalysis.seesTls13 (sa : SessionAnalysis) : Bool := sa.visibility.any (·.tls13)

/-- rule は事実を変えず、`ids` の中の id の finding を足す。 -/
structure Appends (ids : List String) (rule : Rule) : Prop where
  facts : ∀ sa, (rule sa).facts = sa.facts
  findings : ∀ sa, (rule sa).findings = sa.findings ++ emitted rule sa
  ids : ∀ sa, ∀ f ∈ emitted rule sa, f.ruleId ∈ ids
  /-- TLS 1.3 でない session では、飛ばした rule を記録しない。 -/
  quiet : ∀ sa, sa.seesTls13 = false → (rule sa).notObservable = sa.notObservable

/-! ## 一つの rule -/

/-- `sa` と `sa'` が、同じ finding を足されて `t` と `t'` になる。記録は TLS 1.3 でだけ変わる。 -/
def Outcome (ids : List String) (sa sa' t t' : SessionAnalysis) : Prop :=
  ∃ fs no no', (∀ f ∈ fs, f.ruleId ∈ ids) ∧
    t = { sa with findings := sa.findings ++ fs, notObservable := no } ∧
    t' = { sa' with findings := sa'.findings ++ fs, notObservable := no' } ∧
    (sa.seesTls13 = false → no = sa.notObservable)

namespace Outcome

variable {ids : List String} {sa sa' t t' u u' : SessionAnalysis}

theorem skip : Outcome ids sa sa' sa sa' := by
  refine ⟨[], sa.notObservable, sa'.notObservable, List.forall_mem_nil _, ?_, ?_, fun _ => rfl⟩
  · rw [List.append_nil]
  · rw [List.append_nil]

theorem add {ruleId ruleName severity title description reference : String} (h : ruleId ∈ ids) :
    Outcome ids sa sa' (sa.add ruleId ruleName severity title description reference)
      (sa'.add ruleId ruleName severity title description reference) := by
  refine ⟨_, sa.notObservable, sa'.notObservable, fun f hf => ?_, rfl, rfl, fun _ => rfl⟩
  rw [List.mem_singleton.mp hf]
  exact h

/-- 記録だけの違いは、出す finding に効かない。 -/
theorem note {no no' : List String} (hsees : sa.seesTls13 = true) :
    Outcome ids sa sa' { sa with notObservable := no } { sa' with notObservable := no' } := by
  refine ⟨[], no, no', List.forall_mem_nil _, ?_, ?_, fun hoff => ?_⟩
  · rw [List.append_nil]
  · rw [List.append_nil]
  · rw [hsees] at hoff
    cases hoff

theorem trans (h : Outcome ids sa sa' t t') (h' : Outcome ids t t' u u') :
    Outcome ids sa sa' u u' := by
  obtain ⟨fs, _, _, hfs, rfl, rfl, hkeep⟩ := h
  obtain ⟨gs, no, no', hgs, rfl, rfl, hkeep'⟩ := h'
  refine ⟨fs ++ gs, no, no', fun f hf => ?_, ?_, ?_, fun hoff => (hkeep' hoff).trans (hkeep hoff)⟩
  · rcases List.mem_append.mp hf with hf | hf
    · exact hfs f hf
    · exact hgs f hf
  · rw [List.append_assoc]
  · rw [List.append_assoc]

/-- 判定の手続きが違っても、条件が同じなら同じ枝に進む。 -/
theorem ite {c : Prop} {d d' : Decidable c} {u u' : SessionAnalysis} (h : Outcome ids sa sa' t t')
    (h' : Outcome ids sa sa' u u') :
    Outcome ids sa sa' (@ite _ c d t u) (@ite _ c d' t' u') := by
  by_cases hc : c
  · rw [if_pos hc, if_pos hc]
    exact h
  · rw [if_neg hc, if_neg hc]
    exact h'

/-- 証明書ごとの loop。 -/
theorem foldl {step : SessionAnalysis → CertAnalysis → SessionAnalysis}
    (h : ∀ c sa sa', Outcome ids sa sa' (step sa c) (step sa' c)) :
    ∀ (certs : List CertAnalysis) (sa sa' : SessionAnalysis),
      Outcome ids sa sa' (certs.foldl step sa) (certs.foldl step sa')
  | [], _, _ => skip
  | c :: certs, sa, sa' => (h c sa sa').trans (foldl h certs _ _)

end Outcome

/-- 同じ事実には同じ finding を足す rule は、足すだけの rule である。 -/
theorem Appends.of_outcome {ids : List String} {rule : Rule}
    (h : ∀ sa, Outcome ids sa sa.facts (rule sa) (rule sa.facts)) : Appends ids rule := by
  refine ⟨fun sa => ?_, fun sa => ?_, fun sa f hf => ?_, fun sa hoff => ?_⟩
  · obtain ⟨fs, no, no', -, h, -⟩ := h sa
    rw [h]
    rfl
  · obtain ⟨fs, no, no', -, h, h', -⟩ := h sa
    unfold emitted
    rw [h, h']
    rfl
  · obtain ⟨fs, no, no', hfs, -, h', -⟩ := h sa
    unfold emitted at hf
    rw [h'] at hf
    exact hfs f hf
  · obtain ⟨fs, no, no', -, h, -, hkeep⟩ := h sa
    rw [h]
    exact hkeep hoff

/-- 同じ finding を足されるなら、出す finding も同じである。 -/
theorem Outcome.emitted_eq {ids : List String} {rule : Rule} {sa sa' : SessionAnalysis}
    (h : Outcome ids sa.facts sa'.facts (rule sa.facts) (rule sa'.facts)) :
    emitted rule sa' = emitted rule sa := by
  obtain ⟨fs, no, no', -, h, h', -⟩ := h
  unfold emitted
  rw [h, h']
  rfl

/-! ## cipher の rule -/

/-- cipher の欄が同じである。 -/
structure SameCipher (sa sa' : SessionAnalysis) : Prop where
  cipher : sa'.cipher = sa.cipher
  cipherMeta : sa'.cipherMeta = sa.cipherMeta
  cipherIana : sa'.cipherIana = sa.cipherIana

theorem SameCipher.facts (sa : SessionAnalysis) : SameCipher sa sa.facts := ⟨rfl, rfl, rfl⟩

section
variable {sa sa' : SessionAnalysis}

theorem outcome_ruleNonAeadCipher (h : SameCipher sa sa') :
    Outcome ["non-aead-bulk-cipher"] sa sa' (ruleNonAeadCipher sa) (ruleNonAeadCipher sa') := by
  unfold ruleNonAeadCipher
  rw [h.cipher, h.cipherMeta]
  split
  · exact Outcome.skip
  · exact Outcome.ite (Outcome.add (List.mem_singleton_self _)) Outcome.skip

theorem outcome_ruleWeakCipher (h : SameCipher sa sa') :
    Outcome ["weak-cipher-suite"] sa sa' (ruleWeakCipher sa) (ruleWeakCipher sa') := by
  unfold ruleWeakCipher
  rw [h.cipher, h.cipherMeta]
  split
  · exact Outcome.skip
  · refine Outcome.ite Outcome.skip (Outcome.ite Outcome.skip ?_)
    exact Outcome.add (List.mem_singleton_self _)

theorem outcome_ruleNonPfs (h : SameCipher sa sa') :
    Outcome ["non-pfs-key-exchange"] sa sa' (ruleNonPfs sa) (ruleNonPfs sa') := by
  unfold ruleNonPfs
  rw [h.cipher, h.cipherMeta]
  split
  · exact Outcome.skip
  · exact Outcome.ite Outcome.skip (Outcome.add (List.mem_singleton_self _))

theorem outcome_ruleExportCipher (h : SameCipher sa sa') :
    Outcome ["export-grade-cipher"] sa sa' (ruleExportCipher sa) (ruleExportCipher sa') := by
  unfold ruleExportCipher
  rw [h.cipher, h.cipherMeta]
  split
  · exact Outcome.skip
  · exact Outcome.ite (Outcome.add (List.mem_singleton_self _)) Outcome.skip

theorem outcome_ruleRc4 (h : SameCipher sa sa') :
    Outcome ["rc4-cipher"] sa sa' (ruleRc4 sa) (ruleRc4 sa') := by
  simp only [ruleRc4, cipherWordRule, h.cipher, h.cipherMeta]
  exact Outcome.ite (Outcome.add (List.mem_singleton_self _)) Outcome.skip

theorem outcome_rule3des (h : SameCipher sa sa') :
    Outcome ["3des-cipher"] sa sa' (rule3des sa) (rule3des sa') := by
  simp only [rule3des, cipherWordRule, h.cipher, h.cipherMeta]
  exact Outcome.ite (Outcome.add (List.mem_singleton_self _)) Outcome.skip

theorem outcome_ruleUnknownCipher (h : SameCipher sa sa') :
    Outcome ["unknown-cipher-suite"] sa sa' (ruleUnknownCipher sa) (ruleUnknownCipher sa') := by
  unfold ruleUnknownCipher
  rw [h.cipherMeta, h.cipherIana]
  split
  · exact Outcome.skip
  · exact Outcome.skip
  · exact Outcome.ite (Outcome.add (List.mem_singleton_self _)) Outcome.skip

end

/-! ## 証明書の rule -/

/-- 証明書の欄が同じである。 -/
structure SameCerts (sa sa' : SessionAnalysis) : Prop where
  certs : sa'.certs = sa.certs
  chainResult : sa'.chainResult = sa.chainResult
  chainError : sa'.chainError = sa.chainError

theorem SameCerts.facts (sa : SessionAnalysis) : SameCerts sa sa.facts := ⟨rfl, rfl, rfl⟩

/-- 記録は証明書の欄に触れない。 -/
theorem SameCerts.note {sa sa' : SessionAnalysis} (h : SameCerts sa sa') (no no' : List String) :
    SameCerts { sa with notObservable := no } { sa' with notObservable := no' } :=
  ⟨h.certs, h.chainResult, h.chainError⟩

/-- 証明書が見えず、TLS 1.3 の session である。 -/
def skipsCerts (sa : SessionAnalysis) : Bool :=
  !certsUsable sa.certs && sa.visibility.any (·.tls13)

/-- 証明書の rule は、飛ばすか、本体を走らせる。 -/
theorem certRule_cases (sa : SessionAnalysis) (ruleId : String) (body : Rule) :
    ∃ no, sa.certRule ruleId body =
      if skipsCerts sa then { sa with notObservable := no } else body sa := by
  unfold SessionAnalysis.certRule SessionAnalysis.requireUsableCerts skipsCerts
  cases certsUsable sa.certs with
  | true => exact ⟨[], rfl⟩
  | false =>
    cases sa.visibility.any (·.tls13) with
    | false => exact ⟨[], rfl⟩
    | true =>
      by_cases hmem : ruleId ∈ sa.notObservable
      · refine ⟨sa.notObservable, ?_⟩
        simp [hmem]
      · refine ⟨sa.notObservable ++ [ruleId], ?_⟩
        simp [hmem]

/-- 飛ばすかどうかと証明書が同じなら、同じ finding が足される。 -/
theorem Outcome.certRule {ids : List String} {ruleId : String} {body : Rule}
    {sa sa' : SessionAnalysis} (hskip : skipsCerts sa' = skipsCerts sa)
    (h : Outcome ids sa sa' (body sa) (body sa')) :
    Outcome ids sa sa' (sa.certRule ruleId body) (sa'.certRule ruleId body) := by
  obtain ⟨no, hno⟩ := certRule_cases sa ruleId body
  obtain ⟨no', hno'⟩ := certRule_cases sa' ruleId body
  rw [hno, hno', hskip]
  by_cases hs : skipsCerts sa = true
  · rw [if_pos hs, if_pos hs]
    exact Outcome.note (Bool.and_eq_true_iff.mp hs).2
  · rw [if_neg hs, if_neg hs]
    exact h

/-- 証明書の rule。飛ばさなければ証明書の欄だけを読み、`fires` のときに finding を足す。 -/
structure CertRule (ids : List String) (rule : Rule) (fires : SessionAnalysis → Bool) : Prop where
  skips : ∀ sa, skipsCerts sa = true → emitted rule sa = []
  outcome : ∀ sa sa', SameCerts sa sa' → skipsCerts sa' = skipsCerts sa →
    Outcome ids sa sa' (rule sa) (rule sa')
  fires : ∀ sa, skipsCerts sa = false → (emitted rule sa = [] ↔ fires sa = false)

theorem CertRule.appends {ids : List String} {rule : Rule} {fires : SessionAnalysis → Bool}
    (h : CertRule ids rule fires) : Appends ids rule :=
  Appends.of_outcome fun sa => h.outcome sa sa.facts (SameCerts.facts sa) rfl

/-- 本体が証明書の欄だけを読むなら、rule もそうである。 -/
theorem CertRule.of_body {ids : List String} {ruleId : String} {body : Rule}
    {fires : SessionAnalysis → Bool}
    (h : ∀ sa sa', SameCerts sa sa' → Outcome ids sa sa' (body sa) (body sa'))
    (hfires : ∀ sa, sa.findings = [] → ((body sa).findings = [] ↔ fires sa = false))
    (hfacts : ∀ sa, fires sa.facts = fires sa) :
    CertRule ids (fun sa => sa.certRule ruleId body) fires := by
  refine ⟨fun sa hskip => ?_, fun sa sa' hsame hskip => ?_, fun sa hskip => ?_⟩
  · obtain ⟨no, hno⟩ := certRule_cases sa.facts ruleId body
    have hskip' : skipsCerts sa.facts = true := hskip
    rw [emitted, hno, if_pos hskip']
    rfl
  · exact Outcome.certRule hskip (h sa sa' hsame)
  · obtain ⟨no, hno⟩ := certRule_cases sa.facts ruleId body
    have hskip' : ¬skipsCerts sa.facts = true := by
      rw [Bool.not_eq_true]
      exact hskip
    rw [emitted, hno, if_neg hskip', hfires _ rfl, hfacts]

/-- 証明書ごとに、`p` に当たれば一つ足す loop。 -/
theorem CertRule.of_loop {ids : List String} {ruleId : String}
    {step : SessionAnalysis → CertAnalysis → SessionAnalysis} {p : CertAnalysis → Bool}
    (h : ∀ c sa sa', Outcome ids sa sa' (step sa c) (step sa' c))
    (hp : ∀ c sa, (step sa c).findings = sa.findings ↔ p c = false) :
    CertRule ids (fun sa => sa.certRule ruleId fun sa => sa.certs.foldl step sa)
      fun sa => sa.certs.any p := by
  have hgrow : ∀ (certs : List CertAnalysis) (sa : SessionAnalysis),
      ∃ fs, (certs.foldl step sa).findings = sa.findings ++ fs := by
    intro certs sa
    obtain ⟨fs, _, _, -, hfs, -⟩ := Outcome.foldl h certs sa sa
    exact ⟨fs, congrArg SessionAnalysis.findings hfs⟩
  have hloop : ∀ (certs : List CertAnalysis) (sa : SessionAnalysis), sa.findings = [] →
      ((certs.foldl step sa).findings = [] ↔ certs.any p = false) := by
    intro certs
    induction certs with
    | nil =>
      intro sa hsa
      exact iff_of_true hsa rfl
    | cons c certs ih =>
      intro sa hsa
      rw [List.foldl_cons, List.any_cons, Bool.or_eq_false_iff, ← hp c sa]
      constructor
      · intro hnil
        obtain ⟨fs, hfs⟩ := hgrow certs (step sa c)
        have hstep := (List.append_eq_nil_iff.mp (hfs.symm.trans hnil)).1
        exact ⟨hstep.trans hsa.symm, (ih _ hstep).mp hnil⟩
      · rintro ⟨hstep, hrest⟩
        exact (ih _ (hstep.trans hsa)).mpr hrest
  refine CertRule.of_body (fun sa sa' hsame => ?_) (fun sa hsa => hloop sa.certs sa hsa) fun _ => rfl
  rw [hsame.certs]
  exact Outcome.foldl h sa.certs sa sa'

/-- 足した後の列は、元の列と違う。 -/
theorem findings_add_ne (sa : SessionAnalysis)
    (ruleId ruleName severity title description reference : String) :
    (sa.add ruleId ruleName severity title description reference).findings ≠ sa.findings := by
  intro h
  have hlen := congrArg List.length h
  rw [SessionAnalysis.add, List.length_append, List.length_singleton] at hlen
  omega

/-- 条件に当たるときにだけ足す。 -/
theorem findings_ite_add {b : Bool} {sa : SessionAnalysis}
    {ruleId ruleName severity title description reference : String} :
    (if b = true then sa.add ruleId ruleName severity title description reference
      else sa).findings = sa.findings ↔ b = false := by
  cases b with
  | false => exact iff_of_true rfl rfl
  | true => exact iff_of_false (findings_add_ne sa _ _ _ _ _ _) (Ne.symm Bool.false_ne_true)

section
variable (now : Int)

theorem certRule_ruleCertExpired :
    CertRule ["expired-certificate"] (ruleCertExpired now)
      fun sa => sa.certs.any (·.expired now) := by
  refine CertRule.of_loop (fun c sa sa' => ?_) fun c sa => ?_
  · exact Outcome.ite (Outcome.add (List.mem_singleton_self _)) Outcome.skip
  · exact findings_ite_add

theorem certRule_ruleCertNotYetValid :
    CertRule ["certificate-not-yet-valid"] (ruleCertNotYetValid now)
      fun sa => sa.certs.any (·.notYetValid now) := by
  refine CertRule.of_loop (fun c sa sa' => ?_) fun c sa => ?_
  · exact Outcome.ite (Outcome.add (List.mem_singleton_self _)) Outcome.skip
  · exact findings_ite_add

theorem certRule_ruleWeakSignature :
    CertRule ["weak-signature-algorithm"] ruleWeakSignature
      fun sa => sa.certs.any (·.weakSignature) := by
  refine CertRule.of_loop (fun c sa sa' => ?_) fun c sa => ?_
  · exact Outcome.ite (Outcome.add (List.mem_singleton_self _)) Outcome.skip
  · exact findings_ite_add

theorem certRule_ruleShortKey :
    CertRule ["short-public-key"] ruleShortKey fun sa => sa.certs.any (·.shortKey) := by
  refine CertRule.of_loop (fun c sa sa' => ?_) fun c sa => ?_
  · exact Outcome.ite (Outcome.add (List.mem_singleton_self _)) Outcome.skip
  · exact findings_ite_add

theorem certRule_ruleCertSelfSigned :
    CertRule ["self-signed-certificate"] ruleCertSelfSigned
      fun sa => sa.certs.head?.any (·.isSelfSigned) := by
  refine CertRule.of_body (fun sa sa' hsame => ?_) (fun sa hsa => ?_) fun _ => rfl
  · simp only [hsame.certs]
    split
    · exact Outcome.skip
    · exact Outcome.ite (Outcome.add (List.mem_singleton_self _)) Outcome.skip
  · split
    · next hnone => exact iff_of_true hsa (by rw [hnone]; rfl)
    · next cert hcert =>
      rw [hcert, Option.any_some, ← @findings_ite_add _ sa, hsa]

theorem certRule_ruleChainUntrusted :
    CertRule ["untrusted-certificate-chain"] ruleChainUntrusted
      fun sa => decide (sa.chainResult ∈ CHAIN_FAILURES) := by
  refine CertRule.of_body (fun sa sa' hsame => ?_) (fun sa hsa => ?_) fun _ => rfl
  · simp only [chainVerdict, hsame.chainResult, hsame.chainError]
    exact Outcome.ite (Outcome.add (List.mem_singleton_self _)) Outcome.skip
  · split
    · next hc =>
      refine iff_of_false (fun h => ?_) fun hfalse => decide_eq_false_iff_not.mp hfalse hc
      exact findings_add_ne sa _ _ _ _ _ _ (h.trans hsa.symm)
    · next hc => exact iff_of_true hsa (decide_eq_false hc)

end

/-! ## group の rule -/

/-- group の rule の読む欄が同じである。 -/
structure SameGroups (sa sa' : SessionAnalysis) : Prop where
  serverHello : sa'.serverHello = sa.serverHello
  groups : (sa'.clientHello.map fun ch => stripGrease ch.supportedGroups) =
    sa.clientHello.map fun ch => stripGrease ch.supportedGroups
  ech : (sa'.clientHello.any fun ch => ch.echOuter) = sa.clientHello.any fun ch => ch.echOuter

theorem SameGroups.facts (sa : SessionAnalysis) : SameGroups sa sa.facts := ⟨rfl, rfl, rfl⟩

/-- ClientHello は、両方に有るか、両方に無い。 -/
theorem option_map_cases {α β : Type} {f : α → β} {o o' : Option α} (h : o'.map f = o.map f) :
    (o = none ∧ o' = none) ∨ ∃ a a', o = some a ∧ o' = some a' ∧ f a' = f a := by
  cases o with
  | none => exact .inl ⟨rfl, Option.map_eq_none_iff.mp h⟩
  | some a =>
    obtain ⟨a', ha', hf⟩ := Option.map_eq_some_iff.mp h
    exact .inr ⟨a, a', rfl, ha', hf⟩

section
variable {sa sa' : SessionAnalysis}

theorem outcome_ruleLegacyGroups (h : SameGroups sa sa') :
    Outcome ["deprecated-group-negotiated", "deprecated-group-offered"] sa sa'
      (ruleLegacyGroups sa) (ruleLegacyGroups sa') := by
  unfold ruleLegacyGroups
  rcases option_map_cases h.groups with ⟨hch, hch'⟩ | ⟨ch, ch', hch, hch', hgroups⟩
  · rw [hch, hch']
    exact Outcome.skip
  · rw [hch, hch', h.serverHello]
    simp only [noModernGroup, hgroups]
    split
    · exact Outcome.add List.mem_cons_self
    · exact Outcome.ite Outcome.skip (Outcome.add (List.mem_cons_of_mem _ List.mem_cons_self))

/-- GREASE だけの group の列は、空の列と同じに扱われる。 -/
theorem ruleNoModernPfsGroup_eq {ch : ClientHelloInfo} (hch : sa.clientHello = some ch) :
    ruleNoModernPfsGroup sa =
      if stripGrease ch.supportedGroups ≠ [] ∧ noModernGroup ch then
        sa.add "no-modern-pfs-group" "No modern forward-secrecy group offered" Severity.MEDIUM
          "Client offers no modern PFS-capable group"
          ("The ClientHello offers key-exchange groups but none of X25519," ++
            " X448, FFDHE-2048+, or hybrid post-quantum groups. Sessions will" ++
            " negotiate weaker/legacy key exchange.")
          "OWASP TLS Cheat Sheet §'use forward secrecy'"
      else sa := by
  unfold ruleNoModernPfsGroup
  rw [hch]
  simp only
  by_cases hnil : ch.supportedGroups = []
  · rw [if_pos hnil, if_neg]
    rintro ⟨hne, -⟩
    exact hne (by rw [hnil]; rfl)
  · rw [if_neg hnil]

theorem outcome_ruleNoModernPfsGroup (h : SameGroups sa sa') :
    Outcome ["no-modern-pfs-group"] sa sa' (ruleNoModernPfsGroup sa)
      (ruleNoModernPfsGroup sa') := by
  rcases option_map_cases h.groups with ⟨hch, hch'⟩ | ⟨ch, ch', hch, hch', hgroups⟩
  · unfold ruleNoModernPfsGroup
    rw [hch, hch']
    exact Outcome.skip
  · rw [ruleNoModernPfsGroup_eq hch, ruleNoModernPfsGroup_eq hch']
    simp only [noModernGroup, hgroups]
    exact Outcome.ite (Outcome.add (List.mem_singleton_self _)) Outcome.skip

theorem outcome_ruleHrrAnomaly (h : SameGroups sa sa') :
    Outcome ["hrr-group-mismatch"] sa sa' (ruleHrrAnomaly sa) (ruleHrrAnomaly sa') := by
  unfold ruleHrrAnomaly
  rw [h.serverHello, h.groups]
  split
  · exact Outcome.skip
  · refine Outcome.ite Outcome.skip ?_
    split
    · exact Outcome.skip
    · exact Outcome.ite (Outcome.add (List.mem_singleton_self _)) Outcome.skip

theorem outcome_ruleEchPresent (h : SameGroups sa sa') :
    Outcome ["ech-observed"] sa sa' (ruleEchPresent sa) (ruleEchPresent sa') := by
  unfold ruleEchPresent
  rw [h.ech]
  exact Outcome.ite (Outcome.add (List.mem_singleton_self _)) Outcome.skip

end

/-! ## 版の rule -/

/-- 版と、client の差し出す cipher・compression が同じである。 -/
structure SameOffer (sa sa' : SessionAnalysis) : Prop where
  tlsVersion : sa'.tlsVersion = sa.tlsVersion
  hello : (sa'.clientHello.map fun ch => (offersPfs ch, ch.compression)) =
    sa.clientHello.map fun ch => (offersPfs ch, ch.compression)

theorem SameOffer.facts (sa : SessionAnalysis) : SameOffer sa sa.facts := ⟨rfl, rfl⟩

/-- 版と、client の差し出す版の最大が同じである。 -/
structure SameTop (sa sa' : SessionAnalysis) : Prop where
  tlsVersion : sa'.tlsVersion = sa.tlsVersion
  serverHello : sa'.serverHello = sa.serverHello
  hello : (sa'.clientHello.map fun ch => (ch.offeredVersions.max?, ch.legacyVersion)) =
    sa.clientHello.map fun ch => (ch.offeredVersions.max?, ch.legacyVersion)

theorem SameTop.facts (sa : SessionAnalysis) : SameTop sa sa.facts := ⟨rfl, rfl, rfl⟩

section
variable {sa sa' : SessionAnalysis}

theorem outcome_ruleDeprecatedVersion (h : sa'.tlsVersion = sa.tlsVersion) :
    Outcome ["tls-version-sslv3", "tls-version-tls1-0", "tls-version-tls1-1"] sa sa'
      (ruleDeprecatedVersion sa) (ruleDeprecatedVersion sa') := by
  unfold ruleDeprecatedVersion
  rw [h]
  split
  · exact Outcome.skip
  · next name sev why hv =>
    obtain ⟨v, -, hv⟩ := Option.bind_eq_some_iff.mp hv
    refine Outcome.add ?_
    obtain ⟨l₁, l₂, hl, -⟩ := List.lookup_eq_some_iff.mp hv
    have hmem : (v, name, sev, why) ∈ WEAK_VERSIONS := by
      rw [hl]
      exact List.mem_append_right _ List.mem_cons_self
    have hall : ∀ e ∈ WEAK_VERSIONS, "tls-version-" ++ slug e.2.1 ∈
        ["tls-version-sslv3", "tls-version-tls1-0", "tls-version-tls1-1"] := by decide +kernel
    have hid := hall (v, name, sev, why) hmem
    exact hid

theorem outcome_ruleNoClientHelloPfsCapability (h : SameOffer sa sa') :
    Outcome ["client-no-pfs-suites"] sa sa' (ruleNoClientHelloPfsCapability sa)
      (ruleNoClientHelloPfsCapability sa') := by
  unfold ruleNoClientHelloPfsCapability
  rcases option_map_cases h.hello with ⟨hch, hch'⟩ | ⟨ch, ch', hch, hch', hview⟩
  · rw [hch, hch']
    exact Outcome.skip
  · have hpfs : offersPfs ch' = offersPfs ch := congrArg Prod.fst hview
    rw [hch, hch', h.tlsVersion]
    cases sa.tlsVersion with
    | none => exact Outcome.skip
    | some v =>
      simp only [hpfs]
      exact Outcome.ite (Outcome.add (List.mem_singleton_self _)) Outcome.skip

theorem outcome_ruleDowngradeSentinel (h : SameTop sa sa') :
    Outcome ["downgrade-attack-detected"] sa sa' (ruleDowngradeSentinel sa)
      (ruleDowngradeSentinel sa') := by
  unfold ruleDowngradeSentinel
  rcases option_map_cases h.hello with ⟨hch, hch'⟩ | ⟨ch, ch', hch, hch', hview⟩
  · rw [hch, hch', h.serverHello]
    split
    · exact Outcome.skip
    · exact Outcome.skip
  · have htop : ch'.offeredVersions.max? = ch.offeredVersions.max? := congrArg Prod.fst hview
    rw [hch, hch', h.serverHello, h.tlsVersion, Option.bind_some, Option.bind_some, htop]
    split
    · exact Outcome.skip
    · split
      · exact Outcome.ite (Outcome.add (List.mem_singleton_self _)) Outcome.skip
      · exact Outcome.skip

theorem outcome_ruleTlsVersionDowngrade (h : SameTop sa sa') :
    Outcome ["tls-version-downgrade-suspected", "tls13-not-negotiated"] sa sa'
      (ruleTlsVersionDowngrade sa) (ruleTlsVersionDowngrade sa') := by
  unfold ruleTlsVersionDowngrade
  rcases option_map_cases h.hello with ⟨hch, hch'⟩ | ⟨ch, ch', hch, hch', hview⟩
  · rw [hch, hch']
    exact Outcome.skip
  · have htop : ch'.offeredVersions.max? = ch.offeredVersions.max? := congrArg Prod.fst hview
    rw [hch, hch', h.tlsVersion, Option.bind_some, Option.bind_some, htop]
    split
    · refine Outcome.ite Outcome.skip (Outcome.ite (Outcome.add List.mem_cons_self) ?_)
      exact Outcome.ite (Outcome.add (List.mem_cons_of_mem _ List.mem_cons_self)) Outcome.skip
    · exact Outcome.skip

theorem outcome_ruleOutdatedClientStack (h : SameTop sa sa') :
    Outcome ["outdated-client-stack"] sa sa' (ruleOutdatedClientStack sa)
      (ruleOutdatedClientStack sa') := by
  unfold ruleOutdatedClientStack
  rcases option_map_cases h.hello with ⟨hch, hch'⟩ | ⟨ch, ch', hch, hch', hview⟩
  · rw [hch, hch']
    exact Outcome.skip
  · have htop : ch'.offeredVersions.max? = ch.offeredVersions.max? := congrArg Prod.fst hview
    have hlegacy : ch'.legacyVersion = ch.legacyVersion := congrArg Prod.snd hview
    rw [hch, hch', Option.bind_some, Option.bind_some, htop, hlegacy]
    split
    · exact Outcome.skip
    · exact Outcome.ite (Outcome.add (List.mem_singleton_self _)) Outcome.skip

theorem outcome_ruleLegacyCompression (h : SameOffer sa sa') :
    Outcome ["legacy-compression-offered"] sa sa' (ruleLegacyCompression sa)
      (ruleLegacyCompression sa') := by
  unfold ruleLegacyCompression
  rcases option_map_cases h.hello with ⟨hch, hch'⟩ | ⟨ch, ch', hch, hch', hview⟩
  · rw [hch, hch']
    exact Outcome.skip
  · rw [hch, hch', h.tlsVersion]
    have hcompression : ch'.compression = ch.compression := congrArg Prod.snd hview
    simp only [hcompression]
    exact Outcome.ite (Outcome.add (List.mem_singleton_self _)) Outcome.skip

end

/-! ## 平文の rule -/

/-- 条件が事実だけから決まる rule。 -/
theorem Appends.ite {ids : List String} {c : SessionAnalysis → Prop} [DecidablePred c] {body : Rule}
    (hc : ∀ sa, c sa.facts ↔ c sa) (h : ∀ sa, Outcome ids sa sa.facts (body sa) (body sa.facts)) :
    Appends ids fun sa => if c sa then body sa else sa := by
  refine Appends.of_outcome fun sa => ?_
  simp only [hc]
  split
  · exact h sa
  · exact Outcome.skip

theorem appends_ruleSslInPlaintext : Appends ["plaintext-mail-protocol"] ruleSslInPlaintext :=
  Appends.ite (fun _ => Iff.rfl) fun _ => Outcome.add (List.mem_singleton_self _)

theorem appends_ruleStarttlsStrip : Appends ["starttls-strip-attempt"] ruleStarttlsStrip :=
  Appends.ite (fun _ => Iff.rfl) fun _ => Outcome.add (List.mem_singleton_self _)

theorem appends_ruleNoTlsOnTlsPort : Appends ["no-tls-on-implicit-port"] ruleNoTlsOnTlsPort :=
  Appends.ite (fun _ => Iff.rfl) fun _ => Outcome.add (List.mem_singleton_self _)

theorem appends_ruleHandshakeIncomplete :
    Appends ["tls-handshake-incomplete"] ruleHandshakeIncomplete :=
  Appends.ite (fun _ => Iff.rfl) fun _ => Outcome.add (List.mem_singleton_self _)

section
variable (now : Int)

/-! ## rule の列 -/

/-- rule と、その出す finding の id。 -/
def ruleTable : List (List String × Rule) :=
  [(["tls-version-sslv3", "tls-version-tls1-0", "tls-version-tls1-1"], ruleDeprecatedVersion),
    (["non-aead-bulk-cipher"], ruleNonAeadCipher), (["weak-cipher-suite"], ruleWeakCipher),
    (["export-grade-cipher"], ruleExportCipher), (["non-pfs-key-exchange"], ruleNonPfs),
    (["rc4-cipher"], ruleRc4), (["3des-cipher"], rule3des),
    (["expired-certificate"], ruleCertExpired now),
    (["certificate-not-yet-valid"], ruleCertNotYetValid now),
    (["self-signed-certificate"], ruleCertSelfSigned),
    (["untrusted-certificate-chain"], ruleChainUntrusted),
    (["weak-signature-algorithm"], ruleWeakSignature), (["short-public-key"], ruleShortKey),
    (["plaintext-mail-protocol"], ruleSslInPlaintext),
    (["starttls-strip-attempt"], ruleStarttlsStrip),
    (["client-no-pfs-suites"], ruleNoClientHelloPfsCapability),
    (["no-tls-on-implicit-port"], ruleNoTlsOnTlsPort),
    (["tls-handshake-incomplete"], ruleHandshakeIncomplete),
    (["unknown-cipher-suite"], ruleUnknownCipher),
    (["deprecated-group-negotiated", "deprecated-group-offered"], ruleLegacyGroups),
    (["no-modern-pfs-group"], ruleNoModernPfsGroup),
    (["downgrade-attack-detected"], ruleDowngradeSentinel),
    (["hrr-group-mismatch"], ruleHrrAnomaly),
    (["tls-version-downgrade-suspected", "tls13-not-negotiated"], ruleTlsVersionDowngrade),
    (["ech-observed"], ruleEchPresent), (["legacy-compression-offered"], ruleLegacyCompression),
    (["outdated-client-stack"], ruleOutdatedClientStack)]

theorem map_snd_ruleTable : (ruleTable now).map Prod.snd = ALL_RULES now := rfl

/-- 読む欄が同じなら同じ finding を足す rule は、足すだけの rule である。 -/
theorem Appends.of_same {ids : List String} {rule : Rule}
    {Same : SessionAnalysis → SessionAnalysis → Prop} (hfacts : ∀ sa, Same sa sa.facts)
    (h : ∀ {sa sa'}, Same sa sa' → Outcome ids sa sa' (rule sa) (rule sa')) : Appends ids rule :=
  Appends.of_outcome fun sa => h (hfacts sa)

/-- **どの rule も、自分の id の finding を足すだけである。** -/
theorem appends_ruleTable : ∀ e ∈ ruleTable now, Appends e.1 e.2 := by
  simp only [ruleTable, List.forall_mem_cons]
  exact ⟨.of_outcome fun _ => outcome_ruleDeprecatedVersion rfl,
    .of_same SameCipher.facts outcome_ruleNonAeadCipher,
    .of_same SameCipher.facts outcome_ruleWeakCipher,
    .of_same SameCipher.facts outcome_ruleExportCipher,
    .of_same SameCipher.facts outcome_ruleNonPfs, .of_same SameCipher.facts outcome_ruleRc4,
    .of_same SameCipher.facts outcome_rule3des, (certRule_ruleCertExpired now).appends,
    (certRule_ruleCertNotYetValid now).appends, certRule_ruleCertSelfSigned.appends,
    certRule_ruleChainUntrusted.appends, certRule_ruleWeakSignature.appends,
    certRule_ruleShortKey.appends, appends_ruleSslInPlaintext, appends_ruleStarttlsStrip,
    .of_same SameOffer.facts outcome_ruleNoClientHelloPfsCapability,
    appends_ruleNoTlsOnTlsPort, appends_ruleHandshakeIncomplete,
    .of_same SameCipher.facts outcome_ruleUnknownCipher,
    .of_same SameGroups.facts outcome_ruleLegacyGroups,
    .of_same SameGroups.facts outcome_ruleNoModernPfsGroup,
    .of_same SameTop.facts outcome_ruleDowngradeSentinel,
    .of_same SameGroups.facts outcome_ruleHrrAnomaly,
    .of_same SameTop.facts outcome_ruleTlsVersionDowngrade,
    .of_same SameGroups.facts outcome_ruleEchPresent,
    .of_same SameOffer.facts outcome_ruleLegacyCompression,
    .of_same SameTop.facts outcome_ruleOutdatedClientStack, List.forall_mem_nil _⟩

/-- 二つの rule が同じ id の finding を出すことは無い。 -/
theorem disjoint_ruleTable :
    ((ruleTable now).map Prod.fst).Pairwise fun ids ids' => ∀ id ∈ ids, id ∉ ids' := by
  have hmap : (ruleTable now).map Prod.fst = (ruleTable 0).map Prod.fst := rfl
  rw [hmap]
  decide +kernel

/-- rule を順に走らせる。 -/
def runAll (rules : List Rule) (sa : SessionAnalysis) : SessionAnalysis :=
  rules.foldl (fun sa rule => rule sa) sa

/-- 事実が同じなら、出す finding も同じである。 -/
theorem emitted_congr (rule : Rule) {sa sa' : SessionAnalysis} (h : sa.facts = sa'.facts) :
    emitted rule sa = emitted rule sa' := by
  rw [emitted, emitted, h]

/-- 足すだけの rule の列は、それぞれの finding を順に足す。 -/
theorem findings_runAll : ∀ {rules : List Rule}, (∀ rule ∈ rules, ∃ ids, Appends ids rule) →
    ∀ sa, (runAll rules sa).facts = sa.facts ∧
      (runAll rules sa).findings = sa.findings ++ rules.flatMap fun rule => emitted rule sa := by
  intro rules
  induction rules with
  | nil => exact fun _ sa => ⟨rfl, (List.append_nil _).symm⟩
  | cons rule rules ih =>
    intro h sa
    obtain ⟨⟨ids, hrule⟩, hrules⟩ := List.forall_mem_cons.mp h
    obtain ⟨hfacts, hfindings⟩ := ih hrules (rule sa)
    refine ⟨hfacts.trans (hrule.facts sa), ?_⟩
    have htail : (rules.flatMap fun r => emitted r (rule sa)) =
        rules.flatMap fun r => emitted r sa :=
      congrArg rules.flatMap (funext fun r => emitted_congr r (hrule.facts sa))
    calc (runAll rules (rule sa)).findings
        = (rule sa).findings ++ rules.flatMap fun r => emitted r (rule sa) := hfindings
      _ = (sa.findings ++ emitted rule sa) ++ rules.flatMap fun r => emitted r sa := by
          rw [hrule.findings, htail]
      _ = sa.findings ++ (rule :: rules).flatMap fun r => emitted r sa := by
          rw [List.append_assoc, List.flatMap_cons]

/-- 列の中のどの rule も、足すだけの rule である。 -/
theorem appends_allRules : ∀ rule ∈ ALL_RULES now, ∃ ids, Appends ids rule := by
  rw [← map_snd_ruleTable]
  intro rule hrule
  obtain ⟨e, he, rfl⟩ := List.mem_map.mp hrule
  exact ⟨e.1, appends_ruleTable now e he⟩

/-- TLS 1.3 でない session では、rule の列は何も記録しない。 -/
theorem notObservable_runAll : ∀ {rules : List Rule}, (∀ rule ∈ rules, ∃ ids, Appends ids rule) →
    ∀ sa, sa.seesTls13 = false → (runAll rules sa).notObservable = sa.notObservable := by
  intro rules
  induction rules with
  | nil => exact fun _ sa _ => rfl
  | cons rule rules ih =>
    intro h sa hoff
    obtain ⟨⟨ids, hrule⟩, hrules⟩ := List.forall_mem_cons.mp h
    have hkeep : (rule sa).facts.seesTls13 = sa.facts.seesTls13 := by rw [hrule.facts sa]
    exact (ih hrules (rule sa) (hkeep.trans hoff)).trans (hrule.quiet sa hoff)

/-- **`run_rules` の結果は、rule ごとの finding を順に並べたものである。** -/
theorem findings_runRules (lib : Analyzer) (sa : SessionAnalysis) :
    (runRules (lib.withRules now) sa).findings =
      sa.findings ++ (ruleTable now).flatMap fun e => emitted e.2 sa := by
  rw [runRules_withRules]
  refine ((findings_runAll (appends_allRules now) sa).2).trans ?_
  rw [← map_snd_ruleTable, List.flatMap_map]

/-- rule は、findings と not_observable の他の欄を変えない。 -/
theorem facts_runRules (lib : Analyzer) (sa : SessionAnalysis) :
    (runRules (lib.withRules now) sa).facts = sa.facts := by
  rw [runRules_withRules]
  exact (findings_runAll (appends_allRules now) sa).1

/-- 同じ id の finding を出す rule は一つしかない。 -/
theorem eq_of_mem_ids {e e' : List String × Rule} (he : e ∈ ruleTable now)
    (he' : e' ∈ ruleTable now) {id : String} (hid : id ∈ e.1) (hid' : id ∈ e'.1) : e = e' := by
  have hpair := List.pairwise_map.mp (disjoint_ruleTable now)
  have huniq : ∀ x ∈ ruleTable now, ∀ y ∈ ruleTable now, ∀ id ∈ x.1, id ∈ y.1 → x = y :=
    List.Pairwise.forall_of_forall_of_flip (fun _ _ _ _ _ => rfl)
      (hpair.imp fun hxy id hx hy => absurd hy (hxy id hx))
      (hpair.imp fun {x y} hxy =>
        (fun id hy hx => absurd hy (hxy id hx) : ∀ id ∈ y.1, id ∈ x.1 → y = x))
  exact huniq e he e' he' id hid hid'

/-- ある id の finding を出すのは、その id の rule である。 -/
theorem mem_findings_iff (lib : Analyzer) {e : List String × Rule} (he : e ∈ ruleTable now)
    {sa : SessionAnalysis} (hsa : sa.findings = []) {f : SessionFinding} (hid : f.ruleId ∈ e.1) :
    f ∈ (runRules (lib.withRules now) sa).findings ↔ f ∈ emitted e.2 sa := by
  rw [findings_runRules, hsa, List.nil_append, List.mem_flatMap]
  constructor
  · rintro ⟨e', he', hf⟩
    have hid' := (appends_ruleTable now e' he').ids sa f hf
    rw [eq_of_mem_ids now he he' hid hid']
    exact hf
  · intro hf
    exact ⟨e, he, hf⟩

/-- finding の id と重さ。 -/
def verdicts (findings : List SessionFinding) : List (String × String) :=
  findings.map fun f => (f.ruleId, f.severity)

/-- 並べた列が同じなら、互いに素な印の付いた塊は一つずつ同じである。 -/
theorem chunks_eq {α : Type} {labels : List (List String)} {chunks chunks' : List (List (String × α))}
    (hdisj : labels.Pairwise fun ids ids' => ∀ id ∈ ids, id ∉ ids')
    (h : List.Forall₂ (fun ids chunk => ∀ v ∈ chunk, v.1 ∈ ids) labels chunks)
    (h' : List.Forall₂ (fun ids chunk => ∀ v ∈ chunk, v.1 ∈ ids) labels chunks')
    (heq : chunks.flatten = chunks'.flatten) : chunks = chunks' := by
  induction h generalizing chunks' with
  | nil =>
    cases h'
    rfl
  | @cons ids chunk labels chunks hchunk hrest ih =>
    cases h' with
    | @cons _ chunk' _ chunks'' hchunk' hrest' =>
      obtain ⟨hids, hdisj⟩ := List.pairwise_cons.mp hdisj
      -- 塊の印で選び出せば、残りは消える
      have hkeep : ∀ {c : List (String × α)}, (∀ v ∈ c, v.1 ∈ ids) →
          c.filter (fun v => decide (v.1 ∈ ids)) = c := fun hc =>
        List.filter_eq_self.mpr fun v hv => decide_eq_true (hc v hv)
      have hdrop : ∀ {cs : List (List (String × α))},
          List.Forall₂ (fun ids chunk => ∀ v ∈ chunk, v.1 ∈ ids) labels cs →
          cs.flatten.filter (fun v => decide (v.1 ∈ ids)) = [] := by
        intro cs hcs
        refine List.filter_eq_nil_iff.mpr fun v hv => ?_
        obtain ⟨c, hc, hv⟩ := List.mem_flatten.mp hv
        obtain ⟨ids', hids', hall⟩ := Aligned.exists_left hcs hc
        have hne := hids ids' hids' v.1
        simpa using fun hmem => hne hmem (hall v hv)
      have hfilter := congrArg (List.filter fun v => decide (v.1 ∈ ids)) heq
      rw [List.flatten_cons, List.flatten_cons, List.filter_append, List.filter_append,
        hkeep hchunk, hkeep hchunk', hdrop hrest, hdrop hrest', List.append_nil,
        List.append_nil] at hfilter
      rw [List.flatten_cons, List.flatten_cons, hfilter] at heq
      rw [hfilter, ih hdisj hrest' (List.append_cancel_left heq)]

/-- **id と重さの列が同じなのは、どの rule の出すものも同じときである。** -/
theorem verdicts_eq_iff (lib : Analyzer) {sa sa' : SessionAnalysis} (hsa : sa.findings = [])
    (hsa' : sa'.findings = []) :
    verdicts (runRules (lib.withRules now) sa).findings =
      verdicts (runRules (lib.withRules now) sa').findings ↔
    ∀ rule ∈ ALL_RULES now, verdicts (emitted rule sa) = verdicts (emitted rule sa') := by
  have hflat : ∀ {t : SessionAnalysis}, t.findings = [] →
      verdicts (runRules (lib.withRules now) t).findings =
        ((ruleTable now).map fun e => verdicts (emitted e.2 t)).flatten := by
    intro t ht
    rw [findings_runRules, ht, List.nil_append, verdicts, List.map_flatMap, List.flatMap_def]
    rfl
  have hlabels : ∀ t, List.Forall₂ (fun ids chunk => ∀ v ∈ chunk, v.1 ∈ ids)
      ((ruleTable now).map Prod.fst) ((ruleTable now).map fun e => verdicts (emitted e.2 t)) := by
    intro t
    refine List.forall₂_map_left_iff.mpr (List.forall₂_map_right_iff.mpr ?_)
    refine List.forall₂_same.mpr fun e he v hv => ?_
    obtain ⟨f, hf, rfl⟩ := List.mem_map.mp hv
    exact (appends_ruleTable now e he).ids t f hf
  rw [hflat hsa, hflat hsa', ← map_snd_ruleTable]
  constructor
  · intro h rule hrule
    obtain ⟨e, he, rfl⟩ := List.mem_map.mp hrule
    exact List.map_inj_left.mp (chunks_eq (disjoint_ruleTable now) (hlabels sa) (hlabels sa') h) e he
  · intro h
    rw [List.map_congr_left fun e he => h e.2 (List.mem_map_of_mem he)]

end

/-! ## rule の前 -/

/-- 読み取った handshake と証明書を、解析にまとめる。 -/
def assemble (lib : Analyzer) (sess : Session) (ch : Option ClientHelloInfo)
    (server : Option ServerHelloInfo) (certificate : Option CertificateInfo)
    (certs : List CertAnalysis) : SessionAnalysis :=
  let sa := ((startAnalysis sess).withHello ch server).withCerts lib certificate certs
  { sa with visibility := some (visibilityOf sa) }

/-- rule に渡る前の解析。 -/
def prepared (lib : Analyzer) (sess : Session) : Except AnalyzeError SessionAnalysis :=
  if sess.tlsSegment = [] then .ok (startAnalysis sess)
  else do
    let ch ← clientHelloOf sess
    let (server, certificate) ← serverSideOf sess
    let certs ← ((certificate.map (·.rawCerts)).getD []).mapM (analyzeCertificate lib)
    .ok (assemble lib sess ch server certificate certs)

section
variable (lib : Analyzer) {sess : Session} {ch : Option ClientHelloInfo}

theorem prepared_of_error (htls : sess.tlsSegment ≠ []) (hch : clientHelloOf sess = .ok ch)
    {e : AnalyzeError} (hside : serverSideOf sess = .error e) : prepared lib sess = .error e := by
  unfold prepared
  rw [if_neg htls, hch, hside]
  rfl

theorem prepared_of_ok (htls : sess.tlsSegment ≠ []) (hch : clientHelloOf sess = .ok ch)
    {server : Option ServerHelloInfo} {certificate : Option CertificateInfo}
    (hside : serverSideOf sess = .ok (server, certificate)) :
    prepared lib sess =
      (((certificate.map (·.rawCerts)).getD []).mapM (analyzeCertificate lib)).map
        (assemble lib sess ch server certificate) := by
  unfold prepared
  rw [if_neg htls, hch, hside]
  show (((certificate.map (·.rawCerts)).getD []).mapM (analyzeCertificate lib) >>= _) = _
  cases ((certificate.map (·.rawCerts)).getD []).mapM (analyzeCertificate lib) <;> rfl

end

/-- `analyze_session` は、その結果に rule を走らせたものである。 -/
theorem analyzeSession_eq (lib : Analyzer) (sess : Session) :
    analyzeSession lib sess = (prepared lib sess).map (runRules lib) := by
  by_cases htls : sess.tlsSegment = []
  · unfold analyzeSession prepared
    rw [if_pos htls, if_pos htls]
    rfl
  · cases hch : clientHelloOf sess with
    | error e =>
      unfold analyzeSession prepared
      rw [if_neg htls, if_neg htls, hch]
      rfl
    | ok ch =>
      cases hside : serverSideOf sess with
      | error e =>
        rw [prepared_of_error lib htls hch hside]
        unfold analyzeSession
        rw [if_neg htls, hch, hside]
        rfl
      | ok side =>
        obtain ⟨server, certificate⟩ := side
        rw [prepared_of_ok lib htls hch hside]
        unfold analyzeSession
        rw [if_neg htls, hch, hside]
        show (((certificate.map (·.rawCerts)).getD []).mapM (analyzeCertificate lib) >>= _) = _
        cases ((certificate.map (·.rawCerts)).getD []).mapM (analyzeCertificate lib) <;> rfl

/-- rule の列は、準備には関わらない。 -/
theorem prepared_withRules (lib : Analyzer) (now : Int) (sess : Session) :
    prepared (lib.withRules now) sess = prepared lib sess := rfl

/-- 成功した解析は、準備の後に rule を通したものである。 -/
theorem analyzeSession_eq_ok_iff {lib : Analyzer} {now : Int} {sess : Session}
    {sa : SessionAnalysis} : analyzeSession (lib.withRules now) sess = .ok sa ↔
      ∃ start, prepared lib sess = .ok start ∧ runRules (lib.withRules now) start = sa := by
  rw [analyzeSession_eq, prepared_withRules]
  cases prepared lib sess with
  | error e => exact ⟨fun h => (by cases h), fun ⟨_, h, _⟩ => (by cases h)⟩
  | ok start =>
    constructor
    · exact fun h => ⟨start, rfl, Except.ok.inj h⟩
    · rintro ⟨_, hprep, rfl⟩
      rw [Except.ok.inj hprep]
      rfl

/-- 二つの hello を書くと、版と cipher の他は変わらない。 -/
theorem withHello_rest (sa : SessionAnalysis) (ch : Option ClientHelloInfo)
    (sh : Option ServerHelloInfo) :
    ∃ version name cipher cipherMeta iana strength, sa.withHello ch sh = { sa with
      clientHello := ch, serverHello := sh, tlsVersion := version, negotiatedVersionName := name
      cipher := cipher, cipherMeta := cipherMeta, cipherIana := iana, cipherStrength := strength } := by
  unfold SessionAnalysis.withHello
  simp only
  split
  · split
    · exact ⟨_, _, _, _, _, _, rfl⟩
    · exact ⟨_, _, _, _, _, _, rfl⟩
    · split <;> exact ⟨_, _, _, _, _, _, rfl⟩
  · exact ⟨_, _, _, _, _, _, rfl⟩
  · exact ⟨_, _, _, _, _, _, rfl⟩

theorem findings_withHello (sa : SessionAnalysis) (ch : Option ClientHelloInfo)
    (sh : Option ServerHelloInfo) : (sa.withHello ch sh).findings = sa.findings := by
  obtain ⟨version, name, cipher, cipherMeta, iana, strength, h⟩ := withHello_rest sa ch sh
  rw [h]

/-- 証明書の欄を書いても、他の欄は変わらない。 -/
theorem withCerts_rest (lib : Analyzer) (sa : SessionAnalysis)
    (certificate : Option CertificateInfo) (certs : List CertAnalysis) :
    ∃ certs' result error, sa.withCerts lib certificate certs = { sa with
      certificate := certificate, certs := certs', chainResult := result, chainError := error } := by
  unfold SessionAnalysis.withCerts
  simp only
  split <;> exact ⟨_, _, _, rfl⟩

/-- 証明書を読まない解析。 -/
def bareAnalyzer : Analyzer where
  loadCert _ := .error "unreadable"
  validateChain _ _ _ := ("config-error", "no trust anchors could be loaded")

end CipherPost.Parsing
