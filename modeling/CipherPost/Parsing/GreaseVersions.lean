import CipherPost.Parsing.Grease

/-!
# GREASE と版の rule

版の最大を取る所は、どこも GREASE を除かない。client の最良の版が GREASE に替わると、格下げの rule は
誤って鳴り、古い版を咎める rule は黙る。

* `downgradeVerdict`・`offersAbove` — 版を読む rule の結果
* `TopIgnored` — 最大の版が GREASE に替わっても、どの rule も気付かないこと
* `Twins.verdicts_iff` — rule ごとの結果が変わらないための条件
* `greased_verdicts_iff` — session の結果が変わらないための条件
-/

namespace CipherPost.Parsing

/-! ## 版の rule の結果 -/

section
variable {ch : ClientHelloInfo} {sa : SessionAnalysis}

theorem verdicts_outdated (hello : sa.clientHello = some ch) :
    verdicts (emitted ruleOutdatedClientStack sa) =
      if (bestOffer ch).any (fun c => decide (c ≤ 0x0302)) then
        [("outdated-client-stack", Severity.INFO)] else [] := by
  unfold emitted ruleOutdatedClientStack
  have hello' : sa.facts.clientHello = some ch := hello
  rw [hello', Option.bind_some]
  unfold bestOffer
  cases ch.offeredVersions.max?.or ch.legacyVersion with
  | none => rfl
  | some c =>
    by_cases hc : c ≤ 0x0302
    · simp only [hc, if_true, Option.any_some, decide_true]
      rfl
    · simp only [hc, if_false, Option.any_some, decide_false, Bool.false_eq_true]
      rfl

/-- client の差し出す版の中に、`v` より大きいものがある。 -/
def offersAbove (ch : ClientHelloInfo) (v : Nat) : Bool :=
  ch.offeredVersions.max?.any fun a => decide (v < a)

theorem verdicts_sentinel (hello : sa.clientHello = some ch) :
    verdicts (emitted ruleDowngradeSentinel sa) =
      if (sa.serverHello.bind (·.downgradeSentinel)).isSome && sa.tlsVersion.any (offersAbove ch) then
        [("downgrade-attack-detected", Severity.CRITICAL)] else [] := by
  unfold emitted ruleDowngradeSentinel
  have hello' : sa.facts.clientHello = some ch := hello
  have hserver : sa.facts.serverHello = sa.serverHello := rfl
  have hversion : sa.facts.tlsVersion = sa.tlsVersion := rfl
  rw [hello', hserver, hversion, Option.bind_some]
  unfold offersAbove
  cases sa.serverHello.bind (·.downgradeSentinel) with
  | none => rfl
  | some sentinel =>
    cases ch.offeredVersions.max? with
    | none => cases sa.tlsVersion <;> rfl
    | some a =>
      cases sa.tlsVersion with
      | none => rfl
      | some v =>
        by_cases hv : v < a
        · simp only [hv, if_true, Option.any_some, decide_true, Option.isSome_some, Bool.and_self]
          rfl
        · simp only [hv, if_false, Option.any_some, decide_false, Bool.and_false,
            Bool.false_eq_true]
          rfl

/-- `rule_tls_version_downgrade` の、id と重さ。 -/
def downgradeVerdict (best v : Nat) : List (String × String) :=
  if best ≤ v then []
  else if v ≤ 0x0302 ∧ 0x0303 ≤ best then [("tls-version-downgrade-suspected", Severity.HIGH)]
  else if v = 0x0303 ∧ best = 0x0304 then [("tls13-not-negotiated", Severity.INFO)]
  else []

theorem verdicts_downgrade (hello : sa.clientHello = some ch) :
    verdicts (emitted ruleTlsVersionDowngrade sa) =
      match ch.offeredVersions.max?, sa.tlsVersion with
      | some best, some v => downgradeVerdict best v
      | _, _ => [] := by
  unfold emitted ruleTlsVersionDowngrade
  have hello' : sa.facts.clientHello = some ch := hello
  have hversion : sa.facts.tlsVersion = sa.tlsVersion := rfl
  rw [hello', hversion, Option.bind_some]
  cases ch.offeredVersions.max? with
  | none => cases sa.tlsVersion <;> rfl
  | some best =>
    cases sa.tlsVersion with
    | none => rfl
    | some v =>
      simp only [downgradeVerdict]
      by_cases h₁ : best ≤ v
      · rw [if_pos h₁, if_pos h₁]
        rfl
      · rw [if_neg h₁, if_neg h₁]
        by_cases h₂ : v ≤ 0x0302 ∧ 0x0303 ≤ best
        · rw [if_pos h₂, if_pos h₂]
          rfl
        · rw [if_neg h₂, if_neg h₂]
          by_cases h₃ : v = 0x0303 ∧ best = 0x0304
          · rw [if_pos h₃, if_pos h₃]
            rfl
          · rw [if_neg h₃, if_neg h₃]
            rfl

theorem verdicts_noPfs (hello : sa.clientHello = some ch) :
    verdicts (emitted ruleNoClientHelloPfsCapability sa) =
      if sa.tlsVersion.any (fun v => decide (0 < v ∧ v < 0x0304)) && !offersPfs ch then
        [("client-no-pfs-suites", Severity.LOW)] else [] := by
  unfold emitted ruleNoClientHelloPfsCapability
  have hello' : sa.facts.clientHello = some ch := hello
  have hversion : sa.facts.tlsVersion = sa.tlsVersion := rfl
  rw [hello', hversion]
  cases sa.tlsVersion with
  | none => rfl
  | some v =>
    by_cases hv : 0 < v ∧ v < 0x0304
    · cases hpfs : offersPfs ch with
      | true => simp [hpfs, SessionAnalysis.facts, verdicts]
      | false => simp [hpfs, hv, SessionAnalysis.facts, verdicts, SessionAnalysis.add]
    · have hv' : ¬(0 < v ∧ v < 0x0304 ∧ ¬offersPfs ch) := fun h => hv ⟨h.1, h.2.1⟩
      simp only [hv', if_false, Option.any_some, hv, decide_false, Bool.false_and,
        Bool.false_eq_true]
      rfl

theorem verdicts_compression (hello : sa.clientHello = some ch) :
    verdicts (emitted ruleLegacyCompression sa) =
      if sa.tlsVersion = some 0x0304 ∧ ch.compression ≠ [] ∧ ch.compression ≠ [0] then
        [("legacy-compression-offered", Severity.LOW)] else [] := by
  unfold emitted ruleLegacyCompression
  have hello' : sa.facts.clientHello = some ch := hello
  have hversion : sa.facts.tlsVersion = sa.tlsVersion := rfl
  rw [hello', hversion]
  simp only
  by_cases h : sa.tlsVersion = some 0x0304 ∧ ch.compression ≠ [] ∧ ch.compression ≠ [0]
  · rw [if_pos h, if_pos h]
    rfl
  · rw [if_neg h, if_neg h]
    rfl

/-- 表に無い版には何も言わない。 -/
theorem emitted_deprecated (h : ∀ v, sa.tlsVersion = some v → 0x0302 < v) :
    emitted ruleDeprecatedVersion sa = [] := by
  unfold emitted ruleDeprecatedVersion
  have hversion : sa.facts.tlsVersion = sa.tlsVersion := rfl
  rw [hversion]
  split
  · rfl
  · next name sev why hlookup =>
    obtain ⟨v, hv, hlookup⟩ := Option.bind_eq_some_iff.mp hlookup
    obtain ⟨l₁, l₂, hl, -⟩ := List.lookup_eq_some_iff.mp hlookup
    have hmem : (v, name, sev, why) ∈ WEAK_VERSIONS := by
      rw [hl]
      exact List.mem_append_right _ List.mem_cons_self
    have hle : ∀ e ∈ WEAK_VERSIONS, e.1 ≤ 0x0302 := by decide
    have hle' := hle (v, name, sev, why) hmem
    have hlt := h v hv
    omega

end

/-! ## 最大の版が替わるとき -/

/-- 証明書の rule が、飛ばさなければ出すもの。 -/
def certFires (now : Int) (sa : SessionAnalysis) : Bool :=
  sa.certs.any (·.expired now) || sa.certs.any (·.notYetValid now) ||
    sa.certs.head?.any (·.isSelfSigned) || decide (sa.chainResult ∈ CHAIN_FAILURES) ||
    sa.certs.any (·.weakSignature) || sa.certs.any (·.shortKey)

/--
client の最大の版が GREASE に替わっても、どの rule の結果も変わらない。`sa` は差し込む前の、rule に
渡る解析である。
-/
structure TopIgnored (now : Int) (ch ch' : ClientHelloInfo) (sa : SessionAnalysis) : Prop where
  /-- client は TLS 1.2 以降を差し出す。 -/
  notOutdated : ∀ c, bestOffer ch = some c → 0x0302 < c
  /-- server の選んだ版について、client のどの版との比較も変わらない。 -/
  negotiated : ∀ sh, sa.serverHello = some sh → ∀ v, sh.negotiatedVersion = some v →
    (v ≤ 0x0302 → ch.offeredVersions ≠ []) ∧
    (v = 0x0303 → ch.offeredVersions.max? ≠ some 0x0304) ∧
    (sh.downgradeSentinel.isSome → offersAbove ch' v = offersAbove ch v)
  /-- ServerHello が無ければ、版に応じて飛ばす rule も残る rule も変わらない。 -/
  alone : sa.serverHello = none → ∀ c, bestOffer ch = some c →
    (c = 0x0303 → offersPfs ch = true) ∧
    (c = 0x0304 → (ch.compression = [] ∨ ch.compression = [0]) ∧
      (certsUsable sa.certs = true ∨ certFires now sa = false))

namespace Twins

variable {ch ch' : ClientHelloInfo} {sa sa' : SessionAnalysis} {g : Nat}

/-- 最大の版は GREASE の値に替わった。 -/
structure Raised (ch ch' : ClientHelloInfo) (g : Nat) : Prop where
  mem : g ∈ GREASE
  top' : ch'.offeredVersions.max? = some g
  lt : ∀ a ∈ ch.offeredVersions, a < g

theorem Raised.bestOffer' (hr : Raised ch ch' g) : bestOffer ch' = some g := by
  rw [bestOffer, hr.top', Option.some_or]

theorem Raised.lt_of_top (hr : Raised ch ch' g) {a : Nat} (ha : ch.offeredVersions.max? = some a) :
    a < g := hr.lt a (List.max?_mem ha)

/-- 古い client の報告は、替わると必ず消える。 -/
theorem outdated_iff (h : Twins ch ch' sa sa') (hr : Raised ch ch' g) :
    verdicts (emitted ruleOutdatedClientStack sa') = verdicts (emitted ruleOutdatedClientStack sa) ↔
      ∀ c, bestOffer ch = some c → 0x0302 < c := by
  have hg := lt_of_mem_grease g hr.mem
  rw [verdicts_outdated h.hello, verdicts_outdated h.hello', hr.bestOffer', Option.any_some,
    decide_eq_false (by omega)]
  cases hbest : bestOffer ch with
  | none => exact iff_of_true rfl fun c hc => by cases hc
  | some c =>
    rw [Option.any_some]
    by_cases hc : c ≤ 0x0302
    · refine iff_of_false (by simp [hc]) fun hlt => ?_
      exact absurd (hlt c rfl) (by omega)
    · refine iff_of_true (by simp [hc]) fun c' hc' => ?_
      cases hc'
      omega

/-- downgrade の印の報告は、選ばれた版より大きい版があるかで決まる。 -/
theorem sentinel_iff (h : Twins ch ch' sa sa') {sh : ServerHelloInfo}
    (hserver : sa.serverHello = some sh) :
    verdicts (emitted ruleDowngradeSentinel sa') = verdicts (emitted ruleDowngradeSentinel sa) ↔
      ∀ v, sh.negotiatedVersion = some v → sh.downgradeSentinel.isSome = true →
        offersAbove ch' v = offersAbove ch v := by
  rw [verdicts_sentinel h.hello, verdicts_sentinel h.hello', h.serverHello, h.version, h.version',
    hserver, Option.bind_some]
  show (if _ && sh.negotiatedVersion.any (offersAbove ch') then _ else _) =
    (if _ && sh.negotiatedVersion.any (offersAbove ch) then _ else _) ↔ _
  cases sh.negotiatedVersion with
  | none => exact iff_of_true rfl fun v hv => by cases hv
  | some v =>
    cases sh.downgradeSentinel.isSome with
    | false => exact iff_of_true rfl fun v _ hs => by cases hs
    | true =>
      rw [Option.any_some, Option.any_some, Bool.true_and, Bool.true_and]
      cases hx : offersAbove ch' v <;> cases hy : offersAbove ch v <;> simp [hx, hy]

/-- 版の格下げの報告が変わらないための条件。 -/
theorem downgrade_iff (h : Twins ch ch' sa sa') (hr : Raised ch ch' g) {sh : ServerHelloInfo}
    (hserver : sa.serverHello = some sh) (hbest : ∀ c, bestOffer ch = some c → 0x0302 < c) :
    verdicts (emitted ruleTlsVersionDowngrade sa') = verdicts (emitted ruleTlsVersionDowngrade sa) ↔
      ∀ v, sh.negotiatedVersion = some v →
        (v ≤ 0x0302 → ch.offeredVersions ≠ []) ∧
        (v = 0x0303 → ch.offeredVersions.max? ≠ some 0x0304) := by
  have hg := lt_of_mem_grease g hr.mem
  rw [verdicts_downgrade h.hello, verdicts_downgrade h.hello', h.version, h.version', hserver,
    hr.top']
  show (match some g, sh.negotiatedVersion with | some best, some v => _ | _, _ => _) =
    (match ch.offeredVersions.max?, sh.negotiatedVersion with | some best, some v => _ | _, _ => _)
      ↔ _
  cases sh.negotiatedVersion with
  | none =>
    refine iff_of_true ?_ fun v hv => by cases hv
    cases ch.offeredVersions.max? <;> rfl
  | some v =>
    have hnew : downgradeVerdict g v =
        if v ≤ 0x0302 then [("tls-version-downgrade-suspected", Severity.HIGH)] else [] := by
      unfold downgradeVerdict
      by_cases hv : v ≤ 0x0302
      · rw [if_neg (by omega), if_pos ⟨hv, by omega⟩, if_pos hv]
      · rw [if_neg hv]
        split
        · rfl
        · rw [if_neg (by omega), if_neg (by omega)]
    show downgradeVerdict g v = _ ↔ _
    rw [hnew]
    cases htop : ch.offeredVersions.max? with
    | none =>
      have hnil : ch.offeredVersions = [] := List.max?_eq_none_iff.mp htop
      by_cases hv : v ≤ 0x0302
      · rw [if_pos hv]
        exact iff_of_false (by simp) fun hall => (hall v rfl).1 hv hnil
      · rw [if_neg hv]
        refine iff_of_true rfl fun v' hv' => ?_
        cases hv'
        exact ⟨fun hle => absurd hle hv, fun _ hnone => by cases hnone⟩
    | some a =>
      have ha : 0x0302 < a := hbest a (by rw [bestOffer, htop, Option.some_or])
      have hne : ch.offeredVersions ≠ [] := List.ne_nil_of_mem (List.max?_mem htop)
      have hlt := hr.lt_of_top htop
      show _ = downgradeVerdict a v ↔ _
      unfold downgradeVerdict
      by_cases hv : v ≤ 0x0302
      · rw [if_pos hv, if_neg (by omega), if_pos ⟨hv, by omega⟩]
        refine iff_of_true rfl fun v' hv' => ?_
        cases hv'
        exact ⟨fun _ => hne, fun heq => by omega⟩
      · rw [if_neg hv]
        by_cases h13 : v = 0x0303 ∧ a = 0x0304
        · rw [if_neg (by omega), if_neg (by omega), if_pos h13]
          refine iff_of_false (by simp) fun hall => (hall v rfl).2 h13.1 (by rw [h13.2])
        · refine iff_of_true ?_ fun v' hv' => ?_
          · split
            · rfl
            · rw [if_neg fun h₂ => hv h₂.1]
          · cases hv'
            refine ⟨fun hle => absurd hle hv, fun heq htop' => h13 ⟨heq, ?_⟩⟩
            exact Option.some.inj htop'

/-- ServerHello が無いとき、結果の版は最良の版から GREASE に替わる。 -/
theorem alone_version (h : Twins ch ch' sa sa') (hr : Raised ch ch' g)
    (hserver : sa.serverHello = none) :
    sa.tlsVersion = bestOffer ch ∧ sa'.tlsVersion = some g := by
  rw [h.version, h.version', hserver]
  exact ⟨rfl, hr.bestOffer'⟩

/-- ServerHello が無いとき、最大の版を読む残りの二つの rule は何も言わない。 -/
theorem alone_silent (h : Twins ch ch' sa sa') (hr : Raised ch ch' g)
    (hserver : sa.serverHello = none) :
    ∀ rule ∈ [ruleDowngradeSentinel, ruleTlsVersionDowngrade],
      verdicts (emitted rule sa') = verdicts (emitted rule sa) := by
  obtain ⟨hv, hv'⟩ := h.alone_version hr hserver
  have hsentinel : verdicts (emitted ruleDowngradeSentinel sa') =
      verdicts (emitted ruleDowngradeSentinel sa) := by
    rw [verdicts_sentinel h.hello, verdicts_sentinel h.hello', h.serverHello, hserver]
    rfl
  have hdowngrade : verdicts (emitted ruleTlsVersionDowngrade sa') =
      verdicts (emitted ruleTlsVersionDowngrade sa) := by
    rw [verdicts_downgrade h.hello, verdicts_downgrade h.hello', hv, hv', hr.top', bestOffer]
    show downgradeVerdict g g = _
    cases ch.offeredVersions.max? with
    | none => rw [downgradeVerdict, if_pos (Nat.le_refl g)]
    | some a =>
      show _ = downgradeVerdict a a
      rw [downgradeVerdict, downgradeVerdict, if_pos (Nat.le_refl g), if_pos (Nat.le_refl a)]
  simp only [List.forall_mem_cons]
  exact ⟨hsentinel, hdowngrade, List.forall_mem_nil _⟩

/-- 証明書の rule は、TLS 1.3 として飛ばしていたものを走らせる。 -/
theorem alone_certs_iff (h : Twins ch ch' sa sa') (hr : Raised ch ch' g)
    (hserver : sa.serverHello = none) {ids : List String} {rule : Rule}
    {fires : SessionAnalysis → Bool} (hrule : CertRule ids rule fires)
    (hfires : fires sa' = fires sa) :
    verdicts (emitted rule sa') = verdicts (emitted rule sa) ↔
      (bestOffer ch = some 0x0304 → certsUsable sa.certs = true ∨ fires sa = false) := by
  obtain ⟨hv, hv'⟩ := h.alone_version hr hserver
  have hg := lt_of_mem_grease g hr.mem
  have hg13 : decide (sa'.tlsVersion = some 0x0304) = false := by
    rw [hv', decide_eq_false_iff_not, Option.some.injEq]
    omega
  have hskip' : skipsCerts sa' = false := by
    show (!certsUsable sa'.certs && sa'.visibility.any fun v => v.tls13) = false
    rw [h.tls13', hg13, Bool.and_false]
  have hskip : skipsCerts sa = (!certsUsable sa.certs && decide (bestOffer ch = some 0x0304)) := by
    show (!certsUsable sa.certs && sa.visibility.any fun v => v.tls13) = _
    rw [h.tls13, hv]
  cases hs : skipsCerts sa with
  | false =>
    refine iff_of_true ?_ fun h13 => ?_
    · rw [(hrule.outcome sa.facts sa'.facts h.sameCerts (hskip'.trans hs.symm)).emitted_eq]
    · rw [hs, decide_eq_true h13, Bool.and_true, Bool.false_eq, Bool.not_eq_false'] at hskip
      exact .inl hskip
  | true =>
    rw [hs, Bool.true_eq, Bool.and_eq_true, Bool.not_eq_true', decide_eq_true_eq] at hskip
    rw [hrule.skips sa hs]
    have hnil : verdicts (emitted rule sa') = [] ↔ emitted rule sa' = [] := List.map_eq_nil_iff
    rw [show verdicts [] = [] from rfl, hnil, hrule.fires sa' hskip', hfires]
    constructor
    · exact fun hfalse _ => .inr hfalse
    · exact fun hall => (hall hskip.2).resolve_left (by rw [hskip.1]; exact Bool.false_ne_true)

/-- forward secrecy の無い client の報告。 -/
theorem alone_noPfs_iff (h : Twins ch ch' sa sa') (hr : Raised ch ch' g)
    (hserver : sa.serverHello = none) (hbest : ∀ c, bestOffer ch = some c → 0x0302 < c) :
    verdicts (emitted ruleNoClientHelloPfsCapability sa') =
        verdicts (emitted ruleNoClientHelloPfsCapability sa) ↔
      (bestOffer ch = some 0x0303 → offersPfs ch = true) := by
  obtain ⟨hv, hv'⟩ := h.alone_version hr hserver
  have hg := lt_of_mem_grease g hr.mem
  rw [verdicts_noPfs h.hello, verdicts_noPfs h.hello', hv, hv', Option.any_some,
    decide_eq_false (by omega), Bool.false_and]
  cases hc : bestOffer ch with
  | none => exact iff_of_true rfl fun h => by cases h
  | some c =>
    have hlt := hbest c hc
    rw [Option.any_some]
    by_cases h12 : c = 0x0303
    · subst h12
      cases offersPfs ch <;> simp
    · rw [decide_eq_false (by omega), Bool.false_and]
      refine iff_of_true rfl fun heq => ?_
      exact absurd (Option.some.inj heq) h12

/-- TLS 1.3 での compression の報告。 -/
theorem alone_compression_iff (h : Twins ch ch' sa sa') (hr : Raised ch ch' g)
    (hserver : sa.serverHello = none) :
    verdicts (emitted ruleLegacyCompression sa') = verdicts (emitted ruleLegacyCompression sa) ↔
      (bestOffer ch = some 0x0304 → ch.compression = [] ∨ ch.compression = [0]) := by
  obtain ⟨hv, hv'⟩ := h.alone_version hr hserver
  have hg := lt_of_mem_grease g hr.mem
  have hnot : ¬(some g = some 0x0304 ∧ ch'.compression ≠ [] ∧ ch'.compression ≠ [0]) := by
    rintro ⟨heq, -⟩
    rw [Option.some.injEq] at heq
    omega
  rw [verdicts_compression h.hello, verdicts_compression h.hello', hv, hv', if_neg hnot]
  by_cases hc : bestOffer ch = some 0x0304 ∧ ch.compression ≠ [] ∧ ch.compression ≠ [0]
  · rw [if_pos hc]
    refine iff_of_false (by simp) fun hall => ?_
    rcases hall hc.1 with hnil | hnull
    · exact hc.2.1 hnil
    · exact hc.2.2 hnull
  · rw [if_neg hc]
    refine iff_of_true rfl fun h13 => ?_
    by_contra hne
    exact hc ⟨h13, fun hnil => hne (.inl hnil), fun hnull => hne (.inr hnull)⟩

/-- ServerHello があるとき、結果が変わらないための条件。 -/
theorem verdicts_iff_of_server (h : Twins ch ch' sa sa') (hg : Greased ch ch')
    (hr : Raised ch ch' g) (now : Int) {sh : ServerHelloInfo} (hserver : sa.serverHello = some sh) :
    (∀ rule ∈ ALL_RULES now, verdicts (emitted rule sa') = verdicts (emitted rule sa)) ↔
      TopIgnored now ch ch' sa := by
  have hversion : sa'.tlsVersion = sa.tlsVersion := by rw [h.version, h.version', hserver]; rfl
  have hblind := h.emitted_blind hg
  have hsame := h.emitted_sameVersion hg now hversion
  have hout := h.outdated_iff hr
  have hsentinel := h.sentinel_iff hserver
  simp only [List.forall_mem_cons] at hblind hsame
  simp only [ALL_RULES, List.forall_mem_cons, hblind, hsame, true_and]
  constructor
  · rintro ⟨h₁, h₂, h₃, -⟩
    have hbest := hout.mp h₃
    have hneg := (h.downgrade_iff hr hserver hbest).mp h₂
    refine ⟨hbest, ?_, fun hnone => by rw [hserver] at hnone; cases hnone⟩
    intro sh' hsh' v hv
    cases hserver.symm.trans hsh'
    exact ⟨(hneg v hv).1, (hneg v hv).2, hsentinel.mp h₁ v hv⟩
  · intro hi
    have hneg := hi.negotiated sh hserver
    exact ⟨hsentinel.mpr fun v hv => (hneg v hv).2.2,
      (h.downgrade_iff hr hserver hi.notOutdated).mpr fun v hv => ⟨(hneg v hv).1, (hneg v hv).2.1⟩,
      hout.mpr hi.notOutdated, List.forall_mem_nil _⟩

/-- ServerHello が無いとき、結果が変わらないための条件。 -/
theorem verdicts_iff_of_alone (h : Twins ch ch' sa sa') (hg : Greased ch ch')
    (hr : Raised ch ch' g) (now : Int) (hserver : sa.serverHello = none) :
    (∀ rule ∈ ALL_RULES now, verdicts (emitted rule sa') = verdicts (emitted rule sa)) ↔
      TopIgnored now ch ch' sa := by
  have hblind := h.emitted_blind hg
  have hsilent := h.alone_silent hr hserver
  have hout := h.outdated_iff hr
  have c₁ := h.alone_certs_iff hr hserver (certRule_ruleCertExpired now) (by rw [h.certs])
  have c₂ := h.alone_certs_iff hr hserver (certRule_ruleCertNotYetValid now) (by rw [h.certs])
  have c₃ := h.alone_certs_iff hr hserver certRule_ruleCertSelfSigned (by rw [h.certs])
  have c₄ := h.alone_certs_iff hr hserver certRule_ruleChainUntrusted (by rw [h.chainResult])
  have c₅ := h.alone_certs_iff hr hserver certRule_ruleWeakSignature (by rw [h.certs])
  have c₆ := h.alone_certs_iff hr hserver certRule_ruleShortKey (by rw [h.certs])
  have hcompression := h.alone_compression_iff hr hserver
  simp only [List.forall_mem_cons] at hblind hsilent
  simp only [ALL_RULES, List.forall_mem_cons, hblind, hsilent, true_and, c₁, c₂, c₃, c₄, c₅, c₆,
    hcompression, hout]
  constructor
  · rintro ⟨-, h₁, h₂, h₃, h₄, h₅, h₆, hp, hcomp, hbest, -⟩
    have hsome : ∀ sh, sa.serverHello ≠ some sh := fun sh hsh => by
      rw [hserver] at hsh
      cases hsh
    refine ⟨hbest, fun sh hsh => absurd hsh (hsome sh), fun _ c hc => ⟨?_, ?_⟩⟩
    · rintro rfl
      exact (h.alone_noPfs_iff hr hserver hbest).mp hp hc
    · rintro rfl
      refine ⟨hcomp hc, ?_⟩
      by_cases husable : certsUsable sa.certs = true
      · exact .inl husable
      · refine .inr ?_
        rw [certFires, (h₁ hc).resolve_left husable, (h₂ hc).resolve_left husable,
          (h₃ hc).resolve_left husable, (h₄ hc).resolve_left husable,
          (h₅ hc).resolve_left husable, (h₆ hc).resolve_left husable]
        rfl
  · intro hi
    have hbest := hi.notOutdated
    obtain ⟨hv, hv'⟩ := h.alone_version hr hserver
    have hlt := lt_of_mem_grease g hr.mem
    have hnone : emitted ruleDeprecatedVersion sa = [] :=
      emitted_deprecated fun v hsome => hbest v (hv.symm.trans hsome)
    have hnone' : emitted ruleDeprecatedVersion sa' = [] := by
      refine emitted_deprecated fun v hsome => ?_
      cases hv'.symm.trans hsome
      omega
    have hcert : bestOffer ch = some 0x0304 →
        certsUsable sa.certs = true ∨ certFires now sa = false :=
      fun h13 => ((hi.alone hserver _ h13).2 rfl).2
    simp only [certFires, Bool.or_eq_false_iff] at hcert
    exact ⟨by rw [hnone, hnone'], fun h13 => (hcert h13).imp_right (·.1.1.1.1.1),
      fun h13 => (hcert h13).imp_right (·.1.1.1.1.2), fun h13 => (hcert h13).imp_right (·.1.1.1.2),
      fun h13 => (hcert h13).imp_right (·.1.1.2), fun h13 => (hcert h13).imp_right (·.1.2),
      fun h13 => (hcert h13).imp_right (·.2),
      (h.alone_noPfs_iff hr hserver hbest).mpr fun h12 => (hi.alone hserver _ h12).1 rfl,
      fun h13 => ((hi.alone hserver _ h13).2 rfl).1, hbest, List.forall_mem_nil _⟩

/-- **差し込んでも結果が変わらないための条件。** -/
theorem verdicts_iff (h : Twins ch ch' sa sa') (hg : Greased ch ch') (now : Int) :
    (∀ rule ∈ ALL_RULES now, verdicts (emitted rule sa') = verdicts (emitted rule sa)) ↔
      ch'.offeredVersions.max? = ch.offeredVersions.max? ∨ TopIgnored now ch ch' sa := by
  rcases hg.offeredVersions.max?_cases with htop | ⟨g, hmem, htop', hlt⟩
  · refine iff_of_true ?_ (.inl htop)
    obtain ⟨hversion, hread⟩ := h.emitted_sameTop hg htop
    have hblind := h.emitted_blind hg
    have hsame := h.emitted_sameVersion hg now hversion
    simp only [List.forall_mem_cons] at hblind hsame hread
    simp only [ALL_RULES, List.forall_mem_cons, hblind, hsame, hread, true_and]
    exact List.forall_mem_nil _
  · have hr : Raised ch ch' g := ⟨hmem, htop', hlt⟩
    have hne : ch'.offeredVersions.max? ≠ ch.offeredVersions.max? := by
      intro heq
      exact Nat.lt_irrefl g (hr.lt_of_top (heq.symm.trans htop'))
    rw [or_iff_right hne]
    cases hserver : sa.serverHello with
    | none => exact h.verdicts_iff_of_alone hg hr now hserver
    | some sh => exact h.verdicts_iff_of_server hg hr now hserver

end Twins

/-! ## session の結果 -/

/-- `run_rules` の返す finding の、id と重さ。 -/
def outcomeOf (lib : Analyzer) (now : Int) (sess : Session) :
    Except AnalyzeError (List (String × String)) :=
  (analyzeSession (lib.withRules now) sess).map fun sa => verdicts sa.findings

theorem outcomeOf_eq {lib : Analyzer} (now : Int) {sess : Session} {sa : SessionAnalysis}
    (h : prepared lib sess = .ok sa) :
    outcomeOf lib now sess = .ok (verdicts (runRules (lib.withRules now) sa).findings) := by
  rw [outcomeOf, analyzeSession_eq, prepared_withRules, h]
  rfl

theorem outcomeOf_of_error {lib : Analyzer} (now : Int) {sess : Session} {e : AnalyzeError}
    (h : prepared lib sess = .error e) : outcomeOf lib now sess = .error e := by
  rw [outcomeOf, analyzeSession_eq, prepared_withRules, h]
  rfl

/--
session の ClientHello に GREASE を差し込んでも rule の id と重さが変わらないのは、差し込みで最大の
版が変わらないか、変わっても版を読むどの rule も気付かないときであり、そのときに限る。
-/
theorem greased_verdicts_iff (lib : Analyzer) (now : Int) {sess sess' : Session}
    {ch ch' : ClientHelloInfo} (h : SameBut sess sess' ch ch') :
    outcomeOf lib now sess' = outcomeOf lib now sess ↔
      ∀ sa, prepared lib sess = .ok sa →
        ch'.offeredVersions.max? = ch.offeredVersions.max? ∨ TopIgnored now ch ch' sa := by
  rcases prepared_twins lib h with ⟨e, he, he'⟩ | ⟨sa, sa', hsa, hsa', htwins⟩
  · rw [outcomeOf_of_error now he, outcomeOf_of_error now he', he]
    exact iff_of_true rfl fun sa hsa => by cases hsa
  · rw [outcomeOf_eq now hsa, outcomeOf_eq now hsa', Except.ok.injEq,
      verdicts_eq_iff now lib htwins.findings' htwins.findings, htwins.verdicts_iff h.greased now]
    constructor
    · rintro hcond sa'' hsa''
      cases hsa.symm.trans hsa''
      exact hcond
    · exact fun hall => hall sa hsa

/-! ## 例 -/

/-- 二 byte の big endian。 -/
def u16 (n : Nat) : Bytes := [UInt8.ofNat (n / 256), UInt8.ofNat n]

/-- handshake 一つの record。 -/
def handshakeRecord (mtype : UInt8) (body : Bytes) : Bytes :=
  [22, 3, 3] ++ u16 (body.length + 4) ++ [mtype, 0] ++ u16 body.length ++ body

/-- 版の列だけを extension に持つ ClientHello。 -/
def helloBytes (versions : List Nat) : Bytes :=
  let exts := u16 43 ++ u16 (versions.length * 2 + 1) ++
    [UInt8.ofNat (versions.length * 2)] ++ versions.flatMap u16
  [3, 3] ++ List.replicate 32 0 ++ [0, 0, 2, 0xC0, 0x2F, 1, 0] ++ u16 exts.length ++ exts

/-- TLS 1.2 を選び、TLS 1.3 も話せることを random の印で知らせる ServerHello。 -/
def sentinelHello : Bytes :=
  [3, 3] ++ List.replicate 24 0 ++ DOWNGRAD_SENTINEL_TLS12 ++ [0, 0xC0, 0x2F, 0]

/-- その二つを交わす session。 -/
def helloSession (versions : List Nat) : Session :=
  { plainSession with
    serverPort := 465
    tlsSegment := handshakeRecord 1 (helloBytes versions)
    tlsServerSegment := handshakeRecord 2 sentinelHello }

/-- TLS 1.0 を選ぶ ServerHello。 -/
def tls10Hello : Bytes := [3, 1] ++ List.replicate 32 0 ++ [0, 0xC0, 0x2F, 0]

/-- TLS 1.0 を交わした session。 -/
def tls10Session : Session :=
  { helloSession [0x0303] with tlsServerSegment := handshakeRecord 2 tls10Hello }

/-- `helloBytes` を読んだもの。 -/
def helloInfo (versions : List Nat) : ClientHelloInfo :=
  { offeredVersions := versions, legacyVersion := some 0x0303, cipherSuites := [0xC02F]
    hasSupportedVersions := true, compression := [0], extensionIds := [EXT_SUPPORTED_VERSIONS]
    greaseCount := (versions.filter isGrease).length, raw := helloBytes versions }

/-- `sentinelHello` を読んだもの。 -/
def sentinelInfo : ServerHelloInfo :=
  { negotiatedVersion := some 0x0303, legacyVersion := some 0x0303, cipherSuite := some 0xC02F
    serverRandom := List.replicate 24 0 ++ DOWNGRAD_SENTINEL_TLS12
    downgradeSentinel := some "tls12", raw := sentinelHello }

theorem clientHelloOf_helloSession :
    ∀ versions ∈ [[0x0303], [0x0A0A, 0x0303], [0x0A0A, 0x0A0A, 0x0303]],
    clientHelloOf (helloSession versions) = .ok (some (helloInfo versions)) := by
  decide +kernel

theorem serverSideOf_helloSession :
    serverSideOf (helloSession [0x0303]) = .ok (some sentinelInfo, none) := by decide +kernel

/-- 版の列に GREASE を差し込んだ二つの session。 -/
theorem sameBut_helloSession {versions versions' : List Nat} (hins : Inserted versions versions')
    (h : clientHelloOf (helloSession versions) = .ok (some (helloInfo versions)))
    (h' : clientHelloOf (helloSession versions') = .ok (some (helloInfo versions'))) :
    SameBut (helloSession versions) (helloSession versions') (helloInfo versions)
      (helloInfo versions') :=
  { rest := rfl, hello := h, hello' := h'
    greased :=
      { cipherSuites := .keep _ .nil, supportedGroups := .nil, offeredVersions := hins
        keyShareGroups := .nil, extensionIds := .keep _ .nil
        extensions_le := Nat.le_of_ble_eq_true rfl, rest := rfl } }

/-- 最大の版が既に GREASE なら、もう一つ差し込んでも結果は変わらない。 -/
theorem second_grease_ignored :
    outcomeOf bareAnalyzer 0 (helloSession [0x0A0A, 0x0A0A, 0x0303]) =
      outcomeOf bareAnalyzer 0 (helloSession [0x0A0A, 0x0303]) :=
  (greased_verdicts_iff bareAnalyzer 0 (sameBut_helloSession
    (.insert (by decide) (.keep _ (.keep _ .nil)))
    (clientHelloOf_helloSession _ (by decide))
    (clientHelloOf_helloSession _ (by decide)))).mpr fun _ _ => .inl (by decide)

/-- TLS 1.2 までの client が GREASE を一つ差し出すと、TLS 1.2 の session の結果が変わる。 -/
theorem grease_changes_verdicts :
    SameBut (helloSession [0x0303]) (helloSession [0x0A0A, 0x0303]) (helloInfo [0x0303])
      (helloInfo [0x0A0A, 0x0303]) ∧
    outcomeOf bareAnalyzer 0 (helloSession [0x0A0A, 0x0303]) ≠
      outcomeOf bareAnalyzer 0 (helloSession [0x0303]) := by
  have hsame := sameBut_helloSession (.insert (by decide) (.keep 0x0303 .nil))
    (clientHelloOf_helloSession [0x0303] (by decide))
    (clientHelloOf_helloSession [0x0A0A, 0x0303] (by decide))
  have htls := tlsSegment_ne_nil hsame.hello
  have htls' := tlsSegment_ne_nil hsame.hello'
  have hside := serverSideOf_helloSession
  have hprep : prepared bareAnalyzer (helloSession [0x0303]) =
      .ok (assemble bareAnalyzer (helloSession [0x0303]) (some (helloInfo [0x0303]))
        (some sentinelInfo) none []) :=
    prepared_of_ok bareAnalyzer htls hsame.hello hside
  have hprep' : prepared bareAnalyzer (helloSession [0x0A0A, 0x0303]) =
      .ok (assemble bareAnalyzer (helloSession [0x0A0A, 0x0303])
        (some (helloInfo [0x0A0A, 0x0303])) (some sentinelInfo) none []) :=
    prepared_of_ok bareAnalyzer htls' hsame.hello' ((serverSideOf_eq hsame).trans hside)
  have htwins := assemble_twins bareAnalyzer hsame htls htls' (some sentinelInfo) none []
  refine ⟨hsame, fun heq => ?_⟩
  rw [outcomeOf_eq 0 hprep, outcomeOf_eq 0 hprep', Except.ok.injEq,
    verdicts_eq_iff 0 bareAnalyzer htwins.findings' htwins.findings,
    htwins.verdicts_iff hsame.greased 0] at heq
  rcases heq with htop | hignored
  · exact absurd htop (by decide)
  · -- GREASE が server の選んだ TLS 1.2 より大きい版に見える
    have hserver := (assemble_fields bareAnalyzer (helloSession [0x0303]) (helloInfo [0x0303])
      (some sentinelInfo) none [] htls).2.1
    have habove := (hignored.negotiated sentinelInfo hserver 0x0303 rfl).2.2 rfl
    exact absurd habove (by decide)

end CipherPost.Parsing
