import CipherPost.Proactive.DomainPosture

/-!
# 証明された食い違いだけを言うか

`evaluate_session` の docstring は、公開された enforce の policy か検証された TLSA に基づく finding だけを返し、
推測はしないと言う。その約束と、約束の守られる条件を述べる。

* `LeafUnmatched` — 検証された TLSA に leaf が合わない
* `exists_mtaSts_finding_iff`・`dane_finding_iff` — 二種類の finding の出るとき
* `ProvenMismatch` — 検証された TLSA と連鎖が食い違う
* `ProvenOnly` — 約束
* `Conclusive` — 約束の守られる条件
* `provenOnly_iff` — その必要十分性
-/

namespace CipherPost.Proactive

open Parsing

variable {net : Net}

/-! ## leaf と TLSA -/

/-- 観測した session。`chain` は提示された証明書の列である。 -/
structure ObservedSession where
  usedTls : Bool
  mxHost : Option String
  chain : List Bytes
  certOk : Option Bool

/-- `evaluate_session` に渡るもの。証明書は leaf だけである。 -/
def ObservedSession.info (sess : ObservedSession) : SessionInfo where
  usedTls := sess.usedTls
  mxHost := sess.mxHost
  certDer := sess.chain.head?
  certOk := sess.certOk

/-- 検証された TLSA があり、leaf がそのどれにも合わない。session の MX は、別の名とは分かっていない。 -/
structure LeafUnmatched (net : Net) (mx : String) (sess : ObservedSession) : Prop where
  secure : (fetchTlsa net mx).dnssec = "secure"
  records : (fetchTlsa net mx).records ≠ []
  here : ∀ host, sess.mxHost = some host → host = "" ∨ host = mx
  leaf : ∃ der, sess.chain.head? = some der ∧ der ≠ [] ∧
    ∀ r ∈ (fetchTlsa net mx).records, tlsaMatches net r der = false

theorem daneFinding_eq_some_iff {domain mx : String} {sess : ObservedSession}
    {f : TransportFinding} :
    daneFinding net domain sess.info mx (fetchTlsa net mx) = some f ↔
      LeafUnmatched net mx sess ∧ f = daneMismatch domain mx := by
  have hhere : (sess.info.mxHost.any fun host => decide (host ≠ "" ∧ host ≠ mx)) = true ↔
      ¬∀ host, sess.mxHost = some host → host = "" ∨ host = mx := by
    rw [Option.any_eq_true]
    simp only [decide_eq_true_eq, not_forall, not_or, exists_prop]
    rfl
  have hleaf : ∀ der, sess.info.certDer.filter (· ≠ []) = some der ↔
      sess.chain.head? = some der ∧ der ≠ [] := by
    intro der
    rw [Option.filter_eq_some_iff, decide_eq_true_eq]
    rfl
  unfold daneFinding
  by_cases hsecure : (fetchTlsa net mx).dnssec ≠ "secure" ∨ (fetchTlsa net mx).records = []
  · rw [if_pos hsecure]
    refine iff_of_false (fun h => by cases h) fun h => ?_
    exact hsecure.elim (fun hne => hne h.1.secure) fun hnil => h.1.records hnil
  · rw [if_neg hsecure]
    obtain ⟨hdnssec, hrecords⟩ := not_or.mp hsecure
    by_cases hother : (sess.info.mxHost.any fun host => decide (host ≠ "" ∧ host ≠ mx)) = true
    · rw [if_pos hother]
      exact iff_of_false (fun h => by cases h) fun h => hhere.mp hother h.1.here
    · rw [if_neg hother]
      have hhost := not_not.mp (mt hhere.mpr hother)
      cases hder : sess.info.certDer.filter (· ≠ []) with
      | none =>
        refine iff_of_false (fun h => by cases h) fun h => ?_
        obtain ⟨der, hhead, hne, -⟩ := h.1.leaf
        cases hder.symm.trans ((hleaf der).mpr ⟨hhead, hne⟩)
      | some der =>
        obtain ⟨hhead, hne⟩ := (hleaf der).mp hder
        dsimp only
        by_cases hany : ((fetchTlsa net mx).records.any fun r => tlsaMatches net r der) = true
        · rw [if_pos hany]
          refine iff_of_false (fun h => by cases h) fun h => ?_
          obtain ⟨der', hhead', -, hnone⟩ := h.1.leaf
          cases hhead.symm.trans hhead'
          obtain ⟨r, hr, hmatch⟩ := List.any_eq_true.mp hany
          exact absurd (hmatch.symm.trans (hnone r hr)) (Bool.false_ne_true ∘ Eq.symm)
        · rw [if_neg hany, Option.some.injEq]
          have hnone : ∀ r ∈ (fetchTlsa net mx).records, tlsaMatches net r der = false :=
            fun r hr => Bool.eq_false_iff.mpr fun hmatch =>
              hany (List.any_eq_true.mpr ⟨r, hr, hmatch⟩)
          constructor
          · rintro rfl
            exact ⟨⟨not_not.mp hdnssec, hrecords, hhost, der, hhead, hne, hnone⟩, rfl⟩
          · exact fun h => h.2.symm

/-! ## finding -/

/-- MTA-STS の finding の id。 -/
def MTA_STS_RULE_IDS : List String := ["mta-sts-enforce-plaintext", "mta-sts-enforce-bad-cert"]

/-- DANE の finding の id。 -/
def DANE_RULE_ID : String := "dane-tlsa-mismatch"

theorem dane_not_mem : DANE_RULE_ID ∉ MTA_STS_RULE_IDS := by decide

theorem ruleId_of_mem_mtaStsFindings {domain : String} {mode : Option String} {info : SessionInfo}
    {f : TransportFinding} (h : f ∈ mtaStsFindings domain mode info) :
    f.ruleId ∈ MTA_STS_RULE_IDS := by
  unfold mtaStsFindings at h
  split at h
  · split at h
    · rw [List.mem_singleton.mp h]
      exact List.mem_cons_self
    · split at h
      · rw [List.mem_singleton.mp h]
        exact List.mem_cons_of_mem _ List.mem_cons_self
      · cases h
  · cases h

/-- enforce のときに、平文か、検証に失敗した証明書で出る。 -/
theorem exists_mem_mtaStsFindings {domain : String} {mode : Option String} {info : SessionInfo} :
    (∃ f, f ∈ mtaStsFindings domain mode info) ↔
      mode = some "enforce" ∧ (info.usedTls = false ∨ info.certOk = some false) := by
  unfold mtaStsFindings
  by_cases hmode : mode = some "enforce"
  · rw [if_pos hmode]
    by_cases htls : info.usedTls = false
    · rw [if_pos htls]
      exact iff_of_true ⟨_, List.mem_cons_self⟩ ⟨hmode, .inl htls⟩
    · rw [if_neg htls]
      by_cases hcert : info.certOk = some false
      · rw [if_pos hcert]
        exact iff_of_true ⟨_, List.mem_cons_self⟩ ⟨hmode, .inr hcert⟩
      · rw [if_neg hcert]
        refine iff_of_false (fun ⟨f, h⟩ => by cases h) ?_
        rintro ⟨-, h | h⟩
        · exact htls h
        · exact hcert h
  · rw [if_neg hmode]
    exact iff_of_false (fun ⟨f, h⟩ => by cases h) fun h => hmode h.1

theorem mem_evaluateSession_iff {domain : String} {sess : ObservedSession} {f : TransportFinding} :
    f ∈ evaluateSession net domain sess.info ↔
      f ∈ mtaStsFindings domain ((checkDomain net domain).mtaSts.bind (·.mode)) sess.info ∨
        ∃ mx ∈ checkedMx net domain, LeafUnmatched net mx sess ∧ f = daneMismatch domain mx := by
  unfold evaluateSession
  rw [List.mem_append, List.mem_filterMap]
  refine or_congr_right ⟨?_, ?_⟩
  · rintro ⟨⟨mx, res⟩, hmem, hf⟩
    obtain ⟨hmx, rfl⟩ := mem_dane_iff.mp hmem
    exact ⟨mx, hmx, daneFinding_eq_some_iff.mp hf⟩
  · rintro ⟨mx, hmx, h⟩
    exact ⟨(mx, fetchTlsa net mx), mem_dane_iff.mpr ⟨hmx, rfl⟩, daneFinding_eq_some_iff.mpr h⟩

/-- MTA-STS の finding が出るのは、enforce の policy が公開されているときである。 -/
theorem exists_mtaSts_finding_iff {domain : String} {sess : ObservedSession} :
    (∃ f ∈ evaluateSession net domain sess.info, f.ruleId ∈ MTA_STS_RULE_IDS) ↔
      (∃ policy, Published net domain policy ∧ policyMode net policy = some "enforce") ∧
        (sess.usedTls = false ∨ sess.certOk = some false) := by
  rw [← mode_checkDomain_iff]
  have hfound : (∃ f, f ∈ mtaStsFindings domain
      ((checkDomain net domain).mtaSts.bind (·.mode)) sess.info) ↔
      (checkDomain net domain).mtaSts.bind (·.mode) = some "enforce" ∧
        (sess.usedTls = false ∨ sess.certOk = some false) := exists_mem_mtaStsFindings
  rw [← hfound]
  constructor
  · rintro ⟨f, hf, hid⟩
    rcases mem_evaluateSession_iff.mp hf with hf | ⟨mx, -, -, rfl⟩
    · exact ⟨f, hf⟩
    · exact absurd hid dane_not_mem
  · rintro ⟨f, hf⟩
    exact ⟨f, mem_evaluateSession_iff.mpr (.inl hf), ruleId_of_mem_mtaStsFindings hf⟩

/-- DANE の finding が出るのは、調べた MX の検証された TLSA に leaf が合わないときである。 -/
theorem dane_finding_iff {domain : String} {sess : ObservedSession} {f : TransportFinding} :
    (f ∈ evaluateSession net domain sess.info ∧ f.ruleId = DANE_RULE_ID) ↔
      ∃ mx ∈ checkedMx net domain, LeafUnmatched net mx sess ∧ f = daneMismatch domain mx := by
  constructor
  · rintro ⟨hf, hid⟩
    rcases mem_evaluateSession_iff.mp hf with hf | h
    · have hmem := ruleId_of_mem_mtaStsFindings hf
      rw [hid] at hmem
      exact absurd hmem dane_not_mem
    · exact h
  · intro h
    obtain ⟨mx, -, -, rfl⟩ := id h
    exact ⟨mem_evaluateSession_iff.mpr (.inr h), rfl⟩

/--
`mismatch_for_session` が finding を返すのは、enforce の policy のある domain の、平文の session である。証明書を
渡さないので、DANE の finding は無い。
-/
theorem mismatchForSession_isSome_iff {domain : String} {usedTls : Bool} :
    (mismatchForSession net domain usedTls).isSome = true ↔ usedTls = false ∧
      ∃ policy, Published net domain policy ∧ policyMode net policy = some "enforce" := by
  have hall : ∀ f ∈ evaluateSession net domain { usedTls := usedTls },
      f.ruleId ∈ MTA_STS_RULE_IDS := by
    intro f hf
    rcases (@mem_evaluateSession_iff net domain ⟨usedTls, none, [], none⟩ f).mp hf with
      hf | ⟨mx, -, hleaf, -⟩
    · exact ruleId_of_mem_mtaStsFindings hf
    · obtain ⟨der, hder, -⟩ := hleaf.leaf
      cases hder
  have hfound := @exists_mtaSts_finding_iff net domain ⟨usedTls, none, [], none⟩
  unfold mismatchForSession
  rw [List.isSome_head?]
  constructor
  · intro hne
    obtain ⟨f, hf⟩ := List.exists_mem_of_ne_nil _ hne
    obtain ⟨hpolicy, hseen⟩ := hfound.mp ⟨f, hf, hall f hf⟩
    exact ⟨hseen.resolve_right (by rintro ⟨⟩), hpolicy⟩
  · rintro ⟨hplain, hpolicy⟩
    obtain ⟨f, hf, -⟩ := hfound.mpr ⟨hpolicy, .inl hplain⟩
    exact List.ne_nil_of_mem hf

/-! ## 約束 -/

/-- record の合うべき証明書。DANE-TA は連鎖のどれでもよく、他は leaf である。 -/
def subjects (r : TlsaRecord) (chain : List Bytes) : List Bytes :=
  if r.usage = 2 then chain else chain.take 1

/-- 検証された TLSA に、照合の扱う usage があり、連鎖がそのどれにも合わない。 -/
structure ProvenMismatch (net : Net) (mx : String) (chain : List Bytes) : Prop where
  secure : (fetchTlsa net mx).dnssec = "secure"
  supported : ∃ r ∈ (fetchTlsa net mx).records, r.usage ∈ [2, 3]
  unmatched : ∀ r ∈ (fetchTlsa net mx).records, ∀ c ∈ subjects r chain,
    tlsaMatches net r c = false

/-- session の MX が分からない。 -/
def ObservedSession.MxUnknown (sess : ObservedSession) : Prop :=
  sess.mxHost = none ∨ sess.mxHost = some ""

/-- **証明された食い違いだけを言う。** -/
structure ProvenOnly (net : Net) (domain : String) (sess : ObservedSession) : Prop where
  mtaSts : ∀ f ∈ evaluateSession net domain sess.info, f.ruleId ∈ MTA_STS_RULE_IDS →
    ∃ policy, Published net domain policy ∧ WellFormedPolicy net policy ∧
      policyMode net policy = some "enforce"
  dane : ∀ f ∈ evaluateSession net domain sess.info, f.ruleId = DANE_RULE_ID →
    ∃ mx, f.mx = some mx ∧ sess.mxHost = some mx ∧ ProvenMismatch net mx sess.chain
  unknown : sess.MxUnknown → ∀ f ∈ evaluateSession net domain sess.info, f.ruleId ≠ DANE_RULE_ID

/-- 約束の守られる条件。 -/
structure Conclusive (net : Net) (domain : String) (sess : ObservedSession) : Prop where
  /-- 平文か、検証に失敗した証明書の session では、enforce の policy の `max_age` はどれも読める。 -/
  policy : sess.usedTls = false ∨ sess.certOk = some false → ∀ policy, Published net domain policy →
    policyMode net policy = some "enforce" → MaxAgesReadable net policy
  /--
  leaf の合わない MX は session の MX と分かっていて、照合の扱う usage があり、DANE-TA は後の証明書にも
  合わない。
  -/
  tlsa : ∀ mx ∈ checkedMx net domain, LeafUnmatched net mx sess →
    sess.mxHost = some mx ∧ mx ≠ "" ∧ (∃ r ∈ (fetchTlsa net mx).records, r.usage ∈ [2, 3]) ∧
      ∀ r ∈ (fetchTlsa net mx).records, r.usage = 2 → ∀ c ∈ sess.chain.tail,
        tlsaMatches net r c = false

/-- leaf の合わない TLSA が連鎖にも合わないのは、DANE-TA が後の証明書に合わないときである。 -/
theorem LeafUnmatched.unmatched_iff {mx : String} {sess : ObservedSession}
    (h : LeafUnmatched net mx sess) :
    (∀ r ∈ (fetchTlsa net mx).records, ∀ c ∈ subjects r sess.chain, tlsaMatches net r c = false) ↔
      ∀ r ∈ (fetchTlsa net mx).records, r.usage = 2 → ∀ c ∈ sess.chain.tail,
        tlsaMatches net r c = false := by
  obtain ⟨der, hhead, -, hleaf⟩ := h.leaf
  obtain ⟨rest, hchain⟩ := List.head?_eq_some_iff.mp hhead
  rw [hchain, List.tail_cons]
  refine forall₂_congr fun r hr => ?_
  unfold subjects
  by_cases husage : r.usage = 2
  · rw [if_pos husage, List.forall_mem_cons]
    exact ⟨fun h _ => h.2, fun h => ⟨hleaf r hr, h husage⟩⟩
  · rw [if_neg husage]
    refine iff_of_true (fun c hc => ?_) fun h => absurd h husage
    rw [List.mem_singleton.mp hc]
    exact hleaf r hr

/--
**finding が証明された食い違いだけを言うのは、policy の `max_age` が読め、合わない TLSA が session の MX の、
照合の扱うものであるときである。**
-/
theorem provenOnly_iff (net : Net) (domain : String) (sess : ObservedSession) :
    ProvenOnly net domain sess ↔ Conclusive net domain sess := by
  constructor
  · rintro ⟨hsts, hdane, hunknown⟩
    refine ⟨fun hseen policy hpub hmode => ?_, fun mx hmx hleaf => ?_⟩
    · obtain ⟨f, hf, hid⟩ := exists_mtaSts_finding_iff.mpr ⟨⟨policy, hpub, hmode⟩, hseen⟩
      obtain ⟨policy', hpub', hwf, -⟩ := hsts f hf hid
      rw [hpub.unique hpub']
      exact hwf.maxAge
    · obtain ⟨hf, hid⟩ := dane_finding_iff.mpr ⟨mx, hmx, hleaf, rfl⟩
      obtain ⟨mx', hmx', hhost, hproven⟩ := hdane _ hf hid
      obtain rfl : mx = mx' := Option.some.inj hmx'
      refine ⟨hhost, ?_, hproven.supported, hleaf.unmatched_iff.mp hproven.unmatched⟩
      rintro rfl
      exact hunknown (.inr hhost) _ hf hid
  · rintro ⟨hpolicy, htlsa⟩
    refine ⟨fun f hf hid => ?_, fun f hf hid => ?_, fun hunknown f hf hid => ?_⟩
    · obtain ⟨⟨policy, hpub, hmode⟩, hseen⟩ := exists_mtaSts_finding_iff.mp ⟨f, hf, hid⟩
      exact ⟨policy, hpub, ⟨⟨"enforce", by decide, hmode⟩, hpolicy hseen policy hpub hmode⟩, hmode⟩
    · obtain ⟨mx, hmx, hleaf, rfl⟩ := dane_finding_iff.mp ⟨hf, hid⟩
      obtain ⟨hhost, -, hsupported, hlater⟩ := htlsa mx hmx hleaf
      exact ⟨mx, rfl, hhost, hleaf.secure, hsupported, hleaf.unmatched_iff.mpr hlater⟩
    · obtain ⟨mx, hmx, hleaf, -⟩ := dane_finding_iff.mp ⟨hf, hid⟩
      obtain ⟨hhost, hne, -⟩ := htlsa mx hmx hleaf
      rcases hunknown with hnone | hnull
      · cases hnone.symm.trans hhost
      · exact hne (Option.some.inj (hhost.symm.trans hnull))

/-! ## 推測 -/

/-- 最初の `.` の後。 -/
def parentName (name : String) : Option String :=
  (partition ['.'] name.toList).map fun p => String.ofList p.2

/--
`a.test` は `max_age` の読めない enforce の policy を公開し、MX の TLSA は署名されているが、PKIX の usage の
record だけを持つ。
-/
def weekNet : Net where
  lower s := String.ofList (s.toList.map Char.toLower)
  repr s := "'" ++ s ++ "'"
  decodeError _ := "'utf-8' codec can't decode bytes"
  sha256 _ := ""
  sha512 _ := ""
  spki _ := none
  mx name := if name = "a.test" then .records [⟨10, "mx.a.test."⟩] else .noData name
  txt name := if name = "_mta-sts.a.test" then .records [["v=STSv1; id=1;".toUTF8.toList]]
    else .noData name
  tlsa name := if name = "_25._tcp.mx.a.test" then .answer [⟨0, 0, 0, [0x31]⟩] [[0]] else .nxdomain
  trustAnchor := some [1]
  dnskey name := if name = "a.test" then some [[1]] else none
  parent := parentName
  validate _ _ _ _ _ := true
  addresses _ := .ok [{ text := "93.184.216.34" }]
  get _ _ := .ok
    { status := 200
      content := "version: STSv1\nmode: enforce\nmx: mx.a.test\nmax_age: week\n".toUTF8.toList }
  urljoin _ location := .ok location
  urlparse _ := .ok ("https", "mta-sts.a.test")

/-- MX の分からない session。証明書は検証に失敗した。 -/
def strangerSession : ObservedSession where
  usedTls := true
  mxHost := none
  chain := [[0x30]]
  certOk := some false

/-- 公開されているのは、`max_age` の読めない policy だけである。 -/
theorem not_wellFormed_of_published {policy : String} (h : Published weekNet "a.test" policy) :
    ¬WellFormedPolicy weekNet policy := by
  intro hwf
  have hname : normalizeDomain weekNet "a.test" = "a.test" := by decide +kernel
  have hfetch : fetchPolicy weekNet "a.test" =
      .policy "version: STSv1\nmode: enforce\nmx: mx.a.test\nmax_age: week\n" := by decide +kernel
  have hfetched := h.served.fetched
  rw [hname, hfetch] at hfetched
  obtain rfl := PolicyResult.policy.inj hfetched
  have hfield : ("max_age", "week") ∈ policyFields weekNet
      "version: STSv1\nmode: enforce\nmx: mx.a.test\nmax_age: week\n" := by decide +kernel
  exact absurd (hwf.maxAge _ hfield rfl) (by decide)

/-- 読めない policy から MTA-STS の finding が、MX の分からない session と PKIX の TLSA から DANE の finding が出る。 -/
theorem guessed_findings :
    (evaluateSession weekNet "a.test" strangerSession.info).map (·.ruleId) =
      ["mta-sts-enforce-bad-cert", "dane-tlsa-mismatch"] ∧
    (∀ policy, Published weekNet "a.test" policy → ¬WellFormedPolicy weekNet policy) ∧
    (∀ r ∈ (fetchTlsa weekNet "mx.a.test").records, r.usage ∉ [2, 3]) ∧
    ¬ProvenOnly weekNet "a.test" strangerSession := by
  have hrun : (evaluateSession weekNet "a.test" strangerSession.info).map (·.ruleId) =
      ["mta-sts-enforce-bad-cert", "dane-tlsa-mismatch"] := by decide +kernel
  refine ⟨hrun, fun policy => not_wellFormed_of_published, by decide +kernel, fun h => ?_⟩
  have hdane : DANE_RULE_ID ∈ (evaluateSession weekNet "a.test" strangerSession.info).map
      (·.ruleId) := by
    rw [hrun]
    decide
  obtain ⟨f, hf, hid⟩ := List.mem_map.mp hdane
  exact h.unknown (.inl rfl) f hf hid

end CipherPost.Proactive
