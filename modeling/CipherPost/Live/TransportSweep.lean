import CipherPost.Live.Finding
import CipherPost.Proactive.HonestStatus

/-!
# domain の姿勢の sweep

`AlertDispatcher._transport_sweep`。台帳の証明書の名から domain を取り、`check_domain` が `misconfigured` と言う
domain の finding を `_dispatch` に渡す。

* `sweptDomains` — 調べる domain
* `transportFinding` — domain 一つの finding
* `transportSweep` — `_transport_sweep` が `_dispatch` に渡す finding
* `honest_iff` — 取れなかったことを崩れていると言わず、alert にもしない条件
-/

namespace CipherPost.Live

open Proactive

/-! ## sweep -/

section Sweep

variable (net : Net)

/-- `(r[0] or "").strip().lower().lstrip("*.")`。 -/
def sweptName (subjectCn : String) : String :=
  String.ofList ((net.lower (String.ofList (stripChars subjectCn.toList))).toList.dropWhile
    fun c => c = '*' || c = '.')

/-- 調べる domain。台帳の row は 25 まで読み、名は重ねずに並べる。 -/
def sweptDomains (subjectCns : List (Option String)) : List String :=
  let names := ((subjectCns.take 25).filterMap truthy).map (sweptName net)
  (names.dedup.insertionSort (· ≤ ·)).filter fun dom =>
    decide (dom ≠ "") && decide ('.' ∈ dom.toList)

/-- `_transport_sweep` が `_dispatch` に渡す dict。 -/
def transportFinding (dom : String) (posture : Posture) : Finding where
  ruleId := .value "transport-misconfigured"
  severity := .value "medium"
  title := .value ("Transport security misconfigured for " ++ dom)
  description := .value ("MTA-STS/DANE check for " ++ dom ++ ": " ++
    orText (posture.mtaSts.bind (·.error)) "policy invalid")
  fiveTuple := .value dom
  protocol := .value ""
  orgId := .null
  riskScore := .null
  findings := .value []

/-- `_transport_sweep` が `_dispatch` に渡す finding。 -/
def transportSweep (subjectCns : List (Option String)) : List Finding :=
  (sweptDomains net subjectCns).filterMap fun dom =>
    let posture := checkDomain net dom
    if posture.status = "misconfigured" then some (transportFinding dom posture) else none

end Sweep

/-! ## 約束 -/

variable {net : Net}

/-- 崩れたものを取って言う finding。 -/
def Proven (net : Net) (f : Finding) : Prop :=
  ∃ dom, f.fiveTuple = .value dom ∧ (lookup net (normalizeDomain net dom)).Malformed net

theorem mem_transportSweep_iff {subjectCns : List (Option String)} {f : Finding} :
    f ∈ transportSweep net subjectCns ↔ ∃ dom ∈ sweptDomains net subjectCns,
      (checkDomain net dom).status = "misconfigured" ∧
        f = transportFinding dom (checkDomain net dom) := by
  unfold transportSweep
  rw [List.mem_filterMap]
  refine exists_congr fun dom => and_congr_right fun _ => ?_
  dsimp only
  split
  · next h => simp [h, eq_comm]
  · next h => simp [h]

/-- 崩れたものを取って言うのは、調べた domain のどれも status を偽らないときである。 -/
theorem sweepProven_iff {subjectCns : List (Option String)} :
    (∀ f ∈ transportSweep net subjectCns, Proven net f) ↔
      ∀ dom ∈ sweptDomains net subjectCns, Clear net dom := by
  constructor
  · intro h dom hdom hvalid hread
    have hstatus := (status_eq_misconfigured_iff_fetched hvalid).mpr
      (fetchedStatus_eq_misconfigured_iff.mpr (.inr hread))
    obtain ⟨dom', hfive, hbad⟩ := h _ (mem_transportSweep_iff.mpr ⟨dom, hdom, hstatus, rfl⟩)
    cases hfive
    exact Lookup.not_malformed_of_misread hread hbad
  · intro h f hf
    obtain ⟨dom, hdom, hstatus, rfl⟩ := mem_transportSweep_iff.mp hf
    exact ⟨dom, rfl, (statusHonest_iff.mpr (h dom hdom)).misconfigured hstatus⟩

/--
**status が取れなかったことを崩れていると言わず、sweep がそれを alert にしないのは、調べる domain の MX の無いことの
文が語を含まず、policy の取得が拒まれも切れも HTTP の error にもならないときである。**
-/
theorem honest_iff (net : Net) (domain : String) (subjectCns : List (Option String)) :
    (StatusHonest net domain ↔ Clear net domain) ∧
      ((∀ f ∈ transportSweep net subjectCns, Proven net f) ↔
        ∀ dom ∈ sweptDomains net subjectCns, Clear net dom) :=
  ⟨statusHonest_iff, sweepProven_iff⟩

/-! ## 一時の失敗 -/

section
variable {domain : String} {l : Lookup}

/-- 崩れたものが取れていないのに `misconfigured` と呼べば、約束は破れる。 -/
theorem not_statusHonest_of (hlook : lookup net (normalizeDomain net domain) = l)
    (hl : ¬l.Malformed net) (hstatus : (checkDomain net domain).status = "misconfigured") :
    ¬StatusHonest net domain := fun h => hl (hlook ▸ h.misconfigured hstatus)

theorem not_sweepProven_of {subjectCns : List (Option String)}
    (hdom : domain ∈ sweptDomains net subjectCns)
    (hlook : lookup net (normalizeDomain net domain) = l) (hl : ¬l.Malformed net)
    (hstatus : (checkDomain net domain).status = "misconfigured") :
    ¬∀ f ∈ transportSweep net subjectCns, Proven net f := by
  intro h
  obtain ⟨dom, hfive, hbad⟩ := h _ (mem_transportSweep_iff.mpr ⟨domain, hdom, hstatus, rfl⟩)
  cases hfive
  exact hl (hlook ▸ hbad)

end

/-- `a.test` の policy は HTTPS の 503 で取れず、`policy.test` は無い。 -/
def outageNet : Net where
  lower s := s
  repr s := "'" ++ s ++ "'"
  decodeError _ := "'utf-8' codec can't decode bytes"
  sha256 _ := ""
  sha512 _ := ""
  spki _ := none
  mx name :=
    if name = "a.test" then .records [⟨10, "mx.a.test."⟩]
    else .noData ("The DNS query name does not exist: " ++ name ++ ".")
  txt name := if name = "_mta-sts.a.test" then .records [["v=STSv1; id=1;".toUTF8.toList]]
    else .noData ("The DNS query name does not exist: " ++ name ++ ".")
  tlsa _ := .nxdomain
  trustAnchor := none
  dnskey _ := none
  parent _ := none
  validate _ _ _ _ _ := false
  addresses _ := .ok [{ text := "93.184.216.34" }]
  get _ _ := .ok { status := 503 }
  urljoin _ location := .ok location
  urlparse _ := .ok ("https", "mta-sts.a.test")

/-- 503 も、名に `policy` のある domain の NXDOMAIN も、`misconfigured` と呼ばれて alert になる。 -/
theorem not_honest_outage :
    lookup outageNet (normalizeDomain outageNet "a.test") = .fetched (.httpError 503) ∧
    (checkDomain outageNet "a.test").status = "misconfigured" ∧
    lookup outageNet (normalizeDomain outageNet "policy.test") =
      .noMx "The DNS query name does not exist: policy.test." ∧
    (checkDomain outageNet "policy.test").status = "misconfigured" ∧
    ¬StatusHonest outageNet "a.test" ∧ ¬StatusHonest outageNet "policy.test" ∧
    ¬∀ f ∈ transportSweep outageNet [some "*.a.test"], Proven outageNet f := by
  have hlook : lookup outageNet (normalizeDomain outageNet "a.test") =
      .fetched (.httpError 503) := by decide +kernel
  have hnx : lookup outageNet (normalizeDomain outageNet "policy.test") =
      .noMx "The DNS query name does not exist: policy.test." := by decide +kernel
  have hstatus : (checkDomain outageNet "a.test").status = "misconfigured" := by decide +kernel
  have hnxStatus : (checkDomain outageNet "policy.test").status = "misconfigured" := by
    decide +kernel
  have hswept : "a.test" ∈ sweptDomains outageNet [some "*.a.test"] := by decide +kernel
  exact ⟨hlook, hstatus, hnx, hnxStatus, not_statusHonest_of hlook id hstatus,
    not_statusHonest_of hnx id hnxStatus, not_sweepProven_of hswept hlook id hstatus⟩

end CipherPost.Live
