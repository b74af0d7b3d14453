import CipherPost.Live.Suppressed
import CipherPost.Proactive.Compliance

/-!
# 規格ごとのまとめの endpoint

`app/api/main.py` の `compliance_summary`。`suppression` の掛かる finding は、既定では数えず、受け入れた危険として
別に数える。`list_findings` と同じ suppression を同じ dict に当てるので、二つの endpoint の数は合う。

* `complianceSummary` — `compliance_summary`
* `triage_eq` — loop の結果を、`list_findings` の一覧から読む
* `RiskAccounted`・`risk_accounted` — どの finding も一度だけ数えられる
-/

namespace CipherPost.Api

open CipherPost.Live CipherPost.Proactive

/-! ## endpoint -/

/-- `summary_for_findings` に渡す dict。 -/
def mappedOf (f : FindingRec) : MappedFinding := ⟨f.ruleId, f.severity.text⟩

/-- 返す dict。 -/
structure SummaryReply extends ComplianceSummary where
  /-- `suppressed_accepted_risk`。 -/
  acceptedRisk : Nat
  notObservable : Dict String Nat
  version : Nat

inductive SummaryResponse where
  /-- 400。 -/
  | unknownFramework
  /-- scope を読む途中の例外。 -/
  | failed
  | ok (reply : SummaryReply)

section
variable (lib : MatchLib) (now : Nat) (sups : List Suppression) (fiveTuples : Dict String String)
  (includeSuppressed : Bool)

/-- loop の一歩。 -/
def triageStep (acc : List MappedFinding × Nat) (f : FindingRec) : Option (List MappedFinding × Nat) :=
  (matchSuppression lib now f.ruleId (rowTarget ((fiveTuples.get? f.sessionId).getD "")) sups).map
    fun m => if m.isSome && !includeSuppressed then (acc.1, acc.2 + 1) else (acc.1 ++ [mappedOf f], acc.2)

/-- 数える finding と、受け入れた危険の数。 -/
def triage (rows : List FindingRec) : Option (List MappedFinding × Nat) :=
  rows.foldlM (triageStep lib now sups fiveTuples includeSuppressed) ([], 0)

end

/-- `not_observable` の数え。`details` は session ごとの `details["not_observable"]` である。 -/
def notObservableCounts (details : List (Option (List String))) : Dict String Nat :=
  (details.flatMap fun ids => ids.getD []).foldl Dict.bump Dict.empty

/-- 知らない規格。空の文字列は、選ばないのと同じである。 -/
def unknown (framework : Option String) : Bool :=
  (chosen framework).any fun fw => decide (fw ∉ FRAMEWORKS)

/-- `compliance_summary`。`rows` は org の session の finding である。 -/
def complianceSummary (lib : MatchLib) (now : Nat) (org : String) (table : List Suppression)
    (fiveTuples : Dict String String) (rows : List FindingRec) (details : List (Option (List String)))
    (framework : Option String) (includeSuppressed : Bool) : SummaryResponse :=
  if unknown framework then .unknownFramework
  else
    let sups := activeSuppressions now (.str org) table
    match triage lib now sups fiveTuples includeSuppressed rows with
    | none => .failed
    | some (live, accepted) =>
      match summaryForFindings live framework with
      | none => .failed
      | some summary => .ok
        { summary with
          acceptedRisk := accepted
          notObservable := notObservableCounts details
          version := mappingVersion }

/-! ## 一覧から読む -/

/-- 一覧のうち、数える finding。 -/
def counted (includeSuppressed : Bool) (listed : List ListedFinding) : List MappedFinding :=
  (listed.filter fun f => !f.suppressed || includeSuppressed).map fun f => mappedOf f.toFindingRec

/-- 一覧のうち、受け入れた危険の数。 -/
def acceptedOf (includeSuppressed : Bool) (listed : List ListedFinding) : Nat :=
  listed.countP fun f => f.suppressed && !includeSuppressed

section
variable {lib : MatchLib} {now : Nat} {org : String} {table : List Suppression}
  {fiveTuples : Dict String String} {includeSuppressed : Bool}

theorem listFindings_cons (f : FindingRec) (rows : List FindingRec) :
    listFindings lib now org table fiveTuples (f :: rows) =
      (matchSuppression lib now f.ruleId (rowTarget ((fiveTuples.get? f.sessionId).getD ""))
        (activeSuppressions now (.str org) table)).bind fun m =>
          (listFindings lib now org table fiveTuples rows).map fun listed =>
            { f with suppressed := m.isSome, suppressionId := m.map (·.id) } :: listed := by
  simp only [listFindings, List.mapM_cons]
  cases matchSuppression lib now f.ruleId (rowTarget ((fiveTuples.get? f.sessionId).getD ""))
    (activeSuppressions now (.str org) table) with
  | none => rfl
  | some m => exact Option.map_eq_bind.symm

/-- **loop は、一覧の finding を数えるものと受け入れたものに分ける。** -/
theorem triage_eq (rows : List FindingRec) :
    triage lib now (activeSuppressions now (.str org) table) fiveTuples includeSuppressed rows =
      (listFindings lib now org table fiveTuples rows).map fun listed =>
        (counted includeSuppressed listed, acceptedOf includeSuppressed listed) := by
  have hfold : ∀ (rows : List FindingRec) (acc : List MappedFinding × Nat),
      rows.foldlM (triageStep lib now (activeSuppressions now (.str org) table) fiveTuples
        includeSuppressed) acc =
        (listFindings lib now org table fiveTuples rows).map fun listed =>
          (acc.1 ++ counted includeSuppressed listed,
            acc.2 + acceptedOf includeSuppressed listed) := by
    intro rows
    induction rows with
    | nil =>
      intro acc
      show some acc = some (acc.1 ++ [], acc.2 + 0)
      rw [List.append_nil, Nat.add_zero]
    | cons f rows ih =>
      intro acc
      rw [List.foldlM_cons, listFindings_cons, triageStep]
      cases hmatch : matchSuppression lib now f.ruleId
          (rowTarget ((fiveTuples.get? f.sessionId).getD "")) (activeSuppressions now (.str org) table) with
      | none => rfl
      | some m =>
        rw [Option.map_some, Option.bind_some, Option.bind_eq_bind, Option.bind_some, ih,
          Option.map_map]
        refine congrArg (fun g => (listFindings lib now org table fiveTuples rows).map g) ?_
        funext listed
        -- 掛かる suppression の有無と、含めるかどうかで、入る先が決まる
        cases m <;> cases includeSuppressed <;>
          simp [counted, acceptedOf, Nat.add_assoc, Nat.add_comm]
  rw [triage, hfold]
  simp

/-- 一覧の finding は、数えるものと受け入れたものに分かれる。 -/
theorem length_counted (includeSuppressed : Bool) (listed : List ListedFinding) :
    acceptedOf includeSuppressed listed + (counted includeSuppressed listed).length =
      listed.length := by
  have hkept : (counted includeSuppressed listed).length =
      listed.countP fun f => !(f.suppressed && !includeSuppressed) := by
    rw [counted, List.length_map, ← List.countP_eq_length_filter]
    refine List.countP_congr fun f _ => ?_
    rw [Bool.not_and, Bool.not_not]
  rw [hkept, acceptedOf, List.length_eq_countP_add_countP fun f => f.suppressed && !includeSuppressed]
  refine congrArg (_ + ·) (List.countP_congr fun f _ => ?_)
  simp

/-- 飛ばした rule の数えは、session の記録の数である。 -/
theorem get?_notObservableCounts (details : List (Option (List String))) (id : String) :
    ((notObservableCounts details).get? id).getD 0 =
      (details.flatMap fun ids => ids.getD []).count id := by
  rw [notObservableCounts]
  induction details.flatMap fun ids => ids.getD [] using List.reverseRecOn with
  | nil => rfl
  | append_singleton ids last ih =>
    rw [List.foldl_append, List.foldl_cons, List.foldl_nil, Dict.bump, Dict.get?_set,
      List.count_append, List.count_singleton, ← ih]
    by_cases h : last = id
    · subst h
      simp
    · simp [h]

/-! ## 数え -/

/--
**まとめは、org の finding を一度ずつ数える。** 受け入れた危険は `list_findings` で suppressed の finding であり、
残りは、規格の札が無いか、どれかの組に入る。
-/
structure RiskAccounted (framework : Option String) (includeSuppressed : Bool)
    (listed : List ListedFinding) (details : List (Option (List String))) (r : SummaryReply) :
    Prop where
  accepted : r.acceptedRisk =
    if includeSuppressed then 0 else listed.countP fun f => f.suppressed
  summary : Counted framework (counted includeSuppressed listed) r.toComplianceSummary
  total : listed.length = r.acceptedRisk + r.unmappedFindings +
    (counted includeSuppressed listed).countP fun f => decide (tagsFor framework f.ruleId ≠ [])
  skipped : ∀ id, (r.notObservable.get? id).getD 0 =
    (details.flatMap fun ids => ids.getD []).count id

theorem unknown_eq_false {framework : Option String} (h : ∀ fw ∈ chosen framework, fw ∈ FRAMEWORKS) :
    unknown framework = false := by
  rw [unknown, Option.any_eq_false]
  exact fun fw hfw => decide_eq_false (not_not.mpr (h fw hfw))

/--
**endpoint の数え。** 知っている規格を選ぶか、どれも選ばなければ、`compliance_summary` は `list_findings` と
同じときに失敗し、そうでなければ、一覧の finding を一度ずつ数える。
-/
theorem risk_accounted {framework : Option String} (h : ∀ fw ∈ chosen framework, fw ∈ FRAMEWORKS)
    (lib : MatchLib) (now : Nat) (org : String) (table : List Suppression)
    (fiveTuples : Dict String String) (rows : List FindingRec) (details : List (Option (List String)))
    (includeSuppressed : Bool) :
    (listFindings lib now org table fiveTuples rows = none →
      complianceSummary lib now org table fiveTuples rows details framework includeSuppressed =
        .failed) ∧
    ∀ listed, listFindings lib now org table fiveTuples rows = some listed →
      ∃ r, complianceSummary lib now org table fiveTuples rows details framework includeSuppressed =
          .ok r ∧ RiskAccounted framework includeSuppressed listed details r := by
  have hknown := unknown_eq_false h
  constructor
  · intro hfail
    rw [complianceSummary, hknown, if_neg Bool.false_ne_true]
    dsimp only
    rw [triage_eq, hfail]
    rfl
  · intro listed hlisted
    obtain ⟨s, hs, hcounted⟩ := counted_summary (counted includeSuppressed listed) h
    refine ⟨{ s with
        acceptedRisk := acceptedOf includeSuppressed listed
        notObservable := notObservableCounts details
        version := mappingVersion }, ?_, ?_, hcounted, ?_, get?_notObservableCounts details⟩
    · rw [complianceSummary, hknown, if_neg Bool.false_ne_true]
      dsimp only
      rw [triage_eq, hlisted]
      simp only [Option.map_some, hs]
    · cases includeSuppressed <;> simp [acceptedOf]
    · show listed.length = acceptedOf includeSuppressed listed + s.unmappedFindings + _
      rw [hcounted.unmapped, Nat.add_assoc, ← length_counted includeSuppressed listed,
        List.length_eq_countP_add_countP fun f : MappedFinding =>
          decide (tagsFor framework f.ruleId = [])]
      simp

end

/-- rule を名指しする suppression は、その finding だけを受け入れる。 -/
theorem risk_accounted_waived : ∃ r, complianceSummary idleLib 0 "org-a"
      [blanket "weak-cipher-suite" (by decide)] mailTuples
      [weakCipherRow, { weakCipherRow with ruleId := "rc4-cipher" }] [some ["expired-certificate"], none]
      (some "PCI-DSS-4.0") false = .ok r ∧
    RiskAccounted (some "PCI-DSS-4.0") false
      [{ weakCipherRow with suppressed := true, suppressionId := some 1 },
        { weakCipherRow with ruleId := "rc4-cipher", suppressed := false, suppressionId := none }]
      [some ["expired-certificate"], none] r :=
  (risk_accounted (by decide) idleLib 0 "org-a" [blanket "weak-cipher-suite" (by decide)] mailTuples
    [weakCipherRow, { weakCipherRow with ruleId := "rc4-cipher" }]
    [some ["expired-certificate"], none] false).2 _ rfl

end CipherPost.Api
