import CipherPost.Live.Analyze
import CipherPost.Live.Reassembly
import CipherPost.Proactive.Suppressions

/-!
# 二つの suppression の見方

dispatcher は findings stream の payload を（`app/live/alerts.py` の `_suppressed`）、API は finding の row を
（`app/api/main.py` の `list_findings`）、同じ `match_suppression` に渡す。payload は session 一つのもので
`rule_id` を持たず、row は finding 一つのもので rule を持つ。

* `publishedPayload` — `_process_one` が publish する dict
* `suppressed`・`listFindings` — 二つの見方
* `suppressed_iff_waived`・`marked_iff` — それぞれが何を見ているか
* `suppressed_iff_listed` — 二つが一致する条件
-/

namespace CipherPost.Live

open Parsing Proactive

/-! ## payload -/

/-- `_process_one` の `findings_payload`。JSON の dict である。 -/
def publishedPayload (sessId org : String) (sess : PayloadSession) (findings : List SessionFinding)
    (riskScore : Json) (isAnomaly : Bool) (now : Nat) : List (String × Json) :=
  [("session_id", .str sessId), ("org_id", .str org), ("five_tuple", sess.fiveTuple),
   ("protocol", .str sess.protocol.value),
   ("findings", .arr (findings.map fun f => .obj
     [("rule_id", .str f.ruleId), ("severity", .str f.severity), ("title", .str f.title)])),
   ("risk_score", riskScore), ("is_anomaly", .bool isAnomaly),
   ("max_severity", .str (maxText (findings.map (·.severity)))), ("ts", .float (now / 1000000))]

/-- `list_findings` が match に渡す dict。 -/
def rowTarget (fiveTuple : String) : List (String × Json) := [("five_tuple", .str fiveTuple)]

section Target

variable (lib : MatchLib)

theorem fiveTupleText_rowTarget (ft : String) : fiveTupleText lib (rowTarget ft) = ft := by
  by_cases h : ft = ""
  · subst h
    rfl
  · have ht : (Json.str ft).truthy = true := decide_eq_true h
    have hget : DictList.get? "five_tuple" (rowTarget ft) = some (.str ft) := rfl
    rw [fiveTupleText, textAt, hget, Option.filter_some_pos ht]
    rfl

/-- payload が match に見せるのは `five_tuple` だけである。 -/
theorem scopeMatches_publishedPayload {sessId org : String} {sess : PayloadSession}
    {findings : List SessionFinding} {riskScore : Json} {isAnomaly : Bool} {now : Nat} {ft : String}
    (h : fiveTupleText lib (publishedPayload sessId org sess findings riskScore isAnomaly now) = ft)
    (scope : List (String × Json)) :
    scopeMatches lib scope (publishedPayload sessId org sess findings riskScore isAnomaly now) =
      scopeMatches lib scope (rowTarget ft) := by
  have hends : endpoints lib (publishedPayload sessId org sess findings riskScore isAnomaly now) =
      endpoints lib (rowTarget ft) := by
    unfold endpoints
    rw [h, fiveTupleText_rowTarget]
  refine scopeMatches_congr lib ?_ ?_ ?_ scope
  · unfold findingHosts
    rw [hends]
    rfl
  · unfold findingPorts
    rw [hends]
    rfl
  · rfl

end Target

/-! ## 二つの見方 -/

/-- org の、承認された suppression の query。 -/
def approvedOf (org : Json) (table : List Suppression) : List Suppression :=
  table.filter fun s => decide (org.str? = some s.orgId) && decide (s.status = "approved")

/-- `_active_suppressions`。 -/
def activeSuppressions (now : Nat) (org : Json) (table : List Suppression) : List Suppression :=
  filterActive now (approvedOf org table)

/-- `_suppressed` の使う列。`_sup_cache` の中身は 60 秒のあいだ使い回される。 -/
def cachedSuppressions (now : Nat) (org : Json) (table : List Suppression)
    (cache : Option (Nat × List Suppression)) : List Suppression :=
  match cache with
  | none => activeSuppressions now org table
  | some (time, active) =>
    if time + 60000000 < now then activeSuppressions now org table else active

/-- `finding.get("rule_id") or ""`。文字列でない値は、どの `rule_id` とも等しくない。 -/
def payloadRule (finding : List (String × Json)) : String :=
  ((DictList.get? "rule_id" finding).bind Json.str?).getD ""

/-- `AlertDispatcher._suppressed`。例外は偽になる。 -/
def suppressed (lib : MatchLib) (now : Nat) (table : List Suppression)
    (cache : Option (Nat × List Suppression)) (finding : List (String × Json)) : Bool :=
  let org := (DictList.get? "org_id" finding).getD .null
  match matchSuppression lib now (payloadRule finding) finding
      (cachedSuppressions now org table cache) with
  | some (some _) => true
  | _ => false

/-- `findings` の row。 -/
structure FindingRec where
  id : Nat
  sessionId : String
  ruleId : String
  severity : Severity
  title : String
  description : String

/-- `list_findings` の返す一件。 -/
structure ListedFinding extends FindingRec where
  suppressed : Bool
  suppressionId : Option Nat

/-- `list_findings` の loop。`fiveTuples` は session の row の `five_tuple` である。 -/
def listFindings (lib : MatchLib) (now : Nat) (org : String) (table : List Suppression)
    (fiveTuples : Dict String String) (rows : List FindingRec) : Option (List ListedFinding) :=
  let sups := activeSuppressions now (.str org) table
  rows.mapM fun f =>
    (matchSuppression lib now f.ruleId (rowTarget ((fiveTuples.get? f.sessionId).getD "")) sups).map
      fun m => { f with suppressed := m.isSome, suppressionId := m.map (·.id) }

/-- 返った一覧で、どの finding も suppressed である。 -/
def AllMarked (out : Option (List ListedFinding)) : Prop :=
  ∃ l, out = some l ∧ ∀ f ∈ l, f.suppressed = true

/-! ## それぞれの見ているもの -/

theorem isActive_of_mem {now : Nat} {org : Json} {table : List Suppression} {s : Suppression}
    (h : s ∈ activeSuppressions now org table) : isActive now s = true := (List.mem_filter.mp h).2

/-- 例外を起こさない列での `mapM` は、要素ごとの結果の列である。 -/
theorem allMarked_mapM {rows : List FindingRec} {f : FindingRec → Option ListedFinding}
    {P : FindingRec → Prop}
    (h : ∀ r ∈ rows, ∃ out, f r = some out ∧ (out.suppressed = true ↔ P r)) :
    AllMarked (rows.mapM f) ↔ ∀ r ∈ rows, P r := by
  induction rows with
  | nil =>
    refine iff_of_true ⟨[], rfl, fun _ h => ?_⟩ fun _ h => ?_
    · exact absurd h List.not_mem_nil
    · exact absurd h List.not_mem_nil
  | cons r rows ih =>
    obtain ⟨⟨out, hout, hP⟩, hrest⟩ := List.forall_mem_cons.mp h
    rw [List.forall_mem_cons, ← ih hrest, ← hP, List.mapM_cons, hout]
    constructor
    · rintro ⟨l, hl, hall⟩
      cases htail : rows.mapM f with
      | none => simp [htail] at hl
      | some tail =>
        have hl' : out :: tail = l := by simpa [htail] using hl
        subst hl'
        obtain ⟨hhead, hall⟩ := List.forall_mem_cons.mp hall
        exact ⟨hhead, tail, rfl, hall⟩
    · rintro ⟨hhead, tail, htail, hall⟩
      refine ⟨out :: tail, by simp [htail], ?_⟩
      exact List.forall_mem_cons.mpr ⟨hhead, hall⟩

section

variable {lib : MatchLib} {now : Nat} {table : List Suppression} {sessId org ft : String}

/-- **API の見方。** 掛かるのは、rule を名指しするものと wildcard である。 -/
theorem marked_iff {fiveTuples : Dict String String} {rows : List FindingRec}
    (hrow : fiveTuples.get? sessId = some ft) (hrows : ∀ f ∈ rows, f.sessionId = sessId)
    (hclean : ∀ s ∈ activeSuppressions now (.str org) table,
      s.ruleId = "*" ∨ (∃ f ∈ rows, s.ruleId = f.ruleId) →
        scopeMatches lib s.scope (rowTarget ft) ≠ none) :
    AllMarked (listFindings lib now org table fiveTuples rows) ↔
      ∀ f ∈ rows, ∃ s ∈ activeSuppressions now (.str org) table,
        (s.ruleId = f.ruleId ∨ s.ruleId = "*") ∧ Covers lib (rowTarget ft) s := by
  refine allMarked_mapM fun f hf => ?_
  have hactive : ∀ s ∈ activeSuppressions now (.str org) table, isActive now s = true :=
    fun s => isActive_of_mem
  obtain ⟨m, hm, hiff⟩ := matchSuppression_eq_some_iff lib f.ruleId hactive
    fun s hs hrule => hclean s hs (hrule.symm.imp_right fun h => ⟨f, hf, h⟩)
  have htarget : (fiveTuples.get? f.sessionId).getD "" = ft := by
    rw [hrows f hf, hrow]
    rfl
  rw [htarget, hm]
  exact ⟨_, rfl, hiff⟩

/-- **dispatcher の見方。** payload は rule を持たないので、掛かるのは wildcard だけである。 -/
theorem suppressed_iff_waived {cache : Option (Nat × List Suppression)} {sess : PayloadSession}
    {findings : List SessionFinding} {riskScore : Json} {isAnomaly : Bool}
    (hcache : cachedSuppressions now (.str org) table cache =
      activeSuppressions now (.str org) table)
    (htuple : fiveTupleText lib
      (publishedPayload sessId org sess findings riskScore isAnomaly now) = ft)
    (hclean : ∀ s ∈ activeSuppressions now (.str org) table, s.ruleId = "*" →
      scopeMatches lib s.scope (rowTarget ft) ≠ none) :
    suppressed lib now table cache
        (publishedPayload sessId org sess findings riskScore isAnomaly now) = true ↔
      ∃ s ∈ activeSuppressions now (.str org) table, s.ruleId = "*" ∧ Covers lib (rowTarget ft) s := by
  have hscope := fun scope => scopeMatches_publishedPayload lib htuple scope
  have hactive : ∀ s ∈ activeSuppressions now (.str org) table, isActive now s = true :=
    fun s => isActive_of_mem
  have hmatches : ∀ s ∈ activeSuppressions now (.str org) table, s.ruleId = "" ∨ s.ruleId = "*" →
      scopeMatches lib s.scope
        (publishedPayload sessId org sess findings riskScore isAnomaly now) ≠ none := by
    intro s hs hrule
    rw [hscope]
    exact hclean s hs (hrule.resolve_left s.ruleId_ne)
  obtain ⟨m, hm, hiff⟩ := matchSuppression_eq_some_iff lib "" hactive hmatches
  have hrule : payloadRule (publishedPayload sessId org sess findings riskScore isAnomaly now) =
      "" := by
    simp [payloadRule, publishedPayload, DictList.get?]
  have hvalue : suppressed lib now table cache
      (publishedPayload sessId org sess findings riskScore isAnomaly now) = m.isSome := by
    have horg : (DictList.get? "org_id"
        (publishedPayload sessId org sess findings riskScore isAnomaly now)).getD .null =
          .str org := by
      simp [publishedPayload, DictList.get?]
    unfold suppressed
    dsimp only
    rw [horg, hcache, hrule, hm]
    cases m <;> rfl
  have hcovers : ∀ s, Covers lib
      (publishedPayload sessId org sess findings riskScore isAnomaly now) s ↔
        Covers lib (rowTarget ft) s := by
    intro s
    unfold Covers
    rw [hscope]
  rw [hvalue, hiff]
  constructor
  · rintro ⟨s, hs, hrule | hrule, hcover⟩
    · exact absurd hrule s.ruleId_ne
    · exact ⟨s, hs, hrule, (hcovers s).mp hcover⟩
  · rintro ⟨s, hs, hrule, hcover⟩
    exact ⟨s, hs, .inr hrule, (hcovers s).mpr hcover⟩

/--
**二つの見方の一致。** wildcard と、session の finding の rule を名指しするものの scope が例外を起こさず、payload の
`five_tuple` が row のものなら、二つが一致するのは、
wildcard の suppression が掛かるか、その rule を名指しする suppression の掛からない finding が session に
あるときである。
-/
theorem suppressed_iff_listed {cache : Option (Nat × List Suppression)} {sess : PayloadSession}
    {findings : List SessionFinding} {riskScore : Json} {isAnomaly : Bool}
    {fiveTuples : Dict String String} {rows : List FindingRec}
    (hrow : fiveTuples.get? sessId = some ft) (hrows : ∀ f ∈ rows, f.sessionId = sessId)
    (hcache : cachedSuppressions now (.str org) table cache =
      activeSuppressions now (.str org) table)
    (htuple : fiveTupleText lib
      (publishedPayload sessId org sess findings riskScore isAnomaly now) = ft)
    (hclean : ∀ s ∈ activeSuppressions now (.str org) table,
      s.ruleId = "*" ∨ (∃ f ∈ rows, s.ruleId = f.ruleId) →
        scopeMatches lib s.scope (rowTarget ft) ≠ none) :
    (suppressed lib now table cache
        (publishedPayload sessId org sess findings riskScore isAnomaly now) = true ↔
      AllMarked (listFindings lib now org table fiveTuples rows)) ↔
    (∃ s ∈ activeSuppressions now (.str org) table, s.ruleId = "*" ∧ Covers lib (rowTarget ft) s) ∨
      ∃ f ∈ rows, ∀ s ∈ activeSuppressions now (.str org) table, s.ruleId = f.ruleId →
        ¬ Covers lib (rowTarget ft) s := by
  rw [suppressed_iff_waived hcache htuple fun s hs hrule => hclean s hs (.inl hrule),
    marked_iff hrow hrows hclean]
  by_cases hstar : ∃ s ∈ activeSuppressions now (.str org) table,
      s.ruleId = "*" ∧ Covers lib (rowTarget ft) s
  · obtain ⟨s, hs, hrule, hcover⟩ := hstar
    refine iff_of_true (iff_of_true ⟨s, hs, hrule, hcover⟩ fun f _ => ?_) (.inl ⟨s, hs, hrule, hcover⟩)
    exact ⟨s, hs, .inr hrule, hcover⟩
  · rw [iff_false_left hstar, or_iff_right hstar]
    constructor
    · intro hnot
      by_contra hnone
      refine hnot fun f hf => ?_
      by_contra hno
      exact hnone ⟨f, hf, fun s hs hrule hcover => hno ⟨s, hs, .inl hrule, hcover⟩⟩
    · rintro ⟨f, hf, hno⟩ hall
      obtain ⟨s, hs, hrule | hrule, hcover⟩ := hall f hf
      · exact hno s hs hrule hcover
      · exact hstar ⟨s, hs, hrule, hcover⟩

end

/-! ## 例 -/

/-- 呼ばれない library。scope の空な suppression では、どの関数も使われない。 -/
def idleLib : MatchLib where
  lower := String.toLower
  text := fun _ => ""
  inNetwork := fun _ _ => false
  fnmatch := fun name pat => decide (name = pat)

/-- ある org の、scope の無い suppression。 -/
def blanket (ruleId : String) (h : ruleId ≠ "") : Suppression where
  id := 1
  orgId := "org-a"
  ruleId := ruleId
  ruleId_ne := h
  scope := []
  status := "approved"
  expiresAt := 10

/-- 平文の mail の session。 -/
def mailSession : PayloadSession where
  protocol := .smtp
  fiveTuple := .str "10.0.0.1:40000->10.0.0.2:25"
  clientIp := .str "10.0.0.1"
  serverIp := .str "10.0.0.2"
  clientPort := .int 40000
  serverPort := .int 25
  isStarttls := .bool false
  transitionOffset := .null
  plaintextSegment := []
  plaintextServerSegment := []
  tlsSegment := []
  tlsServerSegment := []
  startTs := .float 0
  endTs := .float 0
  portBased := .bool true
  closedBy := .str "fin"
  trackedBytes := .int 0
  rawRefs := []

/-- その session の row の `five_tuple`。 -/
def mailTuples : Dict String String :=
  Dict.empty.set "sess-1" "10.0.0.1:40000->10.0.0.2:25"

/-- その session の finding。 -/
def weakCipherRow : FindingRec where
  id := 7
  sessionId := "sess-1"
  ruleId := "weak-cipher-suite"
  severity := .high
  title := "Weak cipher"
  description := ""

/-- wildcard の suppression は、dispatcher にも API にも掛かる。 -/
theorem suppressed_iff_listed_wildcard :
    (suppressed idleLib 0 [blanket "*" (by decide)] none
        (publishedPayload "sess-1" "org-a" mailSession [] .null false 0) = true ↔
      AllMarked (listFindings idleLib 0 "org-a" [blanket "*" (by decide)] mailTuples [weakCipherRow])) ↔
    (∃ s ∈ activeSuppressions 0 (.str "org-a") [blanket "*" (by decide)],
      s.ruleId = "*" ∧ Covers idleLib (rowTarget "10.0.0.1:40000->10.0.0.2:25") s) ∨
      ∃ f ∈ [weakCipherRow], ∀ s ∈ activeSuppressions 0 (.str "org-a") [blanket "*" (by decide)],
        s.ruleId = f.ruleId → ¬ Covers idleLib (rowTarget "10.0.0.1:40000->10.0.0.2:25") s := by
  have hcache : cachedSuppressions 0 (.str "org-a") [blanket "*" (by decide)] none =
      activeSuppressions 0 (.str "org-a") [blanket "*" (by decide)] := rfl
  have htuple : fiveTupleText idleLib
      (publishedPayload "sess-1" "org-a" mailSession [] .null false 0) =
        "10.0.0.1:40000->10.0.0.2:25" := by decide +kernel
  have hrow : mailTuples.get? "sess-1" = some "10.0.0.1:40000->10.0.0.2:25" := by decide
  have hrows : ∀ f ∈ [weakCipherRow], f.sessionId = "sess-1" := by simp [weakCipherRow]
  have hclean : ∀ s ∈ activeSuppressions 0 (.str "org-a") [blanket "*" (by decide)],
      s.ruleId = "*" ∨ (∃ f ∈ [weakCipherRow], s.ruleId = f.ruleId) →
        scopeMatches idleLib s.scope (rowTarget "10.0.0.1:40000->10.0.0.2:25") ≠ none := by
    intro s hs _
    have hmem : s ∈ [blanket "*" (by decide)] := List.mem_of_mem_filter (List.mem_of_mem_filter hs)
    rw [List.mem_singleton.mp hmem]
    decide
  have h := suppressed_iff_listed hrow hrows hcache htuple hclean
  exact h

/-- rule を名指しする suppression は API にだけ掛かり、alert は止まらない。 -/
theorem suppressed_ignores_rule :
    ¬ ∀ (lib : MatchLib) (now : Nat) (table : List Suppression) (sessId org ft : String)
      (sess : PayloadSession) (findings : List SessionFinding) (fiveTuples : Dict String String)
      (rows : List FindingRec),
      fiveTuples.get? sessId = some ft → (∀ f ∈ rows, f.sessionId = sessId) →
      fiveTupleText lib (publishedPayload sessId org sess findings .null false now) = ft →
        (suppressed lib now table none
            (publishedPayload sessId org sess findings .null false now) = true ↔
          AllMarked (listFindings lib now org table fiveTuples rows)) := by
  intro h
  have hiff := h idleLib 0 [blanket "weak-cipher-suite" (by decide)] "sess-1" "org-a"
    "10.0.0.1:40000->10.0.0.2:25" mailSession [] mailTuples [weakCipherRow] (by decide)
    (by simp [weakCipherRow]) (by decide +kernel)
  have hmarked : AllMarked (listFindings idleLib 0 "org-a"
      [blanket "weak-cipher-suite" (by decide)] mailTuples [weakCipherRow]) :=
    ⟨[{ weakCipherRow with suppressed := true, suppressionId := some 1 }], rfl, by simp⟩
  have hnot : suppressed idleLib 0 [blanket "weak-cipher-suite" (by decide)] none
      (publishedPayload "sess-1" "org-a" mailSession [] .null false 0) = false := by decide +kernel
  rw [hnot] at hiff
  exact Bool.false_ne_true (hiff.mpr hmarked)

end CipherPost.Live
