import CipherPost.Infra.Aligned
import CipherPost.Parsing.SessionAnalysis
import CipherPost.Proactive.Suppressions

/-!
# 走査の結果と受け入れた finding

`app/cli.py` の `scan_pcap`・`load_baseline`・`load_suppressions`・`apply_filters`。baseline は finding を
除き、suppression は finding に印を付ける。ファイルの JSON は型を確かめずに読まれるので、読む途中の例外も持つ。

* `Report`・`ReportFinding`・`Marked` — 走査の結果と、印の付いた finding
* `scanReport` — `scan_pcap` の返すもの
* `loadBaseline`・`loadSuppressions` — ファイルの読み。`none` は例外である
* `isActiveAt`・`matchNamespace` — `SimpleNamespace` に対する `is_active` と `match_suppression`
* `applyFilters` — `apply_filters`
* `has_applyFilters_iff` — 残る finding
-/

namespace CipherPost.Cli

open Parsing Proactive

/-! ## 走査の結果 -/

/-- `scan_pcap` の finding の dict。 -/
structure ReportFinding where
  ruleId : String
  ruleName : String
  severity : String
  title : String
  description : String
  reference : String
  deriving Repr, DecidableEq

/-- `scan_pcap` の session の dict（指紋を除く）。 -/
structure ReportSession (φ : Type) where
  sessionId : String
  protocol : String
  fiveTuple : String
  tlsVersion : Option String
  cipher : Option String
  findings : List φ
  deriving Repr, DecidableEq

/-- `scan_pcap` の返す dict。 -/
structure Report (φ : Type) where
  cipherpostVersion : String
  pcap : String
  sessions : List (ReportSession φ)
  deriving Repr, DecidableEq

/-- `f` が、五つ組 `fiveTuple` の session にある。 -/
def Report.Has {φ : Type} (report : Report φ) (fiveTuple : String) (f : φ) : Prop :=
  ∃ sess ∈ report.sessions, sess.fiveTuple = fiveTuple ∧ f ∈ sess.findings

/-- 印の付きうる finding。`mark` は `suppression_id` である。 -/
structure Marked where
  finding : ReportFinding
  mark : Option String
  deriving Repr, DecidableEq

/-- `dict(sess, findings=kept)`。 -/
def ReportSession.withFindings {φ ψ : Type} (sess : ReportSession φ) (findings : List ψ) :
    ReportSession ψ where
  sessionId := sess.sessionId
  protocol := sess.protocol
  fiveTuple := sess.fiveTuple
  tlsVersion := sess.tlsVersion
  cipher := sess.cipher
  findings := findings

/-- `scan_pcap` の finding の dict。 -/
def scanFinding (f : SessionFinding) : ReportFinding where
  ruleId := f.ruleId
  ruleName := f.ruleName
  severity := f.severity
  title := f.title
  description := f.description
  reference := f.reference

/-- `scan_pcap` の session の dict。 -/
def scanSession (sa : SessionAnalysis) : ReportSession ReportFinding where
  sessionId := sa.sessionId
  protocol := sa.protocol
  fiveTuple := sa.fiveTuple
  tlsVersion := sa.negotiatedVersionName
  cipher := sa.cipher
  findings := sa.findings.map scanFinding

/-- `scan_pcap` の返すもの。`analyses` は `analyze_pcap` の結果である。 -/
def scanReport (version pcap : String) (analyses : List SessionAnalysis) :
    Report ReportFinding where
  cipherpostVersion := version
  pcap := pcap
  sessions := analyses.map scanSession

/-! ## baseline -/

/-- 値が文字列 `s` に等しい。 -/
def isText (s : String) : Json → Bool
  | .str t => decide (t = s)
  | _ => false

def isNull : Json → Bool
  | .null => true
  | _ => false

/-- 集合に入れられる値。 -/
def hashable : Json → Bool
  | .arr _ | .obj _ => false
  | _ => true

/-- `load_baseline`。ファイルが無ければ空である。 -/
def loadBaseline : Option Json → Json
  | none => .arr []
  | some (.obj fields) => (DictList.get? "ignore" fields).getD (.arr [])
  | some data => data

/-- baseline の一つの、rule の id と五つ組。 -/
def ignoredPair : Json → Option (Json × Json)
  | .obj fields =>
    let ruleId := (DictList.get? "rule_id" fields).getD .null
    let fiveTuple := (DictList.get? "five_tuple" fields).getD .null
    if hashable ruleId && hashable fiveTuple then some (ruleId, fiveTuple) else none
  | _ => none

/-- `ignored`。 -/
def ignoredPairs (baseline : Json) : Option (List (Json × Json)) :=
  baseline.iter?.bind fun items => items.mapM ignoredPair

/-- baseline が、五つ組の同じ finding か、五つ組を問わずにその rule を除く。 -/
def ignores (ignored : List (Json × Json)) (fiveTuple : String) (f : ReportFinding) : Bool :=
  ignored.any fun p => isText f.ruleId p.1 && (isText fiveTuple p.2 || isNull p.2)

/-! ## suppression -/

/-- `expires_at` の値。 -/
inductive ExpiresAt where
  | null
  | datetime (aware : Bool) (time : Nat)
  | text (s : String)
  deriving Repr, DecidableEq

namespace ExpiresAt

/-- `getattr(exp, "tzinfo", None) is None`。 -/
def lacksTzinfo : ExpiresAt → Bool
  | datetime aware _ => !aware
  | _ => true

/-- `exp.replace(tzinfo=timezone.utc)`。文字列の `replace` は keyword を受けない。 -/
def replaceTzinfo : ExpiresAt → Option ExpiresAt
  | datetime _ time => some (datetime true time)
  | _ => none

/-- `bool(exp and exp > now)`。文字列と時刻は比べられない。 -/
def after (now : Nat) : ExpiresAt → Option Bool
  | null => some false
  | datetime _ time => some (decide (now < time))
  | text s => if s = "" then some false else none

end ExpiresAt

/-- `is_active`。例外は捕まえられて偽になる。 -/
def isActiveAt (now : Nat) (status : String) (expiresAt : ExpiresAt) : Bool :=
  if status ≠ "approved" then false
  else
    let exp := if expiresAt.lacksTzinfo ∧ expiresAt ≠ .null then expiresAt.replaceTzinfo
      else some expiresAt
    ((exp.bind (·.after now)).getD false)

/-- 時刻の `expires_at` では、row の `is_active` と同じである。 -/
theorem isActiveAt_datetime (now : Nat) (s : Suppression) (aware : Bool) :
    isActiveAt now s.status (.datetime aware s.expiresAt) = isActive now s := by
  unfold isActiveAt isActive
  by_cases hstatus : s.status = "approved"
  · cases aware <;> simp [hstatus, ExpiresAt.lacksTzinfo, ExpiresAt.replaceTzinfo, ExpiresAt.after]
  · simp [hstatus]

/-- 文字列の `expires_at` は、いつでも例外になり、有効でない。 -/
theorem isActiveAt_text (now : Nat) (status s : String) :
    isActiveAt now status (.text s) = false := by
  unfold isActiveAt
  simp [ExpiresAt.lacksTzinfo, ExpiresAt.replaceTzinfo]

/-- suppression の `SimpleNamespace`。 -/
structure Namespace where
  id : String
  ruleId : Json
  scope : Json
  status : String
  expiresAt : ExpiresAt

/-- ファイルの一つの entry。 -/
def readEntry (i : Nat) : Json → Option Namespace
  | .obj fields => some
    { id := "file-" ++ toString i
      ruleId := (DictList.get? "rule_id" fields).getD (.str "*")
      scope := (DictList.get? "scope" fields).getD (.obj [])
      status := "approved"
      expiresAt := .text "2099-01-01T00:00:00+00:00" }
  | _ => none

/-- `items`。 -/
def suppressionItems : Json → Json
  | .obj fields => (DictList.get? "suppressions" fields).getD (.obj fields)
  | data => data

/-- `load_suppressions`。ファイルが無ければ空である。 -/
def loadSuppressions : Option Json → Option (List Namespace)
  | none => some []
  | some data =>
    if (suppressionItems data).truthy then
      (suppressionItems data).iter?.bind fun items =>
        items.zipIdx.mapM fun e => readEntry e.2 e.1
    else some []

/-- 真の `scope` か `{}`。dict でなければ、読む途中で例外になる。 -/
def scopeFields (scope : Json) : Option (List (String × Json)) :=
  if scope.truthy then
    match scope with
    | .obj fields => some fields
    | _ => none
  else some []

section Filters

variable (lib : MatchLib) (now : Nat)

/-- rule の id が、その id か `*` である。 -/
def Namespace.ruleHit (s : Namespace) (ruleId : String) : Bool :=
  isText ruleId s.ruleId || isText "*" s.ruleId

def Namespace.active (s : Namespace) : Bool := isActiveAt now s.status s.expiresAt

/-- scope の判定。`none` は例外である。 -/
def Namespace.scopeHit (s : Namespace) (finding : List (String × Json)) : Option Bool :=
  (scopeFields s.scope).bind fun scope => scopeMatches lib scope finding

/-- `match_suppression`。外側の `none` は例外である。 -/
def matchNamespace (ruleId : String) (finding : List (String × Json)) :
    List Namespace → Option (Option Namespace)
  | [] => some none
  | s :: rest =>
    if s.ruleHit ruleId = false then matchNamespace ruleId finding rest
    else if s.active now = false then matchNamespace ruleId finding rest
    else (s.scopeHit lib finding).bind fun hit =>
      if hit then some (some s) else matchNamespace ruleId finding rest

/-- 判定に渡す finding の dict。 -/
def fiveTupleOnly (fiveTuple : String) : List (String × Json) := [("five_tuple", .str fiveTuple)]

/-- 一つの finding。除かれれば `some none`、例外は `none` である。 -/
def filterFinding (ignored : List (Json × Json)) (sups : List Namespace) (fiveTuple : String)
    (f : ReportFinding) : Option (Option Marked) :=
  if ignores ignored fiveTuple f then some none
  else (matchNamespace lib now f.ruleId (fiveTupleOnly fiveTuple) sups).map fun m =>
    some ⟨f, m.map (·.id)⟩

/-- 一つの session。 -/
def filterSession (ignored : List (Json × Json)) (sups : List Namespace)
    (sess : ReportSession ReportFinding) : Option (ReportSession Marked) :=
  (sess.findings.mapM (filterFinding lib now ignored sups sess.fiveTuple)).map fun kept =>
    sess.withFindings (kept.filterMap id)

/-- `apply_filters`。 -/
def applyFilters (report : Report ReportFinding) (baseline : Json) (sups : List Namespace) :
    Option (Report Marked) :=
  (ignoredPairs baseline).bind fun ignored =>
    (report.sessions.mapM (filterSession lib now ignored sups)).map fun sessions =>
      { cipherpostVersion := report.cipherpostVersion, pcap := report.pcap, sessions := sessions }

end Filters

/-! ## 残る finding -/

variable {lib : MatchLib} {now : Nat}

/-- 有効な suppression が `finding` に掛かる。 -/
def Namespace.Applies (lib : MatchLib) (now : Nat) (fiveTuple : String) (f : ReportFinding)
    (s : Namespace) : Prop :=
  s.ruleHit f.ruleId = true ∧ s.active now = true ∧
    s.scopeHit lib (fiveTupleOnly fiveTuple) = some true

/-- 例外が無ければ、掛かる suppression があるときにだけ見つかる。 -/
theorem matchNamespace_isSome_iff {fiveTuple : String} {f : ReportFinding} :
    ∀ {sups : List Namespace} {m : Option Namespace},
      matchNamespace lib now f.ruleId (fiveTupleOnly fiveTuple) sups = some m →
        (m.isSome = true ↔ ∃ s ∈ sups, s.Applies lib now fiveTuple f) := by
  intro sups
  induction sups with
  | nil =>
    intro m h
    cases h
    simp
  | cons s sups ih =>
    intro m h
    unfold matchNamespace at h
    split at h
    · next hrule =>
      rw [ih h]
      simp [Namespace.Applies, hrule]
    · next hrule =>
      split at h
      · next hactive =>
        rw [ih h]
        simp [Namespace.Applies, hactive]
      · next hactive =>
        obtain ⟨hit, hhit, h⟩ := Option.bind_eq_some_iff.mp h
        cases hit with
        | true =>
          cases h
          have happlies : s.Applies lib now fiveTuple f :=
            ⟨Bool.not_eq_false _ ▸ hrule, Bool.not_eq_false _ ▸ hactive, hhit⟩
          exact iff_of_true rfl ⟨s, List.mem_cons_self, happlies⟩
        | false =>
          rw [ih h]
          simp [Namespace.Applies, hhit]

theorem filterFinding_eq_some_iff {ignored : List (Json × Json)} {sups : List Namespace}
    {fiveTuple : String} {f : ReportFinding} {m : Marked} :
    filterFinding lib now ignored sups fiveTuple f = some (some m) ↔
      ignores ignored fiveTuple f = false ∧ m.finding = f ∧ ∃ hit,
        matchNamespace lib now f.ruleId (fiveTupleOnly fiveTuple) sups = some hit ∧
          m.mark = hit.map (·.id) := by
  unfold filterFinding
  cases ignores ignored fiveTuple f with
  | true => simp
  | false =>
    obtain ⟨finding, mark⟩ := m
    simp only [Bool.false_eq_true, if_false, Option.map_eq_some_iff, Option.some.injEq,
      Marked.mk.injEq, true_and]
    constructor
    · rintro ⟨hit, hhit, rfl, rfl⟩
      exact ⟨rfl, hit, hhit, rfl⟩
    · rintro ⟨rfl, hit, hhit, rfl⟩
      exact ⟨hit, hhit, rfl, rfl⟩

/-- 残る finding は、除かれなかったものである。 -/
theorem mem_filterSession_iff {ignored : List (Json × Json)} {sups : List Namespace}
    {sess : ReportSession ReportFinding} {sess' : ReportSession Marked}
    (h : filterSession lib now ignored sups sess = some sess') {m : Marked} :
    m ∈ sess'.findings ↔ m.finding ∈ sess.findings ∧
      filterFinding lib now ignored sups sess.fiveTuple m.finding = some (some m) := by
  obtain ⟨kept, hkept, rfl⟩ := Option.map_eq_some_iff.mp h
  show m ∈ kept.filterMap id ↔ _
  rw [List.mem_filterMap]
  constructor
  · rintro ⟨_, hmem, rfl⟩
    obtain ⟨f, hf, hfilter⟩ := (Aligned.mem_mapM_iff hkept).mp hmem
    obtain ⟨-, rfl, -⟩ := filterFinding_eq_some_iff.mp hfilter
    exact ⟨hf, hfilter⟩
  · rintro ⟨hf, hfilter⟩
    exact ⟨some m, (Aligned.mem_mapM_iff hkept).mpr ⟨_, hf, hfilter⟩, rfl⟩

/-- **`apply_filters` の後に残る finding。** -/
theorem has_applyFilters_iff {report : Report ReportFinding} {baseline : Json}
    {sups : List Namespace} {filtered : Report Marked}
    (h : applyFilters lib now report baseline sups = some filtered) :
    ∃ ignored, ignoredPairs baseline = some ignored ∧ ∀ fiveTuple m,
      filtered.Has fiveTuple m ↔ report.Has fiveTuple m.finding ∧
        filterFinding lib now ignored sups fiveTuple m.finding = some (some m) := by
  obtain ⟨ignored, hignored, h⟩ := Option.bind_eq_some_iff.mp h
  obtain ⟨sessions, hsessions, rfl⟩ := Option.map_eq_some_iff.mp h
  refine ⟨ignored, hignored, fun fiveTuple m => ?_⟩
  have hfive : ∀ {sess sess'}, filterSession lib now ignored sups sess = some sess' →
      sess'.fiveTuple = sess.fiveTuple := by
    intro sess sess' hsess
    obtain ⟨kept, -, rfl⟩ := Option.map_eq_some_iff.mp hsess
    rfl
  constructor
  · rintro ⟨sess', hmem, rfl, hm⟩
    obtain ⟨sess, hsess, hfilter⟩ := (Aligned.mem_mapM_iff hsessions).mp hmem
    obtain ⟨hf, hfinding⟩ := (mem_filterSession_iff hfilter).mp hm
    rw [hfive hfilter]
    exact ⟨⟨sess, hsess, rfl, hf⟩, hfinding⟩
  · rintro ⟨⟨sess, hsess, rfl, hf⟩, hfinding⟩
    have hsome := (Aligned.isSome_mapM report.sessions).mp (by rw [hsessions]; rfl) sess hsess
    obtain ⟨sess', hfilter⟩ := Option.isSome_iff_exists.mp hsome
    exact ⟨sess', (Aligned.mem_mapM_iff hsessions).mpr ⟨sess, hsess, hfilter⟩, hfive hfilter,
      (mem_filterSession_iff hfilter).mpr ⟨hf, hfinding⟩⟩

/-- `apply_filters` が返るのは、baseline が読め、どの finding の判定も例外を出さないときである。 -/
theorem isSome_applyFilters_iff {report : Report ReportFinding} {baseline : Json}
    {sups : List Namespace} :
    (applyFilters lib now report baseline sups).isSome = true ↔
      ∃ ignored, ignoredPairs baseline = some ignored ∧ ∀ fiveTuple f, report.Has fiveTuple f →
        (filterFinding lib now ignored sups fiveTuple f).isSome = true := by
  unfold applyFilters
  cases ignoredPairs baseline with
  | none => simp
  | some ignored =>
    have hsession : ∀ sess : ReportSession ReportFinding,
        (filterSession lib now ignored sups sess).isSome = true ↔ ∀ f ∈ sess.findings,
          (filterFinding lib now ignored sups sess.fiveTuple f).isSome = true := by
      intro sess
      rw [filterSession, Option.isSome_map, Aligned.isSome_mapM]
    rw [Option.bind_some, Option.isSome_map, Aligned.isSome_mapM]
    simp only [hsession, Option.some.injEq, exists_eq_left']
    constructor
    · rintro h _ f ⟨sess, hsess, rfl, hf⟩
      exact h sess hsess f hf
    · exact fun h sess hsess f hf => h _ f ⟨sess, hsess, rfl, hf⟩

end CipherPost.Cli
