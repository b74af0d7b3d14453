import Mathlib.Data.List.TakeWhile
import CipherPost.Api.Feedback

/-!
# label の書き出し

`scripts/export_labels.py` の `export_labels`。`submit_feedback` の保存した comment から、分類と comment を読み戻す。

* `matchTriage`・`parseTriage`・`triageSub` — `TRIAGE_RE` の照合
* `exportLabels` — `export_labels`
* `LooksTriaged`・`Recoverable` — 読み戻せる comment
* `exportLabels_recovers_iff` — 読み戻せる条件
-/

namespace CipherPost.Scripts

open Api Parsing Proactive

/-! ## TRIAGE_RE -/

def TRIAGE_HEAD : List Char := "[triage:".toList

/-- `[a-z-]`。 -/
def isTriageChar (c : Char) : Bool := ('a' ≤ c && c ≤ 'z') || c = '-'

/-- `([a-z-]+)\]\s*` の照合。分類と、照合した部分の後を返す。 -/
def matchWord (body : List Char) : Option (List Char × List Char) :=
  match body.takeWhile isTriageChar, body.dropWhile isTriageChar with
  | [], _ => none
  | word, ']' :: rest => some (word, rest.dropWhile isSpace)
  | _, _ => none

/-- `TRIAGE_RE` の照合。 -/
def matchTriage (s : List Char) : Option (List Char × List Char) :=
  if TRIAGE_HEAD <+: s then matchWord (s.drop TRIAGE_HEAD.length) else none

/-- `parse_triage`。 -/
def parseTriage (comment : Option (List Char)) : Option (List Char) :=
  (matchTriage (comment.getD [])).map (·.1)

/-- `TRIAGE_RE.sub("", comment)`。`^` は先頭にしか合わない。 -/
def triageSub (s : List Char) : List Char := ((matchTriage s).map (·.2)).getD s

/-- 分類の印で始まる。 -/
def LooksTriaged (s : List Char) : Prop :=
  ∃ word rest, s = TRIAGE_HEAD ++ (word ++ ']' :: rest) ∧ word ≠ [] ∧ ∀ c ∈ word, isTriageChar c

section
variable {s word rest : List Char}

variable (rest) in
/-- 分類の文字は `]` の前で終わる。 -/
theorem takeWhile_word (hword : ∀ c ∈ word, isTriageChar c) :
    (word ++ ']' :: rest).takeWhile isTriageChar = word ∧
      (word ++ ']' :: rest).dropWhile isTriageChar = ']' :: rest := by
  have hend : ¬isTriageChar ']' := by decide
  rw [List.takeWhile_append_of_pos hword, List.dropWhile_append_of_pos hword,
    List.takeWhile_cons_of_neg hend, List.dropWhile_cons_of_neg hend, List.append_nil]
  exact ⟨rfl, rfl⟩

/-- 付けた印は、そのとおりに読める。 -/
theorem matchTriage_append (hne : word ≠ []) (hword : ∀ c ∈ word, isTriageChar c) :
    matchTriage (TRIAGE_HEAD ++ (word ++ ']' :: rest)) =
      some (word, rest.dropWhile isSpace) := by
  obtain ⟨c, cs, rfl⟩ := List.exists_cons_of_ne_nil hne
  obtain ⟨htake, hdrop⟩ := takeWhile_word rest hword
  rw [matchTriage, if_pos (List.prefix_append _ _), List.drop_left, matchWord, htake, hdrop]
  rfl

/-- 照合するのは、分類の印で始まる文字列である。 -/
theorem matchTriage_isSome_iff : (matchTriage s).isSome ↔ LooksTriaged s := by
  constructor
  · intro h
    unfold matchTriage at h
    split at h
    · next hhead =>
      obtain ⟨body, rfl⟩ := hhead
      rw [List.drop_left] at h
      unfold matchWord at h
      split at h
      · cases h
      · next rest hdrop hne =>
        refine ⟨body.takeWhile isTriageChar, rest, ?_, fun hnil => hne hnil, ?_⟩
        · rw [← hdrop, List.takeWhile_append_dropWhile]
        · exact fun c hc => List.mem_takeWhile_imp hc
      · cases h
    · cases h
  · rintro ⟨word, rest, rfl, hne, hword⟩
    rw [matchTriage_append hne hword]
    rfl

end

instance (s : List Char) : Decidable (LooksTriaged s) := decidable_of_iff _ matchTriage_isSome_iff

/-! ## export_labels -/

/-- `provenance` の要素。 -/
structure Provenance where
  labelId : Nat
  findingId : Option Nat
  sessionId : Option String
  ruleId : String
  ruleVersion : String
  who : String
  labelledAt : String
  verdict : List Char
  y : Option Nat
  triageCategory : Option (List Char)
  comment : List Char
  deriving DecidableEq

/-- `analyst` の行。 -/
structure AnalystRow where
  sessionId : Option String
  y : Nat
  source : String := "analyst"
  deriving DecidableEq

/-- `rules` の行。 -/
structure RulesRow where
  sessionId : String
  ruleId : String
  severity : String
  ruleVersion : String
  observedAt : Option String
  source : String := "rules"
  deriving DecidableEq

/-- `export_labels` の結果。 -/
structure LabelExport where
  schemaVersion : Nat := 1
  exportedAt : String
  orgId : Option String
  toolVersion : String
  rows : List AnalystRow
  provenance : List Provenance
  rules : List RulesRow

/-- `export_labels` の引数と環境。 -/
structure ExportEnv where
  orgId : Option String := none
  toolVersion : Option String := none
  /-- `settings.APP_VERSION`。 -/
  appVersion : String
  now : String

/-- 空の指定は無いのと同じである。 -/
def given (s : Option String) : Option String := s.filter (· ≠ "")

/-- `org_where`。 -/
def ExportEnv.includes (env : ExportEnv) (orgId : Option String) : Bool :=
  (given env.orgId).all fun org => orgId = some org

/-- `y`。`accepted_risk` は label にしない。 -/
def labelOf (verdict : List Char) : Option Nat :=
  if verdict = "confirmed".toList then some 1
  else if verdict = "false_positive".toList then some 0
  else none

def provenanceOf (toolVersion : String) (r : LabelRow) : Provenance :=
  { labelId := r.id, findingId := r.findingId, sessionId := r.sessionId, ruleId := r.ruleId
    ruleVersion := toolVersion, who := r.createdBy, labelledAt := r.createdAt, verdict := r.verdict
    y := labelOf r.verdict, triageCategory := parseTriage (some r.comment)
    comment := triageSub r.comment }

/-- `fb_rows`。 -/
def feedbackRows (db : FeedbackDb) (env : ExportEnv) : List LabelRow :=
  (db.feedback.rows.filter fun r => env.includes (some r.orgId)).mergeSort (·.id ≤ ·.id)

/-- `rules_rows`。session のある finding に限る。 -/
def rulesRows (db : FeedbackDb) (env : ExportEnv) : List LabelledFinding :=
  (db.findings.filter fun f => (db.sessions.get? f.sessionId).any env.includes).mergeSort
    (·.id ≤ ·.id)

/-- `export_labels`。 -/
def exportLabels (db : FeedbackDb) (env : ExportEnv) : LabelExport :=
  let toolVersion := (given env.toolVersion).getD env.appVersion
  { exportedAt := env.now, orgId := env.orgId, toolVersion := toolVersion
    rows := (feedbackRows db env).filterMap fun r =>
      (labelOf r.verdict).map fun y => { sessionId := r.sessionId, y := y }
    provenance := (feedbackRows db env).map (provenanceOf toolVersion)
    rules := (rulesRows db env).map fun f =>
      { sessionId := f.sessionId, ruleId := f.ruleId, severity := Core.lower f.severity
        ruleVersion := toolVersion, observedAt := f.createdAt } }

/-! ## 読み戻し -/

/-- 読み戻せる comment。分類があれば空白で始まらず、無ければ分類の印で始まらない。 -/
def Recoverable (triage : Option (List Char)) (comment : List Char) : Prop :=
  match triage with
  | some _ => ∀ c ∈ comment.head?, isSpace c = false
  | none => ¬LooksTriaged comment

/-- 前の空白を落としても変わらないのは、空白で始まらない文字列である。 -/
theorem dropWhile_eq_self {p : Char → Bool} {s : List Char} :
    s.dropWhile p = s ↔ ∀ c ∈ s.head?, p c = false := by
  cases s with
  | nil => simp
  | cons c cs =>
    rw [List.head?_cons, List.dropWhile_cons]
    constructor
    · intro h c' hc'
      cases hc'
      split at h
      · have hlen : (cs.dropWhile p).length ≤ cs.length := (List.dropWhile_suffix p).length_le
        rw [h, List.length_cons] at hlen
        omega
      · next hc => simpa using hc
    · intro h
      rw [if_neg (by simp [h c rfl])]

instance (triage : Option (List Char)) (comment : List Char) :
    Decidable (Recoverable triage comment) :=
  match triage with
  | some _ => decidable_of_iff _ dropWhile_eq_self
  | none => inferInstanceAs (Decidable (¬LooksTriaged comment))

/-- 分類の文字は、どれも `TRIAGE_RE` の読む文字である。 -/
theorem triageChars (triage : TriageCategory) :
    triage.value ≠ [] ∧ ∀ c ∈ triage.value, isTriageChar c := by
  rw [← List.all_eq_true]
  cases triage <;> decide

/-- 保存した comment から読み戻せる条件。 -/
theorem recovers_iff (triage : Option TriageCategory) (comment : List Char) :
    (parseTriage (some (storedComment triage comment)) = triage.map (·.value) ∧
        triageSub (storedComment triage comment) = comment) ↔
      Recoverable (triage.map (·.value)) comment := by
  rw [parseTriage, triageSub, Option.getD_some]
  cases triage with
  | none =>
    rw [storedComment_none, Option.map_none, Recoverable, ← matchTriage_isSome_iff]
    cases matchTriage comment with
    | none => exact iff_of_true ⟨rfl, rfl⟩ Bool.false_ne_true
    | some p => exact iff_of_false (fun h => nomatch h.1) (not_not_intro rfl)
  | some triage =>
    obtain ⟨hne, hchars⟩ := triageChars triage
    have hstored : storedComment (some triage) comment =
        TRIAGE_HEAD ++ (triage.value ++ ']' :: ' ' :: comment) := storedComment_some triage comment
    rw [hstored, matchTriage_append hne hchars, List.dropWhile_cons_of_pos (by decide)]
    simp only [Option.map_some, Option.getD_some, true_and]
    exact dropWhile_eq_self

section
variable {db db' : FeedbackDb} {req : FeedbackRequest} {r : FeedbackResponse}

/--
**読み戻せる条件。** 受け入れた要求の comment が 2000 字以下なら、後にどの要求が続いても、その org を含む
書き出しの、その label の分類と comment が要求のとおりであるのは、`Recoverable` なときである。
-/
theorem exportLabels_recovers_iff (h : submitFeedback db req = .ok (db', r))
    (hlen : req.body.commentText.length ≤ 2000) (later : List FeedbackRequest) (env : ExportEnv)
    (horg : env.includes (some req.ctx.orgId) = true) :
    (∃ p ∈ (exportLabels (Run.exec submitStep db' later) env).provenance, p.labelId = r.id ∧
        p.triageCategory = r.triageCategory ∧ p.comment = req.body.commentText) ↔
      Recoverable r.triageCategory req.body.commentText := by
  obtain ⟨verdict, triage, f, heq⟩ := submitFeedback_eq_ok h
  obtain ⟨rfl, rfl⟩ := Prod.ext_iff.mp heq
  let row : LabelRow := { labelRow req verdict triage f with id := db.feedback.nextId }
  have hrow : row ∈
      (Run.exec submitStep (recordLabel db req verdict triage f).1 later).feedback.rows :=
    row_mem_exec (List.mem_append_right _ (List.mem_singleton_self _)) later
  have hcomment : row.comment = storedComment triage req.body.commentText := by
    rw [← List.take_of_length_le hlen]
    rfl
  refine Iff.trans ?_ (recovers_iff triage req.body.commentText)
  rw [← hcomment]
  constructor
  · rintro ⟨p, hp, hid, htriage, hp'⟩
    obtain ⟨row', hrow', rfl⟩ := List.mem_map.mp hp
    -- id が同じ行は、この要求の行である。
    have hsame : row' = row := FeedbackTable.unique _ _
      (List.mem_filter.mp (List.mem_mergeSort.mp hrow')).1 _ hrow hid
    rw [hsame] at htriage hp'
    exact ⟨htriage, hp'⟩
  · intro hrec
    refine ⟨provenanceOf _ row, List.mem_map_of_mem ?_, rfl, hrec⟩
    exact List.mem_mergeSort.mpr (List.mem_filter.mpr ⟨hrow, horg⟩)

end

/-! ## 読み戻せない comment -/

/-- finding が一つの org。 -/
def labelledDb : FeedbackDb where
  findings := [{ id := 1, sessionId := "s1", ruleId := "weak-cipher-suite", severity := "HIGH" }]
  sessions := Dict.empty.set "s1" (some "org-a")

/-- analyst の要求。 -/
def labelRequest (triage : Option BodyValue) (comment : String) : FeedbackRequest where
  ctx := ⟨"u1", "ana@pilot.example", "org-a", "analyst", .jwt⟩
  now := "2026-10-25T09:00:00+00:00"
  findingId := 1
  body :=
    { verdict := some (.text "confirmed".toList), triageCategory := triage
      comment := some (.text comment.toList) }

def exportEnv : ExportEnv := { appVersion := "1.0", now := "2026-10-26T09:00:00+00:00" }

def labelledFinding : LabelledFinding :=
  { id := 1, sessionId := "s1", ruleId := "weak-cipher-suite", severity := "HIGH" }

/-- 空白で始まらない comment は、分類とともに読み戻せる。 -/
theorem exportLabels_recovers_iff_bug :
    ∃ p ∈ (exportLabels (submitStep labelledDb (labelRequest (some (.text " bug".toList)) "ok"))
        exportEnv).provenance,
      p.labelId = 1 ∧ p.triageCategory = some "bug".toList ∧ p.comment = "ok".toList :=
  have hsubmit : submitFeedback labelledDb (labelRequest (some (.text " bug".toList)) "ok") =
      .ok (recordLabel labelledDb (labelRequest (some (.text " bug".toList)) "ok")
        .confirmed (some .bug) labelledFinding) := rfl
  (exportLabels_recovers_iff hsubmit (by decide) [] exportEnv rfl).mpr (by decide)

/-- 分類の無い、印で始まる comment は、分類のある別の comment として書き出される。 -/
theorem not_recovers_imitation :
    ¬ ∀ (db db' : FeedbackDb) (req : FeedbackRequest) (r : FeedbackResponse) (env : ExportEnv),
        submitFeedback db req = .ok (db', r) → req.body.commentText.length ≤ 2000 →
        env.includes (some req.ctx.orgId) = true →
        ∃ p ∈ (exportLabels db' env).provenance, p.labelId = r.id ∧
          p.triageCategory = r.triageCategory ∧ p.comment = req.body.commentText := by
  intro h
  have hsubmit : submitFeedback labelledDb (labelRequest none "[triage:noise] x") =
      .ok (recordLabel labelledDb (labelRequest none "[triage:noise] x")
        .confirmed none labelledFinding) := rfl
  obtain ⟨p, hp, -, htriage, -⟩ := h _ _ _ _ exportEnv hsubmit (by decide) rfl
  obtain ⟨row, hrow, rfl⟩ := List.mem_map.mp hp
  have hmem := (List.mem_filter.mp (List.mem_mergeSort.mp hrow)).1
  rw [List.mem_singleton.mp hmem] at htriage
  revert htriage
  decide

end CipherPost.Scripts
