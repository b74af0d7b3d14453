import CipherPost.Core.Auth
import CipherPost.Infra.Run
import CipherPost.Proactive.MtaSts

/-!
# finding への label

`app/api/main.py` の `submit_feedback`。分類は、保存する comment の前に `[triage:…]` の形で付ける。

* `FeedbackTable` — `finding_feedback` の表。id は重ならない
* `readVerdict`・`readTriage` — 要求の検査
* `submitFeedback` — `submit_feedback`
* `submitFeedback_eq_ok` — 受け入れた要求の残すもの
* `row_mem_exec` — 残した行は、後の要求で変わらない
-/

namespace CipherPost.Api

open CipherPost.Core CipherPost.Proactive

/-! ## 要求 -/

/-- 要求の body の値。文字列でない値は、`str()` の結果で持つ。 -/
inductive BodyValue where
  | text (s : List Char)
  | falsy (repr : List Char)
  | truthy (repr : List Char)
  deriving DecidableEq

/-- `str(value)`。 -/
def BodyValue.str : BodyValue → List Char
  | text s => s
  | falsy repr => repr
  | truthy repr => repr

/-- `submit_feedback` の body。 -/
structure FeedbackBody where
  verdict : Option BodyValue := none
  triageCategory : Option BodyValue := none
  comment : Option BodyValue := none
  deriving DecidableEq

/-- `str(body.get("comment", ""))`。 -/
def FeedbackBody.commentText (body : FeedbackBody) : List Char :=
  (body.comment.map BodyValue.str).getD []

/-- `(value or "").strip()`。文字列でない真の値は AttributeError になる。 -/
def stripValue : Option BodyValue → Except HttpError (List Char)
  | none => .ok []
  | some (.falsy _) => .ok []
  | some (.text s) => .ok (stripChars s)
  | some (.truthy _) => .error ⟨500, "Internal Server Error"⟩

/-- `verdict`。 -/
inductive FeedbackVerdict where
  | confirmed | falsePositive | acceptedRisk
  deriving Repr, DecidableEq

def FeedbackVerdict.value : FeedbackVerdict → List Char
  | confirmed => "confirmed".toList
  | falsePositive => "false_positive".toList
  | acceptedRisk => "accepted_risk".toList

/-- `triage_category`。 -/
inductive TriageCategory where
  | bug | noise | expectedBehavior | documentedLimitation
  deriving Repr, DecidableEq

def TriageCategory.value : TriageCategory → List Char
  | bug => "bug".toList
  | noise => "noise".toList
  | expectedBehavior => "expected-behavior".toList
  | documentedLimitation => "documented-limitation".toList

def readVerdict (value : Option BodyValue) : Except HttpError FeedbackVerdict := do
  let verdict ← stripValue value
  match [FeedbackVerdict.confirmed, .falsePositive, .acceptedRisk].find? (·.value = verdict) with
  | some verdict => .ok verdict
  | none => .error ⟨400, "verdict must be confirmed|false_positive|accepted_risk"⟩

/-- 空の分類は、分類の無いことである。 -/
def readTriage (value : Option BodyValue) : Except HttpError (Option TriageCategory) := do
  let triage ← stripValue value
  if triage = [] then .ok none
  else
    match [TriageCategory.bug, .noise, .expectedBehavior, .documentedLimitation].find?
        (·.value = triage) with
    | some triage => .ok (some triage)
    | none =>
      .error ⟨400, "triage_category must be bug|noise|expected-behavior|documented-limitation"⟩

/-- 保存する comment。 -/
def storedComment (triage : Option TriageCategory) (comment : List Char) : List Char :=
  match triage with
  | none => comment
  | some triage => "[triage:".toList ++ triage.value ++ "] ".toList ++ comment

@[simp] theorem storedComment_none (comment : List Char) : storedComment none comment = comment :=
  rfl

/-- 分類は、空白一つを挟んで comment の前に付く。 -/
theorem storedComment_some (triage : TriageCategory) (comment : List Char) :
    storedComment (some triage) comment =
      "[triage:".toList ++ (triage.value ++ ']' :: ' ' :: comment) := by
  have hassoc : storedComment (some triage) comment =
      ("[triage:".toList ++ triage.value ++ "] ".toList) ++ comment := rfl
  rw [hassoc, List.append_assoc, List.append_assoc]
  rfl

/-! ## 表 -/

/-- `findings` の行。 -/
structure LabelledFinding where
  id : Nat
  sessionId : String
  ruleId : String
  severity : String
  createdAt : Option String := none
  deriving DecidableEq

/-- `finding_feedback` の行。時刻は DB の返す文字列である。 -/
structure LabelRow where
  id : Nat := 0
  orgId : String
  findingId : Option Nat
  ruleId : String
  sessionId : Option String
  verdict : List Char
  comment : List Char
  createdBy : String
  createdAt : String
  deriving DecidableEq

/-- `finding_feedback`。id は `nextId` より小さく、重ならない。 -/
structure FeedbackTable where
  rows : List LabelRow := []
  nextId : Nat := 1
  below : ∀ row ∈ rows, row.id < nextId := by decide
  unique : ∀ row ∈ rows, ∀ row' ∈ rows, row.id = row'.id → row = row' := by decide

/-- 行を足す。id は表が付ける。 -/
def FeedbackTable.insert (t : FeedbackTable) (row : LabelRow) : FeedbackTable where
  rows := t.rows ++ [{ row with id := t.nextId }]
  nextId := t.nextId + 1
  below := by
    intro row' h
    rcases List.mem_append.mp h with h | h
    · exact Nat.lt_succ_of_lt (t.below row' h)
    · rw [List.mem_singleton.mp h]
      exact Nat.lt_succ_self _
  unique := by
    intro a ha b hb heq
    rcases List.mem_append.mp ha with ha | ha <;> rcases List.mem_append.mp hb with hb | hb
    · exact t.unique a ha b hb heq
    · rw [List.mem_singleton.mp hb] at heq
      exact absurd (t.below a ha) (Nat.not_lt.mpr heq.ge)
    · rw [List.mem_singleton.mp ha] at heq
      exact absurd (t.below b hb) (Nat.not_lt.mpr heq.le)
    · rw [List.mem_singleton.mp ha, List.mem_singleton.mp hb]

/-- `submit_feedback` の audit の行。 -/
structure FeedbackAudit where
  orgId : String
  actor : String
  action : String := "finding.feedback"
  resource : String
  verdict : List Char
  findingId : Nat
  triageCategory : Option (List Char)
  deriving DecidableEq

/-- `submit_feedback` の読み書きする表。 -/
structure FeedbackDb where
  findings : List LabelledFinding := []
  /-- session の org。 -/
  sessions : Dict String (Option String) := .empty
  feedback : FeedbackTable := {}
  audit : List FeedbackAudit := []

/-! ## submit_feedback -/

/-- 要求。`auditWritten` は、best-effort の audit が書けたかである。 -/
structure FeedbackRequest where
  ctx : AuthContext
  now : String
  findingId : Nat
  body : FeedbackBody
  auditWritten : Bool := true

structure FeedbackResponse where
  id : Nat
  verdict : List Char
  triageCategory : Option (List Char)
  deriving DecidableEq

/-- 呼び出した者の org の finding。 -/
def findingFor (db : FeedbackDb) (ctx : AuthContext) (findingId : Nat) :
    Except HttpError LabelledFinding :=
  match db.findings.find? (·.id = findingId) with
  | none => .error ⟨404, "Finding not found"⟩
  | some f =>
    match db.sessions.get? f.sessionId with
    | none => .error ⟨404, "Finding not found"⟩
    | some orgId => if orgId = some ctx.orgId then .ok f else .error ⟨404, "Finding not found"⟩

/-- 足す行。 -/
def labelRow (req : FeedbackRequest) (verdict : FeedbackVerdict) (triage : Option TriageCategory)
    (f : LabelledFinding) : LabelRow :=
  { orgId := req.ctx.orgId, findingId := some f.id, ruleId := f.ruleId
    sessionId := some f.sessionId, verdict := verdict.value
    comment := storedComment triage (req.body.commentText.take 2000)
    createdBy := req.ctx.email, createdAt := req.now }

/-- 検査を通った要求の残すもの。 -/
def recordLabel (db : FeedbackDb) (req : FeedbackRequest) (verdict : FeedbackVerdict)
    (triage : Option TriageCategory) (f : LabelledFinding) : FeedbackDb × FeedbackResponse :=
  let audit : FeedbackAudit :=
    { orgId := req.ctx.orgId, actor := req.ctx.email, resource := f.ruleId, verdict := verdict.value
      findingId := f.id, triageCategory := triage.map (·.value) }
  ({ db with
      feedback := db.feedback.insert (labelRow req verdict triage f)
      audit := if req.auditWritten then db.audit ++ [audit] else db.audit },
    { id := db.feedback.nextId, verdict := verdict.value, triageCategory := triage.map (·.value) })

/-- `submit_feedback`。 -/
def submitFeedback (db : FeedbackDb) (req : FeedbackRequest) :
    Except HttpError (FeedbackDb × FeedbackResponse) := do
  if roleOrder req.ctx.role < roleOrder "analyst" then .error ⟨403, "Insufficient role"⟩
  else
    let verdict ← readVerdict req.body.verdict
    let triage ← readTriage req.body.triageCategory
    let f ← findingFor db req.ctx req.findingId
    .ok (recordLabel db req verdict triage f)

/-- 一つの要求の後の表。断られた要求は何も残さない。 -/
def submitStep (db : FeedbackDb) (req : FeedbackRequest) : FeedbackDb :=
  match submitFeedback db req with
  | .ok (db', _) => db'
  | .error _ => db

section
variable {db db' : FeedbackDb} {req : FeedbackRequest} {r : FeedbackResponse}

/-- 受け入れた要求は、行を一つ足す。 -/
theorem submitFeedback_eq_ok (h : submitFeedback db req = .ok (db', r)) :
    ∃ verdict triage f, (db', r) = recordLabel db req verdict triage f := by
  unfold submitFeedback at h
  split at h
  · cases h
  · obtain ⟨verdict, -, h⟩ := Parsing.exists_of_bind h
    obtain ⟨triage, -, h⟩ := Parsing.exists_of_bind h
    obtain ⟨f, -, h⟩ := Parsing.exists_of_bind h
    cases h
    exact ⟨verdict, triage, f, rfl⟩

/-- 表の行は、要求の後も残る。 -/
theorem row_mem_submitStep {row : LabelRow} (h : row ∈ db.feedback.rows) :
    row ∈ (submitStep db req).feedback.rows := by
  unfold submitStep
  cases hsubmit : submitFeedback db req with
  | error e => exact h
  | ok p =>
    obtain ⟨db', r⟩ := p
    obtain ⟨verdict, triage, f, heq⟩ := submitFeedback_eq_ok hsubmit
    cases heq
    exact List.mem_append_left _ h

/-- 表の行は、後の要求の列の後も残る。 -/
theorem row_mem_exec {row : LabelRow} (h : row ∈ db.feedback.rows) (later : List FeedbackRequest) :
    row ∈ (Run.exec submitStep db later).feedback.rows :=
  Run.invariant (I := fun db : FeedbackDb => row ∈ db.feedback.rows)
    (fun _ _ h => row_mem_submitStep h) later h

end

end CipherPost.Api
