import CipherPost.Infra.Groups
import CipherPost.Live.Finding
import CipherPost.Parsing.SessionAnalysis

/-!
# analyst の label による dataset

`app/ml/retraining.py` の `build_analyst_dataset`。module の docstring は、深刻度が medium 以上の finding に
confirmed の判定があるときだけ `y = 1` とするが、code は finding の深刻度を見ない。

* `buildAnalystDataset` — `build_analyst_dataset`
* `documentedLabel` — docstring の言う label
* `Labelled` — dataset は organisation の session ごとに、その label の要素を一つずつ持つ
* `labelled_iff` — そうなのは、confirmed の判定のある session に、medium 以上の finding への confirmed の
  判定もあるときである
-/

namespace CipherPost.Ml

open Parsing

/-! ## 表 -/

/-- `FindingFeedback.verdict`。 -/
inductive Verdict where
  | confirmed | falsePositive | acceptedRisk
  deriving Repr, DecidableEq

/-- `finding_feedback` の行。 -/
structure FeedbackRow where
  orgId : String
  findingId : Option Nat
  sessionId : Option String
  verdict : Verdict
  deriving Repr, DecidableEq

/-- `sessions` の行。id は表の key である。 -/
structure StoredSession where
  orgId : Option String
  protocol : String
  fiveTuple : String
  negotiatedCipher : Option String := none
  createdAt : Option Nat := none
  deriving Repr, DecidableEq

/-- `findings` の行。 -/
structure StoredFinding where
  id : Nat
  sessionId : String
  ruleId : String
  ruleName : String
  severity : Live.Severity
  title : String
  description : String
  reference : String
  deriving Repr, DecidableEq

/-- `build_analyst_dataset` の読む表。 -/
structure LabelStore where
  feedback : List FeedbackRow
  sessions : Dict String StoredSession
  findings : List StoredFinding

/-- dataset の要素。 -/
structure DatasetEntry where
  sessionId : String
  y : Nat
  source : String := "analyst"
  fiveTuple : String
  createdAt : Option Nat
  analysis : SessionAnalysis
  confirmed : Bool
  deriving DecidableEq

/-! ## dataset -/

/-- `if org_id` の真のときだけ、organisation を比べる。 -/
def inScope (orgId : Option String) (rowOrg : Option String) : Bool :=
  match orgId with
  | none => true
  | some org => decide (org = "") || decide (rowOrg = some org)

/-- 判定から label を決める。`confirmed` は `has_confirmed` である。 -/
def verdictLabel (fbs : List FeedbackRow) : Option (Nat × Bool) :=
  if fbs.any fun fb => decide (fb.verdict = .confirmed) then some (1, true)
  else if fbs.any fun fb => decide (fb.verdict = .falsePositive) then some (0, false)
  else none

/-- `name_by_cipher.get(name)`。同じ名では後のものが残る。 -/
def cipherByName (name : String) : Option CipherMeta :=
  (CIPHER_DB.reverse.find? fun c => decide (c.2.name = name)).map (·.2)

/-- 行から組み直した解析。証明書の欄は空のままである。 -/
def reconstruct (db : LabelStore) (sid : String) (sess : StoredSession) : SessionAnalysis :=
  let sa : SessionAnalysis :=
    { sessionId := sid
      protocol := if sess.protocol = "" then "SMTP" else sess.protocol
      fiveTuple := sess.fiveTuple
      isStarttls := false
      findings := (db.findings.filter fun f => decide (f.sessionId = sid)).map fun f =>
        { ruleId := f.ruleId, ruleName := f.ruleName, severity := f.severity.text, title := f.title
          description := f.description, reference := f.reference } }
  match sess.negotiatedCipher.bind fun name => (cipherByName name).map fun m => (name, m) with
  | some (name, m) => { sa with cipherMeta := some m, cipher := some name }
  | none => sa

/-- `q.all()` のうち、session のある行。空の名は無いのと同じである。 -/
def sessionFeedback (db : LabelStore) (orgId : Option String) : List FeedbackRow :=
  db.feedback.filter fun fb =>
    inScope orgId (some fb.orgId) && decide (fb.sessionId.getD "" ≠ "")

/-- session 一つの要素。 -/
def entryOf (db : LabelStore) (orgId : Option String) (group : String × List FeedbackRow) :
    Option DatasetEntry :=
  match db.sessions.get? group.1 with
  | none => none
  | some sess =>
    if inScope orgId sess.orgId then
      (verdictLabel group.2).map fun label =>
        { sessionId := group.1
          y := label.1
          fiveTuple := sess.fiveTuple
          createdAt := sess.createdAt
          analysis := reconstruct db group.1 sess
          confirmed := label.2 }
    else none

/-- `build_analyst_dataset`。 -/
def buildAnalystDataset (db : LabelStore) (orgId : Option String) : List DatasetEntry :=
  (Groups.of (fun fb => fb.sessionId.getD "") (sessionFeedback db orgId)).entries.filterMap
    (entryOf db orgId)

/-! ## docstring の言う label -/

/-- session への判定。 -/
def verdictsOf (db : LabelStore) (orgId : Option String) (sid : String) : List FeedbackRow :=
  Groups.members (fun fb : FeedbackRow => fb.sessionId.getD "") (sessionFeedback db orgId) sid

/-- 深刻度が medium 以上の finding への confirmed の判定。 -/
def confirmsSerious (db : LabelStore) (fb : FeedbackRow) : Bool :=
  decide (fb.verdict = .confirmed) &&
    db.findings.any fun f =>
      decide (fb.findingId = some f.id) && decide (Live.Severity.medium.rank ≤ f.severity.rank)

/-- docstring の言う label。 -/
def documentedLabel (db : LabelStore) (fbs : List FeedbackRow) : Option Nat :=
  if fbs.any (confirmsSerious db) then some 1
  else if fbs.any fun fb => decide (fb.verdict = .confirmed) then none
  else if fbs.any fun fb => decide (fb.verdict = .falsePositive) then some 0
  else none

/-- organisation の session である。 -/
def InOrg (db : LabelStore) (orgId : Option String) (sid : String) : Prop :=
  ∃ sess, db.sessions.get? sid = some sess ∧ inScope orgId sess.orgId = true

/-- dataset は、organisation の session のうち label の決まるものを、その label で一つずつ持つ。 -/
structure Labelled (db : LabelStore) (orgId : Option String) : Prop where
  once : ((buildAnalystDataset db orgId).map (·.sessionId)).Nodup
  label : ∀ sid y, (∃ e ∈ buildAnalystDataset db orgId, e.sessionId = sid ∧ e.y = y) ↔
    InOrg db orgId sid ∧ documentedLabel db (verdictsOf db orgId sid) = some y

/-- confirmed の判定のある session には、medium 以上の finding への confirmed の判定もある。 -/
def ConfirmedSerious (db : LabelStore) (orgId : Option String) : Prop :=
  ∀ sid, InOrg db orgId sid →
    ((verdictsOf db orgId sid).any fun fb => decide (fb.verdict = .confirmed)) = true →
      (verdictsOf db orgId sid).any (confirmsSerious db) = true

/-! ## 要素 -/

variable {db : LabelStore} {orgId : Option String}

/-- 要素になるのは、organisation の session の、判定で label の決まる組である。 -/
theorem of_entryOf {group : String × List FeedbackRow} {e : DatasetEntry}
    (h : entryOf db orgId group = some e) : e.sessionId = group.1 ∧ InOrg db orgId group.1 ∧
      (verdictLabel group.2).map Prod.fst = some e.y := by
  unfold entryOf at h
  split at h
  · cases h
  · next sess hsess =>
    split at h
    · next hscope =>
      obtain ⟨label, hlabel, rfl⟩ := Option.map_eq_some_iff.mp h
      refine ⟨rfl, ⟨sess, hsess, hscope⟩, ?_⟩
      rw [hlabel]
      rfl
    · cases h

/-- organisation の session の、判定で label の決まる組は、要素になる。 -/
theorem exists_entryOf {sid : String} {fbs : List FeedbackRow} {y : Nat} (hin : InOrg db orgId sid)
    (hlabel : (verdictLabel fbs).map Prod.fst = some y) :
    ∃ e, entryOf db orgId (sid, fbs) = some e ∧ e.y = y := by
  obtain ⟨sess, hsess, hscope⟩ := hin
  obtain ⟨label, hverdicts, rfl⟩ := Option.map_eq_some_iff.mp hlabel
  refine ⟨{ sessionId := sid, y := label.1, fiveTuple := sess.fiveTuple, createdAt := sess.createdAt
            analysis := reconstruct db sid sess, confirmed := label.2 }, ?_, rfl⟩
  unfold entryOf
  rw [hsess]
  simp only
  rw [if_pos hscope, hverdicts]
  rfl

/-- 選び出した要素の名は、元の key の一部を同じ順に並べたものである。 -/
theorem map_filterMap_sublist {α β κ : Type} {f : κ × α → Option β} {name : β → κ}
    (h : ∀ e x, f e = some x → name x = e.1) : ∀ l : List (κ × α),
    ((l.filterMap f).map name).Sublist (l.map Prod.fst)
  | [] => List.Sublist.refl []
  | e :: l => by
    rw [List.filterMap_cons, List.map_cons]
    split
    · exact (map_filterMap_sublist h l).cons _
    · next x hx =>
      rw [List.map_cons, h e x hx]
      exact (map_filterMap_sublist h l).cons_cons _

/-- **session の要素は高々一つである。** -/
theorem nodup_buildAnalystDataset (db : LabelStore) (orgId : Option String) :
    ((buildAnalystDataset db orgId).map (·.sessionId)).Nodup :=
  (map_filterMap_sublist (fun _ _ h => (of_entryOf h).1) _).nodup (Dict.nodup _)

/-- **dataset の要素は、organisation の session の、判定で決まる label である。** -/
theorem exists_entry_iff (sid : String) (y : Nat) :
    (∃ e ∈ buildAnalystDataset db orgId, e.sessionId = sid ∧ e.y = y) ↔
      InOrg db orgId sid ∧ (verdictLabel (verdictsOf db orgId sid)).map Prod.fst = some y := by
  constructor
  · rintro ⟨e, he, rfl, rfl⟩
    obtain ⟨⟨key, fbs⟩, hmem, hentry⟩ := List.mem_filterMap.mp he
    obtain ⟨rfl, -⟩ := Groups.mem_entries_of.mp hmem
    obtain ⟨hid, hin, hlabel⟩ := of_entryOf hentry
    rw [hid]
    exact ⟨hin, hlabel⟩
  · rintro ⟨hin, hlabel⟩
    have hne : verdictsOf db orgId sid ≠ [] := by
      intro hnil
      rw [hnil] at hlabel
      cases hlabel
    obtain ⟨e, hentry, hy⟩ := exists_entryOf hin hlabel
    have hmem := List.mem_filterMap.mpr ⟨_, Groups.mem_entries_of.mpr ⟨rfl, hne⟩, hentry⟩
    exact ⟨e, hmem, (of_entryOf hentry).1, hy⟩

/-! ## label -/

/-- medium 以上の finding への confirmed の判定は、confirmed の判定である。 -/
theorem any_confirmed_of_serious {fbs : List FeedbackRow}
    (h : fbs.any (confirmsSerious db) = true) :
    (fbs.any fun fb => decide (fb.verdict = .confirmed)) = true := by
  obtain ⟨fb, hfb, hserious⟩ := List.any_eq_true.mp h
  exact List.any_eq_true.mpr ⟨fb, hfb, (Bool.and_eq_true _ _ ▸ hserious).1⟩

/-- 判定で決まる label が docstring のものと違うのは、confirmed の判定が medium に届かないときである。 -/
theorem verdictLabel_eq_iff (fbs : List FeedbackRow) :
    (verdictLabel fbs).map Prod.fst = documentedLabel db fbs ↔
      ((fbs.any fun fb => decide (fb.verdict = .confirmed)) = true →
        fbs.any (confirmsSerious db) = true) := by
  unfold verdictLabel documentedLabel
  cases hserious : fbs.any (confirmsSerious db) with
  | true =>
    rw [any_confirmed_of_serious hserious]
    exact iff_of_true rfl fun _ => rfl
  | false =>
    cases hconfirmed : fbs.any fun fb => decide (fb.verdict = .confirmed) with
    | true => exact iff_of_false (fun h => by cases h) fun h => by cases h rfl
    | false =>
      refine iff_of_true ?_ fun h => by cases h
      simp only [Bool.false_eq_true, if_false]
      split <;> rfl

/--
**dataset が docstring のとおりであるのは、confirmed の判定のある session に、medium 以上の finding への
confirmed の判定もあるときである。**
-/
theorem labelled_iff (db : LabelStore) (orgId : Option String) :
    Labelled db orgId ↔ ConfirmedSerious db orgId := by
  constructor
  · intro h sid hin
    refine (verdictLabel_eq_iff _).mp ?_
    have hsame : ∀ y, (verdictLabel (verdictsOf db orgId sid)).map Prod.fst = some y ↔
        documentedLabel db (verdictsOf db orgId sid) = some y := by
      intro y
      have hboth := (exists_entry_iff sid y).symm.trans (h.label sid y)
      exact ⟨fun hy => (hboth.mp ⟨hin, hy⟩).2, fun hy => (hboth.mpr ⟨hin, hy⟩).2⟩
    exact Option.ext hsame
  · intro h
    refine ⟨nodup_buildAnalystDataset db orgId, fun sid y => ?_⟩
    rw [exists_entry_iff]
    refine and_congr_right fun hin => ?_
    rw [(verdictLabel_eq_iff _).mpr (h sid hin)]

/-- low の finding だけが confirmed と判定された session。 -/
def lowConfirmed : LabelStore where
  feedback := [⟨"org-1", some 7, some "sess-1", .confirmed⟩]
  sessions := Dict.empty.set "sess-1" { orgId := some "org-1", protocol := "SMTP", fiveTuple := "" }
  findings := [⟨7, "sess-1", "ech-present", "ECH present", .low, "", "", ""⟩]

/-- その session も `y = 1` の要素になる。 -/
theorem not_labelled_lowConfirmed : ¬Labelled lowConfirmed (some "org-1") := by
  intro h
  obtain ⟨e, he⟩ : ∃ e, buildAnalystDataset lowConfirmed (some "org-1") = [e] := ⟨_, rfl⟩
  have hlabel := (h.label "sess-1" 1).mp ⟨e, by rw [he]; exact List.mem_singleton_self e, ?_, ?_⟩
  · exact absurd hlabel.2 (by decide)
  · cases he
    rfl
  · cases he
    rfl

end CipherPost.Ml
