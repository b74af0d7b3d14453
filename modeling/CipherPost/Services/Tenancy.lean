import CipherPost.Infra.Run
import CipherPost.Infra.Dict
import CipherPost.Live.Finding

/-!
# session の row の organisation

session の row を書くのは `process_analysis_job` と `AnalysisWorker._persist` であり、boot のたびに
`_seed_auth` が `org_id` の無い row を default の organisation に移す。`/sessions` は row の `org_id`
だけを見る。

* `Store` — organisation・job・session の table
* `Store.upload`・`Store.process`・`Store.persist`・`Store.seedOrg`・`Store.backfill` — 書き手
* `Store.Scoped` — job に org のある row が、同じ org を持つこと
* `scoped_iff` — それが保たれるための条件
-/

namespace CipherPost.Services

open CipherPost.Live

/-! ## table -/

/-- `Session` の row のうち、組織に関わる列。 -/
structure SessionRec where
  jobId : String
  orgId : Option String
  deriving DecidableEq

/-- DB の状態。 -/
structure Store where
  /-- 組織の名と id。 -/
  organizations : Dict String String := Dict.empty
  /-- `AnalysisJob` の id と `org_id`。 -/
  analysisJobs : Dict String (Option String) := Dict.empty
  sessions : Dict String SessionRec := Dict.empty
  deriving DecidableEq

/-- `_persist` の呼び出し。 -/
structure Persist where
  sessId : String
  payloadOrgId : Option String
  singleTenant : Bool := true
  liveJobTag : String := "live"
  defaultOrgName : String := "default"
  /-- `_default_org_id` の二回の問い合わせが成功する。失敗は `None` になる。 -/
  orgFound : Bool := true
  defaultFound : Bool := true
  /-- 最後の commit まで届く。 -/
  commits : Bool := true

namespace Store

/-- `_default_org_id`。 -/
def defaultOrgId (s : Store) (name : String) (found : Bool) : Option String :=
  if found then s.organizations.get? name else none

/-! ## 書き手 -/

/-- `upload_pcap`。job は利用者の org を持つ。 -/
def upload (s : Store) (jobId org : String) : Store :=
  match s.analysisJobs.get? jobId with
  | none => { s with analysisJobs := s.analysisJobs.set jobId (some org) }
  | some _ => s

/-- `process_analysis_job` の row 一つ。`org_id` は渡さない。 -/
def addRow (jobId : String) (sessions : Dict String SessionRec) (sessId : String) :
    Dict String SessionRec :=
  match sessions.get? sessId with
  | none => sessions.set sessId { jobId := jobId, orgId := none }
  | some _ => sessions

/--
`process_analysis_job` が commit した row。`resolves` は、table の名を渡した `Session.get` が
job を返すかであり、返さなければ例外になって何も書かない。
-/
def process (resolves : Bool) (s : Store) (jobId : String) (rows : List String) : Store :=
  match resolves, s.analysisJobs.get? jobId with
  | true, some _ => { s with sessions := rows.foldl (addRow jobId) s.sessions }
  | _, _ => s

/-- `_persist` が row を書こうとする job と org。例外か、row が既にあれば `none`。 -/
def target (s : Store) (c : Persist) : Option (String × Option String) :=
  if (truthy c.payloadOrgId).isNone && !c.singleTenant then none
  else if (s.sessions.get? c.sessId).isSome then none
  else
    let orgId := (truthy c.payloadOrgId).or (s.defaultOrgId c.defaultOrgName c.orgFound)
    let jobId :=
      if orgId = s.defaultOrgId c.defaultOrgName c.defaultFound then c.liveJobTag
      else c.liveJobTag ++ "-" ++ textOf orgId
    some (jobId, orgId)

/-- `_persist`。新しい job は先に commit され、job の org と row は最後に一度に commit される。 -/
def persist (s : Store) (c : Persist) : Store :=
  match s.target c with
  | none => s
  | some (jobId, orgId) =>
    let s := match s.analysisJobs.get? jobId with
      | none => { s with analysisJobs := s.analysisJobs.set jobId orgId }
      | some _ => s
    if c.commits then
      { s with
        analysisJobs :=
          if s.analysisJobs.get? jobId = some none then s.analysisJobs.set jobId orgId
          else s.analysisJobs
        sessions := s.sessions.set c.sessId { jobId := jobId, orgId := orgId } }
    else s

/-- `_seed_auth` の、default の組織を作る部分。 -/
def seedOrg (s : Store) (name hex : String) : Store :=
  match s.organizations.get? name with
  | none => { s with organizations := s.organizations.set name ("org-" ++ hex) }
  | some _ => s

/-- `_seed_auth` の、`org_id` の無い job と session を移す transaction。 -/
def backfill (s : Store) (name : String) : Store :=
  match s.organizations.get? name with
  | none => s
  | some oid =>
    { s with
      analysisJobs := s.analysisJobs.mapValues fun o => o.or (some oid)
      sessions := s.sessions.mapValues fun r => { r with orgId := r.orgId.or (some oid) } }

/-- `list_sessions` が `org` の利用者に返す row。絞り込みと頁分けは、ここから選ぶだけである。 -/
def listSessions (s : Store) (org : String) : List String :=
  (s.sessions.entries.filter fun e => decide (e.2.orgId = some org)).map Prod.fst

end Store

/-- 事象。 -/
inductive Write where
  | upload (jobId org : String)
  | process (jobId : String) (rows : List String)
  | persist (c : Persist)
  | seedOrg (name hex : String)
  | backfill (name : String)

namespace Store

/-- 事象一つ。 -/
def step (resolves : Bool) (s : Store) : Write → Store
  | .upload jobId org => s.upload jobId org
  | .process jobId rows => s.process resolves jobId rows
  | .persist c => s.persist c
  | .seedOrg name hex => s.seedOrg name hex
  | .backfill name => s.backfill name

/-! ## 性質 -/

/--
job に org のある row は、同じ org を持つ。したがって `/sessions` は、その org の利用者にだけ
row を返す。
-/
def Scoped (s : Store) : Prop :=
  ∀ id row, s.sessions.get? id = some row → ∀ org,
    s.analysisJobs.get? row.jobId = some (some org) →
      row.orgId = some org ∧ ∀ org', id ∈ s.listSessions org' ↔ org' = org

/-- `jobId` の row がある。 -/
def HasRows (s : Store) (jobId : String) : Prop :=
  ∃ id row, s.sessions.get? id = some row ∧ row.jobId = jobId

/--
書き手が job と違う org の row を残さない条件。upload の job は org を持つので、
`process_analysis_job` は新しい row を書いてはならない。
-/
def WritesOwnOrg (resolves : Bool) (s : Store) : Write → Prop
  | .process jobId rows => resolves = true → ∀ org, s.analysisJobs.get? jobId = some (some org) →
      ∀ id ∈ rows, s.sessions.get? id ≠ none
  | .persist c => c.commits = true → ∀ jobId orgId, s.target c = some (jobId, orgId) →
      (∀ org, s.analysisJobs.get? jobId = some (some org) → orgId = some org) ∧
      (s.analysisJobs.get? jobId = some none → orgId ≠ none → ¬s.HasRows jobId)
  | _ => True

theorem mem_listSessions {s : Store} {id org : String} :
    id ∈ s.listSessions org ↔ ∃ row, s.sessions.get? id = some row ∧ row.orgId = some org := by
  unfold listSessions
  constructor
  · intro h
    obtain ⟨e, he, rfl⟩ := List.mem_map.mp h
    obtain ⟨hmem, horg⟩ := List.mem_filter.mp he
    exact ⟨e.2, (s.sessions.mem_entries_iff e.1 e.2).mp hmem, of_decide_eq_true horg⟩
  · rintro ⟨row, hrow, horg⟩
    exact List.mem_map.mpr ⟨(id, row), List.mem_filter.mpr
      ⟨(s.sessions.mem_entries_iff id row).mpr hrow, decide_eq_true horg⟩, rfl⟩

/-- 一覧についての部分は、`org_id` についての部分から従う。 -/
theorem scoped_iff_orgId {s : Store} :
    s.Scoped ↔ ∀ id row, s.sessions.get? id = some row → ∀ org,
      s.analysisJobs.get? row.jobId = some (some org) → row.orgId = some org := by
  constructor
  · intro h id row hrow org hjob
    exact (h id row hrow org hjob).1
  · intro h id row hrow org hjob
    have horg := h id row hrow org hjob
    refine ⟨horg, fun org' => mem_listSessions.trans ?_⟩
    constructor
    · rintro ⟨row', hrow', horg'⟩
      rw [hrow, Option.some.injEq] at hrow'
      subst hrow'
      rw [horg, Option.some.injEq] at horg'
      exact horg'.symm
    · rintro rfl
      exact ⟨row, hrow, horg⟩

/-! ## 書き手のすること -/

/-- `process_analysis_job` が row を書いた後の table。 -/
theorem get?_addRows (jobId : String) (id : String) : ∀ (rows : List String)
    (d : Dict String SessionRec), (rows.foldl (addRow jobId) d).get? id
      = match d.get? id with
        | some row => some row
        | none => if id ∈ rows then some { jobId := jobId, orgId := none } else none
  | [], d => by
    cases h : d.get? id with
    | none => simp [h]
    | some row => simp [h]
  | sessId :: rows, d => by
    rw [List.foldl_cons, get?_addRows jobId id rows]
    have hadd : (addRow jobId d sessId).get? id
        = if sessId = id ∧ d.get? id = none then some { jobId := jobId, orgId := none }
          else d.get? id := by
      unfold addRow
      cases hs : d.get? sessId with
      | some row =>
        simp only
        rw [if_neg]
        rintro ⟨rfl, hnone⟩
        rw [hs] at hnone
        cases hnone
      | none =>
        simp only [Dict.get?_set]
        by_cases he : sessId = id
        · subst he
          rw [if_pos rfl, if_pos ⟨rfl, hs⟩]
        · rw [if_neg he, if_neg fun h => he h.1]
    rw [hadd]
    cases h : d.get? id with
    | some row => simp
    | none =>
      by_cases he : sessId = id
      · simp [he]
      · simp [he, Ne.symm he]

/-- row も、既にある job も変えない。 -/
def Extends (s t : Store) : Prop :=
  t.sessions = s.sessions ∧
    ∀ k o, s.analysisJobs.get? k = some o → t.analysisJobs.get? k = some o

theorem Extends.refl (s : Store) : s.Extends s := ⟨rfl, fun _ _ h => h⟩

/-- 無かった job を作る。 -/
theorem extends_newJob {s : Store} {jobId : String} (hnone : s.analysisJobs.get? jobId = none)
    (org : Option String) :
    s.Extends { s with analysisJobs := s.analysisJobs.set jobId org } := by
  refine ⟨rfl, fun k o h => ?_⟩
  have hne : jobId ≠ k := by
    rintro rfl
    rw [hnone] at h
    cases h
  rw [Dict.get?_set_of_ne _ _ hne]
  exact h

theorem extends_upload (s : Store) (jobId org : String) : s.Extends (s.upload jobId org) := by
  unfold upload
  split
  · next hnone => exact extends_newJob hnone _
  · exact Extends.refl s

theorem extends_seedOrg (s : Store) (name hex : String) : s.Extends (s.seedOrg name hex) := by
  unfold seedOrg
  split <;> exact ⟨rfl, fun _ _ h => h⟩

/-- row の書かれない `_persist` は、無かった job を作るだけである。 -/
theorem extends_persist {s : Store} {c : Persist}
    (h : c.commits = false ∨ s.target c = none) : s.Extends (s.persist c) := by
  unfold persist
  split
  · exact Extends.refl s
  · next ht =>
    have hc : c.commits = false := h.resolve_right (by rw [ht]; exact Option.some_ne_none _)
    simp only [hc, Bool.false_eq_true, if_false]
    split
    · next hnone => exact extends_newJob hnone _
    · exact Extends.refl s

/-- `process_analysis_job` の後の row は、前からあるか、org の無い新しいものである。 -/
theorem row_process {resolves : Bool} {s : Store} {jobId id : String} {rows : List String}
    {row : SessionRec} (h : (s.process resolves jobId rows).sessions.get? id = some row) :
    s.sessions.get? id = some row ∨
      (resolves = true ∧ (∃ o, s.analysisJobs.get? jobId = some o) ∧ id ∈ rows ∧
        s.sessions.get? id = none ∧ row = { jobId := jobId, orgId := none }) := by
  unfold process at h
  split at h
  · next o hjob =>
    simp only [get?_addRows] at h
    split at h
    · next row' hrow =>
      rw [Option.some.injEq] at h
      exact .inl (h ▸ hrow)
    · next hnone =>
      split at h
      · next hid =>
        rw [Option.some.injEq] at h
        exact .inr ⟨rfl, ⟨o, hjob⟩, hid, hnone, h.symm⟩
      · cases h
  · exact .inl h

theorem analysisJobs_process (resolves : Bool) (s : Store) (jobId : String) (rows : List String) :
    (s.process resolves jobId rows).analysisJobs = s.analysisJobs := by
  unfold process
  split <;> rfl

/-- row を書く `_persist`。job の org は、無ければ row の org になる。 -/
theorem persist_of_commits {s : Store} {c : Persist} {jobId : String} {orgId : Option String}
    (ht : s.target c = some (jobId, orgId)) (hc : c.commits = true) :
    s.sessions.get? c.sessId = none ∧
    (s.persist c).sessions = s.sessions.set c.sessId { jobId := jobId, orgId := orgId } ∧
    ∀ k, (s.persist c).analysisJobs.get? k
      = if jobId = k then some ((s.analysisJobs.get? jobId).join.or orgId)
        else s.analysisJobs.get? k := by
  refine ⟨?_, ?_, ?_⟩
  · unfold target at ht
    split at ht
    · cases ht
    · split at ht
      · cases ht
      · next h => simpa using h
  · unfold persist
    rw [ht]
    simp only [hc, if_true]
    split <;> rfl
  · intro k
    unfold persist
    rw [ht]
    simp only [hc, if_true]
    cases hj : s.analysisJobs.get? jobId with
    | none =>
      -- 新しい job は row と同じ org で作られる
      simp only [Dict.get?_set_self, Option.some.injEq, Option.join_none, Option.none_or]
      split
      · simp only [Dict.get?_set]
        split <;> rfl
      · rw [Dict.get?_set]
    | some o =>
      simp only [hj, Option.some.injEq, Option.join_some]
      cases o with
      | none =>
        simp only [if_true, Option.none_or, Dict.get?_set]
      | some org =>
        simp only [reduceCtorEq, if_false, Option.some_or]
        split
        · next he => rw [← he, hj]
        · rfl

/-! ## row と job の一致 -/

/-- どの row も、自分の job と同じ org を持つ。 -/
def Matched (s : Store) : Prop :=
  ∀ id row, s.sessions.get? id = some row → s.analysisJobs.get? row.jobId = some row.orgId

/-- どの書き手も保つ部分。row には job があり、org の無い job の row には org が無い。 -/
def Anchored (s : Store) : Prop :=
  ∀ id row, s.sessions.get? id = some row →
    ∃ o, s.analysisJobs.get? row.jobId = some o ∧ (o = none → row.orgId = none)

theorem matched_iff {s : Store} (h : s.Anchored) : s.Matched ↔ s.Scoped := by
  rw [scoped_iff_orgId]
  constructor
  · intro hm id row hrow org hjob
    rw [hm id row hrow, Option.some.injEq] at hjob
    exact hjob
  · intro hs id row hrow
    obtain ⟨o, hjob, hnone⟩ := h id row hrow
    rw [hjob]
    cases o with
    | none => rw [hnone rfl]
    | some org => rw [hs id row hrow org hjob]

variable {resolves : Bool}

theorem Anchored.extend {s t : Store} (h : s.Anchored) (he : s.Extends t) : t.Anchored := by
  intro id row hrow
  obtain ⟨o, hjob, ho⟩ := h id row (he.1 ▸ hrow)
  exact ⟨o, he.2 _ _ hjob, ho⟩

theorem Anchored.process {s : Store} (h : s.Anchored) (jobId : String) (rows : List String) :
    (s.process resolves jobId rows).Anchored := by
  intro id row hrow
  rw [analysisJobs_process]
  rcases row_process hrow with hrow | ⟨-, ⟨o, hjob⟩, -, -, rfl⟩
  · exact h id row hrow
  · exact ⟨o, hjob, fun _ => rfl⟩

theorem Anchored.persist {s : Store} (h : s.Anchored) (c : Persist) : (s.persist c).Anchored := by
  by_cases hskip : c.commits = false ∨ s.target c = none
  · exact h.extend (extends_persist hskip)
  · rw [not_or, Bool.not_eq_false] at hskip
    obtain ⟨hc, htarget⟩ := hskip
    obtain ⟨⟨jobId, orgId⟩, ht⟩ := Option.ne_none_iff_exists'.mp htarget
    obtain ⟨-, hs, hj⟩ := persist_of_commits ht hc
    intro id row hrow
    rw [hs, Dict.get?_set] at hrow
    rw [hj]
    split at hrow
    · -- 新しい row。job に org が無いままなら、row の org も無い
      rw [Option.some.injEq] at hrow
      subst hrow
      rw [if_pos rfl]
      exact ⟨_, rfl, fun hnone => (Option.or_eq_none_iff.mp hnone).2⟩
    · obtain ⟨o, hjob, ho⟩ := h id row hrow
      split
      · next he =>
        subst he
        rw [hjob, Option.join_some]
        exact ⟨_, rfl, fun hnone => ho (Option.or_eq_none_iff.mp hnone).1⟩
      · exact ⟨o, hjob, ho⟩

theorem Anchored.backfill {s : Store} (h : s.Anchored) (name : String) :
    (s.backfill name).Anchored := by
  unfold Store.backfill
  split
  · exact h
  · next oid _ =>
    intro id row hrow
    simp only [Dict.get?_mapValues] at hrow ⊢
    obtain ⟨row', hrow', rfl⟩ := Option.map_eq_some_iff.mp hrow
    obtain ⟨o, hjob, -⟩ := h id row' hrow'
    rw [hjob]
    -- 移した後の job には必ず org がある
    refine ⟨o.or (some oid), rfl, fun hnone => ?_⟩
    exact absurd (Option.or_eq_none_iff.mp hnone).2 (Option.some_ne_none oid)

theorem Anchored.step {s : Store} (h : s.Anchored) (ev : Write) : (s.step resolves ev).Anchored := by
  cases ev with
  | upload jobId org => exact h.extend (extends_upload s jobId org)
  | process jobId rows => exact h.process jobId rows
  | persist c => exact h.persist c
  | seedOrg name hex => exact h.extend (extends_seedOrg s name hex)
  | backfill name => exact h.backfill name

theorem Matched.extend {s t : Store} (h : s.Matched) (he : s.Extends t) : t.Matched :=
  fun id row hrow => he.2 _ _ (h id row (he.1 ▸ hrow))

/-- `process_analysis_job` が一致を保つのは、org のある job に新しい row を書かないときである。 -/
theorem matched_process_iff {s : Store} (h : s.Matched) (jobId : String) (rows : List String) :
    (s.process resolves jobId rows).Matched ↔ WritesOwnOrg resolves s (.process jobId rows) := by
  constructor
  · intro hm hr org hjob id hid hnone
    have hwrite : (s.process resolves jobId rows).sessions.get? id = some ⟨jobId, none⟩ := by
      simp only [process, hr, hjob, get?_addRows, hnone, if_pos hid]
    have hrow := hm id ⟨jobId, none⟩ hwrite
    rw [analysisJobs_process, hjob] at hrow
    cases hrow
  · intro hc id row hrow
    rw [analysisJobs_process]
    rcases row_process hrow with hrow | ⟨hr, ⟨o, hjob⟩, hid, hnone, rfl⟩
    · exact h id row hrow
    · cases o with
      | none => exact hjob
      | some org => exact absurd hnone (hc hr org hjob id hid)

section Persist

variable {s : Store} {c : Persist} {jobId : String} {orgId : Option String} (h : s.Matched)
  (hc : c.commits = true) (ht : s.target c = some (jobId, orgId))
include h hc ht

/-- 一致が残れば、job の org は書いた org であり、org の無い job に org を付けていない。 -/
theorem org_of_matched_persist (hm : (s.persist c).Matched) :
    (∀ org, s.analysisJobs.get? jobId = some (some org) → orgId = some org) ∧
      (s.analysisJobs.get? jobId = some none → orgId ≠ none → ¬s.HasRows jobId) := by
  obtain ⟨hnew, hs, hj⟩ := persist_of_commits ht hc
  have hrow := hm c.sessId ⟨jobId, orgId⟩ (by rw [hs, Dict.get?_set_self])
  simp only [hj, if_pos] at hrow
  refine ⟨fun org hjob => ?_, fun hjob hne hhas => ?_⟩
  · rw [hjob, Option.join_some, Option.some_or, Option.some.injEq] at hrow
    exact hrow.symm
  · -- org の無い job の前からの row は、org の無いまま残る
    obtain ⟨id, row, hold, rfl⟩ := hhas
    have hid : c.sessId ≠ id := by
      rintro rfl
      rw [hnew] at hold
      cases hold
    have hkeep := hm id row (by rw [hs, Dict.get?_set_of_ne _ _ hid, hold])
    rw [hj, if_pos rfl, hjob, Option.join_some, Option.none_or, Option.some.injEq] at hkeep
    have hown := h id row hold
    rw [hjob, Option.some.injEq] at hown
    exact hne (hkeep.trans hown.symm)

theorem matched_persist_of_org
    (hsome : ∀ org, s.analysisJobs.get? jobId = some (some org) → orgId = some org)
    (hnone : s.analysisJobs.get? jobId = some none → orgId ≠ none → ¬s.HasRows jobId) :
    (s.persist c).Matched := by
  obtain ⟨-, hs, hj⟩ := persist_of_commits ht hc
  intro id row hrow
  rw [hs, Dict.get?_set] at hrow
  rw [hj]
  split at hrow
  · rw [Option.some.injEq] at hrow
    subst hrow
    rw [if_pos rfl]
    cases hjob : s.analysisJobs.get? jobId with
    | none => rfl
    | some o =>
      cases o with
      | none => rfl
      | some org => rw [hsome org hjob]; rfl
  · have hmem := h id row hrow
    split
    · next he =>
      subst he
      rw [hmem, Option.join_some]
      cases ho : row.orgId with
      | some org => rfl
      | none =>
        -- job に org が付くなら、この row があってはならない
        rw [ho] at hmem
        by_cases hne : orgId = none
        · rw [hne]; rfl
        · exact absurd ⟨id, row, hrow, rfl⟩ (hnone hmem hne)
    · exact hmem

end Persist

/-- `_persist` が一致を保つのは、row の org が job の org になるときである。 -/
theorem matched_persist_iff {s : Store} (h : s.Matched) (c : Persist) :
    (s.persist c).Matched ↔ WritesOwnOrg resolves s (.persist c) := by
  constructor
  · intro hm hc jobId orgId ht
    exact org_of_matched_persist h hc ht hm
  · intro hown
    by_cases hskip : c.commits = false ∨ s.target c = none
    · exact h.extend (extends_persist hskip)
    · rw [not_or, Bool.not_eq_false] at hskip
      obtain ⟨hc, htarget⟩ := hskip
      obtain ⟨⟨jobId, orgId⟩, ht⟩ := Option.ne_none_iff_exists'.mp htarget
      obtain ⟨hsome, hnone⟩ := hown hc jobId orgId ht
      exact matched_persist_of_org h hc ht hsome hnone

/-- **事象一つが一致を保つのは、ちょうど条件を満たすときである。** -/
theorem matched_step_iff {s : Store} (h : s.Matched) (ev : Write) :
    (s.step resolves ev).Matched ↔ WritesOwnOrg resolves s ev := by
  cases ev with
  | process jobId rows => exact matched_process_iff h jobId rows
  | persist c => exact matched_persist_iff h c
  | upload jobId org =>
    exact iff_of_true (h.extend (extends_upload s jobId org)) trivial
  | seedOrg name hex =>
    exact iff_of_true (h.extend (extends_seedOrg s name hex)) trivial
  | backfill name =>
    refine iff_of_true ?_ trivial
    show (s.backfill name).Matched
    unfold backfill
    split
    · exact h
    · intro id row hrow
      simp only [Dict.get?_mapValues] at hrow ⊢
      obtain ⟨row', hrow', rfl⟩ := Option.map_eq_some_iff.mp hrow
      rw [h id row' hrow']
      rfl

end Store

/--
空の DB から始まる run の途中のどの状態でも、job に org のある row が同じ org を持ち、その org の
利用者にだけ見えるのは、どの書き手も条件を満たすときで、そのときに限る。
-/
theorem scoped_iff (resolves : Bool) (es : List Write) :
    (∀ pre, pre <+: es → (Run.exec (Store.step resolves) {} pre).Scoped) ↔
      Run.Along (Store.step resolves) (Store.WritesOwnOrg resolves) {} es := by
  have hanch : ∀ pre, (Run.exec (Store.step resolves) {} pre).Anchored := by
    intro pre
    refine Run.invariant (I := Store.Anchored) (fun _ ev h => h.step ev) pre ?_
    intro id row h
    cases h
  have hinit : ({} : Store).Matched := by
    intro id row h
    cases h
  rw [← Run.invariant_iff (I := Store.Matched) (fun _ ev h => Store.matched_step_iff h ev) hinit]
  exact forall_congr' fun pre => forall_congr' fun _ => (Store.matched_iff (hanch pre)).symm

/-- 組織 `a` の upload の job が処理され、boot が起きる run。 -/
def uploaded : List Write :=
  [.seedOrg "default" "0", .upload "j" "a", .process "j" ["s"], .backfill "default"]

/-- default の組織が無いうちに始まった live の job に、後から org が付く run。 -/
def liveBeforeSeed : List Write :=
  [.persist { sessId := "s", payloadOrgId := none }, .seedOrg "default" "0",
    .persist { sessId := "t", payloadOrgId := none }]

/--
`Session.get` が job を返せば、`a` の session は boot で default の組織に移る。返さなくても、
live の job の前からの row は job と違う org のまま残る。
-/
theorem not_scoped :
    ¬(Run.exec (Store.step true) {} uploaded).Scoped ∧
    (Run.exec (Store.step true) {} uploaded).listSessions "org-0" = ["s"] ∧
    (Run.exec (Store.step true) {} uploaded).listSessions "a" = [] ∧
    ∀ resolves, ¬(Run.exec (Store.step resolves) {} liveBeforeSeed).Scoped := by
  refine ⟨fun h => ?_, by decide, by decide, fun resolves h => ?_⟩
  · exact absurd (h "s" ⟨"j", some "org-0"⟩ (by decide) "a" (by decide)).1 (by decide)
  · have hrow : (Run.exec (Store.step resolves) {} liveBeforeSeed).sessions.get? "s"
        = some ⟨"live", none⟩ := by cases resolves <;> decide
    have hjob : (Run.exec (Store.step resolves) {} liveBeforeSeed).analysisJobs.get? "live"
        = some (some "org-0") := by cases resolves <;> decide
    exact absurd (h "s" ⟨"live", none⟩ hrow "org-0" hjob).1 (by decide)

end CipherPost.Services
