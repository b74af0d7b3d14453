import Mathlib.Algebra.Order.Ring.Rat
import Mathlib.Data.String.Basic
import Mathlib.Order.WithBot
import CipherPost.Infra.Json
import CipherPost.Infra.Paging
import CipherPost.Live.Flows
import CipherPost.Services.JobRun

/-!
# page に分けた一覧

`main.py` の `_paginate` と、それを使う `list_sessions`・`list_flows`・`list_jobs`。`page` を 1 から順に問い、空の page で
止める client が、行をどれも一度ずつ受け取るかを調べる。DB は `ORDER BY` の等しい行を好きな順に並べる。

* `paginate` — `_paginate`
* `ListSessions`・`ListFlows`・`ListJobs` — 応答
* `Listing.Whole` — 漏れも重なりも無い条件
* `exhausts_listing_iff` — どの一覧もその条件のときだけ読み切れる
-/

namespace CipherPost.Api

open CipherPost.Live CipherPost.Paging

/-! ## row -/

/-- `sessions` の row のうち、一覧と履歴の読む列。 -/
structure SessionRecord where
  id : String
  orgId : Option String
  protocol : String
  fiveTuple : String
  tlsVersion : Option String
  negotiatedCipher : Option String
  riskScore : Option ℚ
  maxSeverity : Option String
  isAnomaly : Bool
  modelVersion : Option String
  details : Option Json
  createdAt : Option Int

/-- `findings` の row のうち、一覧の読む列。 -/
structure FindingLink where
  sessionId : String
  severity : Severity
  deriving DecidableEq

/-- `analysis_jobs` の row のうち、一覧の読む列。 -/
structure JobRecord where
  id : String
  orgId : Option String
  filename : String
  status : Services.JobRun.JobStatus
  progress : ℚ
  fileSize : Int
  createdAt : Int
  completedAt : Option Int

/-- DB。主 key は重ならない。 -/
structure Tables where
  sessions : List SessionRecord
  findings : List FindingLink
  flows : FlowTable
  jobs : List JobRecord
  sessions_nodup : (sessions.map (·.id)).Nodup
  jobs_nodup : (jobs.map (·.id)).Nodup

/-! ## 応答の dict -/

/-- `list_sessions` の一件。 -/
structure SessionItem where
  id : String
  protocol : String
  fiveTuple : String
  tlsVersion : Option String
  riskScore : Option ℚ
  maxSeverity : Option String
  isAnomaly : Bool
  modelVersion : Option String
  details : Option Json

/-- `_flow_to_dict`。割合は分子と分母で持つ。 -/
structure FlowItem where
  id : String
  client : String
  server : String
  protocol : String
  port : Int
  totalSessions : Nat
  encryptedSessions : Nat
  plaintextSessions : Nat
  encryptedShare : Option (Nat × Nat)
  versions : Dict String Nat
  ciphers : Dict String Nat
  bestVersion : Option String
  firstSeen : Nat
  lastSeen : Nat

/-- `list_jobs` の一件。 -/
structure JobItem where
  id : String
  filename : String
  status : Services.JobRun.JobStatus
  progress : ℚ
  fileSize : Int
  createdAt : Int
  completedAt : Option Int

/-- 一覧の一件。 -/
inductive Item where
  | session (x : SessionItem)
  | flow (x : FlowItem)
  | job (x : JobItem)

/-- `"id"` の値。 -/
def Item.id : Item → String
  | .session x => x.id
  | .flow x => x.id
  | .job x => x.id

def SessionRecord.item (r : SessionRecord) : Item :=
  .session
    { id := r.id, protocol := r.protocol, fiveTuple := r.fiveTuple, tlsVersion := r.tlsVersion
      riskScore := r.riskScore, maxSeverity := r.maxSeverity, isAnomaly := r.isAnomaly
      modelVersion := r.modelVersion, details := r.details }

/-- `_flow_to_dict`。 -/
def flowToDict (id : String) (f : MailFlow) : FlowItem where
  id := id
  client := f.clientHost
  server := f.serverHost
  protocol := f.protocol
  port := f.port
  totalSessions := f.totalSessions
  encryptedSessions := f.encryptedSessions
  plaintextSessions := f.plaintextSessions
  encryptedShare :=
    if f.totalSessions = 0 then none else some (f.encryptedSessions, f.totalSessions)
  versions := f.versions
  ciphers := f.ciphers
  bestVersion := f.bestVersion
  firstSeen := f.firstSeen
  lastSeen := f.lastSeen

def flowItem (e : String × MailFlow) : Item := .flow (flowToDict e.1 e.2)

def JobRecord.item (j : JobRecord) : Item :=
  .job
    { id := j.id, filename := j.filename, status := j.status, progress := j.progress
      fileSize := j.fileSize, createdAt := j.createdAt, completedAt := j.completedAt }

/-! ## _paginate -/

/-- `_paginate`。limit と offset を返す。0 でない offset は page に勝つ。 -/
def paginate (limit offset : Int) (page perPage : Option Int) (maximum : Int := 200) : Int × Int :=
  let maximum := max 1 maximum
  let limit := max 1 (min limit maximum)
  let limit := match perPage with
    | some n => max 1 (min n maximum)
    | none => limit
  if offset ≠ 0 then (limit, max 0 offset)
  else match page with
    | some n => (limit, max 0 ((max 1 n - 1) * limit))
    | none => (limit, 0)

/-- query の `limit` と `per_page`。範囲の外の値は endpoint に届かない。 -/
structure PageSize (maximum : Int) where
  limit : Int
  perPage : Option Int
  limit_mem : 1 ≤ limit ∧ limit ≤ maximum
  perPage_mem : ∀ n ∈ perPage, 1 ≤ n ∧ n ≤ maximum

/-- page の行の数。`per_page` が `limit` に勝つ。 -/
def PageSize.rows {maximum : Int} (q : PageSize maximum) : Nat := (q.perPage.getD q.limit).toNat

/-! ## 一覧の query -/

/-- `where` の org と protocol。空の protocol は無いのと同じである。 -/
def SessionRecord.selected (org : String) (protocol : Option String) (r : SessionRecord) : Bool :=
  r.orgId == some org && (truthy protocol).all (r.protocol == ·)

/-- `join` で並ぶ finding。 -/
def Tables.joined (db : Tables) (severity : Severity) (r : SessionRecord) : List FindingLink :=
  db.findings.filter fun f => f.sessionId == r.id && f.severity == severity

/-- severity の無い query の行。 -/
def Tables.sessionRows (db : Tables) (org : String) (protocol : Option String) :
    List SessionRecord :=
  db.sessions.filter (·.selected org protocol)

/-- severity のある query の行。`join` した finding ごとに一つ並ぶ。 -/
def Tables.severityRows (db : Tables) (org : String) (protocol : Option String)
    (severity : Severity) : List SessionRecord :=
  (db.sessionRows org protocol).flatMap fun r => (db.joined severity r).map fun _ => r

/-- `unencrypted_within_days` の条件。時刻は µs である。 -/
def unencryptedSince (now : Nat) (days : Option Nat) (f : MailFlow) : Bool :=
  match days with
  | some days => decide (0 < f.plaintextSessions) &&
      decide ((now : Int) - days * 86400000000 ≤ f.lastSeen)
  | none => true

def Tables.flowRows (db : Tables) (org : String) (now : Nat) (days : Option Nat) :
    List (String × MailFlow) :=
  db.flows.entries.filter fun e => e.2.orgId == org && unencryptedSince now days e.2

def Tables.jobRows (db : Tables) (org : String) : List JobRecord :=
  db.jobs.filter fun j => j.orgId == some org

/-- `risk_score.desc().nullslast()` の key。 -/
def SessionRecord.riskKey (r : SessionRecord) : WithBot ℚ := r.riskScore

/-- `list_sessions` の応答になりうるもの。空の severity は無いのと同じである。 -/
def ListSessions (db : Tables) (org : String) (protocol : Option String)
    (severity : Option Severity) (limit offset : Int) (page perPage : Option Int)
    (out : List Item) : Prop :=
  let (limit, offset) := paginate limit offset page perPage
  ∃ rows : List SessionRecord, out = rows.map SessionRecord.item ∧ match severity with
    | none =>
      IsPage SessionRecord.id (db.sessionRows org protocol) offset.toNat limit.toNat rows
    | some severity =>
      IsPage SessionRecord.riskKey (db.severityRows org protocol severity) offset.toNat limit.toNat
        rows

/-- `list_flows` の応答になりうるもの。`_paginate` の offset は捨てる。 -/
def ListFlows (db : Tables) (org : String) (now : Nat) (days : Option Nat) (limit : Int)
    (page perPage : Option Int) (out : List Item) : Prop :=
  let (limit, _) := paginate limit 0 page perPage 500
  ∃ rows : List (String × MailFlow), out = rows.map flowItem ∧
    IsPage (fun e => e.2.plaintextSessions) (db.flowRows org now days) 0 limit.toNat rows

/-- `list_jobs` の応答になりうるもの。 -/
def ListJobs (db : Tables) (org : String) (limit offset : Int) (page perPage : Option Int)
    (out : List Item) : Prop :=
  let (limit, offset) := paginate limit offset page perPage
  ∃ rows : List JobRecord, out = rows.map JobRecord.item ∧
    IsPage JobRecord.createdAt (db.jobRows org) offset.toNat limit.toNat rows

/-! ## 一覧 -/

/-- page に分けた一覧と、その filter。 -/
inductive Listing where
  | sessions (protocol : Option String) (severity : Option Severity)
  | flows (unencryptedWithinDays : Option Nat)
  | jobs

namespace Listing

/-- 一つの page の行の数の上限。 -/
def maximum : Listing → Int
  | flows _ => 500
  | sessions .. | jobs => 200

/-- `page` の page の応答になりうるもの。 -/
def Responds (l : Listing) (db : Tables) (org : String) (now : Nat) (q : PageSize l.maximum)
    (page : Int) (out : List Item) : Prop :=
  match l with
  | sessions protocol severity =>
    ListSessions db org protocol severity q.limit 0 (some page) q.perPage out
  | flows days => ListFlows db org now days q.limit (some page) q.perPage out
  | jobs => ListJobs db org q.limit 0 (some page) q.perPage out

/-- filter に合う行。どれも一度ずつ並ぶ。 -/
def wanted (l : Listing) (db : Tables) (org : String) (now : Nat) : List Item :=
  match l with
  | sessions protocol none => (db.sessionRows org protocol).map SessionRecord.item
  | sessions protocol (some severity) =>
    ((db.sessionRows org protocol).filter fun r => !(db.joined severity r).isEmpty).map
      SessionRecord.item
  | flows days => (db.flowRows org now days).map flowItem
  | jobs => (db.jobRows org).map JobRecord.item

/-- page `n + 1` の応答の列。 -/
def Run (l : Listing) (db : Tables) (org : String) (now : Nat) (q : PageSize l.maximum)
    (pages : Nat → List Item) : Prop :=
  ∀ n : Nat, l.Responds db org now q (n + 1) (pages n)

/--
漏れも重なりも無い条件。severity の一覧では、合う finding が session ごとに一つまでで、境目が同じ risk score の間に無い
こと。flow の一覧では合う flow が無いこと。job の一覧では境目が同じ時刻の間に無いこと。
-/
def Whole (l : Listing) (db : Tables) (org : String) (now : Nat) (size : Nat) : Prop :=
  match l with
  | sessions _ none => True
  | sessions protocol (some severity) =>
    (∀ r ∈ db.sessionRows org protocol, (db.joined severity r).length ≤ 1) ∧
      ¬CutsTie SessionRecord.riskKey
        ((db.sessionRows org protocol).filter fun r => !(db.joined severity r).isEmpty) size
  | flows days => db.flowRows org now days = []
  | jobs => ¬CutsTie JobRecord.createdAt (db.jobRows org) size

end Listing

/-! ## _paginate の結果 -/

section
variable {maximum : Int}

theorem PageSize.rows_pos (q : PageSize maximum) : 0 < q.rows := by
  have hmem : 1 ≤ q.perPage.getD q.limit := by
    cases hper : q.perPage with
    | none => exact q.limit_mem.1
    | some n => exact (q.perPage_mem n hper).1
  unfold PageSize.rows
  omega

/-- 範囲の中の query では、limit は page の行の数であり、offset は前の page までの行の数である。 -/
theorem paginate_page (q : PageSize maximum) (n : Nat) :
    paginate q.limit 0 (some (n + 1)) q.perPage maximum =
      ((q.rows : Int), ((n * q.rows : Nat) : Int)) := by
  have hpos := q.rows_pos
  have hlimit := q.limit_mem
  have hrows : (q.rows : Int) = q.perPage.getD q.limit := by
    unfold PageSize.rows at hpos ⊢
    omega
  have hclamp : ∀ x : Int, 1 ≤ x → x ≤ maximum → max 1 (min x (max 1 maximum)) = x := by omega
  have hfirst : max 1 ((n : Int) + 1) - 1 = n := by omega
  have hpage : max 0 ((max 1 ((n : Int) + 1) - 1) * q.rows) = ((n * q.rows : Nat) : Int) := by
    rw [hfirst, ← Int.natCast_mul]
    exact max_eq_right (Int.natCast_nonneg _)
  unfold paginate
  cases hper : q.perPage with
  | none =>
    rw [hper, Option.getD_none] at hrows
    simp only [ne_eq, not_true_eq_false, if_false, hclamp _ hlimit.1 hlimit.2]
    rw [← hrows, hpage]
  | some m =>
    obtain ⟨h1, h2⟩ := q.perPage_mem m hper
    rw [hper, Option.getD_some] at hrows
    simp only [ne_eq, not_true_eq_false, if_false, hclamp m h1 h2]
    rw [← hrows, hpage]

end

/-! ## 読み切れる条件 -/

section
variable (db : Tables) (org : String) (now : Nat)

/-- 一覧の応答は、query の page を写したものである。 -/
theorem run_sessions_iff {protocol : Option String} {q : PageSize 200} {pages : Nat → List Item} :
    (Listing.sessions protocol none).Run db org now q pages ↔
      Listed SessionRecord.id (db.sessionRows org protocol) q.rows SessionRecord.item pages := by
  refine forall_congr' fun n => ?_
  simp only [Listing.Responds, ListSessions, paginate_page, Int.toNat_natCast]
  exact exists_congr fun rows => and_comm

theorem run_severity_iff {protocol : Option String} {severity : Severity} {q : PageSize 200}
    {pages : Nat → List Item} :
    (Listing.sessions protocol (some severity)).Run db org now q pages ↔
      Listed SessionRecord.riskKey (db.severityRows org protocol severity) q.rows SessionRecord.item
        pages := by
  refine forall_congr' fun n => ?_
  simp only [Listing.Responds, ListSessions, paginate_page, Int.toNat_natCast]
  exact exists_congr fun rows => and_comm

theorem run_jobs_iff {q : PageSize 200} {pages : Nat → List Item} :
    Listing.jobs.Run db org now q pages ↔
      Listed JobRecord.createdAt (db.jobRows org) q.rows JobRecord.item pages := by
  refine forall_congr' fun n => ?_
  simp only [Listing.Responds, ListJobs, paginate_page, Int.toNat_natCast]
  exact exists_congr fun rows => and_comm

/-- flow の一覧の応答は、どの page も先頭の page である。 -/
theorem run_flows_iff {days : Option Nat} {q : PageSize 500} {pages : Nat → List Item} :
    (Listing.flows days).Run db org now q pages ↔
      ∀ n, ∃ rows, IsPage (fun e : String × MailFlow => e.2.plaintextSessions)
        (db.flowRows org now days) 0 q.rows rows ∧ pages n = rows.map flowItem := by
  refine forall_congr' fun n => ?_
  simp only [Listing.Responds, ListFlows, paginate_page, Int.toNat_natCast]
  exact exists_congr fun rows => and_comm

/-! ### 主 key -/

theorem nodup_sessionRows (protocol : Option String) :
    ((db.sessionRows org protocol).map SessionRecord.id).Nodup :=
  db.sessions_nodup.sublist (List.filter_sublist.map _)

theorem nodup_jobRows : ((db.jobRows org).map JobRecord.id).Nodup :=
  db.jobs_nodup.sublist (List.filter_sublist.map _)

/-- 一件の `id` が row の主 key なら、一件に写しても重ならない。 -/
theorem nodup_items {α : Type} {rows : List α} {key : α → String} {item : α → Item}
    (hid : ∀ r, (item r).id = key r) (h : (rows.map key).Nodup) : (rows.map item).Nodup := by
  refine List.Nodup.of_map Item.id ?_
  rw [List.map_map]
  exact (List.map_congr_left fun r _ => hid r : rows.map (Item.id ∘ item) = rows.map key) ▸ h

/-! ### join -/

variable {protocol : Option String} {severity : Severity}

theorem mem_severityRows {r : SessionRecord} : r ∈ db.severityRows org protocol severity ↔
    r ∈ (db.sessionRows org protocol).filter fun r => !(db.joined severity r).isEmpty := by
  rw [Tables.severityRows, List.mem_flatMap, List.mem_filter]
  constructor
  · rintro ⟨r', hr', hmem⟩
    obtain ⟨f, hf, rfl⟩ := List.mem_map.mp hmem
    refine ⟨hr', ?_⟩
    cases hjoin : db.joined severity r' with
    | nil => rw [hjoin] at hf; cases hf
    | cons f fs => rfl
  · rintro ⟨hr, hjoin⟩
    cases hj : db.joined severity r with
    | nil => rw [hj] at hjoin; cases hjoin
    | cons f fs => exact ⟨r, hr, by rw [hj]; exact List.mem_cons_self⟩

/-- join した行が重ならないのは、合う finding が session ごとに一つまでのときである。 -/
theorem nodup_severityRows_iff : (db.severityRows org protocol severity).Nodup ↔
    ∀ r ∈ db.sessionRows org protocol, (db.joined severity r).length ≤ 1 := by
  rw [Tables.severityRows, List.nodup_flatMap]
  simp only [List.map_const', List.nodup_replicate]
  refine and_iff_left (((nodup_sessionRows db org protocol).of_map).imp fun hne x hx hy => ?_)
  exact hne ((List.eq_of_mem_replicate hx).symm.trans (List.eq_of_mem_replicate hy))

/-- join した行が重ならなければ、境目も join しない行の境目である。 -/
theorem cutsTie_severityRows_iff {size : Nat} (h : (db.severityRows org protocol severity).Nodup) :
    CutsTie SessionRecord.riskKey (db.severityRows org protocol severity) size ↔
      CutsTie SessionRecord.riskKey
        ((db.sessionRows org protocol).filter fun r => !(db.joined severity r).isEmpty) size :=
  CutsTie.congr ((List.perm_ext_iff_of_nodup h
    (((nodup_sessionRows db org protocol).of_map).filter _)).mpr fun _ => mem_severityRows db org)

/-- page がどれも空でなければ、読み切れない。 -/
theorem not_exhausts {pages : Nat → List Item} {items : List Item} (h : ∀ n, pages n ≠ []) :
    ¬Exhausts pages items :=
  fun ⟨N, hN, _⟩ => h N hN

/-- severity の無い session の一覧は、いつも読み切れる。 -/
theorem exhausts_sessions (protocol : Option String) (q : PageSize 200)
    {pages : Nat → List Item} (h : (Listing.sessions protocol none).Run db org now q pages) :
    Exhausts pages ((db.sessionRows org protocol).map SessionRecord.item) :=
  exhausts_of_not_cutsTie q.rows_pos (not_cutsTie_of_nodup (nodup_sessionRows db org protocol))
    ((run_sessions_iff db org now).mp h)

theorem exhausts_severity_iff (protocol : Option String) (severity : Severity) (q : PageSize 200) :
    (∀ pages, (Listing.sessions protocol (some severity)).Run db org now q pages →
      Exhausts pages ((Listing.sessions protocol (some severity)).wanted db org now)) ↔
    (Listing.sessions protocol (some severity)).Whole db org now q.rows := by
  simp only [run_severity_iff]
  have hnodup := (nodup_sessionRows db org protocol).sublist
    ((List.filter_sublist (p := fun r => !(db.joined severity r).isEmpty)).map _)
  refine (exhausts_iff q.rows_pos (nodup_items (fun _ => rfl) hnodup) fun _ => mem_severityRows db org).trans ?_
  rw [nodup_severityRows_iff]
  exact and_congr_right fun h => not_congr
    (cutsTie_severityRows_iff db org ((nodup_severityRows_iff db org).mpr h))

theorem exhausts_jobs_iff (q : PageSize 200) :
    (∀ pages, Listing.jobs.Run db org now q pages →
      Exhausts pages ((db.jobRows org).map JobRecord.item)) ↔
    ¬CutsTie JobRecord.createdAt (db.jobRows org) q.rows := by
  simp only [run_jobs_iff]
  have hnodup := nodup_jobRows db org
  exact (exhausts_iff q.rows_pos (nodup_items (fun _ => rfl) hnodup) fun _ => Iff.rfl).trans
    (and_iff_right hnodup.of_map)

/-- flow の一覧を読み切れるのは、合う flow が無いときである。 -/
theorem exhausts_flows_iff (days : Option Nat) (q : PageSize 500) :
    (∀ pages, (Listing.flows days).Run db org now q pages →
      Exhausts pages ((db.flowRows org now days).map flowItem)) ↔
    db.flowRows org now days = [] := by
  simp only [run_flows_iff]
  constructor
  · intro h
    obtain ⟨ord, hord⟩ := exists_arranged (fun e : String × MailFlow => e.2.plaintextSessions)
      (db.flowRows org now days)
    by_contra hne
    refine not_exhausts (fun n => ?_) (h (fun _ => (slice 0 q.rows ord).map flowItem) fun n =>
      ⟨_, ⟨ord, hord, rfl⟩, rfl⟩)
    rw [Ne, List.map_eq_nil_iff, slice_eq_nil_iff q.rows_pos, Nat.le_zero, hord.length,
      List.length_eq_zero_iff]
    exact hne
  · intro hnil pages hpages
    obtain ⟨rows, ⟨ord, hord, rfl⟩, hpage⟩ := hpages 0
    rw [hnil] at hord
    refine ⟨0, ?_, by simp, by simp [hnil]⟩
    rw [hpage, hord.perm.eq_nil]
    simp [slice]

/--
**どの一覧も、漏れも重なりも無い条件のときだけ、DB の並べ方によらず読み切れる。** 読み切るとは、page を 1 から順に問うと
空の page に届き、それまでに合う行をどれもちょうど一度ずつ受け取ることである。
-/
theorem exhausts_listing_iff (l : Listing) (q : PageSize l.maximum) :
    (∀ pages, l.Run db org now q pages → Exhausts pages (l.wanted db org now)) ↔
      l.Whole db org now q.rows := by
  cases l with
  | sessions protocol severity =>
    cases severity with
    | none => exact iff_of_true (fun _ => exhausts_sessions db org now protocol q) trivial
    | some severity => exact exhausts_severity_iff db org now protocol severity q
  | flows days => exact exhausts_flows_iff db org now days q
  | jobs => exact exhausts_jobs_iff db org now q

end

/-! ## 読み切れない一覧 -/

/-- 深刻度の等しい finding の二つ付いた session が一つ、flow が一つ、同じ時刻の job が二つある DB。 -/
def crowdedTables : Tables where
  sessions :=
    [{ id := "s-1", orgId := some "acme", protocol := "SMTP", fiveTuple := "", tlsVersion := none
       negotiatedCipher := none, riskScore := none, maxSeverity := none, isAnomaly := false
       modelVersion := none, details := none, createdAt := none }]
  findings := [⟨"s-1", .high⟩, ⟨"s-1", .high⟩]
  flows := Dict.empty.set "flow-1"
    { orgId := "acme", clientHost := "10.0.0.1", serverHost := "10.0.0.2", protocol := "SMTP"
      port := 25, bestVersion := none, firstSeen := 0, lastSeen := 0 }
  jobs := ["j-1", "j-2"].map fun id =>
    { id := id, orgId := some "acme", filename := "a.pcap", status := .completed, progress := 100
      fileSize := 0, createdAt := 0, completedAt := none }
  sessions_nodup := by decide
  jobs_nodup := by decide

/-- 一件ずつの page。 -/
def onePerPage (maximum : Int) (h : 1 ≤ maximum := by decide) : PageSize maximum where
  limit := 1
  perPage := none
  limit_mem := ⟨le_refl 1, h⟩
  perPage_mem := by simp

/-- severity の一覧・flow の一覧・job の一覧には、読み切れない応答の列がある。 -/
theorem listings_not_exhausted :
    (∃ pages,
      (Listing.sessions none (some .high)).Run crowdedTables "acme" 0 (onePerPage 200) pages ∧
      ¬Exhausts pages ((Listing.sessions none (some .high)).wanted crowdedTables "acme" 0)) ∧
    (∃ pages, (Listing.flows none).Run crowdedTables "acme" 0 (onePerPage 500) pages ∧
      ¬Exhausts pages ((Listing.flows none).wanted crowdedTables "acme" 0)) ∧
    ∃ pages, Listing.jobs.Run crowdedTables "acme" 0 (onePerPage 200) pages ∧
      ¬Exhausts pages (Listing.jobs.wanted crowdedTables "acme" 0) := by
  have hsession : ¬(Listing.sessions none (some .high)).Whole crowdedTables "acme" 0 1 := by
    rintro ⟨h, -⟩
    exact absurd h (by decide)
  have hflow : crowdedTables.flowRows "acme" 0 none ≠ [] := by decide
  have hjob : CutsTie JobRecord.createdAt (crowdedTables.jobRows "acme") 1 := by
    refine ⟨_, List.mem_cons_self, 1, ?_⟩
    decide
  refine ⟨?_, ?_, ?_⟩
  · simpa using mt (exhausts_severity_iff crowdedTables "acme" 0 none .high (onePerPage 200)).mp
      hsession
  · simpa [Listing.wanted] using
      mt (exhausts_flows_iff crowdedTables "acme" 0 none (onePerPage 500)).mp hflow
  · simpa [Listing.wanted] using
      mt (exhausts_jobs_iff crowdedTables "acme" 0 (onePerPage 200)).mp (not_not.mpr hjob)

end CipherPost.Api
