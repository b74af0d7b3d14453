import Mathlib.Algebra.GroupWithZero.Nat
import CipherPost.Infra.Transaction
import CipherPost.Live.Flows
import CipherPost.Live.SessionId
import CipherPost.Proactive.Certs

/-!
# 再配達と database

`app/live/analyze.py` の `_process_one` と `_persist` を、database の書き込みと commit の列として見る。job の
row は先に commit され、残りは一つの commit で残る。例外はどこでも起こりうるが、rollback される。

* `LiveDatabase` — job・session・finding・flow・証明書の row
* `persistBody`・`persistJob` — 二つの commit までの命令
* `deliver` — 配達一つ
* `firsts` — id ごとの、最初に成功した配達
* `ExactlyOnce`・`deliveries_exactly_once` — database は `firsts` を一度ずつ処理したものになる

解析の結果は配達ごとに任意で、flow の集計と証明書の台帳は例外を起こさないものとする。
-/

namespace CipherPost.Live

open Proactive Transaction

/-! ## database -/

/-- `sessions` の row。 -/
structure LiveSession where
  jobId : String
  orgId : Option String
  protocol : String
  fiveTuple : String
  tlsVersion : Option String
  negotiatedCipher : Option String
  isAnomaly : Bool
  riskScore : Option Int
  overallFindingCount : Nat
  maxSeverity : Option Severity
  createdAt : Nat
  deriving DecidableEq

/-- job の他の table。`findings` の row は session の id と finding である。 -/
structure Records where
  sessions : Dict String LiveSession := Dict.empty
  findings : List (String × RuleFinding) := []
  flows : FlowTable := Dict.empty
  certs : CertTable := Dict.empty
  deriving DecidableEq

/-- database。`jobs` は job の org である。 -/
structure LiveDatabase extends Records where
  jobs : Dict String (Option String) := Dict.empty

/-! ## 配達 -/

/-- `_persist` が解析から読むもの。 -/
structure Analysed where
  fiveTuple : String
  protocol : String
  findings : List RuleFinding
  tlsVersion : Option String := none
  cipher : Option String := none
  ja4 : Option String := none
  ja4s : Option String := none
  certs : List LeafCert := []
  deriving DecidableEq

/-- session の payload の配達一つ。 -/
structure Delivery where
  payload : SessionPayload
  now : Nat
  uuid : String := ""
  /-- `_default_org_id`。 -/
  defaultOrg : Option String := none
  /-- decode と解析の結果。`none` は例外である。 -/
  analysed : Option Analysed
  /-- deny list に当たった fingerprint。 -/
  denied : Option String := none
  risk : Option Int := none
  isAnomaly : Bool := false
  /-- 終わりの commit より前の例外。`some n` は database の命令を `n` 個終えた所である。 -/
  raises : Option Nat := none

/-- `src/` の外にあるもの。 -/
structure Hashes extends Engine where
  fingerprintDer : List UInt8 → String

namespace Delivery

variable (lib : Hashes) (cfg : WorkConfig) (d : Delivery)

def env : WorkEnv :=
  { now := d.now, uuid := d.uuid, defaultOrg := d.defaultOrg, risk := d.risk
    isAnomaly := d.isAnomaly }

/-- session の id。文字列の比較の中で展開しない。 -/
@[irreducible] def id : String := deterministicSessionId lib.toEngine d.uuid d.payload

/-- `_persist` の org。`none` は multi-tenant での拒否である。 -/
def org : Option (Option String) := AnalysisWorker.resolveOrg cfg d.env d.payload

/-- 例外を起こさずに終わる配達。 -/
def succeeds : Bool := d.analysed.isSome && (d.org cfg).isSome && d.raises.isNone

end Delivery

/-! ## 命令 -/

/-- 解析のうち、flow の読む部分。 -/
def Analysed.flowSession (a : Analysed) : FlowSession where
  fiveTuple := a.fiveTuple
  protocol := a.protocol
  tlsVersion := a.tlsVersion
  cipher := a.cipher
  fingerprints := [a.ja4, a.ja4s]

/-- deny list に当たった finding。 -/
def deniedFinding (hit : String) : RuleFinding where
  ruleId := "denied-fingerprint-match"
  severity := .high
  title := "TLS stack matches org deny list (" ++ hit ++ ")"

/-- 深刻度の最大。 -/
def topSeverityOf : List RuleFinding → Option Severity
  | [] => none
  | f :: fs => some (pyMax (fun a b => decide (a.rank < b.rank)) f.severity (fs.map (·.severity)))

section Persist

variable (lib : Hashes) (cfg : WorkConfig)

/-- flow の集計。flow の table と、足す finding。 -/
def flowStep (d : Delivery) (a : Analysed) (org : Option String) (flows : FlowTable) :
    FlowTable × List RuleFinding :=
  let (flows, regression) := updateFlow lib.sha256 org d.now a.flowSession flows
  (flows, (d.denied.map deniedFinding).toList ++ regression.toList)

/-- 書かれる finding。`flows` は集計の前の table である。 -/
def writtenFindings (d : Delivery) (a : Analysed) (org : Option String) (flows : FlowTable) :
    List RuleFinding := a.findings ++ (flowStep lib d a org flows).2

/-- session の row。 -/
def sessionRow (d : Delivery) (a : Analysed) (org : Option String) (findings : List RuleFinding) :
    LiveSession where
  jobId := AnalysisWorker.jobId cfg d.env org
  orgId := org
  protocol := a.protocol
  fiveTuple := a.fiveTuple
  tlsVersion := a.tlsVersion
  negotiatedCipher := a.cipher
  isAnomaly := d.isAnomaly
  riskScore := d.risk
  overallFindingCount := findings.length
  maxSeverity := topSeverityOf findings
  createdAt := d.now

/-- job の row の命令。無ければ作って commit し、org が無ければ補う。 -/
def persistJob (d : Delivery) (org : Option String) (db : LiveDatabase) : List (Command LiveDatabase) :=
  let job := AnalysisWorker.jobId cfg d.env org
  match db.jobs.get? job with
  | none => [.write fun db => { db with jobs := db.jobs.set job org }, .commit]
  | some none =>
    if (truthy org).isSome then [.write fun db => { db with jobs := db.jobs.set job org }] else []
  | some (some _) => []

/-- 終わりの commit までの書き込み。finding は一つずつ加える。 -/
def persistBody (d : Delivery) (a : Analysed) (org : Option String) (db : LiveDatabase) :
    List (LiveDatabase → LiveDatabase) :=
  let findings := writtenFindings lib d a org db.flows
  (fun db => { db with flows := (flowStep lib d a org db.flows).1 }) ::
  (fun db => { db with
    sessions := db.sessions.set (d.id lib) (sessionRow cfg d a org findings) }) ::
  (findings.map fun f db => { db with findings := db.findings ++ [(d.id lib, f)] }) ++
  [fun db => { db with
    certs := trackSessionCerts lib.fingerprintDer a.certs org d.now db.certs }]

/-- 配達一つ。既にある row なら何もしない。例外の後は rollback される。 -/
def deliver (db : LiveDatabase) (d : Delivery) : LiveDatabase :=
  match d.analysed, d.org cfg with
  | some a, some org =>
    match db.sessions.get? (d.id lib) with
    | some _ => db
    | none =>
      let is := persistJob cfg d org db ++ (persistBody lib cfg d a org db).map Command.write
      match d.raises with
      | none => (run (is ++ [.commit]) db).stored
      | some n => (run (is.take n) db).stored
  | _, _ => db

/-- 配達の列。 -/
def deliverAll (db : LiveDatabase) (ds : List Delivery) : LiveDatabase := ds.foldl (deliver lib cfg) db

/-! ## 一度ずつの処理 -/

/-- payload から見つかるもの。解析の finding と、deny list に当たった fingerprint と、flow の退行である。 -/
def Delivery.found (d : Delivery) (a : Analysed) (org : Option String) (flows : FlowTable) :
    List RuleFinding :=
  a.findings ++ (d.denied.map deniedFinding).toList ++
    (updateFlow lib.sha256 org d.now a.flowSession flows).2.toList

/-- payload を一度だけ処理する。 -/
def absorb (r : Records) (d : Delivery) : Records :=
  match d.analysed, d.org cfg with
  | some a, some org =>
    let findings := d.found lib a org r.flows
    { sessions := r.sessions.set (d.id lib) (sessionRow cfg d a org findings)
      findings := r.findings ++ findings.map fun f => (d.id lib, f)
      flows := (updateFlow lib.sha256 org d.now a.flowSession r.flows).1
      certs := trackSessionCerts lib.fingerprintDer a.certs org d.now r.certs }
  | _, _ => r

/-- id ごとの、最初に成功した配達。`seen` は既に row のある id である。 -/
def firsts (seen : List String) : List Delivery → List Delivery
  | [] => []
  | d :: ds =>
    if d.succeeds cfg ∧ d.id lib ∉ seen then d :: firsts (d.id lib :: seen) ds else firsts seen ds

/-! ## 配達一つの効果 -/

/-- 書かれる finding は、payload から見つかるものである。 -/
theorem writtenFindings_eq (d : Delivery) (a : Analysed) (org : Option String) (flows : FlowTable) :
    writtenFindings lib d a org flows = d.found lib a org flows := by
  unfold writtenFindings flowStep Delivery.found
  rw [List.append_assoc]

theorem foldl_addFindings (id : String) : ∀ (fs : List RuleFinding) (db : LiveDatabase),
    (fs.map fun f (db : LiveDatabase) => { db with findings := db.findings ++ [(id, f)] }).foldl
      (fun s f => f s) db = { db with findings := db.findings ++ fs.map fun f => (id, f) } := by
  intro fs
  induction fs with
  | nil => intro db; simp
  | cons f fs ih =>
    intro db
    rw [List.map_cons, List.foldl_cons, ih]
    simp

/-- job の命令は、他の table に触れない。 -/
theorem records_persistJob (d : Delivery) (org : Option String) (db : LiveDatabase) (n : Nat) :
    (run ((persistJob cfg d org db).take n) db).stored.toRecords = db.toRecords ∧
      (run (persistJob cfg d org db) db).working.toRecords = db.toRecords := by
  unfold persistJob
  dsimp only
  split
  · rcases n with _ | _ | n
    · exact ⟨rfl, rfl⟩
    · exact ⟨rfl, rfl⟩
    · rw [List.take_succ_cons, List.take_succ_cons, List.take_nil]
      exact ⟨rfl, rfl⟩
  · split
    · rcases n with _ | n
      · exact ⟨rfl, rfl⟩
      · rw [List.take_succ_cons, List.take_nil]
        exact ⟨rfl, rfl⟩
    · exact ⟨by rw [List.take_nil]; rfl, rfl⟩
  · exact ⟨by rw [List.take_nil]; rfl, rfl⟩

/-- 終わりの commit までの書き込みは、payload を一度処理したものになる。 -/
theorem records_persistBody {d : Delivery} {a : Analysed} {org : Option String}
    (ha : d.analysed = some a) (horg : d.org cfg = some org) {db db' : LiveDatabase}
    (h : db'.toRecords = db.toRecords) :
    ((persistBody lib cfg d a org db).foldl (fun s f => f s) db').toRecords =
      absorb lib cfg db.toRecords d := by
  unfold persistBody absorb
  dsimp only
  rw [writtenFindings_eq, ha, horg, List.cons_append, List.cons_append, List.foldl_cons, List.foldl_cons,
    List.foldl_append, foldl_addFindings]
  simp [← h, flowStep]

theorem deliver_of_not_succeeds {d : Delivery} (h : d.succeeds cfg = false) (db : LiveDatabase) :
    (deliver lib cfg db d).toRecords = db.toRecords := by
  unfold deliver
  cases ha : d.analysed with
  | none => rfl
  | some a =>
    cases horg : d.org cfg with
    | none => rfl
    | some org =>
      cases hrow : db.sessions.get? (d.id lib) with
      | some row => rfl
      | none =>
        cases hraises : d.raises with
        | none => simp [Delivery.succeeds, ha, horg, hraises] at h
        | some n =>
          -- 途中で止まった transaction に残るのは job の row だけである
          dsimp only
          rw [stored_take]
          exact (records_persistJob cfg d org db n).1

theorem deliver_of_row {d : Delivery} {db : LiveDatabase}
    (h : (db.sessions.get? (d.id lib)).isSome = true) : deliver lib cfg db d = db := by
  obtain ⟨row, hrow⟩ := Option.isSome_iff_exists.mp h
  unfold deliver
  rw [hrow]
  cases d.analysed <;> cases d.org cfg <;> rfl

theorem deliver_of_succeeds {d : Delivery} (h : d.succeeds cfg = true) {db : LiveDatabase}
    (hrow : db.sessions.get? (d.id lib) = none) :
    (deliver lib cfg db d).toRecords = absorb lib cfg db.toRecords d := by
  unfold Delivery.succeeds at h
  simp only [Bool.and_eq_true, Option.isSome_iff_exists, Option.isNone_iff_eq_none] at h
  obtain ⟨⟨⟨a, ha⟩, org, horg⟩, hraises⟩ := h
  unfold deliver
  rw [ha, horg, hrow, hraises]
  dsimp only
  rw [stored_commit]
  exact records_persistBody lib cfg ha horg (records_persistJob cfg d org db 0).2

/-- 処理した session の row だけが増える。 -/
theorem sessions_absorb {d : Delivery} (h : d.succeeds cfg = true) (r : Records) (id : String) :
    ((absorb lib cfg r d).sessions.get? id).isSome = true ↔
      id = d.id lib ∨ (r.sessions.get? id).isSome = true := by
  unfold Delivery.succeeds at h
  simp only [Bool.and_eq_true, Option.isSome_iff_exists, Option.isNone_iff_eq_none] at h
  obtain ⟨⟨⟨a, ha⟩, org, horg⟩, -⟩ := h
  unfold absorb
  rw [ha, horg]
  dsimp only
  rw [Dict.get?_set]
  split
  · next heq => simp [heq]
  · next hne => simp [Ne.symm hne]

/-- 処理した session の row が増える。 -/
theorem sessions_foldl {id : String} : ∀ {l : List Delivery} {r : Records},
    (∀ d ∈ l, d.succeeds cfg = true) →
      (((l.foldl (absorb lib cfg) r).sessions.get? id).isSome = true ↔
        (∃ d ∈ l, d.id lib = id) ∨ (r.sessions.get? id).isSome = true) := by
  intro l
  induction l with
  | nil => intro r _; simp
  | cons d l ih =>
    intro r hok
    obtain ⟨hd, hl⟩ := List.forall_mem_cons.mp hok
    rw [List.foldl_cons, ih hl, sessions_absorb lib cfg hd]
    simp only [List.mem_cons, exists_eq_or_imp, eq_comm (a := id)]
    rw [or_assoc]
    exact or_left_comm

/-! ## 配達の列 -/

/-- **row のある id を `seen` とすれば、配達の列は `firsts seen` を一度ずつ処理する。** -/
theorem records_deliverAll : ∀ (ds : List Delivery) (db : LiveDatabase) (seen : List String),
    (∀ id, (db.sessions.get? id).isSome = true ↔ id ∈ seen) →
      (deliverAll lib cfg db ds).toRecords =
        (firsts lib cfg seen ds).foldl (absorb lib cfg) db.toRecords := by
  intro ds
  induction ds with
  | nil => exact fun db seen _ => rfl
  | cons d ds ih =>
    intro db seen hseen
    show (deliverAll lib cfg (deliver lib cfg db d) ds).toRecords = _
    rw [firsts]
    by_cases hok : d.succeeds cfg = true
    · by_cases hmem : d.id lib ∈ seen
      · rw [if_neg fun h => h.2 hmem, deliver_of_row lib cfg ((hseen _).mpr hmem)]
        exact ih db seen hseen
      · have hrow : db.sessions.get? (d.id lib) = none := by
          by_contra hne
          exact hmem ((hseen _).mp (Option.isSome_iff_ne_none.mpr hne))
        have hdeliver := deliver_of_succeeds lib cfg hok hrow
        rw [if_pos ⟨hok, hmem⟩, List.foldl_cons, ← hdeliver]
        refine ih _ (d.id lib :: seen) fun id => ?_
        rw [hdeliver, sessions_absorb lib cfg hok, List.mem_cons, hseen]
    · have hkeep := deliver_of_not_succeeds lib cfg (Bool.not_eq_true _ ▸ hok) db
      rw [if_neg fun h => hok h.1, ← hkeep]
      refine ih _ seen fun id => ?_
      rw [hkeep]
      exact hseen id

theorem mem_firsts {d : Delivery} : ∀ {ds : List Delivery} {seen : List String},
    d ∈ firsts lib cfg seen ds → d ∈ ds ∧ d.succeeds cfg = true ∧ d.id lib ∉ seen := by
  intro ds
  induction ds with
  | nil => exact fun h => absurd h List.not_mem_nil
  | cons x ds ih =>
    intro seen h
    rw [firsts] at h
    split at h
    · next hx =>
      rcases List.mem_cons.mp h with rfl | h
      · exact ⟨List.mem_cons_self, hx⟩
      · obtain ⟨hmem, hok, hid⟩ := ih h
        exact ⟨List.mem_cons_of_mem _ hmem, hok, fun hs => hid (List.mem_cons_of_mem _ hs)⟩
    · obtain ⟨hmem, hok, hid⟩ := ih h
      exact ⟨List.mem_cons_of_mem _ hmem, hok, hid⟩

/-- 選ばれた配達の id は重ならない。 -/
theorem nodup_firsts : ∀ (ds : List Delivery) (seen : List String),
    ((firsts lib cfg seen ds).map (Delivery.id lib)).Nodup := by
  intro ds
  induction ds with
  | nil => exact fun _ => List.nodup_nil
  | cons d ds ih =>
    intro seen
    rw [firsts]
    split
    · refine List.nodup_cons.mpr ⟨fun h => ?_, ih _⟩
      obtain ⟨x, hx, heq⟩ := List.mem_map.mp h
      have hnot := (mem_firsts lib cfg hx).2.2
      rw [heq] at hnot
      exact hnot List.mem_cons_self
    · exact ih seen

/-- 成功した配達の id は、どれも一度は選ばれる。 -/
theorem exists_firsts {d : Delivery} (hok : d.succeeds cfg = true) : ∀ {ds : List Delivery}
    {seen : List String}, d ∈ ds → d.id lib ∉ seen →
      ∃ x ∈ firsts lib cfg seen ds, x.id lib = d.id lib := by
  intro ds
  induction ds with
  | nil => exact fun h => absurd h List.not_mem_nil
  | cons x ds ih =>
    intro seen hmem hid
    rw [firsts]
    by_cases hx : x.succeeds cfg = true ∧ x.id lib ∉ seen
    · rw [if_pos hx]
      by_cases heq : x.id lib = d.id lib
      · exact ⟨x, List.mem_cons_self, heq⟩
      · rcases List.mem_cons.mp hmem with hd | hmem
        · exact absurd (hd ▸ rfl) heq
        · have hseen : d.id lib ∉ x.id lib :: seen := by
            intro h
            exact (List.mem_cons.mp h).elim (fun h => heq h.symm) hid
          obtain ⟨y, hy, hyid⟩ := ih hmem hseen
          exact ⟨y, List.mem_cons_of_mem _ hy, hyid⟩
    · rw [if_neg hx]
      rcases List.mem_cons.mp hmem with hd | hmem
      · exact absurd (hd ▸ ⟨hok, hid⟩) hx
      · exact ih hmem hid

/-! ## 数え -/

/-- 配達の数えられる flow。 -/
def Delivery.flow (d : Delivery) : Option String :=
  match d.analysed, d.org cfg with
  | some a, some org => some (a.flowSession.flow lib.sha256 org)
  | _, _ => none

/-- 配達の session に現れる、その証明書の数。 -/
def Delivery.sightings (d : Delivery) (fp : String) : Nat :=
  match d.analysed, d.org cfg with
  | some a, some _ => a.certs.countP fun c => c.tracked && decide (lib.fingerprintDer c.der = fp)
  | _, _ => 0

/-- 配達の書く finding の row。 -/
def Delivery.rows (d : Delivery) (flows : FlowTable) : List (String × RuleFinding) :=
  match d.analysed, d.org cfg with
  | some a, some org => (d.found lib a org flows).map fun f => (d.id lib, f)
  | _, _ => []

theorem totalOf_absorb (r : Records) (d : Delivery) (fid : String) :
    totalOf (absorb lib cfg r d).flows fid =
      totalOf r.flows fid + if d.flow lib cfg = some fid then 1 else 0 := by
  unfold absorb Delivery.flow
  cases d.analysed with
  | none => rfl
  | some a =>
    cases d.org cfg with
    | none => rfl
    | some org =>
      dsimp only
      rw [totalOf_updateFlow]
      simp

theorem seenCountOf_absorb (r : Records) (d : Delivery) (fp : String) :
    seenCountOf (absorb lib cfg r d).certs fp =
      seenCountOf r.certs fp + d.sightings lib cfg fp := by
  unfold absorb Delivery.sightings
  cases d.analysed with
  | none => rfl
  | some a =>
    cases d.org cfg with
    | none => rfl
    | some org => exact seenCountOf_trackSessionCerts _ _ _ _ _ _

theorem findings_absorb (r : Records) (d : Delivery) :
    (absorb lib cfg r d).findings = r.findings ++ d.rows lib cfg r.flows := by
  unfold absorb Delivery.rows
  cases d.analysed <;> cases d.org cfg <;> simp

theorem totalOf_foldl (fid : String) : ∀ (l : List Delivery) (r : Records),
    totalOf (l.foldl (absorb lib cfg) r).flows fid =
      totalOf r.flows fid + l.countP fun d => decide (d.flow lib cfg = some fid) := by
  intro l
  induction l with
  | nil => exact fun r => rfl
  | cons d l ih =>
    intro r
    rw [List.foldl_cons, ih, totalOf_absorb, List.countP_cons]
    simp only [decide_eq_true_eq]
    omega

theorem seenCountOf_foldl (fp : String) : ∀ (l : List Delivery) (r : Records),
    seenCountOf (l.foldl (absorb lib cfg) r).certs fp =
      seenCountOf r.certs fp + (l.map fun d => d.sightings lib cfg fp).sum := by
  intro l
  induction l with
  | nil => exact fun r => rfl
  | cons d l ih =>
    intro r
    rw [List.foldl_cons, ih, seenCountOf_absorb, List.map_cons, List.sum_cons, Nat.add_assoc]

/-- 配達の row は、その id のものだけである。 -/
theorem filter_rows (d : Delivery) (flows : FlowTable) (id : String) :
    (d.rows lib cfg flows).filter (fun r => decide (r.1 = id)) =
      if d.id lib = id then d.rows lib cfg flows else [] := by
  have hall : ∀ r ∈ d.rows lib cfg flows, r.1 = d.id lib := by
    intro r hr
    unfold Delivery.rows at hr
    cases ha : d.analysed with
    | none => simp [ha] at hr
    | some a =>
      cases horg : d.org cfg with
      | none => simp [horg, ha] at hr
      | some org =>
        rw [ha, horg] at hr
        obtain ⟨f, -, rfl⟩ := List.mem_map.mp hr
        rfl
  split
  · next heq => exact List.filter_eq_self.mpr fun r hr => decide_eq_true ((hall r hr).trans heq)
  · next hne =>
    refine List.filter_eq_nil_iff.mpr fun r hr h => hne ?_
    exact (hall r hr).symm.trans (of_decide_eq_true h)

/-- 他の id の配達は、その id の finding を変えない。 -/
theorem filter_foldl {id : String} : ∀ (l : List Delivery) (r : Records),
    id ∉ l.map (Delivery.id lib) →
      (l.foldl (absorb lib cfg) r).findings.filter (fun r => decide (r.1 = id)) =
        r.findings.filter fun r => decide (r.1 = id) := by
  intro l
  induction l with
  | nil => exact fun r _ => rfl
  | cons d l ih =>
    intro r hid
    obtain ⟨hd, hl⟩ := not_or.mp fun h => hid (List.mem_cons.mpr h)
    rw [List.foldl_cons, ih _ hl, findings_absorb, List.filter_append, filter_rows,
      if_neg fun h => hd h.symm, List.append_nil]

/-! ## 一度ずつ -/

/-- 一度ずつ処理される配達。`db₀` に row のある session は、処理済みである。 -/
def processed (db₀ : LiveDatabase) (ds : List Delivery) : List Delivery :=
  firsts lib cfg (db₀.sessions.entries.map Prod.fst) ds

/-- 配達の列の前後の database。 -/
structure ExactlyOnce (db₀ : LiveDatabase) (ds : List Delivery) (db : LiveDatabase) : Prop where
  /-- どの table も、選ばれた配達を一度ずつ処理したものである。 -/
  records : db.toRecords = (processed lib cfg db₀ ds).foldl (absorb lib cfg) db₀.toRecords
  distinct : ((processed lib cfg db₀ ds).map (Delivery.id lib)).Nodup
  /-- session の row は、成功した配達の id ごとに一つある。 -/
  sessions : ∀ id, (db.sessions.get? id).isSome = true ↔
    (db₀.sessions.get? id).isSome = true ∨ ∃ d ∈ ds, d.succeeds cfg = true ∧ d.id lib = id
  /-- finding の row は、選ばれた配達が書いたもの一組である。 -/
  findings : ∀ pre d post, processed lib cfg db₀ ds = pre ++ d :: post →
    db.findings.filter (fun r => decide (r.1 = d.id lib)) =
      db₀.findings.filter (fun r => decide (r.1 = d.id lib)) ++
        d.rows lib cfg (pre.foldl (absorb lib cfg) db₀.toRecords).flows
  flows : ∀ fid, totalOf db.flows fid = totalOf db₀.flows fid +
    (processed lib cfg db₀ ds).countP fun d => decide (d.flow lib cfg = some fid)
  seen : ∀ fp, seenCountOf db.certs fp = seenCountOf db₀.certs fp +
    ((processed lib cfg db₀ ds).map fun d => d.sightings lib cfg fp).sum
  /-- key の空でない payload は、高々一度だけ処理される。 -/
  payloads : (((processed lib cfg db₀ ds).filter fun d => !keyBlank d.payload).map
    Delivery.payload).Nodup

/-- key の空でない payload の id は、配達によらない。 -/
theorem id_eq_of_payload_eq {d d' : Delivery} (h : d.payload = d'.payload)
    (hkey : keyBlank d.payload = false) : d.id lib = d'.id lib := by
  unfold Delivery.id
  rw [deterministicSessionId_eq, deterministicSessionId_eq, ← h, hkey]
  rfl

/--
**再配達のもとでの一度ずつの処理。** どの payload が何度配達され、終わりの commit より前のどこで例外が
起きても、database は、id ごとに最初に成功した配達を一度ずつ処理したものになる。
-/
theorem deliveries_exactly_once (db₀ : LiveDatabase) (ds : List Delivery) :
    ExactlyOnce lib cfg db₀ ds (deliverAll lib cfg db₀ ds) := by
  have hseen : ∀ id, (db₀.sessions.get? id).isSome = true ↔
      id ∈ db₀.sessions.entries.map Prod.fst := by
    intro id
    rw [Option.isSome_iff_ne_none, ne_eq, Dict.get?_eq_none_iff, not_not]
  have hrecords : (deliverAll lib cfg db₀ ds).toRecords =
      (processed lib cfg db₀ ds).foldl (absorb lib cfg) db₀.toRecords :=
    records_deliverAll lib cfg ds db₀ _ hseen
  have hdistinct : ((processed lib cfg db₀ ds).map (Delivery.id lib)).Nodup :=
    nodup_firsts lib cfg ds _
  refine ⟨hrecords, hdistinct, fun id => ?_, fun pre d post hsplit => ?_, fun fid => ?_,
    fun fp => ?_, ?_⟩
  · have hall : ∀ d ∈ processed lib cfg db₀ ds, d.succeeds cfg = true :=
      fun d hd => (mem_firsts lib cfg hd).2.1
    rw [hrecords, sessions_foldl lib cfg hall]
    constructor
    · rintro (⟨d, hd, hid⟩ | h)
      · obtain ⟨hmem, hok, -⟩ := mem_firsts lib cfg hd
        exact .inr ⟨d, hmem, hok, hid⟩
      · exact .inl h
    · rintro (h | ⟨d, hd, hok, hid⟩)
      · exact .inr h
      · by_cases hold : (db₀.sessions.get? id).isSome = true
        · exact .inr hold
        · have hnew : d.id lib ∉ db₀.sessions.entries.map Prod.fst := by
            rw [hid]
            exact fun h => hold ((hseen id).mpr h)
          obtain ⟨x, hx, hxid⟩ := exists_firsts lib cfg hok hd hnew
          exact .inl ⟨x, hx, hxid.trans hid⟩
  · rw [hsplit, List.map_append, List.map_cons] at hdistinct
    obtain ⟨-, hpost, hpre⟩ := List.nodup_append.mp hdistinct
    have hnpre : d.id lib ∉ pre.map (Delivery.id lib) := fun h =>
      hpre _ h _ List.mem_cons_self rfl
    rw [hrecords, hsplit, List.foldl_append, List.foldl_cons,
      filter_foldl lib cfg post _ (List.nodup_cons.mp hpost).1, findings_absorb,
      List.filter_append, filter_foldl lib cfg pre _ hnpre, filter_rows, if_pos rfl]
  · rw [hrecords, totalOf_foldl]
  · rw [hrecords, seenCountOf_foldl]
  · have hpairs := (List.pairwise_map.mp hdistinct).filter fun d => !keyBlank d.payload
    refine List.pairwise_map.mpr (hpairs.imp_of_mem ?_)
    intro d d' hd _ hne heq
    have hkey : keyBlank d.payload = false := by simpa using (List.mem_filter.mp hd).2
    exact hne (id_eq_of_payload_eq lib heq hkey)

end Persist

/-- hash を使わない library。 -/
def plainHashes : Hashes where
  analyze := fun _ => none
  sha256 := id
  fingerprintDer := fun _ => ""

/-- `ts` に始まる session の配達。 -/
def mailDelivery (ts : String) (a : Analysed) : Delivery where
  payload := { smtpSession with startTs := .value ts }
  now := 0
  analysed := some a

/-- RC4 の session の解析。 -/
def rc4Analysed : Analysed where
  fiveTuple := "10.0.0.1:40000->10.0.0.2:25"
  protocol := "SMTP"
  tlsVersion := some "TLS1.0"
  findings := [⟨"rc4-cipher", .high, "RC4"⟩]

/--
三つの session がどれも何度か配達される。最初のものは、一度目は job の row の commit の後で例外になり、
fingerprint が deny list に当たる。その後で、同じ flow に平文の session が来る。
-/
def redeliveries : List Delivery :=
  [{ mailDelivery "1.0" rc4Analysed with denied := some "ja4", raises := some 2 },
   { mailDelivery "1.0" rc4Analysed with denied := some "ja4" }] ++
  ["1.0", "2.0", "3.0", "2.0", "3.0"].map (mailDelivery · rc4Analysed) ++
  [mailDelivery "4.0" { rc4Analysed with tlsVersion := none, findings := [] }]

/-- 何度配達されても、finding は一組ずつである。 -/
theorem deliveries_exactly_once_redelivered :
    ExactlyOnce plainHashes {} {} redeliveries (deliverAll plainHashes {} {} redeliveries) ∧
      (processed plainHashes {} {} redeliveries).length = 4 ∧
      (deliverAll plainHashes {} {} redeliveries).findings.map (fun r => r.2.ruleId) =
        ["rc4-cipher", "denied-fingerprint-match", "rc4-cipher", "rc4-cipher",
          "transport-regression"] :=
  ⟨deliveries_exactly_once plainHashes {} {} redeliveries, by decide +kernel⟩

end CipherPost.Live
