import Mathlib.Logic.Function.Iterate
import Mathlib.Data.List.Nodup

/-!
# 古い row の削除

`app/live/retention.py` の `DBRetention`。table ごとに、古い row を batch で消しては commit する。
session の削除は ORM の cascade で finding と SHAP の row も消す。

* `Database` — 削除に関わる table。id は primary key である
* `purgeBatch` — `_purge_batch` 一回
* `DBRetention.step` — `purge_all` の loop の本体一回
* `purgeAll` — `purge_all`。例外で止まれば、そこまでの commit が残る
* `kept_iff` — hold の付いた row が残るための条件

table の list の順は DB が row を返す順であり、任意である。
-/

namespace CipherPost.Live

/-! ## table -/

/-- `AnalysisJob` のうち、hold に関わる列。 -/
structure JobRow where
  id : String
  legalHold : Option Bool := some false
  deriving DecidableEq

/-- `Session` のうち、削除に関わる列。 -/
structure SessionRow where
  id : String
  jobId : String
  createdAt : Option Int
  deriving DecidableEq

/-- `Finding` のうち、削除に関わる列。 -/
structure FindingRow where
  id : Nat
  sessionId : String
  createdAt : Option Int
  legalHold : Option Bool := some false
  deriving DecidableEq

/-- `ShaPRow` のうち、削除に関わる列。 -/
structure ShapRow where
  id : Nat
  sessionId : String
  deriving DecidableEq

/-- `Alert` と `AuditLog` のうち、削除に関わる列。 -/
structure LogRow where
  id : String
  ts : Option Int
  deriving DecidableEq

/-- hold が付いている。 -/
def FindingRow.held (f : FindingRow) : Bool := f.legalHold == some true

/-- DB の状態。 -/
structure Database where
  jobs : List JobRow := []
  sessions : List SessionRow := []
  findings : List FindingRow := []
  shaps : List ShapRow := []
  alerts : List LogRow := []
  auditLog : List LogRow := []
  sessions_nodup : (sessions.map SessionRow.id).Nodup := by decide
  findings_nodup : (findings.map FindingRow.id).Nodup := by decide

namespace Database

/-- `job_id` の job に hold が付いている。 -/
def jobHeld (db : Database) (jobId : String) : Bool :=
  db.jobs.any fun j => j.id == jobId && j.legalHold == some true

/-- `db.delete` を session の row に行う。finding と SHAP の row も消える。 -/
def deleteSessions (db : Database) (rows : List SessionRow) : Database :=
  { db with
    sessions := db.sessions.filter fun s => decide (s.id ∉ rows.map SessionRow.id)
    findings := db.findings.filter fun f => decide (f.sessionId ∉ rows.map SessionRow.id)
    shaps := db.shaps.filter fun r => decide (r.sessionId ∉ rows.map SessionRow.id)
    sessions_nodup := db.sessions_nodup.sublist (List.filter_sublist.map _)
    findings_nodup := db.findings_nodup.sublist (List.filter_sublist.map _) }

/-- `db.delete` を finding の row に行う。 -/
def deleteFindings (db : Database) (rows : List FindingRow) : Database :=
  { db with
    findings := db.findings.filter fun f => decide (f.id ∉ rows.map FindingRow.id)
    findings_nodup := db.findings_nodup.sublist (List.filter_sublist.map _) }

/-- 消す対象になりうる row の数。 -/
def size (db : Database) : Nat :=
  db.sessions.length + db.findings.length + db.alerts.length + db.auditLog.length

end Database

/-- `log` から `rows` の row を消す。 -/
def deleteLogs (log rows : List LogRow) : List LogRow :=
  log.filter fun r => decide (r.id ∉ rows.map LogRow.id)

/-! ## 削除 -/

/-- `plans` の `table`。 -/
inductive Table where
  | sessions | findings | alerts | auditLog
  deriving DecidableEq

/-- 設定値。 -/
structure RetentionConfig where
  sessionsDays : Int := 90
  findingsDays : Int := 90
  alertsDays : Int := 180
  auditDays : Int := 365
  batchSize : Nat := 1000

/-- `plans`。 -/
def RetentionConfig.plans (cfg : RetentionConfig) : List (Table × Int) :=
  [(.sessions, cfg.sessionsDays), (.findings, cfg.findingsDays), (.alerts, cfg.alertsDays),
    (.auditLog, cfg.auditDays)]

/-- `ts_col.is_not(None), ts_col < cutoff`。 -/
def expired (cutoff : Int) (ts : Option Int) : Bool := ts.any fun t => decide (t < cutoff)

/-- `now - timedelta(days=days)`。 -/
def cutoffOf (now days : Int) : Int := now - days * 86400

/-- sessions の pass が消す row。 -/
def Database.dueSession (db : Database) (cutoff : Int) (s : SessionRow) : Bool :=
  expired cutoff s.createdAt && !db.jobHeld s.jobId

/-- findings の pass が消す row。 -/
def dueFinding (cutoff : Int) (f : FindingRow) : Bool := expired cutoff f.createdAt && !f.held

/-- `_purge_batch`。消した row の数も返す。 -/
def purgeBatch (db : Database) (batchSize : Nat) (cutoff : Int) : Table → Database × Nat
  | .sessions =>
    let rows := (db.sessions.filter (db.dueSession cutoff)).take batchSize
    (db.deleteSessions rows, rows.length)
  | .findings =>
    let rows := (db.findings.filter (dueFinding cutoff)).take batchSize
    (db.deleteFindings rows, rows.length)
  | .alerts =>
    let rows := (db.alerts.filter fun r => expired cutoff r.ts).take batchSize
    ({ db with alerts := deleteLogs db.alerts rows }, rows.length)
  | .auditLog =>
    let rows := (db.auditLog.filter fun r => expired cutoff r.ts).take batchSize
    ({ db with auditLog := deleteLogs db.auditLog rows }, rows.length)

/-- `purge_all` の途中の状態。 -/
structure DBRetention where
  db : Database
  /-- まだ済んでいない `plans`。 -/
  rest : List (Table × Int)
  /-- `n_total`。 -/
  nTotal : Nat := 0
  totals : List (Table × Nat) := []

namespace DBRetention

/-- loop の本体一回。batch が空なら次の table へ移る。 -/
def step (cfg : RetentionConfig) (now : Int) (r : DBRetention) : DBRetention :=
  match r.rest with
  | [] => r
  | (t, days) :: rest =>
    if days ≤ 0 then { r with rest := rest, nTotal := 0, totals := r.totals ++ [(t, 0)] }
    else
      let (db, n) := purgeBatch r.db cfg.batchSize (cutoffOf now days) t
      if n = 0 then { r with rest := rest, nTotal := 0, totals := r.totals ++ [(t, r.nTotal)] }
      else { r with db := db, nTotal := r.nTotal + n }

/-- 始めの状態。 -/
def start (cfg : RetentionConfig) (db : Database) : DBRetention := { db := db, rest := cfg.plans }

end DBRetention

/-- `purge_all`。`stop` は、例外までに済んだ本体の回数である。 -/
def purgeAll (cfg : RetentionConfig) (now : Int) (stop : Option Nat) (db : Database) :
    DBRetention :=
  (DBRetention.step cfg now)^[stop.getD (db.size + cfg.plans.length)] (DBRetention.start cfg db)

/-! ## 終わること -/

/-- 一部の要素を除くと、少なくともその分だけ短くなる。 -/
theorem length_filter_add_le {α κ : Type} [DecidableEq κ] (key : α → κ) {rows l : List α}
    (h : rows.Sublist l) :
    (l.filter fun a => decide (key a ∉ rows.map key)).length + rows.length ≤ l.length := by
  have hsplit := List.length_eq_countP_add_countP (fun a => decide (key a ∈ rows.map key)) (l := l)
  have hrows : rows.countP (fun a => decide (key a ∈ rows.map key)) = rows.length :=
    List.countP_eq_length.mpr fun a ha => decide_eq_true (List.mem_map_of_mem ha)
  have hle := h.countP_le (p := fun a => decide (key a ∈ rows.map key))
  simp only [decide_eq_true_eq] at hsplit
  rw [← List.countP_eq_length_filter]
  omega

/-- batch は、数えた分だけ row を減らす。 -/
theorem size_purgeBatch (db : Database) (batchSize : Nat) (cutoff : Int) (t : Table) :
    (purgeBatch db batchSize cutoff t).1.size + (purgeBatch db batchSize cutoff t).2 ≤ db.size := by
  have hsub : ∀ {α : Type} (p : α → Bool) (l : List α), ((l.filter p).take batchSize).Sublist l :=
    fun p l => (List.take_sublist _ _).trans List.filter_sublist
  cases t with
  | sessions =>
    have h := length_filter_add_le SessionRow.id (hsub (db.dueSession cutoff) db.sessions)
    have hf := List.length_filter_le (fun f : FindingRow => decide (f.sessionId ∉
      ((db.sessions.filter (db.dueSession cutoff)).take batchSize).map SessionRow.id)) db.findings
    simp only [purgeBatch, Database.size, Database.deleteSessions]
    omega
  | findings =>
    have h := length_filter_add_le FindingRow.id (hsub (dueFinding cutoff) db.findings)
    simp only [purgeBatch, Database.size, Database.deleteFindings]
    omega
  | alerts =>
    have h := length_filter_add_le LogRow.id (hsub (fun r => expired cutoff r.ts) db.alerts)
    simp only [purgeBatch, Database.size, deleteLogs]
    omega
  | auditLog =>
    have h := length_filter_add_le LogRow.id (hsub (fun r => expired cutoff r.ts) db.auditLog)
    simp only [purgeBatch, Database.size, deleteLogs]
    omega

namespace DBRetention

variable {cfg : RetentionConfig} {now : Int}

/-- 残りの本体の回数の上界。 -/
def fuel (r : DBRetention) : Nat := r.db.size + r.rest.length

/-- 本体一回の三つの場合。 -/
theorem step_cases (cfg : RetentionConfig) (now : Int) (r : DBRetention) :
    r.rest = [] ∧ r.step cfg now = r ∨
    ∃ t days rest, r.rest = (t, days) :: rest ∧
      ((days ≤ 0 ∨ (purgeBatch r.db cfg.batchSize (cutoffOf now days) t).2 = 0) ∧
          (r.step cfg now).db = r.db ∧ (r.step cfg now).rest = rest ∨
        (0 < days ∧ (purgeBatch r.db cfg.batchSize (cutoffOf now days) t).2 ≠ 0) ∧
          (r.step cfg now).db = (purgeBatch r.db cfg.batchSize (cutoffOf now days) t).1 ∧
          (r.step cfg now).rest = r.rest) := by
  unfold step
  split
  · next h => exact Or.inl ⟨h, rfl⟩
  · next t days rest h =>
    refine Or.inr ⟨t, days, rest, h, ?_⟩
    split
    · next hd => exact Or.inl ⟨Or.inl hd, rfl, rfl⟩
    · next hd =>
      simp only
      split
      · next hn => exact Or.inl ⟨Or.inr hn, rfl, rfl⟩
      · next hn => exact Or.inr ⟨⟨by omega, hn⟩, rfl, rfl⟩

theorem fuel_step (cfg : RetentionConfig) (now : Int) (r : DBRetention) (h : r.rest ≠ []) :
    (r.step cfg now).fuel < r.fuel := by
  rcases step_cases cfg now r with ⟨hnil, -⟩ | ⟨t, days, rest, hrest, h⟩
  · exact absurd hnil h
  · rcases h with ⟨-, hdb, hr⟩ | ⟨⟨-, hn⟩, hdb, hr⟩
    · rw [fuel, fuel, hdb, hr, hrest, List.length_cons]
      omega
    · have hsize := size_purgeBatch r.db cfg.batchSize (cutoffOf now days) t
      rw [fuel, fuel, hdb, hr]
      omega

/-- 上界だけ本体を繰り返せば、どの table も済む。 -/
theorem rest_iterate : ∀ (n : Nat) (r : DBRetention), r.fuel ≤ n →
    ((step cfg now)^[n] r).rest = []
  | 0, r, h => by
    have hlen : r.rest.length = 0 := by
      rw [fuel] at h
      omega
    exact List.length_eq_zero_iff.mp hlen
  | n + 1, r, h => by
    rcases step_cases cfg now r with ⟨hnil, hfix⟩ | ⟨t, days, rest, hrest, -⟩
    · rw [Function.iterate_fixed hfix]
      exact hnil
    · have hlt := fuel_step cfg now r (by rw [hrest]; exact List.cons_ne_nil _ _)
      rw [Function.iterate_succ_apply]
      exact rest_iterate n _ (by omega)

/-- 例外が無ければ、`purge_all` はどの table も済ませる。 -/
theorem rest_purgeAll (db : Database) : (purgeAll cfg now none db).rest = [] :=
  rest_iterate _ _ (Nat.le_refl _)

/-! ## hold の付いた row -/

variable {db₀ : Database}

/-- hold の付いた finding と、hold の付いた job の session が残っている。 -/
def Kept (db₀ db : Database) : Prop :=
  (∀ f ∈ db₀.findings, f.held = true → f ∈ db.findings) ∧
    ∀ s ∈ db₀.sessions, db₀.jobHeld s.jobId = true → s ∈ db.sessions

/-- sessions の pass が消すのは、hold の付いた finding の無い session だけである。 -/
def NoHeldFindingDue (cfg : RetentionConfig) (now : Int) (db : Database) : Prop :=
  0 < cfg.sessionsDays → 0 < cfg.batchSize → ∀ f ∈ db.findings, f.held = true →
    ∀ s ∈ db.sessions, s.id = f.sessionId → db.dueSession (cutoffOf now cfg.sessionsDays) s = false

/-- 途中の状態が、始めの DB の一部であること。 -/
structure Part (cfg : RetentionConfig) (db₀ : Database) (r : DBRetention) : Prop where
  jobs : r.db.jobs = db₀.jobs
  sessions : ∀ s ∈ r.db.sessions, s ∈ db₀.sessions
  findings : ∀ f ∈ r.db.findings, f ∈ db₀.findings
  rest : ∀ p ∈ r.rest, p ∈ cfg.plans

/-- batch が DB にすること。session の batch でなければ、session の row は動かない。 -/
theorem purgeBatch_cases (db : Database) (batchSize : Nat) (cutoff : Int) (t : Table) :
    (purgeBatch db batchSize cutoff t).1.jobs = db.jobs ∧
    (t = .sessions ∧ (purgeBatch db batchSize cutoff t).1
        = db.deleteSessions ((db.sessions.filter (db.dueSession cutoff)).take batchSize) ∨
      t ≠ .sessions ∧ (purgeBatch db batchSize cutoff t).1.sessions = db.sessions ∧
        ((purgeBatch db batchSize cutoff t).1.findings = db.findings ∨
          (purgeBatch db batchSize cutoff t).1.findings
            = (db.deleteFindings
                ((db.findings.filter (dueFinding cutoff)).take batchSize)).findings)) := by
  cases t with
  | sessions => exact ⟨rfl, Or.inl ⟨rfl, rfl⟩⟩
  | findings => exact ⟨rfl, Or.inr ⟨Table.noConfusion, rfl, Or.inr rfl⟩⟩
  | alerts => exact ⟨rfl, Or.inr ⟨Table.noConfusion, rfl, Or.inl rfl⟩⟩
  | auditLog => exact ⟨rfl, Or.inr ⟨Table.noConfusion, rfl, Or.inl rfl⟩⟩

theorem mem_deleteSessions {db : Database} {rows : List SessionRow} {s : SessionRow} :
    s ∈ (db.deleteSessions rows).sessions ↔ s ∈ db.sessions ∧ s.id ∉ rows.map SessionRow.id := by
  simp only [Database.deleteSessions, List.mem_filter, decide_eq_true_eq]

theorem mem_deleteSessions_findings {db : Database} {rows : List SessionRow} {f : FindingRow} :
    f ∈ (db.deleteSessions rows).findings ↔
      f ∈ db.findings ∧ f.sessionId ∉ rows.map SessionRow.id := by
  simp only [Database.deleteSessions, List.mem_filter, decide_eq_true_eq]

theorem mem_deleteFindings {db : Database} {rows : List FindingRow} {f : FindingRow} :
    f ∈ (db.deleteFindings rows).findings ↔ f ∈ db.findings ∧ f.id ∉ rows.map FindingRow.id := by
  simp only [Database.deleteFindings, List.mem_filter, decide_eq_true_eq]

/-- `purge_all` は row を加えない。 -/
theorem Part.step {r : DBRetention} (h : Part cfg db₀ r) : Part cfg db₀ (r.step cfg now) := by
  rcases step_cases cfg now r with ⟨-, hfix⟩ | ⟨t, days, rest, hrest, hcase⟩
  · rw [hfix]
    exact h
  · have htail : ∀ p ∈ rest, p ∈ cfg.plans := fun p hp =>
      h.rest p (hrest ▸ List.mem_cons_of_mem _ hp)
    rcases hcase with ⟨-, hdb, hr⟩ | ⟨-, hdb, hr⟩
    · exact ⟨hdb ▸ h.jobs, hdb ▸ h.sessions, hdb ▸ h.findings, hr ▸ htail⟩
    · obtain ⟨hjobs, hbatch⟩ := purgeBatch_cases r.db cfg.batchSize (cutoffOf now days) t
      refine ⟨by rw [hdb, hjobs, h.jobs], ?_, ?_, hr ▸ h.rest⟩
      · intro s hs
        rw [hdb] at hs
        rcases hbatch with ⟨-, heq⟩ | ⟨-, heq, -⟩
        · rw [heq, mem_deleteSessions] at hs
          exact h.sessions s hs.1
        · exact h.sessions s (heq ▸ hs)
      · intro f hf
        rw [hdb] at hf
        rcases hbatch with ⟨-, heq⟩ | ⟨-, -, heq | heq⟩
        · rw [heq, mem_deleteSessions_findings] at hf
          exact h.findings f hf.1
        · exact h.findings f (heq ▸ hf)
        · rw [heq, mem_deleteFindings] at hf
          exact h.findings f hf.1

theorem Part.dueSession {r : DBRetention} (h : Part cfg db₀ r) (cutoff : Int) (s : SessionRow) :
    r.db.dueSession cutoff s = db₀.dueSession cutoff s := by
  rw [Database.dueSession, Database.dueSession, Database.jobHeld, Database.jobHeld, h.jobs]

/-- sessions の pass の日数は設定値である。 -/
theorem days_eq {days : Int} (h : (Table.sessions, days) ∈ cfg.plans) : days = cfg.sessionsDays := by
  simpa [RetentionConfig.plans] using h

/-- session の batch に入るのは、始めの DB の消してよい row である。 -/
theorem Part.mem_batch {r : DBRetention} (h : Part cfg db₀ r) {cutoff : Int} {n : Nat}
    {s : SessionRow} (hs : s ∈ (r.db.sessions.filter (r.db.dueSession cutoff)).take n) :
    0 < n ∧ s ∈ db₀.sessions ∧ db₀.dueSession cutoff s = true := by
  obtain ⟨hmem, hdue⟩ := List.mem_filter.mp (List.mem_of_mem_take hs)
  have hlen := List.length_pos_of_mem hs
  rw [List.length_take] at hlen
  exact ⟨by omega, h.sessions s hmem, h.dueSession cutoff s ▸ hdue⟩

theorem jobHeld_of_dueSession {cutoff : Int} {s : SessionRow}
    (h : db₀.dueSession cutoff s = true) : db₀.jobHeld s.jobId = false := by
  rw [Database.dueSession, Bool.and_eq_true, Bool.not_eq_true'] at h
  exact h.2

theorem held_of_dueFinding {cutoff : Int} {f : FindingRow} (h : dueFinding cutoff f = true) :
    f.held = false := by
  rw [dueFinding, Bool.and_eq_true, Bool.not_eq_true'] at h
  exact h.2

/-- hold の付いた finding も job も無い session を消しても、hold の付いた row は残る。 -/
theorem Kept.deleteSessions {db : Database} (h : Kept db₀ db) {rows : List SessionRow}
    (hrows : ∀ s ∈ rows, s ∈ db₀.sessions ∧ db₀.jobHeld s.jobId = false)
    (hfree : ∀ f ∈ db₀.findings, f.held = true → ∀ s ∈ rows, s.id ≠ f.sessionId) :
    Kept db₀ (db.deleteSessions rows) := by
  refine ⟨fun f hf hheld => ?_, fun s hs hheld => ?_⟩
  · refine mem_deleteSessions_findings.mpr ⟨h.1 f hf hheld, fun hid => ?_⟩
    obtain ⟨s, hs, hid⟩ := List.mem_map.mp hid
    exact hfree f hf hheld s hs hid
  · refine mem_deleteSessions.mpr ⟨h.2 s hs hheld, fun hid => ?_⟩
    obtain ⟨s', hs', hid⟩ := List.mem_map.mp hid
    obtain ⟨hmem, hfree⟩ := hrows s' hs'
    rw [List.inj_on_of_nodup_map db₀.sessions_nodup hmem hs hid, hheld] at hfree
    cases hfree

theorem Kept.deleteFindings {db : Database} (h : Kept db₀ db) {rows : List FindingRow}
    (hrows : ∀ f ∈ rows, f ∈ db₀.findings ∧ f.held = false) :
    Kept db₀ (db.deleteFindings rows) := by
  refine ⟨fun f hf hheld => ?_, h.2⟩
  refine mem_deleteFindings.mpr ⟨h.1 f hf hheld, fun hid => ?_⟩
  obtain ⟨f', hf', hid⟩ := List.mem_map.mp hid
  obtain ⟨hmem, hfree⟩ := hrows f' hf'
  rw [List.inj_on_of_nodup_map db₀.findings_nodup hmem hf hid, hheld] at hfree
  cases hfree

/-- hold の付いた row は、条件の下で batch 一回の後も残る。 -/
theorem Kept.purgeBatch {r : DBRetention} (h : Kept db₀ r.db) (hpart : Part cfg db₀ r)
    (hc : NoHeldFindingDue cfg now db₀) {t : Table} {days : Int} (hplan : (t, days) ∈ cfg.plans)
    (hdays : 0 < days) : Kept db₀ (purgeBatch r.db cfg.batchSize (cutoffOf now days) t).1 := by
  cases t with
  | sessions =>
    -- 選ばれた row の finding に hold は無く、job にも hold は無い
    have hdays' : days = cfg.sessionsDays := days_eq hplan
    subst hdays'
    refine h.deleteSessions (fun s hs => ?_) fun f hf hheld s hs hid => ?_
    · obtain ⟨-, hmem, hdue⟩ := hpart.mem_batch hs
      exact ⟨hmem, jobHeld_of_dueSession hdue⟩
    · obtain ⟨hbatch, hmem, hdue⟩ := hpart.mem_batch hs
      rw [hc hdays hbatch f hf hheld s hmem hid] at hdue
      cases hdue
  | findings =>
    -- finding の batch は hold の無い row だけを選ぶ
    refine h.deleteFindings fun f hf => ?_
    obtain ⟨hmem, hdue⟩ := List.mem_filter.mp (List.mem_of_mem_take hf)
    exact ⟨hpart.findings f hmem, held_of_dueFinding hdue⟩
  | alerts => exact h
  | auditLog => exact h

/-- hold の付いた row は、条件の下で本体一回の後も残る。 -/
theorem Kept.step {r : DBRetention} (h : Kept db₀ r.db) (hpart : Part cfg db₀ r)
    (hc : NoHeldFindingDue cfg now db₀) : Kept db₀ (r.step cfg now).db := by
  rcases step_cases cfg now r with ⟨-, hfix⟩ | ⟨t, days, rest, hrest, hcase⟩
  · rw [hfix]
    exact h
  · rcases hcase with ⟨-, hdb, -⟩ | ⟨⟨hdays, -⟩, hdb, -⟩
    · rw [hdb]
      exact h
    · rw [hdb]
      exact h.purgeBatch hpart hc (hpart.rest _ (hrest ▸ List.mem_cons_self)) hdays

/-- 本体を何回繰り返しても、hold の付いた row は条件の下で残る。 -/
theorem kept_iterate (hc : NoHeldFindingDue cfg now db₀) : ∀ (n : Nat) {r : DBRetention},
    Kept db₀ r.db → Part cfg db₀ r → Kept db₀ ((step cfg now)^[n] r).db
  | 0, _, h, _ => h
  | n + 1, _, h, hpart => by
    rw [Function.iterate_succ_apply]
    exact kept_iterate hc n (h.step hpart hc) hpart.step

/-! ## hold の付いた finding を持つ session が消えるとき -/

/-- 消される session `s` とその finding `f` の行方。 -/
structure Doomed (cfg : RetentionConfig) (s : SessionRow) (f : FindingRow) (r : DBRetention) :
    Prop where
  cascade : f ∈ r.db.findings → s ∈ r.db.sessions
  waiting : s ∈ r.db.sessions → (Table.sessions, cfg.sessionsDays) ∈ r.rest

/-- sessions の pass は、消す row が残るうちは終わらない。 -/
theorem not_mem_of_skip {r : DBRetention} {s : SessionRow} (hpart : Part cfg db₀ r)
    (hdays : 0 < cfg.sessionsDays) (hbatch : 0 < cfg.batchSize)
    (hdue : db₀.dueSession (cutoffOf now cfg.sessionsDays) s = true)
    (hskip : cfg.sessionsDays ≤ 0 ∨
      (purgeBatch r.db cfg.batchSize (cutoffOf now cfg.sessionsDays) .sessions).2 = 0) :
    s ∉ r.db.sessions := by
  intro hs
  rcases hskip with hle | hnil
  · omega
  · have hlen : ((r.db.sessions.filter (r.db.dueSession (cutoffOf now cfg.sessionsDays))).take
        cfg.batchSize).length = 0 := hnil
    have hpos := List.length_pos_of_mem
      (List.mem_filter.mpr ⟨hs, (hpart.dueSession _ s).trans hdue⟩)
    rw [List.length_take] at hlen
    omega

/-- batch が消すのは、session をその finding と一緒にである。 -/
theorem Doomed.batch {s : SessionRow} {f : FindingRow} {r r' : DBRetention} (h : Doomed cfg s f r)
    (hid : s.id = f.sessionId) {cutoff : Int} {t : Table}
    (hdb : r'.db = (purgeBatch r.db cfg.batchSize cutoff t).1) (hr : r'.rest = r.rest) :
    Doomed cfg s f r' := by
  have hcases := (purgeBatch_cases r.db cfg.batchSize cutoff t).2
  rw [← hdb] at hcases
  rcases hcases with ⟨-, heq⟩ | ⟨-, hsess, hfind⟩
  · refine ⟨fun hf => ?_, fun hs => ?_⟩
    · rw [heq, mem_deleteSessions_findings] at hf
      rw [heq, mem_deleteSessions, hid]
      exact ⟨h.cascade hf.1, hf.2⟩
    · rw [heq, mem_deleteSessions] at hs
      exact hr ▸ h.waiting hs.1
  · refine ⟨fun hf => ?_, fun hs => hr ▸ h.waiting (hsess ▸ hs)⟩
    rw [hsess]
    rcases hfind with hfind | hfind
    · exact h.cascade (hfind ▸ hf)
    · rw [hfind, mem_deleteFindings] at hf
      exact h.cascade hf.1

theorem Doomed.step {s : SessionRow} {f : FindingRow} {r : DBRetention} (h : Doomed cfg s f r)
    (hpart : Part cfg db₀ r) (hdays : 0 < cfg.sessionsDays) (hbatch : 0 < cfg.batchSize)
    (hid : s.id = f.sessionId)
    (hdue : db₀.dueSession (cutoffOf now cfg.sessionsDays) s = true) :
    Doomed cfg s f (r.step cfg now) := by
  rcases step_cases cfg now r with ⟨-, hfix⟩ | ⟨t, days, rest, hrest, hcase⟩
  · rw [hfix]
    exact h
  rcases hcase with ⟨hskip, hdb, hr⟩ | ⟨-, hdb, hr⟩
  · refine ⟨hdb ▸ h.cascade, fun hs => ?_⟩
    rw [hdb] at hs
    have hmem := h.waiting hs
    rw [hrest] at hmem
    rw [hr]
    rcases List.mem_cons.mp hmem with heq | hmem
    · rw [Prod.mk.injEq] at heq
      obtain ⟨rfl, rfl⟩ := heq
      -- sessions の pass が終わったのなら、`s` は残っていない
      exact absurd hs (not_mem_of_skip hpart hdays hbatch hdue hskip)
    · exact hmem
  · exact h.batch hid hdb hr

theorem doomed_iterate {s : SessionRow} {f : FindingRow} (hdays : 0 < cfg.sessionsDays)
    (hbatch : 0 < cfg.batchSize) (hid : s.id = f.sessionId)
    (hdue : db₀.dueSession (cutoffOf now cfg.sessionsDays) s = true) : ∀ (n : Nat) {r : DBRetention},
    Doomed cfg s f r → Part cfg db₀ r → Doomed cfg s f ((step cfg now)^[n] r)
  | 0, _, h, _ => h
  | n + 1, _, h, hpart => by
    rw [Function.iterate_succ_apply]
    exact doomed_iterate hdays hbatch hid hdue n (h.step hpart hdays hbatch hid hdue) hpart.step

theorem part_start (cfg : RetentionConfig) (db : Database) : Part cfg db (start cfg db) :=
  ⟨rfl, fun _ h => h, fun _ h => h, fun _ h => h⟩

end DBRetention

open DBRetention in
/--
hold の付いた finding と hold の付いた job の session が `purge_all` の後に残るのは、
sessions の pass が消す session に hold の付いた finding が無いときで、そのときに限る。
その条件の下では、途中で例外が起きても残る。
-/
theorem kept_iff (cfg : RetentionConfig) (now : Int) (db : Database) :
    (Kept db (purgeAll cfg now none db).db ↔ NoHeldFindingDue cfg now db) ∧
    (NoHeldFindingDue cfg now db → ∀ stop, Kept db (purgeAll cfg now stop db).db) := by
  have hkeep : NoHeldFindingDue cfg now db → ∀ stop, Kept db (purgeAll cfg now stop db).db :=
    fun hc stop => kept_iterate hc _ ⟨fun _ h _ => h, fun _ h _ => h⟩ (part_start cfg db)
  refine ⟨⟨fun h hdays hbatch f hf hheld s hs hid => ?_, fun hc => hkeep hc none⟩, hkeep⟩
  by_contra hdue
  have hstart : Doomed cfg s f (start cfg db) := ⟨fun _ => hs, fun _ => List.mem_cons_self⟩
  have hend : Doomed cfg s f (purgeAll cfg now none db) :=
    doomed_iterate hdays hbatch hid (Bool.not_eq_false _ ▸ hdue) _ hstart (part_start cfg db)
  have hwait := hend.waiting (hend.cascade (h.1 f hf hheld))
  rw [rest_purgeAll] at hwait
  cases hwait

/-- job に hold が無く、finding に hold が付いた session。 -/
def heldFinding : Database :=
  { jobs := [{ id := "j" }]
    sessions := [{ id := "s", jobId := "j", createdAt := some 0 }]
    findings := [{ id := 1, sessionId := "s", createdAt := some 0, legalHold := some true }] }

/-- 期限を過ぎると、hold の付いた finding も session と一緒に消える。 -/
theorem heldFinding_purged :
    ¬DBRetention.Kept heldFinding (purgeAll {} (100 * 86400) none heldFinding).db ∧
    (purgeAll {} (100 * 86400) none heldFinding).db.findings = [] ∧
    (purgeAll {} (100 * 86400) none heldFinding).totals
      = [(.sessions, 1), (.findings, 0), (.alerts, 0), (.auditLog, 0)] :=
  ⟨fun h => absurd (h.1 _ List.mem_cons_self rfl) (by decide), by decide, by decide⟩

end CipherPost.Live
