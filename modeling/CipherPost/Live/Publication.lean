import CipherPost.Live.Analyze

/-!
# row の保存と finding の公開

worker は row を commit してから findings stream へ payload を出し、再配達では row があるだけで
処理済みと見なす。二つの作用の間で止まるか XADD が失敗すると、payload は二度と出ない。

* `Published` — row の payload が findings stream に加わったこと
* `PublishOk` — 新しい row を commit した呼び出しが、公開まで届くこと
* `published_of_acked` — その条件の下での run の性質
-/

namespace CipherPost.Live

open AnalysisWorker

/-- id が空になることはない。 -/
theorem deterministicSessionId_ne_empty (eng : Engine) (uuid : String) (p : SessionPayload) :
    deterministicSessionId eng uuid p ≠ "" := by
  have hne : ∀ s : String, "sess-" ++ s ≠ "" := by
    intro s h
    have := congrArg String.toList h
    rw [String.toList_append] at this
    exact absurd (List.append_eq_nil_iff.mp this).1 (by decide)
  unfold deterministicSessionId
  simp only
  split
  · exact hne _
  · exact hne _

namespace AnalysisWorker

variable (eng : Engine) (cfg : WorkConfig) (content : EntryId → WorkEntry)

/-- `id` の row の payload が findings stream に加わっている。 -/
def Published (w : AnalysisWorker) (id : String) (row : Row) : Prop :=
  ∃ f ∈ w.findings, f.sessionId = .value id ∧ f.orgId = .ofOption row.org ∧
    f.findings = .value (row.findings.map RuleFinding.item)

/-- どの row の payload も公開されている。 -/
def AllPublished (w : AnalysisWorker) : Prop :=
  ∀ id row, w.rows.get? id = some row → w.Published id row

/-- 呼び出しが新しい row を書こうとしている。 -/
def storesNew (w : AnalysisWorker) (env : WorkEnv) (entry : WorkEntry) : Bool :=
  match entry.payload.bind (w.processOne eng cfg env) with
  | some (_ :: _) => true
  | _ => false

/--
新しい row を commit したら、公開の命令まで例外にも停止にも遭わず、その XADD が届く。
命令は job の commit、row の commit、公開の順である。
-/
def PublishOk (w : AnalysisWorker) : WorkEvent → Prop
  | .entry e env fault =>
    w.storesNew eng cfg env (content e) = true → fault.reaches 2 = true →
      fault.reaches 3 = true ∧ env.link.publishes = true
  | .restart => True

theorem Published.publish {w : AnalysisWorker} {id : String} {row : Row}
    (h : w.Published id row) (io : Link) (f : Finding) : (w.publish io f).Published id row := by
  unfold AnalysisWorker.publish
  split
  · obtain ⟨g, hg, h⟩ := h
    exact ⟨g, List.mem_append_left _ hg, h⟩
  · exact h

/-- row を書かない命令は `AllPublished` を保つ。 -/
theorem AllPublished.run {w : AnalysisWorker} (h : w.AllPublished) {env : WorkEnv}
    {i : WorkInstr} (hi : ∀ id row job, i ≠ .commitRow id row job) :
    (i.run env w).AllPublished := by
  cases i with
  | commitJob id org =>
    show (w.commitJob id org).AllPublished
    unfold AnalysisWorker.commitJob
    split <;> exact h
  | commitRow id row job => exact absurd rfl (hi id row job)
  | publish f =>
    intro id row hrow
    exact (h id row (rows_publish w env.link f ▸ hrow)).publish env.link f
  | consumer op => exact h

theorem AllPublished.exec {env : WorkEnv} {is : List WorkInstr}
    (his : ∀ i ∈ is, ∀ id row job, i ≠ .commitRow id row job) {w : AnalysisWorker}
    (h : w.AllPublished) : (Run.exec (WorkInstr.run env) w is).AllPublished :=
  Run.Along.invariant (I := AllPublished) (fun _ _ h hi => h.run hi)
    (Run.along_of_mem (P := fun i => ∀ id row job, i ≠ WorkInstr.commitRow id row job) his) h

/-- commit と公開が続けて行われれば、新しい row も公開されている。 -/
theorem AllPublished.exec_persist {w : AnalysisWorker} (h : w.AllPublished) {env : WorkEnv}
    (hio : env.link.publishes = true) {id : String} (hid : id ≠ "") (a : Analysis)
    (org : Option String) :
    (Run.exec (WorkInstr.run env) w (persist cfg env id a org)).AllPublished := by
  have hjob : (w.commitJob (jobId cfg env org) org).AllPublished := by
    show (WorkInstr.run env w (.commitJob (jobId cfg env org) org)).AllPublished
    exact h.run (by simp)
  generalize hw : w.commitJob (jobId cfg env org) org = w₁ at hjob
  have hexec : Run.exec (WorkInstr.run env) w (persist cfg env id a org)
      = (w₁.commitRow id ⟨org, a.findings ++ env.extra⟩ (jobId cfg env org)).publish env.link
        (findingsPayload id org a (a.findings ++ env.extra) env.risk env.isAnomaly env.now) := by
    rw [← hw]
    rfl
  rw [hexec]
  unfold AnalysisWorker.publish
  rw [if_pos hio]
  intro id' row' hget
  have hrow : (w₁.rows.set id ⟨org, a.findings ++ env.extra⟩).get? id' = some row' := hget
  clear hget
  rw [Dict.get?_set] at hrow
  split at hrow
  · next he =>
    rw [Option.some.injEq] at hrow
    subst he
    subst hrow
    refine ⟨_, List.mem_append_right _ (List.mem_singleton_self _), ?_, rfl, rfl⟩
    show Field.value (orText (some id) a.fiveTuple) = .value id
    rw [orText, truthy_eq_some.mpr ⟨rfl, hid⟩]
    rfl
  · obtain ⟨f, hf, hp⟩ := hjob id' row' hrow
    exact ⟨f, List.mem_append_left _ hf, hp⟩

theorem not_commitRow_of_consumer {is : List WorkInstr}
    (h : ∀ i ∈ is, ∃ op, i = .consumer op) :
    ∀ i ∈ is, ∀ id row job, i ≠ .commitRow id row job := by
  intro i hi id row job he
  obtain ⟨op, rfl⟩ := h i hi
  cases he

theorem consumer_of_mem_failure (w : AnalysisWorker) (e : EntryId) (env : WorkEnv)
    (payload : Option SessionPayload) :
    ∀ i ∈ w.failure cfg e env payload, ∃ op, i = .consumer op := by
  intro i hi
  obtain ⟨op, -, rfl⟩ := List.mem_map.mp hi
  exact ⟨op, rfl⟩

/-- handler の終わりの ack と、例外の時の命令は、どれも group の命令である。 -/
theorem consumer_of_mem_rest (w : AnalysisWorker) (e : EntryId) (env : WorkEnv)
    (payload : Option SessionPayload) :
    ∀ i ∈ [WorkInstr.consumer (.clearAttempts e), .consumer (.ack e)] ++ w.failure cfg e env payload,
      ∃ op, i = .consumer op := by
  intro i hi
  rcases List.mem_append.mp hi with hi | hi
  · simp only [List.mem_cons, List.not_mem_nil, or_false] at hi
    rcases hi with rfl | rfl <;> exact ⟨_, rfl⟩
  · exact consumer_of_mem_failure cfg w e env payload i hi

/-- 例外や停止のある `persist` は、row を commit したら公開まで届くとき、`AllPublished` を保つ。 -/
theorem AllPublished.exec_cut_persist {w : AnalysisWorker} (h : w.AllPublished) {env : WorkEnv}
    {fault : Fault} {id : String} (hid : id ≠ "") (a : Analysis) (org : Option String)
    {tail except : List WorkInstr} (htail : tail ≠ []) (hexcept : except ≠ [])
    (hrest : ∀ i ∈ tail ++ except, ∃ op, i = .consumer op)
    (hc : fault.reaches 2 = true → fault.reaches 3 = true ∧ env.link.publishes = true) :
    (Run.exec (WorkInstr.run env) w
      (fault.cut (persist cfg env id a org) tail except)).AllPublished := by
  by_cases h2 : fault.reaches 2 = true
  · obtain ⟨h3, hio⟩ := hc h2
    obtain ⟨rest, heq, hmem⟩ := Fault.exists_cut_eq
      (show fault.reaches (persist cfg env id a org).length = true from h3) htail hexcept
    rw [heq, Run.exec_append]
    refine AllPublished.exec (not_commitRow_of_consumer fun i hi => hrest i (hmem i hi)) ?_
    exact h.exec_persist cfg hio hid a org
  · -- 止まったのが二つ目の前なら、row は commit されていない
    refine AllPublished.exec (fun i hi => ?_) h
    rcases Fault.mem_cut (n := 1) (Bool.eq_false_iff.mpr h2) hi with hi | hi
    · rw [persist, List.take_succ_cons, List.take_zero] at hi
      rw [List.mem_singleton.mp hi]
      simp
    · exact not_commitRow_of_consumer hrest i hi

/-- `_process_one` の命令は、row があれば無く、無ければ `persist` である。 -/
theorem processOne_cases {w : AnalysisWorker} {env : WorkEnv} {p : SessionPayload}
    {body : List WorkInstr} (h : w.processOne eng cfg env p = some body) :
    body = [] ∨ ∃ a org, body = persist cfg env (deterministicSessionId eng env.uuid p) a org := by
  unfold processOne at h
  split at h
  · next a org _ _ =>
    simp only at h
    split at h
    · exact Or.inl (Option.some.inj h).symm
    · exact Or.inr ⟨a, org, (Option.some.inj h).symm⟩
  · cases h

/-- **事象一つは、条件の下で `AllPublished` を保つ。** -/
theorem allPublished_step {w : AnalysisWorker} {ev : WorkEvent} (h : w.AllPublished)
    (hc : PublishOk eng cfg content w ev) : (w.step eng cfg content ev).AllPublished := by
  cases ev with
  | restart => exact h
  | entry e env fault =>
    show (Run.exec (WorkInstr.run env) w (w.handleEntry eng cfg e (content e) env fault)).AllPublished
    have hrest := consumer_of_mem_rest cfg w e env (content e).payload
    have hne : w.failure cfg e env (content e).payload ≠ [] := by
      simp [failure, Group.failed]
    unfold handleEntry
    split
    · exact h
    · simp only
      split
      · refine AllPublished.exec (not_commitRow_of_consumer fun i hi => ?_) h
        have hmem := (Fault.mem_or_of_mem_cut hi).resolve_left List.not_mem_nil
        exact consumer_of_mem_failure cfg w e env (content e).payload i hmem
      · next body hbody =>
        obtain ⟨p, hp, hbody'⟩ := Option.bind_eq_some_iff.mp hbody
        rcases processOne_cases eng cfg hbody' with rfl | ⟨a, org, rfl⟩
        · refine AllPublished.exec (not_commitRow_of_consumer fun i hi => hrest i ?_) h
          exact (Fault.mem_or_of_mem_cut hi).resolve_left List.not_mem_nil
        · have hnew : w.storesNew eng cfg env (content e) = true := by
            unfold storesNew
            rw [hbody]
            rfl
          exact h.exec_cut_persist cfg (deterministicSessionId_ne_empty eng env.uuid p) a org
            (List.cons_ne_nil _ _) hne hrest (hc hnew)

end AnalysisWorker

/--
空の DB から始まる run で、新しい row を commit した呼び出しがどれも公開まで届くなら、
ack されて dead-letter されていない entry の、finding のある row が DB にあれば、その payload は
findings stream に加わっている。
-/
theorem published_of_acked (eng : Engine) (cfg : WorkConfig) (content : EntryId → WorkEntry)
    (es pre : List WorkEvent)
    (hc : Run.Along (AnalysisWorker.step eng cfg content) (PublishOk eng cfg content) {} es)
    (hp : pre <+: es) :
    ∀ e ∈ (Run.exec (AnalysisWorker.step eng cfg content) {} pre).consumer.acked,
      (∀ rec ∈ (Run.exec (AnalysisWorker.step eng cfg content) {} pre).consumer.dlq,
        rec.entryId ≠ e) →
      ∀ p uuid row, (content e).payload = some p →
        (Run.exec (AnalysisWorker.step eng cfg content) {} pre).rows.get?
          (deterministicSessionId eng uuid p) = some row →
        row.findings ≠ [] →
        (Run.exec (AnalysisWorker.step eng cfg content) {} pre).Published
          (deterministicSessionId eng uuid p) row := by
  have hall : (Run.exec (AnalysisWorker.step eng cfg content) {} pre).AllPublished := by
    refine Run.Along.invariant_isPrefix (I := AllPublished)
      (fun _ _ h hc => allPublished_step eng cfg content h hc) hc ?_ hp
    intro id row hrow
    cases hrow
  intro e _ _ p uuid row _ hrow _
  exact hall _ row hrow

/-- 読める session に、一つの finding を返す engine。 -/
def oneFindingEngine : Engine where
  analyze p :=
    if p.decodable then
      some ⟨"10.0.0.1:40000->10.0.0.2:25", "SMTP",
        [{ ruleId := "weak-cipher", severity := .high, title := "weak cipher" }]⟩
    else none
  sha256 s := s

/-- 一度目の呼び出しの様子が `fault` と `io` で、その後に再配達される run。 -/
def redelivered (fault : Fault) (io : Link) : List WorkEvent :=
  [.entry 1 { now := 1, link := io } fault, .restart, .entry 1 { now := 2 } {}]

/-- 失敗が無ければ、row の payload は公開されている。 -/
theorem published_of_acked_once :
    (Run.exec (AnalysisWorker.step oneFindingEngine {} fun _ => .object smtpSession) {}
      (redelivered {} {})).Published (deterministicSessionId oneFindingEngine "" smtpSession)
      ⟨none, [{ ruleId := "weak-cipher", severity := .high, title := "weak cipher" }]⟩ :=
  published_of_acked oneFindingEngine {} (fun _ => .object smtpSession) (redelivered {} {}) _
    ⟨fun _ _ => ⟨rfl, rfl⟩, trivial, fun _ _ => ⟨rfl, rfl⟩, trivial⟩ (List.prefix_refl _) 1
    (by decide) (by decide) smtpSession "" _ rfl (by decide) (by decide)

/-- commit と公開の間で process が止まると、再配達は row を見て ack し、payload は出ない。 -/
theorem unpublished_after_crash :
    1 ∈ (Run.exec (AnalysisWorker.step oneFindingEngine {} fun _ => .object smtpSession) {}
      (redelivered { crashAt := some 2 } {})).consumer.acked ∧
    (Run.exec (AnalysisWorker.step oneFindingEngine {} fun _ => .object smtpSession) {}
      (redelivered { crashAt := some 2 } {})).consumer.dlq = [] ∧
    (Run.exec (AnalysisWorker.step oneFindingEngine {} fun _ => .object smtpSession) {}
      (redelivered { crashAt := some 2 } {})).rows.get?
        (deterministicSessionId oneFindingEngine "" smtpSession)
      = some ⟨none, [{ ruleId := "weak-cipher", severity := .high, title := "weak cipher" }]⟩ ∧
    (Run.exec (AnalysisWorker.step oneFindingEngine {} fun _ => .object smtpSession) {}
      (redelivered { crashAt := some 2 } {})).findings = [] := by
  decide

end CipherPost.Live
