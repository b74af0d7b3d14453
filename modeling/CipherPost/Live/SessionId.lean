import Mathlib.Data.List.Nodup
import CipherPost.Infra.Lines
import CipherPost.Live.Publication

/-!
# session の id と row の取り違え

`deterministic_session_id` は七つの値を `|` で繋いだ文字列の hash であり、org を含まない。
`_persist` は同じ id の row があれば処理済みと見なすので、id が重なった session の row は残らない。

* `sessionKey_eq_iff` — 値が `|` を含まなければ、key は七つの値を定める
* `SameSession` — 同じ organisation の同じ session であること
* `sessionId_ne_iff` — id が違うのは、key が違うか、key が空であるとき
* `Separated` — run の中で、どの session も自分の row を持つこと
* `sessions_separated` — そのための条件と run の性質

SHA-256 と uuid4 の約束は `Collisionless` である。
-/

namespace CipherPost.Live

open AnalysisWorker

/-! ## key -/

/-- `deterministic_session_id` が読む値。 -/
def idFields (p : SessionPayload) : List (Field String) :=
  [p.fiveTuple, p.startTs, p.endTs, p.clientIp, p.serverIp, p.clientPort, p.serverPort]

/-- hash に渡す `key`。 -/
def sessionKey (p : SessionPayload) : String := "|".intercalate (idParts p)

/-- `key.strip("|")` が空である。 -/
def keyBlank (p : SessionPayload) : Bool := !(sessionKey p).toList.any (· ≠ '|')

/-- id に入る、digest の先頭の 32 文字。 -/
def digest32 (eng : Engine) (p : SessionPayload) : String :=
  String.ofList ((eng.sha256 (sessionKey p)).toList.take 32)

/-- 値が `|` を含まなければ、key は七つの値を定める。 -/
theorem sessionKey_eq_iff {p q : SessionPayload} (hp : ∀ s ∈ idParts p, '|' ∉ s.toList)
    (hq : ∀ s ∈ idParts q, '|' ∉ s.toList) :
    sessionKey p = sessionKey q ↔ idParts p = idParts q := by
  constructor
  · intro h
    have hmap : (idParts p).map String.toList = (idParts q).map String.toList := by
      rw [← splitOn_intercalate_strings (by decide : "|".toList = ['|']) hp (by simp [idParts]),
        ← splitOn_intercalate_strings (by decide : "|".toList = ['|']) hq (by simp [idParts])]
      exact congrArg (fun s => s.toList.splitOn '|') h
    exact List.map_injective_iff.mpr (fun _ _ => String.toList_injective) hmap
  · intro h
    rw [sessionKey, sessionKey, h]

/-- id は、空でない key の digest か、乱数である。 -/
theorem deterministicSessionId_eq (eng : Engine) (uuid : String) (p : SessionPayload) :
    deterministicSessionId eng uuid p
      = "sess-" ++ if keyBlank p = true then uuid else digest32 eng p := by
  unfold deterministicSessionId keyBlank digest32 sessionKey
  simp only [Bool.not_eq_true']
  split
  · next h => rw [if_neg (by rw [h]; exact Bool.noConfusion)]
  · next h => rw [if_pos (Bool.not_eq_true _ ▸ h)]

/-! ## 二つの session -/

/-- 同じ organisation の同じ session である。 -/
def SameSession (p q : SessionPayload) : Prop :=
  payloadOrg p = payloadOrg q ∧ idFields p = idFields q

/-- id の計算一回に使われた uuid と payload。 -/
abbrev Draw : Type := String × SessionPayload

/-- 計算された id。 -/
def Draw.id (eng : Engine) (a : Draw) : String := deterministicSessionId eng a.1 a.2

/-- SHA-256 と uuid4 の約束。 -/
structure Collisionless (eng : Engine) (draws : List Draw) : Prop where
  /-- digest が同じなら key も同じである。 -/
  digest : ∀ a ∈ draws, ∀ b ∈ draws, digest32 eng a.2 = digest32 eng b.2 →
    sessionKey a.2 = sessionKey b.2
  /-- uuid は毎回新しい。 -/
  fresh : draws.Pairwise fun a b => a.1 ≠ b.1
  /-- uuid は digest と重ならない。 -/
  apart : ∀ a ∈ draws, ∀ b ∈ draws, a.1 ≠ digest32 eng b.2

/-- 違う session の key は、空でなければ違う。 -/
def Keyed (draws : List Draw) : Prop :=
  ∀ a ∈ draws, ∀ b ∈ draws, ¬SameSession a.2 b.2 → sessionKey a.2 = sessionKey b.2 →
    keyBlank a.2 = true

variable {eng : Engine} {draws : List Draw}

theorem Collisionless.eq_of_uuid_eq (hc : Collisionless eng draws) {a b : Draw} (ha : a ∈ draws)
    (hb : b ∈ draws) (h : a.1 = b.1) : a = b := by
  refine List.inj_on_of_nodup_map (f := Prod.fst) ?_ ha hb h
  exact List.pairwise_map.mpr hc.fresh

/-- **id が同じ二つの計算は、同じ計算か、空でない同じ key の計算である。** -/
theorem Collisionless.id_eq_iff (hc : Collisionless eng draws) {a b : Draw} (ha : a ∈ draws)
    (hb : b ∈ draws) :
    a.id eng = b.id eng ↔ a = b ∨ sessionKey a.2 = sessionKey b.2 ∧ keyBlank a.2 = false := by
  have hid : a.id eng = b.id eng ↔ (if keyBlank a.2 = true then a.1 else digest32 eng a.2)
      = if keyBlank b.2 = true then b.1 else digest32 eng b.2 := by
    rw [Draw.id, Draw.id, deterministicSessionId_eq, deterministicSessionId_eq,
      ← String.toList_inj, String.toList_append, String.toList_append, List.append_cancel_left_eq,
      String.toList_inj]
  have hblank : sessionKey a.2 = sessionKey b.2 → keyBlank a.2 = keyBlank b.2 := by
    intro h
    rw [keyBlank, keyBlank, h]
  rw [hid]
  constructor
  · intro h
    cases hba : keyBlank a.2 with
    | true =>
      rw [hba, if_pos rfl] at h
      split at h
      · exact Or.inl (hc.eq_of_uuid_eq ha hb h)
      · exact absurd h (hc.apart a ha b hb)
    | false =>
      rw [hba, if_neg Bool.false_ne_true] at h
      split at h
      · exact absurd h.symm (hc.apart b hb a ha)
      · exact Or.inr ⟨hc.digest a ha b hb h, rfl⟩
  · rintro (rfl | ⟨hkey, hba⟩)
    · rfl
    · rw [← hblank hkey, hba, if_neg Bool.false_ne_true, if_neg Bool.false_ne_true, digest32,
        digest32, hkey]

/-- 違う session の key が重ならなければ、id は session を定める。 -/
theorem Collisionless.sameSession (hc : Collisionless eng draws) (hk : Keyed draws) {a b : Draw}
    (ha : a ∈ draws) (hb : b ∈ draws) (h : a.id eng = b.id eng) : SameSession a.2 b.2 := by
  rcases (hc.id_eq_iff ha hb).mp h with rfl | ⟨hkey, hba⟩
  · exact ⟨rfl, rfl⟩
  · by_contra hne
    rw [hk a ha b hb hne hkey] at hba
    cases hba

/-- 違う session の id が違うのは、key が違うか、key が空であるときで、そのときに限る。 -/
theorem sessionId_ne_iff {u v : String} {p q : SessionPayload}
    (hc : Collisionless eng [(u, p), (v, q)]) (hne : ¬SameSession p q) :
    deterministicSessionId eng u p ≠ deterministicSessionId eng v q ↔
      sessionKey p ≠ sessionKey q ∨ keyBlank p = true := by
  have hpair : ((u, p) : Draw) ≠ (v, q) := by
    intro h
    rw [Prod.mk.injEq] at h
    rw [h.2] at hne
    exact hne ⟨rfl, rfl⟩
  have hid := hc.id_eq_iff (a := (u, p)) (b := (v, q)) List.mem_cons_self
    (List.mem_cons_of_mem _ List.mem_cons_self)
  rw [or_iff_right hpair] at hid
  show ¬Draw.id eng (u, p) = Draw.id eng (v, q) ↔ _
  rw [hid, not_and_or, Bool.not_eq_false]

/-! ## 実行 -/

/-- 事象が行う id の計算。 -/
def drawOf (content : EntryId → WorkEntry) : WorkEvent → Option Draw
  | .entry e env _ => (content e).payload.map fun p => (env.uuid, p)
  | .restart => none

/-- run で行われる id の計算。 -/
def drawsOf (content : EntryId → WorkEntry) (es : List WorkEvent) : List Draw :=
  es.filterMap (drawOf content)

namespace AnalysisWorker

variable (eng : Engine) (cfg : WorkConfig) (content : EntryId → WorkEntry)

/-- stamp された org があれば、row の org はそれである。 -/
def StampedAs (p : SessionPayload) (row : Row) : Prop :=
  ∀ org, payloadOrg p = some org → row.org = some org

/-- row を書く命令は `commitRow` だけである。 -/
theorem rows_run_cases {env : WorkEnv} {id : String} {row : Row} {w : AnalysisWorker} {i : WorkInstr}
    (h : (i.run env w).rows.get? id = some row) :
    w.rows.get? id = some row ∨ ∃ job, i = .commitRow id row job := by
  cases i with
  | commitJob id' org => exact Or.inl ((rows_commitJob w id' org) ▸ h)
  | commitRow id' row' job =>
    have hset : (w.rows.set id' row').get? id = some row := h
    rw [Dict.get?_set] at hset
    split at hset
    · next he =>
      rw [Option.some.injEq] at hset
      subst he
      subst hset
      exact Or.inr ⟨job, rfl⟩
    · exact Or.inl hset
  | publish f => exact Or.inl ((rows_publish w env.link f) ▸ h)
  | consumer op => exact Or.inl h

/-- 命令の列が書く row は、その中の `commitRow` のものである。 -/
theorem rows_exec {env : WorkEnv} {id : String} {row : Row} {is : List WorkInstr}
    {w : AnalysisWorker} (h : (Run.exec (WorkInstr.run env) w is).rows.get? id = some row) :
    w.rows.get? id = some row ∨ ∃ job, .commitRow id row job ∈ is := by
  rcases Run.exists_of_exec (P := fun w : AnalysisWorker => w.rows.get? id = some row)
    (Q := fun i => ∃ job, i = .commitRow id row job) (fun _ _ h => rows_run_cases h) h with
    h | ⟨_, hi, job, rfl⟩
  · exact Or.inl h
  · exact Or.inr ⟨job, hi⟩

/-- row は消えない。 -/
theorem rows_run {env : WorkEnv} {w : AnalysisWorker} {id : String} (i : WorkInstr)
    (h : w.rows.get? id ≠ none) : (i.run env w).rows.get? id ≠ none := by
  cases i with
  | commitJob id' org => exact (rows_commitJob w id' org).symm ▸ h
  | commitRow id' row job =>
    show (w.rows.set id' row).get? id ≠ none
    rw [Dict.get?_set]
    split
    · exact Option.some_ne_none _
    · exact h
  | publish f => exact (rows_publish w env.link f).symm ▸ h
  | consumer op => exact h

theorem rows_exec_ne_none {env : WorkEnv} {w : AnalysisWorker} {id : String}
    (is : List WorkInstr) (h : w.rows.get? id ≠ none) :
    (Run.exec (WorkInstr.run env) w is).rows.get? id ≠ none :=
  Run.invariant (I := fun w : AnalysisWorker => w.rows.get? id ≠ none) (fun _ i h => rows_run i h) is h

theorem rows_step {w : AnalysisWorker} {id : String} (ev : WorkEvent)
    (h : w.rows.get? id ≠ none) : (w.step eng cfg content ev).rows.get? id ≠ none := by
  cases ev with
  | entry e env fault => exact rows_exec_ne_none _ h
  | restart => exact h

/-- `_process_one` が書く row は、payload の id と org を持つ。 -/
theorem commitRow_mem_processOne {w : AnalysisWorker} {env : WorkEnv} {p : SessionPayload}
    {body : List WorkInstr} (h : w.processOne eng cfg env p = some body) {id : String} {row : Row}
    {job : String} (hmem : .commitRow id row job ∈ body) :
    id = deterministicSessionId eng env.uuid p ∧ StampedAs p row := by
  unfold processOne at h
  split at h
  · next a org _ horg =>
    simp only at h
    split at h
    · rw [Option.some.injEq] at h
      subst h
      cases hmem
    · rw [Option.some.injEq] at h
      subst h
      simp only [persist, List.mem_cons, reduceCtorEq, WorkInstr.commitRow.injEq,
        List.not_mem_nil, or_false, false_or] at hmem
      obtain ⟨hid, hrow, -⟩ := hmem
      refine ⟨hid, fun o ho => ?_⟩
      rw [hrow]
      unfold resolveOrg at horg
      rw [ho] at horg
      exact (Option.some.inj horg).symm
  · cases h

/-- **row を書く命令は、その entry の id と org のものである。** -/
theorem commitRow_mem_handleEntry {w : AnalysisWorker} {e : EntryId} {entry : WorkEntry}
    {env : WorkEnv} {fault : Fault} {id : String} {row : Row} {job : String}
    (hmem : .commitRow id row job ∈ w.handleEntry eng cfg e entry env fault) :
    ∃ p, entry.payload = some p ∧ id = deterministicSessionId eng env.uuid p ∧
      StampedAs p row := by
  have hfailure : WorkInstr.commitRow id row job ∉ w.failure cfg e env entry.payload := fun h =>
    not_commitRow_of_consumer (consumer_of_mem_failure cfg w e env entry.payload) _ h _ _ _ rfl
  unfold handleEntry at hmem
  split at hmem
  · cases hmem
  · simp only at hmem
    split at hmem
    · rcases Fault.mem_or_of_mem_cut hmem with h | h
      · cases h
      · exact absurd h hfailure
    · next body hbody =>
      obtain ⟨p, hp, hbody⟩ := Option.bind_eq_some_iff.mp hbody
      rcases Fault.mem_or_of_mem_cut hmem with h | h
      · exact ⟨p, hp, commitRow_mem_processOne eng cfg hbody h⟩
      · rcases List.mem_append.mp h with h | h
        · simp at h
        · exact absurd h hfailure

/-- 一歩の後の row は、前からあるか、その事象が計算した id のものである。 -/
theorem rows_step_cases {w : AnalysisWorker} {ev : WorkEvent} {id : String} {row : Row}
    (h : (w.step eng cfg content ev).rows.get? id = some row) :
    w.rows.get? id = some row ∨
      ∃ a, drawOf content ev = some a ∧ id = a.id eng ∧ StampedAs a.2 row := by
  cases ev with
  | restart => exact Or.inl h
  | entry e env fault =>
    rcases rows_exec h with h | ⟨job, hmem⟩
    · exact Or.inl h
    · obtain ⟨p, hp, hid, horg⟩ := commitRow_mem_handleEntry eng cfg hmem
      exact Or.inr ⟨(env.uuid, p), by rw [drawOf, hp]; rfl, hid, horg⟩

theorem completed_run {env : WorkEnv} {e : EntryId} {w : AnalysisWorker} {i : WorkInstr}
    (h : e ∈ (i.run env w).consumer.completed) :
    e ∈ w.consumer.completed ∨ i = .consumer (.ack e) := by
  cases i with
  | commitJob id org => exact Or.inl (consumer_commitJob w id org ▸ h)
  | commitRow id row job => exact Or.inl h
  | publish f => exact Or.inl (consumer_publish w env.link f ▸ h)
  | consumer op => exact (Group.mem_completed_apply h).imp_right fun hop => by rw [hop]

/-- handler の成功を記録するのは `ack` だけである。 -/
theorem completed_exec {env : WorkEnv} {e : EntryId} {is : List WorkInstr} {w : AnalysisWorker}
    (h : e ∈ (Run.exec (WorkInstr.run env) w is).consumer.completed) :
    e ∈ w.consumer.completed ∨ .consumer (.ack e) ∈ is := by
  rcases Run.exists_of_exec (P := fun w : AnalysisWorker => e ∈ w.consumer.completed)
    (Q := fun i => i = .consumer (.ack e)) (fun _ _ h => completed_run h) h with h | ⟨_, hi, rfl⟩
  · exact Or.inl h
  · exact Or.inr hi

theorem ack_notMem_failure (w : AnalysisWorker) (e e' : EntryId) (env : WorkEnv)
    (payload : Option SessionPayload) : .consumer (.ack e') ∉ w.failure cfg e env payload := by
  intro h
  obtain ⟨op, hop, he⟩ := List.mem_map.mp h
  rw [WorkInstr.consumer.injEq] at he
  subst he
  unfold Group.failed at hop
  simp only [List.mem_cons, reduceCtorEq, false_or] at hop
  split at hop
  · simp at hop
  · cases hop

/-- `ack` まで進んだ呼び出しは、`_process_one` の命令をすべて行っている。 -/
theorem handleEntry_of_ack_mem {w : AnalysisWorker} {e e' : EntryId} {entry : WorkEntry}
    {env : WorkEnv} {fault : Fault}
    (h : .consumer (.ack e') ∈ w.handleEntry eng cfg e entry env fault) :
    e' = e ∧ ∃ p body, entry.payload = some p ∧ w.processOne eng cfg env p = some body ∧
      w.handleEntry eng cfg e entry env fault
        = body ++ [.consumer (.clearAttempts e), .consumer (.ack e)] := by
  have hfailure := fun x => ack_notMem_failure cfg w e x env entry.payload
  unfold handleEntry at h ⊢
  split at h
  · cases h
  · simp only at h ⊢
    split at h
    · rcases Fault.mem_or_of_mem_cut h with h | h
      · cases h
      · exact absurd h (hfailure e')
    · next body hbody =>
      obtain ⟨p, hp, hone⟩ := Option.bind_eq_some_iff.mp hbody
      have hmem : ∀ x, WorkInstr.consumer (.ack x) ∉ body := by
        intro x hx
        rcases processOne_cases eng cfg hone with rfl | ⟨a, org, rfl⟩
        · cases hx
        · simp [persist] at hx
      have he : e' = e := by
        rcases Fault.mem_or_of_mem_cut h with h | h
        · exact absurd h (hmem e')
        · rcases List.mem_append.mp h with h | h
          · simpa using h
          · exact absurd h (hfailure e')
      refine ⟨he, p, body, hp, hone, ?_⟩
      rw [he] at h
      exact Fault.cut_eq_of_getLast_mem [.consumer (.clearAttempts e)] (hmem e) (by simp)
        (hfailure e) h

/-- `_process_one` が済めば、その id の row がある。 -/
theorem rows_of_processOne {w : AnalysisWorker} {env : WorkEnv} {p : SessionPayload}
    {body : List WorkInstr} (h : w.processOne eng cfg env p = some body) (rest : List WorkInstr) :
    (Run.exec (WorkInstr.run env) w (body ++ rest)).rows.get?
      (deterministicSessionId eng env.uuid p) ≠ none := by
  rw [Run.exec_append]
  refine rows_exec_ne_none rest ?_
  unfold processOne at h
  split at h
  · next a org _ _ =>
    simp only at h
    split at h
    · next row hrow =>
      rw [Option.some.injEq] at h
      subst h
      show w.rows.get? _ ≠ none
      rw [hrow]
      exact Option.some_ne_none _
    · rw [Option.some.injEq] at h
      subst h
      rw [persist, Run.exec_cons, Run.exec_cons]
      refine rows_exec_ne_none _ ?_
      show (Dict.set _ _ _).get? _ ≠ none
      rw [Dict.get?_set, if_pos rfl]
      exact Option.some_ne_none _
  · cases h

/-- 成功した entry の一歩の後には、その id の row がある。 -/
theorem completed_step_cases {w : AnalysisWorker} {ev : WorkEvent} {e : EntryId}
    (h : e ∈ (w.step eng cfg content ev).consumer.completed) :
    e ∈ w.consumer.completed ∨ ∃ a, drawOf content ev = some a ∧
      (content e).payload = some a.2 ∧
      (w.step eng cfg content ev).rows.get? (a.id eng) ≠ none := by
  cases ev with
  | restart => exact Or.inl h
  | entry e' env fault =>
    rcases completed_exec h with h | hmem
    · exact Or.inl h
    · obtain ⟨rfl, p, body, hp, hone, heq⟩ := handleEntry_of_ack_mem eng cfg hmem
      refine Or.inr ⟨(env.uuid, p), by rw [drawOf, hp]; rfl, hp, ?_⟩
      show (Run.exec (WorkInstr.run env) w (w.handleEntry eng cfg e (content e) env fault)).rows.get?
        (deterministicSessionId eng env.uuid p) ≠ none
      rw [heq]
      exact rows_of_processOne eng cfg hone _

/-! ## run の性質 -/

theorem drawsOf_concat (pre : List WorkEvent) (ev : WorkEvent) :
    drawsOf content (pre ++ [ev]) = drawsOf content pre ++ (drawOf content ev).toList := by
  rw [drawsOf, List.filterMap_append]
  cases h : drawOf content ev with
  | none => rw [List.filterMap_cons_none h]; rfl
  | some a => rw [List.filterMap_cons_some h]; rfl

/-- row は、run の中で計算された id のもので、その org を持つ。 -/
theorem row_source (pre : List WorkEvent) {id : String} {row : Row}
    (h : (Run.exec (step eng cfg content) {} pre).rows.get? id = some row) :
    ∃ a ∈ drawsOf content pre, id = a.id eng ∧ StampedAs a.2 row := by
  refine Run.history (I := fun pre (w : AnalysisWorker) => ∀ id row, w.rows.get? id = some row →
    ∃ a ∈ drawsOf content pre, id = a.id eng ∧ StampedAs a.2 row) ?_ ?_ pre id row h
  · intro id row h
    cases h
  · intro pre ev ih id row h
    rw [drawsOf_concat]
    rcases rows_step_cases eng cfg content h with h | ⟨a, ha, hid, horg⟩
    · obtain ⟨a, ha, hid, horg⟩ := ih id row h
      exact ⟨a, List.mem_append_left _ ha, hid, horg⟩
    · exact ⟨a, List.mem_append_right _ (by rw [ha]; exact List.mem_singleton_self a), hid, horg⟩

/-- 成功した entry には、run の中で計算されたその id の row がある。 -/
theorem completed_source (pre : List WorkEvent) {e : EntryId}
    (h : e ∈ (Run.exec (step eng cfg content) {} pre).consumer.completed) :
    ∃ a ∈ drawsOf content pre, (content e).payload = some a.2 ∧
      (Run.exec (step eng cfg content) {} pre).rows.get? (a.id eng) ≠ none := by
  refine Run.history (I := fun pre (w : AnalysisWorker) => ∀ e ∈ w.consumer.completed,
    ∃ a ∈ drawsOf content pre, (content e).payload = some a.2 ∧
      w.rows.get? (a.id eng) ≠ none) ?_ ?_ pre e h
  · intro e h
    cases h
  · intro pre ev ih e h
    rw [drawsOf_concat]
    rcases completed_step_cases eng cfg content h with h | ⟨a, ha, hp, hrow⟩
    · obtain ⟨a, ha, hp, hrow⟩ := ih e h
      exact ⟨a, List.mem_append_left _ ha, hp, rows_step eng cfg content ev hrow⟩
    · exact ⟨a, List.mem_append_right _ (by rw [ha]; exact List.mem_singleton_self a), hp, hrow⟩

/-- `id` の row は、`p` の session が書いたもので、`p` の org を持つ。 -/
def OwnRow (pre : List WorkEvent) (id : String) (row : Row) (p : SessionPayload) : Prop :=
  (∃ a ∈ drawsOf content pre, id = a.id eng ∧ SameSession a.2 p) ∧ StampedAs p row

/-- run の中で、どの session も自分の row を持つ。 -/
structure Separated (es : List WorkEvent) : Prop where
  /-- 違う session の id は違う。 -/
  ids : ∀ a ∈ drawsOf content es, ∀ b ∈ drawsOf content es, ¬SameSession a.2 b.2 →
    a.id eng ≠ b.id eng
  /-- 成功した entry の session の row が DB にある。 -/
  stored : ∀ pre, pre <+: es → ∀ e ∈ (Run.exec (step eng cfg content) {} pre).consumer.completed,
    ∃ a ∈ drawsOf content pre, (content e).payload = some a.2 ∧
      ∃ row, (Run.exec (step eng cfg content) {} pre).rows.get? (a.id eng) = some row ∧
        OwnRow eng content pre (a.id eng) row a.2
  /-- 既にある row を見て済ませるのは、それが自分の session の row のときだけである。 -/
  skipped : ∀ pre ev, pre ++ [ev] <+: es → ∀ a, drawOf content ev = some a → ∀ row,
    (Run.exec (step eng cfg content) {} pre).rows.get? (a.id eng) = some row →
      OwnRow eng content pre (a.id eng) row a.2

variable {eng content} in
/-- key が重ならなければ、計算した id の row は自分の session のものである。 -/
theorem ownRow_of_keyed {es pre : List WorkEvent} (hc : Collisionless eng (drawsOf content es))
    (hk : Keyed (drawsOf content es)) (hp : pre <+: es) {a : Draw} (ha : a ∈ drawsOf content es)
    {row : Row} (hrow : (Run.exec (step eng cfg content) {} pre).rows.get? (a.id eng) = some row) :
    OwnRow eng content pre (a.id eng) row a.2 := by
  obtain ⟨b, hb, hid, horg⟩ := row_source eng cfg content pre hrow
  have hbes : b ∈ drawsOf content es := (hp.sublist.filterMap _).subset hb
  have hsame : SameSession b.2 a.2 := hc.sameSession hk hbes ha hid.symm
  exact ⟨⟨b, hb, hid, hsame⟩, fun org h => horg org (hsame.1.trans h)⟩

/-- どの session も自分の row を持つのは、違う session の key が重ならないときである。 -/
theorem separated_iff {es : List WorkEvent} (hc : Collisionless eng (drawsOf content es)) :
    Separated eng cfg content es ↔ Keyed (drawsOf content es) := by
  constructor
  · intro h a ha b hb hne hkey
    by_contra hblank
    exact h.ids a ha b hb hne
      ((hc.id_eq_iff ha hb).mpr (Or.inr ⟨hkey, Bool.not_eq_true _ ▸ hblank⟩))
  · intro hk
    refine ⟨fun a ha b hb hne h => hne (hc.sameSession hk ha hb h), ?_, ?_⟩
    · intro pre hp e he
      obtain ⟨a, ha, hpay, hrow⟩ := completed_source eng cfg content pre he
      obtain ⟨row, hrow⟩ := Option.ne_none_iff_exists'.mp hrow
      exact ⟨a, ha, hpay, row, hrow,
        ownRow_of_keyed cfg hc hk hp ((hp.sublist.filterMap _).subset ha) hrow⟩
    · intro pre ev hp a ha row hrow
      refine ownRow_of_keyed cfg hc hk ((List.prefix_append _ _).trans hp) ?_ hrow
      refine (hp.sublist.filterMap (drawOf content)).subset ?_
      rw [← drawsOf, drawsOf_concat, ha]
      exact List.mem_append_right _ (List.mem_singleton_self a)

end AnalysisWorker

/--
違う session の id が違うのは、七つの値を繋いだ key が違うか空であるときで、そのときに限る。
run の中でどの session も自分の row を持つのは、違う session の key が重ならないときで、
そのときに限る。
-/
theorem sessions_separated (eng : Engine) :
    (∀ u v p q, Collisionless eng [(u, p), (v, q)] → ¬SameSession p q →
      (deterministicSessionId eng u p ≠ deterministicSessionId eng v q ↔
        sessionKey p ≠ sessionKey q ∨ keyBlank p = true)) ∧
    ∀ cfg content es, Collisionless eng (drawsOf content es) →
      (Separated eng cfg content es ↔ Keyed (drawsOf content es)) :=
  ⟨fun _ _ _ _ hc hne => sessionId_ne_iff hc hne,
    fun cfg content _ hc => separated_iff eng cfg content hc⟩

/-- org が stamp された session。 -/
def stampedSession (org client : String) : SessionPayload :=
  { smtpSession with
    fiveTuple := .value (client ++ ":40000->10.0.0.2:25")
    clientIp := .value client
    orgId := .value org }

/-- 二つの entry が順に処理される run。 -/
def sessionPair : List WorkEvent :=
  [.entry 1 { now := 1, uuid := "u" } {}, .entry 2 { now := 2, uuid := "v" } {}]

/-- endpoint の違う二つの session は、別々の row を持つ。 -/
theorem sessions_separated_two :
    (deterministicSessionId oneFindingEngine "u" (stampedSession "a" "10.0.0.1")
      ≠ deterministicSessionId oneFindingEngine "v" (stampedSession "b" "10.0.0.2")) ∧
    Separated oneFindingEngine {} (fun e =>
      .object (if e = 1 then stampedSession "a" "10.0.0.1" else stampedSession "b" "10.0.0.2"))
      sessionPair := by
  have hkey : sessionKey (stampedSession "a" "10.0.0.1")
      ≠ sessionKey (stampedSession "b" "10.0.0.2") := by decide +kernel
  have hc : Collisionless oneFindingEngine [("u", stampedSession "a" "10.0.0.1"),
      ("v", stampedSession "b" "10.0.0.2")] :=
    ⟨by decide +kernel, by decide +kernel, by decide +kernel⟩
  constructor
  · exact ((sessions_separated oneFindingEngine).1 _ _ _ _ hc fun h => absurd h.1 (by decide)).mpr
      (Or.inl hkey)
  · refine ((sessions_separated oneFindingEngine).2 {} (fun e => .object (if e = 1 then
      stampedSession "a" "10.0.0.1" else stampedSession "b" "10.0.0.2")) sessionPair hc).mpr ?_
    intro a ha b hb hne heq
    simp only [drawsOf, sessionPair, drawOf, WorkEntry.payload, Option.map_some,
      List.filterMap_cons, List.filterMap_nil, List.mem_cons, List.not_mem_nil, or_false] at ha hb
    rcases ha with rfl | rfl <;> rcases hb with rfl | rfl
    · exact absurd ⟨rfl, rfl⟩ hne
    · exact absurd heq hkey
    · exact absurd heq.symm hkey
    · exact absurd ⟨rfl, rfl⟩ hne

/-- 組織の違う同じ session は id が同じで、後の組織の session は row を持たずに済まされる。 -/
theorem sessions_merged :
    Collisionless oneFindingEngine [("u", stampedSession "a" "10.0.0.1"),
      ("v", stampedSession "b" "10.0.0.1")] ∧
    ¬SameSession (stampedSession "a" "10.0.0.1") (stampedSession "b" "10.0.0.1") ∧
    deterministicSessionId oneFindingEngine "u" (stampedSession "a" "10.0.0.1")
      = deterministicSessionId oneFindingEngine "v" (stampedSession "b" "10.0.0.1") ∧
    (Run.exec (AnalysisWorker.step oneFindingEngine {} fun e =>
      .object (if e = 1 then stampedSession "a" "10.0.0.1" else stampedSession "b" "10.0.0.1")) {}
      sessionPair).consumer.completed = [2, 1] ∧
    (Run.exec (AnalysisWorker.step oneFindingEngine {} fun e =>
      .object (if e = 1 then stampedSession "a" "10.0.0.1" else stampedSession "b" "10.0.0.1")) {}
      sessionPair).rows.values.map Row.org = [some "a"] :=
  ⟨⟨by decide +kernel, by decide +kernel, by decide +kernel⟩, fun h => absurd h.1 (by decide),
    by decide +kernel⟩

end CipherPost.Live
