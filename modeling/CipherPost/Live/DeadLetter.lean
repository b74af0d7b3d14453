import CipherPost.Live.AlertInvariants
import CipherPost.Live.Analyze

/-!
# ack と dead-letter stream

entry が pending list から外れるのは、handler が成功したか、dead-letter stream に写しがあるときに
限る、という性質。`dead_letter` は XADD の失敗を飲み込んでから XACK するので、その二つの命令の
成否が run の条件になる。

* `Drives` — handler の命令のうち、group に触れるもの
* `along_handler` — 一回の handler の命令の列は、写しの無い entry を ack しない
* `acked_settled` — analysis worker と alert dispatcher のどの run でも成り立つ性質
-/

namespace CipherPost.Live

/-! ## group に触れる命令

二つの consumer に共通の部分。`asOp` は handler の命令を group の命令と読む。
-/

section

variable {P σ ι : Type}

/-- 状態 `σ` の中の group は、`asOp` の読む命令だけで変わる。 -/
structure Drives (run : σ → ι → σ) (consumer : σ → Group P) (asOp : ι → Option (GroupOp P))
    (io : Link) : Prop where
  step : ∀ s i, consumer (run s i) =
    match asOp i with
    | some op => (consumer s).apply io op
    | none => consumer s

/-- pending list から外れた entry は、どれも済んでいる。 -/
def AckSafe (Copied : EntryId → DeadLetter P → Prop) (g : Group P) : Prop :=
  ∀ e ∈ g.acked, g.Settled Copied e

variable {run : σ → ι → σ} {consumer : σ → Group P} {asOp : ι → Option (GroupOp P)} {io : Link}
  {Copied : EntryId → DeadLetter P → Prop} {Good : σ → EntryId → Prop}

/-- `dead_letter` の XACK が届くなら、その entry は `Good` である。 -/
def Cleared (asOp : ι → Option (GroupOp P)) (io : Link) (Good : σ → EntryId → Prop) (s : σ)
    (i : ι) : Prop :=
  ∀ e, asOp i = some (.deadAck e) → io.acks = true → Good s e

/-- 一つの命令は `AckSafe` を保つ。 -/
theorem AckSafe.step (hd : Drives run consumer asOp io) {s : σ} {i : ι}
    (h : AckSafe Copied (consumer s))
    (hc : Cleared asOp io (fun s => (consumer s).Settled Copied) s i) :
    AckSafe Copied (consumer (run s i)) := by
  intro e he
  rw [hd.step] at he ⊢
  split at he
  · next op hop =>
    rcases Group.mem_acked_apply he with he | ⟨hio, rfl | rfl⟩
    · exact (h e he).apply io op
    · exact Or.inl List.mem_cons_self
    · exact (hc e hop hio).apply io _
  · exact h e he

theorem AckSafe.exec (hd : Drives run consumer asOp io) {is : List ι} {s : σ}
    (hc : Run.Along run (Cleared asOp io fun s => (consumer s).Settled Copied) s is)
    (h : AckSafe Copied (consumer s)) : AckSafe Copied (consumer (Run.exec run s is)) :=
  Run.Along.invariant (I := fun s => AckSafe Copied (consumer s))
    (fun _ _ h hc => AckSafe.step hd h hc) hc h

/-- `dead_letter` の XACK を含まない列。 -/
def NoDeadAck (asOp : ι → Option (GroupOp P)) (is : List ι) : Prop :=
  ∀ i ∈ is, ∀ e, asOp i ≠ some (.deadAck e)

/-- group に触れない列。 -/
theorem NoDeadAck.of_none {is : List ι} (h : ∀ i ∈ is, asOp i = none) : NoDeadAck asOp is := by
  intro i hi e he
  rw [h i hi] at he
  cases he

theorem NoDeadAck.along {is : List ι} (h : NoDeadAck asOp is) (s : σ) :
    Run.Along run (Cleared asOp io Good) s is :=
  (Run.along_of_mem h).imp fun _ _ hne e he => absurd he (hne e)

variable {ofOp : GroupOp P → ι} (hof : ∀ op, asOp (ofOp op) = some op)

include hof in
/-- XADD が届けば、写しのある entry になる。 -/
theorem settled_deadLetter (hd : Drives run consumer asOp io) (hio : io.deadLetters = true)
    {rec : DeadLetter P} {e : EntryId} (hcopy : Copied e rec) (s : σ) :
    (consumer (run s (ofOp (.deadLetter rec)))).Settled Copied e := by
  rw [hd.step, hof]
  refine Or.inr ⟨rec, ?_, hcopy⟩
  simp only [Group.apply, hio, if_true]
  exact List.mem_append_right _ (List.mem_singleton_self _)

include hof in
/-- `except` の部分は、XADD が entry を `Good` にするときだけ XACK に届く。 -/
theorem along_failed {g : Group P} {maxAttempts : Nat} {e : EntryId} {payload : Option P}
    {pre : List ι} (hpre : NoDeadAck asOp pre)
    (hok : maxAttempts ≤ g.attemptsOf io e → io.acks = true →
      ∀ n s, Good (run s (ofOp (.deadLetter ⟨e, payload, n⟩))) e) (s : σ) :
    Run.Along run (Cleared asOp io Good) s
      (pre ++ (g.failed io maxAttempts e payload).map ofOp) := by
  rw [Run.along_append]
  refine ⟨hpre.along s, ?_⟩
  generalize Run.exec run s pre = t
  unfold Group.failed
  simp only
  split
  · next hmax =>
    rw [List.map_cons, List.map_cons, List.map_cons]
    refine ⟨?_, ?_, ?_, trivial⟩
    · intro e' he
      rw [hof] at he
      cases he
    · intro e' he
      rw [hof] at he
      cases he
    · intro e' he hio
      rw [hof, Option.some.injEq, GroupOp.deadAck.injEq] at he
      exact he ▸ hok hmax hio _ _
  · rw [List.map_cons]
    refine ⟨?_, trivial⟩
    intro e' he
    rw [hof] at he
    cases he

include hof in
/-- `except` の部分の最後の命令の前に、`dead_letter` の XACK は無い。 -/
theorem noDeadAck_dropLast {g : Group P} {maxAttempts : Nat} {e : EntryId} {payload : Option P}
    {pre : List ι} (hpre : NoDeadAck asOp pre) :
    NoDeadAck asOp (pre ++ (g.failed io maxAttempts e payload).map ofOp).dropLast := by
  have hfail : NoDeadAck asOp ((g.failed io maxAttempts e payload).map ofOp).dropLast := by
    unfold Group.failed
    simp only
    intro i hi e'
    split at hi
    · simp only [List.map_cons, List.map_nil, List.dropLast_cons_cons, List.dropLast_singleton,
        List.mem_cons, List.not_mem_nil, or_false] at hi
      rcases hi with rfl | rfl <;> (rw [hof]; simp)
    · simp at hi
  have hne : (g.failed io maxAttempts e payload).map ofOp ≠ [] := by
    simp [Group.failed]
  rw [List.dropLast_append_of_ne_nil hne]
  intro i hi
  rcases List.mem_append.mp hi with hi | hi
  · exact hpre i hi
  · exact hfail i hi

include hof in
/-- **一回の handler の命令の列は、`Good` でない entry を dead-letter として ack しない。** -/
theorem along_handler {g : Group P} {maxAttempts : Nat} {e : EntryId} {payload : Option P}
    {fault : Fault} {body tail : List ι} (hbody : NoDeadAck asOp body)
    (htail : NoDeadAck asOp tail)
    (hok : fault.crashAt = none → fault.raiseAt.isSome = true →
      maxAttempts ≤ g.attemptsOf io e → io.acks = true →
      ∀ n s, Good (run s (ofOp (.deadLetter ⟨e, payload, n⟩))) e) (s : σ) :
    Run.Along run (Cleared asOp io Good) s
      (fault.cut body tail ((g.failed io maxAttempts e payload).map ofOp)) := by
  have htake : ∀ k, NoDeadAck asOp (body.take k) := fun k i hi => hbody i (List.mem_of_mem_take hi)
  have hboth : NoDeadAck asOp (body ++ tail) := fun i hi =>
    (List.mem_append.mp hi).elim (hbody i) (htail i)
  unfold Fault.cut Fault.raised
  cases hcrash : fault.crashAt with
  | none =>
    simp only
    cases hraise : fault.raiseAt with
    | none => exact hboth.along s
    | some k =>
      exact along_failed hof (htake k) (hok hcrash (by rw [hraise]; rfl)) s
  | some j =>
    simp only
    cases hraise : fault.raiseAt with
    | none =>
      refine NoDeadAck.along (fun i hi => ?_) s
      exact hboth i (List.dropLast_subset _ (List.mem_of_mem_take hi))
    | some k =>
      refine NoDeadAck.along (fun i hi => ?_) s
      exact noDeadAck_dropLast hof (htake k) i (List.mem_of_mem_take hi)

end

/-! ## alert dispatcher -/

/-- 命令を group の命令と読む。 -/
def Instr.asOp : Instr → Option (GroupOp Finding)
  | consumer op => some op
  | _ => none

theorem Instr.asOp_consumer (op : GroupOp Finding) : (Instr.consumer op).asOp = some op := rfl

theorem Instr.drives (cfg : Config) (env : Env) :
    Drives (Instr.run cfg env) AlertDispatcher.consumer Instr.asOp env.link where
  step := by
    intro d i
    cases i with
    | consumer op => rfl
    | outcome e o => rfl
    | stash e key org item => exact (AlertDispatcher.framed_stash d env e key org item).consumer
    | takeStash key => exact (AlertDispatcher.framed_takeStash d env key).consumer
    | add m => rfl
    | flush => rfl
    | gate f ms => exact (AlertDispatcher.framed_gate cfg d env f ms).consumer
    | rate ms => exact (AlertDispatcher.framed_rate cfg d env ms).consumer
    | send f ms => exact (AlertDispatcher.framed_send d env f ms).consumer

/-! `_dispatch` は group に触れない。 -/

theorem asOp_dispatch (f : Finding) (ms : List Member) : ∀ i ∈ dispatch f ms, i.asOp = none := by
  intro i hi
  simp only [dispatch, List.mem_cons, List.not_mem_nil, or_false] at hi
  rcases hi with rfl | rfl | rfl <;> rfl

theorem asOp_dispatchAll (gs : List (Finding × List Member)) :
    ∀ i ∈ AlertDispatcher.dispatchAll gs, i.asOp = none := by
  intro i hi
  obtain ⟨g, -, hg⟩ := List.mem_flatMap.mp hi
  exact asOp_dispatch g.1 g.2 i hg

theorem asOp_idleFlush (d : AlertDispatcher) (env : Env) :
    ∀ i ∈ d.idleFlush env, i.asOp = none := by
  intro i hi
  rcases List.mem_cons.mp hi with rfl | hi
  · rfl
  · exact asOp_dispatchAll _ i hi

theorem asOp_flushDigests (d : AlertDispatcher) (org : String) (env : Env) :
    ∀ i ∈ d.flushDigests org env, i.asOp = none := by
  intro i hi
  rcases AlertDispatcher.of_mem_flushDigests hi with ⟨key, rfl⟩ | ⟨f, hi⟩
  · rfl
  · exact asOp_dispatch f [] i hi

namespace AlertDispatcher

variable (cfg : Config) (content : EntryId → Payload)

theorem noDeadAck_plan (d : AlertDispatcher) (e : EntryId) (env : Env) (f : Finding) :
    NoDeadAck Instr.asOp (d.plan cfg e env f).body ∧
      NoDeadAck Instr.asOp (d.plan cfg e env f).tail := by
  have htail : ∀ a b : GroupOp Finding, (∀ e', a ≠ .deadAck e') → (∀ e', b ≠ .deadAck e') →
      NoDeadAck Instr.asOp [.consumer a, .consumer b] := by
    intro a b ha hb i hi e'
    simp only [List.mem_cons, List.not_mem_nil, or_false] at hi
    rcases hi with rfl | rfl
    · simpa [Instr.asOp] using ha e'
    · simpa [Instr.asOp] using hb e'
  unfold plan
  split
  · refine ⟨?_, htail _ _ (by simp) (by simp)⟩
    intro i hi e'
    rw [List.mem_singleton.mp hi]
    simp [Instr.asOp]
  · refine ⟨?_, htail _ _ (by simp) (by simp)⟩
    intro i hi e'
    rw [List.mem_singleton.mp hi]
    simp [Instr.asOp]
  · refine ⟨?_, htail _ _ (by simp) (by simp)⟩
    intro i hi
    rcases List.mem_cons.mp hi with rfl | hi
    · simp [Instr.asOp]
    · rcases List.mem_cons.mp hi with rfl | hi
      · simp [Instr.asOp]
      · exact NoDeadAck.of_none (asOp_dispatchAll _) i hi

/--
dead-letter に移した entry が `Good` になるなら、handler の一回は、`Good` な entry だけを dead-letter として
ack する。
-/
theorem cleared_handleEntry {Good : AlertDispatcher → EntryId → Prop} {d : AlertDispatcher}
    {e : EntryId} {p : Payload} {env : Env} {fault : Fault}
    (hok : fault.crashAt = none → (fault.raiseAt.isSome = true ∨ p.finding = none) →
      cfg.maxAttempts ≤ d.consumer.attemptsOf env.link e → env.link.acks = true → ∀ n s,
        Good (Instr.run cfg env s
          (.consumer (.deadLetter ⟨e, p.finding.map (failedFinding cfg env), n⟩))) e) :
    Run.Along (Instr.run cfg env) (Cleared Instr.asOp env.link Good) d
      (d.handleEntry cfg e p env fault) := by
  unfold handleEntry
  cases hf : p.finding with
  | none =>
    rw [hf] at hok
    refine along_handler Instr.asOp_consumer (fun i hi => ?_) (fun i hi => ?_)
      (fun hcr _ => ?_) d
    · cases hi
    · cases hi
    · exact hok hcr (Or.inr rfl)
  | some f =>
    rw [hf] at hok
    obtain ⟨hbody, htail⟩ := noDeadAck_plan cfg d e env f
    exact along_handler Instr.asOp_consumer hbody htail (fun hcr hr => hok hcr (Or.inl hr)) d

/-- dead-letter stream の record が、entry の中身（経路の書き込みを除く）の写しである。 -/
def Copied (e : EntryId) (rec : DeadLetter Finding) : Prop :=
  rec.entryId = e ∧ ∃ f g, (content e).finding = some f ∧ rec.payload = some g ∧
    { g with routing := f.routing } = f

/--
`dead_letter` に来て XACK が届くときには、XADD も届き、中身は JSON の object である。
`dead_letter` に来るのは、decode できないか例外が起き、試行が尽きたときである。
-/
def DeadLetterOk (d : AlertDispatcher) : Event → Prop
  | .entry e env fault =>
    fault.crashAt = none → (fault.raiseAt.isSome = true ∨ (content e).finding = none) →
      cfg.maxAttempts ≤ d.consumer.attemptsOf env.link e → env.link.acks = true →
      env.link.deadLetters = true ∧ (content e).finding.isSome = true
  | _ => True

theorem copied_failedFinding {e : EntryId} {f : Finding} (h : (content e).finding = some f)
    (env : Env) (n : Nat) : Copied content e ⟨e, some (failedFinding cfg env f), n⟩ := by
  refine ⟨rfl, f, _, h, rfl, ?_⟩
  unfold failedFinding
  split
  · unfold routed
    split <;> rfl
  · rfl

theorem ackSafe_perform {d : AlertDispatcher} {env : Env} {fault : Fault} {is : List Instr}
    (h : AckSafe (Copied content) d.consumer)
    (hc : Run.Along (Instr.run cfg env)
      (Cleared Instr.asOp env.link fun d => d.consumer.Settled (Copied content)) d is) :
    AckSafe (Copied content) (d.perform cfg env fault is).consumer := by
  have := AckSafe.exec (Instr.drives cfg env) hc h
  unfold perform
  simp only
  split <;> exact this

/-- 事象一つは、条件の下で `AckSafe` を保つ。 -/
theorem ackSafe_step {d : AlertDispatcher} {ev : Event} (h : AckSafe (Copied content) d.consumer)
    (hc : DeadLetterOk cfg content d ev) :
    AckSafe (Copied content) (d.step cfg content ev).consumer := by
  have hcut : ∀ {env : Env} {fault : Fault} {is : List Instr}, (∀ i ∈ is, i.asOp = none) →
      AckSafe (Copied content) (d.perform cfg env fault (fault.cut is [] [])).consumer := by
    intro env fault is his
    refine ackSafe_perform cfg content h (NoDeadAck.along (NoDeadAck.of_none fun i hi => ?_) d)
    exact his i (Fault.mem_of_mem_cut hi)
  cases ev with
  | entry e env fault =>
    refine ackSafe_perform cfg content h (cleared_handleEntry cfg fun hcr hr hmax hio n s => ?_)
    obtain ⟨hdl, hsome⟩ := hc hcr hr hmax hio
    obtain ⟨f, hf⟩ := Option.isSome_iff_exists.mp hsome
    rw [hf]
    exact settled_deadLetter Instr.asOp_consumer (Instr.drives cfg env) hdl
      (copied_failedFinding cfg content hf env n) s
  | idle env fault => exact hcut (asOp_idleFlush d env)
  | digest org env fault => exact hcut (asOp_flushDigests d org env)
  | direct f env fault => exact hcut (asOp_dispatch f [])
  | restart => exact h

end AlertDispatcher

/-! ## analysis worker -/

/-- 命令を group の命令と読む。 -/
def WorkInstr.asOp : WorkInstr → Option (GroupOp SessionPayload)
  | consumer op => some op
  | _ => none

theorem WorkInstr.asOp_consumer (op : GroupOp SessionPayload) :
    (WorkInstr.consumer op).asOp = some op := rfl

theorem WorkInstr.drives (env : WorkEnv) :
    Drives (WorkInstr.run env) AnalysisWorker.consumer WorkInstr.asOp env.link where
  step := by
    intro w i
    cases i with
    | commitJob id org => exact AnalysisWorker.consumer_commitJob w id org
    | commitRow id row job => rfl
    | publish f => exact AnalysisWorker.consumer_publish w env.link f
    | consumer op => rfl

namespace AnalysisWorker

variable (eng : Engine) (cfg : WorkConfig) (content : EntryId → WorkEntry)

/-- dead-letter stream の record が、entry の中身の写しである。 -/
def Copied (e : EntryId) (rec : DeadLetter SessionPayload) : Prop :=
  rec.entryId = e ∧ ∃ p, (content e).payload = some p ∧ rec.payload = some p

/-- `dead_letter` に来て XACK が届くときには、XADD も届き、中身は JSON の object である。 -/
def DeadLetterOk (w : AnalysisWorker) : WorkEvent → Prop
  | .entry e env fault =>
    fault.crashAt = none →
      (fault.raiseAt.isSome = true ∨
        (content e).payload.bind (w.processOne eng cfg env) = none) →
      cfg.maxAttempts ≤ w.consumer.attemptsOf env.link e → env.link.acks = true →
      env.link.deadLetters = true ∧ (content e).payload.isSome = true
  | .restart => True

/-- `_process_one` の命令は group に触れない。 -/
theorem asOp_of_mem_processOne {w : AnalysisWorker} {env : WorkEnv} {p : SessionPayload}
    {body : List WorkInstr} (h : w.processOne eng cfg env p = some body) :
    ∀ i ∈ body, i.asOp = none := by
  unfold processOne at h
  split at h
  · simp only at h
    split at h
    · rw [Option.some.injEq] at h
      subst h
      intro i hi
      cases hi
    · rw [Option.some.injEq] at h
      subst h
      intro i hi
      simp only [persist, List.mem_cons, List.not_mem_nil, or_false] at hi
      rcases hi with rfl | rfl | rfl <;> rfl
  · cases h

theorem noDeadAck_tail (e : EntryId) :
    NoDeadAck WorkInstr.asOp [.consumer (.clearAttempts e), .consumer (.ack e)] := by
  intro i hi e'
  simp only [List.mem_cons, List.not_mem_nil, or_false] at hi
  rcases hi with rfl | rfl <;> simp [WorkInstr.asOp]

/-- 事象一つは、条件の下で `AckSafe` を保つ。 -/
theorem ackSafe_step {w : AnalysisWorker} {ev : WorkEvent}
    (h : AckSafe (Copied content) w.consumer) (hc : DeadLetterOk eng cfg content w ev) :
    AckSafe (Copied content) (w.step eng cfg content ev).consumer := by
  cases ev with
  | restart => exact h
  | entry e env fault =>
    refine AckSafe.exec (WorkInstr.drives env) ?_ h
    have hok : fault.crashAt = none →
        (fault.raiseAt.isSome = true ∨
          (content e).payload.bind (w.processOne eng cfg env) = none) →
        cfg.maxAttempts ≤ w.consumer.attemptsOf env.link e → env.link.acks = true →
        ∀ n t, (WorkInstr.run env t
          (.consumer (.deadLetter ⟨e, (content e).payload, n⟩))).consumer.Settled
            (Copied content) e := by
      intro hcr hr hmax hio n
      obtain ⟨hdl, hsome⟩ := hc hcr hr hmax hio
      obtain ⟨p, hp⟩ := Option.isSome_iff_exists.mp hsome
      exact settled_deadLetter WorkInstr.asOp_consumer (WorkInstr.drives env) hdl ⟨rfl, p, hp, hp⟩
    unfold handleEntry
    split
    · exact trivial
    · simp only
      split
      · next hnone =>
        refine along_handler WorkInstr.asOp_consumer (fun i hi => ?_) (fun i hi => ?_)
          (fun hcr _ => ?_) w
        · cases hi
        · cases hi
        · exact hok hcr (Or.inr hnone)
      · next body hbody =>
        obtain ⟨p, -, hp⟩ := Option.bind_eq_some_iff.mp hbody
        have hnone := asOp_of_mem_processOne eng cfg hp
        refine along_handler WorkInstr.asOp_consumer (fun i hi e' => ?_) (noDeadAck_tail e)
          (fun hcr hr => hok hcr (Or.inl hr)) w
        rw [hnone i hi]
        simp

end AnalysisWorker

/-! ## 二つの consumer -/

/--
analysis worker と alert dispatcher のどの run でも、`dead_letter` の XADD が XACK と揃って成否を
分け、dead-letter に移す entry が JSON の object なら、pending list から外れた entry は、handler が
成功したか、dead-letter stream に写しがある。
-/
theorem acked_settled (cfg : Config) (content : EntryId → Payload) (es pre : List Event)
    (hp : pre <+: es) (eng : Engine) (workCfg : WorkConfig) (workContent : EntryId → WorkEntry)
    (workEs workPre : List WorkEvent) (hwork : workPre <+: workEs) :
    (Run.Along (AlertDispatcher.step cfg content) (AlertDispatcher.DeadLetterOk cfg content) {} es →
      AckSafe (AlertDispatcher.Copied content)
        (Run.exec (AlertDispatcher.step cfg content) {} pre).consumer) ∧
    (Run.Along (AnalysisWorker.step eng workCfg workContent)
        (AnalysisWorker.DeadLetterOk eng workCfg workContent) {} workEs →
      AckSafe (AnalysisWorker.Copied workContent)
        (Run.exec (AnalysisWorker.step eng workCfg workContent) {} workPre).consumer) := by
  constructor
  · intro hc
    refine Run.Along.invariant_isPrefix (I := fun d => AckSafe _ d.consumer)
      (fun _ _ h hc => AlertDispatcher.ackSafe_step cfg content h hc) hc ?_ hp
    intro e he
    cases he
  · intro hc
    refine Run.Along.invariant_isPrefix (I := fun w => AckSafe _ w.consumer)
      (fun _ _ h hc => AnalysisWorker.ackSafe_step eng workCfg workContent h hc) hc ?_ hwork
    intro e he
    cases he

/-- どの session の解析も失敗する engine。 -/
def failingEngine : Engine := { analyze := fun _ => none, sha256 := fun s => s }

/-- 五回配達される entry。最後の配達だけ Redis の様子が `io` である。 -/
def fiveAttempts (io : Link) : List WorkEvent :=
  [.entry 7 { now := 1 } {}, .entry 7 { now := 2 } {}, .entry 7 { now := 3 } {},
    .entry 7 { now := 4 } {}, .entry 7 { now := 5, link := io } {}]

/-- Redis が応答していれば、五回目の失敗で写しを残して ack する。 -/
theorem acked_settled_five :
    AckSafe (AnalysisWorker.Copied fun _ => .object {})
      (Run.exec (AnalysisWorker.step failingEngine {} fun _ => .object {}) {}
        (fiveAttempts {})).consumer ∧
    7 ∈ (Run.exec (AnalysisWorker.step failingEngine {} fun _ => .object {}) {}
      (fiveAttempts {})).consumer.acked := by
  refine ⟨(acked_settled {} (fun _ => .garbage) [] [] (List.prefix_refl _) failingEngine {}
    (fun _ => .object {}) (fiveAttempts {}) _ (List.prefix_refl _)).2 ?_, by decide⟩
  exact ⟨fun _ _ _ _ => ⟨rfl, rfl⟩, fun _ _ _ _ => ⟨rfl, rfl⟩, fun _ _ _ _ => ⟨rfl, rfl⟩,
    fun _ _ _ _ => ⟨rfl, rfl⟩, fun _ _ _ _ => ⟨rfl, rfl⟩, trivial⟩

/-- 五回目に dead-letter の XADD だけが失敗すると、entry は写しの無いまま ack される。 -/
theorem acked_without_copy :
    7 ∈ (Run.exec (AnalysisWorker.step failingEngine {} fun _ => .object {}) {}
      (fiveAttempts { dlqOk := false })).consumer.acked ∧
    (Run.exec (AnalysisWorker.step failingEngine {} fun _ => .object {}) {}
      (fiveAttempts { dlqOk := false })).consumer.dlq = [] ∧
    ¬AckSafe (AnalysisWorker.Copied fun _ => .object {})
      (Run.exec (AnalysisWorker.step failingEngine {} fun _ => .object {}) {}
        (fiveAttempts { dlqOk := false })).consumer := by
  refine ⟨by decide, by decide, fun h => ?_⟩
  rcases h 7 (by decide) with hcomp | ⟨rec, hrec, -⟩
  · exact absurd hcomp (by decide)
  · exact absurd hrec (by
      rw [show (Run.exec (AnalysisWorker.step failingEngine {} fun _ => .object {}) {}
        (fiveAttempts { dlqOk := false })).consumer.dlq = [] by decide]
      exact List.not_mem_nil)

end CipherPost.Live
