import CipherPost.Live.AlertInvariants
import CipherPost.Live.DeadLetter

/-!
# ack された finding の行き先

findings stream の entry は、group に入れただけで ack される。保留窓が閉じるまでの間、その finding は
process のメモリにしか無い。

* `AlertDispatcher.Disposed` — entry の finding に行き先があること
* `AlertDispatcher.CoverOk` — 一つの呼び出しが、行き先の無い entry を ack しない条件
* `acked_disposed` — その条件の下での run の性質
-/

namespace CipherPost.Live

namespace AlertDispatcher

/-! ## 行き先 -/

/--
entry の finding が閾値・suppression・digest・dedup・rate のどれかで終わったか、それを代表する
alert が出たか、dead-letter stream に写しがある。どれもメモリの外の事実である。
-/
def Disposed (d : AlertDispatcher) (e : EntryId) : Prop :=
  (∃ o, (e, o) ∈ d.journal.outcomes) ∨ (∃ s ∈ d.sent, ∃ m ∈ s.members, m.id = e) ∨
    ∃ rec ∈ d.consumer.dlq, rec.entryId = e

/-- 行き先の記録は増えるだけである。 -/
structure Grows (d d' : AlertDispatcher) : Prop where
  outcomes : d.journal.outcomes ⊆ d'.journal.outcomes
  sent : d.sent ⊆ d'.sent
  dlq : d.consumer.dlq ⊆ d'.consumer.dlq

theorem Disposed.mono {d d' : AlertDispatcher} {e : EntryId} (h : d.Disposed e)
    (hg : Grows d d') : d'.Disposed e := by
  rcases h with ⟨o, ho⟩ | ⟨s, hs, hm⟩ | ⟨rec, hr, he⟩
  · exact Or.inl ⟨o, hg.outcomes ho⟩
  · exact Or.inr (Or.inl ⟨s, hg.sent hs, hm⟩)
  · exact Or.inr (Or.inr ⟨rec, hg.dlq hr, he⟩)

theorem Grows.refl (d : AlertDispatcher) : Grows d d := ⟨fun _ h => h, fun _ h => h, fun _ h => h⟩

theorem Grows.trans {d₁ d₂ d₃ : AlertDispatcher} (h : Grows d₁ d₂) (h' : Grows d₂ d₃) :
    Grows d₁ d₃ :=
  ⟨fun _ hx => h'.outcomes (h.outcomes hx), fun _ hx => h'.sent (h.sent hx),
    fun _ hx => h'.dlq (h.dlq hx)⟩

/-- 行き先の記録だけが増える変更。 -/
theorem grows_outcomes {d d' : AlertDispatcher} (xs : List (EntryId × Outcome))
    (ho : d'.journal.outcomes = d.journal.outcomes ++ xs) (hs : d'.sent = d.sent)
    (hq : d'.consumer.dlq = d.consumer.dlq) : Grows d d' where
  outcomes := fun _ h => ho ▸ List.mem_append_left _ h
  sent := fun _ h => hs ▸ h
  dlq := fun _ h => hq ▸ h

variable (cfg : Config) (content : EntryId → Payload) (env : Env)

theorem grows_gate (d : AlertDispatcher) (f : Finding) (ms : List Member) :
    Grows d (d.gate cfg env f ms) := by
  unfold gate
  split
  · exact grows_outcomes _ rfl rfl rfl
  · simp only
    split
    · exact grows_outcomes [] (List.append_nil _).symm rfl rfl
    · exact grows_outcomes _ rfl rfl rfl

theorem grows_rate (d : AlertDispatcher) (ms : List Member) : Grows d (d.rate cfg env ms) := by
  unfold rate
  split
  · simp only
    split
    · exact grows_outcomes [] (List.append_nil _).symm rfl rfl
    · exact grows_outcomes _ rfl rfl rfl
  · exact Grows.refl d

theorem grows_send (d : AlertDispatcher) (f : Finding) (ms : List Member) :
    Grows d (d.send env f ms) := by
  unfold send
  split
  · exact ⟨fun _ h => h, fun _ h => List.mem_append_left _ h, fun _ h => h⟩
  · exact Grows.refl d

theorem grows_apply (d : AlertDispatcher) (io : Link) (op : GroupOp Finding) :
    Grows d { d with consumer := d.consumer.apply io op } :=
  ⟨fun _ h => h, fun _ h => h, Group.dlq_subset_apply io d.consumer op⟩

/-- 命令は、行き先のある entry を行き先のあるままにする。 -/
theorem grows_run (d : AlertDispatcher) (i : Instr) : Grows d (i.run cfg env d) := by
  cases i with
  | consumer op => exact grows_apply d env.link op
  | outcome e o => exact grows_outcomes [(e, o)] rfl rfl rfl
  | stash e key org item =>
    show Grows d (d.stash env e key org item)
    unfold stash
    split
    · simp only
      split
      · exact grows_outcomes [(e, .stashed)] rfl rfl rfl
      · exact grows_outcomes [] (List.append_nil _).symm rfl rfl
    · exact Grows.refl d
  | takeStash key =>
    show Grows d (d.takeStash env key)
    unfold takeStash
    split
    · exact grows_outcomes [] (List.append_nil _).symm rfl rfl
    · exact Grows.refl d
  | add m => exact grows_outcomes [] (List.append_nil _).symm rfl rfl
  | flush => exact grows_outcomes [] (List.append_nil _).symm rfl rfl
  | gate f ms => exact grows_gate cfg env d f ms
  | rate ms => exact grows_rate cfg env d ms
  | send f ms => exact grows_send env d f ms

theorem grows_exec : ∀ (is : List Instr) (d : AlertDispatcher),
    Grows d (Run.exec (Instr.run cfg env) d is)
  | [], d => Grows.refl d
  | i :: is, d => (grows_run cfg env d i).trans (grows_exec is _)

/-! ## `_dispatch` -/

theorem disposed_conclude (d : AlertDispatcher) {ms : List Member} {m : Member} (hm : m ∈ ms)
    (o : Outcome) : (d.conclude ms o).Disposed m.id := by
  refine Or.inl ⟨o, List.mem_append_right _ ?_⟩
  exact List.mem_map_of_mem (f := fun m : Member => (m.id, o)) hm

/-- 閾値と dedup を通らなかった finding には行き先がある。 -/
theorem live_gate_or_disposed (d : AlertDispatcher) (f : Finding) {ms : List Member} {m : Member}
    (hm : m ∈ ms) : (d.gate cfg env f ms).live = true ∨ (d.gate cfg env f ms).Disposed m.id := by
  unfold gate
  split
  · exact Or.inr (disposed_conclude d hm _)
  · simp only
    split
    · exact Or.inl rfl
    · exact Or.inr (disposed_conclude d hm _)

theorem live_rate_or_disposed {d : AlertDispatcher} (hlive : d.live = true) {ms : List Member}
    {m : Member} (hm : m ∈ ms) :
    (d.rate cfg env ms).live = true ∨ (d.rate cfg env ms).Disposed m.id := by
  unfold rate
  rw [if_pos hlive]
  simp only
  split
  · exact Or.inl hlive
  · exact Or.inr (disposed_conclude _ hm _)

theorem disposed_send {d : AlertDispatcher} (hlive : d.live = true) (f : Finding)
    {ms : List Member} {m : Member} (hm : m ∈ ms) : (d.send env f ms).Disposed m.id := by
  unfold send
  rw [if_pos hlive]
  exact Or.inr (Or.inl ⟨_, List.mem_append_right _ (List.mem_singleton_self _), m, hm, rfl⟩)

/-- **`_dispatch` を終えれば、どの member にも行き先がある。** -/
theorem disposed_dispatch (d : AlertDispatcher) (f : Finding) {ms : List Member} {m : Member}
    (hm : m ∈ ms) : (Run.exec (Instr.run cfg env) d (dispatch f ms)).Disposed m.id := by
  show (((d.gate cfg env f ms).rate cfg env ms).send env f ms).Disposed m.id
  rcases live_gate_or_disposed cfg env d f hm with hlive | hdone
  · rcases live_rate_or_disposed cfg env hlive hm with hlive | hdone
    · exact disposed_send env hlive f hm
    · exact hdone.mono (grows_send env _ f ms)
  · exact hdone.mono ((grows_rate cfg env _ ms).trans (grows_send env _ f ms))

theorem disposed_dispatchAll {g : Finding × List Member} {m : Member} (hm : m ∈ g.2) :
    ∀ {gs : List (Finding × List Member)} (d : AlertDispatcher), g ∈ gs →
      (Run.exec (Instr.run cfg env) d (dispatchAll gs)).Disposed m.id
  | [], _, hg => absurd hg List.not_mem_nil
  | h :: gs, d, hg => by
    rw [show dispatchAll (h :: gs) = dispatch h.1 h.2 ++ dispatchAll gs from rfl, Run.exec_append]
    rcases List.mem_cons.mp hg with rfl | hg
    · exact (disposed_dispatch cfg env d g.1 hm).mono (grows_exec cfg env _ _)
    · exact disposed_dispatchAll hm _ hg

/-! ## 一つの呼び出し -/

/-- finding の bucket が、追加と同じ呼び出しで flush される。 -/
def FlushesNow (d : AlertDispatcher) (f : Finding) : Prop :=
  match d.groups.buckets.get? (groupKeyOf f) with
  | some b => b.deadline ≤ env.now
  | none => cfg.holdSeconds = 0

/--
行き先の無い entry の XACK が届くときの条件。

* group に入れる finding は、その呼び出しの中で flush される
* digest に貯める finding は、Redis に書かれる
* `dead_letter` に来たら、XADD も届く
-/
def CoverOk (d : AlertDispatcher) : Event → Prop
  | .entry e env fault =>
    env.link.acks = true → ¬d.Disposed e →
      (∀ f, (content e).finding = some f → fault.raiseAt = none →
        match triage cfg env f with
        | .drop _ => True
        | .stash _ => fault.reaches 2 = true → env.link.stashes = true
        | .group => fault.crashAt = none → d.FlushesNow cfg env f) ∧
      (fault.crashAt = none → (fault.raiseAt.isSome = true ∨ (content e).finding = none) →
        cfg.maxAttempts ≤ d.consumer.attemptsOf env.link e → env.link.deadLetters = true)
  | _ => True

/-- pending list から外れた entry には、どれも行き先がある。 -/
def AckDisposed (d : AlertDispatcher) : Prop := ∀ e ∈ d.consumer.acked, d.Disposed e

/-- handler が成功したときの XACK が届くなら、その entry には行き先がある。 -/
def Covered (d : AlertDispatcher) (i : Instr) : Prop :=
  ∀ e, i = .consumer (.ack e) → env.link.acks = true → d.Disposed e

theorem AckDisposed.run {d : AlertDispatcher} {i : Instr} (h : d.AckDisposed)
    (hack : Covered env d i) (hdead : Cleared Instr.asOp env.link Disposed d i) :
    (i.run cfg env d).AckDisposed := by
  intro e he
  refine Disposed.mono ?_ (grows_run cfg env d i)
  rw [(Instr.drives cfg env).step] at he
  split at he
  · next op hop =>
    rcases Group.mem_acked_apply he with he | ⟨hio, rfl | rfl⟩
    · exact h e he
    · refine hack e ?_ hio
      cases i <;> simp_all [Instr.asOp]
    · exact hdead e hop hio
  · exact h e he

/-- handler が成功したときの XACK を含まない列。 -/
def NoAck (is : List Instr) : Prop := ∀ i ∈ is, ∀ e, i ≠ .consumer (.ack e)

theorem NoAck.along {is : List Instr} (h : NoAck is) (d : AlertDispatcher) :
    Run.Along (Instr.run cfg env) (Covered env) d is :=
  (Run.along_of_mem h).imp fun _ _ hne e he => absurd he (hne e)

theorem NoAck.append {is js : List Instr} (h : NoAck is) (h' : NoAck js) : NoAck (is ++ js) :=
  fun i hi => (List.mem_append.mp hi).elim (h i) (h' i)

theorem NoAck.take {is : List Instr} (h : NoAck is) (k : Nat) : NoAck (is.take k) :=
  fun i hi => h i (List.mem_of_mem_take hi)

theorem NoAck.of_none {is : List Instr} (h : ∀ i ∈ is, i.asOp = none) : NoAck is := by
  intro i hi e he
  have := h i hi
  rw [he] at this
  cases this

theorem noAck_failure (d : AlertDispatcher) (e : EntryId) (payload : Option Finding) :
    NoAck (d.failure cfg e env payload) := by
  intro i hi e'
  obtain ⟨op, hop, rfl⟩ := List.mem_map.mp hi
  unfold Group.failed at hop
  simp only at hop
  split at hop
  · simp only [List.mem_cons, List.not_mem_nil, or_false] at hop
    rcases hop with rfl | rfl | rfl <;> simp
  · rw [List.mem_singleton.mp hop]
    simp

/-- `body` の後に行き先のある entry の XACK は、いつ行ってもよい。 -/
theorem along_covered {d : AlertDispatcher} {e : EntryId} {body tail : List Instr}
    (hbody : NoAck body) (htail : ∀ i ∈ tail, ∀ e', i = .consumer (.ack e') → e' = e)
    (hd : env.link.acks = true → (Run.exec (Instr.run cfg env) d body).Disposed e) :
    Run.Along (Instr.run cfg env) (Covered env) d (body ++ tail) := by
  rw [Run.along_append]
  refine ⟨hbody.along cfg env d, ?_⟩
  generalize Run.exec (Instr.run cfg env) d body = t at hd
  clear hbody
  induction tail generalizing t with
  | nil => trivial
  | cons i tail ih =>
    refine ⟨fun e' he hio => ?_, ih (fun j hj => htail j (List.mem_cons_of_mem _ hj)) _ ?_⟩
    · exact htail i List.mem_cons_self e' he ▸ hd hio
    · exact fun hio => (hd hio).mono (grows_run cfg env t i)

/-- group に入れた finding は、その呼び出しで flush されれば行き先がある。 -/
theorem disposed_of_flushesNow {d : AlertDispatcher} {f : Finding}
    (h : d.FlushesNow cfg env f) (m : Member) (hm : groupKeyOf m.finding = groupKeyOf f) :
    (Run.exec (Instr.run cfg env) d (.add m :: .flush ::
      dispatchAll (dueGroups (d.groups.add m env.now cfg.holdSeconds) env.now m.finding))).Disposed
      m.id := by
  have hdue : ∃ b ∈ (d.groups.add m env.now cfg.holdSeconds).due env.now, m ∈ b.members := by
    have hget := d.groups.get?_add m env.now cfg.holdSeconds (groupKeyOf m.finding)
    rw [if_pos rfl] at hget
    unfold FlushesNow at h
    rw [← hm] at h
    cases hb : d.groups.buckets.get? (groupKeyOf m.finding) with
    | none =>
      rw [hb] at hget h
      refine ⟨_, GroupBuffer.mem_due.mpr ⟨_, hget, ?_⟩, List.mem_singleton_self m⟩
      exact Nat.le_of_eq (congrArg (env.now + ·) h)
    | some b =>
      rw [hb] at hget h
      refine ⟨_, GroupBuffer.mem_due.mpr ⟨_, hget, ?_⟩, ?_⟩
      · rw [Bucket.deadline_merge]
        exact h
      · rw [Bucket.members_merge]
        exact List.mem_append_right _ (List.mem_singleton_self m)
  obtain ⟨b, hb, hmem⟩ := hdue
  rw [Run.exec_cons, Run.exec_cons]
  exact disposed_dispatchAll cfg env (g := (b.over m.finding, b.members)) hmem _
    (List.mem_map_of_mem (f := fun b : Bucket => (b.over m.finding, b.members)) hb)

theorem noAck_plan (d : AlertDispatcher) (e : EntryId) (f : Finding) :
    NoAck (d.plan cfg e env f).body := by
  unfold plan
  split
  · intro i hi e'
    rw [List.mem_singleton.mp hi]
    simp
  · intro i hi e'
    rw [List.mem_singleton.mp hi]
    simp
  · intro i hi
    rcases List.mem_cons.mp hi with rfl | hi
    · simp
    · rcases List.mem_cons.mp hi with rfl | hi
      · simp
      · exact NoAck.of_none (asOp_dispatchAll _) i hi

theorem eq_of_ack_mem_plan (d : AlertDispatcher) (e : EntryId) (f : Finding) :
    ∀ i ∈ (d.plan cfg e env f).tail, ∀ e', i = .consumer (.ack e') → e' = e := by
  intro i hi e' he
  unfold plan at hi
  split at hi <;>
    (simp only [List.mem_cons, List.not_mem_nil, or_false] at hi
     rcases hi with rfl | rfl <;> simp_all)

/-- `body` の終わりで行き先のある entry の XACK は、途中で止まる列でも、いつ行ってもよい。 -/
theorem covered_cut {d : AlertDispatcher} {e : EntryId} {fault : Fault}
    {body tail except : List Instr} (hbody : NoAck body)
    (htail : ∀ i ∈ tail, ∀ e', i = .consumer (.ack e') → e' = e) (hexcept : NoAck except)
    (hd : fault.raiseAt = none → env.link.acks = true →
      (Run.exec (Instr.run cfg env) d body).Disposed e) :
    Run.Along (Instr.run cfg env) (Covered env) d (fault.cut body tail except) :=
  Fault.along_cut (fun hr => along_covered cfg env hbody htail (hd hr))
    (fun k _ => ((hbody.take k).append hexcept).along cfg env d)

/-- 二つ目の命令に届かずに止まれば、一つ目しか行われない。 -/
theorem noAck_cut_single {fault : Fault} (hr : fault.raiseAt = none) (hstop : fault.reaches 2 = false)
    {i₀ : Instr} (h₀ : ∀ e, i₀ ≠ .consumer (.ack e)) (tail except : List Instr) :
    NoAck (fault.cut [i₀] tail except) := by
  intro i hi
  rcases Fault.exists_of_not_reaches hstop with ⟨k, hk, -⟩ | ⟨k, hk, hk1⟩
  · rw [hr] at hk
    cases hk
  · rw [Fault.cut_of_crash hr hk] at hi
    have hmem := List.take_subset_take_left _ hk1 hi
    rw [List.dropLast_eq_take, List.take_take] at hmem
    have hone := List.take_subset_take_left _ (Nat.min_le_left 1 _) hmem
    rw [List.mem_singleton.mp hone]
    exact h₀

/-- 途中で止まれば、最後の XACK は行われない。 -/
theorem noAck_cut_crash {fault : Fault} (hr : fault.raiseAt = none) {k : Nat}
    (hk : fault.crashAt = some k) {body : List Instr} (hbody : NoAck body) (e : EntryId)
    (except : List Instr) :
    NoAck (fault.cut body [.consumer (.clearAttempts e), .consumer (.ack e)] except) := by
  rw [Fault.cut_of_crash hr hk, List.dropLast_append_of_ne_nil (List.cons_ne_nil _ _)]
  refine NoAck.take (hbody.append fun i hi e' => ?_) k
  rw [List.mem_singleton.mp hi]
  simp

/-- 例外が無いのに行き先の無いままなら、条件により XACK の前に止まっている。 -/
theorem noAck_of_not_disposed {d : AlertDispatcher} {e : EntryId} {f : Finding} {fault : Fault}
    (hr : fault.raiseAt = none)
    (hd : ¬(Run.exec (Instr.run cfg env) d (d.plan cfg e env f).body).Disposed e)
    (hc : match triage cfg env f with
      | .drop _ => True
      | .stash _ => fault.reaches 2 = true → env.link.stashes = true
      | .group => fault.crashAt = none → d.FlushesNow cfg env f) (except : List Instr) :
    NoAck (fault.cut (d.plan cfg e env f).body (d.plan cfg e env f).tail except) := by
  have hbody := noAck_plan cfg env d e f
  unfold plan at hd hbody ⊢
  cases ht : triage cfg env f with
  | drop o =>
    rw [ht] at hd
    exact absurd (Or.inl ⟨o, List.mem_append_right _ (List.mem_singleton_self _)⟩) hd
  | stash key =>
    simp only [ht] at hc hd
    have hstop : fault.reaches 2 = false := by
      rw [Bool.eq_false_iff]
      intro hreach
      refine hd (Or.inl ⟨.stashed, ?_⟩)
      show (e, Outcome.stashed) ∈ (d.stash env e key _ _).journal.outcomes
      have hlink : env.link.setexes = true ∧ env.link.saddOk = true :=
        Bool.and_eq_true_iff.mp (hc hreach)
      unfold stash
      rw [if_pos hlink.1]
      simp only
      rw [if_pos hlink.2]
      exact List.mem_append_right _ (List.mem_singleton_self _)
    exact noAck_cut_single hr hstop (fun _ h => by cases h) _ _
  | group =>
    simp only [ht] at hc hd hbody
    cases hcrash : fault.crashAt with
    | none =>
      refine absurd ?_ hd
      exact disposed_of_flushesNow cfg env (hc hcrash) ⟨e, routed env f⟩ (groupKeyOf_routed env f)
    | some k => exact noAck_cut_crash hr hcrash hbody e _

/-- **handler の命令の列に沿って、行き先の無い entry の XACK は行われない。** -/
theorem covered_handleEntry {d : AlertDispatcher} {e : EntryId} {fault : Fault}
    (hc : env.link.acks = true → ¬d.Disposed e →
      ∀ f, (content e).finding = some f → fault.raiseAt = none →
        match triage cfg env f with
        | .drop _ => True
        | .stash _ => fault.reaches 2 = true → env.link.stashes = true
        | .group => fault.crashAt = none → d.FlushesNow cfg env f) :
    Run.Along (Instr.run cfg env) (Covered env) d (d.handleEntry cfg e (content e) env fault) := by
  unfold handleEntry
  cases hf : (content e).finding with
  | none =>
    refine covered_cut (e := e) cfg env (fun i hi => ?_) (fun i hi => ?_)
      (noAck_failure cfg env d e none) (fun hr => ?_)
    · cases hi
    · cases hi
    · cases hr
  | some f =>
    simp only
    by_cases hd : fault.raiseAt = none → env.link.acks = true →
        (Run.exec (Instr.run cfg env) d (d.plan cfg e env f).body).Disposed e
    · exact covered_cut cfg env (noAck_plan cfg env d e f) (eq_of_ack_mem_plan cfg env d e f)
        (noAck_failure cfg env d e _) hd
    · rw [Classical.not_imp, Classical.not_imp] at hd
      obtain ⟨hr, hio, hd⟩ := hd
      -- body は行き先を増やすだけなので、呼び出しの前にも行き先は無い
      have hc := hc hio (fun h => hd (h.mono (grows_exec cfg env _ d))) f hf hr
      exact NoAck.along cfg env (noAck_of_not_disposed cfg env hr hd hc _) d

variable {content}

/-- 写しを書けた entry には行き先がある。 -/
theorem disposed_deadLetter {env : Env} (hio : env.link.deadLetters = true) {e : EntryId}
    {payload : Option Finding} (n : Nat) (d : AlertDispatcher) :
    (Instr.run cfg env d (.consumer (.deadLetter ⟨e, payload, n⟩))).Disposed e := by
  refine Or.inr (Or.inr ⟨⟨e, payload, n⟩, ?_, rfl⟩)
  show _ ∈ (d.consumer.apply env.link (.deadLetter ⟨e, payload, n⟩)).dlq
  simp only [Group.apply, hio, if_true]
  exact List.mem_append_right _ (List.mem_singleton_self _)

theorem disposed_restart {d : AlertDispatcher} {e : EntryId} (h : d.Disposed e) :
    d.restart.Disposed e := h

theorem AckDisposed.perform {d : AlertDispatcher} (h : d.AckDisposed) {env : Env} {fault : Fault}
    {is : List Instr} (hack : Run.Along (Instr.run cfg env) (Covered env) d is)
    (hdead : Run.Along (Instr.run cfg env) (Cleared Instr.asOp env.link Disposed) d is) :
    (d.perform cfg env fault is).AckDisposed := by
  have hexec : (Run.exec (Instr.run cfg env) d is).AckDisposed :=
    Run.Along.invariant (fun _ _ h hc => h.run cfg env hc.1 hc.2) (hack.and hdead) h
  unfold AlertDispatcher.perform
  simp only
  split
  · exact fun e he => disposed_restart (hexec e he)
  · exact hexec

/-- **事象一つは、条件の下で `AckDisposed` を保つ。** -/
theorem ackDisposed_step {d : AlertDispatcher} {ev : Event} (h : d.AckDisposed)
    (hc : CoverOk cfg content d ev) : (d.step cfg content ev).AckDisposed := by
  have hquiet : ∀ {env : Env} {fault : Fault} {is : List Instr}, (∀ i ∈ is, i.asOp = none) →
      (d.perform cfg env fault (fault.cut is [] [])).AckDisposed := by
    intro env fault is his
    have hcut : ∀ i ∈ fault.cut is [] [], i.asOp = none := fun i hi => his i (Fault.mem_of_mem_cut hi)
    exact h.perform cfg ((NoAck.of_none hcut).along cfg env d) ((NoDeadAck.of_none hcut).along d)
  cases ev with
  | entry e env fault =>
    refine h.perform cfg (covered_handleEntry cfg content env fun hio hd => (hc hio hd).1) ?_
    have hgood : Run.Along (Instr.run cfg env)
        (Cleared Instr.asOp env.link fun t e => Grows d t → t.Disposed e) d
        (d.handleEntry cfg e (content e) env fault) := by
      refine cleared_handleEntry cfg fun hcr hr hmax hio n t hg => ?_
      -- 呼び出しの前に行き先のあった entry は、途中でも行き先がある
      by_cases hd : d.Disposed e
      · exact hd.mono hg
      · exact disposed_deadLetter cfg ((hc hio hd).2 hcr hr hmax) n t
    refine (hgood.and (Run.along_of_invariant (fun t i hg => hg.trans (grows_run cfg env t i)) _
      (Grows.refl d))).imp fun t i h e' he hio => h.1 e' he hio h.2
  | idle env fault => exact hquiet (asOp_idleFlush d env)
  | digest org env fault => exact hquiet (asOp_flushDigests d org env)
  | direct f env fault => exact hquiet (asOp_dispatch f [])
  | restart => exact fun e he => disposed_restart (h e he)

end AlertDispatcher

/--
空の状態から始まる run で、どの呼び出しも、行き先の無い entry を ack しない条件を満たすなら、
pending list から外れた entry にはどれも行き先があり、その直後に process が止まってもそれは
変わらない。
-/
theorem acked_disposed (cfg : Config) (content : EntryId → Payload) (es pre : List Event)
    (hc : Run.Along (AlertDispatcher.step cfg content) (AlertDispatcher.CoverOk cfg content) {} es)
    (hp : pre <+: es) :
    ∀ e ∈ (Run.exec (AlertDispatcher.step cfg content) {} pre).consumer.acked,
      (Run.exec (AlertDispatcher.step cfg content) {} pre).Disposed e ∧
        (Run.exec (AlertDispatcher.step cfg content) {} pre).restart.Disposed e := by
  have h : (Run.exec (AlertDispatcher.step cfg content) {} pre).AckDisposed := by
    refine Run.Along.invariant_isPrefix
      (fun _ _ h hc => AlertDispatcher.ackDisposed_step cfg h hc) hc ?_ hp
    intro e he
    cases he
  exact fun e he => ⟨h e he, AlertDispatcher.disposed_restart (h e he)⟩

/-- 深刻度が `high` の finding。 -/
def weakCipher : Finding := { severity := .value "high", server := .value "mx" }

/-- 保留窓が無ければ、ack された entry の alert は出ている。 -/
theorem acked_disposed_unheld :
    let d := Run.exec (AlertDispatcher.step { holdSeconds := 0 } fun _ => .object weakCipher) {}
      [.entry 1 { now := 0 } {}, .restart]
    1 ∈ d.consumer.acked ∧ d.Disposed 1 := by
  have hacked : 1 ∈ (Run.exec
      (AlertDispatcher.step { holdSeconds := 0 } fun _ => .object weakCipher) {}
      [.entry 1 { now := 0 } {}, .restart]).consumer.acked := by decide
  refine ⟨hacked, (acked_disposed { holdSeconds := 0 } (fun _ => .object weakCipher)
    [.entry 1 { now := 0 } {}, .restart] _ ⟨fun _ _ => ⟨fun f hf _ => ?_, fun _ hr _ => ?_⟩,
      trivial, trivial⟩ (List.prefix_refl _) 1 hacked).1⟩
  · cases hf
    exact fun _ => rfl
  · rcases hr with hr | hr <;> cases hr

/-- 保留窓の間に process が止まり、窓の時刻を過ぎてから idle になった run の終わり。 -/
def stoppedInWindow : AlertDispatcher :=
  Run.exec (AlertDispatcher.step {} fun _ => .object weakCipher) {}
    [.entry 1 { now := 0 } {}, .restart, .idle { now := 20 } {}]

/-- 保留窓の間に process が止まると、ack された finding の alert はもう出ない。 -/
theorem acked_undisposed :
    1 ∈ stoppedInWindow.consumer.acked ∧ stoppedInWindow.sent = [] ∧
      ¬stoppedInWindow.Disposed 1 := by
  have hnone : stoppedInWindow.sent = [] ∧ stoppedInWindow.journal.outcomes = [] ∧
      stoppedInWindow.consumer.dlq = [] := by decide
  obtain ⟨hsent, hout, hdlq⟩ := hnone
  refine ⟨by decide, hsent, ?_⟩
  rintro (⟨o, ho⟩ | ⟨s, hs, -⟩ | ⟨rec, hr, -⟩)
  · rw [hout] at ho
    cases ho
  · rw [hsent] at hs
    cases hs
  · rw [hdlq] at hr
    cases hr

end CipherPost.Live
