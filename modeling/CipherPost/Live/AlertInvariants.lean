import CipherPost.Live.Alerts

/-!
# dispatcher の不変量

group と dedup について、どの run でも成り立つこと。

* `Framed` — bucket も consumer も変えない命令
* `groups_wf` — bucket は自分の finding のことを覚えている
* `groupKeyOf_over` — flush した group は、bucket の key で dedup される
* `AlertState.liveMark` — いま生きている dedup の印
-/

namespace CipherPost.Live

namespace AlertDispatcher

variable (cfg : Config) (content : EntryId → Payload)

/-! ## 命令が触れないもの -/

/-- bucket も consumer も変えない。 -/
structure Framed (d d' : AlertDispatcher) : Prop where
  groups : d'.groups = d.groups
  consumer : d'.consumer = d.consumer

theorem framed_stash (d : AlertDispatcher) (env : Env) (e : EntryId) (key : StashKey) (org : String)
    (item : DigestItem) : Framed d (d.stash env e key org item) := by
  unfold stash
  split
  · simp only
    split <;> exact ⟨rfl, rfl⟩
  · exact ⟨rfl, rfl⟩

theorem framed_takeStash (d : AlertDispatcher) (env : Env) (key : StashKey) :
    Framed d (d.takeStash env key) := by
  unfold takeStash
  split <;> exact ⟨rfl, rfl⟩

theorem framed_gate (d : AlertDispatcher) (env : Env) (f : Finding) (ms : List Member) :
    Framed d (d.gate cfg env f ms) := by
  unfold gate
  split
  · exact ⟨rfl, rfl⟩
  · simp only
    split <;> exact ⟨rfl, rfl⟩

theorem framed_rate (d : AlertDispatcher) (env : Env) (ms : List Member) :
    Framed d (d.rate cfg env ms) := by
  unfold rate
  split
  · simp only
    split <;> exact ⟨rfl, rfl⟩
  · exact ⟨rfl, rfl⟩

theorem framed_send (d : AlertDispatcher) (env : Env) (f : Finding) (ms : List Member) :
    Framed d (d.send env f ms) := by
  unfold send
  split <;> exact ⟨rfl, rfl⟩

/-- digest の命令は、stash を取り出すか、member の無いまとめの finding を送る。 -/
theorem of_mem_flushDigests {d : AlertDispatcher} {org : String} {env : Env} {i : Instr}
    (hi : i ∈ d.flushDigests org env) : (∃ key, i = .takeStash key) ∨ ∃ f, i ∈ dispatch f [] := by
  unfold flushDigests at hi
  split at hi
  · obtain ⟨key, -, hi⟩ := List.mem_flatMap.mp hi
    split at hi
    · cases hi
    · rcases List.mem_cons.mp hi with rfl | hi
      · exact .inl ⟨key, rfl⟩
      · exact .inr ⟨_, hi⟩
  · cases hi

/-! ## bucket の不変量 -/

/-- 命令は、整った bucket を整ったままにする。 -/
theorem groups_wf_run {d : AlertDispatcher} (h : d.groups.Wf) (env : Env) (i : Instr) :
    (i.run cfg env d).groups.Wf := by
  have hframe : ∀ {d' : AlertDispatcher}, Framed d d' → d'.groups.Wf := fun hd => hd.groups ▸ h
  cases i with
  | consumer op => exact h
  | outcome e o => exact h
  | stash e key org item => exact hframe (framed_stash d env e key org item)
  | takeStash key => exact hframe (framed_takeStash d env key)
  | add m => exact h.add m env.now cfg.holdSeconds
  | flush => exact h.flushed env.now
  | gate f ms => exact hframe (framed_gate cfg d env f ms)
  | rate ms => exact hframe (framed_rate cfg d env ms)
  | send f ms => exact hframe (framed_send d env f ms)

theorem groups_wf_perform {d : AlertDispatcher} (h : d.groups.Wf) (env : Env) (fault : Fault)
    (is : List Instr) : (d.perform cfg env fault is).groups.Wf := by
  have hexec : (Run.exec (Instr.run cfg env) d is).groups.Wf :=
    Run.invariant (I := fun d : AlertDispatcher => d.groups.Wf)
      (fun _ i h => groups_wf_run cfg h env i) is h
  unfold perform
  simp only
  split
  · exact GroupBuffer.wf_empty
  · exact hexec

theorem groups_wf_step {d : AlertDispatcher} (h : d.groups.Wf) (ev : Event) :
    (d.step cfg content ev).groups.Wf := by
  cases ev with
  | entry e env fault => exact groups_wf_perform cfg h env fault _
  | idle env fault => exact groups_wf_perform cfg h env fault _
  | digest org env fault => exact groups_wf_perform cfg h env fault _
  | direct f env fault => exact groups_wf_perform cfg h env fault _
  | restart => exact GroupBuffer.wf_empty

/-- **どの run でも、どの bucket も整っている。** -/
theorem groups_wf (es : List Event) : (Run.exec (step cfg content) {} es).groups.Wf :=
  Run.invariant (I := fun d : AlertDispatcher => d.groups.Wf)
    (fun _ ev h => groups_wf_step cfg content h ev) es GroupBuffer.wf_empty

end AlertDispatcher

/-! ## group の key -/

/-- flush した group を dedup する key は、bucket の key である。 -/
theorem groupKeyOf_over {b : Bucket} {key : String} (h : b.Wf key) (f : Finding) :
    groupKeyOf (b.over f) = key := by
  obtain ⟨m, hm, hrule, hserver, -⟩ := h.first
  have hhost : serverHostOf (b.over f) = b.server :=
    serverHostOf_of_server (f := b.over f) rfl (hserver ▸ serverHostOf_ne_empty m.finding)
  have hkey := h.key m hm
  unfold groupKeyOf at hkey ⊢
  rw [hhost, hserver, ← hkey]
  show textOf ((Field.ofOption b.ruleId).getD "unknown") ++ _ ++ _ = _
  rw [Field.getD_ofOption, hrule]

/-- 一度に flush される group の key はどれも異なる。 -/
theorem pairwise_groupKeyOf_due {g : GroupBuffer} (h : g.Wf) (now : Nat) (f : Finding) :
    (g.due now).Pairwise fun b b' => groupKeyOf (b.over f) ≠ groupKeyOf (b'.over f) := by
  refine Dict.pairwise_values fun k k' b b' hb hb' hne => ?_
  rw [Dict.get?_filter, Option.filter_eq_some_iff] at hb hb'
  rw [groupKeyOf_over (h k b hb.1), groupKeyOf_over (h k' b' hb'.1)]
  exact hne

theorem groupKeyOf_routed (env : Env) (f : Finding) :
    groupKeyOf (AlertDispatcher.routed env f) = groupKeyOf f := by
  unfold AlertDispatcher.routed
  split <;> rfl

/-! ## dedup の印 -/

namespace AlertState

/-- Redis か、その代替のメモリにある印。 -/
def marks (a : AlertState) (redisUp : Bool) : Dict String (Nat × Mark) :=
  if redisUp then a.redisDedup else a.memDedup

/-- いま生きている印。Redis は期限を、メモリは付けた時刻を持つ。 -/
def liveMark (a : AlertState) (window now : Nat) (redisUp : Bool) (key : String) : Option Mark :=
  ((a.marks redisUp).get? key).bind fun p =>
    if now < (if redisUp then p.1 else p.1 + window) then some p.2 else none

theorem get?_of_get?_evict {d : Dict String (Nat × Mark)} {key : String} {p : Nat × Mark}
    (h : (evict d).get? key = some p) : d.get? key = some p := by
  unfold evict at h
  split at h
  · simp only [Dict.get?_filter, Option.filter_eq_some_iff] at h
    exact h.1
  · exact h

variable {a : AlertState} {window now : Nat} {redisUp : Bool} {key : String} {mark : Mark}

/-- 重複なら状態は変わらず、新しい key なら Redis かメモリに印が付く。 -/
theorem checkAndSetDedup_cases (a : AlertState) (window now : Nat) (redisUp : Bool) (key : String)
    (mark : Mark) :
    a.checkAndSetDedup window now redisUp key mark = (false, a) ∨
    (redisUp = true ∧ a.checkAndSetDedup window now redisUp key mark =
      (true, { a with redisDedup := a.redisDedup.set key (now + window, mark) })) ∨
    (redisUp = false ∧ a.checkAndSetDedup window now redisUp key mark =
      (true, { a with memDedup := evict (a.memDedup.set key (now, mark)) })) := by
  generalize hr : a.checkAndSetDedup window now redisUp key mark = r
  unfold checkAndSetDedup at hr
  cases redisUp with
  | true =>
    simp only [if_true] at hr
    split at hr
    · split at hr
      · exact Or.inl hr.symm
      · exact Or.inr (Or.inl ⟨rfl, hr.symm⟩)
    · exact Or.inr (Or.inl ⟨rfl, hr.symm⟩)
  | false =>
    simp only [Bool.false_eq_true, if_false] at hr
    have hcases : ∀ last, (if now < last + window then (false, a)
        else (true, { a with memDedup := evict (a.memDedup.set key (now, mark)) })) = r →
        r = (false, a) ∨
          r = (true, { a with memDedup := evict (a.memDedup.set key (now, mark)) }) := by
      intro last h
      split at h
      · exact Or.inl h.symm
      · exact Or.inr h.symm
    exact (hcases _ hr).imp_right fun h => Or.inr ⟨rfl, h⟩

/-- 印は、前からあったものか、いま付けたものである。 -/
theorem get?_marks_checkAndSetDedup {up : Bool} {key' : String} {p : Nat × Mark}
    (h : ((a.checkAndSetDedup window now redisUp key mark).2.marks up).get? key' = some p) :
    (a.marks up).get? key' = some p ∨ key' = key ∧ p.2 = mark := by
  have hset : ∀ {d : Dict String (Nat × Mark)} {x : Nat},
      (d.set key (x, mark)).get? key' = some p → d.get? key' = some p ∨ key' = key ∧ p.2 = mark := by
    intro d x hp
    rw [Dict.get?_set] at hp
    split at hp
    · next hk =>
      rw [Option.some.injEq] at hp
      exact Or.inr ⟨hk.symm, by rw [← hp]⟩
    · exact Or.inl hp
  rcases checkAndSetDedup_cases a window now redisUp key mark with he | ⟨-, he⟩ | ⟨-, he⟩
  · rw [he] at h
    exact Or.inl h
  · rw [he] at h
    cases up with
    | true => exact hset h
    | false => exact Or.inl h
  · rw [he] at h
    cases up with
    | true => exact Or.inl h
    | false => exact hset (get?_of_get?_evict h)

/-- 生きた印は、前からのものか、いま付けたものである。 -/
theorem liveMark_checkAndSetDedup {key' : String} {mk : Mark}
    (h : (a.checkAndSetDedup window now redisUp key mark).2.liveMark window now redisUp key'
      = some mk) :
    a.liveMark window now redisUp key' = some mk ∨ key' = key ∧ mk = mark := by
  unfold liveMark at h ⊢
  obtain ⟨p, hp, hlive⟩ := Option.bind_eq_some_iff.mp h
  rcases get?_marks_checkAndSetDedup hp with hp | ⟨hk, hmark⟩
  · exact Or.inl (Option.bind_eq_some_iff.mpr ⟨p, hp, hlive⟩)
  · rw [Option.ite_none_right_eq_some, Option.some.injEq] at hlive
    exact Or.inr ⟨hk, hlive.2.symm.trans hmark⟩

/-- rate は dedup の印を変えない。 -/
theorem marks_checkRate (a : AlertState) (perMinute : Nat) (clock : Nat → Nat) (pid : Nat)
    (redisUp up : Bool) : (a.checkRate perMinute clock pid redisUp).2.marks up = a.marks up := by
  unfold checkRate
  split
  · rfl
  · simp only
    split <;> rfl

end AlertState

namespace AlertDispatcher

variable (cfg : Config) (env : Env)

/-- 閾値と dedup は、dedup の印だけを変える。 -/
theorem state_gate (d : AlertDispatcher) (f : Finding) (ms : List Member) :
    (d.gate cfg env f ms).state = d.state ∨
    (d.gate cfg env f ms).state = (d.state.checkAndSetDedup cfg.dedupWindow env.now env.link.up
      (groupKeyOf f) ⟨f.orgId.get, ms⟩).2 := by
  unfold gate
  split
  · exact Or.inl rfl
  · simp only
    split
    · exact Or.inr rfl
    · exact Or.inl rfl

theorem marks_rate (d : AlertDispatcher) (ms : List Member) (up : Bool) :
    (d.rate cfg env ms).state.marks up = d.state.marks up := by
  unfold rate
  split
  · simp only
    split <;> exact AlertState.marks_checkRate _ _ _ _ _ up
  · rfl

theorem state_send (d : AlertDispatcher) (f : Finding) (ms : List Member) :
    (d.send env f ms).state = d.state := by
  unfold send
  split <;> rfl

/-- `_dispatch` の後の生きた印は、前からのものか、その finding のものである。 -/
theorem liveMark_dispatch {d : AlertDispatcher} {f : Finding} {ms : List Member} {key : String}
    {mk : Mark} (h : (Run.exec (Instr.run cfg env) d (dispatch f ms)).state.liveMark
      cfg.dedupWindow env.now env.link.up key = some mk) :
    d.state.liveMark cfg.dedupWindow env.now env.link.up key = some mk ∨
      key = groupKeyOf f ∧ mk = ⟨f.orgId.get, ms⟩ := by
  have h : (((d.gate cfg env f ms).rate cfg env ms).send env f ms).state.liveMark cfg.dedupWindow
      env.now env.link.up key = some mk := h
  rw [state_send] at h
  unfold AlertState.liveMark at h
  rw [marks_rate] at h
  rcases state_gate cfg env d f ms with he | he
  · rw [he] at h
    exact Or.inl h
  · rw [he] at h
    exact AlertState.liveMark_checkAndSetDedup h

end AlertDispatcher

end CipherPost.Live
