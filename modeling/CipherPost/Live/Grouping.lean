import CipherPost.Live.AlertInvariants
import CipherPost.Live.Analyze

/-!
# まとめられる payload

worker の payload には `rule_id` が無いので、group と dedup の key は server だけで決まる。
同じ server の payload は、rule が違っても一つの group にまとめられ、dedup で落とされる。

* `Kin` — 二つの payload の server が同じで、共通の rule があること
* `RulesByServer` — 届く payload の条件。同じ server の payload が、どの二つも共通の rule を持つこと
* `grouped_kin` — その条件の下では、どの run も `Kin` の payload だけをまとめ、落とす
-/

namespace CipherPost.Live

/-! ## payload の間の関係 -/

/-- payload の `findings` の rule。 -/
def Finding.ruleIds (f : Finding) : List (Option String) :=
  ((f.findings.getD []).getD []).map Item.ruleId

/-- 共通の rule がある。 -/
def ShareRule (f g : Finding) : Prop := ∃ r, r ∈ f.ruleIds ∧ r ∈ g.ruleIds

theorem ruleIds_routed (env : Env) (f : Finding) :
    (AlertDispatcher.routed env f).ruleIds = f.ruleIds := by
  unfold AlertDispatcher.routed
  split <;> rfl

theorem serverHostOf_routed (env : Env) (f : Finding) :
    serverHostOf (AlertDispatcher.routed env f) = serverHostOf f := by
  unfold AlertDispatcher.routed
  split <;> rfl

section

variable (content : EntryId → Payload) (ids : EntryId → Prop)

/-- entry の payload が、`AnalysisWorker` の出したものである。 -/
def FromWorker (e : EntryId) : Prop :=
  ∃ id org a fs risk isAnomaly now,
    (content e).finding = some (findingsPayload id org a fs risk isAnomaly now)

/-- worker の出した別々の payload であれば、server が同じで、共通の rule がある。 -/
def Kin (m x : Member) : Prop :=
  m.id ≠ x.id → FromWorker content m.id → FromWorker content x.id →
    serverHostOf m.finding = serverHostOf x.finding ∧ ShareRule m.finding x.finding

/-- `ids` の entry のうち、worker の出した別々の payload は、server が同じなら共通の rule を持つ。 -/
def RulesByServer : Prop :=
  ∀ e e' f f', ids e → ids e' → e ≠ e' → FromWorker content e → FromWorker content e' →
    (content e).finding = some f → (content e').finding = some f' →
    serverHostOf f = serverHostOf f' → ShareRule f f'

/-- `ids` の entry の payload に経路を書き込んだ member である。 -/
def Carries (m : Member) : Prop :=
  ids m.id ∧ ∃ f env, (content m.id).finding = some f ∧ m.finding = AlertDispatcher.routed env f

/-- 届く entry は、どれも `ids` のものである。 -/
def Event.Delivers : Event → Prop
  | .entry e _ _ => ids e
  | _ => True

variable {content ids}

/-- worker の payload の key は、server だけで決まる。 -/
theorem groupKeyOf_of_fromWorker {e : EntryId} {f : Finding} (hw : FromWorker content e)
    (hf : (content e).finding = some f) : groupKeyOf f = "unknown:" ++ serverHostOf f := by
  obtain ⟨id, org, a, fs, risk, isAnomaly, now, hw⟩ := hw
  rw [hf, Option.some.injEq] at hw
  have hrule : f.ruleId = .absent := by rw [hw]; rfl
  unfold groupKeyOf
  rw [hrule]
  rfl

/-- 条件の下で、key の等しい member は `Kin` である。 -/
theorem RulesByServer.kin (h : RulesByServer content ids) {m x : Member}
    (hm : Carries content ids m) (hx : Carries content ids x)
    (hkey : groupKeyOf m.finding = groupKeyOf x.finding) : Kin content m x := by
  intro hne hwm hwx
  obtain ⟨hidm, f, env, hf, hmf⟩ := hm
  obtain ⟨hidx, g, env', hg, hxg⟩ := hx
  rw [hmf, hxg, groupKeyOf_routed, groupKeyOf_routed, groupKeyOf_of_fromWorker hwm hf,
    groupKeyOf_of_fromWorker hwx hg] at hkey
  have hlist := congrArg String.toList hkey
  rw [String.toList_append, String.toList_append] at hlist
  have hhost := String.toList_injective (List.append_cancel_left hlist)
  have hrule := h m.id x.id f g hidm hidx hne hwm hwx hf hg hhost
  unfold ShareRule at hrule ⊢
  rw [hmf, hxg, serverHostOf_routed, serverHostOf_routed, ruleIds_routed, ruleIds_routed]
  exact ⟨hhost, hrule⟩

end

/-! ## 状態の不変量 -/

namespace AlertDispatcher

variable (cfg : Config) (content : EntryId → Payload) (ids : EntryId → Prop)

/-- まとめられた payload は、どれも互いに `Kin` である。 -/
structure Gathered (d : AlertDispatcher) : Prop where
  groups : ∀ key b, d.groups.buckets.get? key = some b →
    ∀ m ∈ b.members, ∀ x ∈ b.members, Kin content m x
  flushed : ∀ ms ∈ d.journal.flushed, ∀ m ∈ ms, ∀ x ∈ ms, Kin content m x
  absorbed : ∀ p ∈ d.journal.absorbed, Kin content p.1 p.2

/-- `key` の下に置かれた、届いた entry の member である。 -/
def Keyed (key : String) (m : Member) : Prop :=
  groupKeyOf m.finding = key ∧ Carries content ids m

/-- bucket・dedup の印・まとめたもの・落としたものは、どれも一つの key の下の member である。 -/
structure Traced (d : AlertDispatcher) : Prop where
  groups : ∀ key b, d.groups.buckets.get? key = some b → ∀ m ∈ b.members, Keyed content ids key m
  marks : ∀ up key p, (d.state.marks up).get? key = some p →
    ∀ m ∈ p.2.members, Keyed content ids key m
  flushed : ∀ ms ∈ d.journal.flushed, ∃ key, ∀ m ∈ ms, Keyed content ids key m
  absorbed : ∀ p ∈ d.journal.absorbed, ∃ key, Keyed content ids key p.1 ∧ Keyed content ids key p.2

/-- 命令が扱う member は、届いた entry のもので、自分の finding の key の下にある。 -/
def Carried : Instr → Prop
  | .add m => Carries content ids m
  | .gate f ms => ∀ m ∈ ms, Keyed content ids (groupKeyOf f) m
  | _ => True

variable {content ids}

/-- 条件の下で、一つの key の下の member は互いに `Kin` である。 -/
theorem Traced.gathered {d : AlertDispatcher} (h : d.Traced content ids)
    (hrules : RulesByServer content ids) : d.Gathered content := by
  have hkin : ∀ {key m x}, Keyed content ids key m → Keyed content ids key x → Kin content m x :=
    fun hm hx => hrules.kin hm.2 hx.2 (hm.1.trans hx.1.symm)
  refine ⟨fun key b hb m hm x hx => ?_, fun ms hms m hm x hx => ?_, fun p hp => ?_⟩
  · exact hkin (h.groups key b hb m hm) (h.groups key b hb x hx)
  · obtain ⟨key, hkey⟩ := h.flushed ms hms
    exact hkin (hkey m hm) (hkey x hx)
  · obtain ⟨key, hm, hx⟩ := h.absorbed p hp
    exact hkin hm hx

theorem traced_init : ({} : AlertDispatcher).Traced content ids where
  groups := fun _ _ hb => by cases hb
  marks := fun up _ _ hp => by cases up <;> cases hp
  flushed := fun _ hms => by cases hms
  absorbed := fun _ hp => by cases hp

/-! ## 命令一つ -/

theorem Traced.congr {d d' : AlertDispatcher} (h : d.Traced content ids)
    (hg : d'.groups = d.groups) (hm : ∀ up, d'.state.marks up = d.state.marks up)
    (hf : d'.journal.flushed = d.journal.flushed)
    (ha : d'.journal.absorbed = d.journal.absorbed) : d'.Traced content ids where
  groups := hg ▸ h.groups
  marks := fun up => hm up ▸ h.marks up
  flushed := hf ▸ h.flushed
  absorbed := ha ▸ h.absorbed

theorem Traced.add {d : AlertDispatcher} (h : d.Traced content ids) (env : Env) {m : Member}
    (hm : Carries content ids m) : (d.add cfg env m).Traced content ids := by
  refine ⟨fun key b hb x hx => ?_, h.marks, h.flushed, h.absorbed⟩
  have hb : (d.groups.add m env.now cfg.holdSeconds).buckets.get? key = some b := hb
  rcases GroupBuffer.mem_members_add hb hx with ⟨hkey, rfl⟩ | ⟨b₀, hb₀, hx⟩
  · exact ⟨hkey, hm⟩
  · exact h.groups key b₀ hb₀ x hx

theorem Traced.flush {d : AlertDispatcher} (h : d.Traced content ids) (env : Env) :
    (d.flush env).Traced content ids := by
  refine ⟨fun key b hb => ?_, h.marks, fun ms hms => ?_, h.absorbed⟩
  · exact h.groups key b ((GroupBuffer.get?_flushed d.groups env.now key b).mp hb).1
  · rcases List.mem_append.mp hms with hms | hms
    · exact h.flushed ms hms
    · obtain ⟨b, hb, rfl⟩ := List.mem_map.mp hms
      obtain ⟨key, hget, -⟩ := GroupBuffer.mem_due.mp hb
      exact ⟨key, h.groups key b hget⟩

/-- dedup で落ちたものと、印を付けた alert のものは、一つの key の下にある。 -/
theorem Traced.gate {d : AlertDispatcher} (h : d.Traced content ids) (env : Env) {f : Finding}
    {ms : List Member} (hms : ∀ m ∈ ms, Keyed content ids (groupKeyOf f) m) :
    (d.gate cfg env f ms).Traced content ids := by
  have hgroups := (framed_gate cfg d env f ms).groups
  have hmarks : ∀ up key p, ((d.gate cfg env f ms).state.marks up).get? key = some p →
      ∀ m ∈ p.2.members, Keyed content ids key m := by
    intro up key p hp
    rcases state_gate cfg env d f ms with he | he
    · exact h.marks up key p (he ▸ hp)
    · rw [he] at hp
      rcases AlertState.get?_marks_checkAndSetDedup hp with hp | ⟨rfl, hmark⟩
      · exact h.marks up key p hp
      · rw [hmark]
        exact hms
  refine ⟨hgroups ▸ h.groups, hmarks, ?_, ?_⟩
  · unfold AlertDispatcher.gate
    split
    · exact h.flushed
    · simp only
      split <;> exact h.flushed
  · unfold AlertDispatcher.gate
    split
    · exact h.absorbed
    · simp only
      split
      · exact h.absorbed
      · intro p hp
        rcases List.mem_append.mp hp with hp | hp
        · exact h.absorbed p hp
        · obtain ⟨m, hm, hp⟩ := List.mem_flatMap.mp hp
          obtain ⟨x, hx, rfl⟩ := List.mem_map.mp hp
          have hheld : Keyed content ids (groupKeyOf f) x := by
            unfold holder at hx
            split at hx
            · next t mk hget => exact h.marks env.link.up _ (t, mk) hget x hx
            · cases hx
          exact ⟨_, hms m hm, hheld⟩

/-- **命令一つは、届いた entry の member だけを動かす。** -/
theorem Traced.run {d : AlertDispatcher} (h : d.Traced content ids) (env : Env) {i : Instr}
    (hi : Carried content ids i) : (i.run cfg env d).Traced content ids := by
  cases i with
  | consumer op => exact h.congr rfl (fun _ => rfl) rfl rfl
  | outcome e o => exact h.congr rfl (fun _ => rfl) rfl rfl
  | stash e key org item =>
    show (d.stash env e key org item).Traced content ids
    unfold stash
    split
    · simp only
      split <;> exact h.congr rfl (fun _ => rfl) rfl rfl
    · exact h
  | takeStash key =>
    show (d.takeStash env key).Traced content ids
    unfold takeStash
    split
    · exact h.congr rfl (fun _ => rfl) rfl rfl
    · exact h
  | add m => exact h.add cfg env hi
  | flush => exact h.flush env
  | gate f ms => exact h.gate cfg env hi
  | rate ms =>
    have hjournal : (d.rate cfg env ms).journal.flushed = d.journal.flushed ∧
        (d.rate cfg env ms).journal.absorbed = d.journal.absorbed := by
      unfold rate
      split
      · simp only
        split <;> exact ⟨rfl, rfl⟩
      · exact ⟨rfl, rfl⟩
    exact h.congr (framed_rate cfg d env ms).groups (marks_rate cfg env d ms) hjournal.1 hjournal.2
  | send f ms =>
    show (d.send env f ms).Traced content ids
    unfold send
    split
    · exact h.congr rfl (fun _ => rfl) rfl rfl
    · exact h

/-! ## 一つの呼び出し -/

theorem Traced.restart {d : AlertDispatcher} (h : d.Traced content ids) :
    d.restart.Traced content ids where
  groups := fun _ _ hb => by cases hb
  marks := by
    intro up key p hp
    cases up with
    | true => exact h.marks true key p hp
    | false => cases hp
  flushed := h.flushed
  absorbed := h.absorbed

theorem Traced.perform {d : AlertDispatcher} (h : d.Traced content ids) (env : Env) (fault : Fault)
    {is : List Instr} (his : ∀ i ∈ is, Carried content ids i) :
    (d.perform cfg env fault is).Traced content ids := by
  have hexec : (Run.exec (Instr.run cfg env) d is).Traced content ids :=
    Run.Along.invariant (fun _ _ h hi => h.run cfg env hi) (Run.along_of_mem his) h
  unfold AlertDispatcher.perform
  simp only
  split
  · exact hexec.restart
  · exact hexec

/-- 期限の来た group の列は、bucket の member を、bucket の key の下で出す。 -/
theorem carried_dueGroups {groups : GroupBuffer} (hwf : groups.Wf)
    (hkeyed : ∀ key b, groups.buckets.get? key = some b → ∀ m ∈ b.members, Keyed content ids key m)
    (now : Nat) (f : Finding) :
    ∀ i ∈ dispatchAll (dueGroups groups now f), Carried content ids i := by
  intro i hi
  obtain ⟨g, hg, hi⟩ := List.mem_flatMap.mp hi
  obtain ⟨b, hb, rfl⟩ := List.mem_map.mp hg
  obtain ⟨key, hget, -⟩ := GroupBuffer.mem_due.mp hb
  simp only [dispatch, List.mem_cons, List.not_mem_nil, or_false] at hi
  rcases hi with rfl | rfl | rfl
  · show ∀ m ∈ b.members, Keyed content ids (groupKeyOf (b.over f)) m
    rw [groupKeyOf_over (hwf key b hget) f]
    exact hkeyed key b hget
  · trivial
  · trivial

theorem carried_dispatch_nil (f : Finding) : ∀ i ∈ dispatch f [], Carried content ids i := by
  intro i hi
  simp only [dispatch, List.mem_cons, List.not_mem_nil, or_false] at hi
  rcases hi with rfl | rfl | rfl
  · exact fun m hm => absurd hm List.not_mem_nil
  · trivial
  · trivial

theorem carried_failure {d : AlertDispatcher} {e : EntryId} {env : Env} {payload : Option Finding} :
    ∀ i ∈ d.failure cfg e env payload, Carried content ids i := by
  intro i hi
  obtain ⟨op, -, rfl⟩ := List.mem_map.mp hi
  trivial

/-- 途中の例外や停止は、命令を増やさない。 -/
theorem carried_cut {fault : Fault} {body tail except : List Instr}
    (hbody : ∀ i ∈ body, Carried content ids i) (htail : ∀ i ∈ tail, Carried content ids i)
    (hexcept : ∀ i ∈ except, Carried content ids i) :
    ∀ i ∈ fault.cut body tail except, Carried content ids i := by
  intro i hi
  rcases Fault.mem_or_of_mem_cut hi with hi | hi
  · exact hbody i hi
  · rcases List.mem_append.mp hi with hi | hi
    · exact htail i hi
    · exact hexcept i hi

/-- `_handle_entry` の命令は、届いた entry の member だけを扱う。 -/
theorem carried_handleEntry {d : AlertDispatcher} (hwf : d.groups.Wf) (h : d.Traced content ids)
    {e : EntryId} (he : ids e) (env : Env) (fault : Fault) :
    ∀ i ∈ d.handleEntry cfg e (content e) env fault, Carried content ids i := by
  have hnil : ∀ i ∈ ([] : List Instr), Carried content ids i :=
    fun i hi => absurd hi List.not_mem_nil
  have hpair : ∀ a b : GroupOp Finding, ∀ i ∈ [Instr.consumer a, .consumer b],
      Carried content ids i := by
    intro a b i hi
    simp only [List.mem_cons, List.not_mem_nil, or_false] at hi
    rcases hi with rfl | rfl <;> trivial
  unfold handleEntry
  cases hf : (content e).finding with
  | none => exact carried_cut hnil hnil (carried_failure cfg)
  | some f =>
    refine carried_cut ?_ ?_ (carried_failure cfg)
    · unfold plan
      cases htri : triage cfg env f with
      | drop o =>
        intro i hi
        rw [List.mem_singleton.mp hi]
        trivial
      | stash key =>
        intro i hi
        rw [List.mem_singleton.mp hi]
        trivial
      | group =>
        have hm : Carries content ids ⟨e, routed env f⟩ := ⟨he, f, env, hf, rfl⟩
        have hadd := h.add cfg env hm
        intro i hi
        rcases List.mem_cons.mp hi with rfl | hi
        · exact hm
        rcases List.mem_cons.mp hi with rfl | hi
        · trivial
        · exact carried_dueGroups (hwf.add _ env.now cfg.holdSeconds) hadd.groups _ _ i hi
    · unfold plan
      cases triage cfg env f <;> exact hpair _ _

/-- **事象一つは、届いた entry の member だけを動かす。** -/
theorem traced_step {d : AlertDispatcher} {ev : Event} (hwf : d.groups.Wf)
    (h : d.Traced content ids) (hev : ev.Delivers ids) :
    (d.step cfg content ev).Traced content ids := by
  cases ev with
  | entry e env fault => exact h.perform cfg env fault (carried_handleEntry cfg hwf h hev env fault)
  | idle env fault =>
    refine h.perform cfg env fault fun i hi => ?_
    rcases List.mem_cons.mp (Fault.mem_of_mem_cut hi) with rfl | hi
    · trivial
    · exact carried_dueGroups hwf h.groups _ _ i hi
  | digest org env fault =>
    refine h.perform cfg env fault fun i hi => ?_
    rcases of_mem_flushDigests (Fault.mem_of_mem_cut hi) with ⟨key, rfl⟩ | ⟨f, hi⟩
    · trivial
    · exact carried_dispatch_nil f i hi
  | direct f env fault =>
    exact h.perform cfg env fault fun i hi => carried_dispatch_nil f i (Fault.mem_of_mem_cut hi)
  | restart => exact h.restart

/-- どの run でも、まとめた member は届いた entry のもので、一つの key の下にある。 -/
theorem traced_exec {es : List Event} (hes : ∀ ev ∈ es, ev.Delivers ids) :
    (Run.exec (step cfg content) {} es).Traced content ids := by
  have hboth := Run.Along.invariant
    (I := fun d : AlertDispatcher => d.groups.Wf ∧ d.Traced content ids)
    (fun _ ev h hev => ⟨groups_wf_step cfg content h.1 ev, traced_step cfg h.1 h.2 hev⟩)
    (Run.along_of_mem hes) ⟨GroupBuffer.wf_empty, traced_init⟩
  exact hboth.2

/-! ## 二つの payload が出会う run -/

/-- どの finding も group に入れる環境。 -/
def openEnv : Env := { now := 0, policyFor := fun _ => { minSeverity := "info" } }

theorem triage_openEnv (f : Finding) : triage cfg openEnv f = .group := by
  have hshould : openEnv.shouldAlert cfg f = true := by
    show (!decide (sevOrder f.effSeverity < 0)) = true
    simp
  unfold triage
  rw [hshould]
  split
  · contradiction
  · split
    · contradiction
    · split <;> rfl

/-- group に触れない命令の列。 -/
theorem groups_exec {env : Env} : ∀ {is : List Instr} {d : AlertDispatcher},
    (∀ i ∈ is, i ≠ .flush ∧ ∀ m, i ≠ .add m) → (Run.exec (Instr.run cfg env) d is).groups = d.groups
  | [], _, _ => rfl
  | i :: is, d, his => by
    obtain ⟨hi, his⟩ := List.forall_mem_cons.mp his
    rw [Run.exec_cons, groups_exec his]
    cases i with
    | consumer op => rfl
    | outcome e o => rfl
    | stash e key org item => exact (framed_stash d env e key org item).groups
    | takeStash key => exact (framed_takeStash d env key).groups
    | add m => exact absurd rfl (hi.2 m)
    | flush => exact absurd rfl hi.1
    | gate f ms => exact (framed_gate cfg d env f ms).groups
    | rate ms => exact (framed_rate cfg d env ms).groups
    | send f ms => exact (framed_send d env f ms).groups

/-- 失敗の無い呼び出しの後に残るのは、finding を足した bucket のうち、期限の来ていないものである。 -/
theorem groups_step_openEnv (d : AlertDispatcher) {e : EntryId} {f : Finding}
    (hf : (content e).finding = some f) : (d.step cfg content (.entry e openEnv {})).groups =
      (d.groups.add ⟨e, f⟩ 0 cfg.holdSeconds).flushed 0 := by
  have hplan : d.handleEntry cfg e (content e) openEnv {} = .add ⟨e, f⟩ :: .flush ::
      (dispatchAll (dueGroups (d.groups.add ⟨e, f⟩ 0 cfg.holdSeconds) 0 f) ++
        [.consumer (.clearAttempts e), .consumer (.ack e)]) := by
    unfold handleEntry
    rw [hf]
    show (d.plan cfg e openEnv f).body ++ (d.plan cfg e openEnv f).tail = _
    unfold plan
    rw [triage_openEnv]
    rfl
  show (Run.exec (Instr.run cfg openEnv) d (d.handleEntry cfg e (content e) openEnv {})).groups = _
  rw [hplan, Run.exec_cons, Run.exec_cons, groups_exec]
  · rfl
  · intro i hi
    rcases List.mem_append.mp hi with hi | hi
    · obtain ⟨g, -, hi⟩ := List.mem_flatMap.mp hi
      simp only [dispatch, List.mem_cons, List.not_mem_nil, or_false] at hi
      rcases hi with rfl | rfl | rfl <;> exact ⟨by simp, by simp⟩
    · simp only [List.mem_cons, List.not_mem_nil, or_false] at hi
      rcases hi with rfl | rfl <;> exact ⟨by simp, by simp⟩

/-- 続けて届いた key の等しい二つの finding は、一つの bucket に入る。 -/
theorem exists_bucket (hhold : 0 < cfg.holdSeconds) {e e' : EntryId} {f f' : Finding}
    (hf : (content e).finding = some f) (hf' : (content e').finding = some f')
    (hkey : groupKeyOf f = groupKeyOf f') :
    ∃ b, (Run.exec (step cfg content) {} [.entry e openEnv {}, .entry e' openEnv {}]).groups.buckets.get?
      (groupKeyOf f) = some b ∧ b.members = [⟨e, f⟩, ⟨e', f'⟩] := by
  have hfirst : (Run.exec (step cfg content) {} [.entry e openEnv {}]).groups.buckets.get?
      (groupKeyOf f) = some (Bucket.opened ⟨e, f⟩ 0 cfg.holdSeconds) := by
    rw [Run.exec_cons, Run.exec_nil, groups_step_openEnv cfg _ hf, GroupBuffer.get?_flushed]
    refine ⟨?_, Nat.lt_of_lt_of_le hhold (Nat.le_add_left _ _)⟩
    rw [GroupBuffer.get?_add, if_pos rfl]
    rfl
  refine ⟨(Bucket.opened ⟨e, f⟩ 0 cfg.holdSeconds).merge ⟨e', f'⟩ 0, ?_, ?_⟩
  · show (step cfg content (Run.exec (step cfg content) {} [.entry e openEnv {}])
      (.entry e' openEnv {})).groups.buckets.get? _ = _
    rw [groups_step_openEnv cfg _ hf', GroupBuffer.get?_flushed, GroupBuffer.get?_add,
      if_pos hkey.symm, hfirst]
    refine ⟨rfl, ?_⟩
    rw [Bucket.deadline_merge]
    exact Nat.lt_of_lt_of_le hhold (Nat.le_add_left _ _)
  · rw [Bucket.members_merge]
    rfl

end AlertDispatcher

/--
届く worker の payload が、server の同じどの二つも共通の rule を持つなら、空の状態から始まるどの run でも、
一つの bucket や flush した group にまとめられた payload も、一方の印が他方を落とした payload も、
server が同じで、共通の rule を持つ。保留窓があれば、そうでない payload をまとめる run がある。
-/
theorem grouped_kin (cfg : Config) (content : EntryId → Payload) (ids : EntryId → Prop) :
    (RulesByServer content ids → ∀ es, (∀ ev ∈ es, ev.Delivers ids) →
      (Run.exec (AlertDispatcher.step cfg content) {} es).Gathered content) ∧
    (0 < cfg.holdSeconds → ¬RulesByServer content ids → ∃ es, (∀ ev ∈ es, ev.Delivers ids) ∧
      ¬(Run.exec (AlertDispatcher.step cfg content) {} es).Gathered content) := by
  refine ⟨fun hrules es hes => (AlertDispatcher.traced_exec cfg hes).gathered hrules, ?_⟩
  intro hhold hrules
  by_contra hall
  push Not at hall
  refine hrules fun e e' f f' he he' hne hw hw' hf hf' hhost => ?_
  have hkey : groupKeyOf f = groupKeyOf f' := by
    rw [groupKeyOf_of_fromWorker hw hf, groupKeyOf_of_fromWorker hw' hf', hhost]
  have hes : ∀ ev ∈ [Event.entry e AlertDispatcher.openEnv {},
      .entry e' AlertDispatcher.openEnv {}], ev.Delivers ids := by
    intro ev hev
    simp only [List.mem_cons, List.not_mem_nil, or_false] at hev
    rcases hev with rfl | rfl
    · exact he
    · exact he'
  obtain ⟨b, hb, hmembers⟩ := AlertDispatcher.exists_bucket cfg hhold hf hf' hkey
  have hkin := (hall _ hes).groups _ b hb ⟨e, f⟩ (by simp [hmembers]) ⟨e', f'⟩ (by simp [hmembers])
  exact (hkin hne hw hw').2

/-! ## 一つの server の二つの payload -/

/-- rule が `rs` の finding を持つ、同じ server の session の payload。 -/
def sessionWith (rs : List String) : Finding :=
  findingsPayload "s" none ⟨"10.0.0.1:40000->10.0.0.2:25", "SMTP", []⟩
    (rs.map fun r => { ruleId := r, severity := .high, title := r }) none false 0

/-- 一つの server の session が二つ続き、保留窓が閉じる run。 -/
def twoSessions : List Event :=
  [.entry 1 { now := 1000 } {}, .entry 2 { now := 1001 } {}, .idle { now := 1020 } {}]

/-- 証明書の期限が、二つ目の session の間に切れる。 -/
def renewed (e : EntryId) : Payload :=
  .object (sessionWith (if e = 1 then ["weak-cipher"] else ["weak-cipher", "expired-cert"]))

/-- 共通の rule のある payload は、まとめられてよい。 -/
theorem grouped_kin_same_rule :
    (Run.exec (AlertDispatcher.step {} renewed) {} twoSessions).sent.map
        (fun s => s.members.map Member.id) = [[1, 2]] ∧
    (Run.exec (AlertDispatcher.step {} renewed) {} twoSessions).Gathered renewed := by
  refine ⟨by decide, (grouped_kin {} renewed fun _ => True).1 ?_ twoSessions ?_⟩
  · intro e e' f f' _ _ _ _ _ hf hf' _
    have hweak : ∀ {e f}, (renewed e).finding = some f → some "weak-cipher" ∈ f.ruleIds := by
      intro e f hf
      cases hf
      split <;> decide
    exact ⟨some "weak-cipher", hweak hf, hweak hf'⟩
  · intro ev hev
    cases ev <;> trivial

/-- entry 1 と 2 で rule の異なる payload。 -/
def twoRules (e : EntryId) : Payload :=
  .object (sessionWith [if e = 1 then "weak-cipher" else "expired-cert"])

/-- rule の異なる二つの payload が、一つの alert にまとめられる。 -/
theorem grouped_unrelated :
    (Run.exec (AlertDispatcher.step {} twoRules) {} twoSessions).sent.map
        (fun s => (s.members.map Member.id, s.alert.occurrenceCount)) = [([1, 2], some 2)] ∧
    ¬(Run.exec (AlertDispatcher.step {} twoRules) {} twoSessions).Gathered twoRules := by
  refine ⟨by decide, fun h => ?_⟩
  have hflushed : [⟨1, sessionWith ["weak-cipher"]⟩, ⟨2, sessionWith ["expired-cert"]⟩] ∈
      (Run.exec (AlertDispatcher.step {} twoRules) {} twoSessions).journal.flushed := by decide
  obtain ⟨-, r, hr, hr'⟩ := h.flushed _ hflushed _ List.mem_cons_self _
    (List.mem_cons_of_mem _ List.mem_cons_self) (by decide) ⟨_, _, _, _, _, _, _, rfl⟩
    ⟨_, _, _, _, _, _, _, rfl⟩
  have hne : r = some "weak-cipher" ∧ r = some "expired-cert" := by
    exact ⟨List.mem_singleton.mp hr, List.mem_singleton.mp hr'⟩
  exact absurd (hne.1.symm.trans hne.2) (by decide)

end CipherPost.Live
