import CipherPost.Live.AlertInvariants

/-!
# group の alert

flush された group の alert は二つの場所で作られる。次の entry の処理では、その entry の finding に
group の値を重ねた dict から、idle の flush では group の値だけの dict から作る。
重ねられない key（`max_severity`・`five_tuple`・`findings`）は、前者では flush を引き起こした
finding のもの、後者では無いものになる。

* `FromGroup` — alert の値が、group の finding から来ていること
* `groupAlert_iff` — 二つの場所の alert がともに group から来て等しくなる条件
-/

namespace CipherPost.Live

namespace AlertDispatcher

variable (cfg : Config)

/-! ## flush される group -/

/-- 状態 `d` からの一つの呼び出しで flush される group。entry の処理では、追加の後に flush する。 -/
def Flushes (d : AlertDispatcher) (now : Nat) (b : Bucket) : Prop :=
  b ∈ d.groups.due now ∨ ∃ m, b ∈ (d.groups.add m now cfg.holdSeconds).due now

theorem Flushes.wf {d : AlertDispatcher} (h : d.groups.Wf) {now : Nat} {b : Bucket}
    (hb : Flushes cfg d now b) : ∃ key, b.Wf key := by
  rcases hb with hb | ⟨m, hb⟩
  · obtain ⟨key, hget, -⟩ := GroupBuffer.mem_due.mp hb
    exact ⟨key, h key b hget⟩
  · obtain ⟨key, hget, -⟩ := GroupBuffer.mem_due.mp hb
    exact ⟨key, h.add m now cfg.holdSeconds key b hget⟩

end AlertDispatcher

/-! ## alert の値 -/

/-- finding の rule。無ければ `unknown`、空なら空文字列である。 -/
def ruleOf (f : Finding) : String := orText (f.ruleId.getD "unknown") ""

/-- alert の深刻度が group の最大で、ほかの値も group の finding から来ている。 -/
structure FromGroup (ms : List Member) (a : Alert) : Prop where
  severity : (∃ m ∈ ms, sevOrder a.severity = sevOrder m.finding.effSeverity) ∧
    ∀ m ∈ ms, sevOrder m.finding.effSeverity ≤ sevOrder a.severity
  fiveTuple : ∃ m ∈ ms, a.fiveTuple = m.finding.fiveTuple.get
  orgId : ∃ m ∈ ms, a.orgId = m.finding.orgId.get
  ruleId : ∃ m ∈ ms, a.ruleId = some (ruleOf m.finding)
  findings : ∃ m ∈ ms, a.findings = m.finding.findings.getD []

/-- flush を引き起こした finding `f` の側の条件。 -/
structure Neutral (f : Finding) (severity : String) : Prop where
  fiveTuple : f.fiveTuple.get = none
  findings : f.findings.getD [] = some []
  maxSeverity : truthy f.maxSeverity.get = none ∨ f.maxSeverity.get = some severity

theorem effSeverity_over (b : Bucket) (f : Finding) (hb : b.severity ≠ "") :
    (b.over f).effSeverity = (truthy f.maxSeverity.get).getD b.severity := by
  have hsev : truthy (b.over f).severity.get = some b.severity := truthy_eq_some.mpr ⟨rfl, hb⟩
  unfold Finding.effSeverity Finding.maxOrSeverity orText
  show (truthy (pyOr f.maxSeverity.get (b.over f).severity.get)).getD "info" = _
  cases h : truthy f.maxSeverity.get with
  | none =>
    rw [pyOr_of_falsy h, hsev]
    rfl
  | some s =>
    rw [pyOr_of_truthy h, truthy_eq_some.mpr ⟨rfl, (truthy_eq_some.mp h).2⟩]
    rfl

/-- group の値だけの dict から作った alert の深刻度は、bucket の深刻度である。 -/
theorem effSeverity_grouped (b : Bucket) (hb : b.severity ≠ "") :
    b.grouped.effSeverity = b.severity := effSeverity_over b {} hb

theorem firstItem_of_findings {f : Finding} (h : f.findings.getD [] = some []) :
    f.firstItem = none := by
  unfold Finding.firstItem
  cases hf : f.findings with
  | absent => rfl
  | null => rfl
  | value v =>
    rw [hf] at h
    rw [Option.some.inj h]
    rfl

/-- flush を引き起こした finding が中立なら、二つの場所の alert は等しい。 -/
theorem alert_over_eq {b : Bucket} {f : Finding} (hb : b.severity ≠ "")
    (h : Neutral f b.severity) (now : Nat) : Alert.of (b.over f) now = Alert.of b.grouped now := by
  have hitem : (b.over f).firstItem = none :=
    firstItem_of_findings (f := b.over f) h.findings
  have hitem' : b.grouped.firstItem = none := rfl
  have hsev : (b.over f).effSeverity = b.grouped.effSeverity := by
    rw [effSeverity_over b f hb, effSeverity_grouped b hb]
    rcases h.maxSeverity with hm | hm
    · rw [hm]
      rfl
    · rw [truthy_eq_some.mpr ⟨hm, hb⟩]
      rfl
  have hfive : (b.over f).fiveTuple.get = b.grouped.fiveTuple.get := h.fiveTuple
  have hfind : (b.over f).findings.getD [] = b.grouped.findings.getD [] := h.findings
  unfold Alert.of
  rw [hitem, hitem', hsev, hfive, hfind]
  rfl

theorem ruleId_grouped (b : Bucket) (now : Nat) :
    (Alert.of b.grouped now).ruleId = some (orText b.ruleId "") := by
  have hrule : b.grouped.ruleId.get = b.ruleId := Field.get_ofOption b.ruleId
  unfold Alert.of orText
  simp only [hrule]
  cases truthy b.ruleId <;> rfl

/-- idle の flush の alert は、`five_tuple` と `findings` のほかは group から来る。 -/
theorem fromGroup_grouped_iff {b : Bucket} {key : String} (hb : b.Wf key) (now : Nat) :
    FromGroup b.members (Alert.of b.grouped now) ↔
      (∃ m ∈ b.members, m.finding.fiveTuple.get = none) ∧
        ∃ m ∈ b.members, m.finding.findings.getD [] = some [] := by
  constructor
  · intro h
    obtain ⟨m, hm, hfive⟩ := h.fiveTuple
    obtain ⟨x, hx, hfind⟩ := h.findings
    exact ⟨⟨m, hm, hfive.symm⟩, ⟨x, hx, hfind.symm⟩⟩
  · rintro ⟨⟨m, hm, hfive⟩, x, hx, hfind⟩
    obtain ⟨y, hy, hrule, -, horg⟩ := hb.first
    have hsev : (Alert.of b.grouped now).severity = b.severity := effSeverity_grouped b hb.severity
    refine ⟨⟨?_, ?_⟩, ⟨m, hm, hfive.symm⟩, ⟨y, hy, ?_⟩, ⟨y, hy, ?_⟩, ⟨x, hx, hfind.symm⟩⟩
    · rw [hsev]
      exact hb.top
    · rw [hsev]
      exact hb.upper
    · show (Field.ofOption b.orgId).get = _
      rw [Field.get_ofOption, horg]
    · rw [ruleId_grouped]
      exact congrArg (fun r => some (orText r "")) hrule

/--
どの run のどの group についても、次の entry の finding `f` で flush したときの alert と、idle の
flush の alert が、ともに group の finding から来て互いに等しいのは、`f` が中立で、group の中に
`five_tuple` の無い finding と `findings` の空な finding があるとき、かつそのときに限る。
-/
theorem groupAlert_iff (cfg : Config) (content : EntryId → Payload) (es : List Event) (now : Nat)
    (b : Bucket)
    (hb : AlertDispatcher.Flushes cfg (Run.exec (AlertDispatcher.step cfg content) {} es) now b)
    (f : Finding) :
    (FromGroup b.members (Alert.of (b.over f) now) ∧
      FromGroup b.members (Alert.of b.grouped now) ∧
      Alert.of (b.over f) now = Alert.of b.grouped now) ↔
    (Neutral f b.severity ∧ (∃ m ∈ b.members, m.finding.fiveTuple.get = none) ∧
      ∃ m ∈ b.members, m.finding.findings.getD [] = some []) := by
  obtain ⟨key, hwf⟩ := hb.wf cfg (AlertDispatcher.groups_wf cfg content es)
  constructor
  · rintro ⟨-, hidle, heq⟩
    refine ⟨⟨?_, ?_, ?_⟩, (fromGroup_grouped_iff hwf now).mp hidle⟩
    · exact congrArg Alert.fiveTuple heq
    · exact congrArg Alert.findings heq
    · have hsev : (b.over f).effSeverity = b.grouped.effSeverity := congrArg Alert.severity heq
      rw [effSeverity_over b f hwf.severity, effSeverity_grouped b hwf.severity] at hsev
      cases hm : truthy f.maxSeverity.get with
      | none => exact Or.inl rfl
      | some s =>
        rw [hm, Option.getD_some] at hsev
        exact Or.inr (hsev ▸ (truthy_eq_some.mp hm).1)
  · rintro ⟨hf, hm⟩
    have hidle := (fromGroup_grouped_iff hwf now).mpr hm
    have heq := alert_over_eq hwf.severity hf now
    exact ⟨heq ▸ hidle, hidle, heq⟩

/-! ## 二つの server の finding -/

/-- entry `e` の finding。一つ目は `critical`、ほかは `high` で、server が異なる。 -/
def twoServers (e : EntryId) : Payload :=
  if e = 1 then
    .object { maxSeverity := .value "critical", fiveTuple := .value "10.0.0.1:1->10.0.0.9:25" }
  else .object { maxSeverity := .value "high", fiveTuple := .value "10.0.0.2:1->10.0.0.8:25" }

/-- `five_tuple` も `findings` も無い finding の group では、二つの alert は一致する。 -/
theorem groupAlert_iff_bare :
    let b := Bucket.opened ⟨3, { severity := .value "high", server := .value "mx" }⟩ 0 10
    FromGroup b.members (Alert.of b.grouped 20) ∧
      Alert.of (b.over { server := .value "other" }) 20 = Alert.of b.grouped 20 := by
  refine ((groupAlert_iff {} (fun _ => .object { severity := .value "high", server := .value "mx" })
    [.entry 3 { now := 0 } {}] 20 _ (Or.inl ?_) { server := .value "other" }).mpr ?_).2
  · decide
  · refine ⟨⟨rfl, rfl, Or.inl rfl⟩, ⟨_, List.mem_singleton_self _, rfl⟩, ?_⟩
    exact ⟨_, List.mem_singleton_self _, rfl⟩

/-- 一つ目の group は、二つ目の finding の `five_tuple` と深刻度で alert になる。 -/
theorem groupAlert_mixed :
    (Run.exec (AlertDispatcher.step {} twoServers) {}
      [.entry 1 { now := 0 } {}, .entry 2 { now := 20 } {}]).sent.map
        (fun s => (s.members.map Member.id, s.alert.severity, s.alert.fiveTuple))
      = [([1], "high", some "10.0.0.2:1->10.0.0.8:25")] ∧
    ∀ s ∈ (Run.exec (AlertDispatcher.step {} twoServers) {}
      [.entry 1 { now := 0 } {}, .entry 2 { now := 20 } {}]).sent,
      ¬FromGroup s.members s.alert := by
  have hsent : (Run.exec (AlertDispatcher.step {} twoServers) {}
      [.entry 1 { now := 0 } {}, .entry 2 { now := 20 } {}]).sent.map
        (fun s => (s.members.map fun m => m.finding.fiveTuple.get, s.alert.fiveTuple))
      = [([some "10.0.0.1:1->10.0.0.9:25"], some "10.0.0.2:1->10.0.0.8:25")] := by decide
  refine ⟨by decide, fun s hs h => ?_⟩
  have hpair := List.mem_map_of_mem
    (f := fun s : Sent => (s.members.map fun m => m.finding.fiveTuple.get, s.alert.fiveTuple)) hs
  rw [hsent, List.mem_singleton, Prod.mk.injEq] at hpair
  obtain ⟨m, hm, hfive⟩ := h.fiveTuple
  have hmem := List.mem_map_of_mem (f := fun m : Member => m.finding.fiveTuple.get) hm
  rw [hpair.1, List.mem_singleton, ← hfive, hpair.2] at hmem
  exact absurd hmem (by decide)

end CipherPost.Live
