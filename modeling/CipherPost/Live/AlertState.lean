import CipherPost.Infra.Dict
import CipherPost.Live.Finding

/-!
# dispatcher の状態

`app/live/alert_state.py`。dedup と rate の予算（Redis と、Redis が落ちているときのメモリ）、
および保留窓の間 finding をまとめる `GroupBuffer`。

* `AlertState.checkAndSetDedup`・`AlertState.checkRate` — `RedisAlertState` の二つの操作
* `GroupBuffer.add`・`GroupBuffer.flushExpired` — group の追加と flush

dedup の印と bucket には、どの entry の finding から来たか（`Member`）を書き添える。
これは証明のための記録で、code の判断には使わない。
-/

namespace CipherPost.Live

/-- stream の entry の id。 -/
abbrev EntryId := Nat

/-- group に入った finding と、それを運んだ entry。 -/
structure Member where
  id : EntryId
  finding : Finding
  deriving DecidableEq

/-- dedup の印を付けた alert。 -/
structure Mark where
  org : Option String
  members : List Member
  deriving DecidableEq

/-! ## dedup と rate -/

/-- `RedisAlertState`。Redis の key と、process の中の代替。 -/
structure AlertState where
  /-- `alert:dedup:{key}` の期限。 -/
  redisDedup : Dict String (Nat × Mark) := Dict.empty
  /-- `alert:rate` の sorted set。member は時刻と process の組である。 -/
  redisRate : Dict (Nat × Nat) Nat := Dict.empty
  /-- `_mem_dedup`。 -/
  memDedup : Dict String (Nat × Mark) := Dict.empty
  /-- `_mem_rate`。 -/
  memRate : List Nat := []
  /-- `check_rate` の呼ばれた回数。次に読む時計の番号である。 -/
  rateCalls : Nat := 0
  deriving DecidableEq

namespace AlertState

/-- process が落ちると、メモリの代替は消える。 -/
def restart (a : AlertState) : AlertState := { a with memDedup := Dict.empty, memRate := [] }

/-- 5000 個を超えたら、古い方から 1000 個を捨てる。 -/
def evict (d : Dict String (Nat × Mark)) : Dict String (Nat × Mark) :=
  if 5000 < d.size then
    let oldest := (d.entries.mergeSort fun a b => decide (a.2.1 ≤ b.2.1)).take 1000
    d.filter fun k _ => decide (k ∉ oldest.map Prod.fst)
  else d

/-- `check_and_set_dedup`。真なら新しい key である。 -/
def checkAndSetDedup (a : AlertState) (window now : Nat) (redisUp : Bool) (key : String)
    (mark : Mark) : Bool × AlertState :=
  if redisUp then
    match a.redisDedup.get? key with
    | some (expires, _) =>
      if now < expires then (false, a)
      else (true, { a with redisDedup := a.redisDedup.set key (now + window, mark) })
    | none => (true, { a with redisDedup := a.redisDedup.set key (now + window, mark) })
  else
    let last := match a.memDedup.get? key with
      | some (last, _) => last
      | none => 0
    if now < last + window then (false, a)
    else (true, { a with memDedup := evict (a.memDedup.set key (now, mark)) })

/--
`check_rate`。真なら予算の内で、一つ消費する。呼び出しごとに時計（μs）を読む:
一つの `_dispatch` の列の中でも、二つの呼び出しは違う時刻を見うる。
-/
def checkRate (a : AlertState) (perMinute : Nat) (clock : Nat → Nat) (pid : Nat) (redisUp : Bool) :
    Bool × AlertState :=
  let now := clock a.rateCalls
  let a := { a with rateCalls := a.rateCalls + 1 }
  if redisUp then
    let rate := (a.redisRate.set (now, pid) now).filter fun _ score =>
      decide (now < score + 60000000)
    (decide (rate.size ≤ perMinute), { a with redisRate := rate })
  else
    let rate := a.memRate.filter fun t => decide (now < t + 60000000)
    if perMinute ≤ rate.length then (false, { a with memRate := rate })
    else (true, { a with memRate := rate ++ [now] })

end AlertState

/-! ## GroupBuffer -/

/-- `GroupBuffer` の bucket。 -/
structure Bucket where
  ruleId : Option String
  server : String
  severity : String
  title : String
  description : String
  protocol : Option String
  orgId : Option String
  riskScore : Option Int
  count : Nat
  firstSeen : Nat
  lastSeen : Nat
  sample : Finding
  deadline : Nat
  members : List Member
  deriving DecidableEq

namespace Bucket

/-- 最初の finding で開く bucket。 -/
def opened (m : Member) (now hold : Nat) : Bucket :=
  let f := m.finding
  { ruleId := f.ruleId.getD "unknown"
    server := serverHostOf f
    severity := f.effSeverity
    title := orText f.title.get ""
    description := orText f.description.get ""
    protocol := f.protocol.getD ""
    orgId := f.orgId.get
    riskScore := f.riskScore.get
    count := 1
    firstSeen := now
    lastSeen := now
    sample := f
    deadline := now + hold
    members := [m] }

/-- 開いている bucket に finding を足す。深刻度は高い方を残す。 -/
def merge (b : Bucket) (m : Member) (now : Nat) : Bucket :=
  let f := m.finding
  let b := { b with count := b.count + 1, lastSeen := now, members := b.members ++ [m] }
  if sevOrder b.severity < sevOrder (textOf f.maxOrSeverity) then
    { b with
      severity := textOf f.maxOrSeverity
      title := orText f.title.get b.title }
  else b

end Bucket

/-- `GroupBuffer`。 -/
structure GroupBuffer where
  buckets : Dict String Bucket := Dict.empty
  deriving DecidableEq

namespace GroupBuffer

/-- `GroupBuffer.add`。 -/
def add (g : GroupBuffer) (m : Member) (now hold : Nat) : GroupBuffer :=
  let key := groupKeyOf m.finding
  match g.buckets.get? key with
  | none => ⟨g.buckets.set key (Bucket.opened m now hold)⟩
  | some b => ⟨g.buckets.set key (b.merge m now)⟩

/-- 期限の来た bucket。 -/
def due (g : GroupBuffer) (now : Nat) : List Bucket :=
  (g.buckets.filter fun _ b => decide (b.deadline ≤ now)).values

/-- `flush_expired` の後に残る bucket。 -/
def flushed (g : GroupBuffer) (now : Nat) : GroupBuffer :=
  ⟨g.buckets.filter fun _ b => decide (¬b.deadline ≤ now)⟩

/-- `flush_expired`。挿入の順に取り出す。 -/
def flushExpired (g : GroupBuffer) (now : Nat) : List Bucket × GroupBuffer :=
  (g.due now, g.flushed now)

end GroupBuffer

/-! ## bucket の不変量 -/

namespace Bucket

/-- 深刻度が無いとき `str(None)` の順位は 0 で、`info` と同じである。 -/
theorem sevOrder_maxOrSeverity (f : Finding) :
    sevOrder (textOf f.maxOrSeverity) = sevOrder f.effSeverity := by
  unfold Finding.effSeverity orText
  cases h : f.maxOrSeverity with
  | none => decide
  | some s =>
    by_cases hs : s = ""
    · rw [hs]
      decide
    · rw [truthy_eq_some.mpr ⟨rfl, hs⟩]
      rfl

/-- 空でない文字列だけが正の順位を持つ。 -/
theorem ne_empty_of_sevOrder {s : String} (h : 0 < sevOrder s) : s ≠ "" := by
  intro he
  rw [he] at h
  exact absurd h (by decide)

/--
bucket が覚えていること。key はどの member の key とも同じで、深刻度は member の最大の順位を持ち、
`rule_id`・`server`・`org_id` は最初の member から来る。
-/
structure Wf (key : String) (b : Bucket) : Prop where
  key : ∀ m ∈ b.members, groupKeyOf m.finding = key
  first : ∃ m ∈ b.members, b.ruleId = m.finding.ruleId.getD "unknown" ∧
    b.server = serverHostOf m.finding ∧ b.orgId = m.finding.orgId.get
  top : ∃ m ∈ b.members, sevOrder b.severity = sevOrder m.finding.effSeverity
  upper : ∀ m ∈ b.members, sevOrder m.finding.effSeverity ≤ sevOrder b.severity
  severity : b.severity ≠ ""

theorem wf_opened (m : Member) (now hold : Nat) :
    (Bucket.opened m now hold).Wf (groupKeyOf m.finding) where
  key := by
    intro x hx
    rw [List.mem_singleton.mp hx]
  first := ⟨m, List.mem_singleton_self m, rfl, rfl, rfl⟩
  top := ⟨m, List.mem_singleton_self m, rfl⟩
  upper := by
    intro x hx
    rw [List.mem_singleton.mp hx]
    exact Nat.le_refl _
  severity := by
    show orText m.finding.maxOrSeverity "info" ≠ ""
    unfold orText
    cases h : truthy m.finding.maxOrSeverity with
    | none => decide
    | some s => exact (truthy_eq_some.mp h).2

theorem members_merge (b : Bucket) (m : Member) (now : Nat) :
    (b.merge m now).members = b.members ++ [m] := by
  unfold merge
  simp only
  split <;> rfl

theorem orgId_merge (b : Bucket) (m : Member) (now : Nat) : (b.merge m now).orgId = b.orgId := by
  unfold merge
  simp only
  split <;> rfl

theorem deadline_merge (b : Bucket) (m : Member) (now : Nat) :
    (b.merge m now).deadline = b.deadline := by
  unfold merge
  simp only
  split <;> rfl

theorem ruleId_merge (b : Bucket) (m : Member) (now : Nat) : (b.merge m now).ruleId = b.ruleId := by
  unfold merge
  simp only
  split <;> rfl

theorem server_merge (b : Bucket) (m : Member) (now : Nat) : (b.merge m now).server = b.server := by
  unfold merge
  simp only
  split <;> rfl

/-- 深刻度は、順位の高い方になる。 -/
theorem severity_merge (b : Bucket) (m : Member) (now : Nat) : (b.merge m now).severity =
    if sevOrder b.severity < sevOrder m.finding.effSeverity then textOf m.finding.maxOrSeverity
    else b.severity := by
  rw [← sevOrder_maxOrSeverity]
  unfold merge
  simp only
  split <;> rfl

theorem mem_members_merge {b : Bucket} {m x : Member} {now : Nat} :
    x ∈ (b.merge m now).members ↔ x ∈ b.members ∨ x = m := by
  rw [members_merge, List.mem_append, List.mem_singleton]

theorem Wf.merge {b : Bucket} {m : Member} {now : Nat} (h : b.Wf (groupKeyOf m.finding)) :
    (b.merge m now).Wf (groupKeyOf m.finding) where
  key := by
    intro z hz
    rcases mem_members_merge.mp hz with hz | rfl
    · exact h.key z hz
    · rfl
  first := by
    obtain ⟨x, hx, hrule, hserver, horg⟩ := h.first
    refine ⟨x, mem_members_merge.mpr (Or.inl hx), ?_, ?_, ?_⟩
    · rw [ruleId_merge, hrule]
    · rw [server_merge, hserver]
    · rw [orgId_merge, horg]
  top := by
    rw [severity_merge]
    split
    · exact ⟨m, mem_members_merge.mpr (Or.inr rfl), by rw [sevOrder_maxOrSeverity]⟩
    · obtain ⟨y, hy, htop⟩ := h.top
      exact ⟨y, mem_members_merge.mpr (Or.inl hy), htop⟩
  upper := by
    intro z hz
    rw [severity_merge]
    split
    · next hlt =>
      rw [sevOrder_maxOrSeverity]
      rcases mem_members_merge.mp hz with hz | rfl
      · exact Nat.le_of_lt (Nat.lt_of_le_of_lt (h.upper z hz) hlt)
      · exact Nat.le_refl _
    · next hge =>
      rcases mem_members_merge.mp hz with hz | rfl
      · exact h.upper z hz
      · exact Nat.le_of_not_lt hge
  severity := by
    rw [severity_merge]
    split
    · next hlt =>
      rw [← sevOrder_maxOrSeverity] at hlt
      exact ne_empty_of_sevOrder (Nat.lt_of_le_of_lt (Nat.zero_le _) hlt)
    · exact h.severity

end Bucket

namespace GroupBuffer

/-- どの bucket も、自分の key の下で整っている。 -/
def Wf (g : GroupBuffer) : Prop := ∀ key b, g.buckets.get? key = some b → b.Wf key

theorem wf_empty : ({} : GroupBuffer).Wf := by
  intro key b h
  simp at h

/-- `add` の後の bucket は、追加した key のもの以外は元のままである。 -/
theorem get?_add (g : GroupBuffer) (m : Member) (now hold : Nat) (key : String) :
    (g.add m now hold).buckets.get? key =
      if groupKeyOf m.finding = key then
        some (match g.buckets.get? key with
          | none => Bucket.opened m now hold
          | some b => b.merge m now)
      else g.buckets.get? key := by
  unfold add
  simp only
  split
  · next hnone =>
    rw [Dict.get?_set]
    split
    · next hk => rw [← hk, hnone]
    · rfl
  · next b hsome =>
    rw [Dict.get?_set]
    split
    · next hk => rw [← hk, hsome]
    · rfl

/-- `add` の後の bucket の member は、追加したものか、元からのものである。 -/
theorem mem_members_add {g : GroupBuffer} {m x : Member} {now hold : Nat} {key : String} {b : Bucket}
    (hb : (g.add m now hold).buckets.get? key = some b) (hx : x ∈ b.members) :
    (groupKeyOf m.finding = key ∧ x = m) ∨
      ∃ b₀, g.buckets.get? key = some b₀ ∧ x ∈ b₀.members := by
  rw [get?_add] at hb
  split at hb
  · next hkey =>
    rw [Option.some.injEq] at hb
    subst hb
    split at hx
    · exact Or.inl ⟨hkey, List.mem_singleton.mp hx⟩
    · next b₀ hb₀ =>
      rw [Bucket.members_merge, List.mem_append, List.mem_singleton] at hx
      rcases hx with hx | hx
      · exact Or.inr ⟨b₀, hb₀, hx⟩
      · exact Or.inl ⟨hkey, hx⟩
  · exact Or.inr ⟨b, hb, hx⟩

theorem Wf.add {g : GroupBuffer} (h : g.Wf) (m : Member) (now hold : Nat) :
    (g.add m now hold).Wf := by
  intro key b hb
  rw [get?_add] at hb
  split at hb
  · next hk =>
    rw [Option.some.injEq] at hb
    subst hk
    cases hg : g.buckets.get? (groupKeyOf m.finding) with
    | none =>
      rw [hg] at hb
      exact hb ▸ Bucket.wf_opened m now hold
    | some b₀ =>
      rw [hg] at hb
      exact hb ▸ (h _ b₀ hg).merge
  · exact h key b hb

theorem get?_flushed (g : GroupBuffer) (now : Nat) (key : String) (b : Bucket) :
    (g.flushed now).buckets.get? key = some b ↔ g.buckets.get? key = some b ∧ now < b.deadline := by
  unfold flushed
  rw [Dict.get?_filter]
  simp only [Option.filter_eq_some_iff, decide_eq_true_eq, Nat.not_le]

theorem Wf.flushed {g : GroupBuffer} (h : g.Wf) (now : Nat) : (g.flushed now).Wf :=
  fun key b hb => h key b ((get?_flushed g now key b).mp hb).1

/-- flush される bucket は、期限の来た bucket である。 -/
theorem mem_due {g : GroupBuffer} {now : Nat} {b : Bucket} :
    b ∈ g.due now ↔ ∃ key, g.buckets.get? key = some b ∧ b.deadline ≤ now := by
  unfold due
  rw [Dict.mem_values_iff]
  constructor
  · rintro ⟨key, h⟩
    rw [Dict.get?_filter, Option.filter_eq_some_iff, decide_eq_true_eq] at h
    exact ⟨key, h⟩
  · rintro ⟨key, h⟩
    refine ⟨key, ?_⟩
    rw [Dict.get?_filter, Option.filter_eq_some_iff, decide_eq_true_eq]
    exact h

end GroupBuffer

end CipherPost.Live
