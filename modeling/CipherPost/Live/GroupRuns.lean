import CipherPost.Infra.Run
import CipherPost.Live.AlertState

/-!
# `GroupBuffer` の操作の列

追加と flush を好きな順に並べた列を、最初から通して見る。どの追加も、flush された group か、まだ保留している bucket の
ちょうど一つに数えられ、bucket は開いてから保留窓だけ経った後の最初の flush で出る。

時刻は非負の刻みの数で、保留窓も同じ刻みで数える。操作の番号は列の中の位置である。

* `BufferOp`・`GroupLog` — 操作と、出した group の記録
* `Bucket.Traced` — bucket の値が、その finding の追加から来ていること
* `Bucket.Waiting` — bucket を開いてから、期限の来た flush がまだ無いこと
* `group_runs_accounted` — どの操作の列の後でも、追加と group の勘定が合う
-/

namespace CipherPost.Live

/-! ## 操作の列 -/

/-- `GroupBuffer` の操作。 -/
inductive BufferOp where
  | add (f : Finding) (now : Nat)
  | flush (now : Nat)
  deriving DecidableEq

namespace BufferOp

/-- 操作の時刻。 -/
def time : BufferOp → Nat
  | add _ now => now
  | flush now => now

/-- `i` 番目の操作で追加した finding。 -/
def addedAt (i : Nat) : BufferOp → Option Member
  | add f _ => some ⟨i, f⟩
  | flush _ => none

end BufferOp

/-- 操作の列で追加した finding を、番号を付けて並べる。 -/
def added (ops : List BufferOp) : List Member := Run.numbered BufferOp.addedAt ops

/-- buffer と、flush の番号を付けた group の記録。 -/
structure GroupLog where
  groups : GroupBuffer := {}
  emitted : List (Nat × Bucket) := []
  /-- 済んだ操作の数。 -/
  done : Nat := 0
  deriving DecidableEq

namespace GroupLog

/-- 操作一つ。 -/
def step (hold : Nat) (s : GroupLog) : BufferOp → GroupLog
  | .add f now =>
    { s with groups := s.groups.add ⟨s.done, f⟩ now hold, done := s.done + 1 }
  | .flush now =>
    { groups := (s.groups.flushExpired now).2
      emitted := s.emitted ++ (s.groups.flushExpired now).1.map fun b => (s.done, b)
      done := s.done + 1 }

/-- まだ保留している bucket。 -/
def held (s : GroupLog) : List Bucket := s.groups.buckets.values

/-- 出した group の finding。 -/
def emittedMembers (s : GroupLog) : List Member := s.emitted.flatMap fun e => e.2.members

/-- 保留している finding。 -/
def heldMembers (s : GroupLog) : List Member := s.held.flatMap Bucket.members

end GroupLog

theorem added_concat (ops : List BufferOp) (op : BufferOp) :
    added (ops ++ [op]) = added ops ++ (op.addedAt ops.length).toList :=
  Run.numbered_concat ops op

/-! ## bucket の由来 -/

/-- bucket を開いた操作の番号。 -/
def Bucket.openedAt (b : Bucket) : Nat := (b.members.head?.map Member.id).getD 0

/--
bucket の値が、その finding の追加から来ている。見本は最初の finding、`first_seen` と `last_seen` は最初と最後の追加の
時刻で、深刻度は finding の最大の順位を持つ。
-/
structure Bucket.Traced (hold : Nat) (ops : List BufferOp) (b : Bucket) : Prop where
  wf : b.Wf (groupKeyOf b.sample)
  opening : ∃ m rest, b.members = m :: rest ∧ b.sample = m.finding ∧
    ops[m.id]? = some (.add m.finding b.firstSeen)
  closing : ∃ m, b.members.getLast? = some m ∧ ops[m.id]? = some (.add m.finding b.lastSeen)
  adds : ∀ m ∈ b.members, ∃ now, ops[m.id]? = some (.add m.finding now)
  ordered : b.members.Pairwise fun m m' => m.id < m'.id
  count : b.count = b.members.length
  deadline : b.deadline = b.firstSeen + hold

/-- 開いてから `stop` 番目の操作の前まで、期限の来た flush が無い。 -/
def Bucket.Waiting (hold : Nat) (ops : List BufferOp) (b : Bucket) (stop : Nat) : Prop :=
  ∀ q now, b.openedAt < q → q < stop → ops[q]? = some (.flush now) → now < b.firstSeen + hold

/-! ## bucket を作る、延ばす -/

namespace Bucket

theorem firstSeen_merge (b : Bucket) (m : Member) (now : Nat) :
    (b.merge m now).firstSeen = b.firstSeen := by
  unfold merge
  simp only
  split <;> rfl

theorem lastSeen_merge (b : Bucket) (m : Member) (now : Nat) : (b.merge m now).lastSeen = now := by
  unfold merge
  simp only
  split <;> rfl

theorem sample_merge (b : Bucket) (m : Member) (now : Nat) : (b.merge m now).sample = b.sample := by
  unfold merge
  simp only
  split <;> rfl

theorem count_merge (b : Bucket) (m : Member) (now : Nat) :
    (b.merge m now).count = b.count + 1 := by
  unfold merge
  simp only
  split <;> rfl

end Bucket

/-- 操作を足しても、前の操作は同じ番号にある。 -/
theorem getElem?_concat_of_some {ops : List BufferOp} {op x : BufferOp} {i : Nat}
    (h : ops[i]? = some x) : (ops ++ [op])[i]? = some x := by
  rw [List.getElem?_append_left (List.getElem?_eq_some_iff.mp h).1]
  exact h

section
variable {hold : Nat} {ops : List BufferOp} {b : Bucket}

theorem Bucket.Traced.extend (h : b.Traced hold ops) (op : BufferOp) :
    b.Traced hold (ops ++ [op]) where
  wf := h.wf
  opening := by
    obtain ⟨m, rest, hm, hsample, hop⟩ := h.opening
    exact ⟨m, rest, hm, hsample, getElem?_concat_of_some hop⟩
  closing := by
    obtain ⟨m, hm, hop⟩ := h.closing
    exact ⟨m, hm, getElem?_concat_of_some hop⟩
  adds := by
    intro m hm
    obtain ⟨now, hop⟩ := h.adds m hm
    exact ⟨now, getElem?_concat_of_some hop⟩
  ordered := h.ordered
  count := h.count
  deadline := h.deadline

theorem Bucket.traced_opened (f : Finding) (now : Nat) :
    (Bucket.opened ⟨ops.length, f⟩ now hold).Traced hold (ops ++ [.add f now]) where
  wf := Bucket.wf_opened ⟨ops.length, f⟩ now hold
  opening := ⟨⟨ops.length, f⟩, [], rfl, rfl, List.getElem?_concat_length⟩
  closing := ⟨⟨ops.length, f⟩, rfl, List.getElem?_concat_length⟩
  adds := by
    intro m hm
    rw [List.mem_singleton.mp hm]
    exact ⟨now, List.getElem?_concat_length⟩
  ordered := List.pairwise_singleton _ _
  count := rfl
  deadline := rfl

theorem Bucket.Traced.merge (h : b.Traced hold ops) {f : Finding} (now : Nat)
    (hkey : groupKeyOf b.sample = groupKeyOf f) :
    (b.merge ⟨ops.length, f⟩ now).Traced hold (ops ++ [.add f now]) where
  wf := by
    have hwf := h.wf
    rw [hkey] at hwf
    rw [sample_merge, hkey]
    exact hwf.merge (m := ⟨ops.length, f⟩)
  opening := by
    obtain ⟨m, rest, hm, hsample, hop⟩ := h.opening
    refine ⟨m, rest ++ [⟨ops.length, f⟩], ?_, ?_, ?_⟩
    · rw [members_merge, hm, List.cons_append]
    · rw [sample_merge, hsample]
    · rw [firstSeen_merge]
      exact getElem?_concat_of_some hop
  closing := by
    refine ⟨⟨ops.length, f⟩, ?_, ?_⟩
    · rw [members_merge, List.getLast?_concat]
    · rw [lastSeen_merge]
      exact List.getElem?_concat_length
  adds := by
    intro m hm
    rcases mem_members_merge.mp hm with hm | rfl
    · obtain ⟨t, hop⟩ := h.adds m hm
      exact ⟨t, getElem?_concat_of_some hop⟩
    · exact ⟨now, List.getElem?_concat_length⟩
  ordered := by
    rw [members_merge]
    refine List.pairwise_append.mpr ⟨h.ordered, List.pairwise_singleton _ _, fun m hm m' hm' => ?_⟩
    rw [List.mem_singleton.mp hm']
    obtain ⟨t, hop⟩ := h.adds m hm
    exact (List.getElem?_eq_some_iff.mp hop).1
  count := by rw [count_merge, members_merge, List.length_append, h.count, List.length_singleton]
  deadline := by rw [deadline_merge, firstSeen_merge, h.deadline]

theorem Bucket.openedAt_merge (h : b.Traced hold ops) (m : Member) (now : Nat) :
    (b.merge m now).openedAt = b.openedAt := by
  obtain ⟨m₀, rest, hm, -, -⟩ := h.opening
  rw [openedAt, openedAt, members_merge, hm]
  rfl

theorem Bucket.Traced.openedAt_lt (h : b.Traced hold ops) : b.openedAt < ops.length := by
  obtain ⟨m, rest, hm, -, hop⟩ := h.opening
  rw [openedAt, hm]
  exact (List.getElem?_eq_some_iff.mp hop).1

/-- 時刻が戻らなければ、`first_seen` は `last_seen` を超えない。 -/
theorem Bucket.Traced.firstSeen_le (h : b.Traced hold ops)
    (hops : (ops.map BufferOp.time).Pairwise (· ≤ ·)) : b.firstSeen ≤ b.lastSeen := by
  obtain ⟨m, rest, hm, -, hop⟩ := h.opening
  obtain ⟨m', hlast, hop'⟩ := h.closing
  have hordered := h.ordered
  rw [hm] at hlast hordered
  rcases List.mem_cons.mp (List.mem_of_getLast? hlast) with rfl | hmem
  · rw [hop] at hop'
    exact Nat.le_of_eq (BufferOp.add.inj (Option.some.inj hop')).2
  · have hlt : m.id < m'.id := (List.pairwise_cons.mp hordered).1 m' hmem
    obtain ⟨hi, hget⟩ := List.getElem?_eq_some_iff.mp hop
    obtain ⟨hi', hget'⟩ := List.getElem?_eq_some_iff.mp hop'
    have hle := List.pairwise_iff_getElem.mp (List.pairwise_map.mp hops) m.id m'.id hi hi' hlt
    rw [hget, hget'] at hle
    exact hle

/-- 期限の来た flush でない操作では、待ち続ける。 -/
theorem Bucket.Waiting.extend (h : b.Waiting hold ops ops.length) {op : BufferOp}
    (hop : ∀ now, op = .flush now → now < b.firstSeen + hold) :
    b.Waiting hold (ops ++ [op]) (ops ++ [op]).length := by
  intro q now hopen hq hget
  rw [List.length_append, List.length_singleton] at hq
  rcases Nat.lt_succ_iff_lt_or_eq.mp hq with hlt | rfl
  · rw [List.getElem?_append_left hlt] at hget
    exact h q now hopen hlt hget
  · rw [List.getElem?_concat_length] at hget
    exact hop now (Option.some.inj hget)

/-- 開いたばかりの bucket の後には、まだ操作が無い。 -/
theorem Bucket.waiting_opened (f : Finding) (now : Nat) (op : BufferOp) :
    (Bucket.opened ⟨ops.length, f⟩ now hold).Waiting hold (ops ++ [op]) (ops ++ [op]).length := by
  intro q t hopen hq _
  have hopen : ops.length < q := hopen
  rw [List.length_append, List.length_singleton] at hq
  omega

/-- 延ばしても、開いた番号と `first_seen` は変わらないので、待ち続ける。 -/
theorem Bucket.Waiting.merge {stop : Nat} {later : List BufferOp} (htraced : b.Traced hold ops)
    (h : b.Waiting hold later stop) (m : Member) (now : Nat) :
    (b.merge m now).Waiting hold later stop := by
  intro q t hopen hq hop
  rw [Bucket.openedAt_merge htraced] at hopen
  rw [Bucket.firstSeen_merge]
  exact h q t hopen hq hop

/-- 前の操作についての条件は、操作を足しても変わらない。 -/
theorem Bucket.Waiting.append {stop : Nat} (h : b.Waiting hold ops stop) (hstop : stop ≤ ops.length)
    (op : BufferOp) : b.Waiting hold (ops ++ [op]) stop := by
  intro q now hopen hq hget
  rw [List.getElem?_append_left (Nat.lt_of_lt_of_le hq hstop)] at hget
  exact h q now hopen hq hget

end

/-! ## buffer の finding -/

/-- 加えた finding は、bucket のどれかに一つ入る。 -/
theorem GroupBuffer.members_add (g : GroupBuffer) (m : Member) (now hold : Nat) :
    ((g.add m now hold).buckets.values.flatMap Bucket.members).Perm
      (g.buckets.values.flatMap Bucket.members ++ [m]) := by
  unfold GroupBuffer.add
  simp only
  split
  · next hnone =>
    refine Dict.flatMap_values_set ?_
    rw [hnone]
    rfl
  · next b hb =>
    refine Dict.flatMap_values_set ?_
    rw [hb, Bucket.members_merge]
    rfl

/-- 期限の来た bucket と残る bucket を合わせると、元の bucket である。 -/
theorem GroupBuffer.due_append_flushed (g : GroupBuffer) (now : Nat) :
    (g.due now ++ (g.flushed now).buckets.values).Perm g.buckets.values := by
  have h := Dict.values_filter_append_perm g.buckets fun b => decide (b.deadline ≤ now)
  simp only [← decide_not] at h
  exact h

/-! ## 勘定 -/

/--
操作の列 `ops` の後の勘定。どの追加も、出した group か保留している bucket のちょうど一つにある。保留している bucket は
まだ期限が来ていない。出した group は、開いてから保留窓だけ経った後の最初の flush で出た。
-/
structure GroupLog.Accounted (hold : Nat) (ops : List BufferOp) (s : GroupLog) : Prop where
  done : s.done = ops.length
  members : (s.emittedMembers ++ s.heldMembers).Perm (added ops)
  held : ∀ key b, s.groups.buckets.get? key = some b →
    groupKeyOf b.sample = key ∧ b.Traced hold ops ∧ b.Waiting hold ops ops.length
  emitted : ∀ e ∈ s.emitted, e.2.Traced hold ops ∧ e.2.openedAt < e.1 ∧ e.2.Waiting hold ops e.1 ∧
    ∃ now, ops[e.1]? = some (.flush now) ∧ e.2.firstSeen + hold ≤ now

namespace GroupLog.Accounted

variable {hold : Nat} {ops : List BufferOp} {s : GroupLog}

/-- 出した group についての事実は、操作を足しても変わらない。 -/
theorem emitted_append (h : s.Accounted hold ops) (op : BufferOp) : ∀ e ∈ s.emitted,
    e.2.Traced hold (ops ++ [op]) ∧ e.2.openedAt < e.1 ∧ e.2.Waiting hold (ops ++ [op]) e.1 ∧
      ∃ now, (ops ++ [op])[e.1]? = some (.flush now) ∧ e.2.firstSeen + hold ≤ now := by
  intro e he
  obtain ⟨htraced, hopen, hwait, now, hflush, hdue⟩ := h.emitted e he
  have hlt := (List.getElem?_eq_some_iff.mp hflush).1
  exact ⟨htraced.extend op, hopen, hwait.append (Nat.le_of_lt hlt) op, now,
    getElem?_concat_of_some hflush, hdue⟩

theorem empty (hold : Nat) : ({} : GroupLog).Accounted hold [] where
  done := rfl
  members := List.Perm.refl _
  held := by
    intro key b hb
    rw [Dict.get?_empty] at hb
    cases hb
  emitted := by
    intro e he
    cases he

/-- 追加の後に保留している bucket は、その追加で開いたか、延びたか、前のままである。 -/
theorem held_add (h : s.Accounted hold ops) (f : Finding) (now : Nat) {key : String} {b : Bucket}
    (hb : (s.groups.add ⟨s.done, f⟩ now hold).buckets.get? key = some b) :
    groupKeyOf b.sample = key ∧ b.Traced hold (ops ++ [.add f now]) ∧
      b.Waiting hold (ops ++ [.add f now]) (ops ++ [BufferOp.add f now]).length := by
  have hnever : ∀ {b : Bucket} t, BufferOp.add f now = .flush t → t < b.firstSeen + hold :=
    fun t ht => by cases ht
  rw [GroupBuffer.get?_add, h.done] at hb
  split at hb
  · next hkey =>
    cases hget : s.groups.buckets.get? key with
    | none =>
      rw [hget] at hb
      obtain rfl := Option.some.inj hb
      exact ⟨hkey, Bucket.traced_opened f now, Bucket.waiting_opened f now _⟩
    | some b₀ =>
      rw [hget] at hb
      obtain rfl := Option.some.inj hb
      obtain ⟨hsample, htraced, hwait⟩ := h.held key b₀ hget
      refine ⟨?_, htraced.merge now (hsample.trans hkey.symm), ?_⟩
      · rw [Bucket.sample_merge, hsample]
      · exact (hwait.extend hnever).merge htraced _ now
  · obtain ⟨hsample, htraced, hwait⟩ := h.held key b hb
    exact ⟨hsample, htraced.extend _, hwait.extend hnever⟩

theorem add (h : s.Accounted hold ops) (f : Finding) (now : Nat) :
    (s.step hold (.add f now)).Accounted hold (ops ++ [.add f now]) where
  done := by
    rw [List.length_append, List.length_singleton, ← h.done]
    rfl
  members := by
    have hadd := s.groups.members_add ⟨s.done, f⟩ now hold
    rw [added_concat]
    calc s.emittedMembers ++
          (s.groups.add ⟨s.done, f⟩ now hold).buckets.values.flatMap Bucket.members
        |>.Perm (s.emittedMembers ++ (s.heldMembers ++ [⟨s.done, f⟩])) := hadd.append_left _
      _ = (s.emittedMembers ++ s.heldMembers) ++ [⟨ops.length, f⟩] := by
        rw [List.append_assoc, h.done]
      _ |>.Perm (added ops ++ [⟨ops.length, f⟩]) := h.members.append_right _
  held := fun _ _ hb => h.held_add f now hb
  emitted := h.emitted_append (.add f now)

/-- flush で出る bucket は、開いてから保留窓だけ経ち、前の flush では出なかったものである。 -/
theorem emitted_due (h : s.Accounted hold ops) (now : Nat) {b : Bucket} (hb : b ∈ s.groups.due now) :
    b.Traced hold (ops ++ [.flush now]) ∧ b.openedAt < s.done ∧
      b.Waiting hold (ops ++ [.flush now]) s.done ∧
      ∃ t, (ops ++ [.flush now])[s.done]? = some (.flush t) ∧ b.firstSeen + hold ≤ t := by
  obtain ⟨key, hget, hdue⟩ := GroupBuffer.mem_due.mp hb
  obtain ⟨-, htraced, hwait⟩ := h.held key b hget
  rw [htraced.deadline] at hdue
  rw [h.done]
  exact ⟨htraced.extend _, htraced.openedAt_lt, hwait.append (Nat.le_refl _) _, now,
    List.getElem?_concat_length, hdue⟩

theorem flush (h : s.Accounted hold ops) (now : Nat) :
    (s.step hold (.flush now)).Accounted hold (ops ++ [.flush now]) where
  done := by
    rw [List.length_append, List.length_singleton, ← h.done]
    rfl
  members := by
    have hsplit := s.groups.due_append_flushed now
    have hout : ((s.groups.due now).map fun b => (s.done, b)).flatMap (fun e => e.2.members) =
        (s.groups.due now).flatMap Bucket.members := List.flatMap_map ..
    rw [added_concat]
    calc (s.emitted ++ (s.groups.due now).map fun b => (s.done, b)).flatMap (fun e => e.2.members) ++
          (s.groups.flushed now).buckets.values.flatMap Bucket.members
      _ = s.emittedMembers ++
          (s.groups.due now ++ (s.groups.flushed now).buckets.values).flatMap Bucket.members := by
        rw [List.flatMap_append, hout, List.flatMap_append, List.append_assoc]
        rfl
      _ |>.Perm (s.emittedMembers ++ s.heldMembers) := (hsplit.flatMap_right _).append_left _
      _ |>.Perm (added ops ++ []) := (List.append_nil _).symm ▸ h.members
  held := by
    intro key b hb
    have hb : (s.groups.flushed now).buckets.get? key = some b := hb
    obtain ⟨hget, hlt⟩ := (GroupBuffer.get?_flushed s.groups now key b).mp hb
    obtain ⟨hsample, htraced, hwait⟩ := h.held key b hget
    refine ⟨hsample, htraced.extend _, hwait.extend fun t ht => ?_⟩
    cases ht
    rw [← htraced.deadline]
    exact hlt
  emitted := by
    intro e he
    rcases List.mem_append.mp he with he | he
    · exact h.emitted_append (.flush now) e he
    · obtain ⟨b, hb, rfl⟩ := List.mem_map.mp he
      exact h.emitted_due now hb

/-- 数の和は、finding の列の長さである。 -/
theorem count_sum (h : s.Accounted hold ops) :
    (s.emitted.map fun e => e.2.count).sum + (s.held.map Bucket.count).sum = (added ops).length := by
  have hemitted : (s.emitted.map fun e => e.2.count) = s.emitted.map fun e => e.2.members.length :=
    List.map_congr_left fun e he => (h.emitted e he).1.count
  have hheld : s.held.map Bucket.count = s.held.map fun b => b.members.length := by
    refine List.map_congr_left fun b hb => ?_
    obtain ⟨key, hget⟩ := (Dict.mem_values_iff _ _).mp hb
    exact (h.held key b hget).2.1.count
  rw [hemitted, hheld, ← List.length_flatMap, ← List.length_flatMap, ← List.length_append]
  exact h.members.length_eq

/-- group と bucket の最初の時刻は、最後の時刻を超えない。 -/
theorem firstSeen_le (h : s.Accounted hold ops) (hops : (ops.map BufferOp.time).Pairwise (· ≤ ·)) :
    (∀ e ∈ s.emitted, e.2.firstSeen ≤ e.2.lastSeen) ∧ ∀ b ∈ s.held, b.firstSeen ≤ b.lastSeen := by
  refine ⟨fun e he => (h.emitted e he).1.firstSeen_le hops, fun b hb => ?_⟩
  obtain ⟨key, hget⟩ := (Dict.mem_values_iff _ _).mp hb
  exact (h.held key b hget).2.1.firstSeen_le hops

end GroupLog.Accounted

/-- 追加の番号は、順に大きくなる。 -/
theorem pairwise_added (ops : List BufferOp) :
    (added ops).Pairwise fun m m' => m.id < m'.id := by
  refine Run.pairwise_numbered (fun i op m h => ?_) ops
  cases op with
  | add f now =>
    obtain rfl := Option.some.inj h
    rfl
  | flush now => cases h

/--
**時刻の戻らないどの操作の列の後でも、どの追加もちょうど一つの group か bucket に数えられ、group は開いてから保留窓だけ経った後の
最初の flush で出て、その値は finding の追加から来る。**
-/
theorem group_runs_accounted (hold : Nat) {ops : List BufferOp}
    (hops : (ops.map BufferOp.time).Pairwise (· ≤ ·)) :
    let s := Run.exec (GroupLog.step hold) {} ops
    s.Accounted hold ops ∧
    (s.emitted.map fun e => e.2.count).sum + (s.held.map Bucket.count).sum = (added ops).length ∧
    (added ops).Pairwise (fun m m' => m.id < m'.id) ∧
    (∀ e ∈ s.emitted, e.2.firstSeen ≤ e.2.lastSeen) ∧ ∀ b ∈ s.held, b.firstSeen ≤ b.lastSeen := by
  intro s
  have h : s.Accounted hold ops :=
    Run.history (I := fun ops s => GroupLog.Accounted hold ops s) (GroupLog.Accounted.empty hold)
      (fun ops op h => match op with
        | .add f now => h.add f now
        | .flush now => h.flush now) ops
  exact ⟨h, h.count_sum, pairwise_added ops, h.firstSeen_le hops⟩

/-- 一つの key に二つ、別の key に一つ追加し、前者を flush してから開き直す。 -/
def reopened : List BufferOp :=
  [.add { ruleId := .value "weak-cipher", server := .value "mx" } 0,
    .add { ruleId := .value "expired-cert", server := .value "mx" } 4,
    .add { ruleId := .value "weak-cipher", server := .value "mx", severity := .value "high" } 9,
    .flush 9, .flush 10, .add { ruleId := .value "weak-cipher", server := .value "mx" } 12]

theorem group_runs_reopened :
    ((Run.exec (GroupLog.step 10) {} reopened).emitted.map fun e => (e.1, e.2.count, e.2.severity)) =
      [(4, 2, "high")] ∧
    ((Run.exec (GroupLog.step 10) {} reopened).held.map Bucket.count).sum = 2 ∧
    (Run.exec (GroupLog.step 10) {} reopened).Accounted 10 reopened :=
  ⟨by decide +kernel, by decide +kernel, (group_runs_accounted 10 (by decide)).1⟩

end CipherPost.Live
