import CipherPost.Agent.DiskQueue
import Mathlib.Data.List.Perm.Basic
import Mathlib.Logic.Function.Iterate

/-!
# queue が空になるまで

`_ship_loop` が繰り返す一巡を、server がどの batch も受け取る場合について。`read_batch` は読めない行を
飛ばして item だけを返すが、`ack` の番号は `start` に item の数を足したものであり、行の数ではない。飛ばした
行の数だけ、次の巡で同じ行をまた読む。

行と item の型は任意である。行に番号を付ければ、同じ内容の行も区別される。

* `Shipment.cycle` — 一巡
* `cycle_unread`・`cycle_sent` — 一巡は、送った数だけ先頭の行を済ませる
* `iterate_sent` — 送る item は、`drain` の返すものである
* `exhausted_sent` — depth が 0 になるまでに送る数は、読めない行も含めた行の数である
* `kept_cycles` — 送られないまま済んだことになる行は無い
* `stuck_cycles` — 最後の行が読めなければ、depth は 0 にならない
* `drains_iff` — 空になって、読める行を一度ずつ送るのは、どの行も読めるときに限る
-/

namespace CipherPost.Agent

variable {L T : Type}

/-! ## depth -/

namespace DiskQueue

/-- `depth`。 -/
def depth (q : DiskQueue L) : Nat := q.lines.length - q.offset

theorem depth_eq (q : DiskQueue L) : q.depth = q.unread.length := List.length_drop.symm

theorem depth_eq_zero {q : DiskQueue L} : q.depth = 0 ↔ q.unread = [] := by
  rw [depth_eq, List.length_eq_zero_iff]

end DiskQueue

/-! ## 一巡 -/

/-- queue と、server が受け取った item の列、および `shipped`。 -/
structure Shipment (L T : Type) where
  queue : DiskQueue L
  sent : List T := []
  shipped : Nat := 0
  deriving DecidableEq

namespace Shipment

variable (loads : L → Option T)

/-- `_ship_loop` の一巡。 -/
def cycle (s : Shipment L T) : Shipment L T :=
  let r := s.queue.readBatch loads 100
  match r.2 with
  | [] => s
  | _ :: _ =>
    { queue := s.queue.ack (r.1 + r.2.length), sent := s.sent ++ r.2
      shipped := s.shipped + r.2.length }

/-- 次の巡で送る item。 -/
def batch (s : Shipment L T) : List T := (s.queue.unread.take 100).filterMap loads

/-- 何巡かの後に空になり、読める行がちょうど一度ずつ送られる。 -/
def Drains (q : DiskQueue L) : Prop :=
  ∃ n, ((cycle loads)^[n] ⟨q, [], 0⟩).queue.depth = 0 ∧
    ((cycle loads)^[n] ⟨q, [], 0⟩).sent.Perm (q.unread.filterMap loads)

variable {loads} {s : Shipment L T}

/-- 送るものの無い巡は、何も変えない。 -/
theorem cycle_of_batch_nil (h : s.batch loads = []) : s.cycle loads = s := by
  have hr : (s.queue.readBatch loads 100).2 = [] := by rw [DiskQueue.readBatch_snd]; exact h
  rw [cycle, hr]

/-- 送るものがあれば、その数だけ ack する。 -/
theorem cycle_of_batch_ne_nil (h : s.batch loads ≠ []) : s.cycle loads =
    { queue := s.queue.ack ((s.queue.readBatch loads 100).1 + (s.batch loads).length)
      sent := s.sent ++ s.batch loads, shipped := s.shipped + (s.batch loads).length } := by
  have hr : (s.queue.readBatch loads 100).2 = s.batch loads := DiskQueue.readBatch_snd loads 100 _
  rw [cycle, hr]
  cases hb : s.batch loads with
  | nil => exact absurd hb h
  | cons x xs => rfl

/-- 一巡は、送った item の数だけ、先頭の行を済ませる。 -/
theorem cycle_unread :
    (s.cycle loads).queue.unread = s.queue.unread.drop (s.batch loads).length := by
  by_cases h : s.batch loads = []
  · rw [cycle_of_batch_nil h, h, List.length_nil, List.drop_zero]
  · rw [cycle_of_batch_ne_nil h]
    exact DiskQueue.unread_ack_readBatch loads 100 _ s.queue

theorem cycle_sent : (s.cycle loads).sent = s.sent ++ s.batch loads := by
  by_cases h : s.batch loads = []
  · rw [cycle_of_batch_nil h, h, List.append_nil]
  · rw [cycle_of_batch_ne_nil h]

theorem cycle_shipped : (s.cycle loads).shipped = s.shipped + (s.batch loads).length := by
  by_cases h : s.batch loads = []
  · rw [cycle_of_batch_nil h, h, List.length_nil, Nat.add_zero]
  · rw [cycle_of_batch_ne_nil h]

/-- `n` 巡の間に送る item は、`drain` の返すものである。 -/
theorem iterate_sent : ∀ (n : Nat) (s : Shipment L T),
    ((cycle loads)^[n] s).sent = s.sent ++ DiskQueue.drain loads 100 n s.queue := by
  intro n
  induction n with
  | zero => exact fun s => (List.append_nil _).symm
  | succ n ih =>
    intro s
    have hread : (s.queue.readBatch loads 100).2 = s.batch loads :=
      DiskQueue.readBatch_snd loads 100 _
    by_cases h : s.batch loads = []
    · rw [Function.iterate_fixed (cycle_of_batch_nil h), DiskQueue.drain, hread, h, List.append_nil]
    · rw [Function.iterate_succ_apply, ih, DiskQueue.drain_succ (hread ▸ h), cycle_of_batch_ne_nil h,
        hread, List.append_assoc]

theorem batch_length_le_take : (s.batch loads).length ≤ (s.queue.unread.take 100).length :=
  List.length_filterMap_le _ _

theorem batch_length_le : (s.batch loads).length ≤ s.queue.unread.length :=
  Nat.le_trans batch_length_le_take (by rw [List.length_take]; exact Nat.min_le_right _ _)

theorem batch_length_le_limit : (s.batch loads).length ≤ 100 :=
  Nat.le_trans batch_length_le_take (by rw [List.length_take]; exact Nat.min_le_left _ _)

/-! ## 送る数 -/

/-- 送った数と残りの行の数の和は変わらない。 -/
theorem cycle_total : (s.cycle loads).sent.length + (s.cycle loads).queue.unread.length
    = s.sent.length + s.queue.unread.length := by
  have hle : (s.batch loads).length ≤ s.queue.unread.length := batch_length_le
  rw [cycle_sent, cycle_unread, List.length_append, List.length_drop]
  omega

/-- `shipped` は送った item の数である。 -/
theorem cycle_shipped_sent (h : s.shipped = s.sent.length) :
    (s.cycle loads).shipped = (s.cycle loads).sent.length := by
  rw [cycle_shipped, cycle_sent, List.length_append, h]

/-- 一巡が保つ性質は、何巡しても保たれる。 -/
theorem iterate_invariant {P : Shipment L T → Prop} (hstep : ∀ s, P s → P (s.cycle loads)) :
    ∀ (n : Nat) (s : Shipment L T), P s → P ((cycle loads)^[n] s) := by
  intro n
  induction n with
  | zero => exact fun _ h => h
  | succ n ih =>
    intro s h
    rw [Function.iterate_succ_apply]
    exact ih _ (hstep s h)

/-- depth が 0 になったとき、送った item の数は、読めない行も含めた行の数である。 -/
theorem exhausted_sent (q : DiskQueue L) (n : Nat)
    (h : ((cycle loads)^[n] ⟨q, [], 0⟩).queue.depth = 0) :
    ((cycle loads)^[n] ⟨q, [], 0⟩).sent.length = q.unread.length ∧
      ((cycle loads)^[n] ⟨q, [], 0⟩).shipped = q.unread.length := by
  let Total (s : Shipment L T) : Prop :=
    s.sent.length + s.queue.unread.length = q.unread.length
  have hstep : ∀ s, Total s → Total (s.cycle loads) := fun _ hs => cycle_total.trans hs
  have htotal : Total ((cycle loads)^[n] ⟨q, [], 0⟩) :=
    iterate_invariant hstep n ⟨q, [], 0⟩ (Nat.zero_add _)
  have hshipped : ((cycle loads)^[n] ⟨q, [], 0⟩).shipped
      = ((cycle loads)^[n] ⟨q, [], 0⟩).sent.length :=
    iterate_invariant (P := fun s => s.shipped = s.sent.length) (fun _ => cycle_shipped_sent) n
      ⟨q, [], 0⟩ rfl
  have hsent : ((cycle loads)^[n] ⟨q, [], 0⟩).sent.length = q.unread.length := by
    rw [← htotal, DiskQueue.depth_eq_zero.mp h, List.length_nil, Nat.add_zero]
  exact ⟨hsent, hshipped.trans hsent⟩

/-! ## 失わず、止まる -/

/-- 読めた item は、送られたか、まだ残っている。 -/
def Kept (loads : L → Option T) (item : T) (s : Shipment L T) : Prop :=
  item ∈ s.sent ∨ item ∈ s.queue.unread.filterMap loads

/-- 済んだことになる行は、送った batch の行に限られる。 -/
theorem kept_cycle {item : T} (h : Kept loads item s) : Kept loads item (s.cycle loads) := by
  rw [Kept, cycle_sent, cycle_unread]
  rcases h with h | h
  · exact .inl (List.mem_append_left _ h)
  · obtain ⟨l, hl, hload⟩ := List.mem_filterMap.mp h
    rw [← List.take_append_drop (s.batch loads).length s.queue.unread, List.mem_append] at hl
    rcases hl with hl | hl
    · refine .inl (List.mem_append_right _ (List.mem_filterMap.mpr ⟨l, ?_, hload⟩))
      exact (List.take_subset_take_left _ batch_length_le_limit) hl
    · exact .inr (List.mem_filterMap.mpr ⟨l, hl, hload⟩)

/-- depth が 0 になれば、読める行はどれも少なくとも一度は送られている。 -/
theorem kept_cycles (q : DiskQueue L) (n : Nat)
    (h : ((cycle loads)^[n] ⟨q, [], 0⟩).queue.depth = 0) {item : T}
    (hitem : item ∈ q.unread.filterMap loads) : item ∈ ((cycle loads)^[n] ⟨q, [], 0⟩).sent := by
  have hkept := iterate_invariant (P := Kept loads item) (fun _ => kept_cycle) n ⟨q, [], 0⟩
    (.inr hitem)
  rw [DiskQueue.depth_eq_zero] at h
  rcases hkept with hkept | hkept
  · exact hkept
  · rw [h] at hkept
    exact absurd hkept List.not_mem_nil

/-- 最後の行 `last` が残っている。 -/
def EndsWith (last : L) (s : Shipment L T) : Prop := ∃ rest, s.queue.unread = rest ++ [last]

/-- 読めない最後の行は、一巡の batch の数に入らないので、済まない。 -/
theorem endsWith_cycle {last : L} (hlast : loads last = none) (h : EndsWith last s) :
    EndsWith last (s.cycle loads) := by
  obtain ⟨rest, hrest⟩ := h
  have hle : (s.batch loads).length ≤ rest.length := by
    have hb : s.batch loads = ((rest.take 100).filterMap loads) := by
      rw [batch, hrest, List.take_append, List.filterMap_append]
      have hnone : (([last] : List L).take (100 - rest.length)).filterMap loads = [] := by
        rw [List.filterMap_eq_nil_iff]
        intro l hl
        rw [List.mem_singleton.mp (List.mem_of_mem_take hl)]
        exact hlast
      rw [hnone, List.append_nil]
    rw [hb]
    refine Nat.le_trans (List.length_filterMap_le _ _) ?_
    rw [List.length_take]
    exact Nat.min_le_right _ _
  refine ⟨rest.drop (s.batch loads).length, ?_⟩
  rw [cycle_unread, hrest, List.drop_append_of_le_length hle]

/-- 最後の行が読めなければ、何巡しても depth は 0 にならない。 -/
theorem stuck_cycles {q : DiskQueue L} {rest : List L} {last : L} (hq : q.unread = rest ++ [last])
    (hlast : loads last = none) (n : Nat) :
    ((cycle loads)^[n] ⟨q, [], 0⟩).queue.depth ≠ 0 := by
  obtain ⟨rest', hrest'⟩ := iterate_invariant (P := EndsWith last) (fun _ => endsWith_cycle hlast)
    n ⟨q, [], 0⟩ ⟨rest, hq⟩
  rw [Ne, DiskQueue.depth_eq_zero, hrest']
  exact List.append_ne_nil_of_right_ne_nil _ (List.cons_ne_nil _ _)

/-! ## どの行も読める queue -/

/-- どの行も読めるなら、送ったものと残りを合わせた item の列は変わらず、一巡が `min 100` 行を済ませる。 -/
theorem cycle_decoded (h : ∀ l ∈ s.queue.unread, (loads l).isSome) :
    (s.cycle loads).sent ++ (s.cycle loads).queue.unread.filterMap loads
        = s.sent ++ s.queue.unread.filterMap loads ∧
      (s.cycle loads).queue.unread.length = s.queue.unread.length - 100 := by
  have hlen : (s.batch loads).length = (s.queue.unread.take 100).length :=
    List.filterMap_length_eq_length.mpr fun l hl => h l (List.mem_of_mem_take hl)
  have hdrop : s.queue.unread.drop (s.batch loads).length = s.queue.unread.drop 100 := by
    rw [hlen, List.length_take, DiskQueue.drop_min_length]
  rw [cycle_sent, cycle_unread, hdrop, List.length_drop]
  refine ⟨?_, rfl⟩
  rw [List.append_assoc, batch, ← List.filterMap_append, List.take_append_drop]

/-- 行の数だけ巡れば、すべて順に送られる。 -/
theorem iterate_decoded : ∀ (n : Nat) (s : Shipment L T),
    (∀ l ∈ s.queue.unread, (loads l).isSome) → s.queue.unread.length ≤ n →
      ((cycle loads)^[n] s).queue.unread = [] ∧
        ((cycle loads)^[n] s).sent = s.sent ++ s.queue.unread.filterMap loads := by
  intro n
  induction n with
  | zero =>
    intro s _ hn
    have hnil : s.queue.unread = [] := List.length_eq_zero_iff.mp (Nat.le_zero.mp hn)
    refine ⟨hnil, ?_⟩
    rw [hnil, List.filterMap_nil, List.append_nil]
    rfl
  | succ n ih =>
    intro s h hn
    obtain ⟨hsame, hlen⟩ := cycle_decoded h
    have hsub : ∀ l ∈ (s.cycle loads).queue.unread, (loads l).isSome := by
      rw [cycle_unread]
      exact fun l hl => h l (List.mem_of_mem_drop hl)
    obtain ⟨hnil, hsent⟩ := ih (s.cycle loads) hsub (by omega)
    rw [Function.iterate_succ_apply]
    exact ⟨hnil, hsent.trans hsame⟩

/--
何巡かの後に depth が 0 になり、読める行がちょうど一度ずつ送られるのは、ack された位置より後の行がみな読める
ときに限る。読めない行があれば、止まるか、その数だけ余計に送る。
-/
theorem drains_iff (loads : L → Option T) (q : DiskQueue L) :
    Drains loads q ↔ ∀ l ∈ q.unread, (loads l).isSome := by
  constructor
  · rintro ⟨n, hdepth, hperm⟩
    have hlen := (exhausted_sent q n hdepth).1
    rw [hperm.length_eq] at hlen
    exact List.filterMap_length_eq_length.mp hlen
  · intro h
    obtain ⟨hnil, hsent⟩ := iterate_decoded q.unread.length ⟨q, [], 0⟩ h (Nat.le_refl _)
    refine ⟨q.unread.length, DiskQueue.depth_eq_zero.mpr hnil, ?_⟩
    rw [hsent, List.nil_append]

/-- `{}` だけの行を読む。 -/
def loadsEmpty (line : String) : Option Unit := if line = "\x7b\x7d\n" then some () else none

/-- 切れた行が後にあれば depth は 1 のまま、前にあれば次の行を二度送る。 -/
theorem torn_line_undrained :
    ¬ Drains loadsEmpty ⟨["\x7b\x7d\n", "\x7b\n"], 0, 0⟩ ∧
      ¬ Drains loadsEmpty ⟨["\x7b\n", "\x7b\x7d\n"], 0, 0⟩ := by
  refine ⟨?_, ?_⟩
  · rintro ⟨n, hdepth, -⟩
    have hq : (⟨["\x7b\x7d\n", "\x7b\n"], 0, 0⟩ : DiskQueue String).unread
        = ["\x7b\x7d\n"] ++ ["\x7b\n"] := rfl
    exact stuck_cycles hq (by decide) n hdepth
  · rintro ⟨n, hdepth, hperm⟩
    have hlen := (exhausted_sent _ n hdepth).1
    rw [hperm.length_eq] at hlen
    exact absurd hlen (by decide)

end Shipment

end CipherPost.Agent
