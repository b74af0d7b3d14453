import CipherPost.Live.BatchParity

/-!
# sweep の後に残る stream

`LiveReassembler.sweep` は二つの loop から成る。一つ目は完結した stream・途絶えた stream・大きすぎる stream を
閉じ、二つ目は開いた stream の数が上限を超えた分を、古い方から追い出す。

* `stays` — 一つ目の loop に残る stream
* `evicted` — 二つ目の loop が追い出す接続
* `get?_sweep` — sweep の後の stream
* `length_active_sweep_le` — 開いた stream の数は上限を超えない
* `LiveReassembler.step` — packet と sweep の一歩
-/

namespace CipherPost.Live

open Parsing

namespace LiveReassembler

/-! ## 閉じた後の辞書 -/

/-- 閉じた後に残るのは、閉じた接続の他の stream である。 -/
theorem streams_closeAll : ∀ (l : List (Key × Stream × String)) (lr : LiveReassembler),
    (lr.closeAll l).1.streams = lr.streams.filter fun k _ => decide (k ∉ l.map Prod.fst) := by
  intro l
  induction l with
  | nil =>
    intro lr
    refine Dict.ext (List.filter_eq_self.mpr fun e _ => ?_).symm
    exact decide_eq_true List.not_mem_nil
  | cons e l ih =>
    intro lr
    obtain ⟨k, st, reason⟩ := e
    show ((lr.emitOne k st reason).1.closeAll l).1.streams = _
    rw [ih, streams_emitOne]
    refine Dict.ext ?_
    show (lr.streams.entries.filter _).filter _ = lr.streams.entries.filter _
    rw [List.filter_filter]
    refine List.filter_congr fun e _ => ?_
    rw [List.map_cons, ← Bool.decide_and]
    refine decide_eq_decide.mpr ?_
    rw [List.mem_cons, not_or, and_comm]

/-! ## 一つ目の loop -/

/-- 一つ目の loop に残る stream。 -/
def stays (limits : Limits) (now : Nat) (st : Stream) : Bool :=
  !st.complete && !isIdle limits now st && !overCap limits st

theorem stays_iff {limits : Limits} {now : Nat} {st : Stream} :
    stays limits now st = true ↔
      st.complete = false ∧ isIdle limits now st = false ∧ overCap limits st = false := by
  simp [stays, and_assoc]

/-- 一つ目の loop は、残らない stream をその接続のものとして閉じる。 -/
theorem closing_spec (limits : Limits) (now : Nat) (k : Key) (st : Stream)
    {o : Option (Key × Stream × String)}
    (ho : (if st.complete then some (k, st, closeReason st)
      else if isIdle limits now st then some (k, st, "idle")
      else if overCap limits st then
        some (k, { st with ha := { st.ha with rst := true }, hb := { st.hb with rst := true } },
          "cap")
      else none) = o) :
    o.isSome = !stays limits now st ∧ ∀ e, o = some e → e.1 = k := by
  unfold stays
  subst ho
  cases hc : st.complete with
  | true => exact ⟨rfl, fun e he => by cases he; rfl⟩
  | false =>
    cases hi : isIdle limits now st with
    | true => exact ⟨rfl, fun e he => by cases he; rfl⟩
    | false =>
      cases overCap limits st with
      | true => exact ⟨rfl, fun e he => by cases he; rfl⟩
      | false => exact ⟨rfl, fun e he => by cases he⟩

/-- 一つ目の loop が閉じる接続。 -/
theorem mem_closable_iff (limits : Limits) (now : Nat) (lr : LiveReassembler) (k : Key) :
    k ∈ (lr.closable limits now).map Prod.fst ↔
      ∃ st, lr.streams.get? k = some st ∧ stays limits now st = false := by
  unfold closable
  rw [List.mem_map]
  constructor
  · rintro ⟨o, ho, rfl⟩
    obtain ⟨⟨k, st⟩, he, hst⟩ := List.mem_filterMap.mp ho
    obtain ⟨hsome, hkey⟩ := closing_spec limits now k st hst
    rw [hkey o rfl]
    refine ⟨st, (Dict.mem_entries_iff _ _ _).mp he, ?_⟩
    simpa using hsome.symm
  · rintro ⟨st, hst, hstay⟩
    obtain ⟨hsome, hkey⟩ := closing_spec limits now k st rfl
    rw [hstay] at hsome
    obtain ⟨o, ho⟩ := Option.isSome_iff_exists.mp hsome
    exact ⟨o, List.mem_filterMap.mpr ⟨(k, st), (Dict.mem_entries_iff _ _ _).mpr hst, ho⟩, hkey o ho⟩

/-- 一つ目の loop の後の再構成。 -/
def staying (limits : Limits) (now : Nat) (lr : LiveReassembler) : LiveReassembler :=
  (lr.closeAll (lr.closable limits now)).1

theorem streams_staying (limits : Limits) (now : Nat) (lr : LiveReassembler) :
    (lr.staying limits now).streams = lr.streams.filter fun _ st => stays limits now st := by
  unfold staying
  rw [streams_closeAll]
  refine Dict.ext (List.filter_congr fun e he => ?_)
  have hget := (Dict.mem_entries_iff _ e.1 e.2).mp he
  have hclosed : e.1 ∈ (lr.closable limits now).map Prod.fst ↔ stays limits now e.2 = false := by
    rw [mem_closable_iff, hget]
    simp
  simp only [hclosed, Bool.not_eq_false, Bool.decide_eq_true]

/-- 一つ目の loop に残った stream はどれも開いている。 -/
theorem active_staying (limits : Limits) (now : Nat) (lr : LiveReassembler) :
    (lr.staying limits now).active = (lr.staying limits now).streams.entries := by
  refine List.filter_eq_self.mpr fun e he => ?_
  have hget := (Dict.mem_entries_iff _ e.1 e.2).mp he
  rw [streams_staying, Dict.get?_filter, Option.filter_eq_some_iff] at hget
  rw [(stays_iff.mp hget.2).1]
  rfl

/-! ## 二つ目の loop -/

/-- 二つ目の loop が追い出す接続。 -/
def evicted (limits : Limits) (now : Nat) (lr : LiveReassembler) : List Key :=
  ((lr.staying limits now).overflow limits).map Prod.fst

theorem streams_sweep (limits : Limits) (now : Nat) (lr : LiveReassembler) :
    (lr.sweep limits now).1.streams =
      (lr.staying limits now).streams.filter fun k _ => decide (k ∉ lr.evicted limits now) :=
  streams_closeAll _ _

/-- **sweep の後の stream。** 残る条件を満たし、追い出されないものである。 -/
theorem get?_sweep (limits : Limits) (now : Nat) (lr : LiveReassembler) (k : Key) (st : Stream) :
    (lr.sweep limits now).1.streams.get? k = some st ↔
      lr.streams.get? k = some st ∧ stays limits now st = true ∧ k ∉ lr.evicted limits now := by
  rw [streams_sweep, Dict.get?_filter, Option.filter_eq_some_iff, streams_staying, Dict.get?_filter,
    Option.filter_eq_some_iff, decide_eq_true_eq, and_assoc]

/-- 追い出した後に残る数は、上限を超えない。 -/
theorem length_active_sweep_le (limits : Limits) (now : Nat) (lr : LiveReassembler) :
    (lr.sweep limits now).1.active.length ≤ limits.maxSessions := by
  have hsub : (lr.sweep limits now).1.active.length ≤
      ((lr.staying limits now).streams.entries.filter fun e =>
        decide (e.1 ∉ lr.evicted limits now)).length := by
    refine (List.length_filter_le _ _).trans (Nat.le_of_eq ?_)
    rw [streams_sweep]
    rfl
  refine hsub.trans ?_
  -- 並べ替えた列の、追い出されるものは落ち、残りは上限の数である
  have hperm := (List.perm_insertionSort (fun a b : Key × Stream => a.2.firstTs ≤ b.2.firstTs)
    (lr.staying limits now).active).symm
  rw [active_staying] at hperm
  generalize hsorted : (lr.staying limits now).streams.entries.insertionSort
    (fun a b : Key × Stream => a.2.firstTs ≤ b.2.firstTs) = sorted at hperm
  generalize hn : (lr.staying limits now).streams.entries.length - limits.maxSessions = n
  have hevicted : lr.evicted limits now = (sorted.take n).map Prod.fst := by
    unfold evicted overflow
    rw [active_staying, hsorted, hn, List.map_map]
    rfl
  have htake : (sorted.take n).filter (fun e => decide (e.1 ∉ lr.evicted limits now)) = [] := by
    refine List.filter_eq_nil_iff.mpr fun e he h => ?_
    rw [hevicted] at h
    exact of_decide_eq_true h (List.mem_map_of_mem he)
  have hdrop : (sorted.drop n).length ≤ limits.maxSessions := by
    have hlen := hperm.length_eq
    rw [List.length_drop]
    omega
  calc ((lr.staying limits now).streams.entries.filter fun e =>
        decide (e.1 ∉ lr.evicted limits now)).length
      = (sorted.filter fun e => decide (e.1 ∉ lr.evicted limits now)).length :=
        (hperm.filter _).length_eq
    _ = ((sorted.drop n).filter fun e => decide (e.1 ∉ lr.evicted limits now)).length := by
        rw [← List.take_append_drop n sorted, List.filter_append, htake]
        simp
    _ ≤ (sorted.drop n).length := List.length_filter_le _ _
    _ ≤ limits.maxSessions := hdrop

/-! ## 一歩 -/

/-- packet と sweep の一歩。 -/
def step (limits : Limits) (lr : LiveReassembler) : ParityEvent → LiveReassembler
  | .packet p => lr.feedPacket p
  | .sweep now => (lr.sweep limits now).1

end LiveReassembler

end CipherPost.Live
