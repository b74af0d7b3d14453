import Mathlib.Algebra.GroupWithZero.Nat
import CipherPost.Live.Sweep

/-!
# 溜める bytes の上限

sweep は順に並んだ bytes だけを数えて上限と比べる。先頭の segment を失った stream の bytes は保留に溜まり、
数えられない。切れ目の先に payload の届かない stream では、保留はいつも空で、sweep の検査が上限を守る。

* `pendingBytes`・`storedBytes` — 保留の bytes と、stream の持つ bytes
* `Bounded` — どの stream の持つ bytes も、開いた stream の数も、上限の内にある
* `Intake`・`Gapped` — packet の列だけから数える payload と、切れ目の先に届いた payload の有無
* `Listening` — stream が開いてから届いた packet を添えた実行
* `bounded_of_intake` — `Gapped` の stream に届いた payload が上限の内にあれば、sweep の後は `Bounded` である
-/

namespace CipherPost.Live

open Parsing

/-- 順番を待っている bytes の数。 -/
def pendingBytes (hs : HalfStream) : Nat := (hs.pending.values.map List.length).sum

/-- stream の持つ bytes の数。 -/
def storedBytes (st : Stream) : Nat := bufferedBytes st + (pendingBytes st.ha + pendingBytes st.hb)

/-! ## 届いた payload -/

/-- 一方向の packet の列から数えた payload。`next` の前までは、切れ目なく届いている。 -/
structure Intake where
  syn : Option Nat := none
  next : Option Nat := none
  bytes : Nat := 0
  /-- 切れ目の先から始まる payload が届いた。 -/
  gap : Bool := false

/--
`seq` からの `len` bytes を数える。切れ目なく続く payload は、まだ届いていない部分だけを数え、切れ目の先から始まる
payload はそのまま数える。
-/
def Intake.place (i : Intake) (next seq len : Nat) : Intake :=
  if next < seq then { i with next := some next, bytes := i.bytes + len, gap := true }
  else { i with next := some (max next (seq + len)), bytes := i.bytes + (seq + len - next) }

/-- packet を一つ数える。始まりは、SYN を見ていればその次、なければ最初の payload の位置である。 -/
def Intake.add (i : Intake) (p : Packet) : Intake :=
  let i := { i with syn := if p.syn then some p.seq else i.syn }
  if p.payload = [] then i
  else i.place (i.next.getD ((i.syn.map (· + 1)).getD p.seq)) p.seq p.payload.length

/-- 接続の一方向に届いた payload。 -/
def intake (k : Key) (ps : List Packet) (dirA : Bool) : Intake :=
  (ps.filter fun p => decide (p.dirA k = dirA)).foldl Intake.add {}

/-- 接続のどちらかの方向に、切れ目の先から始まる payload が届いた。 -/
def Gapped (k : Key) (ps : List Packet) : Prop := ∃ dirA, (intake k ps dirA).gap = true

instance (k : Key) (ps : List Packet) : Decidable (Gapped k ps) :=
  inferInstanceAs (Decidable (∃ dirA : Bool, (intake k ps dirA).gap = true))

theorem intake_concat (k : Key) (ps : List Packet) (p : Packet) (dirA : Bool) :
    intake k (ps ++ [p]) dirA =
      if p.dirA k = dirA then (intake k ps dirA).add p else intake k ps dirA := by
  unfold intake
  rw [List.filter_append, List.foldl_append]
  by_cases h : p.dirA k = dirA <;> simp [h]

/-! ## 一方向に溜まる bytes -/

/-- 一方向の stream の持つ bytes の数。 -/
def heldBytes (hs : HalfStream) : Nat := hs.buf.length + pendingBytes hs

/-- 取り出しても、持つ bytes の数は変わらない。 -/
theorem heldBytes_flushLoop : ∀ (n : Nat) (hs : HalfStream),
    heldBytes (HalfStream.flushLoop n hs) = heldBytes hs
  | 0, _ => rfl
  | n + 1, hs => by
    rw [HalfStream.flushLoop]
    split
    · rfl
    · next f hf =>
      split
      · rfl
      · next seg hseg =>
        rw [heldBytes_flushLoop n]
        have hperm := ((Dict.values_perm_cons_erase hseg).map List.length).sum_nat
        unfold heldBytes pendingBytes
        rw [hperm, Nat.add_sub_cancel]
        simp only [List.length_append, List.map_cons, List.sum_cons]
        omega

/-- 取り出せば、位置は進む。 -/
theorem le_frontier_flushLoop : ∀ (n : Nat) {hs : HalfStream} {f : Nat}, hs.frontier = some f →
    ∃ f', (HalfStream.flushLoop n hs).frontier = some f' ∧ f ≤ f'
  | 0, _, f, h => ⟨f, h, Nat.le_refl f⟩
  | n + 1, hs, f, h => by
    rw [HalfStream.flushLoop, h]
    dsimp only
    split
    · exact ⟨f, h, Nat.le_refl f⟩
    · next seg hseg =>
      obtain ⟨f', hf', hle⟩ := @le_frontier_flushLoop n
        { hs with
          buf := hs.buf ++ seg
          frontier := some (f + seg.length)
          pending := hs.pending.erase (f + seg.length - seg.length) } (f + seg.length) rfl
      exact ⟨f', hf', (Nat.le_add_right f _).trans hle⟩

/-- 位置から始まる保留は、取り出される。 -/
theorem frontier_flush {hs : HalfStream} {f : Nat} {seg : Bytes} (h : hs.frontier = some f)
    (hseg : hs.pending.get? f = some seg) :
    ∃ f', hs.flush.frontier = some f' ∧ f + seg.length ≤ f' := by
  unfold HalfStream.flush
  obtain ⟨n, hn⟩ := Nat.exists_eq_succ_of_ne_zero (Dict.size_ne_zero_of_get? hseg)
  rw [hn, HalfStream.flushLoop, h]
  dsimp only
  rw [hseg]
  exact le_frontier_flushLoop n rfl

/-- 保留が空なら、位置から始まる payload は、そのまま取り出される。 -/
theorem flush_set {hs : HalfStream} {f : Nat} {data : Bytes} (hf : hs.frontier = some f)
    (hnil : hs.pending.entries = []) :
    (HalfStream.flush { hs with pending := hs.pending.set f data }).pending.entries = [] ∧
      (HalfStream.flush { hs with pending := hs.pending.set f data }).frontier =
        some (f + data.length) := by
  have hentries : (hs.pending.set f data).entries = [(f, data)] := by
    show DictList.set f data hs.pending.entries = _
    rw [hnil]
    rfl
  have hsize : (hs.pending.set f data).size = 1 := congrArg List.length hentries
  have hget : (hs.pending.set f data).get? f = some data := Dict.get?_set_self _ _ _
  unfold HalfStream.flush
  simp only [hsize, HalfStream.flushLoop, hf, hget]
  refine ⟨?_, trivial⟩
  show (hs.pending.set f data).entries.filter
    (fun e => decide (e.1 ≠ f + data.length - data.length)) = []
  rw [hentries, Nat.add_sub_cancel]
  simp

/-- 保留を一つ置けば、その長さまで増える。 -/
theorem pendingBytes_set_le (d : Dict Nat Bytes) (seq : Nat) (data : Bytes) :
    ((d.set seq data).values.map List.length).sum ≤ (d.values.map List.length).sum + data.length := by
  have hlist : ∀ l : List (Nat × Bytes),
      (((DictList.set seq data l).map Prod.snd).map List.length).sum ≤
        ((l.map Prod.snd).map List.length).sum + data.length := by
    intro l
    induction l with
    | nil => simp [DictList.set]
    | cons e l ih =>
      rw [DictList.set]
      split
      · simp only [List.map_cons, List.sum_cons]
        omega
      · simp only [List.map_cons, List.sum_cons]
        omega
  exact hlist d.entries

/-- 一方向の stream は、届いた payload の他に何も持たない。 -/
structure Within (hs : HalfStream) (i : Intake) : Prop where
  syn : hs.synSeq = i.syn
  start : hs.frontier = none → hs.baseSeq = none ∧ i.next = none
  next : ∀ f, hs.frontier = some f → ∃ n, i.next = some n ∧ n ≤ f
  bytes : heldBytes hs ≤ i.bytes
  -- 切れ目が無ければ、届いた payload はどれも取り出してある
  tight : i.gap = false → hs.pending.entries = [] ∧ hs.frontier = i.next

theorem within_init : Within {} {} where
  syn := rfl
  start := fun _ => ⟨rfl, rfl⟩
  next := fun _ h => by cases h
  bytes := Nat.le_refl 0
  tight := fun _ => ⟨rfl, rfl⟩

/-- 取り出した stream。 -/
theorem Within.flush {hs : HalfStream} {i : Intake} {f n : Nat} (hf : hs.frontier = some f)
    (hsyn : hs.synSeq = i.syn) (hnext : i.next = some n)
    (hn : n ≤ f ∨ ∃ seg, hs.pending.get? f = some seg ∧ n ≤ f + seg.length)
    (hbytes : heldBytes hs ≤ i.bytes)
    (htight : i.gap = false → hs.flush.pending.entries = [] ∧ hs.flush.frontier = i.next) :
    Within hs.flush i := by
  obtain ⟨f', hf', hle⟩ : ∃ f', hs.flush.frontier = some f' ∧ n ≤ f' := by
    rcases hn with hn | ⟨seg, hseg, hn⟩
    · obtain ⟨f', hf', hle⟩ := le_frontier_flushLoop hs.pending.size hf
      exact ⟨f', hf', hn.trans hle⟩
    · obtain ⟨f', hf', hle⟩ := frontier_flush hf hseg
      exact ⟨f', hf', hn.trans hle⟩
  obtain ⟨buf, frontier, pending, hframe⟩ := HalfStream.flushLoop_frame hs.pending.size hs
  refine ⟨?_, fun hnone => ?_, fun g hg => ?_, ?_, htight⟩
  · unfold HalfStream.flush
    rw [hframe]
    exact hsyn
  · rw [hf'] at hnone
    cases hnone
  · rw [hf', Option.some.injEq] at hg
    exact ⟨n, hnext, hg ▸ hle⟩
  · unfold HalfStream.flush
    rw [heldBytes_flushLoop]
    exact hbytes

/-- 位置から始まる payload を置いて、取り出した stream。 -/
theorem Within.fill {hs : HalfStream} {i : Intake} {f n : Nat} {data : Bytes}
    (hf : hs.frontier = some f) (hsyn : hs.synSeq = i.syn) (hnext : i.next = some n)
    (hn : n ≤ f + data.length)
    (hbytes : heldBytes { hs with pending := hs.pending.set f data } ≤ i.bytes)
    (htight : i.gap = false → hs.pending.entries = [] ∧ n = f + data.length) :
    Within (HalfStream.flush { hs with pending := hs.pending.set f data }) i := by
  refine Within.flush hf hsyn hnext (.inr ⟨data, Dict.get?_set_self _ _ _, hn⟩) hbytes fun h => ?_
  obtain ⟨hnil, rfl⟩ := htight h
  rw [hnext]
  exact flush_set hf hnil

/-- **payload を一つ置いても、届いた payload の他に何も持たない。** -/
theorem Within.place {hs : HalfStream} {i : Intake} {f n seq : Nat} {data : Bytes}
    (hsyn : hs.synSeq = i.syn) (hf : hs.frontier = some f) (hn : n ≤ f)
    (hbytes : heldBytes hs ≤ i.bytes)
    (htight : i.gap = false → hs.pending.entries = [] ∧ n = f) :
    Within
      (if seq + data.length ≤ f then hs
      else if seq < f then
        HalfStream.flush { hs with pending := hs.pending.set f (data.drop (f - seq)) }
      else HalfStream.flush { hs with pending := hs.pending.set seq data })
      (i.place n seq data.length) := by
  have hset : ∀ seq' data', heldBytes { hs with pending := hs.pending.set seq' data' } ≤
      i.bytes + data'.length := by
    intro seq' data'
    have hle := pendingBytes_set_le hs.pending seq' data'
    unfold heldBytes pendingBytes at hbytes ⊢
    dsimp only
    omega
  have hsome : hs.frontier ≠ none := by
    rw [hf]
    exact Option.some_ne_none f
  by_cases hold : seq + data.length ≤ f
  · -- もう出力した部分だけである
    rw [if_pos hold]
    unfold Intake.place
    split
    · refine ⟨hsyn, fun h => absurd h hsome, fun g hg => ⟨n, rfl, ?_⟩,
        hbytes.trans (Nat.le_add_right _ _), fun h => by cases h⟩
      exact Option.some.inj (hf.symm.trans hg) ▸ hn
    · refine ⟨hsyn, fun h => absurd h hsome, fun g hg => ⟨_, rfl, ?_⟩,
        hbytes.trans (Nat.le_add_right _ _), fun h => ?_⟩
      · exact Option.some.inj (hf.symm.trans hg) ▸ Nat.max_le.mpr ⟨hn, hold⟩
      · obtain ⟨hnil, rfl⟩ := htight h
        exact ⟨hnil, by rw [hf, Nat.max_eq_left hold]⟩
  · rw [if_neg hold]
    by_cases hlt : seq < f
    · -- 出力した部分の先だけを置く
      have hdrop : (data.drop (f - seq)).length = seq + data.length - f := by
        rw [List.length_drop]
        omega
      have hheld := hset f (data.drop (f - seq))
      rw [if_pos hlt]
      rw [hdrop] at hheld
      unfold Intake.place
      split
      · exact Within.fill hf hsyn rfl (hn.trans (Nat.le_add_right _ _))
          (hheld.trans (by dsimp only; omega)) fun h => by cases h
      · refine Within.fill hf hsyn rfl ?_ (hheld.trans (by dsimp only; omega)) fun h => ?_
        · rw [hdrop]
          omega
        · obtain ⟨hnil, rfl⟩ := htight h
          exact ⟨hnil, by rw [hdrop]; omega⟩
    · rw [if_neg hlt]
      unfold Intake.place
      split
      · exact Within.flush hf hsyn rfl (.inl hn) (hset seq data) fun h => by cases h
      · next hgap =>
        obtain rfl : f = seq := by omega
        refine Within.fill hf hsyn rfl (by omega) ((hset f data).trans (by dsimp only; omega))
          fun h => ?_
        obtain ⟨hnil, rfl⟩ := htight h
        exact ⟨hnil, by omega⟩

/-- **packet を一つ受け取っても、届いた payload の他に何も持たない。** -/
theorem Within.receive {hs : HalfStream} {i : Intake} (h : Within hs i) (p : Packet) :
    Within (hs.receive p) (i.add p) := by
  have hsyn : (hs.mark p).synSeq = if p.syn then some p.seq else i.syn := by
    rw [← h.syn]
    rfl
  rw [HalfStream.receive_eq]
  unfold Intake.add
  by_cases hnil : p.payload = []
  · rw [if_pos hnil, hnil, HalfStream.store_nil]
    exact ⟨hsyn, h.start, h.next, h.bytes, h.tight⟩
  · rw [if_neg hnil]
    unfold HalfStream.store
    rw [if_neg hnil]
    have hfirst : hs.frontier = none → i.next = none ∧
        (hs.mark p).anchor p.seq = ((hs.mark p).synSeq.map (· + 1)).getD p.seq := by
      -- 最初の payload が、組み立ての基準を決める
      intro hfrontier
      obtain ⟨hbase, hnext⟩ := h.start hfrontier
      refine ⟨hnext, ?_⟩
      unfold HalfStream.anchor
      rw [HalfStream.mark_baseSeq, hbase]
      cases (hs.mark p).synSeq <;> rfl
    refine Within.place hsyn rfl ?_ h.bytes fun hgap => ⟨(h.tight hgap).1, ?_⟩
    · dsimp only
      cases hfrontier : hs.frontier with
      | none =>
        obtain ⟨hnext, hanchor⟩ := hfirst hfrontier
        rw [hnext, HalfStream.mark_frontier, hfrontier, Option.getD_none, Option.getD_none, hanchor,
          hsyn]
      | some f =>
        obtain ⟨n, hnext, hn⟩ := h.next f hfrontier
        rw [hnext, HalfStream.mark_frontier, hfrontier]
        exact hn
    · dsimp only
      rw [HalfStream.mark_frontier, (h.tight hgap).2]
      cases hnext : i.next with
      | none =>
        obtain ⟨-, hanchor⟩ := hfirst ((h.tight hgap).2.trans hnext)
        rw [Option.getD_none, Option.getD_none, hanchor, hsyn]
      | some n => rfl

/-- stream は、届いた payload の他に何も持たない。 -/
def WithinStream (st : Stream) (k : Key) (ps : List Packet) : Prop :=
  ∀ dirA, Within (st.half dirA) (intake k ps dirA)

theorem WithinStream.feed {st : Stream} {k : Key} {ps : List Packet} (h : WithinStream st k ps)
    (p : Packet) : WithinStream (st.feed k p) k (ps ++ [p]) := by
  intro dirA
  rw [intake_concat]
  by_cases hdir : p.dirA k = dirA
  · subst hdir
    rw [if_pos rfl, Stream.half_feed]
    exact (h _).receive p
  · rw [if_neg hdir, Stream.half_feed_of_ne st k p (Ne.symm hdir)]
    exact h dirA

theorem WithinStream.storedBytes_le {st : Stream} {k : Key} {ps : List Packet}
    (h : WithinStream st k ps) :
    storedBytes st ≤ (intake k ps true).bytes + (intake k ps false).bytes := by
  have ha : heldBytes st.ha ≤ (intake k ps true).bytes := (h true).bytes
  have hb : heldBytes st.hb ≤ (intake k ps false).bytes := (h false).bytes
  unfold storedBytes bufferedBytes
  unfold heldBytes at ha hb
  omega

/-- 切れ目の先に payload の届かない stream は、順に並んだ bytes の他に何も持たない。 -/
theorem WithinStream.storedBytes_of_not_gapped {st : Stream} {k : Key} {ps : List Packet}
    (h : WithinStream st k ps) (hgap : ¬Gapped k ps) : storedBytes st = bufferedBytes st := by
  have hpending : ∀ dirA, pendingBytes (st.half dirA) = 0 := by
    intro dirA
    have hnone : (intake k ps dirA).gap = false := Bool.eq_false_iff.mpr fun ht => hgap ⟨dirA, ht⟩
    unfold pendingBytes Dict.values
    rw [((h dirA).tight hnone).1]
    rfl
  have ha : pendingBytes st.ha = 0 := hpending true
  have hb : pendingBytes st.hb = 0 := hpending false
  rw [storedBytes, ha, hb, Nat.add_zero]

/-! ## 実行 -/

/-- 再構成と、開いている stream のそれぞれに、開いてから届いた packet。 -/
structure Listening where
  live : LiveReassembler := {}
  heard : Key → List Packet := fun _ => []

namespace LiveReassembler

/-- 届いた packet を添えた一歩。閉じた stream の packet は忘れる。 -/
def listen (limits : Limits) (s : Listening) (e : ParityEvent) : Listening where
  live := step limits s.live e
  heard := fun k =>
    match e with
    | .packet p =>
      if key p.src p.sport p.dst p.dport = some k then s.heard k ++ [p.toPacket] else s.heard k
    | .sweep _ => if ((step limits s.live e).streams.get? k).isSome then s.heard k else []

/-- どの stream の持つ bytes も、開いた stream の数も、上限の内にある。 -/
structure Bounded (limits : Limits) (lr : LiveReassembler) : Prop where
  bytes : ∀ k st, lr.streams.get? k = some st → storedBytes st ≤ limits.maxBufferBytes
  sessions : lr.active.length ≤ limits.maxSessions

/--
切れ目の先に payload の届いた stream は、終わっても途絶えても上限を超えてもいなければ、開いてから届いた payload が
二つの方向を合わせて上限の内にある。
-/
def IntakeFits (limits : Limits) (s : Listening) : ParityEvent → Prop
  | .packet _ => True
  | .sweep now => ∀ k st, s.live.streams.get? k = some st → stays limits now st = true →
    Gapped k (s.heard k) →
      (intake k (s.heard k) true).bytes + (intake k (s.heard k) false).bytes ≤ limits.maxBufferBytes

instance (limits : Limits) (s : Listening) (e : ParityEvent) : Decidable (IntakeFits limits s e) :=
  match e with
  | .packet _ => .isTrue trivial
  | .sweep now =>
    decidable_of_iff (∀ o ∈ s.live.streams.entries, stays limits now o.2 = true →
      Gapped o.1 (s.heard o.1) →
        (intake o.1 (s.heard o.1) true).bytes + (intake o.1 (s.heard o.1) false).bytes ≤
          limits.maxBufferBytes)
      ⟨fun h k st hst => h (k, st) ((Dict.mem_entries_iff _ k st).mpr hst),
        fun h o ho => h o.1 o.2 ((Dict.mem_entries_iff _ o.1 o.2).mp ho)⟩

/-- 開いている stream は、届いた payload の他に何も持たない。 -/
def Accounted (s : Listening) : Prop := ∀ k,
  match s.live.streams.get? k with
  | none => s.heard k = []
  | some st => WithinStream st k (s.heard k)

theorem accounted_step (limits : Limits) (s : Listening) (e : ParityEvent) (h : Accounted s) :
    Accounted (listen limits s e) := by
  intro k
  have hk := h k
  cases e with
  | packet p =>
    show match (s.live.feedPacket p).streams.get? k with
      | none => (if key p.src p.sport p.dst p.dport = some k then s.heard k ++ [p.toPacket]
          else s.heard k) = []
      | some st => WithinStream st k (if key p.src p.sport p.dst p.dport = some k then
          s.heard k ++ [p.toPacket] else s.heard k)
    cases hkey : key p.src p.sport p.dst p.dport with
    | none =>
      rw [ParityState.streams_feedPacket_none s.live hkey]
      simpa using hk
    | some k' =>
      rw [ParityState.streams_feedPacket s.live hkey, Dict.get?_set]
      by_cases heq : k' = k
      · subst heq
        rw [if_pos rfl, if_pos rfl]
        refine WithinStream.feed ?_ p.toPacket
        unfold ParityState.streamAt
        cases hst : s.live.streams.get? k' with
        | none =>
          rw [hst] at hk
          rw [hk]
          exact fun dirA => by cases dirA <;> exact within_init
        | some st =>
          rw [hst] at hk
          exact hk
      · rw [if_neg heq, if_neg fun hsome => heq (Option.some.inj hsome)]
        exact hk
  | sweep now =>
    show match (s.live.sweep limits now).1.streams.get? k with
      | none => (if ((s.live.sweep limits now).1.streams.get? k).isSome then s.heard k else []) = []
      | some st => WithinStream st k
          (if ((s.live.sweep limits now).1.streams.get? k).isSome then s.heard k else [])
    cases hst : (s.live.sweep limits now).1.streams.get? k with
    | none => rfl
    | some st =>
      rw [((get?_sweep limits now s.live k st).mp hst).1] at hk
      exact hk

/-- 届いた packet を添えても、再構成は同じである。 -/
theorem live_listen (limits : Limits) : ∀ (es : List ParityEvent) (s : Listening),
    (Run.exec (listen limits) s es).live = Run.exec (step limits) s.live es
  | [], _ => rfl
  | e :: es, s => live_listen limits es (listen limits s e)

/-- sweep 一つの後。 -/
theorem bounded_sweep {limits : Limits} {s : Listening} {now : Nat} (h : Accounted s)
    (hfits : IntakeFits limits s (.sweep now)) : Bounded limits (s.live.sweep limits now).1 := by
  refine ⟨fun k st hst => ?_, length_active_sweep_le limits now s.live⟩
  obtain ⟨hget, hstay, -⟩ := (get?_sweep limits now s.live k st).mp hst
  have hk := h k
  rw [hget] at hk
  by_cases hgap : Gapped k (s.heard k)
  · exact (WithinStream.storedBytes_le hk).trans (hfits k st hget hstay hgap)
  · -- 保留は空なので、sweep の検査がそのまま上限になる
    have hcap := (stays_iff.mp hstay).2.2
    rw [overCap, decide_eq_false_iff_not, Nat.not_lt] at hcap
    rw [WithinStream.storedBytes_of_not_gapped hk hgap]
    exact hcap

/--
**溜める bytes の上限。** どの sweep でも、切れ目の先に payload の届いた stream に開いてから届いた payload が上限の
内にある実行では、どの sweep の後にも上限が守られる。切れ目の無い stream には条件が無く、開いた stream の数の上限は、
いつも守られる。
-/
theorem bounded_of_intake (limits : Limits) (es : List ParityEvent)
    (h : Run.Along (listen limits) (IntakeFits limits) {} es) (pre : List ParityEvent) (now : Nat)
    (hpre : pre ++ [.sweep now] <+: es) :
    Bounded limits (Run.exec (step limits) {} (pre ++ [.sweep now])) := by
  have haccounted : Accounted (Run.exec (listen limits) {} pre) :=
    Run.invariant (fun s e hs => accounted_step limits s e hs) pre fun _ => rfl
  have hbounded := bounded_sweep haccounted (Run.along_iff.mp h pre (.sweep now) hpre)
  rw [live_listen] at hbounded
  rw [Run.exec_append]
  exact hbounded

/-- 先頭の segment を失い、その先だけが届く接続。 -/
def gapTrace : List ParityEvent :=
  [.packet (ParityState.fromClient 100 0x02 1000000 []),
    .packet (ParityState.fromClient 105 0x18 1000001 (ascii "MAIL FROM:<a@example.org>")),
    .sweep 1000002]

/-- 上限が 64 bytes なら、切れ目の先の 25 bytes も、切れ目を埋めた 4 bytes も、上限の内にある。 -/
theorem bounded_of_intake_filled :
    Bounded { maxBufferBytes := 64 } (Run.exec (step { maxBufferBytes := 64 }) {}
      (gapTrace ++ [.packet (ParityState.fromClient 101 0x18 1000003 (ascii "NOOP"))] ++
        [.sweep 1000004])) :=
  bounded_of_intake { maxBufferBytes := 64 }
    (gapTrace ++ [.packet (ParityState.fromClient 101 0x18 1000003 (ascii "NOOP"))] ++
      [.sweep 1000004]) (by decide +kernel) _ 1000004 (List.prefix_refl _)

/-- 上限が 8 bytes でも、25 bytes の保留が sweep の後に残る。 -/
theorem bounded_gap :
    ¬ ∀ (limits : Limits) (es : List ParityEvent) (pre : List ParityEvent) (now : Nat),
      pre ++ [.sweep now] <+: es →
        Bounded limits (Run.exec (step limits) {} (pre ++ [.sweep now])) := by
  intro h
  have hbytes := (h { maxBufferBytes := 8 } gapTrace (gapTrace.take 2) 1000002
    (List.prefix_refl _)).bytes ParityState.clientKey
  revert hbytes
  decide +kernel

end LiveReassembler

end CipherPost.Live
