import CipherPost.Infra.Frontier
import CipherPost.Parsing.Reassembly

/-!
# 到着順と再構成

一方向の stream について、SYN の後に届いた slice の列を `feed` した結果を、
前線つきの区間の機械（`Front`）で読み直す。`_store` の保留は始点を key にした区間であり、
buffer は stream の先頭から前線までに等しい。

* `Tracks` — half stream が前線の状態を写していること
* `exists_offers_of_feedAll` — `feed` の列は区間の列の受け取りである
* `received_all_iff` — どの到着順でも stream 全体が得られるための、切り方についての条件
-/

namespace CipherPost.Parsing

open Front Function

/-! ## 一方向の入力 -/

/-- 一方向の packet が共有する端点と、その stream の key。 -/
structure Direction where
  src : Addr
  sport : Nat
  dst : Addr
  dport : Nat
  k : Key
  hk : key src sport dst dport = some k

/-- 端点の組で決まる、`feed` の `dir_a`。 -/
def Direction.dirA (c : Direction) : Bool :=
  decide (Addr.str c.src.ipStr = c.k.ipA) && decide (c.sport = c.k.pA)

/-- その方向に流れる packet。 -/
def Direction.packet (c : Direction) (seq ack : Nat) (payload : Bytes) (flags ts : Nat) :
    Packet :=
  { src := c.src, dst := c.dst, sport := c.sport, dport := c.dport
    seq := seq, ack := ack, payload := payload, flags := flags, ts := ts }

/-- payload の無い SYN。 -/
structure Syn where
  isn : Nat
  ack : Nat
  flags : Nat
  ts : Nat
  isSyn : flags &&& 0x02 ≠ 0

def Syn.packet (syn : Syn) (c : Direction) : Packet :=
  c.packet syn.isn syn.ack [] syn.flags syn.ts

/-- SYN に続けて packet の列を `feed` した後の、その方向の buffer。 -/
def receivedAfter (asm : StreamAssembler) (c : Direction) (syn : Syn) (ps : List Packet) :
    Option Bytes :=
  (asm.feedAll (syn.packet c :: ps)).bind fun asm' => asm'.bufOf c.k c.dirA

/-- stream `data` の slice を運ぶ segment。 -/
structure Slice (data : Bytes) where
  off : Nat
  len : Nat
  ack : Nat
  flags : Nat
  ts : Nat
  inside : off + len ≤ data.length
  noSyn : flags &&& 0x02 = 0

namespace Slice

variable {data : Bytes}

/-- slice の終わり。 -/
def stop (s : Slice data) : Nat := s.off + s.len

/-- slice の bytes。 -/
def payload (s : Slice data) : Bytes := (data.drop s.off).take s.len

/-- sequence number は SYN の次から数える。 -/
def packet (s : Slice data) (c : Direction) (isn : Nat) : Packet :=
  c.packet (isn + 1 + s.off) s.ack s.payload s.flags s.ts

/-- 空でない slice。 -/
def nonempty (s : Slice data) : Bool := decide (s.off < s.stop)

theorem length_payload (s : Slice data) : s.payload.length = s.len := by
  have := s.inside
  simp only [payload, List.length_take, List.length_drop]
  omega

theorem payload_eq_nil {s : Slice data} (h : s.nonempty = false) : s.payload = [] := by
  have hlen := s.length_payload
  have hle : ¬s.off < s.off + s.len := of_decide_eq_false h
  exact List.length_eq_zero_iff.mp (by omega)

end Slice

/-- SYN に続けて slice の列 `l` を順に `feed` した後の、その方向の buffer。 -/
def received {data : Bytes} (asm : StreamAssembler) (c : Direction) (syn : Syn)
    (l : List (Slice data)) : Option Bytes :=
  receivedAfter asm c syn (l.map fun s => s.packet c syn.isn)

/-! ## 前線との対応 -/

/-- half stream が前線 `s` を写している。offset は SYN の次から数える。 -/
structure Tracks (isn : Nat) (data : Bytes) (hs : HalfStream) (s : Front) : Prop where
  syn : hs.synSeq = some isn
  base : hs.baseSeq.getD (isn + 1) = isn + 1
  frontier : hs.frontier.getD (isn + 1) = isn + 1 + s.pos
  buf : hs.buf = data.take s.pos
  pend : ∀ q, s.pend q = (hs.pending.get? (isn + 1 + q)).map fun d => q + d.length
  slice : ∀ q d, hs.pending.get? (isn + 1 + q) = some d → d = (data.drop q).take d.length

variable {isn : Nat} {data : Bytes} {hs : HalfStream} {s : Front}

/-- 記録だけの packet は対応を変えない。 -/
theorem Tracks.mark (h : Tracks isn data hs s) {p : Packet} (hp : p.syn = false) :
    Tracks isn data (hs.mark p) s where
  syn := by rw [HalfStream.mark_synSeq_of_not_syn hs hp]; exact h.syn
  base := h.base
  frontier := h.frontier
  buf := h.buf
  pend := h.pend
  slice := h.slice

/-- 前線の位置の保留を一つ出力に移した状態の対応。 -/
theorem Tracks.hop (h : Tracks isn data hs s) {seg : Bytes}
    (hp : hs.pending.get? (isn + 1 + s.pos) = some seg) :
    Tracks isn data
      { hs with
        buf := hs.buf ++ seg
        frontier := some (isn + 1 + s.pos + seg.length)
        pending := hs.pending.erase (isn + 1 + s.pos) }
      ⟨s.pos + seg.length, update s.pend s.pos none⟩ where
  syn := h.syn
  base := h.base
  frontier := by rw [Option.getD_some, Nat.add_assoc]
  buf := by
    show hs.buf ++ seg = data.take (s.pos + seg.length)
    rw [h.buf, List.take_add, ← h.slice _ _ hp]
  pend := by
    intro q
    show update s.pend s.pos none q = _
    rw [Dict.get?_erase]
    by_cases hq : q = s.pos
    · rw [if_pos (by rw [hq]), hq, update_self]
      rfl
    · rw [if_neg (by omega), update_of_ne hq]
      exact h.pend q
  slice := by
    intro q d hq
    rw [Dict.get?_erase] at hq
    split at hq
    · cases hq
    · exact h.slice q d hq

/-- `_flush` は前線の取り出しを写す。 -/
theorem Tracks.flushLoop : ∀ {n : Nat} {hs : HalfStream} {s : Front}, hs.pending.size ≤ n →
    hs.frontier = some (isn + 1 + s.pos) → Tracks isn data hs s →
    ∃ s', Drain s s' ∧ Tracks isn data (HalfStream.flushLoop n hs) s' := by
  intro n
  induction n with
  | zero =>
    intro hs s hn _ h
    have hnil : hs.pending.entries = [] := List.length_eq_zero_iff.mp (Nat.le_zero.mp hn)
    have hnone : s.pend s.pos = none := by
      rw [h.pend, (Dict.get?_eq_none_iff hs.pending _).mpr (by rw [hnil]; simp)]
      rfl
    exact ⟨s, Drain.stop hnone, h⟩
  | succ n ih =>
    intro hs s hn hf h
    have hpend := h.pend s.pos
    rw [HalfStream.flushLoop, hf]
    cases hp : hs.pending.get? (isn + 1 + s.pos) with
    | none =>
      rw [hp] at hpend
      simp only [hp]
      exact ⟨s, Drain.stop hpend, h⟩
    | some seg =>
      rw [hp] at hpend
      simp only [hp, Nat.add_sub_cancel]
      -- 一つ取り出すごとに保留は減る
      have hlt := Dict.size_erase_lt hp
      have hle : (hs.pending.erase (isn + 1 + s.pos)).size ≤ n := by omega
      obtain ⟨s', hd, ht⟩ := ih hle (by rw [Nat.add_assoc]) (h.hop hp)
      exact ⟨s', Drain.hop hpend hd, ht⟩

/-- 保留に slice を一つ入れた状態の対応。 -/
theorem Tracks.insert {q : Nat} {d : Bytes} (h : Tracks isn data hs s)
    (hd : d = (data.drop q).take d.length) :
    Tracks isn data { hs with pending := hs.pending.set (isn + 1 + q) d }
      ⟨s.pos, update s.pend q (some (q + d.length))⟩ where
  syn := h.syn
  base := h.base
  frontier := h.frontier
  buf := h.buf
  pend := by
    intro q'
    show update s.pend q (some (q + d.length)) q' = _
    rw [Dict.get?_set]
    by_cases hq : q' = q
    · rw [if_pos (by rw [hq]), hq, update_self]
      rfl
    · rw [if_neg (by omega), update_of_ne hq]
      exact h.pend q'
  slice := by
    intro q' d' hq'
    rw [Dict.get?_set] at hq'
    split at hq'
    · next he =>
      have hqq : q = q' := by omega
      rw [Option.some.injEq] at hq'
      rw [← hq', ← hqq]
      exact hd
    · exact h.slice q' d' hq'

/-- `_store` が使う基準は SYN の次である。 -/
theorem Tracks.anchor (h : Tracks isn data hs s) (seq : Nat) : hs.anchor seq = isn + 1 := by
  have hb := h.base
  unfold HalfStream.anchor
  rw [h.syn]
  cases hbs : hs.baseSeq with
  | none => rfl
  | some b => rw [hbs] at hb; exact hb

/-- 時刻と基準だけを書き換えた half stream の対応。 -/
theorem Tracks.touch (h : Tracks isn data hs s) (firstTs lastTs : Nat) :
    Tracks isn data
      { hs with
        firstTs := firstTs, lastTs := lastTs, baseSeq := some (isn + 1)
        frontier := some (isn + 1 + s.pos) } s where
  syn := h.syn
  base := rfl
  frontier := rfl
  buf := h.buf
  pend := h.pend
  slice := h.slice

/-- 前線より手前で終わる bytes は捨てられる。 -/
theorem Tracks.store_below (h : Tracks isn data hs s) {seq : Nat} {payload : Bytes} (ts : Nat)
    (hle : seq + payload.length ≤ isn + 1 + s.pos) :
    Tracks isn data (hs.store seq payload ts) s := by
  unfold HalfStream.store
  split
  · exact h
  · simp only [h.anchor, h.frontier]
    rw [if_pos hle]
    exact h.touch _ _

/-- **`_store` は区間の受け取りを写す。** -/
theorem Tracks.store (h : Tracks isn data hs s) {a : Slice data} (ha : a.nonempty = true)
    (ts : Nat) :
    ∃ s', Offer Slice.off Slice.stop a s s' ∧
      Tracks isn data (hs.store (isn + 1 + a.off) a.payload ts) s' := by
  have hlen := a.length_payload
  have hlt : a.off < a.off + a.len := of_decide_eq_true ha
  by_cases hold : isn + 1 + a.off + a.len ≤ isn + 1 + s.pos
  · exact ⟨s, Offer.old (by show a.off + a.len ≤ s.pos; omega),
      h.store_below ts (by rw [hlen]; exact hold)⟩
  have hstop : s.pos < a.stop := by show s.pos < a.off + a.len; omega
  have hne : a.payload ≠ [] := by
    intro he
    rw [he, List.length_nil] at hlen
    omega
  unfold HalfStream.store
  simp only [h.anchor, h.frontier, hlen]
  rw [if_neg hne, if_neg hold]
  split
  · next hover =>
    -- 前線と重なる部分を切り落とした残り
    have hdrop : a.payload.drop (isn + 1 + s.pos - (isn + 1 + a.off))
        = (data.drop s.pos).take (a.stop - s.pos) := by
      rw [Slice.payload, List.drop_take, List.drop_drop]
      congr 1
      · show _ = a.off + a.len - s.pos
        omega
      · congr 1
        omega
    have hl : ((data.drop s.pos).take (a.stop - s.pos)).length = a.stop - s.pos := by
      have hin : a.stop ≤ data.length := a.inside
      rw [List.length_take, List.length_drop]
      omega
    rw [hdrop]
    obtain ⟨s', hd, ht⟩ := ((h.touch (if hs.firstTs = 0 then ts else hs.firstTs) ts).insert
      (q := s.pos) (by rw [hl])).flushLoop (Nat.le_refl _) rfl
    rw [hl, Nat.add_sub_cancel' (Nat.le_of_lt hstop)] at hd
    refine ⟨s', Offer.fresh hstop ?_, ht⟩
    rwa [Nat.max_eq_right (show a.off ≤ s.pos by omega)]
  · next hover =>
    obtain ⟨s', hd, ht⟩ := ((h.touch (if hs.firstTs = 0 then ts else hs.firstTs) ts).insert
      (q := a.off) (d := a.payload) (by rw [hlen]; rfl)).flushLoop (Nat.le_refl _) rfl
    rw [hlen] at hd
    refine ⟨s', Offer.fresh hstop ?_, ht⟩
    rwa [Nat.max_eq_left (show s.pos ≤ a.off by omega)]

/-! ## packet の列 -/

/-- 既にある stream に packet を一つ `feed` した後の half stream。 -/
theorem exists_feed {asm : StreamAssembler} {st : Stream} (c : Direction) (seq ack : Nat)
    (payload : Bytes) (flags ts : Nat) (hst : asm.streams.get? c.k = some st) :
    ∃ asm' st', asm.feed (c.packet seq ack payload flags ts) = some asm' ∧
      asm'.streams.get? c.k = some st' ∧
      st'.half c.dirA
        = ((st.half c.dirA).mark (c.packet seq ack payload flags ts)).store seq payload ts := by
  obtain ⟨asm', hfeed⟩ := StreamAssembler.feed_isSome asm
    (p := c.packet seq ack payload flags ts) c.hk
  obtain ⟨st', hget, hst' | ⟨hnone, -, -⟩⟩ := StreamAssembler.get?_feed c.hk hfeed
  · rw [hst, Option.some.injEq] at hst'
    subst hst'
    exact ⟨asm', _, hfeed, hget, (Stream.half_feed st c.k _).trans (HalfStream.receive_eq _ _)⟩
  · rw [hst] at hnone
    cases hnone

theorem syn_packet {flags : Nat} (h : flags &&& 0x02 = 0) (c : Direction) (seq ack : Nat)
    (payload : Bytes) (ts : Nat) : (c.packet seq ack payload flags ts).syn = false := by
  simp [Packet.syn, Direction.packet, h]

/-- slice の列の `feed` は、空でない slice を順に受け取ることである。 -/
theorem exists_offers_of_feedAll (c : Direction) : ∀ (l : List (Slice data))
    {asm : StreamAssembler} {st : Stream} {s : Front}, asm.streams.get? c.k = some st →
    Tracks isn data (st.half c.dirA) s →
    ∃ asm' st' s', asm.feedAll (l.map fun a => a.packet c isn) = some asm' ∧
      asm'.streams.get? c.k = some st' ∧
      Offers Slice.off Slice.stop (l.filter Slice.nonempty) s s' ∧
      Tracks isn data (st'.half c.dirA) s' := by
  intro l
  induction l with
  | nil => intro asm st s hst h; exact ⟨asm, st, s, rfl, hst, Offers.nil, h⟩
  | cons a l ih =>
    intro asm st s hst h
    obtain ⟨asm₁, st₁, hfeed, hget, hhalf⟩ :=
      exists_feed c (isn + 1 + a.off) a.ack a.payload a.flags a.ts hst
    have hm := h.mark (syn_packet a.noSyn c (isn + 1 + a.off) a.ack a.payload a.ts)
    have hstep : ∃ s₁, Tracks isn data (st₁.half c.dirA) s₁ ∧
        ∀ {s'}, Offers Slice.off Slice.stop (l.filter Slice.nonempty) s₁ s' →
          Offers Slice.off Slice.stop ((a :: l).filter Slice.nonempty) s s' := by
      rw [hhalf]
      cases hne : a.nonempty with
      | true =>
        obtain ⟨s₁, ho, ht⟩ := hm.store hne a.ts
        refine ⟨s₁, ht, fun hos => ?_⟩
        rw [List.filter_cons_of_pos hne]
        exact Offers.cons ho hos
      | false =>
        rw [Slice.payload_eq_nil hne, HalfStream.store_nil]
        rw [Slice.payload_eq_nil hne] at hm
        refine ⟨s, hm, fun hos => ?_⟩
        rw [List.filter_cons_of_neg (by simp [hne])]
        exact hos
    obtain ⟨s₁, ht, hoffers⟩ := hstep
    obtain ⟨asm', st', s', hall, hget', hos, ht'⟩ := ih hget ht
    refine ⟨asm', st', s', ?_, hget', hoffers hos, ht'⟩
    rw [List.map_cons, StreamAssembler.feedAll, List.foldlM_cons]
    show (asm.feed (c.packet _ _ _ _ _) >>= _) = _
    rw [hfeed]
    exact hall

/-- SYN を受け取ったばかりの half stream は、初めの前線を写す。 -/
theorem tracks_syn (syn : Syn) (c : Direction) (hs : HalfStream)
    (hs₀ : hs.baseSeq = none ∧ hs.frontier = none ∧ hs.pending = Dict.empty ∧ hs.buf = []) :
    Tracks syn.isn data (hs.mark (syn.packet c)) Front.init where
  syn := by simp [HalfStream.mark, Packet.syn, Syn.packet, Direction.packet, syn.isSyn]
  base := by rw [HalfStream.mark_baseSeq, hs₀.1]; rfl
  frontier := by rw [HalfStream.mark_frontier, hs₀.2.1]; rfl
  buf := by rw [HalfStream.mark_buf, hs₀.2.2.2]; simp [Front.init]
  pend := by intro q; rw [HalfStream.mark_pending, hs₀.2.2.1]; rfl
  slice := by intro q d h; rw [HalfStream.mark_pending, hs₀.2.2.1] at h; simp at h

/-- SYN を `feed` すると、初めの前線を写す stream ができる。 -/
theorem exists_feed_syn (asm : StreamAssembler) (c : Direction) (syn : Syn) (data : Bytes)
    (hnew : asm.streams.get? c.k = none) :
    ∃ asm' st, asm.feed (syn.packet c) = some asm' ∧ asm'.streams.get? c.k = some st ∧
      Tracks syn.isn data (st.half c.dirA) Front.init := by
  obtain ⟨asm', hfeed⟩ := StreamAssembler.feed_isSome asm (p := syn.packet c) c.hk
  obtain ⟨st, hget, hst | ⟨-, hha, hhb⟩⟩ := StreamAssembler.get?_feed c.hk hfeed
  · rw [hnew] at hst
    cases hst
  · refine ⟨asm', _, hfeed, hget, ?_⟩
    have hhalf : (st.feed c.k (syn.packet c)).half c.dirA = (st.half c.dirA).mark (syn.packet c) :=
      (Stream.half_feed st c.k (syn.packet c)).trans (by
        rw [HalfStream.receive_eq]
        exact HalfStream.store_nil _ _ _)
    have hempty : st.half c.dirA = {} := by
      unfold Stream.half
      rw [hha, hhb]
      split <;> rfl
    rw [hhalf, hempty]
    exact tracks_syn syn c {} ⟨rfl, rfl, rfl, rfl⟩

/-- SYN の後の列の結果が前線 `s` を写すなら、buffer は stream の前線までである。 -/
theorem receivedAfter_eq {asm asm₁ asm' : StreamAssembler} {c : Direction} {syn : Syn}
    {ps : List Packet} {st : Stream} {s : Front} (hsyn : asm.feed (syn.packet c) = some asm₁)
    (hall : asm₁.feedAll ps = some asm') (hget : asm'.streams.get? c.k = some st)
    (h : Tracks syn.isn data (st.half c.dirA) s) :
    receivedAfter asm c syn ps = some (data.take s.pos) := by
  have hfull : asm.feedAll (syn.packet c :: ps) = some asm' := by
    rw [StreamAssembler.feedAll, List.foldlM_cons, hsyn]
    exact hall
  rw [receivedAfter, hfull, Option.bind_some, StreamAssembler.bufOf, hget, Option.map_some,
    h.buf]

/-- **新しい stream の buffer は、受け取りの列が前線を進めたところまでである。** -/
theorem received_eq (asm : StreamAssembler) (c : Direction) (syn : Syn)
    (hnew : asm.streams.get? c.k = none) (l : List (Slice data)) :
    ∃ s, Offers Slice.off Slice.stop (l.filter Slice.nonempty) Front.init s ∧
      received asm c syn l = some (data.take s.pos) := by
  obtain ⟨asm₁, st₁, hsyn, hget, ht⟩ := exists_feed_syn asm c syn data hnew
  obtain ⟨asm', st', s', hall, hget', ho, ht'⟩ := exists_offers_of_feedAll c l hget ht
  exact ⟨s', ho, receivedAfter_eq hsyn hall hget' ht'⟩

/-! ## どの到着順でも stream が得られる条件 -/

theorem off_lt_stop {l : List (Slice data)} : ∀ a ∈ l.filter Slice.nonempty, a.off < a.stop :=
  fun _ ha => of_decide_eq_true (List.mem_filter.mp ha).2

/-- `Trap` が無ければ、どの到着順でも stream 全体が得られる。 -/
theorem received_of_not_trap (asm : StreamAssembler) (c : Direction) (syn : Syn)
    (hnew : asm.streams.get? c.k = none) {M l : List (Slice data)} (hperm : l.Perm M)
    (hnot : ∀ p, ¬Trap Slice.off Slice.stop (M.filter Slice.nonempty) data.length p) :
    received asm c syn l = some data := by
  obtain ⟨s, ho, hbuf⟩ := received_eq asm c syn hnew l
  rw [hbuf]
  by_cases hlt : s.pos < data.length
  · have hmem : ∀ x, x ∈ M.filter Slice.nonempty ↔ x ∈ l.filter Slice.nonempty :=
      fun _ => (hperm.filter _).mem_iff.symm
    exact absurd (trap_of_offers hmem off_lt_stop ho hlt) (hnot s.pos)
  · rw [List.take_of_length_le (by omega)]

/-- `Trap` があれば、そこで buffer が止まる到着順がある。 -/
theorem exists_received_of_trap (asm : StreamAssembler) (c : Direction) (syn : Syn)
    (hnew : asm.streams.get? c.k = none) {M : List (Slice data)} {p : Nat}
    (h : Trap Slice.off Slice.stop (M.filter Slice.nonempty) data.length p) :
    ∃ l, l.Perm M ∧ received asm c syn l = some (data.take p) := by
  obtain ⟨l, s, hperm, ho, hsp⟩ := exists_perm_offers off_lt_stop h
  -- 空の slice は最後にまとめて届ける
  refine ⟨l ++ M.filter fun a => !a.nonempty,
    (hperm.append_right _).trans (List.filter_append_perm _ M), ?_⟩
  have hkeep : l.filter Slice.nonempty = l :=
    List.filter_eq_self.mpr fun a ha => (List.mem_filter.mp (hperm.mem_iff.mp ha)).2
  have hdrop : (M.filter fun a => !a.nonempty).filter Slice.nonempty = [] :=
    List.filter_eq_nil_iff.mpr fun a ha => by simpa using (List.mem_filter.mp ha).2
  obtain ⟨s₂, ho₂, hbuf⟩ := received_eq asm c syn hnew (l ++ M.filter fun a => !a.nonempty)
  rw [List.filter_append, hkeep, hdrop, List.append_nil] at ho₂
  rw [hbuf, ho₂.unique ho, hsp]

/--
SYN の後に slice の集まり `M` を **どの順に** 届けても buffer が stream 全体になるのは、
前線が途中で止まりうる offset（`Trap`）が無いとき、かつそのときに限る。

`M` が stream を覆うことは仮定しない。覆わない集まりには必ず `Trap` がある。
-/
theorem received_all_iff (asm : StreamAssembler) (c : Direction) (syn : Syn)
    (hnew : asm.streams.get? c.k = none) (M : List (Slice data)) :
    (∀ l, l.Perm M → received asm c syn l = some data) ↔
      ∀ p, ¬Trap Slice.off Slice.stop (M.filter Slice.nonempty) data.length p := by
  constructor
  · intro hall p htrap
    obtain ⟨l, hperm, hbuf⟩ := exists_received_of_trap asm c syn hnew htrap
    rw [hall l hperm, Option.some.injEq] at hbuf
    have hlen := congrArg List.length hbuf
    have hlt := htrap.1
    rw [List.length_take] at hlen
    omega
  · exact fun hnot l hperm => received_of_not_trap asm c syn hnew hperm hnot

/-- SMTP の client から server への方向。 -/
def smtpClient : Direction :=
  { src := .str "10.0.0.1", sport := 40000, dst := .str "10.0.0.2", dport := 25
    k := ⟨.str "10.0.0.1", 40000, .str "10.0.0.2", 25⟩
    hk := by decide }

/-- ISN が 999 の SYN。 -/
def smtpSyn : Syn := { isn := 999, ack := 0, flags := 0x02, ts := 1, isSyn := by decide }

/-- `abcd` の `[off, off + len)`。 -/
def abcd (off len : Nat) (h : off + len ≤ 4) : Slice [0x61, 0x62, 0x63, 0x64] :=
  { off := off, len := len, ack := 0, flags := 0x18, ts := 2, inside := h, noSyn := by decide }

/-- 切り口の揃った二つの slice は、どちらの順でもよい。 -/
theorem received_all_iff_cut :
    (∀ l, l.Perm [abcd 0 2 (by decide), abcd 2 2 (by decide)] →
      received {} smtpClient smtpSyn l = some [0x61, 0x62, 0x63, 0x64]) ∧
    smtpClient.dirA = true := by
  refine ⟨(received_all_iff {} smtpClient smtpSyn rfl _).mpr ?_, by decide⟩
  have hM : [abcd 0 2 (by decide), abcd 2 2 (by decide)].filter Slice.nonempty
      = [abcd 0 2 (by decide), abcd 2 2 (by decide)] := rfl
  rw [hM]
  refine not_trap_of_aligned (fun _ => ⟨abcd 0 2 (by decide), by simp, rfl⟩) ?_
  intro a ha hlt
  simp only [List.mem_cons, List.not_mem_nil, or_false] at ha
  rcases ha with rfl | rfl
  · exact ⟨abcd 2 2 (by decide), by simp, rfl⟩
  · exact absurd hlt (by decide)

/-- `[2, 4)` の後に `[0, 3)` が届くと、二つで stream を覆っているのに `d` が出てこない。 -/
theorem received_overlap_short :
    (∀ i < 4, ∃ a ∈ [abcd 2 2 (by decide), abcd 0 3 (by decide)], a.off ≤ i ∧ i < a.stop) ∧
    received {} smtpClient smtpSyn [abcd 2 2 (by decide), abcd 0 3 (by decide)]
      = some [0x61, 0x62, 0x63] ∧
    received {} smtpClient smtpSyn [abcd 2 2 (by decide), abcd 0 3 (by decide)]
      ≠ some [0x61, 0x62, 0x63, 0x64] := by
  decide

/-- 切り口が揃っていれば（どの slice の終わりも、次の slice の始まりか stream の終わり）、
どの到着順でも stream 全体が得られる。 -/
theorem received_of_aligned (asm : StreamAssembler) (c : Direction) (syn : Syn)
    (hnew : asm.streams.get? c.k = none) {M l : List (Slice data)} (hperm : l.Perm M)
    (hzero : data ≠ [] → ∃ b ∈ M.filter Slice.nonempty, b.off = 0)
    (hcut : ∀ a ∈ M.filter Slice.nonempty, a.stop < data.length →
      ∃ b ∈ M.filter Slice.nonempty, b.off = a.stop) :
    received asm c syn l = some data := by
  refine received_of_not_trap asm c syn hnew hperm (not_trap_of_aligned (fun hn => ?_) hcut)
  exact hzero fun he => by simp [he] at hn

end CipherPost.Parsing
