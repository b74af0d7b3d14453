import Mathlib.Data.String.Basic
import CipherPost.Live.StreamFold
import CipherPost.Parsing.Corpus

/-!
# 合成した packet の組み立て

`StreamBuilder` の並べた packet を `StreamAssembler` に渡すと、話した bytes がそのまま二本の stream になる。
packet には SYN が無いので、組み立ての基準は最初の data の位置である。

* `Consecutive`・`assembled_consecutive` — 切れ目なく並んだ packet の列の組み立て
* `Placed` — builder の packet と、話した bytes の対応
* `Placed.say`・`Placed.sayAll` — 呼び出し一つと、呼び出しの列
* `Placed.streams` — 組み立てた一本の stream
-/

namespace CipherPost.Parsing

/-! ## 切れ目のない列 -/

/-- `seq` から切れ目なく続き、SYN の無い packet の列。 -/
def Consecutive : Nat → List Packet → Prop
  | _, [] => True
  | seq, p :: ps => p.seq = seq ∧ p.syn = false ∧ Consecutive (seq + p.payload.length) ps

/-- 列の運ぶ bytes。 -/
def carried (ps : List Packet) : Bytes := ps.flatMap Packet.payload

theorem carried_cons (p : Packet) (ps : List Packet) :
    carried (p :: ps) = p.payload ++ carried ps := List.flatMap_cons

theorem carried_append (ps qs : List Packet) : carried (ps ++ qs) = carried ps ++ carried qs :=
  List.flatMap_append

theorem consecutive_concat : ∀ {ps : List Packet} {seq : Nat} {p : Packet},
    Consecutive seq (ps ++ [p]) ↔
      Consecutive seq ps ∧ p.seq = seq + (carried ps).length ∧ p.syn = false := by
  intro ps
  induction ps with
  | nil => simp [Consecutive, carried]
  | cons q ps ih =>
    intro seq p
    rw [List.cons_append, Consecutive, Consecutive, ih, carried_cons, List.length_append,
      ← Nat.add_assoc, and_assoc, and_assoc]

/-- 基準 `start` から切れ目なく `data` を受け取った、一方向の stream。 -/
structure InOrder (start : Nat) (data : Bytes) (hs : HalfStream) : Prop where
  synSeq : hs.synSeq = none
  pending : hs.pending = Dict.empty
  buf : hs.buf = data
  frontier : (hs.baseSeq = none ∧ hs.frontier = none ∧ data = []) ∨
    ∃ base, hs.baseSeq = some base ∧ hs.frontier = some (start + data.length)

namespace InOrder

variable {start : Nat} {data : Bytes} {hs : HalfStream}

theorem new (start : Nat) : InOrder start [] {} := ⟨rfl, rfl, rfl, .inl ⟨rfl, rfl, rfl⟩⟩

theorem mark (h : InOrder start data hs) {p : Packet} (hp : p.syn = false) :
    InOrder start data (hs.mark p) :=
  ⟨(HalfStream.mark_synSeq_of_not_syn hs hp).trans h.synSeq, h.pending, h.buf, h.frontier⟩

/-- 次の data の位置は、書き終えた所である。 -/
theorem frontier_anchor (h : InOrder start data hs) :
    hs.frontier.getD (hs.anchor (start + data.length)) = start + data.length := by
  rcases h.frontier with ⟨hbase, hfrontier, -⟩ | ⟨base, -, hfrontier⟩
  · rw [hfrontier, HalfStream.anchor, hbase, h.synSeq]
    rfl
  · rw [hfrontier]
    rfl

/-- 書き終えた所から続く data は、そのまま出力になる。 -/
theorem store (h : InOrder start data hs) (payload : Bytes) (ts : Nat) :
    InOrder start (data ++ payload) (hs.store (start + data.length) payload ts) := by
  unfold HalfStream.store
  split
  · next hnil =>
    rw [hnil, List.append_nil]
    exact h
  · next hne =>
    have hpos : 0 < payload.length := List.length_pos_iff.mpr hne
    simp only [h.frontier_anchor, h.pending]
    rw [if_neg (by omega), if_neg (by omega)]
    -- 保留は今の data だけなので、取り出しは一周で終わる
    show InOrder _ _ (HalfStream.flushLoop 1 _)
    rw [HalfStream.flushLoop]
    simp only [Dict.get?_set_self, HalfStream.flushLoop, Nat.add_sub_cancel]
    refine ⟨h.synSeq, ?_, congrArg (· ++ payload) h.buf, .inr ⟨_, rfl, ?_⟩⟩
    · exact Dict.ext (by simp [Dict.erase, Dict.filter, Dict.set, DictList.set, Dict.empty])
    · rw [List.length_append, Nat.add_assoc]

theorem receive (h : InOrder start data hs) {p : Packet} (hseq : p.seq = start + data.length)
    (hsyn : p.syn = false) : InOrder start (data ++ p.payload) (hs.receive p) := by
  rw [HalfStream.receive_eq, hseq]
  exact (h.mark hsyn).store p.payload p.ts

/-- 切れ目のない列を受け取った後。 -/
theorem foldl : ∀ {ps : List Packet} {data : Bytes} {hs : HalfStream}, InOrder start data hs →
    Consecutive (start + data.length) ps →
    InOrder start (data ++ carried ps) (ps.foldl HalfStream.receive hs) := by
  intro ps
  induction ps with
  | nil =>
    intro data hs h _
    rw [carried, List.flatMap_nil, List.append_nil]
    exact h
  | cons p ps ih =>
    intro data hs h hps
    obtain ⟨hseq, hsyn, hrest⟩ := hps
    have hstep := ih (h.receive hseq hsyn) (by rw [List.length_append, ← Nat.add_assoc]; exact hrest)
    rw [List.append_assoc] at hstep
    exact hstep

end InOrder

/-- **切れ目なく並んだ packet の列は、運ぶ bytes に組み立てられる。** -/
theorem assembled_consecutive {ps : List Packet} {seq : Nat} (h : Consecutive seq ps) :
    assembled ps = carried ps :=
  (@InOrder.foldl seq ps [] {} (InOrder.new seq) h).buf

end CipherPost.Parsing

namespace CipherPost.Parsing.Corpus

open Agent Live

/-! ## 端点 -/

/-- 端点の順を入れ替えても、文字列の address の接続は同じである。 -/
theorem key_comm (s t : String) (p q : Nat) :
    key (.str s) p (.str t) q = key (.str t) q (.str s) p := by
  unfold key
  by_cases hst : s = t
  · subst hst
    by_cases hle : p ≤ q
    · by_cases hge : q ≤ p
      · rw [Nat.le_antisymm hle hge]
      · simp [hle, hge]
    · simp [hle, Nat.le_of_not_le hle]
  · have hts : t ≠ s := Ne.symm hst
    rcases lt_or_gt_of_ne hst with hlt | hgt
    · simp [hst, hts, Addr.lt?, hlt, hlt.not_gt]
    · simp [hst, hts, Addr.lt?, hgt, hgt.not_gt]

/-- 文字列の address の接続は、いつも決まる。 -/
theorem exists_key (s t : String) (p q : Nat) : ∃ k, key (.str s) p (.str t) q = some k := by
  unfold key
  split
  · split
    · exact ⟨_, rfl⟩
    · exact ⟨_, rfl⟩
  · simp only [Addr.lt?]
    split
    · next h => cases h
    · exact ⟨_, rfl⟩
    · exact ⟨_, rfl⟩

/-- 二つの端点が異なれば、接続の A の側は片方である。 -/
theorem exists_sides {s t : String} {p q : Nat} (h : ¬(s = t ∧ p = q)) :
    ∃ k, key (.str s) p (.str t) q = some k ∧
      (decide (Addr.str t = k.ipA) && decide (q = k.pA)) =
        !(decide (Addr.str s = k.ipA) && decide (p = k.pA)) := by
  obtain ⟨k, hk⟩ := exists_key s t p q
  refine ⟨k, hk, ?_⟩
  rcases key_eq_some hk with rfl | rfl
  · by_cases hst : s = t
    · have hqp : q ≠ p := fun hqp => h ⟨hst, hqp.symm⟩
      simp [hst, hqp]
    · simp [Ne.symm hst]
  · by_cases hst : s = t
    · have hpq : p ≠ q := fun hpq => h ⟨hst, hpq⟩
      simp [hst, hpq]
    · simp [hst]

/-- 端点の組の接続と、client の側。 -/
structure Ends (src dst : Ip4) (sport dport : Nat) (k : Key) (c : Bool) : Prop where
  client : key (addrText src) sport (addrText dst) dport = some k
  server : key (addrText dst) dport (addrText src) sport = some k
  clientA : (decide (addrText src = k.ipA) && decide (sport = k.pA)) = c
  serverA : (decide (addrText dst = k.ipA) && decide (dport = k.pA)) = !c

theorem exists_ends {src dst : Ip4} {sport dport : Nat}
    (h : ¬(addrText src = addrText dst ∧ sport = dport)) : ∃ k c, Ends src dst sport dport k c := by
  obtain ⟨k, hk, hside⟩ := exists_sides fun hsame => h ⟨congrArg Addr.str hsame.1, hsame.2⟩
  exact ⟨k, _, hk, (key_comm _ _ _ _).symm.trans hk, rfl, hside⟩

/-! ## builder の packet -/

namespace StreamBuilder

/-- file から読み出される packet。 -/
def wire (b : StreamBuilder) : List Packet := b.packets.filterMap batchPacket

/-- 接続 `k` の一方の側の packet。 -/
def side (b : StreamBuilder) (k : Key) (d : Bool) : List Packet :=
  b.wire.filter fun p => decide (p.dirA k = d)

theorem wire_push {b : StreamBuilder} {f : Frame} {p : Packet} (h : batchPacket f = some p) :
    (b.push f).wire = b.wire ++ [p] := by
  show (b.packets ++ [f]).filterMap batchPacket = _
  rw [List.filterMap_append, List.filterMap_cons_some h]
  rfl

theorem onKey_push {b : StreamBuilder} {f : Frame} {p : Packet} (h : batchPacket f = some p)
    {k : Key} (hb : ∀ q ∈ b.wire, q.onKey k = true) (hp : p.onKey k = true) :
    ∀ q ∈ (b.push f).wire, q.onKey k = true := by
  rw [wire_push h]
  intro q hq
  rcases List.mem_append.mp hq with hq | hq
  · exact hb q hq
  · rwa [List.mem_singleton.mp hq]

theorem side_push {b : StreamBuilder} {f : Frame} {p : Packet} (h : batchPacket f = some p)
    {k : Key} {d : Bool} (hd : p.dirA k = d) : (b.push f).side k d = b.side k d ++ [p] := by
  rw [side, wire_push h, List.filter_append, side]
  simp [hd]

theorem side_push_not {b : StreamBuilder} {f : Frame} {p : Packet} (h : batchPacket f = some p)
    {k : Key} {d : Bool} (hd : p.dirA k = d) : ((b.push f).side k !d) = b.side k !d := by
  rw [side, wire_push h, List.filter_append, side]
  simp [hd]

end StreamBuilder

/-- 書けた packet は、書いたとおりに読み出される。 -/
theorem batchPacket_buildPkt {src dst : Ip4} {sport dport seq ack flags ts : Nat} {payload : Bytes}
    {f : Frame} (h : buildPkt src dst sport dport seq ack payload flags ts = some f) :
    batchPacket f = some
      { src := addrText src, dst := addrText dst, sport := sport, dport := dport, seq := seq
        ack := ack, payload := payload, flags := flags, ts := ts } := by
  unfold buildPkt at h
  split at h
  · obtain rfl := Option.some.inj h
    rfl
  · cases h

/-- 切った chunk を並べると、元の payload になる。 -/
theorem flatten_chunks (fragSize : Option Nat) (payload : Bytes) :
    (StreamBuilder.chunks fragSize payload).flatten = payload := by
  have hone : [payload].flatten = payload := List.append_nil payload
  unfold StreamBuilder.chunks
  split
  · exact hone
  · next n =>
    split
    · next hcut =>
      have htake : ∀ m, ((List.range m).map fun i => slice payload (i * n) (i * n + n)).flatten =
          payload.take (m * n) := by
        intro m
        induction m with
        | zero => simp
        | succ m ih =>
          rw [List.range_succ, List.map_append, List.flatten_append, ih, List.map_singleton,
            List.flatten_singleton, slice, Nat.add_sub_cancel_left, Nat.succ_mul, List.take_add]
      rw [htake]
      refine List.take_of_length_le ?_
      have hpos : 0 < n := Nat.pos_of_ne_zero hcut.1
      have hdiv := Nat.lt_div_mul_add (a := payload.length + n - 1) hpos
      omega
    · exact hone

/-- 切らなければ、client の chunk は payload 一つである。 -/
@[simp] theorem clientChunks_none (payload : Bytes) :
    StreamBuilder.clientChunks none payload = [payload] := by
  simp [StreamBuilder.clientChunks, StreamBuilder.chunks]

namespace Talk

/-- client から届く bytes。 -/
def clientBytes (fragSize : Option Nat) : Talk → Bytes
  | client payload => (StreamBuilder.clientChunks fragSize payload).flatten
  | _ => []

/-- server から届く bytes。 -/
def serverBytes : Talk → Bytes
  | server payload => payload
  | _ => []

end Talk

/-- builder の packet は、接続 `k` の両側に `client` と `server` を切れ目なく並べたものである。 -/
structure Placed (k : Key) (c : Bool) (fragSize : Option Nat) (client server : Bytes)
    (b : StreamBuilder) : Prop where
  ends : Ends b.src b.dst b.sport b.dport k c
  frag : b.fragSize = fragSize
  onKey : ∀ p ∈ b.wire, p.onKey k = true
  clientSeq : Consecutive 1000 (b.side k c)
  serverSeq : Consecutive 5000 (b.side k !c)
  clientBytes : carried (b.side k c) = client
  serverBytes : carried (b.side k !c) = server
  seqC : b.seqC = 1000 + client.length
  seqS : b.seqS = 5000 + server.length

namespace Placed

variable {k : Key} {c : Bool} {fragSize : Option Nat} {client server : Bytes} {b b' : StreamBuilder}

/-- packet を並べる前の builder。 -/
theorem start (hends : Ends b.src b.dst b.sport b.dport k c) (hseqC : b.seqC = 1000) (hseqS : b.seqS = 5000)
    (hnil : b.packets = []) : Placed k c b.fragSize [] [] b := by
  have hwire : b.wire = [] := by rw [StreamBuilder.wire, hnil]; rfl
  have hside : ∀ d, b.side k d = [] := fun d => by rw [StreamBuilder.side, hwire]; rfl
  refine ⟨hends, rfl, ?_, ?_, ?_, ?_, ?_, hseqC, hseqS⟩
  · rw [hwire]
    exact fun _ h => absurd h List.not_mem_nil
  all_goals
    rw [hside]
    trivial

/-- 確認応答と数えた bytes は、packet の並びに関わらない。 -/
theorem acks (h : Placed k c fragSize client server b) (ackC ackS sup sack : Nat) :
    Placed k c fragSize client server
      { b with ackC := ackC, ackS := ackS, sup := sup, sack := sack } :=
  ⟨h.ends, h.frag, h.onKey, h.clientSeq, h.serverSeq, h.clientBytes, h.serverBytes, h.seqC,
    h.seqS⟩

/-- client の packet 一つ。 -/
theorem clientPacket (h : Placed k c fragSize client server b) {f : Frame} {ack flags ts : Nat}
    {payload : Bytes} (hflags : flags &&& 0x02 = 0)
    (hf : buildPkt b.src b.dst b.sport b.dport b.seqC ack payload flags ts = some f) :
    Placed k c fragSize (client ++ payload) server
      { b.push f with seqC := b.seqC + payload.length } := by
  have hp := batchPacket_buildPkt hf
  have hc := StreamBuilder.side_push (b := b) hp h.ends.clientA
  have hs := StreamBuilder.side_push_not (b := b) hp h.ends.clientA
  refine ⟨h.ends, h.frag, ?_, ?_, ?_, ?_, ?_, ?_, h.seqS⟩
  · exact StreamBuilder.onKey_push hp h.onKey (decide_eq_true h.ends.client)
  · show Consecutive 1000 ((b.push f).side k c)
    rw [hc, consecutive_concat, h.clientBytes]
    exact ⟨h.clientSeq, h.seqC, by simp [Packet.syn, hflags]⟩
  · show Consecutive 5000 ((b.push f).side k !c)
    rw [hs]
    exact h.serverSeq
  · show carried ((b.push f).side k c) = _
    rw [hc, carried_append, h.clientBytes]
    simp [carried]
  · show carried ((b.push f).side k !c) = _
    rw [hs]
    exact h.serverBytes
  · show b.seqC + payload.length = _
    rw [h.seqC, List.length_append, Nat.add_assoc]

/-- server の packet 一つ。 -/
theorem serverPacket (h : Placed k c fragSize client server b) {f : Frame} {ack flags ts : Nat}
    {payload : Bytes} (hflags : flags &&& 0x02 = 0)
    (hf : buildPkt b.dst b.src b.dport b.sport b.seqS ack payload flags ts = some f) :
    Placed k c fragSize client (server ++ payload)
      { b.push f with seqS := b.seqS + payload.length } := by
  have hp := batchPacket_buildPkt hf
  have hs := StreamBuilder.side_push (b := b) hp h.ends.serverA
  have hc := StreamBuilder.side_push_not (b := b) hp h.ends.serverA
  rw [Bool.not_not] at hc
  refine ⟨h.ends, h.frag, ?_, ?_, ?_, ?_, ?_, h.seqC, ?_⟩
  · exact StreamBuilder.onKey_push hp h.onKey (decide_eq_true h.ends.server)
  · show Consecutive 1000 ((b.push f).side k c)
    rw [hc]
    exact h.clientSeq
  · show Consecutive 5000 ((b.push f).side k !c)
    rw [hs, consecutive_concat, h.serverBytes]
    exact ⟨h.serverSeq, h.seqS, by simp [Packet.syn, hflags]⟩
  · show carried ((b.push f).side k c) = _
    rw [hc]
    exact h.clientBytes
  · show carried ((b.push f).side k !c) = _
    rw [hs, carried_append, h.serverBytes]
    simp [carried]
  · show b.seqS + payload.length = _
    rw [h.seqS, List.length_append, Nat.add_assoc]

/-- client の chunk の列。 -/
theorem clientChunks : ∀ {l : List Bytes} {client : Bytes} {b : StreamBuilder},
    Placed k c fragSize client server b → l.foldlM StreamBuilder.clientChunk b = some b' →
    Placed k c fragSize (client ++ l.flatten) server b' := by
  intro l
  induction l with
  | nil =>
    intro client b h hb
    obtain rfl := Option.some.inj hb
    rwa [List.flatten_nil, List.append_nil]
  | cons chunk l ih =>
    intro client b h hb
    obtain ⟨b₁, hchunk, hb⟩ := Option.bind_eq_some_iff.mp hb
    obtain ⟨f, hf, hb₁⟩ := Option.bind_eq_some_iff.mp hchunk
    obtain rfl := Option.some.inj hb₁
    rw [List.flatten_cons, ← List.append_assoc]
    exact ih ((h.clientPacket (by decide) hf).acks _ _ _ _) hb

/-- server の chunk の列。 -/
theorem serverChunks : ∀ {l : List Bytes} {server : Bytes} {b : StreamBuilder},
    Placed k c fragSize client server b → l.foldlM StreamBuilder.serverChunk b = some b' →
    Placed k c fragSize client (server ++ l.flatten) b' := by
  intro l
  induction l with
  | nil =>
    intro server b h hb
    obtain rfl := Option.some.inj hb
    rwa [List.flatten_nil, List.append_nil]
  | cons chunk l ih =>
    intro server b h hb
    obtain ⟨b₁, hchunk, hb⟩ := Option.bind_eq_some_iff.mp hb
    obtain ⟨f, hf, hb₁⟩ := Option.bind_eq_some_iff.mp hchunk
    obtain rfl := Option.some.inj hb₁
    rw [List.flatten_cons, ← List.append_assoc]
    exact ih ((h.serverPacket (by decide) hf).acks _ _ _ _) hb

/-- payload の無い client の packet は、bytes を増やさない。 -/
theorem clientFlags (h : Placed k c fragSize client server b) {flags : Nat}
    (hflags : flags &&& 0x02 = 0) (hb : b.clientFlags flags = some b') :
    Placed k c fragSize client server b' := by
  obtain ⟨f, hf, rfl⟩ := Option.map_eq_some_iff.mp hb
  have hp := h.clientPacket hflags hf
  rwa [List.append_nil] at hp

/-- payload の無い server の packet は、bytes を増やさない。 -/
theorem serverFlags (h : Placed k c fragSize client server b) {flags : Nat}
    (hflags : flags &&& 0x02 = 0) (hb : b.serverFlags flags = some b') :
    Placed k c fragSize client server b' := by
  obtain ⟨f, hf, rfl⟩ := Option.map_eq_some_iff.mp hb
  have hp := h.serverPacket hflags hf
  rwa [List.append_nil] at hp

/-- **呼び出し一つ。** 話した bytes が、話した側に続く。 -/
theorem say (h : Placed k c fragSize client server b) {talk : Talk} (hb : b.say talk = some b') :
    Placed k c fragSize (client ++ talk.clientBytes fragSize) (server ++ talk.serverBytes) b' := by
  cases talk with
  | client payload =>
    obtain ⟨b₁, hb₁, hb'⟩ := Option.bind_eq_some_iff.mp hb
    obtain rfl := Option.some.inj hb'
    rw [h.frag] at hb₁
    show Placed k c fragSize _ (server ++ []) _
    rw [List.append_nil]
    exact (h.clientChunks hb₁).acks _ _ _ _
  | server payload =>
    obtain ⟨b₁, hb₁, hb'⟩ := Option.bind_eq_some_iff.mp hb
    obtain rfl := Option.some.inj hb'
    rw [h.frag] at hb₁
    have hplaced := h.serverChunks hb₁
    rw [flatten_chunks] at hplaced
    show Placed k c fragSize (client ++ []) _ _
    rw [List.append_nil]
    exact hplaced.acks _ _ _ _
  | clientAck =>
    show Placed k c fragSize (client ++ []) (server ++ []) _
    rw [List.append_nil, List.append_nil]
    exact (h.acks b.sack b.ackS b.sup b.sack).clientFlags (by decide) hb
  | serverAck =>
    show Placed k c fragSize (client ++ []) (server ++ []) _
    rw [List.append_nil, List.append_nil]
    exact h.serverFlags (by decide) hb
  | fin =>
    obtain ⟨b₁, hb₁, hb'⟩ := Option.bind_eq_some_iff.mp hb
    show Placed k c fragSize (client ++ []) (server ++ []) _
    rw [List.append_nil, List.append_nil]
    exact (h.clientFlags (by decide) hb₁).serverFlags (by decide) hb'

/-- **呼び出しの列。** -/
theorem sayAll : ∀ {talks : List Talk} {client server : Bytes} {b : StreamBuilder},
    Placed k c fragSize client server b → b.sayAll talks = some b' →
    Placed k c fragSize (client ++ talks.flatMap (Talk.clientBytes fragSize))
      (server ++ talks.flatMap Talk.serverBytes) b' := by
  intro talks
  induction talks with
  | nil =>
    intro client server b h hb
    obtain rfl := Option.some.inj hb
    rwa [List.flatMap_nil, List.flatMap_nil, List.append_nil, List.append_nil]
  | cons talk talks ih =>
    intro client server b h hb
    obtain ⟨b₁, hb₁, hb⟩ := Option.bind_eq_some_iff.mp hb
    rw [List.flatMap_cons, List.flatMap_cons, ← List.append_assoc, ← List.append_assoc]
    exact ih (h.say hb₁) hb

end Placed

/-! ## 組み立てた stream -/

/-- 話した bytes を両側に持ち、SYN を見ていない stream。 -/
structure Heard (k : Key) (c : Bool) (client server : Bytes) (st : Stream) : Prop where
  client : (st.half c).buf = client
  server : (st.half !c).buf = server
  synByA : st.synByA = false
  synByB : st.synByB = false
  ipA : st.ipA = k.ipA
  portA : st.portA = k.pA
  ipB : st.ipB = k.ipB
  portB : st.portB = k.pB

theorem syn_of_consecutive : ∀ {ps : List Packet} {seq : Nat}, Consecutive seq ps →
    ∀ p ∈ ps, p.syn = false := by
  intro ps
  induction ps with
  | nil => exact fun _ p hp => absurd hp List.not_mem_nil
  | cons q ps ih =>
    intro seq h p hp
    rcases List.mem_cons.mp hp with rfl | hp
    · exact h.2.1
    · exact ih h.2.2 p hp

namespace Placed

variable {k : Key} {c : Bool} {fragSize : Option Nat} {client server : Bytes} {b : StreamBuilder}

/-- どの packet にも SYN は無い。 -/
theorem noSyn (h : Placed k c fragSize client server b) : ∀ p ∈ b.wire, p.syn = false := by
  intro p hp
  by_cases hd : p.dirA k = c
  · exact syn_of_consecutive h.clientSeq p (List.mem_filter.mpr ⟨hp, decide_eq_true hd⟩)
  · have hd' : p.dirA k = !c := Bool.eq_not_of_ne hd
    exact syn_of_consecutive h.serverSeq p (List.mem_filter.mpr ⟨hp, decide_eq_true hd'⟩)

/-- 新しい stream から packet を順に受け取った stream。 -/
theorem heard_foldl (h : Placed k c fragSize client server b) (ts : Nat) :
    Heard k c client server
      (b.wire.foldl (fun st p => st.feed k p) (ParityState.streamAt Dict.empty k ts)) := by
  obtain ⟨hipA, hportA, hipB, hportB⟩ :=
    Stream.ends_foldl_feed k b.wire (ParityState.streamAt Dict.empty k ts)
  obtain ⟨hA, hB⟩ := Stream.syn_foldl_feed k b.wire (ParityState.streamAt Dict.empty k ts)
  have hsyn : ∀ q : Packet → Bool, b.wire.any (fun p => p.syn && q p) = false := by
    intro q
    rw [List.any_eq_false]
    intro p hp
    simp [h.noSyn p hp]
  have hbuf : ∀ d, ((b.wire.foldl (fun st p => st.feed k p)
      (ParityState.streamAt Dict.empty k ts)).half d).buf = assembled (b.side k d) := by
    intro d
    rw [Stream.half_foldl_feed]
    cases d <;> rfl
  refine ⟨?_, ?_, ?_, ?_, hipA, hportA, hipB, hportB⟩
  · rw [hbuf, assembled_consecutive h.clientSeq, h.clientBytes]
  · rw [hbuf, assembled_consecutive h.serverSeq, h.serverBytes]
  · rw [hA, hsyn]
    rfl
  · rw [hB, hsyn]
    rfl

/-- **file を読むと、話した bytes を両側に持つ stream が一本できる。** -/
theorem streams (h : Placed k c fragSize client server b) (hne : b.wire ≠ []) :
    ∃ st ts, Heard k c client server st ∧
      st = b.wire.foldl (fun st p => st.feed k p) (ParityState.streamAt Dict.empty k ts) ∧
      (readPcapStreams b.packets).streams.entries = [(k, st)] := by
  have hfilter : b.wire.filter (Packet.onKey k) = b.wire := List.filter_eq_self.mpr h.onKey
  have hget := get?_feedTrace k b.wire {} rfl
  rw [hfilter] at hget
  obtain ⟨p, ps, hwire⟩ := List.exists_cons_of_ne_nil hne
  have hstream : streamOfTrace k b.wire = some (b.wire.foldl (fun st p => st.feed k p)
      (ParityState.streamAt Dict.empty k p.ts)) := by
    rw [hwire]
    rfl
  refine ⟨_, p.ts, h.heard_foldl p.ts, rfl, Dict.entries_eq_singleton (hget.trans hstream) ?_⟩
  intro k' hk'
  have hnone : b.wire.filter (Packet.onKey k') = [] := by
    refine List.filter_eq_nil_iff.mpr fun q hq hq' => hk' ?_
    have hkey := of_decide_eq_true (h.onKey q hq)
    have hkey' := of_decide_eq_true hq'
    exact Option.some.inj (hkey'.symm.trans hkey)
  show (feedTrace {} b.wire).streams.get? k' = none
  rw [get?_feedTrace k' b.wire {} rfl, hnone]
  rfl

end Placed

/-! ## 終わり -/

/-- 両側の FIN を見た stream は完結する。 -/
theorem complete_of_fins {k : Key} {st : Stream} {p q : Packet} (hp : p.fin = true)
    (hq : q.fin = true) (hdir : q.dirA k = !p.dirA k) : ((st.feed k p).feed k q).complete = true := by
  have hfin : (((st.feed k p).half !q.dirA k).finSeq).isSome = true := by
    rw [hdir, Bool.not_not, Stream.half_feed, HalfStream.receive_finSeq, hp, Bool.true_or]
  rw [Stream.complete_feed, Stream.finishes, hq, hfin]
  simp

/-- `fin` の二つの packet は、両側の FIN である。 -/
theorem wire_fin {k : Key} {c : Bool} {fragSize : Option Nat} {client server : Bytes}
    {b b' : StreamBuilder} (h : Placed k c fragSize client server b) (hb : b.fin = some b') :
    ∃ p q, b'.wire = b.wire ++ [p, q] ∧ p.fin = true ∧ q.fin = true ∧ q.dirA k = !p.dirA k := by
  obtain ⟨b₁, hb₁, hb'⟩ := Option.bind_eq_some_iff.mp hb
  obtain ⟨f, hf, rfl⟩ := Option.map_eq_some_iff.mp hb₁
  obtain ⟨g, hg, rfl⟩ := Option.map_eq_some_iff.mp hb'
  have hp := batchPacket_buildPkt hf
  have hq := batchPacket_buildPkt hg
  have hwire := StreamBuilder.wire_push (b := b.push f) hq
  rw [StreamBuilder.wire_push hp, List.append_assoc] at hwire
  have hfin : ∀ {r : Packet}, r.flags = 0x11 → r.fin = true := fun hr => by simp [Packet.fin, hr]
  exact ⟨_, _, hwire, hfin rfl, hfin rfl, h.ends.serverA.trans (congrArg (!·) h.ends.clientA.symm)⟩

/-! ## 話し終えた builder -/

/-- 何も話していない builder。 -/
structure StreamBuilder.Fresh (b : StreamBuilder) : Prop where
  seqC : b.seqC = 1000
  seqS : b.seqS = 5000
  packets : b.packets = []

/-- 話し終えた builder の file からは、完結した stream が一本できる。 -/
theorem exists_finished {b b' : StreamBuilder} (hfresh : b.Fresh)
    (hports : ¬(addrText b.src = addrText b.dst ∧ b.sport = b.dport)) {talks : List Talk}
    (h : b.sayAll (talks ++ [.fin]) = some b') :
    ∃ k c st, Ends b.src b.dst b.sport b.dport k c ∧
      Heard k c (talks.flatMap (Talk.clientBytes b.fragSize)) (talks.flatMap Talk.serverBytes) st ∧
      st.complete = true ∧ (readPcapStreams b'.packets).streams.entries = [(k, st)] := by
  obtain ⟨k, c, hends⟩ := exists_ends hports
  rw [StreamBuilder.sayAll, List.foldlM_append] at h
  obtain ⟨b₁, htalks, hend⟩ := Option.bind_eq_some_iff.mp h
  rw [List.foldlM_cons] at hend
  obtain ⟨b₂, hfin, hlast⟩ := Option.bind_eq_some_iff.mp hend
  obtain rfl := Option.some.inj hlast
  have hplaced := (Placed.start hends hfresh.seqC hfresh.seqS hfresh.packets).sayAll htalks
  rw [List.nil_append, List.nil_append] at hplaced
  obtain ⟨p, q, hwire, hp, hq, hdir⟩ := wire_fin hplaced hfin
  obtain ⟨st, ts, hheard, hst, hentries⟩ := (hplaced.say hfin).streams (by rw [hwire]; simp)
  have hcomplete : st.complete = true := by
    rw [hst, hwire, List.foldl_append]
    exact complete_of_fins hp hq hdir
  have hheard' : Heard k c (talks.flatMap (Talk.clientBytes b.fragSize) ++ [])
      (talks.flatMap Talk.serverBytes ++ []) st := hheard
  rw [List.append_nil, List.append_nil] at hheard'
  exact ⟨k, c, st, hends, hheard', hcomplete, hentries⟩

/-- 二つまでに切れる payload は、client からもすべて届く。 -/
theorem clientBytes_of_le {fragSize : Option Nat} {payload : Bytes}
    (h : ∀ n, fragSize = some n → payload.length ≤ 2 * n) :
    (Talk.client payload).clientBytes fragSize = payload := by
  have hcount : (StreamBuilder.chunks fragSize payload).length ≤ 2 := by
    unfold StreamBuilder.chunks
    split
    · exact Nat.le_succ 1
    · next n =>
      split
      · next hcut =>
        have hle := h n rfl
        have hpos : 0 < n := Nat.pos_of_ne_zero hcut.1
        rw [List.length_map, List.length_range]
        exact Nat.le_of_lt_succ ((Nat.div_lt_iff_lt_mul hpos).mpr (by omega))
      · exact Nat.le_succ 1
  have hkeep : StreamBuilder.clientChunks fragSize payload = StreamBuilder.chunks fragSize payload := by
    unfold StreamBuilder.clientChunks
    refine List.filter_eq_self.mpr fun chunk _ => ?_
    rw [decide_eq_false (by omega), Bool.false_and]
    rfl
  show (StreamBuilder.clientChunks fragSize payload).flatten = payload
  rw [hkeep, flatten_chunks]

/--
**builder の話したことの組み立て。** どの端点・時計・切り方のどの呼び出しの列も、`fin` で終われば、file からは
完結した stream が一本だけでき、その二つの側は話した bytes である。client の payload は、三つ以上に切れると
chunk が欠けるが、二つまでなら欠けない。
-/
theorem talks_reassembled {b b' : StreamBuilder} (hfresh : b.Fresh)
    (hports : ¬(addrText b.src = addrText b.dst ∧ b.sport = b.dport)) {talks : List Talk}
    (h : b.sayAll (talks ++ [.fin]) = some b') :
    (∃ k c st, (readPcapStreams b'.packets).streams.entries = [(k, st)] ∧ st.complete = true ∧
      (st.half c).buf = talks.flatMap (Talk.clientBytes b.fragSize) ∧
      (st.half !c).buf = talks.flatMap Talk.serverBytes) ∧
    ∀ payload : Bytes, (∀ n, b.fragSize = some n → payload.length ≤ 2 * n) →
      (Talk.client payload).clientBytes b.fragSize = payload := by
  obtain ⟨k, c, st, -, hheard, hcomplete, hentries⟩ := exists_finished hfresh hports h
  exact ⟨⟨k, c, st, hentries, hcomplete, hheard.client, hheard.server⟩,
    fun payload hle => clientBytes_of_le hle⟩

/-- 二 byte ずつに切る builder。 -/
def smallBuilder : StreamBuilder :=
  { sport := 40000, dport := 25, fragSize := some 2, clock := fun n => n }

theorem talks_reassembled_small :
    ∃ b', smallBuilder.sayAll ([.client [1, 2, 3], .server [4, 5, 6, 7, 8]] ++ [.fin]) = some b' ∧
      ∃ k c st, (readPcapStreams b'.packets).streams.entries = [(k, st)] ∧ st.complete = true ∧
        (st.half c).buf = [1, 2, 3] ∧ (st.half !c).buf = [4, 5, 6, 7, 8] := by
  have hsome : (smallBuilder.sayAll
      ([.client [1, 2, 3], .server [4, 5, 6, 7, 8]] ++ [.fin])).isSome = true := by decide +kernel
  obtain ⟨b', hb⟩ := Option.isSome_iff_exists.mp hsome
  exact ⟨b', hb, (talks_reassembled ⟨rfl, rfl, rfl⟩ (by decide) hb).1⟩

end CipherPost.Parsing.Corpus
