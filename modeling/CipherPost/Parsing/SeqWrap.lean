import Mathlib.Algebra.Group.Nat.Defs
import CipherPost.Parsing.ReassemblyOrder

/-!
# sequence number の折り返し

wire の sequence number は `(ISN + 1 + offset) mod 2^32` だが、`_store` の基準と前線は折り返さない
整数である。順に届く重なりの無い segment の列について、buffer が stream に等しくなる条件を言う。

* `place` — 各 segment に stream の中の offset を与える
* `feedAll_wire` — 前線は、折り返した最初の segment で止まる
* `receivedAfter_wire_iff` — 空でない segment がどれも折り返しの手前から始まること
-/

namespace CipherPost.Parsing

open Front Function

/-- 順に届く segment。offset は並びから決まる。 -/
structure Piece where
  payload : Bytes
  ack : Nat
  flags : Nat
  ts : Nat
  noSyn : flags &&& 0x02 = 0

/-- segment の列が運ぶ stream。 -/
def streamOf (ps : List Piece) : Bytes := (ps.map Piece.payload).flatten

/-- offset `off` から順に並べる。 -/
def place : Nat → List Piece → List (Nat × Piece)
  | _, [] => []
  | off, p :: ps => (off, p) :: place (off + p.payload.length) ps

/-- 32 bit の sequence number。 -/
def wireSeq (isn off : Nat) : Nat := (isn + 1 + off) % 2 ^ 32

/-- offset `q.1` に置かれた segment の packet。 -/
def wirePacket (c : Direction) (isn : Nat) (q : Nat × Piece) : Packet :=
  c.packet (wireSeq isn q.1) q.2.ack q.2.payload q.2.flags q.2.ts

theorem length_streamOf_cons (p : Piece) (ps : List Piece) :
    (streamOf (p :: ps)).length = p.payload.length + (streamOf ps).length := by
  simp [streamOf]

theorem wireSeq_of_lt {isn off : Nat} (h : isn + 1 + off < 2 ^ 32) :
    wireSeq isn off = isn + 1 + off := Nat.mod_eq_of_lt h

/-- 一度折り返した sequence number は、ちょうど `2^32` だけ小さい。 -/
theorem wireSeq_of_wrap {isn off : Nat} (hisn : isn < 2 ^ 32) (hoff : off < 2 ^ 31)
    (h : 2 ^ 32 ≤ isn + 1 + off) : wireSeq isn off + 2 ^ 32 = isn + 1 + off := by
  unfold wireSeq
  omega

variable {isn : Nat} {data : Bytes} {hs : HalfStream}

/-- 保留の無い前線。 -/
def flat (pos : Nat) : Front := ⟨pos, fun _ => none⟩

/-- 前線から始まる slice は、そのまま出力になる。 -/
theorem Tracks.store_next {a : Slice data} (h : Tracks isn data hs (flat a.off))
    (ha : a.nonempty = true) (ts : Nat) :
    Tracks isn data (hs.store (isn + 1 + a.off) a.payload ts) (flat a.stop) := by
  obtain ⟨s', ho, ht⟩ := h.store ha ts
  have hlt : a.off < a.stop := of_decide_eq_true ha
  have hnext : Offer Slice.off Slice.stop a (flat a.off) (flat a.stop) := by
    refine Offer.fresh hlt ?_
    rw [Nat.max_self]
    refine Drain.hop (update_self _ _ _) ?_
    rw [update_idem, update_eq_self_iff.mpr rfl]
    exact Drain.stop rfl
  rwa [ho.unique hnext] at ht

/-- 列の残りは、stream の offset `off` から先に等しい。 -/
structure Suffix (data : Bytes) (off : Nat) (ps : List Piece) : Prop where
  drop : data.drop off = streamOf ps
  length : data.length = off + (streamOf ps).length

theorem Suffix.tail {off : Nat} {p : Piece} {ps : List Piece} (h : Suffix data off (p :: ps)) :
    Suffix data (off + p.payload.length) ps where
  drop := by
    rw [← List.drop_drop, h.drop]
    simp [streamOf]
  length := by rw [h.length, length_streamOf_cons, Nat.add_assoc]

/-- 列の先頭の segment を slice と見る。 -/
def Suffix.slice {off : Nat} {p : Piece} {ps : List Piece} (h : Suffix data off (p :: ps)) :
    Slice data where
  off := off
  len := p.payload.length
  ack := p.ack
  flags := p.flags
  ts := p.ts
  inside := by rw [h.length, length_streamOf_cons]; omega
  noSyn := p.noSyn

theorem Suffix.payload_slice {off : Nat} {p : Piece} {ps : List Piece}
    (h : Suffix data off (p :: ps)) : h.slice.payload = p.payload := by
  show (data.drop off).take p.payload.length = p.payload
  rw [h.drop]
  simp [streamOf]

/-- 一つの segment を受け取った half stream。折り返すまでは前線が進み、折り返した後は動かない。 -/
theorem Tracks.wire {off pos : Nat} {p : Piece} {ps : List Piece} (c : Direction)
    (h : Tracks isn data hs (flat pos)) (hsuf : Suffix data off (p :: ps)) (hisn : isn < 2 ^ 32)
    (hlen : data.length < 2 ^ 31)
    (hpos : pos = off ∨ pos ≤ off ∧ 2 ^ 32 ≤ isn + 1 + pos) :
    Tracks isn data
      ((hs.mark (wirePacket c isn (off, p))).store (wireSeq isn off) p.payload p.ts)
      (flat (if pos = off ∧ (p.payload ≠ [] → isn + 1 + off < 2 ^ 32)
        then off + p.payload.length else pos)) := by
  have hm : Tracks isn data (hs.mark (wirePacket c isn (off, p))) (flat pos) :=
    h.mark (syn_packet p.noSyn c _ _ _ _)
  have hle : off + p.payload.length ≤ data.length := hsuf.slice.inside
  by_cases hnil : p.payload = []
  · rw [hnil, HalfStream.store_nil]
    split
    · next hc => rwa [hc.1] at hm
    · exact hm
  have hlt : off < off + p.payload.length := by
    have := List.length_pos_iff.mpr hnil
    omega
  by_cases hwrap : isn + 1 + off < 2 ^ 32
  · have hpo : pos = off := by omega
    subst hpo
    rw [if_pos ⟨rfl, fun _ => hwrap⟩, wireSeq_of_lt hwrap, ← hsuf.payload_slice]
    have hnext := hm.store_next (a := hsuf.slice) (decide_eq_true hlt) p.ts
    rw [hsuf.payload_slice]
    rwa [hsuf.payload_slice] at hnext
  · rw [if_neg fun hc => hwrap (hc.2 hnil)]
    have hseq := wireSeq_of_wrap hisn (by omega : off < 2 ^ 31) (Nat.le_of_not_lt hwrap)
    refine hm.store_below p.ts ?_
    show _ ≤ isn + 1 + pos
    omega

/-- 前線は segment の始めにあるか、折り返した segment の手前に残っている。 -/
def Front (data : Bytes) (isn off pos : Nat) : Prop :=
  pos = off ∨ pos ≤ off ∧ pos < data.length ∧ 2 ^ 32 ≤ isn + 1 + pos

/-- segment 一つを受け取った前線。 -/
theorem Front.next {off pos : Nat} {payload : Bytes} (h : Front data isn off pos)
    (hle : off + payload.length ≤ data.length) :
    Front data isn (off + payload.length)
      (if pos = off ∧ (payload ≠ [] → isn + 1 + off < 2 ^ 32) then off + payload.length
        else pos) := by
  unfold Front at h ⊢
  split
  · exact .inl rfl
  · next hc =>
    by_cases hp : payload = []
    · have hne : ¬pos = off := fun he => hc ⟨he, fun hne => absurd hp hne⟩
      omega
    · have hpos := List.length_pos_iff.mpr hp
      rcases h with he | h
      · have hwrap : ¬isn + 1 + off < 2 ^ 32 := fun hlt => hc ⟨he, fun _ => hlt⟩
        omega
      · omega

/-- 前線が次の segment の始めに着くのは、今の segment が折り返さないときである。 -/
theorem Front.next_iff {off pos : Nat} {payload : Bytes} (h : Front data isn off pos) :
    (if pos = off ∧ (payload ≠ [] → isn + 1 + off < 2 ^ 32) then off + payload.length else pos)
      = off + payload.length ↔ pos = off ∧ (payload ≠ [] → isn + 1 + off < 2 ^ 32) := by
  split
  · next hc => exact iff_of_true rfl hc
  · next hc =>
    refine iff_of_false (fun heq => ?_) hc
    -- 前線が `off` の手前に残っているので、次の位置とは等しくならない
    have hle : pos ≤ off := h.elim Nat.le_of_eq And.left
    by_cases hp : payload = []
    · rw [hp, List.length_nil] at heq
      exact hc ⟨heq, fun hne => absurd hp hne⟩
    · have hpos := List.length_pos_iff.mpr hp
      omega

/-- **列全体を受け取った前線は、空でない segment が一つも折り返さないときだけ終点に着く。** -/
theorem feedAll_wire (c : Direction) (hisn : isn < 2 ^ 32) (hlen : data.length < 2 ^ 31) :
    ∀ (ps : List Piece) {off pos : Nat} {asm : StreamAssembler} {st : Stream},
    asm.streams.get? c.k = some st → Tracks isn data (st.half c.dirA) (flat pos) →
    Suffix data off ps → Front data isn off pos →
    ∃ asm' st' pos', asm.feedAll ((place off ps).map (wirePacket c isn)) = some asm' ∧
      asm'.streams.get? c.k = some st' ∧ Tracks isn data (st'.half c.dirA) (flat pos') ∧
      pos' ≤ data.length ∧
      (pos' = data.length ↔
        pos = off ∧ ∀ q ∈ place off ps, q.2.payload ≠ [] → isn + 1 + q.1 < 2 ^ 32) := by
  intro ps
  induction ps with
  | nil =>
    intro off pos asm st hst h hsuf hpos
    have hoff : data.length = off := hsuf.length
    unfold Front at hpos
    refine ⟨asm, st, pos, rfl, hst, h, by omega, ?_⟩
    simp only [place, List.not_mem_nil, false_implies, implies_true, and_true]
    omega
  | cons p ps ih =>
    intro off pos asm st hst h hsuf hpos
    obtain ⟨asm₁, st₁, hfeed, hget, hhalf⟩ :=
      exists_feed c (wireSeq isn off) p.ack p.payload p.flags p.ts hst
    have hw := h.wire c hsuf hisn hlen (hpos.imp_right fun hp => ⟨hp.1, hp.2.2⟩)
    rw [show wirePacket c isn (off, p) = c.packet (wireSeq isn off) p.ack p.payload p.flags p.ts
      from rfl, ← hhalf] at hw
    obtain ⟨asm', st', pos', hall, hget', ht', hle', hiff⟩ :=
      ih hget hw hsuf.tail (hpos.next hsuf.slice.inside)
    refine ⟨asm', st', pos', ?_, hget', ht', hle', ?_⟩
    · rw [place, List.map_cons, StreamAssembler.feedAll, List.foldlM_cons]
      show (asm.feed (c.packet _ _ _ _ _) >>= _) = _
      rw [hfeed]
      exact hall
    · rw [hiff, hpos.next_iff, place, List.forall_mem_cons, and_assoc]

/--
ISN が 32 bit、stream が `2^31` 未満のとき、SYN に続けて segment を順に届けた buffer が stream に
等しいのは、空でない segment がどれも `2^32` より手前の位置から始まるとき、かつそのときに限る。
-/
theorem receivedAfter_wire_iff (asm : StreamAssembler) (c : Direction) (syn : Syn)
    (hnew : asm.streams.get? c.k = none) (hisn : syn.isn < 2 ^ 32) (ps : List Piece)
    (hlen : (streamOf ps).length < 2 ^ 31) :
    receivedAfter asm c syn ((place 0 ps).map (wirePacket c syn.isn)) = some (streamOf ps) ↔
      ∀ q ∈ place 0 ps, q.2.payload ≠ [] → syn.isn + 1 + q.1 < 2 ^ 32 := by
  obtain ⟨asm₁, st₁, hsyn, hget, ht⟩ := exists_feed_syn asm c syn (streamOf ps) hnew
  obtain ⟨asm', st', pos, hall, hget', ht', hle, hiff⟩ :=
    feedAll_wire c hisn hlen ps hget ht ⟨List.drop_zero, (Nat.zero_add _).symm⟩ (Or.inl rfl)
  rw [receivedAfter_eq hsyn hall hget' ht', Option.some.injEq]
  have htake : (streamOf ps).take pos = streamOf ps ↔ pos = (streamOf ps).length := by
    constructor
    · intro h
      have hlen := congrArg List.length h
      rw [List.length_take] at hlen
      omega
    · intro h
      rw [List.take_of_length_le (Nat.le_of_eq h.symm)]
  show (streamOf ps).take pos = streamOf ps ↔ _
  rw [htake, hiff]
  simp

theorem pushAck_noSyn : 0x18 &&& 0x02 = 0 := by decide

/-- 四 bytes を二つに分けた列。 -/
def halves : List Piece :=
  [⟨[0x61, 0x62], 0, 0x18, 2, pushAck_noSyn⟩, ⟨[0x63, 0x64], 0, 0x18, 3, pushAck_noSyn⟩]

/-- ISN が 999 なら折り返さない。 -/
theorem receivedAfter_wire_iff_low :
    receivedAfter {} smtpClient smtpSyn ((place 0 halves).map (wirePacket smtpClient 999))
      = some (streamOf halves) :=
  (receivedAfter_wire_iff {} smtpClient smtpSyn rfl (by decide) halves (by decide)).mpr (by decide)

/-- ISN が `2^32 - 3` の SYN。二つ目の segment の sequence number は `0` に折り返す。 -/
def lateSyn : Syn :=
  { isn := 2 ^ 32 - 3, ack := 0, flags := 0x02, ts := 1, isSyn := smtpSyn.isSyn }

/-- 折り返した segment は再送とみなされて捨てられ、ISN だけの違いで buffer が変わる。 -/
theorem receivedAfter_wire_drop :
    lateSyn.isn < 2 ^ 32 ∧ wireSeq lateSyn.isn 2 = 0 ∧
    receivedAfter {} smtpClient lateSyn ((place 0 halves).map (wirePacket smtpClient lateSyn.isn))
      = some [0x61, 0x62] ∧
    receivedAfter {} smtpClient lateSyn ((place 0 halves).map (wirePacket smtpClient lateSyn.isn))
      ≠ some (streamOf halves) := by
  decide

end CipherPost.Parsing
