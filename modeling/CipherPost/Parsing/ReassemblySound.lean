import CipherPost.Parsing.ReassemblyOrder

/-!
# 組み立ての健全性

SYN の後に stream の slice をどう届けても（順序・重なり・重複・欠落を問わない）、buffer は stream の
先頭からの一部分であり、bytes が増えたり入れ替わったりはしない。

* `Anchored` — 基準と前線が決まっていること。最初の data で決まり、その後は失われない
* `Sound` — half stream の不変量
* `sound_after` — 列のどの時点でも成り立つ
-/

namespace CipherPost.Parsing

open Front

/-! ## 基準と前線 -/

/-- 基準と前線が決まっている。 -/
def Anchored (hs : HalfStream) : Prop := hs.baseSeq.isSome = true ∧ hs.frontier.isSome = true

theorem Anchored.flushLoop : ∀ {n : Nat} {hs : HalfStream}, Anchored hs →
    Anchored (HalfStream.flushLoop n hs) := by
  intro n
  induction n with
  | zero => exact fun h => h
  | succ n ih =>
    intro hs h
    rw [HalfStream.flushLoop]
    split
    · exact h
    · split
      · exact h
      · exact ih ⟨h.1, rfl⟩

/-- data のある packet は、基準と前線を決める。 -/
theorem anchored_store {hs : HalfStream} {seq : Nat} {data : Bytes} {ts : Nat} (hne : data ≠ []) :
    Anchored (hs.store seq data ts) := by
  unfold HalfStream.store HalfStream.flush
  rw [if_neg hne]
  dsimp only
  split
  · exact ⟨rfl, rfl⟩
  · split
    · exact Anchored.flushLoop ⟨rfl, rfl⟩
    · exact Anchored.flushLoop ⟨rfl, rfl⟩

theorem Anchored.store {hs : HalfStream} (h : Anchored hs) (seq : Nat) (data : Bytes) (ts : Nat) :
    Anchored (hs.store seq data ts) := by
  by_cases hnil : data = []
  · rw [hnil, HalfStream.store_nil]
    exact h
  · exact anchored_store hnil

/-! ## packet の列 -/

variable {data : Bytes}

/-- slice を一つ受け取った half stream。 -/
def receiveSlice (c : Direction) (isn : Nat) (hs : HalfStream) (a : Slice data) : HalfStream :=
  (hs.mark (a.packet c isn)).store (isn + 1 + a.off) a.payload a.ts

/-- slice の列の `feed` は、half stream を順に進める。 -/
theorem half_feedAll (c : Direction) (isn : Nat) : ∀ (l : List (Slice data))
    {asm : StreamAssembler} {st : Stream}, asm.streams.get? c.k = some st →
    ∃ asm' st', asm.feedAll (l.map fun a => a.packet c isn) = some asm' ∧
      asm'.streams.get? c.k = some st' ∧
      st'.half c.dirA = l.foldl (receiveSlice c isn) (st.half c.dirA) := by
  intro l
  induction l with
  | nil => exact fun hst => ⟨_, _, rfl, hst, rfl⟩
  | cons a l ih =>
    intro asm st hst
    obtain ⟨asm₁, st₁, hfeed, hget, hhalf⟩ :=
      exists_feed c (isn + 1 + a.off) a.ack a.payload a.flags a.ts hst
    obtain ⟨asm', st', hall, hget', hhalf'⟩ := ih hget
    refine ⟨asm', st', ?_, hget', ?_⟩
    · rw [List.map_cons, StreamAssembler.feedAll, List.foldlM_cons]
      show (asm.feed (c.packet _ _ _ _ _) >>= _) = _
      rw [hfeed]
      exact hall
    · rw [hhalf', hhalf]
      rfl

/-- 空でない slice が一つでも届けば、基準と前線は決まっている。 -/
theorem anchored_foldl (c : Direction) (isn : Nat) : ∀ (l : List (Slice data)) (hs : HalfStream),
    (Anchored hs ∨ ∃ a ∈ l, a.nonempty = true) → Anchored (l.foldl (receiveSlice c isn) hs) := by
  intro l
  induction l with
  | nil =>
    rintro hs (h | ⟨a, ha, -⟩)
    · exact h
    · cases ha
  | cons a l ih =>
    intro hs h
    refine ih _ ?_
    rcases h with h | ⟨b, hb, hne⟩
    · exact .inl (Anchored.store (show Anchored (hs.mark _) from h) _ _ _)
    · rcases List.mem_cons.mp hb with rfl | hb
      · refine .inl (anchored_store fun hnil => ?_)
        have hlen := b.length_payload
        have hlt : b.off < b.off + b.len := of_decide_eq_true hne
        rw [hnil, List.length_nil] at hlen
        omega
      · exact .inr ⟨b, hb, hne⟩

/-! ## 不変量 -/

/-- SYN に続けて slice の列を `feed` した後の、その方向の half stream。 -/
def halfAfter (asm : StreamAssembler) (c : Direction) (syn : Syn) (l : List (Slice data)) :
    Option HalfStream :=
  (asm.feedAll (syn.packet c :: l.map fun a => a.packet c syn.isn)).bind fun asm' =>
    (asm'.streams.get? c.k).map fun st => st.half c.dirA

/-- buffer は stream の先頭からの一部分で、前線はその終わりにあり、前線の位置に保留は無い。 -/
structure Sound (data : Bytes) (arrived : Prop) (hs : HalfStream) : Prop where
  buf : hs.buf <+: data
  frontier : arrived → ∃ base, hs.baseSeq = some base ∧ hs.frontier = some (base + hs.buf.length)
  pending : ∀ f, hs.frontier = some f → hs.pending.get? f = none

/-- 前線を写し、基準の決まった half stream は健全である。 -/
theorem Tracks.sound {isn : Nat} {hs : HalfStream} {s : Front} {arrived : Prop}
    (h : Tracks isn data hs s) (hpos : s.pos ≤ data.length) (hclear : s.pend s.pos = none)
    (harrived : arrived → Anchored hs) : Sound data arrived hs where
  buf := by
    rw [h.buf]
    exact List.take_prefix _ _
  frontier := by
    intro ha
    obtain ⟨hbase, hfront⟩ := harrived ha
    obtain ⟨base, hbase⟩ := Option.isSome_iff_exists.mp hbase
    obtain ⟨f, hfront⟩ := Option.isSome_iff_exists.mp hfront
    have hb := h.base
    have hf := h.frontier
    rw [hbase, Option.getD_some] at hb
    rw [hfront, Option.getD_some] at hf
    refine ⟨base, hbase, ?_⟩
    rw [hfront, hf, hb, h.buf, List.length_take, Nat.min_eq_left hpos]
  pending := by
    intro f hfront
    have hf := h.frontier
    rw [hfront, Option.getD_some] at hf
    have hp := h.pend s.pos
    rw [hclear] at hp
    rw [hf]
    exact Option.map_eq_none_iff.mp hp.symm

/--
**SYN の後の slice の列の、どの時点でも、half stream は健全である。** 空でない slice が一つでも届いて
いれば、前線は基準に buffer の長さを足したものである。
-/
theorem sound_after (asm : StreamAssembler) (c : Direction) (syn : Syn)
    (hnew : asm.streams.get? c.k = none) (l : List (Slice data)) (n : Nat) :
    ∃ hs, halfAfter asm c syn (l.take n) = some hs ∧
      Sound data (∃ a ∈ l.take n, a.nonempty = true) hs := by
  obtain ⟨asm₁, st₁, hsyn, hget, ht⟩ := exists_feed_syn asm c syn data hnew
  obtain ⟨asm', st', s, hall, hget', ho, ht'⟩ := exists_offers_of_feedAll c (l.take n) hget ht
  obtain ⟨asm'', st'', hall', hget'', hhalf⟩ := half_feedAll c syn.isn (l.take n) hget
  -- 同じ列なので、二つの補題の結果は同じ stream である
  rw [hall, Option.some.injEq] at hall'
  subst hall'
  rw [hget', Option.some.injEq] at hget''
  subst hget''
  have hinside : ∀ a ∈ (l.take n).filter Slice.nonempty, a.stop ≤ data.length :=
    fun a _ => a.inside
  obtain ⟨hsettled, -, -⟩ := settled_init.offers off_lt_stop ho
  obtain ⟨hpos, -⟩ := ho.within hinside ⟨Nat.zero_le _, fun q e h => by simp [Front.init] at h⟩
  refine ⟨st'.half c.dirA, ?_, ht'.sound hpos hsettled.clear fun harrived => ?_⟩
  · have hfull : asm.feedAll (syn.packet c :: (l.take n).map fun a => a.packet c syn.isn) =
        some asm' := by
      rw [StreamAssembler.feedAll, List.foldlM_cons, hsyn]
      exact hall
    rw [halfAfter, hfull, Option.bind_some, hget', Option.map_some]
  · rw [hhalf]
    exact anchored_foldl c syn.isn _ _ (.inr harrived)

/-- 欠けたままの列では、届いた先頭だけが buffer に入り、その先は保留に残る。 -/
theorem sound_after_gap :
    ∃ hs, halfAfter {} smtpClient smtpSyn
        ([abcd 0 1 (by decide), abcd 2 2 (by decide), abcd 0 1 (by decide)].take 2) = some hs ∧
      Sound [0x61, 0x62, 0x63, 0x64] (∃ a ∈ ([abcd 0 1 (by decide), abcd 2 2 (by decide),
        abcd 0 1 (by decide)]).take 2, a.nonempty = true) hs :=
  sound_after {} smtpClient smtpSyn rfl
    [abcd 0 1 (by decide), abcd 2 2 (by decide), abcd 0 1 (by decide)] 2

end CipherPost.Parsing
