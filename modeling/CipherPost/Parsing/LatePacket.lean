import CipherPost.Parsing.TlsSegments

/-!
# 完結した stream に届く packet

接続が完結した後に届く packet が、その接続の session を変えるかどうか。

* `HalfStream.Settled` — 保留の bytes が frontier で止まっていること。`feed` が保つ
* `Stream.SameOutput` — session の作り方が見る値の一致
* `Stream.finishes` — packet の後に stream が完結しているか
* `Harmless` — 完結した stream の session を変えず、忘れられた stream を session にもしない packet
-/

namespace CipherPost.Parsing

/-! ## 保留の bytes -/

namespace HalfStream

/-- 保留の bytes は、受け取った bytes に続かない。 -/
structure Settled (hs : HalfStream) : Prop where
  fresh : hs.frontier = none → hs.pending = Dict.empty
  done : ∀ f, hs.frontier = some f → hs.pending.get? f = none

theorem settled_new : Settled {} where
  fresh _ := rfl
  done _ h := by cases h

/-- 取り出す loop は frontier を失わない。 -/
theorem frontier_flushLoop : ∀ (n : Nat) (hs : HalfStream),
    hs.frontier.isSome → (flushLoop n hs).frontier.isSome := by
  intro n
  induction n with
  | zero => exact fun _ h => h
  | succ n ih =>
    intro hs h
    unfold flushLoop
    split
    · exact h
    · split
      · exact h
      · exact ih _ rfl

/-- frontier の位置に保留が無ければ、取り出すものは無い。 -/
theorem flush_eq_self {hs : HalfStream} {f : Nat} (hf : hs.frontier = some f)
    (hp : hs.pending.get? f = none) : hs.flush = hs := by
  unfold flush
  cases hs.pending.size with
  | zero => rfl
  | succ n => simp only [flushLoop, hf, hp]

theorem settled_flush {hs : HalfStream} (h : hs.frontier.isSome) : hs.flush.Settled where
  fresh hnone := by
    have hsome := frontier_flushLoop hs.pending.size hs h
    unfold flush at hnone
    rw [hnone] at hsome
    cases hsome
  done f hf := flush_done (Nat.le_refl _) hf

theorem Settled.mark {hs : HalfStream} (h : hs.Settled) (p : Packet) : (hs.mark p).Settled where
  fresh := h.fresh
  done := h.done

theorem Settled.store {hs : HalfStream} (h : hs.Settled) (seq : Nat) (data : Bytes) (ts : Nat) :
    (hs.store seq data ts).Settled := by
  unfold HalfStream.store
  split
  · exact h
  · dsimp only
    split
    · refine ⟨fun hnone => (by cases hnone), fun f hf => ?_⟩
      cases hfrontier : hs.frontier with
      | none =>
        show hs.pending.get? f = none
        rw [h.fresh hfrontier]
        rfl
      | some g =>
        have hfg : g = f := by simpa [hfrontier] using hf
        exact hfg ▸ h.done g hfrontier
    · split
      · exact settled_flush rfl
      · exact settled_flush rfl

theorem Settled.receive {hs : HalfStream} (h : hs.Settled) (p : Packet) :
    (hs.receive p).Settled := by
  rw [receive_eq]
  exact (h.mark p).store _ _ _

/-- 届いた bytes が、受け取った bytes に続かない。 -/
def stale (hs : HalfStream) (p : Packet) : Prop :=
  p.payload = [] ∨ ∃ f, hs.frontier = some f ∧ (p.seq + p.payload.length ≤ f ∨ f < p.seq) ∧
    (hs.firstTs ≠ 0 ∨ p.ts = 0)

/-- 続かない bytes は、組み立てた bytes を変えない。 -/
theorem receive_of_stale {hs : HalfStream} (h : hs.Settled) {p : Packet} (hp : hs.stale p) :
    (hs.receive p).buf = hs.buf ∧ (hs.receive p).firstTs = hs.firstTs := by
  rw [receive_eq]
  rcases hp with hnil | ⟨f, hf, hpos, hts⟩
  · rw [hnil, store_nil]
    exact ⟨rfl, rfl⟩
  · unfold HalfStream.store
    split
    · exact ⟨rfl, rfl⟩
    · have hfirst : (if (hs.mark p).firstTs = 0 then p.ts else (hs.mark p).firstTs) = hs.firstTs := by
        show (if hs.firstTs = 0 then p.ts else hs.firstTs) = hs.firstTs
        split
        · next hzero => rw [hzero, hts.resolve_left fun hne => hne hzero]
        · rfl
      have hg : (hs.mark p).frontier = some f := hf
      simp only [hg, Option.getD_some, hfirst]
      split
      · exact ⟨rfl, rfl⟩
      · next hbelow =>
        have habove : f < p.seq := hpos.resolve_left hbelow
        rw [if_neg (Nat.lt_asymm habove)]
        -- 隙間の先の bytes は保留のまま残る
        rw [flush_eq_self (f := f) rfl]
        · exact ⟨rfl, rfl⟩
        · show (hs.pending.set p.seq p.payload).get? f = none
          rw [Dict.get?_set_of_ne _ _ (Nat.ne_of_gt habove)]
          exact h.done f hf

@[simp] theorem receive_finSeq (hs : HalfStream) (p : Packet) :
    (hs.receive p).finSeq.isSome = (p.fin || hs.finSeq.isSome) := by
  obtain ⟨base, frontier, pending, buf, h⟩ := hs.receive_frame p
  rw [h]
  unfold mark
  cases p.fin <;> rfl

@[simp] theorem receive_rst (hs : HalfStream) (p : Packet) :
    (hs.receive p).rst = (p.rst || hs.rst) := by
  obtain ⟨base, frontier, pending, buf, h⟩ := hs.receive_frame p
  rw [h]
  rfl

/-- 位置の定まった half stream は、payload を受け取ったものである。 -/
theorem receive_frontier (hs : HalfStream) (p : Packet) :
    (hs.receive p).frontier.isSome = (decide (p.payload ≠ []) || hs.frontier.isSome) := by
  rw [receive_eq]
  unfold HalfStream.store
  by_cases hnil : p.payload = []
  · rw [if_pos hnil]
    simp [hnil]
  · rw [if_neg hnil]
    rw [decide_eq_true hnil, Bool.true_or]
    dsimp only
    split
    · rfl
    · split
      · exact frontier_flushLoop _ _ rfl
      · exact frontier_flushLoop _ _ rfl

end HalfStream

/-! ## 双方向の stream -/

namespace Stream

/-- どちらの向きの保留も受け取った bytes に続かない。 -/
def Settled (st : Stream) : Prop := ∀ d, (st.half d).Settled

/-- 逆の向きの half stream は変わらない。 -/
theorem half_feed_of_ne (st : Stream) (k : Key) (p : Packet) {d : Bool} (h : d ≠ p.dirA k) :
    (st.feed k p).half d = st.half d := by
  unfold feed half setHalf
  cases hsyn : p.syn <;> cases hdir : p.dirA k <;> rw [hdir] at h <;> cases d <;>
    simp only [Bool.false_eq_true, if_false, if_true] <;>
    first | exact absurd rfl h | (split <;> rfl)

theorem Settled.feed {st : Stream} (h : st.Settled) (k : Key) (p : Packet) :
    (st.feed k p).Settled := by
  intro d
  by_cases hd : d = p.dirA k
  · rw [hd, half_feed]
    exact (h _).receive p
  · rw [half_feed_of_ne st k p hd]
    exact h d

/-- packet の後に stream は完結している。 -/
def finishes (st : Stream) (k : Key) (p : Packet) : Bool :=
  st.complete || p.rst || st.ha.rst || st.hb.rst ||
    (p.fin || (st.half (p.dirA k)).finSeq.isSome) && (st.half !p.dirA k).finSeq.isSome

theorem complete_ite (c : Bool) (st : Stream) :
    (if c then { st with complete := true } else st).complete = (st.complete || c) := by
  cases c <;> simp

theorem complete_feed (st : Stream) (k : Key) (p : Packet) :
    (st.feed k p).complete = st.finishes k p := by
  unfold feed finishes
  rw [complete_ite]
  unfold half setHalf
  cases p.syn <;> cases p.dirA k <;>
    simp only [Bool.false_eq_true, if_false, if_true, HalfStream.receive_rst,
      HalfStream.receive_finSeq, Bool.not_false, Bool.not_true] <;>
    ac_rfl

/-- session の作り方が見る値の一致。 -/
structure SameOutput (st st' : Stream) : Prop where
  ipA : st'.ipA = st.ipA
  portA : st'.portA = st.portA
  ipB : st'.ipB = st.ipB
  portB : st'.portB = st.portB
  synByA : st'.synByA = st.synByA
  synByB : st'.synByB = st.synByB
  firstTs : st'.firstTs = st.firstTs
  buf : ∀ d, (st'.half d).buf = (st.half d).buf
  halfTs : ∀ d, (st'.half d).firstTs = (st.half d).firstTs

theorem SameOutput.session {st st' : Stream} (h : SameOutput st st') :
    st'.session = st.session := by
  have hclient : st'.clientA = st.clientA := by
    have ha : st'.ha.firstTs = st.ha.firstTs := h.halfTs true
    have hb : st'.hb.firstTs = st.hb.firstTs := h.halfTs false
    unfold clientA clientIsA
    rw [h.ipA, h.ipB, h.portA, h.portB, h.synByA, h.synByB, ha, hb]
  have hopen : st'.openSession = st.openSession := by
    unfold openSession
    rw [hclient, h.ipA, h.ipB, h.portA, h.portB, h.firstTs]
  unfold Stream.session closeSession clientBytes serverBytes
  rw [hopen, hclient, h.buf, h.buf]

/-- packet の触れない値。 -/
theorem feed_frame (st : Stream) (k : Key) (p : Packet) :
    (st.feed k p).ipA = st.ipA ∧ (st.feed k p).portA = st.portA ∧ (st.feed k p).ipB = st.ipB ∧
      (st.feed k p).portB = st.portB ∧ (st.feed k p).firstTs = st.firstTs ∧
      (st.feed k p).synByA = (p.syn && p.dirA k || st.synByA) ∧
      (st.feed k p).synByB = (p.syn && !p.dirA k || st.synByB) := by
  unfold feed setHalf
  cases p.syn <;> cases p.dirA k <;>
    simp only [Bool.false_eq_true, if_false, if_true] <;> split <;> simp

/-- mail の port を持たず、bytes も無い stream。session にならない。 -/
structure Blank (st : Stream) : Prop where
  portA : PORT_TO_PROTO.lookup st.portA = none
  portB : PORT_TO_PROTO.lookup st.portB = none
  buf : ∀ d, (st.half d).buf = []

theorem Blank.feed {st : Stream} (h : st.Blank) (k : Key) {p : Packet} (hp : p.payload = []) :
    (st.feed k p).Blank where
  portA := by rw [(feed_frame st k p).2.1]; exact h.portA
  portB := by rw [(feed_frame st k p).2.2.2.1]; exact h.portB
  buf := by
    intro d
    by_cases hd : d = p.dirA k
    · rw [hd, half_feed, HalfStream.receive, if_pos hp]
      exact h.buf _
    · rw [half_feed_of_ne st k p hd]
      exact h.buf d

/-- 語の無い stream の protocol は、port でしか決まらない。 -/
theorem detectProtocol_nil {port : Nat} (h : PORT_TO_PROTO.lookup port = none) :
    detectProtocol port [] [] = (.unknown, false) := by
  unfold detectProtocol
  rw [h]
  decide

theorem Blank.session {st : Stream} (h : st.Blank) : st.session = none := by
  have hport : PORT_TO_PROTO.lookup st.openSession.serverPort = none := by
    unfold openSession
    cases st.clientA
    · exact h.portA
    · exact h.portB
  unfold Stream.session closeSession clientBytes serverBytes
  rw [h.buf, h.buf, detectProtocol_nil hport]
  rfl

end Stream

/--
完結した stream `b` の接続に届いても、その session を変えない packet。接続を忘れた側の stream `r` が
完結するのは、session にならないときだけである。
-/
structure Harmless (b r : Stream) (k : Key) (p : Packet) : Prop where
  syn : p.syn = true → (if p.dirA k then b.synByA else b.synByB) = true
  payload : (b.half (p.dirA k)).stale p
  finish : r.finishes k p = true → p.payload = [] ∧ r.Blank

theorem Harmless.sameOutput {b r : Stream} {k : Key} {p : Packet} (h : Harmless b r k p)
    (hset : b.Settled) : b.SameOutput (b.feed k p) := by
  obtain ⟨hipA, hportA, hipB, hportB, hts, hsynA, hsynB⟩ := Stream.feed_frame b k p
  obtain ⟨hbuf, hfirst⟩ := HalfStream.receive_of_stale (hset _) h.payload
  have hsyn := h.syn
  refine ⟨hipA, hportA, hipB, hportB, ?_, ?_, hts, ?_, ?_⟩
  · rw [hsynA]
    cases hs : p.syn <;> cases hd : p.dirA k <;> simp_all
  · rw [hsynB]
    cases hs : p.syn <;> cases hd : p.dirA k <;> simp_all
  · intro d
    by_cases hd : d = p.dirA k
    · rw [hd, Stream.half_feed, hbuf]
    · rw [Stream.half_feed_of_ne b k p hd]
  · intro d
    by_cases hd : d = p.dirA k
    · rw [hd, Stream.half_feed, hfirst]
    · rw [Stream.half_feed_of_ne b k p hd]

end CipherPost.Parsing
