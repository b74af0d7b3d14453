import CipherPost.Infra.Run
import CipherPost.Live.Reassembly
import CipherPost.Parsing.LatePacket

/-!
# 流れながらの再構成と、まとめての再構成

同じ packet の列を `LiveReassembler` と `StreamAssembler` に渡し、接続ごとに出た session を比べる。
前者は完結した stream を sweep で閉じて忘れ、後者は最後まで覚えている。

* `ParityState.step` — 二つの再構成を並べた系の一歩
* `Calm` — sweep が途絶・上限・追い出しのどれにも当たらないこと
* `Inert` — 閉じた接続に後から届く packet が、その session に触れないこと
* `Twins` — 不変量。閉じる前は同じ stream を持ち、閉じた後は同じ session を出している
* `sessions_match_batch` — 途中のどの状態でも、出る session は同じである
-/

namespace CipherPost.Live

open Parsing

/-! ## 比べる値 -/

/-- session の端点・protocol・平文と TLS の部分。 -/
structure SessionView where
  clientIp : String
  clientPort : Nat
  serverIp : String
  serverPort : Nat
  protocol : Protocol
  plaintextSegment : Bytes
  plaintextServerSegment : Bytes
  tlsSegment : Bytes
  tlsServerSegment : Bytes
  deriving DecidableEq

/-- session の比べる値。 -/
def viewOf (sess : Session) : SessionView where
  clientIp := sess.clientIp
  clientPort := sess.clientPort
  serverIp := sess.serverIp
  serverPort := sess.serverPort
  protocol := sess.protocol
  plaintextSegment := sess.plaintextSegment
  plaintextServerSegment := sess.plaintextServerSegment
  tlsSegment := sess.tlsSegment
  tlsServerSegment := sess.tlsServerSegment

/-- 閉じて出た列のうち、接続 `k` の session。 -/
def viewsOf (out : List (Key × Option CapturedSession)) (k : Key) : List SessionView :=
  out.filterMap fun o => if o.1 = k then o.2.map fun sess => viewOf sess.toSession else none

/-- まとめて出た列のうち、接続 `k` の session。 -/
def batchViews (asm : StreamAssembler) (k : Key) : List SessionView :=
  asm.emit.filterMap fun o => if o.1 = k then some (viewOf o.2) else none

theorem viewsOf_append (out out' : List (Key × Option CapturedSession)) (k : Key) :
    viewsOf (out ++ out') k = viewsOf out k ++ viewsOf out' k := List.filterMap_append

/-- protocol の分からなかった stream は、比べる値に現れない。 -/
theorem viewsOf_filter_isSome (out : List (Key × Option CapturedSession)) (k : Key) :
    viewsOf (out.filter fun o => o.2.isSome) k = viewsOf out k := by
  unfold viewsOf
  rw [List.filterMap_filter]
  refine List.filterMap_congr fun o _ => ?_
  cases ho : o.2 <;> simp

theorem viewsOf_eq_nil {out : List (Key × Option CapturedSession)} {k : Key}
    (h : k ∉ out.map Prod.fst) : viewsOf out k = [] := by
  refine List.filterMap_eq_nil_iff.mpr fun o ho => if_neg fun heq => h ?_
  exact heq ▸ List.mem_map_of_mem ho

/-- 閉じた時刻は、比べる値に現れない。 -/
theorem viewOf_assignTlsSegments (sess : Session) (t : Rat) (client server : Bytes) :
    viewOf (assignTlsSegments { sess with endTs := t } client server) =
      viewOf (assignTlsSegments sess client server) := by
  unfold assignTlsSegments
  dsimp only
  rcases tlsTransition (decide (sess.serverPort ∈ IMPLICIT_TLS_PORTS)) sess.protocol client with
    ⟨_ | offset, starttls⟩
  · rfl
  · cases findTlsOffset server with
    | none => rfl
    | some so =>
      dsimp only
      split <;> rfl

/-- stream の session は、閉じた理由によらず同じ値を持つ。 -/
theorem viewOf_capture (st : Stream) (reason : String) (refs : List (List Json)) :
    (capture st reason refs).map (fun sess => viewOf sess.toSession) = st.session.map viewOf := by
  unfold capture Stream.session
  rw [Option.map_map]
  unfold Stream.closeSession
  dsimp only
  split
  · rfl
  · exact congrArg some (viewOf_assignTlsSegments { st.openSession with
      protocol := (detectProtocol st.openSession.serverPort st.clientBytes st.serverBytes).1
      portBased := (detectProtocol st.openSession.serverPort st.clientBytes st.serverBytes).2 }
      _ _ _)

theorem batchViews_eq (asm : StreamAssembler) (k : Key) :
    batchViews asm k = ((asm.streams.get? k).bind fun st =>
      if st.complete then st.session.map viewOf else none).toList := by
  unfold batchViews StreamAssembler.emit
  rw [← Dict.filterMap_key, List.filterMap_filterMap]
  refine List.filterMap_congr fun e _ => ?_
  split
  · cases e.2.session <;> simp
  · simp

/-- 接続ごとに等しければ、全体は並べ替えである。 -/
theorem perm_of_views {out : List (Key × Option CapturedSession)} {asm : StreamAssembler}
    (h : ∀ k, viewsOf out k = batchViews asm k) :
    ((out.filterMap Prod.snd).map fun sess => viewOf sess.toSession).Perm
      ((asm.emit.map Prod.snd).map viewOf) := by
  have hperm : (out.filterMap fun o => o.2.map fun sess => (o.1, viewOf sess.toSession)).Perm
      (asm.emit.map fun o => (o.1, viewOf o.2)) := by
    refine DictList.perm_of_filterMap_key fun k => ?_
    rw [List.filterMap_filterMap, List.filterMap_map]
    refine Eq.trans ?_ (h k)
    refine List.filterMap_congr fun o _ => ?_
    cases o.2 <;> simp
  have hsnd := hperm.map Prod.snd
  rw [List.map_filterMap, List.map_map] at hsnd
  rw [List.map_filterMap, List.map_map]
  refine (List.Perm.of_eq (List.filterMap_congr fun o _ => ?_)).trans hsnd
  cases o.2 <;> rfl

/-! ## 閉じた stream の session -/

namespace LiveReassembler

theorem nodup_finished (lr : LiveReassembler) : (lr.finished.map Prod.fst).Nodup := by
  refine List.Nodup.sublist ?_ lr.streams.nodup
  unfold finished
  induction lr.streams.entries with
  | nil => exact List.Sublist.slnil
  | cons e l ih =>
    obtain ⟨k, st⟩ := e
    cases hc : st.complete
    · simpa [hc] using ih.cons k
    · simpa [hc] using ih.cons_cons k

theorem mem_finished_iff (lr : LiveReassembler) (k : Key) :
    k ∈ lr.finished.map Prod.fst ↔ ∃ st, lr.streams.get? k = some st ∧ st.complete = true := by
  unfold finished
  constructor
  · intro h
    obtain ⟨o, ho, rfl⟩ := List.mem_map.mp h
    obtain ⟨⟨k, st⟩, he, hst⟩ := List.mem_filterMap.mp ho
    dsimp only at hst
    split at hst
    · next hc =>
      rw [Option.some.injEq] at hst
      subst hst
      exact ⟨st, (Dict.mem_entries_iff _ _ _).mp he, hc⟩
    · cases hst
  · rintro ⟨st, hst, hc⟩
    refine List.mem_map.mpr ⟨(k, st, closeReason st), List.mem_filterMap.mpr ?_, rfl⟩
    exact ⟨(k, st), (Dict.mem_entries_iff _ _ _).mpr hst, by simp [hc]⟩

/-- 完結した stream を閉じると、残りだけになる。 -/
theorem get?_closeAll_finished (lr : LiveReassembler) (k : Key) :
    (lr.closeAll lr.finished).1.streams.get? k =
      (lr.streams.get? k).filter fun st => !st.complete := by
  rw [get?_closeAll]
  split
  · next hmem =>
    obtain ⟨st, hst, hc⟩ := (mem_finished_iff lr k).mp hmem
    rw [hst, Option.filter_some_neg (by simp [hc])]
  · next hmem =>
    cases hst : lr.streams.get? k with
    | none => rfl
    | some st =>
      have hc : st.complete = false := by
        by_contra hc
        exact hmem ((mem_finished_iff lr k).mpr ⟨st, hst, by simpa using hc⟩)
      rw [Option.filter_some_pos (by simp [hc])]

/-- 閉じて出る列は、完結した stream の接続の列である。 -/
theorem closeAll_finished (lr : LiveReassembler) :
    (lr.closeAll lr.finished).2 =
      lr.finished.map fun e => (e.1, capture e.2.1 e.2.2 ((lr.refs.get? e.1).getD [])) := by
  refine snd_closeAll _ _ lr.nodup_finished fun e he => ?_
  obtain ⟨st, hst, -⟩ := (mem_finished_iff lr e.1).mp (List.mem_map_of_mem he)
  rw [hst]
  rfl

theorem keys_closeAll_finished (lr : LiveReassembler) :
    (lr.closeAll lr.finished).2.map Prod.fst = lr.finished.map Prod.fst := by
  rw [closeAll_finished, List.map_map]
  rfl

/-- 完結した stream を閉じると、まとめての再構成と同じ値が出る。 -/
theorem viewsOf_closeAll_finished (lr : LiveReassembler) (k : Key) :
    viewsOf (lr.closeAll lr.finished).2 k = batchViews ⟨lr.streams⟩ k := by
  rw [closeAll_finished, batchViews_eq, ← Dict.filterMap_key]
  unfold viewsOf finished
  rw [List.filterMap_map, List.filterMap_filterMap]
  refine List.filterMap_congr fun e _ => ?_
  cases hc : e.2.complete
  · simp [hc]
  · simp [hc, viewOf_capture]

end LiveReassembler

/-! ## 二つの再構成を並べた系 -/

/-- まとめての再構成。TypeError になる packet は飛ばす。 -/
def feedTrace (asm : StreamAssembler) (ps : List Packet) : StreamAssembler :=
  ps.foldl (fun asm p => (asm.feed p).getD asm) asm

/-- packet と sweep の列。 -/
inductive ParityEvent where
  | packet (p : LivePacket)
  | sweep (now : Nat)

/-- 列の packet。 -/
def packetsOf (es : List ParityEvent) : List Packet :=
  es.filterMap fun
    | .packet p => some p.toPacket
    | .sweep _ => none

/-- 二つの再構成と、sweep で閉じて出た列。 -/
structure ParityState where
  live : LiveReassembler := {}
  batch : StreamAssembler := {}
  out : List (Key × Option CapturedSession) := []

namespace ParityState

/-- 一歩。`feed` の TypeError はどちらの側でも捕まり、packet は捨てられる。 -/
def step (limits : Limits) (s : ParityState) : ParityEvent → ParityState
  | .packet p =>
    { s with live := s.live.feedPacket p, batch := (s.batch.feed p.toPacket).getD s.batch }
  | .sweep now =>
    let (live, out) := s.live.sweep limits now
    { s with live := live, out := s.out ++ out }

/-- 流れながらの再構成がそこまでに出した列。終わりの `drain` を含む。 -/
def emitted (s : ParityState) : List (Key × Option CapturedSession) := s.out ++ s.live.drain.2

/-- 接続 `k` が閉じられている。 -/
def Closed (s : ParityState) (k : Key) : Prop := k ∈ s.out.map Prod.fst

/-- sweep は、途絶・上限・追い出しのどれにも当たらない。 -/
def Calm (limits : Limits) (s : ParityState) : ParityEvent → Prop
  | .packet _ => True
  | .sweep now =>
    (∀ e ∈ s.live.streams.entries, e.2.complete = false →
      isIdle limits now e.2 = false ∧ overCap limits e.2 = false) ∧
    s.live.active.length ≤ limits.maxSessions

/-- packet の読む stream。無ければ新しく作る。 -/
def streamAt (streams : Dict Key Stream) (k : Key) (ts : Nat) : Stream :=
  (streams.get? k).getD { ipA := k.ipA, portA := k.pA, ipB := k.ipB, portB := k.pB, firstTs := ts }

/-- 閉じた接続に後から届く packet は、その session に触れない。 -/
def Inert (s : ParityState) : ParityEvent → Prop
  | .sweep _ => True
  | .packet p =>
    ∀ k, key p.src p.sport p.dst p.dport = some k → s.Closed k →
      Harmless (streamAt s.batch.streams k p.ts) (streamAt s.live.streams k p.ts) k p.toPacket

/-! ### 一歩の形 -/

theorem streams_feedPacket (lr : LiveReassembler) {p : LivePacket} {k : Key}
    (hk : key p.src p.sport p.dst p.dport = some k) :
    (lr.feedPacket p).streams =
      lr.streams.set k ((streamAt lr.streams k p.ts).feed k p.toPacket) := by
  unfold LiveReassembler.feedPacket StreamAssembler.feed streamAt
  rw [hk]
  dsimp only
  cases lr.streams.get? k <;> rfl

theorem streams_feedPacket_none (lr : LiveReassembler) {p : LivePacket}
    (hk : key p.src p.sport p.dst p.dport = none) : lr.feedPacket p = lr := by
  unfold LiveReassembler.feedPacket
  rw [hk]

theorem streams_feed (asm : StreamAssembler) {p : Packet} {k : Key}
    (hk : key p.src p.sport p.dst p.dport = some k) :
    ((asm.feed p).getD asm).streams =
      asm.streams.set k ((streamAt asm.streams k p.ts).feed k p) := by
  unfold StreamAssembler.feed streamAt
  rw [hk]
  dsimp only
  cases asm.streams.get? k <;> rfl

theorem feed_none (asm : StreamAssembler) {p : Packet}
    (hk : key p.src p.sport p.dst p.dport = none) : (asm.feed p).getD asm = asm := by
  unfold StreamAssembler.feed
  rw [hk]
  rfl

/-- 静かな sweep は、完結した stream を閉じるだけである。 -/
theorem sweep_of_calm {limits : Limits} {s : ParityState} {now : Nat}
    (h : s.Calm limits (.sweep now)) :
    s.live.sweep limits now = s.live.closeAll s.live.finished := by
  obtain ⟨hquiet, hactive⟩ := h
  have hclosable : s.live.closable limits now = s.live.finished := by
    refine List.filterMap_congr fun e he => ?_
    cases hc : e.2.complete with
    | true => simp [hc]
    | false =>
      obtain ⟨hidle, hcap⟩ := hquiet e he hc
      simp [hc, hidle, hcap]
  have hsub := LiveReassembler.entries_closeAll_sublist s.live.finished s.live
  have hover : (s.live.closeAll s.live.finished).1.overflow limits = [] := by
    have hle : (s.live.closeAll s.live.finished).1.active.length ≤ limits.maxSessions :=
      Nat.le_trans (hsub.filter _).length_le hactive
    unfold LiveReassembler.overflow
    rw [Nat.sub_eq_zero_of_le hle, List.take_zero]
    rfl
  unfold LiveReassembler.sweep
  rw [hclosable]
  dsimp only
  rw [hover]
  exact Prod.ext rfl (List.append_nil _)

/-! ### 不変量 -/

/-- 接続 `k` についての不変量。 -/
structure Twin (s : ParityState) (k : Key) : Prop where
  settled : ∀ b, s.batch.streams.get? k = some b → b.Settled
  same : ¬ s.Closed k → s.live.streams.get? k = s.batch.streams.get? k
  closed : s.Closed k → ∃ b, s.batch.streams.get? k = some b ∧ b.complete = true ∧
    viewsOf s.out k = (b.session.map viewOf).toList ∧
    ∀ r, s.live.streams.get? k = some r → r.complete = true → r.Blank

/-- どの接続についても、閉じる前は同じ stream を、閉じた後は同じ session を持つ。 -/
def Twins (s : ParityState) : Prop := ∀ k, s.Twin k

theorem twins_init : Twins {} := fun k =>
  { settled := fun _ h => by cases h
    same := fun _ => rfl
    closed := fun h => absurd h List.not_mem_nil }

/-- 他の接続の packet は、接続に触れない。 -/
theorem Twin.packet_of_ne {limits : Limits} {s : ParityState} {p : LivePacket} {k k' : Key}
    (h : s.Twin k') (hk : key p.src p.sport p.dst p.dport = some k) (hne : k ≠ k') :
    (step limits s (.packet p)).Twin k' := by
  have hlive : (s.live.feedPacket p).streams.get? k' = s.live.streams.get? k' := by
    rw [streams_feedPacket s.live hk, Dict.get?_set_of_ne _ _ hne]
  have hbatch : ((s.batch.feed p.toPacket).getD s.batch).streams.get? k' =
      s.batch.streams.get? k' := by
    rw [streams_feed s.batch hk, Dict.get?_set_of_ne _ _ hne]
  refine ⟨?_, ?_, ?_⟩
  · exact fun b hb => h.settled b (hbatch ▸ hb)
  · exact fun hopen => hlive.trans ((h.same hopen).trans hbatch.symm)
  · intro hclosed
    obtain ⟨b, hb, hcomplete, hviews, hrest⟩ := h.closed hclosed
    exact ⟨b, hbatch.trans hb, hcomplete, hviews, fun r hr => hrest r (hlive.symm.trans hr)⟩

/-- その接続の packet は、閉じる前は両方に、閉じた後は害の無いものだけが届く。 -/
theorem Twin.packet_self {limits : Limits} {s : ParityState} {p : LivePacket} {k : Key}
    (h : s.Twin k) (hk : key p.src p.sport p.dst p.dport = some k) (hp : s.Inert (.packet p)) :
    (step limits s (.packet p)).Twin k := by
  have hlive : (s.live.feedPacket p).streams.get? k =
      some ((streamAt s.live.streams k p.ts).feed k p.toPacket) := by
    rw [streams_feedPacket s.live hk, Dict.get?_set_self]
  have hbatch : ((s.batch.feed p.toPacket).getD s.batch).streams.get? k =
      some ((streamAt s.batch.streams k p.ts).feed k p.toPacket) := by
    rw [streams_feed s.batch hk, Dict.get?_set_self]
  refine ⟨?_, ?_, ?_⟩
  · intro b hb
    obtain rfl := Option.some.inj (hbatch.symm.trans hb)
    refine Stream.Settled.feed ?_ _ _
    unfold streamAt
    cases hg : s.batch.streams.get? k with
    | none => exact fun d => by cases d <;> exact HalfStream.settled_new
    | some b => exact h.settled b hg
  · intro hopen
    refine hlive.trans (Eq.trans ?_ hbatch.symm)
    unfold streamAt
    rw [h.same hopen]
  · intro hclosed
    obtain ⟨b, hb, hcomplete, hviews, -⟩ := h.closed hclosed
    have hharm := hp k hk hclosed
    have hat : streamAt s.batch.streams k p.ts = b := by
      unfold streamAt
      rw [hb]
      rfl
    rw [hat] at hharm hbatch
    refine ⟨b.feed k p.toPacket, hbatch, ?_, ?_, ?_⟩
    · rw [Stream.complete_feed, Stream.finishes, hcomplete]
      rfl
    · rw [(hharm.sameOutput (h.settled b hb)).session]
      exact hviews
    · intro r hr hc
      obtain rfl := Option.some.inj (hlive.symm.trans hr)
      rw [Stream.complete_feed] at hc
      obtain ⟨hnil, hblank⟩ := hharm.finish hc
      exact hblank.feed k hnil

/-- **packet の一歩。** -/
theorem Twins.packet {limits : Limits} {s : ParityState} (h : s.Twins) {p : LivePacket}
    (hp : s.Inert (.packet p)) : Twins (step limits s (.packet p)) := by
  intro k'
  cases hk : key p.src p.sport p.dst p.dport with
  | none =>
    have hs : step limits s (.packet p) = s := by
      unfold step
      dsimp only
      rw [streams_feedPacket_none _ hk, feed_none _ hk]
    rw [hs]
    exact h k'
  | some k =>
    by_cases hne : k = k'
    · subst hne
      exact (h k).packet_self hk hp
    · exact (h k').packet_of_ne hk hne

/-- 閉じた後の stream は、閉じられても session にならない。 -/
theorem views_residual {o : Option Stream}
    (h : ∀ r, o = some r → r.complete = true → r.Blank) :
    (o.bind fun st => if st.complete then st.session.map viewOf else none).toList = [] := by
  cases o with
  | none => rfl
  | some r =>
    rw [Option.bind_some]
    split
    · next hc =>
      rw [(h r rfl hc).session]
      rfl
    · rfl

/-- 静かな sweep は、完結した stream を閉じて出す。 -/
theorem step_sweep_of_calm {limits : Limits} {s : ParityState} {now : Nat}
    (hcalm : s.Calm limits (.sweep now)) :
    step limits s (.sweep now) =
      { s with live := (s.live.closeAll s.live.finished).1
               out := s.out ++ (s.live.closeAll s.live.finished).2 } := by
  unfold step
  dsimp only
  rw [sweep_of_calm hcalm]

/-- **sweep の一歩。** -/
theorem Twins.sweep {limits : Limits} {s : ParityState} (h : s.Twins) {now : Nat}
    (hcalm : s.Calm limits (.sweep now)) : Twins (step limits s (.sweep now)) := by
  intro k
  obtain ⟨hsettled, hsame, hclosed⟩ := h k
  have hget := s.live.get?_closeAll_finished k
  have hviews := s.live.viewsOf_closeAll_finished k
  rw [batchViews_eq] at hviews
  have hnew : k ∈ (s.live.closeAll s.live.finished).2.map Prod.fst ↔
      ∃ st, s.live.streams.get? k = some st ∧ st.complete = true := by
    rw [s.live.keys_closeAll_finished]
    exact s.live.mem_finished_iff k
  have hmem : k ∈ (s.out ++ (s.live.closeAll s.live.finished).2).map Prod.fst ↔
      s.Closed k ∨ ∃ st, s.live.streams.get? k = some st ∧ st.complete = true := by
    rw [List.map_append, List.mem_append, hnew]
    rfl
  rw [step_sweep_of_calm hcalm]
  refine ⟨hsettled, fun hopen => ?_, fun hclosed' => ?_⟩
  · rw [Closed, hmem, not_or] at hopen
    obtain ⟨hopen, hnone⟩ := hopen
    show (s.live.closeAll s.live.finished).1.streams.get? k = s.batch.streams.get? k
    rw [hget, ← hsame hopen]
    cases hst : s.live.streams.get? k with
    | none => rfl
    | some st =>
      refine Option.filter_some_pos ?_
      cases hc : st.complete with
      | false => rfl
      | true => exact absurd ⟨st, hst, hc⟩ hnone
  · show ∃ b, s.batch.streams.get? k = some b ∧ b.complete = true ∧
      viewsOf (s.out ++ (s.live.closeAll s.live.finished).2) k = _ ∧ _
    rw [viewsOf_append, hviews]
    by_cases hold : s.Closed k
    · obtain ⟨b, hb, hcomplete, hout, hrest⟩ := hclosed hold
      refine ⟨b, hb, hcomplete, ?_, fun r hr hc => ?_⟩
      · rw [hout, views_residual hrest, List.append_nil]
      · rw [hget] at hr
        obtain ⟨-, hopen⟩ := Option.filter_eq_some_iff.mp hr
        rw [hc] at hopen
        cases hopen
    · obtain ⟨st, hst, hc⟩ := (hmem.mp hclosed').resolve_left hold
      refine ⟨st, (hsame hold) ▸ hst, hc, ?_, fun r hr => ?_⟩
      · rw [viewsOf_eq_nil hold, hst, Option.bind_some, if_pos hc]
        rfl
      · rw [hget, hst, Option.filter_some_neg (by simp [hc])] at hr
        cases hr

/-- 不変量のもとで、そこまでに出た session はまとめての再構成のものである。 -/
theorem Twins.views {s : ParityState} (h : s.Twins) (k : Key) :
    viewsOf s.emitted k = batchViews s.batch k := by
  obtain ⟨-, hsame, hclosed⟩ := h k
  have hdrain : viewsOf s.live.drain.2 k = batchViews ⟨s.live.streams⟩ k := by
    rw [← s.live.viewsOf_closeAll_finished]
    exact viewsOf_filter_isSome _ k
  unfold emitted
  rw [viewsOf_append, hdrain, batchViews_eq, batchViews_eq]
  by_cases hold : s.Closed k
  · obtain ⟨b, hb, hcomplete, hout, hrest⟩ := hclosed hold
    rw [hout, hb, Option.bind_some, if_pos hcomplete, views_residual hrest, List.append_nil]
  · rw [viewsOf_eq_nil hold, ← hsame hold]
    rfl

@[simp] theorem batch_sweep (limits : Limits) (s : ParityState) (now : Nat) :
    (step limits s (.sweep now)).batch = s.batch := rfl

/-- 並べた系の `batch` は、packet だけを順に受け取ったものである。 -/
theorem batch_exec (limits : Limits) : ∀ (es : List ParityEvent) (s : ParityState),
    (Run.exec (step limits) s es).batch = feedTrace s.batch (packetsOf es) := by
  intro es
  induction es with
  | nil => exact fun s => rfl
  | cons e es ih =>
    intro s
    rw [Run.exec_cons, ih]
    cases e with
    | packet p => rfl
    | sweep now => rfl

/-- どの一歩も静かで、遅れた packet が閉じた session に触れなければ、不変量は保たれる。 -/
theorem twins_exec {limits : Limits} {es : List ParityEvent}
    (hcalm : Run.Along (step limits) (Calm limits) {} es)
    (hinert : Run.Along (step limits) Inert {} es) : Twins (Run.exec (step limits) {} es) := by
  refine Run.Along.invariant (fun s e h hc => ?_) (hcalm.and hinert) twins_init
  cases e with
  | packet p => exact h.packet hc.2
  | sweep now => exact h.sweep hc.1

/--
**二つの再構成の一致。** 途絶・上限・追い出しが無く、閉じた接続に後から届く packet がその session に
触れない実行では、途中のどの状態でも、接続ごとに出る session は同じである。
-/
theorem sessions_match_batch (limits : Limits) (es : List ParityEvent)
    (hcalm : Run.Along (step limits) (Calm limits) {} es)
    (hinert : Run.Along (step limits) Inert {} es) {pre : List ParityEvent} (hpre : pre <+: es)
    (k : Key) :
    viewsOf (Run.exec (step limits) {} pre).emitted k =
      batchViews (feedTrace {} (packetsOf pre)) k := by
  have h := (twins_exec (hcalm.isPrefix hpre) (hinert.isPrefix hpre)).views k
  rwa [batch_exec] at h

/-! ### 例 -/

/-- mail の port への接続の、client からの packet。 -/
def fromClient (seq flags ts : Nat) (payload : Bytes) : LivePacket where
  src := .str "10.0.0.1"
  dst := .str "10.0.0.2"
  sport := 40000
  dport := 25
  seq := seq
  ack := 0
  payload := payload
  flags := flags
  ts := ts

/-- server からの packet。 -/
def fromServer (seq flags ts : Nat) (payload : Bytes) : LivePacket :=
  { fromClient seq flags ts payload with
    src := .str "10.0.0.2", dst := .str "10.0.0.1", sport := 25, dport := 40000 }

/-- その接続。 -/
def clientKey : Key := ⟨.str "10.0.0.1", 40000, .str "10.0.0.2", 25⟩

/-- 両側が FIN を送り、sweep の後に packet がもう一つ届く。 -/
def lateTrace (late : LivePacket) : List ParityEvent :=
  [.packet (fromClient 100 0x18 1000000 (ascii "QUIT")), .packet (fromClient 106 0x01 1000001 []),
    .packet (fromServer 900 0x01 1000002 []), .sweep 1000003, .packet late]

theorem calm_lateTrace (late : LivePacket) :
    Run.Along (step {}) (Calm {}) {} (lateTrace late) := by
  refine ⟨trivial, trivial, trivial, ⟨?_, ?_⟩, trivial, trivial⟩
  · decide +kernel
  · decide +kernel

/-- 終わりの ACK は、閉じた session に触れない。 -/
theorem sessions_match_batch_ack :
    viewsOf (Run.exec (step {}) {} (lateTrace (fromClient 107 0x10 1000004 []))).emitted clientKey =
      batchViews (feedTrace {} (packetsOf (lateTrace (fromClient 107 0x10 1000004 [])))) clientKey := by
  refine sessions_match_batch {} (lateTrace (fromClient 107 0x10 1000004 []))
    (calm_lateTrace _) ⟨fun k _ hc => absurd hc List.not_mem_nil,
      fun k _ hc => absurd hc List.not_mem_nil, fun k _ hc => absurd hc List.not_mem_nil, trivial,
      fun k hk _ => ?_, trivial⟩
    (List.prefix_refl _) clientKey
  have hkey : key (fromClient 107 0x10 1000004 []).src 40000 (fromClient 107 0x10 1000004 []).dst 25
      = some clientKey := by decide
  have hk' : some clientKey = some k := hkey.symm.trans hk
  rw [← Option.some.inj hk']
  refine ⟨fun h => ?_, .inl rfl, fun h => ?_⟩
  · exact absurd h (by decide)
  · exact absurd h (by decide +kernel)

/-- sweep の後に再送された data は、まとめての再構成の session にだけ入る。 -/
theorem sessions_lose_late_data :
    ¬ ∀ (limits : Limits) (es : List ParityEvent),
      Run.Along (step limits) (Calm limits) {} es → ∀ k,
        viewsOf (Run.exec (step limits) {} es).emitted k =
          batchViews (feedTrace {} (packetsOf es)) k := by
  intro h
  have hviews := h {} (lateTrace (fromClient 104 0x18 1000004 [13, 10])) (calm_lateTrace _) clientKey
  have hsegments := congrArg (List.map SessionView.plaintextSegment) hviews
  revert hsegments
  decide +kernel

end ParityState

end CipherPost.Live
