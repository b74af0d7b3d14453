import CipherPost.Agent.Replay
import CipherPost.Live.StreamFold

/-!
# 送った側の half stream

`packet_from_dpkt` の読んだ frame を順に `feed` する。IPv4 の address は文字列に、IPv6 の address は生の
bytes のまま渡り、`feed` は文字列にした `src` と key を比べるので、IPv6 の packet はどれも B の側に入る。

* `framePackets`・`feedFrame` — frame の列の packet と、frame 一つの一歩
* `Filed` — payload は、送った側の half stream だけに入る
* `HoldsOwn` — どの half stream も、その側の送った payload だけから組み立てられている
* `sorted_iff` — どの列でもそうなるための、IPv6 の frame についての条件
-/

namespace CipherPost.Agent

open Parsing Live

/-- frame の列の、`feed` に渡る packet。 -/
def framePackets (frames : List Frame) : List Packet :=
  frames.filterMap fun f => (packetFromDpkt f).map (·.toPacket)

/-- frame 一つ。 -/
def feedFrame (asm : StreamAssembler) (f : Frame) : StreamAssembler :=
  match packetFromDpkt f with
  | none => asm
  | some p => (asm.feed p.toPacket).getD asm

/-- frame の列の再構成は、その packet の列の再構成である。 -/
theorem exec_feedFrame : ∀ (frames : List Frame) (asm : StreamAssembler),
    Run.exec feedFrame asm frames = feedTrace asm (framePackets frames) := by
  intro frames
  induction frames with
  | nil => exact fun asm => rfl
  | cons f frames ih =>
    intro asm
    rw [Run.exec_cons, ih]
    unfold feedFrame framePackets
    cases hf : packetFromDpkt f with
    | none => rw [List.filterMap_cons_none (by rw [hf]; rfl)]
    | some p =>
      rw [List.filterMap_cons_some (b := p.toPacket) (by rw [hf]; rfl)]
      rfl

/-! ## 性質 -/

/-- payload は、送った側の half stream に入り、逆の側は変わらない。 -/
def Filed (asm : StreamAssembler) (f : Frame) : Prop :=
  ∀ p, packetFromDpkt f = some p → p.payload ≠ [] → ∃ k d st, p.toPacket.onKey k = true ∧
    p.toPacket.sentBy k d = true ∧ (feedFrame asm f).streams.get? k = some st ∧
    st.half d = ((ParityState.streamAt asm.streams k p.ts).half d).receive p.toPacket ∧
    st.half (!d) = (ParityState.streamAt asm.streams k p.ts).half !d

/-- どの half stream も、その側の送った payload だけから組み立てられている。 -/
def HoldsOwn (frames : List Frame) : Prop :=
  ∀ k st, (Run.exec feedFrame {} frames).streams.get? k = some st → ∀ d,
    ∃ l : List Packet, l.Sublist (framePackets frames) ∧
      (∀ p ∈ l, p.payload ≠ [] → p.sentBy k d = true) ∧ st.half d = l.foldl HalfStream.receive {}

/-- どの payload も送った側に入り、どの half stream もその側のものだけを持つ。 -/
structure Sorted (frames : List Frame) : Prop where
  filed : ∀ pre f, pre ++ [f] <+: frames → Filed (Run.exec feedFrame {} pre) f
  own : HoldsOwn frames

/-- payload のある IPv6 の segment が、A の側から送られている。 -/
def rawFromA (f : Frame) : Prop :=
  match f.net with
  | some (.ipv6 src dst proto (some tcp)) =>
    proto = IP_PROTO_TCP ∧ tcp.payload ≠ [] ∧ (src < dst ∨ src = dst ∧ tcp.sport < tcp.dport)
  | _ => False

/-! ## frame の packet -/

/-- frame の packet の address は、IPv4 なら文字列、IPv6 なら生の bytes である。 -/
theorem packetFromDpkt_cases {f : Frame} {p : LivePacket} (h : packetFromDpkt f = some p) :
    (∃ s t, p.src = .str s ∧ p.dst = .str t) ∨
    ∃ src dst tcp, f.net = some (.ipv6 src dst IP_PROTO_TCP (some tcp)) ∧
      p.toPacket = tcp.packet (.bytes src) (.bytes dst) f.ts := by
  unfold packetFromDpkt at h
  split at h
  · split at h
    · obtain rfl := Option.some.inj h
      exact .inl ⟨_, _, rfl, rfl⟩
    · cases h
  · next src dst proto tcp hnet =>
    split at h
    · next hproto =>
      obtain rfl := Option.some.inj h
      exact .inr ⟨src, dst, tcp, hproto ▸ hnet, rfl⟩
    · cases h
  · cases h

/-- 生の bytes の端点の組は、辞書式の順に並べたものである。 -/
theorem key_bytes (x y : Bytes) (p q : Nat) : key (.bytes x) p (.bytes y) q =
    some (if x < y ∨ x = y ∧ p ≤ q then ⟨.bytes x, p, .bytes y, q⟩ else ⟨.bytes y, q, .bytes x, p⟩) := by
  unfold key
  by_cases heq : x = y
  · subst heq
    rw [if_pos rfl]
    by_cases hle : p ≤ q <;> simp [hle]
  · by_cases hlt : x < y <;> simp [heq, hlt, Addr.lt?]

/-- frame の packet には端点の組がある。 -/
theorem exists_onKey {f : Frame} {p : LivePacket} (h : packetFromDpkt f = some p) :
    ∃ k, p.toPacket.onKey k = true := by
  have hkey : ∃ k, key p.src p.sport p.dst p.dport = some k := by
    obtain ⟨s, t, hs, ht⟩ | ⟨src, dst, tcp, -, hp⟩ := packetFromDpkt_cases h
    · rw [hs, ht]
      unfold key
      split
      · split <;> exact ⟨_, rfl⟩
      · rw [show Addr.lt? (.str s) (.str t) = some (decide (s < t)) from rfl]
        cases decide (s < t) <;> exact ⟨_, rfl⟩
    · rw [hp]
      exact ⟨_, key_bytes src dst tcp.sport tcp.dport⟩
  exact hkey.imp fun k hk => decide_eq_true hk

/-- A の側からの IPv6 の payload でなければ、packet は送った側の half stream に入る。 -/
theorem sentBy_dirA {f : Frame} {p : LivePacket} (h : packetFromDpkt f = some p)
    (hpayload : p.payload ≠ []) (hraw : ¬ rawFromA f) {k : Key} (hk : p.toPacket.onKey k = true) :
    p.toPacket.sentBy k (p.toPacket.dirA k) = true := by
  have hside := Packet.sentBy_of_onKey hk
  have hkey : key p.src p.sport p.dst p.dport = some k := of_decide_eq_true hk
  obtain ⟨s, t, hs, ht⟩ | ⟨src, dst, tcp, hnet, hp⟩ := packetFromDpkt_cases h
  · obtain ⟨u, hu⟩ : ∃ u, k.ipA = .str u := by
      rcases key_eq_some hkey with rfl | rfl
      · exact ⟨s, hs⟩
      · exact ⟨t, ht⟩
    rw [Packet.dirA_of_str hk hu]
    cases hA : p.toPacket.sentBy k true with
    | true => exact hA
    | false => simpa [hA] using hside
  · have hdir : p.toPacket.dirA k = false := by
      rcases key_eq_some hkey with rfl | rfl
      · exact Packet.dirA_of_bytes (b := src) (by rw [hp]; rfl)
      · exact Packet.dirA_of_bytes (b := dst) (by rw [hp]; rfl)
    rw [hdir, Packet.sentBy_iff]
    rw [hp] at hkey hpayload ⊢
    -- 送った側は、並べて後になる端点である
    have hlater : ¬ (src < dst ∨ src = dst ∧ tcp.sport < tcp.dport) := by
      intro hlt
      refine hraw ?_
      unfold rawFromA
      rw [hnet]
      exact ⟨rfl, hpayload, hlt⟩
    have hkey : key (.bytes src) tcp.sport (.bytes dst) tcp.dport = some k := hkey
    rw [key_bytes] at hkey
    split at hkey
    · next hle =>
      obtain rfl := Option.some.inj hkey
      rcases hle with hlt | ⟨rfl, hle⟩
      · exact absurd (.inl hlt) hlater
      · refine ⟨rfl, Nat.le_antisymm hle (Nat.le_of_not_lt fun hlt => hlater (.inr ⟨rfl, hlt⟩))⟩
    · obtain rfl := Option.some.inj hkey
      exact ⟨rfl, rfl⟩

/-! ## 一歩 -/

/-- 端点の組の stream は、frame の packet を `feed` したものになる。 -/
theorem get?_feedFrame {asm : StreamAssembler} {f : Frame} {p : LivePacket}
    (h : packetFromDpkt f = some p) {k : Key} (hk : p.toPacket.onKey k = true) :
    (feedFrame asm f).streams.get? k =
      some ((ParityState.streamAt asm.streams k p.ts).feed k p.toPacket) := by
  unfold feedFrame
  rw [h]
  exact get?_feed_of_onKey asm hk

/-- **frame の一歩。** -/
theorem filed_of_not_rawFromA {asm : StreamAssembler} {f : Frame} (h : ¬ rawFromA f) :
    Filed asm f := by
  intro p hp hpayload
  obtain ⟨k, hk⟩ := exists_onKey hp
  refine ⟨k, p.toPacket.dirA k, _, hk, sentBy_dirA hp hpayload h hk, get?_feedFrame hp hk, ?_, ?_⟩
  · exact Stream.half_feed _ _ _
  · exact Stream.half_feed_of_ne _ _ _ (by simp)

/-- 生の bytes の端点の組では、A の側の half stream はいつも空である。 -/
theorem half_true_of_bytes (ps : List Packet) {k : Key} {b : Bytes} (hk : k.ipA = .bytes b)
    {st : Stream} (hst : (feedTrace {} ps).streams.get? k = some st) : st.half true = {} := by
  rw [get?_feedTrace k ps {} rfl] at hst
  cases hps : ps.filter (Packet.onKey k) with
  | nil =>
    rw [hps] at hst
    cases hst
  | cons p rest =>
    rw [hps] at hst
    obtain rfl := Option.some.inj hst
    rw [Stream.half_foldl_feed, List.filter_eq_nil_iff.mpr]
    · rfl
    · intro q _
      rw [Packet.dirA_of_bytes hk]
      simp

/-- frame の列の後も、生の bytes の端点の組では、A の側の half stream は空である。 -/
theorem half_streamAt_of_bytes (pre : List Frame) {k : Key} {b : Bytes} (hk : k.ipA = .bytes b)
    (ts : Nat) :
    (ParityState.streamAt (Run.exec feedFrame {} pre).streams k ts).half true = {} := by
  rw [exec_feedFrame]
  unfold ParityState.streamAt
  cases hst : (feedTrace {} (framePackets pre)).streams.get? k with
  | none => rfl
  | some st => exact half_true_of_bytes _ hk hst

/-- A の側からの IPv6 の payload の端点の組は生の bytes であり、B の側が送ったものではない。 -/
theorem sender_of_rawFromA {f : Frame} (h : rawFromA f) :
    ∃ p, packetFromDpkt f = some p ∧ p.payload ≠ [] ∧ ∀ k, p.toPacket.onKey k = true →
      (∃ b, k.ipA = .bytes b) ∧ p.toPacket.sentBy k false = false := by
  unfold rawFromA at h
  split at h
  next src dst proto tcp hnet =>
    obtain ⟨rfl, hpayload, hlt⟩ := h
    have hp : packetFromDpkt f =
        some { toPacket := tcp.packet (.bytes src) (.bytes dst) f.ts } := by
      unfold packetFromDpkt
      rw [hnet]
      rfl
    refine ⟨_, hp, hpayload, fun k hk => ?_⟩
    have hkey : key (.bytes src) tcp.sport (.bytes dst) tcp.dport = some k := of_decide_eq_true hk
    rw [key_bytes, if_pos (hlt.imp_right fun h => ⟨h.1, Nat.le_of_lt h.2⟩)] at hkey
    obtain rfl := Option.some.inj hkey
    refine ⟨⟨src, rfl⟩, Bool.eq_false_iff.mpr fun hsent => ?_⟩
    obtain ⟨hip, hport⟩ := Packet.sentBy_iff.mp hsent
    have hip : src = dst := Addr.bytes.inj hip
    have hport : tcp.sport = tcp.dport := hport
    rcases hlt with hlt | ⟨-, hlt⟩
    · exact absurd (hip ▸ hlt) (List.lt_irrefl _)
    · omega
  · exact h.elim

/-- A の側からの IPv6 の payload は、送った側に入らない。 -/
theorem not_filed_of_rawFromA (pre : List Frame) {f : Frame} (h : rawFromA f) :
    ¬ Filed (Run.exec feedFrame {} pre) f := by
  intro hfiled
  obtain ⟨p, hp, hpayload, hsender⟩ := sender_of_rawFromA h
  obtain ⟨k, d, st, hk, hsent, hst, hhalf, -⟩ := hfiled p hp hpayload
  obtain ⟨⟨b, hb⟩, hnot⟩ := hsender k hk
  cases d with
  | false =>
    rw [hnot] at hsent
    cases hsent
  | true =>
    -- A の側の half stream は、payload の前も後も空である
    rw [get?_feedFrame hp hk] at hst
    obtain rfl := Option.some.inj hst
    have hother : true ≠ p.toPacket.dirA k := by
      rw [Packet.dirA_of_bytes hb]
      decide
    rw [Stream.half_feed_of_ne _ _ _ hother, half_streamAt_of_bytes pre hb] at hhalf
    have hfrontier := congrArg (fun hs => hs.frontier.isSome) hhalf
    simp only [HalfStream.receive_frontier] at hfrontier
    exact hpayload (by simpa using hfrontier)

/-! ## 列 -/

/-- どの half stream も、その方向の packet だけから組み立てられている。 -/
theorem holdsOwn_of_not_rawFromA {frames : List Frame} (h : ∀ f ∈ frames, ¬ rawFromA f) :
    HoldsOwn frames := by
  intro k st hst d
  rw [exec_feedFrame, get?_feedTrace k _ {} rfl] at hst
  refine ⟨((framePackets frames).filter (Packet.onKey k)).filter fun p => decide (p.dirA k = d),
    List.filter_sublist.trans List.filter_sublist, fun p hp hpayload => ?_, ?_⟩
  · obtain ⟨hmem, hdir⟩ := List.mem_filter.mp hp
    obtain ⟨hmem, hk⟩ := List.mem_filter.mp hmem
    obtain ⟨f, hf, hfp⟩ := List.mem_filterMap.mp hmem
    obtain ⟨q, hq, rfl⟩ := Option.map_eq_some_iff.mp hfp
    rw [← of_decide_eq_true hdir]
    exact sentBy_dirA hq hpayload (h f hf) hk
  · cases hps : (framePackets frames).filter (Packet.onKey k) with
    | nil =>
      rw [hps] at hst
      cases hst
    | cons p ps =>
      rw [hps] at hst
      obtain rfl := Option.some.inj hst
      rw [Stream.half_foldl_feed]
      cases d <;> rfl

/--
**送った側の half stream。** どの frame の列でも、payload がいつも送った側の half stream に入るのは、payload の
ある IPv6 の segment がどれも B の側から送られているとき、かつそのときに限る。
-/
theorem sorted_iff (frames : List Frame) : Sorted frames ↔ ∀ f ∈ frames, ¬ rawFromA f := by
  constructor
  · intro h f hf hraw
    obtain ⟨pre, post, rfl⟩ := List.append_of_mem hf
    refine not_filed_of_rawFromA pre hraw (h.filed pre f ?_)
    exact ⟨post, by simp⟩
  · intro h
    refine ⟨fun pre f hpre => filed_of_not_rawFromA (h f ?_), holdsOwn_of_not_rawFromA h⟩
    exact hpre.subset (List.mem_append_right _ List.mem_cons_self)

/-- IPv6 の接続の、A の側からの payload。 -/
def rawFrame : Frame where
  ts := 1000000
  net := some (.ipv6 (List.replicate 15 0 ++ [1]) (List.replicate 15 0 ++ [2]) IP_PROTO_TCP
    (some ⟨40000, 25, 100, 0, 0x18, ascii "EHLO a"⟩))

/-- その payload は B の側の half stream に入る。 -/
theorem raw_payload_misfiled : ¬ ∀ frames : List Frame, Sorted frames := by
  intro h
  have hraw : rawFromA rawFrame := ⟨rfl, by decide, .inl (by decide)⟩
  exact not_filed_of_rawFromA [] hraw ((h [rawFrame]).filed [] rawFrame (List.prefix_refl _))

end CipherPost.Agent
