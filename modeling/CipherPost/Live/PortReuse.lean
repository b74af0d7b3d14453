import CipherPost.Live.StreamFold
import CipherPost.Parsing.SeqWrap

/-!
# port の使い回し

同じ端点の組で、TCP 接続が順に二つ以上開いて閉じる。`StreamAssembler` の stream は端点の組だけで引かれ、
完結しても忘れられないので、後の接続は前の stream に書き足される。

* `Flow`・`Connection` — 一方向に流れる bytes と、SYN から close までの一つの接続
* `Reuse` — 接続が順に現れる packet の列
* `OneEach` — 接続ごとに、その bytes を持つ session が一つずつ出ること
* `not_oneEach` — どの列でも成り立たない
-/

namespace CipherPost.Live

open Parsing

/-! ## 接続 -/

/-- 一方向に流れる bytes。sequence number は SYN の次から数える。 -/
structure Flow where
  isn : Nat
  data : Bytes

/-- packet は `data` の offset `off` からを運ぶ。 -/
structure Flow.Carries (f : Flow) (p : Packet) (off : Nat) : Prop where
  seq : p.seq = wireSeq f.isn off
  payload : p.payload <+: f.data.drop off

/--
端点の組 `k` の、一つの完結した接続。`flow d` は A の側（`d = true`）と B の側（`d = false`）の送る bytes で
ある。
-/
structure Connection (k : Key) where
  clientIsA : Bool
  flow : Bool → Flow
  packets : List Packet
  onKey : ∀ p ∈ packets, p.onKey k = true
  /-- 両側の SYN が、それぞれの ISN を運ぶ。 -/
  syn : ∀ d, ∃ p ∈ packets, p.sentBy k d = true ∧ p.syn = true ∧ p.seq = (flow d).isn
  /-- payload はその側の bytes の一部である。 -/
  slice : ∀ d, ∀ p ∈ packets, p.sentBy k d = true → p.payload ≠ [] →
    ∃ off, (flow d).Carries p off
  /-- どの byte も一度は運ばれる。 -/
  covers : ∀ d, ∀ i < (flow d).data.length, ∃ p ∈ packets, ∃ off, p.sentBy k d = true ∧
    (flow d).Carries p off ∧ off ≤ i ∧ i < off + p.payload.length
  /-- 接続は RST か、両側の FIN で閉じる。 -/
  closed : (∃ p ∈ packets, p.rst = true) ∨ ∀ d, ∃ p ∈ packets, p.sentBy k d = true ∧ p.fin = true

namespace Connection

variable {k : Key}

/-- client の bytes。 -/
def clientData (c : Connection k) : Bytes := (c.flow c.clientIsA).data

/-- server の bytes。 -/
def serverData (c : Connection k) : Bytes := (c.flow !c.clientIsA).data

/-- session は、ちょうどこの接続の bytes を分けたものである。 -/
def Yields (c : Connection k) (sess : Session) : Prop :=
  assignTlsSegments sess c.clientData c.serverData = sess

end Connection

/-! ## 順に現れる接続 -/

/-- まとめて出た session のうち、接続 `k` のもの。 -/
def sessionsOf (asm : StreamAssembler) (k : Key) : List Session :=
  asm.emit.filterMap fun o => if o.1 = k then some o.2 else none

theorem sessionsOf_eq (asm : StreamAssembler) (k : Key) :
    sessionsOf asm k = ((asm.streams.get? k).bind fun st =>
      if st.complete then st.session else none).toList := by
  unfold sessionsOf StreamAssembler.emit
  rw [← Dict.filterMap_key, List.filterMap_filterMap]
  refine List.filterMap_congr fun e _ => ?_
  cases e.2.complete <;> cases e.2.session <;> simp

/-- 一つの端点の組から出る session は、高々一つである。 -/
theorem length_sessionsOf_le (asm : StreamAssembler) (k : Key) :
    (sessionsOf asm k).length ≤ 1 := by
  rw [sessionsOf_eq]
  exact Option.length_toList_le

/-- 端点の組 `k` で、二つ以上の接続が順に現れる packet の列。他の端点の packet が混ざってもよい。 -/
structure Reuse where
  k : Key
  conns : List (Connection k)
  two : 2 ≤ conns.length
  trace : List Packet
  inOrder : trace.filter (Packet.onKey k) = conns.flatMap Connection.packets

namespace Reuse

/-- 接続ごとに、その bytes を持つ session が一つずつ、順に出る。 -/
def OneEach (r : Reuse) : Prop :=
  List.Forall₂ Connection.Yields r.conns (sessionsOf (feedTrace {} r.trace) r.k)

/-- **使い回された端点の session。** どの列でも、接続ごとに一つずつの session は出ない。 -/
theorem not_oneEach (r : Reuse) : ¬ r.OneEach := by
  intro h
  have hlen := h.length_eq
  have htwo := r.two
  have hone := length_sessionsOf_le (feedTrace {} r.trace) r.k
  omega

/-! ### 例 -/

/-- client が `isn` から `data` を送り、server が `QUIT` の返事をして閉じる接続。 -/
def shortPackets (isn : Nat) (data : Bytes) : List Packet :=
  [(ParityState.fromClient isn 0x02 1000000 []).toPacket,
    (ParityState.fromServer 900 0x12 1000001 []).toPacket,
    (ParityState.fromClient (isn + 1) 0x18 1000002 data).toPacket,
    (ParityState.fromServer 901 0x18 1000003 (ascii "221")).toPacket,
    (ParityState.fromClient (isn + 1 + data.length) 0x11 1000004 []).toPacket,
    (ParityState.fromServer 904 0x11 1000005 []).toPacket]

/-- その両側の bytes。 -/
def shortFlow (isn : Nat) (data : Bytes) (d : Bool) : Flow :=
  if d then ⟨isn, data⟩ else ⟨900, ascii "221"⟩

/-- client の packet は A の側から、server の packet は B の側から送られる。 -/
theorem sentBy_fromClient (seq flags ts : Nat) (data : Bytes) (d : Bool) :
    (ParityState.fromClient seq flags ts data).sentBy ParityState.clientKey d = d := by
  cases d <;> simp [Packet.sentBy, ParityState.fromClient, ParityState.clientKey]

theorem sentBy_fromServer (seq flags ts : Nat) (data : Bytes) (d : Bool) :
    (ParityState.fromServer seq flags ts data).sentBy ParityState.clientKey d = !d := by
  cases d <;> simp [Packet.sentBy, ParityState.fromServer, ParityState.fromClient,
    ParityState.clientKey]

theorem carries_client {isn : Nat} {data : Bytes} (h : isn + 1 < 2 ^ 32) :
    (shortFlow isn data true).Carries
      (ParityState.fromClient (isn + 1) 0x18 1000002 data).toPacket 0 where
  seq := by
    have hseq : wireSeq isn 0 = isn + 1 + 0 := wireSeq_of_lt h
    exact hseq.symm
  payload := List.prefix_refl _

theorem carries_server (isn : Nat) (data : Bytes) :
    (shortFlow isn data false).Carries
      (ParityState.fromServer 901 0x18 1000003 (ascii "221")).toPacket 0 where
  seq := by
    have hseq : wireSeq 900 0 = 900 + 1 + 0 := wireSeq_of_lt (by decide)
    exact hseq.symm
  payload := List.prefix_refl _

/-- 短い接続。 -/
def shortConnection (isn : Nat) (data : Bytes) (h : isn + 1 < 2 ^ 32) :
    Connection ParityState.clientKey where
  clientIsA := true
  flow := shortFlow isn data
  packets := shortPackets isn data
  onKey := by
    simp only [shortPackets, List.forall_mem_cons]
    exact ⟨rfl, rfl, rfl, rfl, rfl, rfl, fun _ h => absurd h List.not_mem_nil⟩
  syn d := by
    simp only [shortPackets, List.exists_mem_cons_iff, sentBy_fromClient, sentBy_fromServer]
    cases d
    · exact .inr (.inl ⟨rfl, by rfl, rfl⟩)
    · exact .inl ⟨rfl, by simp [Packet.syn, ParityState.fromClient], rfl⟩
  slice d := by
    simp only [shortPackets, List.forall_mem_cons, sentBy_fromClient, sentBy_fromServer]
    cases d
    · refine ⟨?_, ?_, ?_, fun _ _ => ⟨0, carries_server isn data⟩, ?_, fun _ h => absurd rfl h,
        fun _ h => absurd h List.not_mem_nil⟩
      · exact fun h => Bool.noConfusion h
      · exact fun _ h => absurd rfl h
      · exact fun h => Bool.noConfusion h
      · exact fun h => Bool.noConfusion h
    · refine ⟨fun _ h => absurd rfl h, ?_, fun _ _ => ⟨0, carries_client h⟩, ?_,
        fun _ h => absurd rfl h, ?_, fun _ h => absurd h List.not_mem_nil⟩
      · exact fun h => Bool.noConfusion h
      · exact fun h => Bool.noConfusion h
      · exact fun h => Bool.noConfusion h
  covers d i hi := by
    simp only [shortPackets, List.exists_mem_cons_iff, sentBy_fromClient, sentBy_fromServer]
    cases d
    · refine .inr (.inr (.inr (.inl ⟨0, rfl, carries_server isn data, Nat.zero_le _, ?_⟩)))
      exact (Nat.zero_add _).symm ▸ hi
    · refine .inr (.inr (.inl ⟨0, rfl, carries_client h, Nat.zero_le _, ?_⟩))
      exact (Nat.zero_add _).symm ▸ hi
  closed := by
    refine .inr fun d => ?_
    simp only [shortPackets, List.exists_mem_cons_iff, sentBy_fromClient, sentBy_fromServer]
    cases d
    · exact .inr (.inr (.inr (.inr (.inr (.inl ⟨rfl, by rfl⟩)))))
    · exact .inr (.inr (.inr (.inr (.inl ⟨rfl, by simp [Packet.fin, ParityState.fromClient]⟩))))

/-- 同じ port からの接続が、続けて二つ。 -/
def twice : Reuse where
  k := ParityState.clientKey
  conns := [shortConnection 100 (ascii "EHLO one") (by decide),
    shortConnection 5000 (ascii "EHLO two") (by decide)]
  two := Nat.le_refl _
  trace := shortPackets 100 (ascii "EHLO one") ++ shortPackets 5000 (ascii "EHLO two")
  inOrder := by
    rw [List.filter_eq_self.mpr]
    · rfl
    · refine List.forall_mem_append.mpr ⟨?_, ?_⟩
      · exact (shortConnection 100 (ascii "EHLO one") (by decide)).onKey
      · exact (shortConnection 5000 (ascii "EHLO two") (by decide)).onKey

/-- 二つ目の接続の session は出ない。 -/
theorem twice_loses_second : ¬ ∀ r : Reuse, r.OneEach := by
  intro h
  have hlen := (h twice).length_eq
  have hone := length_sessionsOf_le (feedTrace {} twice.trace) twice.k
  rw [← hlen] at hone
  exact absurd hone (by decide)

end Reuse

end CipherPost.Live
