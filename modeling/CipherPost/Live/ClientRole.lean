import CipherPost.Live.StreamFold

/-!
# client の側

`_resolve_client` は SYN を送った側を client とし、決まらなければ port と最初の payload の時刻で決める。
`feed` は SYN-ACK も SYN と数えるので、握手の揃った接続ではどちらの側も SYN を送ったことになる。

* `fallbackIsA` — SYN で決まらないときの規則
* `Handshake` — client の SYN と server の SYN-ACK を含む packet の列
* `Resolved` — client の側と、その bytes が正しく選ばれること
* `resolved_iff` — そのための、port と時刻と address についての条件
-/

namespace CipherPost.Live

open Parsing

/-- `_resolve_client` の、port と最初の payload の時刻の規則。 -/
def fallbackIsA (portA portB ta tb : Nat) : Bool :=
  let knownA := (PORT_TO_PROTO.lookup portA).isSome
  let knownB := (PORT_TO_PROTO.lookup portB).isSome
  if knownA && !knownB then false
  else if knownB && !knownA then true
  else if ta ≠ 0 ∧ (tb = 0 ∨ ta < tb) then true
  else if tb ≠ 0 ∧ (ta = 0 ∨ tb < ta) then false
  else true

/-- 両側が SYN を送ったことになれば、SYN では決まらない。 -/
theorem clientIsA_of_both {st : Stream} (ha : st.synByA = true) (hb : st.synByB = true) :
    st.clientIsA = fallbackIsA st.portA st.portB st.ha.firstTs st.hb.firstTs := by
  unfold Stream.clientIsA
  rw [ha, hb]
  rfl

/-- `flags & 0x10`。 -/
def hasAck (p : Packet) : Bool := decide (p.flags &&& 0x10 ≠ 0)

/-- 端点の組 `k` の接続の、client の SYN と server の SYN-ACK を含む packet の列。 -/
structure Handshake where
  k : Key
  clientIsA : Bool
  trace : List Packet
  clientSyn : ∃ p ∈ trace, p.onKey k = true ∧ p.sentBy k clientIsA = true ∧ p.syn = true ∧
    hasAck p = false
  serverSyn : ∃ p ∈ trace, p.onKey k = true ∧ p.sentBy k (!clientIsA) = true ∧ p.syn = true ∧
    hasAck p = true

namespace Handshake

/-- 接続の packet。 -/
def packets (h : Handshake) : List Packet := h.trace.filter (Packet.onKey h.k)

/-- 片側の packet。 -/
def packetsBy (h : Handshake) (fromA : Bool) : List Packet :=
  h.packets.filter fun p => p.sentBy h.k fromA

/-- 組み立てた stream。 -/
def stream? (h : Handshake) : Option Stream := (feedTrace {} h.trace).streams.get? h.k

/-- 端点の一方。 -/
def endpoint (h : Handshake) (isA : Bool) : Addr × Nat :=
  if isA then (h.k.ipA, h.k.pA) else (h.k.ipB, h.k.pB)

/-- `_resolve_client` は SYN を送った端点を返し、client の bytes はその端点の送ったものである。 -/
structure RolesRight (h : Handshake) (st : Stream) : Prop where
  client : (if st.clientIsA then (st.ipA, st.portA) else (st.ipB, st.portB)) =
    h.endpoint h.clientIsA
  bytes : st.clientBytes = assembled (h.packetsBy h.clientIsA)

def Resolved (h : Handshake) : Prop := ∃ st, h.stream? = some st ∧ h.RolesRight st

/-- 両端が同じ端点である。 -/
def SelfTalk (h : Handshake) : Prop := h.k.ipB = h.k.ipA ∧ h.k.pB = h.k.pA

instance (h : Handshake) : Decidable h.SelfTalk := by
  unfold SelfTalk
  infer_instance

/--
client が正しく選ばれる列。文字列の address では、port と最初の payload の時刻が client を指す。生の bytes の
address ではどの packet も B の側に入るので、client は B であり、server の packet が bytes を変えない。
-/
def Decided (h : Handshake) : Prop :=
  match h.k.ipA with
  | .str _ => h.SelfTalk ∨
      fallbackIsA h.k.pA h.k.pB (firstTalk (h.packetsBy true)) (firstTalk (h.packetsBy false)) =
        h.clientIsA
  | .bytes _ =>
    if h.SelfTalk then assembled h.packets = []
    else h.clientIsA = false ∧ assembled h.packets = assembled (h.packetsBy false)

variable {h : Handshake}

/-! ## 送った側 -/

theorem onKey_of_mem {p : Packet} (hp : p ∈ h.packets) : p.onKey h.k = true :=
  (List.mem_filter.mp hp).2

/-- 両端が同じなら、どの packet もどちらの側から送られたものでもある。 -/
theorem packetsBy_of_selfTalk (hself : h.SelfTalk) (d : Bool) : h.packetsBy d = h.packets := by
  refine List.filter_eq_self.mpr fun p hp => ?_
  obtain ⟨hip, hport⟩ := hself
  rcases Packet.sentBy_of_onKey (onKey_of_mem hp) with hsent | hsent <;>
    rw [Packet.sentBy_iff] at hsent ⊢ <;> cases d <;> simp_all

/-- 両端が異なれば、A の側から送られたものでないものは B の側からのものである。 -/
theorem sentBy_false (hself : ¬ h.SelfTalk) {p : Packet} (hp : p ∈ h.packets) :
    p.sentBy h.k false = !p.sentBy h.k true := by
  have hside := Packet.sentBy_of_onKey (onKey_of_mem hp)
  cases hA : p.sentBy h.k true with
  | false => simpa [hA] using hside
  | true =>
    rw [Bool.not_true, Bool.eq_false_iff]
    intro hB
    rw [Packet.sentBy_iff] at hA hB
    exact hself ⟨hB.1.symm.trans hA.1, hB.2.symm.trans hA.2⟩

/-! ## 組み立てた stream -/

/-- 組み立てた stream の、役割を決める値。 -/
structure Built (h : Handshake) (st : Stream) : Prop where
  ends : st.ipA = h.k.ipA ∧ st.portA = h.k.pA ∧ st.ipB = h.k.ipB ∧ st.portB = h.k.pB
  synByA : st.synByA = h.packets.any fun p => p.syn && p.dirA h.k
  synByB : st.synByB = h.packets.any fun p => p.syn && !p.dirA h.k
  half : ∀ d, st.half d =
    (h.packets.filter fun p => decide (p.dirA h.k = d)).foldl HalfStream.receive {}

theorem exists_built (h : Handshake) : ∃ st, h.stream? = some st ∧ h.Built st := by
  have hstream : h.stream? = streamOfTrace h.k h.packets := get?_feedTrace h.k h.trace {} rfl
  obtain ⟨syn, hmem, hkey, -⟩ := h.clientSyn
  have hsyn : syn ∈ h.packets := List.mem_filter.mpr ⟨hmem, hkey⟩
  rw [hstream]
  cases hpackets : h.packets with
  | nil => exact absurd (hpackets ▸ hsyn) List.not_mem_nil
  | cons p ps =>
    refine ⟨_, rfl, ?_⟩
    obtain ⟨hA, hB⟩ := Stream.syn_foldl_feed h.k (p :: ps)
      (ParityState.streamAt Dict.empty h.k p.ts)
    refine ⟨Stream.ends_foldl_feed h.k (p :: ps) _, ?_, ?_, fun d => ?_⟩
    · rw [hA, hpackets]
      exact Bool.or_false _
    · rw [hB, hpackets]
      exact Bool.or_false _
    · rw [Stream.half_foldl_feed, hpackets]
      cases d <;> rfl

/-- 片側の最初の payload の時刻。 -/
theorem Built.firstTs {st : Stream} (hb : h.Built st) (d : Bool) : (st.half d).firstTs =
    firstTalk (h.packets.filter fun p => decide (p.dirA h.k = d)) := by
  rw [hb.half, firstTs_foldl_receive]
  rfl

theorem Built.buf {st : Stream} (hb : h.Built st) (d : Bool) : (st.half d).buf =
    assembled (h.packets.filter fun p => decide (p.dirA h.k = d)) := by
  rw [hb.half]
  rfl

/-- 端点が異なれば、選ばれた端点は選ばれた側で決まる。 -/
theorem Built.client_iff {st : Stream} (hb : h.Built st) (hself : ¬ h.SelfTalk) :
    (if st.clientIsA then (st.ipA, st.portA) else (st.ipB, st.portB)) = h.endpoint h.clientIsA ↔
      st.clientIsA = h.clientIsA := by
  obtain ⟨hipA, hportA, hipB, hportB⟩ := hb.ends
  unfold endpoint
  rw [hipA, hportA, hipB, hportB]
  have hne : (h.k.ipA, h.k.pA) ≠ (h.k.ipB, h.k.pB) := fun heq =>
    hself ⟨(congrArg Prod.fst heq).symm, (congrArg Prod.snd heq).symm⟩
  cases st.clientIsA <;> cases h.clientIsA <;> simp_all [Ne.symm hne]

/-- 端点が異なれば、session の client は選ばれた側である。 -/
theorem Built.clientA {st : Stream} (hb : h.Built st) (hself : ¬ h.SelfTalk) :
    st.clientA = st.clientIsA := by
  obtain ⟨hipA, hportA, hipB, hportB⟩ := hb.ends
  unfold Stream.clientA
  rw [hipA, hportA, hipB, hportB]
  unfold SelfTalk at hself
  rw [← Bool.decide_and, decide_eq_false hself, Bool.or_false]

/-- 両端が同じなら、選ばれる端点はいつも正しく、session の client は A の側である。 -/
theorem Built.of_selfTalk {st : Stream} (hb : h.Built st) (hself : h.SelfTalk) :
    (if st.clientIsA then (st.ipA, st.portA) else (st.ipB, st.portB)) = h.endpoint h.clientIsA ∧
      st.clientA = true := by
  obtain ⟨hipA, hportA, hipB, hportB⟩ := hb.ends
  obtain ⟨hip, hport⟩ := hself
  refine ⟨?_, ?_⟩
  · unfold endpoint
    rw [hipA, hportA, hipB, hportB, hip, hport]
    simp
  · unfold Stream.clientA
    rw [hipA, hportA, hipB, hportB, hip, hport]
    simp

/-! ## address の種類ごとに -/

/-- 文字列の address では、`dir_a` は送った側を表す。 -/
theorem dirA_eq_iff {s : String} (hs : h.k.ipA = .str s) (hself : ¬ h.SelfTalk) {p : Packet}
    (hp : p ∈ h.packets) (d : Bool) : p.dirA h.k = d ↔ p.sentBy h.k d = true := by
  rw [Packet.dirA_of_str (onKey_of_mem hp) hs]
  cases d with
  | true => exact Iff.rfl
  | false => simp [sentBy_false hself hp]

/-- 文字列の address では、どの packet も送った側の stream に入る。 -/
theorem filter_dirA_of_str {s : String} (hs : h.k.ipA = .str s) (hself : ¬ h.SelfTalk) (d : Bool) :
    (h.packets.filter fun p => decide (p.dirA h.k = d)) = h.packetsBy d := by
  refine List.filter_congr fun p hp => ?_
  simp [dirA_eq_iff hs hself hp]

/-- 両側の SYN が届いている。 -/
theorem exists_syn (h : Handshake) (d : Bool) :
    ∃ p ∈ h.packets, p.syn = true ∧ p.sentBy h.k d = true := by
  obtain ⟨p, hp, hkey, hsent, hsyn, -⟩ := h.clientSyn
  obtain ⟨q, hq, hkey', hsent', hsyn', -⟩ := h.serverSyn
  by_cases hd : d = h.clientIsA
  · exact ⟨p, List.mem_filter.mpr ⟨hp, hkey⟩, hsyn, hd ▸ hsent⟩
  · exact ⟨q, List.mem_filter.mpr ⟨hq, hkey'⟩, hsyn', Bool.eq_not.mpr hd ▸ hsent'⟩

/-- 両側の SYN が、それぞれの側に記録される。 -/
theorem Built.syn_of_str {st : Stream} (hb : h.Built st) {s : String} (hs : h.k.ipA = .str s)
    (hself : ¬ h.SelfTalk) : st.synByA = true ∧ st.synByB = true := by
  rw [hb.synByA, hb.synByB, List.any_eq_true, List.any_eq_true]
  obtain ⟨p, hp, hsyn, hsent⟩ := h.exists_syn true
  obtain ⟨q, hq, hsyn', hsent'⟩ := h.exists_syn false
  have hdir := (dirA_eq_iff hs hself hp true).mpr hsent
  have hdir' := (dirA_eq_iff hs hself hq false).mpr hsent'
  exact ⟨⟨p, hp, by simp [hsyn, hdir]⟩, ⟨q, hq, by simp [hsyn', hdir']⟩⟩

/-- 文字列の address で端点が異なれば、client は port と最初の payload の時刻で決まる。 -/
theorem Built.rolesRight_of_str {st : Stream} (hb : h.Built st) {s : String}
    (hs : h.k.ipA = .str s) (hself : ¬ h.SelfTalk) : h.RolesRight st ↔
      fallbackIsA h.k.pA h.k.pB (firstTalk (h.packetsBy true)) (firstTalk (h.packetsBy false)) =
        h.clientIsA := by
  obtain ⟨hA, hB⟩ := hb.syn_of_str hs hself
  have hfallback : st.clientIsA = fallbackIsA h.k.pA h.k.pB (firstTalk (h.packetsBy true))
      (firstTalk (h.packetsBy false)) := by
    have htrue := hb.firstTs true
    have hfalse := hb.firstTs false
    rw [filter_dirA_of_str hs hself] at htrue hfalse
    rw [clientIsA_of_both hA hB, hb.ends.2.1, hb.ends.2.2.2, ← htrue, ← hfalse]
    rfl
  rw [← hfallback, ← hb.client_iff hself]
  refine ⟨fun hright => hright.client, fun hclient => ⟨hclient, ?_⟩⟩
  unfold Stream.clientBytes
  rw [hb.clientA hself, (hb.client_iff hself).mp hclient, hb.buf, filter_dirA_of_str hs hself]

/-- 文字列の address で両端が同じなら、どの packet も A の側に入る。 -/
theorem Built.rolesRight_of_self {st : Stream} (hb : h.Built st) {s : String}
    (hs : h.k.ipA = .str s) (hself : h.SelfTalk) : h.RolesRight st := by
  obtain ⟨hclient, hA⟩ := hb.of_selfTalk hself
  refine ⟨hclient, ?_⟩
  unfold Stream.clientBytes
  rw [hA, hb.buf, packetsBy_of_selfTalk hself, List.filter_eq_self.mpr]
  intro p hp
  have hmem : p ∈ h.packetsBy true := (packetsBy_of_selfTalk hself true).symm ▸ hp
  rw [decide_eq_true_eq, Packet.dirA_of_str (onKey_of_mem hp) hs]
  exact (List.mem_filter.mp hmem).2

/-- 生の bytes の address では、A の側の stream は空で、B の側の stream がどの packet も受け取る。 -/
theorem Built.of_bytes {st : Stream} (hb : h.Built st) {b : Bytes} (hk : h.k.ipA = .bytes b) :
    st.clientIsA = false ∧ (st.half true).buf = [] ∧
      (st.half false).buf = assembled h.packets := by
  have hdir : ∀ p : Packet, p.dirA h.k = false := fun p => Packet.dirA_of_bytes hk
  obtain ⟨p, hp, hsyn, -⟩ := h.exists_syn false
  have hB : st.synByB = true := by
    rw [hb.synByB, List.any_eq_true]
    exact ⟨p, hp, by simp [hsyn, hdir]⟩
  have hA : st.synByA = false := by
    rw [hb.synByA]
    simp [hdir]
  refine ⟨?_, ?_, ?_⟩
  · unfold Stream.clientIsA
    rw [hA, hB]
    rfl
  · rw [hb.buf]
    simp [hdir, assembled]
  · rw [hb.buf]
    simp [hdir]

/-- 生の bytes の address で端点が異なれば、client は B の側とされる。 -/
theorem Built.rolesRight_of_bytes {st : Stream} (hb : h.Built st) {b : Bytes}
    (hk : h.k.ipA = .bytes b) (hself : ¬ h.SelfTalk) : h.RolesRight st ↔
      h.clientIsA = false ∧ assembled h.packets = assembled (h.packetsBy false) := by
  obtain ⟨hclient, -, hbuf⟩ := hb.of_bytes hk
  have hbytes : st.clientBytes = assembled h.packets := by
    unfold Stream.clientBytes
    rw [hb.clientA hself, hclient, hbuf]
  constructor
  · intro hright
    have hside := (hb.client_iff hself).mp hright.client
    rw [hclient] at hside
    have hright := hright.bytes
    rw [hbytes, ← hside] at hright
    exact ⟨hside.symm, hright⟩
  · rintro ⟨hside, hsame⟩
    refine ⟨(hb.client_iff hself).mpr (hclient.trans hside.symm), ?_⟩
    rw [hbytes, hside, hsame]

/-- 生の bytes の address で両端が同じなら、client の bytes は空である。 -/
theorem Built.rolesRight_of_bytes_self {st : Stream} (hb : h.Built st) {b : Bytes}
    (hk : h.k.ipA = .bytes b) (hself : h.SelfTalk) :
    h.RolesRight st ↔ assembled h.packets = [] := by
  obtain ⟨hclient, hA⟩ := hb.of_selfTalk hself
  obtain ⟨-, hbuf, -⟩ := hb.of_bytes hk
  have hbytes : st.clientBytes = [] := by
    unfold Stream.clientBytes
    rw [hA, hbuf]
  constructor
  · intro hright
    have hright := hright.bytes
    rw [hbytes, packetsBy_of_selfTalk hself] at hright
    exact hright.symm
  · intro hnil
    refine ⟨hclient, ?_⟩
    rw [hbytes, packetsBy_of_selfTalk hself, hnil]

theorem Built.rolesRight_iff {st : Stream} (hb : h.Built st) : h.RolesRight st ↔ h.Decided := by
  unfold Decided
  cases hk : h.k.ipA with
  | str s =>
    by_cases hself : h.SelfTalk
    · exact iff_of_true (hb.rolesRight_of_self hk hself) (.inl hself)
    · exact (hb.rolesRight_of_str hk hself).trans (or_iff_right hself).symm
  | bytes b =>
    by_cases hself : h.SelfTalk
    · simp only [if_pos hself]
      exact hb.rolesRight_of_bytes_self hk hself
    · simp only [if_neg hself]
      exact hb.rolesRight_of_bytes hk hself

/--
**client の側。** 握手の揃ったどの列でも、`_resolve_client` が SYN を送った端点を返し、client の bytes が
その端点の送ったものになるのは、`Decided` のとき、かつそのときに限る。
-/
theorem resolved_iff (h : Handshake) : h.Resolved ↔ h.Decided := by
  obtain ⟨st, hst, hb⟩ := h.exists_built
  refine ⟨?_, fun hdecided => ⟨st, hst, hb.rolesRight_iff.mpr hdecided⟩⟩
  rintro ⟨st', hst', hright⟩
  obtain rfl : st = st' := Option.some.inj (hst.symm.trans hst')
  exact hb.rolesRight_iff.mp hright

/-- mail の port でない server が、先に banner を送る接続。 -/
def bannerFirst : Handshake where
  k := ⟨.str "10.0.0.1", 40000, .str "10.0.0.2", 2525⟩
  clientIsA := true
  trace :=
    let client := fun flags ts payload => { (ParityState.fromClient 100 flags ts payload).toPacket with
      dport := 2525 }
    let server := fun flags ts payload => { (ParityState.fromServer 900 flags ts payload).toPacket with
      sport := 2525 }
    [client 0x02 1000000 [], server 0x12 1000001 [], server 0x18 1000002 (ascii "220 mx ESMTP"),
      client 0x18 1000003 (ascii "EHLO a")]
  clientSyn := ⟨_, List.mem_cons_self, by decide⟩
  serverSyn := ⟨_, List.mem_cons_of_mem _ List.mem_cons_self, by decide⟩

/-- SYN を送った client ではなく、先に話した server が client とされる。 -/
theorem bannerFirst_swaps : ¬ ∀ h : Handshake, h.Resolved := by
  intro hall
  obtain ⟨st, hst, hright⟩ := hall bannerFirst
  have hserver : bannerFirst.stream?.map (fun st => (st.clientIsA, st.ipB)) =
      some (false, .str "10.0.0.2") := by decide +kernel
  rw [hst, Option.map_some, Option.some.injEq, Prod.mk.injEq] at hserver
  have hclient := hright.client
  rw [hserver.1, hserver.2] at hclient
  have hip : Addr.str "10.0.0.2" = .str "10.0.0.1" := congrArg Prod.fst hclient
  exact absurd hip (by decide)

end Handshake

end CipherPost.Live
