import CipherPost.Live.BatchParity

/-!
# 接続ごとの組み立て

`StreamAssembler` の一本の stream は、その端点の組の packet だけで決まる。

* `Packet.onKey`・`Packet.sentBy` — packet の端点の組と、送った側
* `streamOfTrace` — 一つの端点の組の packet だけから組み立てた stream
* `get?_feedTrace` — packet の列の後の stream
* `half_foldl_feed`・`syn_foldl_feed` — その一方向の stream と、SYN の記録
* `dirA_of_str`・`dirA_of_bytes` — `dir_a` が送った側を表すのは、address が文字列のときである
-/

namespace CipherPost.Parsing

/-! ## 送った側 -/

namespace Packet

/-- packet の端点の組。 -/
def onKey (k : Key) (p : Packet) : Bool := decide (key p.src p.sport p.dst p.dport = some k)

/-- packet は、端点の組 `k` の A の側（`fromA`）か B の側から送られた。 -/
def sentBy (p : Packet) (k : Key) (fromA : Bool) : Bool :=
  if fromA then decide (p.src = k.ipA) && decide (p.sport = k.pA)
  else decide (p.src = k.ipB) && decide (p.sport = k.pB)

end Packet

/-- `key` は二つの端点を並べたものである。 -/
theorem key_eq_some {a b : Addr} {p q : Nat} {k : Key} (h : key a p b q = some k) :
    k = ⟨a, p, b, q⟩ ∨ k = ⟨b, q, a, p⟩ := by
  unfold key at h
  split at h
  · next hsame =>
    split at h
    · exact .inl (Option.some.inj h).symm
    · exact .inr (hsame ▸ (Option.some.inj h).symm)
  · split at h
    · cases h
    · exact .inl (Option.some.inj h).symm
    · exact .inr (Option.some.inj h).symm

/-- 端点の address は、どちらも文字列か、どちらも生の bytes である。 -/
theorem key_addr {a b : Addr} {p q : Nat} {k : Key} (h : key a p b q = some k) :
    (∃ s t, k.ipA = .str s ∧ k.ipB = .str t) ∨ ∃ x y, k.ipA = .bytes x ∧ k.ipB = .bytes y := by
  have hsame : (∃ s t, a = .str s ∧ b = .str t) ∨ ∃ x y, a = .bytes x ∧ b = .bytes y := by
    unfold key at h
    cases a <;> cases b <;> simp_all [Addr.lt?]
  rcases key_eq_some h with rfl | rfl
  · exact hsame
  · exact hsame.imp (fun ⟨s, t, hs, ht⟩ => ⟨t, s, ht, hs⟩) fun ⟨x, y, hx, hy⟩ => ⟨y, x, hy, hx⟩

namespace Packet

theorem sentBy_iff {p : Packet} {k : Key} {fromA : Bool} : p.sentBy k fromA = true ↔
    p.src = (if fromA then k.ipA else k.ipB) ∧ p.sport = (if fromA then k.pA else k.pB) := by
  unfold sentBy
  cases fromA <;> simp

/-- packet はどちらかの側から送られている。 -/
theorem sentBy_of_onKey {p : Packet} {k : Key} (h : p.onKey k = true) :
    p.sentBy k true = true ∨ p.sentBy k false = true := by
  rw [sentBy_iff, sentBy_iff]
  rcases key_eq_some (of_decide_eq_true h) with rfl | rfl
  · exact .inl ⟨rfl, rfl⟩
  · exact .inr ⟨rfl, rfl⟩

/-- 文字列の address では、`dir_a` は A の側から送られたことを表す。 -/
theorem dirA_of_str {p : Packet} {k : Key} (h : p.onKey k = true) {s : String}
    (hk : k.ipA = .str s) : p.dirA k = p.sentBy k true := by
  have haddr := key_addr (of_decide_eq_true h)
  have hsrc : Addr.str p.src.ipStr = p.src := by
    rcases key_eq_some (of_decide_eq_true h) with rfl | rfl
    · simp only at hk
      rw [hk]
      rfl
    · obtain ⟨x, y, hx, hy⟩ | ⟨x, y, hx, hy⟩ := haddr
      · simp only at hy
        rw [hy]
        rfl
      · rw [hk] at hx
        cases hx
  unfold dirA sentBy
  rw [hsrc]
  rfl

/-- 生の bytes の address では、どの packet も B の側の stream に入る。 -/
theorem dirA_of_bytes {p : Packet} {k : Key} {b : Bytes} (hk : k.ipA = .bytes b) :
    p.dirA k = false := by
  unfold dirA
  rw [hk]
  simp

end Packet

/-! ## 一方向の stream -/

/-- 一方向の packet の列を組み立てた bytes。 -/
def assembled (ps : List Packet) : Bytes := (ps.foldl HalfStream.receive {}).buf

/-- 最初の payload の時刻。`0` の時刻は数えない。 -/
def firstTalk (ps : List Packet) : Nat :=
  ((ps.filter fun p => decide (p.payload ≠ [] ∧ p.ts ≠ 0)).map Packet.ts).headD 0

/-- 組み立てた stream の最初の時刻。 -/
theorem firstTs_foldl_receive : ∀ (ps : List Packet) (hs : HalfStream),
    (ps.foldl HalfStream.receive hs).firstTs =
      if hs.firstTs = 0 then firstTalk ps else hs.firstTs := by
  intro ps
  induction ps with
  | nil =>
    intro hs
    show hs.firstTs = if hs.firstTs = 0 then 0 else hs.firstTs
    split
    · next h => exact h
    · rfl
  | cons p ps ih =>
    intro hs
    rw [List.foldl_cons, ih, HalfStream.receive_firstTs]
    unfold firstTalk
    by_cases hnil : p.payload = [] <;> by_cases hts : p.ts = 0 <;>
      by_cases hzero : hs.firstTs = 0 <;> simp [hnil, hts, hzero]

namespace Stream

/-- packet の列を順に受け取った stream の一方向は、その方向の packet だけで決まる。 -/
theorem half_foldl_feed (k : Key) (d : Bool) : ∀ (ps : List Packet) (st : Stream),
    (ps.foldl (fun st p => st.feed k p) st).half d =
      (ps.filter fun p => decide (p.dirA k = d)).foldl HalfStream.receive (st.half d) := by
  intro ps
  induction ps with
  | nil => exact fun st => rfl
  | cons p ps ih =>
    intro st
    rw [List.foldl_cons, ih, List.filter_cons]
    by_cases hd : p.dirA k = d
    · subst hd
      simp [half_feed]
    · simp [hd, half_feed_of_ne st k p (Ne.symm hd)]

/-- SYN の記録は、その方向に SYN が届いたことである。 -/
theorem syn_foldl_feed (k : Key) : ∀ (ps : List Packet) (st : Stream),
    (ps.foldl (fun st p => st.feed k p) st).synByA =
        (ps.any (fun p => p.syn && p.dirA k) || st.synByA) ∧
      (ps.foldl (fun st p => st.feed k p) st).synByB =
        (ps.any (fun p => p.syn && !p.dirA k) || st.synByB) := by
  intro ps
  induction ps with
  | nil => exact fun st => ⟨rfl, rfl⟩
  | cons p ps ih =>
    intro st
    obtain ⟨-, -, -, -, -, hA, hB⟩ := feed_frame st k p
    rw [List.foldl_cons, (ih _).1, (ih _).2, hA, hB, List.any_cons, List.any_cons]
    constructor
    · rw [Bool.or_left_comm, Bool.or_assoc]
    · rw [Bool.or_left_comm, Bool.or_assoc]

/-- 端点は変わらない。 -/
theorem ends_foldl_feed (k : Key) : ∀ (ps : List Packet) (st : Stream),
    (ps.foldl (fun st p => st.feed k p) st).ipA = st.ipA ∧
      (ps.foldl (fun st p => st.feed k p) st).portA = st.portA ∧
      (ps.foldl (fun st p => st.feed k p) st).ipB = st.ipB ∧
      (ps.foldl (fun st p => st.feed k p) st).portB = st.portB := by
  intro ps
  induction ps with
  | nil => exact fun st => ⟨rfl, rfl, rfl, rfl⟩
  | cons p ps ih =>
    intro st
    obtain ⟨hipA, hportA, hipB, hportB, -⟩ := feed_frame st k p
    rw [List.foldl_cons, (ih _).1, (ih _).2.1, (ih _).2.2.1, (ih _).2.2.2]
    exact ⟨hipA, hportA, hipB, hportB⟩

end Stream

end CipherPost.Parsing

namespace CipherPost.Live

open Parsing

/-! ## 列の後の stream -/

/-- 端点の組 `k` の packet だけから組み立てた stream。 -/
def streamOfTrace (k : Key) : List Packet → Option Stream
  | [] => none
  | p :: ps =>
    some ((p :: ps).foldl (fun st p => st.feed k p) (ParityState.streamAt Dict.empty k p.ts))

/-- 他の端点の packet は、stream に触れない。 -/
theorem get?_feed_of_not_onKey (asm : StreamAssembler) {p : Packet} {k : Key}
    (h : p.onKey k = false) : ((asm.feed p).getD asm).streams.get? k = asm.streams.get? k := by
  cases hk : key p.src p.sport p.dst p.dport with
  | none => rw [ParityState.feed_none asm hk]
  | some k' =>
    have hne : k' ≠ k := fun heq => of_decide_eq_false h (hk.trans (congrArg some heq))
    rw [ParityState.streams_feed asm hk, Dict.get?_set_of_ne _ _ hne]

/-- 端点の組の packet は、その stream に入る。 -/
theorem get?_feed_of_onKey (asm : StreamAssembler) {p : Packet} {k : Key} (h : p.onKey k = true) :
    ((asm.feed p).getD asm).streams.get? k =
      some ((ParityState.streamAt asm.streams k p.ts).feed k p) := by
  rw [ParityState.streams_feed asm (of_decide_eq_true h), Dict.get?_set_self]

theorem get?_feedTrace_of_some (k : Key) : ∀ (ps : List Packet) (asm : StreamAssembler)
    {st : Stream}, asm.streams.get? k = some st →
      (feedTrace asm ps).streams.get? k =
        some ((ps.filter (Packet.onKey k)).foldl (fun st p => st.feed k p) st) := by
  intro ps
  induction ps with
  | nil => exact fun asm st h => h
  | cons p ps ih =>
    intro asm st h
    show (feedTrace ((asm.feed p).getD asm) ps).streams.get? k = _
    cases hp : p.onKey k with
    | true =>
      have hget := get?_feed_of_onKey asm hp
      unfold ParityState.streamAt at hget
      rw [h, Option.getD_some] at hget
      rw [ih _ hget, List.filter_cons_of_pos hp]
      rfl
    | false =>
      rw [ih _ ((get?_feed_of_not_onKey asm hp).trans h), List.filter_cons_of_neg (by simp [hp])]

/-- **列の後の stream。** その端点の組の packet だけから組み立てたものである。 -/
theorem get?_feedTrace (k : Key) : ∀ (ps : List Packet) (asm : StreamAssembler),
    asm.streams.get? k = none →
      (feedTrace asm ps).streams.get? k = streamOfTrace k (ps.filter (Packet.onKey k)) := by
  intro ps
  induction ps with
  | nil => exact fun asm h => h
  | cons p ps ih =>
    intro asm h
    show (feedTrace ((asm.feed p).getD asm) ps).streams.get? k = _
    cases hp : p.onKey k with
    | true =>
      have hget := get?_feed_of_onKey asm hp
      unfold ParityState.streamAt at hget
      rw [h] at hget
      rw [get?_feedTrace_of_some k ps _ hget, List.filter_cons_of_pos hp]
      rfl
    | false =>
      rw [ih _ ((get?_feed_of_not_onKey asm hp).trans h), List.filter_cons_of_neg (by simp [hp])]

end CipherPost.Live
