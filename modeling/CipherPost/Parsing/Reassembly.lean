import CipherPost.Infra.Dict

/-!
# TCP の再構成

`app/parsing/reassembly.py` の `StreamAssembler.feed` まで。packet を一つずつ受け取り、
方向を問わない 5-tuple ごとに二本の `HalfStream` を組み立てる。

* `HalfStream.store`・`HalfStream.flush` — 一方向の bytes の組み立て
* `StreamAssembler.feed` — packet の振り分けと、FIN・RST・SYN の記録

sequence number は wire の 32 bit の値をそのまま自然数として扱う（code は折り返さない）。
時刻は自然数（µs）で、`0` は Python の真偽で偽になる。
-/

namespace CipherPost.Parsing

/-- Python の `bytes`。 -/
abbrev Bytes := List UInt8

/-! ## 端点 -/

/-- packet の address。IPv4 は文字列、dpkt の IPv6 は 16 個の生の bytes で来る。 -/
inductive Addr where
  | str (s : String)
  | bytes (b : Bytes)
  deriving Repr, DecidableEq

namespace Addr

/-- UTF-8 の続きの byte。 -/
def isCont (b : UInt8) : Bool := decide (0x80 ≤ b) && decide (b ≤ 0xBF)

/-- 先頭が `b` の列の、二つ目の byte として許される範囲。 -/
def secondOk (b c : UInt8) : Bool :=
  if b = 0xE0 then decide (0xA0 ≤ c) && decide (c ≤ 0xBF)
  else if b = 0xED then decide (0x80 ≤ c) && decide (c ≤ 0x9F)
  else if b = 0xF0 then decide (0x90 ≤ c) && decide (c ≤ 0xBF)
  else if b = 0xF4 then decide (0x80 ≤ c) && decide (c ≤ 0x8F)
  else isCont c

/-- `x.decode(errors="replace")`。壊れた列の極大な先頭ごとに U+FFFD を一つ置く。 -/
def decodeReplace : Bytes → List Char
  | [] => []
  | b :: l =>
    if b < 0x80 then Char.ofNat b.toNat :: decodeReplace l
    else if b < 0xC2 then '\uFFFD' :: decodeReplace l
    else match l with
      | [] => ['\uFFFD']
      | c :: l₁ =>
        if secondOk b c = false then '\uFFFD' :: decodeReplace (c :: l₁)
        else if b < 0xE0 then
          Char.ofNat ((b.toNat - 0xC0) * 64 + (c.toNat - 0x80)) :: decodeReplace l₁
        else if 0xF5 ≤ b then '\uFFFD' :: decodeReplace (c :: l₁)
        else match l₁ with
          | [] => ['\uFFFD']
          | d :: l₂ =>
            if isCont d = false then '\uFFFD' :: decodeReplace (d :: l₂)
            else if b < 0xF0 then
              Char.ofNat (((b.toNat - 0xE0) * 64 + (c.toNat - 0x80)) * 64 + (d.toNat - 0x80))
                :: decodeReplace l₂
            else match l₂ with
              | [] => ['\uFFFD']
              | e :: l₃ =>
                if isCont e = false then '\uFFFD' :: decodeReplace (e :: l₃)
                else
                  Char.ofNat ((((b.toNat - 0xF0) * 64 + (c.toNat - 0x80)) * 64
                    + (d.toNat - 0x80)) * 64 + (e.toNat - 0x80)) :: decodeReplace l₃

/-- `_ip_str(x)`。4 bytes でない address は `inet_ntoa` が拒むので、decode した文字列になる。 -/
def ipStr : Addr → String
  | str s => s
  | bytes [a, b, c, d] =>
    toString a.toNat ++ "." ++ toString b.toNat ++ "." ++ toString c.toNat ++ "."
      ++ toString d.toNat
  | bytes x => String.ofList (decodeReplace x)

/-- `a < b`。型の違う address の比較は TypeError である。 -/
def lt? : Addr → Addr → Option Bool
  | str s, str t => some (decide (s < t))
  | bytes x, bytes y => some (decide (x < y))
  | _, _ => none

end Addr

/-- 方向を問わない 5-tuple `(ip_a, p_a, ip_b, p_b)`。 -/
structure Key where
  ipA : Addr
  pA : Nat
  ipB : Addr
  pB : Nat
  deriving Repr, DecidableEq

/-- `_key`。tuple の比較は、最初に異なる成分で決まる。 -/
def key (ip1 : Addr) (p1 : Nat) (ip2 : Addr) (p2 : Nat) : Option Key :=
  if ip1 = ip2 then
    if p1 ≤ p2 then some ⟨ip1, p1, ip2, p2⟩ else some ⟨ip2, p2, ip1, p1⟩
  else match Addr.lt? ip1 ip2 with
    | none => none
    | some true => some ⟨ip1, p1, ip2, p2⟩
    | some false => some ⟨ip2, p2, ip1, p1⟩

/-! ## 一方向の stream -/

/-- `_HalfStream`。 -/
structure HalfStream where
  baseSeq : Option Nat := none
  frontier : Option Nat := none
  pending : Dict Nat Bytes := Dict.empty
  buf : Bytes := []
  finSeq : Option Nat := none
  rst : Bool := false
  firstTs : Nat := 0
  lastTs : Nat := 0
  synSeq : Option Nat := none
  synTs : Nat := 0
  deriving DecidableEq

namespace HalfStream

/-- `_flush` の loop。一周ごとに `pending` の key が一つ減るので、その個数だけ回せばよい。 -/
def flushLoop : Nat → HalfStream → HalfStream
  | 0, hs => hs
  | n + 1, hs =>
    match hs.frontier with
    | none => hs
    | some f =>
      match hs.pending.get? f with
      | none => hs
      | some seg =>
        flushLoop n
          { hs with
            buf := hs.buf ++ seg
            frontier := some (f + seg.length)
            pending := hs.pending.erase (f + seg.length - seg.length) }

/-- `_flush`。 -/
def flush (hs : HalfStream) : HalfStream := flushLoop hs.pending.size hs

/-- 組み立ての基準。SYN を見ていればその次、なければ最初の data の位置である。 -/
def anchor (hs : HalfStream) (seq : Nat) : Nat :=
  match hs.baseSeq with
  | some base => base
  | none =>
    match hs.synSeq with
    | some syn => syn + 1
    | none => seq

/-- `_store`。 -/
def store (hs : HalfStream) (seq : Nat) (data : Bytes) (ts : Nat) : HalfStream :=
  if data = [] then hs
  else
    let firstTs := if hs.firstTs = 0 then ts else hs.firstTs
    let baseSeq := hs.anchor seq
    let frontier := hs.frontier.getD baseSeq
    let hs :=
      { hs with
        firstTs := firstTs, lastTs := ts, baseSeq := some baseSeq, frontier := some frontier }
    if seq + data.length ≤ frontier then hs
    else if seq < frontier then
      -- 既に出力した部分と重なるので、残りだけを frontier から始める
      flush { hs with pending := hs.pending.set frontier (data.drop (frontier - seq)) }
    else flush { hs with pending := hs.pending.set seq data }

end HalfStream

/-! ## 双方向の stream -/

/-- `_Stream`。 -/
structure Stream where
  ipA : Addr
  portA : Nat
  ipB : Addr
  portB : Nat
  ha : HalfStream := {}
  hb : HalfStream := {}
  synByA : Bool := false
  synByB : Bool := false
  complete : Bool := false
  firstTs : Nat := 0
  deriving DecidableEq

namespace Stream

/-- `hs = st.ha if dir_a else st.hb`。 -/
def half (st : Stream) (dirA : Bool) : HalfStream := if dirA then st.ha else st.hb

/-- `half` を書き換える。 -/
def setHalf (st : Stream) (dirA : Bool) (hs : HalfStream) : Stream :=
  if dirA then { st with ha := hs } else { st with hb := hs }

end Stream

/-- `feed` の引数。 -/
structure Packet where
  src : Addr
  dst : Addr
  sport : Nat
  dport : Nat
  seq : Nat
  ack : Nat
  payload : Bytes
  flags : Nat
  ts : Nat
  deriving Repr, DecidableEq

namespace Packet

/-- `flags & 0x02`。 -/
def syn (p : Packet) : Bool := decide (p.flags &&& 0x02 ≠ 0)

/-- `flags & 0x01`。 -/
def fin (p : Packet) : Bool := decide (p.flags &&& 0x01 ≠ 0)

/-- `flags & 0x04`。 -/
def rst (p : Packet) : Bool := decide (p.flags &&& 0x04 ≠ 0)

/-- `dir_a`。生の bytes の address は文字列の `src_ip` と等しくならない。 -/
def dirA (p : Packet) (k : Key) : Bool :=
  decide (Addr.str p.src.ipStr = k.ipA) && decide (p.sport = k.pA)

end Packet

/-- SYN・FIN・RST を一方向の stream に記録する。 -/
def HalfStream.mark (hs : HalfStream) (p : Packet) : HalfStream :=
  { hs with
    synSeq := if p.syn then some p.seq else hs.synSeq
    synTs := if p.syn then p.ts else hs.synTs
    finSeq := if p.fin then some (p.seq + p.payload.length) else hs.finSeq
    rst := p.rst || hs.rst }

/-- flag を記録し、payload があれば組み立てる。 -/
def HalfStream.receive (hs : HalfStream) (p : Packet) : HalfStream :=
  if p.payload = [] then hs.mark p else (hs.mark p).store p.seq p.payload p.ts

/-- `feed` の、stream を引き当てた後の部分。 -/
def Stream.feed (st : Stream) (k : Key) (p : Packet) : Stream :=
  let dirA := p.dirA k
  let st :=
    if p.syn then
      if dirA then { st with synByA := true } else { st with synByB := true }
    else st
  let st := st.setHalf dirA ((st.half dirA).receive p)
  if st.ha.rst || st.hb.rst || (st.ha.finSeq.isSome && st.hb.finSeq.isSome) then
    { st with complete := true }
  else st

/-- `StreamAssembler` の `_streams`。 -/
structure StreamAssembler where
  streams : Dict Key Stream := Dict.empty
  deriving DecidableEq

namespace StreamAssembler

/-- `StreamAssembler.feed`。`none` は `_key` の TypeError。 -/
def feed (asm : StreamAssembler) (p : Packet) : Option StreamAssembler :=
  match key p.src p.sport p.dst p.dport with
  | none => none
  | some k =>
    let st := match asm.streams.get? k with
      | some st => st
      | none => { ipA := k.ipA, portA := k.pA, ipB := k.ipB, portB := k.pB, firstTs := p.ts }
    some ⟨asm.streams.set k (st.feed k p)⟩

/-- packet の列を順に `feed` する。 -/
def feedAll (asm : StreamAssembler) (ps : List Packet) : Option StreamAssembler :=
  ps.foldlM feed asm

/-- packet の流れる方向の buffer。 -/
def bufOf (asm : StreamAssembler) (k : Key) (dirA : Bool) : Option Bytes :=
  (asm.streams.get? k).map fun st => (st.half dirA).buf

end StreamAssembler

/-! ## 一方向の stream の性質 -/

namespace HalfStream

/-- 取り出す loop は、frontier の位置に保留が無くなるまで回る。 -/
theorem flush_done : ∀ {n : Nat} {hs : HalfStream} {f : Nat}, hs.pending.size ≤ n →
    (flushLoop n hs).frontier = some f → (flushLoop n hs).pending.get? f = none := by
  intro n
  induction n with
  | zero =>
    intro hs f hn _
    have hnil : hs.pending.entries = [] := List.length_eq_zero_iff.mp (Nat.le_zero.mp hn)
    show hs.pending.get? f = none
    rw [Dict.get?_eq_none_iff, hnil]
    simp
  | succ n ih =>
    intro hs f hn hf
    rw [flushLoop] at hf ⊢
    split at hf
    · next hnone => rw [hnone] at hf; cases hf
    · next g hg =>
      split at hf
      · next hp =>
        rw [hg, Option.some.injEq] at hf
        rw [← hf, hp]
      · next seg hp =>
        refine ih ?_ hf
        have hlt := Dict.size_erase_lt hp
        rw [Nat.add_sub_cancel]
        show (hs.pending.erase g).size ≤ n
        omega

/-- payload の無い packet は組み立てに触れない。 -/
@[simp] theorem store_nil (hs : HalfStream) (seq ts : Nat) : hs.store seq [] ts = hs := by
  simp [store]

/-- 記録だけの packet は、組み立ての位置に触れない。 -/
@[simp] theorem mark_buf (hs : HalfStream) (p : Packet) : (hs.mark p).buf = hs.buf := rfl

@[simp] theorem mark_pending (hs : HalfStream) (p : Packet) :
    (hs.mark p).pending = hs.pending := rfl

@[simp] theorem mark_baseSeq (hs : HalfStream) (p : Packet) :
    (hs.mark p).baseSeq = hs.baseSeq := rfl

@[simp] theorem mark_frontier (hs : HalfStream) (p : Packet) :
    (hs.mark p).frontier = hs.frontier := rfl

theorem mark_synSeq_of_not_syn (hs : HalfStream) {p : Packet} (h : p.syn = false) :
    (hs.mark p).synSeq = hs.synSeq := by simp [mark, h]

/-- flag の記録と組み立ては、payload の有無によらず一つの式になる。 -/
theorem receive_eq (hs : HalfStream) (p : Packet) :
    hs.receive p = (hs.mark p).store p.seq p.payload p.ts := by
  unfold receive
  split
  · next h => rw [h, store_nil]
  · rfl

/-- 取り出す loop は、組み立てた bytes とその位置、保留の他に触れない。 -/
theorem flushLoop_frame : ∀ (n : Nat) (hs : HalfStream), ∃ buf frontier pending,
    flushLoop n hs = { hs with buf := buf, frontier := frontier, pending := pending } := by
  intro n
  induction n with
  | zero => exact fun hs => ⟨hs.buf, hs.frontier, hs.pending, rfl⟩
  | succ n ih =>
    intro hs
    rw [flushLoop]
    split
    · exact ⟨hs.buf, hs.frontier, hs.pending, rfl⟩
    · split
      · exact ⟨hs.buf, hs.frontier, hs.pending, rfl⟩
      · obtain ⟨buf, frontier, pending, h⟩ := ih _
        exact ⟨buf, frontier, pending, h⟩

/-- `receive` の後の、組み立ての位置と bytes の他の値。 -/
theorem receive_frame (hs : HalfStream) (p : Packet) : ∃ base frontier pending buf,
    hs.receive p =
      { hs.mark p with
        firstTs := if p.payload = [] then hs.firstTs else if hs.firstTs = 0 then p.ts else hs.firstTs
        lastTs := if p.payload = [] then hs.lastTs else p.ts
        baseSeq := base, frontier := frontier, pending := pending, buf := buf } := by
  unfold receive
  by_cases hnil : p.payload = []
  · simp only [if_pos hnil]
    exact ⟨hs.baseSeq, hs.frontier, hs.pending, hs.buf, rfl⟩
  · simp only [if_neg hnil]
    unfold store flush
    rw [if_neg hnil]
    dsimp only
    split
    · exact ⟨_, _, _, _, rfl⟩
    · split
      all_goals
        obtain ⟨buf, frontier, pending, h⟩ := flushLoop_frame _ _
        rw [h]
        exact ⟨_, _, _, _, rfl⟩

/-- 最後の時刻は、payload のある packet だけが進める。 -/
@[simp] theorem receive_lastTs (hs : HalfStream) (p : Packet) :
    (hs.receive p).lastTs = if p.payload = [] then hs.lastTs else p.ts := by
  obtain ⟨base, frontier, pending, buf, h⟩ := hs.receive_frame p
  rw [h]

/-- 最初の時刻は、payload のある最初の packet が決める。 -/
@[simp] theorem receive_firstTs (hs : HalfStream) (p : Packet) :
    (hs.receive p).firstTs =
      if p.payload = [] then hs.firstTs else if hs.firstTs = 0 then p.ts else hs.firstTs := by
  obtain ⟨base, frontier, pending, buf, h⟩ := hs.receive_frame p
  rw [h]

end HalfStream

namespace Stream

@[simp] theorem half_setHalf (st : Stream) (d : Bool) (hs : HalfStream) :
    (st.setHalf d hs).half d = hs := by
  cases d <;> rfl

/-- `feed` の後の、packet の方向の half stream。 -/
theorem half_feed (st : Stream) (k : Key) (p : Packet) :
    (st.feed k p).half (p.dirA k) = (st.half (p.dirA k)).receive p := by
  unfold feed half setHalf
  cases p.syn <;> cases p.dirA k <;>
    simp only [Bool.false_eq_true, if_false, if_true] <;> split <;> rfl

end Stream

namespace StreamAssembler

/-- `feed` が読む stream。無ければ新しく作る。 -/
theorem get?_feed {asm asm' : StreamAssembler} {p : Packet} {k : Key}
    (hk : key p.src p.sport p.dst p.dport = some k) (h : asm.feed p = some asm') :
    ∃ st : Stream, asm'.streams.get? k = some (st.feed k p) ∧
      (asm.streams.get? k = some st ∨
        asm.streams.get? k = none ∧ st.ha = {} ∧ st.hb = {}) := by
  unfold feed at h
  rw [hk] at h
  simp only [Option.some.injEq] at h
  subst h
  cases hg : asm.streams.get? k with
  | some st => exact ⟨st, Dict.get?_set_self _ _ _, Or.inl rfl⟩
  | none => exact ⟨_, Dict.get?_set_self _ _ _, Or.inr ⟨rfl, rfl, rfl⟩⟩

theorem feed_isSome (asm : StreamAssembler) {p : Packet} {k : Key}
    (hk : key p.src p.sport p.dst p.dport = some k) : ∃ asm', asm.feed p = some asm' := by
  unfold feed
  rw [hk]
  exact ⟨_, rfl⟩

end StreamAssembler

end CipherPost.Parsing
