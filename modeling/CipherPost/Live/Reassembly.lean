import CipherPost.Live.Serialize
import CipherPost.Parsing.TlsSegments
import Mathlib.Data.List.Sort

/-!
# 流れながらの再構成

`app/live/reassembly.py` の `LiveReassembler`。packet は `StreamAssembler.feed` に渡し、`sweep` のたびに
完結した stream・途絶えた stream・大きすぎる stream を閉じて session にする。閉じた stream は忘れるので、
その接続の次の packet は新しい stream を始める。

* `LiveReassembler.feedPacket` — packet 一つ
* `LiveReassembler.closable` — sweep の閉じる stream とその理由
* `LiveReassembler.sweep`・`drain` — 閉じて session を出す
* `entries_closeAll_sublist`・`get?_closeAll`・`snd_closeAll` — 閉じた後の stream と、出る session

統計の数は誰も読まないので省く。
-/

namespace CipherPost.Live

open Parsing

/-- capture の packet。生の frame の控えの位置が付く。 -/
structure LivePacket extends Packet where
  rawRef : Option (List Json) := none

/-- `LiveReassembler` の上限。時間は µs である。 -/
structure Limits where
  idleTimeout : Nat := 60000000
  maxSessions : Nat := 4096
  maxBufferBytes : Nat := 512 * 1024

/-- `LiveReassembler` の `_streams` と `_refs`。 -/
structure LiveReassembler where
  streams : Dict Key Stream := Dict.empty
  refs : Dict Key (List (List Json)) := Dict.empty

/-- `max(st.ha.last_ts, st.hb.last_ts)`。 -/
def lastTs (st : Stream) : Nat := max st.ha.lastTs st.hb.lastTs

/-- 溜まっている bytes の数。 -/
def bufferedBytes (st : Stream) : Nat := st.ha.buf.length + st.hb.buf.length

/-- 途絶えている。payload を見ていない stream は途絶えない。 -/
def isIdle (limits : Limits) (now : Nat) (st : Stream) : Bool :=
  decide (lastTs st ≠ 0 ∧ lastTs st + limits.idleTimeout < now)

/-- 上限を超えて溜めている。 -/
def overCap (limits : Limits) (st : Stream) : Bool :=
  decide (limits.maxBufferBytes < bufferedBytes st)

/-- `_close_reason`。 -/
def closeReason (st : Stream) : String := if st.ha.rst || st.hb.rst then "rst" else "fin"

/-- 閉じた stream の session。protocol の分からない stream は session にならない。 -/
def capture (st : Stream) (reason : String) (refs : List (List Json)) : Option CapturedSession :=
  (st.closeSession { st.openSession with endTs := (lastTs st : Rat) / 1000000 }).map fun sess =>
    { sess with
      closedBy := reason, rawRefs := refs
      trackedBytes := st.clientBytes.length + st.serverBytes.length }

theorem assignTlsSegments_fiveTuple (sess : Session) (client server : Bytes) :
    (assignTlsSegments sess client server).fiveTuple = sess.fiveTuple ∧
      (assignTlsSegments sess client server).fiveTupleFull = sess.fiveTupleFull := by
  unfold assignTlsSegments
  dsimp only
  rcases tlsTransition (decide (sess.serverPort ∈ IMPLICIT_TLS_PORTS)) sess.protocol client with
    ⟨_ | offset, starttls⟩
  · exact ⟨rfl, rfl⟩
  · cases findTlsOffset server with
    | none => exact ⟨rfl, rfl⟩
    | some so =>
      dsimp only
      split <;> exact ⟨rfl, rfl⟩

/-- capture の session は、開いた session を TLS に区切り、閉じた理由と控えを書き加えたものである。 -/
theorem of_capture {st : Stream} {reason : String} {refs : List (List Json)}
    {sess : CapturedSession} (h : capture st reason refs = some sess) :
    ∃ protocol portBased,
      sess =
        { assignTlsSegments { st.openSession with
            protocol, portBased, endTs := (lastTs st : Rat) / 1000000 }
            st.clientBytes st.serverBytes with
          closedBy := reason, rawRefs := refs
          trackedBytes := st.clientBytes.length + st.serverBytes.length } := by
  unfold capture Stream.closeSession at h
  dsimp only at h
  split at h
  · cases h
  · rw [Option.map_some, Option.some.injEq] at h
    exact ⟨_, _, h.symm⟩

/-- capture の session の `five_tuple` は、その端点から作られている。 -/
theorem fiveTuple_capture {st : Stream} {reason : String} {refs : List (List Json)}
    {sess : CapturedSession} (h : capture st reason refs = some sess) :
    sess.fiveTuple = sess.fiveTupleFull := by
  obtain ⟨protocol, portBased, rfl⟩ := of_capture h
  obtain ⟨hshort, hfull⟩ := assignTlsSegments_fiveTuple { st.openSession with
    protocol, portBased, endTs := (lastTs st : Rat) / 1000000 } st.clientBytes st.serverBytes
  refine hshort.trans (Eq.trans ?_ hfull.symm)
  show st.openSession.fiveTuple = st.openSession.fiveTupleFull
  unfold Stream.openSession Session.fiveTupleFull
  cases st.clientA <;> rfl

namespace LiveReassembler

/-- `feed_packet`。`_key` の TypeError は中で捕まり、packet は捨てられる。 -/
def feedPacket (lr : LiveReassembler) (p : LivePacket) : LiveReassembler :=
  match key p.src p.sport p.dst p.dport, (StreamAssembler.mk lr.streams).feed p.toPacket with
  | some k, some asm =>
    { streams := asm.streams
      refs := match p.rawRef with
        | none => lr.refs
        | some ref => lr.refs.set k ((lr.refs.get? k).getD [] ++ [ref]) }
  | _, _ => lr

/-- `_emit_one`。stream を忘れて session を作る。 -/
def emitOne (lr : LiveReassembler) (k : Key) (st : Stream) (reason : String) :
    LiveReassembler × Option CapturedSession :=
  match lr.streams.get? k with
  | none => (lr, none)
  | some _ =>
    (⟨lr.streams.erase k, lr.refs.erase k⟩, capture st reason ((lr.refs.get? k).getD []))

/-- stream を順に閉じる。session は接続とともに並べる。 -/
def closeAll (lr : LiveReassembler) : List (Key × Stream × String) →
    LiveReassembler × List (Key × Option CapturedSession)
  | [] => (lr, [])
  | (k, st, reason) :: rest =>
    let (lr, sess) := lr.emitOne k st reason
    let (lr, out) := lr.closeAll rest
    (lr, (k, sess) :: out)

/-- sweep の一つ目の loop。完結、途絶、大きすぎる、の順に見る。 -/
def closable (limits : Limits) (now : Nat) (lr : LiveReassembler) : List (Key × Stream × String) :=
  lr.streams.entries.filterMap fun (k, st) =>
    if st.complete then some (k, st, closeReason st)
    else if isIdle limits now st then some (k, st, "idle")
    else if overCap limits st then
      some (k, { st with ha := { st.ha with rst := true }, hb := { st.hb with rst := true } }, "cap")
    else none

/-- 開いたままの stream。 -/
def active (lr : LiveReassembler) : List (Key × Stream) :=
  lr.streams.entries.filter fun e => !e.2.complete

/-- 上限を超えた分の、古い stream。 -/
def overflow (limits : Limits) (lr : LiveReassembler) : List (Key × Stream × String) :=
  ((lr.active.insertionSort fun a b => a.2.firstTs ≤ b.2.firstTs).take
    (lr.active.length - limits.maxSessions)).map fun e => (e.1, e.2, "evicted")

/-- `sweep`。閉じた stream の session は、protocol が分からなければ `none` のまま列に入る。 -/
def sweep (limits : Limits) (now : Nat) (lr : LiveReassembler) :
    LiveReassembler × List (Key × Option CapturedSession) :=
  let (lr, out) := lr.closeAll (lr.closable limits now)
  let (lr, evicted) := lr.closeAll (lr.overflow limits)
  (lr, out ++ evicted.filter fun o => o.2.isSome)

/-- 完結した stream。 -/
def finished (lr : LiveReassembler) : List (Key × Stream × String) :=
  lr.streams.entries.filterMap fun (k, st) =>
    if st.complete then some (k, st, closeReason st) else none

/-- `drain`。 -/
def drain (lr : LiveReassembler) : LiveReassembler × List (Key × Option CapturedSession) :=
  let (lr, out) := lr.closeAll lr.finished
  (lr, out.filter fun o => o.2.isSome)

/-! ## 閉じる -/

theorem streams_emitOne (lr : LiveReassembler) (k : Key) (st : Stream) (reason : String) :
    (lr.emitOne k st reason).1.streams = lr.streams.erase k := by
  unfold emitOne
  split
  · next hnone =>
    refine (Dict.ext ?_).symm
    show lr.streams.entries.filter (fun e => decide (e.1 ≠ k)) = lr.streams.entries
    refine List.filter_eq_self.mpr fun e he => decide_eq_true ?_
    exact fun heq => ((Dict.get?_eq_none_iff _ _).mp hnone) (heq ▸ List.mem_map_of_mem he)
  · rfl

theorem refs_emitOne_of_ne (lr : LiveReassembler) {k k' : Key} (st : Stream) (reason : String)
    (h : k' ≠ k) : (lr.emitOne k st reason).1.refs.get? k' = lr.refs.get? k' := by
  unfold emitOne
  split
  · rfl
  · exact Dict.get?_erase_of_ne _ h

/-- 閉じても stream の並びは変わらない。 -/
theorem entries_closeAll_sublist : ∀ (l : List (Key × Stream × String)) (lr : LiveReassembler),
    (lr.closeAll l).1.streams.entries.Sublist lr.streams.entries := by
  intro l
  induction l with
  | nil => exact fun lr => List.Sublist.refl _
  | cons e l ih =>
    intro lr
    obtain ⟨k, st, reason⟩ := e
    refine (ih (lr.emitOne k st reason).1).trans ?_
    rw [streams_emitOne]
    exact List.filter_sublist

/-- 閉じた後に残るのは、閉じていない接続の stream である。 -/
theorem get?_closeAll (k : Key) : ∀ (l : List (Key × Stream × String)) (lr : LiveReassembler),
    (lr.closeAll l).1.streams.get? k =
      if k ∈ l.map Prod.fst then none else lr.streams.get? k := by
  intro l
  induction l with
  | nil => exact fun lr => rfl
  | cons e l ih =>
    intro lr
    obtain ⟨k', st, reason⟩ := e
    show ((lr.emitOne k' st reason).1.closeAll l).1.streams.get? k = _
    rw [ih, streams_emitOne]
    by_cases hk : k = k'
    · subst hk
      simp
    · rw [Dict.get?_erase_of_ne _ hk]
      rw [List.map_cons]
      by_cases hmem : k ∈ l.map Prod.fst
      · rw [if_pos hmem, if_pos (List.mem_cons_of_mem _ hmem)]
      · rw [if_neg hmem, if_neg]
        exact fun h => (List.mem_cons.mp h).elim hk hmem

/-- 異なる接続を閉じれば、session はそれぞれの stream のものである。 -/
theorem snd_closeAll : ∀ (l : List (Key × Stream × String)) (lr : LiveReassembler),
    (l.map Prod.fst).Nodup → (∀ e ∈ l, (lr.streams.get? e.1).isSome = true) →
    (lr.closeAll l).2 =
      l.map fun e => (e.1, capture e.2.1 e.2.2 ((lr.refs.get? e.1).getD [])) := by
  intro l
  induction l with
  | nil => exact fun lr _ _ => rfl
  | cons e l ih =>
    intro lr hnodup hmem
    obtain ⟨k, st, reason⟩ := e
    obtain ⟨hk, hnodup⟩ := List.nodup_cons.mp hnodup
    obtain ⟨hhead, htail⟩ := List.forall_mem_cons.mp hmem
    have hne : ∀ e ∈ l, e.1 ≠ k := fun e he heq => hk (List.mem_map.mpr ⟨e, he, heq⟩)
    show (k, (lr.emitOne k st reason).2) :: ((lr.emitOne k st reason).1.closeAll l).2 = _
    rw [ih _ hnodup fun e he => ?_, List.map_cons]
    · congr 1
      · unfold emitOne
        obtain ⟨st', hst'⟩ := Option.isSome_iff_exists.mp hhead
        rw [hst']
      · refine List.map_congr_left fun e he => ?_
        rw [refs_emitOne_of_ne _ _ _ (hne e he)]
    · rw [streams_emitOne, Dict.get?_erase_of_ne _ (hne e he)]
      exact htail e he

end LiveReassembler

end CipherPost.Live
