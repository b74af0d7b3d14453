import CipherPost.Live.Sweep
import Mathlib.Data.List.Perm.Subperm

/-!
# session の frame の控え

`LiveReassembler` は stream と、その frame の控えの場所を、同じ key の二つの辞書に分けて持つ。閉じる理由が何であっても二つは一緒に
消えるので、session の `raw_refs` は、その stream が開いてから届いた packet の控えである。

* `ReassemblyStats`・`CountedReassembler` — 統計の数を添えた `LiveReassembler`
* `Released` — stream を閉じる前後の関係
* `SessionLog` — packet と sweep と drain の列と、出した session
* `Opened` — stream が開いてからの事象の列
* `session_refs_linked` — session の控えは、開いてからの packet のものである
-/

namespace CipherPost.Live

open Parsing

/-! ## 統計 -/

/-- `ReassemblyStats`。 -/
structure ReassemblyStats where
  packets : Nat := 0
  evicted : Nat := 0
  closedFin : Nat := 0
  closedRst : Nat := 0
  closedIdle : Nat := 0
  closedCap : Nat := 0
  truncated : Nat := 0
  completed : Nat := 0
  active : Nat := 0
  deriving DecidableEq

/-- `_emit_one` の、session を出した後の統計。 -/
def ReassemblyStats.closed (s : ReassemblyStats) (reason : String) : ReassemblyStats :=
  let s :=
    if reason = "idle" then { s with closedIdle := s.closedIdle + 1 }
    else if reason = "cap" then
      { s with closedCap := s.closedCap + 1, truncated := s.truncated + 1 }
    else if reason = "evicted" then { s with closedCap := s.closedCap + 1 }
    else if reason = "rst" then { s with closedRst := s.closedRst + 1 }
    else if reason = "fin" then { s with closedFin := s.closedFin + 1 }
    else s
  { s with completed := s.completed + 1 }

/-- 出した session の数は、理由ごとの数の和である。 -/
def ReassemblyStats.Balanced (s : ReassemblyStats) : Prop :=
  s.completed = s.closedFin + s.closedRst + s.closedIdle + s.closedCap

/-- 数えられる閉じた理由。 -/
def CLOSE_REASONS : List String := ["idle", "cap", "evicted", "rst", "fin"]

theorem ReassemblyStats.Balanced.closed {s : ReassemblyStats} (h : s.Balanced) {reason : String}
    (hreason : reason ∈ CLOSE_REASONS) : (s.closed reason).Balanced := by
  unfold Balanced at h
  simp only [CLOSE_REASONS, List.mem_cons, List.not_mem_nil, or_false] at hreason
  rcases hreason with rfl | rfl | rfl | rfl | rfl <;>
    simp [ReassemblyStats.closed, Balanced, h] <;> omega

/-- `LiveReassembler` と、その統計。 -/
structure CountedReassembler where
  live : LiveReassembler := {}
  stats : ReassemblyStats := {}

namespace CountedReassembler

/-- `feed_packet`。 -/
def feedPacket (c : CountedReassembler) (p : LivePacket) : CountedReassembler :=
  { live := c.live.feedPacket p, stats := { c.stats with packets := c.stats.packets + 1 } }

/-- `_emit_one`。 -/
def emitOne (c : CountedReassembler) (k : Key) (st : Stream) (reason : String) :
    CountedReassembler × Option CapturedSession :=
  let (live, sess) := c.live.emitOne k st reason
  (⟨live, if sess.isSome then c.stats.closed reason else c.stats⟩, sess)

/-- stream を順に閉じる。 -/
def closeAll (c : CountedReassembler) : List (Key × Stream × String) →
    CountedReassembler × List (Key × Option CapturedSession)
  | [] => (c, [])
  | (k, st, reason) :: rest =>
    let (c, sess) := c.emitOne k st reason
    let (c, out) := c.closeAll rest
    (c, (k, sess) :: out)

/-- sweep の二つ目の loop。追い出した数も数える。 -/
def evictAll (c : CountedReassembler) : List (Key × Stream × String) →
    CountedReassembler × List (Key × Option CapturedSession)
  | [] => (c, [])
  | (k, st, reason) :: rest =>
    let c := { c with stats := { c.stats with evicted := c.stats.evicted + 1 } }
    let (c, sess) := c.emitOne k st reason
    let (c, out) := c.evictAll rest
    (c, (k, sess) :: out)

/-- `self.stats.active = len(self._streams)`。 -/
def counted (c : CountedReassembler) : CountedReassembler :=
  { c with stats := { c.stats with active := c.live.streams.size } }

/-- `sweep`。 -/
def sweep (limits : Limits) (now : Nat) (c : CountedReassembler) :
    CountedReassembler × List (Key × Option CapturedSession) :=
  let (c, out) := c.closeAll (c.live.closable limits now)
  let (c, evicted) := c.evictAll (c.live.overflow limits)
  (c.counted, out ++ evicted.filter fun o => o.2.isSome)

/-- `drain`。 -/
def drain (c : CountedReassembler) : CountedReassembler × List (Key × Option CapturedSession) :=
  let (c, out) := c.closeAll c.live.finished
  (c.counted, out.filter fun o => o.2.isSome)

/-- 統計を忘れれば、`LiveReassembler` の閉じ方である。 -/
theorem live_closeAll : ∀ (l : List (Key × Stream × String)) (c : CountedReassembler),
    (c.closeAll l).1.live = (c.live.closeAll l).1 ∧ (c.closeAll l).2 = (c.live.closeAll l).2 := by
  intro l
  induction l with
  | nil => exact fun c => ⟨rfl, rfl⟩
  | cons e l ih =>
    intro c
    obtain ⟨k, st, reason⟩ := e
    obtain ⟨hlive, hout⟩ := ih (c.emitOne k st reason).1
    exact ⟨hlive, congrArg ((k, (c.emitOne k st reason).2) :: ·) hout⟩

theorem live_evictAll : ∀ (l : List (Key × Stream × String)) (c : CountedReassembler),
    (c.evictAll l).1.live = (c.live.closeAll l).1 ∧ (c.evictAll l).2 = (c.live.closeAll l).2 := by
  intro l
  induction l with
  | nil => exact fun c => ⟨rfl, rfl⟩
  | cons e l ih =>
    intro c
    obtain ⟨k, st, reason⟩ := e
    let c' : CountedReassembler :=
      { c with stats := { c.stats with evicted := c.stats.evicted + 1 } }
    obtain ⟨hlive, hout⟩ := ih (c'.emitOne k st reason).1
    exact ⟨hlive, congrArg ((k, (c'.emitOne k st reason).2) :: ·) hout⟩

/-- **統計を忘れれば、`LiveReassembler` の sweep と drain である。** -/
theorem live_sweep (limits : Limits) (now : Nat) (c : CountedReassembler) :
    (c.sweep limits now).1.live = (c.live.sweep limits now).1 ∧
      (c.sweep limits now).2 = (c.live.sweep limits now).2 := by
  obtain ⟨hclosed, hout⟩ := live_closeAll (c.live.closable limits now) c
  let c' := (c.closeAll (c.live.closable limits now)).1
  obtain ⟨hevicted, hout'⟩ := live_evictAll (c'.live.overflow limits) c'
  constructor
  · show (c'.evictAll (c'.live.overflow limits)).1.live = _
    rw [hevicted, hclosed]
    rfl
  · show (c.closeAll (c.live.closable limits now)).2 ++
      (c'.evictAll (c'.live.overflow limits)).2.filter (fun o => o.2.isSome) = _
    rw [hout, hout', hclosed]
    rfl

theorem live_drain (c : CountedReassembler) :
    c.drain.1.live = c.live.drain.1 ∧ c.drain.2 = c.live.drain.2 := by
  obtain ⟨hclosed, hout⟩ := live_closeAll c.live.finished c
  exact ⟨hclosed, congrArg (fun out => out.filter fun o => o.2.isSome) hout⟩

/-! ### 統計の釣り合い -/

theorem balanced_emitOne {c : CountedReassembler} (h : c.stats.Balanced) (k : Key) (st : Stream)
    {reason : String} (hreason : reason ∈ CLOSE_REASONS) :
    (c.emitOne k st reason).1.stats.Balanced := by
  have hstats : (c.emitOne k st reason).1.stats =
      if (c.live.emitOne k st reason).2.isSome then c.stats.closed reason else c.stats := rfl
  rw [hstats]
  split
  · exact h.closed hreason
  · exact h

theorem balanced_closeAll : ∀ (l : List (Key × Stream × String)) {c : CountedReassembler},
    c.stats.Balanced → (∀ e ∈ l, e.2.2 ∈ CLOSE_REASONS) → (c.closeAll l).1.stats.Balanced := by
  intro l
  induction l with
  | nil => exact fun h _ => h
  | cons e l ih =>
    intro c h hl
    obtain ⟨hhead, htail⟩ := List.forall_mem_cons.mp hl
    exact ih (balanced_emitOne h e.1 e.2.1 hhead) htail

theorem balanced_evictAll : ∀ (l : List (Key × Stream × String)) {c : CountedReassembler},
    c.stats.Balanced → (∀ e ∈ l, e.2.2 ∈ CLOSE_REASONS) → (c.evictAll l).1.stats.Balanced := by
  intro l
  induction l with
  | nil => exact fun h _ => h
  | cons e l ih =>
    intro c h hl
    obtain ⟨hhead, htail⟩ := List.forall_mem_cons.mp hl
    let c' : CountedReassembler :=
      { c with stats := { c.stats with evicted := c.stats.evicted + 1 } }
    have h' : c'.stats.Balanced := h
    exact ih (balanced_emitOne h' e.1 e.2.1 hhead) htail

end CountedReassembler

/-! ## 閉じる stream -/

/-- stream の端点は、key の端点である。 -/
def Stream.Ends (k : Key) (st : Stream) : Prop :=
  st.ipA = k.ipA ∧ st.portA = k.pA ∧ st.ipB = k.ipB ∧ st.portB = k.pB

/-- session の二つの端点は、key の端点である。 -/
def Joins (k : Key) (sess : CapturedSession) : Prop :=
  (sess.clientIp = k.ipA.text ∧ sess.clientPort = k.pA ∧
    sess.serverIp = k.ipB.text ∧ sess.serverPort = k.pB) ∨
  (sess.clientIp = k.ipB.text ∧ sess.clientPort = k.pB ∧
    sess.serverIp = k.ipA.text ∧ sess.serverPort = k.pA)

/-- bytes を分けても、端点は変わらない。 -/
theorem assignTlsSegments_ends (sess : Session) (client server : Bytes) :
    (assignTlsSegments sess client server).clientIp = sess.clientIp ∧
      (assignTlsSegments sess client server).clientPort = sess.clientPort ∧
      (assignTlsSegments sess client server).serverIp = sess.serverIp ∧
      (assignTlsSegments sess client server).serverPort = sess.serverPort := by
  unfold assignTlsSegments
  dsimp only
  rcases tlsTransition (decide (sess.serverPort ∈ IMPLICIT_TLS_PORTS)) sess.protocol client with
    ⟨_ | offset, starttls⟩
  · exact ⟨rfl, rfl, rfl, rfl⟩
  · cases findTlsOffset server with
    | none => exact ⟨rfl, rfl, rfl, rfl⟩
    | some so =>
      dsimp only
      split <;> exact ⟨rfl, rfl, rfl, rfl⟩

/-- stream を閉じた session は、渡した控えと、stream の端点を持つ。 -/
theorem capture_spec {k : Key} {st : Stream} {reason : String} {refs : List (List Json)}
    {sess : CapturedSession} (h : capture st reason refs = some sess) (hends : Stream.Ends k st) :
    sess.rawRefs = refs ∧ Joins k sess := by
  obtain ⟨protocol, portBased, rfl⟩ := of_capture h
  refine ⟨rfl, ?_⟩
  obtain ⟨hcip, hcport, hsip, hsport⟩ := assignTlsSegments_ends { st.openSession with
    protocol, portBased, endTs := (lastTs st : Rat) / 1000000 } st.clientBytes st.serverBytes
  obtain ⟨hipA, hpA, hipB, hpB⟩ := hends
  unfold Joins
  rw [hcip, hcport, hsip, hsport]
  unfold Stream.openSession
  rw [hipA, hpA, hipB, hpB]
  cases st.clientA with
  | true => exact .inl ⟨rfl, rfl, rfl, rfl⟩
  | false => exact .inr ⟨rfl, rfl, rfl, rfl⟩

/-- 出た session。 -/
def produced (out : List (Key × Option CapturedSession)) : List (Key × CapturedSession) :=
  out.filterMap fun o => o.2.map fun sess => (o.1, sess)

theorem produced_append (out out' : List (Key × Option CapturedSession)) :
    produced (out ++ out') = produced out ++ produced out' := List.filterMap_append

/-- `None` は session ではない。 -/
theorem produced_filter (out : List (Key × Option CapturedSession)) :
    produced (out.filter fun o => o.2.isSome) = produced out := by
  unfold produced
  rw [List.filterMap_filter]
  refine List.filterMap_congr fun o _ => ?_
  cases o.2 <;> rfl

namespace LiveReassembler

/-- stream の端点は、その key のものである。 -/
def Homed (lr : LiveReassembler) : Prop :=
  ∀ k st, lr.streams.get? k = some st → Stream.Ends k st

/-- 開いている stream の控え。 -/
def heldRefs (lr : LiveReassembler) : List (List Json) := lr.refs.values.flatten

/--
stream をいくつか閉じた前後。どの key でも、二つの辞書はともに変わらないか、ともに消える。出た session は消えた stream の控えを持ち、
持ち出された控えは残らない。
-/
structure Released (lr lr' : LiveReassembler) (out : List (Key × CapturedSession)) : Prop where
  kept : ∀ k, (lr'.streams.get? k = lr.streams.get? k ∧ lr'.refs.get? k = lr.refs.get? k) ∨
    (lr'.streams.get? k = none ∧ lr'.refs.get? k = none)
  sessions : ∀ o ∈ out, (lr.streams.get? o.1).isSome ∧
    o.2.rawRefs = (lr.refs.get? o.1).getD [] ∧ Joins o.1 o.2
  refs : ((out.flatMap fun o => o.2.rawRefs) ++ lr'.heldRefs).Subperm lr.heldRefs

theorem Released.refl (lr : LiveReassembler) : Released lr lr [] where
  kept := fun _ => .inl ⟨rfl, rfl⟩
  sessions := fun _ h => (List.not_mem_nil h).elim
  refs := List.Subperm.refl _

theorem Released.trans {lr lr₁ lr₂ : LiveReassembler} {out out' : List (Key × CapturedSession)}
    (h : Released lr lr₁ out) (h' : Released lr₁ lr₂ out') : Released lr lr₂ (out ++ out') where
  kept := by
    intro k
    rcases h'.kept k with ⟨hstreams', hrefs'⟩ | hgone
    · rw [hstreams', hrefs']
      exact h.kept k
    · exact .inr hgone
  sessions := by
    intro o ho
    rcases List.mem_append.mp ho with ho | ho
    · exact h.sessions o ho
    · obtain ⟨hsome, hrefs', hjoins⟩ := h'.sessions o ho
      rcases h.kept o.1 with ⟨hstreams, hrefs⟩ | ⟨hstreams, -⟩
      · rw [hstreams] at hsome
        rw [hrefs] at hrefs'
        exact ⟨hsome, hrefs', hjoins⟩
      · rw [hstreams] at hsome
        cases hsome
  refs := by
    rw [List.flatMap_append, List.append_assoc]
    exact ((List.subperm_append_left _).mpr h'.refs).trans h.refs

theorem Homed.released {lr lr' : LiveReassembler} {out : List (Key × CapturedSession)}
    (h : lr.Homed) (hr : Released lr lr' out) : lr'.Homed := by
  intro k st hst
  rcases hr.kept k with ⟨hstreams, -⟩ | ⟨hstreams, -⟩
  · exact h k st (hstreams ▸ hst)
  · rw [hstreams] at hst
    cases hst

/-- stream を一つ閉じる。 -/
theorem released_emitOne (lr : LiveReassembler) {k : Key} {st : Stream} (hends : Stream.Ends k st)
    (reason : String) :
    Released lr (lr.emitOne k st reason).1 (produced [(k, (lr.emitOne k st reason).2)]) := by
  unfold emitOne
  cases hst : lr.streams.get? k with
  | none => exact Released.refl lr
  | some st' =>
    simp only
    refine ⟨fun k' => ?_, fun o ho => ?_, ?_⟩
    · by_cases hk : k' = k
      · subst hk
        exact .inr ⟨Dict.get?_erase_self _ _, Dict.get?_erase_self _ _⟩
      · exact .inl ⟨Dict.get?_erase_of_ne _ hk, Dict.get?_erase_of_ne _ hk⟩
    · obtain ⟨x, hx, hmap⟩ := List.mem_filterMap.mp ho
      rw [List.mem_singleton.mp hx] at hmap
      obtain ⟨sess, hsess, rfl⟩ := Option.map_eq_some_iff.mp hmap
      obtain ⟨hrefs, hjoins⟩ := capture_spec hsess hends
      exact ⟨by rw [hst]; rfl, hrefs, hjoins⟩
    · have hout : ((produced [(k, capture st reason ((lr.refs.get? k).getD []))]).flatMap
          fun o => o.2.rawRefs).Sublist ((lr.refs.get? k).getD []) := by
        cases hsess : capture st reason ((lr.refs.get? k).getD []) with
        | none => exact List.nil_sublist _
        | some sess =>
          show (sess.rawRefs ++ []).Sublist _
          rw [List.append_nil, (capture_spec hsess hends).1]
      have hheld : ((lr.refs.get? k).getD [] ++ (lr.refs.erase k).values.flatten).Perm
          lr.heldRefs := by
        cases hrefs : lr.refs.get? k with
        | none =>
          have hsame : lr.refs.erase k = lr.refs := by
            refine Dict.ext (List.filter_eq_self.mpr fun e he => decide_eq_true fun hk => ?_)
            rw [(Dict.get?_eq_none_iff _ _)] at hrefs
            exact hrefs (hk ▸ List.mem_map_of_mem he)
          rw [hsame]
          exact List.Perm.refl _
        | some refs => exact ((Dict.values_perm_cons_erase hrefs).flatten).symm
      exact ((List.subperm_append_right _).mpr hout.subperm).trans hheld.subperm

/-- stream を順に閉じる。 -/
theorem released_closeAll : ∀ (l : List (Key × Stream × String)) (lr : LiveReassembler),
    (∀ e ∈ l, Stream.Ends e.1 e.2.1) →
    Released lr (lr.closeAll l).1 (produced (lr.closeAll l).2) := by
  intro l
  induction l with
  | nil => exact fun lr _ => Released.refl lr
  | cons e l ih =>
    intro lr hl
    obtain ⟨hhead, htail⟩ := List.forall_mem_cons.mp hl
    have hrest := (lr.released_emitOne hhead e.2.2).trans (ih _ htail)
    rw [← produced_append] at hrest
    exact hrest

/-! ### 閉じる列 -/

/-- 閉じる列の stream は key の端点を持ち、理由は数えられるものである。 -/
def Closes (l : List (Key × Stream × String)) : Prop :=
  ∀ e ∈ l, Stream.Ends e.1 e.2.1 ∧ e.2.2 ∈ CLOSE_REASONS

theorem closeReason_mem (st : Stream) : closeReason st ∈ CLOSE_REASONS := by
  unfold closeReason
  split <;> decide

theorem Homed.entry {lr : LiveReassembler} (h : lr.Homed) {e : Key × Stream}
    (he : e ∈ lr.streams.entries) : Stream.Ends e.1 e.2 :=
  h e.1 e.2 ((Dict.mem_entries_iff _ _ _).mp he)

theorem Homed.closable {lr : LiveReassembler} (h : lr.Homed) (limits : Limits) (now : Nat) :
    Closes (lr.closable limits now) := by
  intro e he
  obtain ⟨⟨k, st⟩, hmem, hst⟩ := List.mem_filterMap.mp he
  have hends : Stream.Ends k st := h.entry hmem
  simp only at hst
  split at hst
  · obtain rfl := Option.some.inj hst
    exact ⟨hends, closeReason_mem st⟩
  · split at hst
    · obtain rfl := Option.some.inj hst
      exact ⟨hends, (by decide : "idle" ∈ CLOSE_REASONS)⟩
    · split at hst
      · obtain rfl := Option.some.inj hst
        exact ⟨hends, (by decide : "cap" ∈ CLOSE_REASONS)⟩
      · cases hst

theorem Homed.overflow {lr : LiveReassembler} (h : lr.Homed) (limits : Limits) :
    Closes (lr.overflow limits) := by
  intro e he
  obtain ⟨⟨k, st⟩, hmem, rfl⟩ := List.mem_map.mp he
  have hactive := (List.mem_insertionSort _).mp (List.mem_of_mem_take hmem)
  exact ⟨h.entry (List.mem_filter.mp hactive).1, (by decide : "evicted" ∈ CLOSE_REASONS)⟩

theorem Homed.finished {lr : LiveReassembler} (h : lr.Homed) : Closes lr.finished := by
  intro e he
  obtain ⟨⟨k, st⟩, hmem, hst⟩ := List.mem_filterMap.mp he
  simp only at hst
  split at hst
  · obtain rfl := Option.some.inj hst
    exact ⟨h.entry hmem, closeReason_mem st⟩
  · cases hst

theorem released_sweep {lr : LiveReassembler} (h : lr.Homed) (limits : Limits) (now : Nat) :
    Released lr (lr.sweep limits now).1 (produced (lr.sweep limits now).2) := by
  have hclosed := released_closeAll (lr.closable limits now) lr fun e he =>
    (h.closable limits now e he).1
  have hhomed := h.released hclosed
  have hevicted := released_closeAll ((lr.closeAll (lr.closable limits now)).1.overflow limits)
    (lr.closeAll (lr.closable limits now)).1 fun e he => (hhomed.overflow limits e he).1
  have hboth := hclosed.trans hevicted
  rw [← produced_filter ((lr.closeAll (lr.closable limits now)).1.closeAll _).2,
    ← produced_append] at hboth
  exact hboth

theorem released_drain {lr : LiveReassembler} (h : lr.Homed) :
    Released lr lr.drain.1 (produced lr.drain.2) := by
  have hclosed := released_closeAll lr.finished lr fun e he => (h.finished e he).1
  rw [← produced_filter] at hclosed
  exact hclosed

end LiveReassembler

/-! ## packet と sweep と drain の列 -/

/-- 再構成の事象。 -/
inductive ReassemblerEvent where
  | packet (p : LivePacket)
  | sweep (now : Nat)
  | drain

namespace ReassemblerEvent

/-- 端点の組 `k` の packet の控え。 -/
def refsOn (k : Key) : ReassemblerEvent → List (List Json)
  | packet p => if key p.src p.sport p.dst p.dport = some k then p.rawRef.toList else []
  | sweep _ => []
  | drain => []

/-- packet の控え。 -/
def refs : ReassemblerEvent → List (List Json)
  | packet p => p.rawRef.toList
  | sweep _ => []
  | drain => []

end ReassemblerEvent

namespace CountedReassembler

/-- 事象一つと、出る session。 -/
def step (limits : Limits) (c : CountedReassembler) :
    ReassemblerEvent → CountedReassembler × List (Key × CapturedSession)
  | .packet p => (c.feedPacket p, [])
  | .sweep now => ((c.sweep limits now).1, produced (c.sweep limits now).2)
  | .drain => (c.drain.1, produced c.drain.2)

variable {limits : Limits} {c : CountedReassembler}

theorem streams_feedPacket {p : LivePacket} {k : Key}
    (hk : key p.src p.sport p.dst p.dport = some k) :
    (c.feedPacket p).live.streams =
      c.live.streams.set k ((ParityState.streamAt c.live.streams k p.ts).feed k p.toPacket) :=
  ParityState.streams_feedPacket c.live hk

theorem refs_feedPacket {p : LivePacket} {k : Key} (hk : key p.src p.sport p.dst p.dport = some k) :
    (c.feedPacket p).live.refs = match p.rawRef with
      | none => c.live.refs
      | some ref => c.live.refs.set k ((c.live.refs.get? k).getD [] ++ [ref]) := by
  show (c.live.feedPacket p).refs = _
  unfold LiveReassembler.feedPacket StreamAssembler.feed
  generalize key p.src p.sport p.dst p.dport = o at hk
  subst hk
  rfl

theorem live_feedPacket_none {p : LivePacket} (hk : key p.src p.sport p.dst p.dport = none) :
    (c.feedPacket p).live = c.live :=
  ParityState.streams_feedPacket_none c.live hk

/-- stream を閉じる事象。 -/
theorem released_step (limits : Limits) (h : c.live.Homed) {e : ReassemblerEvent}
    (he : ∀ p, e ≠ .packet p) :
    LiveReassembler.Released c.live (c.step limits e).1.live (c.step limits e).2 := by
  cases e with
  | packet p => exact absurd rfl (he p)
  | sweep now =>
    obtain ⟨hlive, hout⟩ := live_sweep limits now c
    show LiveReassembler.Released c.live (c.sweep limits now).1.live (produced (c.sweep limits now).2)
    rw [hlive, hout]
    exact LiveReassembler.released_sweep h limits now
  | drain =>
    obtain ⟨hlive, hout⟩ := live_drain c
    show LiveReassembler.Released c.live c.drain.1.live (produced c.drain.2)
    rw [hlive, hout]
    exact LiveReassembler.released_drain h

/-- packet の届いた key では、stream が開いていて、控えが足される。 -/
theorem packet_own {p : LivePacket} {k : Key} (hk : key p.src p.sport p.dst p.dport = some k) :
    ((c.feedPacket p).live.streams.get? k).isSome ∧
      ((c.feedPacket p).live.refs.get? k).getD [] =
        (c.live.refs.get? k).getD [] ++ ReassemblerEvent.refsOn k (.packet p) := by
  have hrefs : ReassemblerEvent.refsOn k (.packet p) = p.rawRef.toList := if_pos hk
  rw [streams_feedPacket hk, refs_feedPacket hk, hrefs]
  refine ⟨by rw [Dict.get?_set_self]; rfl, ?_⟩
  cases p.rawRef with
  | none => exact (List.append_nil _).symm
  | some ref =>
    simp only
    rw [Dict.get?_set_self]
    rfl

/-- ほかの key では、何も起きない。 -/
theorem packet_other {p : LivePacket} {k : Key} (hk : key p.src p.sport p.dst p.dport ≠ some k) :
    (c.feedPacket p).live.streams.get? k = c.live.streams.get? k ∧
      (c.feedPacket p).live.refs.get? k = c.live.refs.get? k ∧
      ReassemblerEvent.refsOn k (.packet p) = [] := by
  have hrefs : ReassemblerEvent.refsOn k (.packet p) = [] := if_neg hk
  cases hkey : key p.src p.sport p.dst p.dport with
  | none =>
    rw [live_feedPacket_none hkey]
    exact ⟨rfl, rfl, hrefs⟩
  | some k' =>
    have hne : ¬k' = k := fun heq => hk (by rw [hkey, heq])
    rw [streams_feedPacket hkey, refs_feedPacket hkey]
    refine ⟨Dict.get?_set_of_ne _ _ hne, ?_, hrefs⟩
    cases p.rawRef with
    | none => rfl
    | some ref => exact Dict.get?_set_of_ne _ _ hne

/-- **事象一つの、key `k` への働き。** stream に packet が届くか、何も起きないか、stream が控えとともに消える。 -/
theorem step_key (limits : Limits) (h : c.live.Homed) (e : ReassemblerEvent) (k : Key) :
    (((c.step limits e).1.live.streams.get? k).isSome ∧
      ((c.step limits e).1.live.refs.get? k).getD [] =
        (c.live.refs.get? k).getD [] ++ e.refsOn k) ∨
    ((c.step limits e).1.live.streams.get? k = c.live.streams.get? k ∧
      (c.step limits e).1.live.refs.get? k = c.live.refs.get? k ∧ e.refsOn k = []) ∨
    ((c.step limits e).1.live.streams.get? k = none ∧
      (c.step limits e).1.live.refs.get? k = none) := by
  cases e with
  | packet p =>
    by_cases hk : key p.src p.sport p.dst p.dport = some k
    · exact .inl (packet_own hk)
    · exact .inr (.inl (packet_other hk))
  | sweep now =>
    rcases (released_step limits h (e := .sweep now) (by simp)).kept k with ⟨hs, hr⟩ | hgone
    · exact .inr (.inl ⟨hs, hr, rfl⟩)
    · exact .inr (.inr hgone)
  | drain =>
    rcases (released_step limits h (e := .drain) (by simp)).kept k with ⟨hs, hr⟩ | hgone
    · exact .inr (.inl ⟨hs, hr, rfl⟩)
    · exact .inr (.inr hgone)

/-- stream の無い key には、控えも無いままである。 -/
theorem orphan_step (h : c.live.Homed) {k : Key}
    (horphan : c.live.streams.get? k = none → c.live.refs.get? k = none) (e : ReassemblerEvent)
    (hnone : (c.step limits e).1.live.streams.get? k = none) :
    (c.step limits e).1.live.refs.get? k = none := by
  rcases step_key limits h e k with ⟨hsome, -⟩ | ⟨hstreams, hrefs, -⟩ | ⟨-, hgone⟩
  · rw [hnone] at hsome
    cases hsome
  · exact hrefs.trans (horphan (hstreams.symm.trans hnone))
  · exact hgone

/-- 事象の後に開いている stream の控えは、前の控えに、届いた packet のものを足したものである。 -/
theorem refs_of_open (h : c.live.Homed) {k : Key} {e : ReassemblerEvent}
    (hopen : ((c.step limits e).1.live.streams.get? k).isSome) :
    ((c.step limits e).1.live.refs.get? k).getD [] =
      (c.live.refs.get? k).getD [] ++ e.refsOn k := by
  rcases step_key limits h e k with ⟨-, hfed⟩ | ⟨-, hsame, hnil⟩ | ⟨hgone, -⟩
  · exact hfed
  · rw [hsame, hnil, List.append_nil]
  · rw [hgone] at hopen
    cases hopen

theorem homed_step (h : c.live.Homed) (e : ReassemblerEvent) : (c.step limits e).1.live.Homed := by
  cases e with
  | packet p =>
    show (c.feedPacket p).live.Homed
    cases hk : key p.src p.sport p.dst p.dport with
    | none =>
      rw [live_feedPacket_none hk]
      exact h
    | some k =>
      intro k' st hst
      rw [streams_feedPacket hk, Dict.get?_set] at hst
      split at hst
      · next hkk =>
        obtain rfl := hkk
        obtain rfl := Option.some.inj hst
        have hends : Stream.Ends k (ParityState.streamAt c.live.streams k p.ts) := by
          unfold ParityState.streamAt
          cases hold : c.live.streams.get? k with
          | none => exact ⟨rfl, rfl, rfl, rfl⟩
          | some st => exact h k st hold
        obtain ⟨hipA, hportA, hipB, hportB, -⟩ := Stream.feed_frame
          (ParityState.streamAt c.live.streams k p.ts) k p.toPacket
        unfold Stream.Ends
        rw [hipA, hportA, hipB, hportB]
        exact hends
      · exact h k' st hst
  | sweep now => exact h.released (released_step limits h (e := .sweep now) (by simp))
  | drain => exact h.released (released_step limits h (e := .drain) (by simp))

/-- 出る session は、key の stream の控えを持つ。 -/
theorem sessions_step (h : c.live.Homed) {e : ReassemblerEvent} :
    ∀ o ∈ (c.step limits e).2, (c.live.streams.get? o.1).isSome ∧
      o.2.rawRefs = (c.live.refs.get? o.1).getD [] ∧ Joins o.1 o.2 := by
  intro o ho
  cases e with
  | packet p => cases ho
  | sweep now => exact (released_step limits h (e := .sweep now) (by simp)).sessions o ho
  | drain => exact (released_step limits h (e := .drain) (by simp)).sessions o ho

/-- 出る session の控えと、残る控えは、前からのものと届いた packet のものである。 -/
theorem refs_step (h : c.live.Homed) (e : ReassemblerEvent) :
    (((c.step limits e).2.flatMap fun o => o.2.rawRefs) ++
      (c.step limits e).1.live.heldRefs).Subperm (c.live.heldRefs ++ e.refs) := by
  have hrelease : ∀ e : ReassemblerEvent, (∀ p, e ≠ .packet p) → e.refs = [] →
      (((c.step limits e).2.flatMap fun o => o.2.rawRefs) ++
        (c.step limits e).1.live.heldRefs).Subperm (c.live.heldRefs ++ e.refs) := by
    intro e he hrefs
    rw [hrefs, List.append_nil]
    exact (released_step limits h he).refs
  cases e with
  | packet p =>
    show (c.feedPacket p).live.heldRefs.Subperm (c.live.heldRefs ++ p.rawRef.toList)
    cases hk : key p.src p.sport p.dst p.dport with
    | none =>
      rw [live_feedPacket_none hk]
      exact (List.sublist_append_left _ _).subperm
    | some k =>
      unfold LiveReassembler.heldRefs
      rw [refs_feedPacket hk]
      cases p.rawRef with
      | none => exact (List.sublist_append_left _ _).subperm
      | some ref =>
        have hset := Dict.flatMap_values_set (g := fun refs : List (List Json) => refs)
          (d := c.live.refs) (k := k) (v := (c.live.refs.get? k).getD [] ++ [ref]) (x := [ref])
          (by cases c.live.refs.get? k <;> rfl)
        rw [List.flatMap_id', List.flatMap_id'] at hset
        exact hset.subperm
  | sweep now => exact hrelease (.sweep now) (by simp) rfl
  | drain => exact hrelease .drain (by simp) rfl

/-- 事象一つは、統計の釣り合いを保つ。 -/
theorem balanced_step (hhomed : c.live.Homed) (h : c.stats.Balanced) (e : ReassemblerEvent) :
    (c.step limits e).1.stats.Balanced := by
  cases e with
  | packet p => exact h
  | sweep now =>
    have hclosed := balanced_closeAll (c.live.closable limits now) h fun e he =>
      (hhomed.closable limits now e he).2
    have hlive := hhomed.released (LiveReassembler.released_closeAll (c.live.closable limits now)
      c.live fun e he => (hhomed.closable limits now e he).1)
    rw [← (live_closeAll (c.live.closable limits now) c).1] at hlive
    exact balanced_evictAll _ hclosed fun e he => (hlive.overflow limits e he).2
  | drain => exact balanced_closeAll c.live.finished h fun e he => (hhomed.finished e he).2

end CountedReassembler

/-- 再構成と、出した session。 -/
structure SessionLog where
  reassembler : CountedReassembler := {}
  emitted : List (Key × CapturedSession) := []

namespace SessionLog

/-- 事象一つ。 -/
def step (limits : Limits) (s : SessionLog) (e : ReassemblerEvent) : SessionLog :=
  { reassembler := (s.reassembler.step limits e).1
    emitted := s.emitted ++ (s.reassembler.step limits e).2 }

/-- 空から始めて、事象の列の後の再構成。 -/
def liveAfter (limits : Limits) (es : List ReassemblerEvent) : LiveReassembler :=
  (Run.exec (step limits) {} es).reassembler.live

variable {limits : Limits}

/-- `before` の後に `k` の stream は無く、`since` の一つ目の事象で開いて、それから開いたままである。 -/
def Opened (limits : Limits) (k : Key) (before since : List ReassemblerEvent) : Prop :=
  (liveAfter limits before).streams.get? k = none ∧
    ∀ mid, mid ≠ [] → mid <+: since → ((liveAfter limits (before ++ mid)).streams.get? k).isSome

theorem Opened.concat {k : Key} {before since : List ReassemblerEvent}
    (h : Opened limits k before since) {e : ReassemblerEvent}
    (hopen : ((liveAfter limits (before ++ since ++ [e])).streams.get? k).isSome) :
    Opened limits k before (since ++ [e]) := by
  refine ⟨h.1, fun mid hne hmid => ?_⟩
  rcases List.prefix_concat_iff.mp hmid with rfl | hmid
  · rwa [← List.append_assoc]
  · exact h.2 mid hne hmid

/-- 開いている stream の控えは、開いてから届いた packet のものである。 -/
structure Linked (limits : Limits) (es : List ReassemblerEvent) (s : SessionLog) : Prop where
  homed : s.reassembler.live.Homed
  orphan : ∀ k, s.reassembler.live.streams.get? k = none → s.reassembler.live.refs.get? k = none
  opened : ∀ k, (s.reassembler.live.streams.get? k).isSome →
    ∃ before since, es = before ++ since ∧ Opened limits k before since ∧
      (s.reassembler.live.refs.get? k).getD [] = since.flatMap (ReassemblerEvent.refsOn k)
  refs : ((s.emitted.flatMap fun o => o.2.rawRefs) ++ s.reassembler.live.heldRefs).Subperm
    (es.flatMap ReassemblerEvent.refs)
  balanced : s.reassembler.stats.Balanced

theorem liveAfter_concat (es : List ReassemblerEvent) (e : ReassemblerEvent) :
    liveAfter limits (es ++ [e]) =
      ((Run.exec (step limits) {} es).reassembler.step limits e).1.live := by
  unfold liveAfter
  rw [Run.exec_append]
  rfl

/-- 前に無かった stream は、いま開いた。 -/
theorem Opened.start {k : Key} {es : List ReassemblerEvent} {e : ReassemblerEvent}
    (hnone : (liveAfter limits es).streams.get? k = none)
    (hopen : ((liveAfter limits (es ++ [e])).streams.get? k).isSome) : Opened limits k es [e] := by
  refine ⟨hnone, fun mid hne hmid => ?_⟩
  rcases List.prefix_concat_iff.mp (List.nil_append [e] ▸ hmid) with rfl | hmid
  · exact hopen
  · exact absurd (List.prefix_nil.mp hmid) hne

/-- 開いている stream は、前から開いていたか、いま開いた。 -/
theorem Linked.opened_step {es : List ReassemblerEvent} (e : ReassemblerEvent)
    (h : Linked limits es (Run.exec (step limits) {} es)) {k : Key}
    (hopen : ((liveAfter limits (es ++ [e])).streams.get? k).isSome) :
    ∃ before since, es ++ [e] = before ++ since ∧ Opened limits k before since ∧
      ((liveAfter limits (es ++ [e])).refs.get? k).getD [] =
        since.flatMap (ReassemblerEvent.refsOn k) := by
  have hrefs : ((liveAfter limits (es ++ [e])).refs.get? k).getD [] =
      ((liveAfter limits es).refs.get? k).getD [] ++ e.refsOn k := by
    rw [liveAfter_concat] at hopen ⊢
    exact CountedReassembler.refs_of_open h.homed hopen
  cases hold : (liveAfter limits es).streams.get? k with
  | some st =>
    obtain ⟨before, since, rfl, hopened, hsince⟩ := h.opened k (Option.isSome_of_eq_some hold)
    refine ⟨before, since ++ [e], List.append_assoc .., hopened.concat hopen, ?_⟩
    rw [hrefs, List.flatMap_append, List.flatMap_singleton, ← hsince]
    rfl
  | none =>
    refine ⟨es, [e], rfl, Opened.start hold hopen, ?_⟩
    have hempty : (liveAfter limits es).refs.get? k = none := h.orphan k hold
    rw [hrefs, hempty, List.flatMap_singleton]
    rfl

theorem Linked.step {es : List ReassemblerEvent} (e : ReassemblerEvent)
    (h : Linked limits es (Run.exec (step limits) {} es)) :
    Linked limits (es ++ [e])
      (SessionLog.step limits (Run.exec (SessionLog.step limits) {} es) e) where
  homed := CountedReassembler.homed_step h.homed e
  orphan := fun k hnone => CountedReassembler.orphan_step h.homed (h.orphan k) e hnone
  opened := by
    intro k hopen
    have hstep := h.opened_step e (k := k)
    rw [liveAfter_concat] at hstep
    exact hstep hopen
  refs := by
    generalize Run.exec (SessionLog.step limits) {} es = s at h
    show (((s.emitted ++ (s.reassembler.step limits e).2).flatMap fun o => o.2.rawRefs) ++
      (s.reassembler.step limits e).1.live.heldRefs).Subperm _
    rw [List.flatMap_append, List.append_assoc, List.flatMap_append, List.flatMap_singleton]
    refine ((List.subperm_append_left _).mpr (CountedReassembler.refs_step h.homed e)).trans ?_
    rw [← List.append_assoc]
    exact (List.subperm_append_right _).mpr h.refs
  balanced := CountedReassembler.balanced_step h.homed h.balanced e

theorem linked_exec (limits : Limits) (es : List ReassemblerEvent) :
    Linked limits es (Run.exec (step limits) {} es) := by
  have hempty : Linked limits [] {} :=
    ⟨fun _ _ h => (by cases h), fun _ _ => rfl, fun _ h => (by cases h), List.Subperm.refl _, rfl⟩
  exact Run.history (I := Linked limits) hempty (fun _ e h => h.step e) es

end SessionLog

/--
**どの packet と sweep と drain の列でも、次に出るどの session も、その端点の組の stream が開いてから届いた packet の控えを、届いた順に
持つ。** 出た session の控えを全て合わせても、届いた packet の控えの一部である。理由ごとの数の和は、いつも出した数に等しい。
-/
theorem session_refs_linked (limits : Limits) (es : List ReassemblerEvent) :
    let s := Run.exec (SessionLog.step limits) {} es
    (∀ e, ∀ o ∈ (s.reassembler.step limits e).2, Joins o.1 o.2 ∧
      ∃ before since, es = before ++ since ∧ SessionLog.Opened limits o.1 before since ∧
        o.2.rawRefs = since.flatMap (ReassemblerEvent.refsOn o.1)) ∧
    (s.emitted.flatMap fun o => o.2.rawRefs).Subperm (es.flatMap ReassemblerEvent.refs) ∧
    ((es.flatMap ReassemblerEvent.refs).Nodup →
      s.emitted.Pairwise fun o o' => o.2.rawRefs.Disjoint o'.2.rawRefs) ∧
    s.reassembler.stats.completed = s.reassembler.stats.closedFin + s.reassembler.stats.closedRst +
      s.reassembler.stats.closedIdle + s.reassembler.stats.closedCap := by
  intro s
  have h : SessionLog.Linked limits es s := SessionLog.linked_exec limits es
  have hsub : (s.emitted.flatMap fun o => o.2.rawRefs).Subperm (es.flatMap ReassemblerEvent.refs) :=
    (List.sublist_append_left _ _).subperm.trans h.refs
  refine ⟨fun e o ho => ?_, hsub, fun hnodup => ?_, h.balanced⟩
  · obtain ⟨hopen, hrefs, hjoins⟩ := CountedReassembler.sessions_step h.homed o ho
    obtain ⟨before, since, hes, hopened, hheld⟩ := h.opened o.1 hopen
    exact ⟨hjoins, before, since, hes, hopened, hrefs.trans hheld⟩
  · obtain ⟨l, hperm, hsublist⟩ := hsub
    have hall : (s.emitted.flatMap fun o => o.2.rawRefs).Nodup :=
      hperm.nodup_iff.mp (hsublist.nodup hnodup)
    exact (List.nodup_flatMap.mp hall).2

/-- SMTP の port への RST。 -/
def resetPacket : LivePacket where
  src := .str "10.0.0.1"
  dst := .str "10.0.0.2"
  sport := 40000
  dport := 25
  seq := 0
  ack := 0
  payload := []
  flags := 4
  ts := 1
  rawRef := some [.str "cap-0.seg", .int 0, .int 24]

/-- RST の後の drain は session を一つ出し、その控えは RST の packet のものである。 -/
theorem session_refs_linked_reset :
    ((Run.exec (SessionLog.step {}) {} [.packet resetPacket]).reassembler.step {} .drain).2.length = 1 ∧
    ∀ o ∈ ((Run.exec (SessionLog.step {}) {} [.packet resetPacket]).reassembler.step {} .drain).2,
      Joins o.1 o.2 ∧ ∃ before since, [.packet resetPacket] = before ++ since ∧
        SessionLog.Opened {} o.1 before since ∧
        o.2.rawRefs = since.flatMap (ReassemblerEvent.refsOn o.1) :=
  ⟨by decide +kernel, (session_refs_linked {} [.packet resetPacket]).1 .drain⟩

end CipherPost.Live
