import CipherPost.Agent.DiskQueue
import CipherPost.Agent.Metadata
import CipherPost.Live.BatchParity

/-!
# capture file の再生

`app/agent/agent.py` の `Agent.run_replay`。file の packet を一つずつ `LiveReassembler` に渡し、そのたびに
壁時計の時刻で sweep する。packet の時刻は file のもので、途絶の判定は二つを引き算する。

* `readPcapStreams`・`reconstructSessions` — まとめての再構成（`app/parsing/reassembly.py`）
* `packetFromDpkt`・`runReplay` — 再生
* `Replayable` — 再生が途絶・上限・追い出し・遅れた packet のどれにも当たらないこと
* `replay_matches_reconstruct` — そのとき、解析される session はまとめての再構成のものである

frame は dpkt が読んだ後のものから始める。時刻は µs の自然数である。
-/

namespace CipherPost.Agent

open Parsing Live

/-! ## frame -/

/-- TCP の header の、読まれる部分。 -/
structure TcpSegment where
  sport : Nat
  dport : Nat
  seq : Nat
  ack : Nat
  flags : Nat
  payload : Bytes
  deriving DecidableEq

/-- Ethernet の中身。`tcp` の `none` は、dpkt が segment を読めなかったものである。 -/
inductive Network where
  | ipv4 (src dst : UInt8 × UInt8 × UInt8 × UInt8) (proto : Nat) (tcp : Option TcpSegment)
  | ipv6 (src dst : Bytes) (proto : Nat) (tcp : Option TcpSegment)
  | other
  deriving DecidableEq

/-- capture file の一つの frame。`net` の `none` は Ethernet として読めなかったものである。 -/
structure Frame where
  ts : Nat
  net : Option Network
  deriving DecidableEq

/-- `IP_PROTO_TCP`。 -/
def IP_PROTO_TCP : Nat := 6

/-- 四つの bytes の address の文字列。 -/
def addrText (a : UInt8 × UInt8 × UInt8 × UInt8) : Addr :=
  .str (Addr.bytes [a.1, a.2.1, a.2.2.1, a.2.2.2]).ipStr

/-- segment の packet。 -/
def TcpSegment.packet (tcp : TcpSegment) (src dst : Addr) (ts : Nat) : Packet where
  src := src
  dst := dst
  sport := tcp.sport
  dport := tcp.dport
  seq := tcp.seq
  ack := tcp.ack
  payload := tcp.payload
  flags := tcp.flags
  ts := ts

/-- `read_pcap_streams` が frame から `feed` に渡すもの。IPv4 の TCP だけである。 -/
def batchPacket (f : Frame) : Option Packet :=
  match f.net with
  | some (.ipv4 src dst proto (some tcp)) =>
    if proto = IP_PROTO_TCP then some (tcp.packet (addrText src) (addrText dst) f.ts) else none
  | _ => none

/-- `read_pcap_streams`。 -/
def readPcapStreams (frames : List Frame) : StreamAssembler :=
  feedTrace {} (frames.filterMap batchPacket)

/-- `reconstruct_sessions`。 -/
def reconstructSessions (frames : List Frame) : List Session :=
  (readPcapStreams frames).emit.map Prod.snd

/-- `packet_from_dpkt`。IPv6 の address は生の bytes のままである。 -/
def packetFromDpkt (f : Frame) : Option LivePacket :=
  match f.net with
  | some (.ipv4 src dst proto (some tcp)) =>
    if proto = IP_PROTO_TCP then
      some { toPacket := tcp.packet (addrText src) (addrText dst) f.ts }
    else none
  | some (.ipv6 src dst proto (some tcp)) =>
    if proto = IP_PROTO_TCP then some { toPacket := tcp.packet (.bytes src) (.bytes dst) f.ts }
    else none
  | _ => none

/-- IPv6 の TCP の frame。再生だけが読む。 -/
def Frame.isTcp6 (f : Frame) : Bool :=
  match f.net with
  | some (.ipv6 _ _ proto (some _)) => decide (proto = IP_PROTO_TCP)
  | _ => false

/-- IPv6 の TCP でない frame は、どちらの読み方でも同じ packet になる。 -/
theorem batchPacket_eq {f : Frame} (h : f.isTcp6 = false) :
    batchPacket f = (packetFromDpkt f).map (·.toPacket) := by
  obtain ⟨ts, net⟩ := f
  rcases net with _ | ⟨src, dst, proto, _ | tcp⟩ | ⟨src, dst, proto, _ | tcp⟩ | _
  case some.ipv4.some =>
    show (if proto = IP_PROTO_TCP then _ else _) = Option.map _ (if proto = IP_PROTO_TCP then _ else _)
    split <;> rfl
  case some.ipv6.some =>
    have hp : proto ≠ IP_PROTO_TCP := of_decide_eq_false h
    show none = Option.map _ (if proto = IP_PROTO_TCP then _ else _)
    rw [if_neg hp]
    rfl
  all_goals rfl

/-! ## 再生 -/

/-- sensor の設定と、`src/` の外の library。 -/
structure Sensor where
  analyzer : Analyzer
  host : HostLib
  agentId : String
  addrMode : AddrMode
  /-- queue に書かれる行の bytes の数。 -/
  size : List (String × Json) → Nat
  maxBytes : Nat

/-- 再生の途中の状態。`analysed` は `analyze_session` に渡った session である。 -/
structure ReplayState where
  asm : LiveReassembler := {}
  n : Nat := 0
  analysed : List CapturedSession := []
  queue : DiskQueue (List (String × Json)) := {}

/-- session の metadata。解析の例外で失われる。 -/
def metadataOf (sensor : Sensor) (sess : CapturedSession) : Option (List (String × Json)) :=
  match analyzeSession sensor.analyzer sess.toSession with
  | .ok sa => some (sessionToMetadata sensor.host sess.toSession sa sensor.agentId sensor.addrMode)
  | .error _ => none

/-- `_handle_session`。`None` の解析は AttributeError で、何も残らない。 -/
def handleSession (sensor : Sensor) (s : ReplayState) : Option CapturedSession → ReplayState
  | none => s
  | some sess =>
    { s with
      analysed := s.analysed ++ [sess]
      queue := match metadataOf sensor sess with
        | some item => s.queue.append sensor.size sensor.maxBytes item
        | none => s.queue }

/-- 閉じて出た列の `_handle_session`。 -/
def handleAll (sensor : Sensor) (s : ReplayState) (out : List (Key × Option CapturedSession)) :
    ReplayState := out.foldl (fun s o => handleSession sensor s o.2) s

/-- packet 一つ。`now` は直後の `tick` の読む時計である。 -/
def replayPacket (sensor : Sensor) (limits : Limits) (now : Nat) (s : ReplayState)
    (p : LivePacket) : ReplayState :=
  let (asm, out) := (s.asm.feedPacket p).sweep limits now
  handleAll sensor { s with asm := asm, n := s.n + 1 } out

/-- 終わりの `tick` の時計の進み。 -/
def finalSkip : Nat := 9999 * 1000000

/-- loop の後。`now` は終わりの `tick` の時刻である。 -/
def finishReplay (sensor : Sensor) (limits : Limits) (now : Nat) (s : ReplayState) :
    ReplayState :=
  let (asm, out) := s.asm.sweep limits now
  let (asm, rest) := asm.drain
  handleAll sensor { s with asm := asm } (out ++ rest)

/-- 残りの packet の再生。`_stop` が立っていれば、終わりの `tick` をせずに戻る。 -/
def replayLoop (sensor : Sensor) (limits : Limits) (clock : Nat → Nat) (stop : Nat → Bool) :
    List LivePacket → ReplayState → ReplayState
  | [], s => finishReplay sensor limits (clock s.n + finalSkip) s
  | p :: rest, s =>
    if stop s.n then s
    else replayLoop sensor limits clock stop rest (replayPacket sensor limits (clock s.n) s p)

/-- `run_replay`。`clock i` と `stop i` は、packet を `i` 個読んだ所での値である。 -/
def runReplay (sensor : Sensor) (clock : Nat → Nat) (stop : Nat → Bool)
    (paths : List (List Frame)) : ReplayState :=
  replayLoop sensor {} clock stop (paths.flatten.filterMap packetFromDpkt) {}

/-! ## 並べた系としての再生 -/

/-- packet と、その直後の sweep。 -/
def replayEvents (clock : Nat → Nat) : Nat → List LivePacket → List ParityEvent
  | _, [] => []
  | n, p :: rest => .packet p :: .sweep (clock n) :: replayEvents clock (n + 1) rest

/-- `queue` に積まれる item。 -/
def enqueueAll (sensor : Sensor) (queue : DiskQueue (List (String × Json)))
    (sessions : List CapturedSession) : DiskQueue (List (String × Json)) :=
  (sessions.filterMap (metadataOf sensor)).foldl
    (DiskQueue.append sensor.size sensor.maxBytes) queue

theorem handleAll_spec (sensor : Sensor) : ∀ (out : List (Key × Option CapturedSession))
    (s : ReplayState), (handleAll sensor s out).asm = s.asm ∧ (handleAll sensor s out).n = s.n ∧
      (handleAll sensor s out).analysed = s.analysed ++ out.filterMap Prod.snd ∧
      (handleAll sensor s out).queue = enqueueAll sensor s.queue (out.filterMap Prod.snd) := by
  intro out
  induction out with
  | nil => exact fun s => ⟨rfl, rfl, (List.append_nil _).symm, rfl⟩
  | cons o out ih =>
    intro s
    obtain ⟨k, o⟩ := o
    obtain ⟨hasm, hn, hanalysed, hqueue⟩ := ih (handleSession sensor s o)
    cases o with
    | none => exact ⟨hasm, hn, hanalysed, hqueue⟩
    | some sess =>
      refine ⟨hasm, hn, hanalysed.trans (List.append_assoc _ _ _), ?_⟩
      refine Eq.trans hqueue ?_
      unfold enqueueAll handleSession
      cases hmeta : metadataOf sensor sess <;> simp [hmeta]

/-- 再生の状態が、並べた系の状態に対応する。 -/
structure Mirrors (sensor : Sensor) (s : ReplayState) (t : ParityState) : Prop where
  asm : s.asm = t.live
  analysed : s.analysed = t.out.filterMap Prod.snd
  queue : s.queue = enqueueAll sensor {} s.analysed

/-- 閉じて出た列を扱っても、対応は保たれる。 -/
theorem mirrors_handleAll {sensor : Sensor} {s : ReplayState} {t : ParityState}
    (h : s.analysed = t.out.filterMap Prod.snd) (hqueue : s.queue = enqueueAll sensor {} s.analysed)
    (asm : LiveReassembler) (n : Nat) (out : List (Key × Option CapturedSession)) :
    Mirrors sensor (handleAll sensor { s with asm := asm, n := n } out)
      { t with live := asm, out := t.out ++ out } := by
  obtain ⟨hasm, -, hanalysed, hall⟩ := handleAll_spec sensor out { s with asm := asm, n := n }
  refine ⟨hasm, ?_, ?_⟩
  · rw [hanalysed, List.filterMap_append, ← h]
  · rw [hall, hanalysed]
    unfold enqueueAll
    rw [List.filterMap_append, List.foldl_append]
    show List.foldl _ s.queue _ = _
    rw [hqueue]
    rfl

section
variable {sensor : Sensor} {limits : Limits}

/-- 一つの packet の再生は、packet と sweep の二歩である。 -/
theorem mirrors_replayPacket {s : ReplayState} {t : ParityState} (h : Mirrors sensor s t)
    (now : Nat) (p : LivePacket) :
    Mirrors sensor (replayPacket sensor limits now s p)
      (Run.exec (ParityState.step limits) t [.packet p, .sweep now]) := by
  have hm := mirrors_handleAll (t := ParityState.step limits t (.packet p)) h.analysed h.queue
    ((s.asm.feedPacket p).sweep limits now).1 (s.n + 1)
    ((s.asm.feedPacket p).sweep limits now).2
  rw [h.asm] at hm
  unfold replayPacket
  rw [h.asm]
  exact hm

/-- loop は、並べた系の列の実行に終わりの処理を加えたものである。 -/
theorem mirrors_replayLoop {clock : Nat → Nat} {stop : Nat → Bool} (hstop : ∀ i, stop i = false) :
    ∀ (ps : List LivePacket) (s : ReplayState) (t : ParityState), Mirrors sensor s t →
      ∃ s', replayLoop sensor limits clock stop ps s =
          finishReplay sensor limits (clock (s.n + ps.length) + finalSkip) s' ∧
        Mirrors sensor s' (Run.exec (ParityState.step limits) t (replayEvents clock s.n ps)) := by
  intro ps
  induction ps with
  | nil => exact fun s t h => ⟨s, rfl, h⟩
  | cons p ps ih =>
    intro s t h
    have hn : (replayPacket sensor limits (clock s.n) s p).n = s.n + 1 :=
      (handleAll_spec sensor _ _).2.1
    obtain ⟨s', hs', hm⟩ := ih _ _ (mirrors_replayPacket h (clock s.n) p)
    rw [hn] at hs' hm
    refine ⟨s', ?_, hm⟩
    have hlen : s.n + (p :: ps).length = s.n + 1 + ps.length := by
      rw [List.length_cons]
      omega
    rw [replayLoop, hstop, if_neg Bool.false_ne_true, hs', hlen]

/-- 終わりの処理は、もう一度の sweep と `drain` である。 -/
theorem analysed_finishReplay {s : ReplayState} {t : ParityState} (h : Mirrors sensor s t)
    (now : Nat) :
    (finishReplay sensor limits now s).analysed =
        (ParityState.step limits t (.sweep now)).emitted.filterMap Prod.snd ∧
      (finishReplay sensor limits now s).queue =
        enqueueAll sensor {} (finishReplay sensor limits now s).analysed := by
  have hm := mirrors_handleAll h.analysed h.queue
    (s.asm.sweep limits now).1.drain.1 s.n
    ((s.asm.sweep limits now).2 ++ (s.asm.sweep limits now).1.drain.2)
  refine ⟨hm.analysed.trans ?_, hm.queue⟩
  rw [h.asm]
  show List.filterMap _ (t.out ++ (_ ++ _)) = _
  rw [← List.append_assoc]
  rfl

end

/-- 再生の列。終わりの sweep までを含む。 -/
def fullEvents (clock : Nat → Nat) (frames : List Frame) : List ParityEvent :=
  let ps := frames.filterMap packetFromDpkt
  replayEvents clock 0 ps ++ [.sweep (clock ps.length + finalSkip)]

/-- 再生で解析される session は、並べた系の出す session である。 -/
theorem analysed_runReplay (sensor : Sensor) {clock : Nat → Nat} {stop : Nat → Bool}
    (hstop : ∀ i, stop i = false) (frames : List Frame) :
    (runReplay sensor clock stop [frames]).analysed =
        (Run.exec (ParityState.step {}) {} (fullEvents clock frames)).emitted.filterMap Prod.snd ∧
      (runReplay sensor clock stop [frames]).queue =
        enqueueAll sensor {} (runReplay sensor clock stop [frames]).analysed := by
  obtain ⟨s', hs', hm⟩ := @mirrors_replayLoop sensor {} clock stop
    hstop (frames.filterMap packetFromDpkt) {} {} ⟨rfl, rfl, rfl⟩
  have hflat : [frames].flatten = frames := List.append_nil frames
  have hrun : runReplay sensor clock stop [frames] = finishReplay sensor {}
      (clock (0 + (frames.filterMap packetFromDpkt).length) + finalSkip) s' := by
    unfold runReplay
    rw [hflat]
    exact hs'
  obtain ⟨hanalysed, hqueue⟩ := @analysed_finishReplay sensor {} s' _ hm
    (clock (0 + (frames.filterMap packetFromDpkt).length) + finalSkip)
  rw [hrun]
  refine ⟨?_, hqueue⟩
  rw [hanalysed, Nat.zero_add]
  unfold fullEvents
  rw [Run.exec_append, Run.exec_cons, Run.exec_nil]

/-! ## 再生の条件 -/

/-- 閉じた接続に後から届く packet は payload を持たない。 -/
def Bare (s : ParityState) : ParityEvent → Prop
  | .sweep _ => True
  | .packet p =>
    ∀ k, key p.src p.sport p.dst p.dport = some k → s.Closed k → p.payload = []

/--
再生が capture の古さに左右されない条件。

どの sweep も静かで（開いた stream の最後の payload から時計まで 60 秒以内、上限にも追い出しにも当たら
ない）、閉じた接続に後から届く packet は payload を持たず、その接続を再び完結させない。
-/
structure Replayable (clock : Nat → Nat) (stop : Nat → Bool) (frames : List Frame) : Prop where
  running : ∀ i, stop i = false
  ipv4 : ∀ f ∈ frames, f.isTcp6 = false
  calm : Run.Along (ParityState.step {}) (ParityState.Calm {}) {}
    (replayEvents clock 0 (frames.filterMap packetFromDpkt))
  inert : Run.Along (ParityState.step {}) ParityState.Inert {}
    (replayEvents clock 0 (frames.filterMap packetFromDpkt))
  bare : Run.Along (ParityState.step {}) Bare {}
    (replayEvents clock 0 (frames.filterMap packetFromDpkt))
  room : (Run.exec (ParityState.step {}) {}
    (replayEvents clock 0 (frames.filterMap packetFromDpkt))).live.active.length ≤
      ({} : Limits).maxSessions

/-- bytes を見ていない stream。 -/
def Hollow (st : Stream) : Prop := ∀ d, (st.half d).lastTs = 0 ∧ (st.half d).buf = []

theorem Hollow.feed {st : Stream} (h : Hollow st) (k : Key) {p : Packet} (hp : p.payload = []) :
    Hollow (st.feed k p) := by
  intro d
  by_cases hd : d = p.dirA k
  · rw [hd, Stream.half_feed, HalfStream.receive, if_pos hp]
    exact h _
  · rw [Stream.half_feed_of_ne st k p hd]
    exact h d

/-- 閉じた接続の stream は bytes を見ていない。 -/
def Hollowed (s : ParityState) : Prop :=
  ∀ k, s.Closed k → ∀ r, s.live.streams.get? k = some r → Hollow r

theorem hollowed_step {limits : Limits} {s : ParityState} (h : Hollowed s) {e : ParityEvent}
    (hcalm : s.Calm limits e) (hbare : Bare s e) : Hollowed (ParityState.step limits s e) := by
  intro k' hclosed r hr
  cases e with
  | packet p =>
    change (s.live.feedPacket p).streams.get? k' = some r at hr
    cases hk : key p.src p.sport p.dst p.dport with
    | none =>
      rw [ParityState.streams_feedPacket_none _ hk] at hr
      exact h k' hclosed r hr
    | some k =>
      rw [ParityState.streams_feedPacket _ hk] at hr
      by_cases hne : k = k'
      · subst hne
        rw [Dict.get?_set_self, Option.some.injEq] at hr
        subst hr
        refine Hollow.feed ?_ k (hbare k hk hclosed)
        unfold ParityState.streamAt
        cases hg : s.live.streams.get? k with
        | none => exact fun d => by cases d <;> exact ⟨rfl, rfl⟩
        | some r => exact h k hclosed r hg
      · rw [Dict.get?_set_of_ne _ _ hne] at hr
        exact h k' hclosed r hr
  | sweep now =>
    change (s.live.sweep limits now).1.streams.get? k' = some r at hr
    change k' ∈ (s.out ++ (s.live.sweep limits now).2).map Prod.fst at hclosed
    rw [ParityState.sweep_of_calm hcalm] at hr hclosed
    rw [LiveReassembler.get?_closeAll_finished] at hr
    obtain ⟨hst, hopen⟩ := Option.filter_eq_some_iff.mp hr
    rw [List.map_append, List.mem_append, LiveReassembler.keys_closeAll_finished,
      LiveReassembler.mem_finished_iff] at hclosed
    rcases hclosed with hold | ⟨st, hst', hc⟩
    · exact h k' hold r hst
    · rw [hst, Option.some.injEq] at hst'
      rw [hst', hc] at hopen
      cases hopen

/-- どの接続も完結していれば、終わりの sweep は途絶にも上限にも当たらない。 -/
theorem calm_final {limits : Limits} {s : ParityState} (htwins : s.Twins) (hollow : Hollowed s)
    (hcomplete : ∀ e ∈ s.batch.streams.entries, e.2.complete = true)
    (hroom : s.live.active.length ≤ limits.maxSessions) (now : Nat) :
    s.Calm limits (.sweep now) := by
  refine ⟨fun e he hc => ?_, hroom⟩
  obtain ⟨k, st⟩ := e
  have hst := (Dict.mem_entries_iff _ _ _).mp he
  by_cases hclosed : s.Closed k
  · have ha := hollow k hclosed st hst true
    have hb := hollow k hclosed st hst false
    have hlast : lastTs st = 0 := by
      show max st.ha.lastTs st.hb.lastTs = 0
      rw [show st.ha.lastTs = 0 from ha.1, show st.hb.lastTs = 0 from hb.1]
      rfl
    have hbytes : bufferedBytes st = 0 := by
      show st.ha.buf.length + st.hb.buf.length = 0
      rw [show st.ha.buf = [] from ha.2, show st.hb.buf = [] from hb.2]
      rfl
    exact ⟨by simp [isIdle, hlast], by simp [overCap, hbytes]⟩
  · -- 開いたままの接続は、まとめての再構成と同じ stream を持つ
    have hbatch := (htwins k).same hclosed
    rw [hst] at hbatch
    have hdone := hcomplete (k, st) ((Dict.mem_entries_iff _ _ _).mpr hbatch.symm)
    exact absurd (hc.symm.trans hdone) Bool.false_ne_true

/-- 再生の列の packet は、file の packet である。 -/
theorem packetsOf_replayEvents (clock : Nat → Nat) : ∀ (ps : List LivePacket) (n : Nat),
    packetsOf (replayEvents clock n ps) = ps.map (·.toPacket) := by
  intro ps
  induction ps with
  | nil => exact fun n => rfl
  | cons p ps ih => exact fun n => congrArg (p.toPacket :: ·) (ih (n + 1))

/-- IPv6 の無い file では、再生もまとめての再構成と同じ packet を読む。 -/
theorem batch_replayEvents (clock : Nat → Nat) {frames : List Frame}
    (h : ∀ f ∈ frames, f.isTcp6 = false) :
    (Run.exec (ParityState.step {}) {}
      (replayEvents clock 0 (frames.filterMap packetFromDpkt))).batch = readPcapStreams frames := by
  have hpackets : (frames.filterMap packetFromDpkt).map (·.toPacket) =
      frames.filterMap batchPacket := by
    rw [List.map_filterMap]
    exact List.filterMap_congr fun f hf => (batchPacket_eq (h f hf)).symm
  rw [ParityState.batch_exec, packetsOf_replayEvents, hpackets]
  rfl

/-! ## 一致 -/

/--
**再生とまとめての再構成の一致。** どの接続も完結する file の再生は、`Replayable` であれば、まとめての
再構成と同じ session を解析し、その metadata を順に queue に積む。
-/
theorem replay_matches_reconstruct (sensor : Sensor) {clock : Nat → Nat} {stop : Nat → Bool}
    {frames : List Frame}
    (hcomplete : ∀ e ∈ (readPcapStreams frames).streams.entries, e.2.complete = true)
    (h : Replayable clock stop frames) :
    (((runReplay sensor clock stop [frames]).analysed.map fun sess => viewOf sess.toSession).Perm
      ((reconstructSessions frames).map viewOf)) ∧
    (runReplay sensor clock stop [frames]).queue =
      enqueueAll sensor {} (runReplay sensor clock stop [frames]).analysed := by
  obtain ⟨hanalysed, hqueue⟩ := @analysed_runReplay sensor clock stop h.running frames
  refine ⟨?_, hqueue⟩
  have hbatch := batch_replayEvents clock h.ipv4
  have htwins : ParityState.Twins (Run.exec (ParityState.step {}) {}
      (replayEvents clock 0 (frames.filterMap packetFromDpkt))) :=
    ParityState.twins_exec h.calm h.inert
  have hhollow : Hollowed (Run.exec (ParityState.step {}) {}
      (replayEvents clock 0 (frames.filterMap packetFromDpkt))) :=
    Run.Along.invariant (I := Hollowed) (fun s e hi hc => hollowed_step hi hc.1 hc.2)
      (h.calm.and h.bare) fun k hk => absurd hk List.not_mem_nil
  have hperm := perm_of_views fun k => (htwins.sweep
    (calm_final htwins hhollow (hbatch ▸ hcomplete) h.room
      (clock (frames.filterMap packetFromDpkt).length + finalSkip))).views k
  rw [ParityState.batch_sweep, hbatch] at hperm
  rw [hanalysed]
  unfold fullEvents
  rwa [Run.exec_append, Run.exec_cons, Run.exec_nil]

/-! ### 例 -/

/-- client からの frame。 -/
def clientFrame (ts seq flags : Nat) (payload : Bytes) : Frame where
  ts := ts
  net := some (.ipv4 (10, 0, 0, 1) (10, 0, 0, 2) 6 (some ⟨40000, 25, seq, 0, flags, payload⟩))

/-- server からの frame。 -/
def serverFrame (ts seq flags : Nat) (payload : Bytes) : Frame where
  ts := ts
  net := some (.ipv4 (10, 0, 0, 2) (10, 0, 0, 1) 6 (some ⟨25, 40000, seq, 0, flags, payload⟩))

/-- 命令を二つ送って両側が閉じる接続。 -/
def smtpFrames : List Frame :=
  [clientFrame 1000000 100 0x18 (ascii "EHLO"), clientFrame 1000001 104 0x18 (ascii "QUIT"),
    clientFrame 1000002 108 0x01 [], serverFrame 1000003 900 0x01 []]

/-- 一秒後から一秒ごとに読む時計と、立たない `_stop`。 -/
def freshClock (n : Nat) : Nat := 2000000 + n * 1000000

theorem replayable_smtpFrames : Replayable freshClock (fun _ => false) smtpFrames where
  running _ := rfl
  ipv4 := by decide
  calm := by
    refine ⟨trivial, ⟨?_, ?_⟩, trivial, ⟨?_, ?_⟩, trivial, ⟨?_, ?_⟩, trivial, ⟨?_, ?_⟩, trivial⟩
    all_goals decide +kernel
  inert := by
    refine ⟨fun k _ hc => absurd hc ?_, trivial, fun k _ hc => absurd hc ?_, trivial,
      fun k _ hc => absurd hc ?_, trivial, fun k _ hc => absurd hc ?_, trivial, trivial⟩
    all_goals exact List.not_mem_nil
  bare := by
    refine ⟨fun k _ hc => absurd hc ?_, trivial, fun k _ hc => absurd hc ?_, trivial,
      fun k _ hc => absurd hc ?_, trivial, fun k _ hc => absurd hc ?_, trivial, trivial⟩
    all_goals exact List.not_mem_nil
  room := by decide +kernel

/-- 証明書を読まない sensor。 -/
def plainSensor : Sensor where
  analyzer :=
    { loadCert := fun _ => .error "unreadable", validateChain := fun _ _ _ => ("unknown", "") }
  host := { sha256 := id, network24 := fun _ => none }
  agentId := "agent"
  addrMode := .full
  size := List.length
  maxBytes := 1000

theorem replay_matches_smtp :
    (((runReplay plainSensor freshClock (fun _ => false) [smtpFrames]).analysed.map
        fun sess => viewOf sess.toSession).Perm ((reconstructSessions smtpFrames).map viewOf)) ∧
      (runReplay plainSensor freshClock (fun _ => false) [smtpFrames]).queue =
        enqueueAll plainSensor {}
          (runReplay plainSensor freshClock (fun _ => false) [smtpFrames]).analysed :=
  replay_matches_reconstruct plainSensor (by decide +kernel) replayable_smtpFrames

/-- 古い file の再生は、payload を持つ packet ごとに session を切る。 -/
theorem replay_splits_old_capture :
    ¬ ∀ (sensor : Sensor) (clock : Nat → Nat) (frames : List Frame),
      (∀ e ∈ (readPcapStreams frames).streams.entries, e.2.complete = true) →
        ((runReplay sensor clock (fun _ => false) [frames]).analysed.map
          fun sess => viewOf sess.toSession).Perm ((reconstructSessions frames).map viewOf) := by
  intro h
  have hperm := h plainSensor (fun _ => 1000000000000) smtpFrames (by decide +kernel)
  rw [(analysed_runReplay plainSensor (fun _ => rfl) smtpFrames).1] at hperm
  have hlength := hperm.length_eq
  rw [List.length_map, List.length_map] at hlength
  revert hlength
  decide +kernel

end CipherPost.Agent
