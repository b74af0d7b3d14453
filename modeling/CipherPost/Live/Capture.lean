import CipherPost.Live.Publisher
import CipherPost.Live.Sweep

/-!
# capture worker の停止

`app/live/capture.py` の `CaptureWorker`。packet を再構成に渡し、sweep で閉じた session を publisher に
渡す。sweep は別の thread が周期ごとに行い、停止の signal の後に、本体の thread が最後にもう一度行って
process を終える。最後の sweep も閉じるのは途絶えた stream だけで、開いたままの stream は失われる。

* `CaptureWorker.step` — packet と、sweep の thread の一歩
* `CaptureWorker.finalDrain` — 停止のときの `_drain`
* `Accounted` — payload を運んだ mail の session が、どれも送られたか、buffer にあるか、捨てて数えられている
* `stop_iff` — どの run のどの停止でも、そうであるための条件

二つの thread の命令は一つずつ交互に進むものとする。metrics への書き込みは失敗しない。
-/

namespace CipherPost.Live

open Parsing

/-- `session_to_payload` の辞書。 -/
abbrev Wire := List (String × Json)

/-- 設定値。 -/
structure CaptureConfig where
  limits : Limits := {}
  /-- `ALLOWED_PORTS`。 -/
  ports : List Nat := [25, 587, 465, 110, 995, 143, 993]
  maxBuffer : Nat := 512

/-- `_emit_sessions` が session 一つを送った結果。 -/
inductive Sending where
  /-- XADD が通る。 -/
  | accepted
  /-- XADD が失敗する。 -/
  | refused
  /-- XADD の前に例外が起きる。 -/
  | broken
  deriving DecidableEq

/-- `CaptureWorker`。 -/
structure CaptureWorker where
  asm : LiveReassembler := {}
  publisher : Publisher Wire := {}
  /-- 例外のために送られなかったもの（記録のみ）。 -/
  failed : List Wire := []
  /-- `_sessions_dropped`。 -/
  sessionsDropped : Nat := 0
  /-- `publish_buffer_depth`。 -/
  depth : Nat := 0
  /-- sweep の thread が、まだ送っていない session。`none` は sweep の合間である。 -/
  pending : Option (List (Option CapturedSession)) := none
  /-- sweep が閉じた session（記録のみ）。 -/
  closed : List Wire := []

/-- packet の到着と、sweep の thread の一歩。 -/
inductive CaptureEvent where
  | packet (p : LivePacket)
  /-- `asm.tick` と、`_emit_sessions` の始めの `flush`。`sent` 個が送れる。 -/
  | tick (now sent : Nat)
  /-- 次の session を送る。 -/
  | emit (o : Sending)

/-- 停止。時刻と、最後の `_drain` の `flush` と各 session の結果。 -/
structure Stop where
  now : Nat
  sent : Nat := 0
  sendings : List Sending := []

namespace CaptureWorker

variable (cfg : CaptureConfig)

/-- 例外のために送られなかった session を数える。 -/
def fail (w : CaptureWorker) (data : Wire) : CaptureWorker :=
  { w with failed := w.failed ++ [data], sessionsDropped := w.sessionsDropped + 1 }

/-- `publisher.publish` と、その例外の扱い。 -/
def offer (w : CaptureWorker) (data : Wire) (ok : Bool) : CaptureWorker :=
  match w.publisher.publish cfg.maxBuffer data ok with
  | some pub => { w with publisher := pub }
  | none => w.fail data

/-- `_emit_sessions` の loop の中。 -/
def send (w : CaptureWorker) (sess : CapturedSession) : Sending → CaptureWorker
  | .accepted => w.offer cfg (sessionToPayload sess) true
  | .refused => w.offer cfg (sessionToPayload sess) false
  | .broken => w.fail (sessionToPayload sess)

/-- `_emit_sessions` の loop。session にならなかった stream は飛ばす。 -/
def sendAll (w : CaptureWorker) : List (Option CapturedSession) → List Sending → CaptureWorker
  | [], _ => w
  | none :: l, os => w.sendAll l os
  | some sess :: l, os => (w.send cfg sess (os.headD .accepted)).sendAll l os.tail

/-- `_emit_sessions` の終わり。 -/
def report (w : CaptureWorker) : CaptureWorker := { w with depth := w.publisher.buf.length }

/-- `asm.tick`。 -/
def swept (w : CaptureWorker) (now : Nat) : CaptureWorker :=
  let (asm, out) := w.asm.sweep cfg.limits now
  { w with asm := asm, closed := w.closed ++ out.filterMap fun o => o.2.map sessionToPayload }

/-- `asm.tick` が返す列。 -/
def tickOut (w : CaptureWorker) (now : Nat) : List (Option CapturedSession) :=
  (w.asm.sweep cfg.limits now).2.map Prod.snd

/-- `publisher.flush`。 -/
def flush (w : CaptureWorker) (sent : Nat) : CaptureWorker :=
  { w with publisher := w.publisher.flush sent }

/-- `_handle_packet`。 -/
def handlePacket (w : CaptureWorker) (p : LivePacket) : CaptureWorker :=
  if p.sport ∈ cfg.ports ∨ p.dport ∈ cfg.ports then { w with asm := w.asm.feedPacket p } else w

/-- sweep の thread の `_drain` の始め。 -/
def tick (w : CaptureWorker) (now sent : Nat) : CaptureWorker :=
  match w.tickOut cfg now with
  | [] => w.swept cfg now
  | o :: out => { (w.swept cfg now).flush sent with pending := some (o :: out) }

/-- sweep の thread の、次の session。 -/
def emitNext (w : CaptureWorker) (o : Sending) : CaptureWorker :=
  match w.pending with
  | none => w
  | some [] => { w.report with pending := none }
  | some (none :: rest) => { w with pending := some rest }
  | some (some sess :: rest) => { w.send cfg sess o with pending := some rest }

/-- 一歩。sweep の thread は、前の session を送り終えてから次の sweep に入る。 -/
def step (w : CaptureWorker) : CaptureEvent → CaptureWorker
  | .packet p => w.handlePacket cfg p
  | .tick now sent => if w.pending.isNone then w.tick cfg now sent else w
  | .emit o => w.emitNext cfg o

/-- 停止のときの `_drain`。閉じた stream が無ければ、buffer には触れない。 -/
def finalDrain (w : CaptureWorker) (stop : Stop) : CaptureWorker :=
  match w.tickOut cfg stop.now with
  | [] => w.swept cfg stop.now
  | o :: out => (((w.swept cfg stop.now).flush stop.sent).sendAll cfg (o :: out) stop.sendings).report

/-! ## session の行き先 -/

/-- payload を運んだ stream。 -/
def carried (st : Stream) : Bool := st.ha.frontier.isSome || st.hb.frontier.isSome

/-- mail の session になる stream。 -/
def isMail (st : Stream) : Bool := st.session.isSome

/-- 開いたままの stream のうち、payload を運んだ mail の session になるもの。 -/
def openSessions (w : CaptureWorker) : List Wire :=
  w.asm.streams.entries.filterMap fun e =>
    if carried e.2 then
      (capture e.2 (closeReason e.2) ((w.asm.refs.get? e.1).getD [])).map sessionToPayload
    else none

/-- publisher に渡されたか、例外で送られなかったもの。 -/
def handled (w : CaptureWorker) : Multiset Wire := w.publisher.held + w.failed

/-- sweep の thread が、まだ送っていない session。 -/
def waiting (w : CaptureWorker) : List Wire :=
  (w.pending.getD []).filterMap (Option.map sessionToPayload)

/--
閉じた session と、開いたままの stream の session は、どれも送られたか、buffer にあって数えられているか、
捨てて数えられている。
-/
structure Accounted (w : CaptureWorker) : Prop where
  disposed : (w.closed + w.openSessions : Multiset Wire) =
    w.publisher.published + w.publisher.buf + w.publisher.discarded + w.failed
  depth : w.depth = w.publisher.buf.length
  discarded : w.publisher.discarded.length = w.publisher.dropped
  failed : w.failed.length = w.sessionsDropped

/-! ## 条件 -/

/-- 停止のとき、sweep の thread は送り終えていて、最後の sweep は payload を運んだ mail の stream をどれも閉じる。 -/
structure Settles (w : CaptureWorker) (stop : Stop) : Prop where
  idle : w.waiting = []
  closes : ∀ k st, w.asm.streams.get? k = some st → carried st = true → isMail st = true →
    LiveReassembler.stays cfg.limits stop.now st = true → k ∈ w.asm.evicted cfg.limits stop.now
  reported : w.tickOut cfg stop.now = [] → w.depth = w.publisher.buf.length

/-- 最後の `_drain` は、buffer も、閉じた session もすべて送る。閉じる stream が無ければ、buffer は空である。 -/
structure Clears (w : CaptureWorker) (stop : Stop) : Prop where
  quiet : w.tickOut cfg stop.now = [] → w.publisher.buf = []
  flushed : w.tickOut cfg stop.now ≠ [] → w.publisher.buf.length ≤ stop.sent
  taken : w.tickOut cfg stop.now ≠ [] →
    cfg.maxBuffer = 0 ∨
      .refused ∉ stop.sendings.take ((w.tickOut cfg stop.now).filterMap id).length

/-! ## 送ること -/

/-- 再構成も、閉じた session も、sweep の thread も変わらない。 -/
structure Kept (w w' : CaptureWorker) : Prop where
  asm : w'.asm = w.asm
  closed : w'.closed = w.closed
  pending : w'.pending = w.pending

/-- 捨てたものは、どれも数えられている。 -/
structure Counted (w : CaptureWorker) : Prop where
  publisher : w.publisher.Sound cfg.maxBuffer
  failed : w.failed.length = w.sessionsDropped

variable {cfg} {w : CaptureWorker}

theorem kept_fail (w : CaptureWorker) (data : Wire) : Kept w (w.fail data) := ⟨rfl, rfl, rfl⟩

theorem handled_fail (w : CaptureWorker) (data : Wire) :
    (w.fail data).handled = w.handled + {data} := by
  unfold handled fail
  simp only [← Multiset.coe_add, Multiset.coe_singleton]
  abel

theorem Counted.fail (h : Counted cfg w) (data : Wire) : Counted cfg (w.fail data) := by
  refine ⟨h.publisher, ?_⟩
  show (w.failed ++ [data]).length = w.sessionsDropped + 1
  rw [List.length_append, List.length_singleton, h.failed]

/-- 渡した結果は、publisher に入ったか、例外で数えられたかである。 -/
theorem offer_cases (cfg : CaptureConfig) (w : CaptureWorker) (data : Wire) (ok : Bool) :
    (w.publisher.publish cfg.maxBuffer data ok = none ∧ w.offer cfg data ok = w.fail data) ∨
    ∃ pub, w.publisher.publish cfg.maxBuffer data ok = some pub ∧
      w.offer cfg data ok = { w with publisher := pub } := by
  unfold offer
  cases hpub : w.publisher.publish cfg.maxBuffer data ok with
  | none => exact .inl ⟨rfl, rfl⟩
  | some pub => exact .inr ⟨pub, rfl, rfl⟩

theorem kept_offer (cfg : CaptureConfig) (w : CaptureWorker) (data : Wire) (ok : Bool) :
    Kept w (w.offer cfg data ok) := by
  rcases offer_cases cfg w data ok with ⟨-, he⟩ | ⟨pub, -, he⟩
  · rw [he]
    exact kept_fail w _
  · rw [he]
    exact ⟨rfl, rfl, rfl⟩

theorem handled_offer (cfg : CaptureConfig) (w : CaptureWorker) (data : Wire) (ok : Bool) :
    (w.offer cfg data ok).handled = w.handled + {data} := by
  rcases offer_cases cfg w data ok with ⟨-, he⟩ | ⟨pub, hpub, he⟩
  · rw [he, handled_fail]
  · rw [he]
    show pub.held + (w.failed : Multiset Wire) = w.publisher.held + w.failed + _
    rw [Publisher.held_publish hpub]
    abel

theorem Counted.offer (h : Counted cfg w) (data : Wire) (ok : Bool) :
    Counted cfg (w.offer cfg data ok) := by
  rcases offer_cases cfg w data ok with ⟨-, he⟩ | ⟨pub, hpub, he⟩
  · rw [he]
    exact h.fail _
  · rw [he]
    exact ⟨h.publisher.publish hpub, h.failed⟩

/-- 送れたときだけ、空の buffer は空のままである。大きさの無い buffer には入らない。 -/
theorem buf_offer_eq_nil_iff (cfg : CaptureConfig) (w : CaptureWorker) (data : Wire) (ok : Bool) :
    (w.offer cfg data ok).publisher.buf = [] ↔
      w.publisher.buf = [] ∧ (cfg.maxBuffer = 0 ∨ ok = true) := by
  rcases offer_cases cfg w data ok with ⟨hnone, he⟩ | ⟨pub, hpub, he⟩
  · obtain ⟨-, hmax, -⟩ := Publisher.publish_eq_none_iff.mp hnone
    rw [he]
    show w.publisher.buf = [] ↔ _
    simp [hmax]
  · rw [he]
    show pub.buf = [] ↔ _
    rw [Publisher.buf_publish_eq_nil_iff hpub]
    constructor
    · rintro ⟨hok, hbuf⟩
      exact ⟨hbuf, .inr hok⟩
    · rintro ⟨hbuf, hmax | hok⟩
      · cases ok with
        | true => exact ⟨rfl, hbuf⟩
        | false =>
          rw [Publisher.publish_eq_none_iff.mpr ⟨rfl, hmax, hbuf⟩] at hpub
          cases hpub
      · exact ⟨hok, hbuf⟩

theorem kept_send (w : CaptureWorker) (sess : CapturedSession) (o : Sending) :
    Kept w (w.send cfg sess o) := by
  cases o with
  | accepted => exact kept_offer cfg w _ true
  | refused => exact kept_offer cfg w _ false
  | broken => exact kept_fail w _

/-- **session 一つは、送られるか、buffer に入るか、数えて捨てられる。** -/
theorem handled_send (w : CaptureWorker) (sess : CapturedSession) (o : Sending) :
    (w.send cfg sess o).handled = w.handled + {sessionToPayload sess} := by
  cases o with
  | accepted => exact handled_offer cfg w _ true
  | refused => exact handled_offer cfg w _ false
  | broken => exact handled_fail w _

theorem Counted.send (h : Counted cfg w) (sess : CapturedSession) (o : Sending) :
    Counted cfg (w.send cfg sess o) := by
  cases o with
  | accepted => exact h.offer _ true
  | refused => exact h.offer _ false
  | broken => exact h.fail _

theorem buf_send_eq_nil_iff (w : CaptureWorker) (sess : CapturedSession) (o : Sending) :
    (w.send cfg sess o).publisher.buf = [] ↔
      w.publisher.buf = [] ∧ (cfg.maxBuffer = 0 ∨ o ≠ .refused) := by
  cases o with
  | accepted => exact (buf_offer_eq_nil_iff cfg w _ true).trans (by simp)
  | refused => exact (buf_offer_eq_nil_iff cfg w _ false).trans (by simp)
  | broken =>
    show w.publisher.buf = [] ↔ _
    simp

/-! ## `_emit_sessions` の loop -/

theorem kept_sendAll : ∀ (out : List (Option CapturedSession)) (os : List Sending)
    (w : CaptureWorker), Kept w (w.sendAll cfg out os)
  | [], _, _ => ⟨rfl, rfl, rfl⟩
  | none :: out, os, w => kept_sendAll out os w
  | some sess :: out, os, w => by
    have hone : Kept w (w.send cfg sess (os.headD .accepted)) := kept_send w sess _
    have hrest := kept_sendAll out os.tail (w.send cfg sess (os.headD .accepted))
    exact ⟨hrest.asm.trans hone.asm, hrest.closed.trans hone.closed,
      hrest.pending.trans hone.pending⟩

/-- **渡された session は、どれも送られるか、buffer に入るか、数えて捨てられる。** -/
theorem handled_sendAll : ∀ (out : List (Option CapturedSession)) (os : List Sending)
    (w : CaptureWorker), (w.sendAll cfg out os).handled =
      w.handled + (out.filterMap (Option.map sessionToPayload) : List Wire)
  | [], _, w => (add_zero w.handled).symm
  | none :: out, os, w => handled_sendAll out os w
  | some sess :: out, os, w => by
    refine (handled_sendAll out os.tail (w.send cfg sess (os.headD .accepted))).trans ?_
    rw [handled_send, add_assoc]
    rfl

theorem Counted.sendAll : ∀ (out : List (Option CapturedSession)) (os : List Sending)
    {w : CaptureWorker}, Counted cfg w → Counted cfg (w.sendAll cfg out os)
  | [], _, _, h => h
  | none :: out, os, _, h => Counted.sendAll out os h
  | some sess :: out, os, _, h => Counted.sendAll out os.tail (h.send sess (os.headD .accepted))

/-- 空の buffer は、Redis がすべてを受け取ったときだけ、空のままである。 -/
theorem buf_sendAll_eq_nil_iff (out : List (Option CapturedSession)) :
    ∀ (os : List Sending) (w : CaptureWorker), (w.sendAll cfg out os).publisher.buf = [] ↔
      w.publisher.buf = [] ∧
        (cfg.maxBuffer = 0 ∨ .refused ∉ os.take (out.filterMap id).length) := by
  induction out with
  | nil => simp [sendAll]
  | cons o out ih =>
    intro os w
    cases o with
    | none => exact ih os w
    | some sess =>
      refine (ih os.tail (w.send cfg sess (os.headD .accepted))).trans ?_
      rw [buf_send_eq_nil_iff, and_assoc]
      refine and_congr_right fun _ => ?_
      cases os with
      | nil => simp
      | cons o os =>
        have htake : (o :: os).take ((some sess :: out).filterMap id).length
            = o :: os.take (out.filterMap id).length := rfl
        rw [htake, List.mem_cons, not_or]
        constructor
        · rintro ⟨hmax | ho, hmax' | hrest⟩
          · exact .inl hmax
          · exact .inl hmax
          · exact .inl hmax'
          · exact .inr ⟨fun he => ho he.symm, hrest⟩
        · rintro (hmax | ⟨ho, hrest⟩)
          · exact ⟨.inl hmax, .inl hmax⟩
          · exact ⟨.inr fun he => ho he.symm, .inr hrest⟩

/-! ## どの run でも -/

variable (cfg) in
/-- 閉じた session は、publisher に渡ったか、例外で数えられたか、sweep の thread にある。 -/
structure Balanced (w : CaptureWorker) : Prop where
  closed : (w.closed : Multiset Wire) = w.handled + w.waiting
  counted : Counted cfg w

theorem balanced_init : Balanced cfg {} where
  closed := rfl
  counted := ⟨Publisher.sound_empty _, rfl⟩

theorem handled_flush (w : CaptureWorker) (sent : Nat) : (w.flush sent).handled = w.handled := by
  show (w.publisher.flush sent).held + (w.failed : Multiset Wire) = _
  rw [Publisher.held_flush]
  rfl

theorem Counted.flush (h : Counted cfg w) (sent : Nat) : Counted cfg (w.flush sent) :=
  ⟨h.publisher.flush sent, h.failed⟩

theorem Counted.swept (h : Counted cfg w) (now : Nat) : Counted cfg (w.swept cfg now) :=
  ⟨h.publisher, h.failed⟩

/-- sweep は、閉じた session を記録に加える。 -/
theorem closed_swept (cfg : CaptureConfig) (w : CaptureWorker) (now : Nat) :
    ((w.swept cfg now).closed : Multiset Wire) =
      w.closed + ((w.tickOut cfg now).filterMap (Option.map sessionToPayload) : List Wire) := by
  unfold swept tickOut
  rw [List.filterMap_map, Multiset.coe_add]
  rfl

theorem Balanced.swept (h : Balanced cfg w) {now : Nat} (hout : w.tickOut cfg now = []) :
    Balanced cfg (w.swept cfg now) := by
  refine ⟨?_, h.counted.swept now⟩
  rw [closed_swept, hout, h.closed]
  exact add_zero _

theorem Balanced.tick (h : Balanced cfg w) (hidle : w.waiting = []) (now sent : Nat) :
    Balanced cfg (w.tick cfg now sent) := by
  unfold CaptureWorker.tick
  cases hout : w.tickOut cfg now with
  | nil => exact h.swept hout
  | cons o out =>
    have hclosed := closed_swept cfg w now
    rw [h.closed, hidle, hout, Multiset.coe_nil, add_zero] at hclosed
    have hcounted := (h.counted.swept now).flush sent
    refine ⟨?_, hcounted.publisher, hcounted.failed⟩
    show ((w.swept cfg now).closed : Multiset Wire) = ((w.swept cfg now).flush sent).handled + _
    rw [handled_flush, hclosed]
    rfl

theorem Balanced.emitNext (h : Balanced cfg w) (o : Sending) : Balanced cfg (w.emitNext cfg o) := by
  have hclosed := h.closed
  unfold waiting at hclosed
  unfold CaptureWorker.emitNext
  cases hpending : w.pending with
  | none => exact h
  | some l =>
    rw [hpending] at hclosed
    cases l with
    | nil => exact ⟨hclosed, h.counted.publisher, h.counted.failed⟩
    | cons sess rest =>
      cases sess with
      | none => exact ⟨hclosed, h.counted.publisher, h.counted.failed⟩
      | some sess =>
        have hcounted := h.counted.send sess o
        refine ⟨?_, hcounted.publisher, hcounted.failed⟩
        show ((w.send cfg sess o).closed : Multiset Wire) = (w.send cfg sess o).handled + _
        rw [(kept_send w sess o).closed, handled_send, hclosed, add_assoc]
        rfl

/-- **一歩。** -/
theorem Balanced.step (h : Balanced cfg w) (e : CaptureEvent) : Balanced cfg (w.step cfg e) := by
  cases e with
  | packet p =>
    show Balanced cfg (w.handlePacket cfg p)
    unfold handlePacket
    split
    · exact ⟨h.closed, h.counted.publisher, h.counted.failed⟩
    · exact h
  | tick now sent =>
    show Balanced cfg (if w.pending.isNone then w.tick cfg now sent else w)
    split
    · next hidle =>
      refine h.tick ?_ now sent
      unfold waiting
      rw [Option.isNone_iff_eq_none.mp hidle]
      rfl
    · exact h
  | emit o => exact h.emitNext o

/-- **どの run でも、閉じた session は失われない。** -/
theorem balanced_exec (cfg : CaptureConfig) (es : List CaptureEvent) :
    Balanced cfg (Run.exec (step cfg) {} es) :=
  Run.invariant (fun _ e h => h.step e) es balanced_init

/-! ## 停止 -/

section FinalDrain

variable (stop : Stop)

theorem asm_finalDrain (w : CaptureWorker) :
    (w.finalDrain cfg stop).asm = (w.asm.sweep cfg.limits stop.now).1 := by
  unfold finalDrain
  split
  · rfl
  · exact (kept_sendAll _ _ _).asm

/-- 最後の `_drain` の後、失われているのは sweep の thread にあった session だけである。 -/
theorem closed_finalDrain (h : Balanced cfg w) :
    ((w.finalDrain cfg stop).closed : Multiset Wire) = (w.finalDrain cfg stop).handled + w.waiting := by
  have hclosed := closed_swept cfg w stop.now
  unfold finalDrain
  cases hout : w.tickOut cfg stop.now with
  | nil => exact (h.swept hout).closed
  | cons o out =>
    simp only
    rw [h.closed, hout] at hclosed
    generalize hsent : (w.swept cfg stop.now).flush stop.sent = w'
    have hw' : (w'.closed : Multiset Wire) =
        w'.handled + w.waiting + ((o :: out).filterMap (Option.map sessionToPayload) : List Wire) := by
      rw [← hsent, handled_flush]
      exact hclosed
    show ((w'.sendAll cfg (o :: out) stop.sendings).closed : Multiset Wire)
      = (w'.sendAll cfg (o :: out) stop.sendings).handled + _
    rw [(kept_sendAll _ _ _).closed, handled_sendAll, hw']
    abel

theorem counted_finalDrain (h : Counted cfg w) : Counted cfg (w.finalDrain cfg stop) := by
  unfold finalDrain
  split
  · exact h.swept stop.now
  · have hcounted := Counted.sendAll (w.tickOut cfg stop.now) stop.sendings
      ((h.swept stop.now).flush stop.sent)
    next o out hout =>
    rw [hout] at hcounted
    exact ⟨hcounted.publisher, hcounted.failed⟩

/-- buffer の数が正しく報告されるのは、閉じた stream があったとき、または前から正しかったときである。 -/
theorem depth_finalDrain_iff (w : CaptureWorker) :
    (w.finalDrain cfg stop).depth = (w.finalDrain cfg stop).publisher.buf.length ↔
      (w.tickOut cfg stop.now = [] → w.depth = w.publisher.buf.length) := by
  unfold finalDrain
  cases w.tickOut cfg stop.now with
  | nil =>
    show w.depth = w.publisher.buf.length ↔ _
    simp
  | cons o out => exact iff_of_true rfl fun h => absurd h (List.cons_ne_nil _ _)

theorem buf_finalDrain_eq_nil_iff (w : CaptureWorker) :
    (w.finalDrain cfg stop).publisher.buf = [] ↔ Clears cfg w stop := by
  unfold finalDrain
  cases hout : w.tickOut cfg stop.now with
  | nil =>
    refine ⟨fun hbuf => ⟨fun _ => hbuf, fun hne => absurd hout hne, fun hne => absurd hout hne⟩,
      fun hc => hc.quiet hout⟩
  | cons o out =>
    have hne : w.tickOut cfg stop.now ≠ [] := by
      rw [hout]
      exact List.cons_ne_nil _ _
    have hflush : ((w.swept cfg stop.now).flush stop.sent).publisher.buf = [] ↔
        w.publisher.buf.length ≤ stop.sent := List.drop_eq_nil_iff
    refine (buf_sendAll_eq_nil_iff _ _ _).trans ?_
    rw [hflush]
    constructor
    · rintro ⟨hsent, htaken⟩
      refine ⟨fun hnil => absurd hnil hne, fun _ => hsent, fun _ => ?_⟩
      rw [hout]
      exact htaken
    · intro hc
      have htaken := hc.taken hne
      rw [hout] at htaken
      exact ⟨hc.flushed hne, htaken⟩

end FinalDrain

theorem isSome_capture (st : Stream) (reason : String) (refs : List (List Json)) :
    (capture st reason refs).isSome = isMail st := by
  have h := congrArg Option.isSome (viewOf_capture st reason refs)
  rwa [Option.isSome_map, Option.isSome_map] at h

/-- payload を受け取った stream は、payload を運んだ stream である。 -/
theorem carried_feed (st : Stream) (k : Key) (p : Packet) :
    carried (st.feed k p) = (decide (p.payload ≠ []) || carried st) := by
  have hhalf : ((st.feed k p).half (p.dirA k)).frontier.isSome =
      (decide (p.payload ≠ []) || (st.half (p.dirA k)).frontier.isSome) := by
    rw [Stream.half_feed, HalfStream.receive_frontier]
  have hother := Stream.half_feed_of_ne st k p (d := !p.dirA k) (by simp)
  unfold carried
  cases hd : p.dirA k with
  | true =>
    rw [hd] at hhalf hother
    have hha : (st.feed k p).ha.frontier.isSome = _ := hhalf
    have hhb : (st.feed k p).hb = st.hb := hother
    rw [hha, hhb, Bool.or_assoc]
    rfl
  | false =>
    rw [hd] at hhalf hother
    have hhb : (st.feed k p).hb.frontier.isSome = _ := hhalf
    have hha : (st.feed k p).ha = st.ha := hother
    rw [hha, hhb, Bool.or_left_comm]
    rfl

theorem openSessions_eq_nil_iff (w : CaptureWorker) : w.openSessions = [] ↔
    ∀ k st, w.asm.streams.get? k = some st → carried st = true → isMail st = false := by
  unfold openSessions
  rw [List.filterMap_eq_nil_iff]
  constructor
  · intro h k st hst hcarried
    have hnone := h (k, st) ((Dict.mem_entries_iff _ _ _).mpr hst)
    rw [if_pos hcarried, Option.map_eq_none_iff] at hnone
    rw [← isSome_capture st (closeReason st) ((w.asm.refs.get? k).getD []), hnone]
    rfl
  · rintro h ⟨k, st⟩ he
    split
    · next hcarried =>
      have hmail := h k st ((Dict.mem_entries_iff _ _ _).mp he) hcarried
      rw [← isSome_capture st (closeReason st) ((w.asm.refs.get? k).getD []),
        Option.isSome_eq_false_iff, Option.isNone_iff_eq_none] at hmail
      rw [hmail]
      rfl
    · rfl

/-- 最後の sweep の後に、payload を運んだ mail の stream が残らない条件。 -/
theorem openSessions_finalDrain_iff (w : CaptureWorker) (stop : Stop) :
    (w.finalDrain cfg stop).openSessions = [] ↔
      ∀ k st, w.asm.streams.get? k = some st → carried st = true → isMail st = true →
        LiveReassembler.stays cfg.limits stop.now st = true →
          k ∈ w.asm.evicted cfg.limits stop.now := by
  rw [openSessions_eq_nil_iff, asm_finalDrain]
  refine forall_congr' fun k => forall_congr' fun st => ?_
  rw [LiveReassembler.get?_sweep]
  constructor
  · intro h hst hcarried hmail hstay
    by_contra hkeep
    rw [h ⟨hst, hstay, hkeep⟩ hcarried] at hmail
    cases hmail
  · rintro h ⟨hst, hstay, hkeep⟩ hcarried
    rw [Bool.eq_false_iff]
    exact fun hmail => hkeep (h hst hcarried hmail hstay)

theorem accounted_finalDrain_iff (h : Balanced cfg w) (stop : Stop) :
    Accounted (w.finalDrain cfg stop) ↔ Settles cfg w stop := by
  have hclosed := closed_finalDrain stop h
  have hcounted := counted_finalDrain stop h.counted
  have hdisposed : ((w.finalDrain cfg stop).closed + (w.finalDrain cfg stop).openSessions :
        Multiset Wire) = (w.finalDrain cfg stop).handled ↔
      w.waiting = [] ∧ (w.finalDrain cfg stop).openSessions = [] := by
    rw [hclosed, add_assoc, add_eq_left, Multiset.coe_add, Multiset.coe_eq_zero,
      List.append_eq_nil_iff]
  constructor
  · intro ha
    obtain ⟨hidle, hopen⟩ := hdisposed.mp ha.disposed
    exact ⟨hidle, (openSessions_finalDrain_iff w stop).mp hopen,
      (depth_finalDrain_iff stop w).mp ha.depth⟩
  · intro hs
    exact ⟨hdisposed.mpr ⟨hs.idle, (openSessions_finalDrain_iff w stop).mpr hs.closes⟩,
      (depth_finalDrain_iff stop w).mpr hs.reported, hcounted.publisher.counted, hcounted.failed⟩

/--
**capture worker の停止。** どの run のどの停止でも、payload を運んだ mail の session がどれも行き先を持つのは
`Settles` のとき、かつそのときに限る。buffer の session も process とともに失われないのは、`Clears` も
成り立つとき、かつそのときに限る。
-/
theorem stop_iff (cfg : CaptureConfig) (es : List CaptureEvent) (stop : Stop) :
    (Accounted ((Run.exec (step cfg) {} es).finalDrain cfg stop) ↔
      Settles cfg (Run.exec (step cfg) {} es) stop) ∧
    (Accounted ((Run.exec (step cfg) {} es).finalDrain cfg stop) ∧
        ((Run.exec (step cfg) {} es).finalDrain cfg stop).publisher.buf = [] ↔
      Settles cfg (Run.exec (step cfg) {} es) stop ∧ Clears cfg (Run.exec (step cfg) {} es) stop) := by
  have haccounted := accounted_finalDrain_iff (balanced_exec cfg es) stop
  exact ⟨haccounted, and_congr haccounted (buf_finalDrain_eq_nil_iff stop _)⟩

/-- 一秒前に命令を送り、開いたままの接続。 -/
def openTrace : List CaptureEvent :=
  [.packet (ParityState.fromClient 101 0x18 1000000 (ascii "EHLO a"))]

/-- 閉じた接続の session が、Redis の停止のために buffer に入る。 -/
def bufferedTrace : List CaptureEvent :=
  [.packet (ParityState.fromClient 101 0x18 1000000 (ascii "EHLO a")),
    .packet (ParityState.fromClient 107 0x04 1000001 []), .tick 1500000 0, .emit .refused,
    .emit .accepted]

/-- 開いたままの接続の session はどこにも現れず、buffer の session は送られないまま残る。 -/
theorem stop_loses_sessions :
    ¬Accounted ((Run.exec (step {}) {} openTrace).finalDrain {} { now := 2000000 }) ∧
    ((Run.exec (step {}) {} bufferedTrace).finalDrain {} { now := 2000000, sent := 1 }).publisher.buf
      ≠ [] := by
  constructor
  · intro h
    have hcard := congrArg Multiset.card h.disposed
    simp only [Multiset.card_add, Multiset.coe_card] at hcard
    revert hcard
    decide +kernel
  · intro h
    have hlength := congrArg List.length h
    revert hlength
    decide +kernel

end CaptureWorker

end CipherPost.Live
