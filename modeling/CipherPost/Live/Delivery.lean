import CipherPost.Infra.Json
import CipherPost.Infra.PendingList
import CipherPost.Live.Streams

/-!
# 配達と取り直し

`app/live/streams.py` の `poll_raw`・`reclaim` と、`app/live/analyze.py` の `_handle_entry` の試行の数え方を、
pending list と時刻を持つ一つの系にしたもの。Redis は応答する。

entry は decode できなければ worker に渡らず、ack もされない。渡った entry も、`try` の前の `json.loads` が
例外を出せば試行が数えられない。どちらも pending list に残り、次の `reclaim` でまた先頭から取り直される。

* `decodeFields`・`unwrap` — entry の中身の読み方
* `DeliveryState.step` — publish・poll・reclaim・handler・停止・時刻の一歩
* `Served` — 配られた entry は決まった回数のうちに pending list を離れ、取り直しは先頭の entry に妨げられない
* `Safe` — 読めない entry を配らず、試行の数を失わない事象
* `handler_cases` — handler は entry を残して試行を一つ数えるか、処理したか移したかして外す
-/

namespace CipherPost.Live

/-! ## entry の中身 -/

section Content

variable (loads : String → Option Json)

/-- `_decode_fields`。key `v` の bytes を読む。`null` は読めないものと同じになる。 -/
def decodeFields : Option String → Option Json
  | none => none
  | some text =>
    match loads text with
    | some .null => none
    | r => r

/-- `_handle_entry` の `sess_payload`。`none` は `try` の前の例外である。 -/
def unwrap : Json → Option Json
  | .obj d =>
    if (DictList.get? "protocol" d).isSome then some (.obj d)
    else
      match DictList.get? "v" d with
      | some (.str s) => loads s
      | some v => some v
      | none => some (.obj d)
  | j => some j

/-- worker に渡り、`try` まで進む entry である。 -/
def processable (fields : Option String) : Bool :=
  ((decodeFields loads fields).bind (unwrap loads)).isSome

theorem decodes_of_processable {fields : Option String} (h : processable loads fields = true) :
    (decodeFields loads fields).isSome = true := by
  rw [processable] at h
  cases hd : decodeFields loads fields with
  | none => rw [hd] at h; cases h
  | some payload => rfl

end Content

/-! ## 状態 -/

/-- 設定値。時刻の単位は millisecond である。 -/
structure DeliveryConfig where
  batch : Nat := 8
  maxAttempts : Nat := 5
  idle : Nat := 60000
  reclaimBatch : Nat := 16
  /-- `{stream}:attempts` の TTL。 -/
  ttl : Nat := 86400000
  maxAttempts_pos : 0 < maxAttempts := by decide
  idle_pos : 0 < idle := by decide
  reclaimBatch_pos : 0 < reclaimBatch := by decide

/-- stream と consumer group の状態、および配達の記録。entry の id は stream での順である。 -/
structure DeliveryState where
  clock : Nat := 0
  /-- stream に加わった entry の数。 -/
  published : Nat := 0
  /-- これより前の entry は stream から消えた。 -/
  trimmed : Nat := 0
  /-- 次に配る id。 -/
  delivered : Nat := 0
  pending : List Pending := []
  consumer : Group Json := {}
  /-- 試行の数が消える時刻。 -/
  expireAt : Nat := 0
  /-- worker の手元にある entry。 -/
  inHand : List EntryId := []
  /-- 配達と、その時刻。 -/
  log : List (EntryId × Nat) := []
  /-- 終わりまで進んだ handler のうち、entry が pending list にあったもの。 -/
  turned : List EntryId := []
  /-- 既に pending list になかったもの。 -/
  late : List EntryId := []
  /-- worker が止まって終わらなかったもの。 -/
  abandoned : List EntryId := []
  /-- 古い entry を取り直さなかった、間隔が `idle` 以上の `reclaim` の数。 -/
  misses : EntryId → Nat := fun _ => 0
  lastMiss : EntryId → Option Nat := fun _ => none

/-- `note_attempt` の命令。 -/
def GroupOp.notes {P : Type} : GroupOp P → Bool
  | .noteAttempt _ => true
  | _ => false

/-- 命令の対象の entry。 -/
def GroupOp.entry {P : Type} : GroupOp P → EntryId
  | .noteAttempt e => e
  | .clearAttempts e => e
  | .ack e => e
  | .deadLetter rec => rec.entryId
  | .deadAck e => e

/-- 事象。 -/
inductive DeliveryEvent where
  | tick (d : Nat)
  | publish
  /-- XADD の MAXLEN が、`n` より前の entry を消す。 -/
  | trim (n : Nat)
  | poll
  | reclaim
  /-- 手元の entry の handler。`stop` 個の命令の後で worker が止まることがある。 -/
  | turn (e : EntryId) (ok : Bool) (stop : Option Nat)
  /-- worker が手元の entry を残して止まる。 -/
  | abandon (e : EntryId)

namespace DeliveryState

/-- pending list の id。 -/
def ids (s : DeliveryState) : List EntryId := s.pending.map Pending.id

variable (cfg : DeliveryConfig) (loads : String → Option Json) (content : EntryId → Option String)

/-- worker に渡る entry。 -/
def decodable (e : EntryId) : Bool := (decodeFields loads (content e)).isSome

/-- 配達。読めない entry は手元に来ない。 -/
def deliver (s : DeliveryState) (ids : List EntryId) : DeliveryState :=
  { s with
    inHand := s.inHand ++ ids.filter (decodable loads content)
    log := s.log ++ ids.map fun e => (e, s.clock) }

/-- XREADGROUP が配る entry。 -/
def fresh (s : DeliveryState) : List EntryId :=
  let first := max s.delivered s.trimmed
  List.range' first (min cfg.batch (s.published - first))

/-- `poll_raw`。 -/
def poll (s : DeliveryState) : DeliveryState :=
  let ids := s.fresh cfg
  { s.deliver loads content ids with
    delivered := max s.delivered s.trimmed + ids.length
    pending := s.pending ++ ids.map fun e => ⟨e, s.clock⟩ }

/-- XAUTOCLAIM の結果。調べるのは `COUNT` の 10 倍までである。 -/
def claim (s : DeliveryState) : List EntryId × List Pending :=
  autoclaim cfg.idle s.clock s.trimmed (10 * cfg.reclaimBatch) cfg.reclaimBatch s.pending

/-- 古い entry が取り直されず、前に数えた時から `idle` が経っている。 -/
def missed (s : DeliveryState) (e : EntryId) : Bool :=
  s.pending.any (fun p => decide (p.id = e) && p.stale cfg.idle s.clock) &&
    !(s.claim cfg).1.contains e && (s.lastMiss e).all fun t => decide (t + cfg.idle ≤ s.clock)

/-- `reclaim`。 -/
def reclaim (s : DeliveryState) : DeliveryState :=
  { s.deliver loads content (s.claim cfg).1 with
    pending := (s.claim cfg).2
    misses := fun e => if s.missed cfg e then s.misses e + 1 else s.misses e
    lastMiss := fun e => if s.missed cfg e then some s.clock else s.lastMiss e }

/-- 期限が来れば試行の数は消える。 -/
def live (s : DeliveryState) : Group Json :=
  if s.clock < s.expireAt then s.consumer else { s.consumer with attempts := Dict.empty }

/-- `try` から後の命令。 -/
def handlerOps (g : Group Json) (e : EntryId) (payload : Json) (ok : Bool) : List (GroupOp Json) :=
  if ok then [.clearAttempts e, .ack e]
  else g.failed {} cfg.maxAttempts e (if payload.isObj then some payload else none)

/-- `stop` 個の命令で止まる。 -/
def stopAt {ι : Type} (stop : Option Nat) (ops : List ι) : List ι :=
  match stop with
  | none => ops
  | some k => ops.take k

/-- 行われる命令。 -/
def turnOps (s : DeliveryState) (e : EntryId) (ok : Bool) (stop : Option Nat) :
    List (GroupOp Json) :=
  match (decodeFields loads (content e)).bind (unwrap loads) with
  | none => []
  | some payload => stopAt stop (handlerOps cfg s.live e payload ok)

/-- handler の前に group に行う命令の結果。 -/
def afterOps (s : DeliveryState) (ops : List (GroupOp Json)) : Group Json :=
  Run.exec (Group.apply {}) s.live ops

/-- `_handle_entry`。 -/
def turn (s : DeliveryState) (e : EntryId) (ok : Bool) (stop : Option Nat) : DeliveryState :=
  let ops := s.turnOps cfg loads content e ok stop
  let consumer := s.afterOps ops
  { s with
    consumer := consumer
    expireAt := if ops.any GroupOp.notes then s.clock + cfg.ttl else s.expireAt
    pending := s.pending.filter fun p => !consumer.acked.contains p.id
    inHand := s.inHand.erase e
    turned := if stop = none ∧ e ∈ s.ids then s.turned ++ [e] else s.turned
    late := if stop = none ∧ e ∉ s.ids then s.late ++ [e] else s.late
    abandoned := if stop = none then s.abandoned else s.abandoned ++ [e] }

/-- 一歩。 -/
def step (s : DeliveryState) : DeliveryEvent → DeliveryState
  | .tick d => { s with clock := s.clock + d }
  | .publish => { s with published := s.published + 1 }
  | .trim n => { s with trimmed := max s.trimmed n }
  | .poll => s.poll cfg loads content
  | .reclaim => s.reclaim cfg loads content
  | .turn e ok stop => if e ∈ s.inHand then s.turn cfg loads content e ok stop else s
  | .abandon e =>
    if e ∈ s.inHand then
      { s with inHand := s.inHand.erase e, abandoned := s.abandoned ++ [e] }
    else s

/-- 配達の回数。 -/
def deliveries (s : DeliveryState) (e : EntryId) : Nat := (s.log.map Prod.fst).count e

/-- 処理を終えたか、dead-letter stream に写された。 -/
def Done (s : DeliveryState) (e : EntryId) : Prop :=
  s.consumer.Settled (fun e rec => rec.entryId = e) e

/-- 配られた entry は pending list を離れ、取り直しは妨げられない。 -/
structure Served (s : DeliveryState) : Prop where
  /-- 残っている entry は、止まった worker と手元の分を除けば `maxAttempts` 回も配られていない。 -/
  leaves : ∀ e ∈ s.ids, s.deliveries e < cfg.maxAttempts + s.abandoned.count e + s.inHand.count e
  done : ∀ d ∈ s.log, d.1 ∈ s.ids ∨ s.Done d.1
  /-- 取り直しの漏れは、前にある entry の試行と、終わらなかった配達の数までである。 -/
  returned : ∀ e, s.misses e ≤
    cfg.maxAttempts * e + (s.late ++ s.abandoned ++ s.inHand).countP fun x => decide (x < e)

/-- 危うくない事象。 -/
def Safe (s : DeliveryState) : DeliveryEvent → Prop
  | .poll => ∀ e ∈ s.fresh cfg, processable loads (content e) = true
  | .trim n => ∀ e ∈ s.ids, n ≤ e
  | .turn e ok stop => e ∈ s.inHand →
    -- 試行の数は、期限でも、成功した handler の途中の停止でも失われない
    (s.expireAt ≤ s.clock → ∀ i ∈ s.ids, s.consumer.attempts.get? i = none) ∧
      (ok = true → stop ≠ some 1)
  | _ => True

/-! ## handler の命令 -/

/-- entry の試行の数。 -/
def tries (g : Group Json) (e : EntryId) : Nat := (g.attempts.get? e).getD 0

theorem tries_noteAttempt (g : Group Json) (e : EntryId) :
    tries (g.apply {} (.noteAttempt e)) e = tries g e + 1 :=
  congrArg (·.getD 0) (Dict.get?_set_self _ _ _)

theorem mem_of_mem_stopAt {ι : Type} {stop : Option Nat} {ops : List ι} {i : ι}
    (h : i ∈ stopAt stop ops) : i ∈ ops := by
  cases stop with
  | none => exact h
  | some k => exact List.mem_of_mem_take h

/-- entry は残り、終えた handler は試行の数を一つ増やす。 -/
def Kept (cfg : DeliveryConfig) (stop : Option Nat) (e : EntryId) (g g' : Group Json) : Prop :=
  g'.acked = g.acked ∧ tries g e ≤ tries g' e ∧
    (stop = none → tries g e + 1 = tries g' e ∧ tries g' e < cfg.maxAttempts)

/-- entry は処理されたか dead-letter へ移されて外れる。 -/
def Left (e : EntryId) (g g' : Group Json) : Prop :=
  g'.acked = e :: g.acked ∧ g'.Settled (fun e rec => rec.entryId = e) e

/-- 成功した handler は、`clear_attempts` の後で止まらなければ、entry を残すか外す。 -/
theorem handler_ok (g : Group Json) (e : EntryId) {stop : Option Nat} (hs : stop ≠ some 1) :
    let g' := Run.exec (Group.apply {}) g (stopAt stop [.clearAttempts e, .ack e])
    Kept cfg stop e g g' ∨ Left e g g' := by
  have hleft : Left e g (Run.exec (Group.apply {}) g [.clearAttempts e, .ack e]) :=
    ⟨rfl, .inl List.mem_cons_self⟩
  match stop with
  | none => exact .inr hleft
  | some 0 => exact .inl ⟨rfl, Nat.le_refl _, fun hn => by cases hn⟩
  -- 試行の数だけを消して止まる呼び出しは、仮定で除かれている
  | some 1 => exact absurd rfl hs
  | some (k + 2) =>
    have htake : [GroupOp.clearAttempts (P := Json) e, .ack e].take (k + 2)
        = [.clearAttempts e, .ack e] := List.take_of_length_le (Nat.le_add_left 2 k)
    rw [stopAt, htake]
    exact .inr hleft

/-- 試行が尽きた handler は、途中で止まらなければ entry を dead-letter へ移す。 -/
theorem handler_exhausted (g : Group Json) (e : EntryId) (stop : Option Nat) (rec : DeadLetter Json)
    (hrec : rec.entryId = e) :
    let g' := Run.exec (Group.apply {}) g
      (stopAt stop [.noteAttempt e, .deadLetter rec, .deadAck e])
    Kept cfg stop e g g' ∨ Left e g g' := by
  have hleft : Left e g
      (Run.exec (Group.apply {}) g [.noteAttempt e, .deadLetter rec, .deadAck e]) :=
    ⟨rfl, .inr ⟨rec, List.mem_append_right _ (List.mem_singleton_self _), hrec⟩⟩
  have hup : tries g e ≤ tries (g.apply {} (.noteAttempt e)) e := by
    rw [tries_noteAttempt]
    exact Nat.le_succ _
  match stop with
  | none => exact .inr hleft
  | some 0 => exact .inl ⟨rfl, Nat.le_refl _, fun hn => by cases hn⟩
  | some 1 => exact .inl ⟨rfl, hup, fun hn => by cases hn⟩
  -- 写しは書けたが XACK は届いていない。entry は残る
  | some 2 => exact .inl ⟨rfl, hup, fun hn => by cases hn⟩
  | some (k + 3) =>
    have htake : [GroupOp.noteAttempt (P := Json) e, .deadLetter rec, .deadAck e].take (k + 3)
        = [.noteAttempt e, .deadLetter rec, .deadAck e] :=
      List.take_of_length_le (Nat.le_add_left 3 k)
    rw [stopAt, htake]
    exact .inr hleft

/-- 試行の残る handler は、その数を増やして entry を残す。 -/
theorem handler_retry (g : Group Json) (e : EntryId) (stop : Option Nat)
    (hlt : tries g e + 1 < cfg.maxAttempts) :
    Kept cfg stop e g (Run.exec (Group.apply {}) g (stopAt stop [.noteAttempt e])) := by
  have htries := tries_noteAttempt g e
  have hone : ∀ stop', Kept cfg stop' e g (Run.exec (Group.apply {}) g [.noteAttempt e]) :=
    fun _ => ⟨rfl, htries ▸ Nat.le_succ _, fun _ => ⟨htries.symm, htries ▸ hlt⟩⟩
  match stop with
  | none => exact hone none
  | some 0 => exact ⟨rfl, Nat.le_refl _, fun hn => by cases hn⟩
  | some (k + 1) =>
    have htake : [GroupOp.noteAttempt (P := Json) e].take (k + 1) = [.noteAttempt e] :=
      List.take_of_length_le (Nat.le_add_left 1 k)
    rw [stopAt, htake]
    exact hone _

/-- 命令の列を終えたか途中で止まったかで、entry は残るか外れる。 -/
theorem handler_cases (g : Group Json) (e : EntryId) (payload : Json) {ok : Bool}
    {stop : Option Nat} (hs : ok = true → stop ≠ some 1) :
    let g' := Run.exec (Group.apply {}) g (stopAt stop (handlerOps cfg g e payload ok))
    Kept cfg stop e g g' ∨ Left e g g' := by
  cases ok with
  | true => exact handler_ok cfg g e (hs rfl)
  | false =>
    by_cases hmax : cfg.maxAttempts ≤ tries g e + 1
    · have hops : handlerOps cfg g e payload false = [.noteAttempt e,
          .deadLetter ⟨e, if payload.isObj then some payload else none, g.attemptsOf {} e⟩,
          .deadAck e] := congrArg (GroupOp.noteAttempt e :: ·) (if_pos hmax)
      rw [hops]
      exact handler_exhausted cfg g e stop _ rfl
    · have hops : handlerOps cfg g e payload false = [.noteAttempt e] :=
        congrArg (GroupOp.noteAttempt e :: ·) (if_neg hmax)
      rw [hops]
      exact .inl (handler_retry cfg g e stop (Nat.lt_of_not_le hmax))

/-- handler の命令は、どれもその entry についてのものである。 -/
theorem entry_of_mem_handlerOps {g : Group Json} {e : EntryId} {payload : Json} {ok : Bool}
    {op : GroupOp Json} (hop : op ∈ handlerOps cfg g e payload ok) : op.entry = e := by
  cases ok with
  | true =>
    simp only [handlerOps, if_true, List.mem_cons, List.not_mem_nil, or_false] at hop
    rcases hop with rfl | rfl <;> rfl
  | false =>
    simp only [handlerOps, Bool.false_eq_true, if_false, Group.failed, List.mem_cons] at hop
    rcases hop with rfl | hop
    · rfl
    · split at hop
      · simp only [List.mem_cons, List.not_mem_nil, or_false] at hop
        rcases hop with rfl | rfl <;> rfl
      · exact absurd hop List.not_mem_nil

theorem entry_of_mem_turnOps {s : DeliveryState} {e : EntryId} {ok : Bool} {stop : Option Nat}
    {op : GroupOp Json} (hop : op ∈ s.turnOps cfg loads content e ok stop) : op.entry = e := by
  rw [turnOps] at hop
  split at hop
  · exact absurd hop List.not_mem_nil
  · exact entry_of_mem_handlerOps cfg (mem_of_mem_stopAt hop)

/-- 命令は、ほかの entry の試行の数を変えない。 -/
theorem tries_apply_other {g : Group Json} {op : GroupOp Json} {x : EntryId} (hx : x ≠ op.entry) :
    tries (g.apply {} op) x = tries g x := by
  cases op with
  | noteAttempt e => exact congrArg (·.getD 0) (Dict.get?_set_of_ne _ _ hx.symm)
  | clearAttempts e => exact congrArg (·.getD 0) (Dict.get?_erase_of_ne _ hx)
  | ack e => rfl
  | deadLetter rec => rfl
  | deadAck e => rfl

/-- 命令は、ほかの entry を済んだことにしない。 -/
theorem settled_apply_other {g : Group Json} {op : GroupOp Json} {x : EntryId} (hx : x ≠ op.entry)
    (h : (g.apply {} op).Settled (fun e rec => rec.entryId = e) x) :
    g.Settled (fun e rec => rec.entryId = e) x := by
  cases op with
  | noteAttempt e => exact h
  | clearAttempts e => exact h
  | ack e =>
    rcases h with h | h
    · exact .inl ((List.mem_cons.mp h).resolve_left hx)
    · exact .inr h
  | deadLetter rec =>
    rcases h with h | ⟨r, hr, hc⟩
    · exact .inl h
    · rcases List.mem_append.mp hr with hr | hr
      · exact .inr ⟨r, hr, hc⟩
      · rw [List.mem_singleton.mp hr] at hc
        exact absurd hc.symm hx
  | deadAck e => exact h

/-- handler は、ほかの entry について何も変えない。 -/
theorem turn_other (s : DeliveryState) {e x : EntryId} {ok : Bool} {stop : Option Nat} (hx : x ≠ e) :
    let g := s.afterOps (s.turnOps cfg loads content e ok stop)
    tries g x = tries s.live x ∧ (g.Settled (fun e rec => rec.entryId = e) x →
      s.live.Settled (fun e rec => rec.entryId = e) x) := by
  refine Run.Along.invariant (C := fun _ op => op.entry = e)
    (I := fun (g : Group Json) => tries g x = tries s.live x ∧
      (g.Settled (fun e rec => rec.entryId = e) x →
        s.live.Settled (fun e rec => rec.entryId = e) x)) ?_
    (Run.along_of_mem fun op hop => entry_of_mem_turnOps cfg loads content hop) ⟨rfl, id⟩
  rintro g op ⟨htries, hset⟩ rfl
  exact ⟨(tries_apply_other hx).trans htries, fun h => hset (settled_apply_other hx h)⟩

end DeliveryState

end CipherPost.Live
