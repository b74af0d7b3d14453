import CipherPost.Agent.Shipping
import CipherPost.Infra.Run

/-!
# pin を確かめる時

`app/agent/shipper.py` の `send_batch` を、接続した相手ごとに見る。要求は `urlopen` の中で送られ、`_check_pin` は
2xx の応答を受け取った後に、最後の相手だけを確かめる。301・302・303 の応答では `urlopen` が GET に変えて
次の相手に送り直し、token の header はそのまま付く。

* `Peer`・`Exchange` — 接続の相手と、一回の `urlopen`
* `NetEvent` — 相手に送ったものと、pin の不一致
* `Sending.step` — `send_batch` の loop の一周
* `Guarded` — 送った相手がみな pin に合い、不一致は送る前に判ること
* `guarded_iff` — そうであるための条件
* `matches_of_accepted` — 受け取りの応答を返したのは pin の合う相手であること
-/

namespace CipherPost.Agent

/-! ## 相手 -/

/-- 接続した相手。`http` の相手は証明書を示さない。 -/
structure Peer where
  cert : Option (List UInt8)
  deriving DecidableEq

/-- `_spki_pin`。証明書の読み込みや `public_key` の例外は `none` である。 -/
abbrev SpkiPin := List UInt8 → Option (List Char)

/-- `Shipper` の `send_batch` の読む属性。 -/
structure Shipper where
  /-- 設定のままの pin。 -/
  tlsPin : Option String
  maxRetries : Int := 6
  revoked : Bool := false

/-- `self.pin`。 -/
def Shipper.pin (sh : Shipper) : List Char :=
  ((sh.tlsPin.getD "").toList.map Char.toLower).filter (· ≠ ':')

/-- 相手の証明書が pin に合う。 -/
def Matches (spkiPin : SpkiPin) (pin : List Char) (peer : Peer) : Prop :=
  peer.cert.bind spkiPin = some pin

instance (spkiPin : SpkiPin) (pin : List Char) (peer : Peer) :
    Decidable (Matches spkiPin pin peer) :=
  inferInstanceAs (Decidable (peer.cert.bind spkiPin = some pin))

/-- `_check_pin` が例外を出さない。 -/
def checkPin (spkiPin : SpkiPin) (pin : List Char) (peer : Peer) : Bool :=
  decide (pin = []) || decide (Matches spkiPin pin peer)

/-! ## 一回の `urlopen` -/

/-- 2xx の応答の body。 -/
inductive Body where
  | json
  | notJson
  /-- 途中で切れる。 -/
  | cut
  deriving DecidableEq

/-- 最後の相手とのやりとりの終わり。 -/
inductive Ending where
  /-- 応答の前に切れる。 -/
  | dropped
  /-- HTTPError。`waits` は `Retry-After` が待てる秒数であることである。 -/
  | httpError (code : Nat) (waits : Bool)
  | success (body : Body)
  deriving DecidableEq

/-- 一回の `urlopen`。 -/
inductive Exchange where
  /-- 接続か TLS の handshake に失敗する。 -/
  | unreachable
  /-- `first` に POST し、`redirects` の相手に順に移る。 -/
  | talked (first : Peer) (redirects : List Peer) (ending : Ending)
  deriving DecidableEq

/-- 送ったものと、pin の確かめ。 -/
inductive NetEvent where
  /-- token を送る。`batch` は batch も送ることである。 -/
  | sent (peer : Peer) (batch : Bool)
  /-- `_check_pin` の ValueError。 -/
  | rejected (peer : Peer)
  deriving DecidableEq

namespace Exchange

/-- 要求を送った相手。 -/
def peers : Exchange → List Peer
  | unreachable => []
  | talked first redirects _ => first :: redirects

/-- 最後の相手。 -/
def lastPeer (first : Peer) (redirects : List Peer) : Peer := redirects.getLast?.getD first

variable (spkiPin : SpkiPin) (pin : List Char)

/-- 起きたこと。移った先には batch を送らない。 -/
def events : Exchange → List NetEvent
  | unreachable => []
  | talked first redirects ending =>
    .sent first true :: redirects.map (.sent · false) ++
      match ending with
      | .success _ =>
        if checkPin spkiPin pin (lastPeer first redirects) then []
        else [.rejected (lastPeer first redirects)]
      | _ => []

/-- `send_batch` の一周の分岐。 -/
def outcome : Exchange → Outcome
  | unreachable => .retry
  | talked _ _ .dropped => .retry
  | talked _ _ (.httpError code waits) =>
    if code = 401 then .revoked
    else if code = 429 then if waits then .retry else .refused
    else if 400 ≤ code ∧ code < 500 then .refused
    else .retry
  | talked first redirects (.success body) =>
    if checkPin spkiPin pin (lastPeer first redirects) then
      match body with
      | .json => .accepted
      | .notJson => .refused
      | .cut => .retry
    else .refused

end Exchange

/-! ## loop -/

/-- `send_batch` の終わり方。 -/
inductive Sent where
  | summary
  | revokedToken
  | valueError
  | connectionError
  deriving DecidableEq

/-- `send_batch` の途中。 -/
structure Sending where
  /-- 残りの周の数。 -/
  left : Nat
  result : Option Sent := none
  trace : List NetEvent := []

namespace Sending

/-- `send_batch` の始め。 -/
def start (sh : Shipper) : Sending :=
  { left := (max 1 sh.maxRetries).toNat, result := if sh.revoked then some .revokedToken else none }

/-- loop の一周。終わった後の周は無い。 -/
def step (spkiPin : SpkiPin) (pin : List Char) (s : Sending) (e : Exchange) : Sending :=
  match s.result with
  | some _ => s
  | none =>
    { left := s.left - 1
      trace := s.trace ++ e.events spkiPin pin
      result :=
        match e.outcome spkiPin pin with
        | .accepted => some .summary
        | .revoked => some .revokedToken
        | .refused => some .valueError
        | .retry => if s.left ≤ 1 then some .connectionError else none }

end Sending

/-! ## 守られること -/

/-- 送った相手はみな pin に合い、pin の不一致は、その相手に何も送らないうちに判る。 -/
structure Guarded (spkiPin : SpkiPin) (pin : List Char) (trace : List NetEvent) : Prop where
  sent : ∀ peer batch, .sent peer batch ∈ trace → Matches spkiPin pin peer
  early : ∀ before peer after, trace = before ++ .rejected peer :: after →
    ∀ batch, NetEvent.sent peer batch ∉ before

/-- 周の途中で止めても、守られる。 -/
theorem Guarded.isPrefix {spkiPin : SpkiPin} {pin : List Char} {trace pre : List NetEvent}
    (h : Guarded spkiPin pin trace) (hp : pre <+: trace) : Guarded spkiPin pin pre := by
  obtain ⟨post, rfl⟩ := hp
  refine ⟨fun peer batch hmem => h.sent peer batch (List.mem_append_left post hmem), ?_⟩
  rintro before peer after rfl
  exact h.early before peer (after ++ post) (by simp)

section
variable {spkiPin : SpkiPin} {pin : List Char}

/-- 送った相手はみな pin に合い、不一致は一度も無い。 -/
structure Pinned (spkiPin : SpkiPin) (pin : List Char) (trace : List NetEvent) : Prop where
  sent : ∀ peer batch, .sent peer batch ∈ trace → Matches spkiPin pin peer
  accepted : ∀ peer, NetEvent.rejected peer ∉ trace

theorem Pinned.guarded {trace : List NetEvent} (h : Pinned spkiPin pin trace) :
    Guarded spkiPin pin trace := by
  refine ⟨h.sent, ?_⟩
  rintro before peer after rfl
  exact absurd (List.mem_append_right _ List.mem_cons_self) (h.accepted peer)

theorem Pinned.append {trace trace' : List NetEvent} (h : Pinned spkiPin pin trace)
    (h' : Pinned spkiPin pin trace') : Pinned spkiPin pin (trace ++ trace') := by
  constructor
  · intro peer batch hmem
    rcases List.mem_append.mp hmem with hmem | hmem
    · exact h.sent peer batch hmem
    · exact h'.sent peer batch hmem
  · intro peer hmem
    rcases List.mem_append.mp hmem with hmem | hmem
    · exact h.accepted peer hmem
    · exact h'.accepted peer hmem

theorem lastPeer_mem (first : Peer) (redirects : List Peer) :
    Exchange.lastPeer first redirects ∈ first :: redirects := by
  unfold Exchange.lastPeer
  cases hlast : redirects.getLast? with
  | none => exact List.mem_cons_self
  | some peer => exact List.mem_cons_of_mem _ (List.mem_of_getLast? hlast)

variable (spkiPin pin) in
/-- 要求を送った相手は、記録に残る。 -/
theorem exists_sent_of_mem_peers {e : Exchange} {peer : Peer} (h : peer ∈ e.peers) :
    ∃ batch, NetEvent.sent peer batch ∈ e.events spkiPin pin := by
  cases e with
  | unreachable => cases h
  | talked first redirects ending =>
    rcases List.mem_cons.mp h with rfl | h
    · exact ⟨true, List.mem_append_left _ List.mem_cons_self⟩
    · exact ⟨false, List.mem_append_left _ (List.mem_cons_of_mem _ (List.mem_map_of_mem h))⟩

/-- 相手がみな pin に合う一周では、不一致は起きない。 -/
theorem pinned_events {e : Exchange} (h : ∀ peer ∈ e.peers, Matches spkiPin pin peer) :
    Pinned spkiPin pin (e.events spkiPin pin) := by
  cases e with
  | unreachable => exact ⟨fun _ _ hmem => absurd hmem List.not_mem_nil, fun _ => List.not_mem_nil⟩
  | talked first redirects ending =>
    have hcheck : checkPin spkiPin pin (Exchange.lastPeer first redirects) = true := by
      rw [checkPin, decide_eq_true (h _ (lastPeer_mem first redirects)), Bool.or_true]
    have hevents : (Exchange.talked first redirects ending).events spkiPin pin =
        .sent first true :: redirects.map (.sent · false) := by
      cases ending <;> simp [Exchange.events, hcheck]
    rw [hevents]
    constructor
    · intro peer batch hmem
      rcases List.mem_cons.mp hmem with heq | hmem
      · cases heq
        exact h first List.mem_cons_self
      · obtain ⟨peer', hpeer', heq⟩ := List.mem_map.mp hmem
        cases heq
        exact h _ (List.mem_cons_of_mem _ hpeer')
    · simp

end

/-- 一周が続くのは、まだ終わっていないときで、その相手はみな pin に合う。 -/
def PeersMatch (spkiPin : SpkiPin) (pin : List Char) (s : Sending) (e : Exchange) : Prop :=
  s.result = none → ∀ peer ∈ e.peers, Matches spkiPin pin peer

/--
**pin の守られる条件。** `send_batch` の途中でいつも、送った相手がみな pin に合い、不一致が送る前に判るのは、
終わるまでに接続した相手が、移った先も含めて、みな pin に合うときである。
-/
theorem guarded_iff (spkiPin : SpkiPin) (sh : Shipper) (exchanges : List Exchange) :
    (∀ pre, pre <+: exchanges → Guarded spkiPin sh.pin
        (Run.exec (Sending.step spkiPin sh.pin) (Sending.start sh) pre).trace) ↔
      Run.Along (Sending.step spkiPin sh.pin) (PeersMatch spkiPin sh.pin) (Sending.start sh)
        exchanges := by
  refine Run.property_iff (I := fun s : Sending => Pinned spkiPin sh.pin s.trace)
    (fun s h => h.guarded) ?_ ?_ ?_
  · intro s e h hmatch
    unfold Sending.step
    cases hresult : s.result with
    | some r => exact h
    | none => exact h.append (pinned_events (hmatch hresult))
  · intro s e h hguarded hresult peer hpeer
    obtain ⟨batch, hsent⟩ := exists_sent_of_mem_peers spkiPin sh.pin hpeer
    refine hguarded.sent peer batch ?_
    unfold Sending.step
    rw [hresult]
    exact List.mem_append_right _ hsent
  · exact ⟨fun _ _ hmem => absurd hmem List.not_mem_nil, fun _ => List.not_mem_nil⟩

/-- pin があれば、応答の JSON を返した一周の最後の相手は pin に合う。 -/
theorem matches_of_accepted {spkiPin : SpkiPin} {pin : List Char} (hpin : pin ≠ [])
    {first : Peer} {redirects : List Peer} {ending : Ending}
    (h : (Exchange.talked first redirects ending).outcome spkiPin pin = .accepted) :
    Matches spkiPin pin (Exchange.lastPeer first redirects) := by
  cases ending with
  | dropped => cases h
  | httpError code waits =>
    simp only [Exchange.outcome] at h
    split at h
    · cases h
    · split at h
      · split at h <;> cases h
      · split at h <;> cases h
  | success body =>
    simp only [Exchange.outcome] at h
    split at h
    · next hcheck => simpa [checkPin, hpin] using hcheck
    · cases h

/-! ## 不一致の後 -/

/-- 証明書の一 byte 目を鍵の hash とする `_spki_pin`。 -/
def sampleSpkiPin : SpkiPin
  | 1 :: _ => some "aa11".toList
  | _ :: _ => some "bb22".toList
  | [] => none

/-- pin のある sensor。 -/
def pinnedShipper : Shipper := { tlsPin := some "AA:11" }

/-- ほかの鍵の証明書を示す server が 200 を返すと、token と batch を送った後で不一致が判る。 -/
theorem not_guarded_otherKey :
    ¬ ∀ (spkiPin : SpkiPin) (sh : Shipper) (exchanges : List Exchange), sh.pin ≠ [] →
        Guarded spkiPin sh.pin
          (Run.exec (Sending.step spkiPin sh.pin) (Sending.start sh) exchanges).trace := by
  intro h
  have hguarded := h sampleSpkiPin pinnedShipper [.talked ⟨some [2]⟩ [] (.success .json)]
    (by decide)
  have hearly := hguarded.early [.sent ⟨some [2]⟩ true] ⟨some [2]⟩ [] (by decide) true
  exact hearly List.mem_cons_self

end CipherPost.Agent
