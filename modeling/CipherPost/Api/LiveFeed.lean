import Mathlib.Logic.Function.Iterate
import CipherPost.Core.Auth
import CipherPost.Live.Alerts
import CipherPost.Live.Analyze

/-!
# live の SSE

`app/api/main.py` の `/live/*` の口と、`app/live/streams.py` の `notify`。event は Redis の
pub/sub の channel に出され、その channel を購読しているすべての接続に届く。

* `Note` — `notify` が呼ばれる場所と、出される event
* `Endpoint.channels` — 口が購読する channel
* `Stream` — SSE の接続一つ（`_pubsub_sse`）
* `Feed.step` — 接続・購読・通知・読み出し・切断
* `feed_isolated` — 他の組織の event が利用者に届かない条件

heartbeat と ping は event ではないので省く。
-/

namespace CipherPost.Api

open CipherPost.Core CipherPost.Live

/-! ## event -/

/-- `LIVE_PUBSUB_PREFIX` の付く channel。 -/
inductive Channel where
  | sessions | findings | alerts | status
  deriving DecidableEq

/-- `ch.split(":")[-1]`。 -/
def Channel.name : Channel → String
  | sessions => "sessions"
  | findings => "findings"
  | alerts => "alerts"
  | status => "status"

/-- `_emit_sessions` が通知する dict。 -/
structure CaptureNote where
  fiveTuple : String
  protocol : String
  closedBy : String
  tlsBytes : Nat
  deriving DecidableEq

/-- 通知の中身。`_process_one` は同じ payload を二つの channel に出す。 -/
inductive Note where
  | analysedFinding (f : Finding)
  | analysedSession (f : Finding)
  | captured (c : CaptureNote)
  | alerted (a : Alert)
  deriving DecidableEq

namespace Note

/-- 出される channel。 -/
def channel : Note → Channel
  | analysedFinding _ => .findings
  | analysedSession _ => .sessions
  | captured _ => .sessions
  | alerted _ => .alerts

/-- event の組織。手元の capture の session は `sensorOrg` のものになる。 -/
def owner (sensorOrg : Option String) : Note → Option String
  | analysedFinding f => f.orgId.get
  | analysedSession f => f.orgId.get
  | captured _ => sensorOrg
  | alerted a => a.orgId

/-- `org` の利用者から見て、他の組織の event である。 -/
def foreign (sensorOrg : Option String) (org : String) (n : Note) : Bool :=
  match n.owner sensorOrg with
  | some o => decide (o ≠ org)
  | none => false

end Note

/-- channel に出された JSON。 -/
structure Message where
  note : Note
  ts : Nat
  deriving DecidableEq

/-! ## 接続 -/

/-- SSE の口。 -/
inductive Endpoint where
  | liveStream | liveSessions | liveFindings | liveAlerts
  deriving DecidableEq

/-- 購読する channel。 -/
def Endpoint.channels : Endpoint → List Channel
  | liveStream => [.sessions, .findings, .alerts, .status]
  | liveSessions => [.sessions]
  | liveFindings => [.findings]
  | liveAlerts => [.alerts]

/-- `_pubsub_sse` 一つの状態。`ctx` は `_sse_ctx` の結果で、code は使わない。 -/
structure Stream where
  ctx : AuthContext
  /-- まだ購読していない channel。 -/
  todo : List Channel
  channels : List Channel := []
  /-- Redis が届け、まだ読んでいない message。 -/
  pending : List Message := []
  /-- 利用者に送った `event` と message。 -/
  delivered : List (String × Message) := []
  connected : Bool := true
  deriving DecidableEq

namespace Stream

/-- `pubsub.subscribe` 一回。 -/
def subscribe (x : Stream) : Stream :=
  match x.connected, x.todo with
  | true, ch :: rest => { x with todo := rest, channels := x.channels ++ [ch] }
  | _, _ => x

/-- Redis が message を届ける。 -/
def receive (m : Message) (x : Stream) : Stream :=
  if x.connected = true ∧ m.note.channel ∈ x.channels then
    { x with pending := x.pending ++ [m] }
  else x

/-- `get_message` と `yield`。すべての channel を購読してから始まる。 -/
def poll (x : Stream) : Stream :=
  match x.connected, x.todo, x.pending with
  | true, [], m :: rest =>
    { x with pending := rest, delivered := x.delivered ++ [(m.note.channel.name, m)] }
  | _, _, _ => x

/-- 切断。読んでいない message は失われる。 -/
def disconnect (x : Stream) : Stream := { x with connected := false, pending := [] }

@[simp] theorem ctx_subscribe (x : Stream) : x.subscribe.ctx = x.ctx := by
  unfold subscribe
  split <;> rfl

@[simp] theorem ctx_receive (m : Message) (x : Stream) : (x.receive m).ctx = x.ctx := by
  unfold receive
  split <;> rfl

@[simp] theorem ctx_poll (x : Stream) : x.poll.ctx = x.ctx := by
  unfold poll
  split <;> rfl

@[simp] theorem ctx_disconnect (x : Stream) : x.disconnect.ctx = x.ctx := rfl

end Stream

/-- すべての接続。 -/
abbrev Feed : Type := Dict Nat Stream

/-- 事象。 -/
inductive FeedEvent where
  | connect (c : Nat) (ctx : AuthContext) (endpoint : Endpoint)
  | subscribe (c : Nat)
  /-- `notify`。失敗（`ok = false`）は飲み込まれる。 -/
  | notify (n : Note) (ts : Nat) (ok : Bool)
  | poll (c : Nat)
  | disconnect (c : Nat)

namespace Feed

/-- 接続 `c` に `f` を行う。 -/
def update (s : Feed) (c : Nat) (f : Stream → Stream) : Feed :=
  match s.get? c with
  | none => s
  | some x => s.set c (f x)

/-- 新しい接続。 -/
def connect (s : Feed) (c : Nat) (ctx : AuthContext) (endpoint : Endpoint) : Feed :=
  match s.get? c with
  | none => s.set c { ctx := ctx, todo := endpoint.channels }
  | some _ => s

/-- 事象一つ。 -/
def step (s : Feed) : FeedEvent → Feed
  | .connect c ctx endpoint => s.connect c ctx endpoint
  | .subscribe c => s.update c Stream.subscribe
  | .notify n ts ok => if ok then s.mapValues (Stream.receive ⟨n, ts⟩) else s
  | .poll c => s.update c Stream.poll
  | .disconnect c => s.update c Stream.disconnect

/-- 接続 `c` が利用者 `user` に送った event。 -/
def deliveredTo (s : Feed) (user : String) (c : Nat) : List (String × Message) :=
  match s.get? c with
  | some x => if x.ctx.userId = user then x.delivered else []
  | none => []

theorem get?_update (s : Feed) (c : Nat) (f : Stream → Stream) (c' : Nat) :
    (s.update c f).get? c' = if c = c' then (s.get? c').map f else s.get? c' := by
  unfold update
  split
  · next h =>
    split
    · next he =>
      subst he
      rw [h]
      rfl
    · rfl
  · next x h =>
    rw [Dict.get?_set]
    split
    · next he =>
      subst he
      rw [h]
      rfl
    · rfl

/-! ## 二つの run の対応 -/

/-- 利用者 `user` の接続は等しく、他の利用者の接続は持ち主だけが同じである。 -/
def Agree (user : String) : Option Stream → Option Stream → Prop
  | none, none => True
  | some x, some y => x.ctx = y.ctx ∧ (x.ctx.userId = user → x = y)
  | _, _ => False

/-- 二つの状態は、`user` から見て同じである。 -/
def SameFor (user : String) (s t : Feed) : Prop := ∀ c, Agree user (s.get? c) (t.get? c)

variable {user : String}

theorem Agree.map {f : Stream → Stream} (hf : ∀ x, (f x).ctx = x.ctx) {a b : Option Stream}
    (h : Agree user a b) : Agree user (a.map f) (b.map f) := by
  cases a with
  | none =>
    cases b with
    | none => trivial
    | some y => exact h.elim
  | some x =>
    cases b with
    | none => exact h.elim
    | some y => exact ⟨by rw [hf, hf, h.1], fun hu => congrArg f (h.2 (hf x ▸ hu))⟩

theorem SameFor.update {s t : Feed} (h : SameFor user s t) (c : Nat) {f : Stream → Stream}
    (hf : ∀ x, (f x).ctx = x.ctx) : SameFor user (s.update c f) (t.update c f) := by
  intro c'
  rw [get?_update, get?_update]
  split
  · exact (h c').map hf
  · exact h c'

theorem SameFor.connect {s t : Feed} (h : SameFor user s t) (c : Nat) (ctx : AuthContext)
    (endpoint : Endpoint) : SameFor user (s.connect c ctx endpoint) (t.connect c ctx endpoint) := by
  have hc := h c
  unfold Feed.connect
  cases hs : s.get? c with
  | some x =>
    cases ht : t.get? c with
    | some y => exact h
    | none => rw [hs, ht] at hc; exact hc.elim
  | none =>
    cases ht : t.get? c with
    | some y => rw [hs, ht] at hc; exact hc.elim
    | none =>
      intro c'
      simp only [Dict.get?_set]
      split
      · exact ⟨rfl, fun _ => rfl⟩
      · exact h c'

/-- どちらの run でも起きる事象は、対応を保つ。 -/
theorem SameFor.step {s t : Feed} (h : SameFor user s t) (ev : FeedEvent) :
    SameFor user (s.step ev) (t.step ev) := by
  cases ev with
  | connect c ctx endpoint => exact h.connect c ctx endpoint
  | subscribe c => exact h.update c Stream.ctx_subscribe
  | notify n ts ok =>
    cases ok with
    | false => exact h
    | true =>
      intro c
      show Agree user ((s.mapValues (Stream.receive ⟨n, ts⟩)).get? c)
        ((t.mapValues (Stream.receive ⟨n, ts⟩)).get? c)
      rw [Dict.get?_mapValues, Dict.get?_mapValues]
      exact (h c).map (Stream.ctx_receive ⟨n, ts⟩)
  | poll c => exact h.update c Stream.ctx_poll
  | disconnect c => exact h.update c Stream.ctx_disconnect

theorem SameFor.deliveredTo {s t : Feed} (h : SameFor user s t) (c : Nat) :
    s.deliveredTo user c = t.deliveredTo user c := by
  have hc := h c
  unfold Feed.deliveredTo
  cases hs : s.get? c with
  | none =>
    cases ht : t.get? c with
    | none => rfl
    | some y => rw [hs, ht] at hc; exact hc.elim
  | some x =>
    cases ht : t.get? c with
    | none => rw [hs, ht] at hc; exact hc.elim
    | some y =>
      rw [hs, ht] at hc
      by_cases hu : x.ctx.userId = user
      · simp only [hc.2 hu]
      · have hu' : y.ctx.userId ≠ user := hc.1 ▸ hu
        simp only [if_neg hu, if_neg hu']

/-! ## 条件 -/

variable (sensorOrg : Option String) (org : String)

/-- 他の組織の event を除いた run に残る事象。 -/
def keeps : FeedEvent → Bool
  | .notify n _ _ => !n.foreign sensorOrg org
  | _ => true

/-- 他の組織の event は、`user` の接続が購読している channel に出ない。 -/
def Unexposed (user : String) (s : Feed) : FeedEvent → Prop
  | .notify n _ ok => n.foreign sensorOrg org = true → ok = true → ∀ c x, s.get? c = some x →
      x.ctx.userId = user → x.connected = true → n.channel ∉ x.channels
  | _ => True

variable {sensorOrg org}

/-- 除かれる event は、条件の下で `user` の接続を変えない。 -/
theorem SameFor.drop {s t : Feed} (h : SameFor user s t) {ev : FeedEvent}
    (hc : Unexposed sensorOrg org user s ev) (hk : keeps sensorOrg org ev = false) :
    SameFor user (s.step ev) t := by
  cases ev with
  | notify n ts ok =>
    have hforeign : n.foreign sensorOrg org = true := by
      rw [keeps, Bool.not_eq_false'] at hk
      exact hk
    cases ok with
    | false => exact h
    | true =>
      intro c
      have hx := h c
      show Agree user ((s.mapValues (Stream.receive ⟨n, ts⟩)).get? c) (t.get? c)
      rw [Dict.get?_mapValues]
      cases hs : s.get? c with
      | none => rw [hs] at hx; exact hx
      | some x =>
        rw [hs] at hx
        cases ht : t.get? c with
        | none => rw [ht] at hx; exact hx.elim
        | some y =>
          rw [ht] at hx
          refine ⟨by rw [Stream.ctx_receive]; exact hx.1, fun hu => ?_⟩
          rw [Stream.ctx_receive] at hu
          -- 条件により、`user` の接続はこの channel を購読していない
          have hfix : x.receive ⟨n, ts⟩ = x := by
            unfold Stream.receive
            exact if_neg fun hcond => hc hforeign rfl c x hs hu hcond.1 hcond.2
          rw [hfix]
          exact hx.2 hu
  | connect c ctx endpoint => cases hk
  | subscribe c => cases hk
  | poll c => cases hk
  | disconnect c => cases hk

/-- 購読した channel に出た event は、誰のものでも、読み出せば利用者に届く。 -/
theorem delivered_receive {x : Stream} (m : Message) (hconn : x.connected = true)
    (htodo : x.todo = []) (hmem : m.note.channel ∈ x.channels) :
    (Stream.poll^[x.pending.length + 1] (x.receive m)).delivered
      = x.delivered ++ (x.pending ++ [m]).map fun m => (m.note.channel.name, m) := by
  -- 一回の poll が一つを届けるので、溜まった数だけで足りる
  have hpoll : ∀ (l : List Message) (y : Stream), y.connected = true → y.todo = [] →
      y.pending = l → (Stream.poll^[l.length] y).delivered
        = y.delivered ++ l.map fun m => (m.note.channel.name, m) := by
    intro l
    induction l with
    | nil => intro y _ _ _; simp
    | cons m rest ih =>
      intro y hc ht hp
      have hstep : y.poll = { y with
          pending := rest, delivered := y.delivered ++ [(m.note.channel.name, m)] } := by
        unfold Stream.poll
        rw [hc, ht, hp]
      rw [List.length_cons, Function.iterate_succ_apply, ih y.poll (by rw [hstep]; exact hc)
        (by rw [hstep]; exact ht) (by rw [hstep]), hstep]
      simp
  have hrecv : x.receive m = { x with pending := x.pending ++ [m] } := by
    unfold Stream.receive
    rw [if_pos ⟨hconn, hmem⟩]
  have hlen : x.pending.length + 1 = (x.pending ++ [m]).length := by simp
  rw [hlen, hpoll (x.pending ++ [m]) (x.receive m) (by rw [hrecv]; exact hconn)
    (by rw [hrecv]; exact htodo) (by rw [hrecv]), hrecv]

end Feed

/--
他の組織の event が利用者の購読している channel に出なければ、利用者に届く event は、
他の組織の event をすべて除いた run と同じである。
-/
theorem feed_isolated (sensorOrg : Option String) (org user : String) (es pre : List FeedEvent)
    (hc : Run.Along Feed.step (Feed.Unexposed sensorOrg org user) Dict.empty es)
    (hp : pre <+: es) (c : Nat) :
    (Run.exec Feed.step Dict.empty pre).deliveredTo user c
      = (Run.exec Feed.step Dict.empty (pre.filter (Feed.keeps sensorOrg org))).deliveredTo
        user c := by
  have hsame : Feed.SameFor user (Run.exec Feed.step Dict.empty pre)
      (Run.exec Feed.step Dict.empty (pre.filter (Feed.keeps sensorOrg org))) := by
    have hkept : Run.Along Feed.step (fun _ _ => True) Dict.empty
        (pre.filter (Feed.keeps sensorOrg org)) := Run.along_of_forall (fun _ _ => trivial) _ _
    refine Run.Along.filter_sim (R := Feed.SameFor user) (fun _ _ ev h _ _ _ => h.step ev)
      (fun _ _ _ h hc hk => h.drop hc hk) (hc.isPrefix hp) hkept ?_
    intro c
    trivial
  exact hsame.deliveredTo c

/-- 組織 `a` の利用者が findings を購読し、`owner` の finding が通知される run。 -/
def watchedFinding (owner : String) : List FeedEvent :=
  [.connect 0 { userId := "u", email := "u@a.example", orgId := "a", role := "auditor", via := .jwt }
    .liveFindings, .subscribe 0,
    .notify (.analysedFinding { orgId := .value owner, title := .value "weak cipher" }) 1 true,
    .poll 0]

/-- 自分の組織の finding だけが通知される run。 -/
theorem feed_isolated_own :
    (Run.exec Feed.step Dict.empty (watchedFinding "a")).deliveredTo "u" 0
      = (Run.exec Feed.step Dict.empty
          ((watchedFinding "a").filter (Feed.keeps none "a"))).deliveredTo "u" 0 :=
  feed_isolated none "a" "u" (watchedFinding "a") _
    ⟨trivial, trivial, fun h => absurd h (by decide), trivial, trivial⟩ (List.prefix_refl _) 0

/-- 他の組織の finding も、購読している利用者に届く。 -/
theorem feed_leaks :
    (Run.exec Feed.step Dict.empty (watchedFinding "b")).deliveredTo "u" 0
      = [("findings", ⟨.analysedFinding { orgId := .value "b", title := .value "weak cipher" }, 1⟩)] ∧
    (Run.exec Feed.step Dict.empty
      ((watchedFinding "b").filter (Feed.keeps none "a"))).deliveredTo "u" 0 = [] := by
  decide

end CipherPost.Api
