import CipherPost.Infra.PyMax
import CipherPost.Live.Streams

/-!
# alert dispatcher

`app/live/alerts.py` の `AlertDispatcher`。findings stream の entry を、深刻度の閾値、suppression、
digest と quiet hours、group の保留窓の順に振り分け、dedup と rate を通ったものを alert として出す。

* `AlertDispatcher.triage` — group に入れる前の判断
* `AlertDispatcher.plan` — `_handle_entry` が行う命令の列
* `Instr.run` — 命令一つの実行
* `AlertDispatcher.step` — 事象一つ（entry、idle の flush、digest の flush、単発の alert、再起動）

一回の呼び出しの中で時計は進まない。policy・suppression・経路・時差は呼び出しごとに環境 `Env` が
答える（DB とその cache は model の外にある）。ticket は backend を設定しないものとして省く。
-/

namespace CipherPost.Live

/-! ## 環境 -/

/-- `_policy_for` が返す dict。 -/
structure Policy where
  minSeverity : String := "high"
  digest : String := "off"
  quietStartHour : Option Nat := none
  quietEndHour : Option Nat := none
  quietTz : String := "UTC"
  deriving DecidableEq

/-- 設定値。 -/
structure Config where
  /-- `SEV_ORDER.get(settings.ALERT_MIN_SEVERITY, 3)`。 -/
  minSev : Nat := 3
  dedupWindow : Nat := 300
  ratePerMinute : Nat := 60
  holdSeconds : Nat := 10
  maxAttempts : Nat := 5
  deriving DecidableEq

/-- 一回の呼び出しの環境。 -/
structure Env where
  now : Nat
  /-- `id(self)`。 -/
  pid : Nat := 0
  /-- `check_rate` の読む時計（μs）を、何度目の呼び出しかで引く。 -/
  rateClock : Nat → Nat := fun n => now * 1000000 + n
  link : Link := {}
  policyFor : Option String → Policy := fun _ => {}
  suppressed : Finding → Bool := fun _ => false
  /-- `_route_finding`。`none` は例外で、飲み込まれる。 -/
  route : Finding → Option Routing := fun _ => none
  /-- その時差での、今の時（0 から 23）。 -/
  localHour : String → Nat := fun _ => 0

namespace Env

/-- `_should_alert`。 -/
def shouldAlert (env : Env) (cfg : Config) (f : Finding) : Bool :=
  let threshold := (sevOrder? (env.policyFor f.orgId.get).minSeverity).getD cfg.minSev
  !decide (sevOrder f.effSeverity < threshold)

/-- `_in_quiet`。 -/
def inQuiet (env : Env) (p : Policy) : Bool :=
  match p.quietStartHour, p.quietEndHour with
  | some start, some stop =>
    if start = stop then false
    else
      let hour := env.localHour (orText (some p.quietTz) "UTC")
      if start < stop then decide (start ≤ hour) && decide (hour < stop)
      else decide (start ≤ hour) || decide (hour < stop)
  | _, _ => false

end Env

/-! ## digest -/

/-- `_current_period` の文字列が表す日または週。 -/
inductive Period where
  | day (n : Nat)
  | week (n : Nat)
  deriving DecidableEq

/-- `_current_period`。1970-01-01 は木曜日である。 -/
def currentPeriod (digest : String) (now : Nat) : Period :=
  if digest = "weekly" then .week ((now / 86400 + 3) / 7) else .day (now / 86400)

/-- digest と quiet hours の間の finding を貯める Redis の key。 -/
inductive StashKey where
  | digest (org : String) (period : Period)
  | quiet (org : String)
  deriving DecidableEq

/-- `org_id or "none"`。 -/
def orgKey (org : Option String) : String := orText org "none"

/-- 貯めた finding の要約。 -/
structure DigestItem where
  ruleId : Option String
  severity : Option String
  title : Option String
  fiveTuple : Option String
  ts : Option Nat
  deriving DecidableEq

def DigestItem.of (f : Finding) (now : Nat) : DigestItem :=
  { ruleId := f.ruleId.get, severity := f.maxOrSeverity, title := f.title.get
    fiveTuple := f.fiveTuple.get, ts := f.ts.getD now }

/-- `Counter(xs).most_common(n)`。同数なら先に現れたものが先である。 -/
def mostCommon (n : Nat) (xs : List (Option String)) : List (Option String × Nat) :=
  let counts : Dict (Option String) Nat :=
    xs.foldl (fun d x => d.set x ((d.get? x).getD 0 + 1)) Dict.empty
  (counts.entries.mergeSort fun a b => decide (b.2 ≤ a.2)).take n

/-- `max(severities, key=rank, default="info")`。同順なら先のものを取る。 -/
def topSeverity : List (Option String) → Option String
  | [] => some "info"
  | s :: l => pyMax (fun a b => decide (sevOrder (textOf a) < sevOrder (textOf b))) s l

/-- `_dispatch_digest` が作る finding。 -/
def digestFinding (org : Option String) (items : List DigestItem) : Finding :=
  let counts := mostCommon 8 (items.map DigestItem.ruleId)
  let summary := ", ".intercalate (counts.map fun c => textOf c.1 ++ " x" ++ toString c.2)
  { ruleId := .value "digest-summary"
    severity := .ofOption (topSeverity (items.map DigestItem.severity))
    title := .value ("Alert digest: " ++ toString items.length ++ " findings (" ++ summary ++ ")")
    description := .value (" Rolled-up non-critical findings for the period. "
      ++ "Critical alerts always bypass digests and quiet hours.")
    fiveTuple := .value ""
    protocol := .value ""
    orgId := .ofOption org
    riskScore := .null
    findings := .value [] }

/-! ## alert -/

/-- `_dispatch` が作る alert（`id` は乱数なので持たない）。 -/
structure Alert where
  ts : Nat
  fiveTuple : Option String
  protocol : Option String
  severity : String
  title : Option String
  description : String
  ruleId : Option String
  riskScore : Option Int
  findings : Option (List Item)
  orgId : Option String
  occurrenceCount : Option Nat
  firstSeen : Option Nat
  lastSeen : Option Nat
  deriving DecidableEq

def Alert.of (f : Finding) (now : Nat) : Alert :=
  { ts := now
    fiveTuple := f.fiveTuple.get
    protocol := f.protocol.get
    severity := f.effSeverity
    title := match truthy f.title.get with
      | some t => some t
      | none => match f.firstItem with
        | some i => i.title
        | none => some "finding"
    description := orText f.description.get ""
    ruleId := match truthy f.ruleId.get with
      | some r => some r
      | none => match f.firstItem with
        | some i => i.ruleId
        | none => some ""
    riskScore := f.riskScore.get
    findings := f.findings.getD []
    orgId := f.orgId.get
    occurrenceCount := f.occurrenceCount.getD 1
    firstSeen := f.firstSeen.get
    lastSeen := f.lastSeen.getD now }

/-- flush した group の値を finding `f` に重ねた dict。 -/
def Bucket.over (b : Bucket) (f : Finding) : Finding :=
  { f with
    ruleId := .ofOption b.ruleId
    severity := .value b.severity
    title := .value b.title
    description := .value b.description
    protocol := .ofOption b.protocol
    orgId := .ofOption b.orgId
    riskScore := .ofOption b.riskScore
    occurrenceCount := .value b.count
    firstSeen := .value b.firstSeen
    lastSeen := .value b.lastSeen
    server := .value b.server }

/-- `flush_expired` が返す dict。`group_key` と `sample` は `_dispatch` が読まない。 -/
def Bucket.grouped (b : Bucket) : Finding := b.over {}

/-- 出した alert と、それが代表する finding。 -/
structure Sent where
  alert : Alert
  members : List Member
  deriving DecidableEq

/-! ## 状態と命令 -/

/-- alert を出さずに終わった finding の行き先。 -/
inductive Outcome where
  | belowThreshold | suppressed | stashed | deduplicated | rateLimited
  deriving DecidableEq

/-- 証明のための記録。code の判断には使わない。 -/
structure Journal where
  outcomes : List (EntryId × Outcome) := []
  /-- group に入った finding。 -/
  arrived : List Member := []
  /-- flush した group。 -/
  flushed : List (List Member) := []
  /-- dedup で落ちた finding と、印を付けた alert の finding。 -/
  absorbed : List (Member × Member) := []
  deriving DecidableEq

/-- dispatcher と、それが使う Redis の状態。 -/
structure AlertDispatcher where
  state : AlertState := {}
  groups : GroupBuffer := {}
  digests : Dict StashKey (Nat × List DigestItem) := Dict.empty
  digestOrgs : List String := []
  consumer : Group Finding := {}
  /-- `_dispatch` の途中で、まだ出す見込みがある。 -/
  live : Bool := false
  sent : List Sent := []
  journal : Journal := {}
  deriving DecidableEq

/-- handler が行う命令。 -/
inductive Instr where
  | consumer (op : GroupOp Finding)
  | outcome (e : EntryId) (o : Outcome)
  | stash (e : EntryId) (key : StashKey) (org : String) (item : DigestItem)
  | takeStash (key : StashKey)
  | add (m : Member)
  | flush
  | gate (f : Finding) (members : List Member)
  | rate (members : List Member)
  | send (f : Finding) (members : List Member)
  deriving DecidableEq

namespace AlertDispatcher

/-- dedup の印を、いま `key` に付けている alert の finding。 -/
def holder (d : AlertDispatcher) (redisUp : Bool) (key : String) : List Member :=
  match (if redisUp then d.state.redisDedup else d.state.memDedup).get? key with
  | some (_, mark) => mark.members
  | none => []

/-- 貯めてある finding。期限の切れたものは読めない。 -/
def stashed (d : AlertDispatcher) (now : Nat) (key : StashKey) : List DigestItem :=
  match d.digests.get? key with
  | some (expires, items) => if now < expires then items else []
  | none => []

/-- `members` の行き先を記録する。 -/
def conclude (d : AlertDispatcher) (members : List Member) (o : Outcome) : AlertDispatcher :=
  { d with
    live := false
    journal := { d.journal with
      outcomes := d.journal.outcomes ++ members.map fun m => (m.id, o) } }

/-- `_stash_digest` の GET。失敗すれば、貯めてあるものは無いことになる。 -/
def heldItems (d : AlertDispatcher) (env : Env) (key : StashKey) : List DigestItem :=
  if env.link.getOk then d.stashed env.now key else []

/-- `_stash_digest`。200 個を超えた分は古い方から捨てる。Redis の失敗は飲み込まれる。 -/
def stash (d : AlertDispatcher) (env : Env) (e : EntryId) (key : StashKey) (org : String)
    (item : DigestItem) : AlertDispatcher :=
  if env.link.setexes then
    let items := d.heldItems env key ++ [item]
    let items := items.drop (items.length - 200)
    let d := { d with digests := d.digests.set key (env.now + 8 * 86400, items) }
    if env.link.saddOk then
      { d with
        digestOrgs := if org ∈ d.digestOrgs then d.digestOrgs else d.digestOrgs ++ [org]
        journal := { d.journal with outcomes := d.journal.outcomes ++ [(e, .stashed)] } }
    else d
  else d

/-- `self.r.delete(bkey)`。 -/
def takeStash (d : AlertDispatcher) (env : Env) (key : StashKey) : AlertDispatcher :=
  if env.link.up then { d with digests := d.digests.erase key } else d

/-- `self.groups.add(finding)`。 -/
def add (d : AlertDispatcher) (cfg : Config) (env : Env) (m : Member) : AlertDispatcher :=
  { d with
    groups := d.groups.add m env.now cfg.holdSeconds
    journal := { d.journal with arrived := d.journal.arrived ++ [m] } }

/-- `self.groups.flush_expired()` が取り出した後。 -/
def flush (d : AlertDispatcher) (env : Env) : AlertDispatcher :=
  { d with
    groups := d.groups.flushed env.now
    journal := { d.journal with
      flushed := d.journal.flushed ++ (d.groups.due env.now).map Bucket.members } }

/-- `_dispatch` の、深刻度の閾値と dedup。 -/
def gate (d : AlertDispatcher) (cfg : Config) (env : Env) (f : Finding) (members : List Member) :
    AlertDispatcher :=
  if env.shouldAlert cfg f = false then d.conclude members .belowThreshold
  else
    let r := d.state.checkAndSetDedup cfg.dedupWindow env.now env.link.up (groupKeyOf f)
      ⟨f.orgId.get, members⟩
    if r.1 then { d with state := r.2, live := true }
    else
      let held := d.holder env.link.up (groupKeyOf f)
      let d := d.conclude members .deduplicated
      { d with
        journal := { d.journal with
          absorbed := d.journal.absorbed ++ members.flatMap fun m => held.map fun h => (m, h) } }

/-- `_dispatch` の rate。 -/
def rate (d : AlertDispatcher) (cfg : Config) (env : Env) (members : List Member) :
    AlertDispatcher :=
  if d.live then
    let r := d.state.checkRate cfg.ratePerMinute env.rateClock env.pid env.link.up
    if r.1 then { d with state := r.2 } else { d with state := r.2 }.conclude members .rateLimited
  else d

/-- `_dispatch` の、alert を作って出す部分。 -/
def send (d : AlertDispatcher) (env : Env) (f : Finding) (members : List Member) :
    AlertDispatcher :=
  if d.live then { d with sent := d.sent ++ [⟨Alert.of f env.now, members⟩], live := false }
  else d

end AlertDispatcher

/-- 命令一つの実行。 -/
def Instr.run (cfg : Config) (env : Env) (d : AlertDispatcher) : Instr → AlertDispatcher
  | consumer op => { d with consumer := d.consumer.apply env.link op }
  | outcome e o =>
    { d with journal := { d.journal with outcomes := d.journal.outcomes ++ [(e, o)] } }
  | stash e key org item => d.stash env e key org item
  | takeStash key => d.takeStash env key
  | add m => d.add cfg env m
  | flush => d.flush env
  | gate f members => d.gate cfg env f members
  | rate members => d.rate cfg env members
  | send f members => d.send env f members

/-- `_dispatch`。 -/
def dispatch (f : Finding) (members : List Member) : List Instr :=
  [.gate f members, .rate members, .send f members]

/-! ## handler -/

/-- findings stream の entry の中身。 -/
inductive Payload where
  /-- JSON の object。 -/
  | object (f : Finding)
  /-- object を書いた JSON の文字列。 -/
  | quoted (f : Finding)
  /-- それ以外の JSON の値。 -/
  | scalar
  /-- decode できない文字列。 -/
  | garbage
  deriving DecidableEq

/-- decode した dict。 -/
def Payload.finding : Payload → Option Finding
  | object f => some f
  | quoted f => some f
  | _ => none

/-- group に入れる前の判断。 -/
inductive Triage where
  | drop (o : Outcome)
  | stash (key : StashKey)
  | group
  deriving DecidableEq

/-- 一回の呼び出しの、`try` の中の命令と、その後の命令。 -/
structure Plan where
  body : List Instr
  tail : List Instr

/-- 事象。 -/
inductive Event where
  | entry (e : EntryId) (env : Env) (fault : Fault)
  | idle (env : Env) (fault : Fault)
  | digest (org : String) (env : Env) (fault : Fault)
  | direct (f : Finding) (env : Env) (fault : Fault)
  | restart

namespace AlertDispatcher

variable (cfg : Config)

/-- `_handle_entry` の、閾値・suppression・quiet hours・digest の判断。 -/
def triage (env : Env) (f : Finding) : Triage :=
  if env.shouldAlert cfg f = false then .drop .belowThreshold
  else if env.suppressed f then .drop .suppressed
  else if sevOrder f.effSeverity < sevOrder "critical" then
    let policy := env.policyFor f.orgId.get
    if env.inQuiet policy then .stash (.quiet (orgKey f.orgId.get))
    else if policy.digest = "daily" ∨ policy.digest = "weekly" then
      .stash (.digest (orgKey f.orgId.get) (currentPeriod policy.digest env.now))
    else .group
  else .group

/-- 経路を書き込んだ finding。 -/
def routed (env : Env) (f : Finding) : Finding :=
  match env.route f with
  | some r => { f with routing := .value r }
  | none => f

/-- 期限の来た group の、alert に仕立てる dict と member。 -/
def dueGroups (groups : GroupBuffer) (now : Nat) (f : Finding) : List (Finding × List Member) :=
  (groups.due now).map fun b => (b.over f, b.members)

/-- group の列を順に `_dispatch` する。 -/
def dispatchAll (gs : List (Finding × List Member)) : List Instr :=
  gs.flatMap fun g => dispatch g.1 g.2

/-- `_handle_entry` の成功する道筋。 -/
def plan (d : AlertDispatcher) (e : EntryId) (env : Env) (f : Finding) : Plan :=
  match triage cfg env f with
  | .drop o => ⟨[.outcome e o], [.consumer (.ack e), .consumer (.clearAttempts e)]⟩
  | .stash key =>
    ⟨[.stash e key (orgKey f.orgId.get) (DigestItem.of f env.now)],
      [.consumer (.ack e), .consumer (.clearAttempts e)]⟩
  | .group =>
    let m : Member := ⟨e, routed env f⟩
    let groups := d.groups.add m env.now cfg.holdSeconds
    ⟨.add m :: .flush :: dispatchAll (dueGroups groups env.now m.finding),
      [.consumer (.clearAttempts e), .consumer (.ack e)]⟩

/-- `_handle_entry` の `except` の部分。 -/
def failure (d : AlertDispatcher) (e : EntryId) (env : Env) (payload : Option Finding) :
    List Instr :=
  (d.consumer.failed env.link cfg.maxAttempts e payload).map Instr.consumer

/-- `except` に来たときの `finding` の値。group に入れる前なら経路は書かれていない。 -/
def failedFinding (env : Env) (f : Finding) : Finding :=
  match triage cfg env f with
  | .group => routed env f
  | _ => f

/-- `_handle_entry` が実際に行う命令。 -/
def handleEntry (d : AlertDispatcher) (e : EntryId) (p : Payload) (env : Env) (fault : Fault) :
    List Instr :=
  match p.finding with
  | none => ({ fault with raiseAt := some 0 } : Fault).cut [] [] (d.failure cfg e env none)
  | some f =>
    let pl := d.plan cfg e env f
    fault.cut pl.body pl.tail (d.failure cfg e env (some (failedFinding cfg env f)))

/-- idle の flush。例外は飲み込まれ、残りの group は失われる。 -/
def idleFlush (d : AlertDispatcher) (env : Env) : List Instr :=
  .flush :: dispatchAll (dueGroups d.groups env.now {})

/-- `_flush_digests` が org について調べる key。 -/
def dueStashes (env : Env) (org : String) : List StashKey :=
  let policy := env.policyFor (if org = "none" then none else some org)
  let current := currentPeriod policy.digest env.now
  let prev := currentPeriod policy.digest (env.now - 86400)
  (if (policy.digest = "daily" ∨ policy.digest = "weekly") ∧ prev ≠ current then
    [.digest org prev] else []) ++ if env.inQuiet policy then [] else [.quiet org]

/-- `_flush_digests` の、org 一つについての部分。 -/
def flushDigests (d : AlertDispatcher) (org : String) (env : Env) : List Instr :=
  if env.link.up = true ∧ org ∈ d.digestOrgs then
    (dueStashes env org).flatMap fun key =>
      match d.stashed env.now key with
      | [] => []
      | items =>
        .takeStash key ::
          dispatch (digestFinding (if org = "none" then none else some org) items) []
  else []

/-- 再起動。メモリだけが消える。 -/
def restart (d : AlertDispatcher) : AlertDispatcher :=
  { d with state := d.state.restart, groups := {}, live := false }

/-- 命令の列を行い、process が止まればメモリを消す。 -/
def perform (d : AlertDispatcher) (env : Env) (fault : Fault) (is : List Instr) :
    AlertDispatcher :=
  let d := Run.exec (Instr.run cfg env) d is
  if fault.crashes then d.restart else d

/-- 事象一つ。`content` は findings stream の中身である。 -/
def step (content : EntryId → Payload) (d : AlertDispatcher) : Event → AlertDispatcher
  | .entry e env fault => d.perform cfg env fault (d.handleEntry cfg e (content e) env fault)
  | .idle env fault => d.perform cfg env fault (fault.cut (d.idleFlush env) [] [])
  | .digest org env fault => d.perform cfg env fault (fault.cut (d.flushDigests org env) [] [])
  | .direct f env fault => d.perform cfg env fault (fault.cut (dispatch f []) [] [])
  | .restart => d.restart

end AlertDispatcher

end CipherPost.Live
