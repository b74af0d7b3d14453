import CipherPost.Live.Analyze

/-!
# mail の flow

`app/live/flows.py`。session を（client, server, protocol, port）の flow ごとに数え、それまでの最良の版
より後退した session に finding を足す。row の読み書きの例外は扱わない。時刻は µs である。

* `MailFlow` — `mail_flows` の row
* `updateFlow` — `update_flow`
* `detectRegression` — `detect_regression`
* `totalOf_updateFlow` — 数えは一つの flow だけで一つ増える
-/

namespace CipherPost.Live

open Parsing

/-! ## row -/

/-- `MailFlow`。主 key の id は table の key である。 -/
structure MailFlow where
  orgId : String
  clientHost : String
  serverHost : String
  protocol : String
  port : Int
  totalSessions : Nat := 0
  encryptedSessions : Nat := 0
  plaintextSessions : Nat := 0
  versions : Dict String Nat := Dict.empty
  ciphers : Dict String Nat := Dict.empty
  bestVersion : Option String
  firstSeen : Nat
  lastSeen : Nat
  fingerprints : Dict String Nat := Dict.empty
  deriving DecidableEq

/-- `mail_flows` の table。 -/
abbrev FlowTable := Dict String MailFlow

/-- `_VERSION_RANK`。 -/
def VERSION_RANK : List (String × Int) :=
  [("SSLv3", 0), ("TLS 1.0", 1), ("TLS 1.1", 2), ("TLS 1.2", 3), ("TLS 1.3", 4)]

/-- `s.strip()`。 -/
def strip (s : String) : String :=
  String.ofList (((s.toList.dropWhile isSpace).reverse.dropWhile isSpace).reverse)

/-- `version_rank`。 -/
def versionRank (v : Option String) : Int := (VERSION_RANK.lookup (strip (v.getD ""))).getD (-1)

/-- `flow_id`。 -/
def flowId (sha256 : String → String) (orgId : Option String) (client server protocol : String)
    (port : Int) : String :=
  let key := "|".intercalate [orgId.getD "", client, server, protocol, toString port]
  "flow-" ++ String.ofList ((sha256 key).toList.take 32)

/-- `parse_five_tuple`。 -/
def parseFiveTuple (fiveTuple : String) : String × String × Int :=
  let ft := splitFiveTuple fiveTuple.toList
  (String.ofList ft.client, String.ofList ft.server, ft.serverPort)

/-! ## 後退 -/

/-- `detect_regression`。履歴の浅い flow は問わない。 -/
def detectRegression (flow : MailFlow) (tlsVersion : Option String) (encrypted : Bool) :
    Option RuleFinding :=
  let name := "Flow " ++ flow.clientHost ++ " -> " ++ flow.serverHost ++ ":" ++ toString flow.port
    ++ " (" ++ flow.protocol ++ ")"
  if flow.totalSessions < 3 then none
  else if !encrypted && decide (flow.plaintextSessions = 0) then
    some { ruleId := "transport-regression", severity := .high
           title := name ++ " sent plaintext after " ++ toString flow.totalSessions
             ++ " encrypted sessions" }
  else
    match truthy tlsVersion, truthy flow.bestVersion with
    | some version, some best =>
      if versionRank (some version) < versionRank (some best) then
        some { ruleId := "transport-regression", severity := .medium
               title := name ++ " downgraded from " ++ best ++ " to " ++ version }
      else none
    | _, _ => none

/-! ## 数え -/

/-- 真なら数える。 -/
def bumpIf (d : Dict String Nat) (k : Option String) : Dict String Nat :=
  match truthy k with
  | some k => d.bump k
  | none => d

/-- 新しい flow。 -/
def MailFlow.opened (orgId : Option String) (client server protocol : String) (port : Int)
    (tlsVersion : Option String) (now : Nat) : MailFlow where
  orgId := orgId.getD ""
  clientHost := client
  serverHost := server
  protocol := protocol
  port := port
  bestVersion := tlsVersion
  firstSeen := now
  lastSeen := now

/-- session 一つを数える。 -/
def MailFlow.observe (flow : MailFlow) (tlsVersion cipher : Option String) (encrypted : Bool)
    (now : Nat) (fingerprints : List (Option String)) : MailFlow :=
  { flow with
    totalSessions := flow.totalSessions + 1
    encryptedSessions := flow.encryptedSessions + if encrypted then 1 else 0
    plaintextSessions := flow.plaintextSessions + if encrypted then 0 else 1
    versions := bumpIf flow.versions tlsVersion
    bestVersion :=
      match truthy tlsVersion with
      | some version =>
        if versionRank flow.bestVersion < versionRank (some version) then some version
        else flow.bestVersion
      | none => flow.bestVersion
    ciphers := bumpIf flow.ciphers cipher
    firstSeen := min now flow.firstSeen
    lastSeen := now
    fingerprints := fingerprints.foldl bumpIf flow.fingerprints }

/-- session のうち、flow の読む部分。 -/
structure FlowSession where
  fiveTuple : String
  protocol : String
  tlsVersion : Option String
  cipher : Option String
  /-- `ja4` と `ja4s`。 -/
  fingerprints : List (Option String)
  deriving DecidableEq

/-- session の属する flow の id。 -/
def FlowSession.flow (sha256 : String → String) (orgId : Option String) (s : FlowSession) : String :=
  let (client, server, port) := parseFiveTuple s.fiveTuple
  flowId sha256 orgId client server s.protocol port

/-- `update_flow`。暗号化されているのは、版の名前が分かる session である。 -/
def updateFlow (sha256 : String → String) (orgId : Option String) (now : Nat) (s : FlowSession)
    (flows : FlowTable) : FlowTable × Option RuleFinding :=
  let (client, server, port) := parseFiveTuple s.fiveTuple
  let id := s.flow sha256 orgId
  let encrypted := s.tlsVersion.isSome
  match flows.get? id with
  | none =>
    let flow := MailFlow.opened orgId client server s.protocol port s.tlsVersion now
    (flows.set id (flow.observe s.tlsVersion s.cipher encrypted now s.fingerprints), none)
  | some flow =>
    (flows.set id (flow.observe s.tlsVersion s.cipher encrypted now s.fingerprints),
      detectRegression flow s.tlsVersion encrypted)

/-- flow の session の数。 -/
def totalOf (flows : FlowTable) (id : String) : Nat :=
  ((flows.get? id).map (·.totalSessions)).getD 0

/-- **数えは、session の flow で一つ増える。** -/
theorem totalOf_updateFlow (sha256 : String → String) (orgId : Option String) (now : Nat)
    (s : FlowSession) (flows : FlowTable) (id : String) :
    totalOf (updateFlow sha256 orgId now s flows).1 id =
      totalOf flows id + if s.flow sha256 orgId = id then 1 else 0 := by
  unfold totalOf updateFlow
  dsimp only
  by_cases hid : s.flow sha256 orgId = id
  · subst hid
    cases hflow : flows.get? (s.flow sha256 orgId) with
    | none => simp [MailFlow.observe, MailFlow.opened]
    | some flow => simp [MailFlow.observe]
  · cases hflow : flows.get? (s.flow sha256 orgId) with
    | none => simp [Dict.get?_set_of_ne _ _ hid, hid]
    | some flow => simp [Dict.get?_set_of_ne _ _ hid, hid]

end CipherPost.Live
