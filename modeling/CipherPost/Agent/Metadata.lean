import CipherPost.Api.Ingest
import CipherPost.Infra.PyMax
import CipherPost.Live.Finding
import CipherPost.Live.Serialize
import CipherPost.Parsing.FiveTupleText

/-!
# sensor の metadata

`app/agent/meta.py`。sensor は session の bytes を送らず、許された key だけの辞書を送る。server は
それを `session_from_payload` に渡すが、そこで要る `client_ip` と `server_ip` は許された key にない。

* `redactHost`・`sessionToMetadata?`・`sessionToMetadata` — address の伏せ方と辞書
* `Carried` — sensor の計算した値が server の row に残ること
* `metadata_refused` — どの metadata も decoder に拒まれること
* `splitFiveTuple_formats` — 解析器と sensor の五つ組から、`split_five_tuple` が元の端点を読むこと
-/

namespace CipherPost.Agent

open Parsing Live

/-! ## 辞書 -/

/-- `addr_mode`。 -/
inductive AddrMode where
  | full | hashed | truncated
  deriving Repr, DecidableEq

/-- 標準 library の `hashlib` と `ipaddress`。 -/
structure HostLib where
  /-- `sha256(host.encode()).hexdigest()`。 -/
  sha256 : String → String
  /-- `ip_address(host)` の後の `ip_network(host/24, strict=False)` の network address。 -/
  network24 : String → Option String

/-- `redact_host`。 -/
def redactHost (lib : HostLib) (host : String) : AddrMode → String
  | .hashed => String.ofList ((lib.sha256 host).toList.take 32)
  | .truncated =>
    match lib.network24 host with
    | some net => net
    | none =>
      match host.splitOn "." with
      | [a, b, _, _] => ".".intercalate [a, b, "x", "x"]
      | _ => "redacted"
  | .full => host

/-- `risk_band`。 -/
def riskBand : Option Rat → String
  | none => "unknown"
  | some score =>
    if 75 ≤ score then "critical"
    else if 50 ≤ score then "high"
    else if 25 ≤ score then "medium"
    else "low"

/-- `cert_cns` の先頭。 -/
def certCn (certs : List CertAnalysis) : Option String :=
  (certs.map (·.subjectCn)).find? (fun cn => decide (cn ≠ ""))

/-- `cert_issuer or None`。 -/
def certIssuer (certs : List CertAnalysis) : Option String :=
  (certs.map (·.issuerCn)).find? (fun cn => decide (cn ≠ ""))

/-- `max_sev`。 -/
def maxSev (findings : List SessionFinding) : String :=
  match findings.map (·.severity) with
  | [] => "none"
  | s :: rest => pyMax (fun a b => decide (sevOrder a < sevOrder b)) s rest

/-- address を伏せた session。 -/
def maskSession (lib : HostLib) (mode : AddrMode) (sess : Session) : Session :=
  { sess with
    clientIp := redactHost lib sess.clientIp mode, serverIp := redactHost lib sess.serverIp mode }

/-- metadata の `five_tuple`。 -/
def metadataTuple (client : String) (clientPort : Nat) (server : String) (serverPort : Nat) :
    String :=
  client ++ ":" ++ toString clientPort ++ "-" ++ server ++ ":" ++ toString serverPort

/-- `session_to_metadata`。解析が無いこともある。 -/
def sessionToMetadata? (lib : HostLib) (sess : Session) (analysis : Option SessionAnalysis)
    (agentId : String) (mode : AddrMode) : List (String × Json) :=
  let client := redactHost lib sess.clientIp mode
  let server := redactHost lib sess.serverIp mode
  let findings := (analysis.map (·.findings)).getD []
  let certs := (analysis.map (·.certs)).getD []
  [("agent_id", .str agentId),
   ("protocol", .str sess.protocol.value),
   ("five_tuple", .str (metadataTuple client sess.clientPort server sess.serverPort)),
   ("client_host", .str client),
   ("server_host", .str server),
   ("client_port", .int sess.clientPort),
   ("server_port", .int sess.serverPort),
   ("is_starttls", .bool sess.isStarttls),
   ("start_ts", .float sess.startTs),
   ("end_ts", .float sess.endTs),
   -- 版の名前が無ければ番号に戻る
   ("tls_version",
    match analysis with
    | none => .null
    | some sa =>
      match sa.negotiatedVersionName with
      | some name => .str name
      | none => Json.ofNat? sa.tlsVersion),
   ("cipher", Json.ofString? (analysis.bind (·.cipher))),
   ("cipher_strength",
    match analysis.bind (·.cipherStrength) with
    | some percent => .float (percent / 100)
    | none => .null),
   ("pfs_supported", .bool ((analysis.bind (·.cipherMeta)).any (·.pfs))),
   ("cert_cn", Json.ofString? (certCn certs)),
   ("cert_issuer", Json.ofString? (certIssuer certs)),
   ("san_count", .int ((certs.head?.map (·.subjectAltNames.length)).getD 0)),
   ("finding_ids", .arr (findings.map fun f => .str f.ruleId)),
   ("max_severity", .str (maxSev findings)),
   ("risk_band", .str (riskBand none))]

/-- 解析のある session の辞書。 -/
def sessionToMetadata (lib : HostLib) (sess : Session) (sa : SessionAnalysis) (agentId : String)
    (mode : AddrMode) : List (String × Json) :=
  sessionToMetadata? lib sess (some sa) agentId mode

/-! ## server での受け取り -/

/-- stamp された payload の `_process_one`。 -/
def processOne (w : Worker) : Json → Except ProcessError StoredSession
  | .obj d => readPayload w d
  | _ => .error (.decode .typeError)

/-- sensor の計算した値が、`payload` から作られた row に残る。 -/
structure Carried (w : Worker) (payload : Json) (masked : Session) (sa : SessionAnalysis)
    (row : StoredSession) : Prop where
  processed : processOne w payload = .ok row
  endpoints : row.fiveTuple = masked.fiveTupleFull
  protocol : row.protocol = masked.protocol.value
  tlsVersion : row.tlsVersion = sa.negotiatedVersionName
  cipher : row.negotiatedCipher = sa.cipher
  ruleIds : row.findings.map (·.ruleId) = sa.findings.map (·.ruleId) ++ w.extra.map (·.ruleId)

theorem metadataTuple_ne_empty (client : String) (clientPort : Nat) (server : String)
    (serverPort : Nat) : metadataTuple client clientPort server serverPort ≠ "" := by
  intro h
  have hl := congrArg String.length h
  simp [metadataTuple] at hl

theorem value_ne_empty (p : Protocol) : p.value ≠ "" := by
  cases p <;> decide

/-- どの metadata も、受け付けの条件を満たす。 -/
theorem entryOk_sessionToMetadata (lib : HostLib) (sess : Session) (sa : SessionAnalysis)
    (agentId : String) (mode : AddrMode) :
    Api.entryOk (.obj (sessionToMetadata lib sess sa agentId mode)) = true := by
  have hf : (Json.str (metadataTuple (redactHost lib sess.clientIp mode) sess.clientPort
      (redactHost lib sess.serverIp mode) sess.serverPort)).truthy = true :=
    decide_eq_true (metadataTuple_ne_empty _ _ _ _)
  have hp : (Json.str sess.protocol.value).truthy = true := decide_eq_true (value_ne_empty _)
  rw [Api.entryOk, Bool.and_eq_true, Bool.and_eq_true]
  exact ⟨⟨rfl, hf⟩, hp⟩

/-- `client_ip` の無い辞書は、protocol と five_tuple が読めても decoder に拒まれる。 -/
theorem sessionFromPayload_of_no_client {d : List (String × Json)} {p : Protocol} {five : Json}
    (hp : DictList.get? "protocol" d = some (.str p.value))
    (hf : DictList.get? "five_tuple" d = some five) (hc : DictList.get? "client_ip" d = none) :
    sessionFromPayload d = .error (.keyError "client_ip") := by
  simp only [sessionFromPayload, subscript, hp, hf, hc, bind, Except.bind, protocolOf_value]

/-- stamp は `org_id`・`agent`・`ingested_at` の外の key を変えない。 -/
theorem get?_stamp (token : Api.AgentToken) (now : Nat) (entry : Json) {k : String}
    (ho : "org_id" ≠ k) (ha : "agent" ≠ k) (hi : "ingested_at" ≠ k) :
    (Api.stamp token now entry).get? k = entry.get? k := by
  rw [Api.stamp, Json.get?_set_of_ne hi, Json.get?_set_of_ne ha, Json.get?_set_of_ne ho]

/-- stamp された辞書は辞書である。 -/
theorem stamp_obj (token : Api.AgentToken) (now : Nat) (fields : List (String × Json)) :
    ∃ d, Api.stamp token now (.obj fields) = .obj d := ⟨_, rfl⟩

/-- stamp された metadata は、decoder の読む `client_ip` を持たない。 -/
theorem processOne_stamp (lib : HostLib) (w : Worker) (sess : Session) (sa : SessionAnalysis)
    (agentId : String) (mode : AddrMode) (token : Api.AgentToken) (now : Nat) :
    processOne w (Api.stamp token now (.obj (sessionToMetadata lib sess sa agentId mode)))
      = .error (.decode (.keyError "client_ip")) := by
  obtain ⟨d, hd⟩ := stamp_obj token now (sessionToMetadata lib sess sa agentId mode)
  have hget {k : String} (ho : "org_id" ≠ k) (ha : "agent" ≠ k) (hi : "ingested_at" ≠ k) :
      DictList.get? k d = DictList.get? k (sessionToMetadata lib sess sa agentId mode) := by
    have h := get?_stamp token now (.obj (sessionToMetadata lib sess sa agentId mode)) ho ha hi
    rwa [hd] at h
  have hp : DictList.get? "protocol" d = some (.str sess.protocol.value) :=
    hget (by decide) (by decide) (by decide)
  have hf : DictList.get? "five_tuple" d = some (.str (metadataTuple
      (redactHost lib sess.clientIp mode) sess.clientPort (redactHost lib sess.serverIp mode)
      sess.serverPort)) := hget (by decide) (by decide) (by decide)
  have hc : DictList.get? "client_ip" d = none := hget (by decide) (by decide) (by decide)
  have hdec : sessionFromPayload d = .error (.keyError "client_ip") :=
    sessionFromPayload_of_no_client hp hf hc
  rw [hd, processOne, readPayload, hdec]
  rfl

/-- **sensor の metadata は受け付けられるが、一つも row にならない。** -/
theorem metadata_refused (lib : HostLib) (w : Worker) (sess : Session) (sa : SessionAnalysis)
    (agentId : String) (mode : AddrMode) (token : Api.AgentToken) (now : Nat) :
    let entry := Json.obj (sessionToMetadata lib sess sa agentId mode)
    Api.entryOk entry = true ∧
      processOne w (Api.stamp token now entry) = .error (.decode (.keyError "client_ip")) ∧
      ¬ ∃ row, Carried w (Api.stamp token now entry) (maskSession lib mode sess) sa row := by
  have herr := processOne_stamp lib w sess sa agentId mode token now
  refine ⟨entryOk_sessionToMetadata lib sess sa agentId mode, herr, ?_⟩
  rintro ⟨row, hc⟩
  have hok := hc.processed
  rw [herr] at hok
  cases hok

/-! ## 一つの session -/

/-- 暗号化されない session。 -/
def plainSession : Session :=
  { protocol := .smtp, fiveTuple := "192.0.2.7:51000-198.51.100.9:25", clientIp := "192.0.2.7"
    serverIp := "198.51.100.9", clientPort := 51000, serverPort := 25 }

/-- 何も足さない library での解析器。 -/
def plainAnalyzer : Analyzer :=
  { loadCert := fun _ => .error "", validateChain := fun _ _ _ => ("no-cert", "") }

/-- sensor は解析できたが、server は伏せない metadata も読めない。 -/
theorem plainSession_refused :
    analyzeSession plainAnalyzer plainSession = .ok (startAnalysis plainSession) ∧
      ¬ ∃ row, Carried { analyzer := plainAnalyzer, untyped := fun _ => .error .index }
        (Api.stamp { name := "edge", orgId := "acme" } 0 (.obj (sessionToMetadata
          { sha256 := id, network24 := fun _ => none } plainSession (startAnalysis plainSession)
          "edge-1" .full)))
        (maskSession { sha256 := id, network24 := fun _ => none } .full plainSession)
        (startAnalysis plainSession) row := by
  refine ⟨rfl, ?_⟩
  rintro ⟨row, hc⟩
  have hok := hc.processed
  cases hok

/-! ## 五つ組 -/

/-- 解析器の五つ組。 -/
theorem toList_fiveTupleFull (s : Session) : s.fiveTupleFull.toList =
    endpointText s.clientIp.toList (portText s.clientPort) ++
      (ARROW ++ endpointText s.serverIp.toList (portText s.serverPort)) := by
  simp [Session.fiveTupleFull, endpointText, portText, ARROW]

/-- sensor の五つ組。 -/
theorem toList_metadataTuple (client : String) (clientPort : Nat) (server : String)
    (serverPort : Nat) : (metadataTuple client clientPort server serverPort).toList =
    endpointText client.toList (portText clientPort) ++
      (['-'] ++ endpointText server.toList (portText serverPort)) := by
  simp [metadataTuple, endpointText, portText]

/--
**五つ組の読み。** host に矢印が無く、server が `>` で始まらなければ、解析器の書く五つ組から元の端点を読む。
client の host に `-` も無ければ、sensor の書く五つ組からも読む。どの文字列でも例外にはならない。
-/
theorem splitFiveTuple_formats (s : Session) (hclient : NoArrow s.clientIp.toList)
    (hserver : NoArrow s.serverIp.toList) (hhead : s.serverIp.toList.head? ≠ some '>') :
    splitFiveTuple s.fiveTupleFull.toList =
        ⟨s.clientIp.toList, s.clientPort, s.serverIp.toList, s.serverPort⟩ ∧
      ('-' ∉ s.clientIp.toList →
        splitFiveTuple (metadataTuple s.clientIp s.clientPort s.serverIp s.serverPort).toList =
          ⟨s.clientIp.toList, s.clientPort, s.serverIp.toList, s.serverPort⟩) ∧
      ∀ text, splitFiveTupleE text = .ok (splitFiveTuple text) := by
  refine ⟨?_, fun hhyphen => ?_, splitFiveTupleE_eq⟩
  · rw [toList_fiveTupleFull]
    exact splitFiveTuple_arrow hclient hhead s.clientPort s.serverPort
  · rw [toList_metadataTuple]
    exact splitFiveTuple_hyphen hhyphen hserver hhead s.clientPort s.serverPort

/-- IPv6 の client と、`-` のある名前の server。 -/
def namedSession : Session :=
  { protocol := .imap, fiveTuple := "2001:db8::7:51000->mail-1.example:993"
    clientIp := "2001:db8::7", serverIp := "mail-1.example", clientPort := 51000, serverPort := 993 }

theorem splitFiveTuple_formats_named :
    splitFiveTuple namedSession.fiveTupleFull.toList =
        ⟨"2001:db8::7".toList, 51000, "mail-1.example".toList, 993⟩ ∧
      ('-' ∉ "2001:db8::7".toList →
        splitFiveTuple (metadataTuple "2001:db8::7" 51000 "mail-1.example" 993).toList =
          ⟨"2001:db8::7".toList, 51000, "mail-1.example".toList, 993⟩) ∧
      ∀ text, splitFiveTupleE text = .ok (splitFiveTuple text) :=
  splitFiveTuple_formats namedSession (by decide) (by decide) (by decide)

end CipherPost.Agent
