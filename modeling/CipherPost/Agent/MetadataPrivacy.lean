import CipherPost.Agent.Metadata
import CipherPost.Infra.Lines

/-!
# metadata に現れるもの

`session_to_metadata` の辞書は、payload の bytes にも、伏せた address の下の部分にも依らない。二つの session を
比べて述べる。session に足された `raw_refs` は、読まれない。key は許された key の並びである。

* `ipv4?`・`hostLib` — `ipaddress` の IPv4 の読みと /24 の network
* `SameHost`・`SamePublic`・`SameFacts` — 違ってよいものだけが違うこと
* `metadata_private` — 辞書が等しいことと、key の並び
-/

namespace CipherPost.Agent

open Parsing Live

/-! ## IPv4 の address -/

/-- `_parse_octet`。余分な 0 で始まる数は読まない。 -/
def octet? (s : List Char) : Option Nat :=
  if s = [] ∨ s.all Char.isDigit = false ∨ 3 < s.length ∨ (s ≠ ['0'] ∧ s.head? = some '0') then none
  else
    let n := Nat.ofDigitChars 10 s 0
    if 255 < n then none else some n

/-- `IPv4Address(host)` の四つの数。 -/
def ipv4? (host : String) : Option (Nat × Nat × Nat × Nat) :=
  match host.toList.splitOn '.' with
  | [a, b, c, d] => do
    let a ← octet? a
    let b ← octet? b
    let c ← octet? c
    let d ← octet? d
    some (a, b, c, d)
  | _ => none

/-- IPv4 の /24 の network の address。 -/
def network4 (a b c : Nat) : String :=
  toString a ++ "." ++ toString b ++ "." ++ toString c ++ ".0"

/-- `ipaddress` の IPv4 の読みを定めた library。`network6` は IPv6 の読みである。 -/
def hostLib (sha256 : String → String) (network6 : String → Option String) : HostLib where
  sha256 := sha256
  network24 host :=
    match ipv4? host with
    | some (a, b, c, _) => some (network4 a b c)
    | none => network6 host

/-! ## 辞書 -/

/-- `PRIVACY_ALLOW_LIST`。 -/
def PRIVACY_ALLOW_LIST : String :=
  "agent_id protocol five_tuple client_host server_host client_port " ++
  "server_port is_starttls start_ts end_ts tls_version cipher " ++
  "cipher_strength pfs_supported cert_cn cert_issuer san_count " ++
  "finding_ids max_severity risk_band"

/-- `PRIVACY_ALLOW_LIST.split()`。 -/
def allowedKeys : List String := (PRIVACY_ALLOW_LIST.toList.splitOn ' ').map String.ofList

/-- 許された key の並び。 -/
def METADATA_KEYS : List String :=
  ["agent_id", "protocol", "five_tuple", "client_host", "server_host", "client_port",
    "server_port", "is_starttls", "start_ts", "end_ts", "tls_version", "cipher",
    "cipher_strength", "pfs_supported", "cert_cn", "cert_issuer", "san_count", "finding_ids",
    "max_severity", "risk_band"]

/-- どの key も空白を含まないので、空白で分けるとその並びになる。 -/
theorem allowedKeys_eq : allowedKeys = METADATA_KEYS := by
  have hwords : PRIVACY_ALLOW_LIST = " ".intercalate METADATA_KEYS := by decide +kernel
  have hspace : ∀ key ∈ METADATA_KEYS, ' ' ∉ key.toList := by decide +kernel
  rw [allowedKeys, hwords, splitOn_intercalate_strings (by decide : " ".toList = [' ']) hspace
    (List.cons_ne_nil _ _), List.map_map]
  simp

/-- key は、許された key の並びである。 -/
theorem keys_sessionToMetadata? (lib : HostLib) (sess : Session)
    (analysis : Option SessionAnalysis) (agentId : String) (mode : AddrMode) :
    (sessionToMetadata? lib sess analysis agentId mode).map Prod.fst = allowedKeys := by
  rw [allowedKeys_eq]
  rfl

/-! ## 違ってよいもの -/

/-- 伏せ方が `mode` のとき、同じに見える host。`truncated` では /24 の下だけが違ってよい。 -/
def SameHost (mode : AddrMode) (host host' : String) : Prop :=
  host = host' ∨ mode = .truncated ∧
    ∃ a b c d d', ipv4? host = some (a, b, c, d) ∧ ipv4? host' = some (a, b, c, d')

/-- payload の bytes と、`mode` の伏せる部分だけが違う session。 -/
structure SamePublic (mode : AddrMode) (sess sess' : Session) : Prop where
  protocol : sess.protocol = sess'.protocol
  client : SameHost mode sess.clientIp sess'.clientIp
  server : SameHost mode sess.serverIp sess'.serverIp
  clientPort : sess.clientPort = sess'.clientPort
  serverPort : sess.serverPort = sess'.serverPort
  isStarttls : sess.isStarttls = sess'.isStarttls
  startTs : sess.startTs = sess'.startTs
  endTs : sess.endTs = sess'.endTs

/-- 解析の事実。finding は id と重さ、証明書は名前と SAN の数である。 -/
structure Facts where
  versionName : Option String
  tlsVersion : Option Nat
  cipher : Option String
  cipherStrength : Option Nat
  cipherMeta : Option CipherMeta
  certs : List (String × String × Nat)
  findings : List (String × String)

/-- 解析の結果のうちの事実。 -/
def factsOf (sa : SessionAnalysis) : Facts where
  versionName := sa.negotiatedVersionName
  tlsVersion := sa.tlsVersion
  cipher := sa.cipher
  cipherStrength := sa.cipherStrength
  cipherMeta := sa.cipherMeta
  certs := sa.certs.map fun c => (c.subjectCn, c.issuerCn, c.subjectAltNames.length)
  findings := sa.findings.map fun f => (f.ruleId, f.severity)

variable {sha256 : String → String} {network6 : String → Option String}

theorem redactHost_of_sameHost {mode : AddrMode} {host host' : String}
    (h : SameHost mode host host') :
    redactHost (hostLib sha256 network6) host mode =
      redactHost (hostLib sha256 network6) host' mode := by
  rcases h with rfl | ⟨rfl, a, b, c, d, d', h4, h4'⟩
  · rfl
  · have hnet {x e} (hx : ipv4? x = some (a, b, c, e)) :
        (hostLib sha256 network6).network24 x = some (network4 a b c) := by
      simp only [hostLib, hx]
    rw [redactHost, redactHost, hnet h4, hnet h4']

/-! ## 事実から作る項目 -/

section
variable {sa sa' : SessionAnalysis}

theorem certCn_eq_facts (sa : SessionAnalysis) : certCn sa.certs =
    ((factsOf sa).certs.map fun c => c.1).find? fun cn => decide (cn ≠ "") := by
  rw [factsOf, List.map_map]
  rfl

theorem certIssuer_eq_facts (sa : SessionAnalysis) : certIssuer sa.certs =
    ((factsOf sa).certs.map fun c => c.2.1).find? fun cn => decide (cn ≠ "") := by
  rw [factsOf, List.map_map]
  rfl

theorem sanCount_eq_facts (sa : SessionAnalysis) :
    (sa.certs.head?.map fun c => (c.subjectAltNames.length : Int)) =
      (factsOf sa).certs.head?.map fun c => (c.2.2 : Int) := by
  rw [factsOf, List.head?_map, Option.map_map]
  rfl

theorem findingIds_eq_facts (sa : SessionAnalysis) :
    (sa.findings.map fun f => Json.str f.ruleId) =
      (factsOf sa).findings.map fun f => Json.str f.1 := by
  rw [factsOf, List.map_map]
  rfl

theorem maxSev_eq_facts (sa : SessionAnalysis) : maxSev sa.findings =
    match (factsOf sa).findings.map Prod.snd with
    | [] => "none"
    | s :: rest => pyMax (fun a b => decide (sevOrder a < sevOrder b)) s rest := by
  rw [factsOf, List.map_map]
  rfl

/-- 事実の等しい解析からは、同じ辞書ができる。 -/
theorem sessionToMetadata_of_facts (h : factsOf sa = factsOf sa') (lib : HostLib) (sess : Session)
    (agentId : String) (mode : AddrMode) :
    sessionToMetadata lib sess sa agentId mode = sessionToMetadata lib sess sa' agentId mode := by
  have hname : sa.negotiatedVersionName = sa'.negotiatedVersionName := congrArg Facts.versionName h
  have hversion : sa.tlsVersion = sa'.tlsVersion := congrArg Facts.tlsVersion h
  have hcipher : sa.cipher = sa'.cipher := congrArg Facts.cipher h
  have hstrength : sa.cipherStrength = sa'.cipherStrength := congrArg Facts.cipherStrength h
  have hmeta : sa.cipherMeta = sa'.cipherMeta := congrArg Facts.cipherMeta h
  simp only [sessionToMetadata, sessionToMetadata?, Option.map_some, Option.getD_some,
    Option.bind_some, certCn_eq_facts, certIssuer_eq_facts, sanCount_eq_facts, findingIds_eq_facts,
    maxSev_eq_facts, h, hname, hversion, hcipher, hstrength, hmeta]

end

/-- 違ってよいものだけの違う session からは、同じ辞書ができる。 -/
theorem sessionToMetadata?_of_samePublic {mode : AddrMode} {sess sess' : Session}
    (h : SamePublic mode sess sess') (analysis : Option SessionAnalysis) (agentId : String) :
    sessionToMetadata? (hostLib sha256 network6) sess analysis agentId mode =
      sessionToMetadata? (hostLib sha256 network6) sess' analysis agentId mode := by
  simp only [sessionToMetadata?, redactHost_of_sameHost h.client, redactHost_of_sameHost h.server,
    h.protocol, h.clientPort, h.serverPort, h.isStarttls, h.startTs, h.endTs]

/--
**metadata は payload にも伏せた address にも依らない。** 解析の事実が等しく、payload の bytes と、`truncated` では
IPv4 の address の /24 の下だけが違う二つの session から、同じ辞書ができる。どの入力でも、key は許された key の
並びである。
-/
theorem metadata_private {mode : AddrMode} {sess sess' : Session}
    {analysis analysis' : Option SessionAnalysis} (hsess : SamePublic mode sess sess')
    (hfacts : analysis.map factsOf = analysis'.map factsOf) (agentId : String) :
    sessionToMetadata? (hostLib sha256 network6) sess analysis agentId mode =
        sessionToMetadata? (hostLib sha256 network6) sess' analysis' agentId mode ∧
      ∀ (lib : HostLib) (sess : Session) (analysis : Option SessionAnalysis) (agentId : String)
        (mode : AddrMode),
        (sessionToMetadata? lib sess analysis agentId mode).map Prod.fst = allowedKeys := by
  refine ⟨?_, keys_sessionToMetadata?⟩
  rw [sessionToMetadata?_of_samePublic hsess]
  cases analysis with
  | none =>
    cases analysis' with
    | none => rfl
    | some sa' => cases hfacts
  | some sa =>
    cases analysis' with
    | none => cases hfacts
    | some sa' =>
      have hsame : factsOf sa = factsOf sa' := Option.some.inj hfacts
      exact sessionToMetadata_of_facts hsame _ sess' agentId mode

/-- `plainSession` と同じ network の、bytes の違う session。 -/
def neighbourSession : Session :=
  { plainSession with
    fiveTuple := "192.0.2.200:51000->198.51.100.1:25", clientIp := "192.0.2.200"
    serverIp := "198.51.100.1", plaintextSegment := [0x45, 0x48], tlsSegment := [22, 3, 3] }

theorem samePublic_neighbour : SamePublic .truncated plainSession neighbourSession where
  protocol := rfl
  client := .inr ⟨rfl, 192, 0, 2, 7, 200, by decide +kernel, by decide +kernel⟩
  server := .inr ⟨rfl, 198, 51, 100, 9, 1, by decide +kernel, by decide +kernel⟩
  clientPort := rfl
  serverPort := rfl
  isStarttls := rfl
  startTs := rfl
  endTs := rfl

theorem metadata_private_neighbour :
    sessionToMetadata? (hostLib id fun _ => none) plainSession (some (startAnalysis plainSession))
          "edge-1" .truncated =
        sessionToMetadata? (hostLib id fun _ => none) neighbourSession
          (some (startAnalysis neighbourSession)) "edge-1" .truncated ∧
      ∀ (lib : HostLib) (sess : Session) (analysis : Option SessionAnalysis) (agentId : String)
        (mode : AddrMode),
        (sessionToMetadata? lib sess analysis agentId mode).map Prod.fst = allowedKeys :=
  metadata_private samePublic_neighbour rfl "edge-1"

end CipherPost.Agent
