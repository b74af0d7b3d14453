import CipherPost.Agent.Replay
import CipherPost.Infra.Base64
import CipherPost.Infra.Wire
import CipherPost.Parsing.Rules

/-!
# 合成した corpus

`app/parsing/generate_corpus.py`。設定から mail の session の packet を作り、正解の記録を添える。解析の
どの段の試験も、この packet を読み戻した結果を正解と比べる。

* `tlsRecord`・`buildClientHello`・`buildServerHello`・`buildCertificateMessage` — TLS の bytes を書く
* `StreamBuilder` — sequence number を数えながら packet を並べる
* `generateSession` — 一つの session の packet と正解（`Truth`）

Python の例外（`OverflowError`・`KeyError`、packet を書く `struct.error`）は `none` とする。証明書は DER の
bytes であり、作る library は `CertLib` として受け取る。時刻は pcap に書かれる µs の自然数である。
-/

namespace CipherPost.Parsing.Corpus

open Agent (Frame TcpSegment IP_PROTO_TCP)

/-! ## 設定 -/

/-- `CIPHER_REGISTRY` の値。強さは百分率である。 -/
structure CipherEntry where
  iana : Nat
  strength : Nat
  pfs : Bool
  keyLen : Nat
  deriving Repr, DecidableEq

def CIPHER_REGISTRY : List (String × CipherEntry) :=
  [("TLS_AES_256_GCM_SHA384", ⟨0x1302, 100, true, 256⟩),
   ("TLS_AES_128_GCM_SHA256", ⟨0x1301, 95, true, 128⟩),
   ("TLS_ECDHE_RSA_WITH_AES_256_GCM_SHA384", ⟨0xC030, 90, true, 256⟩),
   ("TLS_ECDHE_RSA_WITH_AES_128_GCM_SHA256", ⟨0xC02F, 85, true, 128⟩),
   ("TLS_ECDHE_RSA_WITH_AES_256_CBC_SHA", ⟨0xC014, 60, true, 256⟩),
   ("TLS_RSA_WITH_AES_256_CBC_SHA", ⟨0x0035, 40, false, 256⟩),
   ("TLS_RSA_WITH_3DES_EDE_CBC_SHA", ⟨0x000A, 25, false, 112⟩),
   ("TLS_RSA_WITH_RC4_128_SHA", ⟨0x0005, 5, false, 128⟩),
   ("TLS_RSA_EXPORT_WITH_RC4_40_MD5", ⟨0x0003, 0, false, 40⟩),
   ("TLS_ECDHE_ECDSA_WITH_AES_128_GCM_SHA256", ⟨0xC02B, 85, true, 128⟩),
   ("TLS_DHE_RSA_WITH_AES_256_CBC_SHA", ⟨0x0039, 55, true, 256⟩)]

/-- `cipher_iana`。 -/
def cipherIana (name : String) : Option Nat := (CIPHER_REGISTRY.lookup name).map CipherEntry.iana

/-- `cert_mode`。知らない名は `other` であり、自己署名の証明書になる。 -/
inductive CertMode where
  | valid | selfSigned | expired | untrusted | weakSig | shortKey | other
  deriving Repr, DecidableEq

/-- `GenSession`。protocol は `SMTP`・`IMAP`・`POP3` のどれかで、他の文字列は `unknown` とする。 -/
structure GenSession where
  name : String
  protocol : Protocol
  port : Nat
  useStarttls : Bool
  tlsVersion : Nat
  cipher : String
  certMode : CertMode
  sni : String := "mail.cipherpost.test"
  clientIp : String := "192.168.1.10"
  serverIp : String := "192.168.1.20"
  expectedFindings : List String := []
  deriving DecidableEq

/-! ## packet -/

/-- IPv4 の address の四つの bytes。 -/
abbrev Ip4 := UInt8 × UInt8 × UInt8 × UInt8

/-- `build_pkt`。長さと番号が header に収まらない packet は書けない。 -/
def buildPkt (src dst : Ip4) (sport dport seq ack : Nat) (payload : Bytes) (flags ts : Nat) :
    Option Frame :=
  if sport < 256 ^ 2 ∧ dport < 256 ^ 2 ∧ seq < 256 ^ 4 ∧ ack < 256 ^ 4 ∧
      20 + 20 + payload.length < 256 ^ 2 then
    some { ts := ts
           net := some (.ipv4 src dst IP_PROTO_TCP
             (some { sport := sport, dport := dport, seq := seq, ack := ack, flags := flags
                     payload := payload })) }
  else none

/-! ## TLS の bytes -/

/-- `n.to_bytes(k, "big")`。 -/
def toBytes (k n : Nat) : Option Bytes := if n < 256 ^ k then some (Wire.be k n) else none

/-- 長さを `k` byte で書き、中身を続ける。 -/
def withLength (k : Nat) (body : Bytes) : Option Bytes := (toBytes k body.length).map (· ++ body)

/-- `bytes(range(lo, hi))`。 -/
def byteRange (lo hi : Nat) : Bytes := (List.range' lo (hi - lo)).map UInt8.ofNat

/-- `s.encode()`。 -/
def encodeStr (s : String) : Bytes := s.toList.flatMap String.utf8EncodeChar

/-- record の種類と版の三つの bytes。 -/
def recordHead (contentType version : Nat) : Bytes :=
  [UInt8.ofNat contentType, UInt8.ofNat (version >>> 8 &&& 0xFF), UInt8.ofNat (version &&& 0xFF)]

/-- `tls_record`。 -/
def tlsRecord (handshake : Bytes) (contentType version : Nat) : Option Bytes :=
  (withLength 2 handshake).map (recordHead contentType version ++ ·)

/-- 種類と、三 byte の長さの付いた handshake の message。 -/
def handshakeMessage (mtype : UInt8) (body : Bytes) : Option Bytes :=
  (withLength 3 body).map (mtype :: ·)

/-- 種類と、長さの付いた extension。 -/
def extension (etype : Nat) (edata : Bytes) : Option Bytes := do
  let etype ← toBytes 2 etype
  let edata ← withLength 2 edata
  some (etype ++ edata)

/-- hello の record の版。SSL 3.0 だけ TLS 1.0 の版で送る。 -/
def helloRecordVersion (tlsVersion : Nat) : Nat := if 0x0300 < tlsVersion then tlsVersion else 0x0301

/-- `if groups:` の extension。 -/
def groupsExtension (groups : List Nat) : Option Bytes :=
  if groups = [] then some [] else do
    extension 10 (← withLength 2 (← groups.mapM (toBytes 2)).flatten)

/-- `if alpn:` の extension。 -/
def alpnExtension (names : List Bytes) : Option Bytes :=
  if names = [] then some [] else do
    extension 16 (← withLength 2 (← names.mapM (withLength 1)).flatten)

/-- `build_client_hello` の extension の列。 -/
def clientExtensionBlock (sni : Bytes) (groups : Option (List Nat)) (alpn : Option (List Bytes)) :
    Option Bytes := do
  let name ← withLength 2 sni
  let sniExt ← extension 0 (← withLength 2 (0x00 :: name))
  let groupsExt ← groupsExtension (groups.getD [])
  let alpnExt ← alpnExtension (alpn.getD [])
  let sigExt ← extension 13 (← withLength 2 [0x04, 0x03, 0x04, 0x01, 0x02, 0x03, 0x02, 0x01])
  some (sniExt ++ groupsExt ++ alpnExt ++ sigExt)

/-- `build_client_hello`。`cipherSuites` は `set(cipher_suites)` を回る順である。 -/
def buildClientHello (tlsVersion : Nat) (cipherSuites : List Nat) (sni : String)
    (groups : Option (List Nat)) (alpn : Option (List Bytes)) : Option Bytes := do
  let version ← toBytes 2 tlsVersion
  let suites ← withLength 2 (← cipherSuites.mapM (toBytes 2)).flatten
  let extensions ← withLength 2 (← clientExtensionBlock (encodeStr sni) groups alpn)
  let hs ← handshakeMessage 1
    (version ++ byteRange 0 32 ++ [0x00] ++ suites ++ [0x01, 0x00] ++ extensions)
  tlsRecord hs 22 (helloRecordVersion tlsVersion)

/-- `build_server_hello` の、TLS 1.3 の版の extension。中身は余分な長さの byte から始まる。 -/
def serverExtensionBlock (tlsVersion : Nat) (version : Bytes) : Option Bytes :=
  if 0x0304 ≤ tlsVersion then do withLength 2 (← extension 43 (2 :: version)) else some []

/-- `build_server_hello`。 -/
def buildServerHello (tlsVersion cipherSuite : Nat) : Option Bytes := do
  let version ← toBytes 2 tlsVersion
  let suite ← toBytes 2 cipherSuite
  let extensions ← serverExtensionBlock tlsVersion version
  let hs ← handshakeMessage 2
    (version ++ byteRange 32 64 ++ [0x00] ++ suite ++ [0x00] ++ extensions)
  tlsRecord hs 22 (helloRecordVersion tlsVersion)

/-! ## 証明書 -/

def PEM_BEGIN : Bytes := ascii "-----BEGIN CERTIFICATE-----" ++ [10]

def PEM_END : Bytes := ascii "-----END CERTIFICATE-----"

/-- `re` の `\s` に合う byte。 -/
def isSpace (b : UInt8) : Bool := decide (b = 0x20) || (decide (0x09 ≤ b) && decide (b ≤ 0x0D))

/-- PEM の覆いを外す。BEGIN があって END が無ければ `AttributeError` である。 -/
def derOf (pem : Bytes) : Option Bytes :=
  match find PEM_BEGIN pem with
  | none => some pem
  | some start =>
    let rest := pem.drop (start + PEM_BEGIN.length)
    (find PEM_END rest).bind fun stop =>
      Base64.decodeFrom 0 0 0 (((rest.take stop).filter fun b => !isSpace b).map
        fun b => Char.ofNat b.toNat)

/-- 証明書一つ。TLS 1.3 では空の extension が付く。 -/
def certEntry (tls13 : Bool) (der : Bytes) : Option Bytes :=
  (withLength 3 der).map fun entry => if tls13 then entry ++ [0, 0] else entry

/-- Certificate の本体。TLS 1.3 では、context の長さの前に三 byte の長さを書く（RFC 8446 の並びではない）。 -/
def certBody (tls13 : Bool) (certChain : Bytes) : Option Bytes :=
  if tls13 then withLength 3 (1 :: certChain) else withLength 3 certChain

/-- `build_certificate_message`。 -/
def buildCertificateMessage (certPems : List Bytes) (tls13 : Bool) : Option Bytes := do
  let certChain := (← certPems.mapM fun pem => do certEntry tls13 (← derOf pem)).flatten
  let hs ← handshakeMessage 11 (← certBody tls13 certChain)
  tlsRecord hs 22 0x0303

/-- `build_certificate_request`。 -/
def buildCertificateRequest : Bytes := []

/-- `build_server_hello_done`。 -/
def buildServerHelloDone : Option Bytes := tlsRecord [14, 0, 0, 0] 22 0x0303

/-- `build_change_cipher_spec`。 -/
def buildChangeCipherSpec (version : Nat) : Bytes := recordHead 20 version ++ [0x00, 0x01, 0x01]

/-- `build_encrypted_handshake`。 -/
def buildEncryptedHandshake (version : Nat) (junk : Option Bytes) : Option Bytes :=
  (withLength 2 (junk.getD (byteRange 0 40))).map (recordHead 23 version ++ ·)

/-! ## stream -/

/-- `StreamBuilder`。`clock` は、packet の番号から pcap に書かれる時刻を与える。 -/
structure StreamBuilder where
  sport : Nat
  dport : Nat
  src : Ip4 := (192, 168, 1, 10)
  dst : Ip4 := (192, 168, 1, 20)
  fragSize : Option Nat := none
  clock : Nat → Nat
  seqC : Nat := 1000
  seqS : Nat := 5000
  ackC : Nat := 5000
  ackS : Nat := 1000
  sup : Nat := 0
  sack : Nat := 0
  packets : List Frame := []

namespace StreamBuilder

/-- payload を `frag_size` ごとに切る。 -/
def chunks (fragSize : Option Nat) (payload : Bytes) : List Bytes :=
  match fragSize with
  | none => [payload]
  | some n =>
    if n ≠ 0 ∧ n < payload.length then
      (List.range ((payload.length + n - 1) / n)).map fun i => slice payload (i * n) (i * n + n)
    else [payload]

/-- client の送る chunk。三つ以上に切れたときは、後ろから二番目の chunk を送らない。 -/
def clientChunks (fragSize : Option Nat) (payload : Bytes) : List Bytes :=
  let chunks := chunks fragSize payload
  -- chunk の位置は、同じ中身の最初の chunk の位置である
  chunks.filter fun chunk => !(decide (2 < chunks.length) &&
    decide (chunks.idxOf chunk = chunks.length - 2))

/-- packet を一つ並べる。 -/
def push (b : StreamBuilder) (frame : Frame) : StreamBuilder :=
  { b with packets := b.packets ++ [frame] }

/-- client の chunk 一つ。 -/
def clientChunk (b : StreamBuilder) (chunk : Bytes) : Option StreamBuilder := do
  let frame ← buildPkt b.src b.dst b.sport b.dport b.seqC b.ackS chunk 0x18 (b.clock b.packets.length)
  some { b.push frame with sup := b.sup + chunk.length, seqC := b.seqC + chunk.length }

/-- server の chunk 一つ。 -/
def serverChunk (b : StreamBuilder) (chunk : Bytes) : Option StreamBuilder := do
  let frame ← buildPkt b.dst b.src b.dport b.sport b.seqS b.ackC chunk 0x18 (b.clock b.packets.length)
  some { b.push frame with sack := b.sack + chunk.length, seqS := b.seqS + chunk.length }

/-- `client_talk`。 -/
def clientTalk (b : StreamBuilder) (payload : Bytes) : Option StreamBuilder := do
  let b ← (clientChunks b.fragSize payload).foldlM clientChunk b
  some { b with ackC := b.sack }

/-- `server_talk`。 -/
def serverTalk (b : StreamBuilder) (payload : Bytes) : Option StreamBuilder := do
  let b ← (chunks b.fragSize payload).foldlM serverChunk b
  some { b with ackS := b.sup }

/-- payload の無い client の packet。 -/
def clientFlags (b : StreamBuilder) (flags : Nat) : Option StreamBuilder :=
  (buildPkt b.src b.dst b.sport b.dport b.seqC b.ackS [] flags (b.clock b.packets.length)).map b.push

/-- payload の無い server の packet。 -/
def serverFlags (b : StreamBuilder) (flags : Nat) : Option StreamBuilder :=
  (buildPkt b.dst b.src b.dport b.sport b.seqS b.ackC [] flags (b.clock b.packets.length)).map b.push

/-- `client_ack`。 -/
def clientAck (b : StreamBuilder) : Option StreamBuilder := clientFlags { b with ackC := b.sack } 0x10

/-- `server_ack`。 -/
def serverAck (b : StreamBuilder) : Option StreamBuilder := b.serverFlags 0x10

/-- `fin`。 -/
def fin (b : StreamBuilder) : Option StreamBuilder := do
  let b ← b.clientFlags 0x11
  b.serverFlags 0x11

end StreamBuilder

/-- `StreamBuilder` の method の呼び出し。 -/
inductive Talk where
  | client (payload : Bytes)
  | server (payload : Bytes)
  | clientAck
  | serverAck
  | fin
  deriving DecidableEq

/-- 呼び出し一つ。 -/
def StreamBuilder.say (b : StreamBuilder) : Talk → Option StreamBuilder
  | .client payload => b.clientTalk payload
  | .server payload => b.serverTalk payload
  | .clientAck => b.clientAck
  | .serverAck => b.serverAck
  | .fin => b.fin

/-- 呼び出しの列。 -/
def StreamBuilder.sayAll (b : StreamBuilder) (talks : List Talk) : Option StreamBuilder :=
  talks.foldlM say b

/-! ## 平文 -/

/-- CRLF で終わる行の列。 -/
def crlfLines (lines : List String) : Bytes := lines.flatMap fun line => ascii line ++ [13, 10]

/-- `make_email_body`。 -/
def makeEmailBody : Protocol → Bytes
  | .smtp => crlfLines
    ["EHLO client.example.com", "MAIL FROM:<sender@example.com>", "RCPT TO:<recipient@example.com>",
     "DATA", "Subject: Test message", "From: sender@example.com", "To: recipient@example.com", "",
     "This is a test email body.", ".", "QUIT"]
  | .imap => crlfLines
    ["a001 LOGIN user@example.com password123", "a002 SELECT INBOX", "a003 FETCH 1 BODY[]",
     "a004 LOGOUT"]
  | _ => crlfLines ["USER recipient@example.com", "PASS password123", "STAT", "LIST", "QUIT"]

/-- `banners[protocol]`。 -/
def banner : Protocol → Option Bytes
  | .smtp => some (crlfLines ["220 mail.cipherpost.test ESMTP Postfix"])
  | .imap => some (crlfLines ["* OK [CAPABILITY IMAP4rev1 STARTTLS] Dovecot ready."])
  | .pop3 => some (crlfLines ["+OK Dovecot ready."])
  | .unknown => none

/-- 平文の STARTTLS の対話。 -/
def starttlsTalks : Protocol → List Talk
  | .smtp =>
    [.client (crlfLines ["EHLO client.example.com"]),
     .server (crlfLines ["250-mail.cipherpost.test", "250-STARTTLS", "250 8BITMIME"]),
     .client (crlfLines ["STARTTLS"]), .server (crlfLines ["220 2.0.0 Ready to start TLS"])]
  | .imap =>
    [.client (crlfLines ["a001 CAPABILITY"]),
     .server (crlfLines ["* CAPABILITY IMAP4rev1 STARTTLS"]),
     .client (crlfLines ["a002 STARTTLS"]),
     .server (crlfLines ["a002 OK Begin TLS negotiation now"])]
  | _ => [.client (crlfLines ["STLS"]), .server (crlfLines ["+OK Begin TLS negotiation now"])]

/-! ## session -/

/-- `cert_utils` の library。証明書は DER の bytes である。 -/
structure CertLib where
  /-- `shared_root()`。 -/
  sharedRoot : Bytes
  /-- `make_root_ca("Evil Corp CA")`。 -/
  evilRoot : Bytes
  /-- `issue_leaf`。発行者、名、有効な日数、始まりのずれ、鍵の長さを受け取る。 -/
  issueLeaf : Bytes → String → Int → Nat → Nat → Option Bytes
  /-- `make_self_signed`。 -/
  makeSelfSigned : String → Option Bytes
  /-- `make_weak_signature_cert`。 -/
  makeWeakSignatureCert : String → Bytes → Option Bytes

/-- 64 文字ごとの行に分け、改行で継ぐ。 -/
def wrap : Nat → List Char → List Char
  | 0, _ => []
  | n + 1, l => if l.length ≤ 64 then l else l.take 64 ++ '\n' :: wrap n (l.drop 64)

/-- `pem_from_der`。library の書く PEM（`cert_to_pem`）も同じ形である。 -/
def pemFromDer (der : Bytes) : Bytes :=
  let b64 := Base64.encode der
  PEM_BEGIN ++ (wrap b64.length b64).map (fun c => UInt8.ofNat c.toNat) ++ 10 :: PEM_END ++ [10]

/-- `generate_session` の、証明書の列を作る部分。 -/
def chainDer (lib : CertLib) (sess : GenSession) : Option (List Bytes) :=
  match sess.certMode with
  | .valid => do some [← lib.issueLeaf lib.sharedRoot sess.sni 825 0 2048, lib.sharedRoot]
  | .selfSigned => do some [← lib.makeSelfSigned sess.sni]
  | .expired => do some [← lib.issueLeaf lib.sharedRoot sess.sni (-30) 900 2048, lib.sharedRoot]
  | .untrusted => do some [← lib.issueLeaf lib.evilRoot sess.sni 825 0 2048, lib.evilRoot]
  | .weakSig => do some [← lib.makeWeakSignatureCert sess.sni lib.sharedRoot, lib.sharedRoot]
  | .shortKey => do some [← lib.issueLeaf lib.sharedRoot sess.sni 825 0 1024, lib.sharedRoot]
  | .other => do some [← lib.makeSelfSigned sess.sni]

/-- 暗号化された application data の代わりの bytes。 -/
def appData : Protocol → UInt8 × UInt8
  | .smtp => (0x61, 0x62)
  | .imap => (0x63, 0x64)
  | _ => (0x65, 0x66)

/-- `port in (465, 993, 995)`。 -/
def implicitPort (port : Nat) : Bool := decide (port ∈ [465, 993, 995])

/-- TLS の handshake とその後の対話。 -/
def tlsTalks (sess : GenSession) (chainPem : List Bytes) : Option (List Talk) := do
  let v := sess.tlsVersion
  let isTls13 := decide (0x0304 ≤ v)
  let iana ← cipherIana sess.cipher
  let clientHello ← buildClientHello v [iana] sess.sni
    (if 0x0303 ≤ v then some [29, 23] else none)
    (if isTls13 then some [ascii "smtp", ascii "imap", ascii "pop3"] else none)
  let serverHello ← buildServerHello v iana
  let certificate ← buildCertificateMessage chainPem isTls13
  let serverHelloDone ← buildServerHelloDone
  let clientKex ← tlsRecord [16, 0, 0, 2, 0, 1] 22 v
  let encrypted ← buildEncryptedHandshake v none
  let (c, s) := appData sess.protocol
  let clientApp ← buildEncryptedHandshake v (some (0x17 :: 0x03 :: 0x03 :: List.replicate 40 c))
  let serverApp ← buildEncryptedHandshake v (some (0x17 :: 0x03 :: 0x03 :: List.replicate 40 s))
  some
    ([.client clientHello, .server serverHello, .server certificate] ++
      (if isTls13 then [] else
        (if sess.protocol = .smtp then [.server buildCertificateRequest] else []) ++
          [.server serverHelloDone, .client clientKex, .client (buildChangeCipherSpec v),
           .client encrypted]) ++
      [.server (buildChangeCipherSpec v), .server encrypted] ++
      (if isTls13 then [.client (buildChangeCipherSpec v), .client encrypted, .server encrypted]
        else []) ++
      [.client clientApp, .server serverApp, .fin])

/-- 正解の記録（`file_hash` を除く）。 -/
structure Truth where
  name : String
  protocol : Protocol
  port : Nat
  clientIp : String
  serverIp : String
  clientPort : Nat
  serverPort : Nat
  useStarttls : Bool
  implicitTls : Bool
  tlsVersion : Option String
  tlsVersionRaw : Option Nat
  cipher : Option String
  cipherSuiteIana : Option String
  cipherStrength : Option Nat
  pfs : Option Bool
  keyLen : Option Nat
  certMode : CertMode
  sni : String
  starttlsStripped : Bool
  expectedFindings : List String
  clean : Bool
  deriving DecidableEq

/-- `tls_version_label`。 -/
def tlsVersionLabel (v : Nat) : String :=
  (([(0x0300, "SSLv3"), (0x0301, "TLS1.0"), (0x0302, "TLS1.1"), (0x0303, "TLS1.2"),
    (0x0304, "TLS1.3")] : List (Nat × String)).lookup v).getD ("UNKNOWN-" ++ toString v)

/-- 二つの道の正解に共通の欄。暗号についての欄は無い。 -/
def baseTruth (sess : GenSession) (sport : Nat) : Truth where
  name := sess.name
  protocol := sess.protocol
  port := sess.port
  clientIp := sess.clientIp
  serverIp := sess.serverIp
  clientPort := sport
  serverPort := sess.port
  useStarttls := sess.useStarttls
  implicitTls := implicitPort sess.port
  tlsVersion := none
  tlsVersionRaw := none
  cipher := none
  cipherSuiteIana := none
  cipherStrength := none
  pfs := none
  keyLen := none
  certMode := sess.certMode
  sni := sess.sni
  starttlsStripped := false
  expectedFindings := sess.expectedFindings.mergeSort fun a b => decide (a ≤ b)
  clean := false

/-- banner。implicit な TLS の port では送らない。 -/
def greetingTalks (sess : GenSession) : Option (List Talk) :=
  if implicitPort sess.port then some [] else (banner sess.protocol).map fun text => [.server text]

/-- banner と STARTTLS までの対話。 -/
def openingTalks (sess : GenSession) : Option (List Talk) :=
  (greetingTalks sess).map fun greeting =>
    .client [] :: greeting ++ if sess.useStarttls then starttlsTalks sess.protocol else []

/-- STARTTLS を剥がされた session の対話。 -/
def strippedTalks (sess : GenSession) : List Talk :=
  starttlsTalks sess.protocol ++ [.client (makeEmailBody sess.protocol), .fin]

/-- `generate_session`。`nameHash` は `hash(sess.name)` である。 -/
def generateSession (lib : CertLib) (sess : GenSession) (nameHash : Int) (clock : Nat → Nat) :
    Option (List Frame × Truth) := do
  let chain ← chainDer lib sess
  let sport := 10000 + (nameHash % 5000).toNat
  let stream : StreamBuilder := { sport := sport, dport := sess.port, clock := clock }
  let opening ← openingTalks sess
  if sess.tlsVersion = 0x0000 then do
    let stream ← stream.sayAll (opening ++ strippedTalks sess)
    some (stream.packets, { baseTruth sess sport with starttlsStripped := true })
  else do
    let talks ← tlsTalks sess (chain.map pemFromDer)
    let stream ← stream.sayAll (opening ++ talks)
    let entry ← CIPHER_REGISTRY.lookup sess.cipher
    some (stream.packets,
      { baseTruth sess sport with
        tlsVersion := some (tlsVersionLabel sess.tlsVersion)
        tlsVersionRaw := some sess.tlsVersion
        cipher := some sess.cipher
        cipherSuiteIana := some (hex entry.iana)
        cipherStrength := some entry.strength
        pfs := some entry.pfs
        keyLen := some entry.keyLen
        clean := sess.expectedFindings.isEmpty })

end CipherPost.Parsing.Corpus
