import Mathlib.Data.List.Infix
import CipherPost.Parsing.Handshake

/-!
# session の解析

`app/parsing/analysis.py` の `analyze_session` と `analyze_pcap`。parser の出す例外のうち捕まえるのは
`TlsParseError` だけであり、他の例外は session の解析を止め、`analyze_pcap` 全体を止める。

* `Session`・`SessionAnalysis` — 入力と結果
* `Analyzer` — 証明書の library と rule の列
* `analyzeSession`・`analyzePcap` — 解析
* `Readable` — 解析が結果を返すための条件
* `analysis_returns` — その条件の必要十分性
-/

namespace CipherPost.Parsing

/-! ## 入力 -/

/-- `Protocol`。 -/
inductive Protocol where
  | smtp | imap | pop3 | unknown
  deriving Repr, DecidableEq

/-- `Protocol.value`。 -/
def Protocol.value : Protocol → String
  | smtp => "SMTP"
  | imap => "IMAP"
  | pop3 => "POP3"
  | unknown => "UNKNOWN"

/-- 組み立て直された `Session`。 -/
structure Session where
  protocol : Protocol
  fiveTuple : String
  clientIp : String
  serverIp : String
  clientPort : Nat
  serverPort : Nat
  isStarttls : Bool := false
  transitionOffset : Option Nat := none
  plaintextSegment : Bytes := []
  plaintextServerSegment : Bytes := []
  tlsSegment : Bytes := []
  tlsServerSegment : Bytes := []
  startTs : Rat := 0
  endTs : Rat := 0
  portBased : Bool := false
  deriving DecidableEq

/-- `five_tuple_full`。 -/
def Session.fiveTupleFull (s : Session) : String :=
  s.clientIp ++ ":" ++ toString s.clientPort ++ "->" ++ s.serverIp ++ ":" ++ toString s.serverPort

/-! ## cipher と版 -/

/-- `CipherMeta`。強さは百分率で持つ。 -/
structure CipherMeta where
  name : String
  strength : Nat
  kind : String
  pfs : Bool
  keyLen : Nat
  kex : String
  auth : String
  exportClass : Option String := none
  deriving Repr, DecidableEq

def CIPHER_DB : List (Nat × CipherMeta) :=
  [(0x1302, ⟨"TLS_AES_256_GCM_SHA384", 100, "aead", true, 256, "ecdhe", "any-tls13", none⟩),
   (0x1301, ⟨"TLS_AES_128_GCM_SHA256", 95, "aead", true, 128, "ecdhe", "any-tls13", none⟩),
   (0x1303, ⟨"TLS_CHACHA20_POLY1305_SHA256", 95, "aead", true, 256, "ecdhe", "any-tls13", none⟩),
   (0xC030, ⟨"TLS_ECDHE_RSA_WITH_AES_256_GCM_SHA384", 90, "aead", true, 256, "ecdhe", "rsa", none⟩),
   (0xC02F, ⟨"TLS_ECDHE_RSA_WITH_AES_128_GCM_SHA256", 85, "aead", true, 128, "ecdhe", "rsa", none⟩),
   (0xC028, ⟨"TLS_ECDHE_RSA_WITH_AES_256_CBC_SHA384", 70, "cbc", true, 256, "ecdhe", "rsa", none⟩),
   (0xC027, ⟨"TLS_ECDHE_RSA_WITH_AES_128_CBC_SHA256", 70, "cbc", true, 128, "ecdhe", "rsa", none⟩),
   (0xC014, ⟨"TLS_ECDHE_RSA_WITH_AES_256_CBC_SHA", 60, "cbc", true, 256, "ecdhe", "rsa", none⟩),
   (0xC013, ⟨"TLS_ECDHE_RSA_WITH_AES_128_CBC_SHA", 60, "cbc", true, 128, "ecdhe", "rsa", none⟩),
   (0x009C, ⟨"TLS_RSA_WITH_AES_128_GCM_SHA256", 55, "aead", false, 128, "rsa", "rsa", none⟩),
   (0x009D, ⟨"TLS_RSA_WITH_AES_256_GCM_SHA384", 60, "aead", false, 256, "rsa", "rsa", none⟩),
   (0x0035, ⟨"TLS_RSA_WITH_AES_256_CBC_SHA", 40, "cbc", false, 256, "rsa", "rsa", none⟩),
   (0x002F, ⟨"TLS_RSA_WITH_AES_128_CBC_SHA", 40, "cbc", false, 128, "rsa", "rsa", none⟩),
   (0x000A, ⟨"TLS_RSA_WITH_3DES_EDE_CBC_SHA", 25, "cbc", false, 112, "rsa", "rsa", none⟩),
   (0x0005, ⟨"TLS_RSA_WITH_RC4_128_SHA", 5, "stream", false, 128, "rsa", "rsa", some "rc4"⟩),
   (0x0004, ⟨"TLS_RSA_WITH_RC4_128_MD5", 5, "stream", false, 128, "rsa", "rsa", some "rc4"⟩),
   (0x0003, ⟨"TLS_RSA_EXPORT_WITH_RC4_40_MD5", 0, "stream", false, 40, "rsa", "rsa", some "export"⟩),
   (0x0002, ⟨"TLS_RSA_EXPORT_WITH_RC2_CBC_40_MD5", 0, "cbc", false, 40, "rsa", "rsa", some "export"⟩),
   (0x0000, ⟨"TLS_NULL_WITH_NULL_NULL", 0, "none", false, 0, "rsa", "rsa", some "null"⟩),
   (0x0001, ⟨"TLS_RSA_WITH_NULL_MD5", 0, "none", false, 0, "rsa", "rsa", some "null"⟩),
   (0x000B, ⟨"TLS_DH_DSS_WITH_3DES_EDE_CBC_SHA", 25, "cbc", true, 112, "dhe", "dss", none⟩),
   (0x0039, ⟨"TLS_DHE_RSA_WITH_AES_256_CBC_SHA", 55, "cbc", true, 256, "dhe", "rsa", none⟩),
   (0x0033, ⟨"TLS_DHE_RSA_WITH_AES_128_CBC_SHA", 55, "cbc", true, 128, "dhe", "rsa", none⟩),
   (0x0038, ⟨"TLS_DHE_DSS_WITH_AES_256_CBC_SHA", 55, "cbc", true, 256, "dhe", "dss", none⟩),
   (0x0032, ⟨"TLS_DHE_DSS_WITH_AES_128_CBC_SHA", 55, "cbc", true, 128, "dhe", "dss", none⟩),
   (0xC02B, ⟨"TLS_ECDHE_ECDSA_WITH_AES_128_GCM_SHA256", 85, "aead", true, 128, "ecdhe", "ecdsa", none⟩),
   (0xC02C, ⟨"TLS_ECDHE_ECDSA_WITH_AES_256_GCM_SHA384", 90, "aead", true, 256, "ecdhe", "ecdsa", none⟩)]

/-- `lookup_cipher`。 -/
def lookupCipher (iana : Nat) : Option CipherMeta := CIPHER_DB.lookup iana

def TLS_VERSION_NAMES : List (Nat × String) :=
  [(0x0300, "SSLv3.0"), (0x0301, "TLS1.0"), (0x0302, "TLS1.1"), (0x0303, "TLS1.2"),
    (0x0304, "TLS1.3")]

/-- `version_name`。 -/
def versionName (v : Nat) : String := (TLS_VERSION_NAMES.lookup v).getD ("0x" ++ hexPad 4 v)

/-- 版の名前は、表の名前か、`0` で始まる十六進の表記である。 -/
theorem versionName_cases (v : Nat) :
    (∃ e ∈ TLS_VERSION_NAMES, versionName v = e.2) ∨ ∃ l, (versionName v).toList = '0' :: l := by
  unfold versionName
  cases hlook : TLS_VERSION_NAMES.lookup v with
  | some name =>
    obtain ⟨l₁, l₂, htable, -⟩ := List.lookup_eq_some_iff.mp hlook
    refine .inl ⟨(v, name), ?_, rfl⟩
    rw [htable]
    exact List.mem_append_right _ List.mem_cons_self
  | none =>
    refine .inr ⟨'x' :: (hexPad 4 v).toList, ?_⟩
    rw [Option.getD_none, String.toList_append]
    rfl

/-! ## 結果 -/

/-- `CertAnalysis`。 -/
structure CertAnalysis where
  subjectCn : String
  issuerCn : String
  notBefore : Option Int := none
  notAfter : Option Int := none
  daysValid : Option Int := none
  daysRemaining : Option Int := none
  pubkeyAlg : String := "Unknown"
  pubkeyBits : Option Nat := none
  signatureAlg : String := "unknown"
  isSelfSigned : Bool := false
  isCa : Bool := false
  chainResult : String
  chainError : String := ""
  serial : String := ""
  subjectAltNames : List String := []
  der : Bytes := []
  deriving Repr, DecidableEq

/-- `rules.Finding`（`evidence` を除く）。 -/
structure SessionFinding where
  ruleId : String
  ruleName : String
  severity : String
  title : String
  description : String
  reference : String
  kind : String := "rule"
  deriving Repr, DecidableEq

/-- `visibility`（fingerprint を除く）。 -/
structure Visibility where
  tls13 : Bool
  certChain : String
  sni : String
  hrr : Bool
  offeredGroups : List Nat
  selectedGroup : Option Nat
  deriving Repr, DecidableEq

/-- `SessionAnalysis`。 -/
structure SessionAnalysis where
  sessionId : String
  protocol : String
  fiveTuple : String
  isStarttls : Bool
  isImplicitTlsPort : Bool := false
  port : Nat := 0
  sawStarttlsOffer : Bool := false
  expectedStarttls : Bool := false
  startedTls : Bool := false
  tlsBytes : Nat := 0
  plaintextBytes : Nat := 0
  tlsVersion : Option Nat := none
  negotiatedVersionName : Option String := none
  cipher : Option String := none
  cipherMeta : Option CipherMeta := none
  cipherIana : Option Nat := none
  cipherStrength : Option Nat := none
  clientHello : Option ClientHelloInfo := none
  serverHello : Option ServerHelloInfo := none
  certificate : Option CertificateInfo := none
  certs : List CertAnalysis := []
  chainResult : String := "no-cert"
  chainError : String := ""
  visibility : Option Visibility := none
  notObservable : List String := []
  findings : List SessionFinding := []
  deriving DecidableEq

/-- `src/` の外の library と、`rules.py` の rule。 -/
structure Analyzer where
  /--
  `load_der_x509_certificate` とその後の属性の読み出し。読み込みの失敗は文で、読み込めた証明書の
  属性が読めない例外は `ok none` である。
  -/
  loadCert : Bytes → Except String (Option CertAnalysis)
  /-- `validate_chain`。例外はすべて中で捕まえられる。 -/
  validateChain : List Bytes → Option String → Option (List Char) → String × String
  trustStore : Option String := none
  /-- `ALL_RULES`。rule が書き足した後の値と、例外を出したか。 -/
  rules : List (SessionAnalysis → SessionAnalysis × Bool) := []

/-- `analyze_session` の外へ出る例外。 -/
inductive AnalyzeError where
  | index
  | certificate
  deriving Repr, DecidableEq

/-! ## 解析 -/

/-- `run_rules`。例外を出した rule は飛ばす。 -/
def runRules (lib : Analyzer) (sa : SessionAnalysis) : SessionAnalysis :=
  lib.rules.foldl (fun sa rule => (rule sa).1) sa

/-- `try` の中の parser。`TlsParseError` だけが捕まる。 -/
def orOnParseError {α : Type} (r : Parse α) (d : α) : Except AnalyzeError α :=
  match r with
  | .ok a => .ok a
  | .error (.tlsParse _) => .ok d
  | .error .index => .error .index

/-- handshake の本体があれば、`try` の中で parser に掛ける。 -/
def parseBody {α : Type} (parse : Bytes → Parse α) (body : Option Bytes) :
    Except AnalyzeError (Option α) :=
  match body with
  | none => .ok none
  | some body => orOnParseError ((parse body).map some) none

/-- client の側の handshake。 -/
def clientHelloOf (sess : Session) : Except AnalyzeError (Option ClientHelloInfo) := do
  let records ← orOnParseError (parseTlsRecords sess.tlsSegment) []
  parseBody parseClientHello ((handshakeBody records).get? 1)

/-- server の側の handshake。 -/
def serverSideOf (sess : Session) :
    Except AnalyzeError (Option ServerHelloInfo × Option CertificateInfo) := do
  let records ← orOnParseError (parseTlsRecords sess.tlsServerSegment) []
  let msgs := handshakeBody records
  let serverHello ← parseBody parseServerHello (msgs.get? 2)
  let isTls13 := decide (serverHello.bind (·.negotiatedVersion) = some 0x0304)
  let certificate ← parseBody (parseCertificateMessage · isTls13) (msgs.get? 11)
  .ok (serverHello, certificate)

/-- `analyze_certificate`。 -/
def analyzeCertificate (lib : Analyzer) (der : Bytes) : Except AnalyzeError CertAnalysis :=
  match lib.loadCert der with
  | .error message =>
    .ok { subjectCn := "<unparseable>", issuerCn := "<unparseable>", chainResult := "parse-error",
          chainError := String.ofList (message.toList.take 256), der := der }
  | .ok none => .error .certificate
  | .ok (some cert) => .ok { cert with chainResult := "unknown", der := der }

/-- 版と cipher。 -/
def SessionAnalysis.withHello (sa : SessionAnalysis) (clientHello : Option ClientHelloInfo)
    (serverHello : Option ServerHelloInfo) : SessionAnalysis :=
  let sa := { sa with clientHello := clientHello, serverHello := serverHello }
  match serverHello, clientHello with
  | some sh, _ =>
    let sa := { sa with
      tlsVersion := sh.negotiatedVersion
      negotiatedVersionName := sh.negotiatedVersion.map versionName
      cipherIana := sh.cipherSuite }
    match sh.cipherSuite with
    | none => sa
    | some 0 => sa
    | some iana =>
      match lookupCipher iana with
      | some m =>
        { sa with cipherMeta := some m, cipher := some m.name, cipherStrength := some m.strength }
      | none => { sa with cipher := some ("0x" ++ hexPad 4 iana) }
  | none, some ch =>
    let version := ch.offeredVersions.max?.or ch.legacyVersion
    { sa with tlsVersion := version, negotiatedVersionName := version.map versionName }
  | none, none => sa

/-- `certs_usable`。 -/
def certsUsable (certs : List CertAnalysis) : Bool :=
  certs.any fun c =>
    c.notBefore.isSome && decide (c.subjectCn ∉ ["", "<unparseable>", "<oid missing>"])

/-- `visibility`。 -/
def visibilityOf (sa : SessionAnalysis) : Visibility :=
  let isTls13 := decide (sa.tlsVersion = some 0x0304)
  { tls13 := isTls13
    certChain :=
      if certsUsable sa.certs then "observed"
      else if isTls13 then "not_observable_tls13" else "absent"
    sni :=
      if sa.clientHello.any (·.echOuter) then "ech_outer"
      else if sa.clientHello.any (fun ch => ch.sni.any (· ≠ [])) then "observed" else "absent"
    hrr := sa.serverHello.any (·.isHrr)
    offeredGroups := (sa.clientHello.map (·.supportedGroups)).getD []
    selectedGroup := sa.serverHello.bind (·.selectedGroup) }

def IMPLICIT_TLS_PORTS : List Nat := [465, 993, 995]

/-- TLS を読む前の部分。 -/
def startAnalysis (sess : Session) : SessionAnalysis :=
  let starttls := "STARTTLS".toUTF8.toList
  let offer := decide (starttls <:+: sess.plaintextSegment) ||
    decide (starttls <:+: sess.plaintextServerSegment) ||
    decide ("STLS".toUTF8.toList <:+: sess.plaintextSegment)
  { sessionId := sess.fiveTuple, protocol := sess.protocol.value, fiveTuple := sess.fiveTupleFull
    isStarttls := sess.isStarttls
    isImplicitTlsPort := decide (sess.serverPort ∈ IMPLICIT_TLS_PORTS), port := sess.serverPort
    sawStarttlsOffer := offer, expectedStarttls := offer
    startedTls := !sess.tlsSegment.isEmpty, tlsBytes := sess.tlsSegment.length
    plaintextBytes := sess.plaintextSegment.length }

/-- 証明書の結果を加える。 -/
def SessionAnalysis.withCerts (sa : SessionAnalysis) (lib : Analyzer)
    (certificate : Option CertificateInfo) (certs : List CertAnalysis) : SessionAnalysis :=
  let sa := { sa with certificate := certificate }
  match certs with
  | [] => { sa with chainResult := "no-cert" }
  | _ :: _ =>
    let chain := lib.validateChain ((certificate.map (·.rawCerts)).getD []) lib.trustStore
      (sa.clientHello.bind (·.sni))
    { sa with
      chainResult := chain.1, chainError := chain.2
      certs := certs.map fun c => { c with chainResult := chain.1 } }

/-- `analyze_session`。 -/
def analyzeSession (lib : Analyzer) (sess : Session) : Except AnalyzeError SessionAnalysis :=
  let sa := startAnalysis sess
  if sess.tlsSegment = [] then .ok (runRules lib sa)
  else do
    let clientHello ← clientHelloOf sess
    let (serverHello, certificate) ← serverSideOf sess
    let certs ← ((certificate.map (·.rawCerts)).getD []).mapM (analyzeCertificate lib)
    let sa := (sa.withHello clientHello serverHello).withCerts lib certificate certs
    .ok (runRules lib { sa with visibility := some (visibilityOf sa) })

/-- `analyze_pcap`。`sessions` は `reconstruct_sessions` の結果である。 -/
def analyzePcap (lib : Analyzer) (sessions : List Session) :
    Except AnalyzeError (List SessionAnalysis) :=
  sessions.mapM (analyzeSession lib)

theorem analyzePcap_singleton {lib : Analyzer} {sess : Session} {sa : SessionAnalysis}
    (h : analyzeSession lib sess = .ok sa) : analyzePcap lib [sess] = .ok [sa] := by
  rw [analyzePcap, List.mapM_cons, h]
  rfl

/-! ## 結果を返す条件 -/

/-- client の側の ClientHello の本体は 34 byte でない。 -/
def ClientHelloReadable (sess : Session) : Prop :=
  ∀ records body, parseTlsRecords sess.tlsSegment = .ok records →
    (handshakeBody records).get? 1 = some body → body.length ≠ 34

/-- server の Certificate の中の、読み込める証明書は、属性も読める。 -/
def CertificatesReadable (lib : Analyzer) (sess : Session) : Prop :=
  ∀ serverHello certificate, serverSideOf sess = .ok (serverHello, some certificate) →
    ∀ der ∈ certificate.rawCerts, lib.loadCert der ≠ .ok none

/-- 解析が結果を返す。 -/
def Readable (lib : Analyzer) (sess : Session) : Prop :=
  sess.tlsSegment ≠ [] → ClientHelloReadable sess ∧ CertificatesReadable lib sess

/-- 値が返る。 -/
def Returns {ε α : Type} (r : Except ε α) : Prop := ∃ a, r = .ok a

section
variable {ε α β : Type}

theorem exists_of_map_ok {r : Except ε α} {g : α → β} {b : β} (h : r.map g = .ok b) :
    ∃ a, r = .ok a ∧ g a = b := by
  cases r with
  | ok a => exact ⟨a, rfl, Except.ok.inj h⟩
  | error e => cases h

theorem returns_bind {r : Except ε α} {f : α → Except ε β} :
    Returns (r >>= f) ↔ ∃ a, r = .ok a ∧ Returns (f a) := by
  cases r with
  | ok a =>
    constructor
    · intro h
      exact ⟨a, rfl, h⟩
    · rintro ⟨a', ha, h⟩
      cases ha
      exact h
  | error e =>
    constructor
    · rintro ⟨b, hb⟩
      cases hb
    · rintro ⟨a, ha, -⟩
      cases ha

/-- `mapM` が値を返すのは、どの要素でも返るときである。 -/
theorem returns_mapM {f : α → Except ε β} : ∀ {l : List α},
    Returns (l.mapM f) ↔ ∀ a ∈ l, Returns (f a)
  | [] => iff_of_true ⟨[], rfl⟩ (fun _ h => by cases h)
  | a :: l => by
    rw [List.mapM_cons, returns_bind, List.forall_mem_cons, ← returns_mapM (l := l)]
    constructor
    · rintro ⟨b, hb, h⟩
      obtain ⟨bs, hbs, -⟩ := returns_bind.mp h
      exact ⟨⟨b, hb⟩, ⟨bs, hbs⟩⟩
    · rintro ⟨⟨b, hb⟩, ⟨bs, hbs⟩⟩
      exact ⟨b, hb, returns_bind.mpr ⟨bs, hbs, ⟨b :: bs, rfl⟩⟩⟩

end

/-- 捕まらないのは `IndexError` だけである。 -/
theorem returns_orOnParseError {α : Type} {r : Parse α} {d : α} :
    Returns (orOnParseError r d) ↔ Safe r := by
  cases r with
  | ok a => exact iff_of_true ⟨a, rfl⟩ (Safe.ok a)
  | error e =>
    cases e with
    | tlsParse message => exact iff_of_true ⟨d, rfl⟩ (Safe.tlsParse message)
    | index =>
      refine iff_of_false ?_ (fun h => h rfl)
      rintro ⟨a, h⟩
      cases h

theorem safe_map {α β : Type} {r : Parse α} {f : α → β} : Safe (r.map f) ↔ Safe r := by
  cases r with
  | ok a => exact iff_of_true (Safe.ok _) (Safe.ok a)
  | error e =>
    have heq : (Except.error e : Parse α).map f = .error e := rfl
    rw [heq, Safe, Safe, ne_eq, ne_eq, Except.error.injEq, Except.error.injEq]

theorem returns_parseBody {α : Type} {parse : Bytes → Parse α} {o : Option Bytes} :
    Returns (parseBody parse o) ↔ ∀ b, o = some b → Safe (parse b) := by
  cases o with
  | none => exact iff_of_true ⟨none, rfl⟩ (fun _ h => by cases h)
  | some b =>
    have heq : parseBody parse (some b) = orOnParseError ((parse b).map some) none := rfl
    rw [heq, returns_orOnParseError, safe_map]
    exact ⟨fun h b' hb => Option.some.inj hb ▸ h, fun h => h b rfl⟩

theorem returns_clientHelloOf {sess : Session} :
    Returns (clientHelloOf sess) ↔ ClientHelloReadable sess := by
  have hrec : Safe (parseTlsRecords sess.tlsSegment) := safe_parseRecordsFrom _ _ _
  unfold clientHelloOf ClientHelloReadable
  rw [returns_bind]
  cases hp : parseTlsRecords sess.tlsSegment with
  | ok records =>
    constructor
    · rintro ⟨records', heq, h⟩ records'' body hrecords hbody
      cases heq
      cases hrecords
      exact (safe_parseClientHello_iff body).mp (returns_parseBody.mp h body hbody)
    · intro h
      exact ⟨records, rfl, returns_parseBody.mpr fun body hbody =>
        (safe_parseClientHello_iff body).mpr (h records body rfl hbody)⟩
  | error e =>
    cases e with
    | tlsParse message => exact iff_of_true ⟨[], rfl, ⟨none, rfl⟩⟩ (fun _ _ h => by cases h)
    | index => exact absurd hp hrec

/-- server の側の parser は、捕まらない例外を出さない。 -/
theorem returns_serverSideOf (sess : Session) : Returns (serverSideOf sess) := by
  obtain ⟨records, hrecords⟩ := returns_orOnParseError (d := []).mpr
    (safe_parseRecordsFrom sess.tlsServerSegment 4096 0)
  obtain ⟨serverHello, hserver⟩ := returns_parseBody (o := (handshakeBody records).get? 2).mpr
    fun body _ => safe_parseServerHello body
  obtain ⟨certificate, hcert⟩ := returns_parseBody (o := (handshakeBody records).get? 11).mpr
    fun body _ => safe_parseCertificateMessage body
      (decide (serverHello.bind (·.negotiatedVersion) = some 0x0304))
  exact returns_bind.mpr ⟨records, hrecords, returns_bind.mpr ⟨serverHello, hserver,
    returns_bind.mpr ⟨certificate, hcert, ⟨_, rfl⟩⟩⟩⟩

theorem returns_analyzeCertificate {lib : Analyzer} {der : Bytes} :
    Returns (analyzeCertificate lib der) ↔ lib.loadCert der ≠ .ok none := by
  unfold analyzeCertificate
  split
  · next message h => exact iff_of_true ⟨_, rfl⟩ (fun he => by rw [h] at he; cases he)
  · next h => exact iff_of_false (fun ⟨_, h⟩ => by cases h) (fun hne => hne h)
  · next cert h =>
    refine iff_of_true ⟨_, rfl⟩ ?_
    rw [h, ne_eq, Except.ok.injEq]
    exact Option.some_ne_none cert

/-- 証明書の解析がみな結果を返すのは、ちょうど `CertificatesReadable` のときである。 -/
theorem returns_certificates (lib : Analyzer) {sess : Session}
    {serverHello : Option ServerHelloInfo} {certificate : Option CertificateInfo}
    (hserver : serverSideOf sess = .ok (serverHello, certificate)) :
    Returns (((certificate.map (·.rawCerts)).getD []).mapM (analyzeCertificate lib)) ↔
      CertificatesReadable lib sess := by
  rw [returns_mapM]
  unfold CertificatesReadable
  rw [hserver]
  cases certificate with
  | none =>
    refine iff_of_true (fun _ h => by cases h) fun _ _ h => ?_
    rw [Except.ok.injEq, Prod.mk.injEq] at h
    cases h.2
  | some c =>
    constructor
    · intro h _ c' heq der hder
      rw [Except.ok.injEq, Prod.mk.injEq, Option.some.injEq] at heq
      exact returns_analyzeCertificate.mp (h der (heq.2 ▸ hder))
    · intro h der hder
      exact returns_analyzeCertificate.mpr (h serverHello c rfl der hder)

/-- **`analyze_session` が結果を返すのは、ちょうど `Readable` のときである。** -/
theorem returns_analyzeSession {lib : Analyzer} {sess : Session} :
    Returns (analyzeSession lib sess) ↔ Readable lib sess := by
  unfold analyzeSession Readable
  simp only
  by_cases htls : sess.tlsSegment = []
  · rw [if_pos htls]
    exact iff_of_true ⟨_, rfl⟩ (fun h => absurd htls h)
  · rw [if_neg htls]
    obtain ⟨⟨serverHello, certificate⟩, hserver⟩ := returns_serverSideOf sess
    have hcerts := returns_certificates lib hserver
    rw [returns_bind]
    constructor
    · rintro ⟨clientHello, hclient, h⟩ -
      obtain ⟨server, hs, h⟩ := returns_bind.mp h
      rw [hserver, Except.ok.injEq] at hs
      subst hs
      obtain ⟨certs, hc, -⟩ := returns_bind.mp h
      exact ⟨returns_clientHelloOf.mp ⟨_, hclient⟩, hcerts.mp ⟨_, hc⟩⟩
    · intro h
      obtain ⟨hclient, hcert⟩ := h htls
      obtain ⟨clientHello, hclient⟩ := returns_clientHelloOf.mpr hclient
      obtain ⟨certs, hc⟩ := hcerts.mpr hcert
      exact ⟨clientHello, hclient, returns_bind.mpr ⟨_, hserver, returns_bind.mpr
        ⟨certs, hc, ⟨_, rfl⟩⟩⟩⟩

/--
どの入力でも、`parse_client_hello` が値を返すか `TlsParseError` を出すのは 34 byte でないときであり、
他の二つの parser は常にそうである。`analyze_session` が結果を返すのは `Readable` のときで、
`analyze_pcap` が結果を返すのは、どの session もそうであるときである。
-/
theorem analysis_returns (lib : Analyzer) :
    (∀ data, ((∃ info, parseClientHello data = .ok info) ∨
      ∃ message, parseClientHello data = .error (.tlsParse message)) ↔ data.length ≠ 34) ∧
    (∀ data, (∃ info, parseServerHello data = .ok info) ∨
      ∃ message, parseServerHello data = .error (.tlsParse message)) ∧
    (∀ data isTls13, (∃ info, parseCertificateMessage data isTls13 = .ok info) ∨
      ∃ message, parseCertificateMessage data isTls13 = .error (.tlsParse message)) ∧
    (∀ sess, Returns (analyzeSession lib sess) ↔ Readable lib sess) ∧
    ∀ sessions, Returns (analyzePcap lib sessions) ↔ ∀ sess ∈ sessions, Readable lib sess := by
  refine ⟨fun data => ?_, fun data => safe_iff.mp (safe_parseServerHello data),
    fun data isTls13 => safe_iff.mp (safe_parseCertificateMessage data isTls13),
    fun sess => returns_analyzeSession, fun sessions => ?_⟩
  · rw [← safe_iff]
    exact safe_parseClientHello_iff data
  · unfold analyzePcap
    rw [returns_mapM]
    exact forall₂_congr fun _ _ => returns_analyzeSession

/-- 平文のままの session。 -/
def plainSession : Session :=
  { protocol := .smtp, fiveTuple := "a", clientIp := "10.0.0.1", serverIp := "10.0.0.2"
    clientPort := 40000, serverPort := 25 }

/-- random の直後で切れた ClientHello を送る session。 -/
def cutHelloSession : Session :=
  { plainSession with tlsSegment := [22, 3, 3, 0, 38, 1, 0, 0, 34] ++ List.replicate 34 0 }

/-- 切れた ClientHello 一つで、capture のどの session の結果も得られない。 -/
theorem capture_lost :
    parseClientHello (List.replicate 34 0) = .error .index ∧
    (∀ lib, analyzeSession lib cutHelloSession = .error .index) ∧
    ∀ lib, analyzePcap lib [plainSession, cutHelloSession] = .error .index := by
  have hhello : clientHelloOf cutHelloSession = .error .index := by decide +kernel
  have hsess : ∀ lib, analyzeSession lib cutHelloSession = .error .index := by
    intro lib
    unfold analyzeSession
    rw [if_neg (by decide), hhello]
    rfl
  refine ⟨by decide +kernel, hsess, fun lib => ?_⟩
  unfold analyzePcap
  rw [List.mapM_cons, List.mapM_cons, hsess]
  rfl

end CipherPost.Parsing
