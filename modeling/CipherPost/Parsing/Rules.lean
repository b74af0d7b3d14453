import CipherPost.Parsing.SessionAnalysis

/-!
# rule

`app/parsing/rules.py` の rule と、rule の読む表。rule は session の解析を読み、finding を書き足す。
証明書の rule は、証明書の見えない TLS 1.3 の session では飛ばしたことだけを記録する。

* `DEPRECATED_GROUPS`・`MODERN_FS_GROUPS`・`groupName` — 鍵交換の group の表
* `CertAnalysis.expired`・`notYetValid`・`weakSignature`・`shortKey` — 証明書の性質
* `ruleDeprecatedVersion` から `ruleOutdatedClientStack` まで — rule
* `ALL_RULES` — その列

どの rule も例外を出さない。
-/

namespace CipherPost.Parsing

/-! ## 表 -/

namespace Severity

def INFO : String := "info"
def LOW : String := "low"
def MEDIUM : String := "medium"
def HIGH : String := "high"
def CRITICAL : String := "critical"

end Severity

/-- `HYBRID_PQ_GROUPS`。 -/
def HYBRID_PQ_GROUPS : List (Nat × String) :=
  [(4587, "SecP256r1MLKEM768"), (4588, "X25519MLKEM768"), (4589, "SecP384r1MLKEM1024"),
    (4585, "SecP256r1MLKEM512"), (4586, "MLKEM512X25519")]

def PURE_PQ_GROUPS : List (Nat × String) :=
  [(512, "MLKEM512"), (513, "MLKEM768"), (514, "MLKEM1024")]

def OBSOLETE_KYBER_DRAFTS : List (Nat × String) :=
  [(25497, "X25519Kyber768Draft00"), (25498, "SecP256r1Kyber768Draft00")]

/-- `DEPRECATED_GROUPS`。 -/
def DEPRECATED_GROUPS : List Nat := List.range' 1 22

/-- `MODERN_FS_GROUPS`。 -/
def MODERN_FS_GROUPS : List Nat :=
  [23, 24, 25, 29, 30, 256, 257, 258, 259, 260] ++ HYBRID_PQ_GROUPS.map Prod.fst

def CURVE_NAMES : List (Nat × String) :=
  [(29, "x25519"), (30, "x448"), (23, "secp256r1"), (24, "secp384r1"), (25, "secp521r1"),
    (256, "ffdhe2048"), (257, "ffdhe3072"), (258, "ffdhe4096"), (259, "ffdhe6144"),
    (260, "ffdhe8192")]

/-- `group_name`。 -/
def groupName (gid : Nat) : String :=
  match HYBRID_PQ_GROUPS.lookup gid with
  | some name => name ++ " (hybrid PQ)"
  | none => match PURE_PQ_GROUPS.lookup gid with
    | some name => name ++ " (pure PQ)"
    | none => match OBSOLETE_KYBER_DRAFTS.lookup gid with
      | some name => name ++ " (obsolete draft)"
      | none => (CURVE_NAMES.lookup gid).getD ("0x" ++ hexPad 4 gid)

/-- `strip_grease`。 -/
def stripGrease (values : List Nat) : List Nat := values.filter fun v => !isGrease v

def WEAK_VERSIONS : List (Nat × String × String × String) :=
  [(0x0300, "SSLV3", Severity.CRITICAL,
      "SSLv3 is broken (POODLE, CVE-2014-3566) and MUST NOT be used."),
    (0x0301, "TLS1.0", Severity.HIGH,
      "TLS 1.0 is deprecated (NIST SP 800-52r2 disallows below 1.2; RFC 8996)."),
    (0x0302, "TLS1.1", Severity.HIGH, "TLS 1.1 is deprecated (RFC 8996; NIST SP 800-52r2).")]

def CATEGORY_STRENGTH : List (String × String × String) :=
  [("export", "export-grade cipher", Severity.CRITICAL),
    ("null", "null encryption cipher", Severity.CRITICAL), ("rc4", "RC4 stream cipher", Severity.HIGH),
    ("des", "legacy 3DES", Severity.MEDIUM), ("stream", "stream cipher", Severity.MEDIUM),
    ("cbc", "CBC-mode cipher", Severity.LOW), ("aead", "AEAD cipher", Severity.INFO)]

/-! ## 文字列 -/

/-- f-string の中の `str | None`。 -/
def optText (o : Option String) : String := o.getD "None"

/-- `hex(n)`。 -/
def hex (n : Nat) : String := "0x" ++ hexPad 0 n

/-- 十進 `width` 桁。 -/
def decPad (width n : Nat) : String :=
  let digits := Nat.toDigits 10 n
  String.ofList (List.replicate (width - digits.length) '0' ++ digits)

/-- 1970 年からの日数の、年・月・日。 -/
def civilOfDays (days : Int) : Int × Nat × Nat :=
  let z := days + 719468
  let era := z.fdiv 146097
  let doe := (z - era * 146097).toNat
  let yoe := (doe - doe / 1460 + doe / 36524 - doe / 146096) / 365
  let doy := doe - (365 * yoe + yoe / 4 - yoe / 100)
  let mp := (5 * doy + 2) / 153
  let month := if mp < 10 then mp + 3 else mp - 9
  (yoe + era * 400 + (if month ≤ 2 then 1 else 0), month, doy - (153 * mp + 2) / 5 + 1)

/-- `str(datetime)`。時刻は 1970 年からの秒である。 -/
def datetimeText : Option Int → String
  | none => "None"
  | some t =>
    let (year, month, day) := civilOfDays (t.fdiv 86400)
    let sec := (t - t.fdiv 86400 * 86400).toNat
    decPad 4 year.toNat ++ "-" ++ decPad 2 month ++ "-" ++ decPad 2 day ++ " " ++
      decPad 2 (sec / 3600) ++ ":" ++ decPad 2 (sec / 60 % 60) ++ ":" ++ decPad 2 (sec % 60)

example : datetimeText (some 1767225599) = "2025-12-31 23:59:59" := by decide +kernel

/-- f-string の中の文字列の list。 -/
def listText (l : List String) : String :=
  "[" ++ ", ".intercalate (l.map fun s => "'" ++ s ++ "'") ++ "]"

/-! ## 証明書 -/

namespace CertAnalysis

/-- `expired`。 -/
def expired (c : CertAnalysis) (now : Int) : Bool := c.notAfter.any fun t => decide (t < now)

/-- `not_yet_valid`。 -/
def notYetValid (c : CertAnalysis) (now : Int) : Bool := c.notBefore.any fun t => decide (now < t)

/-- `weak_signature`。 -/
def weakSignature (c : CertAnalysis) : Bool :=
  let sig := c.signatureAlg.toList.map Char.toLower
  "sha1".toList.isPrefixOf sig || "md5".toList.isPrefixOf sig ||
    ".1.1.5".toList.isSuffixOf sig || ".1.1.4".toList.isSuffixOf sig

/-- `short_key`。 -/
def shortKey (c : CertAnalysis) : Bool :=
  match c.pubkeyBits with
  | none => false
  | some 0 => false
  | some bits =>
    ((c.pubkeyAlg = "RSA" || c.pubkeyAlg = "DSA") && decide (bits < 2048)) ||
      ((c.pubkeyAlg = "EC" || c.pubkeyAlg = "ECDSA") && decide (bits < 224))

end CertAnalysis

namespace SessionAnalysis

variable (sa : SessionAnalysis)

/-- `add`。 -/
def add (ruleId ruleName severity title description reference : String) : SessionAnalysis :=
  { sa with findings := sa.findings ++
      [{ ruleId := ruleId, ruleName := ruleName, severity := severity, title := title
         description := description, reference := reference }] }

/-- `require_usable_certs`。飛ばした rule は `not_observable` に残る。 -/
def requireUsableCerts (ruleId : String) : SessionAnalysis × Bool :=
  if certsUsable sa.certs then (sa, true)
  else if sa.visibility.any (·.tls13) then
    (if ruleId ∈ sa.notObservable then sa
      else { sa with notObservable := sa.notObservable ++ [ruleId] }, false)
  else (sa, true)

/-- 証明書の rule。条件に合う証明書ごとに finding を足す。 -/
def certRule (ruleId : String) (body : SessionAnalysis → SessionAnalysis) : SessionAnalysis :=
  let (sa, usable) := sa.requireUsableCerts ruleId
  if usable then body sa else sa

end SessionAnalysis

/-! ## 版と cipher の rule -/

/-- `name.lower().replace('.', '-')`。 -/
def slug (name : String) : String :=
  String.ofList (name.toList.map fun c => if c = '.' then '-' else c.toLower)

def ruleDeprecatedVersion (sa : SessionAnalysis) : SessionAnalysis :=
  match sa.tlsVersion.bind fun v => WEAK_VERSIONS.lookup v with
  | none => sa
  | some (name, sev, why) =>
    sa.add ("tls-version-" ++ slug name) ("Deprecated TLS version: " ++ name) sev
      (name ++ " negotiated")
      ("This session negotiated " ++ name ++ ". " ++ why ++ " NIST SP 800-52r2 and RFC 8996" ++
        " require TLS 1.2 or TLS 1.3 for email transport.")
      "NIST SP 800-52r2 §3.1; RFC 8996; OWASP TLS Cheat Sheet §'understand TLS 1.2'"

def ruleNonAeadCipher (sa : SessionAnalysis) : SessionAnalysis :=
  match sa.cipherMeta with
  | none => sa
  | some m =>
    if m.kind ∈ ["cbc", "stream"] then
      sa.add "non-aead-bulk-cipher" "Non-AEAD bulk cipher"
        (if m.kind = "cbc" then Severity.LOW else Severity.MEDIUM)
        (optText sa.cipher ++ " uses legacy bulk encryption")
        ("The negotiated cipher " ++ optText sa.cipher ++ " does not use an authenticated AEAD" ++
          " mode (AES-GCM/CCM or ChaCha20-Poly1305). CBC-mode ciphers are subject to" ++
          " padding-oracle attacks (e.g. Lucky13) and lack integrity protection the" ++
          " same way. Prefer AEAD ciphers (NIST SP 800-52r2 preference).")
        "NIST SP 800-52r2 §3.3.1; OWASP TLS Cheat Sheet"
    else sa

def ruleWeakCipher (sa : SessionAnalysis) : SessionAnalysis :=
  match sa.cipherMeta with
  | none => sa
  | some m =>
    -- 専用の rule がある
    if m.exportClass ∈ [some "export", some "null", some "rc4"] then sa
    else if m.kind ∉ ["cbc", "stream"] then sa
    else
      let (cat, sev) := (CATEGORY_STRENGTH.lookup m.kind).getD ("", "")
      let sev :=
        if m.strength ≤ 30 then
          if m.keyLen ≤ 56 then Severity.CRITICAL else Severity.MEDIUM
        else sev
      sa.add "weak-cipher-suite" "Weak cipher suite" sev
        (optText sa.cipher ++ " classified " ++ cat)
        ("The negotiated cipher " ++ optText sa.cipher ++ " (effective key " ++ toString m.keyLen ++
          "-bit) is classified as a " ++ cat ++
          ". NIST SP 800-52r2 disallows short/weak ciphers for" ++
          " government TLS traffic and recommends blocking them at the server.")
        "NIST SP 800-52r2 App A; OWASP TLS Cheat Sheet"

def ruleNonPfs (sa : SessionAnalysis) : SessionAnalysis :=
  match sa.cipherMeta with
  | none => sa
  | some m =>
    if m.pfs then sa
    else
      sa.add "non-pfs-key-exchange" "No forward secrecy (PFS)" Severity.MEDIUM
        (optText sa.cipher ++ " uses static key exchange")
        ("The negotiated cipher " ++ optText sa.cipher ++ " does not use ephemeral (EC)DHE key" ++
          " exchange. If the server private key is compromised, all past sessions" ++
          " can be decrypted (no forward secrecy). Prefer ECDHE suites.")
        "NIST SP 800-52r2 §3.3.1; OWASP TLS Cheat Sheet §'use forward secrecy'"

def ruleExportCipher (sa : SessionAnalysis) : SessionAnalysis :=
  match sa.cipherMeta with
  | none => sa
  | some m =>
    if m.exportClass = some "export" then
      sa.add "export-grade-cipher" "Export-grade cipher suite" Severity.CRITICAL
        "Export cipher suite negotiated"
        (optText sa.cipher ++ " is an EXPORT-grade cipher with a " ++ toString m.keyLen ++
          "-bit key. Export ciphers (40/56-bit) are trivially brute-forcable and are the basis" ++
          " of the FREAK attack (CVE-2015-0204).")
        "NIST SP 800-52r2 App A; CVE-2015-0204"
    else sa

/-- cipher の名の中の語を見る rule。 -/
def cipherWordRule (word : String) (finding : SessionAnalysis → SessionAnalysis)
    (sa : SessionAnalysis) : SessionAnalysis :=
  if sa.cipherMeta.isSome ∧ word.toList <:+: (sa.cipher.getD "").toList then finding sa else sa

def ruleRc4 : SessionAnalysis → SessionAnalysis :=
  cipherWordRule "RC4" fun sa =>
    sa.add "rc4-cipher" "RC4 cipher suite" Severity.HIGH "RC4 negotiated"
      (optText sa.cipher ++ " uses the RC4 stream cipher. RC4 biases allow practical" ++
        " plaintext recovery (Bar-Mitzvah/BEAST variants) and it is prohibited" ++
        " in RFC 7465 for TLS.")
      "RFC 7465; NIST SP 800-52r2 App A"

def rule3des : SessionAnalysis → SessionAnalysis :=
  cipherWordRule "3DES" fun sa =>
    sa.add "3des-cipher" "3DES cipher suite" Severity.MEDIUM "3DES negotiated"
      (optText sa.cipher ++ " uses 3DES. 3DES/EDE has only ~112 bits of security and is" ++
        " subject to Sweet32 online birthday attacks; prohibited after 2023.")
      "NIST 800-131A Rev 2; RFC 8429"

/-! ## 証明書の rule -/

def ruleCertExpired (now : Int) (sa : SessionAnalysis) : SessionAnalysis :=
  sa.certRule "expired-certificate" fun sa =>
    sa.certs.foldl (fun sa cert =>
      if cert.expired now then
        sa.add "expired-certificate" "Expired certificate" Severity.HIGH
          "Certificate in chain is expired"
          ("The certificate '" ++ cert.subjectCn ++ "' (issued " ++ datetimeText cert.notBefore ++
            ", expires " ++ datetimeText cert.notAfter ++ ", " ++
            (cert.daysRemaining.map toString).getD "None" ++
            " days ago) has EXPIRED. TLS clients" ++
            " will reject the handshake; mail delivery is likely failing or being" ++
            " downgraded.")
          "RFC 5280 §4.1.2.5; NIST SP 800-52r2 §3.3.3"
      else sa) sa

def ruleCertNotYetValid (now : Int) (sa : SessionAnalysis) : SessionAnalysis :=
  sa.certRule "certificate-not-yet-valid" fun sa =>
    sa.certs.foldl (fun sa cert =>
      if cert.notYetValid now then
        sa.add "certificate-not-yet-valid" "Certificate not yet valid" Severity.MEDIUM
          "Certificate start date is in the future"
          ("Certificate '" ++ cert.subjectCn ++ "' is not valid until " ++
            datetimeText cert.notBefore ++
            "; indicating a signing clock problem or time-skew on the mail server.")
          "RFC 5280 §4.1.2.5"
      else sa) sa

/-- 先頭の証明書だけを見る。 -/
def ruleCertSelfSigned (sa : SessionAnalysis) : SessionAnalysis :=
  sa.certRule "self-signed-certificate" fun sa =>
    match sa.certs.head? with
    | none => sa
    | some cert =>
      if cert.isSelfSigned then
        sa.add "self-signed-certificate" "Self-signed certificate" Severity.MEDIUM
          "Leaf certificate is self-signed"
          ("The presented certificate '" ++ cert.subjectCn ++ "' is self-signed. Clients" ++
            " that strictly validate will reject it; opportunistic/trust-on-first-use" ++
            " mail clients may accept it silently, which is a MITM risk.")
          "RFC 5280 §6.1; NIST SP 800-52r2 §3.3.3"
      else sa

/-- 連鎖の検証結果の、重さと文。 -/
def chainVerdict (sa : SessionAnalysis) : String × String :=
  if sa.chainResult = "untrusted" then
    (Severity.HIGH, "does not chain to a trusted root in the configured trust store")
  else if sa.chainResult = "invalid-sig" then
    (Severity.HIGH, "failed signature validation against its issuer")
  else if sa.chainResult = "hostname-mismatch" then
    (Severity.MEDIUM, "hostname does not match the certificate SANs")
  else if sa.chainResult = "parse-error" then (Severity.MEDIUM, "could not be parsed as X.509")
  else (Severity.HIGH, sa.chainError)

/-- 連鎖の検証に失敗した結果。 -/
def CHAIN_FAILURES : List String :=
  ["untrusted", "invalid-sig", "hostname-mismatch", "expired", "not-yet-valid", "parse-error"]

def ruleChainUntrusted (sa : SessionAnalysis) : SessionAnalysis :=
  sa.certRule "untrusted-certificate-chain" fun sa =>
    if sa.chainResult ∈ CHAIN_FAILURES then
      sa.add "untrusted-certificate-chain" "Untrusted certificate chain" (chainVerdict sa).1
        ("Chain validation failed: " ++ sa.chainResult)
        ("The server's certificate chain " ++ (chainVerdict sa).2 ++
          ". Email clients will reject the TLS" ++
          " session or fall back to insecure plaintext, enabling downgrade/MITM.")
        "RFC 5280 §6; NIST SP 800-52r2 §3.3.3"
    else sa

def ruleWeakSignature (sa : SessionAnalysis) : SessionAnalysis :=
  sa.certRule "weak-signature-algorithm" fun sa =>
    sa.certs.foldl (fun sa cert =>
      if cert.weakSignature then
        sa.add "weak-signature-algorithm" "Weak signature algorithm on certificate" Severity.HIGH
          ("Certificate signed with " ++ cert.signatureAlg)
          ("The certificate '" ++ cert.subjectCn ++ "' uses signature algorithm " ++
            cert.signatureAlg ++ ". SHA-1/MD5 signature algorithms are" ++
            " cryptographically broken (collision attacks) and MUST NOT be used" ++
            " for certificates.")
          "NIST SP 800-52r2 §3.3.3; RFC 8446 App B.1.1"
      else sa) sa

def ruleShortKey (sa : SessionAnalysis) : SessionAnalysis :=
  sa.certRule "short-public-key" fun sa =>
    sa.certs.foldl (fun sa cert =>
      let bits := (cert.pubkeyBits.map toString).getD "None"
      if cert.shortKey then
        sa.add "short-public-key" "Short public key size" Severity.HIGH
          ("Certificate public key only " ++ bits ++ " bits")
          ("Certificate '" ++ cert.subjectCn ++ "' uses a " ++ cert.pubkeyAlg ++
            " public key of " ++ bits ++ " bits. NIST SP 800-52r2 requires RSA >= 2048," ++
            " ECDSA >= 224 bits (256-bit curve recommended).")
          "NIST SP 800-52r2 §3.3.3.1; NIST SP 800-57 Part 1"
      else sa) sa

/-! ## 平文の rule -/

/-- 平文の bytes があり、TLS が始まらなかった。 -/
def plaintextOnly (sa : SessionAnalysis) : Bool :=
  !sa.startedTls && decide (sa.tlsBytes = 0) && decide (0 < sa.plaintextBytes)

def ruleSslInPlaintext (sa : SessionAnalysis) : SessionAnalysis :=
  if plaintextOnly sa then
    sa.add "plaintext-mail-protocol" "Plaintext mail session (no TLS)" Severity.HIGH
      "Email credentials/messages sent in cleartext"
      (sa.protocol ++ " session carried no TLS. If STARTTLS was expected this is a" ++
        " protocol-stripping / MITM indicator; credentials and message bodies were" ++
        " transmitted in cleartext and are recoverable from the capture.")
      "RFC 3207 §4 (SMTP); NIST SP 800-52r2 §3.3"
  else sa

def ruleStarttlsStrip (sa : SessionAnalysis) : SessionAnalysis :=
  if sa.sawStarttlsOffer ∧ ¬sa.startedTls ∧ sa.tlsBytes = 0 then
    sa.add "starttls-strip-attempt" "Possible STARTTLS stripping" Severity.CRITICAL
      "STARTTLS advertised but no handshake followed"
      ("The " ++ sa.protocol ++ " server advertised STARTTLS capability (or the client" ++
        " requested it) but the session proceeded without a TLS handshake. An" ++
        " active attacker may have suppressed/forged the STARTTLS response to force" ++
        " plaintext (STRIPTLS / STARTTLS downgrade). Clients MUST refuse to continue" ++
        " when STARTTLS is not honored.")
      "RFC 3207 §4.1.2; OWASP SMTP Transport Security through STARTTLS"
  else sa

def ruleNoTlsOnTlsPort (sa : SessionAnalysis) : SessionAnalysis :=
  if sa.isImplicitTlsPort && plaintextOnly sa then
    sa.add "no-tls-on-implicit-port" "No TLS on implicit-TLS port" Severity.CRITICAL
      ("Port " ++ toString sa.port ++ " expects TLS but none seen")
      ("Traffic on implicit-TLS port " ++ toString sa.port ++ " (" ++ sa.protocol ++
        "s) carried no TLS" ++
        " handshake. Either the server is misconfigured, the traffic is being" ++
        " passively downgraded, or a non-compliant client is sending plaintext.")
      "RFC 8314 §3.1; NIST SP 800-52r2 §3.3"
  else sa

def ruleHandshakeIncomplete (sa : SessionAnalysis) : SessionAnalysis :=
  if sa.startedTls ∧ sa.clientHello = none then
    sa.add "tls-handshake-incomplete" "TLS handshake incomplete/opaque" Severity.MEDIUM
      "TLS records present but no ClientHello parsed"
      ("TLS activity was detected but a ClientHello could not be parsed from the" ++
        " client stream. Possible causes: fragmented handshake across many records," ++
        " an exotic client, or an injection attempt.")
      "RFC 5246 §7.4.1.2"
  else sa

def ruleUnknownCipher (sa : SessionAnalysis) : SessionAnalysis :=
  match sa.cipherIana with
  | none => sa
  | some 0 => sa
  | some iana =>
    if sa.cipherMeta = none then
      sa.add "unknown-cipher-suite" "Unrecognized cipher suite" Severity.MEDIUM
        ("Cipher suite 0x" ++ hexPad 4 iana ++ " not in knowledge base")
        ("A cipher suite was negotiated that CipherPost does not recognize. This" ++
          " warrants investigation: it may be exotic, a GREASE value, or require" ++
          " updating the cipher knowledge base.")
        "IANA TLS Cipher Suite Registry"
    else sa

/-! ## ClientHello の rule -/

/-- client の cipher に、前方秘匿性のあるものがある。 -/
def offersPfs (ch : ClientHelloInfo) : Bool :=
  ch.cipherSuites.any fun cs => (lookupCipher cs).any (·.pfs)

def ruleNoClientHelloPfsCapability (sa : SessionAnalysis) : SessionAnalysis :=
  match sa.clientHello, sa.tlsVersion with
  | some ch, some v =>
    if 0 < v ∧ v < 0x0304 ∧ ¬offersPfs ch then
      sa.add "client-no-pfs-suites" "Client offers no forward-secrecy suites" Severity.LOW
        "ClientHello advertises no ECDHE/DHE cipher suites"
        ("The client's offered cipher list contains no ephemeral-DH suites," ++
          " so a PFS-capable server will fall back to a static key exchange if" ++
          " this client is relicensed maintenance.")
        "OWASP TLS Cheat Sheet §'use forward secrecy'"
    else sa
  | _, _ => sa

/-- client の group に、前方秘匿性のある新しいものが無い。 -/
def noModernGroup (ch : ClientHelloInfo) : Bool :=
  !(stripGrease ch.supportedGroups).any fun g => decide (g ∈ MODERN_FS_GROUPS)

def ruleLegacyGroups (sa : SessionAnalysis) : SessionAnalysis :=
  match sa.clientHello with
  | none => sa
  | some ch =>
    let offered := (stripGrease ch.supportedGroups).filter fun g => decide (g ∈ DEPRECATED_GROUPS)
    match (sa.serverHello.bind (·.selectedGroup)).filter fun g => decide (g ∈ DEPRECATED_GROUPS) with
    | some selected =>
      sa.add "deprecated-group-negotiated" "Deprecated key-exchange group negotiated" Severity.HIGH
        ("Deprecated group " ++ groupName selected ++ " negotiated")
        ("The server selected a key-exchange group IANA marks deprecated" ++
          " (curves 1..22). Renegotiate with a modern group (X25519, FFDHE," ++
          " or a hybrid post-quantum group).")
        "RFC 8422-bis; IANA TLS Supported Groups registry"
    | none =>
      if offered = [] then sa
      else
        sa.add "deprecated-group-offered"
          (if noModernGroup ch then "Client offers only deprecated groups"
            else "Client offers deprecated groups")
          (if noModernGroup ch then Severity.MEDIUM else Severity.LOW)
          "Deprecated groups in ClientHello"
          ("The client offers IANA-deprecated groups (curves 1..22). Offered: " ++
            listText (offered.map groupName) ++ ". The server should prefer modern groups.")
          "RFC 8422-bis; IANA TLS Supported Groups registry"

def ruleNoModernPfsGroup (sa : SessionAnalysis) : SessionAnalysis :=
  match sa.clientHello with
  | none => sa
  | some ch =>
    if ch.supportedGroups = [] then sa
    else if stripGrease ch.supportedGroups ≠ [] ∧ noModernGroup ch then
      sa.add "no-modern-pfs-group" "No modern forward-secrecy group offered" Severity.MEDIUM
        "Client offers no modern PFS-capable group"
        ("The ClientHello offers key-exchange groups but none of X25519," ++
          " X448, FFDHE-2048+, or hybrid post-quantum groups. Sessions will" ++
          " negotiate weaker/legacy key exchange.")
        "OWASP TLS Cheat Sheet §'use forward secrecy'"
    else sa

/-- GREASE を除かずに、client の版の最大を取る。 -/
def ruleDowngradeSentinel (sa : SessionAnalysis) : SessionAnalysis :=
  match sa.serverHello.bind (·.downgradeSentinel) with
  | none => sa
  | some sentinel =>
    match sa.clientHello.bind (·.offeredVersions.max?), sa.tlsVersion with
    | some offeredMax, some negotiated =>
      if negotiated < offeredMax then
        sa.add "downgrade-attack-detected" "TLS downgrade attack detected" Severity.CRITICAL
          "Server downgrade sentinel with higher version offered"
          ("The server random carries the " ++ sentinel ++ " downgrade" ++
            " sentinel while the client offered " ++ hex offeredMax ++ " but only " ++
            hex negotiated ++ " was negotiated. This is the RFC 8446 active-" ++
            "downgrade signal: investigate for MITM immediately.")
          "RFC 8446 §4.1.3"
      else sa
    | _, _ => sa

def ruleHrrAnomaly (sa : SessionAnalysis) : SessionAnalysis :=
  match sa.serverHello with
  | none => sa
  | some sh =>
    if sh.isHrr = false then sa
    else
      let offered := (sa.clientHello.map fun ch => stripGrease ch.supportedGroups).getD []
      match sh.selectedGroup with
      | none => sa
      | some selected =>
        if offered ≠ [] ∧ selected ∉ offered then
          sa.add "hrr-group-mismatch" "HelloRetryRequest selects unoffered group" Severity.MEDIUM
            "HRR requests a group the client never offered"
            ("The HelloRetryRequest selects " ++ groupName selected ++ " which was" ++
              " not in the ClientHello supported_groups. Normal servers only" ++
              " request offered groups; investigate server state or tampering.")
            "RFC 8446 §4.1.4"
        else sa

/-- GREASE を除かずに、client の版の最大を取る。 -/
def ruleTlsVersionDowngrade (sa : SessionAnalysis) : SessionAnalysis :=
  match sa.clientHello.bind (·.offeredVersions.max?), sa.tlsVersion with
  | some best, some v =>
    if best ≤ v then sa
    else if v ≤ 0x0302 ∧ 0x0303 ≤ best then
      sa.add "tls-version-downgrade-suspected" "Negotiated version below best offer" Severity.HIGH
        "Server negotiated below the client's best offer"
        ("Client offered up to " ++ hex best ++ " but " ++ hex v ++ " was" ++
          " negotiated. A legacy-only server is possible, but so is active" ++
          " version downgrade — verify the server's configured versions.")
        "RFC 8446 §4.1.3; RFC 8996"
    else if v = 0x0303 ∧ best = 0x0304 then
      sa.add "tls13-not-negotiated" "TLS 1.3 offered but 1.2 negotiated" Severity.INFO
        "Server does not negotiate TLS 1.3"
        ("The client offered TLS 1.3 but the server negotiated 1.2. Usually" ++
          " a server that has not enabled 1.3 yet — a hardening opportunity," ++
          " not evidence of attack.")
        "RFC 8446"
    else sa
  | _, _ => sa

def ruleEchPresent (sa : SessionAnalysis) : SessionAnalysis :=
  if sa.clientHello.any (·.echOuter) then
    sa.add "ech-observed" "Encrypted Client Hello in use" Severity.INFO
      "ECH outer ClientHello observed"
      ("The client used Encrypted Client Hello (RFC 8744, ext 0xfe0d):" ++
        " the inner SNI and parameters are encrypted and NOT observable" ++
        " passively. Certificate/host attribution for this session is" ++
        " limited to the outer (public) name.")
      "RFC 8744 (draft-ietf-tls-esni)"
  else sa

/-- GREASE を除かずに、client の版の最大を取る。版が無ければ legacy version である。 -/
def ruleOutdatedClientStack (sa : SessionAnalysis) : SessionAnalysis :=
  match sa.clientHello.bind fun ch => ch.offeredVersions.max?.or ch.legacyVersion with
  | none => sa
  | some best =>
    if best ≤ 0x0302 then
      sa.add "outdated-client-stack" "Client stack predates TLS 1.2" Severity.INFO
        "ClientHello offers nothing newer than TLS 1.1"
        ("The client's best TLS offer predates TLS 1.2. The server side is" ++
          " not at fault; track the client for upgrades. (Cipher-suite and" ++
          " negotiated-version rules assess the session itself.)")
        "RFC 8996"
    else sa

def ruleLegacyCompression (sa : SessionAnalysis) : SessionAnalysis :=
  match sa.clientHello with
  | none => sa
  | some ch =>
    if sa.tlsVersion = some 0x0304 ∧ ch.compression ≠ [] ∧ ch.compression ≠ [0] then
      sa.add "legacy-compression-offered" "Non-null compression with TLS 1.3" Severity.LOW
        "Client offers legacy compression"
        ("TLS 1.3 forbids compression (RFC 8446 §9.2); the ClientHello" ++
          " offered compression methods anyway. Likely a legacy stack," ++
          " worth noting for client inventory.")
        "RFC 8446 §9.2"
    else sa

/-! ## rule の列 -/

/-- `ALL_RULES`。`now` は証明書の期限を見る時計である。 -/
def ALL_RULES (now : Int) : List (SessionAnalysis → SessionAnalysis) :=
  [ruleDeprecatedVersion, ruleNonAeadCipher, ruleWeakCipher, ruleExportCipher, ruleNonPfs, ruleRc4,
    rule3des, ruleCertExpired now, ruleCertNotYetValid now, ruleCertSelfSigned, ruleChainUntrusted,
    ruleWeakSignature, ruleShortKey, ruleSslInPlaintext, ruleStarttlsStrip,
    ruleNoClientHelloPfsCapability, ruleNoTlsOnTlsPort, ruleHandshakeIncomplete, ruleUnknownCipher,
    ruleLegacyGroups, ruleNoModernPfsGroup, ruleDowngradeSentinel, ruleHrrAnomaly,
    ruleTlsVersionDowngrade, ruleEchPresent, ruleLegacyCompression, ruleOutdatedClientStack]

/-- `ALL_RULES` を走らせる解析。 -/
def Analyzer.withRules (lib : Analyzer) (now : Int) : Analyzer :=
  { lib with rules := (ALL_RULES now).map fun rule sa => (rule sa, false) }

/-- `run_rules` は、rule を順に適用する。 -/
theorem runRules_withRules (lib : Analyzer) (now : Int) (sa : SessionAnalysis) :
    runRules (lib.withRules now) sa = (ALL_RULES now).foldl (fun sa rule => rule sa) sa := by
  rw [runRules, Analyzer.withRules, List.foldl_map]

end CipherPost.Parsing
