import Mathlib.Data.List.Infix
import Mathlib.Data.List.Sort
import CipherPost.Infra.Dict
import CipherPost.Parsing.FiveTuple
import CipherPost.Parsing.Handshake

/-!
# MTA-STS と DANE

`app/proactive/mta_sts.py`。domain の MTA-STS の policy と MX の TLSA を調べ、観測した session と比べる。
DNS・HTTPS・署名の検証・hash は `Net` に受け取る。cache は、同じ答えを返すだけなので `Net` の答えに含める。

* `fetchPolicy` — `_fetch_policy`
* `policyField`・`applyField`・`readPolicy` — policy の行を読む loop
* `fetchMtaSts` — `_fetch_mta_sts`
* `fetchTlsa`・`tlsaMatches` — TLSA
* `checkDomain` — `check_domain`
* `evaluateSession`・`mismatchForSession` — 観測した session との食い違い
-/

namespace CipherPost.Proactive

open Parsing

/-! ## 文字列 -/

/-- `s.strip()`。 -/
def stripChars (s : List Char) : List Char :=
  ((s.dropWhile isSpace).reverse.dropWhile isSpace).reverse

/-- `s.rstrip(".")`。 -/
def rstripDots (s : String) : String :=
  String.ofList (s.toList.reverse.dropWhile (· = '.')).reverse

/-- 行を区切る文字。 -/
def isLineEnd (c : Char) : Bool :=
  (0x0A ≤ c.toNat && c.toNat ≤ 0x0D) || (0x1C ≤ c.toNat && c.toNat ≤ 0x1E) ||
    decide (c.toNat ∈ [0x85, 0x2028, 0x2029])

/-- `s.splitlines()`。 -/
def splitlines : List Char → List (List Char)
  | [] => []
  | '\r' :: '\n' :: rest => [] :: splitlines rest
  | c :: rest =>
    if isLineEnd c then [] :: splitlines rest
    else match splitlines rest with
      | [] => [[c]]
      | line :: lines => (c :: line) :: lines

/-- 前後に空白の無い `s` の `int(s)`。4300 桁より長い数も ValueError になる。 -/
def pyIntText (s : List Char) : Option Int :=
  if 4300 < (s.map asciiDecimal).countP Char.isDigit then none else pyInt s

/-- 大文字と小文字を区別しない一致。 -/
def sameLetter (lit c : Char) : Bool :=
  c.toLower = lit || (lit = 's' && c = 'ſ') || (lit = 'i' && (c = 'İ' || c = 'ı'))

/-- `word` を読み、残りを返す。 -/
def matchWord : List Char → List Char → Option (List Char)
  | [], s => some s
  | lit :: word, c :: s => if sameLetter lit c then matchWord word s else none
  | _ :: _, [] => none

/-- 先頭での `_MTA_STS_TXT_RE` の一致。 -/
def stsIdAt (s : List Char) : Option (List Char) := do
  let rest ← matchWord "v=stsv1;".toList s
  let rest ← matchWord "id=".toList (rest.dropWhile isSpace)
  let id := rest.takeWhile fun c => c ≠ ';' && !isSpace c
  if id = [] then none else some id

/-- `_MTA_STS_TXT_RE.search(s)` の `id`。 -/
def stsId : List Char → Option (List Char)
  | [] => none
  | c :: s => (stsIdAt (c :: s)).or (stsId s)

/-- `b.hex()`。 -/
def hexText (b : Bytes) : String := String.join (b.map fun x => hexPad 2 x.toNat)

/-! ## 外の答え -/

/-- DNS の query の結果。`noData` は NXDOMAIN と NoAnswer である。 -/
inductive Answer (α : Type) where
  | records (rrs : List α)
  | noData (text : String)
  | failed (text : String)

/-- MX の rdata。 -/
structure MxRdata where
  preference : Nat
  exchange : String

/-- TLSA の rdata。 -/
structure TlsaRdata where
  usage : Nat
  selector : Nat
  mtype : Nat
  cert : Bytes

/-- TLSA の query の結果。`rrsigs` は答えの中の RRSIG である。 -/
inductive TlsaAnswer where
  | nxdomain
  | noAnswer
  | failed (text : String)
  | answer (rrs : List TlsaRdata) (rrsigs : List Bytes)

/-- `ip_address` の読む address。 -/
structure Address where
  text : String
  isPrivate : Bool := false
  isLoopback : Bool := false
  isLinkLocal : Bool := false
  isMulticast : Bool := false
  isReserved : Bool := false
  isUnspecified : Bool := false

/-- 公開されていない address。 -/
def Address.nonPublic (ip : Address) : Bool :=
  ip.isPrivate || ip.isLoopback || ip.isLinkLocal || ip.isMulticast || ip.isReserved ||
    ip.isUnspecified

/-- 例外。 -/
inductive Raised where
  | valueError (text : String)
  | other (text : String)

/-- HTTPS の応答。 -/
structure Response where
  status : Nat
  location : String := ""
  content : Bytes := []

/-- 標準 library・dnspython・httpx・cryptography と設定。 -/
structure Net where
  /-- `s.lower()`。 -/
  lower : String → String
  /-- `repr(s)`。 -/
  repr : String → String
  /-- UTF-8 でない bytes の `decode` の例外の文。 -/
  decodeError : Bytes → String
  sha256 : Bytes → String
  sha512 : Bytes → String
  /-- 証明書の SubjectPublicKeyInfo。読めない証明書は `none` である。 -/
  spki : Bytes → Option Bytes
  mx : String → Answer MxRdata
  txt : String → Answer (List Bytes)
  tlsa : String → TlsaAnswer
  /-- `_trust_anchor_key`。key は `to_digestable` の bytes で表す。 -/
  trustAnchor : Option Bytes
  /-- DNSKEY の query。例外は `none` である。 -/
  dnskey : String → Option (List Bytes)
  /-- `keyname.parent()`。 -/
  parent : String → Option String
  /-- `dns.dnssec.validate` が例外を出さない。引数は名・rrs・rrsigs・key の名・key である。 -/
  validate : String → List TlsaRdata → List Bytes → String → List Bytes → Bool
  /-- `getaddrinfo` の address。 -/
  addresses : String → Except Raised (List Address)
  /-- `client.get`。引数は Host と URL である。 -/
  get : String → String → Except String Response
  urljoin : String → String → Except String String
  /-- `urlparse` の scheme と hostname。 -/
  urlparse : String → Except String (String × String)
  maxPolicyBytes : Int := 65536
  maxRedirects : Int := 3

variable (net : Net)

/-! ## policy の取得 -/

/-- `_assert_public_https_target`。 -/
def assertPublicHttpsTarget (host : String) : Except Raised Unit := do
  let infos ← net.addresses host
  if infos = [] then .error (.valueError "no addresses")
  else match infos.find? Address.nonPublic with
    | some ip => .error (.valueError ("non-public address " ++ ip.text))
    | none => .ok ()

/-- `_safe_redirect`。捕まえない例外は、呼ぶ側が文にする。 -/
def safeRedirect (current location : String) : Except String (Option String) := do
  let next ← net.urljoin current location
  let (scheme, hostname) ← net.urlparse next
  if scheme ≠ "https" then .ok none
  else match assertPublicHttpsTarget net hostname with
    | .ok () => .ok (some next)
    | .error (.valueError _) => .ok none
    | .error (.other text) => .error text

/-- `_fetch_policy` の返り値。`raised` は捕まらない例外である。 -/
inductive PolicyResult where
  | policy (text : String)
  | error (text : String)
  | raised (text : String)
  deriving Repr, DecidableEq

/-- redirect を辿る loop。`n` は残りの回数である。 -/
def followPolicy (host : String) : Nat → String → PolicyResult
  | 0, _ => .error "too many redirects"
  | n + 1, current =>
    match net.get host current with
    | .error e => .error ("policy fetch failed: " ++ e)
    | .ok resp =>
      if resp.status ∈ [301, 302, 303, 307, 308] then
        match safeRedirect net current resp.location with
        | .error e => .error ("policy fetch failed: " ++ e)
        | .ok none => .error "policy fetch refused: unsafe redirect"
        | .ok (some next) => followPolicy host n next
      else if resp.status ≠ 200 then .error ("policy HTTP " ++ toString resp.status)
      else if (if net.maxPolicyBytes = 0 then 65536 else net.maxPolicyBytes) <
          (resp.content.length : Int) then .error "policy too large"
      else .policy (String.ofList (Addr.decodeReplace resp.content))

/-- `_fetch_policy`。 -/
def fetchPolicy (domain : String) : PolicyResult :=
  let host := "mta-sts." ++ domain
  match assertPublicHttpsTarget net host with
  | .error (.valueError e) => .error ("policy fetch refused: " ++ e)
  | .error (.other e) => .raised e
  | .ok () =>
    let maxRedirects := if net.maxRedirects = 0 then 3 else net.maxRedirects
    followPolicy net host (maxRedirects + 1).toNat
      ("https://mta-sts." ++ domain ++ "/.well-known/mta-sts.txt")

/-! ## MTA-STS -/

/-- `_fetch_mta_sts` の返り値。 -/
structure Sts where
  mxHosts : List String := []
  txt : Option String := none
  policy : Option String := none
  policyId : Option String := none
  mode : Option String := none
  maxAge : Option Int := none
  mxPatterns : List String := []
  error : Option String := none
  deriving Repr, DecidableEq

/-- policy の一行の、小文字の名と値。空行・注釈・`:` の無い行は読まない。 -/
def policyField (line : List Char) : Option (String × String) :=
  let line := stripChars line
  if line = [] ∨ line.head? = some '#' then none
  else (partition [':'] line).map fun kv =>
    (net.lower (String.ofList (stripChars kv.1)), String.ofList (stripChars kv.2))

/-- 名と値一つ。 -/
def applyField (out : Sts) (field : String × String) : Sts :=
  let (k, v) := field
  if k = "mode" then { out with mode := some (net.lower v) }
  else if k = "max_age" then
    match pyIntText v.toList with
    | some n => { out with maxAge := some n }
    | none => { out with error := some ("malformed max_age: " ++ net.repr v) }
  else if k = "mx" then { out with mxPatterns := out.mxPatterns ++ [v] }
  else out

/-- policy の一行。 -/
def policyLine (out : Sts) (line : List Char) : Sts :=
  match policyField net line with
  | none => out
  | some field => applyField net out field

/-- 読める mode。 -/
def POLICY_MODES : List String := ["enforce", "testing", "none"]

/-- policy を読む loop と、その後の mode の確かめ。 -/
def readPolicy (out : Sts) (policy : String) : Sts :=
  let out := (splitlines policy.toList).foldl (policyLine net) out
  if out.mode.any fun mode => decide (mode ∈ POLICY_MODES) then out
  else { out with error := some ("malformed mode: " ++ (out.mode.map net.repr).getD "None") }

/-- MX の host。優先度と名の順に並べる。 -/
def sortedHosts (rrs : List MxRdata) : List String :=
  let mxs := rrs.map fun r => (r.preference, rstripDots r.exchange)
  (mxs.insertionSort fun a b => a.1 < b.1 ∨ (a.1 = b.1 ∧ a.2 ≤ b.2)).map Prod.snd

/-- `s.decode()`。符号化し直して元に戻る bytes だけが読める。 -/
def decodeStrict (b : Bytes) : Except String String :=
  let text := String.ofList (Addr.decodeReplace b)
  if text.toUTF8.toList = b then .ok text else .error (net.decodeError b)

/-- TXT の文字列をつなぐ。 -/
def joinTxt (rrs : List (List Bytes)) : Except String String :=
  (rrs.flatten.mapM (decodeStrict net)).map String.join

/-- `_fetch_mta_sts`。`error` は、捕まらずに外へ出る例外である。 -/
def fetchMtaSts (domain : String) : Except String Sts :=
  match net.mx domain with
  | .noData e => .ok { error := some ("no MX: " ++ e) }
  | .failed e => .ok { error := some ("dns-error MX: " ++ e) }
  | .records rrs =>
    let out : Sts := { mxHosts := sortedHosts rrs }
    match net.txt ("_mta-sts." ++ domain) with
    | .noData _ => .ok out
    | .failed e => .ok { out with error := some ("dns-error TXT: " ++ e) }
    | .records strings =>
      match joinTxt net strings with
      | .error e => .ok { out with error := some ("dns-error TXT: " ++ e) }
      | .ok txt =>
        let out := { out with txt := some txt }
        match stsId txt.toList with
        | none =>
          .ok { out with error := some "malformed _mta-sts TXT (missing v=STSv1/id)" }
        | some policyId =>
          match fetchPolicy net domain with
          | .raised e => .error e
          | .error e => .ok { out with error := some e }
          | .policy policy =>
            .ok (readPolicy net { out with policy := some policy,
                                           policyId := some (String.ofList policyId) } policy)

/-! ## DANE -/

/-- TLSA の record の dict。 -/
structure TlsaRecord where
  usage : Nat
  selector : Nat
  mtype : Nat
  cert : String
  deriving Repr, DecidableEq

/-- `_fetch_tlsa` の返り値。 -/
structure TlsaResult where
  records : List TlsaRecord := []
  dnssec : String := "unknown"
  error : Option String := none
  deriving Repr, DecidableEq

/-- DNSKEY のある名まで遡る loop。 -/
def findKeys : Nat → String → Option (String × List Bytes)
  | 0, _ => none
  | n + 1, keyname =>
    match net.dnskey keyname with
    | some keys => some (keyname, keys)
    | none => (net.parent keyname).bind (findKeys n)

/-- `_validate_rrsig`。 -/
def validateRrsig (name : String) (rrs : List TlsaRdata) (rrsigs : List Bytes) (anchor : Bytes) :
    Bool :=
  match findKeys net 5 name with
  | none => false
  | some (keyname, keys) => decide (anchor ∈ keys) && net.validate name rrs rrsigs keyname keys

/-- `_fetch_tlsa`。 -/
def fetchTlsa (mxHost : String) : TlsaResult :=
  let name := "_25._tcp." ++ mxHost
  match net.tlsa name with
  | .nxdomain => { dnssec := "not-published" }
  | .noAnswer => { dnssec := "not-published" }
  | .failed e => { error := some ("dns-error TLSA: " ++ e) }
  | .answer rrs rrsigs =>
    let out : TlsaResult :=
      { records := rrs.map fun r => ⟨r.usage, r.selector, r.mtype, hexText r.cert⟩ }
    if rrsigs = [] then { out with dnssec := "insecure" }
    else match net.trustAnchor with
      | none =>
        { out with dnssec := "dnssec-failed",
                   error := some "signed TLSA but no trust anchor configured" }
      | some anchor =>
        if validateRrsig net name rrs rrsigs anchor then { out with dnssec := "secure" }
        else { out with dnssec := "bogus", error := some "RRSIG validation failed" }

/-- selector の選ぶ bytes。 -/
def selected (selector : Nat) (certDer : Bytes) : Option Bytes :=
  match selector with
  | 0 => some certDer
  | 1 => net.spki certDer
  | _ => none

/-- `tlsa_matches`。 -/
def tlsaMatches (record : TlsaRecord) (certDer : Bytes) : Bool :=
  -- PKIX の usage は連鎖の検証を要するので扱わない
  if record.usage ∉ [2, 3] then false
  else match selected net record.selector certDer with
    | none => false
    | some data =>
      match record.mtype with
      | 0 => decide (hexText data = net.lower record.cert)
      | 1 => decide (net.sha256 data = net.lower record.cert)
      | 2 => decide (net.sha512 data = net.lower record.cert)
      | _ => false

/-! ## domain の姿勢 -/

/-- `posture["mta_sts"]`。 -/
structure StsPosture where
  mode : Option String := none
  maxAge : Option Int := none
  mxPatterns : List String := []
  mxHosts : List String := []
  policyId : Option String := none
  error : Option String := none

/-- `check_domain` の返り値。調べた時刻を除く。 -/
structure Posture where
  domain : String
  status : String
  mtaSts : Option StsPosture := none
  dane : Option (Dict String TlsaResult) := none

/-- `(domain or "").strip().lower().rstrip(".")`。 -/
def normalizeDomain (domain : String) : String :=
  rstripDots (net.lower (String.ofList (stripChars domain.toList)))

/-- 調べる domain。 -/
def validDomain (domain : String) : Bool :=
  decide (domain ≠ "") && decide ('.' ∈ domain.toList) && decide (domain.toList.length ≤ 253)

/-- TLSA の結果の dict。MX は八つまで調べる。 -/
def daneResults (mxHosts : List String) : Dict String TlsaResult :=
  Dict.ofKeys (fetchTlsa net) (mxHosts.take 8)

/-- MTA-STS から決まる status。 -/
def stsStatus (sts : Sts) : String :=
  match sts.error with
  | some err =>
    if "dns-error".toList <+: err.toList then "dns-error"
    else if "malformed".toList <:+: err.toList ∨ "policy".toList <:+: err.toList then "misconfigured"
    else "dns-error"
  | none =>
    if sts.mode = some "enforce" ∨ sts.mode = some "testing" then "ok"
    else if sts.mode = some "none" then "not-published"
    else if sts.txt = none ∧ sts.mxHosts = [] then "dns-error"
    else "not-published"

/-- DANE の失敗で弱まる status。 -/
def overallStatus (sts : Sts) (dane : Dict String TlsaResult) : String :=
  let status := stsStatus sts
  let broken := dane.values.any fun v =>
    decide (v.dnssec = "bogus") || (decide (v.dnssec = "dnssec-failed") && v.error.isSome)
  if broken ∧ (status = "not-published" ∨ status = "ok") then "dnssec-failed" else status

/-- `check_domain`。 -/
def checkDomain (domain : String) : Posture :=
  let domain := normalizeDomain net domain
  if validDomain domain = false then { domain := domain, status := "invalid-domain" }
  else match fetchMtaSts net domain with
    | .error e =>
      { domain := domain, status := "dns-error"
        mtaSts := some { error := some (String.ofList (e.toList.take 200)) }
        dane := some Dict.empty }
    | .ok sts =>
      let dane := daneResults net sts.mxHosts
      { domain := domain, status := overallStatus sts dane
        mtaSts := some
          { mode := sts.mode, maxAge := sts.maxAge, mxPatterns := sts.mxPatterns
            mxHosts := sts.mxHosts, policyId := sts.policyId, error := sts.error }
        dane := some dane }

/-! ## session との食い違い -/

/-- `session_info`。 -/
structure SessionInfo where
  usedTls : Bool
  mxHost : Option String := none
  certDer : Option Bytes := none
  certOk : Option Bool := none

/-- `evaluate_session` の finding。 -/
structure TransportFinding where
  ruleId : String
  severity : String
  title : String
  domain : String
  mx : Option String := none
  deriving Repr, DecidableEq

/-- MTA-STS の finding。 -/
def mtaStsFindings (domain : String) (mode : Option String) (info : SessionInfo) :
    List TransportFinding :=
  if mode = some "enforce" then
    if info.usedTls = false then
      [{ ruleId := "mta-sts-enforce-plaintext", severity := "critical"
         title := domain ++ " publishes MTA-STS enforce but plaintext was observed"
         domain := domain }]
    else if info.certOk = some false then
      [{ ruleId := "mta-sts-enforce-bad-cert", severity := "high"
         title := domain ++ " publishes MTA-STS enforce but the session cert failed validation"
         domain := domain }]
    else []
  else []

/-- DANE の finding。 -/
def daneMismatch (domain mx : String) : TransportFinding where
  ruleId := "dane-tlsa-mismatch"
  severity := "high"
  title := "Observed cert for " ++ mx ++ " does not match validated TLSA records"
  domain := domain
  mx := some mx

/-- MX 一つの finding。空の MX と空の証明書は無いものとして扱う。 -/
def daneFinding (domain : String) (info : SessionInfo) (mx : String) (res : TlsaResult) :
    Option TransportFinding :=
  if res.dnssec ≠ "secure" ∨ res.records = [] then none
  else if info.mxHost.any fun host => decide (host ≠ "" ∧ host ≠ mx) then none
  else match info.certDer.filter (· ≠ []) with
    | none => none
    | some certDer =>
      if res.records.any fun r => tlsaMatches net r certDer then none
      else some (daneMismatch domain mx)

/-- `evaluate_session`。 -/
def evaluateSession (domain : String) (info : SessionInfo) : List TransportFinding :=
  let posture := checkDomain net domain
  mtaStsFindings domain (posture.mtaSts.bind (·.mode)) info ++
    (posture.dane.getD Dict.empty).entries.filterMap fun e => daneFinding net domain info e.1 e.2

/-- `mismatch_for_session`。 -/
def mismatchForSession (domain : String) (usedTls : Bool) : Option TransportFinding :=
  (evaluateSession net domain { usedTls := usedTls }).head?

end CipherPost.Proactive
