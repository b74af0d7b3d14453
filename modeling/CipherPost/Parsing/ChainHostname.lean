import CipherPost.Infra.DnsName
import CipherPost.Parsing.RunRules

/-!
# chain の検証と host の名前

`app/parsing/certificates.py` の `validate_chain`。証明書の読み込みと path の検証は `ChainLib` の引数である。host の
名前は、葉の subjectAltName の DNS 名の list に文字どおりに有るかで確かめる。

* `ChainLib.validateChain` — `validate_chain`
* `Verifies` — path の検証を通る chain
* `mismatch_iff` — 通った chain で `hostname-mismatch` になる条件
* `mismatch_agrees_iff` — それが RFC 6125 の照合と一致する条件
* `untrusted_of_wildcard`・`untrusted_of_letter_case` — 合う証明書の server の finding
* `chainResult_withCerts` — `analyze_session` の中の `validate_chain`
-/

namespace CipherPost.Parsing

/-- `X509StoreContextError` の `args`。 -/
structure StoreContextError where
  code : String
  message : Option String := none

/-- `verify_certificate` の例外。 -/
inductive VerifyError where
  | storeContext (e : StoreContextError)
  | other (message : String)

/-- 証明書の library と、`validate_chain` の読む環境。 -/
structure ChainLib (Store Cert Leaf : Type) where
  /-- `HAS_OPENSSL`。 -/
  hasOpenssl : Bool := true
  /-- 環境変数 `SSL_CERT_FILE`。 -/
  sslCertFile : Option String := none
  /-- bundle の file を読み、`load_pem_x509_certificates` に掛けた DER。 -/
  readPem : String → Option (List Bytes)
  /-- `ossl.load_certificate`。 -/
  loadCertificate : Bytes → Except String Cert
  newStore : Store
  addCert : Store → Cert → Except String Store
  /-- `X509StoreContext(store, leaf, chain).verify_certificate()`。 -/
  verifyCertificate : Store → Cert → List Cert → Except VerifyError Unit
  /-- `x509.load_der_x509_certificate`。 -/
  loadDer : Bytes → Option Leaf
  /-- subjectAltName の DNS 名。拡張の無いときや読めないときの例外は `none` である。 -/
  dnsNames : Leaf → Option (List (List Char))

/-- 捕まえた例外の結果。 -/
def configError (message : String) : String × String :=
  ("config-error", String.ofList (message.toList.take 256))

/-- path の検証の例外の結果。 -/
def pathVerdict : VerifyError → String × String
  | .other message => configError message
  | .storeContext e =>
    let detail := e.message.getD e.code
    let contains (text : String) := text.toList <:+: DnsName.lower detail.toList
    if contains "expired" then ("expired", detail)
    else if contains "not yet valid" then ("not-yet-valid", detail)
    else if contains "unable to get local issuer certificate" then ("untrusted", detail)
    else if contains "unable to get issuer certificate" then ("untrusted", detail)
    else if contains "self signed certificate" then ("untrusted", detail)
    else if contains "signature algorithm" then ("invalid-sig", detail)
    else if contains "signature" then ("invalid-sig", detail)
    else ("untrusted", detail ++ " (err code " ++ e.code ++ ")")

namespace ChainLib

variable {Store Cert Leaf : Type} (lib : ChainLib Store Cert Leaf)

/-- `_load_trust_bundle`。 -/
def loadTrustBundle (path : Option String) : Option (List Cert) :=
  let bundle := path.getD <|
    match lib.sslCertFile with
    | none | some "" => "/etc/ssl/certs/ca-certificates.crt"
    | some file => file
  match lib.readPem bundle with
  | none => none
  | some ders => (ders.mapM lib.loadCertificate).toOption

/-- path の検証まで。先に決まる結果は `error` で返す。 -/
def verifyPath (derCerts : List Bytes) (trustPath : Option String) :
    Except (String × String) Unit := do
  let trust := (lib.loadTrustBundle trustPath).getD []
  let store ← (trust.foldlM lib.addCert lib.newStore).mapError configError
  if trust = [] then throw ("config-error", "no trust anchors could be loaded")
  match ← (derCerts.mapM lib.loadCertificate).mapError configError with
  | [] => throw ("parse-error", "empty chain")
  | leaf :: chain => (lib.verifyCertificate store leaf chain).mapError pathVerdict

/-- 葉の証明書の DNS 名。 -/
def sans (leaf : Leaf) : List (List Char) := (lib.dnsNames leaf).getD []

/-- host の名前を確かめる。`leaf` は読めた葉の証明書である。 -/
def hostVerdict (leaf : Option Leaf) (host : List Char) : String × String :=
  match leaf with
  | none => ("parse-error", "could not check hostname")
  | some leaf =>
    if host ∈ lib.sans leaf then ("ok", "verified against trust store")
    else ("hostname-mismatch", String.ofList host ++ " not in SANs")

/-- `validate_chain`。 -/
def validateChain (derCerts : List Bytes) (trustPath : Option String)
    (hostname : Option (List Char)) : String × String :=
  if !lib.hasOpenssl then ("config-error", "pyOpenSSL not available")
  else
    match derCerts with
    | [] => ("parse-error", "empty chain")
    | der :: _ =>
      match lib.verifyPath derCerts trustPath with
      | .error verdict => verdict
      | .ok () =>
        match hostname with
        | none | some [] => ("ok", "verified against trust store")
        | some host => lib.hostVerdict (lib.loadDer der) host

/-! ## 検証を通る chain -/

/-- chain が path の検証を通る。 -/
structure Verifies (derCerts : List Bytes) (trustPath : Option String) : Prop where
  openssl : lib.hasOpenssl = true
  nonempty : derCerts ≠ []
  path : lib.verifyPath derCerts trustPath = .ok ()

/-- 葉の証明書が読める。 -/
def leafOf (derCerts : List Bytes) : Option Leaf := derCerts.head?.bind lib.loadDer

/-- 葉の証明書の DNS 名。読めない葉には無い。 -/
def leafNames (derCerts : List Bytes) : List (List Char) :=
  ((lib.leafOf derCerts).map lib.sans).getD []

/-- host に合う名前が、葉の証明書に有る。 -/
def Covers (derCerts : List Bytes) (host : List Char) : Prop :=
  ∃ name ∈ lib.leafNames derCerts, DnsName.Matches name host

instance (derCerts : List Bytes) (host : List Char) : Decidable (lib.Covers derCerts host) :=
  inferInstanceAs (Decidable (∃ name ∈ _, _))

section
variable {lib} {derCerts : List Bytes} {trustPath : Option String} {host : List Char}

/-- 名前の有る葉は読めている。 -/
theorem leafOf_isSome {name : List Char} (h : name ∈ lib.leafNames derCerts) :
    (lib.leafOf derCerts).isSome := by
  unfold leafNames at h
  cases hleaf : lib.leafOf derCerts with
  | none =>
    rw [hleaf] at h
    cases h
  | some leaf => rfl

/-- 文字どおりの名前は合う。 -/
theorem covers_of_mem (h : host ∈ lib.leafNames derCerts) : lib.Covers derCerts host :=
  ⟨host, h, DnsName.matches_self host⟩

/-- 検証を通った chain の結果は、葉の証明書と host で決まる。 -/
theorem validateChain_eq (h : lib.Verifies derCerts trustPath) (hhost : host ≠ []) :
    lib.validateChain derCerts trustPath (some host) =
      lib.hostVerdict (lib.leafOf derCerts) host := by
  cases derCerts with
  | nil => exact absurd rfl h.nonempty
  | cons der ders =>
    obtain ⟨c, cs, rfl⟩ := List.exists_cons_of_ne_nil hhost
    unfold validateChain
    rw [h.openssl, Bool.not_true, if_neg Bool.false_ne_true]
    dsimp only
    rw [h.path]
    rfl

/-- 読めた葉の証明書の結果。 -/
theorem hostVerdict_fst {leaf : Leaf} (hleaf : lib.leafOf derCerts = some leaf) :
    (lib.hostVerdict (lib.leafOf derCerts) host).1 =
      if host ∈ lib.leafNames derCerts then "ok" else "hostname-mismatch" := by
  have hnames : lib.leafNames derCerts = lib.sans leaf := by rw [leafNames, hleaf]; rfl
  rw [hleaf, hnames, hostVerdict]
  split <;> rfl

/-- 空の host は確かめない。 -/
theorem validateChain_nil (h : lib.Verifies derCerts trustPath) :
    (lib.validateChain derCerts trustPath (some [])).1 = "ok" := by
  cases derCerts with
  | nil => exact absurd rfl h.nonempty
  | cons der ders =>
    unfold validateChain
    rw [h.openssl, Bool.not_true, if_neg Bool.false_ne_true]
    dsimp only
    rw [h.path]

/-- 検証を通った chain が `hostname-mismatch` になるのは、host が名前の list に無いときである。 -/
theorem mismatch_iff (h : lib.Verifies derCerts trustPath) :
    (lib.validateChain derCerts trustPath (some host)).1 = "hostname-mismatch" ↔
      host ≠ [] ∧ (lib.leafOf derCerts).isSome ∧ host ∉ lib.leafNames derCerts := by
  by_cases hhost : host = []
  · rw [hhost, validateChain_nil h]
    exact iff_of_false (by decide) fun hc => hc.1 rfl
  · rw [validateChain_eq h hhost]
    cases hleaf : lib.leafOf derCerts with
    | none => exact iff_of_false (by rw [hostVerdict]; decide) fun hc => Bool.false_ne_true hc.2.1
    | some leaf =>
      rw [← hleaf, hostVerdict_fst hleaf]
      by_cases hmem : host ∈ lib.leafNames derCerts
      · rw [if_pos hmem]
        exact iff_of_false (by decide) fun hc => hc.2.2 hmem
      · rw [if_neg hmem]
        exact iff_of_true rfl ⟨hhost, by rw [hleaf]; rfl, hmem⟩

/--
**照合と一致する条件。** 検証を通った chain で、`hostname-mismatch` になるのがちょうど合う名前の無いときであるのは、
合う名前が有るなら host が空か文字どおりに名前の list に有り、無いなら host が空でなく葉の証明書が読めるときである。
-/
theorem mismatch_agrees_iff (h : lib.Verifies derCerts trustPath) :
    ((lib.validateChain derCerts trustPath (some host)).1 = "hostname-mismatch" ↔
        ¬lib.Covers derCerts host) ↔
      if lib.Covers derCerts host then host = [] ∨ host ∈ lib.leafNames derCerts
      else host ≠ [] ∧ (lib.leafOf derCerts).isSome := by
  rw [mismatch_iff h]
  by_cases hcovers : lib.Covers derCerts host
  · rw [if_pos hcovers, iff_false_right (not_not_intro hcovers)]
    constructor
    · intro hnot
      by_contra hcon
      obtain ⟨hhost, hmem⟩ := not_or.mp hcon
      obtain ⟨name, hname, -⟩ := hcovers
      exact hnot ⟨hhost, leafOf_isSome hname, hmem⟩
    · rintro (hhost | hmem) hc
      · exact hc.1 hhost
      · exact hc.2.2 hmem
  · rw [if_neg hcovers, iff_true_right hcovers]
    constructor
    · exact fun hc => ⟨hc.1, hc.2.1⟩
    · exact fun hc => ⟨hc.1, hc.2, fun hmem => hcovers (covers_of_mem hmem)⟩

/-! ## finding -/

/-- 葉の証明書の読めた session では、chain の finding が無いのは、host が名前の list に有るときである。 -/
theorem emitted_eq_nil_iff (h : lib.Verifies derCerts trustPath) (hhost : host ≠ [])
    (hleaf : (lib.leafOf derCerts).isSome) {sa : SessionAnalysis} (hskip : skipsCerts sa = false)
    (hchain : sa.chainResult = (lib.validateChain derCerts trustPath (some host)).1) :
    emitted ruleChainUntrusted sa = [] ↔ host ∈ lib.leafNames derCerts := by
  obtain ⟨leaf, hleaf⟩ := Option.isSome_iff_exists.mp hleaf
  rw [certRule_ruleChainUntrusted.fires sa hskip, hchain, validateChain_eq h hhost,
    hostVerdict_fst hleaf]
  by_cases hmem : host ∈ lib.leafNames derCerts
  · rw [if_pos hmem]
    exact iff_of_true (by decide) hmem
  · rw [if_neg hmem]
    exact iff_of_false (by decide) hmem

/-- wildcard の名前を持つ server は、その名前の下の host では、名前が合っても finding になる。 -/
theorem untrusted_of_wildcard (h : lib.Verifies derCerts trustPath)
    {sa : SessionAnalysis} {label rest : List Char} (hlabel : label ≠ []) (hdot : '.' ∉ label)
    (hrest : rest ≠ []) (hname : "*.".toList ++ rest ∈ lib.leafNames derCerts)
    (hmem : label ++ '.' :: rest ∉ lib.leafNames derCerts) (hskip : skipsCerts sa = false)
    (hchain : sa.chainResult =
      (lib.validateChain derCerts trustPath (some (label ++ '.' :: rest))).1) :
    lib.Covers derCerts (label ++ '.' :: rest) ∧ emitted ruleChainUntrusted sa ≠ [] := by
  refine ⟨⟨_, hname, DnsName.matches_wildcard hlabel hdot hrest⟩, fun hnil => hmem ?_⟩
  exact (emitted_eq_nil_iff h (by simp) (leafOf_isSome hname) hskip hchain).mp hnil

/-- 大文字と小文字だけの違う host でも、名前が合うのに finding になる。 -/
theorem untrusted_of_letter_case (h : lib.Verifies derCerts trustPath) (hhost : host ≠ [])
    {sa : SessionAnalysis} {name : List Char} (hlower : DnsName.lower name = DnsName.lower host)
    (hname : name ∈ lib.leafNames derCerts) (hmem : host ∉ lib.leafNames derCerts)
    (hskip : skipsCerts sa = false)
    (hchain : sa.chainResult = (lib.validateChain derCerts trustPath (some host)).1) :
    lib.Covers derCerts host ∧ emitted ruleChainUntrusted sa ≠ [] := by
  refine ⟨⟨name, hname, DnsName.matches_of_lower_eq hlower⟩, fun hnil => hmem ?_⟩
  exact (emitted_eq_nil_iff h hhost (leafOf_isSome hname) hskip hchain).mp hnil

end

end ChainLib

/-- `validate_chain` をこの library で走らせる解析。 -/
def Analyzer.withChainLib {Store Cert Leaf : Type} (analyzer : Analyzer)
    (lib : ChainLib Store Cert Leaf) : Analyzer :=
  { analyzer with validateChain := lib.validateChain }

/-- 証明書の有る session の結果は、ClientHello の SNI を host とした `validate_chain` の結果である。 -/
theorem chainResult_withCerts {Store Cert Leaf : Type} (analyzer : Analyzer)
    (lib : ChainLib Store Cert Leaf) {sa : SessionAnalysis} {host : List Char}
    (hsni : sa.clientHello.bind (·.sni) = some host) (certificate : CertificateInfo)
    {certs : List CertAnalysis} (hcerts : certs ≠ []) :
    (sa.withCerts (analyzer.withChainLib lib) (some certificate) certs).chainResult =
      (lib.validateChain certificate.rawCerts analyzer.trustStore (some host)).1 := by
  obtain ⟨cert, certs, rfl⟩ := List.exists_cons_of_ne_nil hcerts
  rw [← hsni]
  rfl

/-! ## 照合と一致しない host -/

/-- 名前 `names` の証明書を一枚だけ信頼する。 -/
def sampleChainLib (names : List (List Char)) : ChainLib (List Bytes) Bytes (List (List Char)) where
  readPem _ := some [[1]]
  loadCertificate der := .ok der
  newStore := []
  addCert store cert := .ok (store ++ [cert])
  verifyCertificate store leaf _ :=
    if store.contains leaf then .ok ()
    else .error (.storeContext { code := "unable to get local issuer certificate" })
  loadDer _ := some names
  dnsNames names := some names

theorem verifies_sampleChainLib (names : List (List Char)) :
    (sampleChainLib names).Verifies [[1]] none := ⟨rfl, List.cons_ne_nil _ _, rfl⟩

/-- 文字どおりの host では、照合と一致する。 -/
theorem mismatch_agrees_iff_verbatim :
    ((sampleChainLib ["mail.example.com".toList]).validateChain [[1]] none
        (some "mail.example.com".toList)).1 = "hostname-mismatch" ↔
      ¬(sampleChainLib ["mail.example.com".toList]).Covers [[1]] "mail.example.com".toList :=
  have hverifies := verifies_sampleChainLib ["mail.example.com".toList]
  (ChainLib.mismatch_agrees_iff hverifies).mpr (by decide)

/-- wildcard の証明書の server は、合う名前が有っても `hostname-mismatch` になる。 -/
theorem mismatch_disagrees_wildcard :
    ¬ ∀ (lib : ChainLib (List Bytes) Bytes (List (List Char))) (derCerts : List Bytes)
        (trustPath : Option String) (host : List Char), lib.Verifies derCerts trustPath →
        ((lib.validateChain derCerts trustPath (some host)).1 = "hostname-mismatch" ↔
          ¬lib.Covers derCerts host) := by
  intro h
  have hwild := h (sampleChainLib ["*.example.com".toList]) [[1]] none "mail.example.com".toList
    (verifies_sampleChainLib _)
  exact absurd (hwild.mp (by decide)) (by decide)

end CipherPost.Parsing
