import CipherPost.Parsing.HandshakeMessages
import CipherPost.Parsing.GreaseVersions

/-!
# handshake の後の bytes

TLS の部分の後ろに bytes が続いても、読めた record はそのまま残る。けれども `parse_tls_records` が途中で
例外を出すと、その手前で読めた record もみな捨てられ、handshake が見えなくなる。

* `Desynchronised`・`parseTlsRecords_ok_iff` — 例外の出る入力
* `parseTlsRecords_append` — 続きがあっても、読めた record は先頭に残る
* `analyze_hellos_iff` — 解析から二つの hello が得られるための条件
* `late_bytes_iff` — 続きのある session でも同じ hello が得られるための条件
-/

namespace CipherPost.Parsing

/-! ## 例外の出る入力 -/

/-- いくつかの record の後に、種類の知られない byte で始まる五 byte 以上が続く。 -/
def Desynchronised (data : Bytes) : Prop :=
  ∃ rs ct left, data = encodeRecords rs ++ ct :: left ∧ (∀ r ∈ rs, r.Valid) ∧ rs.length < 4096 ∧
    4 ≤ left.length ∧ ct.toNat ∉ [20, 21, 22, 23]

section
variable {data : Bytes}

theorem parseTlsRecords_ok_iff : (∃ rs, parseTlsRecords data = .ok rs) ↔ ¬Desynchronised data := by
  constructor
  · rintro ⟨rs', hok⟩ ⟨rs, ct, left, rfl, hrs, hlt, hfour, hct⟩
    have hparse := parseRecordsFrom_encode hrs (At.start (encodeRecords rs ++ ct :: left)) hlt.le
    obtain ⟨n, hn⟩ : ∃ n, 4096 - rs.length = n + 1 := ⟨4096 - rs.length - 1, by omega⟩
    have hat : At (encodeRecords rs ++ ct :: left) (0 + (encodeRecords rs).length) (ct :: left) :=
      (At.start _).skip rfl
    have hfive : ¬(ct :: left).length < 5 := by
      rw [List.length_cons]
      omega
    obtain ⟨_, v₁, v₀, l₁, l₀, body, hheader⟩ := exists_header (Nat.le_of_not_lt hfive)
    obtain ⟨rfl, rfl⟩ := List.cons.inj hheader
    rw [hn, parseRecordsFrom_header hat, if_pos hct] at hparse
    cases hparse.symm.trans hok
  · intro hsync
    cases hparse : parseTlsRecords data with
    | ok rs => exact ⟨rs, rfl⟩
    | error e => exact absurd (exists_of_parseRecordsFrom_error (At.start data) hparse) hsync

/-- 続きがあっても、読めた record は先頭に残る。 -/
theorem parseTlsRecords_append {rs rs' : List TlsRecord} {x : Bytes}
    (h : parseTlsRecords data = .ok rs) (h' : parseTlsRecords (data ++ x) = .ok rs') :
    ∃ more, rs' = rs ++ more := by
  obtain ⟨hvalid, hle, left, hdata, -⟩ := encode_parseRecordsFrom (At.start data) h
  have hat : At (data ++ x) 0 (encodeRecords rs ++ (left ++ x)) := by
    rw [← List.append_assoc, ← hdata]
    exact At.start _
  have hparse := (parseRecordsFrom_encode hvalid hat hle).symm.trans h'
  cases hmore : parseRecordsFrom (data ++ x) (4096 - rs.length) (0 + (encodeRecords rs).length) with
  | error e =>
    rw [hmore] at hparse
    cases hparse
  | ok more =>
    rw [hmore] at hparse
    exact ⟨more, (Except.ok.inj hparse).symm⟩

/-- 続きがあっても、空でない本体は同じである。 -/
theorem handshakeBody_append {rs : List TlsRecord} {t : Nat} {b : Bytes} (hb : b ≠ [])
    (h : (handshakeBody rs).get? t = some b) (more : List TlsRecord) :
    (handshakeBody (rs ++ more)).get? t = some b := by
  rw [handshakeBody_eq] at h ⊢
  rw [List.flatMap_append, keepAll, List.foldl_append]
  exact keepAll_of_some hb h

end

/-! ## 二つの hello -/

/-- その bytes から、ある種類の message の本体が読める。 -/
def Observes (data : Bytes) (t : Nat) (body : Bytes) : Prop :=
  ∃ rs, parseTlsRecords data = .ok rs ∧ (handshakeBody rs).get? t = some body

/-- 続きのある bytes の本体から同じ値が読めることは、例外の出ないことと同値である。 -/
theorem Observes.append_iff {α : Type} {parse : Bytes → Parse α} {a : α} {data body : Bytes} {t : Nat}
    (h : Observes data t body) (hne : body ≠ []) (hparse : parse body = .ok a) (x : Bytes) :
    (∃ b, Observes (data ++ x) t b ∧ parse b = .ok a) ↔ ¬Desynchronised (data ++ x) := by
  obtain ⟨rs, hrs, hget⟩ := h
  rw [← parseTlsRecords_ok_iff]
  constructor
  · exact fun ⟨_, ⟨rs', hrs', _⟩, _⟩ => ⟨rs', hrs'⟩
  · rintro ⟨rs', hrs'⟩
    obtain ⟨more, rfl⟩ := parseTlsRecords_append hrs hrs'
    exact ⟨body, ⟨rs ++ more, hrs', handshakeBody_append hne hget more⟩, hparse⟩

theorem parseBody_eq_some {α : Type} {parse : Bytes → Parse α} {o : Option Bytes} {a : α} :
    parseBody parse o = .ok (some a) ↔ ∃ body, o = some body ∧ parse body = .ok a := by
  cases o with
  | none => exact iff_of_false nofun fun ⟨_, h, _⟩ => nomatch h
  | some body =>
    have heq : parseBody parse (some body) = orOnParseError ((parse body).map some) none := rfl
    rw [heq]
    constructor
    · intro h
      refine ⟨body, rfl, ?_⟩
      cases hparse : parse body with
      | ok b =>
        rw [hparse] at h
        rw [Option.some.inj (Except.ok.inj h)]
      | error e =>
        rw [hparse] at h
        cases e <;> cases h
    · rintro ⟨_, hsome, hparse⟩
      rw [Option.some.inj hsome, hparse]
      rfl

/-- record の読めない bytes からは、本体も読めない。 -/
theorem observes_of_records {data : Bytes} {rs : List TlsRecord} {t : Nat} {body : Bytes}
    (hrs : orOnParseError (parseTlsRecords data) [] = .ok rs) :
    (handshakeBody rs).get? t = some body ↔ Observes data t body := by
  cases hparse : parseTlsRecords data with
  | ok rs' =>
    rw [hparse] at hrs
    obtain rfl : rs' = rs := Except.ok.inj hrs
    refine ⟨fun h => ⟨rs', hparse, h⟩, ?_⟩
    rintro ⟨rs, hrs, hget⟩
    rwa [Except.ok.inj (hparse.symm.trans hrs)]
  | error e =>
    rw [hparse] at hrs
    cases e with
    | index => cases hrs
    | tlsParse message =>
      obtain rfl : [] = rs := Except.ok.inj hrs
      refine iff_of_false nofun ?_
      rintro ⟨rs, hrs, -⟩
      cases hparse.symm.trans hrs

theorem clientHelloOf_eq_some {sess : Session} {ch : ClientHelloInfo} :
    clientHelloOf sess = .ok (some ch) ↔
      ∃ body, Observes sess.tlsSegment 1 body ∧ parseClientHello body = .ok ch := by
  obtain ⟨rs, hrs⟩ := returns_orOnParseError (d := []).mpr
    (safe_parseRecordsFrom sess.tlsSegment 4096 0)
  have heq : clientHelloOf sess = parseBody parseClientHello ((handshakeBody rs).get? 1) := by
    unfold clientHelloOf
    rw [show orOnParseError (parseTlsRecords sess.tlsSegment) [] = .ok rs from hrs]
    rfl
  rw [heq, parseBody_eq_some]
  exact exists_congr fun body => and_congr_left' (observes_of_records hrs)

theorem serverSideOf_eq_some {sess : Session} {sh : ServerHelloInfo} :
    (∃ certificate, serverSideOf sess = .ok (some sh, certificate)) ↔
      ∃ body, Observes sess.tlsServerSegment 2 body ∧ parseServerHello body = .ok sh := by
  obtain ⟨rs, hrs⟩ := returns_orOnParseError (d := []).mpr
    (safe_parseRecordsFrom sess.tlsServerSegment 4096 0)
  have heq : (∃ certificate, serverSideOf sess = .ok (some sh, certificate)) ↔
      parseBody parseServerHello ((handshakeBody rs).get? 2) = .ok (some sh) := by
    obtain ⟨⟨sh', certificate⟩, hside⟩ := returns_serverSideOf sess
    have hhello := hside
    unfold serverSideOf at hhello
    obtain ⟨rs', hrs', hhello⟩ := exists_of_bind hhello
    obtain rfl : rs = rs' := Except.ok.inj (hrs.symm.trans hrs')
    obtain ⟨sh'', hparse, hhello⟩ := exists_of_bind hhello
    obtain ⟨_, -, hhello⟩ := exists_of_bind hhello
    obtain ⟨rfl, rfl⟩ := Prod.mk.inj (Except.ok.inj hhello)
    rw [hside, hparse]
    constructor
    · rintro ⟨_, h⟩
      rw [(Prod.mk.inj (Except.ok.inj h)).1]
    · intro h
      exact ⟨_, by rw [Except.ok.inj h]⟩
  rw [heq, parseBody_eq_some]
  exact exists_congr fun body => and_congr_left' (observes_of_records hrs)

/-! ## 解析 -/

theorem withHello_hellos (sa : SessionAnalysis) (ch : Option ClientHelloInfo)
    (sh : Option ServerHelloInfo) :
    (sa.withHello ch sh).clientHello = ch ∧ (sa.withHello ch sh).serverHello = sh := by
  obtain ⟨version, name, cipher, cipherMeta, iana, strength, h⟩ := withHello_rest sa ch sh
  rw [h]
  exact ⟨rfl, rfl⟩

theorem assemble_hellos (lib : Analyzer) (sess : Session) (ch : Option ClientHelloInfo)
    (sh : Option ServerHelloInfo) (certificate : Option CertificateInfo) (certs : List CertAnalysis) :
    (assemble lib sess ch sh certificate certs).clientHello = ch ∧
      (assemble lib sess ch sh certificate certs).serverHello = sh := by
  obtain ⟨hch, hsh⟩ := withHello_hellos (startAnalysis sess) ch sh
  obtain ⟨certs', result, error, hcerts⟩ :=
    withCerts_rest lib ((startAnalysis sess).withHello ch sh) certificate certs
  simp only [assemble, hcerts]
  exact ⟨hch, hsh⟩

/-- rule は hello を変えない。 -/
theorem runRules_hellos (lib : Analyzer) (now : Int) (sa : SessionAnalysis) :
    (runRules (lib.withRules now) sa).clientHello = sa.clientHello ∧
      (runRules (lib.withRules now) sa).serverHello = sa.serverHello := by
  have hfacts := facts_runRules now lib sa
  generalize runRules (lib.withRules now) sa = t at hfacts ⊢
  have hch : t.facts.clientHello = sa.facts.clientHello := by rw [hfacts]
  have hsh : t.facts.serverHello = sa.facts.serverHello := by rw [hfacts]
  exact ⟨hch, hsh⟩

/-- 解析から得られる二つの hello は、二つの側から読めたものである。 -/
theorem analyze_hellos_iff (lib : Analyzer) (now : Int) {sess : Session} {ch : ClientHelloInfo}
    {sh : ServerHelloInfo} :
    (∃ sa, analyzeSession (lib.withRules now) sess = .ok sa ∧ sa.clientHello = some ch ∧
        sa.serverHello = some sh) ↔
      clientHelloOf sess = .ok (some ch) ∧
        (∃ certificate, serverSideOf sess = .ok (some sh, certificate)) ∧
        CertificatesReadable lib sess := by
  constructor
  · rintro ⟨sa, hsa, hch, hsh⟩
    obtain ⟨sa₀, hprep, rfl⟩ := analyzeSession_eq_ok_iff.mp hsa
    rw [(runRules_hellos lib now sa₀).1] at hch
    rw [(runRules_hellos lib now sa₀).2] at hsh
    unfold prepared at hprep
    split at hprep
    · obtain rfl : startAnalysis sess = sa₀ := Except.ok.inj hprep
      cases hch
    · obtain ⟨ch', hclient, hprep⟩ := exists_of_bind hprep
      obtain ⟨⟨sh', certificate⟩, hside, hprep⟩ := exists_of_bind hprep
      obtain ⟨certs, hcerts, hprep⟩ := exists_of_bind hprep
      obtain rfl := Except.ok.inj hprep
      obtain ⟨hch', hsh'⟩ := assemble_hellos lib sess ch' sh' certificate certs
      rw [hclient, hside, ← hch, ← hsh, hch', hsh']
      exact ⟨rfl, ⟨certificate, rfl⟩, (returns_certificates lib hside).mp ⟨certs, hcerts⟩⟩
  · rintro ⟨hclient, ⟨certificate, hside⟩, hread⟩
    obtain ⟨certs, hcerts⟩ := (returns_certificates lib hside).mpr hread
    have hprep := prepared_of_ok lib (tlsSegment_ne_nil hclient) hclient hside
    rw [hcerts] at hprep
    obtain ⟨hch, hsh⟩ := assemble_hellos lib sess (some ch) (some sh) certificate certs
    refine ⟨_, analyzeSession_eq_ok_iff.mpr ⟨_, hprep, rfl⟩, ?_, ?_⟩
    · exact (runRules_hellos lib now _).1.trans hch
    · exact (runRules_hellos lib now _).2.trans hsh

/-- 二つの TLS の部分に続きを足した session。 -/
def Session.extend (sess : Session) (x y : Bytes) : Session :=
  { sess with
    tlsSegment := sess.tlsSegment ++ x, tlsServerSegment := sess.tlsServerSegment ++ y }

theorem parseClientHello_nil : ∀ ch, parseClientHello [] ≠ .ok ch := fun _ => nofun

theorem parseServerHello_nil : ∀ sh, parseServerHello [] ≠ .ok sh := fun _ => nofun

/--
**二つの hello の得られた session の TLS の部分に何が続いても、同じ hello が得られることは、どちらの側でも
知られない種類の header に着かず、読み込める証明書の属性が読めることと同値である。**
-/
theorem late_bytes_iff (lib : Analyzer) (now : Int) {sess : Session} {sa : SessionAnalysis}
    (hsa : analyzeSession (lib.withRules now) sess = .ok sa) {ch : ClientHelloInfo}
    (hch : sa.clientHello = some ch) {sh : ServerHelloInfo} (hsh : sa.serverHello = some sh)
    (x y : Bytes) :
    (∃ sa', analyzeSession (lib.withRules now) (sess.extend x y) = .ok sa' ∧
        sa'.clientHello = some ch ∧ sa'.serverHello = some sh) ↔
      ¬Desynchronised (sess.tlsSegment ++ x) ∧ ¬Desynchronised (sess.tlsServerSegment ++ y) ∧
        CertificatesReadable lib (sess.extend x y) := by
  obtain ⟨hclient, hserver, -⟩ := (analyze_hellos_iff lib now).mp ⟨sa, hsa, hch, hsh⟩
  obtain ⟨cbody, hcobs, hcparse⟩ := clientHelloOf_eq_some.mp hclient
  obtain ⟨sbody, hsobs, hsparse⟩ := serverSideOf_eq_some.mp hserver
  have hcne : cbody ≠ [] := by
    rintro rfl
    exact parseClientHello_nil ch hcparse
  have hsne : sbody ≠ [] := by
    rintro rfl
    exact parseServerHello_nil sh hsparse
  rw [analyze_hellos_iff, clientHelloOf_eq_some, serverSideOf_eq_some,
    ← hcobs.append_iff hcne hcparse x, ← hsobs.append_iff hsne hsparse y]
  rfl

theorem certificatesReadable_bare (sess : Session) : CertificatesReadable bareAnalyzer sess :=
  fun _ _ _ _ _ => nofun

/-- 二つの hello を交わした session。 -/
theorem analyze_helloSession :
    ∃ sa, analyzeSession (bareAnalyzer.withRules 0) (helloSession [0x0303]) = .ok sa ∧
      sa.clientHello = some (helloInfo [0x0303]) ∧ sa.serverHello = some sentinelInfo :=
  (analyze_hellos_iff bareAnalyzer 0).mpr ⟨clientHelloOf_helloSession _ (by decide),
    ⟨none, serverSideOf_helloSession⟩, certificatesReadable_bare _⟩

/-- 後に application data が続いても、hello は残る。 -/
theorem hello_kept :
    ∃ sa, analyzeSession (bareAnalyzer.withRules 0)
        ((helloSession [0x0303]).extend [23, 3, 3, 0, 1, 0] [23, 3]) = .ok sa ∧
      sa.clientHello = some (helloInfo [0x0303]) ∧ sa.serverHello = some sentinelInfo := by
  obtain ⟨sa, hsa, hch, hsh⟩ := analyze_helloSession
  refine (late_bytes_iff bareAnalyzer 0 hsa hch hsh _ _).mpr ⟨?_, ?_, certificatesReadable_bare _⟩
  · exact parseTlsRecords_ok_iff.mp ⟨[⟨22, 0x0303, (helloSession [0x0303]).tlsSegment.drop 5⟩,
      ⟨23, 0x0303, [0]⟩], by decide +kernel⟩
  · exact parseTlsRecords_ok_iff.mp
      ⟨[⟨22, 0x0303, (helloSession [0x0303]).tlsServerSegment.drop 5⟩], by decide +kernel⟩

/-- 種類の知られない五 byte が続くと、client の hello が失われる。 -/
theorem hello_erased :
    (∃ sa, analyzeSession (bareAnalyzer.withRules 0) (helloSession [0x0303]) = .ok sa ∧
      sa.clientHello = some (helloInfo [0x0303]) ∧ sa.serverHello = some sentinelInfo) ∧
    ¬∃ sa, analyzeSession (bareAnalyzer.withRules 0)
        ((helloSession [0x0303]).extend [0, 0, 0, 0, 0] []) = .ok sa ∧
      sa.clientHello = some (helloInfo [0x0303]) ∧ sa.serverHello = some sentinelInfo := by
  refine ⟨analyze_helloSession, fun h => ?_⟩
  exact absurd ((analyze_hellos_iff bareAnalyzer 0).mp h).1 (by decide +kernel)

end CipherPost.Parsing
