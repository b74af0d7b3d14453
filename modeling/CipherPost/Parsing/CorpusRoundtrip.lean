import CipherPost.Parsing.CorpusBytes
import CipherPost.Parsing.CorpusStreams
import CipherPost.Parsing.RunRules

/-!
# 合成した session の読み戻し

`generate_session` の packet を `analyze_pcap` に渡すと、設定どおりの解析が一つ返る。

* `reconstruct_sayAll` — builder の packet からは、話した bytes の session が一つできる
* `Carries` — handshake の message の並びを運ぶ record の列
* `Opening` — STARTTLS までの平文
* `Spoken` — TLS の対話が運ぶ handshake
* `Matches` — 解析と正解の記録の一致
-/

namespace CipherPost.Parsing.Corpus

open Agent Live

/-! ## session -/

/-- 端点の組の接続は、どちらかの端点から始まる。 -/
theorem Ends.eq {src dst : Ip4} {sport dport : Nat} {k : Key} {c : Bool}
    (h : Ends src dst sport dport k c) :
    k = if c then ⟨addrText src, sport, addrText dst, dport⟩
      else ⟨addrText dst, dport, addrText src, sport⟩ := by
  have hclient := h.clientA
  have hserver := h.serverA
  rcases key_eq_some h.client with rfl | rfl
  · have hc : c = true := by simpa using hclient.symm
    rw [hc]
    rfl
  · have hc : c = false := by simpa using hserver.symm
    rw [hc]
    rfl

/-- mail の port を持つ端点が server である。 -/
theorem Heard.clientA {src dst : Ip4} {sport dport : Nat} {k : Key} {c : Bool}
    {client server : Bytes} {st : Stream} (h : Heard k c client server st)
    (hends : Ends src dst sport dport k c) (hsport : PORT_TO_PROTO.lookup sport = none)
    (hdport : (PORT_TO_PROTO.lookup dport).isSome = true) : st.clientA = c := by
  have hk := hends.eq
  have hport : dport ≠ sport := fun heq => by rw [heq, hsport] at hdport; cases hdport
  unfold Stream.clientA Stream.clientIsA
  rw [h.synByA, h.synByB, h.portA, h.portB, h.ipA, h.ipB, hk]
  cases c with
  | true => simp [hsport, hdport]
  | false => simp [hsport, hdport, hport.symm]

/-- port で決まる protocol は分かっている。 -/
theorem known_of_lookup {port : Nat} {protocol : Protocol}
    (h : PORT_TO_PROTO.lookup port = some protocol) : protocol ≠ .unknown := by
  obtain ⟨l₁, l₂, htable, -⟩ := List.lookup_eq_some_iff.mp h
  have hall : ∀ e ∈ PORT_TO_PROTO, e.2 ≠ .unknown := by decide
  exact hall (port, protocol) (htable ▸ List.mem_append_right _ List.mem_cons_self)

/-- builder の端点の、平文と TLS に分ける前の session。 -/
def StreamBuilder.opened (b : StreamBuilder) (protocol : Protocol) (ts : Nat) : Session where
  protocol := protocol
  fiveTuple := (addrText b.src).text ++ ":" ++ toString b.sport ++ "->" ++ (addrText b.dst).text ++
    ":" ++ toString b.dport
  clientIp := (addrText b.src).text
  serverIp := (addrText b.dst).text
  clientPort := b.sport
  serverPort := b.dport
  startTs := (ts : Rat) / 1000000
  portBased := true

/-- 話した bytes を持つ stream の session。 -/
theorem Heard.session {b : StreamBuilder} {k : Key} {c : Bool} {client server : Bytes} {st : Stream}
    (h : Heard k c client server st) (hends : Ends b.src b.dst b.sport b.dport k c)
    (hsport : PORT_TO_PROTO.lookup b.sport = none) {protocol : Protocol}
    (hdport : PORT_TO_PROTO.lookup b.dport = some protocol) :
    st.session = some (assignTlsSegments (b.opened protocol st.firstTs) client server) := by
  have hA := h.clientA hends hsport (by rw [hdport]; rfl)
  have hclient : st.clientBytes = client := by rw [Stream.clientBytes, hA, h.client]
  have hserver : st.serverBytes = server := by rw [Stream.serverBytes, hA, h.server]
  have hopen : st.openSession = { b.opened protocol st.firstTs with
      protocol := .unknown, portBased := false } := by
    unfold Stream.openSession
    rw [hA, h.ipA, h.portA, h.ipB, h.portB, hends.eq]
    cases c <;> rfl
  have hdetect : detectProtocol st.openSession.serverPort client server = (protocol, true) := by
    rw [hopen]
    show detectProtocol b.dport client server = _
    rw [detectProtocol, hdport]
  unfold Stream.session Stream.closeSession
  rw [hclient, hserver, hdetect]
  simp only
  rw [if_neg (known_of_lookup hdport), hopen]
  rfl

/-- **話し終えた builder の file からは、話した bytes を平文と TLS に分けた session が一つできる。** -/
theorem reconstruct_sayAll {b b' : StreamBuilder} (hfresh : b.Fresh)
    (hsport : PORT_TO_PROTO.lookup b.sport = none) {protocol : Protocol}
    (hdport : PORT_TO_PROTO.lookup b.dport = some protocol) {talks : List Talk}
    (h : b.sayAll (talks ++ [.fin]) = some b') :
    ∃ ts, reconstructSessions b'.packets = [assignTlsSegments (b.opened protocol ts)
      (talks.flatMap (Talk.clientBytes b.fragSize)) (talks.flatMap Talk.serverBytes)] := by
  have hports : ¬(addrText b.src = addrText b.dst ∧ b.sport = b.dport) := fun heq => by
    rw [heq.2, hdport] at hsport
    cases hsport
  obtain ⟨k, c, st, hends, hheard, hcomplete, hentries⟩ := exists_finished hfresh hports h
  refine ⟨st.firstTs, ?_⟩
  rw [reconstructSessions, StreamAssembler.emit, hentries, List.filterMap_cons, hcomplete, if_pos rfl,
    hheard.session hends hsport hdport]
  rfl

/-! ## 平文 -/

/-- STARTTLS の前に client の話す行と、その命令の行。 -/
def upgradeLines (protocol : Protocol) : List Line × Line :=
  if protocol = .smtp then ([⟨ascii "EHLO client.example.com", by decide +kernel⟩], upperLine)
  else if protocol = .imap then ([⟨ascii "a001 CAPABILITY", by decide +kernel⟩],
    ⟨ascii "a002 STARTTLS", by decide +kernel⟩)
  else ([], ⟨ascii "STLS", by decide +kernel⟩)

/-- STARTTLS までの client の平文。 -/
def upgradeClient (protocol : Protocol) : Bytes :=
  (starttlsTalks protocol).flatMap (Talk.clientBytes none)

/-- STARTTLS までの、banner を除く server の平文。 -/
def upgradeServer (protocol : Protocol) : Bytes := (starttlsTalks protocol).flatMap Talk.serverBytes

theorem upgradeClient_eq (protocol : Protocol) : upgradeClient protocol =
    encodeLines ((upgradeLines protocol).1 ++ [(upgradeLines protocol).2]) := by
  cases protocol <;> decide +kernel

/-- 命令の語は、命令の行にだけ現れる。 -/
theorem upgradeLines_command : ∀ {protocol : Protocol} {cmd : Bytes},
    starttlsCommand protocol = some cmd →
    (∀ l ∈ (upgradeLines protocol).1, ¬cmd <:+: l.bytes) ∧
      cmd <:+: (upgradeLines protocol).2.bytes
  | .smtp, _, rfl | .imap, _, rfl | .pop3, _, rfl => by decide +kernel

/-- 命令の行の直後に record が続けば、そこで TLS が始まる。 -/
theorem starttlsTransition_upgrade {protocol : Protocol} (hknown : protocol ≠ .unknown)
    {rs : List TlsRecord} (hne : rs ≠ []) (hrs : ∀ r ∈ rs, r.Recognized) :
    starttlsTransition protocol (upgradeClient protocol ++ encodeRecords rs) =
      some (upgradeClient protocol).length := by
  obtain ⟨r, rs, rfl⟩ := List.exists_cons_of_ne_nil hne
  obtain ⟨cmd, hcmd⟩ : ∃ cmd, starttlsCommand protocol = some cmd := by
    cases protocol with
    | unknown => exact absurd rfl hknown
    | _ => exact ⟨_, rfl⟩
  obtain ⟨hcr, hlf⟩ := not_mem_starttlsCommand hcmd
  refine starttlsTransition_eq_some.mpr ⟨?_, ?_, ?_⟩
  · rw [findStarttlsOffset_eq, hcmd, Option.bind_some, upgradeClient_eq]
    exact (commandEnd_eq_iff hcr hlf _ _ _).mpr (upgradeLines_command hcmd)
  · rw [List.length_append, encodeRecords_cons, List.length_append, r.length_encode]
    omega
  · rw [List.drop_left]
    exact findTlsOffset_encodeRecords (hrs r List.mem_cons_self)

/-- server の平文は短く、record の種類の byte を含まない。 -/
structure Quiet (plain : Bytes) : Prop where
  scan : plain.length ≤ 8192
  plain : ∀ b ∈ plain, b.toNat ∉ [20, 21, 22, 23]

/-- **平文と record の列は、書いたとおりに分かれる。** -/
theorem assign_records {sess : Session} {plain splain : Bytes} {cs ss : List TlsRecord}
    {starttls : Bool}
    (htrans : tlsTransition (decide (sess.serverPort ∈ IMPLICIT_TLS_PORTS)) sess.protocol
      (plain ++ encodeRecords cs) = (some plain.length, starttls))
    (hplain : Quiet splain) (hne : ss ≠ []) (hss : ∀ r ∈ ss, r.Recognized) :
    assignTlsSegments sess (plain ++ encodeRecords cs) (splain ++ encodeRecords ss) =
      { sess with
        isStarttls := starttls
        transitionOffset := some plain.length
        plaintextSegment := plain
        plaintextServerSegment := splain
        tlsSegment := encodeRecords cs
        tlsServerSegment := encodeRecords ss } := by
  obtain ⟨r, ss, rfl⟩ := List.exists_cons_of_ne_nil hne
  have hfound : findTlsOffset (splain ++ encodeRecords (r :: ss)) = some splain.length := by
    rw [encodeRecords_cons, ← findTlsOffsetWithin_default]
    exact findTlsOffsetWithin_plain (by have hscan := hplain.scan; omega) hplain.plain
      (hss r List.mem_cons_self)
  unfold assignTlsSegments
  dsimp only
  rw [htrans, hfound]
  dsimp only
  rw [if_pos (findTlsOffset_lt hfound), List.take_left, List.drop_left, List.take_left,
    List.drop_left]

/-! ## handshake -/

/-- 生成できる TLS の版。 -/
def TLS_VERSIONS : List Nat := [0x0300, 0x0301, 0x0302, 0x0303, 0x0304]

theorem helloRecordVersion_mem : ∀ {v : Nat}, v ∈ TLS_VERSIONS →
    helloRecordVersion v ∈ TLS_VERSIONS := by
  decide

/-- 版の知られた、長さの収まる record。 -/
theorem recognized_of_mem {contentType v : Nat} {payload : Bytes} (hct : contentType ∈ [20, 21, 22, 23])
    (hv : v ∈ TLS_VERSIONS) (hlen : payload.length < 65536) :
    (⟨contentType, v, payload⟩ : TlsRecord).Recognized := by
  have hlt : ∀ v ∈ TLS_VERSIONS, v < 65536 := by decide
  exact ⟨⟨hct, hlt v hv, Nat.le_of_lt_succ hlen⟩, hv⟩

/-- message の並び `ms` を運ぶ、版の知られた record の列。 -/
structure Carries (rs : List TlsRecord) (ms : List Message) : Prop where
  recognized : ∀ r ∈ rs, r.Recognized
  count : rs.length ≤ 4096
  messages : rs.flatMap TlsRecord.messages = ms
  types : (ms.map Message.mtype).Nodup

namespace Carries

variable {rs : List TlsRecord} {ms : List Message}

theorem parse (h : Carries rs ms) : parseTlsRecords (encodeRecords rs) = .ok rs := by
  have hat : At (encodeRecords rs) 0 (encodeRecords rs ++ []) := by
    rw [List.append_nil]
    exact At.start _
  have hend : At (encodeRecords rs) (0 + (encodeRecords rs).length) [] := hat.skip rfl
  rw [parseTlsRecords, parseRecordsFrom_encode (fun r hr => (h.recognized r hr).1) hat h.count,
    parseRecordsFrom_short hend (by decide)]
  show Except.ok (rs ++ []) = _
  rw [List.append_nil]

/-- どの message の本体も集まる。 -/
theorem body (h : Carries rs ms) {m : Message} (hm : m ∈ ms) :
    (handshakeBody rs).get? m.mtype.toNat = some m.body := by
  rw [handshakeBody_eq, h.messages]
  exact keepAll_mem h.types (fun _ _ => rfl) m hm

/-- client の側の ClientHello。 -/
theorem clientHelloOf_eq (h : Carries rs ms) {s : Session} (hs : s.tlsSegment = encodeRecords rs)
    {m : Message} (hm : m ∈ ms) (htype : m.mtype = 1) {info : ClientHelloInfo}
    (hparse : parseClientHello m.body = .ok info) : clientHelloOf s = .ok (some info) := by
  have hbody := h.body hm
  rw [htype] at hbody
  rw [clientHelloOf, hs, h.parse]
  show parseBody parseClientHello ((handshakeBody rs).get? 1) = _
  rw [show (handshakeBody rs).get? 1 = some m.body from hbody]
  show orOnParseError ((parseClientHello m.body).map some) none = _
  rw [hparse]
  rfl

/-- server の側の ServerHello と Certificate。 -/
theorem serverSideOf_eq (h : Carries rs ms) {s : Session}
    (hs : s.tlsServerSegment = encodeRecords rs) {m m' : Message} (hm : m ∈ ms) (htype : m.mtype = 2)
    {info : ServerHelloInfo} (hparse : parseServerHello m.body = .ok info) (hm' : m' ∈ ms)
    (htype' : m'.mtype = 11) {certificate : CertificateInfo}
    (hparse' : parseCertificateMessage m'.body
      (decide (info.negotiatedVersion = some 0x0304)) = .ok certificate) :
    serverSideOf s = .ok (some info, some certificate) := by
  have hbody := h.body hm
  have hbody' := h.body hm'
  rw [htype] at hbody
  rw [htype'] at hbody'
  have hserver : parseBody parseServerHello ((handshakeBody rs).get? 2) = .ok (some info) := by
    rw [show (handshakeBody rs).get? 2 = some m.body from hbody]
    show orOnParseError ((parseServerHello m.body).map some) none = _
    rw [hparse]
    rfl
  have hcert : parseBody (parseCertificateMessage · (decide (info.negotiatedVersion = some 0x0304)))
      ((handshakeBody rs).get? 11) = .ok (some certificate) := by
    rw [show (handshakeBody rs).get? 11 = some m'.body from hbody']
    show orOnParseError ((parseCertificateMessage m'.body _).map some) none = _
    rw [hparse']
    rfl
  unfold serverSideOf
  rw [hs, h.parse]
  show (parseBody parseServerHello ((handshakeBody rs).get? 2) >>= _) = _
  rw [hserver]
  show (parseBody (parseCertificateMessage · (decide (info.negotiatedVersion = some 0x0304)))
    ((handshakeBody rs).get? 11) >>= _) = _
  rw [hcert]
  rfl

end Carries

/-- client の差し出す group。 -/
def offeredGroupIds (v : Nat) : List Nat := if 0x0303 ≤ v then [29, 23] else []

/-- client の差し出す ALPN の名。 -/
def offeredAlpn (v : Nat) : List Bytes :=
  if 0x0304 ≤ v then [ascii "smtp", ascii "imap", ascii "pop3"] else []

/-- 設定どおりの handshake の読める session。 -/
structure Reads (sess : GenSession) (iana : Nat) (ders : List Bytes) (s : Session) : Prop where
  client : ∃ info, clientHelloOf s = .ok (some info) ∧
    HelloFields sess.tlsVersion [iana] sess.sni.toList (offeredGroupIds sess.tlsVersion)
      (offeredAlpn sess.tlsVersion) info
  server : ∃ info, serverSideOf s =
      .ok (some info, some ⟨ders, decide (0x0304 ≤ sess.tlsVersion)⟩) ∧
    ServerFields sess.tlsVersion iana info

/-- 両側の record の列が、TLS の対話のすべてであり、設定どおりに読める。 -/
structure Flights (sess : GenSession) (iana : Nat) (ders : List Bytes) (talks : List Talk)
    (cs ss : List TlsRecord) : Prop where
  client : talks.flatMap (Talk.clientBytes none) = encodeRecords cs
  server : talks.flatMap Talk.serverBytes = encodeRecords ss
  clientNonempty : cs ≠ []
  serverNonempty : ss ≠ []
  clientRecognized : ∀ r ∈ cs, r.Recognized
  serverRecognized : ∀ r ∈ ss, r.Recognized
  reads : ∀ s : Session, s.tlsSegment = encodeRecords cs → s.tlsServerSegment = encodeRecords ss →
    Reads sess iana ders s

/-- 版が知られていれば、TLS 1.3 かどうかは大小で決まる。 -/
theorem tls13_iff {v : Nat} (hv : v ∈ TLS_VERSIONS) : some v = some 0x0304 ↔ 0x0304 ≤ v := by
  have hall : ∀ v ∈ TLS_VERSIONS, some v = some 0x0304 ↔ 0x0304 ≤ v := by decide
  exact hall v hv

/-- ClientHello・ServerHello・Certificate の message が、設定どおりに読める。 -/
structure Hellos (sess : GenSession) (iana : Nat) (ders : List Bytes) (ch sh cert : Message) :
    Prop where
  version : sess.tlsVersion ∈ TLS_VERSIONS
  clientType : ch.mtype = 1
  client : ∃ info, parseClientHello ch.body = .ok info ∧
    HelloFields sess.tlsVersion [iana] sess.sni.toList (offeredGroupIds sess.tlsVersion)
      (offeredAlpn sess.tlsVersion) info
  serverType : sh.mtype = 2
  server : ∃ info, parseServerHello sh.body = .ok info ∧ ServerFields sess.tlsVersion iana info
  certType : cert.mtype = 11
  chain : parseCertificateMessage cert.body (decide (0x0304 ≤ sess.tlsVersion)) =
    .ok ⟨ders, decide (0x0304 ≤ sess.tlsVersion)⟩
  clientLength : ch.encode.length < 65536
  serverLength : sh.encode.length < 65536
  certLength : cert.encode.length < 65536

/-- handshake の record。 -/
def handshakeRecord (v : Nat) (m : Message) : TlsRecord := ⟨22, v, m.encode⟩

/-- ChangeCipherSpec の record。 -/
def changeCipherSpec (v : Nat) : TlsRecord := ⟨20, v, [1]⟩

/-- 暗号化された record。 -/
def opaqueRecord (v : Nat) (payload : Bytes) : TlsRecord := ⟨23, v, payload⟩

/-- 生成器の ClientKeyExchange。 -/
def keyExchange : Message := ⟨16, [0, 1], by decide⟩

@[simp] theorem messages_handshakeRecord (v : Nat) (m : Message) :
    (handshakeRecord v m).messages = [m] :=
  messages_of_payload rfl (List.append_nil m.encode).symm

@[simp] theorem messages_changeCipherSpec (v : Nat) : (changeCipherSpec v).messages = [] := rfl

@[simp] theorem messages_opaqueRecord (v : Nat) (payload : Bytes) :
    (opaqueRecord v payload).messages = [] := rfl

section
variable {sess : GenSession} {iana : Nat} {ders : List Bytes} {ch sh cert : Message}

/-- 三つの message を運ぶ record の列。 -/
theorem Hellos.flights (h : Hellos sess iana ders ch sh cert) {talks : List Talk}
    {cs ss : List TlsRecord} {ms ms' : List Message}
    (hclient : talks.flatMap (Talk.clientBytes none) = encodeRecords cs)
    (hserver : talks.flatMap Talk.serverBytes = encodeRecords ss)
    (hcs : Carries cs (ch :: ms)) (hss : Carries ss (sh :: cert :: ms')) :
    Flights sess iana ders talks cs ss := by
  obtain ⟨chInfo, hch, hclientFields⟩ := h.client
  obtain ⟨shInfo, hsh, hserverFields⟩ := h.server
  have hne : ∀ {rs : List TlsRecord} {m : Message} {ms : List Message}, Carries rs (m :: ms) →
      rs ≠ [] := by
    rintro rs m ms hrs rfl
    cases hrs.messages
  refine ⟨hclient, hserver, hne hcs, hne hss, hcs.recognized, hss.recognized, ?_⟩
  intro s hsc hsServer
  refine ⟨⟨chInfo, hcs.clientHelloOf_eq hsc List.mem_cons_self h.clientType hch, hclientFields⟩,
    ⟨shInfo, hss.serverSideOf_eq hsServer List.mem_cons_self h.serverType hsh
      (List.mem_cons_of_mem _ List.mem_cons_self) h.certType ?_, hserverFields⟩⟩
  rw [hserverFields.negotiatedVersion, decide_eq_decide.mpr (tls13_iff h.version)]
  exact h.chain

/-- どの record も版が知られ、長さが収まる。 -/
theorem Hellos.recognized (h : Hellos sess iana ders ch sh cert) :
    (handshakeRecord (helloRecordVersion sess.tlsVersion) ch).Recognized ∧
      (handshakeRecord (helloRecordVersion sess.tlsVersion) sh).Recognized ∧
      (handshakeRecord 0x0303 cert).Recognized ∧
      (changeCipherSpec sess.tlsVersion).Recognized ∧
      ∀ payload : Bytes, payload.length < 65536 →
        (opaqueRecord sess.tlsVersion payload).Recognized :=
  ⟨recognized_of_mem (by decide) (helloRecordVersion_mem h.version) h.clientLength,
    recognized_of_mem (by decide) (helloRecordVersion_mem h.version) h.serverLength,
    recognized_of_mem (by decide) (by decide) h.certLength,
    recognized_of_mem (by decide) h.version (by decide),
    fun _ hlen => recognized_of_mem (by decide) h.version hlen⟩

/-- TLS 1.2 までの対話。`extra` は、SMTP で空の CertificateRequest を送る呼び出しである。 -/
theorem Hellos.flights12 (h : Hellos sess iana ders ch sh cert) {extra : List Talk}
    (hclient : extra.flatMap (Talk.clientBytes none) = [])
    (hserver : extra.flatMap Talk.serverBytes = []) {pe pc ps : Bytes} (hpe : pe.length < 65536)
    (hpc : pc.length < 65536) (hps : ps.length < 65536) :
    let v := sess.tlsVersion
    Flights sess iana ders
      ([.client (handshakeRecord (helloRecordVersion v) ch).encode,
          .server (handshakeRecord (helloRecordVersion v) sh).encode,
          .server (handshakeRecord 0x0303 cert).encode] ++ extra ++
        [.server (handshakeRecord 0x0303 helloDone).encode,
          .client (handshakeRecord v keyExchange).encode, .client (changeCipherSpec v).encode,
          .client (opaqueRecord v pe).encode, .server (changeCipherSpec v).encode,
          .server (opaqueRecord v pe).encode, .client (opaqueRecord v pc).encode,
          .server (opaqueRecord v ps).encode])
      [handshakeRecord (helloRecordVersion v) ch, handshakeRecord v keyExchange, changeCipherSpec v,
        opaqueRecord v pe, opaqueRecord v pc]
      [handshakeRecord (helloRecordVersion v) sh, handshakeRecord 0x0303 cert,
        handshakeRecord 0x0303 helloDone, changeCipherSpec v, opaqueRecord v pe,
        opaqueRecord v ps] := by
  intro v
  obtain ⟨hch, hsh, hcert, hccs, hopaque⟩ := h.recognized
  refine @Hellos.flights _ _ _ _ _ _ h _ _ _ [keyExchange] [helloDone] ?_ ?_
    ⟨?_, by simp, by simp, ?_⟩ ⟨?_, by simp, by simp, ?_⟩
  · simp [encodeRecords, Talk.clientBytes, hclient]
  · simp [encodeRecords, Talk.serverBytes, hserver]
  · simp only [List.forall_mem_cons]
    exact ⟨hch, recognized_of_mem (by decide) h.version (by decide), hccs, hopaque pe hpe,
      hopaque pc hpc, List.forall_mem_nil _⟩
  · simp [h.clientType, keyExchange]
  · simp only [List.forall_mem_cons]
    exact ⟨hsh, hcert, recognized_of_mem (by decide) (by decide) (by decide), hccs, hopaque pe hpe,
      hopaque ps hps, List.forall_mem_nil _⟩
  · simp [h.serverType, h.certType, helloDone]

/-- TLS 1.3 の対話。 -/
theorem Hellos.flights13 (h : Hellos sess iana ders ch sh cert) {pe pc ps : Bytes}
    (hpe : pe.length < 65536) (hpc : pc.length < 65536) (hps : ps.length < 65536) :
    let v := sess.tlsVersion
    Flights sess iana ders
      [.client (handshakeRecord (helloRecordVersion v) ch).encode,
        .server (handshakeRecord (helloRecordVersion v) sh).encode,
        .server (handshakeRecord 0x0303 cert).encode, .server (changeCipherSpec v).encode,
        .server (opaqueRecord v pe).encode, .client (changeCipherSpec v).encode,
        .client (opaqueRecord v pe).encode, .server (opaqueRecord v pe).encode,
        .client (opaqueRecord v pc).encode, .server (opaqueRecord v ps).encode]
      [handshakeRecord (helloRecordVersion v) ch, changeCipherSpec v, opaqueRecord v pe,
        opaqueRecord v pc]
      [handshakeRecord (helloRecordVersion v) sh, handshakeRecord 0x0303 cert, changeCipherSpec v,
        opaqueRecord v pe, opaqueRecord v pe, opaqueRecord v ps] := by
  intro v
  obtain ⟨hch, hsh, hcert, hccs, hopaque⟩ := h.recognized
  refine @Hellos.flights _ _ _ _ _ _ h _ _ _ [] [] ?_ ?_ ⟨?_, by simp, by simp, by simp⟩
    ⟨?_, by simp, by simp, ?_⟩
  · simp [encodeRecords, Talk.clientBytes]
  · simp [encodeRecords, Talk.serverBytes]
  · simp only [List.forall_mem_cons]
    exact ⟨hch, hccs, hopaque pe hpe, hopaque pc hpc, List.forall_mem_nil _⟩
  · simp only [List.forall_mem_cons]
    exact ⟨hsh, hcert, hccs, hopaque pe hpe, hopaque pe hpe, hopaque ps hps, List.forall_mem_nil _⟩
  · simp [h.serverType, h.certType]

end

/-- **`generate_session` の TLS の対話は、設定どおりに読める handshake を運ぶ。** -/
theorem exists_flights {sess : GenSession} {ders : List Bytes} {talks : List Talk}
    (h : tlsTalks sess (ders.map pemFromDer) = some talks) (hv : sess.tlsVersion ∈ TLS_VERSIONS)
    (hsni : ∀ c ∈ sess.sni.toList, c.toNat < 128) (hne : ders ≠ []) (hcount : ders.length ≤ 32) :
    ∃ iana ts cs ss, cipherIana sess.cipher = some iana ∧ talks = ts ++ [.fin] ∧
      Flights sess iana ders ts cs ss := by
  obtain ⟨iana, hiana, h⟩ := Option.bind_eq_some_iff.mp h
  obtain ⟨clientHello, hch, h⟩ := Option.bind_eq_some_iff.mp h
  obtain ⟨serverHello, hsh, h⟩ := Option.bind_eq_some_iff.mp h
  obtain ⟨certificate, hcert, h⟩ := Option.bind_eq_some_iff.mp h
  obtain ⟨done, hdone, h⟩ := Option.bind_eq_some_iff.mp h
  obtain ⟨kex, hkex, h⟩ := Option.bind_eq_some_iff.mp h
  obtain ⟨enc, henc, h⟩ := Option.bind_eq_some_iff.mp h
  obtain ⟨capp, hcapp, h⟩ := Option.bind_eq_some_iff.mp h
  obtain ⟨sapp, hsapp, h⟩ := Option.bind_eq_some_iff.mp h
  have hgroups : (if 0x0303 ≤ sess.tlsVersion then some [29, 23] else none).getD [] =
      offeredGroupIds sess.tlsVersion := by
    unfold offeredGroupIds
    split <;> rfl
  have hnames : (if decide (0x0304 ≤ sess.tlsVersion) = true then
      some [ascii "smtp", ascii "imap", ascii "pop3"] else none).getD [] =
      offeredAlpn sess.tlsVersion := by
    unfold offeredAlpn
    by_cases h13 : 0x0304 ≤ sess.tlsVersion <;> simp [h13]
  have hascii : ∀ name ∈ offeredAlpn sess.tlsVersion, ∀ b ∈ name, b < 0x80 := by
    unfold offeredAlpn
    split
    · decide +kernel
    · exact fun _ h => absurd h List.not_mem_nil
  obtain ⟨m₁, chInfo, htype₁, hlen₁, rfl, -, hparse₁, hfields₁⟩ :=
    exists_clientHello hch hsni (hnames ▸ hascii)
  obtain ⟨m₂, shInfo, htype₂, hlen₂, rfl, -, hparse₂, hfields₂⟩ := exists_serverHello hsh
  obtain ⟨m₃, htype₃, hlen₃, rfl, -, hparse₃⟩ := exists_certificate hne hcount hcert
  obtain ⟨pe, hpe, rfl⟩ := buildEncryptedHandshake_eq_some henc
  obtain ⟨pc, hpc, rfl⟩ := buildEncryptedHandshake_eq_some hcapp
  obtain ⟨ps, hps, rfl⟩ := buildEncryptedHandshake_eq_some hsapp
  obtain ⟨-, rfl⟩ := tlsRecord_eq_some hkex
  obtain ⟨-, rfl⟩ := tlsRecord_eq_some hdone
  rw [hgroups, hnames] at hfields₁
  have hhellos : Hellos sess iana ders m₁ m₂ m₃ :=
    ⟨hv, htype₁, ⟨chInfo, hparse₁, hfields₁⟩, htype₂, ⟨shInfo, hparse₂, hfields₂⟩, htype₃, hparse₃,
      hlen₁, hlen₂, hlen₃⟩
  simp only [buildChangeCipherSpec_eq] at h
  by_cases h13 : 0x0304 ≤ sess.tlsVersion
  · have hflights := hhellos.flights13 hpe hpc hps
    refine ⟨iana, _, _, _, hiana, ?_, hflights⟩
    rw [← Option.some.inj h]
    simp [h13, handshakeRecord, changeCipherSpec, opaqueRecord]
  · have hkexMsg : [16, 0, 0, 2, 0, 1] = keyExchange.encode := by decide
    have hdoneMsg : [14, 0, 0, 0] = helloDone.encode := by decide
    have hflights := @Hellos.flights12 _ _ _ _ _ _ hhellos
      (if sess.protocol = .smtp then [.server buildCertificateRequest] else [])
      (by split <;> rfl) (by split <;> rfl) pe pc ps hpe hpc hps
    refine ⟨iana, _, _, _, hiana, ?_, hflights⟩
    rw [← Option.some.inj h]
    simp [h13, handshakeRecord, changeCipherSpec, opaqueRecord, ← hkexMsg, ← hdoneMsg]

/-! ## 設定 -/

/--
読み戻せる設定。protocol は mail の port のものであり、STARTTLS は implicit でない port でだけ使う。SNI は
証明書の名にもなるので、ASCII である。
-/
structure GenSession.Supported (sess : GenSession) : Prop where
  port : PORT_TO_PROTO.lookup sess.port = some sess.protocol
  starttls : sess.useStarttls = !implicitPort sess.port
  sni : ∀ c ∈ sess.sni.toList, c.toNat < 128

/-- TLS までの対話が、`plain` と `splain` の平文を残す。 -/
structure Opens (sess : GenSession) (opening : List Talk) (plain splain : Bytes) : Prop where
  client : opening.flatMap (Talk.clientBytes none) = plain
  server : opening.flatMap Talk.serverBytes = splain
  quiet : Quiet splain
  transition : ∀ rs : List TlsRecord, rs ≠ [] → (∀ r ∈ rs, r.Recognized) →
    tlsTransition (implicitPort sess.port) sess.protocol (plain ++ encodeRecords rs) =
      (some plain.length, sess.useStarttls)

/-- banner と STARTTLS までの server の平文は、record と紛れない。 -/
theorem quiet_server {protocol : Protocol} {greeting : Bytes} (h : banner protocol = some greeting) :
    Quiet (greeting ++ upgradeServer protocol) := by
  have hall : (greeting ++ upgradeServer protocol).length ≤ 8192 ∧
      (greeting ++ upgradeServer protocol).all
        (fun b => decide (b.toNat ∉ [20, 21, 22, 23])) = true := by
    cases protocol with
    | unknown => cases h
    | _ =>
      obtain rfl := Option.some.inj h
      decide +kernel
  exact ⟨hall.1, fun b hb => of_decide_eq_true (List.all_eq_true.mp hall.2 b hb)⟩

/-- **TLS までの対話。** -/
theorem exists_opens {sess : GenSession} (hsess : sess.Supported) {opening : List Talk}
    (h : openingTalks sess = some opening) : ∃ plain splain, Opens sess opening plain splain := by
  obtain ⟨greeting, hgreeting, rfl⟩ := Option.map_eq_some_iff.mp h
  unfold greetingTalks at hgreeting
  have hknown := known_of_lookup hsess.port
  have hstart := hsess.starttls
  by_cases himplicit : implicitPort sess.port = true
  · rw [if_pos himplicit] at hgreeting
    obtain rfl := Option.some.inj hgreeting
    rw [himplicit] at hstart
    refine ⟨[], [], ?_, ?_, ⟨Nat.zero_le _, List.forall_mem_nil _⟩, fun rs _ _ => ?_⟩
    · simp [hstart, Talk.clientBytes]
    · simp [hstart, Talk.serverBytes]
    · rw [tlsTransition, if_pos himplicit, hstart]
      rfl
  · rw [if_neg himplicit] at hgreeting
    obtain ⟨text, htext, rfl⟩ := Option.map_eq_some_iff.mp hgreeting
    rw [Bool.not_eq_true] at himplicit
    rw [himplicit] at hstart
    refine ⟨upgradeClient sess.protocol, text ++ upgradeServer sess.protocol, ?_, ?_,
      quiet_server htext, fun rs hne hrs => ?_⟩
    · simp [hstart, Talk.clientBytes, upgradeClient]
    · simp [hstart, Talk.serverBytes, upgradeServer]
    · rw [tlsTransition, himplicit, if_neg Bool.false_ne_true, starttlsTransition_upgrade hknown hne hrs,
        hstart]
      rfl

/-- 証明書の列は、一つか二つである。 -/
theorem length_chainDer {lib : CertLib} {sess : GenSession} {chain : List Bytes}
    (h : chainDer lib sess = some chain) : 1 ≤ chain.length ∧ chain.length ≤ 2 := by
  unfold chainDer at h
  split at h
  all_goals
    obtain ⟨leaf, -, h⟩ := Option.bind_eq_some_iff.mp h
    obtain rfl := Option.some.inj h
    simp

/-- client の port は、mail の port ではない。 -/
theorem lookup_sport (nameHash : Int) :
    PORT_TO_PROTO.lookup (10000 + (nameHash % 5000).toNat) = none := by
  rw [List.lookup_eq_none_iff]
  have hsmall : ∀ e ∈ PORT_TO_PROTO, e.1 < 10000 := by decide
  intro e he
  have hlt := hsmall e he
  rw [bne_iff_ne]
  omega

/-! ## 生成 -/

/-- `generate_session` の builder の初め。 -/
def freshStream (sess : GenSession) (nameHash : Int) (clock : Nat → Nat) : StreamBuilder where
  sport := 10000 + (nameHash % 5000).toNat
  dport := sess.port
  clock := clock

/-- TLS の session の正解。 -/
def tlsTruth (sess : GenSession) (sport : Nat) (entry : CipherEntry) : Truth :=
  { baseTruth sess sport with
    tlsVersion := some (tlsVersionLabel sess.tlsVersion)
    tlsVersionRaw := some sess.tlsVersion
    cipher := some sess.cipher
    cipherSuiteIana := some (hex entry.iana)
    cipherStrength := some entry.strength
    pfs := some entry.pfs
    keyLen := some entry.keyLen
    clean := sess.expectedFindings.isEmpty }

section
variable {lib : CertLib} {sess : GenSession} {nameHash : Int} {clock : Nat → Nat}
  {frames : List Frame} {truth : Truth}

/-- TLS の session の生成の手順。 -/
theorem generateSession_tls (h : generateSession lib sess nameHash clock = some (frames, truth))
    (hv : sess.tlsVersion ≠ 0x0000) :
    ∃ chain opening talks b entry, chainDer lib sess = some chain ∧
      openingTalks sess = some opening ∧ tlsTalks sess (chain.map pemFromDer) = some talks ∧
      (freshStream sess nameHash clock).sayAll (opening ++ talks) = some b ∧
      CIPHER_REGISTRY.lookup sess.cipher = some entry ∧ frames = b.packets ∧
      truth = tlsTruth sess (freshStream sess nameHash clock).sport entry := by
  obtain ⟨chain, hchain, h⟩ := Option.bind_eq_some_iff.mp h
  obtain ⟨opening, hopening, h⟩ := Option.bind_eq_some_iff.mp h
  rw [if_neg hv] at h
  obtain ⟨talks, htalks, h⟩ := Option.bind_eq_some_iff.mp h
  obtain ⟨b, hb, h⟩ := Option.bind_eq_some_iff.mp h
  obtain ⟨entry, hentry, h⟩ := Option.bind_eq_some_iff.mp h
  obtain ⟨rfl, rfl⟩ := Prod.mk.injEq .. ▸ Option.some.inj h
  exact ⟨chain, opening, talks, b, entry, hchain, hopening, htalks, hb, hentry, rfl, rfl⟩

/-- STARTTLS を剥がされた session の生成の手順。 -/
theorem generateSession_stripped
    (h : generateSession lib sess nameHash clock = some (frames, truth))
    (hv : sess.tlsVersion = 0x0000) :
    ∃ opening b, openingTalks sess = some opening ∧
      (freshStream sess nameHash clock).sayAll (opening ++ strippedTalks sess) = some b ∧
      frames = b.packets ∧ truth = { baseTruth sess (freshStream sess nameHash clock).sport with
        starttlsStripped := true } := by
  obtain ⟨chain, hchain, h⟩ := Option.bind_eq_some_iff.mp h
  obtain ⟨opening, hopening, h⟩ := Option.bind_eq_some_iff.mp h
  rw [if_pos hv] at h
  obtain ⟨b, hb, h⟩ := Option.bind_eq_some_iff.mp h
  obtain ⟨rfl, rfl⟩ := Prod.mk.injEq .. ▸ Option.some.inj h
  exact ⟨opening, b, hopening, hb, rfl, rfl⟩

/-- 生成された TLS の file からは、設定どおりに分かれ、設定どおりに読める session が一つできる。 -/
theorem exists_tlsSession (h : generateSession lib sess nameHash clock = some (frames, truth))
    (hsess : sess.Supported) (hv : sess.tlsVersion ∈ TLS_VERSIONS) :
    ∃ chain entry ts s plain, chainDer lib sess = some chain ∧
      CIPHER_REGISTRY.lookup sess.cipher = some entry ∧
      truth = tlsTruth sess (freshStream sess nameHash clock).sport entry ∧
      reconstructSessions frames = [s] ∧ Reads sess entry.iana chain s ∧ s.tlsSegment ≠ [] ∧
      ∃ tls splain tlsServer, s = { (freshStream sess nameHash clock).opened sess.protocol ts with
        isStarttls := sess.useStarttls
        transitionOffset := some plain.length
        plaintextSegment := plain
        plaintextServerSegment := splain
        tlsSegment := tls
        tlsServerSegment := tlsServer } := by
  have hne : sess.tlsVersion ≠ 0x0000 := by
    have hall : ∀ v ∈ TLS_VERSIONS, v ≠ 0x0000 := by decide
    exact hall _ hv
  obtain ⟨chain, opening, talks, b, entry, hchain, hopening, htalks, hb, hentry, rfl, rfl⟩ :=
    generateSession_tls h hne
  obtain ⟨hpos, hle⟩ := length_chainDer hchain
  obtain ⟨iana, ts, cs, ss, hiana, rfl, hflights⟩ := exists_flights htalks hv hsess.sni
    (List.ne_nil_of_length_pos hpos) (by omega)
  obtain ⟨plain, splain, hopens⟩ := exists_opens hsess hopening
  obtain rfl : entry.iana = iana := by
    rw [cipherIana, hentry] at hiana
    exact Option.some.inj hiana
  rw [← List.append_assoc] at hb
  obtain ⟨start, hsession⟩ := reconstruct_sayAll ⟨rfl, rfl, rfl⟩ (lookup_sport nameHash) hsess.port hb
  have hclient : (opening ++ ts).flatMap (Talk.clientBytes none) = plain ++ encodeRecords cs := by
    rw [List.flatMap_append, hopens.client, hflights.client]
  have hserver : (opening ++ ts).flatMap Talk.serverBytes = splain ++ encodeRecords ss := by
    rw [List.flatMap_append, hopens.server, hflights.server]
  have hassign := @assign_records ((freshStream sess nameHash clock).opened sess.protocol start)
    plain splain cs ss _ (hopens.transition cs hflights.clientNonempty hflights.clientRecognized)
    hopens.quiet hflights.serverNonempty hflights.serverRecognized
  rw [show (freshStream sess nameHash clock).fragSize = none from rfl, hclient, hserver, hassign]
    at hsession
  refine ⟨chain, entry, start, _, plain, hchain, hentry, rfl, hsession, hflights.reads _ rfl rfl, ?_,
    _, _, _, rfl⟩
  obtain ⟨r, rs, rfl⟩ := List.exists_cons_of_ne_nil hflights.clientNonempty
  exact List.cons_ne_nil _ _

end

/-! ## 解析 -/

/-- 生成器の表の cipher は、解析の表にも同じ値で載っている。 -/
theorem lookupCipher_entry {name : String} {entry : CipherEntry}
    (h : CIPHER_REGISTRY.lookup name = some entry) :
    entry.iana ≠ 0 ∧ ∃ m, lookupCipher entry.iana = some m ∧ m.name = name ∧
      m.strength = entry.strength ∧ m.pfs = entry.pfs ∧ m.keyLen = entry.keyLen := by
  obtain ⟨l₁, l₂, htable, -⟩ := List.lookup_eq_some_iff.mp h
  have hall : ∀ e ∈ CIPHER_REGISTRY, e.2.iana ≠ 0 ∧ (lookupCipher e.2.iana).any (fun m =>
      decide (m.name = e.1 ∧ m.strength = e.2.strength ∧ m.pfs = e.2.pfs ∧
        m.keyLen = e.2.keyLen)) = true := by decide +kernel
  obtain ⟨hne, hany⟩ := hall (name, entry) (htable ▸ List.mem_append_right _ List.mem_cons_self)
  obtain ⟨m, hm, hdec⟩ := (Option.any_eq_true _ _).mp hany
  obtain ⟨hname, hstrength, hpfs, hkey⟩ := of_decide_eq_true hdec
  exact ⟨hne, m, hm, hname, hstrength, hpfs, hkey⟩

/-- 表に載った cipher を選んだ hello を書いた解析。 -/
theorem withHello_known (sa : SessionAnalysis) (ch : ClientHelloInfo) {sh : ServerHelloInfo}
    {v iana : Nat} {m : CipherMeta} (hv : sh.negotiatedVersion = some v)
    (hsuite : sh.cipherSuite = some iana) (hne : iana ≠ 0) (hm : lookupCipher iana = some m) :
    sa.withHello (some ch) (some sh) = { sa with
      clientHello := some ch
      serverHello := some sh
      tlsVersion := some v
      negotiatedVersionName := some (versionName v)
      cipherIana := some iana
      cipherMeta := some m
      cipher := some m.name
      cipherStrength := some m.strength } := by
  obtain ⟨n, rfl⟩ := Nat.exists_eq_succ_of_ne_zero hne
  unfold SessionAnalysis.withHello
  simp [hv, hsuite, hm]

/-- 設定から決まる、解析の欄。 -/
structure Known (sess : GenSession) (sport : Nat) (m : CipherMeta) (iana : Nat) (chain : List Bytes)
    (sa : SessionAnalysis) : Prop where
  sessionId : sa.sessionId = "192.168.1.10:" ++ toString sport ++ "->192.168.1.20:" ++
    toString sess.port
  protocol : sa.protocol = sess.protocol.value
  port : sa.port = sess.port
  isStarttls : sa.isStarttls = sess.useStarttls
  isImplicitTlsPort : sa.isImplicitTlsPort = implicitPort sess.port
  startedTls : sa.startedTls = true
  tlsVersion : sa.tlsVersion = some sess.tlsVersion
  versionName : sa.negotiatedVersionName = some (versionName sess.tlsVersion)
  cipherIana : sa.cipherIana = some iana
  cipherMeta : sa.cipherMeta = some m
  cipher : sa.cipher = some m.name
  cipherStrength : sa.cipherStrength = some m.strength
  clientHello : ∃ ch, sa.clientHello = some ch ∧ HelloFields sess.tlsVersion [iana] sess.sni.toList
    (offeredGroupIds sess.tlsVersion) (offeredAlpn sess.tlsVersion) ch
  serverHello : ∃ sh, sa.serverHello = some sh ∧ ServerFields sess.tlsVersion iana sh
  certificate : sa.certificate = some ⟨chain, decide (0x0304 ≤ sess.tlsVersion)⟩

/-- rule の書く欄は、どれでもない。 -/
theorem Known.of_facts {sess : GenSession} {sport iana : Nat} {m : CipherMeta} {chain : List Bytes}
    {sa sa' : SessionAnalysis} (h : Known sess sport m iana chain sa) (hfacts : sa'.facts = sa.facts) :
    Known sess sport m iana chain sa' := by
  have hkeep : ∀ {α : Type} (f : SessionAnalysis → α), (∀ t, f t.facts = f t) → f sa' = f sa :=
    fun f hf => by rw [← hf sa', hfacts, hf]
  refine ⟨?_, ?_, ?_, ?_, ?_, ?_, ?_, ?_, ?_, ?_, ?_, ?_, ?_, ?_, ?_⟩
  · exact (hkeep (·.sessionId) fun _ => rfl).trans h.sessionId
  · exact (hkeep (·.protocol) fun _ => rfl).trans h.protocol
  · exact (hkeep (·.port) fun _ => rfl).trans h.port
  · exact (hkeep (·.isStarttls) fun _ => rfl).trans h.isStarttls
  · exact (hkeep (·.isImplicitTlsPort) fun _ => rfl).trans h.isImplicitTlsPort
  · exact (hkeep (·.startedTls) fun _ => rfl).trans h.startedTls
  · exact (hkeep (·.tlsVersion) fun _ => rfl).trans h.tlsVersion
  · exact (hkeep (·.negotiatedVersionName) fun _ => rfl).trans h.versionName
  · exact (hkeep (·.cipherIana) fun _ => rfl).trans h.cipherIana
  · exact (hkeep (·.cipherMeta) fun _ => rfl).trans h.cipherMeta
  · exact (hkeep (·.cipher) fun _ => rfl).trans h.cipher
  · exact (hkeep (·.cipherStrength) fun _ => rfl).trans h.cipherStrength
  · rw [hkeep (·.clientHello) fun _ => rfl]
    exact h.clientHello
  · rw [hkeep (·.serverHello) fun _ => rfl]
    exact h.serverHello
  · exact (hkeep (·.certificate) fun _ => rfl).trans h.certificate

/-- 表に載った cipher を選んだ handshake の、準備の終わった解析。 -/
theorem assemble_known (an : Analyzer) (s : Session) (ch : ClientHelloInfo) {sh : ServerHelloInfo}
    (certificate : Option CertificateInfo) (certs : List CertAnalysis) {v iana : Nat} {m : CipherMeta}
    (hv : sh.negotiatedVersion = some v) (hsuite : sh.cipherSuite = some iana) (hne : iana ≠ 0)
    (hm : lookupCipher iana = some m) :
    ∃ certs' result error visibility, assemble an s (some ch) (some sh) certificate certs =
      { startAnalysis s with
        clientHello := some ch
        serverHello := some sh
        tlsVersion := some v
        negotiatedVersionName := some (versionName v)
        cipherIana := some iana
        cipherMeta := some m
        cipher := some m.name
        cipherStrength := some m.strength
        certificate := certificate
        certs := certs'
        chainResult := result
        chainError := error
        visibility := some visibility } := by
  unfold assemble
  rw [withHello_known _ ch hv hsuite hne hm]
  obtain ⟨certs', result, error, hrest⟩ := withCerts_rest an { startAnalysis s with
    clientHello := some ch
    serverHello := some sh
    tlsVersion := some v
    negotiatedVersionName := some (versionName v)
    cipherIana := some iana
    cipherMeta := some m
    cipher := some m.name
    cipherStrength := some m.strength } certificate certs
  rw [hrest]
  exact ⟨_, _, _, _, rfl⟩

/-- builder の既定の address。 -/
theorem text_default : (addrText (192, 168, 1, 10)).text = "192.168.1.10" ∧
    (addrText (192, 168, 1, 20)).text = "192.168.1.20" := by
  decide +kernel

/-- session が一つの file の解析。 -/
theorem analyzePcap_single {an : Analyzer} {frames : List Frame} {s : Session}
    {start : SessionAnalysis} (hsession : reconstructSessions frames = [s])
    (hprep : prepared an s = .ok start) (now : Int) :
    analyzePcap (an.withRules now) (reconstructSessions frames) =
      .ok [runRules (an.withRules now) start] := by
  rw [hsession]
  exact analyzePcap_singleton (analyzeSession_eq_ok_iff.mpr ⟨start, hprep, rfl⟩)

/-- **生成された TLS の file の解析。** 準備の終わった解析は、設定どおりである。 -/
theorem exists_prepared {lib : CertLib} {sess : GenSession} {nameHash : Int} {clock : Nat → Nat}
    {frames : List Frame} {truth : Truth}
    (h : generateSession lib sess nameHash clock = some (frames, truth)) (hsess : sess.Supported)
    (hv : sess.tlsVersion ∈ TLS_VERSIONS) {an : Analyzer}
    (hcerts : ∀ chain, chainDer lib sess = some chain → ∀ der ∈ chain, an.loadCert der ≠ .ok none) :
    ∃ chain entry m start, chainDer lib sess = some chain ∧
      CIPHER_REGISTRY.lookup sess.cipher = some entry ∧ lookupCipher entry.iana = some m ∧
      truth = tlsTruth sess (freshStream sess nameHash clock).sport entry ∧
      Known sess (freshStream sess nameHash clock).sport m entry.iana chain start ∧
      start.findings = [] ∧ ∀ now, analyzePcap (an.withRules now) (reconstructSessions frames) =
        .ok [runRules (an.withRules now) start] := by
  obtain ⟨chain, entry, ts, s, plain, hchain, hentry, htruth, hsession, hreads, htls, hs⟩ :=
    exists_tlsSession h hsess hv
  obtain ⟨ch, hch, hclient⟩ := hreads.client
  obtain ⟨sh, hsh, hserver⟩ := hreads.server
  obtain ⟨hne, m, hm, -⟩ := lookupCipher_entry hentry
  obtain ⟨certs, hanalysed⟩ := returns_mapM.mpr fun der hder =>
    returns_analyzeCertificate.mpr (hcerts chain hchain der hder)
  have hprep : prepared an s = .ok (assemble an s (some ch) (some sh)
      (some ⟨chain, decide (0x0304 ≤ sess.tlsVersion)⟩) certs) := by
    rw [prepared_of_ok an htls hch hsh]
    show (chain.mapM (analyzeCertificate an)).map _ = _
    rw [hanalysed]
    rfl
  obtain ⟨certs', result, error, visibility, heq⟩ := assemble_known an s ch
    (some ⟨chain, decide (0x0304 ≤ sess.tlsVersion)⟩) certs hserver.negotiatedVersion
    hserver.cipherSuite hne hm
  rw [heq] at hprep
  refine ⟨chain, entry, m, _, hchain, hentry, hm, htruth, ?_, ?_, analyzePcap_single hsession hprep⟩
  · obtain ⟨tls, splain, tlsServer, rfl⟩ := hs
    have hstarted : (!tls.isEmpty) = true := by
      rw [Bool.not_eq_true', List.isEmpty_eq_false_iff]
      exact htls
    refine ⟨?_, rfl, rfl, rfl, rfl, hstarted, rfl, rfl, rfl, rfl, rfl, rfl, ⟨ch, rfl, hclient⟩,
      ⟨sh, rfl, hserver⟩, rfl⟩
    show (addrText (192, 168, 1, 10)).text ++ ":" ++ _ ++ "->" ++
      (addrText (192, 168, 1, 20)).text ++ ":" ++ _ = _
    have hclient : "192.168.1.10:" = "192.168.1.10" ++ ":" := by decide
    have hserver : "->192.168.1.20:" = "->" ++ ("192.168.1.20" ++ ":") := by decide
    rw [text_default.1, text_default.2, hclient, hserver]
    simp only [String.append_assoc]
    rfl
  · rfl

/--
正解の記録が端点も書く設定。`generate_session` は packet に `client_ip` も `server_ip` も使わないので、builder の
既定の address でなければならない。
-/
structure GenSession.Labelled (sess : GenSession) : Prop extends sess.Supported where
  clientIp : sess.clientIp = "192.168.1.10"
  serverIp : sess.serverIp = "192.168.1.20"

/-- 解析は、正解の記録と証明書の列のとおりである。 -/
structure Matches (truth : Truth) (chain : List Bytes) (sa : SessionAnalysis) : Prop where
  sessionId : sa.sessionId = truth.clientIp ++ ":" ++ toString truth.clientPort ++ "->" ++
    truth.serverIp ++ ":" ++ toString truth.serverPort
  protocol : sa.protocol = truth.protocol.value
  port : sa.port = truth.port
  isStarttls : sa.isStarttls = truth.useStarttls
  isImplicitTlsPort : sa.isImplicitTlsPort = truth.implicitTls
  startedTls : sa.startedTls = true
  tlsVersion : sa.tlsVersion = truth.tlsVersionRaw
  /-- SSL 3.0 の名だけは、生成器と解析とで異なる。 -/
  versionName : sa.negotiatedVersionName =
    if truth.tlsVersionRaw = some 0x0300 then some "SSLv3.0" else truth.tlsVersion
  cipher : sa.cipher = truth.cipher
  cipherIana : sa.cipherIana.map hex = truth.cipherSuiteIana
  cipherStrength : sa.cipherStrength = truth.cipherStrength
  pfs : sa.cipherMeta.map (·.pfs) = truth.pfs
  keyLen : sa.cipherMeta.map (·.keyLen) = truth.keyLen
  sni : sa.clientHello.bind (·.sni) = some truth.sni.toList
  chain : sa.certificate.map (·.rawCerts) = some chain

/-- 短い bytes を証明書とする library。 -/
def shortLib : CertLib where
  sharedRoot := [0x30, 1]
  evilRoot := [0x30, 2]
  issueLeaf root _ _ _ _ := some (0x30 :: root)
  makeSelfSigned _ := some [0x30, 3]
  makeWeakSignatureCert _ root := some (0x31 :: root)

/-- STARTTLS から TLS 1.3 に移る SMTP の設定。 -/
def submissionSession : GenSession where
  name := "smtp_tls13"
  protocol := .smtp
  port := 587
  useStarttls := true
  tlsVersion := 0x0304
  cipher := "TLS_AES_256_GCM_SHA384"
  certMode := .valid

end CipherPost.Parsing.Corpus
