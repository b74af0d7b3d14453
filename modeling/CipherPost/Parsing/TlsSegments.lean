import CipherPost.Parsing.SessionAnalysis
import CipherPost.Parsing.Reassembly

/-!
# stream から session へ

組み立てた二本の bytes から `Session` を作る。`app/parsing/tls_records.py` の走査と、
`app/parsing/reassembly.py` の `detect_protocol`・`_assign_tls_segments`・`emit`。

* `validRecordAt`・`findTlsOffset`・`findStarttlsOffset` — TLS の始まる位置を探す
* `detectProtocol` — port と、平文の中の語から protocol を決める
* `assignTlsSegments` — 平文と TLS の部分に分ける
* `StreamAssembler.emit` — 完結した stream の session
-/

namespace CipherPost.Parsing

/-! ## TLS の始まる位置 -/

/-- ASCII の文字列の bytes。 -/
def ascii (s : String) : Bytes := s.toList.map fun c => UInt8.ofNat c.toNat

/-- `data.find(sub)`。 -/
def find (sub : Bytes) : Bytes → Option Nat
  | [] => if sub = [] then some 0 else none
  | b :: l => if sub <+: b :: l then some 0 else (find sub l).map (· + 1)

/-- `bytes.upper()`。 -/
def upper (data : Bytes) : Bytes :=
  data.map fun b => if 0x61 ≤ b ∧ b ≤ 0x7A then b - 0x20 else b

/-- `_valid_record_at`。record の種類と長さを返す。 -/
def validRecordAt (data : Bytes) (pos : Nat) : Option (Nat × Nat) :=
  if data.length < pos + 5 then none
  else
    let ct := fromBytes (slice data pos (pos + 1))
    let version := fromBytes (slice data (pos + 1) (pos + 3))
    let length := fromBytes (slice data (pos + 3) (pos + 5))
    if ct ∉ [20, 21, 22, 23] then none
    else if version ∉ [0x0300, 0x0301, 0x0302, 0x0303, 0x0304] then none
    else if 65535 + 2048 < length then none
    else if data.length < pos + 5 + length then none
    else some (ct, length)

/-- `find_tls_offset`。先頭から 8192 の位置までを調べる。 -/
def findTlsOffset (data : Bytes) : Option Nat :=
  -- 五 byte より短ければ `limit` は負になり、loop は回らない
  if data.length < 5 then none
  else (List.range (min (data.length - 5) 8192 + 1)).find? fun pos => (validRecordAt data pos).isSome

/-- `STARTTLS_COMMANDS.get(protocol)`。 -/
def starttlsCommand : Protocol → Option Bytes
  | .smtp => some (ascii "STARTTLS")
  | .imap => some (ascii "STARTTLS")
  | .pop3 => some (ascii "STLS")
  | .unknown => none

/-- `find_starttls_offset`。命令の行の直後の位置。 -/
def findStarttlsOffset (data : Bytes) (protocol : Protocol) : Option Nat :=
  (starttlsCommand protocol).bind fun cmd => (find cmd data).bind fun idx =>
    (find [13, 10] (data.drop idx)).map fun eol => idx + eol + 2

/-! ## protocol -/

/-- `PORT_TO_PROTO`。 -/
def PORT_TO_PROTO : List (Nat × Protocol) :=
  [(25, .smtp), (465, .smtp), (587, .smtp), (110, .pop3), (995, .pop3), (143, .imap), (993, .imap)]

/-- `PROTOCOL_BANNER_MARKERS`。 -/
def PROTOCOL_BANNER_MARKERS : List (Bytes × Protocol) :=
  [(ascii "ESMTP", .smtp), (ascii "Dovecot", .imap), (ascii "IMAP4", .imap), (ascii "+OK", .pop3)]

/-- client の命令から protocol を決める表。 -/
def clientCommands : List (Bytes × Protocol) :=
  [(ascii "EHLO", .smtp), (ascii "MAIL FROM", .smtp), (ascii "LOGIN", .imap), (ascii "a001", .imap),
    (ascii "USER", .pop3), (ascii "PASS", .pop3)]

/-- 表の語のうち、最初に `probe` に現れるもの。 -/
def firstMarker (markers : List (Bytes × Protocol)) (probe : Bytes) : Option Protocol :=
  (markers.find? fun m => decide (m.1 <:+: probe)).map Prod.snd

/-- `detect_protocol`。protocol と、port で決めたか。 -/
def detectProtocol (serverPort : Nat) (client server : Bytes) : Protocol × Bool :=
  match PORT_TO_PROTO.lookup serverPort with
  | some protocol => (protocol, true)
  | none =>
    let probe := upper (server.take 4096 ++ [0] ++ client.take 4096)
    (((firstMarker PROTOCOL_BANNER_MARKERS probe).or
      (firstMarker clientCommands (upper (client.take 4096)))).getD .unknown, false)

/-! ## 平文と TLS -/

/-- STARTTLS の命令の直後で TLS が始まっていれば、その位置。 -/
def starttlsTransition (protocol : Protocol) (client : Bytes) : Option Nat :=
  match findStarttlsOffset client protocol with
  | none => none
  | some off =>
    -- 平文の命令が続くだけの session を TLS と見なさない
    if off < client.length ∧ findTlsOffset (client.drop off) = some 0 then some off else none

/-- 命令が無くても、client の stream が record の列として読めれば、その最初の header の位置。 -/
def recordTransition (client : Bytes) : Option Nat :=
  match parseTlsRecords client with
  | .ok (first :: _) =>
    some ((find [UInt8.ofNat first.contentType, UInt8.ofNat (first.version >>> 8),
      UInt8.ofNat (first.version &&& 0xFF)] client).getD 0)
  | _ => none

/-- client の stream の中で TLS が始まる位置と、STARTTLS か。 -/
def tlsTransition (implicit : Bool) (protocol : Protocol) (client : Bytes) : Option Nat × Bool :=
  if implicit then (some 0, false)
  else match starttlsTransition protocol client with
    | some off => (some off, true)
    | none => (recordTransition client, false)

/-- `_assign_tls_segments`。 -/
def assignTlsSegments (sess : Session) (client server : Bytes) : Session :=
  let implicit := decide (sess.serverPort ∈ IMPLICIT_TLS_PORTS)
  match tlsTransition implicit sess.protocol client with
  | (some offset, starttls) =>
    let sess := { sess with
      isStarttls := starttls
      transitionOffset := some offset
      plaintextSegment := client.take offset
      plaintextServerSegment := if starttls then server else []
      tlsSegment := client.drop offset }
    match findTlsOffset server with
    | some so =>
      if so < server.length then
        { sess with tlsServerSegment := server.drop so, plaintextServerSegment := server.take so }
      else { sess with tlsServerSegment := server }
    | none => { sess with tlsServerSegment := server }
  | (none, _) =>
    { sess with
      plaintextSegment := client, plaintextServerSegment := server
      tlsSegment := [], tlsServerSegment := [] }

/-! ## session -/

/-- `repr(b)` の一 byte。 -/
def reprByte (quote : Char) (b : UInt8) : String :=
  let c := Char.ofNat b.toNat
  if c = quote ∨ c = Char.ofNat 0x5C then String.ofList [Char.ofNat 0x5C, c]
  else if c = '\t' then String.ofList [Char.ofNat 0x5C, 't']
  else if c = '\n' then String.ofList [Char.ofNat 0x5C, 'n']
  else if c = '\r' then String.ofList [Char.ofNat 0x5C, 'r']
  else if 0x20 ≤ b ∧ b < 0x7F then String.ofList [c]
  else String.ofList [Char.ofNat 0x5C, 'x'] ++ hexPad 2 b.toNat

/-- f-string の中の address。生の bytes は `repr` になる。 -/
def Addr.text : Addr → String
  | .str s => s
  | .bytes b =>
    let quote := if 0x27 ∈ b ∧ 0x22 ∉ b then Char.ofNat 0x22 else Char.ofNat 0x27
    String.ofList ['b', quote] ++ String.join (b.map (reprByte quote)) ++ String.ofList [quote]

namespace Stream

/-- `_resolve_client`。client は A の側か。 -/
def clientIsA (st : Stream) : Bool :=
  if st.synByA && !st.synByB then true
  else if st.synByB && !st.synByA then false
  else
    let knownA := (PORT_TO_PROTO.lookup st.portA).isSome
    let knownB := (PORT_TO_PROTO.lookup st.portB).isSome
    if knownA && !knownB then false
    else if knownB && !knownA then true
    else
      let ta := st.ha.firstTs
      let tb := st.hb.firstTs
      if ta ≠ 0 ∧ (tb = 0 ∨ ta < tb) then true
      else if tb ≠ 0 ∧ (ta = 0 ∨ tb < ta) then false
      else true

/-- 比べた後の `c == (st.ip_a, st.port_a)`。両端が同じ stream では A の側になる。 -/
def clientA (st : Stream) : Bool :=
  st.clientIsA || (decide (st.ipB = st.ipA) && decide (st.portB = st.portA))

/-- client の側の bytes。 -/
def clientBytes (st : Stream) : Bytes := (st.half st.clientA).buf

/-- server の側の bytes。 -/
def serverBytes (st : Stream) : Bytes := (st.half !st.clientA).buf

/-- protocol を決める前の session。 -/
def openSession (st : Stream) : Session :=
  let (cIp, cPort, sIp, sPort) :=
    if st.clientA then (st.ipA.text, st.portA, st.ipB.text, st.portB)
    else (st.ipB.text, st.portB, st.ipA.text, st.portA)
  { protocol := .unknown
    fiveTuple := cIp ++ ":" ++ toString cPort ++ "->" ++ sIp ++ ":" ++ toString sPort
    clientIp := cIp, serverIp := sIp, clientPort := cPort, serverPort := sPort
    startTs := (st.firstTs : Rat) / 1000000 }

/-- protocol を決めて分ける。protocol の分からない stream は session にならない。 -/
def closeSession (st : Stream) (sess : Session) : Option Session :=
  let (protocol, portBased) := detectProtocol sess.serverPort st.clientBytes st.serverBytes
  if protocol = .unknown then none
  else some (assignTlsSegments { sess with protocol := protocol, portBased := portBased }
    st.clientBytes st.serverBytes)

/-- `emit` の、stream 一本の session。 -/
def session (st : Stream) : Option Session := st.closeSession st.openSession

end Stream

/-- `StreamAssembler.emit`。完結した stream の session を、接続とともに並べる。 -/
def StreamAssembler.emit (asm : StreamAssembler) : List (Key × Session) :=
  asm.streams.entries.filterMap fun e =>
    if e.2.complete then e.2.session.map fun sess => (e.1, sess) else none

end CipherPost.Parsing
