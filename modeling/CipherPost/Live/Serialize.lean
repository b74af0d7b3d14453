import CipherPost.Infra.Base64
import CipherPost.Infra.Json
import CipherPost.Parsing.SessionAnalysis

/-!
# session の直列化と、worker での受け取り

`app/live/serialize.py` の `session_to_payload`・`session_from_payload` と、`app/live/analyze.py` の
`_process_one` のうち payload を読んで row を作るところ。capture はこの組で session を送るが、
decoder は payload の型を確かめないので、値は JSON のまま残る。

* `sessionToPayload`・`sessionFromPayload` — 書く側と読む側
* `readPayload` — `_process_one` が作る row
* `sessionFromPayload_sessionToPayload` — 往復
* `readPayload_sessionToPayload` — capture の session の row
-/

namespace CipherPost.Live

open Parsing

/-! ## 書く側 -/

/-- reassembler が属性を足した session。 -/
structure CapturedSession extends Session where
  closedBy : String := "unknown"
  rawRefs : List (List Json) := []
  trackedBytes : Nat := 0

/-- base64 にした bytes。 -/
def encodeSegment (b : Bytes) : Json := .str (String.ofList (Base64.encode b))

/-- `session_to_payload` の辞書。 -/
def sessionToPayload (sess : CapturedSession) : List (String × Json) :=
  [("protocol", .str sess.protocol.value),
   ("five_tuple", .str sess.fiveTuple),
   ("client_ip", .str sess.clientIp), ("server_ip", .str sess.serverIp),
   ("client_port", .int sess.clientPort), ("server_port", .int sess.serverPort),
   ("is_starttls", .bool sess.isStarttls),
   ("transition_offset", Json.ofNat? sess.transitionOffset),
   ("plaintext_segment", encodeSegment sess.plaintextSegment),
   ("plaintext_server_segment", encodeSegment sess.plaintextServerSegment),
   ("tls_segment", encodeSegment sess.tlsSegment),
   ("tls_server_segment", encodeSegment sess.tlsServerSegment),
   ("start_ts", .float sess.startTs), ("end_ts", .float sess.endTs),
   ("port_based", .bool sess.portBased),
   ("closed_by", .str sess.closedBy),
   ("tracked_bytes", .int sess.trackedBytes),
   ("raw_refs", .arr (sess.rawRefs.map .arr))]

/-! ## 読む側 -/

/-- `session_from_payload` の出す例外。 -/
inductive DecodeError where
  | keyError (k : String)
  | valueError
  | typeError
  deriving Repr, DecidableEq

/-- `d[k]`。 -/
def subscript (d : List (String × Json)) (k : String) : Except DecodeError Json :=
  match DictList.get? k d with
  | some v => .ok v
  | none => .error (.keyError k)

/-- `d.get(k, default)`。 -/
def getDefault (d : List (String × Json)) (k : String) (default : Json) : Json :=
  (DictList.get? k d).getD default

/-- `Protocol(v)`。 -/
def protocolOf : Json → Except DecodeError Protocol
  | .str "SMTP" => .ok .smtp
  | .str "IMAP" => .ok .imap
  | .str "POP3" => .ok .pop3
  | .str "UNKNOWN" => .ok .unknown
  | _ => .error .valueError

/-- `base64.b64decode(d.get(k, "") or "")`。 -/
def segment (d : List (String × Json)) (k : String) : Except DecodeError Bytes :=
  let v := getDefault d k (.str "")
  if !v.truthy then .ok []
  else
    match v with
    | .str s =>
      match Base64.decode s.toList with
      | some b => .ok b
      | none => .error .valueError
    | _ => .error .typeError

/-- 回れなければ TypeError である。 -/
def iterate (v : Json) : Except DecodeError (List Json) :=
  match v.iter? with
  | some items => .ok items
  | none => .error .typeError

/-- `[tuple(r) for r in (d.get("raw_refs") or [])]`。 -/
def rawRefsOf (d : List (String × Json)) : Except DecodeError (List (List Json)) :=
  let v := getDefault d "raw_refs" .null
  if !v.truthy then .ok [] else do
    let items ← iterate v
    items.mapM iterate

/-- 読まれた session。型の確かめられない属性は JSON のままである。 -/
structure PayloadSession where
  protocol : Protocol
  fiveTuple : Json
  clientIp : Json
  serverIp : Json
  clientPort : Json
  serverPort : Json
  isStarttls : Json
  transitionOffset : Json
  plaintextSegment : Bytes
  plaintextServerSegment : Bytes
  tlsSegment : Bytes
  tlsServerSegment : Bytes
  startTs : Json
  endTs : Json
  portBased : Json
  closedBy : Json
  trackedBytes : Json
  rawRefs : List (List Json)

/-- 辞書の `session_from_payload`。引数は書かれた順に評価される。 -/
def sessionFromPayload (d : List (String × Json)) : Except DecodeError PayloadSession := do
  let protocol ← protocolOf (← subscript d "protocol")
  let fiveTuple ← subscript d "five_tuple"
  let clientIp ← subscript d "client_ip"
  let serverIp ← subscript d "server_ip"
  let clientPort ← subscript d "client_port"
  let serverPort ← subscript d "server_port"
  let plaintextSegment ← segment d "plaintext_segment"
  let plaintextServerSegment ← segment d "plaintext_server_segment"
  let tlsSegment ← segment d "tls_segment"
  let tlsServerSegment ← segment d "tls_server_segment"
  let rawRefs ← rawRefsOf d
  .ok { protocol, fiveTuple, clientIp, serverIp, clientPort, serverPort
        isStarttls := getDefault d "is_starttls" (.bool false)
        transitionOffset := getDefault d "transition_offset" .null
        plaintextSegment, plaintextServerSegment, tlsSegment, tlsServerSegment
        startTs := getDefault d "start_ts" (.float 0), endTs := getDefault d "end_ts" (.float 0)
        portBased := getDefault d "port_based" (.bool false)
        closedBy := getDefault d "closed_by" (.str "unknown")
        trackedBytes := getDefault d "tracked_bytes" (.int 0), rawRefs }

/-- `None` か負でない整数。 -/
def offset? : Json → Option (Option Nat)
  | .null => some none
  | v => v.nat?.map some

/-- 属性がどれも `Session` の型を持つときの session。 -/
def PayloadSession.session? (p : PayloadSession) : Option Session := do
  let fiveTuple ← p.fiveTuple.str?
  let clientIp ← p.clientIp.str?
  let serverIp ← p.serverIp.str?
  let clientPort ← p.clientPort.nat?
  let serverPort ← p.serverPort.nat?
  let isStarttls ← p.isStarttls.bool?
  let transitionOffset ← offset? p.transitionOffset
  let startTs ← p.startTs.float?
  let endTs ← p.endTs.float?
  let portBased ← p.portBased.bool?
  some { protocol := p.protocol, fiveTuple, clientIp, serverIp, clientPort, serverPort, isStarttls,
         transitionOffset, plaintextSegment := p.plaintextSegment
         plaintextServerSegment := p.plaintextServerSegment, tlsSegment := p.tlsSegment
         tlsServerSegment := p.tlsServerSegment, startTs, endTs, portBased }

/-! ## worker -/

/-- 永続化された session の row（解析から来る列）。 -/
structure StoredSession where
  protocol : String
  fiveTuple : String
  isStarttls : Bool
  tlsVersion : Option String
  negotiatedCipher : Option String
  cipherStrength : Option Nat
  keyLength : Option Nat
  pfsSupported : Option Bool
  certChainValid : Bool
  orgId : Json
  findings : List SessionFinding

/-- worker の解析器と設定。 -/
structure Worker where
  analyzer : Analyzer
  /-- 型の合わない属性を持つ session の解析。 -/
  untyped : PayloadSession → Except AnalyzeError SessionAnalysis
  singleTenant : Bool := true
  /-- `_default_org_id`。 -/
  defaultOrg : Json := .null
  /-- flow の照合と deny list が足す finding。 -/
  extra : List SessionFinding := []

/-- `_process_one` の例外。 -/
inductive ProcessError where
  | decode (e : DecodeError)
  | analyze (e : AnalyzeError)
  /-- multi-tenant での、org の無い session の拒否。 -/
  | unstamped
  deriving Repr, DecidableEq

/-- `_analyze_session`。 -/
def Worker.analyze (w : Worker) (p : PayloadSession) : Except AnalyzeError SessionAnalysis :=
  match p.session? with
  | some sess => analyzeSession w.analyzer sess
  | none => w.untyped p

/-- `_persist` が書く row。 -/
def Worker.row (w : Worker) (sa : SessionAnalysis) (org : Json) : StoredSession :=
  { protocol := sa.protocol, fiveTuple := sa.fiveTuple, isStarttls := sa.isStarttls
    tlsVersion := sa.negotiatedVersionName, negotiatedCipher := sa.cipher
    cipherStrength := sa.cipherStrength, keyLength := sa.cipherMeta.map (·.keyLen)
    pfsSupported := sa.cipherMeta.map (·.pfs), certChainValid := decide (sa.chainResult = "ok")
    orgId := org, findings := sa.findings ++ w.extra }

/-- 辞書 `d` の `_process_one` が、DB に無い session について書く row。 -/
def readPayload (w : Worker) (d : List (String × Json)) : Except ProcessError StoredSession := do
  let sess ← (sessionFromPayload d).mapError .decode
  let sa ← (w.analyze sess).mapError .analyze
  let org := getDefault d "org_id" .null
  if org.truthy then .ok (w.row sa org)
  else if w.singleTenant then .ok (w.row sa w.defaultOrg)
  else .error .unstamped

/-! ## 往復 -/

theorem protocolOf_value (p : Protocol) : protocolOf (.str p.value) = .ok p := by
  cases p <;> rfl

theorem encode_ne_nil {b : Bytes} (h : b ≠ []) : Base64.encode b ≠ [] := by
  intro he
  have hd := Base64.decode_encode b
  rw [he] at hd
  exact h (Option.some.inj hd).symm

/-- 書かれた segment は読み戻せる。 -/
theorem segment_of_get? {d : List (String × Json)} {k : String} {b : Bytes}
    (h : DictList.get? k d = some (encodeSegment b)) : segment d k = .ok b := by
  have hv : getDefault d k (.str "") = .str (String.ofList (Base64.encode b)) := by
    rw [getDefault, h]
    rfl
  rw [segment, hv]
  by_cases hb : b = []
  · rw [hb]
    rfl
  · have ht : (Json.str (String.ofList (Base64.encode b))).truthy = true := by
      refine decide_eq_true fun he => encode_ne_nil hb ?_
      rw [← String.toList_ofList (l := Base64.encode b), he]
      rfl
    simp only [ht, Bool.not_true, Bool.false_eq_true, if_false, String.toList_ofList,
      Base64.decode_encode]

theorem mapM_iterate (refs : List (List Json)) : (refs.map Json.arr).mapM iterate = .ok refs := by
  induction refs with
  | nil => rfl
  | cons r refs ih => rw [List.map_cons, List.mapM_cons, ih]; rfl

theorem rawRefsOf_of_get? {d : List (String × Json)} {refs : List (List Json)}
    (h : DictList.get? "raw_refs" d = some (.arr (refs.map .arr))) : rawRefsOf d = .ok refs := by
  have hv : getDefault d "raw_refs" .null = .arr (refs.map .arr) := by
    rw [getDefault, h]
    rfl
  rw [rawRefsOf, hv]
  cases refs with
  | nil => rfl
  | cons r refs => exact mapM_iterate (r :: refs)

/-- **capture の書いた payload は、同じ session に読み戻せる。** -/
theorem sessionFromPayload_sessionToPayload (sess : CapturedSession) :
    ∃ p, sessionFromPayload (sessionToPayload sess) = .ok p ∧ p.session? = some sess.toSession ∧
      p.rawRefs = sess.rawRefs := by
  have hp : segment (sessionToPayload sess) "plaintext_segment" = .ok sess.plaintextSegment :=
    segment_of_get? rfl
  have hps : segment (sessionToPayload sess) "plaintext_server_segment"
      = .ok sess.plaintextServerSegment := segment_of_get? rfl
  have ht : segment (sessionToPayload sess) "tls_segment" = .ok sess.tlsSegment :=
    segment_of_get? rfl
  have hts : segment (sessionToPayload sess) "tls_server_segment" = .ok sess.tlsServerSegment :=
    segment_of_get? rfl
  have hr : rawRefsOf (sessionToPayload sess) = .ok sess.rawRefs := rawRefsOf_of_get? rfl
  have hproto : subscript (sessionToPayload sess) "protocol" = .ok (.str sess.protocol.value) := rfl
  have hx {k : String} {v : Json} (h : DictList.get? k (sessionToPayload sess) = some v) :
      subscript (sessionToPayload sess) k = .ok v := by
    rw [subscript, h]
  have hoff : offset? (Json.ofNat? sess.transitionOffset) = some sess.transitionOffset := by
    cases sess.transitionOffset with
    | none => rfl
    | some n => exact congrArg (Option.map some) (Json.nat?_int n)
  simp only [sessionFromPayload, bind, Except.bind, hproto, protocolOf_value,
    hx (k := "five_tuple") rfl, hx (k := "client_ip") rfl, hx (k := "server_ip") rfl,
    hx (k := "client_port") rfl, hx (k := "server_port") rfl, hp, hps, ht, hts, hr]
  refine ⟨_, rfl, ?_, rfl⟩
  have hd {k : String} {v w : Json} (h : DictList.get? k (sessionToPayload sess) = some v) :
      getDefault (sessionToPayload sess) k w = v := by
    rw [getDefault, h]
    rfl
  simp only [PayloadSession.session?, hd (k := "is_starttls") rfl,
    hd (k := "transition_offset") rfl, hd (k := "start_ts") rfl, hd (k := "end_ts") rfl,
    hd (k := "port_based") rfl, hoff, Json.str?, Json.nat?_int, Json.bool?, Json.float?,
    Option.bind_eq_bind, Option.bind_some]

/-- single-tenant では、capture の session の row はその解析の値を持つ。 -/
theorem readPayload_sessionToPayload (w : Worker) (sess : CapturedSession) {sa : SessionAnalysis}
    (ha : analyzeSession w.analyzer sess.toSession = .ok sa) (hs : w.singleTenant = true) :
    readPayload w (sessionToPayload sess) = .ok (w.row sa w.defaultOrg) := by
  obtain ⟨p, hp, hsess, -⟩ := sessionFromPayload_sessionToPayload sess
  have horg : getDefault (sessionToPayload sess) "org_id" .null = .null := rfl
  have hw : w.analyze p = .ok sa := by rw [Worker.analyze, hsess]; exact ha
  simp only [readPayload, hp, hw, horg, hs, Except.mapError, bind, Except.bind, Json.truthy,
    Bool.false_eq_true, if_false, if_true]

end CipherPost.Live
