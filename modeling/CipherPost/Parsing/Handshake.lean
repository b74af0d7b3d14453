import CipherPost.Infra.Dict
import CipherPost.Parsing.Reassembly

/-!
# TLS の record と handshake

`app/parsing/tls_records.py` と `app/parsing/handshake.py` の parser。入力の bytes は信用しない。
長さを確かめる読み方は `TlsParseError` を出し、確かめずに `buf[pos]` を読むと `IndexError` になりうる。

* `parseTlsRecords`・`handshakeBody` — record と、種類ごとの handshake の本体
* `parseClientHello`・`parseServerHello`・`parseCertificateMessage` — handshake の parser
* `Safe` — `TlsParseError` の他の例外を出さないこと
* `safe_parseClientHello_iff` — `parse_client_hello` がそうであるための条件
-/

namespace CipherPost.Parsing

open Addr (decodeReplace)

/-! ## 読み方 -/

/-- parser の出す例外。 -/
inductive ParseError where
  /-- `TlsParseError`。 -/
  | tlsParse (message : String)
  /-- `IndexError`。 -/
  | index
  deriving Repr, DecidableEq

abbrev Parse (α : Type) : Type := Except ParseError α

/-- 二つの計算の列が値を返すのは、どちらも返すときである。 -/
theorem exists_of_bind {ε α β : Type} {r : Except ε α} {f : α → Except ε β} {b : β}
    (h : r >>= f = .ok b) : ∃ a, r = .ok a ∧ f a = .ok b := by
  cases r with
  | ok a => exact ⟨a, rfl, h⟩
  | error e => cases h

/-- `buf[i]`。 -/
def index (buf : Bytes) (i : Nat) : Parse UInt8 :=
  match buf[i]? with
  | some b => .ok b
  | none => .error .index

/-- `buf[i:j]`。 -/
def slice (buf : Bytes) (i j : Nat) : Bytes := (buf.drop i).take (j - i)

/-- `int.from_bytes(b, "big")`。 -/
def fromBytes (b : Bytes) : Nat := b.foldl (fun n x => n * 256 + x.toNat) 0

/-- 二 byte ずつの整数。半端な一 byte は捨てる。 -/
def u16List : Bytes → List Nat
  | a :: b :: rest => (a.toNat * 256 + b.toNat) :: u16List rest
  | _ => []

/-- `f"{n:0{width}x}"`。 -/
def hexPad (width n : Nat) : String :=
  let digits := Nat.toDigits 16 n
  String.ofList (List.replicate (width - digits.length) '0' ++ digits)

/-! ## record -/

/-- `TlsRecord`。 -/
structure TlsRecord where
  contentType : Nat
  version : Nat
  payload : Bytes
  deriving Repr, DecidableEq

/-- `parse_tls_records` の loop。`n` は残りの record の数である。 -/
def parseRecordsFrom (data : Bytes) : Nat → Nat → Parse (List TlsRecord)
  | 0, _ => .ok []
  | n + 1, pos =>
    if data.length - pos < 5 then .ok []
    else do
      let contentType := (← index data pos).toNat
      let version := (← index data (pos + 1)).toNat * 256 + (← index data (pos + 2)).toNat
      let length := (← index data (pos + 3)).toNat * 256 + (← index data (pos + 4)).toNat
      if contentType ∉ [20, 21, 22, 23] then
        .error (.tlsParse ("invalid TLS content type 0x" ++ hexPad 2 contentType ++ " at offset " ++
          toString pos))
      else if 65535 + 2048 < length then
        .error (.tlsParse ("absurd TLS record length " ++ toString length ++ " at offset " ++
          toString pos))
      else if data.length - pos - 5 < length then .ok []
      else do
        let rest ← parseRecordsFrom data n (pos + 5 + length)
        .ok (⟨contentType, version, slice data (pos + 5) (pos + 5 + length)⟩ :: rest)

/-- `parse_tls_records`。 -/
def parseTlsRecords (data : Bytes) : Parse (List TlsRecord) := parseRecordsFrom data 4096 0

/-- 本体が無いか空のときだけ置き換える。 -/
def keepBody (out : Dict Nat Bytes) (mtype : Nat) (body : Bytes) : Dict Nat Bytes :=
  if ((out.get? mtype).getD []).length = 0 then out.set mtype body else out

/-- record 一つの中の handshake の loop。`n` は残りの回数の上界である。 -/
def handshakeFrom (buf : Bytes) : Nat → Nat → Dict Nat Bytes → Dict Nat Bytes
  | 0, _, out => out
  | n + 1, pos, out =>
    if pos + 4 ≤ buf.length then
      let mtype := fromBytes (slice buf pos (pos + 1))
      let mlen := fromBytes (slice buf (pos + 1) (pos + 4))
      if buf.length < pos + 4 + mlen then out
      else
        handshakeFrom buf n (pos + 4 + mlen)
          (keepBody out mtype (slice buf (pos + 4) (pos + 4 + mlen)))
    else out

/-- `_handshake_body`。種類ごとに、最初の空でない本体を集める。 -/
def handshakeBody (records : List TlsRecord) : Dict Nat Bytes :=
  records.foldl (fun out rec =>
    if rec.contentType = 22 then handshakeFrom rec.payload rec.payload.length 0 out else out)
    Dict.empty

/-- `_parse_extensions`。`n` は残りの extension の数である。 -/
def parseExtensionsFrom (exts : Bytes) : Nat → Nat → List (Nat × Bytes)
  | 0, _ => []
  | n + 1, pos =>
    if pos + 4 ≤ exts.length then
      let etype := fromBytes (slice exts pos (pos + 2))
      let elen := fromBytes (slice exts (pos + 2) (pos + 4))
      if exts.length < pos + 4 + elen then []
      else (etype, slice exts (pos + 4) (pos + 4 + elen)) ::
        parseExtensionsFrom exts n (pos + 4 + elen)
    else []

def parseExtensions (exts : Bytes) : List (Nat × Bytes) := parseExtensionsFrom exts 32 0

/-! ## ClientHello -/

def EXT_SNI : Nat := 0
def EXT_SUPPORTED_GROUPS : Nat := 10
def EXT_SIG_ALGS : Nat := 13
def EXT_ALPN : Nat := 16
def EXT_EARLY_DATA : Nat := 42
def EXT_SUPPORTED_VERSIONS : Nat := 43
def EXT_PSK_KEX_MODES : Nat := 45
def EXT_KEY_SHARE : Nat := 51
def EXT_ECH_OUTER : Nat := 0xFE0D

/-- `ClientHelloInfo`。 -/
structure ClientHelloInfo where
  offeredVersions : List Nat := []
  legacyVersion : Option Nat := none
  cipherSuites : List Nat := []
  sni : Option (List Char) := none
  alpn : List (List Char) := []
  supportedGroups : List Nat := []
  hasSupportedVersions : Bool := false
  keyShareGroups : List Nat := []
  sigAlgs : List Nat := []
  pskKexModes : List Nat := []
  earlyDataOffered : Bool := false
  echOuter : Bool := false
  compression : List Nat := []
  greaseCount : Nat := 0
  extensionIds : List Nat := []
  ecPointFormats : List Nat := []
  raw : Bytes := []
  deriving Repr, DecidableEq

/-- `is_grease`。 -/
def isGrease (value : Nat) : Bool :=
  decide (value &&& 0x0F0F = 0x0A0A) && decide (0x0A0A ≤ value) && decide (value ≤ 0xFAFA)

/-- SNI の最初の名。読めなければ前の値のまま。 -/
def sniOf (edata : Bytes) (sni : Option (List Char)) : Parse (Option (List Char)) :=
  if 5 ≤ edata.length then
    if 2 + fromBytes (slice edata 0 2) ≤ edata.length then do
      let ntype ← index edata 2
      let nlen := fromBytes (slice edata 3 5)
      if ntype = 0 ∧ 5 + nlen ≤ edata.length then
        .ok (some (decodeReplace (slice edata 5 (5 + nlen))))
      else .ok sni
    else .ok sni
  else .ok sni

/-- ALPN の loop。`n` は残りの回数の上界である。 -/
def alpnFrom (edata : Bytes) (stop : Nat) : Nat → Nat → Parse (List (List Char))
  | 0, _ => .ok []
  | n + 1, pos =>
    if pos + 1 ≤ stop then do
      let pl := (← index edata pos).toNat
      let rest ← alpnFrom edata stop n (pos + 1 + pl)
      .ok (decodeReplace (slice edata (pos + 1) (pos + 1 + pl)) :: rest)
    else .ok []

/-- key share の loop。途中で切れた要素の group までは残る。 -/
def keyShareFrom (edata : Bytes) (kend : Nat) : Nat → Nat → List Nat
  | 0, _ => []
  | n + 1, kpos =>
    if kpos + 4 ≤ kend then
      fromBytes (slice edata kpos (kpos + 2)) ::
        keyShareFrom edata kend n (kpos + 4 + fromBytes (slice edata (kpos + 2) (kpos + 4)))
    else []

/-- 長さ一 byte の付いた列。 -/
def vector8 (edata : Bytes) : Parse Bytes := do
  let len ← index edata 0
  .ok (slice edata 1 (1 + len.toNat))

/-- 長さ二 byte の付いた列。 -/
def vector16 (edata : Bytes) : Bytes := slice edata 2 (2 + fromBytes (slice edata 0 2))

/-- extension 一つ。 -/
def clientExtension (info : ClientHelloInfo) (etype : Nat) (edata : Bytes) :
    Parse ClientHelloInfo :=
  if etype = EXT_SNI then do
    .ok { info with sni := ← sniOf edata info.sni }
  else if etype = EXT_SUPPORTED_GROUPS then
    .ok (if 2 ≤ edata.length then { info with supportedGroups := u16List (vector16 edata) }
      else info)
  else if etype = EXT_ALPN then
    if 2 ≤ edata.length then do
      let stop := min (2 + fromBytes (slice edata 0 2)) edata.length
      .ok { info with alpn := info.alpn ++ (← alpnFrom edata stop edata.length 2) }
    else .ok info
  else if etype = EXT_SUPPORTED_VERSIONS then
    let info := { info with hasSupportedVersions := true }
    if 1 ≤ edata.length then do
      .ok { info with offeredVersions := u16List (← vector8 edata) }
    else .ok info
  else if etype = EXT_SIG_ALGS then
    .ok (if 2 ≤ edata.length then { info with sigAlgs := u16List (vector16 edata) } else info)
  else if etype = EXT_KEY_SHARE then
    .ok (if 2 ≤ edata.length then
      let kend := min (2 + fromBytes (slice edata 0 2)) edata.length
      { info with
        keyShareGroups := info.keyShareGroups ++ keyShareFrom edata kend edata.length 2 }
      else info)
  else if etype = EXT_PSK_KEX_MODES then
    if 1 ≤ edata.length then do
      .ok { info with pskKexModes := (← vector8 edata).map UInt8.toNat }
    else .ok info
  else if etype = EXT_EARLY_DATA then .ok { info with earlyDataOffered := true }
  else if etype = EXT_ECH_OUTER then .ok { info with echOuter := true }
  else if etype = 11 then
    if 1 ≤ edata.length then do
      .ok { info with ecPointFormats := (← vector8 edata).map UInt8.toNat }
    else .ok info
  else .ok info

/-- extension を順に読む。 -/
def clientExtensions : List (Nat × Bytes) → ClientHelloInfo → Parse ClientHelloInfo
  | [], info => .ok info
  | (etype, edata) :: rest, info => do
    let info := { info with extensionIds := info.extensionIds ++ [etype] }
    clientExtensions rest (← clientExtension info etype edata)

/-- GREASE の値の数。 -/
def countGrease (info : ClientHelloInfo) : ClientHelloInfo :=
  { info with
    greaseCount := ((info.cipherSuites ++ info.supportedGroups ++ info.offeredVersions ++
      info.keyShareGroups).filter isGrease).length }

/-- `parse_client_hello` の、compression から後。 -/
def clientHelloTail (buf : Bytes) (pos : Nat) (info : ClientHelloInfo) : Parse ClientHelloInfo :=
  if buf.length ≤ pos then .ok info
  else do
    let compLen := (← index buf pos).toNat
    let pos := pos + 1
    if buf.length < pos + compLen then .error (.tlsParse "client hello truncated in compression")
    else
      let info := { info with compression := (slice buf pos (pos + compLen)).map UInt8.toNat }
      let pos := pos + compLen
      if buf.length < pos + 2 then .ok info
      else
        let extsLen := fromBytes (slice buf pos (pos + 2))
        let pos := pos + 2
        if buf.length < pos + extsLen then .error (.tlsParse "client hello truncated in extensions")
        else do
          .ok (countGrease (← clientExtensions (parseExtensions (slice buf pos (pos + extsLen))) info))

/-- `parse_client_hello`。 -/
def parseClientHello (data : Bytes) : Parse ClientHelloInfo :=
  if data.length < 2 then .error (.tlsParse "client hello truncated at legacy_version")
  else
    let info : ClientHelloInfo := { raw := data, legacyVersion := some (fromBytes (slice data 0 2)) }
    if data.length < 2 + 32 then .error (.tlsParse "client hello truncated before random")
    else do
      -- session id の長さだけは、残りがあるかを確かめずに読む
      let sidLen := (← index data 34).toNat
      if data.length < 35 + sidLen then .error (.tlsParse "client hello truncated in session id")
      else
        let pos := 35 + sidLen
        let csLen := fromBytes (slice data pos (pos + 2))
        let pos := pos + 2
        if data.length < pos + csLen then
          .error (.tlsParse "client hello truncated in cipher suites")
        else
          clientHelloTail data (pos + csLen)
            { info with cipherSuites := u16List (slice data pos (pos + csLen)) }

/-! ## ServerHello -/

def HRR_RANDOM : Bytes :=
  [0xCF, 0x21, 0xAD, 0x74, 0xE5, 0x9A, 0x61, 0x11, 0xBE, 0x1D, 0x8C, 0x02, 0x1E, 0x65, 0xB8, 0x91,
    0xC2, 0xA2, 0x11, 0x16, 0x7A, 0xBB, 0x8C, 0x5E, 0x07, 0x9E, 0x09, 0xE2, 0xC8, 0xA8, 0x33, 0x9C]

def DOWNGRAD_SENTINEL_TLS12 : Bytes := [0x44, 0x4F, 0x57, 0x4E, 0x47, 0x52, 0x44, 0x01]

def DOWNGRAD_SENTINEL_TLS11 : Bytes := [0x44, 0x4F, 0x57, 0x4E, 0x47, 0x52, 0x44, 0x00]

/-- `ServerHelloInfo`。 -/
structure ServerHelloInfo where
  negotiatedVersion : Option Nat := none
  legacyVersion : Option Nat := none
  cipherSuite : Option Nat := none
  supportedVersionsExt : Option Nat := none
  serverRandom : Bytes := []
  selectedGroup : Option Nat := none
  isHrr : Bool := false
  downgradeSentinel : Option String := none
  extensionIds : List Nat := []
  alpn : List (List Char) := []
  raw : Bytes := []
  deriving Repr, DecidableEq

/-- random の印を読む。 -/
def ServerHelloInfo.withRandom (info : ServerHelloInfo) (random : Bytes) : ServerHelloInfo :=
  let info := { info with serverRandom := random }
  if random = HRR_RANDOM then { info with isHrr := true }
  else if random.drop 24 = DOWNGRAD_SENTINEL_TLS12 then
    { info with downgradeSentinel := some "tls12" }
  else if random.drop 24 = DOWNGRAD_SENTINEL_TLS11 then
    { info with downgradeSentinel := some "tls11" }
  else info

/-- extension 一つ。 -/
def serverExtension (info : ServerHelloInfo) (etype : Nat) (edata : Bytes) :
    Parse ServerHelloInfo :=
  if etype = 43 ∧ edata.length = 2 then
    .ok { info with supportedVersionsExt := some (fromBytes (slice edata 0 2)) }
  else if etype = EXT_KEY_SHARE ∧ 2 ≤ edata.length then
    .ok { info with selectedGroup := some (fromBytes (slice edata 0 2)) }
  else if etype = EXT_ALPN ∧ 4 ≤ edata.length then
    if 1 ≤ fromBytes (slice edata 0 2) then do
      let n := (← index edata 2).toNat
      if 3 + n ≤ edata.length then
        .ok { info with alpn := info.alpn ++ [decodeReplace (slice edata 3 (3 + n))] }
      else .ok info
    else .ok info
  else .ok info

/-- extension を順に読む。 -/
def serverExtensions : List (Nat × Bytes) → ServerHelloInfo → Parse ServerHelloInfo
  | [], info => .ok info
  | (etype, edata) :: rest, info => do
    let info := { info with extensionIds := info.extensionIds ++ [etype] }
    serverExtensions rest (← serverExtension info etype edata)

/-- `parse_server_hello` の、cipher から後。compression の一 byte は読み飛ばす。 -/
def serverHelloTail (buf : Bytes) (pos : Nat) (info : ServerHelloInfo) : Parse ServerHelloInfo :=
  if buf.length < pos + 1 then .ok info
  else if buf.length < pos + 1 + 2 then .ok info
  else
    let extsLen := fromBytes (slice buf (pos + 1) (pos + 3))
    if buf.length < pos + 3 + extsLen then .ok info
    else do
      let info ← serverExtensions (parseExtensions (slice buf (pos + 3) (pos + 3 + extsLen))) info
      .ok { info with negotiatedVersion := info.supportedVersionsExt.or info.negotiatedVersion }

/-- `parse_server_hello`。 -/
def parseServerHello (data : Bytes) : Parse ServerHelloInfo :=
  if data.length < 2 then .error (.tlsParse "server hello truncated version")
  else if data.length < 2 + 32 then .error (.tlsParse "server hello truncated random")
  else
    let version := fromBytes (slice data 0 2)
    let info := ServerHelloInfo.withRandom { raw := data, legacyVersion := some version }
      (slice data 2 34)
    if data.length < 34 + 1 then .error (.tlsParse "server hello truncated sid length")
    else do
      let sidLen := (← index data 34).toNat
      let pos := 35 + sidLen
      if data.length < pos then .error (.tlsParse "server hello truncated sid")
      else if data.length < pos + 2 then .error (.tlsParse "server hello truncated cipher")
      else
        serverHelloTail data (pos + 2)
          { info with
            cipherSuite := some (fromBytes (slice data pos (pos + 2)))
            negotiatedVersion := some version }

/-! ## Certificate -/

/-- `CertificateInfo`。 -/
structure CertificateInfo where
  rawCerts : List Bytes := []
  tls13 : Bool := false
  deriving Repr, DecidableEq

/-- TLS 1.3 の証明書の loop。`n` は残りの証明書の数である。 -/
def certs13From (buf : Bytes) (stop : Nat) : Nat → Nat → List Bytes
  | 0, _ => []
  | n + 1, pos =>
    if pos < stop then
      if buf.length < pos + 3 then []
      else
        let derLen := fromBytes (slice buf pos (pos + 3))
        let pos := pos + 3
        if buf.length < pos + derLen + 2 then []
        else
          let extLen := fromBytes (slice buf (pos + derLen) (pos + derLen + 2))
          slice buf pos (pos + derLen) :: certs13From buf stop n (pos + derLen + 2 + extLen)
    else []

/-- TLS 1.2 までの証明書の loop。 -/
def certs12From (buf : Bytes) (stop : Nat) : Nat → Nat → List Bytes
  | 0, _ => []
  | n + 1, pos =>
    if pos < stop then
      if buf.length < pos + 3 then []
      else
        let derLen := fromBytes (slice buf pos (pos + 3))
        let pos := pos + 3
        if buf.length < pos + derLen then []
        else slice buf pos (pos + derLen) :: certs12From buf stop n (pos + derLen)
    else []

/-- `parse_certificate_message`。 -/
def parseCertificateMessage (data : Bytes) (isTls13 : Bool) : Parse CertificateInfo :=
  let start := if isTls13 then 1 else 0
  if data.length < start + 3 then
    .error (.tlsParse (if isTls13 then "tls13 cert truncated list length"
      else "cert truncated chain length"))
  else
    let stop := min (start + 3 + fromBytes (slice data start (start + 3))) data.length
    let certs := if isTls13 then certs13From data stop 32 (start + 3)
      else certs12From data stop 32 (start + 3)
    if certs = [] then .error (.tlsParse "certificate message contained no certificates")
    else .ok { rawCerts := certs, tls13 := isTls13 }

/-! ## 例外 -/

/-- `TlsParseError` の他の例外を出さない。 -/
def Safe {α : Type} (r : Parse α) : Prop := r ≠ .error .index

namespace Safe

variable {α β : Type}

theorem ok (a : α) : Safe (.ok a : Parse α) := by
  intro h
  cases h

theorem tlsParse (message : String) : Safe (.error (.tlsParse message) : Parse α) := by
  intro h
  rw [Except.error.injEq] at h
  cases h

theorem bind {r : Parse α} {f : α → Parse β} (h : Safe r) (hf : ∀ a, r = .ok a → Safe (f a)) :
    Safe (r >>= f) := by
  cases r with
  | ok a => exact hf a rfl
  | error e =>
    intro he
    have he' : (Except.error e : Parse β) = .error .index := he
    rw [Except.error.injEq] at he'
    exact h (he' ▸ rfl)

theorem ite {c : Prop} [Decidable c] {r r' : Parse α} (h : c → Safe r) (h' : ¬c → Safe r') :
    Safe (if c then r else r') := by
  split
  · next hc => exact h hc
  · next hc => exact h' hc

/-- 範囲の中の読み方は例外を出さない。 -/
theorem index {buf : Bytes} {i : Nat} (h : i < buf.length) : Safe (Parsing.index buf i) := by
  unfold Parsing.index
  rw [List.getElem?_eq_getElem h]
  exact ok _

end Safe

/-- 範囲の外を読むと `IndexError` になる。 -/
theorem index_eq_error {buf : Bytes} {i : Nat} (h : buf.length ≤ i) :
    index buf i = .error .index := by
  unfold index
  rw [List.getElem?_eq_none h]

/-- `TlsParseError` の他に `IndexError` しか無いので、`Safe` は値か `TlsParseError` である。 -/
theorem safe_iff {α : Type} {r : Parse α} :
    Safe r ↔ (∃ a, r = .ok a) ∨ ∃ message, r = .error (.tlsParse message) := by
  cases r with
  | ok a => exact iff_of_true (Safe.ok a) (Or.inl ⟨a, rfl⟩)
  | error e =>
    cases e with
    | tlsParse message => exact iff_of_true (Safe.tlsParse message) (Or.inr ⟨message, rfl⟩)
    | index =>
      refine iff_of_false (fun h => h rfl) ?_
      rintro (⟨a, h⟩ | ⟨message, h⟩)
      · cases h
      · rw [Except.error.injEq] at h
        cases h

/-- 五 byte 残っていることを確かめるので、record の header は読める。 -/
theorem safe_parseRecordsFrom (data : Bytes) : ∀ n pos, Safe (parseRecordsFrom data n pos)
  | 0, _ => Safe.ok _
  | n + 1, pos => by
    unfold parseRecordsFrom
    refine Safe.ite (fun _ => Safe.ok _) fun h => ?_
    have hread : ∀ k, k < 5 → Safe (index data (pos + k)) := fun k hk => Safe.index (by omega)
    refine Safe.bind (hread 0 (by omega)) fun _ _ => Safe.bind (hread 1 (by omega)) fun _ _ =>
      Safe.bind (hread 2 (by omega)) fun _ _ => Safe.bind (hread 3 (by omega)) fun _ _ =>
      Safe.bind (hread 4 (by omega)) fun _ _ => ?_
    refine Safe.ite (fun _ => Safe.tlsParse _) fun _ => Safe.ite (fun _ => Safe.tlsParse _) fun _ =>
      Safe.ite (fun _ => Safe.ok _) fun _ => ?_
    exact Safe.bind (safe_parseRecordsFrom data n _) fun _ _ => Safe.ok _

theorem safe_sniOf (edata : Bytes) (sni : Option (List Char)) : Safe (sniOf edata sni) := by
  unfold sniOf
  refine Safe.ite (fun h => Safe.ite (fun _ => ?_) fun _ => Safe.ok _) fun _ => Safe.ok _
  exact Safe.bind (Safe.index (by omega)) fun _ _ =>
    Safe.ite (fun _ => Safe.ok _) fun _ => Safe.ok _

theorem safe_alpnFrom (edata : Bytes) {stop : Nat} (hstop : stop ≤ edata.length) :
    ∀ n pos, Safe (alpnFrom edata stop n pos)
  | 0, _ => Safe.ok _
  | n + 1, pos => by
    unfold alpnFrom
    refine Safe.ite (fun h => ?_) fun _ => Safe.ok _
    exact Safe.bind (Safe.index (by omega)) fun _ _ =>
      Safe.bind (safe_alpnFrom edata hstop n _) fun _ _ => Safe.ok _

theorem safe_vector8 {edata : Bytes} (h : 1 ≤ edata.length) : Safe (vector8 edata) :=
  Safe.bind (Safe.index (by omega)) fun _ _ => Safe.ok _

/-- extension はどれも、長さを確かめてから読む。 -/
theorem safe_clientExtension (info : ClientHelloInfo) (etype : Nat) (edata : Bytes) :
    Safe (clientExtension info etype edata) := by
  have h8 : ∀ {f : Bytes → ClientHelloInfo}, 1 ≤ edata.length →
      Safe (vector8 edata >>= fun b => .ok (f b)) := fun h =>
    Safe.bind (safe_vector8 h) fun _ _ => Safe.ok _
  have halpn : ∀ {f : List (List Char) → ClientHelloInfo} {stop : Nat}, stop ≤ edata.length →
      Safe (alpnFrom edata stop edata.length 2 >>= fun l => .ok (f l)) := fun h =>
    Safe.bind (safe_alpnFrom edata h _ _) fun _ _ => Safe.ok _
  unfold clientExtension
  refine Safe.ite (fun _ => Safe.bind (safe_sniOf edata info.sni) fun _ _ => Safe.ok _) fun _ => ?_
  refine Safe.ite (fun _ => Safe.ok _) fun _ => ?_
  refine Safe.ite (fun _ => Safe.ite (fun _ => halpn (Nat.min_le_right _ _)) fun _ => Safe.ok _)
    fun _ => ?_
  refine Safe.ite (fun _ => Safe.ite (fun h => h8 h) fun _ => Safe.ok _) fun _ => ?_
  refine Safe.ite (fun _ => Safe.ok _) fun _ => Safe.ite (fun _ => Safe.ok _) fun _ => ?_
  refine Safe.ite (fun _ => Safe.ite (fun h => h8 h) fun _ => Safe.ok _) fun _ => ?_
  refine Safe.ite (fun _ => Safe.ok _) fun _ => Safe.ite (fun _ => Safe.ok _) fun _ => ?_
  exact Safe.ite (fun _ => Safe.ite (fun h => h8 h) fun _ => Safe.ok _) fun _ => Safe.ok _

theorem safe_clientExtensions : ∀ (exts : List (Nat × Bytes)) (info : ClientHelloInfo),
    Safe (clientExtensions exts info)
  | [], _ => Safe.ok _
  | (etype, edata) :: rest, _ =>
    Safe.bind (safe_clientExtension _ etype edata) fun _ _ => safe_clientExtensions rest _

theorem safe_clientHelloTail (buf : Bytes) (pos : Nat) (info : ClientHelloInfo) :
    Safe (clientHelloTail buf pos info) := by
  unfold clientHelloTail
  refine Safe.ite (fun _ => Safe.ok _) fun h => Safe.bind (Safe.index (by omega)) fun _ _ => ?_
  refine Safe.ite (fun _ => Safe.tlsParse _) fun _ => Safe.ite (fun _ => Safe.ok _) fun _ => ?_
  refine Safe.ite (fun _ => Safe.tlsParse _) fun _ => ?_
  exact Safe.bind (safe_clientExtensions _ _) fun _ _ => Safe.ok _

/-- **`parse_client_hello` が `IndexError` を出すのは、ちょうど 34 byte の入力のときだけである。** -/
theorem safe_parseClientHello_iff (data : Bytes) :
    Safe (parseClientHello data) ↔ data.length ≠ 34 := by
  by_cases hlen : data.length = 34
  · have herr : parseClientHello data = .error .index := by
      unfold parseClientHello
      rw [if_neg (by omega)]
      simp only
      rw [if_neg (by omega), index_eq_error (by omega)]
      rfl
    exact iff_of_false (fun h => h herr) (fun h => h hlen)
  · refine iff_of_true ?_ hlen
    unfold parseClientHello
    refine Safe.ite (fun _ => Safe.tlsParse _) fun _ => Safe.ite (fun _ => Safe.tlsParse _) fun h => ?_
    refine Safe.bind (Safe.index (by omega)) fun _ _ => Safe.ite (fun _ => Safe.tlsParse _) fun _ => ?_
    exact Safe.ite (fun _ => Safe.tlsParse _) fun _ => safe_clientHelloTail _ _ _

theorem safe_serverExtension (info : ServerHelloInfo) (etype : Nat) (edata : Bytes) :
    Safe (serverExtension info etype edata) := by
  unfold serverExtension
  refine Safe.ite (fun _ => Safe.ok _) fun _ => Safe.ite (fun _ => Safe.ok _) fun _ => ?_
  refine Safe.ite (fun h => Safe.ite (fun _ => ?_) fun _ => Safe.ok _) fun _ => Safe.ok _
  exact Safe.bind (Safe.index (by omega)) fun _ _ =>
    Safe.ite (fun _ => Safe.ok _) fun _ => Safe.ok _

theorem safe_serverExtensions : ∀ (exts : List (Nat × Bytes)) (info : ServerHelloInfo),
    Safe (serverExtensions exts info)
  | [], _ => Safe.ok _
  | (etype, edata) :: rest, _ =>
    Safe.bind (safe_serverExtension _ etype edata) fun _ _ => safe_serverExtensions rest _

theorem safe_serverHelloTail (buf : Bytes) (pos : Nat) (info : ServerHelloInfo) :
    Safe (serverHelloTail buf pos info) := by
  unfold serverHelloTail
  refine Safe.ite (fun _ => Safe.ok _) fun _ => Safe.ite (fun _ => Safe.ok _) fun _ => ?_
  refine Safe.ite (fun _ => Safe.ok _) fun _ => ?_
  exact Safe.bind (safe_serverExtensions _ _) fun _ _ => Safe.ok _

/-- `parse_server_hello` は、同じ読み方の前に長さを確かめる。 -/
theorem safe_parseServerHello (data : Bytes) : Safe (parseServerHello data) := by
  unfold parseServerHello
  refine Safe.ite (fun _ => Safe.tlsParse _) fun _ => Safe.ite (fun _ => Safe.tlsParse _) fun _ => ?_
  refine Safe.ite (fun _ => Safe.tlsParse _) fun h => Safe.bind (Safe.index (by omega)) fun _ _ => ?_
  refine Safe.ite (fun _ => Safe.tlsParse _) fun _ => Safe.ite (fun _ => Safe.tlsParse _) fun _ => ?_
  exact safe_serverHelloTail _ _ _

theorem safe_parseCertificateMessage (data : Bytes) (isTls13 : Bool) :
    Safe (parseCertificateMessage data isTls13) := by
  unfold parseCertificateMessage
  refine Safe.ite (fun _ => Safe.tlsParse _) fun _ => ?_
  exact Safe.ite (fun _ => Safe.tlsParse _) fun _ => Safe.ok _

end CipherPost.Parsing
