import CipherPost.Parsing.ClientHelloRoundtrip

/-!
# 二つの hello の往復

RFC 8446 §4.1.3 のとおりに書いた ServerHello も、`parse_server_hello` は書いたとおりに読む。

* `ServerExtension`・`ServerHello` — extension と、長さの収まる ServerHello
* `ServerHello.info` — 読まれるはずの欄
* `hello_roundtrip` — 二つの hello の往復
-/

namespace CipherPost.Parsing

open Addr (decodeReplace)

attribute [ext] ServerHelloInfo

/-! ## extension -/

/-- ServerHello の extension。HelloRetryRequest の key share は group だけを持つ。 -/
inductive ServerExtension where
  | selectedVersion (version : UInt16)
  | keyShare (group : UInt16) (keyExchange : Option Bytes)
  | alpn (name : Bytes)
  | other (etype : UInt16) (edata : Bytes)

namespace ServerExtension

def etype : ServerExtension → Nat
  | selectedVersion _ => 43
  | keyShare _ _ => EXT_KEY_SHARE
  | alpn _ => EXT_ALPN
  | other etype _ => etype.toNat

def edata : ServerExtension → Bytes
  | selectedVersion version => Wire.be 2 version.toNat
  | keyShare group none => Wire.be 2 group.toNat
  | keyShare group (some kex) => Wire.be 2 group.toNat ++ Wire.vec 2 kex
  | alpn name => Wire.vec 2 (Wire.vec 1 name)
  | other _ edata => edata

/-- 名は空でない ASCII で、他の種類は parser の読む種類でない。 -/
def Fits : ServerExtension → Prop
  | selectedVersion _ => True
  | keyShare _ _ => True
  | alpn name => 0 < name.length ∧ name.length < 256 ∧ ∀ b ∈ name, b < 0x80
  | other etype _ => etype.toNat ∉ [43, EXT_KEY_SHARE, EXT_ALPN]

/-- extension の書く欄。 -/
def apply (info : ServerHelloInfo) : ServerExtension → ServerHelloInfo
  | selectedVersion version => { info with supportedVersionsExt := some version.toNat }
  | keyShare group _ => { info with selectedGroup := some group.toNat }
  | alpn name => { info with alpn := info.alpn ++ [asciiChars name] }
  | other _ _ => info

def version? : ServerExtension → Option Nat
  | selectedVersion version => some version.toNat
  | _ => none

def group? : ServerExtension → Option Nat
  | keyShare group _ => some group.toNat
  | _ => none

def names? : ServerExtension → Option (List (List Char))
  | alpn name => some [asciiChars name]
  | _ => none

theorem etype_lt (e : ServerExtension) : e.etype < 65536 := by
  cases e with
  | other etype _ => exact etype.toNat_lt
  | _ => exact Nat.le_of_ble_eq_true rfl

/-- **extension は、書いた欄だけを書いたとおりに変える。** -/
theorem serverExtension_edata (info : ServerHelloInfo) {e : ServerExtension} (hfits : e.Fits) :
    serverExtension info e.etype e.edata = .ok (e.apply info) := by
  cases e with
  | selectedVersion version =>
    rw [serverExtension, if_pos ⟨rfl, Wire.length_be 2 _⟩, edata, number_self]
    rfl
  | keyShare group kex =>
    have hgroup : 2 ≤ (keyShare group kex).edata.length ∧
        fromBytes (slice (keyShare group kex).edata 0 2) = group.toNat := by
      cases kex with
      | none => exact ⟨(Wire.length_be 2 _).ge, number_self group⟩
      | some kex =>
        refine ⟨?_, number_head group _⟩
        rw [edata, List.length_append, Wire.length_be]
        omega
    have hversion : (keyShare group kex).etype ≠ 43 := (by decide : EXT_KEY_SHARE ≠ 43)
    rw [serverExtension, if_neg fun h => hversion h.1, if_pos ⟨rfl, hgroup.1⟩, hgroup.2]
    rfl
  | alpn name =>
    obtain ⟨hpos, hshort, hascii⟩ := hfits
    have hlen : (Wire.vec 2 (Wire.vec 1 name)).length = 3 + name.length := by
      rw [Wire.length_vec, Wire.length_vec]
      omega
    have h₂ : At (Wire.vec 2 (Wire.vec 1 name)) 2 (Wire.vec 1 name ++ []) := by
      rw [List.append_nil]
      exact at_body 2 _
    have hlist : fromBytes (slice (Wire.vec 2 (Wire.vec 1 name)) 0 2) = 1 + name.length := by
      refine (length_at (at_vec_self (Wire.vec 1 name)) ?_).trans (Wire.length_vec 1 name)
      rw [Wire.length_vec]
      omega
    have hslice : slice (Wire.vec 2 (Wire.vec 1 name)) 3 (3 + name.length) = name := slice_vec h₂
    have hversion : (alpn name).etype ≠ 43 := (by decide : EXT_ALPN ≠ 43)
    have hgroup : (alpn name).etype ≠ EXT_KEY_SHARE := (by decide : EXT_ALPN ≠ EXT_KEY_SHARE)
    rw [serverExtension, if_neg fun h => hversion h.1, if_neg fun h => hgroup h.1, edata,
      if_pos ⟨rfl, by omega⟩, hlist, if_pos (by omega), index_vec h₂]
    show (if 3 + (UInt8.ofNat name.length).toNat ≤ _ then Except.ok { info with
      alpn := info.alpn ++ [decodeReplace (slice _ 3 (3 + (UInt8.ofNat name.length).toNat))] }
      else Except.ok info) = _
    rw [toNat_length hshort, if_pos hlen.ge, hslice, decodeReplace_ascii hascii]
    rfl
  | other etype data =>
    simp only [Fits, List.mem_cons, List.not_mem_nil, or_false, not_or] at hfits
    obtain ⟨h₄₃, h₅₁, h₁₆⟩ := hfits
    show serverExtension info etype.toNat data = .ok info
    rw [serverExtension, if_neg fun h => h₄₃ h.1, if_neg fun h => h₅₁ h.1, if_neg fun h => h₁₆ h.1]

/-- 種類を書き足してから、extension を読む。 -/
def step (info : ServerHelloInfo) (e : ServerExtension) : ServerHelloInfo :=
  e.apply { info with extensionIds := info.extensionIds ++ [e.etype] }

theorem serverExtensions_map : ∀ {es : List ServerExtension}, (∀ e ∈ es, e.Fits) → ∀ info,
    serverExtensions (es.map fun e => (e.etype, e.edata)) info = .ok (es.foldl step info) := by
  intro es
  induction es with
  | nil => exact fun _ _ => rfl
  | cons e es ih =>
    intro h info
    obtain ⟨hfits, hes⟩ := List.forall_mem_cons.mp h
    show (serverExtension _ e.etype e.edata >>= fun info => serverExtensions _ info) = _
    rw [serverExtension_edata _ hfits]
    exact ih hes _

/-- **extension を順に読むと、どの欄も、その種類の extension の中身になる。** -/
theorem foldl_step {es : List ServerExtension} (hdiff : (es.map etype).Nodup)
    (info : ServerHelloInfo) (hversion : info.supportedVersionsExt = none)
    (hgroup : info.selectedGroup = none) (halpn : info.alpn = []) (hids : info.extensionIds = []) :
    es.foldl step info =
      { info with
        supportedVersionsExt := es.findSome? version?
        selectedGroup := es.findSome? group?
        alpn := (es.findSome? names?).getD []
        extensionIds := es.map etype } := by
  refine ServerHelloInfo.ext ?negotiatedVersion ?legacyVersion ?cipherSuite ?supportedVersionsExt
    ?serverRandom ?selectedGroup ?isHrr ?downgradeSentinel ?extensionIds ?alpn ?raw
  case supportedVersionsExt =>
    exact foldl_option hdiff ServerHelloInfo.supportedVersionsExt version?
      (fun e => by cases e <;> first | exact .inl rfl | exact .inr rfl)
      (fun s e => by cases e <;> rfl) hversion
  case selectedGroup =>
    exact foldl_option hdiff ServerHelloInfo.selectedGroup group?
      (fun e => by cases e <;> first | exact .inl rfl | exact .inr rfl)
      (fun s e => by cases e <;> rfl) hgroup
  case alpn =>
    exact foldl_list hdiff ServerHelloInfo.alpn names? (fun l v => l ++ v)
      (fun e => by cases e <;> first | exact .inl rfl | exact .inr rfl)
      (fun s e => by cases e <;> rfl) (fun _ => rfl) halpn
  case extensionIds =>
    refine (@foldl_concat _ _ _ step ServerHelloInfo.extensionIds etype
      (fun s e => by cases e <;> rfl) es _).trans ?_
    rw [hids]
    rfl
  case negotiatedVersion => exact foldl_keep (fun s e => by cases e <;> rfl) es _
  case legacyVersion => exact foldl_keep (fun s e => by cases e <;> rfl) es _
  case cipherSuite => exact foldl_keep (fun s e => by cases e <;> rfl) es _
  case serverRandom => exact foldl_keep (fun s e => by cases e <;> rfl) es _
  case isHrr => exact foldl_keep (fun s e => by cases e <;> rfl) es _
  case downgradeSentinel => exact foldl_keep (fun s e => by cases e <;> rfl) es _
  case raw => exact foldl_keep (fun s e => by cases e <;> rfl) es _

end ServerExtension

/-! ## ServerHello -/

/-- ServerHello。どの長さも、書く byte 数に収まる。 -/
structure ServerHello where
  legacyVersion : UInt16
  random : Bytes
  sessionIdEcho : Bytes
  cipherSuite : UInt16
  compressionMethod : UInt8
  extensions : List ServerExtension
  random_length : random.length = 32
  sessionIdEcho_fits : sessionIdEcho.length < 256
  /-- extension は 32 個までで、種類はみな異なる。 -/
  extensions_count : extensions.length ≤ 32
  extensions_types : (extensions.map ServerExtension.etype).Nodup
  extensions_fit : ∀ e ∈ extensions, e.Fits
  extensions_length :
    ((extensions.map fun e => (e.etype, e.edata)).flatMap encodeExtension).length < 65536

namespace ServerHello

/-- 種類と中身の組。 -/
def pairs (h : ServerHello) : List (Nat × Bytes) := h.extensions.map fun e => (e.etype, e.edata)

/-- RFC 8446 §4.1.3 の形式。 -/
def encode (h : ServerHello) : Bytes :=
  Wire.be 2 h.legacyVersion.toNat ++ (h.random ++ (Wire.vec 1 h.sessionIdEcho ++
    (Wire.be 2 h.cipherSuite.toNat ++ (h.compressionMethod ::
      Wire.vec 2 (h.pairs.flatMap encodeExtension)))))

/-- 読まれるはずの欄。版は、選んだ版の extension があればそれである。 -/
def info (h : ServerHello) : ServerHelloInfo where
  negotiatedVersion :=
    (h.extensions.findSome? ServerExtension.version?).or (some h.legacyVersion.toNat)
  legacyVersion := some h.legacyVersion.toNat
  cipherSuite := some h.cipherSuite.toNat
  supportedVersionsExt := h.extensions.findSome? ServerExtension.version?
  serverRandom := h.random
  selectedGroup := h.extensions.findSome? ServerExtension.group?
  isHrr := decide (h.random = HRR_RANDOM)
  downgradeSentinel :=
    if h.random = HRR_RANDOM then none
    else if h.random.drop 24 = DOWNGRAD_SENTINEL_TLS12 then some "tls12"
    else if h.random.drop 24 = DOWNGRAD_SENTINEL_TLS11 then some "tls11"
    else none
  extensionIds := h.extensions.map ServerExtension.etype
  alpn := (h.extensions.findSome? ServerExtension.names?).getD []
  raw := h.encode

end ServerHello

/-! ## 往復 -/

/-- random の印。 -/
theorem withRandom_eq (info : ServerHelloInfo) (random : Bytes) (hhrr : info.isHrr = false)
    (hsentinel : info.downgradeSentinel = none) :
    info.withRandom random =
      { info with
        serverRandom := random
        isHrr := decide (random = HRR_RANDOM)
        downgradeSentinel :=
          if random = HRR_RANDOM then none
          else if random.drop 24 = DOWNGRAD_SENTINEL_TLS12 then some "tls12"
          else if random.drop 24 = DOWNGRAD_SENTINEL_TLS11 then some "tls11"
          else none } := by
  rw [ServerHelloInfo.withRandom]
  by_cases hrandom : random = HRR_RANDOM
  · simp only [if_pos hrandom, decide_eq_true hrandom, ← hsentinel]
  · simp only [if_neg hrandom, decide_eq_false hrandom, ← hhrr]
    split
    · rfl
    · split
      · rfl
      · rw [← hsentinel]

/-- compression と extension の列。 -/
theorem serverHelloTail_encode {buf exts : Bytes} {pos : Nat} {compression : UInt8}
    (h : At buf pos (compression :: Wire.vec 2 exts)) (hexts : exts.length < 65536)
    (info : ServerHelloInfo) :
    serverHelloTail buf pos info =
      (serverExtensions (parseExtensions exts) info).map fun info =>
        { info with negotiatedVersion := info.supportedVersionsExt.or info.negotiatedVersion } := by
  have hbody : At buf (pos + 1) (Wire.vec 2 exts ++ []) := by
    rw [List.append_nil]
    exact h.tail
  have hlen := hbody.length
  rw [List.append_nil, Wire.length_vec] at hlen
  have hextsLen : fromBytes (slice buf (pos + 1) (pos + 3)) = exts.length := length_at hbody hexts
  have hslice : slice buf (pos + 3) (pos + 3 + exts.length) = exts :=
    @slice_vec buf exts _ (pos + 1) 2 hbody
  rw [serverHelloTail, if_neg (by omega), if_neg (by omega), hextsLen]
  show (if buf.length < pos + 3 + exts.length then _ else _) = _
  rw [if_neg (by omega), hslice]
  cases serverExtensions (parseExtensions exts) info <;> rfl

namespace ServerHello

theorem parseExtensions_pairs (h : ServerHello) :
    parseExtensions (h.pairs.flatMap encodeExtension) = h.pairs :=
  parseExtensions_map h.extensions_count ServerExtension.etype_lt h.extensions_length

/-- **書いた ServerHello は、書いたとおりに読める。** -/
theorem parseServerHello_encode (h : ServerHello) : parseServerHello h.encode = .ok h.info := by
  have h₀ : At h.encode 0 (Wire.be 2 h.legacyVersion.toNat ++ _) := At.start _
  have h₂ : At h.encode 2 (h.random ++ _) := h₀.skip (Wire.length_be 2 _)
  have h₃₄ : At h.encode 34 (Wire.vec 1 h.sessionIdEcho ++ _) := h₂.skip h.random_length
  have hcipher : At h.encode (35 + h.sessionIdEcho.length) (Wire.be 2 h.cipherSuite.toNat ++ _) :=
    (at_vec h₃₄).skip rfl
  have htail : At h.encode (35 + h.sessionIdEcho.length + 2)
      (h.compressionMethod :: Wire.vec 2 (h.pairs.flatMap encodeExtension)) :=
    hcipher.skip (Wire.length_be 2 _)
  have hlen := htail.length
  have hversion : fromBytes (slice h.encode 0 2) = h.legacyVersion.toNat :=
    number_at h₀ h.legacyVersion.toNat_lt
  have hrandom : slice h.encode 2 34 = h.random := slice_at h₂ h.random_length
  have hsuite : fromBytes (slice h.encode (35 + h.sessionIdEcho.length)
      (35 + h.sessionIdEcho.length + 2)) = h.cipherSuite.toNat :=
    number_at hcipher h.cipherSuite.toNat_lt
  rw [parseServerHello, if_neg (by omega), if_neg (by omega), hversion, hrandom]
  show (if h.encode.length < 34 + 1 then _ else _) = _
  rw [if_neg (by omega), index_vec h₃₄]
  show (if h.encode.length < 35 + (UInt8.ofNat h.sessionIdEcho.length).toNat then _ else _) = _
  rw [toNat_length h.sessionIdEcho_fits, if_neg (by omega)]
  show (if h.encode.length < 35 + h.sessionIdEcho.length + 2 then _ else _) = _
  rw [if_neg (by omega), hsuite, serverHelloTail_encode htail h.extensions_length,
    h.parseExtensions_pairs, pairs, ServerExtension.serverExtensions_map h.extensions_fit,
    withRandom_eq _ _ rfl rfl, ServerExtension.foldl_step h.extensions_types _ rfl rfl rfl rfl]
  rfl

end ServerHello

/--
**RFC 8446 §4.1 のとおりに書いた ClientHello と ServerHello は、種類のみな異なる 32 個までの extension を
含めて、どの欄も書いたとおりに読める。**
-/
theorem hello_roundtrip :
    (∀ h : ClientHello, parseClientHello h.encode = .ok h.info) ∧
      ∀ h : ServerHello, parseServerHello h.encode = .ok h.info :=
  ⟨ClientHello.parseClientHello_encode, ServerHello.parseServerHello_encode⟩

/-- 名と版と ALPN を持つ ClientHello。 -/
def smallHello : ClientHello where
  legacyVersion := 0x0303
  random := List.replicate 32 0
  sessionId := []
  cipherSuites := [0x1301]
  compression := [0]
  extensions := [.serverName [0x61], .supportedVersions [0x0304], .alpn [[0x68, 0x32]]]
  random_length := by decide
  sessionId_fits := by decide
  cipherSuites_fit := by decide
  compression_fits := by decide
  extensions_count := by decide
  extensions_types := by decide
  extensions_fit := by simp [ClientExtension.Fits]
  extensions_length := by decide

example : smallHello.info.sni = some ['a'] ∧ smallHello.info.offeredVersions = [0x0304] ∧
    smallHello.info.alpn = [['h', '2']] ∧ smallHello.info.extensionIds = [0, 43, 16] := by decide

end CipherPost.Parsing
