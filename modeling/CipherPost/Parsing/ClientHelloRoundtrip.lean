import CipherPost.Parsing.HelloLayout

/-!
# ClientHello の往復

RFC 8446 §4.1.2 のとおりに書いた ClientHello を、`parse_client_hello` は書いたとおりに読む。

* `ClientExtension` — extension と、その中身の形式
* `ClientHello` — 長さの収まる ClientHello
* `ClientHello.info` — 読まれるはずの欄
* `parseClientHello_encode` — 往復
-/

namespace CipherPost.Parsing

open Addr (decodeReplace)

/-! ## extension -/

/-- ClientHello の extension。parser の読まない種類は中身のまま持つ。 -/
inductive ClientExtension where
  | serverName (name : Bytes)
  | supportedGroups (groups : List UInt16)
  | signatureAlgorithms (algs : List UInt16)
  | alpn (names : List Bytes)
  | supportedVersions (versions : List UInt16)
  | pskKeyExchangeModes (modes : Bytes)
  | keyShare (shares : List (UInt16 × Bytes))
  | ecPointFormats (formats : Bytes)
  | other (etype : UInt16) (edata : Bytes)

namespace ClientExtension

def etype : ClientExtension → Nat
  | serverName _ => EXT_SNI
  | supportedGroups _ => EXT_SUPPORTED_GROUPS
  | signatureAlgorithms _ => EXT_SIG_ALGS
  | alpn _ => EXT_ALPN
  | supportedVersions _ => EXT_SUPPORTED_VERSIONS
  | pskKeyExchangeModes _ => EXT_PSK_KEX_MODES
  | keyShare _ => EXT_KEY_SHARE
  | ecPointFormats _ => 11
  | other etype _ => etype.toNat

/-- key share 一つ。 -/
def encodeShare (share : UInt16 × Bytes) : Bytes := Wire.be 2 share.1.toNat ++ Wire.vec 2 share.2

def edata : ClientExtension → Bytes
  | serverName name => Wire.vec 2 (0 :: Wire.vec 2 name)
  | supportedGroups groups => Wire.vec 2 (u16s groups)
  | signatureAlgorithms algs => Wire.vec 2 (u16s algs)
  | alpn names => Wire.vec 2 (names.flatMap (Wire.vec 1))
  | supportedVersions versions => Wire.vec 1 (u16s versions)
  | pskKeyExchangeModes modes => Wire.vec 1 modes
  | keyShare shares => Wire.vec 2 (shares.flatMap encodeShare)
  | ecPointFormats formats => Wire.vec 1 formats
  | other _ edata => edata

/-- 名は ASCII で、一 byte の長さは収まり、他の種類は parser の読む種類でない。 -/
def Fits : ClientExtension → Prop
  | serverName name => ∀ b ∈ name, b < 0x80
  | supportedGroups _ => True
  | signatureAlgorithms _ => True
  | alpn names => ∀ name ∈ names, name.length < 256 ∧ ∀ b ∈ name, b < 0x80
  | supportedVersions versions => 2 * versions.length < 256
  | pskKeyExchangeModes modes => modes.length < 256
  | keyShare _ => True
  | ecPointFormats formats => formats.length < 256
  | other etype _ => etype.toNat ∉ [EXT_SNI, EXT_SUPPORTED_GROUPS, EXT_SIG_ALGS, EXT_ALPN,
      EXT_SUPPORTED_VERSIONS, EXT_PSK_KEX_MODES, EXT_KEY_SHARE, 11]

/-- extension の書く欄。 -/
def apply (info : ClientHelloInfo) : ClientExtension → ClientHelloInfo
  | serverName name => { info with sni := some (asciiChars name) }
  | supportedGroups groups => { info with supportedGroups := groups.map UInt16.toNat }
  | signatureAlgorithms algs => { info with sigAlgs := algs.map UInt16.toNat }
  | alpn names => { info with alpn := info.alpn ++ names.map asciiChars }
  | supportedVersions versions =>
    { info with hasSupportedVersions := true, offeredVersions := versions.map UInt16.toNat }
  | pskKeyExchangeModes modes => { info with pskKexModes := modes.map UInt8.toNat }
  | keyShare shares =>
    { info with keyShareGroups := info.keyShareGroups ++ shares.map fun s => s.1.toNat }
  | ecPointFormats formats => { info with ecPointFormats := formats.map UInt8.toNat }
  | other etype _ =>
    { info with
      earlyDataOffered := info.earlyDataOffered || etype.toNat == EXT_EARLY_DATA
      echOuter := info.echOuter || etype.toNat == EXT_ECH_OUTER }

/-! ### 中身 -/

def serverName? : ClientExtension → Option (List Char)
  | serverName name => some (asciiChars name)
  | _ => none

def groups? : ClientExtension → Option (List Nat)
  | supportedGroups groups => some (groups.map UInt16.toNat)
  | _ => none

def algs? : ClientExtension → Option (List Nat)
  | signatureAlgorithms algs => some (algs.map UInt16.toNat)
  | _ => none

def names? : ClientExtension → Option (List (List Char))
  | alpn names => some (names.map asciiChars)
  | _ => none

def versions? : ClientExtension → Option (List Nat)
  | supportedVersions versions => some (versions.map UInt16.toNat)
  | _ => none

def modes? : ClientExtension → Option (List Nat)
  | pskKeyExchangeModes modes => some (modes.map UInt8.toNat)
  | _ => none

def shares? : ClientExtension → Option (List Nat)
  | keyShare shares => some (shares.map fun s => s.1.toNat)
  | _ => none

def formats? : ClientExtension → Option (List Nat)
  | ecPointFormats formats => some (formats.map UInt8.toNat)
  | _ => none

theorem etype_lt (e : ClientExtension) : e.etype < 65536 := by
  cases e with
  | other etype _ => exact etype.toNat_lt
  | _ => exact Nat.le_of_ble_eq_true rfl

/-! ## extension を読む -/

section
variable {buf : Bytes} {stop : Nat}

/-- 書いた名の列は、そのまま読める。 -/
theorem alpnFrom_encode (hstop : stop = buf.length) : ∀ {names : List Bytes} {n pos : Nat},
    At buf pos (names.flatMap (Wire.vec 1)) → names.length ≤ n →
    (∀ name ∈ names, name.length < 256 ∧ ∀ b ∈ name, b < 0x80) →
    alpnFrom buf stop n pos = .ok (names.map asciiChars) := by
  intro names
  induction names with
  | nil =>
    intro n pos h _ _
    have hlen : buf.length = pos := h.length
    cases n with
    | zero => rfl
    | succ n =>
      rw [alpnFrom, if_neg (by omega)]
      rfl
  | cons name names ih =>
    intro n pos h hn hfit
    obtain ⟨⟨hshort, hascii⟩, hnames⟩ := List.forall_mem_cons.mp hfit
    cases n with
    | zero => cases hn
    | succ n =>
      rw [List.flatMap_cons] at h
      have hlen := h.length
      rw [List.length_append, Wire.length_vec] at hlen
      have hnext : At buf (pos + 1 + name.length) (names.flatMap (Wire.vec 1)) :=
        (at_vec h).skip rfl
      rw [alpnFrom, if_pos (by omega), index_vec h]
      show (alpnFrom buf stop n (pos + 1 + (UInt8.ofNat name.length).toNat) >>= fun rest =>
        Except.ok (decodeReplace (slice buf (pos + 1)
          (pos + 1 + (UInt8.ofNat name.length).toNat)) :: rest)) = _
      rw [toNat_length hshort, slice_vec h, decodeReplace_ascii hascii,
        ih hnext (Nat.le_of_succ_le_succ hn) hnames]
      rfl

/-- 書いた key share の列は、そのまま読める。 -/
theorem keyShareFrom_encode (hstop : stop = buf.length) :
    ∀ {shares : List (UInt16 × Bytes)} {n pos : Nat},
    At buf pos (shares.flatMap encodeShare) → shares.length ≤ n → buf.length < 65536 →
    keyShareFrom buf stop n pos = shares.map fun s => s.1.toNat := by
  intro shares
  induction shares with
  | nil =>
    intro n pos h _ _
    have hlen : buf.length = pos := h.length
    cases n with
    | zero => rfl
    | succ n =>
      rw [keyShareFrom, if_neg (by omega)]
      rfl
  | cons share shares ih =>
    intro n pos h hn hbuf
    cases n with
    | zero => cases hn
    | succ n =>
      rw [List.flatMap_cons, encodeShare, List.append_assoc] at h
      have hlen := h.length
      rw [List.length_append, List.length_append, Wire.length_be, Wire.length_vec] at hlen
      have h₂ : At buf (pos + 2) (Wire.vec 2 share.2 ++ shares.flatMap encodeShare) :=
        h.skip (Wire.length_be 2 _)
      have hnext : At buf (pos + 4 + share.2.length) (shares.flatMap encodeShare) :=
        (at_vec h₂).skip rfl
      have hkex : fromBytes (slice buf (pos + 2) (pos + 4)) = share.2.length :=
        @length_at buf share.2 _ (pos + 2) 2 h₂ (by show _ < 65536; omega)
      rw [keyShareFrom, if_pos (by omega), hkex, number_at h share.1.toNat_lt,
        ih hnext (Nat.le_of_succ_le_succ hn) hbuf]
      rfl

end

/-- 書いた名は、そのまま読める。 -/
theorem sniOf_encode {name : Bytes} (hascii : ∀ b ∈ name, b < 0x80)
    (hlen : (Wire.vec 2 (0 :: Wire.vec 2 name)).length < 65536) (sni : Option (List Char)) :
    sniOf (Wire.vec 2 (0 :: Wire.vec 2 name)) sni = .ok (some (asciiChars name)) := by
  have hsize : (Wire.vec 2 (0 :: Wire.vec 2 name)).length = 5 + name.length := by
    rw [Wire.length_vec, List.length_cons, Wire.length_vec]
    omega
  have hinner : (0 :: Wire.vec 2 name).length = 3 + name.length := by
    rw [List.length_cons, Wire.length_vec]
    omega
  have h₀ := at_vec_self (k := 2) (0 :: Wire.vec 2 name)
  have h₂ : At (Wire.vec 2 (0 :: Wire.vec 2 name)) 2 (0 :: (Wire.vec 2 name ++ [])) := at_vec h₀
  have h₃ : At (Wire.vec 2 (0 :: Wire.vec 2 name)) 3 (Wire.vec 2 name ++ []) := h₂.tail
  have hlist : fromBytes (slice (Wire.vec 2 (0 :: Wire.vec 2 name)) 0 2) = 3 + name.length :=
    (length_at h₀ (by show _ < 65536; omega)).trans hinner
  have hname : fromBytes (slice (Wire.vec 2 (0 :: Wire.vec 2 name)) 3 5) = name.length :=
    length_at h₃ (by show _ < 65536; omega)
  have hslice : slice (Wire.vec 2 (0 :: Wire.vec 2 name)) 5 (5 + name.length) = name := slice_vec h₃
  rw [sniOf, if_pos (by omega), hlist, if_pos (by omega), index_at h₂]
  show (if (0 : UInt8) = 0 ∧ 5 + fromBytes (slice _ 3 5) ≤ _ then
    Except.ok (some (decodeReplace (slice _ 5 (5 + fromBytes (slice _ 3 5))))) else _) = _
  rw [hname, if_pos ⟨rfl, hsize.ge⟩, hslice, decodeReplace_ascii hascii]

/-- **extension は、書いた欄だけを書いたとおりに変える。** -/
theorem clientExtension_edata (info : ClientHelloInfo) {e : ClientExtension} (hfits : e.Fits)
    (hlen : e.edata.length < 65536) :
    clientExtension info e.etype e.edata = .ok (e.apply info) := by
  -- 二 byte の長さの付いた列は、どれも全体より短い
  have hinner : ∀ {b : Bytes}, (Wire.vec 2 b).length < 65536 →
      2 ≤ (Wire.vec 2 b).length ∧ b.length < 65536 := by
    intro b h
    rw [Wire.length_vec] at h ⊢
    omega
  have hone : ∀ b : Bytes, 1 ≤ (Wire.vec 1 b).length := by
    intro b
    rw [Wire.length_vec]
    omega
  cases e with
  | serverName name =>
    show (sniOf _ info.sni >>= fun sni => Except.ok { info with sni := sni }) = _
    rw [edata, sniOf_encode hfits hlen]
    rfl
  | supportedGroups groups =>
    show Except.ok (if 2 ≤ (Wire.vec 2 (u16s groups)).length then
      { info with supportedGroups := u16List (vector16 _) } else info) = _
    rw [if_pos (hinner hlen).1, edata, vector16_vec (hinner hlen).2, u16List_u16s]
    rfl
  | signatureAlgorithms algs =>
    show Except.ok (if 2 ≤ (Wire.vec 2 (u16s algs)).length then
      { info with sigAlgs := u16List (vector16 _) } else info) = _
    rw [if_pos (hinner hlen).1, edata, vector16_vec (hinner hlen).2, u16List_u16s]
    rfl
  | alpn names =>
    obtain ⟨htwo, hbody⟩ := hinner hlen
    have hcount : names.length ≤ (Wire.vec 2 (names.flatMap (Wire.vec 1))).length :=
      length_le_flatMap (fun name => by rw [Wire.length_vec]; omega) names
    show (if 2 ≤ (Wire.vec 2 (names.flatMap (Wire.vec 1))).length then
      alpnFrom _ (min (2 + fromBytes (slice _ 0 2)) _) _ 2 >>= fun l =>
        Except.ok { info with alpn := info.alpn ++ l } else Except.ok info) = _
    rw [if_pos htwo, edata, alpnFrom_encode (stop_of_vec hbody) (at_body 2 _) hcount hfits]
    rfl
  | supportedVersions versions =>
    show (if 1 ≤ (Wire.vec 1 (u16s versions)).length then
      vector8 _ >>= fun b => Except.ok
        { info with hasSupportedVersions := true, offeredVersions := u16List b }
      else Except.ok { info with hasSupportedVersions := true }) = _
    rw [if_pos (hone _), edata, vector8_vec (by rw [length_u16s]; exact hfits)]
    show Except.ok { info with hasSupportedVersions := true, offeredVersions := u16List _ } = _
    rw [u16List_u16s]
    rfl
  | pskKeyExchangeModes modes =>
    show (if 1 ≤ (Wire.vec 1 modes).length then
      vector8 _ >>= fun b => Except.ok { info with pskKexModes := b.map UInt8.toNat }
      else Except.ok info) = _
    rw [if_pos (hone _), edata, vector8_vec hfits]
    rfl
  | keyShare shares =>
    obtain ⟨htwo, hbody⟩ := hinner hlen
    have hcount : shares.length ≤ (Wire.vec 2 (shares.flatMap encodeShare)).length :=
      length_le_flatMap (fun share => by
        rw [encodeShare, List.length_append, Wire.length_be]
        omega) shares
    show Except.ok (if 2 ≤ (Wire.vec 2 (shares.flatMap encodeShare)).length then
      { info with keyShareGroups := info.keyShareGroups ++
          keyShareFrom _ (min (2 + fromBytes (slice _ 0 2)) _) _ 2 } else info) = _
    rw [if_pos htwo, edata, keyShareFrom_encode (stop_of_vec hbody) (at_body 2 _) hcount hlen]
    rfl
  | ecPointFormats formats =>
    show (if 1 ≤ (Wire.vec 1 formats).length then
      vector8 _ >>= fun b => Except.ok { info with ecPointFormats := b.map UInt8.toNat }
      else Except.ok info) = _
    rw [if_pos (hone _), edata, vector8_vec hfits]
    rfl
  | other etype data =>
    simp only [Fits, List.mem_cons, List.not_mem_nil, or_false, not_or] at hfits
    obtain ⟨h₀, h₁₀, h₁₃, h₁₆, h₄₃, h₄₅, h₅₁, h₁₁⟩ := hfits
    show clientExtension info etype.toNat data = .ok (apply info (other etype data))
    rw [clientExtension, if_neg h₀, if_neg h₁₀, if_neg h₁₆, if_neg h₄₃, if_neg h₁₃, if_neg h₅₁,
      if_neg h₄₅, if_neg h₁₁, apply]
    split
    · next hearly => simp [hearly, EXT_EARLY_DATA, EXT_ECH_OUTER]
    · next hearly =>
      split
      · next hech => simp [hech, EXT_EARLY_DATA, EXT_ECH_OUTER]
      · next hech =>
        rw [beq_eq_false_iff_ne.mpr hearly, beq_eq_false_iff_ne.mpr hech, Bool.or_false,
          Bool.or_false]

end ClientExtension

/-! ## ClientHello -/

/-- ClientHello。どの長さも、書く byte 数に収まる。 -/
structure ClientHello where
  legacyVersion : UInt16
  random : Bytes
  sessionId : Bytes
  cipherSuites : List UInt16
  compression : Bytes
  extensions : List ClientExtension
  random_length : random.length = 32
  sessionId_fits : sessionId.length < 256
  cipherSuites_fit : 2 * cipherSuites.length < 65536
  compression_fits : compression.length < 256
  /-- extension は 32 個までで、種類はみな異なる。 -/
  extensions_count : extensions.length ≤ 32
  extensions_types : (extensions.map ClientExtension.etype).Nodup
  extensions_fit : ∀ e ∈ extensions, e.Fits
  extensions_length :
    ((extensions.map fun e => (e.etype, e.edata)).flatMap encodeExtension).length < 65536

namespace ClientHello

/-- 種類と中身の組。 -/
def pairs (h : ClientHello) : List (Nat × Bytes) := h.extensions.map fun e => (e.etype, e.edata)

/-- RFC 8446 §4.1.2 の形式。 -/
def encode (h : ClientHello) : Bytes :=
  Wire.be 2 h.legacyVersion.toNat ++ (h.random ++ (Wire.vec 1 h.sessionId ++
    (Wire.vec 2 (u16s h.cipherSuites) ++ (Wire.vec 1 h.compression ++
      Wire.vec 2 (h.pairs.flatMap encodeExtension)))))

/-- 読まれるはずの欄。 -/
def info (h : ClientHello) : ClientHelloInfo :=
  countGrease
    { offeredVersions := (h.extensions.findSome? ClientExtension.versions?).getD []
      legacyVersion := some h.legacyVersion.toNat
      cipherSuites := h.cipherSuites.map UInt16.toNat
      sni := h.extensions.findSome? ClientExtension.serverName?
      alpn := (h.extensions.findSome? ClientExtension.names?).getD []
      supportedGroups := (h.extensions.findSome? ClientExtension.groups?).getD []
      hasSupportedVersions := h.extensions.any fun e => e.versions?.isSome
      keyShareGroups := (h.extensions.findSome? ClientExtension.shares?).getD []
      sigAlgs := (h.extensions.findSome? ClientExtension.algs?).getD []
      pskKexModes := (h.extensions.findSome? ClientExtension.modes?).getD []
      earlyDataOffered := h.extensions.any fun e => e.etype == EXT_EARLY_DATA
      echOuter := h.extensions.any fun e => e.etype == EXT_ECH_OUTER
      compression := h.compression.map UInt8.toNat
      extensionIds := h.extensions.map ClientExtension.etype
      ecPointFormats := (h.extensions.findSome? ClientExtension.formats?).getD []
      raw := h.encode }

end ClientHello

/-! ## extension の列を読む -/

attribute [ext] ClientHelloInfo

namespace ClientExtension

/-- 種類を書き足してから、extension を読む。 -/
def step (info : ClientHelloInfo) (e : ClientExtension) : ClientHelloInfo :=
  e.apply { info with extensionIds := info.extensionIds ++ [e.etype] }

theorem clientExtensions_map : ∀ {es : List ClientExtension},
    (∀ e ∈ es, e.Fits ∧ e.edata.length < 65536) → ∀ info,
    clientExtensions (es.map fun e => (e.etype, e.edata)) info = .ok (es.foldl step info) := by
  intro es
  induction es with
  | nil => exact fun _ _ => rfl
  | cons e es ih =>
    intro h info
    obtain ⟨⟨hfits, hlen⟩, hes⟩ := List.forall_mem_cons.mp h
    show (clientExtension _ e.etype e.edata >>= fun info => clientExtensions _ info) = _
    rw [clientExtension_edata _ hfits hlen]
    exact ih hes _

/-- **extension を順に読むと、どの欄も、その種類の extension の中身になる。** -/
theorem foldl_step {es : List ClientExtension} (hdiff : (es.map etype).Nodup) (raw : Bytes)
    (version : Option Nat) (suites compression : List Nat) :
    es.foldl step { raw := raw, legacyVersion := version, cipherSuites := suites
                    compression := compression } =
      { offeredVersions := (es.findSome? versions?).getD []
        legacyVersion := version
        cipherSuites := suites
        sni := es.findSome? serverName?
        alpn := (es.findSome? names?).getD []
        supportedGroups := (es.findSome? groups?).getD []
        hasSupportedVersions := es.any fun e => e.versions?.isSome
        keyShareGroups := (es.findSome? shares?).getD []
        sigAlgs := (es.findSome? algs?).getD []
        pskKexModes := (es.findSome? modes?).getD []
        earlyDataOffered := es.any fun e => e.etype == EXT_EARLY_DATA
        echOuter := es.any fun e => e.etype == EXT_ECH_OUTER
        compression := compression
        extensionIds := es.map etype
        ecPointFormats := (es.findSome? formats?).getD []
        raw := raw } := by
  refine ClientHelloInfo.ext ?offeredVersions ?legacyVersion ?cipherSuites ?sni ?alpn
    ?supportedGroups ?hasSupportedVersions ?keyShareGroups ?sigAlgs ?pskKexModes ?earlyDataOffered
    ?echOuter ?compression ?greaseCount ?extensionIds ?ecPointFormats ?raw
  case offeredVersions =>
    exact foldl_list hdiff ClientHelloInfo.offeredVersions versions? (fun _ v => v)
      (fun e => by cases e <;> first | exact .inl rfl | exact .inr rfl)
      (fun s e => by cases e <;> rfl) (fun _ => rfl) rfl
  case supportedGroups =>
    exact foldl_list hdiff ClientHelloInfo.supportedGroups groups? (fun _ v => v)
      (fun e => by cases e <;> first | exact .inl rfl | exact .inr rfl)
      (fun s e => by cases e <;> rfl) (fun _ => rfl) rfl
  case sigAlgs =>
    exact foldl_list hdiff ClientHelloInfo.sigAlgs algs? (fun _ v => v)
      (fun e => by cases e <;> first | exact .inl rfl | exact .inr rfl)
      (fun s e => by cases e <;> rfl) (fun _ => rfl) rfl
  case pskKexModes =>
    exact foldl_list hdiff ClientHelloInfo.pskKexModes modes? (fun _ v => v)
      (fun e => by cases e <;> first | exact .inl rfl | exact .inr rfl)
      (fun s e => by cases e <;> rfl) (fun _ => rfl) rfl
  case ecPointFormats =>
    exact foldl_list hdiff ClientHelloInfo.ecPointFormats formats? (fun _ v => v)
      (fun e => by cases e <;> first | exact .inl rfl | exact .inr rfl)
      (fun s e => by cases e <;> rfl) (fun _ => rfl) rfl
  -- 同じ種類が二度現れれば、次の二つの欄には足される
  case alpn =>
    exact foldl_list hdiff ClientHelloInfo.alpn names? (fun l v => l ++ v)
      (fun e => by cases e <;> first | exact .inl rfl | exact .inr rfl)
      (fun s e => by cases e <;> rfl) (fun _ => rfl) rfl
  case keyShareGroups =>
    exact foldl_list hdiff ClientHelloInfo.keyShareGroups shares? (fun l v => l ++ v)
      (fun e => by cases e <;> first | exact .inl rfl | exact .inr rfl)
      (fun s e => by cases e <;> rfl) (fun _ => rfl) rfl
  case sni =>
    exact foldl_option hdiff ClientHelloInfo.sni serverName?
      (fun e => by cases e <;> first | exact .inl rfl | exact .inr rfl)
      (fun s e => by cases e <;> rfl) rfl
  case hasSupportedVersions =>
    exact @foldl_or _ _ step ClientHelloInfo.hasSupportedVersions _
      (fun s e => by cases e <;> first | exact (Bool.or_false _).symm | exact (Bool.or_true _).symm)
      es _
  case earlyDataOffered =>
    exact @foldl_or _ _ step ClientHelloInfo.earlyDataOffered _
      (fun s e => by cases e <;> first | rfl | exact (Bool.or_false _).symm) es _
  case echOuter =>
    exact @foldl_or _ _ step ClientHelloInfo.echOuter _
      (fun s e => by cases e <;> first | rfl | exact (Bool.or_false _).symm) es _
  case extensionIds =>
    exact @foldl_concat _ _ _ step ClientHelloInfo.extensionIds etype
      (fun s e => by cases e <;> rfl) es _
  case legacyVersion => exact foldl_keep (fun s e => by cases e <;> rfl) es _
  case cipherSuites => exact foldl_keep (fun s e => by cases e <;> rfl) es _
  case compression => exact foldl_keep (fun s e => by cases e <;> rfl) es _
  case greaseCount => exact foldl_keep (fun s e => by cases e <;> rfl) es _
  case raw => exact foldl_keep (fun s e => by cases e <;> rfl) es _

end ClientExtension

/-! ## 往復 -/

/-- compression と extension の列。 -/
theorem clientHelloTail_encode {buf compression exts : Bytes} {pos : Nat}
    (h : At buf pos (Wire.vec 1 compression ++ Wire.vec 2 exts)) (hcomp : compression.length < 256)
    (hexts : exts.length < 65536) (info : ClientHelloInfo) :
    clientHelloTail buf pos info =
      (clientExtensions (parseExtensions exts)
        { info with compression := compression.map UInt8.toNat }).map countGrease := by
  have hbody : At buf (pos + 1 + compression.length) (Wire.vec 2 exts ++ []) := by
    rw [List.append_nil]
    exact (at_vec h).skip rfl
  have hlen := hbody.length
  rw [List.append_nil, Wire.length_vec] at hlen
  have hextsLen : fromBytes (slice buf (pos + 1 + compression.length)
      (pos + 1 + compression.length + 2)) = exts.length := length_at hbody hexts
  have hslice : slice buf (pos + 1 + compression.length + 2)
      (pos + 1 + compression.length + 2 + exts.length) = exts := slice_vec hbody
  rw [clientHelloTail, if_neg (by omega), index_vec h]
  show (if buf.length < pos + 1 + (UInt8.ofNat compression.length).toNat then _ else _) = _
  rw [toNat_length hcomp, if_neg (by omega), slice_vec h]
  show (if buf.length < pos + 1 + compression.length + 2 then _ else _) = _
  rw [if_neg (by omega), hextsLen]
  show (if buf.length < pos + 1 + compression.length + 2 + exts.length then _ else _) = _
  rw [if_neg (by omega), hslice]
  cases clientExtensions (parseExtensions exts) _ <;> rfl

namespace ClientHello

theorem parseExtensions_pairs (h : ClientHello) :
    parseExtensions (h.pairs.flatMap encodeExtension) = h.pairs :=
  parseExtensions_map h.extensions_count ClientExtension.etype_lt h.extensions_length

/-- 並べた extension は、書いた欄になる。 -/
theorem clientExtensions_pairs (h : ClientHello) :
    (clientExtensions h.pairs
      { raw := h.encode, legacyVersion := some h.legacyVersion.toNat
        cipherSuites := h.cipherSuites.map UInt16.toNat
        compression := h.compression.map UInt8.toNat }).map countGrease = .ok h.info := by
  have hfit : ∀ e ∈ h.extensions, e.Fits ∧ e.edata.length < 65536 := fun e he =>
    ⟨h.extensions_fit e he,
      (length_le_of_mem (List.mem_map_of_mem he)).trans_lt h.extensions_length⟩
  rw [pairs, ClientExtension.clientExtensions_map hfit,
    ClientExtension.foldl_step h.extensions_types]
  rfl

/-- **書いた ClientHello は、書いたとおりに読める。** -/
theorem parseClientHello_encode (h : ClientHello) : parseClientHello h.encode = .ok h.info := by
  have h₀ : At h.encode 0 (Wire.be 2 h.legacyVersion.toNat ++ _) := At.start _
  have h₂ : At h.encode 2 (h.random ++ _) := h₀.skip (Wire.length_be 2 _)
  have h₃₄ : At h.encode 34 (Wire.vec 1 h.sessionId ++ _) := h₂.skip h.random_length
  have hsuites : At h.encode (35 + h.sessionId.length) (Wire.vec 2 (u16s h.cipherSuites) ++ _) :=
    (at_vec h₃₄).skip rfl
  have htail : At h.encode (35 + h.sessionId.length + 2 + (u16s h.cipherSuites).length)
      (Wire.vec 1 h.compression ++ Wire.vec 2 (h.pairs.flatMap encodeExtension)) :=
    (at_vec hsuites).skip rfl
  have hfit : (u16s h.cipherSuites).length < 256 ^ 2 := by
    rw [length_u16s]
    exact h.cipherSuites_fit
  have hlen := htail.length
  have hversion : fromBytes (slice h.encode 0 2) = h.legacyVersion.toNat :=
    number_at h₀ h.legacyVersion.toNat_lt
  have hcsLen : fromBytes (slice h.encode (35 + h.sessionId.length) (35 + h.sessionId.length + 2)) =
      (u16s h.cipherSuites).length := length_at hsuites hfit
  rw [parseClientHello, if_neg (by omega), hversion]
  show (if h.encode.length < 2 + 32 then _ else _) = _
  rw [if_neg (by omega), index_vec h₃₄]
  show (if h.encode.length < 35 + (UInt8.ofNat h.sessionId.length).toNat then _ else _) = _
  rw [toNat_length h.sessionId_fits, if_neg (by omega), hcsLen]
  show (if h.encode.length < 35 + h.sessionId.length + 2 + (u16s h.cipherSuites).length then _
    else _) = _
  rw [if_neg (by omega), slice_vec hsuites, u16List_u16s,
    clientHelloTail_encode htail h.compression_fits h.extensions_length]
  show (clientExtensions (parseExtensions (h.pairs.flatMap encodeExtension)) _).map _ = _
  rw [h.parseExtensions_pairs]
  exact h.clientExtensions_pairs

end ClientHello

end CipherPost.Parsing
