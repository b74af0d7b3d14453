import CipherPost.Parsing.CertificateRoundtrip
import CipherPost.Parsing.Corpus
import CipherPost.Parsing.HandshakeMessages
import CipherPost.Parsing.HelloRoundtrip
import CipherPost.Parsing.TlsScan

/-!
# 合成した TLS の bytes を読む

`generate_corpus.py` の書く record と handshake は、parser が書いた値のとおりに読む。ServerHello と TLS 1.3 の
証明書は RFC 8446 の並びではないが、parser の読み方では同じ値になる。

* `tlsRecord_eq_some` — record の形式
* `derOf_pemFromDer` — PEM の往復
* `exists_clientHello`・`exists_serverHello`・`exists_certificate` — 書けた message と、その読み
-/

namespace CipherPost.Parsing.Corpus

open Addr (decodeReplace)

/-! ## 長さ -/

section
variable {k n : Nat} {b x : Bytes}

theorem toBytes_eq_some : toBytes k n = some x ↔ n < 256 ^ k ∧ x = Wire.be k n := by
  unfold toBytes
  split
  · next h => simp [h, eq_comm]
  · next h => simp [h]

theorem withLength_eq_some : withLength k b = some x ↔ b.length < 256 ^ k ∧ x = Wire.vec k b := by
  unfold withLength
  rw [Option.map_eq_some_iff]
  constructor
  · rintro ⟨len, hlen, rfl⟩
    obtain ⟨hlt, rfl⟩ := toBytes_eq_some.mp hlen
    exact ⟨hlt, rfl⟩
  · rintro ⟨hlt, rfl⟩
    exact ⟨_, toBytes_eq_some.mpr ⟨hlt, rfl⟩, rfl⟩

end

/-- 要素ごとに書けた列は、要素ごとの値を並べたものである。 -/
theorem map_of_mapM {α β : Type} {f : α → Option β} {g : α → β} {P : α → Prop}
    (h : ∀ a b, f a = some b → P a ∧ b = g a) : ∀ {l : List α} {bs : List β},
    l.mapM f = some bs → bs = l.map g ∧ ∀ a ∈ l, P a := by
  intro l
  induction l with
  | nil =>
    intro bs hbs
    obtain rfl := Option.some.inj hbs
    exact ⟨rfl, fun _ ha => absurd ha List.not_mem_nil⟩
  | cons a l ih =>
    intro bs hbs
    rw [List.mapM_cons] at hbs
    obtain ⟨b, hb, hbs⟩ := Option.bind_eq_some_iff.mp hbs
    obtain ⟨bs', hbs', hcons⟩ := Option.bind_eq_some_iff.mp hbs
    obtain rfl := Option.some.inj hcons
    obtain ⟨hPa, rfl⟩ := h a b hb
    obtain ⟨rfl, hPl⟩ := ih hbs'
    exact ⟨rfl, List.forall_mem_cons.mpr ⟨hPa, hPl⟩⟩

/-! ## record と message -/

/-- 版の二つの bytes。 -/
theorem recordHead_eq (contentType version : Nat) :
    recordHead contentType version = UInt8.ofNat contentType :: Wire.be 2 version := by
  have hlow : ∀ n : Nat, UInt8.ofNat (n &&& 0xFF) = UInt8.ofNat n := by
    intro n
    rw [← UInt8.toNat_inj, UInt8.toNat_ofNat', UInt8.toNat_ofNat',
      show n &&& 0xFF = n % 2 ^ 8 from Nat.and_two_pow_sub_one_eq_mod n 8, Nat.mod_mod]
  rw [recordHead, hlow, hlow, be_two, Nat.shiftRight_eq_div_pow]

/-- 書けた record。 -/
theorem tlsRecord_eq_some {hs x : Bytes} {contentType version : Nat}
    (h : tlsRecord hs contentType version = some x) :
    hs.length < 65536 ∧ x = (⟨contentType, version, hs⟩ : TlsRecord).encode := by
  obtain ⟨body, hbody, rfl⟩ := Option.map_eq_some_iff.mp h
  obtain ⟨hlt, rfl⟩ := withLength_eq_some.mp hbody
  exact ⟨hlt, by rw [recordHead_eq]; rfl⟩

/-- ChangeCipherSpec の record。 -/
theorem buildChangeCipherSpec_eq (version : Nat) :
    buildChangeCipherSpec version = (⟨20, version, [1]⟩ : TlsRecord).encode := by
  have hvec : Wire.vec 2 [1] = [0, 1, 1] := by decide
  rw [buildChangeCipherSpec, recordHead_eq, TlsRecord.encode, hvec]
  rfl

/-- 書けた、暗号化された record。 -/
theorem buildEncryptedHandshake_eq_some {version : Nat} {junk : Option Bytes} {x : Bytes}
    (h : buildEncryptedHandshake version junk = some x) :
    ∃ payload : Bytes, payload.length < 65536 ∧ x = (⟨23, version, payload⟩ : TlsRecord).encode :=
  ⟨_, tlsRecord_eq_some h⟩

/-- 書けた message。 -/
theorem handshakeMessage_eq_some {mtype : UInt8} {body x : Bytes}
    (h : handshakeMessage mtype body = some x) :
    ∃ hfits : body.length < 2 ^ 24, x = (⟨mtype, body, hfits⟩ : Message).encode := by
  obtain ⟨vec, hvec, rfl⟩ := Option.map_eq_some_iff.mp h
  obtain ⟨hlt, rfl⟩ := withLength_eq_some.mp hvec
  exact ⟨hlt, rfl⟩

theorem extension_eq_some {etype : Nat} {edata x : Bytes} (h : extension etype edata = some x) :
    (etype < 65536 ∧ edata.length < 65536) ∧ x = encodeExtension (etype, edata) := by
  obtain ⟨t, ht, h⟩ := Option.bind_eq_some_iff.mp h
  obtain ⟨d, hd, h⟩ := Option.bind_eq_some_iff.mp h
  obtain ⟨htlt, rfl⟩ := toBytes_eq_some.mp ht
  obtain ⟨hdlt, rfl⟩ := withLength_eq_some.mp hd
  obtain rfl := Option.some.inj h
  exact ⟨⟨htlt, hdlt⟩, rfl⟩

/-! ## PEM -/

/-- 文字の byte。 -/
def charByte (c : Char) : UInt8 := UInt8.ofNat c.toNat

/-- base64 の文字は、空白でも `-` でもなく、byte から戻る。 -/
structure Plain (c : Char) : Prop where
  notSpace : isSpace (charByte c) = false
  notDash : charByte c ≠ 45
  back : Char.ofNat (charByte c).toNat = c

theorem plain_digit : ∀ n : Fin 64, isSpace (charByte (Base64.digit n)) = false ∧
    charByte (Base64.digit n) ≠ 45 ∧
    Char.ofNat (charByte (Base64.digit n)).toNat = Base64.digit n := by decide

theorem plain_encode {der : Bytes} {c : Char} (h : c ∈ Base64.encode der) : Plain c := by
  rcases Base64.mem_encode h with rfl | ⟨n, hn, rfl⟩
  · exact ⟨by decide, by decide, by decide⟩
  · obtain ⟨hspace, hdash, hback⟩ := plain_digit ⟨n, hn⟩
    exact ⟨hspace, hdash, hback⟩

theorem mem_wrap : ∀ {n : Nat} {l : List Char} {c : Char}, c ∈ wrap n l → c = '\n' ∨ c ∈ l := by
  intro n
  induction n with
  | zero => exact fun h => absurd h List.not_mem_nil
  | succ n ih =>
    intro l c h
    rw [wrap] at h
    split at h
    · exact .inr h
    · rcases List.mem_append.mp h with htake | hrest
      · exact .inr (List.mem_of_mem_take htake)
      · rcases List.mem_cons.mp hrest with hc | hrest
        · exact .inl hc
        · exact (ih hrest).imp id List.mem_of_mem_drop

/-- 行に分けた文字から空白を除くと、元の文字に戻る。 -/
theorem filter_wrap : ∀ {n : Nat} {l : List Char}, l.length ≤ n → (∀ c ∈ l, Plain c) →
    ((wrap n l).map charByte).filter (fun b => !isSpace b) = l.map charByte := by
  have hkeep : ∀ l : List Char, (∀ c ∈ l, Plain c) →
      (l.map charByte).filter (fun b => !isSpace b) = l.map charByte := by
    intro l hl
    refine List.filter_eq_self.mpr fun b hb => ?_
    obtain ⟨c, hc, rfl⟩ := List.mem_map.mp hb
    rw [(hl c hc).notSpace]
    rfl
  intro n
  induction n with
  | zero =>
    intro l hlen _
    rw [List.length_eq_zero_iff.mp (Nat.le_zero.mp hlen)]
    rfl
  | succ n ih =>
    intro l hlen hl
    rw [wrap]
    split
    · exact hkeep l hl
    · have hrest := ih (l := l.drop 64) (by rw [List.length_drop]; omega)
        fun c hc => hl c (List.mem_of_mem_drop hc)
      have hnewline : isSpace (charByte '\n') = true := by decide
      rw [List.map_append, List.map_cons, List.filter_append, List.filter_cons_of_neg (by simp [hnewline]),
        hkeep _ fun c hc => hl c (List.mem_of_mem_take hc), hrest, ← List.map_append,
        List.take_append_drop]

/-- **PEM の覆いを外すと、元の DER に戻る。** -/
theorem derOf_pemFromDer (der : Bytes) : derOf (pemFromDer der) = some der := by
  have hpem : pemFromDer der = PEM_BEGIN ++
      ((wrap (Base64.encode der).length (Base64.encode der)).map charByte ++ 10 :: (PEM_END ++ [10])) := by
    rw [pemFromDer, List.append_assoc, List.append_assoc]
    rfl
  have hfilter := filter_wrap (Nat.le_refl (Base64.encode der).length) fun c hc => plain_encode hc
  have hdash : (45 : UInt8) ∉ (wrap (Base64.encode der).length (Base64.encode der)).map charByte := by
    intro hmem
    obtain ⟨c, hc, hbyte⟩ := List.mem_map.mp hmem
    rcases mem_wrap hc with rfl | hc
    · exact absurd hbyte (by decide)
    · exact (plain_encode hc).notDash hbyte
  generalize (wrap (Base64.encode der).length (Base64.encode der)).map charByte = text at *
  have hinfix : ¬PEM_END <:+: text := by
    rintro ⟨pre, post, rfl⟩
    exact hdash (List.mem_append_left _ (List.mem_append_right _ (by decide)))
  have hend : find PEM_END (text ++ 10 :: (PEM_END ++ [10])) = some (text.length + 1) := by
    rw [find_skip (by decide) hinfix, find_head (List.prefix_append _ _), Option.map_some,
      Nat.zero_add]
  have hdrop : (PEM_BEGIN ++ (text ++ 10 :: (PEM_END ++ [10]))).drop (0 + PEM_BEGIN.length) =
      text ++ 10 :: (PEM_END ++ [10]) := by
    rw [Nat.zero_add, List.drop_left]
  have htake : (text ++ 10 :: (PEM_END ++ [10])).take (text.length + 1) = text ++ [10] := by
    rw [List.take_append, List.take_of_length_le (Nat.le_succ _), Nat.add_sub_cancel_left]
    rfl
  have hnewline : isSpace 10 = true := by decide
  have hback : (Base64.encode der).map (fun c => Char.ofNat (charByte c).toNat) =
      Base64.encode der :=
    (List.map_congr_left fun c hc => (plain_encode hc).back).trans (List.map_id _)
  rw [hpem, derOf, find_head (List.prefix_append _ _)]
  simp only
  rw [hdrop, hend, Option.bind_some, htake, List.filter_append, hfilter,
    List.filter_cons_of_neg (by simp [hnewline]), List.filter_nil, List.append_nil, List.map_map]
  show Base64.decodeFrom 0 0 0 ((Base64.encode der).map fun c => Char.ofNat (charByte c).toNat) = _
  rw [hback, Base64.decodeFrom_encode]

/-! ## ClientHello -/

/-- ASCII の文字列は、一文字が一 byte である。 -/
theorem encodeStr_ascii {s : String} (h : ∀ c ∈ s.toList, c.toNat < 128) :
    encodeStr s = s.toList.map charByte := by
  rw [encodeStr, List.map_eq_flatMap]
  refine List.flatMap_congr fun c hc => ?_
  have hle : c.toNat ≤ 127 := Nat.le_of_lt_succ (h c hc)
  simp [String.utf8EncodeChar, charByte, hle]

theorem charByte_ascii {c : Char} (h : c.toNat < 128) :
    charByte c < 0x80 ∧ Char.ofNat (charByte c).toNat = c := by
  have hnat : (charByte c).toNat = c.toNat := UInt8.toNat_ofNat_of_lt' (show c.toNat < 256 by omega)
  refine ⟨?_, ?_⟩
  · rw [UInt8.lt_iff_toNat_lt, hnat]
    exact h
  · rw [hnat, Char.ofNat_toNat]

theorem asciiChars_encodeStr {s : String} (h : ∀ c ∈ s.toList, c.toNat < 128) :
    asciiChars (encodeStr s) = s.toList := by
  rw [encodeStr_ascii h, asciiChars, List.map_map]
  exact (List.map_congr_left fun c hc => (charByte_ascii (h c hc)).2).trans (List.map_id _)

/-- 十六 bit に収まる整数の列。 -/
theorem u16s_of_mapM {l : List Nat} {bs : List Bytes} (h : l.mapM (toBytes 2) = some bs) :
    bs.flatten = u16s (l.map UInt16.ofNat) ∧ (l.map UInt16.ofNat).map UInt16.toNat = l := by
  obtain ⟨rfl, hfit⟩ := map_of_mapM (P := fun n => n < 256 ^ 2)
    (fun _ _ h => toBytes_eq_some.mp h) h
  have hnat : ∀ n ∈ l, (UInt16.ofNat n).toNat = n := fun n hn => UInt16.toNat_ofNat_of_lt' (hfit n hn)
  constructor
  · rw [u16s, List.flatMap_map, ← List.flatMap_def]
    exact (List.flatMap_congr fun n hn => by rw [hnat n hn]).symm
  · rw [List.map_map]
    exact (List.map_congr_left hnat).trans (List.map_id _)

/-- extension の列の bytes。 -/
def extensionBytes (es : List ClientExtension) : Bytes :=
  (es.map fun e => (e.etype, e.edata)).flatMap encodeExtension

theorem extensionBytes_append (es es' : List ClientExtension) :
    extensionBytes (es ++ es') = extensionBytes es ++ extensionBytes es' := by
  rw [extensionBytes, List.map_append, List.flatMap_append]
  rfl

theorem extensionBytes_singleton (e : ClientExtension) :
    extensionBytes [e] = encodeExtension (e.etype, e.edata) := List.append_nil _

/-- group の extension。 -/
def offeredGroups (groups : List Nat) : List ClientExtension :=
  if groups = [] then [] else [.supportedGroups (groups.map UInt16.ofNat)]

/-- ALPN の extension。 -/
def offeredNames (names : List Bytes) : List ClientExtension :=
  if names = [] then [] else [.alpn names]

theorem groupsExtension_eq_some {groups : List Nat} {x : Bytes}
    (h : groupsExtension groups = some x) :
    x = extensionBytes (offeredGroups groups) ∧
      (groups.map UInt16.ofNat).map UInt16.toNat = groups := by
  unfold groupsExtension at h
  unfold offeredGroups
  split at h
  · next hnil =>
    rw [hnil, if_pos rfl]
    exact ⟨(Option.some.inj h).symm, rfl⟩
  · next hne =>
    obtain ⟨bs, hbs, h⟩ := Option.bind_eq_some_iff.mp h
    obtain ⟨data, hdata, h⟩ := Option.bind_eq_some_iff.mp h
    obtain ⟨hflat, hback⟩ := u16s_of_mapM hbs
    obtain ⟨-, rfl⟩ := withLength_eq_some.mp hdata
    obtain ⟨-, rfl⟩ := extension_eq_some h
    rw [if_neg hne, extensionBytes_singleton, hflat]
    exact ⟨rfl, hback⟩

theorem alpnExtension_eq_some {names : List Bytes} {x : Bytes} (h : alpnExtension names = some x) :
    x = extensionBytes (offeredNames names) ∧ ∀ name ∈ names, name.length < 256 := by
  unfold alpnExtension at h
  unfold offeredNames
  split at h
  · next hnil =>
    rw [hnil, if_pos rfl]
    exact ⟨(Option.some.inj h).symm, fun _ h => absurd h List.not_mem_nil⟩
  · next hne =>
    obtain ⟨bs, hbs, h⟩ := Option.bind_eq_some_iff.mp h
    obtain ⟨data, hdata, h⟩ := Option.bind_eq_some_iff.mp h
    obtain ⟨rfl, hfit⟩ := map_of_mapM (P := fun name : Bytes => name.length < 256 ^ 1)
      (fun _ _ h => withLength_eq_some.mp h) hbs
    obtain ⟨-, rfl⟩ := withLength_eq_some.mp hdata
    obtain ⟨-, rfl⟩ := extension_eq_some h
    rw [if_neg hne, extensionBytes_singleton, ← List.flatMap_def]
    exact ⟨rfl, hfit⟩

/-- `build_client_hello` の書く extension。 -/
def offered (sni : Bytes) (groups : List Nat) (names : List Bytes) : List ClientExtension :=
  .serverName sni :: (offeredGroups groups ++ offeredNames names ++
    [.signatureAlgorithms [0x0403, 0x0401, 0x0203, 0x0201]])

/-- 書けた extension の列。 -/
theorem clientExtensionBlock_eq_some {sni : Bytes} {groups : Option (List Nat)}
    {alpn : Option (List Bytes)} {x : Bytes} (h : clientExtensionBlock sni groups alpn = some x) :
    x = extensionBytes (offered sni (groups.getD []) (alpn.getD [])) ∧
      ((groups.getD []).map UInt16.ofNat).map UInt16.toNat = groups.getD [] ∧
      ∀ name ∈ alpn.getD [], name.length < 256 := by
  obtain ⟨name, hname, h⟩ := Option.bind_eq_some_iff.mp h
  obtain ⟨sniData, hsniData, h⟩ := Option.bind_eq_some_iff.mp h
  obtain ⟨sniExt, hsniExt, h⟩ := Option.bind_eq_some_iff.mp h
  obtain ⟨groupsExt, hgroupsExt, h⟩ := Option.bind_eq_some_iff.mp h
  obtain ⟨alpnExt, halpnExt, h⟩ := Option.bind_eq_some_iff.mp h
  obtain ⟨sigData, hsigData, h⟩ := Option.bind_eq_some_iff.mp h
  obtain ⟨sigExt, hsigExt, h⟩ := Option.bind_eq_some_iff.mp h
  obtain rfl := Option.some.inj h
  obtain ⟨-, rfl⟩ := withLength_eq_some.mp hname
  obtain ⟨-, rfl⟩ := withLength_eq_some.mp hsniData
  obtain ⟨-, rfl⟩ := extension_eq_some hsniExt
  obtain ⟨-, rfl⟩ := withLength_eq_some.mp hsigData
  obtain ⟨-, rfl⟩ := extension_eq_some hsigExt
  obtain ⟨rfl, hback⟩ := groupsExtension_eq_some hgroupsExt
  obtain ⟨rfl, hfit⟩ := alpnExtension_eq_some halpnExt
  refine ⟨?_, hback, hfit⟩
  have hsig : encodeExtension (13, Wire.vec 2 [0x04, 0x03, 0x04, 0x01, 0x02, 0x03, 0x02, 0x01]) =
      extensionBytes [.signatureAlgorithms [0x0403, 0x0401, 0x0203, 0x0201]] := by decide
  have hsni : encodeExtension (0, Wire.vec 2 (0 :: Wire.vec 2 sni)) =
      extensionBytes [.serverName sni] := (extensionBytes_singleton (.serverName sni)).symm
  rw [hsig, hsni, ← extensionBytes_append, ← extensionBytes_append, ← extensionBytes_append,
    List.append_assoc, List.append_assoc, List.singleton_append, offered, List.append_assoc]

/-- extension の種類は、書く順に高々四つで、みな異なる。 -/
theorem etypes_offered (sni : Bytes) (groups : List Nat) (names : List Bytes) :
    ((offered sni groups names).map ClientExtension.etype).Nodup ∧
      (offered sni groups names).length ≤ 32 := by
  unfold offered offeredGroups offeredNames
  by_cases hgroups : groups = [] <;> by_cases hnames : names = [] <;>
    simp [hgroups, hnames, ClientExtension.etype, EXT_SNI, EXT_SUPPORTED_GROUPS, EXT_ALPN,
      EXT_SIG_ALGS]

/-- `build_client_hello` の書く ClientHello の、読まれる欄。 -/
structure HelloFields (v : Nat) (suites : List Nat) (sni : List Char) (groups : List Nat)
    (names : List Bytes) (info : ClientHelloInfo) : Prop where
  legacyVersion : info.legacyVersion = some v
  offeredVersions : info.offeredVersions = []
  hasSupportedVersions : info.hasSupportedVersions = false
  cipherSuites : info.cipherSuites = suites
  sni : info.sni = some sni
  supportedGroups : info.supportedGroups = groups
  alpn : info.alpn = names.map asciiChars
  keyShareGroups : info.keyShareGroups = []
  echOuter : info.echOuter = false
  compression : info.compression = [0]

/-- 書いた extension だけを持つ ClientHello の欄。 -/
theorem helloFields_info {h : ClientHello} {v : Nat} {suites groups : List Nat} {sni : Bytes}
    {names : List Bytes} (hext : h.extensions = offered sni groups names)
    (hv : h.legacyVersion.toNat = v) (hsuites : h.cipherSuites.map UInt16.toNat = suites)
    (hgroups : (groups.map UInt16.ofNat).map UInt16.toNat = groups) (hcomp : h.compression = [0]) :
    HelloFields v suites (asciiChars sni) groups names h.info := by
  unfold ClientHello.info countGrease
  rw [hext, offered, offeredGroups, offeredNames]
  -- 空の列の extension は書かれないので、あるかどうかの四通りで欄を読む
  by_cases hg : groups = [] <;> by_cases hn : names = []
  all_goals
    refine ⟨congrArg some hv, ?_, ?_, hsuites, ?_, ?_, ?_, ?_, ?_, ?_⟩
    all_goals
      simp [List.findSome?, hg, hn, hcomp, hgroups, ClientExtension.versions?,
        ClientExtension.serverName?, ClientExtension.groups?, ClientExtension.names?,
        ClientExtension.shares?, ClientExtension.etype, EXT_ECH_OUTER, EXT_SNI,
        EXT_SUPPORTED_GROUPS, EXT_ALPN, EXT_SIG_ALGS]

/-- **`build_client_hello` の record は、書いた値のとおりに読める。** -/
theorem exists_clientHello {v : Nat} {suites : List Nat} {sni : String} {groups : Option (List Nat)}
    {alpn : Option (List Bytes)} {x : Bytes} (h : buildClientHello v suites sni groups alpn = some x)
    (hsni : ∀ c ∈ sni.toList, c.toNat < 128)
    (hascii : ∀ name ∈ alpn.getD [], ∀ b ∈ name, b < 0x80) :
    ∃ (m : Message) (info : ClientHelloInfo), m.mtype = 1 ∧ m.encode.length < 65536 ∧
      x = (⟨22, helloRecordVersion v, m.encode⟩ : TlsRecord).encode ∧ m.body ≠ [] ∧
      parseClientHello m.body = .ok info ∧
      HelloFields v suites sni.toList (groups.getD []) (alpn.getD []) info := by
  obtain ⟨version, hversion, h⟩ := Option.bind_eq_some_iff.mp h
  obtain ⟨bs, hbs, h⟩ := Option.bind_eq_some_iff.mp h
  obtain ⟨suiteBytes, hsuites, h⟩ := Option.bind_eq_some_iff.mp h
  obtain ⟨block, hblock, h⟩ := Option.bind_eq_some_iff.mp h
  obtain ⟨extBytes, hext, h⟩ := Option.bind_eq_some_iff.mp h
  obtain ⟨hs, hhs, h⟩ := Option.bind_eq_some_iff.mp h
  obtain ⟨hv, rfl⟩ := toBytes_eq_some.mp hversion
  obtain ⟨hflat, hback⟩ := u16s_of_mapM hbs
  obtain ⟨hsuiteLen, rfl⟩ := withLength_eq_some.mp hsuites
  obtain ⟨rfl, hgroups, hnames⟩ := clientExtensionBlock_eq_some hblock
  obtain ⟨hextLen, rfl⟩ := withLength_eq_some.mp hext
  obtain ⟨hfits, rfl⟩ := handshakeMessage_eq_some hhs
  obtain ⟨hlen, rfl⟩ := tlsRecord_eq_some h
  have hsniBytes : ∀ b ∈ encodeStr sni, b < 0x80 := by
    rw [encodeStr_ascii hsni]
    intro b hb
    obtain ⟨c, hc, rfl⟩ := List.mem_map.mp hb
    exact (charByte_ascii (hsni c hc)).1
  have hfit : ∀ e ∈ offered (encodeStr sni) (groups.getD []) (alpn.getD []), e.Fits := by
    intro e he
    unfold offered offeredGroups offeredNames at he
    rcases List.mem_cons.mp he with rfl | he
    · exact hsniBytes
    · rcases List.mem_append.mp he with he | he
      · rcases List.mem_append.mp he with he | he
        · split at he
          · cases he
          · obtain rfl := List.mem_singleton.mp he
            trivial
        · split at he
          · cases he
          · obtain rfl := List.mem_singleton.mp he
            exact fun name hname => ⟨hnames name hname, hascii name hname⟩
      · obtain rfl := List.mem_singleton.mp he
        trivial
  obtain ⟨htypes, hcount⟩ := etypes_offered (encodeStr sni) (groups.getD []) (alpn.getD [])
  rw [hflat] at hsuiteLen
  let hello : ClientHello :=
    { legacyVersion := UInt16.ofNat v, random := byteRange 0 32, sessionId := []
      cipherSuites := suites.map UInt16.ofNat, compression := [0]
      extensions := offered (encodeStr sni) (groups.getD []) (alpn.getD [])
      random_length := by decide
      sessionId_fits := by decide
      cipherSuites_fit := by rw [← length_u16s]; exact hsuiteLen
      compression_fits := by decide
      extensions_count := hcount
      extensions_types := htypes
      extensions_fit := hfit
      extensions_length := hextLen }
  have hnat : (UInt16.ofNat v).toNat = v := UInt16.toNat_ofNat_of_lt' hv
  have hbody : Wire.be 2 v ++ byteRange 0 32 ++ [0x00] ++ Wire.vec 2 bs.flatten ++ [0x01, 0x00] ++
      Wire.vec 2 (extensionBytes (offered (encodeStr sni) (groups.getD []) (alpn.getD []))) =
      hello.encode := by
    have hencode : hello.encode = Wire.be 2 (UInt16.ofNat v).toNat ++ (byteRange 0 32 ++
        ([0x00] ++ (Wire.vec 2 (u16s (suites.map UInt16.ofNat)) ++ ([0x01, 0x00] ++
          Wire.vec 2 (extensionBytes (offered (encodeStr sni) (groups.getD []) (alpn.getD []))))))) :=
      rfl
    rw [hencode, hnat, hflat]
    simp only [List.append_assoc]
  refine ⟨_, hello.info, rfl, hlen, rfl, ?_, ?_, ?_⟩
  · show Wire.be 2 v ++ _ ++ _ ++ _ ++ _ ++ _ ≠ []
    simp [be_two]
  · show parseClientHello (Wire.be 2 v ++ _ ++ _ ++ _ ++ _ ++ _) = _
    rw [hbody]
    exact hello.parseClientHello_encode
  · rw [← asciiChars_encodeStr hsni]
    exact helloFields_info rfl hnat hback hgroups rfl

/-! ## ServerHello -/

/-- `build_server_hello` の書く ServerHello の、読まれる欄。 -/
structure ServerFields (v suite : Nat) (info : ServerHelloInfo) : Prop where
  negotiatedVersion : info.negotiatedVersion = some v
  legacyVersion : info.legacyVersion = some v
  cipherSuite : info.cipherSuite = some suite
  isHrr : info.isHrr = false
  downgradeSentinel : info.downgradeSentinel = none
  selectedGroup : info.selectedGroup = none
  alpn : info.alpn = []

/-- session id の無い ServerHello を、compression の手前まで読む。 -/
theorem parseServerHello_head {v suite : Nat} (hv : v < 65536) (hsuite : suite < 65536)
    {random rest : Bytes} (hrandom : random.length = 32) :
    parseServerHello (Wire.be 2 v ++ (random ++ (0 :: (Wire.be 2 suite ++ rest)))) =
      serverHelloTail (Wire.be 2 v ++ (random ++ (0 :: (Wire.be 2 suite ++ rest)))) 37
        { ServerHelloInfo.withRandom
            { raw := Wire.be 2 v ++ (random ++ (0 :: (Wire.be 2 suite ++ rest)))
              legacyVersion := some v } random with
          cipherSuite := some suite, negotiatedVersion := some v } := by
  generalize hdata : Wire.be 2 v ++ (random ++ (0 :: (Wire.be 2 suite ++ rest))) = data
  have h₀ : At data 0 (Wire.be 2 v ++ (random ++ (0 :: (Wire.be 2 suite ++ rest)))) :=
    hdata ▸ At.start _
  have h₂ : At data 2 (random ++ (0 :: (Wire.be 2 suite ++ rest))) := h₀.skip (Wire.length_be 2 _)
  have h₃₄ : At data 34 (0 :: (Wire.be 2 suite ++ rest)) := h₂.skip hrandom
  have h₃₅ : At data 35 (Wire.be 2 suite ++ rest) := h₃₄.tail
  have hlen := h₃₅.length
  rw [List.length_append, Wire.length_be] at hlen
  have hversion : fromBytes (slice data 0 2) = v := number_at h₀ hv
  have hrand : slice data 2 34 = random := slice_at h₂ hrandom
  have hcipher : fromBytes (slice data 35 37) = suite := number_at h₃₅ hsuite
  rw [parseServerHello, if_neg (by omega), if_neg (by omega), hversion, hrand]
  show (if data.length < 34 + 1 then _ else _) = _
  rw [if_neg (by omega), index_at h₃₄]
  show (if data.length < 35 then _ else _) = _
  rw [if_neg (by omega)]
  show (if data.length < 35 + 2 then _ else _) = _
  rw [if_neg (by omega)]
  show serverHelloTail data 37
    { ServerHelloInfo.withRandom { raw := data, legacyVersion := some v } random with
      cipherSuite := some (fromBytes (slice data 35 37)), negotiatedVersion := some v } = _
  rw [hcipher]

/-- TLS 1.3 の版の extension は、長さが合わないので読まれない。 -/
theorem serverHelloTail_block {v : Nat} {block buf : Bytes} {info : ServerHelloInfo}
    (hblock : serverExtensionBlock v (Wire.be 2 v) = some block) (h : At buf 37 (0 :: block))
    (hsv : info.supportedVersionsExt = none) :
    ∃ ids, serverHelloTail buf 37 info = .ok { info with extensionIds := ids } := by
  unfold serverExtensionBlock at hblock
  split at hblock
  · obtain ⟨ext, hext, hblock⟩ := Option.bind_eq_some_iff.mp hblock
    obtain ⟨⟨htype, hdata⟩, rfl⟩ := extension_eq_some hext
    obtain ⟨hlen, rfl⟩ := withLength_eq_some.mp hblock
    have hparse : parseExtensions (encodeExtension (43, 2 :: Wire.be 2 v)) =
        [(43, 2 :: Wire.be 2 v)] := by
      have hone := @parseExtensions_encode [(43, 2 :: Wire.be 2 v)] (Nat.le_of_ble_eq_true rfl)
        (by simp) (by rwa [List.flatMap_singleton])
      rwa [List.flatMap_singleton] at hone
    have hskip : serverExtension { info with extensionIds := info.extensionIds ++ [43] } 43
        (2 :: Wire.be 2 v) = .ok { info with extensionIds := info.extensionIds ++ [43] } := by
      simp [serverExtension, EXT_KEY_SHARE, EXT_ALPN]
    refine ⟨info.extensionIds ++ [43], ?_⟩
    rw [serverHelloTail_encode h hlen, hparse, serverExtensions, hskip]
    show Except.ok _ = _
    simp [hsv]
  · obtain rfl := Option.some.inj hblock
    have hlen := h.length
    rw [List.length_singleton] at hlen
    exact ⟨info.extensionIds, by rw [serverHelloTail, if_neg (by omega), if_pos (by omega)]⟩

/-- **`build_server_hello` の record は、版と暗号のとおりに読める。** -/
theorem exists_serverHello {v suite : Nat} {x : Bytes} (h : buildServerHello v suite = some x) :
    ∃ (m : Message) (info : ServerHelloInfo), m.mtype = 2 ∧ m.encode.length < 65536 ∧
      x = (⟨22, helloRecordVersion v, m.encode⟩ : TlsRecord).encode ∧ m.body ≠ [] ∧
      parseServerHello m.body = .ok info ∧ ServerFields v suite info := by
  obtain ⟨version, hversion, h⟩ := Option.bind_eq_some_iff.mp h
  obtain ⟨suiteBytes, hsuite, h⟩ := Option.bind_eq_some_iff.mp h
  obtain ⟨block, hblock, h⟩ := Option.bind_eq_some_iff.mp h
  obtain ⟨hs, hhs, h⟩ := Option.bind_eq_some_iff.mp h
  obtain ⟨hv, rfl⟩ := toBytes_eq_some.mp hversion
  obtain ⟨hsuiteLt, rfl⟩ := toBytes_eq_some.mp hsuite
  obtain ⟨hfits, rfl⟩ := handshakeMessage_eq_some hhs
  obtain ⟨hlen, rfl⟩ := tlsRecord_eq_some h
  have hbody : Wire.be 2 v ++ byteRange 32 64 ++ [0x00] ++ Wire.be 2 suite ++ [0x00] ++ block =
      Wire.be 2 v ++ (byteRange 32 64 ++ (0 :: (Wire.be 2 suite ++ 0 :: block))) := by
    simp only [List.append_assoc, List.cons_append, List.nil_append]
  have hat : At (Wire.be 2 v ++ (byteRange 32 64 ++ (0 :: (Wire.be 2 suite ++ 0 :: block)))) 37
      (0 :: block) := by
    have h₂ := (At.start (Wire.be 2 v ++ (byteRange 32 64 ++
      (0 :: (Wire.be 2 suite ++ 0 :: block))))).skip (Wire.length_be 2 _)
    exact ((h₂.skip (n := 32) (by decide)).tail).skip (Wire.length_be 2 _)
  have hhead := @parseServerHello_head v suite hv hsuiteLt (byteRange 32 64) (0 :: block) (by decide)
  have hhrr : byteRange 32 64 ≠ HRR_RANDOM := by decide
  have h12 : (byteRange 32 64).drop 24 ≠ DOWNGRAD_SENTINEL_TLS12 := by decide
  have h11 : (byteRange 32 64).drop 24 ≠ DOWNGRAD_SENTINEL_TLS11 := by decide
  obtain ⟨ids, htail⟩ := @serverHelloTail_block v block _
    { ServerHelloInfo.withRandom
      { raw := Wire.be 2 v ++ (byteRange 32 64 ++ (0 :: (Wire.be 2 suite ++ 0 :: block)))
        legacyVersion := some v } (byteRange 32 64) with
      cipherSuite := some suite, negotiatedVersion := some v } hblock hat
    (by rw [withRandom_eq _ _ rfl rfl])
  refine ⟨_, _, rfl, hlen, rfl, ?_, (congrArg parseServerHello hbody).trans (hhead.trans htail), ?_⟩
  · show Wire.be 2 v ++ _ ++ _ ++ _ ++ _ ++ _ ≠ []
    simp [be_two]
  · rw [withRandom_eq _ _ rfl rfl]
    exact ⟨rfl, rfl, rfl, decide_eq_false hhrr, by simp only [if_neg hhrr, if_neg h12, if_neg h11],
      rfl, rfl⟩

/-! ## Certificate -/

/-- 証明書一つの bytes。 -/
def certBytes (tls13 : Bool) (der : Bytes) : Bytes :=
  if tls13 then encodeEntry (der, []) else Wire.vec 3 der

theorem certEntry_eq_some {tls13 : Bool} {der x : Bytes} (h : certEntry tls13 der = some x) :
    der.length < 256 ^ 3 ∧ x = certBytes tls13 der := by
  obtain ⟨entry, hentry, rfl⟩ := Option.map_eq_some_iff.mp h
  obtain ⟨hlt, rfl⟩ := withLength_eq_some.mp hentry
  have hempty : Wire.vec 2 [] = [0, 0] := by decide
  refine ⟨hlt, ?_⟩
  cases tls13 with
  | false => rfl
  | true => exact congrArg (Wire.vec 3 der ++ ·) hempty.symm

/-- PEM の列から書けた証明書の列。 -/
theorem certChain_eq_some {tls13 : Bool} {ders bs : List Bytes}
    (h : ((ders.map pemFromDer).mapM fun pem => do certEntry tls13 (← derOf pem)) = some bs) :
    bs = ders.map (certBytes tls13) ∧ ∀ der ∈ ders, der.length < 256 ^ 3 := by
  rw [List.mapM_map] at h
  refine map_of_mapM (fun der x hx => ?_) h
  have hentry : (derOf (pemFromDer der)).bind (certEntry tls13) = some x := hx
  rw [derOf_pemFromDer] at hentry
  exact certEntry_eq_some hentry

/--
TLS 1.3 の本体では、parser の読む長さは書いた長さの下の二 byte と `01` であり、列の長さより小さくならない
ので、列は bytes の終わりまで読まれる。
-/
theorem parseCertificateMessage_tls13 {ders : List Bytes} (hne : ders ≠ []) (hcount : ders.length ≤ 32)
    (hfits : ∀ der ∈ ders, der.length < 256 ^ 3) {chain : Bytes}
    (hchain : chain = ders.flatMap (certBytes true)) (hlen : chain.length < 65535) :
    parseCertificateMessage (Wire.vec 3 (1 :: chain)) true = .ok ⟨ders, true⟩ := by
  have hvec : Wire.vec 3 (1 :: chain) = UInt8.ofNat ((chain.length + 1) / 256 / 256) ::
      (Wire.be 3 ((chain.length + 1) * 256 + 1) ++ chain) := by
    have hone : UInt8.ofNat ((chain.length + 1) * 256 + 1) = 1 := by
      rw [← UInt8.toNat_inj, UInt8.toNat_ofNat']
      show ((chain.length + 1) * 256 + 1) % 256 = 1
      omega
    have hhigh : ((chain.length + 1) * 256 + 1) / 256 = chain.length + 1 := by omega
    rw [Wire.be, hone, hhigh, List.append_assoc]
    rfl
  have hat := At.start (Wire.vec 3 (1 :: chain))
  have hbody : At (Wire.vec 3 (1 :: chain)) 4 chain := by
    rw [hvec] at hat ⊢
    exact hat.tail.skip (Wire.length_be 3 _)
  have hlength : (Wire.vec 3 (1 :: chain)).length = 4 + chain.length := hbody.length
  have hnum : fromBytes (slice (Wire.vec 3 (1 :: chain)) 1 (1 + 3)) = (chain.length + 1) * 256 + 1 := by
    rw [hvec] at hat ⊢
    exact number_at hat.tail (by show _ < 16777216; omega)
  have hcerts : certs13From (Wire.vec 3 (1 :: chain)) (Wire.vec 3 (1 :: chain)).length 32 4 = ders := by
    have hentries : chain = (ders.map fun der => (der, ([] : Bytes))).flatMap encodeEntry := by
      rw [hchain, List.flatMap_map]
      rfl
    have hbody' : At (Wire.vec 3 (1 :: chain)) 4
        ((ders.map fun der => (der, ([] : Bytes))).flatMap encodeEntry) := hentries ▸ hbody
    rw [certs13From_encode hbody' ?_ ?_, List.map_map]
    · exact List.map_id _
    · rwa [List.length_map]
    · intro e he
      obtain ⟨der, hder, rfl⟩ := List.mem_map.mp he
      exact ⟨hfits der hder, Nat.two_pow_pos 16⟩
  rw [parseCertificateMessage]
  simp only [if_true]
  rw [if_neg (by omega), hnum, Nat.min_eq_right (by omega)]
  show (if certs13From (Wire.vec 3 (1 :: chain)) (Wire.vec 3 (1 :: chain)).length 32 4 = [] then _
    else _) = _
  rw [hcerts, if_neg hne]

/-- **`build_certificate_message` の record は、PEM の中の DER の列のとおりに読める。** -/
theorem exists_certificate {ders : List Bytes} {tls13 : Bool} {x : Bytes} (hne : ders ≠ [])
    (hcount : ders.length ≤ 32)
    (h : buildCertificateMessage (ders.map pemFromDer) tls13 = some x) :
    ∃ m : Message, m.mtype = 11 ∧ m.encode.length < 65536 ∧
      x = (⟨22, 0x0303, m.encode⟩ : TlsRecord).encode ∧ m.body ≠ [] ∧
      parseCertificateMessage m.body tls13 = .ok ⟨ders, tls13⟩ := by
  obtain ⟨bs, hbs, h⟩ := Option.bind_eq_some_iff.mp h
  obtain ⟨body, hbody, h⟩ := Option.bind_eq_some_iff.mp h
  obtain ⟨hs, hhs, h⟩ := Option.bind_eq_some_iff.mp h
  obtain ⟨rfl, hders⟩ := certChain_eq_some hbs
  obtain ⟨hfits, rfl⟩ := handshakeMessage_eq_some hhs
  obtain ⟨hlen, rfl⟩ := tlsRecord_eq_some h
  have hparse : body ≠ [] ∧ parseCertificateMessage body tls13 = .ok ⟨ders, tls13⟩ := by
    rw [← List.flatMap_def] at hbody
    have hbodyLen : body.length < 65536 := by
      simp only [Message.encode, List.length_cons, Wire.length_vec] at hlen
      omega
    cases tls13 with
    | true =>
      obtain ⟨-, rfl⟩ := withLength_eq_some.mp hbody
      rw [Wire.length_vec, List.length_cons] at hbodyLen
      exact ⟨List.append_ne_nil_of_right_ne_nil _ (List.cons_ne_nil _ _),
        parseCertificateMessage_tls13 hne hcount hders rfl (by omega)⟩
    | false =>
      obtain ⟨hchain, rfl⟩ := withLength_eq_some.mp hbody
      let list : CertificateList := ⟨ders, hne, hcount, hchain⟩
      exact ⟨List.ne_nil_of_length_pos (by rw [Wire.length_vec]; omega), list.parse_encode⟩
  exact ⟨_, rfl, hlen, rfl, hparse⟩

end CipherPost.Parsing.Corpus
