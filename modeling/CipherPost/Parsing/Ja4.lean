import Mathlib.Data.List.Lex
import CipherPost.Infra.JsonText
import CipherPost.Parsing.Rules

/-!
# JA3 と JA4

`app/parsing/ja4.py` の、client の指紋。JA4 は cipher suite と extension の値を並べ替えてから、
署名 algorithm の値は届いた順のまま、hash に掛ける。

`hexdigest` は `hashlib.sha256(text.encode()).hexdigest()` である。

* `ja3`・`ja4` — 二つの指紋
* `cipherText`・`extText` — JA4 の二番目と三番目の部分に入る前の text
* `ja4_perm` — cipher suite と extension の順は指紋に出ない
* `extText_inj` — 署名 algorithm の列は text から読み戻せる
-/

namespace CipherPost.Parsing

open JsonText (hex4)

/-! ## 部品 -/

/-- `_VERSION_MAP`。 -/
def VERSION_MAP : List (Nat × List Char) :=
  [(0x0304, ['1', '3']), (0x0303, ['1', '2']), (0x0302, ['1', '1']), (0x0301, ['1', '0']),
    (0x0300, ['s', '3']), (0x0002, ['s', '2']),
    (0xFEFF, ['d', '1']), (0xFEFD, ['d', '2']), (0xFEFC, ['d', '3'])]

/-- `_hex4`。 -/
def hex4s (values : List Nat) : List (List Char) := values.map fun v => hex4 (v &&& 0xFFFF)

/-- `sorted`。文字列は符号位置の辞書順に並ぶ。 -/
def sortedText (parts : List (List Char)) : List (List Char) :=
  parts.insertionSort fun a b => a ≤ b

/-- `",".join`。 -/
def joinComma (parts : List (List Char)) : List Char := [','].intercalate parts

/-- `_sha12`。 -/
def sha12 (hexdigest : List Char → List Char) (parts : List (List Char)) : List Char :=
  if parts = [] then List.replicate 12 '0' else (hexdigest (joinComma parts)).take 12

/-- `_version`。 -/
def ja4Version (chVersion : Option Nat) (offered : List Nat) : List Char :=
  let top := match (stripGrease offered).max? with
    | some top => some top
    | none => chVersion
  (VERSION_MAP.lookup (top.getD 0)).getD ['0', '0']

/-- `encode("latin-1", errors="replace")`。 -/
def latin1Replace (s : List Char) : List Nat :=
  s.map fun c => if c.toNat < 256 then c.toNat else 0x3F

def isAlnumByte (b : Nat) : Bool :=
  decide (0x30 ≤ b ∧ b ≤ 0x39) || decide (0x41 ≤ b ∧ b ≤ 0x5A) || decide (0x61 ≤ b ∧ b ≤ 0x7A)

/-- `_alpn2` の `_edge`。 -/
def alpnEdge (b : Nat) (isFirst : Bool) : Char :=
  if isAlnumByte b then Char.ofNat b
  else if isFirst then Nat.digitChar (b / 16) else Nat.digitChar (b % 16)

/-- `_alpn2`。 -/
def alpn2 : List (List Char) → List Char
  | [] => ['0', '0']
  | value :: _ =>
    match latin1Replace value with
    | [] => ['0', '0']
    | [b] =>
      let c := alpnEdge b true
      if c = Char.ofNat b ∧ isAlnumByte b = false then
        [Nat.digitChar (b / 16), Nat.digitChar (b % 16)]
      else [c, c]
    | b :: rest => [alpnEdge b true, alpnEdge (rest.getLastD b) false]

/-- `f"{min(n, 99):02d}"`。 -/
def count2 (n : Nat) : List Char := [Nat.digitChar (min n 99 / 10), Nat.digitChar (min n 99 % 10)]

/-- `"-".join(str(v) for v in strip_grease(values))`。 -/
def joinDash (values : List Nat) : List Char :=
  ['-'].intercalate ((stripGrease values).map (Nat.toDigits 10))

/-! ## 指紋 -/

/-- `ja3`。 -/
def ja3 (ch : ClientHelloInfo) : List Char :=
  let ver := match (stripGrease ch.offeredVersions).max? with
    | some top => top
    | none => ch.legacyVersion.getD 0
  joinComma [Nat.toDigits 10 ver, joinDash ch.cipherSuites, joinDash ch.extensionIds,
    joinDash ch.supportedGroups, joinDash ch.ecPointFormats]

/-- hash に掛ける cipher suite。 -/
def cipherParts (ch : ClientHelloInfo) : List (List Char) :=
  sortedText (hex4s (stripGrease ch.cipherSuites))

/-- `ext_nogrease`。SNI と ALPN は数えるが、hash には掛けない。 -/
def extParts (ch : ClientHelloInfo) : List (List Char) :=
  sortedText (hex4s ((stripGrease ch.extensionIds).filter fun e => decide (e ∉ [0, 16])))

/-- 二番目の部分の text。 -/
def cipherText (ch : ClientHelloInfo) : List Char := joinComma (cipherParts ch)

/-- `ext_str`。署名 algorithm は並べ替えも、GREASE の除去もしない。 -/
def extText (ch : ClientHelloInfo) : List Char :=
  if ch.sigAlgs = [] then joinComma (extParts ch)
  else joinComma (extParts ch) ++ '_' :: joinComma (hex4s ch.sigAlgs)

/-- 一番目の部分。 -/
def ja4Prefix (ch : ClientHelloInfo) (quic : Bool) : List Char :=
  (if quic then 'q' else 't') :: ja4Version ch.legacyVersion ch.offeredVersions ++
    (if ch.sni.getD [] = [] then 'i' else 'd') ::
    count2 (stripGrease ch.cipherSuites).length ++ count2 (stripGrease ch.extensionIds).length ++
    alpn2 ch.alpn

/-- 三番目の部分。 -/
def extHash (hexdigest : List Char → List Char) (ch : ClientHelloInfo) : List Char :=
  if ch.sigAlgs = [] then sha12 hexdigest (extParts ch) else (hexdigest (extText ch)).take 12

/-- `ja4`。 -/
def ja4 (hexdigest : List Char → List Char) (ch : ClientHelloInfo) (quic : Bool) : List Char :=
  ja4Prefix ch quic ++ '_' :: sha12 hexdigest (cipherParts ch) ++ '_' :: extHash hexdigest ch

/-- 三番目の部分は、`extText` の hash の先頭の 12 文字である。載せるものが一つも無いときだけ、hash に掛けない。 -/
theorem ja4_eq_extText (hexdigest : List Char → List Char) (ch : ClientHelloInfo) (quic : Bool)
    (h : ch.sigAlgs ≠ [] ∨ extParts ch ≠ []) : ja4 hexdigest ch quic =
      ja4Prefix ch quic ++ '_' :: sha12 hexdigest (cipherParts ch) ++
        '_' :: (hexdigest (extText ch)).take 12 := by
  have hthird : extHash hexdigest ch = (hexdigest (extText ch)).take 12 := by
    unfold extHash extText
    split
    · next hnil =>
      unfold sha12
      rw [if_neg (h.resolve_left fun hne => hne hnil)]
    · rfl
  rw [ja4, hthird]

/-! ## 並べ替え -/

theorem sortedText_perm (parts : List (List Char)) : (sortedText parts).Perm parts :=
  List.perm_insertionSort _ parts

/-- 並べ替えの結果は、元の並びによらない。 -/
theorem sortedText_congr {parts parts' : List (List Char)} (h : parts'.Perm parts) :
    sortedText parts' = sortedText parts := by
  have hperm : (sortedText parts').Perm (sortedText parts) :=
    (sortedText_perm parts').trans (h.trans (sortedText_perm parts).symm)
  exact hperm.eq_of_pairwise' (List.pairwise_insertionSort _ _) (List.pairwise_insertionSort _ _)

theorem stripGrease_perm {l l' : List Nat} (h : l'.Perm l) :
    (stripGrease l').Perm (stripGrease l) := h.filter _

theorem cipherParts_perm {ch ch' : ClientHelloInfo} (h : ch'.cipherSuites.Perm ch.cipherSuites) :
    cipherParts ch' = cipherParts ch :=
  sortedText_congr ((stripGrease_perm h).map _)

theorem extParts_perm {ch ch' : ClientHelloInfo} (h : ch'.extensionIds.Perm ch.extensionIds) :
    extParts ch' = extParts ch :=
  sortedText_congr (((stripGrease_perm h).filter _).map _)

/-- cipher suite と extension の並べ替え。 -/
def ClientHelloInfo.reordered (ch : ClientHelloInfo) (ciphers exts : List Nat) : ClientHelloInfo :=
  { ch with cipherSuites := ciphers, extensionIds := exts }

/-- **cipher suite と extension の順は、JA4 に出ない。** -/
theorem ja4_perm (hexdigest : List Char → List Char) (ch : ClientHelloInfo) (quic : Bool)
    {ciphers exts : List Nat} (hciphers : ciphers.Perm ch.cipherSuites)
    (hexts : exts.Perm ch.extensionIds) :
    ja4 hexdigest (ch.reordered ciphers exts) quic = ja4 hexdigest ch quic := by
  have hcipher : cipherParts (ch.reordered ciphers exts) = cipherParts ch := cipherParts_perm hciphers
  have hext : extParts (ch.reordered ciphers exts) = extParts ch := extParts_perm hexts
  have hfirst : ja4Prefix (ch.reordered ciphers exts) quic = ja4Prefix ch quic := by
    have hcount : (stripGrease (ch.reordered ciphers exts).cipherSuites).length =
        (stripGrease ch.cipherSuites).length := (stripGrease_perm hciphers).length_eq
    have hcount' : (stripGrease (ch.reordered ciphers exts).extensionIds).length =
        (stripGrease ch.extensionIds).length := (stripGrease_perm hexts).length_eq
    unfold ja4Prefix
    rw [hcount, hcount']
    rfl
  have hthird : extHash hexdigest (ch.reordered ciphers exts) = extHash hexdigest ch := by
    unfold extHash extText
    rw [hext]
    rfl
  unfold ja4
  rw [hfirst, hcipher, hthird]

/-! ## 署名 algorithm -/

/-- 十六進数の数字に区切りは無い。 -/
theorem comma_notMem_hex4 (n : Nat) : ',' ∉ hex4 n := by
  have hdigit : ∀ d < 16, Nat.digitChar d ≠ ',' := by decide
  intro h
  obtain ⟨d, hd, he⟩ := List.mem_map.mp h
  refine hdigit d ?_ he
  simp only [List.mem_cons, List.not_mem_nil, or_false] at hd
  omega

theorem hex4_inj {m n : Nat} (hm : m < 0x10000) (hn : n < 0x10000) (h : hex4 m = hex4 n) :
    m = n := by
  obtain ⟨a, b, c, d, he, hv⟩ := JsonText.unhex4_hex4 hm
  obtain ⟨a', b', c', d', he', hv'⟩ := JsonText.unhex4_hex4 hn
  rw [he, he'] at h
  cases h
  exact hv.symm.trans hv'

/-- wire の上の値の列は、四桁の列から読み戻せる。 -/
theorem hex4s_inj : ∀ {l l' : List Nat}, (∀ v ∈ l, v < 0x10000) → (∀ v ∈ l', v < 0x10000) →
    hex4s l = hex4s l' → l = l'
  | [], [], _, _, _ => rfl
  | [], _ :: _, _, _, h | _ :: _, [], _, _, h => by cases h
  | v :: l, v' :: l', hl, hl', h => by
    have hmask : ∀ v < 0x10000, v &&& 0xFFFF = v := fun v hv => by
      rw [show 0xFFFF = 2 ^ 16 - 1 from rfl, Nat.and_two_pow_sub_one_eq_mod, Nat.mod_eq_of_lt hv]
    obtain ⟨hv, hl⟩ := List.forall_mem_cons.mp hl
    obtain ⟨hv', hl'⟩ := List.forall_mem_cons.mp hl'
    obtain ⟨hhead, htail⟩ := List.cons.inj h
    have hvalue : hex4 v = hex4 v' := by
      simpa only [hmask v hv, hmask v' hv'] using hhead
    rw [hex4_inj hv hv' hvalue, hex4s_inj hl hl' htail]

/-- 区切りの無い部分の列は、つないだ text から読み戻せる。 -/
theorem joinComma_inj {l l' : List Nat} (hl : l ≠ []) (hl' : l' ≠ [])
    (h : joinComma (hex4s l) = joinComma (hex4s l')) : hex4s l = hex4s l' := by
  have hsplit : ∀ k : List Nat, k ≠ [] → (joinComma (hex4s k)).splitOn ',' = hex4s k := by
    intro k hk
    refine List.splitOn_intercalate ',' ?_ ?_
    · intro part hpart
      obtain ⟨v, -, rfl⟩ := List.mem_map.mp hpart
      exact comma_notMem_hex4 _
    · rwa [hex4s, ne_eq, List.map_eq_nil_iff]
  rw [← hsplit l hl, ← hsplit l' hl', h]

/-- **同じ extension なら、署名 algorithm の列は hash に掛ける text から読み戻せる。** -/
theorem extText_inj {ch ch' : ClientHelloInfo} (hexts : extParts ch' = extParts ch)
    (hch : ∀ v ∈ ch.sigAlgs, v < 0x10000) (hch' : ∀ v ∈ ch'.sigAlgs, v < 0x10000)
    (h : extText ch' = extText ch) : ch'.sigAlgs = ch.sigAlgs := by
  unfold extText at h
  rw [hexts] at h
  by_cases hnil : ch.sigAlgs = [] <;> by_cases hnil' : ch'.sigAlgs = []
  · rw [hnil, hnil']
  · rw [if_neg hnil', if_pos hnil] at h
    cases List.append_right_eq_self.mp h
  · rw [if_pos hnil', if_neg hnil] at h
    cases List.self_eq_append_right.mp h
  · rw [if_neg hnil', if_neg hnil] at h
    have htail := (List.cons.inj (List.append_cancel_left h)).2
    exact hex4s_inj hch' hch (joinComma_inj hnil' hnil htail)

/-- 署名 algorithm の列は二 byte ずつ読まれる。 -/
theorem u16List_lt : ∀ (b : Bytes), ∀ v ∈ u16List b, v < 0x10000
  | [], _, hv | [_], _, hv => by cases hv
  | a :: b :: rest, v, hv => by
    rcases List.mem_cons.mp hv with rfl | hv
    · have ha := a.toNat_lt
      have hb := b.toNat_lt
      omega
    · exact u16List_lt rest v hv

/-- 成功した読み取りの結果は `P` を満たす。 -/
def Yields {α : Type} (P : α → Prop) (r : Parse α) : Prop := ∀ a, r = .ok a → P a

namespace Yields

variable {α β : Type} {P : α → Prop} {Q : β → Prop}

theorem ok {a : α} (h : P a) : Yields P (.ok a) := by
  rintro _ ⟨⟩
  exact h

theorem error (e : ParseError) : Yields P (.error e) := by
  rintro _ ⟨⟩

theorem ite {c : Prop} [Decidable c] {r r' : Parse α} (h : Yields P r) (h' : Yields P r') :
    Yields P (if c then r else r') := by
  split
  · exact h
  · exact h'

theorem bind {r : Parse α} {f : α → Parse β} (h : ∀ a, Yields Q (f a)) : Yields Q (r >>= f) := by
  cases r with
  | error e => exact error e
  | ok a => exact h a

theorem bind_of {r : Parse α} {f : α → Parse β} (hr : Yields P r) (h : ∀ a, P a → Yields Q (f a)) :
    Yields Q (r >>= f) := by
  cases r with
  | error e => exact error e
  | ok a => exact h a (hr a rfl)

end Yields

/-- 署名 algorithm の値は、どれも 16 bit である。 -/
def SigAlgsFit (ch : ClientHelloInfo) : Prop := ∀ v ∈ ch.sigAlgs, v < 0x10000

theorem clientExtension_fits {info : ClientHelloInfo} (h : SigAlgsFit info) (etype : Nat)
    (edata : Bytes) : Yields SigAlgsFit (clientExtension info etype edata) := by
  unfold clientExtension
  refine .ite (.bind fun _ => .ok h) (.ite (.ok ?_) ?_)
  · split <;> exact h
  refine .ite (.ite (.bind fun _ => .ok h) (.ok h)) ?_
  refine .ite (.ite (.bind fun _ => .ok h) (.ok h)) (.ite (.ok ?_) ?_)
  · -- 署名 algorithm を書くのは、この extension だけである
    split
    · exact u16List_lt _
    · exact h
  refine .ite (.ok ?_) ?_
  · split <;> exact h
  refine .ite (.ite (.bind fun _ => .ok h) (.ok h)) (.ite (.ok h) (.ite (.ok h) ?_))
  exact .ite (.ite (.bind fun _ => .ok h) (.ok h)) (.ok h)

theorem clientExtensions_fits : ∀ (exts : List (Nat × Bytes)) {info : ClientHelloInfo},
    SigAlgsFit info → Yields SigAlgsFit (clientExtensions exts info)
  | [], _, h => .ok h
  | (etype, edata) :: rest, info, h => by
    have hids : SigAlgsFit { info with extensionIds := info.extensionIds ++ [etype] } := h
    exact .bind_of (clientExtension_fits hids etype edata) fun _ h => clientExtensions_fits rest h

/-- **parser の返す署名 algorithm は、どれも 16 bit である。** -/
theorem parseClientHello_fits (data : Bytes) : Yields SigAlgsFit (parseClientHello data) := by
  have hnil : ∀ {info : ClientHelloInfo}, info.sigAlgs = [] → SigAlgsFit info := by
    intro info h v hv
    rw [h] at hv
    cases hv
  unfold parseClientHello
  refine .ite (.error _) (.ite (.error _) (.bind fun _ => .ite (.error _) (.ite (.error _) ?_)))
  unfold clientHelloTail
  refine .ite (.ok (hnil rfl)) (.bind fun _ => .ite (.error _) (.ite (.ok (hnil rfl)) ?_))
  exact .ite (.error _) (.bind_of (clientExtensions_fits _ (hnil rfl)) fun _ h => .ok h)

/-! ## 順 -/

/-- 署名 algorithm だけを置き換える。 -/
def ClientHelloInfo.signing (ch : ClientHelloInfo) (sigAlgs : List Nat) : ClientHelloInfo :=
  { ch with sigAlgs := sigAlgs }

/-- **cipher suite と extension の順は JA4 に出ないが、署名 algorithm の順は hash に掛ける text に
出る。** -/
theorem ja4_order (hexdigest : List Char → List Char) (quic : Bool) (ch : ClientHelloInfo)
    (hfit : SigAlgsFit ch) :
    (∀ ciphers exts, ciphers.Perm ch.cipherSuites → exts.Perm ch.extensionIds →
      ja4 hexdigest (ch.reordered ciphers exts) quic = ja4 hexdigest ch quic) ∧
    ∀ pre x mid y post, ch.sigAlgs = pre ++ x :: mid ++ y :: post → x ≠ y →
      extText (ch.signing (pre ++ y :: mid ++ x :: post)) ≠ extText ch := by
  refine ⟨fun ciphers exts => ja4_perm hexdigest ch quic, ?_⟩
  intro pre x mid y post hsigs hne htext
  have hfit' : SigAlgsFit (ch.signing (pre ++ y :: mid ++ x :: post)) := by
    intro v hv
    refine hfit v ?_
    rw [hsigs]
    simp only [ClientHelloInfo.signing, List.mem_append, List.mem_cons] at hv ⊢
    tauto
  have hsame : (ch.signing (pre ++ y :: mid ++ x :: post)).sigAlgs = ch.sigAlgs :=
    extText_inj rfl hfit hfit' htext
  rw [hsigs, List.append_assoc, List.append_assoc] at hsame
  have hhead : y :: mid ++ x :: post = x :: mid ++ y :: post := List.append_cancel_left hsame
  exact hne (List.cons.inj hhead).1.symm

/-- 二つの cipher suite と署名 algorithm を持つ ClientHello。 -/
def twoOffers : ClientHelloInfo :=
  { offeredVersions := [0x0304], legacyVersion := some 0x0303, cipherSuites := [0x1301, 0x1302]
    sigAlgs := [0x0403, 0x0804], extensionIds := [0, 10, 43, 13] }

/-- `twoOffers` と、それに値を足したものの text の SHA-256。 -/
def offerDigest (text : List Char) : List Char :=
  if text = "1301,1302".toList then
    "62ed6f6ca7ad1aabc327fcb1d3d174eb524e3e750e014f1932873ca28d578cfb".toList
  else if text = "000a,000d,002b_0403,0804".toList then
    "fbabbea27ee8931bd285cb3194399da6894c6ee375fb7ff436d646b98cb8df2e".toList
  else if text = "000a,000d,002b_0a0a,0403,0804".toList then
    "85bf9c081cf2cd1aa08ddcc604c9935da8568edf3495b1399fa3acf4f3e0df88".toList
  else []

theorem ja4_order_twoOffers :
    ja4 offerDigest (twoOffers.reordered [0x1302, 0x1301] [13, 43, 10, 0]) false =
        ja4 offerDigest twoOffers false ∧
      extText (twoOffers.signing [0x0804, 0x0403]) ≠ extText twoOffers := by
  obtain ⟨hperm, hsigs⟩ := ja4_order offerDigest false twoOffers (by unfold SigAlgsFit; decide)
  exact ⟨hperm _ _ (by decide) (by decide), hsigs [] 0x0403 [] 0x0804 [] rfl (by decide)⟩

end CipherPost.Parsing
