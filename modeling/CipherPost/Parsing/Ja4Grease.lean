import CipherPost.Parsing.Grease
import CipherPost.Parsing.Ja4

/-!
# GREASE と JA4

`ja4.py` の docstring は、client の指紋は GREASE を無視すると言う。mask は 16 個の GREASE の値の
ほかに、二つの byte が違う 240 個の値も取り除く。署名 algorithm の列だけは、何も取り除かない。

* `isGrease_iff` — mask の受け入れる 256 個の値
* `ClientHelloInfo.inserted` — 列のどこかに値を一つ差し込む
* `ExactlyGrease` — docstring の約束
* `exactlyGrease_iff` — 約束の守られる差し込み
-/

namespace CipherPost.Parsing

/-! ## mask -/

/-- mask は、二つの byte の下の桁だけを見る。 -/
theorem isGrease_iff (v : Nat) :
    isGrease v = true ↔ ∃ a < 16, ∃ b < 16, v = 0x0A0A + 0x1000 * a + 0x10 * b := by
  have hlow : (v &&& 0x0F0F) % 256 = v % 256 % 16 := by
    rw [show 256 = 2 ^ 8 from rfl, Nat.and_mod_two_pow, show 0x0F0F % 2 ^ 8 = 2 ^ 4 - 1 from rfl,
      Nat.and_two_pow_sub_one_eq_mod]
  have hhigh : (v &&& 0x0F0F) / 256 = v / 256 % 16 := by
    rw [show 256 = 2 ^ 8 from rfl, Nat.and_div_two_pow, show 0x0F0F / 2 ^ 8 = 2 ^ 4 - 1 from rfl,
      Nat.and_two_pow_sub_one_eq_mod]
  unfold isGrease
  rw [Bool.and_eq_true, Bool.and_eq_true, decide_eq_true_iff, decide_eq_true_iff, decide_eq_true_iff]
  constructor
  · rintro ⟨⟨hmask, -⟩, hmax⟩
    refine ⟨v / 4096, by omega, v / 16 % 16, by omega, by omega⟩
  · rintro ⟨a, ha, b, hb, rfl⟩
    omega

/-- mask は受け入れるが、GREASE ではない値。二つの byte の上の桁が違う。 -/
def MaskedOnly (v : Nat) : Prop := ∃ a < 16, ∃ b < 16, a ≠ b ∧ v = 0x0A0A + 0x1000 * a + 0x10 * b

theorem mem_grease_iff (v : Nat) : v ∈ GREASE ↔ ∃ a < 16, v = 0x0A0A + 0x1010 * a := by
  unfold GREASE
  rw [List.mem_map]
  constructor
  · rintro ⟨a, ha, rfl⟩
    exact ⟨a, List.mem_range.mp ha, rfl⟩
  · rintro ⟨a, ha, rfl⟩
    exact ⟨a, List.mem_range.mpr ha, rfl⟩

/-- **mask の受け入れる値は、GREASE の 16 個と、そうでない 240 個である。** -/
theorem isGrease_iff_mem_or (v : Nat) : isGrease v = true ↔ v ∈ GREASE ∨ MaskedOnly v := by
  rw [isGrease_iff, mem_grease_iff]
  constructor
  · rintro ⟨a, ha, b, hb, rfl⟩
    by_cases hab : a = b
    · exact .inl ⟨a, ha, by omega⟩
    · exact .inr ⟨a, ha, b, hb, hab, rfl⟩
  · rintro (⟨a, ha, rfl⟩ | ⟨a, ha, b, hb, -, rfl⟩)
    · exact ⟨a, ha, a, ha, by omega⟩
    · exact ⟨a, ha, b, hb, rfl⟩

theorem MaskedOnly.notMem {v : Nat} (h : MaskedOnly v) : v ∉ GREASE := by
  obtain ⟨a, ha, b, hb, hab, rfl⟩ := h
  rw [mem_grease_iff]
  rintro ⟨c, hc, heq⟩
  omega

/-! ## 差し込み -/

/-- ClientHello の五つの列。 -/
inductive HelloList where
  | cipherSuites
  | extensions
  | groups
  | versions
  | sigAlgs
  deriving Repr, DecidableEq

/-- 列の `i` 番目に値を一つ差し込む。 -/
def insertedAt (l : List Nat) (i v : Nat) : List Nat := l.take i ++ v :: l.drop i

def ClientHelloInfo.values (ch : ClientHelloInfo) : HelloList → List Nat
  | .cipherSuites => ch.cipherSuites
  | .extensions => ch.extensionIds
  | .groups => ch.supportedGroups
  | .versions => ch.offeredVersions
  | .sigAlgs => ch.sigAlgs

/-- 列の一つの `i` 番目に値を差し込んだ ClientHello。 -/
def ClientHelloInfo.inserted (ch : ClientHelloInfo) (i v : Nat) : HelloList → ClientHelloInfo
  | .cipherSuites => { ch with cipherSuites := insertedAt ch.cipherSuites i v }
  | .extensions => { ch with extensionIds := insertedAt ch.extensionIds i v }
  | .groups => { ch with supportedGroups := insertedAt ch.supportedGroups i v }
  | .versions => { ch with offeredVersions := insertedAt ch.offeredVersions i v }
  | .sigAlgs => { ch with sigAlgs := insertedAt ch.sigAlgs i v }

theorem stripGrease_insertedAt_of_true {v : Nat} (h : isGrease v = true) (l : List Nat) (i : Nat) :
    stripGrease (insertedAt l i v) = stripGrease l := by
  unfold stripGrease insertedAt
  rw [List.filter_append, List.filter_cons_of_neg (by rw [h]; decide), ← List.filter_append,
    List.take_append_drop]

theorem stripGrease_insertedAt_of_false {v : Nat} (h : isGrease v = false) (l : List Nat)
    (i : Nat) : stripGrease (insertedAt l i v) = stripGrease (l.take i) ++ v :: stripGrease (l.drop i) := by
  unfold stripGrease insertedAt
  rw [List.filter_append, List.filter_cons_of_pos (by rw [h]; decide)]

theorem stripGrease_split (l : List Nat) (i : Nat) :
    stripGrease l = stripGrease (l.take i) ++ stripGrease (l.drop i) := by
  unfold stripGrease
  rw [← List.filter_append, List.take_append_drop]

/-! ## 無視される値 -/

/-- **mask の受け入れる値は、署名 algorithm を除くどの列でも、指紋に出ない。** -/
theorem ignored_of_isGrease (hexdigest : List Char → List Char) (quic : Bool)
    (ch : ClientHelloInfo) (i : Nat) {v : Nat} (h : isGrease v = true) {field : HelloList}
    (hfield : field ≠ .sigAlgs) :
    ja4 hexdigest (ch.inserted i v field) quic = ja4 hexdigest ch quic ∧
      ja3 (ch.inserted i v field) = ja3 ch := by
  have hstrip := stripGrease_insertedAt_of_true h
  cases field with
  | sigAlgs => exact absurd rfl hfield
  | cipherSuites | extensions | groups | versions =>
    simp only [ja4, ja4Prefix, extHash, extText, cipherParts, extParts, ja3, joinDash, ja4Version,
      ClientHelloInfo.inserted, hstrip]
    trivial

/-! ## 無視されない値 -/

/-- 四桁の部分をつないだ text の長さは、部分の数で決まる。 -/
theorem length_joinComma : ∀ {parts : List (List Char)}, (∀ p ∈ parts, p.length = 4) →
    (joinComma parts).length = 5 * parts.length - 1
  | [], _ => rfl
  | [p], h => by
    rw [joinComma, List.intercalate_singleton, h p List.mem_cons_self]
    rfl
  | p :: q :: parts, h => by
    obtain ⟨hp, h⟩ := List.forall_mem_cons.mp h
    have ih : (joinComma (q :: parts)).length = 5 * (q :: parts).length - 1 := length_joinComma h
    unfold joinComma at ih ⊢
    rw [List.intercalate_cons_cons, List.length_append, List.length_append, ih, hp]
    simp only [List.length_cons, List.length_nil]
    omega

theorem length_hex4s {l : List Nat} : ∀ p ∈ hex4s l, p.length = 4 := by
  intro p hp
  obtain ⟨v, -, rfl⟩ := List.mem_map.mp hp
  rfl

/-- 並べ替えた四桁の部分の text の長さ。 -/
theorem length_sortedText (l : List Nat) :
    (joinComma (sortedText (hex4s l))).length = 5 * l.length - 1 := by
  have hperm := sortedText_perm (hex4s l)
  have hfour : ∀ p ∈ sortedText (hex4s l), p.length = 4 := fun p hp =>
    length_hex4s p (hperm.mem_iff.mp hp)
  rw [length_joinComma hfour, hperm.length_eq, hex4s, List.length_map]

/-- 空でない部分を挟むと、つないだ text は長くなる。 -/
theorem length_intercalate_insert (sep : List Char) {x : List Char} (hx : x ≠ []) :
    ∀ pre post : List (List Char),
      (sep.intercalate (pre ++ post)).length < (sep.intercalate (pre ++ x :: post)).length
  | [], [] => by
    rw [List.append_nil, List.nil_append, List.intercalate_singleton]
    exact List.length_pos_iff.mpr hx
  | [], y :: post => by
    have hpos := List.length_pos_iff.mpr hx
    rw [List.nil_append, List.nil_append, List.intercalate_cons_cons, List.length_append,
      List.length_append]
    omega
  | a :: pre, post => by
    have hlong : pre ++ x :: post ≠ [] := List.append_ne_nil_of_right_ne_nil _ (List.cons_ne_nil _ _)
    rw [List.cons_append, List.cons_append, List.intercalate_cons_of_ne_nil hlong]
    by_cases hnil : pre ++ post = []
    · have hpos := List.length_pos_iff.mpr hx
      obtain ⟨rfl, rfl⟩ := List.append_eq_nil_iff.mp hnil
      rw [List.nil_append, List.nil_append, List.intercalate_singleton, List.intercalate_singleton,
        List.length_append, List.length_append]
      omega
    · have ih := length_intercalate_insert sep hx pre post
      rw [List.intercalate_cons_of_ne_nil hnil, List.length_append, List.length_append,
        List.length_append, List.length_append]
      omega

/-- 無視されない値は、JA3 の欄を長くする。 -/
theorem length_joinDash {v : Nat} (h : isGrease v = false) (l : List Nat) (i : Nat) :
    (joinDash l).length < (joinDash (insertedAt l i v)).length := by
  have hdigits : Nat.toDigits 10 v ≠ [] := Nat.toDigits_ne_nil
  unfold joinDash
  rw [stripGrease_insertedAt_of_false h, stripGrease_split l i, List.map_append, List.map_append,
    List.map_cons]
  exact length_intercalate_insert _ hdigits _ _

theorem length_stripGrease_insertedAt {v : Nat} (h : isGrease v = false) (l : List Nat) (i : Nat) :
    (stripGrease (insertedAt l i v)).length = (stripGrease l).length + 1 := by
  rw [stripGrease_insertedAt_of_false h, stripGrease_split l i, List.length_append,
    List.length_append, List.length_cons, Nat.add_assoc]

/-- cipher suite の列に足した値は、二番目の部分の text と JA3 を変える。 -/
theorem cipherText_inserted (ch : ClientHelloInfo) (i : Nat) {v : Nat} (h : isGrease v = false) :
    cipherText (ch.inserted i v .cipherSuites) ≠ cipherText ch ∧
      ja3 (ch.inserted i v .cipherSuites) ≠ ja3 ch := by
  constructor
  · intro htext
    have hlength := congrArg List.length htext
    unfold cipherText cipherParts at hlength
    rw [length_sortedText, length_sortedText] at hlength
    have hcount := length_stripGrease_insertedAt h ch.cipherSuites i
    simp only [ClientHelloInfo.inserted, hcount] at hlength
    omega
  · intro htext
    have hlength := congrArg List.length htext
    have hgrows := length_joinDash h ch.cipherSuites i
    simp only [ja3, joinComma, List.intercalate_cons_cons, List.intercalate_singleton,
      List.length_append, ClientHelloInfo.inserted] at hlength
    omega

/-- extension の列に足した値も、SNI と ALPN でなければ、三番目の部分の text と JA3 を変える。 -/
theorem extText_inserted (ch : ClientHelloInfo) (i : Nat) {v : Nat} (h : isGrease v = false)
    (hspec : v ∉ [0, 16]) :
    extText (ch.inserted i v .extensions) ≠ extText ch ∧
      ja3 (ch.inserted i v .extensions) ≠ ja3 ch := by
  have hparts : (joinComma (extParts ch)).length <
      (joinComma (extParts (ch.inserted i v .extensions))).length := by
    unfold extParts
    rw [length_sortedText, length_sortedText]
    have hcounted : decide (v ∉ [0, 16]) = true := decide_eq_true hspec
    simp only [ClientHelloInfo.inserted]
    rw [stripGrease_insertedAt_of_false h, stripGrease_split ch.extensionIds i, List.filter_append,
      List.filter_append, List.filter_cons, if_pos hcounted, List.length_append,
      List.length_append, List.length_cons]
    omega
  constructor
  · intro htext
    have hlength := congrArg List.length htext
    have hsigs : (ch.inserted i v .extensions).sigAlgs = ch.sigAlgs := rfl
    unfold extText at hlength
    rw [hsigs] at hlength
    split at hlength
    · omega
    · rw [List.length_append, List.length_append] at hlength
      omega
  · intro htext
    have hlength := congrArg List.length htext
    have hgrows := length_joinDash h ch.extensionIds i
    simp only [ja3, joinComma, List.intercalate_cons_cons, List.intercalate_singleton,
      List.length_append, ClientHelloInfo.inserted] at hlength
    omega

/-- 署名 algorithm の列に足した値は、何であっても、三番目の部分の text を変える。 -/
theorem extText_inserted_sigAlgs (ch : ClientHelloInfo) (i v : Nat) :
    extText (ch.inserted i v .sigAlgs) ≠ extText ch := by
  intro htext
  have hlength := congrArg List.length htext
  have hparts : extParts (ch.inserted i v .sigAlgs) = extParts ch := rfl
  have hsigs : (ch.inserted i v .sigAlgs).sigAlgs ≠ [] :=
    List.append_ne_nil_of_right_ne_nil _ (List.cons_ne_nil _ _)
  have hcount : (ch.inserted i v .sigAlgs).sigAlgs.length = ch.sigAlgs.length + 1 := by
    show (ch.sigAlgs.take i ++ v :: ch.sigAlgs.drop i).length = ch.sigAlgs.length + 1
    rw [List.length_append, List.length_cons, ← Nat.add_assoc, ← List.length_append,
      List.take_append_drop]
  unfold extText at hlength
  rw [if_neg hsigs, hparts, List.length_append, List.length_cons, length_joinComma length_hex4s,
    hex4s, List.length_map, hcount] at hlength
  split at hlength
  · omega
  · rw [List.length_append, List.length_cons, length_joinComma length_hex4s, hex4s,
      List.length_map] at hlength
    omega

/-! ## 約束 -/

/-- docstring の約束。GREASE の値は指紋を変えず、spec の外さない他の新しい値は、cipher suite でも
extension でも、hash に掛ける text を変える。 -/
structure ExactlyGrease (hexdigest : List Char → List Char) (quic : Bool) (ch : ClientHelloInfo)
    (i v : Nat) (field : HelloList) : Prop where
  ignored : v ∈ GREASE → ja4 hexdigest (ch.inserted i v field) quic = ja4 hexdigest ch quic ∧
    ja3 (ch.inserted i v field) = ja3 ch
  cipher : field = .cipherSuites → v ∉ GREASE → v ∉ ch.cipherSuites →
    cipherText (ch.inserted i v field) ≠ cipherText ch ∧ ja3 (ch.inserted i v field) ≠ ja3 ch
  extension : field = .extensions → v ∉ GREASE → v ∉ ch.extensionIds → v ∉ [0, 16] →
    extText (ch.inserted i v field) ≠ extText ch ∧ ja3 (ch.inserted i v field) ≠ ja3 ch

/-- 三番目の部分の、短くした hash が衝突しない。 -/
def Separated (hexdigest : List Char → List Char) (ch ch' : ClientHelloInfo) : Prop :=
  extHash hexdigest ch' = extHash hexdigest ch → extText ch' = extText ch

theorem extHash_of_ja4 {hexdigest : List Char → List Char} {quic : Bool} {ch ch' : ClientHelloInfo}
    (hfirst : ja4Prefix ch' quic = ja4Prefix ch quic) (hcipher : cipherParts ch' = cipherParts ch)
    (h : ja4 hexdigest ch' quic = ja4 hexdigest ch quic) :
    extHash hexdigest ch' = extHash hexdigest ch := by
  unfold ja4 at h
  rw [hfirst, hcipher] at h
  exact (List.cons.inj (List.append_cancel_left h)).2

/-- **約束が守られるのは、GREASE の値が署名 algorithm の列に入らず、cipher suite と extension の
列に入る新しい値が、mask の余分に受け入れる 240 個の値でないときである。** -/
theorem exactlyGrease_iff (hexdigest : List Char → List Char) (quic : Bool) (ch : ClientHelloInfo)
    (i v : Nat) (field : HelloList)
    (hsep : field = .sigAlgs → Separated hexdigest ch (ch.inserted i v field)) :
    ExactlyGrease hexdigest quic ch i v field ↔
      (field = .sigAlgs → v ∉ GREASE) ∧
        (field ∈ [HelloList.cipherSuites, .extensions] → v ∉ ch.values field → ¬MaskedOnly v) := by
  constructor
  · intro h
    constructor
    · rintro rfl hv
      have hja4 := (h.ignored hv).1
      exact extText_inserted_sigAlgs ch i v (hsep rfl (extHash_of_ja4 rfl rfl hja4))
    · intro hfield hfresh hmasked
      have hv := hmasked.notMem
      have hgrease : isGrease v = true := (isGrease_iff_mem_or v).mpr (.inr hmasked)
      have hother : field ≠ .sigAlgs := by
        rintro rfl
        simp at hfield
      obtain ⟨-, hsame⟩ := ignored_of_isGrease hexdigest quic ch i hgrease hother
      rcases List.mem_cons.mp hfield with rfl | hfield
      · exact (h.cipher rfl hv hfresh).2 hsame
      · obtain rfl := List.mem_singleton.mp hfield
        refine (h.extension rfl hv hfresh ?_).2 hsame
        obtain ⟨a, -, b, -, -, rfl⟩ := hmasked
        simp only [List.mem_cons, List.not_mem_nil, or_false]
        omega
  · rintro ⟨hsigs, hmasked⟩
    have hother : v ∉ GREASE → ¬MaskedOnly v → isGrease v = false := by
      intro hv hmasked
      rw [← Bool.not_eq_true, isGrease_iff_mem_or]
      exact not_or_intro hv hmasked
    refine ⟨fun hv => ?_, ?_, ?_⟩
    · exact ignored_of_isGrease hexdigest quic ch i (isGrease_of_mem v hv) fun hf => hsigs hf hv
    · rintro rfl hv hfresh
      exact cipherText_inserted ch i (hother hv (hmasked (by simp) hfresh))
    · rintro rfl hv hfresh hspec
      exact extText_inserted ch i (hother hv (hmasked (by simp) hfresh)) hspec

/-- 署名 algorithm の列の GREASE は指紋を変え、cipher suite の列の `0x1A2A` は何も変えない。 -/
theorem not_exactlyGrease_twoOffers :
    ¬ExactlyGrease offerDigest false twoOffers 0 0x0A0A .sigAlgs ∧
      ¬ExactlyGrease offerDigest false twoOffers 0 0x1A2A .cipherSuites := by
  constructor
  · intro h
    exact absurd (h.ignored (by decide)).1 (by decide)
  · intro h
    exact (h.cipher rfl (by decide) (by decide)).1 (by decide)

/-- 同じ値でも、署名 algorithm の列では約束が破られ、cipher suite の列では守られる。 -/
theorem exactlyGrease_iff_twoOffers :
    ¬ExactlyGrease offerDigest false twoOffers 0 0x0A0A .sigAlgs ∧
      ExactlyGrease offerDigest false twoOffers 0 0x0A0A .cipherSuites := by
  constructor
  · rw [exactlyGrease_iff offerDigest false twoOffers 0 0x0A0A .sigAlgs fun _ h =>
      absurd h (by decide)]
    rintro ⟨hsigs, -⟩
    exact hsigs rfl (by decide)
  · rw [exactlyGrease_iff offerDigest false twoOffers 0 0x0A0A .cipherSuites (by rintro ⟨⟩)]
    refine ⟨by rintro ⟨⟩, fun _ _ hmasked => hmasked.notMem (by decide)⟩

end CipherPost.Parsing
