import CipherPost.Parsing.DecodeEnds
import CipherPost.Parsing.Ja4

/-!
# JA4 の ALPN の二文字

JA4 の一番目の部分は、最初の ALPN の値の両端を二文字で表す。どちらの端も ASCII の英数字ならその文字、そうでなければ
値全体の十六進の両端である。`parse_client_hello` は値を UTF-8 として読み、`_alpn2` は Latin-1 に直してから端ごとに
見るので、この規則どおりになるのは限られた値だけである。

* `alpnRule` — 規則の言う二文字
* `AlpnFits`・`alpn2_eq_iff` — 規則どおりになる値
* `alpnValues`・`alpn_parseClientHello` — ClientHello の ALPN の値
* `alpnRule_iff` — ClientHello の指紋での結果
-/

namespace CipherPost.Parsing

open Addr

/-! ## 規則 -/

/-- 値全体の十六進の形。 -/
def hexForm (v : Bytes) : List Char :=
  v.flatMap fun b => [Nat.digitChar (b.toNat / 16), Nat.digitChar (b.toNat % 16)]

/-- 規則の言う二文字。 -/
def alpnRule (v : Bytes) : List Char :=
  match v.head?, v.getLast? with
  | some b, some l =>
    if isAlnumByte b.toNat ∧ isAlnumByte l.toNat then [Char.ofNat b.toNat, Char.ofNat l.toNat]
    else [(hexForm v).headD '0', (hexForm v).getLastD '0']
  | _, _ => ['0', '0']

/-- `b` で始まり `next` の続く値の、一つ目の文字が規則の十六進の桁になる。 -/
def FirstFits (b : UInt8) (next : Option UInt8) : Prop :=
  (b < 0x80 ∧ isAlnumByte b.toNat = false) ∨ b = 0x33 ∨
    (b = 0xC3 ∧ ∃ x, next = some x ∧ 0x80 ≤ x ∧ x ≤ 0x8F)

/-- `prev` に続く `l` で終わる値の、二つ目の文字が規則の十六進の桁になる。 -/
def LastFits (prev : Option UInt8) (l : UInt8) : Prop :=
  (l < 0x80 ∧ (isAlnumByte l.toNat = false ∨ 0x30 ≤ l ∧ l ≤ 0x39)) ∨
    (0x80 ≤ l ∧ (l.toNat % 16 = 15 ∨ ∃ p, prev = some p ∧ latinPair p l))

theorem digitChar_inj {m n : Nat} (hm : m < 16) (hn : n < 16) :
    Nat.digitChar m = Nat.digitChar n ↔ m = n := by
  have hall : ∀ m < 16, ∀ n < 16, Nat.digitChar m = Nat.digitChar n → m = n := by decide
  exact ⟨hall m hm n hn, congrArg _⟩

theorem isAlnumByte_lt {n : Nat} (h : isAlnumByte n = true) : n < 0x80 := by
  unfold isAlnumByte at h
  simp only [Bool.or_eq_true, decide_eq_true_eq] at h
  omega

theorem alpnEdge_of_ge {n : Nat} (h : 0x80 ≤ n) (isFirst : Bool) :
    alpnEdge n isFirst = Nat.digitChar (if isFirst then n / 16 else n % 16) := by
  have hno : isAlnumByte n = false := Bool.eq_false_iff.mpr fun h' => by
    have := isAlnumByte_lt h'
    omega
  cases isFirst <;> simp [alpnEdge, hno]

/-- 二 byte の Latin-1 の文字は ASCII の外にあり、下の桁は二つ目の byte の下の桁である。 -/
theorem pairCode_spec {p x : UInt8} (h : latinPair p x) :
    0x80 ≤ pairCode p x ∧ pairCode p x < 256 ∧ pairCode p x % 16 = x.toNat % 16 := by
  have hr := latinRange h
  unfold pairCode
  omega

/-- 上の桁が先頭の byte の上の桁と同じなのは、`C3` に `80` から `8F` が続くときである。 -/
theorem pairCode_div_iff {p x : UInt8} (h : latinPair p x) :
    pairCode p x / 16 = p.toNat / 16 ↔ p = 0xC3 ∧ 0x80 ≤ x ∧ x ≤ 0x8F := by
  have hr := latinRange h
  unfold pairCode
  simp only [UInt8.le_iff_toNat_le]
  rcases h.1 with rfl | rfl
  · simp at hr ⊢
    omega
  · simp at hr ⊢
    omega

theorem alpnEdge_headCode_iff {b : UInt8} {next : Option UInt8} :
    alpnEdge (headCode b next) true = Nat.digitChar (b.toNat / 16) ↔ FirstFits b next := by
  have hbyte := b.toNat_lt
  by_cases hb : b < 0x80
  · have hlt : b.toNat < 0x80 := UInt8.lt_iff_toNat_lt.mp hb
    have hall : ∀ n < 0x80, alpnEdge n true = Nat.digitChar (n / 16) ↔
        isAlnumByte n = false ∨ n = 0x33 := by decide
    rw [headCode_of_lt hb, hall _ hlt]
    refine ⟨fun h => h.imp (⟨hb, ·⟩) fun h => .inl (UInt8.toNat_inj.mp h), ?_⟩
    rintro (⟨-, h⟩ | rfl | ⟨rfl, -⟩)
    · exact .inl h
    · exact .inr rfl
    · exact absurd hb (by decide)
  · have hge : 0x80 ≤ b.toNat := UInt8.le_iff_toNat_le.mp (UInt8.not_lt.mp hb)
    -- Latin-1 に無い文字の代わりの `?` は、十六進で 3 から始まる
    have hmark : ¬alpnEdge 0x3F true = Nat.digitChar (b.toNat / 16) := by
      rw [show alpnEdge 0x3F true = Nat.digitChar 3 from rfl, digitChar_inj (by decide) (by omega)]
      omega
    have hfits : FirstFits b next ↔ b = 0xC3 ∧ ∃ x, next = some x ∧ 0x80 ≤ x ∧ x ≤ 0x8F := by
      refine ⟨fun h => h.elim (fun h => absurd h.1 hb) (·.elim ?_ id), fun h => .inr (.inr h)⟩
      rintro rfl
      exact absurd hge (by decide)
    rw [hfits]
    cases next with
    | none =>
      rw [headCode, if_neg hb]
      exact iff_of_false hmark (by rintro ⟨-, x, ⟨⟩, -⟩)
    | some x =>
      rw [headCode, if_neg hb]
      by_cases hpair : latinPair b x
      · obtain ⟨hcode, hlt, -⟩ := pairCode_spec hpair
        rw [if_pos hpair, alpnEdge_of_ge hcode, if_pos rfl, digitChar_inj (by omega) (by omega),
          pairCode_div_iff hpair]
        constructor
        · rintro ⟨hlead, hx⟩
          exact ⟨hlead, x, rfl, hx⟩
        · rintro ⟨hlead, _, ⟨⟩, hx⟩
          exact ⟨hlead, hx⟩
      · rw [if_neg hpair]
        refine iff_of_false hmark ?_
        rintro ⟨rfl, y, ⟨⟩, hy⟩
        refine hpair ⟨.inr rfl, isCont_iff.mpr ?_⟩
        have h₁ := UInt8.le_iff_toNat_le.mp hy.1
        have h₂ := UInt8.le_iff_toNat_le.mp hy.2
        simp at h₁ h₂
        omega

theorem alpnEdge_tailCode_iff {prev : Option UInt8} {l : UInt8} :
    alpnEdge (tailCode l prev) false = Nat.digitChar (l.toNat % 16) ↔ LastFits prev l := by
  have hbyte := l.toNat_lt
  by_cases hl : l < 0x80
  · have hlt : l.toNat < 0x80 := UInt8.lt_iff_toNat_lt.mp hl
    have hall : ∀ n < 0x80, alpnEdge n false = Nat.digitChar (n % 16) ↔
        isAlnumByte n = false ∨ 0x30 ≤ n ∧ n ≤ 0x39 := by decide
    rw [tailCode_of_lt hl, hall _ hlt]
    have hnot : ¬0x80 ≤ l := UInt8.not_le.mpr hl
    refine ⟨fun h => .inl ⟨hl, h⟩, ?_⟩
    rintro (⟨-, h⟩ | ⟨h, -⟩)
    · exact h
    · exact absurd h hnot
  · have hge : 0x80 ≤ l.toNat := UInt8.le_iff_toNat_le.mp (UInt8.not_lt.mp hl)
    have hmark : alpnEdge 0x3F false = Nat.digitChar (l.toNat % 16) ↔ l.toNat % 16 = 15 := by
      rw [show alpnEdge 0x3F false = Nat.digitChar 15 from rfl,
        digitChar_inj (by decide) (by omega)]
      exact eq_comm
    have hfits : LastFits prev l ↔ l.toNat % 16 = 15 ∨ ∃ p, prev = some p ∧ latinPair p l :=
      ⟨fun h => h.elim (fun h => absurd h.1 hl) (·.2), fun h => .inr ⟨UInt8.not_lt.mp hl, h⟩⟩
    rw [hfits]
    cases prev with
    | none =>
      rw [tailCode, if_neg hl, hmark]
      exact (or_iff_left (by rintro ⟨p, ⟨⟩, -⟩)).symm
    | some p =>
      rw [tailCode, if_neg hl]
      by_cases hpair : latinPair p l
      · obtain ⟨hcode, -, hlow⟩ := pairCode_spec hpair
        rw [if_pos hpair, alpnEdge_of_ge hcode, if_neg (by decide), hlow]
        exact iff_of_true rfl (.inr ⟨p, rfl, hpair⟩)
      · rw [if_neg hpair, hmark]
        refine (or_iff_left ?_).symm
        rintro ⟨_, ⟨⟩, h⟩
        exact hpair h

/-! ## 二文字 -/

theorem alpn2_of_one {value : List Char} {h : Nat} {more : List (List Char)}
    (hcodes : latin1Replace value = [h]) (hlt : h < 256) :
    alpn2 (value :: more) = [alpnEdge h true, alpnEdge h true] := by
  have hall : ∀ h < 256, isAlnumByte h = false → alpnEdge h true ≠ Char.ofNat h := by decide +kernel
  unfold alpn2
  simp only [hcodes]
  exact if_neg fun hc => hall h hlt hc.2 hc.1

theorem alpn2_of_two {value : List Char} {h k t : Nat} {codes : List Nat} {more : List (List Char)}
    (hcodes : latin1Replace value = h :: k :: codes) (hlast : (k :: codes).getLast? = some t) :
    alpn2 (value :: more) = [alpnEdge h true, alpnEdge t false] := by
  unfold alpn2
  simp only [hcodes]
  rw [List.getLastD_eq_getLast?, hlast, Option.getD_some]

theorem latin1Replace_eq (s : List Char) : latin1Replace s = s.map latinCode := rfl

/-- 規則どおりになる値。 -/
inductive AlpnFits : Bytes → Prop where
  /-- 両端が英数字の値。 -/
  | alnum {v : Bytes} {b l : UInt8} (hb : v.head? = some b) (hl : v.getLast? = some l)
      (hfirst : isAlnumByte b.toNat = true) (hlast : isAlnumByte l.toNat = true) : AlpnFits v
  /-- 一文字の値。一つの値の上の桁を二度書く。 -/
  | single {v : Bytes} (h : v ∈ [[0x00], [0x11], [0x22], [0xC3, 0x8C]]) : AlpnFits v
  /-- 二文字以上の値。 -/
  | ends {b l : UInt8} {mid : Bytes} (hlong : ¬(b = 0xC3 ∧ mid = []))
      (hfirst : FirstFits b (mid ++ [l]).head?) (hlast : LastFits (b :: mid).getLast? l) :
      AlpnFits (b :: (mid ++ [l]))

/-- 十六進の形の両端は、両端の byte の桁である。 -/
theorem hexForm_concat (init : Bytes) (l : UInt8) :
    (hexForm (init ++ [l])).getLastD '0' = Nat.digitChar (l.toNat % 16) := by
  rw [hexForm, List.flatMap_append, List.flatMap_singleton, List.getLastD_eq_getLast?,
    List.getLast?_append]
  rfl

theorem hexForm_cons (b : UInt8) (rest : Bytes) :
    (hexForm (b :: rest)).headD '0' = Nat.digitChar (b.toNat / 16) := rfl

theorem alpnRule_singleton (b : UInt8) :
    alpnRule [b] = if isAlnumByte b.toNat then [Char.ofNat b.toNat, Char.ofNat b.toNat]
      else [Nat.digitChar (b.toNat / 16), Nat.digitChar (b.toNat % 16)] := by
  unfold alpnRule
  simp only [List.head?_cons, List.getLast?_singleton, and_self]
  rfl

theorem alpnRule_of_two (b l : UInt8) (mid : Bytes) :
    alpnRule (b :: (mid ++ [l])) =
      if isAlnumByte b.toNat ∧ isAlnumByte l.toNat then [Char.ofNat b.toNat, Char.ofNat l.toNat]
      else [Nat.digitChar (b.toNat / 16), Nat.digitChar (l.toNat % 16)] := by
  have hlast : (hexForm (b :: (mid ++ [l]))).getLastD '0' = Nat.digitChar (l.toNat % 16) :=
    hexForm_concat (b :: mid) l
  unfold alpnRule
  rw [hlast, hexForm_cons, List.head?_cons, ← List.cons_append, List.getLast?_concat]

theorem alpnEdge_of_alnum {n : Nat} (h : isAlnumByte n = true) (isFirst : Bool) :
    alpnEdge n isFirst = Char.ofNat n := if_pos h

/-- 一文字の値では、両端の桁が同じでなければならない。 -/
theorem edges_eq_iff {b l : UInt8} {next : Option UInt8} :
    [alpnEdge (headCode b next) true, alpnEdge (headCode b next) true] =
        [Nat.digitChar (b.toNat / 16), Nat.digitChar (l.toNat % 16)] ↔
      FirstFits b next ∧ b.toNat / 16 = l.toNat % 16 := by
  have hbyte := b.toNat_lt
  rw [List.cons_eq_cons, List.cons_eq_cons, ← alpnEdge_headCode_iff,
    ← digitChar_inj (by omega) (Nat.mod_lt _ (by decide))]
  constructor
  · rintro ⟨hfirst, hlast, -⟩
    exact ⟨hfirst, hfirst.symm.trans hlast⟩
  · rintro ⟨hfirst, hsame⟩
    exact ⟨hfirst, hfirst.trans hsame, rfl⟩

/-- 一 byte の値。 -/
theorem alpn2_singleton_iff (b : UInt8) (more : List (List Char)) :
    alpn2 (decodeReplace [b] :: more) = alpnRule [b] ↔ AlpnFits [b] := by
  obtain ⟨c, t, hdecode, hcode⟩ := exists_decode_cons b []
  obtain rfl : t = [] := by
    obtain ⟨piece, c', rest, hsplit, hdecode', hp⟩ := exists_piece b []
    obtain ⟨rfl, rfl⟩ | ⟨-, rfl⟩ := List.singleton_eq_append_iff.mp hsplit
    · exact absurd rfl hp.ne_nil
    · rw [hdecode', decodeReplace] at hdecode
      exact (List.cons.inj hdecode).2.symm
  have hcodes : latin1Replace (decodeReplace [b]) = [headCode b none] := by
    rw [hdecode, latin1Replace_eq, List.map_singleton, hcode]
    rfl
  rw [alpn2_of_one hcodes (hcode ▸ latinCode_lt c), alpnRule_singleton]
  by_cases halnum : isAlnumByte b.toNat = true
  · have hb : b < 0x80 := UInt8.lt_iff_toNat_lt.mpr (isAlnumByte_lt halnum)
    rw [if_pos halnum, headCode_of_lt hb, alpnEdge_of_alnum halnum]
    exact iff_of_true rfl (.alnum rfl rfl halnum halnum)
  · have hplain := Bool.eq_false_iff.mpr halnum
    have hall : ∀ n < 0x80, isAlnumByte n = false → n / 16 = n % 16 → n ∈ [0x00, 0x11, 0x22] := by
      decide
    rw [if_neg halnum, edges_eq_iff]
    constructor
    · rintro ⟨(⟨hb, -⟩ | rfl | ⟨-, x, ⟨⟩, -⟩), hsame⟩
      · have hmem := hall _ (UInt8.lt_iff_toNat_lt.mp hb) hplain hsame
        refine .single ?_
        simp only [List.mem_cons, List.not_mem_nil, or_false] at hmem ⊢
        rcases hmem with h | h | h
        · exact .inl (congrArg (fun x => [x]) (UInt8.toNat_inj.mp h))
        · exact .inr (.inl (congrArg (fun x => [x]) (UInt8.toNat_inj.mp h)))
        · exact .inr (.inr (.inl (congrArg (fun x => [x]) (UInt8.toNat_inj.mp h))))
      · exact absurd rfl halnum
    · intro h
      generalize hv : [b] = v at h
      cases h with
      | alnum hb hl hfirst hlast =>
        subst hv
        cases hb
        exact absurd hfirst halnum
      | single h =>
        subst hv
        simp only [List.mem_cons, List.cons.injEq, List.not_mem_nil, or_false, and_true,
          reduceCtorEq, and_false] at h
        rcases h with rfl | rfl | rfl
        all_goals exact ⟨.inl ⟨by decide, hplain⟩, rfl⟩
      | ends _ _ _ => simp at hv

theorem alpnFits_iff_of_two {b l : UInt8} {mid : Bytes} :
    AlpnFits (b :: (mid ++ [l])) ↔ (isAlnumByte b.toNat = true ∧ isAlnumByte l.toNat = true) ∨
      ((b = 0xC3 ∧ mid = []) ∧ l = 0x8C) ∨
      (¬(b = 0xC3 ∧ mid = []) ∧ FirstFits b (mid ++ [l]).head? ∧
        LastFits (b :: mid).getLast? l) := by
  have hlast : (b :: (mid ++ [l])).getLast? = some l := List.getLast?_concat (l := b :: mid)
  constructor
  · intro h
    generalize hv : b :: (mid ++ [l]) = v at h
    cases h with
    | alnum hb hl hfirst hlast' =>
      subst hv
      cases hb
      cases hlast.symm.trans hl
      exact .inl ⟨hfirst, hlast'⟩
    | single h =>
      subst hv
      cases mid with
      | nil =>
        simp at h
        exact .inr (.inl ⟨⟨h.1, rfl⟩, h.2⟩)
      | cons m mid => simp at h
    | @ends b' l' mid' hlong hfirst hlast' =>
      obtain ⟨rfl, htail⟩ := List.cons.inj hv
      obtain ⟨rfl, hl⟩ := List.append_inj' htail rfl
      cases hl
      exact .inr (.inr ⟨hlong, hfirst, hlast'⟩)
  · rintro (⟨hfirst, hlast'⟩ | ⟨⟨rfl, rfl⟩, rfl⟩ | ⟨hlong, hfirst, hlast'⟩)
    · exact .alnum rfl hlast hfirst hlast'
    · exact .single (by decide)
    · exact .ends hlong hfirst hlast'

/-- ASCII で始まる二 byte 以上の値は、二文字以上である。 -/
theorem tail_ne_nil {b l : UInt8} {mid : Bytes} {c : Char} {t : List Char} (hb : b < 0x80)
    (hdecode : decodeReplace (b :: (mid ++ [l])) = c :: t) : t ≠ [] := by
  rintro rfl
  rw [decodeReplace.eq_def] at hdecode
  dsimp only at hdecode
  rw [if_pos hb] at hdecode
  exact List.concat_ne_nil l mid (decodeReplace_eq_nil_iff.mp (List.cons.inj hdecode).2)

/-- 先頭の桁の合う二 byte 以上の値が一文字になるのは、`C3` で始まる二 byte のときだけである。 -/
theorem tail_eq_nil_iff {b l : UInt8} {mid : Bytes} {c : Char} {t : List Char}
    (hdecode : decodeReplace (b :: (mid ++ [l])) = c :: t)
    (hfits : FirstFits b (mid ++ [l]).head?) : t = [] ↔ b = 0xC3 ∧ mid = [] := by
  rcases hfits with ⟨hb, -⟩ | rfl | ⟨rfl, x, hx, hlow, hhigh⟩
  · refine iff_of_false (tail_ne_nil hb hdecode) ?_
    rintro ⟨rfl, -⟩
    exact absurd hb (by decide)
  · exact iff_of_false (tail_ne_nil (by decide) hdecode) fun h => absurd h.1 (by decide)
  · have hcont : isCont x = true := by
      have hhigh := UInt8.le_iff_toNat_le.mp hhigh
      refine isCont_iff.mpr ⟨UInt8.le_iff_toNat_le.mp hlow, ?_⟩
      simp at hhigh
      omega
    obtain ⟨rest, hrest⟩ := List.head?_eq_some_iff.mp hx
    obtain ⟨c', hc'⟩ := decodeReplace_latin hcont rest
    rw [hrest, hc'] at hdecode
    rw [← (List.cons.inj hdecode).2, decodeReplace_eq_nil_iff]
    constructor
    · rintro rfl
      refine ⟨rfl, ?_⟩
      cases mid with
      | nil => rfl
      | cons m mid => simp at hrest
    · rintro ⟨-, rfl⟩
      exact (List.cons.inj hrest).2.symm

/-- 二 byte 以上の値。 -/
theorem alpn2_two_iff (b l : UInt8) (mid : Bytes) (more : List (List Char)) :
    alpn2 (decodeReplace (b :: (mid ++ [l])) :: more) = alpnRule (b :: (mid ++ [l])) ↔
      AlpnFits (b :: (mid ++ [l])) := by
  obtain ⟨c, t, hdecode, hcode⟩ := exists_decode_cons b (mid ++ [l])
  obtain ⟨c', hlast, hcode'⟩ := exists_decode_concat l (b :: mid)
  rw [List.cons_append, hdecode] at hlast
  rw [alpnRule_of_two, alpnFits_iff_of_two]
  cases t with
  | nil =>
    have hb : ¬b < 0x80 := fun hb => tail_ne_nil hb hdecode rfl
    have halnum : ¬(isAlnumByte b.toNat = true ∧ isAlnumByte l.toNat = true) :=
      fun h => hb (UInt8.lt_iff_toNat_lt.mpr (isAlnumByte_lt h.1))
    have hcodes : latin1Replace (decodeReplace (b :: (mid ++ [l]))) =
        [headCode b (mid ++ [l]).head?] := by
      rw [hdecode, latin1Replace_eq, List.map_singleton, hcode]
    rw [alpn2_of_one hcodes (hcode ▸ latinCode_lt c), if_neg halnum, or_iff_right halnum,
      edges_eq_iff]
    constructor
    · rintro ⟨hfirst, hsame⟩
      obtain ⟨rfl, rfl⟩ := (tail_eq_nil_iff hdecode hfirst).mp rfl
      obtain ⟨h, -⟩ | h | ⟨-, _, ⟨⟩, hlow, hhigh⟩ := hfirst
      · exact absurd h (by decide)
      · exact absurd h (by decide)
      · have hlow := UInt8.le_iff_toNat_le.mp hlow
        have hhigh := UInt8.le_iff_toNat_le.mp hhigh
        simp at hlow hhigh hsame
        exact .inl ⟨⟨rfl, rfl⟩, UInt8.toNat_inj.mp (by simp; omega)⟩
    · rintro (⟨⟨rfl, rfl⟩, rfl⟩ | ⟨hlong, hfirst, -⟩)
      · exact ⟨.inr (.inr ⟨rfl, _, rfl, by decide, by decide⟩), by decide⟩
      · exact absurd ((tail_eq_nil_iff hdecode hfirst).mp rfl) hlong
  | cons k t =>
    have hcodes : latin1Replace (decodeReplace (b :: (mid ++ [l]))) =
        headCode b (mid ++ [l]).head? :: latinCode k :: t.map latinCode := by
      rw [hdecode, latin1Replace_eq, List.map_cons, hcode, List.map_cons]
    have hend : (latinCode k :: t.map latinCode).getLast? =
        some (tailCode l (b :: mid).getLast?) := by
      rw [List.getLast?_cons_cons] at hlast
      rw [← List.map_cons, List.getLast?_map, hlast, Option.map_some, hcode']
    rw [alpn2_of_two hcodes hend]
    by_cases halnum : isAlnumByte b.toNat = true ∧ isAlnumByte l.toNat = true
    · have hb : b < 0x80 := UInt8.lt_iff_toNat_lt.mpr (isAlnumByte_lt halnum.1)
      have hl : l < 0x80 := UInt8.lt_iff_toNat_lt.mpr (isAlnumByte_lt halnum.2)
      rw [if_pos halnum, headCode_of_lt hb, tailCode_of_lt hl, alpnEdge_of_alnum halnum.1,
        alpnEdge_of_alnum halnum.2]
      exact iff_of_true rfl (.inl halnum)
    · rw [if_neg halnum, or_iff_right halnum, List.cons_eq_cons, List.cons_eq_cons,
        and_iff_left (rfl : ([] : List Char) = []), alpnEdge_headCode_iff, alpnEdge_tailCode_iff]
      have hlong : FirstFits b (mid ++ [l]).head? → ¬(b = 0xC3 ∧ mid = []) :=
        fun hfirst h => List.cons_ne_nil _ _ ((tail_eq_nil_iff hdecode hfirst).mpr h)
      constructor
      · rintro ⟨hfirst, hlast⟩
        exact .inr ⟨hlong hfirst, hfirst, hlast⟩
      · rintro (⟨⟨rfl, rfl⟩, rfl⟩ | ⟨-, h⟩)
        · have hfirst : FirstFits 0xC3 (some 0x8C) :=
            .inr (.inr ⟨rfl, _, rfl, by decide, by decide⟩)
          exact absurd ⟨rfl, rfl⟩ (hlong hfirst)
        · exact h

/-- **最初の ALPN の値の二文字が規則どおりになる値。** -/
theorem alpn2_eq_iff {v : Bytes} (hne : v ≠ []) (more : List (List Char)) :
    alpn2 (decodeReplace v :: more) = alpnRule v ↔ AlpnFits v := by
  obtain ⟨b, rest, rfl⟩ := List.exists_cons_of_ne_nil hne
  rcases List.eq_nil_or_concat rest with rfl | ⟨mid, l, rfl⟩
  · exact alpn2_singleton_iff b more
  · rw [List.concat_eq_append]
    exact alpn2_two_iff b l mid more

/-! ## ClientHello の ALPN の値 -/

/-- ALPN の extension の値。`n` は残りの回数の上界である。 -/
def alpnRawFrom (edata : Bytes) (stop : Nat) : Nat → Nat → List Bytes
  | 0, _ => []
  | n + 1, pos =>
    if pos + 1 ≤ stop then
      let pl := (edata.getD pos 0).toNat
      slice edata (pos + 1) (pos + 1 + pl) :: alpnRawFrom edata stop n (pos + 1 + pl)
    else []

/-- extension 一つの ALPN の値。 -/
def extensionAlpn (e : Nat × Bytes) : List Bytes :=
  if e.1 = EXT_ALPN ∧ 2 ≤ e.2.length then
    alpnRawFrom e.2 (min (2 + fromBytes (slice e.2 0 2)) e.2.length) e.2.length 2
  else []

/-- compression から後の、extension の始まり。 -/
def extensionsAt (buf : Bytes) (compression : Nat) : Nat :=
  compression + 1 + (buf.getD compression 0).toNat

/-- `pos` から後の extension。 -/
def extensionsFrom (buf : Bytes) (pos : Nat) : List (Nat × Bytes) :=
  parseExtensions (slice buf (pos + 2) (pos + 2 + fromBytes (slice buf pos (pos + 2))))

/-- ClientHello の extension の並び。 -/
def helloExtensions (data : Bytes) : List (Nat × Bytes) :=
  let suites := 35 + (data.getD 34 0).toNat
  let compression := suites + 2 + fromBytes (slice data suites (suites + 2))
  extensionsFrom data (extensionsAt data compression)

/-- ClientHello の ALPN の値。 -/
def alpnValues (data : Bytes) : List Bytes := (helloExtensions data).flatMap extensionAlpn

theorem index_of_lt {buf : Bytes} {i : Nat} (h : i < buf.length) :
    index buf i = .ok (buf.getD i 0) := by
  unfold index
  rw [List.getD_eq_getElem?_getD, List.getElem?_eq_getElem h]
  rfl

theorem alpnFrom_eq {edata : Bytes} {stop : Nat} (hstop : stop ≤ edata.length) :
    ∀ n pos, alpnFrom edata stop n pos = .ok ((alpnRawFrom edata stop n pos).map decodeReplace)
  | 0, _ => rfl
  | n + 1, pos => by
    unfold alpnFrom alpnRawFrom
    by_cases hpos : pos + 1 ≤ stop
    · rw [if_pos hpos, if_pos hpos, index_of_lt (by omega)]
      show (alpnFrom edata stop n _ >>= fun rest => _) = _
      rw [alpnFrom_eq hstop n]
      rfl
    · rw [if_neg hpos, if_neg hpos]
      rfl

/-- `exts` の ALPN の値が、読んだ順に後ろに付く。 -/
def Gains (info : ClientHelloInfo) (exts : List (Nat × Bytes)) (r : Parse ClientHelloInfo) : Prop :=
  Yields (fun info' => info'.alpn = info.alpn ++ (exts.flatMap extensionAlpn).map decodeReplace) r

theorem gains_clientExtension (info : ClientHelloInfo) (etype : Nat) (edata : Bytes) :
    Gains info [(etype, edata)] (clientExtension info etype edata) := by
  unfold Gains
  rw [List.flatMap_singleton]
  by_cases halpn : etype = EXT_ALPN
  · subst halpn
    unfold clientExtension
    rw [if_neg (by decide), if_neg (by decide), if_pos rfl]
    by_cases htwo : 2 ≤ edata.length
    · have hsome : extensionAlpn (EXT_ALPN, edata) = alpnRawFrom edata
          (min (2 + fromBytes (slice edata 0 2)) edata.length) edata.length 2 := if_pos ⟨rfl, htwo⟩
      rw [if_pos htwo, hsome]
      dsimp only
      rw [alpnFrom_eq (Nat.min_le_right _ _)]
      exact .ok rfl
    · have hnone : extensionAlpn (EXT_ALPN, edata) = [] := if_neg fun h => htwo h.2
      rw [if_neg htwo, hnone]
      exact .ok (List.append_nil _).symm
  · have hnone : extensionAlpn (etype, edata) = [] := if_neg fun h => halpn h.1
    have hkeep : ∀ {info' : ClientHelloInfo}, info'.alpn = info.alpn →
        info'.alpn = info.alpn ++ (extensionAlpn (etype, edata)).map decodeReplace := by
      intro info' h
      rw [h, hnone, List.map_nil, List.append_nil]
    unfold clientExtension
    refine .ite (.bind fun _ => .ok (hkeep rfl)) (.ite (.ok (hkeep ?_)) ?_)
    · split <;> rfl
    rw [if_neg halpn]
    refine .ite (.ite (.bind fun _ => .ok (hkeep rfl)) (.ok (hkeep rfl))) (.ite (.ok (hkeep ?_)) ?_)
    · split <;> rfl
    refine .ite (.ok (hkeep ?_)) ?_
    · split <;> rfl
    refine .ite (.ite (.bind fun _ => .ok (hkeep rfl)) (.ok (hkeep rfl))) ?_
    refine .ite (.ok (hkeep rfl)) (.ite (.ok (hkeep rfl)) ?_)
    exact .ite (.ite (.bind fun _ => .ok (hkeep rfl)) (.ok (hkeep rfl))) (.ok (hkeep rfl))

theorem gains_clientExtensions : ∀ (exts : List (Nat × Bytes)) (info : ClientHelloInfo),
    Gains info exts (clientExtensions exts info)
  | [], info => .ok (List.append_nil _).symm
  | (etype, edata) :: rest, info => by
    refine .bind_of (gains_clientExtension _ etype edata) fun info' hinfo' => ?_
    intro r hr
    rw [gains_clientExtensions rest info' r hr, hinfo', List.flatMap_cons, List.flatMap_nil,
      List.append_nil, List.flatMap_cons, List.map_append, List.append_assoc]

theorem gains_clientHelloTail (buf : Bytes) (pos : Nat) {info : ClientHelloInfo}
    (hinfo : info.alpn = []) :
    Yields (fun ch => ch.alpn =
        ((extensionsFrom buf (extensionsAt buf pos)).flatMap extensionAlpn).map decodeReplace)
      (clientHelloTail buf pos info) := by
  -- extension の長さの前で終わる hello に、extension は無い
  have hshort : buf.length < extensionsAt buf pos + 2 → ∀ {info : ClientHelloInfo},
      info.alpn = [] → info.alpn =
        ((extensionsFrom buf (extensionsAt buf pos)).flatMap extensionAlpn).map decodeReplace := by
    intro hlt info hinfo
    have hnone : extensionsFrom buf (extensionsAt buf pos) = [] := by
      rw [extensionsFrom, slice, List.drop_eq_nil_of_le (by omega), List.take_nil]
      rfl
    rw [hinfo, hnone]
    rfl
  unfold clientHelloTail
  by_cases hpos : buf.length ≤ pos
  · rw [if_pos hpos]
    refine .ok (hshort ?_ hinfo)
    unfold extensionsAt
    omega
  rw [if_neg hpos, index_of_lt (by omega)]
  refine .ite (.error _) ?_
  by_cases hlen : buf.length < pos + 1 + (buf.getD pos 0).toNat + 2
  · rw [if_pos hlen]
    exact .ok (hshort hlen hinfo)
  rw [if_neg hlen]
  refine .ite (.error _) (.bind_of (gains_clientExtensions _ _) fun ch hch => .ok ?_)
  rw [show (countGrease ch).alpn = ch.alpn from rfl, hch]
  show info.alpn ++ _ = _
  rw [hinfo, List.nil_append]
  rfl

/-- **parser の返す ALPN は、値を一つずつ UTF-8 として読んだものである。** -/
theorem alpn_parseClientHello (data : Bytes) :
    Yields (fun ch => ch.alpn = (alpnValues data).map decodeReplace) (parseClientHello data) := by
  unfold parseClientHello
  refine .ite (.error _) (.ite (.error _) ?_)
  by_cases hsid : 34 < data.length
  · rw [index_of_lt hsid]
    exact .ite (.error _) (.ite (.error _) (gains_clientHelloTail data _ rfl))
  · have hindex : index data 34 = .error .index := by
      rw [index, List.getElem?_eq_none (by omega)]
    rw [hindex]
    exact .error _

/-! ## 指紋の二文字 -/

theorem length_ja4Version (chVersion : Option Nat) (offered : List Nat) :
    (ja4Version chVersion offered).length = 2 := by
  have hall : ∀ e ∈ VERSION_MAP, e.2.length = 2 := by decide
  unfold ja4Version
  dsimp only
  generalize Option.getD _ 0 = v
  cases hlookup : VERSION_MAP.lookup v with
  | none => rfl
  | some name =>
    obtain ⟨l, l', hsplit, -⟩ := List.lookup_eq_some_iff.mp hlookup
    exact hall (v, name) (hsplit ▸ by simp)

theorem length_alpn2 (alpn : List (List Char)) : (alpn2 alpn).length = 2 := by
  unfold alpn2
  split
  · rfl
  · split
    · rfl
    · exact (apply_ite List.length _ _ _).trans (ite_self 2)
    · rfl

/-- JA4 の八文字目からの二文字は、ALPN の二文字である。 -/
theorem ja4_alpn (hexdigest : List Char → List Char) (ch : ClientHelloInfo) (quic : Bool) :
    ((ja4 hexdigest ch quic).drop 8).take 2 = alpn2 ch.alpn := by
  obtain ⟨v₁, v₂, hversion⟩ :=
    List.length_eq_two.mp (length_ja4Version ch.legacyVersion ch.offeredVersions)
  obtain ⟨a₁, a₂, halpn⟩ := List.length_eq_two.mp (length_alpn2 ch.alpn)
  unfold ja4 ja4Prefix
  rw [hversion, halpn]
  rfl

/--
**指紋の ALPN の二文字が規則どおりになるのは、両端が英数字の値、同じ桁の並ぶ一文字の値、そして英数字と
そうでない端とが食い違わない値だけである。**
-/
theorem alpnRule_iff (hexdigest : List Char → List Char) (quic : Bool) {data v : Bytes}
    {more : List Bytes} {ch : ClientHelloInfo} (hparse : parseClientHello data = .ok ch)
    (hfirst : alpnValues data = v :: more) (hne : v ≠ []) :
    ((ja4 hexdigest ch quic).drop 8).take 2 = alpnRule v ↔ AlpnFits v := by
  rw [ja4_alpn, alpn_parseClientHello data ch hparse, hfirst, List.map_cons]
  exact alpn2_eq_iff hne _

/-- ALPN の値を一つ持つ ClientHello。 -/
def alpnHello (value : Bytes) : Bytes :=
  [3, 3] ++ List.replicate 32 0 ++ [0, 0, 2, 0x13, 0x01, 1, 0] ++
    [0, UInt8.ofNat (value.length + 7), 0, 16, 0, UInt8.ofNat (value.length + 3), 0,
      UInt8.ofNat (value.length + 1), UInt8.ofNat value.length] ++ value

/-- `h2` は両端とも英数字である。 -/
theorem alpnRule_iff_h2 : ∃ ch, parseClientHello (alpnHello [0x68, 0x32]) = .ok ch ∧
    (((ja4 offerDigest ch false).drop 8).take 2 = alpnRule [0x68, 0x32] ↔
      AlpnFits [0x68, 0x32]) := by
  have hok : (parseClientHello (alpnHello [0x68, 0x32])).isOk = true := by decide +kernel
  have hvalues : alpnValues (alpnHello [0x68, 0x32]) = [[0x68, 0x32]] := by decide +kernel
  cases hparse : parseClientHello (alpnHello [0x68, 0x32]) with
  | ok ch => exact ⟨ch, rfl, alpnRule_iff offerDigest false hparse hvalues (by decide)⟩
  | error e =>
    rw [hparse] at hok
    cases hok

/-- 規則では `ab` になるはずの一 byte の値が、`33` になる。 -/
theorem not_alpnRule_ab :
    alpnValues (alpnHello [0xAB]) = [[0xAB]] ∧ alpnRule [0xAB] = ['a', 'b'] ∧
    (parseClientHello (alpnHello [0xAB])).toOption.map
      (fun ch => ((ja4 offerDigest ch false).drop 8).take 2) = some ['3', '3'] := by
  decide +kernel

end CipherPost.Parsing
