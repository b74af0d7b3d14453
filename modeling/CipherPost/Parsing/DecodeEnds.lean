import CipherPost.Parsing.Reassembly

/-!
# decode した文字列の両端

`decode(errors="replace")` で読んだ bytes を、`encode("latin-1", errors="replace")` で書き直したときの、両端の文字。
どちらの端も、その端の一 byte か二 byte だけで決まる。

* `Decoded`・`exists_piece` — 一文字ずつの区切り
* `latinCode` — Latin-1 での値
* `headCode`・`exists_decode_cons` — 先頭の文字
* `tailCode`・`exists_decode_concat` — 最後の文字
-/

namespace CipherPost.Parsing

open Addr

/-! ## 一文字ずつの区切り -/

/-- 二 byte で Latin-1 の一文字になる。 -/
def latinPair (p x : UInt8) : Prop := (p = 0xC2 ∨ p = 0xC3) ∧ isCont x = true

instance (p x : UInt8) : Decidable (latinPair p x) := inferInstanceAs (Decidable (_ ∧ _))

/-- Latin-1 での値。Latin-1 に無い文字は `?` になる。 -/
def latinCode (c : Char) : Nat := if c.toNat < 256 then c.toNat else 0x3F

theorem latinCode_lt (c : Char) : latinCode c < 256 := by
  unfold latinCode
  split <;> omega

/-- `rest` の前の `piece` が一文字 `c` になる。 -/
inductive Decoded : Bytes → Char → Bytes → Prop where
  | ascii {b : UInt8} {rest : Bytes} (h : b < 0x80) : Decoded [b] (Char.ofNat b.toNat) rest
  | latin {p x : UInt8} {c : Char} {rest : Bytes} (h : latinPair p x)
      (hc : c.toNat = (p.toNat - 0xC0) * 64 + (x.toNat - 0x80)) : Decoded [p, x] c rest
  /-- Latin-1 に無い文字。端の二 byte も、次の byte との境も、Latin-1 の一文字にはならない。 -/
  | other {piece : Bytes} {c : Char} {rest : Bytes} (hc : 256 ≤ c.toNat) (hne : piece ≠ [])
      (hbyte : ∀ b ∈ piece, 0x80 ≤ b)
      (hpair : ∀ p x l, piece ++ rest = p :: x :: l → ¬latinPair p x)
      (hlast : ∀ l p x, piece = l ++ [p, x] → ¬latinPair p x)
      (hborder : ∀ p, piece.getLast? = some p → ∀ x, rest.head? = some x → ¬latinPair p x) :
      Decoded piece c rest

theorem toNat_ofNat {n : Nat} (h : n.isValidChar) : (Char.ofNat n).toNat = n := by
  unfold Char.ofNat
  rw [dif_pos h]
  rfl

theorem isCont_iff {x : UInt8} : isCont x = true ↔ 0x80 ≤ x.toNat ∧ x.toNat ≤ 0xBF := by
  unfold isCont
  simp only [Bool.and_eq_true, decide_eq_true_eq, UInt8.le_iff_toNat_le]
  rfl

theorem isCont_of_secondOk {b x : UInt8} (h : secondOk b x = true) : isCont x = true := by
  unfold secondOk at h
  unfold isCont at h ⊢
  grind

theorem not_latinPair_of_cont {p x : UInt8} (h : isCont p = true) : ¬latinPair p x := by
  rintro ⟨rfl | rfl, -⟩ <;> exact absurd h (by decide)

/-- 壊れた列の極大な先頭と、二 byte 以上の文字。 -/
theorem Decoded.of_tail {b : UInt8} {tail : Bytes} {c : Char} {rest : Bytes} (hc : 256 ≤ c.toNat)
    (hb : 0x80 ≤ b) (hcont : ∀ x ∈ tail, isCont x = true)
    (hhead : ∀ x, (tail ++ rest).head? = some x → ¬latinPair b x) : Decoded (b :: tail) c rest := by
  refine .other hc (List.cons_ne_nil _ _) ?_ ?_ ?_ ?_
  · exact List.forall_mem_cons.mpr
      ⟨hb, fun x hx => UInt8.le_iff_toNat_le.mpr (isCont_iff.mp (hcont x hx)).1⟩
  · intro p x l h
    obtain ⟨rfl, htail⟩ := List.cons.inj h
    exact hhead x (congrArg List.head? htail)
  · rintro (_ | ⟨y, l⟩) p x h
    · obtain ⟨rfl, rfl⟩ := List.cons.inj h
      exact hhead x rfl
    · obtain ⟨-, rfl⟩ := List.cons.inj h
      exact not_latinPair_of_cont (hcont p (by simp))
  · intro p hp x hx
    rcases List.eq_nil_or_concat tail with rfl | ⟨init, q, rfl⟩
    · cases hp
      exact hhead x hx
    · rw [List.concat_eq_append] at hp hcont
      rw [← List.cons_append, List.getLast?_concat] at hp
      cases hp
      exact not_latinPair_of_cont (hcont p (by simp))

/-- 二つ目の byte の、先頭の byte ごとの範囲。 -/
theorem bounds_of_secondOk {b x : UInt8} (h : secondOk b x = true) :
    (b.toNat = 0xE0 → 0xA0 ≤ x.toNat) ∧ (b.toNat = 0xED → x.toNat ≤ 0x9F) ∧
      (b.toNat = 0xF0 → 0x90 ≤ x.toNat) ∧ (b.toNat = 0xF4 → x.toNat ≤ 0x8F) := by
  unfold secondOk at h
  refine ⟨fun hb => ?_, fun hb => ?_, fun hb => ?_, fun hb => ?_⟩
  · obtain rfl : b = 0xE0 := UInt8.toNat_inj.mp hb
    exact UInt8.le_iff_toNat_le.mp (show (0xA0 : UInt8) ≤ x by grind)
  · obtain rfl : b = 0xED := UInt8.toNat_inj.mp hb
    exact UInt8.le_iff_toNat_le.mp (show x ≤ 0x9F by grind)
  · obtain rfl : b = 0xF0 := UInt8.toNat_inj.mp hb
    exact UInt8.le_iff_toNat_le.mp (show (0x90 : UInt8) ≤ x by grind)
  · obtain rfl : b = 0xF4 := UInt8.toNat_inj.mp hb
    exact UInt8.le_iff_toNat_le.mp (show x ≤ 0x8F by grind)

section
variable {b x d e : UInt8}

/-- 三 byte の文字は Latin-1 に無い。 -/
theorem le_toNat_three (hok : secondOk b x = true) (hlow : ¬b < 0xE0) (hhigh : b < 0xF0)
    (hx : isCont x = true) (hd : isCont d = true) :
    256 ≤ (Char.ofNat (((b.toNat - 0xE0) * 64 + (x.toNat - 0x80)) * 64 +
      (d.toNat - 0x80))).toNat := by
  have hlow : 0xE0 ≤ b.toNat := UInt8.le_iff_toNat_le.mp (show (0xE0 : UInt8) ≤ b by grind)
  have hhigh : b.toNat < 0xF0 := UInt8.lt_iff_toNat_lt.mp hhigh
  obtain ⟨he0, hed, -⟩ := bounds_of_secondOk hok
  have hx := isCont_iff.mp hx
  have hd := isCont_iff.mp hd
  rw [toNat_ofNat]
  · omega
  · unfold Nat.isValidChar
    omega

/-- 四 byte の文字は Latin-1 に無い。 -/
theorem le_toNat_four (hok : secondOk b x = true) (hlow : ¬b < 0xF0) (hhigh : ¬0xF5 ≤ b)
    (hx : isCont x = true) (hd : isCont d = true) (he : isCont e = true) :
    256 ≤ (Char.ofNat ((((b.toNat - 0xF0) * 64 + (x.toNat - 0x80)) * 64 +
      (d.toNat - 0x80)) * 64 + (e.toNat - 0x80))).toNat := by
  have hlow : 0xF0 ≤ b.toNat := UInt8.le_iff_toNat_le.mp (show (0xF0 : UInt8) ≤ b by grind)
  have hhigh : b.toNat < 0xF5 := UInt8.lt_iff_toNat_lt.mp (show b < 0xF5 by grind)
  obtain ⟨-, -, hf0, hf4⟩ := bounds_of_secondOk hok
  have hx := isCont_iff.mp hx
  have hd := isCont_iff.mp hd
  have he := isCont_iff.mp he
  rw [toNat_ofNat]
  · omega
  · unfold Nat.isValidChar
    omega

end

/-- 二 byte の文字。先頭が `C2` か `C3` なら Latin-1 にある。 -/
theorem Decoded.of_pair {b x : UInt8} (hlead : ¬b < 0xC2) (htwo : b < 0xE0)
    (hx : isCont x = true) (rest : Bytes) :
    Decoded [b, x] (Char.ofNat ((b.toNat - 0xC0) * 64 + (x.toNat - 0x80))) rest := by
  have hxr := isCont_iff.mp hx
  have hlt : b.toNat < 0xE0 := UInt8.lt_iff_toNat_lt.mp htwo
  have hvalue := @toNat_ofNat ((b.toNat - 0xC0) * 64 + (x.toNat - 0x80)) (.inl (by omega))
  by_cases hpair : latinPair b x
  · exact .latin hpair hvalue
  · have hge : 0xC4 ≤ b.toNat := by
      have hne : b ≠ 0xC2 ∧ b ≠ 0xC3 := not_or.mp fun h => hpair ⟨h, hx⟩
      have : 0xC4 ≤ b := by grind
      exact UInt8.le_iff_toNat_le.mp this
    refine .of_tail ?_ (by grind) (by simpa using hx) ?_
    · rw [hvalue]
      omega
    · rintro _ ⟨⟩
      exact hpair

/-- 三 byte 以上の文字の先頭で始まる列。途中で切れれば、そこまでが一文字になる。 -/
theorem exists_piece_of_long {b x : UInt8} (htwo : ¬b < 0xE0) (hok : secondOk b x = true)
    (l : Bytes) :
    ∃ piece c rest, b :: x :: l = piece ++ rest ∧
      decodeReplace (b :: x :: l) = c :: decodeReplace rest ∧ Decoded piece c rest := by
  have hbroken : 256 ≤ '\uFFFD'.toNat := by decide
  have hb : 0x80 ≤ b := by grind
  have hx := isCont_of_secondOk hok
  -- 二 byte の文字の先頭ではない
  have hhead : ∀ y, ¬latinPair b y := by
    rintro y ⟨rfl | rfl, -⟩ <;> exact absurd htwo (by decide)
  rw [decodeReplace.eq_def]
  dsimp only
  rw [if_neg (by grind), if_neg (by grind), if_neg (by rw [hok]; decide), if_neg htwo]
  by_cases hbad : 0xF5 ≤ b
  · rw [if_pos hbad]
    exact ⟨[b], _, x :: l, rfl, rfl,
      .of_tail hbroken hb (List.forall_mem_nil _) fun y _ => hhead y⟩
  rw [if_neg hbad]
  cases l with
  | nil =>
    exact ⟨[b, x], _, [], rfl, by rw [decodeReplace],
      .of_tail hbroken hb (by simpa using hx) fun y _ => hhead y⟩
  | cons d l =>
    dsimp only
    by_cases hd : isCont d = false
    · rw [if_pos hd]
      exact ⟨[b, x], _, d :: l, rfl, rfl,
        .of_tail hbroken hb (by simpa using hx) fun y _ => hhead y⟩
    rw [if_neg hd]
    have hd : isCont d = true := by simpa using hd
    have hcont : ∀ y ∈ [x, d], isCont y = true := by simp [hx, hd]
    by_cases hthree : b < 0xF0
    · rw [if_pos hthree]
      exact ⟨[b, x, d], _, l, rfl, rfl,
        .of_tail (le_toNat_three hok htwo hthree hx hd) hb hcont fun y _ => hhead y⟩
    rw [if_neg hthree]
    cases l with
    | nil =>
      exact ⟨[b, x, d], _, [], rfl, by rw [decodeReplace],
        .of_tail hbroken hb hcont fun y _ => hhead y⟩
    | cons e l =>
      dsimp only
      by_cases he : isCont e = false
      · rw [if_pos he]
        exact ⟨[b, x, d], _, e :: l, rfl, rfl,
          .of_tail hbroken hb hcont fun y _ => hhead y⟩
      rw [if_neg he]
      have he : isCont e = true := by simpa using he
      exact ⟨[b, x, d, e], _, l, rfl, rfl, .of_tail (le_toNat_four hok hthree hbad hx hd he) hb
        (by simp [hx, hd, he]) fun y _ => hhead y⟩

/-- 文字一つの区切りが、必ず先頭にある。 -/
theorem exists_piece (b : UInt8) (l : Bytes) :
    ∃ piece c rest, b :: l = piece ++ rest ∧ decodeReplace (b :: l) = c :: decodeReplace rest ∧
      Decoded piece c rest := by
  have hbroken : 256 ≤ '\uFFFD'.toNat := by decide
  by_cases hlong : ∃ x rest, l = x :: rest ∧ ¬b < 0xE0 ∧ secondOk b x = true
  · obtain ⟨x, rest, rfl, htwo, hok⟩ := hlong
    exact exists_piece_of_long htwo hok rest
  rw [decodeReplace.eq_def]
  dsimp only
  by_cases hascii : b < 0x80
  · rw [if_pos hascii]
    exact ⟨[b], _, l, rfl, rfl, .ascii hascii⟩
  have hb : 0x80 ≤ b := by grind
  rw [if_neg hascii]
  by_cases hlead : b < 0xC2
  · rw [if_pos hlead]
    refine ⟨[b], _, l, rfl, rfl, .of_tail hbroken hb (List.forall_mem_nil _) fun x _ => ?_⟩
    rintro ⟨rfl | rfl, -⟩ <;> exact absurd hlead (by decide)
  rw [if_neg hlead]
  cases l with
  | nil =>
    exact ⟨[b], _, [], rfl, by rw [decodeReplace],
      .of_tail hbroken hb (List.forall_mem_nil _) (by rintro x ⟨⟩)⟩
  | cons x l =>
    dsimp only
    by_cases hsecond : secondOk b x = false
    · rw [if_pos hsecond]
      refine ⟨[b], _, x :: l, rfl, rfl, .of_tail hbroken hb (List.forall_mem_nil _) ?_⟩
      rintro _ ⟨⟩ ⟨rfl | rfl, hx⟩
      · exact absurd (hx.symm.trans hsecond) (by decide)
      · exact absurd (hx.symm.trans hsecond) (by decide)
    have hok : secondOk b x = true := by simpa using hsecond
    have htwo : b < 0xE0 := by
      by_contra hnot
      exact hlong ⟨x, l, rfl, hnot, hok⟩
    rw [if_neg hsecond, if_pos htwo]
    exact ⟨[b, x], _, l, rfl, rfl, .of_pair hlead htwo (isCont_of_secondOk hok) l⟩

/-! ## 両端の文字 -/

/-- 二 byte の Latin-1 の文字の値。 -/
def pairCode (p x : UInt8) : Nat := (p.toNat - 0xC0) * 64 + (x.toNat - 0x80)

/-- `b` で始まる列の、先頭の文字の Latin-1 での値。二つ目の byte があれば、それも見る。 -/
def headCode (b : UInt8) : Option UInt8 → Nat
  | some x => if b < 0x80 then b.toNat else if latinPair b x then pairCode b x else 0x3F
  | none => if b < 0x80 then b.toNat else 0x3F

/-- `b` で終わる列の、最後の文字の Latin-1 での値。その前の byte があれば、それも見る。 -/
def tailCode (b : UInt8) : Option UInt8 → Nat
  | some p => if b < 0x80 then b.toNat else if latinPair p b then pairCode p b else 0x3F
  | none => if b < 0x80 then b.toNat else 0x3F

theorem latinRange {p x : UInt8} (h : latinPair p x) :
    0xC2 ≤ p.toNat ∧ p.toNat ≤ 0xC3 ∧ 0x80 ≤ x.toNat ∧ x.toNat ≤ 0xBF := by
  obtain ⟨rfl | rfl, hx⟩ := h
  · exact ⟨by decide, by decide, isCont_iff.mp hx⟩
  · exact ⟨by decide, by decide, isCont_iff.mp hx⟩

theorem headCode_of_lt {b : UInt8} (h : b < 0x80) (next : Option UInt8) :
    headCode b next = b.toNat := by
  cases next <;> rw [headCode, if_pos h]

theorem tailCode_of_lt {b : UInt8} (h : b < 0x80) (prev : Option UInt8) :
    tailCode b prev = b.toNat := by
  cases prev <;> rw [tailCode, if_pos h]

theorem latinCode_ofNat {b : UInt8} (h : b < 0x80) : latinCode (Char.ofNat b.toNat) = b.toNat := by
  have hlt : b.toNat < 0x80 := UInt8.lt_iff_toNat_lt.mp h
  rw [latinCode, toNat_ofNat (.inl (by omega)), if_pos (by omega)]

/-- 先頭の区切りの文字。 -/
theorem Decoded.headCode_eq {b : UInt8} {l rest piece : Bytes} {c : Char}
    (hp : Decoded piece c rest) (hsplit : b :: l = piece ++ rest) :
    latinCode c = headCode b l.head? := by
  cases hp with
  | ascii h =>
    obtain ⟨rfl, rfl⟩ := List.cons.inj hsplit
    rw [headCode_of_lt h, latinCode_ofNat h]
  | latin h hc =>
    obtain ⟨rfl, rfl⟩ := List.cons.inj hsplit
    have hr := latinRange h
    have hb : ¬b < 0x80 := fun hlt => absurd (UInt8.lt_iff_toNat_lt.mp hlt) (by simp; omega)
    show latinCode c = if b < 0x80 then _ else if latinPair b _ then pairCode b _ else 0x3F
    rw [if_neg hb, if_pos h, latinCode, hc, if_pos (by omega)]
    rfl
  | other hc hne hbyte hpair _ _ =>
    have hb : ¬b < 0x80 := by
      obtain ⟨y, piece, rfl⟩ := List.exists_cons_of_ne_nil hne
      obtain ⟨rfl, -⟩ := List.cons.inj hsplit
      exact UInt8.not_lt.mpr (hbyte b List.mem_cons_self)
    rw [latinCode, if_neg (by omega)]
    cases l with
    | nil => rw [List.head?_nil, headCode, if_neg hb]
    | cons x l => rw [List.head?_cons, headCode, if_neg hb, if_neg (hpair b x l hsplit.symm)]

/-- 最後の区切りの文字。 -/
theorem Decoded.tailCode_eq {init : Bytes} {l : UInt8} {c : Char}
    (hp : Decoded (init ++ [l]) c []) :
    latinCode c = tailCode l init.getLast? := by
  generalize hpiece : init ++ [l] = piece at hp
  cases hp with
  | ascii h =>
    obtain ⟨rfl, hl⟩ := List.append_inj' (hpiece.trans (List.nil_append _).symm) rfl
    cases hl
    rw [tailCode_of_lt h, latinCode_ofNat h]
  | @latin p x _ _ h hc =>
    have hpiece : init ++ [l] = [p] ++ [x] := hpiece
    obtain ⟨rfl, hl⟩ := List.append_inj' hpiece rfl
    cases hl
    have hr := latinRange h
    have hl : ¬l < 0x80 := fun hlt => absurd (UInt8.lt_iff_toNat_lt.mp hlt) (by simp; omega)
    show latinCode c = if l < 0x80 then _ else if latinPair p l then pairCode p l else 0x3F
    rw [if_neg hl, if_pos h, latinCode, hc, if_pos (by omega)]
    rfl
  | other hc hne hbyte hpair hlast _ =>
    subst hpiece
    have hl : ¬l < 0x80 := UInt8.not_lt.mpr (hbyte l (by simp))
    rw [latinCode, if_neg (by omega)]
    rcases List.eq_nil_or_concat init with rfl | ⟨init, p, rfl⟩
    · rw [List.getLast?_nil, tailCode, if_neg hl]
    · rw [List.concat_eq_append, List.getLast?_concat, tailCode, if_neg hl, if_neg]
      exact hlast init p l (by rw [List.concat_eq_append, List.append_assoc]; rfl)

/-- 先頭の文字。 -/
theorem exists_decode_cons (b : UInt8) (l : Bytes) :
    ∃ c t, decodeReplace (b :: l) = c :: t ∧ latinCode c = headCode b l.head? := by
  obtain ⟨piece, c, rest, hsplit, hdecode, hp⟩ := exists_piece b l
  exact ⟨c, _, hdecode, hp.headCode_eq hsplit⟩

/-- 区切りの終わりの byte は、次の byte と Latin-1 の一文字にならない。 -/
theorem Decoded.border {piece rest : Bytes} {c : Char} (hp : Decoded piece c rest) {p x : UInt8}
    (hlast : piece.getLast? = some p) (hnext : rest.head? = some x) : ¬latinPair p x := by
  cases hp with
  | ascii h =>
    cases hlast
    rintro ⟨rfl | rfl, -⟩ <;> exact absurd h (by decide)
  | latin h _ =>
    cases hlast
    exact not_latinPair_of_cont h.2
  | other _ _ _ _ _ hborder => exact hborder p hlast x hnext

theorem Decoded.ne_nil {piece rest : Bytes} {c : Char} (hp : Decoded piece c rest) :
    piece ≠ [] := by
  cases hp with
  | ascii _ | latin _ _ => exact List.cons_ne_nil _ _
  | other _ hne _ _ _ _ => exact hne

/-- 最後の文字。 -/
theorem exists_decode_concat (l : UInt8) (init : Bytes) :
    ∃ c, (decodeReplace (init ++ [l])).getLast? = some c ∧
      latinCode c = tailCode l init.getLast? := by
  induction hlen : init.length using Nat.strongRecOn generalizing init with
  | ind n ih =>
    obtain ⟨b, tail, hcons⟩ := List.exists_cons_of_ne_nil (List.concat_ne_nil l init)
    obtain ⟨piece, c, rest, hsplit, hdecode, hp⟩ := exists_piece b tail
    rw [hcons, hdecode]
    rw [← hcons] at hsplit
    rcases List.eq_nil_or_concat rest with rfl | ⟨rest, y, rfl⟩
    · rw [List.append_nil] at hsplit
      subst hsplit
      exact ⟨c, by rw [decodeReplace]; rfl, hp.tailCode_eq⟩
    · rw [List.concat_eq_append, ← List.append_assoc] at hsplit
      obtain ⟨rfl, hy⟩ := List.append_inj' hsplit rfl
      cases hy
      have hpos := List.length_pos_iff.mpr hp.ne_nil
      obtain ⟨c', hlast, hcode⟩ := ih rest.length (by simp at hlen; omega) rest rfl
      refine ⟨c', ?_, ?_⟩
      · rw [List.concat_eq_append, List.getLast?_cons, hlast]
        rfl
      · rw [hcode]
        rcases List.eq_nil_or_concat rest with rfl | ⟨rest, q, rfl⟩
        · have hlast := List.getLast?_eq_some_getLast hp.ne_nil
          have hborder := hp.border hlast rfl
          rw [List.append_nil, hlast, List.getLast?_nil, tailCode, tailCode, if_neg hborder]
        · rw [List.concat_eq_append, ← List.append_assoc, List.getLast?_concat,
            List.getLast?_concat]

theorem decodeReplace_eq_nil_iff {v : Bytes} : decodeReplace v = [] ↔ v = [] := by
  cases v with
  | nil => exact iff_of_true (by rw [decodeReplace]) rfl
  | cons b l =>
    obtain ⟨c, t, h, -⟩ := exists_decode_cons b l
    exact iff_of_false (by rw [h]; exact List.cons_ne_nil _ _) (List.cons_ne_nil _ _)

/-- 二 byte の Latin-1 の文字。 -/
theorem decodeReplace_latin {x : UInt8} (hx : isCont x = true) (rest : Bytes) :
    ∃ c, decodeReplace (0xC3 :: x :: rest) = c :: decodeReplace rest := by
  refine ⟨Char.ofNat ((0xC3 - 0xC0) * 64 + (x.toNat - 0x80)), ?_⟩
  have hsecond : secondOk 0xC3 x = true := hx
  rw [decodeReplace.eq_def]
  dsimp only
  rw [if_neg (by decide), if_neg (by decide), if_neg (by rw [hsecond]; decide), if_pos (by decide)]
  rfl

end CipherPost.Parsing
