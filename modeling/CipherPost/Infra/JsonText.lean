import Mathlib.Data.List.Sort
import Mathlib.Data.String.Basic
import Mathlib.Tactic.IntervalCases
import Std.Data.String.ToInt
import CipherPost.Infra.Dict

/-!
# JSON の text

`json.dumps(v, sort_keys=True, separators=(",", ":"))` の text と、その一意な読み取り。何を書く JSON かは問わない。
小数は `repr` の文字列で持つ（`repr` は小数を一意に表す）。孤立した surrogate を含む文字列は扱わない。

* `Value.render` — 空白の無い text
* `Value.norm` — dict を key の順に並べる
* `Value.dumps` — `sort_keys=True` の text
* `Value.render_injective` — text が同じ値は等しい
-/

namespace CipherPost.JsonText

/-! ## 値 -/

/-- 数の文字。`NaN` と `Infinity` の文字も含む。 -/
def isNumChar (c : Char) : Bool :=
  c.isDigit || decide (c ∈ ['-', '+', '.', 'e', 'N', 'a', 'I', 'n', 'f', 'i', 't', 'y'])

/-- 小数の `repr`。整数の text とは、数字でも `-` でもない文字で区別される。 -/
structure FloatText where
  text : List Char
  numChars : ∀ c ∈ text, isNumChar c = true
  notInt : ∃ c ∈ text, c.isDigit = false ∧ c ≠ '-'

@[ext] theorem FloatText.ext {x y : FloatText} (h : x.text = y.text) : x = y := by
  cases x; cases y; cases h; rfl

/-- 構造を持たず、引用符で囲まない値。 -/
inductive Scalar where
  | null
  | bool (b : Bool)
  | int (n : Int)
  | float (x : FloatText)

/-- JSON の値。 -/
inductive Value where
  | scalar (a : Scalar)
  | str (s : String)
  | arr (items : List Value)
  | obj (fields : List (String × Value))

/-! ## text -/

def Scalar.text : Scalar → List Char
  | null => "null".toList
  | bool true => "true".toList
  | bool false => "false".toList
  | int n => (toString n).toList
  | float x => x.text

/-- 四桁の十六進数。 -/
def hex4 (n : Nat) : List Char :=
  [n / 4096 % 16, n / 256 % 16, n / 16 % 16, n % 16].map Nat.digitChar

/-- 二重引用符。 -/
def quote : Char := Char.ofNat 0x22

/-- `ensure_ascii` の escape。 -/
def escapeChar (c : Char) : List Char :=
  if c = quote then ['\\', quote]
  else if c = '\\' then ['\\', '\\']
  else if c = '\n' then ['\\', 'n']
  else if c = '\r' then ['\\', 'r']
  else if c = '\t' then ['\\', 't']
  else if c.toNat = 0x0C then ['\\', 'f']
  else if c.toNat = 0x08 then ['\\', 'b']
  else if 0x20 ≤ c.toNat ∧ c.toNat ≤ 0x7E then [c]
  else if c.toNat < 0x10000 then ['\\', 'u'] ++ hex4 c.toNat
  else
    let n := c.toNat - 0x10000
    ['\\', 'u'] ++ hex4 (0xD800 + n / 0x400) ++ ['\\', 'u'] ++ hex4 (0xDC00 + n % 0x400)

/-- 文字列の text。 -/
def renderStr (s : String) : List Char := quote :: (s.toList.flatMap escapeChar ++ [quote])

mutual

/-- 値の text。 -/
def Value.render : Value → List Char
  | .scalar a => a.text
  | .str s => renderStr s
  | .arr items => '[' :: renderItems items
  | .obj fields => '{' :: renderFields fields

/-- 開いた list の残り。 -/
def renderItems : List Value → List Char
  | [] => [']']
  | v :: l => v.render ++ renderMoreItems l

/-- 先頭より後の要素。 -/
def renderMoreItems : List Value → List Char
  | [] => [']']
  | v :: l => ',' :: (v.render ++ renderMoreItems l)

/-- 開いた dict の残り。 -/
def renderFields : List (String × Value) → List Char
  | [] => ['}']
  | (k, v) :: l => renderStr k ++ ':' :: (v.render ++ renderMoreFields l)

/-- 先頭より後の項目。 -/
def renderMoreFields : List (String × Value) → List Char
  | [] => ['}']
  | (k, v) :: l => ',' :: (renderStr k ++ ':' :: (v.render ++ renderMoreFields l))

end

mutual

/-- dict を key の順に並べた値。 -/
def Value.norm : Value → Value
  | .scalar a => .scalar a
  | .str s => .str s
  | .arr items => .arr (normItems items)
  | .obj fields => .obj ((normFields fields).insertionSort fun a b => a.1 ≤ b.1)

def normItems : List Value → List Value
  | [] => []
  | v :: l => v.norm :: normItems l

def normFields : List (String × Value) → List (String × Value)
  | [] => []
  | (k, v) :: l => (k, v.norm) :: normFields l

end

/-- `json.dumps(v, sort_keys=True, separators=(",", ":"))`。 -/
def Value.dumps (v : Value) : List Char := v.norm.render

/-- dict の項目の順によらない一致。 -/
def Value.Same (v w : Value) : Prop := v.norm = w.norm

/-! ## key の順と値 -/

theorem get?_normFields (k : String) : ∀ l : List (String × Value),
    DictList.get? k (normFields l) = (DictList.get? k l).map Value.norm
  | [] => rfl
  | (k', v) :: l => by
    rw [normFields, DictList.get?, DictList.get?]
    split
    · rfl
    · exact get?_normFields k l

/-- 先に来る値は、key の順の位置に入れても先に見つかる。 -/
theorem get?_orderedInsert (k : String) (f : String × Value) : ∀ l : List (String × Value),
    DictList.get? k (l.orderedInsert (fun a b => a.1 ≤ b.1) f) = DictList.get? k (f :: l)
  | [] => rfl
  | g :: l => by
    rw [List.orderedInsert]
    split
    · rfl
    · next hle =>
      have hne : f.1 ≠ g.1 := fun he => hle (le_of_eq he)
      rw [DictList.get?, get?_orderedInsert k f l, DictList.get?, DictList.get?, DictList.get?]
      by_cases hf : f.1 = k
      · rw [if_pos hf, if_pos hf, if_neg (by rw [← hf]; exact hne.symm)]
      · simp only [if_neg hf]

theorem get?_insertionSort (k : String) : ∀ l : List (String × Value),
    DictList.get? k (l.insertionSort fun a b => a.1 ≤ b.1) = DictList.get? k l
  | [] => rfl
  | f :: l => by
    rw [List.insertionSort_cons, get?_orderedInsert, DictList.get?, DictList.get?,
      get?_insertionSort k l]

/-- key の順に並べても、key の値は変わらない。 -/
theorem get?_norm (k : String) (l : List (String × Value)) :
    DictList.get? k ((normFields l).insertionSort fun a b => a.1 ≤ b.1)
      = (DictList.get? k l).map Value.norm := by
  rw [get?_insertionSort, get?_normFields]

/-! ## 文字の読み取り -/

/-- 十六進数の数字の値。 -/
def unhex (c : Char) : Nat := if c.isDigit then c.toNat - 48 else c.toNat - 87

def unhex4 (a b c d : Char) : Nat := unhex a * 4096 + unhex b * 256 + unhex c * 16 + unhex d

/-- `\\` に続く一文字の escape。 -/
def unescapeShort (c : Char) : Char :=
  if c = 'n' then '\n' else if c = 'r' then '\r' else if c = 't' then '\t'
  else if c = 'f' then Char.ofNat 0x0C else if c = 'b' then Char.ofNat 0x08 else c

/-- 列の先頭の文字と残り。 -/
def unescape : List Char → Option (Char × List Char)
  | [] => none
  | '\\' :: 'u' :: a :: b :: c :: d :: r =>
    let n := unhex4 a b c d
    if n < 0xD800 ∨ 0xE000 ≤ n then some (Char.ofNat n, r)
    else match r with
      | _ :: _ :: a' :: b' :: c' :: d' :: r =>
        some (Char.ofNat (0x10000 + (n - 0xD800) * 0x400 + (unhex4 a' b' c' d' - 0xDC00)), r)
      | _ => none
  | '\\' :: c :: r => some (unescapeShort c, r)
  | c :: r => some (c, r)

theorem unhex_digitChar {n : Nat} (h : n < 16) : unhex (Nat.digitChar n) = n := by
  interval_cases n <;> rfl

/-- 四桁の十六進数は元の数を表す。 -/
theorem unhex4_hex4 {n : Nat} (h : n < 0x10000) :
    ∃ a b c d, hex4 n = [a, b, c, d] ∧ unhex4 a b c d = n := by
  refine ⟨_, _, _, _, rfl, ?_⟩
  unfold unhex4
  rw [unhex_digitChar (by omega), unhex_digitChar (by omega), unhex_digitChar (by omega),
    unhex_digitChar (by omega)]
  omega

theorem char_range (c : Char) : c.toNat < 0xD800 ∨ 0xE000 ≤ c.toNat ∧ c.toNat < 0x110000 := by
  have h := c.valid
  rcases h with h | ⟨h, h'⟩
  · exact .inl h
  · exact .inr ⟨h, h'⟩

/-- 逆斜線でない文字は、そのまま読み取られる。 -/
theorem unescape_plain {c : Char} (h : c ≠ '\\') (r : List Char) :
    unescape (c :: r) = some (c, r) := by
  unfold unescape
  split
  · next he => cases he
  · next he => exact absurd (List.cons.inj he).1 h
  · next he => exact absurd (List.cons.inj he).1 h
  · next he =>
    obtain ⟨rfl, rfl⟩ := List.cons.inj he
    rfl

/-- 基本多言語面の文字の読み取り。 -/
theorem unescape_hex4 {n : Nat} (h : n < 0xD800 ∨ 0xE000 ≤ n ∧ n < 0x10000) (r : List Char) :
    unescape (['\\', 'u'] ++ hex4 n ++ r) = some (Char.ofNat n, r) := by
  obtain ⟨a, b, c, d, he, hv⟩ := unhex4_hex4 (n := n) (by omega)
  rw [he]
  show (if unhex4 a b c d < 0xD800 ∨ 0xE000 ≤ unhex4 a b c d then _ else _) = _
  rw [hv, if_pos (by omega)]
  rfl

/-- surrogate の対の読み取り。 -/
theorem unescape_pair {n : Nat} (h : n < 0x100000) (r : List Char) :
    unescape (['\\', 'u'] ++ hex4 (0xD800 + n / 0x400) ++ ['\\', 'u'] ++
      hex4 (0xDC00 + n % 0x400) ++ r) = some (Char.ofNat (0x10000 + n), r) := by
  obtain ⟨a, b, c, d, he, hv⟩ := unhex4_hex4 (n := 0xD800 + n / 0x400) (by omega)
  obtain ⟨a', b', c', d', he', hv'⟩ := unhex4_hex4 (n := 0xDC00 + n % 0x400) (by omega)
  rw [he, he']
  show (if unhex4 a b c d < 0xD800 ∨ 0xE000 ≤ unhex4 a b c d then _ else
    some (Char.ofNat (0x10000 + (unhex4 a b c d - 0xD800) * 0x400 +
      (unhex4 a' b' c' d' - 0xDC00)), r)) = _
  rw [hv, hv', if_neg (by omega)]
  have hsum : 0x10000 + (0xD800 + n / 0x400 - 0xD800) * 0x400 + (0xDC00 + n % 0x400 - 0xDC00)
      = 0x10000 + n := by omega
  rw [hsum]

/-- 文字の書き方。逆斜線と一文字か、そのままか、四桁の十六進数か、surrogate の対である。 -/
theorem escapeChar_cases (c : Char) :
    (∃ x, escapeChar c = ['\\', x] ∧ ∀ r, unescape ('\\' :: x :: r) = some (c, r)) ∨
    (escapeChar c = [c] ∧ c ≠ quote ∧ c ≠ '\\') ∨
    (escapeChar c = ['\\', 'u'] ++ hex4 c.toNat ∧ c.toNat < 0x10000) ∨
    (escapeChar c = ['\\', 'u'] ++ hex4 (0xD800 + (c.toNat - 0x10000) / 0x400) ++
      ['\\', 'u'] ++ hex4 (0xDC00 + (c.toNat - 0x10000) % 0x400) ∧ 0x10000 ≤ c.toNat) := by
  obtain ⟨e, he⟩ : ∃ e, escapeChar c = e := ⟨_, rfl⟩
  rw [he]
  unfold escapeChar at he
  by_cases hquote : c = quote
  · rw [if_pos hquote] at he
    exact .inl ⟨quote, he.symm, fun r => by rw [hquote]; rfl⟩
  rw [if_neg hquote] at he
  by_cases hslash : c = '\\'
  · rw [if_pos hslash] at he
    exact .inl ⟨'\\', he.symm, fun r => by rw [hslash]; rfl⟩
  rw [if_neg hslash] at he
  by_cases hn : c = '\n'
  · rw [if_pos hn] at he
    exact .inl ⟨'n', he.symm, fun r => by rw [hn]; rfl⟩
  rw [if_neg hn] at he
  by_cases hr : c = '\r'
  · rw [if_pos hr] at he
    exact .inl ⟨'r', he.symm, fun r => by rw [hr]; rfl⟩
  rw [if_neg hr] at he
  by_cases ht : c = '\t'
  · rw [if_pos ht] at he
    exact .inl ⟨'t', he.symm, fun r => by rw [ht]; rfl⟩
  rw [if_neg ht] at he
  by_cases hf : c.toNat = 0x0C
  · rw [if_pos hf] at he
    exact .inl ⟨'f', he.symm, fun r => by rw [← Char.ofNat_toNat c, hf]; rfl⟩
  rw [if_neg hf] at he
  by_cases hb : c.toNat = 0x08
  · rw [if_pos hb] at he
    exact .inl ⟨'b', he.symm, fun r => by rw [← Char.ofNat_toNat c, hb]; rfl⟩
  rw [if_neg hb] at he
  by_cases hplain : 0x20 ≤ c.toNat ∧ c.toNat ≤ 0x7E
  · rw [if_pos hplain] at he
    exact .inr (.inl ⟨he.symm, hquote, hslash⟩)
  rw [if_neg hplain] at he
  by_cases hlow : c.toNat < 0x10000
  · rw [if_pos hlow] at he
    exact .inr (.inr (.inl ⟨he.symm, hlow⟩))
  · rw [if_neg hlow] at he
    exact .inr (.inr (.inr ⟨he.symm, Nat.le_of_not_lt hlow⟩))

/-- 書いた文字は、後に何が続いても読み取れる。 -/
theorem unescape_escapeChar (c : Char) (r : List Char) :
    unescape (escapeChar c ++ r) = some (c, r) := by
  have hrange := char_range c
  rcases escapeChar_cases c with ⟨x, he, hx⟩ | ⟨he, -, hslash⟩ | ⟨he, hlow⟩ | ⟨he, hhigh⟩
  · rw [he]
    exact hx r
  · rw [he]
    exact unescape_plain hslash r
  · rw [he, unescape_hex4 (by omega), Char.ofNat_toNat]
  · have hn : 0x10000 + (c.toNat - 0x10000) = c.toNat := by omega
    rw [he, unescape_pair (by omega), hn, Char.ofNat_toNat]

theorem escapeChar_inj {c d : Char} {r s : List Char} (h : escapeChar c ++ r = escapeChar d ++ s) :
    c = d ∧ r = s := by
  have hc := unescape_escapeChar c r
  rw [h, unescape_escapeChar, Option.some.injEq, Prod.mk.injEq] at hc
  exact ⟨hc.1.symm, hc.2.symm⟩

/-- 書いた文字は引用符で始まらない。 -/
theorem escapeChar_head (c : Char) : ∃ x l, escapeChar c = x :: l ∧ x ≠ quote := by
  rcases escapeChar_cases c with ⟨x, he, -⟩ | ⟨he, hquote, -⟩ | ⟨he, -⟩ | ⟨he, -⟩
  · exact ⟨'\\', [x], he, by decide⟩
  · exact ⟨c, [], he, hquote⟩
  · exact ⟨'\\', _, he, by decide⟩
  · exact ⟨'\\', _, he, by decide⟩

/-! ## 文字列の読み取り -/

theorem flatMap_escape_inj : ∀ {a b r s : List Char},
    a.flatMap escapeChar ++ quote :: r = b.flatMap escapeChar ++ quote :: s → a = b ∧ r = s
  | [], [], r, s, h => ⟨rfl, (List.cons.inj h).2⟩
  | [], d :: b, r, s, h => by
    obtain ⟨x, l, hx, hne⟩ := escapeChar_head d
    rw [List.flatMap_cons, hx] at h
    exact absurd (List.cons.inj h).1.symm hne
  | c :: a, [], r, s, h => by
    obtain ⟨x, l, hx, hne⟩ := escapeChar_head c
    rw [List.flatMap_cons, hx] at h
    exact absurd (List.cons.inj h).1 hne
  | c :: a, d :: b, r, s, h => by
    rw [List.flatMap_cons, List.flatMap_cons, List.append_assoc, List.append_assoc] at h
    obtain ⟨hcd, hrest⟩ := escapeChar_inj h
    obtain ⟨hab, hrs⟩ := flatMap_escape_inj hrest
    exact ⟨by rw [hcd, hab], hrs⟩

/-- 文字列の text は、どこで終わるかを自分で示す。 -/
theorem renderStr_inj {a b : String} {r s : List Char} (h : renderStr a ++ r = renderStr b ++ s) :
    a = b ∧ r = s := by
  unfold renderStr at h
  rw [List.cons_append, List.cons_append, List.append_assoc, List.append_assoc] at h
  obtain ⟨hab, hrs⟩ := flatMap_escape_inj (List.cons.inj h).2
  exact ⟨String.toList_injective hab, hrs⟩

/-! ## 数と定数の読み取り -/

/-- 区切りの文字。 -/
def isDelim (c : Char) : Bool := decide (c ∈ [',', ']', '}'])

/-- text の続きは、無いか区切りで始まる。 -/
def Delimited (r : List Char) : Prop := ∀ c l, r = c :: l → isDelim c = true

theorem Delimited.nil : Delimited [] := fun _ _ h => by cases h

theorem Delimited.cons {c : Char} {l : List Char} (h : isDelim c = true) : Delimited (c :: l) := by
  intro c' l' he
  rw [← (List.cons.inj he).1]
  exact h

/-- 区切りを含まない text は、続きの先頭の区切りまでである。 -/
theorem eq_of_delimited : ∀ {a b r s : List Char}, (∀ c ∈ a, isDelim c = false) →
    (∀ c ∈ b, isDelim c = false) → Delimited r → Delimited s → a ++ r = b ++ s → a = b ∧ r = s
  | [], [], _, _, _, _, _, _, h => ⟨rfl, h⟩
  | [], d :: b, r, s, _, hb, hr, _, h => by
    have hd := hr d (b ++ s) h
    rw [hb d List.mem_cons_self] at hd
    cases hd
  | c :: a, [], r, s, ha, _, _, hs, h => by
    have hc := hs c (a ++ r) h.symm
    rw [ha c List.mem_cons_self] at hc
    cases hc
  | c :: a, d :: b, r, s, ha, hb, hr, hs, h => by
    obtain ⟨hcd, h⟩ := List.cons.inj h
    obtain ⟨hab, hrs⟩ := eq_of_delimited (fun x hx => ha x (List.mem_cons_of_mem _ hx))
      (fun x hx => hb x (List.mem_cons_of_mem _ hx)) hr hs h
    exact ⟨by rw [hcd, hab], hrs⟩

/-- 引用符で囲まない値に現れる文字。 -/
def isBare (c : Char) : Bool := isNumChar c || decide (c ∈ ['u', 'l', 'r', 's'])

theorem isBare_of_isNumChar {c : Char} (h : isNumChar c = true) : isBare c = true := by
  simp [isBare, h]

/-- 引用符で囲まない値の文字は、区切りでも、構造を始める文字でもない。 -/
theorem ne_of_isBare {c d : Char} (h : isBare c = true) (hd : isBare d = false) : c ≠ d := by
  intro he
  rw [he, hd] at h
  cases h

theorem isDelim_of_isBare {c : Char} (h : isBare c = true) : isDelim c = false := by
  unfold isDelim
  rw [decide_eq_false_iff_not]
  simp only [List.mem_cons, List.not_mem_nil, or_false, not_or]
  exact ⟨ne_of_isBare h rfl, ne_of_isBare h rfl, ne_of_isBare h rfl⟩

/-- 整数の text は数字と `-` からなる。 -/
theorem mem_toString_int {n : Int} {c : Char} (h : c ∈ (toString n).toList) :
    c.isDigit = true ∨ c = '-' := by
  have hnat : ∀ k : Nat, c ∈ k.repr.toList → c.isDigit = true := by
    intro k hk
    rw [Nat.toList_repr] at hk
    exact Nat.isDigit_of_mem_toDigits (by decide) (by decide) hk
  rw [Int.toString_eq_repr, Int.repr_eq_if] at h
  split at h
  · exact .inl (hnat _ h)
  · rw [String.toList_append] at h
    rcases List.mem_append.mp h with h | h
    · exact .inr (List.mem_singleton.mp h)
    · exact .inl (hnat _ h)

theorem isNumChar_of_mem_int {n : Int} {c : Char} (h : c ∈ (toString n).toList) :
    isNumChar c = true := by
  rcases mem_toString_int h with hd | rfl
  · simp [isNumChar, hd]
  · rfl

theorem isBare_of_mem_text : ∀ {a : Scalar} {c : Char}, c ∈ a.text → isBare c = true
  | .null, c, h => by
    have hall : Scalar.null.text.all isBare = true := by decide
    exact List.all_eq_true.mp hall c h
  | .bool true, c, h => by
    have hall : (Scalar.bool true).text.all isBare = true := by decide
    exact List.all_eq_true.mp hall c h
  | .bool false, c, h => by
    have hall : (Scalar.bool false).text.all isBare = true := by decide
    exact List.all_eq_true.mp hall c h
  | .int n, c, h => isBare_of_isNumChar (isNumChar_of_mem_int h)
  | .float x, c, h => isBare_of_isNumChar (x.numChars c h)

/-- 定数の text には、数に現れない文字がある。 -/
theorem text_ne_of_letter {a b : Scalar} {c : Char} (hc : c ∈ a.text) (hn : isNumChar c = false)
    (hb : ∀ c ∈ b.text, isNumChar c = true) : a.text ≠ b.text := by
  intro he
  rw [he] at hc
  rw [hb c hc] at hn
  cases hn

/-- 整数の text は小数の text にならない。 -/
theorem int_text_ne_float (n : Int) (x : FloatText) :
    (Scalar.int n).text ≠ (Scalar.float x).text := by
  intro he
  obtain ⟨c, hc, hd, hm⟩ := x.notInt
  have he : (toString n).toList = x.text := he
  rw [← he] at hc
  rcases mem_toString_int hc with h | h
  · rw [hd] at h
    cases h
  · exact hm h

/-- 定数の text は数の text にならない。 -/
theorem const_text_ne {a b : Scalar} (ha : a = .null ∨ ∃ x, a = .bool x)
    (hb : ∀ c ∈ b.text, isNumChar c = true) : a.text ≠ b.text := by
  rcases ha with rfl | ⟨x, rfl⟩
  · exact text_ne_of_letter (c := 'u') (by decide) rfl hb
  · cases x with
    | true => exact text_ne_of_letter (c := 'u') (by decide) rfl hb
    | false => exact text_ne_of_letter (c := 'l') (by decide) rfl hb

theorem int_text_injective {n m : Int} (h : (Scalar.int n).text = (Scalar.int m).text) : n = m := by
  have he : toString n = toString m := String.toList_injective h
  rw [Int.toString_eq_repr, Int.toString_eq_repr] at he
  exact Int.repr_injective he

/-- 引用符で囲まない値は、text から決まる。 -/
theorem Scalar.text_injective : ∀ {a b : Scalar}, a.text = b.text → a = b
  | .null, .null, _ => rfl
  | .null, .bool true, h => absurd h (by decide)
  | .null, .bool false, h => absurd h (by decide)
  | .bool true, .null, h => absurd h (by decide)
  | .bool false, .null, h => absurd h (by decide)
  | .bool true, .bool true, _ => rfl
  | .bool true, .bool false, h => absurd h (by decide)
  | .bool false, .bool true, h => absurd h (by decide)
  | .bool false, .bool false, _ => rfl
  | .null, .int _, h => absurd h (const_text_ne (.inl rfl) fun _ => isNumChar_of_mem_int)
  | .bool x, .int _, h => absurd h (const_text_ne (.inr ⟨x, rfl⟩) fun _ => isNumChar_of_mem_int)
  | .null, .float y, h => absurd h (const_text_ne (.inl rfl) y.numChars)
  | .bool x, .float y, h => absurd h (const_text_ne (.inr ⟨x, rfl⟩) y.numChars)
  | .int _, .null, h => absurd h.symm (const_text_ne (.inl rfl) fun _ => isNumChar_of_mem_int)
  | .int _, .bool y, h =>
    absurd h.symm (const_text_ne (.inr ⟨y, rfl⟩) fun _ => isNumChar_of_mem_int)
  | .float x, .null, h => absurd h.symm (const_text_ne (.inl rfl) x.numChars)
  | .float x, .bool y, h => absurd h.symm (const_text_ne (.inr ⟨y, rfl⟩) x.numChars)
  | .int n, .int m, h => by rw [int_text_injective h]
  | .int n, .float y, h => absurd h (int_text_ne_float n y)
  | .float x, .int m, h => absurd h.symm (int_text_ne_float m x)
  | .float _, .float _, h => by rw [FloatText.ext h]

theorem Scalar.text_ne_nil : ∀ a : Scalar, ∃ c l, a.text = c :: l
  | .null => ⟨_, _, rfl⟩
  | .bool true => ⟨_, _, rfl⟩
  | .bool false => ⟨_, _, rfl⟩
  | .int n => by
    cases h : (Scalar.int n).text with
    | cons c l => exact ⟨c, l, rfl⟩
    | nil =>
      have he : toString n = "" := String.toList_injective h
      rw [Int.toString_eq_repr, Int.repr_eq_if] at he
      split at he
      · exact absurd he Nat.repr_ne_empty
      · exact absurd (congrArg String.length he) (by simp)
  | .float x => by
    obtain ⟨c, hc, _⟩ := x.notInt
    obtain ⟨a, l, hl⟩ := List.exists_cons_of_ne_nil (List.ne_nil_of_mem hc)
    exact ⟨a, l, hl⟩

/-! ## 値の読み取り -/

/-- 値の種類を示す最初の文字。引用符で囲まない値には無い。 -/
def Value.opener : Value → Option Char
  | .scalar _ => none
  | .str _ => some quote
  | .arr _ => some '['
  | .obj _ => some '{'

/-- text の最初の文字は、区切りではなく、値の種類を決める。 -/
theorem render_head : ∀ v : Value, ∃ c l, v.render = c :: l ∧ isDelim c = false ∧
    v.opener = if isBare c then none else some c
  | .scalar a => by
    obtain ⟨c, l, h⟩ := a.text_ne_nil
    have hb : isBare c = true := isBare_of_mem_text (by rw [h]; exact List.mem_cons_self)
    exact ⟨c, l, h, isDelim_of_isBare hb, by rw [hb]; rfl⟩
  | .str s => ⟨_, _, rfl, rfl, rfl⟩
  | .arr items => ⟨_, _, rfl, rfl, rfl⟩
  | .obj fields => ⟨_, _, rfl, rfl, rfl⟩

/-- 同じ text で始まる値は、同じ種類である。 -/
theorem opener_eq {v w : Value} {r s : List Char} (h : v.render ++ r = w.render ++ s) :
    v.opener = w.opener := by
  obtain ⟨c, l, hv, _, hcv⟩ := render_head v
  obtain ⟨d, m, hw, _, hdw⟩ := render_head w
  rw [hv, hw] at h
  have hcd : c = d := (List.cons.inj h).1
  rw [hcv, hdw, hcd]

/-- 値の text は `]` や `}` で始まらない。 -/
theorem render_ne_delim {v : Value} {r s : List Char} {c : Char} (hc : isDelim c = true) :
    v.render ++ r ≠ c :: s := by
  intro h
  obtain ⟨d, l, hv, hd, _⟩ := render_head v
  rw [hv] at h
  rw [(List.cons.inj h).1, hc] at hd
  cases hd

theorem delimited_moreItems (l : List Value) (r : List Char) : Delimited (renderMoreItems l ++ r) := by
  cases l with
  | nil => exact Delimited.cons rfl
  | cons v l => exact Delimited.cons rfl

theorem delimited_moreFields (l : List (String × Value)) (r : List Char) :
    Delimited (renderMoreFields l ++ r) := by
  cases l with
  | nil => exact Delimited.cons rfl
  | cons f l => exact Delimited.cons rfl

mutual

/-- **一意な読み取り。** 区切りの前の text から、値とその続きが決まる。 -/
theorem Value.render_inj : ∀ {v w : Value} {r s : List Char}, Delimited r → Delimited s →
    v.render ++ r = w.render ++ s → v = w ∧ r = s
  | .scalar a, .scalar b, r, s, hr, hs, h => by
    obtain ⟨ht, hrs⟩ := eq_of_delimited (fun _ hc => isDelim_of_isBare (isBare_of_mem_text hc))
      (fun _ hc => isDelim_of_isBare (isBare_of_mem_text hc)) hr hs h
    exact ⟨by rw [Scalar.text_injective ht], hrs⟩
  | .str a, .str b, r, s, _, _, h => by
    obtain ⟨hab, hrs⟩ := renderStr_inj h
    exact ⟨by rw [hab], hrs⟩
  | .arr xs, .arr ys, r, s, _, _, h => by
    obtain ⟨hxy, hrs⟩ := renderItems_inj (List.cons.inj h).2
    exact ⟨by rw [hxy], hrs⟩
  | .obj xs, .obj ys, r, s, _, _, h => by
    obtain ⟨hxy, hrs⟩ := renderFields_inj (List.cons.inj h).2
    exact ⟨by rw [hxy], hrs⟩
  | .scalar _, .str _, _, _, _, _, h => absurd (opener_eq h) (by simp [Value.opener])
  | .scalar _, .arr _, _, _, _, _, h => absurd (opener_eq h) (by simp [Value.opener])
  | .scalar _, .obj _, _, _, _, _, h => absurd (opener_eq h) (by simp [Value.opener])
  | .str _, .scalar _, _, _, _, _, h => absurd (opener_eq h) (by simp [Value.opener])
  | .str _, .arr _, _, _, _, _, h => absurd (opener_eq h) (by simp [Value.opener, quote])
  | .str _, .obj _, _, _, _, _, h => absurd (opener_eq h) (by simp [Value.opener, quote])
  | .arr _, .scalar _, _, _, _, _, h => absurd (opener_eq h) (by simp [Value.opener])
  | .arr _, .str _, _, _, _, _, h => absurd (opener_eq h) (by simp [Value.opener, quote])
  | .arr _, .obj _, _, _, _, _, h => absurd (opener_eq h) (by simp [Value.opener])
  | .obj _, .scalar _, _, _, _, _, h => absurd (opener_eq h) (by simp [Value.opener])
  | .obj _, .str _, _, _, _, _, h => absurd (opener_eq h) (by simp [Value.opener, quote])
  | .obj _, .arr _, _, _, _, _, h => absurd (opener_eq h) (by simp [Value.opener])

theorem renderItems_inj : ∀ {xs ys : List Value} {r s : List Char},
    renderItems xs ++ r = renderItems ys ++ s → xs = ys ∧ r = s
  | [], [], _, _, h => ⟨rfl, (List.cons.inj h).2⟩
  | [], w :: l, _, _, h => by
    rw [renderItems, renderItems, List.append_assoc] at h
    exact absurd h.symm (render_ne_delim rfl)
  | v :: k, [], _, _, h => by
    rw [renderItems, renderItems, List.append_assoc] at h
    exact absurd h (render_ne_delim rfl)
  | v :: k, w :: l, _, _, h => by
    rw [renderItems, renderItems, List.append_assoc, List.append_assoc] at h
    obtain ⟨hvw, hrest⟩ := Value.render_inj (delimited_moreItems k _) (delimited_moreItems l _) h
    obtain ⟨hkl, hrs⟩ := renderMoreItems_inj hrest
    exact ⟨by rw [hvw, hkl], hrs⟩

theorem renderMoreItems_inj : ∀ {xs ys : List Value} {r s : List Char},
    renderMoreItems xs ++ r = renderMoreItems ys ++ s → xs = ys ∧ r = s
  | [], [], _, _, h => ⟨rfl, (List.cons.inj h).2⟩
  | [], w :: l, _, _, h => absurd (List.cons.inj h).1 (by decide)
  | v :: k, [], _, _, h => absurd (List.cons.inj h).1 (by decide)
  | v :: k, w :: l, _, _, h => by
    simp only [renderMoreItems, List.cons_append, List.append_assoc, List.cons.injEq, true_and] at h
    obtain ⟨hvw, hrest⟩ := Value.render_inj (delimited_moreItems k _) (delimited_moreItems l _) h
    obtain ⟨hkl, hrs⟩ := renderMoreItems_inj hrest
    exact ⟨by rw [hvw, hkl], hrs⟩

theorem renderFields_inj : ∀ {xs ys : List (String × Value)} {r s : List Char},
    renderFields xs ++ r = renderFields ys ++ s → xs = ys ∧ r = s
  | [], [], _, _, h => ⟨rfl, (List.cons.inj h).2⟩
  | [], (k, w) :: l, _, _, h => absurd (List.cons.inj h).1 (by decide)
  | (k, v) :: l, [], _, _, h => absurd (List.cons.inj h).1 (by decide)
  | (k, v) :: l, (k', w) :: l', _, _, h => by
    simp only [renderFields, List.append_assoc] at h
    obtain ⟨hk, h⟩ := renderStr_inj h
    simp only [List.cons_append, List.append_assoc, List.cons.injEq, true_and] at h
    obtain ⟨hvw, hrest⟩ := Value.render_inj (delimited_moreFields l _) (delimited_moreFields l' _) h
    obtain ⟨hl, hrs⟩ := renderMoreFields_inj hrest
    exact ⟨by rw [hk, hvw, hl], hrs⟩

theorem renderMoreFields_inj : ∀ {xs ys : List (String × Value)} {r s : List Char},
    renderMoreFields xs ++ r = renderMoreFields ys ++ s → xs = ys ∧ r = s
  | [], [], _, _, h => ⟨rfl, (List.cons.inj h).2⟩
  | [], (k, w) :: l, _, _, h => absurd (List.cons.inj h).1 (by decide)
  | (k, v) :: l, [], _, _, h => absurd (List.cons.inj h).1 (by decide)
  | (k, v) :: l, (k', w) :: l', _, _, h => by
    simp only [renderMoreFields, List.cons_append, List.append_assoc, List.cons.injEq, true_and] at h
    obtain ⟨hk, h⟩ := renderStr_inj h
    simp only [List.cons.injEq, true_and] at h
    obtain ⟨hvw, hrest⟩ := Value.render_inj (delimited_moreFields l _) (delimited_moreFields l' _) h
    obtain ⟨hl, hrs⟩ := renderMoreFields_inj hrest
    exact ⟨by rw [hk, hvw, hl], hrs⟩

end

/-- text が同じ値は等しい。 -/
theorem Value.render_injective {v w : Value} (h : v.render = w.render) : v = w :=
  (Value.render_inj (r := []) (s := []) Delimited.nil Delimited.nil
    (by rw [List.append_nil, List.append_nil, h])).1

/-- `sort_keys=True` の text が同じ値は、dict の項目の順を除いて一致する。 -/
theorem Value.dumps_inj {v w : Value} : v.dumps = w.dumps ↔ v.Same w :=
  ⟨Value.render_injective, fun h => by unfold Value.dumps; rw [h]⟩

end CipherPost.JsonText
