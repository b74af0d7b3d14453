import Mathlib.Data.List.Induction
import CipherPost.Infra.JsonText

/-!
# JSON の読み取り

`json.loads`。正しい JSON の text だけを対象とする。空白の置き方と文字の escape のしかたは問わない。

* `loads` — `json.loads`
* `Value.Spells` — 値の text である
* `loads_of_spells` — 値の text は、その値に読み戻される
* `Value.spells_write` — `json.dumps` の text は、空白の置き方によらず値の text である
-/

namespace CipherPost.JsonText

/-! ## 読み取り -/

def isSpace (c : Char) : Bool := decide (c ∈ [' ', '\t', '\n', '\r'])

/-- 先頭の空白を飛ばす。 -/
def skip (s : List Char) : List Char := s.dropWhile isSpace

/-- 開いた文字列の残り。 -/
def readChars : Nat → List Char → Option (List Char × List Char)
  | 0, _ => none
  | _, [] => none
  | n + 1, c :: r =>
    if c = quote then some ([], r)
    else (unescape (c :: r)).bind fun p => (readChars n p.2).map fun q => (p.1 :: q.1, q.2)

/-- 整数の text の文字。 -/
def isIntChar (c : Char) : Bool := c.isDigit || decide (c = '-')

theorem exists_of_not_isInt {t : List Char} (h : ¬t.all isIntChar = true) :
    ∃ c ∈ t, c.isDigit = false ∧ c ≠ '-' := by
  rw [List.all_eq_true] at h
  push Not at h
  obtain ⟨c, hc, hint⟩ := h
  refine ⟨c, hc, ?_⟩
  simpa [isIntChar] using hint

/-- 引用符で囲まない値。整数の text でない数は小数である。 -/
def readScalar (t : List Char) : Option Scalar :=
  if t = Scalar.null.text then some .null
  else if t = (Scalar.bool true).text then some (.bool true)
  else if t = (Scalar.bool false).text then some (.bool false)
  else if t.all isIntChar then (String.ofList t).toInt?.map .int
  else if h : t.all isNumChar = true ∧ ¬t.all isIntChar = true then
    some (.float ⟨t, List.all_eq_true.mp h.1, exists_of_not_isInt h.2⟩)
  else none

/-- `dict(pairs)`。同じ key では後の値が残る。 -/
def dictOf (pairs : List (String × Value)) : List (String × Value) :=
  pairs.foldl (fun l f => DictList.set f.1 f.2 l) []

mutual

/-- 値と、その続き。 -/
def parseValue : Nat → List Char → Option (Value × List Char)
  | 0, _ => none
  | n + 1, s =>
    match skip s with
    | [] => none
    | c :: r =>
      if c = quote then (readChars r.length r).map fun p => (.str (String.ofList p.1), p.2)
      else if c = '[' then
        match skip r with
        | ']' :: r' => some (.arr [], r')
        | _ => (parseItems n r).map fun p => (.arr p.1, p.2)
      else if c = '{' then
        match skip r with
        | '}' :: r' => some (.obj [], r')
        | _ => (parseFields n r).map fun p => (.obj (dictOf p.1), p.2)
      else (readScalar ((c :: r).takeWhile isBare)).map fun a =>
        (.scalar a, (c :: r).dropWhile isBare)

/-- list の要素と、閉じた後の続き。 -/
def parseItems : Nat → List Char → Option (List Value × List Char)
  | 0, _ => none
  | n + 1, s => (parseValue n s).bind fun p =>
    match skip p.2 with
    | ',' :: r => (parseItems n r).map fun q => (p.1 :: q.1, q.2)
    | ']' :: r => some ([p.1], r)
    | _ => none

/-- dict の項目と、閉じた後の続き。 -/
def parseFields : Nat → List Char → Option (List (String × Value) × List Char)
  | 0, _ => none
  | n + 1, s =>
    match skip s with
    | [] => none
    | c :: r =>
      if c = quote then
        (readChars r.length r).bind fun k =>
          match skip k.2 with
          | ':' :: r => (parseValue n r).bind fun p =>
            match skip p.2 with
            | ',' :: r => (parseFields n r).map fun q => ((String.ofList k.1, p.1) :: q.1, q.2)
            | '}' :: r => some ([(String.ofList k.1, p.1)], r)
            | _ => none
          | _ => none
      else none

end

/-- `json.loads`。 -/
def loads (s : List Char) : Option Value :=
  (parseValue (2 * s.length) s).bind fun p => if skip p.2 = [] then some p.1 else none

/-! ## 項目 -/

/-- `v[k]`。 -/
def Value.field? (v : Value) (k : String) : Option Value :=
  match v with
  | .obj fields => DictList.get? k fields
  | _ => none

def Value.int? : Value → Option Int
  | .scalar (.int n) => some n
  | _ => none

def Value.str? : Value → Option String
  | .str s => some s
  | _ => none

def Value.items? : Value → Option (List Value)
  | .arr items => some items
  | _ => none

/-! ## 値の text -/

/-- 空白だけの列。 -/
def Spaces (w : List Char) : Prop := ∀ c ∈ w, isSpace c = true

/-- 文字の書き方の一つ。`ensure_ascii` の escape も、そのままの文字も含む。 -/
structure SpellsChar (c : Char) (u : List Char) : Prop where
  head : ∃ x l, u = x :: l ∧ x ≠ quote
  read : ∀ r, unescape (u ++ r) = some (c, r)

/-- 文字を順に書いた text。 -/
def SpellsChars : List Char → List Char → Prop
  | [], t => t = []
  | c :: s, t => ∃ u r, t = u ++ r ∧ SpellsChar c u ∧ SpellsChars s r

/-- 引用符で囲んだ文字列。 -/
def SpellsStr (s : String) (t : List Char) : Prop :=
  ∃ u, t = quote :: (u ++ [quote]) ∧ SpellsChars s.toList u

mutual

/-- 値の text である。構造の文字の前後の空白は問わない。 -/
def Value.Spells : Value → List Char → Prop
  | .scalar a, t => t = a.text
  | .str s, t => SpellsStr s t
  | .arr items, t => ∃ r, t = '[' :: r ∧ SpellsItems items r
  | .obj fields, t => ∃ r, t = '{' :: r ∧ SpellsFields fields r

/-- 開いた list の残り。 -/
def SpellsItems : List Value → List Char → Prop
  | [], t => ∃ w, Spaces w ∧ t = w ++ [']']
  | v :: l, t => ∃ w u r, Spaces w ∧ t = w ++ (u ++ r) ∧ v.Spells u ∧ SpellsMoreItems l r

/-- 先頭より後の要素。 -/
def SpellsMoreItems : List Value → List Char → Prop
  | [], t => ∃ w, Spaces w ∧ t = w ++ [']']
  | v :: l, t => ∃ w w' u r, Spaces w ∧ Spaces w' ∧ t = w ++ ',' :: (w' ++ (u ++ r)) ∧
      v.Spells u ∧ SpellsMoreItems l r

/-- 開いた dict の残り。 -/
def SpellsFields : List (String × Value) → List Char → Prop
  | [], t => ∃ w, Spaces w ∧ t = w ++ ['}']
  | (k, v) :: l, t => ∃ w w₁ w₂ key u r, Spaces w ∧ Spaces w₁ ∧ Spaces w₂ ∧ SpellsStr k key ∧
      t = w ++ (key ++ (w₁ ++ ':' :: (w₂ ++ (u ++ r)))) ∧ v.Spells u ∧ SpellsMoreFields l r

/-- 先頭より後の項目。 -/
def SpellsMoreFields : List (String × Value) → List Char → Prop
  | [], t => ∃ w, Spaces w ∧ t = w ++ ['}']
  | (k, v) :: l, t => ∃ w w' w₁ w₂ key u r, Spaces w ∧ Spaces w' ∧ Spaces w₁ ∧ Spaces w₂ ∧
      SpellsStr k key ∧ t = w ++ ',' :: (w' ++ (key ++ (w₁ ++ ':' :: (w₂ ++ (u ++ r))))) ∧
      v.Spells u ∧ SpellsMoreFields l r

end

mutual

/-- dict の key に重なりが無い。 -/
def Value.Keyed : Value → Prop
  | .scalar _ => True
  | .str _ => True
  | .arr items => KeyedItems items
  | .obj fields => (fields.map Prod.fst).Nodup ∧ KeyedFields fields

def KeyedItems : List Value → Prop
  | [] => True
  | v :: l => v.Keyed ∧ KeyedItems l

def KeyedFields : List (String × Value) → Prop
  | [] => True
  | (_, v) :: l => v.Keyed ∧ KeyedFields l

end

/-! ## 空白 -/

theorem skip_append {w : List Char} (hw : Spaces w) (s : List Char) : skip (w ++ s) = skip s := by
  unfold skip
  rw [List.dropWhile_append_of_pos hw]

theorem skip_cons {c : Char} (h : isSpace c = false) (r : List Char) : skip (c :: r) = c :: r := by
  unfold skip
  rw [List.dropWhile_cons_of_neg (by simp [h])]

/-- 空白の後の構造の文字。 -/
theorem skip_spaces {w : List Char} (hw : Spaces w) {c : Char} (h : isSpace c = false)
    (r : List Char) : skip (w ++ c :: r) = c :: r := by
  rw [skip_append hw, skip_cons h]

theorem Spaces.nil : Spaces [] := fun _ h => by cases h

theorem isSpace_of_isBare {c : Char} (h : isBare c = true) : isSpace c = false := by
  unfold isSpace
  rw [decide_eq_false_iff_not]
  simp only [List.mem_cons, List.not_mem_nil, or_false, not_or]
  exact ⟨ne_of_isBare h rfl, ne_of_isBare h rfl, ne_of_isBare h rfl, ne_of_isBare h rfl⟩

theorem isBare_of_isSpace {c : Char} (h : isSpace c = true) : isBare c = false := by
  cases hc : isBare c with
  | false => rfl
  | true =>
    rw [isSpace_of_isBare hc] at h
    cases h

/-! ## 文字列 -/

theorem readChars_of_spells : ∀ {s u : List Char} {n : Nat} (r : List Char), SpellsChars s u →
    u.length < n → readChars n (u ++ quote :: r) = some (s, r)
  | [], u, 0, r, _, hn => by cases hn
  | [], u, n + 1, r, h, _ => by
    have h : u = [] := h
    subst h
    show (if quote = quote then _ else _) = _
    rw [if_pos rfl]
  | c :: s, u, 0, r, _, hn => by cases hn
  | c :: s, u, n + 1, r, h, hn => by
    obtain ⟨v, u', rfl, hchar, hrest⟩ := h
    obtain ⟨x, l, rfl, hx⟩ := hchar.head
    rw [List.length_append, List.length_cons] at hn
    have hread := hchar.read (u' ++ quote :: r)
    rw [List.append_assoc, List.cons_append]
    rw [List.cons_append] at hread
    rw [readChars, if_neg hx, hread, Option.bind_some,
      readChars_of_spells r hrest (by omega)]
    rfl

/-- 引用符で囲んだ文字列は、元の文字列に読み戻される。 -/
theorem readChars_of_spellsStr {s : String} {t : List Char} (h : SpellsStr s t) (r : List Char) :
    ∃ u, t = quote :: u ∧ readChars (u ++ r).length (u ++ r) = some (s.toList, r) := by
  obtain ⟨u, rfl, hchars⟩ := h
  refine ⟨u ++ [quote], rfl, ?_⟩
  rw [List.append_assoc]
  refine readChars_of_spells r hchars ?_
  rw [List.length_append]
  exact Nat.lt_add_of_pos_right (Nat.succ_pos _)

/-! ## 引用符で囲まない値 -/

theorem readScalar_text : ∀ a : Scalar, readScalar a.text = some a
  | .null => rfl
  | .bool true => rfl
  | .bool false => rfl
  | .int n => by
    have hconst : ∀ {b : Scalar}, (b = .null ∨ ∃ x, b = .bool x) → (Scalar.int n).text ≠ b.text :=
      fun hb => (const_text_ne hb fun _ => isNumChar_of_mem_int).symm
    have hall : (Scalar.int n).text.all isIntChar = true := by
      refine List.all_eq_true.mpr fun c hc => ?_
      simpa [isIntChar] using mem_toString_int hc
    unfold readScalar
    rw [if_neg (hconst (.inl rfl)), if_neg (hconst (.inr ⟨_, rfl⟩)), if_neg (hconst (.inr ⟨_, rfl⟩)),
      if_pos hall]
    show (String.ofList (toString n).toList).toInt?.map Scalar.int = _
    rw [String.ofList_toList, Int.toString_eq_repr, Int.toInt?_repr]
    rfl
  | .float x => by
    have hconst : ∀ {b : Scalar}, (b = .null ∨ ∃ y, b = .bool y) → (Scalar.float x).text ≠ b.text :=
      fun hb => (const_text_ne (b := .float x) hb x.numChars).symm
    have hnot : ¬(Scalar.float x).text.all isIntChar = true := by
      intro hall
      obtain ⟨c, hc, hdigit, hminus⟩ := x.notInt
      have hint := List.all_eq_true.mp hall c hc
      simp [isIntChar, hdigit, hminus] at hint
    unfold readScalar
    rw [if_neg (hconst (.inl rfl)), if_neg (hconst (.inr ⟨_, rfl⟩)), if_neg (hconst (.inr ⟨_, rfl⟩)),
      if_neg hnot, dif_pos ⟨List.all_eq_true.mpr x.numChars, hnot⟩]
    rfl

/-- 続きは、引用符で囲まない値の文字で始まらない。 -/
def Stops (r : List Char) : Prop := ∀ c l, r = c :: l → isBare c = false

theorem Stops.nil : Stops [] := fun _ _ h => by cases h

theorem Stops.spaces {w : List Char} (hw : Spaces w) {c : Char} (hc : isBare c = false)
    (r : List Char) : Stops (w ++ c :: r) := by
  intro d l h
  cases w with
  | nil =>
    rw [← (List.cons.inj h).1]
    exact hc
  | cons x w =>
    rw [← (List.cons.inj h).1]
    exact isBare_of_isSpace (hw x List.mem_cons_self)

theorem takeWhile_text (a : Scalar) {r : List Char} (hr : Stops r) :
    (a.text ++ r).takeWhile isBare = a.text ∧ (a.text ++ r).dropWhile isBare = r := by
  have hall : ∀ c ∈ a.text, isBare c = true := fun _ => isBare_of_mem_text
  rw [List.takeWhile_append_of_pos hall, List.dropWhile_append_of_pos hall]
  cases r with
  | nil => exact ⟨List.append_nil _, rfl⟩
  | cons c r =>
    have hc : ¬isBare c = true := by rw [hr c r rfl]; exact Bool.false_ne_true
    rw [List.takeWhile_cons_of_neg hc, List.dropWhile_cons_of_neg hc]
    exact ⟨List.append_nil _, rfl⟩

/-! ## dict -/

theorem set_of_notMem {k : String} {v : Value} : ∀ {l : List (String × Value)},
    k ∉ l.map Prod.fst → DictList.set k v l = l ++ [(k, v)]
  | [], _ => rfl
  | (k', v') :: l, h => by
    rw [List.map_cons, List.mem_cons, not_or] at h
    rw [DictList.set, if_neg (Ne.symm h.1), set_of_notMem h.2]
    rfl

/-- key に重なりの無い列は、そのまま dict になる。 -/
theorem dictOf_of_nodup (l : List (String × Value)) (h : (l.map Prod.fst).Nodup) : dictOf l = l := by
  unfold dictOf
  induction l using List.reverseRecOn with
  | nil => rfl
  | append_singleton l f ih =>
    rw [List.map_append, List.nodup_append] at h
    rw [List.foldl_append, ih h.1]
    refine set_of_notMem fun hmem => ?_
    exact h.2.2 _ hmem _ (List.mem_singleton_self f.1) rfl

/-! ## 値 -/

/-- 値の text の先頭は、空白でも区切りでもない。 -/
theorem spells_head : ∀ {v : Value} {t : List Char}, v.Spells t →
    ∃ c l, t = c :: l ∧ isSpace c = false ∧ isDelim c = false
  | .scalar a, t, h => by
    have h : t = a.text := h
    obtain ⟨c, l, hl⟩ := a.text_ne_nil
    have hbare : isBare c = true := isBare_of_mem_text (by rw [hl]; exact List.mem_cons_self)
    exact ⟨c, l, h.trans hl, isSpace_of_isBare hbare, isDelim_of_isBare hbare⟩
  | .str s, t, h => by
    obtain ⟨u, rfl, -⟩ := h
    exact ⟨quote, _, rfl, rfl, rfl⟩
  | .arr items, t, h => by
    obtain ⟨r, rfl, -⟩ := h
    exact ⟨'[', r, rfl, rfl, rfl⟩
  | .obj fields, t, h => by
    obtain ⟨r, rfl, -⟩ := h
    exact ⟨'{', r, rfl, rfl, rfl⟩

/-- 値の text の前の空白は飛ばされる。 -/
theorem skip_spells {v : Value} {w u : List Char} (hw : Spaces w) (h : v.Spells u)
    (r : List Char) : skip (w ++ (u ++ r)) = u ++ r := by
  obtain ⟨c, l, rfl, hspace, -⟩ := spells_head h
  exact skip_spaces hw hspace (l ++ r)

theorem stops_moreItems : ∀ {l : List Value} {t : List Char} (r : List Char), SpellsMoreItems l t →
    Stops (t ++ r)
  | [], t, r, h => by
    obtain ⟨w, hw, rfl⟩ := h
    rw [List.append_assoc]
    exact Stops.spaces hw rfl r
  | v :: l, t, r, h => by
    obtain ⟨w, w', u, r', hw, -, rfl, -, -⟩ := h
    rw [List.append_assoc]
    exact Stops.spaces hw rfl _

theorem stops_moreFields : ∀ {l : List (String × Value)} {t : List Char} (r : List Char),
    SpellsMoreFields l t → Stops (t ++ r)
  | [], t, r, h => by
    obtain ⟨w, hw, rfl⟩ := h
    rw [List.append_assoc]
    exact Stops.spaces hw rfl r
  | (k, v) :: l, t, r, h => by
    obtain ⟨w, w', w₁, w₂, key, u, r', hw, -, -, -, -, rfl, -, -⟩ := h
    rw [List.append_assoc]
    exact Stops.spaces hw rfl _

/-- 開いた list は、要素があれば `]` で始まらない。 -/
theorem parseValue_open_arr {v : Value} {l : List Value} {t : List Char} (n : Nat) (r : List Char)
    (h : SpellsItems (v :: l) t) : parseValue (n + 1) ('[' :: (t ++ r)) =
      (parseItems n (t ++ r)).map fun p => (.arr p.1, p.2) := by
  obtain ⟨w, u, r', hw, rfl, hu, -⟩ := h
  obtain ⟨c, u', rfl, hspace, hdelim⟩ := spells_head hu
  have hne : c ≠ ']' := fun he => by rw [he] at hdelim; cases hdelim
  have hskip : skip ((w ++ (c :: u' ++ r')) ++ r) = c :: (u' ++ r' ++ r) := by
    rw [List.append_assoc]
    exact skip_spaces hw hspace _
  rw [parseValue, skip_cons rfl]
  simp only
  rw [if_neg (by decide), if_pos trivial, hskip]
  split
  · next he => exact absurd (List.cons.inj he).1 hne
  · rfl

/-- 開いた dict は、項目があれば `}` で始まらない。 -/
theorem parseValue_open_obj {f : String × Value} {l : List (String × Value)} {t : List Char}
    (n : Nat) (r : List Char) (h : SpellsFields (f :: l) t) :
    parseValue (n + 1) ('{' :: (t ++ r)) =
      (parseFields n (t ++ r)).map fun p => (.obj (dictOf p.1), p.2) := by
  obtain ⟨w, w₁, w₂, key, u, r', hw, -, -, ⟨key', rfl, -⟩, rfl, -, -⟩ := h
  rw [parseValue, skip_cons rfl]
  simp only
  rw [if_neg (by decide), if_neg (by decide), if_pos trivial, List.append_assoc]
  have hskip := skip_spaces hw (c := quote) rfl
    ((key' ++ [quote]) ++ (w₁ ++ ':' :: (w₂ ++ (u ++ r'))) ++ r)
  rw [show w ++ ((quote :: (key' ++ [quote])) ++ (w₁ ++ ':' :: (w₂ ++ (u ++ r'))) ++ r) =
    w ++ quote :: ((key' ++ [quote]) ++ (w₁ ++ ':' :: (w₂ ++ (u ++ r'))) ++ r) from rfl, hskip]
  rfl

/-- 項目の key を読み終えると、値の読み取りに移る。 -/
theorem parseFields_key {k : String} {key w w₁ : List Char} (hw : Spaces w) (hkey : SpellsStr k key)
    (hw₁ : Spaces w₁) (n : Nat) (s : List Char) :
    parseFields (n + 1) (w ++ (key ++ (w₁ ++ ':' :: s))) = (parseValue n s).bind fun p =>
      match skip p.2 with
      | ',' :: r => (parseFields n r).map fun q => ((k, p.1) :: q.1, q.2)
      | '}' :: r => some ([(k, p.1)], r)
      | _ => none := by
  obtain ⟨u, rfl, hread⟩ := readChars_of_spellsStr hkey (w₁ ++ ':' :: s)
  rw [parseFields, List.cons_append, skip_spaces hw rfl]
  simp only
  rw [if_pos trivial, hread, Option.bind_some]
  simp only
  rw [skip_spaces hw₁ rfl, String.ofList_toList]
  rfl

mutual

/-- **値の text は、何が続いても、その値に読み取られる。** 読み取りの深さは text の長さの二倍で足りる。 -/
theorem parseValue_of_spells : ∀ (v : Value) {t w : List Char} {n : Nat} (r : List Char),
    v.Spells t → v.Keyed → Spaces w → Stops r → 2 * t.length ≤ n →
    parseValue n (w ++ (t ++ r)) = some (v, r)
  | .scalar a, t, w, 0, r, h, _, _, _, hn => by
    obtain ⟨c, l, rfl, -⟩ := spells_head h
    cases hn
  | .scalar a, t, w, n + 1, r, h, _, hw, hr, _ => by
    have hskip := skip_spells hw h r
    have h : t = a.text := h
    subst h
    obtain ⟨c, l, hl⟩ := a.text_ne_nil
    have hbare : isBare c = true := isBare_of_mem_text (by rw [hl]; exact List.mem_cons_self)
    obtain ⟨htake, hdrop⟩ := takeWhile_text a hr
    rw [hl, List.cons_append] at hskip htake hdrop
    rw [hl, List.cons_append, parseValue, hskip]
    simp only
    rw [if_neg (ne_of_isBare hbare rfl), if_neg (ne_of_isBare hbare rfl),
      if_neg (ne_of_isBare hbare rfl), htake, hdrop, ← hl, readScalar_text]
    rfl
  | .str s, t, w, 0, r, h, _, _, _, hn => by
    obtain ⟨c, l, rfl, -⟩ := spells_head (v := .str s) h
    cases hn
  | .str s, t, w, n + 1, r, h, _, hw, _, _ => by
    have hskip := skip_spells hw (v := .str s) h r
    obtain ⟨u, rfl, hread⟩ := readChars_of_spellsStr h r
    rw [List.cons_append] at hskip
    rw [parseValue, List.cons_append, hskip]
    simp only
    rw [if_pos trivial, hread, Option.map_some, String.ofList_toList]
  | .arr items, t, w, 0, r, h, _, _, _, hn => by
    obtain ⟨c, l, rfl, -⟩ := spells_head (v := .arr items) h
    cases hn
  | .arr [], t, w, n + 1, r, h, _, hw, _, _ => by
    obtain ⟨_, rfl, w', hw', rfl⟩ := h
    rw [parseValue, List.cons_append, skip_spaces hw rfl]
    simp only
    rw [if_neg (by decide), if_pos trivial, List.append_assoc]
    rw [show w' ++ ([']'] ++ r) = w' ++ ']' :: r from rfl, skip_spaces hw' rfl]
    rfl
  | .arr (v :: l), t, w, n + 1, r, h, hkeyed, hw, _, hn => by
    obtain ⟨t, rfl, hitems⟩ := h
    have hopen := parseValue_open_arr n r hitems
    rw [parseValue, skip_cons rfl] at hopen
    rw [parseValue, List.cons_append, skip_spaces hw rfl, hopen,
      parseItems_of_spells (v :: l) r hitems (List.cons_ne_nil v l) hkeyed
        (by rw [List.length_cons] at hn; omega)]
    rfl
  | .obj fields, t, w, 0, r, h, _, _, _, hn => by
    obtain ⟨c, l, rfl, -⟩ := spells_head (v := .obj fields) h
    cases hn
  | .obj [], t, w, n + 1, r, h, _, hw, _, _ => by
    obtain ⟨_, rfl, w', hw', rfl⟩ := h
    rw [parseValue, List.cons_append, skip_spaces hw rfl]
    simp only
    rw [if_neg (by decide), if_neg (by decide), if_pos trivial, List.append_assoc]
    rw [show w' ++ (['}'] ++ r) = w' ++ '}' :: r from rfl, skip_spaces hw' rfl]
    rfl
  | .obj (f :: l), t, w, n + 1, r, h, hkeyed, hw, _, hn => by
    obtain ⟨t, rfl, hfields⟩ := h
    have hopen := parseValue_open_obj n r hfields
    rw [parseValue, skip_cons rfl] at hopen
    rw [parseValue, List.cons_append, skip_spaces hw rfl, hopen,
      parseFields_of_spells (f :: l) r hfields (List.cons_ne_nil f l) hkeyed.2
        (by rw [List.length_cons] at hn; omega), Option.map_some, dictOf_of_nodup _ hkeyed.1]

theorem parseItems_of_spells : ∀ (items : List Value) {t : List Char} {n : Nat} (r : List Char),
    SpellsItems items t → items ≠ [] → KeyedItems items → 2 * t.length ≤ n →
    parseItems n (t ++ r) = some (items, r)
  | [], _, _, _, _, hne, _, _ => absurd rfl hne
  | v :: l, t, 0, r, h, _, _, hn => by
    obtain ⟨w, u, r', -, rfl, hu, -⟩ := h
    obtain ⟨c, u', rfl, -⟩ := spells_head hu
    simp at hn
  | [v], t, n + 1, r, h, _, hkeyed, hn => by
    obtain ⟨w, u, r', hw, rfl, hu, hmore⟩ := h
    have hstops := stops_moreItems r hmore
    obtain ⟨w', hw', rfl⟩ := hmore
    rw [List.length_append, List.length_append, List.length_append, List.length_singleton] at hn
    rw [List.append_assoc, List.append_assoc, parseItems,
      parseValue_of_spells v _ hu hkeyed.1 hw hstops (by omega), Option.bind_some, List.append_assoc]
    simp only
    rw [show w' ++ ([']'] ++ r) = w' ++ ']' :: r from rfl, skip_spaces hw' rfl]
    rfl
  | v :: v' :: l, t, n + 1, r, h, _, hkeyed, hn => by
    obtain ⟨w, u, r', hw, rfl, hu, hmore⟩ := h
    have hstops := stops_moreItems r hmore
    obtain ⟨w₁, w₂, u', r'', hw₁, hw₂, rfl, hu', hmore'⟩ := hmore
    rw [List.length_append, List.length_append, List.length_append, List.length_cons] at hn
    have hnext : SpellsItems (v' :: l) (w₂ ++ (u' ++ r'')) := ⟨w₂, u', r'', hw₂, rfl, hu', hmore'⟩
    have hread := parseItems_of_spells (v' :: l) (n := n) r hnext (List.cons_ne_nil v' l) hkeyed.2
      (by omega)
    rw [List.append_assoc, List.append_assoc, parseItems,
      parseValue_of_spells v _ hu hkeyed.1 hw hstops (by omega), Option.bind_some, List.append_assoc]
    simp only
    rw [List.cons_append, skip_spaces hw₁ rfl]
    simp only
    rw [hread]
    rfl

theorem parseFields_of_spells : ∀ (fields : List (String × Value)) {t : List Char} {n : Nat}
    (r : List Char), SpellsFields fields t → fields ≠ [] → KeyedFields fields → 2 * t.length ≤ n →
    parseFields n (t ++ r) = some (fields, r)
  | [], _, _, _, _, hne, _, _ => absurd rfl hne
  | (k, v) :: l, t, 0, r, h, _, _, hn => by
    obtain ⟨w, w₁, w₂, key, u, r', -, -, -, -, rfl, hu, -⟩ := h
    obtain ⟨c, u', rfl, -⟩ := spells_head hu
    simp at hn
  | [(k, v)], t, n + 1, r, h, _, hkeyed, hn => by
    obtain ⟨w, w₁, w₂, key, u, r', hw, hw₁, hw₂, hkey, rfl, hu, hmore⟩ := h
    have hstops := stops_moreFields r hmore
    obtain ⟨w', hw', rfl⟩ := hmore
    have htext : w ++ (key ++ (w₁ ++ ':' :: (w₂ ++ (u ++ (w' ++ ['}']))))) ++ r =
        w ++ (key ++ (w₁ ++ ':' :: (w₂ ++ (u ++ (w' ++ '}' :: r))))) := by simp
    have hvalue := parseValue_of_spells v (n := n) _ hu hkeyed.1 hw₂ hstops
      (by simp only [List.length_append, List.length_cons] at hn; omega)
    rw [show w' ++ ['}'] ++ r = w' ++ '}' :: r by simp] at hvalue
    rw [htext, parseFields_key hw hkey hw₁, hvalue, Option.bind_some]
    simp only
    rw [skip_spaces hw' rfl]
    rfl
  | (k, v) :: (k', v') :: l, t, n + 1, r, h, _, hkeyed, hn => by
    obtain ⟨w, w₁, w₂, key, u, r', hw, hw₁, hw₂, hkey, rfl, hu, hmore⟩ := h
    have hstops := stops_moreFields r hmore
    obtain ⟨x, x', x₁, x₂, key', u', r'', hx, hx', hx₁, hx₂, hkey', rfl, hu', hmore'⟩ := hmore
    have hnext : SpellsFields ((k', v') :: l) (x' ++ (key' ++ (x₁ ++ ':' :: (x₂ ++ (u' ++ r''))))) :=
      ⟨x', x₁, x₂, key', u', r'', hx', hx₁, hx₂, hkey', rfl, hu', hmore'⟩
    generalize x' ++ (key' ++ (x₁ ++ ':' :: (x₂ ++ (u' ++ r'')))) = t at hn hstops hnext ⊢
    have htext : w ++ (key ++ (w₁ ++ ':' :: (w₂ ++ (u ++ (x ++ ',' :: t))))) ++ r =
        w ++ (key ++ (w₁ ++ ':' :: (w₂ ++ (u ++ (x ++ ',' :: (t ++ r)))))) := by simp
    simp only [List.length_append, List.length_cons] at hn
    have hvalue := parseValue_of_spells v (n := n) _ hu hkeyed.1 hw₂ hstops (by omega)
    have hrest := parseFields_of_spells ((k', v') :: l) (n := n) r hnext (List.cons_ne_nil _ l)
      hkeyed.2 (by omega)
    rw [show x ++ ',' :: t ++ r = x ++ ',' :: (t ++ r) by simp] at hvalue
    rw [htext, parseFields_key hw hkey hw₁, hvalue, Option.bind_some]
    simp only
    rw [skip_spaces hx rfl]
    simp only
    rw [hrest]
    rfl

end

/-- **値の text は、その値に読み戻される。** -/
theorem loads_of_spells {v : Value} {t w w' : List Char} (h : v.Spells t) (hkeyed : v.Keyed)
    (hw : Spaces w) (hw' : Spaces w') : loads (w ++ (t ++ w')) = some v := by
  have hstops : Stops w' := by
    intro c l he
    exact isBare_of_isSpace (hw' c (he ▸ List.mem_cons_self))
  have hskip : skip w' = [] := by
    have hnil := skip_append hw' []
    rwa [List.append_nil] at hnil
  unfold loads
  rw [parseValue_of_spells v w' h hkeyed hw hstops
    (by rw [List.length_append, List.length_append]; omega), Option.bind_some, if_pos hskip]

/-! ## 書き方 -/

/-- `json.dumps` の空白の置き方。深さごとに決まる。 -/
structure Layout where
  /-- 開いた後。 -/
  opening : Nat → List Char
  /-- `,` の後。 -/
  between : Nat → List Char
  /-- 閉じる前。 -/
  closing : Nat → List Char
  /-- `:` の後。 -/
  colon : List Char
  opening_spaces : ∀ d, Spaces (opening d)
  between_spaces : ∀ d, Spaces (between d)
  closing_spaces : ∀ d, Spaces (closing d)
  colon_spaces : Spaces colon

theorem spaces_singleton : Spaces [' '] := by
  intro c hc
  rw [List.mem_singleton.mp hc]
  rfl

/-- `json.dumps(v)`。 -/
def Layout.standard : Layout where
  opening _ := []
  between _ := [' ']
  closing _ := []
  colon := [' ']
  opening_spaces _ := Spaces.nil
  between_spaces _ := spaces_singleton
  closing_spaces _ := Spaces.nil
  colon_spaces := spaces_singleton

mutual

/-- `json.dumps` の text。 -/
def Value.write (lay : Layout) (d : Nat) : Value → List Char
  | .scalar a => a.text
  | .str s => renderStr s
  | .arr items => '[' :: writeItems lay d items
  | .obj fields => '{' :: writeFields lay d fields

def writeItems (lay : Layout) (d : Nat) : List Value → List Char
  | [] => [']']
  | v :: l => lay.opening d ++ (v.write lay (d + 1) ++ writeMoreItems lay d l)

def writeMoreItems (lay : Layout) (d : Nat) : List Value → List Char
  | [] => lay.closing d ++ [']']
  | v :: l => ',' :: (lay.between d ++ (v.write lay (d + 1) ++ writeMoreItems lay d l))

def writeFields (lay : Layout) (d : Nat) : List (String × Value) → List Char
  | [] => ['}']
  | (k, v) :: l => lay.opening d ++ (renderStr k ++ ':' :: (lay.colon ++ (v.write lay (d + 1) ++
      writeMoreFields lay d l)))

def writeMoreFields (lay : Layout) (d : Nat) : List (String × Value) → List Char
  | [] => lay.closing d ++ ['}']
  | (k, v) :: l => ',' :: (lay.between d ++ (renderStr k ++ ':' :: (lay.colon ++
      (v.write lay (d + 1) ++ writeMoreFields lay d l))))

end

theorem spellsChars_escape : ∀ s : List Char, SpellsChars s (s.flatMap escapeChar)
  | [] => rfl
  | c :: s => ⟨escapeChar c, s.flatMap escapeChar, List.flatMap_cons,
      ⟨escapeChar_head c, unescape_escapeChar c⟩, spellsChars_escape s⟩

theorem spellsStr_renderStr (s : String) : SpellsStr s (renderStr s) :=
  ⟨s.toList.flatMap escapeChar, rfl, spellsChars_escape s.toList⟩

mutual

/-- **`json.dumps` の text は、空白の置き方によらず値の text である。** -/
theorem Value.spells_write (lay : Layout) (d : Nat) : ∀ v : Value, v.Spells (v.write lay d)
  | .scalar _ => rfl
  | .str s => spellsStr_renderStr s
  | .arr items => ⟨_, rfl, spells_writeItems lay d items⟩
  | .obj fields => ⟨_, rfl, spells_writeFields lay d fields⟩

theorem spells_writeItems (lay : Layout) (d : Nat) : ∀ l : List Value,
    SpellsItems l (writeItems lay d l)
  | [] => ⟨[], Spaces.nil, rfl⟩
  | v :: l => ⟨_, _, _, lay.opening_spaces d, rfl, v.spells_write lay (d + 1),
      spells_writeMoreItems lay d l⟩

theorem spells_writeMoreItems (lay : Layout) (d : Nat) : ∀ l : List Value,
    SpellsMoreItems l (writeMoreItems lay d l)
  | [] => ⟨_, lay.closing_spaces d, rfl⟩
  | v :: l => ⟨[], _, _, _, Spaces.nil, lay.between_spaces d, rfl, v.spells_write lay (d + 1),
      spells_writeMoreItems lay d l⟩

theorem spells_writeFields (lay : Layout) (d : Nat) : ∀ l : List (String × Value),
    SpellsFields l (writeFields lay d l)
  | [] => ⟨[], Spaces.nil, rfl⟩
  | (k, v) :: l => ⟨_, [], _, _, _, _, lay.opening_spaces d, Spaces.nil, lay.colon_spaces,
      spellsStr_renderStr k, rfl, v.spells_write lay (d + 1), spells_writeMoreFields lay d l⟩

theorem spells_writeMoreFields (lay : Layout) (d : Nat) : ∀ l : List (String × Value),
    SpellsMoreFields l (writeMoreFields lay d l)
  | [] => ⟨_, lay.closing_spaces d, rfl⟩
  | (k, v) :: l => ⟨[], _, [], _, _, _, _, Spaces.nil, lay.between_spaces d, Spaces.nil,
      lay.colon_spaces, spellsStr_renderStr k, rfl, v.spells_write lay (d + 1),
      spells_writeMoreFields lay d l⟩

end

end CipherPost.JsonText
