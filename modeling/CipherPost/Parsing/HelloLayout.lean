import Mathlib.Data.List.Nodup
import CipherPost.Parsing.RecordLayer

/-!
# hello の部品の往復

ClientHello と ServerHello を作る部品。長さの付いた列、十六 bit の整数の列、ASCII の名、extension の列を
書いたとおりに読む。

* `u16s`・`asciiChars` — 整数の列と、ASCII の名
* `parseExtensions_encode` — extension の列の往復
* `foldl_option`・`foldl_list` — 種類の異なる extension を順に読んだときの、一つの欄の値
-/

namespace CipherPost.Parsing

open Addr (decodeReplace)

/-! ## 長さの付いた列 -/

section
variable {buf b rest : Bytes} {pos k : Nat}

/-- 長さの後に、列が続く。 -/
theorem at_vec (h : At buf pos (Wire.vec k b ++ rest)) : At buf (pos + k) (b ++ rest) := by
  rw [Wire.vec, List.append_assoc] at h
  exact h.skip (Wire.length_be k b.length)

/-- 列の長さを読む。 -/
theorem length_at (h : At buf pos (Wire.vec k b ++ rest)) (hb : b.length < 256 ^ k) :
    fromBytes (slice buf pos (pos + k)) = b.length := by
  rw [Wire.vec, List.append_assoc] at h
  exact number_at h hb

/-- 一 byte の長さを読む。 -/
theorem index_vec (h : At buf pos (Wire.vec 1 b ++ rest)) :
    index buf pos = .ok (UInt8.ofNat b.length) := index_at h

theorem toNat_length (hb : b.length < 256) : (UInt8.ofNat b.length).toNat = b.length :=
  UInt8.toNat_ofNat_of_lt' hb

/-- 列を読む。 -/
theorem slice_vec (h : At buf pos (Wire.vec k b ++ rest)) :
    slice buf (pos + k) (pos + k + b.length) = b := slice_at (at_vec h) rfl

theorem at_vec_self (b : Bytes) : At (Wire.vec k b) 0 (Wire.vec k b ++ []) := by
  rw [List.append_nil]
  exact At.start _

theorem at_body (k : Nat) (b : Bytes) : At (Wire.vec k b) k b := by
  have h := at_vec (at_vec_self (k := k) b)
  rwa [List.append_nil, Nat.zero_add] at h

/-- 一 byte の長さの付いた列だけの bytes。 -/
theorem vector8_vec (hb : b.length < 256) : vector8 (Wire.vec 1 b) = .ok b := by
  have hslice : slice (Wire.vec 1 b) 1 (1 + b.length) = b := slice_vec (at_vec_self b)
  rw [vector8, index_vec (at_vec_self b)]
  show Except.ok (slice _ 1 (1 + (UInt8.ofNat b.length).toNat)) = _
  rw [toNat_length hb, hslice]

/-- 二 byte の長さの付いた列だけの bytes。 -/
theorem vector16_vec (hb : b.length < 65536) : vector16 (Wire.vec 2 b) = b := by
  have hlen : fromBytes (slice (Wire.vec 2 b) 0 2) = b.length := length_at (at_vec_self b) hb
  have hslice : slice (Wire.vec 2 b) 2 (2 + b.length) = b := slice_vec (at_vec_self b)
  rw [vector16, hlen, hslice]

/-- 二 byte の長さの付いた列だけの bytes では、列は bytes の終わりまで続く。 -/
theorem stop_of_vec (hb : b.length < 65536) :
    min (2 + fromBytes (slice (Wire.vec 2 b) 0 2)) (Wire.vec 2 b).length =
      (Wire.vec 2 b).length := by
  have hlen : fromBytes (slice (Wire.vec 2 b) 0 2) = b.length := length_at (at_vec_self b) hb
  rw [hlen, Wire.length_vec, Nat.min_self]

end

/-- 空でない符号を並べると、数より短くはならない。 -/
theorem length_le_flatMap {α : Type} {encode : α → Bytes} (h : ∀ a, 0 < (encode a).length)
    (l : List α) : l.length ≤ (Wire.vec 2 (l.flatMap encode)).length := by
  refine Nat.le_trans ?_ (show (l.flatMap encode).length ≤ _ by rw [Wire.length_vec]; omega)
  induction l with
  | nil => exact Nat.zero_le _
  | cons a l ih =>
    have ha := h a
    rw [List.flatMap_cons, List.length_append, List.length_cons]
    omega

/-- 並べた符号のどれも、全体より長くない。 -/
theorem length_le_flatMap_of_mem {α : Type} (encode : α → Bytes) {a : α} {l : List α} (ha : a ∈ l) :
    (encode a).length ≤ (l.flatMap encode).length := by
  have hmem : encode a ∈ l.map encode := List.mem_map_of_mem ha
  have hle := (List.sublist_flatten_of_mem hmem).length_le
  rwa [← List.flatMap_def] at hle

/-! ## 整数の列と名 -/

/-- 先頭の十六 bit の整数。 -/
theorem number_head (v : UInt16) (rest : Bytes) :
    fromBytes (slice (Wire.be 2 v.toNat ++ rest) 0 2) = v.toNat :=
  number_at (At.start _) v.toNat_lt

theorem number_self (v : UInt16) : fromBytes (slice (Wire.be 2 v.toNat) 0 2) = v.toNat := by
  have h := number_head v []
  rwa [List.append_nil] at h

/-- 十六 bit の整数の列。 -/
def u16s (l : List UInt16) : Bytes := l.flatMap fun v => Wire.be 2 v.toNat

@[simp] theorem length_u16s (l : List UInt16) : (u16s l).length = 2 * l.length := by
  induction l with
  | nil => rfl
  | cons v l ih =>
    rw [u16s, List.flatMap_cons, List.length_append, Wire.length_be, List.length_cons]
    show 2 + (u16s l).length = _
    omega

/-- 書いた整数の列は、そのまま読める。 -/
theorem u16List_u16s (l : List UInt16) : u16List (u16s l) = l.map UInt16.toNat := by
  induction l with
  | nil => rfl
  | cons v l ih =>
    have hv : (UInt8.ofNat (v.toNat / 256)).toNat * 256 + (UInt8.ofNat v.toNat).toNat =
        v.toNat := by
      rw [← value_two, ← be_two]
      exact Wire.value_be_of_lt v.toNat_lt
    show _ :: u16List (u16s l) = _
    rw [hv, ih]
    rfl

/-- ASCII の名の文字。 -/
def asciiChars (name : Bytes) : List Char := name.map fun b => Char.ofNat b.toNat

/-- ASCII の bytes は、一 byte が一文字である。 -/
theorem decodeReplace_ascii : ∀ {name : Bytes}, (∀ b ∈ name, b < 0x80) →
    decodeReplace name = asciiChars name := by
  intro name
  induction name with
  | nil => exact fun _ => by rw [decodeReplace]; rfl
  | cons b name ih =>
    intro h
    obtain ⟨hb, hname⟩ := List.forall_mem_cons.mp h
    rw [decodeReplace.eq_def]
    simp only [if_pos hb]
    rw [ih hname]
    rfl

/-! ## extension の列 -/

/-- extension 一つ。 -/
def encodeExtension (e : Nat × Bytes) : Bytes := Wire.be 2 e.1 ++ Wire.vec 2 e.2

@[simp] theorem length_encodeExtension (e : Nat × Bytes) :
    (encodeExtension e).length = 4 + e.2.length := by
  rw [encodeExtension, List.length_append, Wire.length_be, Wire.length_vec]
  omega

/-- 並べた extension のどれも、全体より短い。 -/
theorem length_le_of_mem {e : Nat × Bytes} {exts : List (Nat × Bytes)} (he : e ∈ exts) :
    e.2.length ≤ (exts.flatMap encodeExtension).length := by
  have hle := length_le_flatMap_of_mem encodeExtension he
  rw [length_encodeExtension] at hle
  omega

section
variable {buf : Bytes}

/-- 書いた extension の列は、そのまま読める。 -/
theorem parseExtensionsFrom_encode : ∀ {exts : List (Nat × Bytes)} {n pos : Nat},
    At buf pos (exts.flatMap encodeExtension) → exts.length ≤ n →
    (∀ e ∈ exts, e.1 < 65536 ∧ e.2.length < 65536) → parseExtensionsFrom buf n pos = exts := by
  intro exts
  induction exts with
  | nil =>
    intro n pos h _ _
    have hlen : buf.length = pos := h.length
    cases n with
    | zero => rfl
    | succ n => rw [parseExtensionsFrom, if_neg (by omega)]
  | cons e exts ih =>
    intro n pos h hn hfit
    obtain ⟨⟨htype, hdata⟩, hexts⟩ := List.forall_mem_cons.mp hfit
    cases n with
    | zero => cases hn
    | succ n =>
      rw [List.flatMap_cons, encodeExtension, List.append_assoc] at h
      have hlen := h.length
      rw [List.length_append, List.length_append, Wire.length_be, Wire.length_vec] at hlen
      have h₂ : At buf (pos + 2) (Wire.vec 2 e.2 ++ exts.flatMap encodeExtension) :=
        h.skip (Wire.length_be 2 e.1)
      have hnext : At buf (pos + 4 + e.2.length) (exts.flatMap encodeExtension) :=
        (at_vec h₂).skip rfl
      have hslice : slice buf (pos + 4) (pos + 4 + e.2.length) = e.2 :=
        @slice_vec buf e.2 _ (pos + 2) 2 h₂
      have helen : fromBytes (slice buf (pos + 2) (pos + 4)) = e.2.length :=
        @length_at buf e.2 _ (pos + 2) 2 h₂ hdata
      rw [parseExtensionsFrom, if_pos (by omega), helen, if_neg (by omega), number_at h htype,
        hslice, ih hnext (Nat.le_of_succ_le_succ hn) hexts]

/-- **32 個までの extension の列は、そのまま読める。** -/
theorem parseExtensions_encode {exts : List (Nat × Bytes)} (hcount : exts.length ≤ 32)
    (htypes : ∀ e ∈ exts, e.1 < 65536) (hlen : (exts.flatMap encodeExtension).length < 65536) :
    parseExtensions (exts.flatMap encodeExtension) = exts :=
  parseExtensionsFrom_encode (At.start _) hcount fun e he =>
    ⟨htypes e he, (length_le_of_mem he).trans_lt hlen⟩

/-- 値の列を種類と中身の組にして書いても、組の列がそのまま読める。 -/
theorem parseExtensions_map {ε : Type} {pair : ε → Nat × Bytes} {es : List ε}
    (hcount : es.length ≤ 32) (htypes : ∀ e, (pair e).1 < 65536)
    (hlen : ((es.map pair).flatMap encodeExtension).length < 65536) :
    parseExtensions ((es.map pair).flatMap encodeExtension) = es.map pair := by
  refine parseExtensions_encode ?_ (fun p hp => ?_) hlen
  · rw [List.length_map]
    exact hcount
  · obtain ⟨e, -, rfl⟩ := List.mem_map.mp hp
    exact htypes e

end

/-! ## 欄ごとの値 -/

section
variable {σ ε γ δ : Type} {step : σ → ε → σ} {get : σ → γ}

/-- 一つの欄を書く要素が高々一つなら、その欄の値は、書いた要素で決まる。 -/
theorem foldl_field {value : ε → Option δ} {write : γ → δ → γ}
    (hstep : ∀ s e, get (step s e) = (value e).elim (get s) (write (get s))) :
    ∀ {es : List ε}, es.Pairwise (fun a b => value a = none ∨ value b = none) → ∀ s,
    get (es.foldl step s) = (es.findSome? value).elim (get s) (write (get s)) := by
  intro es
  induction es with
  | nil => exact fun _ _ => rfl
  | cons e es ih =>
    intro hpair s
    obtain ⟨he, hes⟩ := List.pairwise_cons.mp hpair
    rw [List.foldl_cons, ih hes, hstep, List.findSome?_cons]
    cases hval : value e with
    | none => rfl
    | some v =>
      have hrest : es.findSome? value = none := by
        rw [List.findSome?_eq_none_iff]
        intro e' he'
        exact (he e' he').resolve_left (by rw [hval]; exact Option.some_ne_none v)
      rw [hrest]
      rfl

/-- 印の欄は、印を立てる要素があるかを言う。 -/
theorem foldl_or {get : σ → Bool} {p : ε → Bool} (hstep : ∀ s e, get (step s e) = (get s || p e)) :
    ∀ (es : List ε) (s : σ), get (es.foldl step s) = (get s || es.any p) := by
  intro es
  induction es with
  | nil => exact fun s => (Bool.or_false _).symm
  | cons e es ih =>
    intro s
    rw [List.foldl_cons, ih, hstep, List.any_cons, Bool.or_assoc]

/-- 要素ごとに一つずつ足す欄には、足した順に並ぶ。 -/
theorem foldl_concat {get : σ → List γ} {f : ε → γ}
    (hstep : ∀ s e, get (step s e) = get s ++ [f e]) :
    ∀ (es : List ε) (s : σ), get (es.foldl step s) = get s ++ es.map f := by
  intro es
  induction es with
  | nil => exact fun s => (List.append_nil _).symm
  | cons e es ih =>
    intro s
    rw [List.foldl_cons, ih, hstep, List.append_assoc]
    rfl

/-- 要素の変えない欄は、初めのままである。 -/
theorem foldl_keep (hstep : ∀ s e, get (step s e) = get s) (es : List ε) (s : σ) :
    get (es.foldl step s) = get s := by
  induction es generalizing s with
  | nil => rfl
  | cons e es ih => rw [List.foldl_cons, ih, hstep]

section
variable {τ : Type} {etype : ε → τ} {es : List ε}

/-- 一つの種類だけが中身を持つなら、中身を持つ要素は高々一つである。 -/
theorem pairwise_value (hdiff : (es.map etype).Nodup) {value : ε → Option δ} {t : τ}
    (hvalue : ∀ e, value e = none ∨ etype e = t) :
    es.Pairwise fun a b => value a = none ∨ value b = none := by
  refine (List.pairwise_map.mp hdiff).imp fun {a b} hab => ?_
  rcases hvalue a with ha | ha
  · exact .inl ha
  · rcases hvalue b with hb | hb
    · exact .inr hb
    · exact absurd (ha.trans hb.symm) hab

/-- 一つの種類の要素だけが書く `Option` の欄は、その中身である。 -/
theorem foldl_option (hdiff : (es.map etype).Nodup) (get : σ → Option γ) (value : ε → Option γ)
    {t : τ} (hvalue : ∀ e, value e = none ∨ etype e = t)
    (hstep : ∀ s e, get (step s e) = (value e).elim (get s) some) {s : σ} (hs : get s = none) :
    get (es.foldl step s) = es.findSome? value := by
  have hpair := pairwise_value hdiff hvalue
  rw [@foldl_field _ _ _ _ step get value (fun _ v => some v) hstep es hpair, hs]
  cases es.findSome? value <;> rfl

/-- 一つの種類の要素だけが書く列の欄は、その中身である。 -/
theorem foldl_list (hdiff : (es.map etype).Nodup) (get : σ → List γ) (value : ε → Option (List γ))
    (write : List γ → List γ → List γ) {t : τ} (hvalue : ∀ e, value e = none ∨ etype e = t)
    (hstep : ∀ s e, get (step s e) = (value e).elim (get s) (write (get s)))
    (hwrite : ∀ v, write [] v = v) {s : σ} (hs : get s = []) :
    get (es.foldl step s) = (es.findSome? value).getD [] := by
  rw [foldl_field hstep (pairwise_value hdiff hvalue), hs]
  cases es.findSome? value with
  | none => rfl
  | some v => exact hwrite v

end

end

end CipherPost.Parsing
