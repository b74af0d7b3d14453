import Mathlib.Data.List.Count
import CipherPost.Infra.Quads

/-!
# 番地を伏せる

`main.py` の `_mask_addresses`。IPv4 の番地の後の二つの数を `x` に換える。文字列のうち端点の番地である所を印した雛形で、
番地の残りの部分が違う二つの文字列が、伏せた後に同じになるかを調べる。

* `maskAddresses` — `_mask_addresses`
* `inetNtop` — 番地の綴り
* `Text`・`render` — 番地を印した雛形と、その文字列
* `Concealed` — 番地が伏せられる条件
* `mask_render_iff`・`render_iff` — 伏せた文字列と伏せない文字列の、端点への依存
-/

namespace CipherPost.Api

open Quads

/-! ## _mask_addresses -/

/-- `re` の `\d` と `\w`。文字の表は問わず、使うことだけを持つ。 -/
structure CharClass where
  digit : Char → Bool
  word : Char → Bool
  word_of_digit : ∀ c, digit c = true → word c = true
  digit_of_isDigit : ∀ c, c.isDigit = true → digit c = true
  word_dot : word '.' = false
  digit_letter : digit 'a' = false

/-- ASCII の文字の表。 -/
def asciiClass : CharClass where
  digit := Char.isDigit
  word c := c.isAlphanum || c == '_'
  word_of_digit c h := by simp [Char.isAlphanum, h]
  digit_of_isDigit _ h := h
  word_dot := by decide
  digit_letter := by decide

/-- 文字の分け方。 -/
def charAlphabet (cls : CharClass) : Alphabet Char where
  digit := cls.digit
  word := cls.word
  isPoint c := c == '.'
  point := '.'
  width _ := 1
  word_of_digit := cls.word_of_digit
  isPoint_iff _ := beq_iff_eq
  word_point := cls.word_dot

/-- `_mask_addresses`。 -/
def maskAddresses (cls : CharClass) (value : List Char) : List Char :=
  (charAlphabet cls).mask ".x.x".toList value

example : maskAddresses asciiClass "203.0.113.7:40000->198.51.100.9:587".toList =
    "203.0.x.x:40000->198.51.x.x:587".toList := by decide

/-! ## 番地の綴り -/

/-- IPv6 の番地の半分の、四つの 16 bit の語。 -/
structure Half where
  w₀ : Fin 65536
  w₁ : Fin 65536
  w₂ : Fin 65536
  w₃ : Fin 65536
  deriving DecidableEq

def Half.words (h : Half) : List Nat := [h.w₀, h.w₁, h.w₂, h.w₃]

/-- 番地の、伏せた後に残る部分。 -/
inductive Net where
  | v4 (a b : Fin 256)
  | v6 (net : Half)
  deriving DecidableEq

/-- 番地の、伏せる部分。IPv4 は下の 16 bit を、IPv6 は interface の部分を使う。 -/
structure Host where
  c : Fin 256
  d : Fin 256
  interface : Half
  deriving DecidableEq

def decimal (n : Nat) : List Char := Nat.toDigits 10 n

def hex (n : Nat) : List Char := Nat.toDigits 16 n

/-- 位置 `i` から続く 0 の語の数。 -/
def zeroRun (ws : List Nat) (i : Nat) : Nat := ((ws.drop i).takeWhile (· = 0)).length

/-- 最も長い 0 の語の並びの始まりと長さ。二つに満たなければ無い。 -/
def bestRun (ws : List Nat) : Nat × Nat :=
  let run := (List.range 8).foldl
    (fun best i => if best.2 < zeroRun ws i then (i, zeroRun ws i) else best) (0, 0)
  if run.2 < 2 then (0, 0) else run

/-- 語一つの綴り。0 の並びは `::` に縮む。 -/
def hextet (ws : List Nat) (best : Nat × Nat) (i : Nat) : List Char :=
  if best.1 ≤ i ∧ i < best.1 + best.2 then if i = best.1 then [':'] else []
  else (if i = 0 then [] else [':']) ++ hex (ws.getD i 0)

/-- 終わりの二つの語を IPv4 の形に綴る。 -/
def dottedTail (ws : List Nat) : List Char :=
  ['.'].intercalate
    ([6, 7].flatMap fun i => [decimal (ws.getD i 0 / 256), decimal (ws.getD i 0 % 256)])

/-- `inet_ntop(AF_INET6, …)`。 -/
def inetNtop6 (ws : List Nat) : List Char :=
  let best := bestRun ws
  if best.1 = 0 ∧ (best.2 = 6 ∨ best.2 = 5 ∧ ws.getD 5 0 = 0xffff) then
    (List.range 6).flatMap (hextet ws best) ++ ':' :: dottedTail ws
  else
    (List.range 8).flatMap (hextet ws best) ++
      if best.2 ≠ 0 ∧ best.1 + best.2 = 8 then [':'] else []

example : inetNtop6 [0x2001, 0xdb8, 0, 0, 0, 0, 0, 1] = "2001:db8::1".toList := by decide

/-- `inet_ntop`。 -/
def inetNtop : Net → Host → List Char
  | .v4 a b, h => decimal a ++ '.' :: (decimal b ++ '.' :: (decimal h.c ++ '.' :: decimal h.d))
  | .v6 net, h => inetNtop6 (net.words ++ h.interface.words)

/-! ## 番地を印した雛形 -/

/-- 文字、または端点の番地。 -/
inductive Sym (ε : Type) where
  | lit (c : Char)
  | ref (e : ε)

/-- 番地を印した文字列。 -/
abbrev Text (ε : Type) := List (Sym ε)

variable {ε : Type}

/-- 記号一つの文字列。 -/
def Sym.render (nets : ε → Net) (low : ε → Host) : Sym ε → List Char
  | lit c => [c]
  | ref e => inetNtop (nets e) (low e)

/-- 雛形の文字列。 -/
def render (nets : ε → Net) (low : ε → Host) (t : Text ε) : List Char :=
  t.flatMap (Sym.render nets low)

/-- 文字、または端点の番地の後の二つの数の一つ。 -/
inductive Tok (ε : Type) where
  | ch (c : Char)
  | host (e : ε) (last : Bool)

/-- 記号の分け方。番地の数は数字三文字分とする。 -/
def tokAlphabet (cls : CharClass) : Alphabet (Tok ε) where
  digit
    | .ch c => cls.digit c
    | .host .. => true
  word
    | .ch c => cls.word c
    | .host .. => true
  isPoint
    | .ch c => c == '.'
    | .host .. => false
  point := .ch '.'
  width
    | .ch _ => 1
    | .host .. => 3
  word_of_digit
    | .ch c => cls.word_of_digit c
    | .host .. => fun _ => rfl
  isPoint_iff
    | .ch c => by simp
    | .host .. => by simp
  word_point := cls.word_dot

/-- 雛形の記号。IPv4 の番地の後の二つの数を印す。 -/
def Sym.toks (nets : ε → Net) : Sym ε → List (Tok ε)
  | lit c => [.ch c]
  | ref e =>
    match nets e with
    | .v4 a b => (decimal a).map .ch ++ .ch '.' :: ((decimal b).map .ch ++
        [.ch '.', .host e false, .ch '.', .host e true])
    | .v6 _ => []

def toks (nets : ε → Net) (t : Text ε) : List (Tok ε) := t.flatMap (Sym.toks nets)

/-- 伏せても残る記号。 -/
def shown : Piece (Tok ε) → List (Tok ε)
  | .char x => [x]
  | .quad q => q.n₁ ++ q.n₂

/-- IPv6 の番地が無く、IPv4 の番地の後の二つの数が、どれも一致の後の二つの数として読まれる。 -/
structure Concealed (cls : CharClass) (nets : ε → Net) (t : Text ε) : Prop where
  v4 : ∀ e, Sym.ref e ∈ t → ∃ a b, nets e = .v4 a b
  read : ∀ p ∈ (tokAlphabet cls).scan false 0 (toks nets t), ∀ e last, Tok.host e last ∉ shown p

/-! ## IPv6 の番地 -/

/-- interface の部分に 0 の語が無ければ、0 の並びは前の半分だけで決まる。 -/
theorem bestRun_eq (n : Half) {x : Nat} (hx : x ≠ 0) :
    bestRun (n.words ++ [x, x, x, x]) = bestRun (n.words ++ [1, 1, 1, 1]) ∧
      (bestRun (n.words ++ [x, x, x, x])).1 + (bestRun (n.words ++ [x, x, x, x])).2 ≤ 4 := by
  unfold Half.words
  generalize (n.w₀ : Nat) = w₀, (n.w₁ : Nat) = w₁, (n.w₂ : Nat) = w₂, (n.w₃ : Nat) = w₃
  by_cases h₀ : w₀ = 0 <;> by_cases h₁ : w₁ = 0 <;> by_cases h₂ : w₂ = 0 <;>
    by_cases h₃ : w₃ = 0 <;>
    simp [bestRun, zeroRun, List.range, List.range.loop, h₀, h₁, h₂, h₃, hx]

/-- interface の部分に 0 の語が無ければ、綴りはその語をそのまま並べて終わる。 -/
theorem exists_inetNtop6 (n : Half) : ∃ front, ∀ x, x ≠ 0 →
    inetNtop6 (n.words ++ [x, x, x, x]) =
      front ++ (List.replicate 4 (':' :: hex x)).flatten := by
  refine ⟨(List.range 4).flatMap (hextet (n.words ++ [1, 1, 1, 1])
    (bestRun (n.words ++ [1, 1, 1, 1]))), fun x hx => ?_⟩
  obtain ⟨hbest, hle⟩ := bestRun_eq n hx
  rw [hbest] at hle
  unfold inetNtop6
  rw [hbest]
  generalize bestRun (n.words ++ [1, 1, 1, 1]) = best at hle ⊢
  have hnot : ∀ i, 4 ≤ i → ¬(best.1 ≤ i ∧ i < best.1 + best.2) := by omega
  dsimp only
  rw [if_neg (by omega), if_neg (by omega), List.append_nil]
  simp [List.range, List.range.loop, hextet, Half.words, hnot]

/-! ## 記号の綴り -/

/-- 数の綴りは、一文字から三文字までの数字である。 -/
theorem decimal_spec (n : Fin 256) : 1 ≤ (decimal n).length ∧ (decimal n).length ≤ 3 ∧
    ∀ c ∈ decimal n, c.isDigit = true ∧ c ≠ 'a' := by
  refine ⟨Nat.length_toDigits_pos, ?_, fun c hc => ?_⟩
  · have hlt : (n : Nat) < 10 ^ 3 := by omega
    exact (Nat.length_toDigits_le_iff (by omega) (by omega)).mpr hlt
  · have hdigit : c.isDigit = true := Nat.isDigit_of_mem_toDigits (by omega) (by omega) hc
    refine ⟨hdigit, ?_⟩
    rintro rfl
    exact absurd hdigit (by decide)

/-- 記号の綴り。 -/
def Tok.spell (low : ε → Host) : Tok ε → List Char
  | ch c => [c]
  | host e last => decimal (if last then (low e).d else (low e).c)

theorem exists_spell_host (low : ε → Host) (e : ε) (last : Bool) :
    ∃ n : Fin 256, (Tok.host e last).spell low = decimal n := by
  cases last with
  | false => exact ⟨(low e).c, rfl⟩
  | true => exact ⟨(low e).d, rfl⟩

section
variable {cls : CharClass} {nets : ε → Net} {low : ε → Host}

theorem spells (cls : CharClass) (low : ε → Host) :
    Spells (charAlphabet cls) (tokAlphabet cls) (Tok.spell low) where
  digit
    | .ch c, h => ⟨List.cons_ne_nil _ _, fun a ha => by rwa [List.mem_singleton.mp ha]⟩
    | .host e last, _ => by
      obtain ⟨n, hn⟩ := exists_spell_host low e last
      obtain ⟨hpos, -, hdigits⟩ := decimal_spec n
      rw [hn]
      exact ⟨List.ne_nil_of_length_pos hpos, fun a ha => cls.digit_of_isDigit a (hdigits a ha).1⟩
  single
    | .ch c, h => ⟨c, rfl, h, rfl, rfl⟩
    | .host .., h => by cases h

/-- IPv6 の番地が無ければ、文字列は記号の綴りである。 -/
theorem render_eq {t : Text ε} (h : ∀ e, Sym.ref e ∈ t → ∃ a b, nets e = .v4 a b)
    (low : ε → Host) : render nets low t = (toks nets t).flatMap (Tok.spell low) := by
  have hch : ∀ l : List Char, (l.map Tok.ch).flatMap (Tok.spell low) = l := by
    intro l
    rw [List.flatMap_map]
    exact List.flatMap_singleton' l
  rw [toks, List.flatMap_assoc, render]
  refine List.flatMap_congr fun x hx => ?_
  cases x with
  | lit c => rfl
  | ref e =>
    obtain ⟨a, b, hnet⟩ := h e hx
    simp [Sym.render, Sym.toks, hnet, inetNtop, hch, Tok.spell]

/-- 番地の数は、語の文字の直後に無い。 -/
def Framed (cls : CharClass) : Bool → List (Tok ε) → Prop
  | _, [] => True
  | _, .ch c :: t => Framed cls (cls.word c) t
  | inWord, .host .. :: t => inWord = false ∧ Framed cls true t

theorem framed_map_ch {t : List (Tok ε)} (h : ∀ b, Framed cls b t) :
    ∀ (l : List Char) (b : Bool), Framed cls b (l.map .ch ++ t)
  | [], b => h b
  | _ :: l, _ => framed_map_ch h l _

/-- 雛形の番地の数は、点の直後にある。 -/
theorem framed_toks (cls : CharClass) (nets : ε → Net) :
    ∀ (t : Text ε) (b : Bool), Framed cls b (toks nets t)
  | [], _ => trivial
  | .lit c :: t, _ => framed_toks cls nets t (cls.word c)
  | .ref e :: t, b => by
    have ht := framed_toks cls nets t
    have hcons : toks nets (.ref e :: t) = (Sym.ref e).toks nets ++ toks nets t := rfl
    rw [hcons]
    cases hnet : nets e with
    | v6 net => simpa [Sym.toks, hnet] using ht b
    | v4 a b' =>
      have hend : ∀ b, Framed cls b
          ([.ch '.', .host e false, .ch '.', .host e true] ++ toks nets t) := fun _ =>
        ⟨cls.word_dot, cls.word_dot, ht true⟩
      have hmid : ∀ b, Framed cls b (Tok.ch '.' :: ((decimal b').map .ch ++
          ([.ch '.', .host e false, .ch '.', .host e true] ++ toks nets t))) := fun _ =>
        framed_map_ch hend _ _
      simpa [Sym.toks, hnet] using framed_map_ch hmid (decimal a) b

theorem Framed.drop {r : List (Tok ε)} : ∀ {l : List (Tok ε)} {b : Bool}, Framed cls b (l ++ r) →
    Framed cls (l.foldl (fun _ x => (tokAlphabet cls).word x) b) r
  | [], _, h => h
  | .ch _ :: l, _, h => Framed.drop (l := l) h
  | .host .. :: l, _, h => Framed.drop (l := l) h.2

/-- 語の途中の数字の並びに、番地の数は無い。 -/
theorem Framed.span : ∀ {t : List (Tok ε)}, Framed cls true t →
    ∀ e last, Tok.host e last ∉ t.takeWhile (tokAlphabet cls).digit
  | [], _, _, _, h => by cases h
  | .host .. :: _, h, _, _, _ => Bool.noConfusion h.1
  | .ch c :: t, h, e, last, hmem => by
    by_cases hdigit : (tokAlphabet (ε := ε) cls).digit (.ch c) = true
    · rw [List.takeWhile_cons_of_pos hdigit] at hmem
      have hword : cls.word c = true := cls.word_of_digit c hdigit
      rw [Framed, hword] at h
      rcases List.mem_cons.mp hmem with heq | hmem
      · cases heq
      · exact Framed.span h e last hmem
    · rw [List.takeWhile_cons_of_neg hdigit] at hmem
      cases hmem

/-! ## 綴りに合う雛形 -/

theorem short_chars {l : List Char} : (charAlphabet cls).Short l ↔ 1 ≤ l.length ∧ l.length ≤ 3 := by
  have hsum : (l.map (charAlphabet cls).width).sum = l.length := by
    simp [charAlphabet]
  rw [Alphabet.Short, hsum]

/-- 番地の数が無ければ、長さは綴りで変わらない。 -/
theorem length_spell (cls : CharClass) {n : List (Tok ε)} (h : ∀ e last, Tok.host e last ∉ n) :
    (n.flatMap (Tok.spell low)).length = (n.map (tokAlphabet cls).width).sum := by
  rw [List.length_flatMap]
  refine congrArg List.sum (List.map_congr_left fun x hx => ?_)
  cases x with
  | ch c => rfl
  | host e last => exact absurd hx (h e last)

/-- 三文字までに収まる番地の数は、それだけで並ぶ。 -/
theorem eq_singleton_of_short {n : List (Tok ε)} (hshort : (tokAlphabet cls).Short n) {e : ε}
    {last : Bool} (h : Tok.host e last ∈ n) : n = [.host e last] := by
  have hpos : ∀ l : List (Tok ε), (l.map (tokAlphabet cls).width).sum = 0 → l = [] := by
    intro l hl
    cases l with
    | nil => rfl
    | cons x l =>
      rw [List.map_cons, List.sum_cons] at hl
      cases x with
      | ch c => exact absurd hl (by simp [tokAlphabet])
      | host e last => exact absurd hl (by simp [tokAlphabet])
  obtain ⟨l, r, rfl⟩ := List.append_of_mem h
  have hle := hshort.2
  rw [List.map_append, List.map_cons, List.sum_append, List.sum_cons,
    show (tokAlphabet cls).width (Tok.host e last) = 3 from rfl] at hle
  rw [hpos l (by omega), hpos r (by omega), List.nil_append]

/-- 三文字までの数の綴りは、三文字までである。 -/
theorem short_spell {n : List (Tok ε)} (h : (tokAlphabet cls).Short n) :
    (charAlphabet cls).Short (n.flatMap (Tok.spell low)) := by
  rw [short_chars]
  by_cases hhost : ∃ e last, Tok.host e last ∈ n
  · obtain ⟨e, last, hmem⟩ := hhost
    obtain ⟨m, hm⟩ := exists_spell_host low e last
    rw [eq_singleton_of_short h hmem, List.flatMap_singleton, hm]
    exact ⟨(decimal_spec m).1, (decimal_spec m).2.1⟩
  · rw [length_spell cls fun e last hmem => hhost ⟨e, last, hmem⟩]
    exact h

/-- 数字の並びの途中では、何も問われない。 -/
theorem fits_digits {r : List (Tok ε)}
    (hr : Fits (charAlphabet cls) (tokAlphabet cls) (Tok.spell low) true r) :
    ∀ {n : List (Tok ε)}, (∀ x ∈ n, (tokAlphabet cls).digit x = true) →
      Fits (charAlphabet cls) (tokAlphabet cls) (Tok.spell low) true (n ++ r)
  | [], _ => hr
  | x :: n, h => by
    obtain ⟨hx, hn⟩ := List.forall_mem_cons.mp h
    refine ⟨nofun, ?_⟩
    rw [(tokAlphabet cls).word_of_digit x hx]
    exact fits_digits hr hn

theorem fits_of_number {l n rest : List (Tok ε)} (h : (tokAlphabet cls).number l = some (n, rest))
    (hrest : Fits (charAlphabet cls) (tokAlphabet cls) (Tok.spell low) true rest) :
    Fits (charAlphabet cls) (tokAlphabet cls) (Tok.spell low) false l := by
  obtain ⟨hl, hspan, hshort⟩ := Alphabet.eq_append_of_number h
  obtain ⟨hne, hdigits⟩ := Alphabet.number_digits h
  obtain ⟨x, n, rfl⟩ := List.exists_cons_of_ne_nil hne
  obtain ⟨hx, hn⟩ := List.forall_mem_cons.mp hdigits
  rw [hl, List.cons_append]
  refine ⟨fun _ => ?_, ?_⟩
  · rw [← List.cons_append, ← hl, ← hspan]
    exact iff_of_true hshort (short_spell hshort)
  · rw [(tokAlphabet cls).word_of_digit x hx]
    exact fits_digits hrest hn

theorem fits_of_field {l n rest : List (Tok ε)} (h : (tokAlphabet cls).field l = some (n, rest))
    (hrest : Fits (charAlphabet cls) (tokAlphabet cls) (Tok.spell low) false rest) :
    Fits (charAlphabet cls) (tokAlphabet cls) (Tok.spell low) false l := by
  obtain ⟨⟨n', l'⟩, hnumber, hdot⟩ := Option.bind_eq_some_iff.mp h
  obtain ⟨rest', hrest', hp⟩ := Option.map_eq_some_iff.mp hdot
  obtain ⟨rfl, rfl⟩ := Prod.mk.inj hp
  refine fits_of_number hnumber ?_
  rw [show l' = _ from Alphabet.eq_cons_of_dot hrest']
  refine ⟨nofun, ?_⟩
  rw [(tokAlphabet cls).word_point]
  exact hrest

/-- **番地の数がどれも伏せられるなら、どの番地の綴りにも合う。** -/
theorem fits_of_read {b : Bool} {t : List (Tok ε)} {ps : List (Piece (Tok ε))}
    (h : Alphabet.Scans (tokAlphabet cls) b t ps) (hframed : Framed cls b t)
    (hread : ∀ p ∈ ps, ∀ e last, Tok.host e last ∉ shown p) :
    Fits (charAlphabet cls) (tokAlphabet cls) (Tok.spell low) b t := by
  induction h with
  | nil => exact trivial
  | @quad l rest q ps hquad _ ih =>
    have hrest := Framed.drop (Alphabet.eq_text_of_quad? hquad ▸ hframed)
    rw [Alphabet.foldl_text_of_quad? hquad] at hrest
    obtain ⟨⟨l₁, l₂, l₃, h₁, h₂, h₃, h₄⟩, -⟩ := Alphabet.reads_of_quad? hquad
    exact fits_of_field h₁ (fits_of_field h₂ (fits_of_field h₃
      (fits_of_number h₄ (ih hrest (List.forall_mem_cons.mp hread).2))))
  | @char b x t ps _ _ ih =>
    obtain ⟨hx, hps⟩ := List.forall_mem_cons.mp hread
    cases x with
    | host e last => exact absurd (List.mem_singleton_self _) (hx e last)
    | ch c =>
      refine ⟨fun _ => ?_, ih hframed hps⟩
      -- `Framed` は、文字の前の文脈によらない
      have hword : Framed cls true (Tok.ch c :: t) := hframed
      rw [short_chars, length_spell cls hword.span]
      exact Iff.rfl

/-- 番地の数がどれも三文字なら、綴りに合う。 -/
theorem fits_of_length (h : ∀ e last, ((Tok.host e last).spell low).length = 3) :
    ∀ (t : List (Tok ε)) (b : Bool),
      Fits (charAlphabet cls) (tokAlphabet cls) (Tok.spell low) b t
  | [], _ => trivial
  | x :: t, b => by
    refine ⟨fun _ => ?_, fits_of_length h t _⟩
    rw [short_chars, List.length_flatMap]
    have hwidth : (fun x : Tok ε => (x.spell low).length) = (tokAlphabet cls).width := by
      funext x
      cases x with
      | ch c => rfl
      | host e last => exact h e last
    rw [hwidth]
    exact Iff.rfl

/-! ## 番地の違う二つの文字列 -/

/-- どの端点にも同じ残りの部分を置く。 -/
def uniform (n : Fin 256) (w : Fin 65536) : ε → Host := fun _ => ⟨n, n, w, w, w, w⟩

theorem length_decimal_eq :
    (decimal (111 : Fin 256)).length = 3 ∧ (decimal (222 : Fin 256)).length = 3 := by
  decide

theorem decimal_ne : decimal (111 : Fin 256) ≠ decimal (222 : Fin 256) := by decide

theorem count_decimal (n : Fin 256) : (decimal n).count 'a' = 0 :=
  List.count_eq_zero.mpr fun h => ((decimal_spec n).2.2 'a' h).2 rfl

/-- interface の部分の文字は、綴りに現れる。 -/
theorem count_inetNtop6_lt (n : Half) :
    (inetNtop6 (n.words ++ [0xbbbb, 0xbbbb, 0xbbbb, 0xbbbb])).count 'a' <
      (inetNtop6 (n.words ++ [0xaaaa, 0xaaaa, 0xaaaa, 0xaaaa])).count 'a' := by
  obtain ⟨front, hfront⟩ := exists_inetNtop6 n
  have hb : ((List.replicate 4 (':' :: hex 0xbbbb)).flatten).count 'a' = 0 := by decide
  have ha : ((List.replicate 4 (':' :: hex 0xaaaa)).flatten).count 'a' = 16 := by decide
  rw [hfront _ (by decide), hfront _ (by decide), List.count_append, List.count_append, hb, ha]
  omega

theorem count_sym_lt {e : ε} {net : Half} (h : nets e = .v6 net) :
    ((Sym.ref e).render nets (uniform 222 0xbbbb)).count 'a' <
      ((Sym.ref e).render nets (uniform 111 0xaaaa)).count 'a' := by
  rw [Sym.render, Sym.render, h]
  exact count_inetNtop6_lt net

theorem count_sym_le (x : Sym ε) : (x.render nets (uniform 222 0xbbbb)).count 'a' ≤
    (x.render nets (uniform 111 0xaaaa)).count 'a' := by
  cases x with
  | lit c => exact Nat.le_refl _
  | ref e =>
    cases hnet : nets e with
    | v6 net => exact Nat.le_of_lt (count_sym_lt hnet)
    | v4 a b =>
      have hzero : ((Sym.ref e).render nets (uniform 222 0xbbbb)).count 'a' = 0 := by
        rw [Sym.render, hnet, inetNtop]
        simp [count_decimal]
      rw [hzero]
      exact Nat.zero_le _

/-- IPv6 の番地があれば、綴りの文字の数が違う。 -/
theorem count_render_lt {t : Text ε} {e : ε} {net : Half} (h : nets e = .v6 net)
    (hmem : Sym.ref e ∈ t) : (render nets (uniform 222 0xbbbb) t).count 'a' <
      (render nets (uniform 111 0xaaaa) t).count 'a' := by
  have hle : ∀ t : Text ε, (render nets (uniform 222 0xbbbb) t).count 'a' ≤
      (render nets (uniform 111 0xaaaa) t).count 'a' := by
    intro t
    induction t with
    | nil => exact Nat.le_refl _
    | cons x t ih =>
      unfold render at ih ⊢
      rw [List.flatMap_cons, List.flatMap_cons, List.count_append, List.count_append]
      exact Nat.add_le_add (count_sym_le x) ih
  obtain ⟨l, r, rfl⟩ := List.append_of_mem hmem
  have hl := hle l
  have hr := hle r
  have he := count_sym_lt h
  unfold render at hl hr ⊢
  rw [List.flatMap_append, List.flatMap_append, List.flatMap_cons, List.flatMap_cons,
    List.count_append, List.count_append, List.count_append, List.count_append]
  omega

/-- 文字の数が同じなら、番地はどれも IPv4 である。 -/
theorem exists_v4_of_count {t : Text ε} (h : (render nets (uniform 111 0xaaaa) t).count 'a' =
    (render nets (uniform 222 0xbbbb) t).count 'a') {e : ε} (he : Sym.ref e ∈ t) :
    ∃ a b, nets e = .v4 a b := by
  cases hnet : nets e with
  | v4 a b => exact ⟨a, b, rfl⟩
  | v6 net => exact absurd h (count_render_lt hnet he).ne'

/-- 伏せても、`a` の数は変わらない。 -/
theorem count_maskAddresses (l : List Char) :
    (maskAddresses cls l).count 'a' = l.count 'a' := by
  have hdigit : ∀ c, (charAlphabet cls).digit c = true → (c == 'a') = false := by
    intro c hc
    rw [beq_eq_false_iff_ne]
    rintro rfl
    rw [show (charAlphabet cls).digit 'a' = false from cls.digit_letter] at hc
    cases hc
  have hhidden : ∀ c ∈ ['.', 'x', '.', 'x'], (c == 'a') = false := by simp
  exact Alphabet.countP_mask hdigit (show ('.' == 'a') = false by decide) hhidden l

/-- 長さの等しい綴りをつないで同じなら、一つずつも同じである。 -/
theorem eq_of_flatMap_eq {α β : Type} {f g : α → List β} : ∀ {l : List α},
    (∀ x ∈ l, (f x).length = (g x).length) → l.flatMap f = l.flatMap g → ∀ x ∈ l, f x = g x
  | [], _, _, _, hx => by cases hx
  | a :: l, hlen, heq, x, hx => by
    obtain ⟨ha, hl⟩ := List.forall_mem_cons.mp hlen
    rw [List.flatMap_cons, List.flatMap_cons] at heq
    obtain ⟨hhead, htail⟩ := List.append_inj heq ha
    rcases List.mem_cons.mp hx with rfl | hx
    · exact hhead
    · exact eq_of_flatMap_eq hl htail x hx

/-- **文字列が端点によらないのは、番地が現れないときだけである。** -/
theorem render_iff {t : Text ε} :
    (∀ low low', render nets low t = render nets low' t) ↔ ∀ e, Sym.ref e ∉ t := by
  constructor
  · intro h e hmem
    have heq := h (uniform 111 0xaaaa) (uniform 222 0xbbbb)
    have hv4 : ∀ e, Sym.ref e ∈ t → ∃ a b, nets e = .v4 a b := fun e he =>
      exists_v4_of_count (congrArg (List.count 'a') heq) he
    have hlen : ∀ x ∈ t, (x.render nets (uniform 111 0xaaaa)).length =
        (x.render nets (uniform 222 0xbbbb)).length := by
      intro x hx
      cases x with
      | lit c => rfl
      | ref e =>
        obtain ⟨a, b, hnet⟩ := hv4 e hx
        simp only [Sym.render, hnet, inetNtop, uniform, List.length_append, List.length_cons,
          length_decimal_eq.1, length_decimal_eq.2]
    have hsame := eq_of_flatMap_eq hlen heq (.ref e) hmem
    obtain ⟨a, b, hnet⟩ := hv4 e hmem
    simp only [Sym.render, hnet, inetNtop, uniform, List.append_cancel_left_eq,
      List.cons.injEq, true_and] at hsame
    exact decimal_ne (List.append_inj hsame (by decide)).1
  · intro h low low'
    refine List.flatMap_congr fun x hx => ?_
    cases x with
    | lit c => rfl
    | ref e => exact absurd hx (h e)

/-- 伏せた記号の列に番地の数が無いのは、どの一片にも残らないときである。 -/
theorem host_notMem_mask_iff {t : List (Tok ε)} :
    (∀ e last, Tok.host e last ∉ (tokAlphabet cls).mask (".x.x".toList.map .ch) t) ↔
      ∀ p ∈ (tokAlphabet cls).scan false 0 t, ∀ e last, Tok.host e last ∉ shown p := by
  have hemit : ∀ (p : Piece (Tok ε)) (e : ε) (last : Bool),
      Tok.host e last ∈ (tokAlphabet cls).emit (".x.x".toList.map .ch) p ↔
        Tok.host e last ∈ shown p := by
    intro p e last
    cases p with
    | char x => exact Iff.rfl
    | quad q => simp [Alphabet.emit, shown, tokAlphabet]
  unfold Alphabet.mask
  simp only [List.mem_flatMap, hemit, not_exists, not_and]
  exact ⟨fun h p hp e last => h e last p hp, fun h e last p hp => h p hp e last⟩

/-- 綴りに合う雛形では、文字列を伏せることは、記号の列を伏せることである。 -/
theorem mask_render {t : Text ε} (h : ∀ e, Sym.ref e ∈ t → ∃ a b, nets e = .v4 a b)
    (hfits : Fits (charAlphabet cls) (tokAlphabet cls) (Tok.spell low) false (toks nets t)) :
    maskAddresses cls (render nets low t) =
      ((tokAlphabet cls).mask (".x.x".toList.map .ch) (toks nets t)).flatMap (Tok.spell low) := by
  rw [maskAddresses, render_eq h, ← (spells cls low).mask hfits]
  rfl

/--
**伏せた文字列が端点の番地の残りの部分によらないのは、IPv6 の番地が現れず、IPv4 の番地の後の二つの数がどれも一致の後の
二つの数として読まれるときだけである。**
-/
theorem mask_render_iff {t : Text ε} :
    (∀ low low', maskAddresses cls (render nets low t) = maskAddresses cls (render nets low' t)) ↔
      Concealed cls nets t := by
  constructor
  · intro h
    have heq := h (uniform 111 0xaaaa) (uniform 222 0xbbbb)
    have hcount := congrArg (List.count 'a') heq
    rw [count_maskAddresses, count_maskAddresses] at hcount
    have hv4 : ∀ e, Sym.ref e ∈ t → ∃ a b, nets e = .v4 a b := fun e he =>
      exists_v4_of_count hcount he
    refine ⟨hv4, host_notMem_mask_iff.mp fun e last hmem => ?_⟩
    -- 三文字の数では、伏せることが記号の列を伏せることになる
    have hthree : ∀ (e : ε) (last : Bool),
        ((Tok.host e last).spell (uniform 111 0xaaaa)).length = 3 ∧
          ((Tok.host e last).spell (uniform 222 0xbbbb)).length = 3 := by
      intro e last
      cases last <;> exact length_decimal_eq
    rw [mask_render hv4 (fits_of_length (fun e last => (hthree e last).1) _ _),
      mask_render hv4 (fits_of_length (fun e last => (hthree e last).2) _ _)] at heq
    have hlen : ∀ x : Tok ε, (x.spell (uniform 111 0xaaaa)).length =
        (x.spell (uniform 222 0xbbbb)).length := by
      intro x
      cases x with
      | ch c => rfl
      | host e last => rw [(hthree e last).1, (hthree e last).2]
    have hsame := eq_of_flatMap_eq (fun x _ => hlen x) heq _ hmem
    cases last <;> exact decimal_ne hsame
  · rintro ⟨hv4, hread⟩ low low'
    have hfits : ∀ low, Fits (charAlphabet cls) (tokAlphabet cls) (Tok.spell low) false
        (toks nets t) := fun low =>
      fits_of_read (Alphabet.scans_scan _ _ _) (framed_toks cls nets t false) hread
    rw [mask_render hv4 (hfits low), mask_render hv4 (hfits low')]
    refine List.flatMap_congr fun x hx => ?_
    cases x with
    | ch c => rfl
    | host e last => exact absurd hx (host_notMem_mask_iff.mpr hread e last)

end

end CipherPost.Api
