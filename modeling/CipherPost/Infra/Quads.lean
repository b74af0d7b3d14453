import Mathlib.Algebra.Ring.Nat
import Mathlib.Data.List.Basic
import Mathlib.Data.List.TakeWhile

/-!
# 点で区切った四つの数の走査

正規表現 `\b(\d{1,3}\.\d{1,3})\.\d{1,3}\.\d{1,3}\b` の左からの走査。文字の型は問わず、一つの記号が数字何文字分かを幅で
持つ。

* `Alphabet` — 文字の分け方
* `scan`・`mask` — 一致とそれ以外への分割と、後の二つの数の置き換え
* `Scans` — 走査の関係
* `Spells.mask` — 記号を綴りに換えてから置き換えても、置き換えてから綴りに換えても同じである
-/

namespace CipherPost.Quads

/-- 文字の分け方。数字は語の文字であり、点は語の文字でない。 -/
structure Alphabet (α : Type) where
  digit : α → Bool
  word : α → Bool
  isPoint : α → Bool
  point : α
  /-- 数字何文字分か。 -/
  width : α → Nat
  word_of_digit : ∀ a, digit a = true → word a = true
  isPoint_iff : ∀ a, isPoint a = true ↔ a = point
  word_point : word point = false

/-- 点で区切った四つの数。 -/
structure Quad (α : Type) where
  n₁ : List α
  n₂ : List α
  n₃ : List α
  n₄ : List α

/-- 走査した文字列の一片。 -/
inductive Piece (α : Type) where
  | char (a : α)
  | quad (q : Quad α)

namespace Alphabet

variable {α : Type} (A : Alphabet α)

theorem digit_point : A.digit A.point = false := by
  cases h : A.digit A.point with
  | false => rfl
  | true => exact absurd (A.word_of_digit _ h) (by rw [A.word_point]; decide)

theorem isPoint_of_digit {a : α} (h : A.digit a = true) : A.isPoint a = false := by
  cases hpoint : A.isPoint a with
  | false => rfl
  | true =>
    rw [(A.isPoint_iff a).mp hpoint, A.digit_point] at h
    cases h

/-- `\d{1,3}` の長さ。 -/
def Short (n : List α) : Prop := 1 ≤ (n.map A.width).sum ∧ (n.map A.width).sum ≤ 3

instance (n : List α) : Decidable (A.Short n) := inferInstanceAs (Decidable (_ ∧ _))

/-- `\d{1,3}`。後に続く `\.` と `\b` のために、数字の並びの全体を読む。 -/
def number (l : List α) : Option (List α × List α) :=
  if A.Short (l.takeWhile A.digit) then some (l.takeWhile A.digit, l.dropWhile A.digit) else none

/-- `\.`。 -/
def dot : List α → Option (List α)
  | [] => none
  | a :: l => if A.isPoint a then some l else none

/-- `\d{1,3}\.`。 -/
def field (l : List α) : Option (List α × List α) :=
  (A.number l).bind fun p => (A.dot p.2).map fun rest => (p.1, rest)

/-- 数の直後の `\b`。 -/
def boundary (l : List α) : Bool := !l.head?.any A.word

/-- 先頭からの一致と、その後。 -/
def quad? (l : List α) : Option (Quad α × List α) := do
  let (n₁, l) ← A.field l
  let (n₂, l) ← A.field l
  let (n₃, l) ← A.field l
  let (n₄, l) ← A.number l
  if A.boundary l then some (⟨n₁, n₂, n₃, n₄⟩, l) else none

/-- 一致した文字列。 -/
def text (q : Quad α) : List α :=
  q.n₁ ++ A.point :: (q.n₂ ++ A.point :: (q.n₃ ++ A.point :: q.n₄))

/-- 左からの走査。`inWord` は直前が語の文字であること、`skip` は一致の残りの長さである。 -/
def scan : Bool → Nat → List α → List (Piece α)
  | _, _, [] => []
  | _, skip + 1, a :: l => scan (A.word a) skip l
  | inWord, 0, a :: l =>
    match if inWord then none else A.quad? (a :: l) with
    | some (q, _) => .quad q :: scan (A.word a) ((A.text q).length - 1) l
    | none => .char a :: scan (A.word a) 0 l

/-- 一片の置き換え。 -/
def emit (hidden : List α) : Piece α → List α
  | .char a => [a]
  | .quad q => q.n₁ ++ A.point :: (q.n₂ ++ hidden)

/-- 後の二つの数を `hidden` に置き換える。 -/
def mask (hidden l : List α) : List α := (A.scan false 0 l).flatMap (A.emit hidden)

/-! ## 走査の関係 -/

/-- 走査の関係。 -/
inductive Scans : Bool → List α → List (Piece α) → Prop
  | nil {b : Bool} : Scans b [] []
  | quad {l rest : List α} {q : Quad α} {ps : List (Piece α)} : A.quad? l = some (q, rest) →
      Scans true rest ps → Scans false l (.quad q :: ps)
  | char {b : Bool} {a : α} {l : List α} {ps : List (Piece α)} :
      (b = false → A.quad? (a :: l) = none) → Scans (A.word a) l ps →
        Scans b (a :: l) (.char a :: ps)

variable {A}

theorem eq_append_of_number {l n rest : List α} (h : A.number l = some (n, rest)) :
    l = n ++ rest ∧ n = l.takeWhile A.digit ∧ A.Short n := by
  unfold number at h
  split at h
  · next hshort =>
    obtain ⟨rfl, rfl⟩ := Prod.mk.inj (Option.some.inj h)
    exact ⟨List.takeWhile_append_dropWhile.symm, rfl, hshort⟩
  · cases h

theorem eq_cons_of_dot {l rest : List α} (h : A.dot l = some rest) : l = A.point :: rest := by
  cases l with
  | nil => cases h
  | cons a l =>
    rw [dot] at h
    split at h
    · next hpoint => rw [(A.isPoint_iff a).mp hpoint, Option.some.inj h]
    · cases h

/-- 数は数字の並びの全体であり、その後に点が続く。 -/
theorem eq_append_of_field {l n rest : List α} (h : A.field l = some (n, rest)) :
    l = n ++ A.point :: rest ∧ n = l.takeWhile A.digit ∧ A.Short n := by
  obtain ⟨⟨n', l'⟩, hnumber, hdot⟩ := Option.bind_eq_some_iff.mp h
  obtain ⟨rest', hrest, hp⟩ := Option.map_eq_some_iff.mp hdot
  obtain ⟨rfl, rfl⟩ := Prod.mk.inj hp
  obtain ⟨hl, hspan, hshort⟩ := eq_append_of_number hnumber
  exact ⟨by rw [← eq_cons_of_dot hrest]; exact hl, hspan, hshort⟩

/-- 一致の読んだ四つの数。 -/
structure Reads (A : Alphabet α) (l : List α) (q : Quad α) (rest : List α) : Prop where
  f₁ : ∃ l₁ l₂ l₃, A.field l = some (q.n₁, l₁) ∧ A.field l₁ = some (q.n₂, l₂) ∧
    A.field l₂ = some (q.n₃, l₃) ∧ A.number l₃ = some (q.n₄, rest)
  boundary : A.boundary rest = true

theorem reads_of_quad? {l rest : List α} {q : Quad α} (h : A.quad? l = some (q, rest)) :
    Reads A l q rest := by
  obtain ⟨⟨n₁, l₁⟩, h₁, h⟩ := Option.bind_eq_some_iff.mp h
  obtain ⟨⟨n₂, l₂⟩, h₂, h⟩ := Option.bind_eq_some_iff.mp h
  obtain ⟨⟨n₃, l₃⟩, h₃, h⟩ := Option.bind_eq_some_iff.mp h
  obtain ⟨⟨n₄, l₄⟩, h₄, h⟩ := Option.bind_eq_some_iff.mp h
  dsimp only at h
  split at h
  · next hboundary =>
    obtain ⟨rfl, rfl⟩ := Prod.mk.inj (Option.some.inj h)
    exact ⟨⟨l₁, l₂, l₃, h₁, h₂, h₃, h₄⟩, hboundary⟩
  · cases h

theorem eq_text_of_quad? {l rest : List α} {q : Quad α} (h : A.quad? l = some (q, rest)) :
    l = A.text q ++ rest := by
  obtain ⟨⟨l₁, l₂, l₃, h₁, h₂, h₃, h₄⟩, -⟩ := reads_of_quad? h
  rw [(eq_append_of_field h₁).1, (eq_append_of_field h₂).1, (eq_append_of_field h₃).1,
    (eq_append_of_number h₄).1, text]
  simp

/-- 数は空でなく、どの文字も数字である。 -/
theorem number_digits {l n rest : List α} (h : A.number l = some (n, rest)) :
    n ≠ [] ∧ ∀ a ∈ n, A.digit a = true := by
  obtain ⟨-, rfl, hshort⟩ := eq_append_of_number h
  refine ⟨fun hnil => ?_, fun a ha => List.mem_takeWhile_imp ha⟩
  rw [hnil] at hshort
  exact Nat.not_succ_le_zero 0 hshort.1

/-- 一致は空でなく、数字で終わる。 -/
theorem foldl_text_of_quad? {l rest : List α} {q : Quad α} (h : A.quad? l = some (q, rest))
    (b : Bool) : (A.text q).foldl (fun _ a => A.word a) b = true := by
  obtain ⟨⟨l₁, l₂, l₃, -, -, -, h₄⟩, -⟩ := reads_of_quad? h
  obtain ⟨hne, hdigits⟩ := number_digits h₄
  obtain ⟨init, last, hlast⟩ := (List.eq_nil_or_concat' q.n₄).resolve_left hne
  rw [text, hlast]
  simp only [List.foldl_append, List.foldl_cons, List.foldl_nil]
  exact A.word_of_digit last (hdigits last (by rw [hlast]; simp))

/-- 読み飛ばした後は、残りの走査である。 -/
theorem scan_skip (rest : List α) : ∀ (m : List α) (b : Bool),
    A.scan b m.length (m ++ rest) = A.scan (m.foldl (fun _ a => A.word a) b) 0 rest
  | [], _ => rfl
  | a :: m, b => by
    rw [List.cons_append, List.length_cons, scan, List.foldl_cons]
    exact scan_skip rest m (A.word a)

/-- **走査は、走査の関係を満たす。** -/
theorem scans_scan (A : Alphabet α) : ∀ (l : List α) (b : Bool), Scans A b l (A.scan b 0 l)
  | [], _ => .nil
  | a :: l, b => by
    rw [scan]
    cases b with
    | true => exact .char nofun (scans_scan A l _)
    | false =>
      rw [if_neg Bool.false_ne_true]
      cases hquad : A.quad? (a :: l) with
      | none => exact .char (fun _ => hquad) (scans_scan A l _)
      | some p =>
        obtain ⟨q, rest⟩ := p
        have htext := eq_text_of_quad? hquad
        have hword := foldl_text_of_quad? hquad
        cases hm : A.text q with
        | nil =>
          rw [hm] at hword
          exact absurd (hword false) Bool.false_ne_true
        | cons a' m =>
          rw [hm, List.cons_append] at htext
          obtain ⟨rfl, hl⟩ := List.cons.inj htext
          have hend : m.foldl (fun _ a => A.word a) (A.word a) = true := by
            have h := hword false
            rwa [hm, List.foldl_cons] at h
          have hlen : rest.length ≤ l.length := by simp [hl]
          dsimp only
          rw [hm, List.length_cons, Nat.add_sub_cancel, hl, scan_skip, hend, ← hl]
          exact .quad hquad (scans_scan A rest true)
termination_by l => l.length

/-- 走査の結果は一つである。 -/
theorem Scans.eq {b : Bool} {l : List α} {ps ps' : List (Piece α)} (h : Scans A b l ps)
    (h' : Scans A b l ps') : ps = ps' := by
  induction h generalizing ps' with
  | nil =>
    cases h' with
    | nil => rfl
    | quad hquad _ => exact absurd (eq_text_of_quad? hquad) (by simp [text])
  | quad hquad _ ih =>
    cases h' with
    | nil => exact absurd (eq_text_of_quad? hquad) (by simp [text])
    | quad hquad' hrest =>
      obtain ⟨rfl, rfl⟩ := Prod.mk.inj (Option.some.inj (hquad.symm.trans hquad'))
      rw [ih hrest]
    | char hnone _ =>
      rw [hnone rfl] at hquad
      cases hquad
  | char hnone _ ih =>
    cases h' with
    | quad hquad' _ =>
      rw [hnone rfl] at hquad'
      cases hquad'
    | char _ hrest => rw [ih hrest]

/-- 置き換えは、数字でも点でもない文字の数を変えない。 -/
theorem countP_mask {p : α → Bool} {hidden : List α} (hdigit : ∀ a, A.digit a = true → p a = false)
    (hpoint : p A.point = false) (hhidden : ∀ a ∈ hidden, p a = false) (l : List α) :
    (A.mask hidden l).countP p = l.countP p := by
  have hnumber : ∀ {l n rest : List α}, A.number l = some (n, rest) → n.countP p = 0 := fun h =>
    List.countP_eq_zero.mpr fun a ha => by rw [hdigit a ((number_digits h).2 a ha)]; decide
  have hfield : ∀ {l n rest : List α}, A.field l = some (n, rest) → n.countP p = 0 := by
    intro l n rest h
    obtain ⟨⟨n', l'⟩, hn, hdot⟩ := Option.bind_eq_some_iff.mp h
    obtain ⟨_, -, hp⟩ := Option.map_eq_some_iff.mp hdot
    obtain ⟨rfl, rfl⟩ := Prod.mk.inj hp
    exact hnumber hn
  have hscan : ∀ {b : Bool} {l : List α} {ps : List (Piece α)}, Scans A b l ps →
      (ps.flatMap (A.emit hidden)).countP p = l.countP p := by
    intro b l ps h
    induction h with
    | nil => rfl
    | quad hquad _ ih =>
      obtain ⟨⟨l₁, l₂, l₃, h₁, h₂, h₃, h₄⟩, -⟩ := reads_of_quad? hquad
      rw [eq_text_of_quad? hquad, List.flatMap_cons, List.countP_append, ih, List.countP_append,
        emit, text]
      simp [hfield h₁, hfield h₂, hfield h₃, hnumber h₄, hpoint, List.countP_eq_zero.mpr
        fun a ha => Bool.not_eq_true _ ▸ hhidden a ha]
    | char _ _ ih =>
      rw [List.flatMap_cons, List.countP_append, ih, emit, ← List.countP_append]
      rfl
  exact hscan (scans_scan A l false)

end Alphabet

/-! ## 記号の綴り -/

open Alphabet

variable {α β : Type} {A : Alphabet α} {B : Alphabet β} {f : β → List α}

/-- 数字の記号は一つ以上の数字に、他の記号は同じ種類の一文字に綴られる。 -/
structure Spells (A : Alphabet α) (B : Alphabet β) (f : β → List α) : Prop where
  digit : ∀ b, B.digit b = true → f b ≠ [] ∧ ∀ a ∈ f b, A.digit a = true
  single : ∀ b, B.digit b = false → ∃ a, f b = [a] ∧ A.digit a = false ∧ A.word a = B.word b ∧
    A.isPoint a = B.isPoint b

/-- 語の文字の直後でない位置では、数字の並びが三文字までかどうかが綴りで変わらない。 -/
def Fits (A : Alphabet α) (B : Alphabet β) (f : β → List α) : Bool → List β → Prop
  | _, [] => True
  | inWord, b :: t =>
    (inWord = false → (B.Short ((b :: t).takeWhile B.digit) ↔
      A.Short (((b :: t).takeWhile B.digit).flatMap f))) ∧ Fits A B f (B.word b) t

/-- 四つの数の綴り。 -/
def Quad.spell (f : β → List α) (q : Quad β) : Quad α :=
  ⟨q.n₁.flatMap f, q.n₂.flatMap f, q.n₃.flatMap f, q.n₄.flatMap f⟩

/-- 一片の綴り。 -/
def Piece.spell (f : β → List α) : Piece β → List (Piece α)
  | .char b => (f b).map .char
  | .quad q => [.quad (q.spell f)]

namespace Spells

theorem exists_digit (h : Spells A B f) {b : β} (hb : B.digit b = true) :
    ∃ a as, f b = a :: as ∧ A.digit a = true := by
  obtain ⟨hne, hdigits⟩ := h.digit b hb
  obtain ⟨a, as, has⟩ := List.exists_cons_of_ne_nil hne
  exact ⟨a, as, has, hdigits a (by rw [has]; exact List.mem_cons_self)⟩

theorem point (h : Spells A B f) : f B.point = [A.point] := by
  obtain ⟨a, ha, -, -, hpoint⟩ := h.single B.point B.digit_point
  rw [ha, (A.isPoint_iff a).mp (hpoint.trans ((B.isPoint_iff _).mpr rfl))]

theorem takeWhile (h : Spells A B f) (t : List β) :
    (t.flatMap f).takeWhile A.digit = (t.takeWhile B.digit).flatMap f := by
  induction t with
  | nil => rfl
  | cons b t ih =>
    cases hb : B.digit b with
    | true =>
      rw [List.flatMap_cons, List.takeWhile_append_of_pos (h.digit b hb).2, ih,
        List.takeWhile_cons_of_pos hb, List.flatMap_cons]
    | false =>
      obtain ⟨a, ha, hdigit, -⟩ := h.single b hb
      rw [List.flatMap_cons, ha, List.takeWhile_cons_of_neg (by rw [hb]; decide)]
      exact List.takeWhile_cons_of_neg (by rw [hdigit]; decide)

theorem dropWhile (h : Spells A B f) (t : List β) :
    (t.flatMap f).dropWhile A.digit = (t.dropWhile B.digit).flatMap f := by
  induction t with
  | nil => rfl
  | cons b t ih =>
    cases hb : B.digit b with
    | true =>
      rw [List.flatMap_cons, List.dropWhile_append_of_pos (h.digit b hb).2, ih,
        List.dropWhile_cons_of_pos hb]
    | false =>
      obtain ⟨a, ha, hdigit, -⟩ := h.single b hb
      rw [List.dropWhile_cons_of_neg (by rw [hb]; decide), List.flatMap_cons, ha]
      exact List.dropWhile_cons_of_neg (by rw [hdigit]; decide)

/-- 先頭の文字の種類は綴りで変わらない。 -/
theorem boundary (h : Spells A B f) (t : List β) : A.boundary (t.flatMap f) = B.boundary t := by
  cases t with
  | nil => rfl
  | cons b t =>
    cases hb : B.digit b with
    | true =>
      obtain ⟨a, as, has, hdigit⟩ := h.exists_digit hb
      simp [Alphabet.boundary, has, A.word_of_digit a hdigit, B.word_of_digit b hb]
    | false =>
      obtain ⟨a, ha, -, hword, -⟩ := h.single b hb
      simp [Alphabet.boundary, ha, hword]

theorem dot (h : Spells A B f) (t : List β) :
    A.dot (t.flatMap f) = (B.dot t).map (·.flatMap f) := by
  cases t with
  | nil => rfl
  | cons b t =>
    cases hb : B.digit b with
    | true =>
      obtain ⟨a, as, has, hdigit⟩ := h.exists_digit hb
      rw [List.flatMap_cons, has, List.cons_append, Alphabet.dot, Alphabet.dot,
        A.isPoint_of_digit hdigit, B.isPoint_of_digit hb]
      rfl
    | false =>
      obtain ⟨a, ha, -, -, hpoint⟩ := h.single b hb
      rw [List.flatMap_cons, ha, List.singleton_append, Alphabet.dot, Alphabet.dot, hpoint]
      split <;> rfl

theorem number (h : Spells A B f) {t : List β} (hfits : Fits A B f false t) :
    A.number (t.flatMap f) = (B.number t).map fun p => (p.1.flatMap f, p.2.flatMap f) := by
  have hshort : B.Short (t.takeWhile B.digit) ↔ A.Short ((t.takeWhile B.digit).flatMap f) := by
    cases t with
    | nil => exact iff_of_false (fun h => absurd h.1 (by simp)) (fun h => absurd h.1 (by simp))
    | cons b t => exact hfits.1 rfl
  rw [Alphabet.number, Alphabet.number, h.takeWhile, h.dropWhile]
  by_cases hs : B.Short (t.takeWhile B.digit)
  · rw [if_pos hs, if_pos (hshort.mp hs)]
    rfl
  · rw [if_neg hs, if_neg (mt hshort.mpr hs)]
    rfl

end Spells

/-- 途中までを読んだ残りも綴りに合う。 -/
theorem Fits.drop {r : List β} : ∀ {l : List β} {b : Bool},
    Fits A B f b (l ++ r) → Fits A B f (l.foldl (fun _ x => B.word x) b) r
  | [], _, h => h
  | _ :: l, _, h => Fits.drop (l := l) h.2

namespace Spells

theorem field (h : Spells A B f) {t : List β} (hfits : Fits A B f false t) :
    A.field (t.flatMap f) = (B.field t).map fun p => (p.1.flatMap f, p.2.flatMap f) := by
  rw [Alphabet.field, Alphabet.field, h.number hfits]
  cases B.number t with
  | none => rfl
  | some p =>
    rw [Option.map_some, Option.bind_some, Option.bind_some, h.dot]
    cases B.dot p.2 with
    | none => rfl
    | some rest => rfl

/-- 点まで読んだ残りも綴りに合う。 -/
theorem fits_of_field {t n rest : List β} (hfits : Fits A B f false t)
    (h : B.field t = some (n, rest)) : Fits A B f false rest := by
  rw [(eq_append_of_field h).1, ← List.singleton_append, ← List.append_assoc] at hfits
  have hdrop := hfits.drop
  rwa [List.foldl_append, List.foldl_cons, List.foldl_nil, B.word_point] at hdrop

/-- 一致は綴りで変わらない。 -/
theorem quad? (h : Spells A B f) {t : List β} (hfits : Fits A B f false t) :
    A.quad? (t.flatMap f) = (B.quad? t).map fun p => (p.1.spell f, p.2.flatMap f) := by
  rw [Alphabet.quad?, Alphabet.quad?, h.field hfits]
  cases h₁ : B.field t with
  | none => rfl
  | some p₁ =>
    have hfits₁ := fits_of_field hfits h₁
    simp only [Option.map_some, Option.bind_eq_bind, Option.bind_some, h.field hfits₁]
    cases h₂ : B.field p₁.2 with
    | none => rfl
    | some p₂ =>
      have hfits₂ := fits_of_field hfits₁ h₂
      simp only [Option.map_some, Option.bind_some, h.field hfits₂]
      cases h₃ : B.field p₂.2 with
      | none => rfl
      | some p₃ =>
        have hfits₃ := fits_of_field hfits₂ h₃
        simp only [Option.map_some, Option.bind_some, h.number hfits₃]
        cases h₄ : B.number p₃.2 with
        | none => rfl
        | some p₄ =>
          simp only [Option.map_some, Option.bind_some, h.boundary]
          split <;> rfl

/-- 語の途中の文字は、一文字ずつ読まれる。 -/
theorem scans_word {rest : List α} {ps : List (Piece α)} (hrest : Scans A true rest ps) :
    ∀ {as : List α}, (∀ a ∈ as, A.digit a = true) → Scans A true (as ++ rest) (as.map .char ++ ps)
  | [], _ => hrest
  | a :: as, h => by
    obtain ⟨ha, has⟩ := List.forall_mem_cons.mp h
    refine .char nofun ?_
    rw [A.word_of_digit a ha]
    exact scans_word hrest has

/-- **走査は綴りで変わらない。** -/
theorem scans (h : Spells A B f) {b : Bool} {t : List β} {ps : List (Piece β)}
    (hscans : Scans B b t ps) (hfits : Fits A B f b t) :
    Scans A b (t.flatMap f) (ps.flatMap (Piece.spell f)) := by
  induction hscans with
  | nil => exact .nil
  | @quad t rest q ps hquad _ ih =>
    have hA := h.quad? hfits
    rw [hquad] at hA
    refine .quad hA (ih ?_)
    -- 一致の最後の数は語の文字で終わるので、残りは語の直後から始まる
    have hend := foldl_text_of_quad? hquad false
    rw [eq_text_of_quad? hquad] at hfits
    rw [← hend]
    exact hfits.drop
  | @char inWord b t ps hnone _ ih =>
    have hnoneA : inWord = false → A.quad? ((b :: t).flatMap f) = none := by
      rintro rfl
      rw [h.quad? hfits, hnone rfl]
      rfl
    have hrest := ih hfits.2
    rw [List.flatMap_cons, List.flatMap_cons, Piece.spell]
    rw [List.flatMap_cons] at hnoneA
    cases hb : B.digit b with
    | true =>
      obtain ⟨hne, hdigits⟩ := h.digit b hb
      obtain ⟨a, as, has⟩ := List.exists_cons_of_ne_nil hne
      rw [has] at hdigits hnoneA ⊢
      obtain ⟨ha, has⟩ := List.forall_mem_cons.mp hdigits
      refine .char hnoneA ?_
      rw [A.word_of_digit a ha]
      rw [B.word_of_digit b hb] at hrest
      exact scans_word hrest has
    | false =>
      obtain ⟨a, ha, -, hword, -⟩ := h.single b hb
      rw [ha] at hnoneA ⊢
      refine .char hnoneA ?_
      rw [hword]
      exact hrest

/-- **綴ってから置き換えても、置き換えてから綴っても同じである。** -/
theorem mask (h : Spells A B f) {t : List β} (hfits : Fits A B f false t) (hidden : List β) :
    A.mask (hidden.flatMap f) (t.flatMap f) = (B.mask hidden t).flatMap f := by
  have hscan := (scans_scan A (t.flatMap f) false).eq (h.scans (scans_scan B t false) hfits)
  rw [Alphabet.mask, Alphabet.mask, hscan, List.flatMap_assoc, List.flatMap_assoc]
  refine List.flatMap_congr fun p _ => ?_
  cases p with
  | char b => simp [Piece.spell, emit, List.flatMap_map]
  | quad q => simp [Piece.spell, Quad.spell, emit, h.point]

end Spells

end CipherPost.Quads
