import Mathlib.Data.List.Perm.Subperm

/-!
# 自己区切りの符号

一つずつ読み分けられる符号の列を、任意の位置で切った塊に分けて運ぶときの一般論。

* `SelfDelimiting` — 続きがあっても、先頭の符号は一つに決まる
* `SelfDelimiting.flatMap_inj` — 並べた符号から元の列が戻る
* `SelfDelimiting.tiled` — 塊ごとに読めた符号の中に元の列がすべてあれば、どの塊も符号の並びである

符号の中身は問わない。
-/

namespace CipherPost

variable {α β : Type}

/-- 符号は空でなく、続きがあっても先頭の一つが読み分けられる。 -/
structure SelfDelimiting (encode : α → List β) : Prop where
  ne_nil : ∀ a, encode a ≠ []
  inj : ∀ {a b x y}, encode a ++ x = encode b ++ y → a = b ∧ x = y

namespace SelfDelimiting

variable {encode : α → List β}

/-- 並べた符号から、元の列が戻る。 -/
theorem flatMap_inj (h : SelfDelimiting encode) : ∀ {l l' : List α},
    l.flatMap encode = l'.flatMap encode → l = l' := by
  intro l
  induction l with
  | nil =>
    intro l' heq
    cases l' with
    | nil => rfl
    | cons b l' =>
      rw [List.flatMap_nil, List.flatMap_cons] at heq
      exact absurd (List.append_eq_nil_iff.mp heq.symm).1 (h.ne_nil b)
  | cons a l ih =>
    intro l' heq
    cases l' with
    | nil =>
      rw [List.flatMap_nil, List.flatMap_cons] at heq
      exact absurd (List.append_eq_nil_iff.mp heq).1 (h.ne_nil a)
    | cons b l' =>
      rw [List.flatMap_cons, List.flatMap_cons] at heq
      obtain ⟨hab, hrest⟩ := h.inj heq
      rw [hab, ih hrest]

/-- 並べた符号の長さ。 -/
def size (encode : α → List β) (l : List α) : Nat := (l.flatMap encode).length

theorem size_cons (a : α) (l : List α) :
    size encode (a :: l) = (encode a).length + size encode l := by
  rw [size, List.flatMap_cons, List.length_append]
  rfl

theorem size_append (l l' : List α) : size encode (l ++ l') = size encode l + size encode l' := by
  rw [size, List.flatMap_append, List.length_append]
  rfl

theorem size_perm {l l' : List α} (h : l.Perm l') : size encode l = size encode l' :=
  (h.flatMap_right encode).length_eq

theorem eq_nil_of_size (h : SelfDelimiting encode) {l : List α} (hz : size encode l = 0) :
    l = [] := by
  cases l with
  | nil => rfl
  | cons a l =>
    have hpos := List.length_pos_iff.mpr (h.ne_nil a)
    rw [size_cons] at hz
    omega

/-- 重複の無い列を含み、符号の長さがそれを越えない列は、その並べ替えである。 -/
theorem perm_of_size_le (h : SelfDelimiting encode) {ms l : List α} (hnodup : ms.Nodup)
    (hsub : ms ⊆ l) (hle : size encode l ≤ size encode ms) : ms.Perm l := by
  obtain ⟨ms', hperm, hsl⟩ := hnodup.subperm hsub
  obtain ⟨rest, hrest⟩ := hsl.exists_perm_append
  have hsize : size encode l = size encode ms + size encode rest := by
    rw [size_perm hrest, size_append, size_perm hperm]
  have hnil : rest = [] := h.eq_nil_of_size (by omega)
  rw [hnil, List.append_nil] at hrest
  exact hperm.symm.trans hrest.symm

/-- 塊ごとに、読めた符号の並びが塊の先頭にあれば、長さの和も越えない。 -/
theorem size_flatMap_le : ∀ {parts : List (List β × List α)},
    (∀ p ∈ parts, p.2.flatMap encode <+: p.1) →
    size encode (parts.flatMap Prod.snd) ≤ (parts.flatMap Prod.fst).length := by
  intro parts
  induction parts with
  | nil => exact fun _ => Nat.le_refl _
  | cons p parts ih =>
    intro hpre
    obtain ⟨hp, hparts⟩ := List.forall_mem_cons.mp hpre
    have hle : size encode p.2 ≤ p.1.length := hp.length_le
    have hrest := ih hparts
    rw [List.flatMap_cons, List.flatMap_cons, size_append, List.length_append]
    omega

/-- 長さの和が等しければ、どの塊も読めた符号の並びそのものである。 -/
theorem eq_flatMap_of_size : ∀ {parts : List (List β × List α)},
    (∀ p ∈ parts, p.2.flatMap encode <+: p.1) →
    size encode (parts.flatMap Prod.snd) = (parts.flatMap Prod.fst).length →
    ∀ p ∈ parts, p.1 = p.2.flatMap encode := by
  intro parts
  induction parts with
  | nil => exact fun _ _ _ hp => by cases hp
  | cons p parts ih =>
    intro hpre heq
    obtain ⟨hp, hparts⟩ := List.forall_mem_cons.mp hpre
    have hle : size encode p.2 ≤ p.1.length := hp.length_le
    have hrest := size_flatMap_le hparts
    rw [List.flatMap_cons, List.flatMap_cons, size_append, List.length_append] at heq
    have hlen : (p.2.flatMap encode).length = p.1.length := by
      show size encode p.2 = _
      omega
    exact List.forall_mem_cons.mpr
      ⟨(hp.eq_of_length hlen).symm, ih hparts (by omega)⟩

/--
**符号の列を切り分けた塊から、元の符号がすべて読めるなら、どの塊も符号の並びであり、読めた列は元の
列そのものである。** 読めた符号は塊の先頭から途切れずに並ぶので、長さの和が余地を残さない。
-/
theorem tiled (h : SelfDelimiting encode) {ms : List α} {parts : List (List β × List α)}
    (hnodup : ms.Nodup) (hpre : ∀ p ∈ parts, p.2.flatMap encode <+: p.1)
    (hcut : parts.flatMap Prod.fst = ms.flatMap encode) (hall : ms ⊆ parts.flatMap Prod.snd) :
    parts.flatMap Prod.snd = ms ∧ ∀ p ∈ parts, p.1 = p.2.flatMap encode := by
  have hle : size encode (parts.flatMap Prod.snd) ≤ size encode ms := by
    have hparts := size_flatMap_le hpre
    rwa [hcut] at hparts
  have hperm := h.perm_of_size_le hnodup hall hle
  have hsize : size encode (parts.flatMap Prod.snd) = (parts.flatMap Prod.fst).length := by
    rw [hcut, ← size_perm hperm]
    rfl
  have hexact := eq_flatMap_of_size hpre hsize
  refine ⟨h.flatMap_inj ?_, hexact⟩
  rw [← hcut, List.flatMap_assoc]
  exact (List.flatMap_congr fun p hp => (hexact p hp)).symm

end SelfDelimiting

end CipherPost
