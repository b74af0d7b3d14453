import Mathlib.Data.List.Nodup
import Mathlib.Data.List.Perm.Basic
import Mathlib.Data.Nat.Find
import Mathlib.Order.Lattice

/-!
# page

`ORDER BY … DESC` と `OFFSET`・`LIMIT` で切り取る page。等しい key の行の順は query ごとに変わりうる。行の型も key の
型も問わない。

* `Arranged`・`IsPage` — query の返しうる列と page
* `Exhausts` — 空の page までで、どの行も一度ずつ現れること
* `CutsTie` — page の境目が、等しい key の行の間に来ること
* `exhausts_iff` — どの順でも漏れも重なりも無い条件
-/

namespace CipherPost.Paging

variable {ρ ι κ : Type} [LinearOrder κ]

/-- key の大きい順に並べた列。等しいものの順は決まらない。 -/
structure Arranged (key : ρ → κ) (rows ord : List ρ) : Prop where
  perm : ord.Perm rows
  sorted : ord.Pairwise fun a b => key b ≤ key a

/-- `OFFSET` と `LIMIT`。 -/
def slice (offset limit : Nat) (ord : List ρ) : List ρ := (ord.drop offset).take limit

/-- query の返しうる page。 -/
def IsPage (key : ρ → κ) (rows : List ρ) (offset limit : Nat) (page : List ρ) : Prop :=
  ∃ ord, Arranged key rows ord ∧ page = slice offset limit ord

/-- **空の page で終わり、それまでにどの要素もちょうど一度ずつ現れる。** -/
def Exhausts (pages : Nat → List ι) (items : List ι) : Prop :=
  ∃ N, pages N = [] ∧ (∀ m < N, pages m ≠ []) ∧ ((List.range N).flatMap pages).Perm items

/-- 先に並ぶ行の数。 -/
def before (key : ρ → κ) (rows : List ρ) (a : ρ) : Nat :=
  rows.countP fun b => decide (key a < key b)

/-- 後に並ばない行の数。 -/
def upto (key : ρ → κ) (rows : List ρ) (a : ρ) : Nat :=
  rows.countP fun b => decide (key a ≤ key b)

/-- page の境目の一つが、等しい key の行の間に来る。 -/
def CutsTie (key : ρ → κ) (rows : List ρ) (limit : Nat) : Prop :=
  ∃ a ∈ rows, ∃ k, before key rows a < k * limit ∧ k * limit < upto key rows a

/-! ## 並びと個数 -/

/-- 先頭に固まる要素は、その個数より前にある。 -/
theorem lt_countP_iff {p : ρ → Bool} : ∀ {l : List ρ},
    l.Pairwise (fun x y => p y = true → p x = true) → ∀ {j : Nat} (hj : j < l.length),
      j < l.countP p ↔ p l[j] = true
  | [], _, j, hj => absurd hj (Nat.not_lt_zero j)
  | x :: l, h, j, hj => by
    obtain ⟨hx, hl⟩ := List.pairwise_cons.mp h
    cases hp : p x with
    | false =>
      have hnone : ∀ y ∈ l, ¬p y = true := fun y hy hpy => by simp [hx y hy hpy] at hp
      rw [List.countP_cons_of_neg (by simp [hp]), List.countP_eq_zero.mpr hnone]
      refine iff_of_false (Nat.not_lt_zero j) ?_
      cases j with
      | zero => simp [hp]
      | succ j => exact hnone _ (List.getElem_mem _)
    | true =>
      rw [List.countP_cons_of_pos hp]
      cases j with
      | zero => exact iff_of_true (Nat.succ_pos _) hp
      | succ j =>
        have ih := lt_countP_iff hl (Nat.lt_of_succ_lt_succ hj)
        simpa using ih

/-- 先頭に固まる要素を選ぶと、先頭の列になる。 -/
theorem take_countP {p : ρ → Bool} {l : List ρ}
    (h : l.Pairwise fun x y => p y = true → p x = true) : l.take (l.countP p) = l.filter p := by
  induction l with
  | nil => rfl
  | cons x l ih =>
    obtain ⟨hx, hl⟩ := List.pairwise_cons.mp h
    cases hp : p x with
    | false =>
      have hnone : ∀ y ∈ l, ¬p y = true := fun y hy hpy => by simp [hx y hy hpy] at hp
      rw [List.countP_cons_of_neg (by simp [hp]), List.countP_eq_zero.mpr hnone, List.take_zero,
        List.filter_cons_of_neg (by simp [hp]), List.filter_eq_nil_iff.mpr hnone]
    | true =>
      rw [List.countP_cons_of_pos hp, List.take_succ_cons, ih hl, List.filter_cons_of_pos hp]

section
variable {key : ρ → κ} {rows ord ord' : List ρ} {limit : Nat}

namespace Arranged

theorem length (h : Arranged key rows ord) : ord.length = rows.length := h.perm.length_eq

theorem pairwise_lt (h : Arranged key rows ord) (a : ρ) :
    ord.Pairwise fun x y => decide (key a < key y) = true → decide (key a < key x) = true :=
  h.sorted.imp fun hle hlt => decide_eq_true ((of_decide_eq_true hlt).trans_le hle)

theorem pairwise_le (h : Arranged key rows ord) (a : ρ) :
    ord.Pairwise fun x y => decide (key a ≤ key y) = true → decide (key a ≤ key x) = true :=
  h.sorted.imp fun hle hlt => decide_eq_true ((of_decide_eq_true hlt).trans hle)

/-- 先に並ぶ行は、ちょうど先頭の `before` 個である。 -/
theorem lt_before_iff (h : Arranged key rows ord) (a : ρ) {j : Nat} (hj : j < ord.length) :
    j < before key rows a ↔ key a < key ord[j] := by
  rw [before, ← h.perm.countP_eq, lt_countP_iff (h.pairwise_lt a) hj, decide_eq_true_iff]

theorem lt_upto_iff (h : Arranged key rows ord) (a : ρ) {j : Nat} (hj : j < ord.length) :
    j < upto key rows a ↔ key a ≤ key ord[j] := by
  rw [upto, ← h.perm.countP_eq, lt_countP_iff (h.pairwise_le a) hj, decide_eq_true_iff]

/-- 等しい key の行は、`before` から `upto` の手前までに並ぶ。 -/
theorem key_eq_iff (h : Arranged key rows ord) (a : ρ) {j : Nat} (hj : j < ord.length) :
    key ord[j] = key a ↔ before key rows a ≤ j ∧ j < upto key rows a := by
  rw [h.lt_upto_iff a hj, ← Nat.not_lt, h.lt_before_iff a hj, not_lt]
  exact le_antisymm_iff

/-- 境目が同じ key の行の間に無ければ、境目までの行は並べ方によらない。 -/
theorem take_perm (h : Arranged key rows ord) (h' : Arranged key rows ord') {i : Nat}
    (hcut : ∀ a ∈ rows, ¬(before key rows a < i ∧ i < upto key rows a)) :
    (ord.take i).Perm (ord'.take i) := by
  by_cases hi : i < ord.length
  · have hmem : ord[i] ∈ rows := h.perm.mem_iff.mp (List.getElem_mem hi)
    obtain ⟨hle, hlt⟩ := (h.key_eq_iff ord[i] hi).mp rfl
    have hbefore : before key rows ord[i] = i :=
      Nat.le_antisymm hle (Nat.not_lt.mp fun hb => hcut _ hmem ⟨hb, hlt⟩)
    have htake : ∀ {o : List ρ}, Arranged key rows o →
        o.take i = o.filter fun b => decide (key ord[i] < key b) := by
      intro o ho
      rw [← take_countP (ho.pairwise_lt ord[i]), ho.perm.countP_eq]
      exact congrArg (o.take ·) hbefore.symm
    rw [htake h, htake h']
    exact (h.perm.trans h'.perm.symm).filter _
  · have hfull : ∀ {o : List ρ}, Arranged key rows o → o.take i = o := fun ho =>
      List.take_of_length_le (by rw [ho.length, ← h.length]; exact Nat.not_lt.mp hi)
    rw [hfull h, hfull h']
    exact h.perm.trans h'.perm.symm

end Arranged

/-- 並べた列がある。 -/
theorem exists_arranged (key : ρ → κ) (rows : List ρ) : ∃ ord, Arranged key rows ord := by
  refine ⟨rows.mergeSort fun a b => decide (key b ≤ key a), List.mergeSort_perm _ _, ?_⟩
  refine (List.pairwise_mergeSort ?_ ?_ rows).imp fun h => of_decide_eq_true h
  · intro a b c hab hbc
    exact decide_eq_true ((of_decide_eq_true hbc).trans (of_decide_eq_true hab))
  · intro a b
    simpa using le_total (key b) (key a)

/-! ## page の連結 -/

theorem take_add_slice (offset limit : Nat) (ord : List ρ) :
    ord.take offset ++ slice offset limit ord = ord.take (offset + limit) := by
  rw [slice, List.take_add]

/-- 一つの並びの page をつなぐと、先頭の列になる。 -/
theorem flatMap_slice (limit N : Nat) (ord : List ρ) :
    (List.range N).flatMap (fun n => slice (n * limit) limit ord) = ord.take (N * limit) := by
  induction N with
  | zero => simp
  | succ N ih =>
    rw [List.range_succ, List.flatMap_append, ih, List.flatMap_singleton, take_add_slice,
      Nat.succ_mul]

theorem slice_eq_nil_iff (hlimit : 0 < limit) (offset : Nat) :
    slice offset limit ord = [] ↔ ord.length ≤ offset := by
  rw [slice, List.take_eq_nil_iff, List.drop_eq_nil_iff]
  omega

theorem mem_slice {offset j : Nat} {x : ρ} (hj : j < limit) (h : ord[offset + j]? = some x) :
    x ∈ slice offset limit ord := by
  refine List.mem_iff_getElem?.mpr ⟨j, ?_⟩
  rw [slice, List.getElem?_take_of_lt hj, List.getElem?_drop, h]

/-- 境目の両側が key の等しい行の間に無ければ、page の行は並べ方によらない。 -/
theorem slice_perm (h : Arranged key rows ord) (h' : Arranged key rows ord')
    (hcut : ¬CutsTie key rows limit) (n : Nat) :
    (slice (n * limit) limit ord).Perm (slice (n * limit) limit ord') := by
  have htake : ∀ k, (ord.take (k * limit)).Perm (ord'.take (k * limit)) := fun k =>
    h.take_perm h' fun a ha hak => hcut ⟨a, ha, k, hak⟩
  have hsucc := htake (n + 1)
  rw [Nat.succ_mul, ← take_add_slice, ← take_add_slice] at hsucc
  exact (List.perm_append_left_iff _).mp (((htake n).symm.append_right _).trans hsucc)

end

/-! ## 漏れも重なりも無い条件 -/

section
variable {key : ρ → κ} {rows spec : List ρ} {limit : Nat} {out : ρ → ι}

/-- page ごとに並べ方が変わりうる listing の、page の列。 -/
def Listed (key : ρ → κ) (rows : List ρ) (limit : Nat) (out : ρ → ι) (pages : Nat → List ι) :
    Prop :=
  ∀ n, ∃ page, IsPage key rows (n * limit) limit page ∧ pages n = page.map out

/-- 境目が同じ key の行の間に無ければ、どの順でも漏れも重なりも無い。 -/
theorem exhausts_of_not_cutsTie (hlimit : 0 < limit) (hcut : ¬CutsTie key rows limit)
    {pages : Nat → List ι} (hpages : Listed key rows limit out pages) :
    Exhausts pages (rows.map out) := by
  obtain ⟨ord, hord⟩ := exists_arranged key rows
  have hperm : ∀ n, (pages n).Perm ((slice (n * limit) limit ord).map out) := by
    intro n
    obtain ⟨page, ⟨ord', hord', rfl⟩, hpage⟩ := hpages n
    rw [hpage]
    exact (slice_perm hord' hord hcut n).map out
  have hnil : ∀ n, pages n = [] ↔ ord.length ≤ n * limit := by
    intro n
    have hmap : pages n = [] ↔ (slice (n * limit) limit ord).map out = [] :=
      ⟨fun h => List.nil_perm.mp (h ▸ hperm n), fun h => List.perm_nil.mp (h ▸ hperm n)⟩
    rw [hmap, List.map_eq_nil_iff, slice_eq_nil_iff hlimit]
  have hends : ∃ n, ord.length ≤ n * limit := ⟨ord.length, Nat.le_mul_of_pos_right _ hlimit⟩
  refine ⟨Nat.find hends, (hnil _).mpr (Nat.find_spec hends), fun m hm => ?_, ?_⟩
  · exact mt (hnil m).mp (Nat.find_min hends hm)
  · refine (List.Perm.flatMap_left _ fun n _ => hperm n).trans ?_
    rw [← List.map_flatMap, flatMap_slice, List.take_of_length_le (Nat.find_spec hends)]
    exact hord.perm.map out

/-- key の等しい隣り合う二つは、入れ替えてもよい。 -/
theorem Arranged.swap {l r : List ρ} {x y : ρ} (h : Arranged key rows (l ++ x :: y :: r))
    (hkey : key x = key y) : Arranged key rows (l ++ y :: x :: r) := by
  refine ⟨((List.Perm.swap x y r).append_left l).trans h.perm, ?_⟩
  have hsorted := h.sorted
  simp only [List.pairwise_append, List.pairwise_cons, List.mem_cons, forall_eq_or_imp] at hsorted ⊢
  obtain ⟨hl, ⟨⟨hxy, hx⟩, hy, hr⟩, hcross⟩ := hsorted
  refine ⟨hl, ⟨⟨hkey.le, hy⟩, hx, hr⟩, fun a ha => ?_⟩
  obtain ⟨hax, hay, har⟩ := hcross a ha
  exact ⟨hay, hax, har⟩

theorem CutsTie.congr {rows' : List ρ} (hperm : rows.Perm rows') :
    CutsTie key rows limit ↔ CutsTie key rows' limit := by
  simp only [CutsTie, before, upto, hperm.mem_iff, hperm.countP_eq]

/-- 境目が key の等しい行の間にあれば、境目の前後の二つは入れ替わりうる。 -/
theorem exists_swap (hcut : CutsTie key rows limit) :
    ∃ k l r x y, Arranged key rows (l ++ x :: y :: r) ∧ Arranged key rows (l ++ y :: x :: r) ∧
      l.length + 1 = (k + 1) * limit := by
  obtain ⟨a, -, k, hbefore, hupto⟩ := hcut
  obtain ⟨ord, hord⟩ := exists_arranged key rows
  obtain ⟨i, hi⟩ := Nat.exists_eq_succ_of_ne_zero (Nat.ne_zero_of_lt hbefore)
  rw [hi] at hbefore hupto
  have hlen : i + 1 < ord.length := hord.length ▸ Nat.lt_of_lt_of_le hupto List.countP_le_length
  have hkey : key ord[i] = key ord[i + 1] :=
    ((hord.key_eq_iff a (by omega)).mpr ⟨by omega, by omega⟩).trans
      ((hord.key_eq_iff a hlen).mpr ⟨by omega, hupto⟩).symm
  have hsplit : ord = ord.take i ++ ord[i] :: ord[i + 1] :: ord.drop (i + 2) := by
    rw [← List.drop_eq_getElem_cons hlen, ← List.drop_eq_getElem_cons (by omega),
      List.take_append_drop]
  rw [hsplit] at hord
  cases k with
  | zero => omega
  | succ k =>
    refine ⟨k, _, _, _, _, hord, hord.swap hkey, ?_⟩
    rw [List.length_take, hi]
    omega

/-- key に重なりが無ければ、境目は等しい key の間に来ない。 -/
theorem not_cutsTie_of_nodup (h : (rows.map key).Nodup) : ¬CutsTie key rows limit := by
  intro hcut
  obtain ⟨-, l, r, x, y, hord, hord', -⟩ := exists_swap hcut
  have hxy : key x = key y := by
    have hle := (List.pairwise_append.mp hord.sorted).2.1
    have hle' := (List.pairwise_append.mp hord'.sorted).2.1
    exact le_antisymm (List.rel_of_pairwise_cons hle' List.mem_cons_self)
      (List.rel_of_pairwise_cons hle List.mem_cons_self)
  have hnodup := (hord.perm.map key).nodup_iff.mpr h
  simp [List.nodup_append, hxy] at hnodup

/-- 境目が key の等しい行の間にあれば、ある行が二つの page に現れる順がある。 -/
theorem exists_listed_twice (out : ρ → ι) (hlimit : 0 < limit) (hcut : CutsTie key rows limit) :
    ∃ pages, Listed key rows limit out pages ∧ (∀ n, pages n = [] ↔ rows.length ≤ n * limit) ∧
      ∃ k x, x ∈ pages k ∧ x ∈ pages (k + 1) := by
  obtain ⟨k, l, r, x, y, hord, hord', hl⟩ := exists_swap hcut
  refine ⟨fun n => (slice (n * limit) limit
    (if n = k then l ++ x :: y :: r else l ++ y :: x :: r)).map out, fun n => ?_, fun n => ?_,
    k, out x, List.mem_map_of_mem ?_, List.mem_map_of_mem ?_⟩
  · refine ⟨_, ⟨_, ?_, rfl⟩, rfl⟩
    split
    · exact hord
    · exact hord'
  · rw [List.map_eq_nil_iff, slice_eq_nil_iff hlimit]
    split
    · rw [hord.length]
    · rw [hord'.length]
  · rw [if_pos rfl]
    rw [Nat.succ_mul] at hl
    refine mem_slice (Nat.sub_lt hlimit Nat.one_pos) ?_
    rw [show k * limit + (limit - 1) = l.length by omega]
    simp
  · rw [if_neg (Nat.succ_ne_self k)]
    refine mem_slice hlimit ?_
    rw [← hl]
    simp

/-- 漏れも重なりも無ければ、どの要素も一つの page にだけ現れる。 -/
theorem Exhausts.disjoint {pages : Nat → List ι} {items : List ι} (h : Exhausts pages items)
    (hitems : items.Nodup) {m n : Nat} (hlast : ∀ N, pages N = [] → m < N ∧ n < N) (hne : m ≠ n)
    {x : ι} (hm : x ∈ pages m) : x ∉ pages n := by
  obtain ⟨N, hN, -, hperm⟩ := h
  obtain ⟨hmN, hnN⟩ := hlast N hN
  have hdisj := (List.nodup_flatMap.mp (hperm.nodup_iff.mpr hitems)).2
  have hpair : (List.range N).Pairwise fun i j => ∀ y, y ∈ pages i → y ∉ pages j :=
    hdisj.imp fun h y hi hj => h hi hj
  intro hn
  rcases Nat.lt_or_gt_of_ne hne with hlt | hgt
  · exact (List.pairwise_iff_getElem.mp hpair m n (by simpa) (by simpa) hlt) x (by simpa) (by simpa)
  · exact (List.pairwise_iff_getElem.mp hpair n m (by simpa) (by simpa) hgt) x (by simpa) (by simpa)

/--
**どの順でも漏れも重なりも無いのは、query の行に重なりが無く、page の境目がどれも key の等しい行の間に無いときだけで
ある。**
-/
theorem exhausts_iff (hlimit : 0 < limit) (hspec : (spec.map out).Nodup)
    (hmem : ∀ r, r ∈ rows ↔ r ∈ spec) :
    (∀ pages, Listed key rows limit out pages → Exhausts pages (spec.map out)) ↔
      rows.Nodup ∧ ¬CutsTie key rows limit := by
  constructor
  · intro h
    refine ⟨?_, fun hcut => ?_⟩
    · obtain ⟨ord, hord⟩ := exists_arranged key rows
      obtain ⟨N, hN, -, hperm⟩ :=
        h (fun n => (slice (n * limit) limit ord).map out) fun n => ⟨_, ⟨ord, hord, rfl⟩, rfl⟩
      rw [List.map_eq_nil_iff, slice_eq_nil_iff hlimit] at hN
      rw [← List.map_flatMap, flatMap_slice, List.take_of_length_le hN] at hperm
      exact hord.perm.nodup_iff.mp (hperm.nodup_iff.mpr hspec).of_map
    · obtain ⟨pages, hpages, hnil, k, x, hk, hk'⟩ := exists_listed_twice out hlimit hcut
      refine (h pages hpages).disjoint hspec (fun N hN => ?_) (Nat.succ_ne_self k).symm hk hk'
      have hlt : ∀ m, x ∈ pages m → m < N := by
        intro m hm
        have hmlen : ¬rows.length ≤ m * limit := fun hle => by
          rw [(hnil m).mpr hle] at hm
          cases hm
        have hNlen := (hnil N).mp hN
        exact Nat.lt_of_mul_lt_mul_right (a := limit) (by omega)
      exact ⟨hlt k hk, hlt (k + 1) hk'⟩
  · rintro ⟨hnodup, hcut⟩ pages hpages
    obtain ⟨N, hN, hne, hperm⟩ := exhausts_of_not_cutsTie hlimit hcut hpages
    have hsame : rows.Perm spec := (List.perm_ext_iff_of_nodup hnodup hspec.of_map).mpr hmem
    exact ⟨N, hN, hne, hperm.trans (hsame.map out)⟩

end

end CipherPost.Paging
