import Mathlib.Data.List.Pairwise
import Mathlib.Order.Lattice

/-!
# 整列と順位

安定な整列の結果と、整列した列での位置を順位で言い換える補題。要素の型は問わない。

* `Ranking.pairwise_stable` — 整列は、比べて等しいものを元の順に並べる
* `Ranking.pairwise_lt_mergeSort` — 重ならない列の整列は、真に増える
* `Ranking.mem_drop_iff` — 末尾の `k` 個は、自分より後に来るものが `k` 個に満たない要素である
-/

namespace CipherPost.Ranking

variable {α : Type}

/-! ## 安定な整列 -/

section Stable

variable {le : α → α → Bool} (trans : ∀ a b c, le a b = true → le b c = true → le a c = true)
  (total : ∀ a b, (le a b || le b a) = true)

include trans total

/--
**整列は、比べて等しいものを元の順に並べる。** 元の列で前後の二つが `R` で結ばれていれば、等しい二つは
整列の後も `R` で結ばれる。
-/
theorem pairwise_stable {R : α → α → Prop} {l : List α} (hl : l.Pairwise R) :
    (l.mergeSort le).Pairwise fun a b => le a b = true ∧ (le b a = true → R a b) := by
  have hzip : (l.zipIdx.mergeSort (List.zipIdxLE le)).map Prod.fst = l.mergeSort le :=
    List.mergeSort_zipIdx
  rw [← hzip, List.pairwise_map]
  have hsorted := List.pairwise_mergeSort (List.zipIdxLE_trans trans) (List.zipIdxLE_total total)
    l.zipIdx
  have hperm := List.mergeSort_perm l.zipIdx (List.zipIdxLE le)
  have hdistinct : (l.zipIdx.mergeSort (List.zipIdxLE le)).Pairwise fun a b => a.2 ≠ b.2 := by
    refine List.pairwise_map.mp (List.nodup_iff_pairwise_ne.mp ?_)
    refine (hperm.map Prod.snd).nodup_iff.mpr ?_
    rw [List.zipIdx_map_snd]
    exact List.nodup_range'
  refine (hsorted.and hdistinct).imp_of_mem ?_
  rintro ⟨a, i⟩ ⟨b, j⟩ ha hb ⟨hle, hne⟩
  have hai := List.mk_mem_zipIdx_iff_getElem?.mp (hperm.mem_iff.mp ha)
  have hbj := List.mk_mem_zipIdx_iff_getElem?.mp (hperm.mem_iff.mp hb)
  unfold List.zipIdxLE at hle
  split at hle
  · next hab =>
    refine ⟨hab, fun hba => ?_⟩
    rw [if_pos hba] at hle
    have hij : i < j := Nat.lt_of_le_of_ne (of_decide_eq_true hle) hne
    obtain ⟨hi, rfl⟩ := List.getElem?_eq_some_iff.mp hai
    obtain ⟨hj, rfl⟩ := List.getElem?_eq_some_iff.mp hbj
    exact List.pairwise_iff_getElem.mp hl i j hi hj hij
  · cases hle

end Stable

/-- **重ならない列を整列すると、真に増える。** -/
theorem pairwise_lt_mergeSort [LinearOrder α] {l : List α} (h : l.Nodup) :
    (l.mergeSort fun a b => decide (a ≤ b)).Pairwise (· < ·) := by
  have trans : ∀ a b c : α, decide (a ≤ b) = true → decide (b ≤ c) = true → decide (a ≤ c) = true :=
    fun a b c hab hbc =>
      decide_eq_true (le_trans (of_decide_eq_true hab) (of_decide_eq_true hbc))
  have total : ∀ a b : α, (decide (a ≤ b) || decide (b ≤ a)) = true := fun a b => by
    rw [Bool.or_eq_true, decide_eq_true_iff, decide_eq_true_iff]
    exact le_total a b
  have hsorted := List.pairwise_mergeSort trans total l
  have hperm := List.mergeSort_perm l fun a b => decide (a ≤ b)
  have hnodup := List.nodup_iff_pairwise_ne.mp (hperm.nodup_iff.mpr h)
  exact (hsorted.and hnodup).imp fun hab => lt_of_le_of_ne (of_decide_eq_true hab.1) hab.2

/-! ## 順位 -/

/-- 真に整列した列の要素より後に来るものは、その要素と `R` で結ばれるものである。 -/
theorem countP_of_split {R : α → α → Prop} [DecidableRel R] (hasymm : ∀ a b, R a b → ¬R b a)
    {pre post : List α} {a : α} (h : (pre ++ a :: post).Pairwise R) :
    (pre ++ a :: post).countP (fun b => decide (R a b)) = post.length := by
  obtain ⟨-, htail, hcross⟩ := List.pairwise_append.mp h
  have hpre : pre.countP (fun b => decide (R a b)) = 0 := by
    refine List.countP_eq_zero.mpr fun b hb hab => ?_
    exact hasymm b a (hcross b hb a List.mem_cons_self) (of_decide_eq_true hab)
  have hself : ¬R a a := fun haa => hasymm a a haa haa
  have hpost : post.countP (fun b => decide (R a b)) = post.length :=
    List.countP_eq_length.mpr fun b hb => decide_eq_true ((List.pairwise_cons.mp htail).1 b hb)
  rw [List.countP_append, List.countP_cons, hpre, hpost, if_neg (by simpa using hself)]
  omega

/-- **末尾の `k` 個は、自分より後に来るものが `k` 個に満たない要素である。** -/
theorem mem_drop_iff {R : α → α → Prop} [DecidableRel R] (hasymm : ∀ a b, R a b → ¬R b a)
    {l : List α} (hl : l.Pairwise R) {a : α} (ha : a ∈ l) {k : Nat} (hk : k ≤ l.length) :
    a ∈ l.drop (l.length - k) ↔ l.countP (fun b => decide (R a b)) < k := by
  obtain ⟨pre, post, rfl⟩ := List.append_of_mem ha
  have hcount := countP_of_split hasymm hl
  obtain ⟨-, htail, hcross⟩ := List.pairwise_append.mp hl
  have hself : ¬R a a := fun haa => hasymm a a haa haa
  have hnot : a ∉ post := fun hpost => hself ((List.pairwise_cons.mp htail).1 a hpost)
  rw [hcount, List.length_append, List.length_cons]
  rw [List.length_append, List.length_cons] at hk
  by_cases hlt : post.length < k
  · -- `a` を落とすほどには進まない。
    refine iff_of_true ?_ hlt
    rw [List.drop_append_of_le_length (by omega)]
    exact List.mem_append_right _ List.mem_cons_self
  · refine iff_of_false ?_ hlt
    have hsplit : pre ++ a :: post = (pre ++ [a]) ++ post := by rw [List.append_assoc]; rfl
    rw [hsplit, List.drop_append, List.drop_eq_nil_of_le (by simp; omega), List.nil_append]
    exact fun hmem => hnot (List.mem_of_mem_drop hmem)

end CipherPost.Ranking
