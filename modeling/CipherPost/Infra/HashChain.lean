import Mathlib.Data.List.Induction

/-!
# hash の鎖

前の hash と中身から次の hash を作る鎖。hash の型も中身の型も問わない。衝突は、比べる二つの鎖が実際に
hash した組の間にだけ無いものとする。

* `HashChain.root` — 最後の hash
* `HashChain.links` — hash した (前の hash, 中身)
* `HashChain.eq_of_root_eq` — 最後の hash が同じ鎖は、中身の列も同じである
-/

namespace CipherPost.HashChain

variable {δ χ : Type} (hash : δ → χ → δ)

/-- `g` から始めて中身を順に hash した、最後の hash。 -/
def root (g : δ) (xs : List χ) : δ := xs.foldl hash g

/-- hash した組。 -/
def links (g : δ) : List χ → List (δ × χ)
  | [] => []
  | x :: xs => (g, x) :: links (hash g x) xs

@[simp] theorem root_nil (g : δ) : root hash g [] = g := rfl

@[simp] theorem root_cons (g : δ) (x : χ) (xs : List χ) :
    root hash g (x :: xs) = root hash (hash g x) xs := rfl

theorem root_concat (g : δ) (xs : List χ) (x : χ) :
    root hash g (xs ++ [x]) = hash (root hash g xs) x := by
  unfold root
  rw [List.foldl_append]
  rfl

theorem links_concat (x : χ) : ∀ (xs : List χ) (g : δ),
    links hash g (xs ++ [x]) = links hash g xs ++ [(root hash g xs, x)]
  | [], g => rfl
  | y :: xs, g => by
    rw [List.cons_append, links, links_concat x xs, links, root_cons, List.cons_append]

/-- 二つの鎖が hash した組の間に、衝突も、始めの値に戻るものも無い。 -/
structure CollisionFree (g : δ) (xs ys : List χ) : Prop where
  inj : ∀ a ∈ links hash g xs, ∀ b ∈ links hash g ys, hash a.1 a.2 = hash b.1 b.2 → a = b
  left : ∀ a ∈ links hash g xs, hash a.1 a.2 ≠ g
  right : ∀ b ∈ links hash g ys, hash b.1 b.2 ≠ g

variable {hash}

theorem CollisionFree.of_concat {g : δ} {xs ys : List χ} {x y : χ}
    (h : CollisionFree hash g (xs ++ [x]) (ys ++ [y])) : CollisionFree hash g xs ys := by
  have hsub : ∀ {zs : List χ} {z : χ} {a : δ × χ}, a ∈ links hash g zs →
      a ∈ links hash g (zs ++ [z]) := by
    intro zs z a ha
    rw [links_concat]
    exact List.mem_append_left _ ha
  exact ⟨fun a ha b hb => h.inj a (hsub ha) b (hsub hb), fun a ha => h.left a (hsub ha),
    fun b hb => h.right b (hsub hb)⟩

/-- 最後に hash した組。 -/
theorem mem_links_concat (g : δ) (xs : List χ) (x : χ) :
    (root hash g xs, x) ∈ links hash g (xs ++ [x]) := by
  rw [links_concat]
  exact List.mem_append_right _ (List.mem_singleton_self _)

/-- **鎖の約束。** 衝突の無い鎖の最後の hash は、中身の列を決める。 -/
theorem eq_of_root_eq {g : δ} : ∀ {xs ys : List χ}, CollisionFree hash g xs ys →
    root hash g xs = root hash g ys → xs = ys := by
  intro xs
  induction xs using List.reverseRecOn with
  | nil =>
    intro ys hfree h
    rcases List.eq_nil_or_concat ys with rfl | ⟨ys, y, rfl⟩
    · rfl
    · rw [List.concat_eq_append] at hfree h
      rw [root_nil, root_concat] at h
      exact absurd h.symm (hfree.right _ (mem_links_concat g ys y))
  | append_singleton xs x ih =>
    intro ys hfree h
    rcases List.eq_nil_or_concat ys with rfl | ⟨ys, y, rfl⟩
    · rw [root_nil, root_concat] at h
      exact absurd h (hfree.left _ (mem_links_concat g xs x))
    · rw [List.concat_eq_append] at hfree h ⊢
      rw [root_concat, root_concat] at h
      have hlink := hfree.inj _ (mem_links_concat g xs x) _ (mem_links_concat g ys y) h
      rw [Prod.mk.injEq] at hlink
      rw [ih hfree.of_concat hlink.1, hlink.2]

end CipherPost.HashChain
