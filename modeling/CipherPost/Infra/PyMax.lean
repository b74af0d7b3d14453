/-!
# 最大の要素

Python の `max(xs)` と `max(xs, key=...)`。先頭から順に見て、真に大きいものだけで置き換えるので、
最大が複数あれば先に現れたものになる。

* `pyMax` — 先頭 `x` と残り `l` の最大
* `pyMax_mem`・`le_pyMax` — 比較が順位 `key` で書けるときの性質
-/

namespace CipherPost

variable {α : Type}

/-- `max([x] + l)`。`lt` は真に小さいことである。 -/
def pyMax (lt : α → α → Bool) (x : α) (l : List α) : α :=
  l.foldl (fun top y => if lt top y then y else top) x

variable {lt : α → α → Bool}

theorem pyMax_cons (x y : α) (l : List α) :
    pyMax lt x (y :: l) = pyMax lt (if lt x y then y else x) l := rfl

/-- 最大は列の要素である。 -/
theorem pyMax_mem : ∀ (l : List α) (x : α), pyMax lt x l ∈ x :: l := by
  intro l
  induction l with
  | nil => intro x; exact List.mem_singleton_self x
  | cons y l ih =>
    intro x
    rw [pyMax_cons]
    have h := ih (if lt x y then y else x)
    rcases List.mem_cons.mp h with h | h
    · rw [h]
      split
      · exact List.mem_cons_of_mem _ List.mem_cons_self
      · exact List.mem_cons_self
    · exact List.mem_cons_of_mem _ (List.mem_cons_of_mem _ h)

/-- どの要素の順位も、最大の順位を越えない。 -/
theorem le_pyMax {key : α → Nat} (hlt : ∀ a b, lt a b = true ↔ key a < key b) :
    ∀ (l : List α) (x : α), ∀ y ∈ x :: l, key y ≤ key (pyMax lt x l) := by
  intro l
  induction l with
  | nil =>
    intro x y hy
    rw [List.mem_singleton.mp hy]
    exact Nat.le_refl _
  | cons z l ih =>
    intro x y hy
    rw [pyMax_cons]
    have htop := ih (if lt x z then z else x) _ List.mem_cons_self
    have hxz : key x ≤ key (if lt x z then z else x) ∧ key z ≤ key (if lt x z then z else x) := by
      split
      · next h => exact ⟨Nat.le_of_lt ((hlt x z).mp h), Nat.le_refl _⟩
      · next h => exact ⟨Nat.le_refl _, Nat.le_of_not_lt fun hc => h ((hlt x z).mpr hc)⟩
    rcases List.mem_cons.mp hy with rfl | hy
    · exact Nat.le_trans hxz.1 htop
    · rcases List.mem_cons.mp hy with rfl | hy
      · exact Nat.le_trans hxz.2 htop
      · exact ih _ y (List.mem_cons_of_mem _ hy)

/-- 写しても比較が変わらないなら、最大を取ってから写しても同じである。 -/
theorem pyMax_map {β : Type} {lt' : β → β → Bool} {f : α → β}
    (h : ∀ a b, lt' (f a) (f b) = lt a b) : ∀ (l : List α) (x : α),
    pyMax lt' (f x) (l.map f) = f (pyMax lt x l) := by
  intro l
  induction l with
  | nil => intro x; rfl
  | cons y l ih =>
    intro x
    rw [List.map_cons, pyMax_cons, pyMax_cons, h, ← ih]
    split <;> rfl

end CipherPost
