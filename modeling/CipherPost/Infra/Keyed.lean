import Mathlib.Data.List.Induction
import CipherPost.Infra.Dict

/-!
# key ごとの集計

`d.setdefault(key(x), init(x))` の値を `x` で書き換える loop の作る辞書。要素・key・値の型は問わない。

* `Keyed.add`・`Keyed.of` — loop の一歩と、loop の作る辞書
* `Keyed.get?_of` — 値は、その key の要素だけを元の順に畳んだものである
* `Keyed.measure_of` — 値の測りは、その key の要素の重みの和である
* `Keyed.exists_of` — 値の持つものは、その key の要素のどれかが入れたものである
-/

namespace CipherPost.Keyed

variable {α κ β : Type} [DecidableEq κ] (key : α → κ) (init : α → β) (update : β → α → β)

/-- `x` の key の値を書き換える。無ければ `init x` から始める。 -/
def add (d : Dict κ β) (x : α) : Dict κ β :=
  d.set (key x) (update ((d.get? (key x)).getD (init x)) x)

/-- 空の辞書から、要素を順に加える。 -/
def of (xs : List α) : Dict κ β := xs.foldl (add key init update) Dict.empty

/-- その key の要素。 -/
def members (xs : List α) (k : κ) : List α := xs.filter fun x => decide (key x = k)

/-- 一つの key の要素の畳み込み。最初の要素が始めの値を決める。 -/
def folded : List α → Option β
  | [] => none
  | x :: xs => some ((x :: xs).foldl update (init x))

variable {key init update}

theorem mem_members {xs : List α} {k : κ} {x : α} : x ∈ members key xs k ↔ x ∈ xs ∧ key x = k := by
  rw [members, List.mem_filter, decide_eq_true_iff]

theorem folded_eq_none_iff {xs : List α} : folded init update xs = none ↔ xs = [] := by
  cases xs <;> simp [folded]

theorem folded_concat (xs : List α) (x : α) :
    folded init update (xs ++ [x]) = some (update ((folded init update xs).getD (init x)) x) := by
  cases xs with
  | nil => rfl
  | cons y ys =>
    rw [List.cons_append, folded, ← List.cons_append, List.foldl_append]
    rfl

theorem of_concat (xs : List α) (x : α) :
    of key init update (xs ++ [x]) = add key init update (of key init update xs) x := by
  rw [of, List.foldl_append]
  rfl

/-- **値は、その key の要素だけを元の順に畳んだものである。** -/
theorem get?_of (xs : List α) (k : κ) :
    (of key init update xs).get? k = folded init update (members key xs k) := by
  induction xs using List.reverseRecOn with
  | nil => rfl
  | append_singleton xs x ih =>
    rw [of_concat, add, Dict.get?_set, members, List.filter_append, List.filter_singleton]
    by_cases hk : key x = k
    · subst hk
      rw [if_pos rfl, ih, decide_eq_true rfl]
      exact (folded_concat _ x).symm
    · rw [if_neg hk, ih, decide_eq_false hk, cond_false, List.append_nil]
      rfl

/-- 値のある key には要素があり、最初の要素が始めの値を決める。 -/
theorem members_of_get? {xs : List α} {k : κ} {b : β}
    (h : (of key init update xs).get? k = some b) :
    ∃ x rest, members key xs k = x :: rest ∧ (x :: rest).foldl update (init x) = b := by
  rw [get?_of] at h
  cases hmem : members key xs k with
  | nil =>
    rw [hmem] at h
    cases h
  | cons x rest =>
    rw [hmem] at h
    exact ⟨x, rest, rfl, Option.some.inj h⟩

/-- 要素が重み `w` だけ増やす測りは、重みの和になる。 -/
theorem measure_foldl {m : β → Nat} {w : α → Nat} (hstep : ∀ b x, m (update b x) = m b + w x) :
    ∀ (xs : List α) (b : β), m (xs.foldl update b) = m b + (xs.map w).sum
  | [], b => rfl
  | x :: xs, b => by
    rw [List.foldl_cons, measure_foldl hstep xs, hstep, List.map_cons, List.sum_cons]
    omega

/-- **値の測りは、その key の要素の重みの和である。** -/
theorem measure_of {m : β → Nat} {w : α → Nat} (hinit : ∀ x, m (init x) = 0)
    (hstep : ∀ b x, m (update b x) = m b + w x) {xs : List α} {k : κ} {b : β}
    (h : (of key init update xs).get? k = some b) :
    m b = ((members key xs k).map w).sum := by
  obtain ⟨x, rest, hmem, rfl⟩ := members_of_get? h
  rw [hmem, measure_foldl hstep, hinit, Nat.zero_add]

/-- 要素が一つずつ入れるものは、始めからあるか、要素のどれかが入れたものである。 -/
theorem exists_foldl {p : β → Prop} {q : α → Prop} (hstep : ∀ b x, p (update b x) ↔ p b ∨ q x) :
    ∀ (xs : List α) (b : β), p (xs.foldl update b) ↔ p b ∨ ∃ x ∈ xs, q x
  | [], b => by simp
  | x :: xs, b => by
    rw [List.foldl_cons, exists_foldl hstep xs, hstep, or_assoc, List.exists_mem_cons_iff]

/-- **要素が一つずつ入れるものは、その key の要素のどれかが入れたものである。** -/
theorem exists_of {p : β → Prop} {q : α → Prop} (hinit : ∀ x, ¬p (init x))
    (hstep : ∀ b x, p (update b x) ↔ p b ∨ q x) {xs : List α} {k : κ} {b : β}
    (h : (of key init update xs).get? k = some b) : p b ↔ ∃ x ∈ members key xs k, q x := by
  obtain ⟨x, rest, hmem, rfl⟩ := members_of_get? h
  rw [hmem, exists_foldl hstep, or_iff_right (hinit x)]

/-- 一歩で変わらない性質は、畳み込みで変わらない。 -/
theorem invariant_foldl {P : β → Prop} (hstep : ∀ b x, P b → P (update b x)) :
    ∀ (xs : List α) (b : β), P b → P (xs.foldl update b)
  | [], _, hb => hb
  | x :: xs, b, hb => invariant_foldl hstep xs (update b x) (hstep b x hb)

/-- 始めの値で成り立ち、一歩で変わらない性質は、値で成り立つ。 -/
theorem invariant_of {P : β → Prop} (hinit : ∀ x, P (init x))
    (hstep : ∀ b x, P b → P (update b x)) {xs : List α} {k : κ} {b : β}
    (h : (of key init update xs).get? k = some b) : P b := by
  obtain ⟨x, rest, -, rfl⟩ := members_of_get? h
  exact invariant_foldl hstep _ _ (hinit x)

end CipherPost.Keyed
