import Mathlib.Data.List.Basic

/-!
# 穴のある列

穴に別の列を入れて作る列。穴に入れるものだけが違う二つの列を、同じ雛形の二つの埋め方として扱う。

* `Template.fill` — 穴を埋めた列
* `Template.SameEmpty` — 空の穴の同じ、二つの埋め方
* `Template.fill_eq_nil_congr` — 空かどうかは、空の穴で決まる
* `Template.fill_congr_iff` — 埋め方によらないのは、穴の無い雛形である
-/

namespace CipherPost.Template

variable {α κ : Type}

/-- 雛形の記号。 -/
inductive Piece (α κ : Type) where
  | lit (a : α)
  | slot (k : κ)
  deriving DecidableEq

/-- 雛形。 -/
abbrev Body (α κ : Type) := List (Piece α κ)

/-- 記号一つの列。 -/
def Piece.fill (keys : κ → List α) : Piece α κ → List α
  | lit a => [a]
  | slot k => keys k

/-- 穴を埋めた列。 -/
def fill (keys : κ → List α) (t : Body α κ) : List α := t.flatMap (Piece.fill keys)

/-- 穴の無い雛形。 -/
def ofList (l : List α) : Body α κ := l.map .lit

/-- 空の穴が同じである。 -/
def SameEmpty (keys keys' : κ → List α) : Prop := ∀ k, keys k = [] ↔ keys' k = []

/-- 穴が無い。 -/
def Plain (t : Body α κ) : Prop := ∀ k, Piece.slot k ∉ t

variable {keys keys' : κ → List α} {t : Body α κ}

@[simp] theorem fill_ofList (keys : κ → List α) (l : List α) : fill keys (ofList l) = l := by
  rw [fill, ofList, List.flatMap_map]
  exact List.flatMap_singleton' l

/-- 空かどうかは、空の穴で決まる。 -/
theorem fill_eq_nil_congr (h : SameEmpty keys keys') : fill keys t = [] ↔ fill keys' t = [] := by
  unfold fill
  rw [List.flatMap_eq_nil_iff, List.flatMap_eq_nil_iff]
  refine forall₂_congr fun p _ => ?_
  cases p with
  | lit a => exact Iff.rfl
  | slot k => exact h k

/-- 穴の無い雛形は、埋め方によらない。 -/
theorem fill_congr_of_plain (h : Plain t) (keys keys' : κ → List α) :
    fill keys t = fill keys' t := by
  refine List.flatMap_congr fun p hp => ?_
  cases p with
  | lit a => rfl
  | slot k => exact absurd hp (h k)

/-- どの穴にも一つを入れた列は、二つを入れた列より長くない。 -/
theorem length_fill_le (a : α) :
    ∀ t : Body α κ, (fill (fun _ => [a]) t).length ≤ (fill (fun _ => [a, a]) t).length
  | [] => Nat.le_refl _
  | .lit _ :: t => Nat.succ_le_succ (length_fill_le a t)
  | .slot _ :: t => Nat.succ_le_succ (Nat.le_succ_of_le (length_fill_le a t))

/-- 穴があれば、長さが違う。 -/
theorem length_fill_lt {a : α} {k : κ} (h : Piece.slot k ∈ t) :
    (fill (fun _ => [a]) t).length < (fill (fun _ => [a, a]) t).length := by
  obtain ⟨l, r, rfl⟩ := List.append_of_mem h
  have hl := length_fill_le a l
  have hr := length_fill_le a r
  unfold fill at hl hr ⊢
  rw [List.flatMap_append, List.flatMap_append, List.flatMap_cons, List.flatMap_cons]
  simp only [List.length_append, Piece.fill, List.length_cons, List.length_nil]
  omega

/-- **空の穴の同じどの二つの埋め方でも列が同じなのは、穴の無い雛形である。** -/
theorem fill_congr_iff [Nonempty α] :
    (∀ keys keys' : κ → List α, SameEmpty keys keys' → fill keys t = fill keys' t) ↔ Plain t := by
  constructor
  · intro h k hk
    obtain ⟨a⟩ := ‹Nonempty α›
    have heq := h (fun _ => [a]) (fun _ => [a, a]) fun _ => by simp
    exact absurd (congrArg List.length heq) (Nat.ne_of_lt (length_fill_lt hk))
  · exact fun h keys keys' _ => fill_congr_of_plain h keys keys'

end CipherPost.Template
