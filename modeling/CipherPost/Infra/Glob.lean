import Mathlib.Data.List.Infix

/-!
# glob の照合

`fnmatch` の pattern のうち、`*` と `?` だけを使うもの。文字の組 `[...]` は扱わない。

* `Glob.accepts` — 照合
* `Glob.accepts_plain`・`Glob.accepts_star` — 記号の無い pattern と、終わりだけが `*` の pattern
* `Glob.meets` — 二つの pattern に同時に合う文字列がありうること
* `Glob.meets_of_accepts` — その健全さ
-/

namespace CipherPost.Glob

/-- 照合。`*` は任意の列、`?` は任意の一文字に合う。 -/
def accepts : List Char → List Char → Bool
  | [], s => s.isEmpty
  | c :: p, s =>
    if c = '*' then s.tails.any (accepts p)
    else match s with
      | [] => false
      | d :: s => (decide (c = '?') || decide (c = d)) && accepts p s

/-- 記号の無い pattern。 -/
def Plain (p : List Char) : Prop := ∀ c ∈ p, c ≠ '*' ∧ c ≠ '?'

instance (p : List Char) : Decidable (Plain p) := List.decidableBAll _ p

/-- 記号でない文字は、その文字にだけ合う。 -/
theorem accepts_cons {c : Char} (h : c ≠ '*' ∧ c ≠ '?') (p s : List Char) :
    accepts (c :: p) s = true ↔ ∃ t, s = c :: t ∧ accepts p t = true := by
  conv_lhs => unfold accepts
  rw [if_neg h.1]
  cases s with
  | nil => simp
  | cons d s =>
    simp only [h.2, decide_false, Bool.false_or, Bool.and_eq_true, decide_eq_true_eq,
      List.cons.injEq]
    constructor
    · rintro ⟨rfl, hs⟩
      exact ⟨s, ⟨rfl, rfl⟩, hs⟩
    · rintro ⟨t, ⟨rfl, rfl⟩, ht⟩
      exact ⟨rfl, ht⟩

/-- 記号の無い先頭は、その文字どおりに合う。 -/
theorem accepts_append : ∀ {pre : List Char}, Plain pre → ∀ (p s : List Char),
    accepts (pre ++ p) s = true ↔ ∃ rest, s = pre ++ rest ∧ accepts p rest = true
  | [], _, p, s => by simp
  | c :: pre, h, p, s => by
    obtain ⟨hc, hpre⟩ := List.forall_mem_cons.mp h
    rw [List.cons_append, accepts_cons hc]
    simp only [accepts_append hpre, List.cons_append]
    constructor
    · rintro ⟨_, rfl, rest, rfl, hrest⟩
      exact ⟨rest, rfl, hrest⟩
    · rintro ⟨rest, rfl, hrest⟩
      exact ⟨_, rfl, rest, rfl, hrest⟩

/-- **記号の無い pattern は、それ自身にだけ合う。** -/
theorem accepts_plain {p : List Char} (h : Plain p) (s : List Char) : accepts p s = true ↔ s = p := by
  have happend := accepts_append h [] s
  rw [List.append_nil] at happend
  rw [happend]
  simp [accepts]

/-- **終わりだけが `*` の pattern は、先頭の合う文字列に合う。** -/
theorem accepts_star {pre : List Char} (h : Plain pre) (s : List Char) :
    accepts (pre ++ ['*']) s = true ↔ pre <+: s := by
  have hstar : ∀ rest : List Char, accepts ['*'] rest = true := fun rest =>
    List.any_eq_true.mpr ⟨[], (List.mem_tails _ _).mpr (List.nil_suffix), rfl⟩
  rw [accepts_append h]
  constructor
  · rintro ⟨rest, rfl, -⟩
    exact List.prefix_append pre rest
  · rintro ⟨rest, rfl⟩
    exact ⟨rest, rfl, hstar rest⟩

/-- 記号が無いか、終わりの `*` だけを使う pattern。 -/
def Simple (p : List Char) : Prop := Plain p ∨ (Plain p.dropLast ∧ p = p.dropLast ++ ['*'])

instance (p : List Char) : Decidable (Simple p) := inferInstanceAs (Decidable (_ ∨ _))

/-- 二つの簡単な pattern に、同時に合う文字列がありうる。 -/
def meets (p q : List Char) : Bool :=
  if Plain p then accepts q p
  else if Plain q then accepts p q
  else p.dropLast.isPrefixOf q.dropLast || q.dropLast.isPrefixOf p.dropLast

/-- 同じ文字列に合う二つの pattern は、`meets` である。 -/
theorem meets_of_accepts {p q s : List Char} (hp : Simple p) (hq : Simple q)
    (hps : accepts p s = true) (hqs : accepts q s = true) : meets p q = true := by
  unfold meets
  split
  · next hplain =>
    rw [← (accepts_plain hplain s).mp hps]
    exact hqs
  · next hstar =>
    split
    · next hplain =>
      rw [← (accepts_plain hplain s).mp hqs]
      exact hps
    · next hstar' =>
      obtain ⟨hpre, heq⟩ := hp.resolve_left hstar
      obtain ⟨hpre', heq'⟩ := hq.resolve_left hstar'
      rw [heq, accepts_star hpre] at hps
      rw [heq', accepts_star hpre'] at hqs
      rw [Bool.or_eq_true, List.isPrefixOf_iff_prefix, List.isPrefixOf_iff_prefix]
      exact List.prefix_or_prefix_of_prefix hps hqs

end CipherPost.Glob
