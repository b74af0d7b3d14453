import Mathlib.Data.List.Forall2
import Mathlib.Data.List.Perm.Basic

/-!
# 対応する列

一つずつ対応する二つの列（`List.Forall₂`）の補題。何の列かは問わない。

* `Aligned.exists_left` — 右の列の要素には、左の列に相手がある
* `Aligned.of_mapM`・`Aligned.mem_mapM_iff`・`Aligned.isSome_mapM` — `mapM` の結果は元の列と対応し、どの要素にも
  値があれば返る
* `Aligned.of_perm` — 一方を並べ替えれば、他方も並べ替えて対応させられる
* `Aligned.with_mem`・`Aligned.getElem?` — 同じ位置の要素は対応する
-/

namespace CipherPost.Aligned

open List (Forall₂)

variable {α β : Type} {R : α → β → Prop}

theorem exists_left {l : List α} {l' : List β} (h : Forall₂ R l l') {b : β} (hb : b ∈ l') :
    ∃ a ∈ l, R a b := by
  induction h with
  | nil => cases hb
  | cons hab _ ih =>
    rcases List.mem_cons.mp hb with rfl | hb
    · exact ⟨_, List.mem_cons_self, hab⟩
    · obtain ⟨a, ha, hr⟩ := ih hb
      exact ⟨a, List.mem_cons_of_mem _ ha, hr⟩

/-- `mapM` が値を返せば、その値は元の列と一つずつ対応する。 -/
theorem of_mapM {f : α → Option β} : ∀ {l : List α} {l' : List β},
    l.mapM f = some l' → Forall₂ (fun a b => f a = some b) l l' := by
  intro l
  induction l with
  | nil =>
    intro l' h
    cases h
    exact .nil
  | cons a l ih =>
    intro l' h
    rw [List.mapM_cons] at h
    obtain ⟨b, hb, h⟩ := Option.bind_eq_some_iff.mp h
    obtain ⟨bs, hbs, h⟩ := Option.bind_eq_some_iff.mp h
    cases h
    exact .cons hb (ih hbs)

/-- `mapM` の返す列の要素は、元の列の要素の値である。 -/
theorem mem_mapM_iff {f : α → Option β} {l : List α} {l' : List β} (h : l.mapM f = some l')
    {b : β} : b ∈ l' ↔ ∃ a ∈ l, f a = some b := by
  have hall := of_mapM h
  clear h
  induction hall with
  | nil => simp
  | @cons a c l l' hac _ ih =>
    have hhead : b = c ↔ f a = some b := by rw [hac, Option.some.injEq, eq_comm]
    simp only [List.mem_cons, ih, hhead, exists_eq_or_imp]

/-- `mapM` は、どの要素にも値があれば値を返す。 -/
theorem isSome_mapM {f : α → Option β} : ∀ (l : List α),
    (l.mapM f).isSome = true ↔ ∀ a ∈ l, (f a).isSome = true := by
  intro l
  induction l with
  | nil => simp
  | cons a l ih =>
    rw [List.forall_mem_cons, ← ih, List.mapM_cons]
    cases f a with
    | none => simp
    | some b => cases l.mapM f <;> simp

/-- 例外のある `mapM` でも同じである。 -/
theorem of_mapM_ok {ε : Type} {f : α → Except ε β} : ∀ {l : List α} {l' : List β},
    l.mapM f = .ok l' → Forall₂ (fun a b => f a = .ok b) l l' := by
  intro l
  induction l with
  | nil =>
    intro l' h
    cases h
    exact .nil
  | cons a l ih =>
    intro l' h
    rw [List.mapM_cons] at h
    cases hb : f a with
    | error e => rw [hb] at h; cases h
    | ok b =>
      cases hbs : l.mapM f with
      | error e => rw [hb, hbs] at h; cases h
      | ok bs =>
        rw [hb, hbs] at h
        cases h
        exact .cons hb (ih hbs)

/-- 並べ替えた列にも、対応する列がある。 -/
theorem of_perm {l₁ l₂ : List α} {l' : List β} (hperm : l₁.Perm l₂) (h : Forall₂ R l₂ l') :
    ∃ l'' : List β, l''.Perm l' ∧ Forall₂ R l₁ l'' := by
  obtain ⟨l'', halign, hperm'⟩ := List.perm_comp_forall₂ hperm h
  exact ⟨l'', hperm', halign⟩

/-- 対応する要素は、それぞれの列の要素である。 -/
theorem with_mem {l : List α} {l' : List β} (h : Forall₂ R l l') :
    Forall₂ (fun a b => a ∈ l ∧ b ∈ l' ∧ R a b) l l' := by
  refine (List.forall₂_and_left l l').mpr ⟨fun _ ha => ha, ?_⟩
  have hflip : Forall₂ (fun b a => b ∈ l' ∧ R a b) l' l :=
    (List.forall₂_and_left l' l).mpr ⟨fun _ hb => hb, h.flip⟩
  exact hflip.flip

theorem getElem? {l : List α} {l' : List β} (h : Forall₂ R l l') {i : Nat} {a : α} {b : β}
    (ha : l[i]? = some a) (hb : l'[i]? = some b) : R a b := by
  induction h generalizing i with
  | nil => cases ha
  | cons hab _ ih =>
    cases i with
    | zero =>
      cases ha
      cases hb
      exact hab
    | succ i => exact ih ha hb

/-- 対応する要素から同じ値を作れば、作った列も同じである。 -/
theorem map_eq {γ : Type} {f : α → γ} {g : β → γ} (hfg : ∀ a b, R a b → f a = g b) {l : List α}
    {l' : List β} (h : Forall₂ R l l') : l.map f = l'.map g := by
  induction h with
  | nil => rfl
  | cons hab _ ih => rw [List.map_cons, List.map_cons, hfg _ _ hab, ih]

/-- 対応する要素から作った列が並べ替えなら、つないだ列も並べ替えである。 -/
theorem flatMap_perm {γ : Type} {f : α → List γ} {g : β → List γ}
    (hfg : ∀ a b, R a b → (f a).Perm (g b)) {l : List α} {l' : List β} (h : Forall₂ R l l') :
    (l.flatMap f).Perm (l'.flatMap g) := by
  induction h with
  | nil => exact .refl _
  | cons hab _ ih =>
    rw [List.flatMap_cons, List.flatMap_cons]
    exact (hfg _ _ hab).append ih

end CipherPost.Aligned
