import Mathlib.Data.List.Perm.Subperm
import Mathlib.Logic.Relation
import Mathlib.Logic.Function.Basic

/-!
# 前線つきの区間の組み立て

区間 `[lo, hi)` を一つずつ受け取り、`0` からの連続した被覆の端（前線）を進める機械の一般論。
前線より先から始まる区間は始点を key にして保留し、前線がその key に **ちょうど** 着いたときだけ使う。

保留の途中を前線が跨ぐと、その区間は使われないまま残る。どの到着順でも終点まで届くのは
いつか、を区間の集まりだけの条件（`Trap` が無いこと）で言う。

* `trap_of_offers` — 前線が `p` で止まるなら、`p` は `Trap` である
* `exists_perm_offers` — `Trap` があれば、そこで止まる到着順がある

区間は `lo`・`hi` を持つ任意の型 `α` の値で、bytes のことは知らない。
-/

namespace CipherPost

open Relation Function

/-- 前線 `pos` と、保留した区間（始点から終点への部分関数）。 -/
structure Front where
  pos : Nat
  pend : Nat → Option Nat

namespace Front

/-- 何も受け取っていない状態。 -/
def init : Front := ⟨0, fun _ => none⟩

/-- 前線の位置に保留があるあいだ、それを取り出して前線を進める。 -/
inductive Drain : Front → Front → Prop
  | stop {f P} : P f = none → Drain ⟨f, P⟩ ⟨f, P⟩
  | hop {f P e s} : P f = some e → Drain ⟨e, update P f none⟩ s → Drain ⟨f, P⟩ s

variable {α : Type} (lo hi : α → Nat)

/-- 区間 `a` を一つ受け取る。前線より手前の部分は切り落とす。 -/
inductive Offer (a : α) : Front → Front → Prop
  | old {f P} : hi a ≤ f → Offer a ⟨f, P⟩ ⟨f, P⟩
  | fresh {f P s} : f < hi a → Drain ⟨f, update P (max (lo a) f) (some (hi a))⟩ s →
      Offer a ⟨f, P⟩ s

/-- 区間の列を順に受け取る。 -/
inductive Offers : List α → Front → Front → Prop
  | nil {s} : Offers [] s s
  | cons {a l s s' s''} : Offer lo hi a s s' → Offers l s' s'' → Offers (a :: l) s s''

/-- 前線 `f` から区間 `a` で、`p` を越えずに進む一歩。`f` から始まって `p` を越える区間が
あるなら、`a` 自身が `f` から始まらなければならない（同じ key の保留を上書きするため）。 -/
def Jump (M : List α) (p f : Nat) (a : α) : Prop :=
  a ∈ M ∧ lo a ≤ f ∧ f < hi a ∧ hi a ≤ p ∧ (lo a = f ∨ ∀ b ∈ M, lo b = f → hi b ≤ p)

/--
前線が止まりうる位置。`p` から始まる区間が無く、`0` から始まる区間は `p` を越えず、
`0` から `p` まで `Jump` を辿って着ける。
-/
def Trap (M : List α) (n p : Nat) : Prop :=
  p < n ∧ (∀ b ∈ M, lo b ≠ p) ∧ (∀ b ∈ M, lo b = 0 → hi b ≤ p) ∧
    ReflTransGen (fun f g => ∃ a, Jump lo hi M p f a ∧ hi a = g) 0 p

variable {lo hi}

/-! ## 一歩の性質 -/

/-- 保留が前進するものだけなら、取り出しで前線は戻らない。 -/
theorem Drain.le {s s' : Front} (h : Drain s s') (hP : ∀ q e, s.pend q = some e → q < e) :
    s.pos ≤ s'.pos := by
  induction h with
  | stop _ => exact Nat.le_refl _
  | @hop f P e s hf _ ih =>
    have hlt : f < e := hP f e hf
    have hle : e ≤ s.pos := ih fun q e' hq => by
      by_cases hqf : q = f
      · subst hqf; simp at hq
      · exact hP q e' (by simpa [update_of_ne hqf] using hq)
    exact Nat.le_trans (Nat.le_of_lt hlt) hle

/-- 取り出しの結果は一つである。 -/
theorem Drain.unique {s s₁ s₂ : Front} (h₁ : Drain s s₁) (h₂ : Drain s s₂) : s₁ = s₂ := by
  induction h₁ with
  | stop hf =>
    cases h₂ with
    | stop _ => rfl
    | hop hf' _ => rw [hf] at hf'; simp at hf'
  | hop hf _ ih =>
    cases h₂ with
    | stop hf' => rw [hf] at hf'; simp at hf'
    | hop hf' hd =>
      rw [hf, Option.some.injEq] at hf'
      subst hf'
      exact ih hd

theorem Offer.unique {a : α} {s s₁ s₂ : Front} (h₁ : Offer lo hi a s s₁)
    (h₂ : Offer lo hi a s s₂) : s₁ = s₂ := by
  cases h₁ with
  | old hle =>
    cases h₂ with
    | old _ => rfl
    | fresh hlt _ => omega
  | fresh hlt hd =>
    cases h₂ with
    | old hle => omega
    | fresh _ hd' => exact hd.unique hd'

theorem Offers.unique : ∀ {l : List α} {s s₁ s₂ : Front}, Offers lo hi l s s₁ →
    Offers lo hi l s s₂ → s₁ = s₂ := by
  intro l
  induction l with
  | nil => intro s s₁ s₂ h₁ h₂; cases h₁; cases h₂; rfl
  | cons a l ih =>
    intro s s₁ s₂ h₁ h₂
    cases h₁ with
    | cons ha hl =>
      cases h₂ with
      | cons ha' hl' =>
        rw [ha.unique ha'] at hl
        exact ih hl hl'

theorem Offers.append : ∀ {l r : List α} {s s' s'' : Front}, Offers lo hi l s s' →
    Offers lo hi r s' s'' → Offers lo hi (l ++ r) s s'' := by
  intro l
  induction l with
  | nil => intro r s s' s'' h₁ h₂; cases h₁; exact h₂
  | cons a l ih =>
    intro r s s' s'' h₁ h₂
    cases h₁ with
    | cons ha hl => exact Offers.cons ha (ih hl h₂)

/-! ## 不変量 -/

/--
取り出しの途中で成り立つこと（`τ` は既に受け取った区間）。
前線より先の保留は受け取った区間そのもので、前線以降から始まる区間は必ず保留に残っている。
-/
structure Held (lo hi : α → Nat) (τ : List α) (s : Front) : Prop where
  grows : ∀ q e, s.pend q = some e → q < e
  source : ∀ q e, s.pend q = some e → s.pos < q → ∃ a ∈ τ, lo a = q ∧ hi a = e
  kept : ∀ a ∈ τ, s.pos ≤ lo a → (s.pend (lo a)).isSome = true

/-- 一区間を受け終わった状態で成り立つこと。前線から始まる区間はもう残っていない。 -/
structure Settled (lo hi : α → Nat) (τ : List α) (s : Front) : Prop
    extends Held lo hi τ s where
  clear : s.pend s.pos = none

theorem settled_init : Settled lo hi [] init where
  grows := by intro q e h; simp [init] at h
  source := by intro q e h; simp [init] at h
  kept := by intro a ha; simp at ha
  clear := rfl

/-- 前線から始まる区間は、受け取った中には無い。 -/
theorem Settled.lo_ne {τ : List α} {s : Front} (h : Settled lo hi τ s) {a : α} (ha : a ∈ τ) :
    lo a ≠ s.pos := by
  intro he
  have hk := h.kept a ha (Nat.le_of_eq he.symm)
  rw [he, h.clear] at hk
  simp at hk

/-- 前線の保留を一つ取り出しても、途中の不変量は成り立つ。 -/
theorem Held.hop {τ : List α} {f e : Nat} {P : Nat → Option Nat} (h : Held lo hi τ ⟨f, P⟩)
    (hf : P f = some e) : Held lo hi τ ⟨e, update P f none⟩ := by
  have hlt : f < e := h.grows f e hf
  have hne : ∀ q, e ≤ q → q ≠ f := fun q hq => by omega
  refine ⟨?_, ?_, ?_⟩
  · intro q e' hq
    by_cases hqf : q = f
    · subst hqf; simp at hq
    · exact h.grows q e' (by simpa [update_of_ne hqf] using hq)
  · intro q e' hq hpos
    have hqf : q ≠ f := hne q (Nat.le_of_lt hpos)
    exact h.source q e' (by simpa [update_of_ne hqf] using hq) (Nat.lt_trans hlt hpos)
  · intro a ha hpos
    have hqf : lo a ≠ f := hne _ hpos
    simpa [update_of_ne hqf] using h.kept a ha (Nat.le_trans (Nat.le_of_lt hlt) hpos)

theorem Held.drain {τ : List α} {s s' : Front} (h : Held lo hi τ s) (hd : Drain s s') :
    Settled lo hi τ s' := by
  induction hd with
  | stop hf => exact { h with clear := hf }
  | hop hf _ ih => exact ih (h.hop hf)

/-- 区間を保留に入れた直後の不変量。 -/
theorem Settled.insert {τ : List α} {f : Nat} {P : Nat → Option Nat} {a : α}
    (h : Settled lo hi τ ⟨f, P⟩) (ha : lo a < hi a) (hlt : f < hi a) :
    Held lo hi (τ ++ [a]) ⟨f, update P (max (lo a) f) (some (hi a))⟩ := by
  refine ⟨?_, ?_, ?_⟩
  · intro q e hq
    by_cases hqm : q = max (lo a) f
    · subst hqm
      simp only [update_self, Option.some.injEq] at hq
      omega
    · exact h.grows q e (by simpa [update_of_ne hqm] using hq)
  · intro q e hq hpos
    by_cases hqm : q = max (lo a) f
    · -- 前線より先に置かれたなら、置かれた位置は `a` の始点である
      subst hqm
      simp only [update_self, Option.some.injEq] at hq
      refine ⟨a, by simp, ?_, hq⟩
      simp only at hpos
      omega
    · obtain ⟨b, hb, hlo, hhi⟩ := h.source q e (by simpa [update_of_ne hqm] using hq) hpos
      exact ⟨b, by simp [hb], hlo, hhi⟩
  · intro b hb hpos
    by_cases hqm : lo b = max (lo a) f
    · simp [hqm]
    · rcases List.mem_append.mp hb with hb | hb
      · simpa [update_of_ne hqm] using h.kept b hb hpos
      · rw [List.mem_singleton] at hb
        subst hb
        simp only at hpos
        omega

/-- **一区間を受け取る一歩は不変量を保つ。** -/
theorem Settled.offer {τ : List α} {s s' : Front} {a : α} (h : Settled lo hi τ s)
    (ha : lo a < hi a) (ho : Offer lo hi a s s') :
    Settled lo hi (τ ++ [a]) s' ∧ s.pos ≤ s'.pos ∧ (lo a ≤ s.pos → hi a ≤ s'.pos) := by
  cases ho with
  | @old f P hle =>
    refine ⟨⟨⟨h.grows, ?_, ?_⟩, h.clear⟩, Nat.le_refl _, fun _ => hle⟩
    · intro q e hq hpos
      obtain ⟨b, hb, hr⟩ := h.source q e hq hpos
      exact ⟨b, by simp [hb], hr⟩
    · intro b hb hpos
      rcases List.mem_append.mp hb with hb | hb
      · exact h.kept b hb hpos
      · rw [List.mem_singleton] at hb
        subst hb
        simp only at hpos
        omega
  | @fresh f P s hlt hd =>
    have hheld := h.insert ha hlt
    refine ⟨hheld.drain hd, hd.le hheld.grows, ?_⟩
    intro hle
    have hmax : max (lo a) f = f := Nat.max_eq_right hle
    -- `a` は前線の位置に置かれるので、取り出しは `a` から始まる
    cases hd with
    | stop hf => simp [hmax] at hf
    | hop hf hd' =>
      simp only [hmax, update_self, Option.some.injEq] at hf
      subst hf
      exact hd'.le ((hheld.hop (by simp [hmax])).grows)

theorem Settled.offers : ∀ {l τ : List α} {s s' : Front}, Settled lo hi τ s →
    (∀ a ∈ l, lo a < hi a) → Offers lo hi l s s' →
    Settled lo hi (τ ++ l) s' ∧ s.pos ≤ s'.pos ∧ (∀ a ∈ l, lo a ≤ s.pos → hi a ≤ s'.pos) := by
  intro l
  induction l with
  | nil =>
    intro τ s s' h _ ho
    cases ho
    exact ⟨by simpa using h, Nat.le_refl _, by simp⟩
  | cons a l ih =>
    intro τ s s' h hl ho
    cases ho with
    | cons ha hrest =>
      obtain ⟨h₁, hle₁, hcov₁⟩ := h.offer (hl a (by simp)) ha
      obtain ⟨h₂, hle₂, hcov₂⟩ := ih h₁ (fun x hx => hl x (by simp [hx])) hrest
      refine ⟨by simpa using h₂, Nat.le_trans hle₁ hle₂, ?_⟩
      intro x hx hlo
      rcases List.mem_cons.mp hx with rfl | hx
      · exact Nat.le_trans (hcov₁ hlo) hle₂
      · exact hcov₂ x hx (Nat.le_trans hlo hle₁)

/-- 前線も保留の終点も `n` を越えない。 -/
def Within (n : Nat) (s : Front) : Prop := s.pos ≤ n ∧ ∀ q e, s.pend q = some e → e ≤ n

theorem Drain.within {n : Nat} {s s' : Front} (hd : Drain s s') (h : Within n s) : Within n s' := by
  induction hd with
  | stop _ => exact h
  | @hop f P e s hf _ ih =>
    refine ih ⟨h.2 f e hf, fun q e' hq => ?_⟩
    by_cases hqf : q = f
    · subst hqf; simp at hq
    · exact h.2 q e' (by simpa [update_of_ne hqf] using hq)

/-- 受け取る区間がどれも `n` を越えなければ、前線も越えない。 -/
theorem Offers.within {n : Nat} : ∀ {l : List α} {s s' : Front}, Offers lo hi l s s' →
    (∀ a ∈ l, hi a ≤ n) → Within n s → Within n s' := by
  intro l
  induction l with
  | nil => intro s s' ho _ h; cases ho; exact h
  | cons a l ih =>
    intro s s' ho hl h
    obtain ⟨ha, hl⟩ := List.forall_mem_cons.mp hl
    cases ho with
    | cons hoffer hrest =>
      refine ih hrest hl ?_
      cases hoffer with
      | old _ => exact h
      | @fresh f P s hlt hd =>
        refine hd.within ⟨h.1, fun q e hq => ?_⟩
        by_cases hqm : q = max (lo a) f
        · subst hqm
          simp only [update_self, Option.some.injEq] at hq
          omega
        · exact h.2 q e (by simpa [update_of_ne hqm] using hq)

/-! ## 止まる位置は `Trap` である -/

/-- 取り出しで前線が通る位置は、どれも `Jump` で繋がる。 -/
theorem Drain.climb {M τ : List α} {p : Nat} {s s' : Front} (hd : Drain s s')
    (hM : ∀ a ∈ τ, a ∈ M) (h : Held lo hi τ s) (hp : s'.pos ≤ p)
    (hfirst : ∀ e, s.pend s.pos = some e → e ≤ p → ∃ a, Jump lo hi M p s.pos a ∧ hi a = e) :
    ReflTransGen (fun f g => ∃ a, Jump lo hi M p f a ∧ hi a = g) s.pos s'.pos := by
  induction hd with
  | stop _ => exact ReflTransGen.refl
  | @hop f P e s hf hd ih =>
    have hheld := h.hop hf
    have he : e ≤ p := Nat.le_trans (hd.le hheld.grows) hp
    refine ReflTransGen.head (hfirst e hf he) (ih hheld hp ?_)
    -- 二つ目からは保留の始点がちょうど前線なので、その区間自身が `Jump` である
    intro e' he' hle
    have hlt : f < e := h.grows f e hf
    have hne : e ≠ f := by omega
    have hP : P e = some e' := by simpa [update_of_ne hne] using he'
    obtain ⟨a, ha, hlo, hhi⟩ := h.source e e' hP hlt
    have hgt : e < e' := h.grows e e' hP
    exact ⟨a, ⟨hM a ha, Nat.le_of_eq hlo, by show e < hi a; omega, by omega, Or.inl hlo⟩, hhi⟩

/-- 一区間を受け取って前線が通る位置も、`Jump` で繋がる。`rest` はその後に受け取る区間。 -/
theorem Offer.climb {M τ rest : List α} {p : Nat} {s s' : Front} {a : α}
    (ho : Offer lo hi a s s') (hM : ∀ x, x ∈ M ↔ x ∈ τ ∨ x = a ∨ x ∈ rest)
    (h : Settled lo hi τ s) (ha : lo a < hi a) (hp : s'.pos ≤ p)
    (hrest : ∀ b ∈ rest, lo b ≤ s'.pos → hi b ≤ p) :
    ReflTransGen (fun f g => ∃ a, Jump lo hi M p f a ∧ hi a = g) s.pos s'.pos := by
  cases ho with
  | old _ => exact ReflTransGen.refl
  | @fresh f P s hlt hd =>
    have hheld := h.insert ha hlt
    have hfs : f ≤ s'.pos := hd.le hheld.grows
    have hsub : ∀ x ∈ τ ++ [a], x ∈ M := by
      intro x hx
      rcases List.mem_append.mp hx with hx | hx
      · exact (hM x).mpr (Or.inl hx)
      · exact (hM x).mpr (Or.inr (Or.inl (List.mem_singleton.mp hx)))
    refine hd.climb hsub hheld hp ?_
    intro e he hle
    have he : update P (max (lo a) f) (some (hi a)) f = some e := he
    by_cases hlo : lo a ≤ f
    · rw [Nat.max_eq_right hlo] at he
      simp only [update_self, Option.some.injEq] at he
      subst he
      refine ⟨a, ⟨(hM a).mpr (Or.inr (Or.inl rfl)), hlo, hlt, hle, ?_⟩, rfl⟩
      by_cases heq : lo a = f
      · exact Or.inl heq
      · -- 重なりで進むときは、`f` から始まる区間はまだ届いていない
        refine Or.inr fun b hb hbf => ?_
        rcases (hM b).mp hb with hb | rfl | hb
        · exact absurd hbf (h.lo_ne hb)
        · exact absurd hbf heq
        · exact hrest b hb (Nat.le_trans (Nat.le_of_eq hbf) hfs)
    · have hne : f ≠ max (lo a) f := by omega
      rw [update_of_ne hne] at he
      rw [show P f = none from h.clear] at he
      simp at he

theorem Offers.climb {M : List α} {p : Nat} : ∀ {l τ : List α} {s s' : Front},
    Offers lo hi l s s' → (∀ x, x ∈ M ↔ x ∈ τ ∨ x ∈ l) → (∀ a ∈ l, lo a < hi a) →
    Settled lo hi τ s → s'.pos = p →
    ReflTransGen (fun f g => ∃ a, Jump lo hi M p f a ∧ hi a = g) s.pos p := by
  intro l
  induction l with
  | nil => intro τ s s' ho _ _ _ hp; cases ho; rw [hp]
  | cons a l ih =>
    intro τ s s' ho hM hl h hp
    cases ho with
    | @cons _ _ _ s₁ _ ha hrest =>
      have hne : lo a < hi a := hl a (by simp)
      have hl' : ∀ x ∈ l, lo x < hi x := fun x hx => hl x (by simp [hx])
      obtain ⟨h₁, -, -⟩ := h.offer hne ha
      obtain ⟨-, hle, hcov⟩ := h₁.offers hl' hrest
      have hM' : ∀ x, x ∈ M ↔ x ∈ τ ∨ x = a ∨ x ∈ l := fun x => by
        rw [hM, List.mem_cons]
      refine (ha.climb hM' h hne (hp ▸ hle) (fun b hb hlo => hp ▸ hcov b hb hlo)).trans ?_
      exact ih hrest (fun x => by rw [hM', List.mem_append, List.mem_singleton, or_assoc])
        hl' h₁ hp

/-- **前線が終点の手前で止まった位置は `Trap` である。** -/
theorem trap_of_offers {M l : List α} {n : Nat} {s : Front} (hM : ∀ x, x ∈ M ↔ x ∈ l)
    (hl : ∀ a ∈ l, lo a < hi a) (ho : Offers lo hi l init s) (hn : s.pos < n) :
    Trap lo hi M n s.pos := by
  obtain ⟨hs, -, hcov⟩ := settled_init.offers hl ho
  refine ⟨hn, fun b hb => ?_, fun b hb h0 => ?_, ?_⟩
  · exact hs.lo_ne (by simpa using (hM b).mp hb)
  · exact hcov b ((hM b).mp hb) (by rw [h0]; exact Nat.zero_le _)
  · exact ho.climb (τ := []) (fun x => by simp [hM]) hl settled_init rfl

/-- 切り口が揃った区間の集まりに `Trap` は無い。 -/
theorem not_trap_of_aligned {M : List α} {n : Nat} (hzero : 0 < n → ∃ b ∈ M, lo b = 0)
    (hcut : ∀ a ∈ M, hi a < n → ∃ b ∈ M, lo b = hi a) (p : Nat) : ¬Trap lo hi M n p := by
  rintro ⟨hlt, hnp, -, hpath⟩
  rcases ReflTransGen.cases_tail hpath with hp | ⟨f, -, a, hj, rfl⟩
  · obtain ⟨b, hb, hb0⟩ := hzero (by omega)
    exact hnp b hb (by omega)
  · obtain ⟨b, hb, hba⟩ := hcut a hj.1 hlt
    exact hnp b hb hba

/-! ## `Trap` で止まる到着順 -/

/-- `f` から `p` までの `Jump` の列。位置と、そこから進む区間の組を並べる。 -/
inductive Route (lo hi : α → Nat) (M : List α) (p : Nat) : Nat → List (Nat × α) → Prop
  | nil : Route lo hi M p p []
  | cons {f a js} : Jump lo hi M p f a → Route lo hi M p (hi a) js →
      Route lo hi M p f ((f, a) :: js)

theorem exists_route {M : List α} {p f : Nat}
    (h : ReflTransGen (fun f g => ∃ a, Jump lo hi M p f a ∧ hi a = g) f p) :
    ∃ js, Route lo hi M p f js := by
  induction h using ReflTransGen.head_induction_on with
  | refl => exact ⟨[], Route.nil⟩
  | head hab _ ih =>
    obtain ⟨a, hj, rfl⟩ := hab
    obtain ⟨js, hjs⟩ := ih
    exact ⟨_, Route.cons hj hjs⟩

theorem Route.mem {M : List α} {p f : Nat} {js : List (Nat × α)} (h : Route lo hi M p f js) :
    ∀ j ∈ js, f ≤ j.1 ∧ Jump lo hi M p j.1 j.2 := by
  induction h with
  | nil => intro j hj; simp at hj
  | @cons f a js hja _ ih =>
    intro j hj
    rcases List.mem_cons.mp hj with rfl | hj
    · exact ⟨Nat.le_refl _, hja⟩
    · obtain ⟨hle, hjj⟩ := ih j hj
      have hlt : f < hi a := hja.2.2.1
      exact ⟨by omega, hjj⟩

theorem Route.eq_of_pos {M : List α} {p f : Nat} {js : List (Nat × α)}
    (h : Route lo hi M p f js) : ∀ i ∈ js, ∀ j ∈ js, i.1 = j.1 → i = j := by
  induction h with
  | nil => intro i hi'; simp at hi'
  | @cons f a js hja hjs ih =>
    have hlt : f < hi a := hja.2.2.1
    intro i hi' j hj he
    rcases List.mem_cons.mp hi' with rfl | hi' <;> rcases List.mem_cons.mp hj with rfl | hj
    · rfl
    · have := (hjs.mem j hj).1
      simp only at he; omega
    · have := (hjs.mem i hi').1
      simp only at he; omega
    · exact ih i hi' j hj he

theorem Route.nodup {M : List α} {p f : Nat} {js : List (Nat × α)} (h : Route lo hi M p f js) :
    (js.map Prod.snd).Nodup := by
  induction h with
  | nil => exact List.nodup_nil
  | @cons f a js hja hjs ih =>
    rw [List.map_cons, List.nodup_cons]
    refine ⟨?_, ih⟩
    intro hm
    obtain ⟨j, hj, hja'⟩ := List.mem_map.mp hm
    have hja' : j.2 = a := hja'
    obtain ⟨hle, -, -, hlt, -⟩ := hjs.mem j hj
    rw [hja'] at hlt
    omega

/-- 位置ちょうどから始まり、先に保留へ入れておく区間。 -/
def early (lo : α → Nat) (j : Nat × α) : Bool := decide (lo j.2 = j.1) && decide (0 < j.1)

/-- 先に保留へ入れる区間と、前線が着いてから届ける区間。 -/
def earlies (lo : α → Nat) (js : List (Nat × α)) : List α := (js.filter (early lo)).map Prod.snd

def lates (lo : α → Nat) (js : List (Nat × α)) : List α :=
  (js.filter (fun j => !early lo j)).map Prod.snd

/-- `0` より先から始まる区間を、前線が `0` のまま保留へ入れる。 -/
def preload (lo hi : α → Nat) : List α → (Nat → Option Nat) → Nat → Option Nat
  | [], P => P
  | a :: l, P => preload lo hi l (update P (lo a) (some (hi a)))

theorem preload_of_ne : ∀ {l : List α} {P : Nat → Option Nat} {q : Nat}, (∀ a ∈ l, lo a ≠ q) →
    preload lo hi l P q = P q := by
  intro l
  induction l with
  | nil => intro P q _; rfl
  | cons a l ih =>
    intro P q h
    rw [preload, ih fun x hx => h x (by simp [hx])]
    exact update_of_ne (h a (by simp)).symm _ _

/-- 始点が同じなら終点も同じ区間だけなら、保留に残るのはその終点である。 -/
theorem preload_of_mem : ∀ {l : List α} {P : Nat → Option Nat} {a : α}, a ∈ l →
    (∀ x ∈ l, lo x = lo a → hi x = hi a) → preload lo hi l P (lo a) = some (hi a) := by
  intro l
  induction l with
  | nil => intro P a ha; simp at ha
  | cons b l ih =>
    intro P a ha h
    rw [preload]
    by_cases hm : ∃ x ∈ l, lo x = lo a
    · obtain ⟨x, hx, hxa⟩ := hm
      have hhi : hi x = hi a := h x (by simp [hx]) hxa
      rw [← hxa, ← hhi]
      exact ih hx fun y hy hye => by
        rw [hhi]; exact h y (by simp [hy]) (hye.trans hxa)
    · have hba : b = a := by
        rcases List.mem_cons.mp ha with rfl | ha
        · rfl
        · exact absurd ⟨a, ha, rfl⟩ hm
      subst hba
      rw [preload_of_ne fun x hx he => hm ⟨x, hx, he⟩]
      exact update_self _ _ _

theorem offers_preload : ∀ {l : List α} {P : Nat → Option Nat}, (∀ a ∈ l, 0 < lo a ∧ lo a < hi a) →
    P 0 = none → Offers lo hi l ⟨0, P⟩ ⟨0, preload lo hi l P⟩ := by
  intro l
  induction l with
  | nil => intro P _ _; exact Offers.nil
  | cons a l ih =>
    intro P h h0
    obtain ⟨hpos, hlt⟩ := h a (by simp)
    have hmax : max (lo a) 0 = lo a := Nat.max_eq_left (Nat.zero_le _)
    have hP : update P (lo a) (some (hi a)) 0 = none := by
      rw [update_of_ne (by omega)]; exact h0
    refine Offers.cons (Offer.fresh (by omega) ?_) (ih (fun x hx => h x (by simp [hx])) hP)
    rw [hmax]
    exact Drain.stop hP

/-- 経路どおりに保留と到着を並べると、前線は `p` に着いて止まる。 -/
theorem Route.offers {M : List α} {p f : Nat} {js : List (Nat × α)}
    (h : Route lo hi M p f js) : ∀ {P : Nat → Option Nat},
    (∀ j ∈ js, P j.1 = if early lo j then some (hi j.2) else none) → P p = none →
    ∃ s s', Drain ⟨f, P⟩ s ∧ Offers lo hi (lates lo js) s s' ∧ s'.pos = p := by
  induction h with
  | nil => intro P _ hp; exact ⟨_, _, Drain.stop hp, Offers.nil, rfl⟩
  | @cons f a js hja hjs ih =>
    intro P hP hp
    obtain ⟨-, hlo, hlt, hle, -⟩ := hja
    have hf := hP (f, a) (by simp)
    -- 先の位置の保留は、`f` の保留を消しても変わらない
    have hrest : ∀ j ∈ js, update P f none j.1 = if early lo j then some (hi j.2) else none := by
      intro j hj
      have hge := (hjs.mem j hj).1
      rw [update_of_ne (by omega)]
      exact hP j (by simp [hj])
    obtain ⟨s, s', hd, ho, hpos⟩ := ih hrest (by rw [update_of_ne (by omega)]; exact hp)
    by_cases he : early lo (f, a) = true
    · rw [if_pos he] at hf
      refine ⟨s, s', Drain.hop hf hd, ?_, hpos⟩
      simpa [lates, he] using ho
    · rw [if_neg he] at hf
      refine ⟨⟨f, P⟩, s', Drain.stop hf, ?_, hpos⟩
      have hl : lates lo ((f, a) :: js) = a :: lates lo js := by simp [lates, he]
      rw [hl]
      refine Offers.cons (Offer.fresh hlt ?_) ho
      rw [Nat.max_eq_right hlo]
      exact Drain.hop (update_self _ _ _) (by rw [update_idem]; exact hd)

theorem offers_old : ∀ {l : List α} {s : Front}, (∀ a ∈ l, hi a ≤ s.pos) →
    Offers lo hi l s s := by
  intro l
  induction l with
  | nil => intro s _; exact Offers.nil
  | cons a l ih =>
    intro s h
    exact Offers.cons (Offer.old (h a (by simp))) (ih fun x hx => h x (by simp [hx]))

/-- `p` を越える区間。 -/
def beyond (hi : α → Nat) (p : Nat) (M : List α) : List α := M.filter fun a => decide (p < hi a)

/-- `p` を越える区間と、経路の先取りの区間を入れた保留。 -/
def preloaded (lo hi : α → Nat) (M : List α) (p : Nat) (js : List (Nat × α)) : Nat → Option Nat :=
  preload lo hi (earlies lo js) (preload lo hi (beyond hi p M) fun _ => none)

theorem mem_beyond {p : Nat} {M : List α} {a : α} : a ∈ beyond hi p M ↔ a ∈ M ∧ p < hi a := by
  unfold beyond
  rw [List.mem_filter, decide_eq_true_eq]

theorem mem_earlies {js : List (Nat × α)} {a : α} (ha : a ∈ earlies lo js) :
    ∃ j ∈ js, early lo j = true ∧ j.2 = a ∧ lo a = j.1 ∧ 0 < j.1 := by
  obtain ⟨j, hj, rfl⟩ := List.mem_map.mp ha
  obtain ⟨hm, he⟩ := List.mem_filter.mp hj
  have he' := he
  simp only [early, Bool.and_eq_true, decide_eq_true_eq] at he'
  exact ⟨j, hm, he, rfl, he'.1, he'.2⟩

/-- `0` から始まる区間が `p` を越えないなら、越える区間は `0` より先から始まる。 -/
theorem lo_pos_of_mem_beyond {p : Nat} {M : List α} (h0 : ∀ a ∈ M, lo a = 0 → hi a ≤ p) {a : α}
    (ha : a ∈ beyond hi p M) : 0 < lo a := by
  obtain ⟨hm, hgt⟩ := mem_beyond.mp ha
  refine Nat.pos_of_ne_zero fun he => ?_
  have := h0 a hm he
  omega

/-- 保留の中身は、経路の各位置で望みどおりになる。 -/
theorem Route.preloaded_apply {M : List α} {p f : Nat} {js : List (Nat × α)}
    (hjs : Route lo hi M p f js) (h0 : ∀ a ∈ M, lo a = 0 → hi a ≤ p) :
    ∀ j ∈ js, preloaded lo hi M p js j.1 = if early lo j then some (hi j.2) else none := by
  intro j hj
  obtain ⟨-, -, hlo, hlt, hle, hexact⟩ := hjs.mem j hj
  unfold preloaded
  by_cases he : early lo j = true
  · rw [if_pos he]
    have hlo' : lo j.2 = j.1 := by
      simp only [early, Bool.and_eq_true, decide_eq_true_eq] at he
      exact he.1
    rw [← hlo']
    refine preload_of_mem (List.mem_map.mpr ⟨j, List.mem_filter.mpr ⟨hj, he⟩, rfl⟩) ?_
    intro x hx hxe
    obtain ⟨i, hi', -, rfl, hix, -⟩ := mem_earlies hx
    rw [hjs.eq_of_pos i hi' j hj (by rw [← hix, hxe, hlo'])]
  · rw [if_neg he, preload_of_ne, preload_of_ne]
    · -- `p` を越える区間が `j.1` から始まれば、`Jump` の条件に反する
      intro a ha hae
      obtain ⟨hm, hgt⟩ := mem_beyond.mp ha
      rcases hexact with heq | hall
      · have hj0 : j.1 = 0 := by
          simp only [early, Bool.and_eq_true, decide_eq_true_eq, not_and] at he
          have := he heq
          omega
        have := h0 a hm (hae.trans hj0)
        omega
      · have := hall a hm hae
        omega
    · intro a ha hae
      obtain ⟨i, hi', hie, rfl, hix, -⟩ := mem_earlies ha
      rw [hjs.eq_of_pos i hi' j hj (hix ▸ hae)] at hie
      exact he hie

/-- `p` から始まる区間が無ければ、保留は `p` で空である。 -/
theorem Route.preloaded_target {M : List α} {p f : Nat} {js : List (Nat × α)}
    (hjs : Route lo hi M p f js) (hnp : ∀ a ∈ M, lo a ≠ p) : preloaded lo hi M p js p = none := by
  unfold preloaded
  rw [preload_of_ne, preload_of_ne]
  · exact fun a ha => hnp a (mem_beyond.mp ha).1
  · intro a ha
    obtain ⟨j, hj, -, rfl, -⟩ := mem_earlies ha
    exact hnp _ (hjs.mem j hj).2.1

/-- 先取りの区間までを届けると、前線は `0` のまま、保留が `preloaded` になる。 -/
theorem Route.offers_preloaded {M : List α} {p f : Nat} {js : List (Nat × α)}
    (hjs : Route lo hi M p f js) (hM : ∀ a ∈ M, lo a < hi a) (h0 : ∀ a ∈ M, lo a = 0 → hi a ≤ p) :
    Offers lo hi (beyond hi p M ++ earlies lo js) init ⟨0, preloaded lo hi M p js⟩ ∧
      preloaded lo hi M p js 0 = none := by
  have hbeyond : ∀ a ∈ beyond hi p M, 0 < lo a ∧ lo a < hi a := fun a ha =>
    ⟨lo_pos_of_mem_beyond h0 ha, hM a (mem_beyond.mp ha).1⟩
  have hearly : ∀ a ∈ earlies lo js, 0 < lo a ∧ lo a < hi a := by
    intro a ha
    obtain ⟨j, hj, -, rfl, hlo, hpos⟩ := mem_earlies ha
    exact ⟨by omega, hM _ (hjs.mem j hj).2.1⟩
  have hzero : preload lo hi (beyond hi p M) (fun _ => none) 0 = none :=
    preload_of_ne fun a ha => by have := (hbeyond a ha).1; omega
  refine ⟨(offers_preload hbeyond rfl).append (offers_preload hearly hzero), ?_⟩
  unfold preloaded
  rw [preload_of_ne fun a ha => by have := (hearly a ha).1; omega]
  exact hzero

/-- 区間の集まりは、`p` を越えるもの、経路のもの、残りに分かれる。 -/
theorem Route.exists_rest {M : List α} {p f : Nat} {js : List (Nat × α)}
    (hjs : Route lo hi M p f js) :
    ∃ rest, (beyond hi p M ++ earlies lo js ++ (lates lo js ++ rest)).Perm M ∧
      ∀ a ∈ rest, hi a ≤ p := by
  have hsub : js.map Prod.snd ⊆ M.filter (fun a => !decide (p < hi a)) := by
    intro a ha
    obtain ⟨j, hj, rfl⟩ := List.mem_map.mp ha
    obtain ⟨-, hm, -, -, hle, -⟩ := hjs.mem j hj
    exact List.mem_filter.mpr ⟨hm, by simpa using hle⟩
  obtain ⟨sub, hperm, hsl⟩ := List.Nodup.subperm hjs.nodup hsub
  obtain ⟨rest, hrest⟩ := hsl.exists_perm_append
  have hsplit : (earlies lo js ++ lates lo js).Perm (js.map Prod.snd) := by
    rw [earlies, lates, ← List.map_append]
    exact (List.filter_append_perm _ js).map _
  refine ⟨rest, ?_, fun a ha => ?_⟩
  · calc beyond hi p M ++ earlies lo js ++ (lates lo js ++ rest)
        = beyond hi p M ++ ((earlies lo js ++ lates lo js) ++ rest) := by
          simp only [List.append_assoc]
      _ |>.Perm (beyond hi p M ++ (js.map Prod.snd ++ rest)) :=
          (hsplit.append_right rest).append_left _
      _ |>.Perm (beyond hi p M ++ M.filter (fun a => !decide (p < hi a))) :=
          ((hperm.append_right rest).symm.trans hrest.symm).append_left _
      _ |>.Perm M := List.filter_append_perm _ M
  · have hm : a ∈ M.filter (fun a => !decide (p < hi a)) :=
      hrest.mem_iff.mpr (List.mem_append_right _ ha)
    simpa using (List.mem_filter.mp hm).2

/-- **`Trap` があれば、そこで前線が止まる到着順がある。** -/
theorem exists_perm_offers {M : List α} {n p : Nat} (hM : ∀ a ∈ M, lo a < hi a)
    (h : Trap lo hi M n p) :
    ∃ l s, l.Perm M ∧ Offers lo hi l init s ∧ s.pos = p := by
  obtain ⟨-, hnp, h0, hpath⟩ := h
  obtain ⟨js, hjs⟩ := exists_route hpath
  obtain ⟨rest, hperm, hold⟩ := hjs.exists_rest
  obtain ⟨hpre, hzero⟩ := hjs.offers_preloaded hM h0
  obtain ⟨s, s', hd, ho, hpos⟩ := hjs.offers (hjs.preloaded_apply h0) (hjs.preloaded_target hnp)
  cases hd.unique (Drain.stop hzero)
  refine ⟨_, s', hperm, hpre.append (ho.append (offers_old fun a ha => ?_)), hpos⟩
  rw [hpos]
  exact hold a ha

end Front

end CipherPost
