import Mathlib.Data.List.Basic

/-!
# consumer group の pending list

Redis の XAUTOCLAIM。pending list を先頭から高々 `attempts` 個調べ、待ち時間が `idle` 以上のものを
高々 `count` 個取り直す。取り直した entry は、その時に配られたことになる。stream から消えた entry は
pending list からも消え、これも `count` に数える。

* `autoclaim` — 取り直した id と、その後の pending list
* `ids_autoclaim` — stream から消えた entry が無ければ、pending list の id は変わらない
* `mem_autoclaim` — 配られた時刻は、取り直した entry のものだけが変わる
* `head_claimed` — 先頭の古い entry は必ず取り直される
-/

namespace CipherPost

/-- pending list の entry。 -/
structure Pending where
  id : Nat
  /-- 最後に配られた時刻。 -/
  since : Nat
  deriving DecidableEq

namespace Pending

/-- 待ち時間が `idle` 以上である。 -/
def stale (idle now : Nat) (p : Pending) : Bool := decide (idle ≤ now - p.since)

end Pending

/-- XAUTOCLAIM。`trimmed` より前の entry は stream にない。 -/
def autoclaim (idle now trimmed : Nat) : Nat → Nat → List Pending → List Nat × List Pending
  | _, _, [] => ([], [])
  | 0, _, ps => ([], ps)
  | _, 0, ps => ([], ps)
  | attempts + 1, count + 1, p :: ps =>
    if p.id < trimmed then autoclaim idle now trimmed attempts count ps
    else if p.stale idle now then
      let r := autoclaim idle now trimmed attempts count ps
      (p.id :: r.1, { p with since := now } :: r.2)
    else
      let r := autoclaim idle now trimmed attempts (count + 1) ps
      (r.1, p :: r.2)

section Autoclaim

variable {idle now trimmed : Nat}

theorem autoclaim_cons (attempts count : Nat) (p : Pending) (ps : List Pending) :
    autoclaim idle now trimmed (attempts + 1) (count + 1) (p :: ps) =
      if p.id < trimmed then autoclaim idle now trimmed attempts count ps
      else if p.stale idle now then
        (p.id :: (autoclaim idle now trimmed attempts count ps).1,
          { p with since := now } :: (autoclaim idle now trimmed attempts count ps).2)
      else ((autoclaim idle now trimmed attempts (count + 1) ps).1,
        p :: (autoclaim idle now trimmed attempts (count + 1) ps).2) := rfl

/-- 取り直すのは pending list の entry である。 -/
theorem claimed_sublist : ∀ (ps : List Pending) (attempts count : Nat),
    (autoclaim idle now trimmed attempts count ps).1.Sublist (ps.map Pending.id) := by
  intro ps
  induction ps with
  | nil => intro attempts count; cases attempts <;> cases count <;> exact List.Sublist.refl []
  | cons p ps ih =>
    intro attempts count
    cases attempts with
    | zero => exact List.nil_sublist _
    | succ attempts =>
      cases count with
      | zero => exact List.nil_sublist _
      | succ count =>
        rw [autoclaim_cons]
        split
        · exact (ih _ _).cons _
        · split
          · exact (ih _ _).cons_cons _
          · exact (ih _ _).cons _

/-- stream から消えた entry が無ければ、pending list の id は変わらない。 -/
theorem ids_autoclaim : ∀ (ps : List Pending) (attempts count : Nat),
    (∀ p ∈ ps, trimmed ≤ p.id) →
      (autoclaim idle now trimmed attempts count ps).2.map Pending.id = ps.map Pending.id := by
  intro ps
  induction ps with
  | nil => intro attempts count _; cases attempts <;> cases count <;> rfl
  | cons p ps ih =>
    intro attempts count h
    have hp : ¬ p.id < trimmed := Nat.not_lt.mpr (h p List.mem_cons_self)
    have hps : ∀ q ∈ ps, trimmed ≤ q.id := fun q hq => h q (List.mem_cons_of_mem _ hq)
    cases attempts with
    | zero => rfl
    | succ attempts =>
      cases count with
      | zero => rfl
      | succ count =>
        rw [autoclaim_cons, if_neg hp]
        split
        · rw [List.map_cons, ih _ _ hps, List.map_cons]
        · rw [List.map_cons, ih _ _ hps, List.map_cons]

/-- 残る entry は、元のままか、今取り直されたものである。 -/
theorem mem_autoclaim : ∀ (ps : List Pending) (attempts count : Nat) {q : Pending},
    q ∈ (autoclaim idle now trimmed attempts count ps).2 →
      q ∈ ps ∨ (q.id ∈ (autoclaim idle now trimmed attempts count ps).1 ∧ q.since = now) := by
  intro ps
  induction ps with
  | nil =>
    intro attempts count q hq
    cases attempts <;> cases count <;> exact absurd hq List.not_mem_nil
  | cons p ps ih =>
    intro attempts count q hq
    cases attempts with
    | zero => exact .inl hq
    | succ attempts =>
      cases count with
      | zero => exact .inl hq
      | succ count =>
        rw [autoclaim_cons] at hq ⊢
        split at hq
        · rename_i ht
          rw [if_pos ht]
          exact (ih _ _ hq).imp_left (List.mem_cons_of_mem _)
        · rename_i ht
          rw [if_neg ht]
          split at hq
          · rename_i hs
            rw [if_pos hs]
            rcases List.mem_cons.mp hq with rfl | hq
            · exact .inr ⟨List.mem_cons_self, rfl⟩
            · exact (ih _ _ hq).imp (List.mem_cons_of_mem _)
                (fun h => ⟨List.mem_cons_of_mem _ h.1, h.2⟩)
          · rename_i hs
            rw [if_neg hs]
            rcases List.mem_cons.mp hq with rfl | hq
            · exact .inl List.mem_cons_self
            · exact (ih _ _ hq).imp_left (List.mem_cons_of_mem _)

/-- 先頭の古い entry は必ず取り直される。 -/
theorem head_claimed {attempts count : Nat} {p : Pending} {ps : List Pending} (ha : 0 < attempts)
    (hc : 0 < count) (ht : trimmed ≤ p.id) (hs : p.stale idle now = true) :
    p.id ∈ (autoclaim idle now trimmed attempts count (p :: ps)).1 := by
  obtain ⟨attempts, rfl⟩ := Nat.exists_eq_succ_of_ne_zero (Nat.ne_of_gt ha)
  obtain ⟨count, rfl⟩ := Nat.exists_eq_succ_of_ne_zero (Nat.ne_of_gt hc)
  rw [autoclaim_cons, if_neg (Nat.not_lt.mpr ht), if_pos hs]
  exact List.mem_cons_self

end Autoclaim

end CipherPost
