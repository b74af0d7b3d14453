import CipherPost.Infra.Dict

/-!
# 持ち主ごとの行

行がどれも一人の持ち主を持つ表の、一人の持ち主の行だけを残した部分表。書き込みと消去が部分表とどう交換するかを、
書く行の持ち主がその人かどうかで分けて述べる。表も持ち主も何であるかを問わない。

* `owned` — 部分表
* `owned_set_own`・`owned_set_other` — 書き込み
* `owned_erase`・`owned_erase_other` — 消去
* `owned_addAll_own`・`owned_addAll_other` — 新しい key の行をまとめて足すこと
-/

namespace CipherPost.Dict

variable {κ α ω : Type} [DecidableEq κ] [DecidableEq ω] (owner : α → ω) {x : ω} {d : Dict κ α}

/-- 持ち主が `x` である行。 -/
def owned (x : ω) (d : Dict κ α) : Dict κ α :=
  d.filter fun _ r => decide (owner r = x)

/-- 行をまとめて足す。 -/
def addAll (d : Dict κ α) (rows : List (κ × α)) : Dict κ α :=
  rows.foldl (fun d r => d.set r.1 r.2) d

omit [DecidableEq κ] in
theorem filter_owned_of_imp {p : κ → α → Bool} (h : ∀ k r, p k r = true → owner r = x) :
    (d.owned owner x).filter p = d.filter p := by
  refine ext ?_
  show (d.entries.filter _).filter _ = d.entries.filter _
  rw [List.filter_filter]
  refine List.filter_congr fun e _ => ?_
  cases hp : p e.1 e.2 with
  | true => simp [h e.1 e.2 hp]
  | false => rfl

omit [DecidableEq κ] in
@[simp] theorem owned_owned : (d.owned owner x).owned owner x = d.owned owner x :=
  filter_owned_of_imp owner fun _ _ h => of_decide_eq_true h

variable {owner} in
theorem get?_owned (k : κ) :
    (d.owned owner x).get? k = (d.get? k).filter fun r => decide (owner r = x) :=
  get?_filter d _ k

variable {owner} in
theorem get?_owned_eq_some {k : κ} {r : α} :
    (d.owned owner x).get? k = some r ↔ d.get? k = some r ∧ owner r = x := by
  rw [get?_owned, Option.filter_eq_some_iff, decide_eq_true_eq]

variable {owner} in
theorem get?_owned_of_none {k : κ} (h : d.get? k = none) : (d.owned owner x).get? k = none := by
  rw [get?_owned, h, Option.filter_none]

theorem owned_set_own {k : κ} {r : α} (hr : owner r = x)
    (hold : ∀ w, d.get? k = some w → owner w = x) :
    (d.set k r).owned owner x = (d.owned owner x).set k r :=
  filter_set_of_true (decide_eq_true hr) fun w hw => decide_eq_true (hold w hw)

theorem owned_set_other {k : κ} {r : α} (hr : owner r ≠ x)
    (hold : ∀ w, d.get? k = some w → owner w ≠ x) :
    (d.set k r).owned owner x = d.owned owner x :=
  filter_set_of_false (decide_eq_false hr) fun w hw => decide_eq_false (hold w hw)

theorem owned_erase (k : κ) : (d.erase k).owned owner x = (d.owned owner x).erase k :=
  filter_comm d _ _

/-- 他の人の行を消しても、部分表は変わらない。 -/
theorem owned_erase_other {k : κ} (hold : ∀ w, d.get? k = some w → owner w ≠ x) :
    (d.erase k).owned owner x = d.owned owner x := by
  refine ext ?_
  show (d.entries.filter _).filter _ = d.entries.filter _
  rw [List.filter_filter]
  refine List.filter_congr fun e he => ?_
  by_cases hk : e.1 = k
  · have hget : d.get? k = some e.2 := (mem_entries_iff d k e.2).mp (hk ▸ he)
    simp [hold e.2 hget]
  · simp [hk]

theorem get?_addAll_of_notMem {k : κ} : ∀ {rows : List (κ × α)} {d : Dict κ α},
    k ∉ rows.map Prod.fst → (d.addAll rows).get? k = d.get? k
  | [], _, _ => rfl
  | r :: rows, d, h => by
    obtain ⟨hr, hrows⟩ := not_or.mp (List.mem_cons.not.mp h)
    have ih := get?_addAll_of_notMem (d := d.set r.1 r.2) hrows
    rw [show d.addAll (r :: rows) = (d.set r.1 r.2).addAll rows from rfl, ih,
      get?_set_of_ne _ _ (Ne.symm hr)]

/-- 足した後に残るのは、前からの行と、足した行である。 -/
theorem get?_addAll_cases {k : κ} {v : α} : ∀ {rows : List (κ × α)} {d : Dict κ α},
    (d.addAll rows).get? k = some v → d.get? k = some v ∨ (k, v) ∈ rows
  | [], _, h => .inl h
  | r :: rows, d, h => by
    rcases get?_addAll_cases (d := d.set r.1 r.2) h with h | h
    · rw [get?_set] at h
      split at h
      · next hk =>
        refine .inr (List.mem_cons.mpr (.inl ?_))
        rw [← hk, ← Option.some.inj h]
      · exact .inl h
    · exact .inr (List.mem_cons_of_mem _ h)

theorem owned_addAll_own : ∀ {rows : List (κ × α)} {d : Dict κ α}, (∀ r ∈ rows, owner r.2 = x) →
    (rows.map Prod.fst).Nodup → (∀ r ∈ rows, d.get? r.1 = none) →
    (d.addAll rows).owned owner x = (d.owned owner x).addAll rows
  | [], _, _, _, _ => rfl
  | r :: rows, d, hown, hnodup, hfree => by
    obtain ⟨hr, hown⟩ := List.forall_mem_cons.mp hown
    obtain ⟨hd, hfree⟩ := List.forall_mem_cons.mp hfree
    obtain ⟨hnotin, hnodup⟩ := List.nodup_cons.mp hnodup
    have hnone : ∀ r' ∈ rows, (d.set r.1 r.2).get? r'.1 = none := by
      intro r' hr'
      have hne : r.1 ≠ r'.1 := fun heq => hnotin (heq ▸ List.mem_map_of_mem hr')
      rw [get?_set_of_ne _ _ hne]
      exact hfree r' hr'
    have ih := owned_addAll_own hown hnodup hnone
    rw [owned_set_own owner hr fun w hw => by rw [hd] at hw; cases hw] at ih
    exact ih

theorem owned_addAll_other : ∀ {rows : List (κ × α)} {d : Dict κ α}, (∀ r ∈ rows, owner r.2 ≠ x) →
    (rows.map Prod.fst).Nodup → (∀ r ∈ rows, d.get? r.1 = none) →
    (d.addAll rows).owned owner x = d.owned owner x
  | [], _, _, _, _ => rfl
  | r :: rows, d, hown, hnodup, hfree => by
    obtain ⟨hr, hown⟩ := List.forall_mem_cons.mp hown
    obtain ⟨hd, hfree⟩ := List.forall_mem_cons.mp hfree
    obtain ⟨hnotin, hnodup⟩ := List.nodup_cons.mp hnodup
    have hnone : ∀ r' ∈ rows, (d.set r.1 r.2).get? r'.1 = none := by
      intro r' hr'
      have hne : r.1 ≠ r'.1 := fun heq => hnotin (heq ▸ List.mem_map_of_mem hr')
      rw [get?_set_of_ne _ _ hne]
      exact hfree r' hr'
    have ih := owned_addAll_other hown hnodup hnone
    rw [owned_set_other owner hr fun w hw => by rw [hd] at hw; cases hw] at ih
    exact ih

end CipherPost.Dict
