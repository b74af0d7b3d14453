import Mathlib.Data.List.Induction
import CipherPost.Infra.Dict

/-!
# key ごとの組

`groups.setdefault(key(it), []).append(it)` の loop が作る辞書。要素と key の型は問わない。

* `Groups.of` — loop の作る辞書
* `Groups.get?_of` — 組は、その key の要素を元の順に並べたものである
* `Groups.pairwise_keys` — 組は、key が最初に現れた順に並ぶ
* `Groups.flatten_perm` — 組をつなぐと、元の要素を並べ替えたものになる
-/

namespace CipherPost.Groups

variable {α κ : Type} [DecidableEq κ] (key : α → κ)

/-- `groups.setdefault(key(it), []).append(it)`。 -/
def add (groups : Dict κ (List α)) (it : α) : Dict κ (List α) :=
  groups.set (key it) ((groups.get? (key it)).getD [] ++ [it])

/-- 空の辞書から、要素を順に加える。 -/
def of (items : List α) : Dict κ (List α) := items.foldl (add key) Dict.empty

/-- その key の要素。 -/
def members (items : List α) (k : κ) : List α := items.filter fun it => decide (key it = k)

variable {key}

theorem of_concat (items : List α) (it : α) : of key (items ++ [it]) = add key (of key items) it := by
  unfold of
  rw [List.foldl_append]
  rfl

theorem mem_members {items : List α} {k : κ} {it : α} :
    it ∈ members key items k ↔ it ∈ items ∧ key it = k := by
  unfold members
  rw [List.mem_filter, decide_eq_true_iff]

/-- **組は、その key の要素を元の順に並べたものである。** 要素の無い key の組は無い。 -/
theorem get?_of (items : List α) (k : κ) :
    (of key items).get? k = if members key items k = [] then none else some (members key items k) := by
  induction items using List.reverseRecOn with
  | nil => rfl
  | append_singleton items it ih =>
    have hmembers : members key (items ++ [it]) k =
        members key items k ++ if key it = k then [it] else [] := by
      unfold members
      rw [List.filter_append, List.filter_singleton]
      by_cases hk : key it = k
      · simp [hk]
      · simp [hk]
    rw [of_concat, add, Dict.get?_set, hmembers]
    by_cases hk : key it = k
    · subst hk
      rw [if_pos rfl, if_pos rfl, if_neg (by simp), ih]
      by_cases hnil : members key items (key it) = []
      · rw [if_pos hnil, hnil]
        rfl
      · rw [if_neg hnil]
        rfl
    · rw [if_neg hk, if_neg hk, List.append_nil, ih]

theorem mem_entries_of {items : List α} {k : κ} {g : List α} :
    (k, g) ∈ (of key items).entries ↔ g = members key items k ∧ g ≠ [] := by
  rw [Dict.mem_entries_iff, get?_of]
  split
  · next hnil =>
    refine iff_of_false (fun h => by cases h) ?_
    rintro ⟨rfl, hne⟩
    exact hne hnil
  · next hne =>
    constructor
    · rintro ⟨⟩
      exact ⟨rfl, hne⟩
    · rintro ⟨rfl, -⟩
      rfl

/-- 組の key は、要素の key である。 -/
theorem mem_keys_of {items : List α} {k : κ} :
    k ∈ (of key items).entries.map Prod.fst ↔ k ∈ items.map key := by
  constructor
  · rintro h
    obtain ⟨⟨k', g⟩, hmem, rfl⟩ := List.mem_map.mp h
    obtain ⟨rfl, hne⟩ := mem_entries_of.mp hmem
    obtain ⟨it, hit⟩ := List.exists_mem_of_ne_nil _ hne
    obtain ⟨hit, hkey⟩ := mem_members.mp hit
    exact List.mem_map.mpr ⟨it, hit, hkey⟩
  · rintro h
    obtain ⟨it, hit, rfl⟩ := List.mem_map.mp h
    have hne : members key items (key it) ≠ [] :=
      List.ne_nil_of_mem (mem_members.mpr ⟨hit, rfl⟩)
    exact List.mem_map.mpr ⟨_, mem_entries_of.mpr ⟨rfl, hne⟩, rfl⟩

/-- **組は、key が最初に現れた順に並ぶ。** -/
theorem pairwise_keys (items : List α) : ((of key items).entries.map Prod.fst).Pairwise fun g h =>
    (items.map key).idxOf g < (items.map key).idxOf h := by
  induction items using List.reverseRecOn with
  | nil => exact List.Pairwise.nil
  | append_singleton items it ih =>
    -- 見た key の位置は、後に要素が続いても変わらない。
    have hstay : ∀ {k : κ}, k ∈ items.map key →
        ((items ++ [it]).map key).idxOf k = (items.map key).idxOf k := by
      intro k hk
      rw [List.map_append, List.idxOf_append, if_pos hk]
    have hold : ((of key items).entries.map Prod.fst).Pairwise fun g h =>
        ((items ++ [it]).map key).idxOf g < ((items ++ [it]).map key).idxOf h := by
      refine ih.imp_of_mem fun hg hh hlt => ?_
      rw [hstay (mem_keys_of.mp hg), hstay (mem_keys_of.mp hh)]
      exact hlt
    have hkeys : (of key (items ++ [it])).entries.map Prod.fst =
        if key it ∈ (of key items).entries.map Prod.fst then (of key items).entries.map Prod.fst
        else (of key items).entries.map Prod.fst ++ [key it] := by
      rw [of_concat]
      exact DictList.keys_set _ _ _
    rw [hkeys]
    split
    · exact hold
    · next hnew =>
      have hfresh : key it ∉ items.map key := fun h => hnew (mem_keys_of.mpr h)
      refine List.pairwise_append.mpr ⟨hold, List.pairwise_singleton _ _, ?_⟩
      intro g hg h hh
      obtain rfl := List.mem_singleton.mp hh
      have hg := mem_keys_of.mp hg
      rw [hstay hg, List.map_append, List.idxOf_append, if_neg hfresh]
      exact Nat.lt_of_lt_of_le (List.idxOf_lt_length_of_mem hg) (Nat.le_add_left _ _)

/-- **組をつなぐと、元の要素を並べ替えたものになる。** -/
theorem flatten_perm (items : List α) : (of key items).values.flatten.Perm items := by
  induction items using List.reverseRecOn with
  | nil => exact List.Perm.refl []
  | append_singleton items it ih =>
    rw [of_concat, ← List.flatMap_id]
    refine (Dict.flatMap_values_set (g := id) (x := [it]) ?_).trans ?_
    · cases (of key items).get? (key it) <;> rfl
    · rw [List.flatMap_id]
      exact ih.append_right [it]

end CipherPost.Groups
