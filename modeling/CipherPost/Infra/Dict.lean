import Mathlib.Algebra.GroupWithZero.Nat
import Mathlib.Data.List.Perm.Subperm

/-!
# 挿入順を保つ辞書

Python の `dict` を、key の重複しない対の列として書く。反復は挿入の順で、
既にある key への代入は位置を変えない。key の重複が無いことは構造体が持つ。

* `Dict.get?` — `d.get(k)`
* `Dict.set` — `d[k] = v`
* `Dict.erase`・`Dict.eraseAll` — `d.pop(k, None)` を一つの key か key の列で
* `Dict.filter` — 条件に合う対だけを残す
-/

namespace CipherPost

variable {κ α : Type} [DecidableEq κ]

namespace DictList

/-- 列の中で `k` に対応する値。 -/
def get? (k : κ) : List (κ × α) → Option α
  | [] => none
  | (k', v) :: l => if k' = k then some v else get? k l

/-- 列の中の `k` の値を置き換える。無ければ末尾に足す。 -/
def set (k : κ) (v : α) : List (κ × α) → List (κ × α)
  | [] => [(k, v)]
  | (k', v') :: l => if k' = k then (k, v) :: l else (k', v') :: set k v l

theorem get?_eq_none_iff {k : κ} : ∀ {l : List (κ × α)},
    get? k l = none ↔ k ∉ l.map Prod.fst
  | [] => by simp [get?]
  | (k', v) :: l => by
    rw [get?, List.map_cons, List.mem_cons]
    split
    · next h => simp [h]
    · next h => rw [get?_eq_none_iff]; simp [Ne.symm h]

theorem mem_of_get? {k : κ} {v : α} : ∀ {l : List (κ × α)}, get? k l = some v → (k, v) ∈ l
  | [], h => by simp [get?] at h
  | (k', v') :: l, h => by
    rw [get?] at h
    split at h
    · next hk => rw [Option.some.inj h, hk]; exact List.mem_cons_self
    · exact List.mem_cons_of_mem _ (mem_of_get? h)

theorem get?_of_mem {k : κ} {v : α} : ∀ {l : List (κ × α)}, (l.map Prod.fst).Nodup →
    (k, v) ∈ l → get? k l = some v
  | [], _, h => by simp at h
  | (k', v') :: l, hnd, h => by
    rw [List.map_cons, List.nodup_cons] at hnd
    rw [get?]
    rcases List.mem_cons.mp h with he | hm
    · rw [Prod.mk.injEq] at he
      rw [if_pos he.1.symm, he.2]
    · have hne : k' ≠ k := by
        intro he
        exact hnd.1 (List.mem_map.mpr ⟨(k, v), hm, he.symm⟩)
      rw [if_neg hne]
      exact get?_of_mem hnd.2 hm

theorem keys_set (k : κ) (v : α) : ∀ (l : List (κ × α)),
    (set k v l).map Prod.fst
      = if k ∈ l.map Prod.fst then l.map Prod.fst else l.map Prod.fst ++ [k]
  | [] => by simp [set]
  | (k', v') :: l => by
    rw [set]
    split
    · next h => simp [h]
    · next h =>
      rw [List.map_cons, keys_set k v l, List.map_cons]
      by_cases hm : k ∈ l.map Prod.fst
      · rw [if_pos hm, if_pos (List.mem_cons_of_mem _ hm)]
      · rw [if_neg hm, if_neg (by simp only [List.mem_cons, not_or]; exact ⟨Ne.symm h, hm⟩)]
        rfl

theorem nodup_set {k : κ} {v : α} {l : List (κ × α)} (h : (l.map Prod.fst).Nodup) :
    ((set k v l).map Prod.fst).Nodup := by
  rw [keys_set]
  split
  · exact h
  · next hk =>
    rw [List.nodup_append]
    refine ⟨h, by simp, ?_⟩
    intro a ha b hb
    rw [List.mem_singleton.mp hb]
    intro he
    exact hk (he ▸ ha)

theorem get?_set (k : κ) (v : α) (k₂ : κ) : ∀ (l : List (κ × α)),
    get? k₂ (set k v l) = if k = k₂ then some v else get? k₂ l
  | [] => by simp [set, get?]
  | (k', v') :: l => by
    rw [set]
    split
    · next h =>
      subst h
      rw [get?, get?]
      split <;> rfl
    · next h =>
      rw [get?, get?, get?_set k v k₂ l]
      split
      · next h₂ => rw [if_neg (by rw [← h₂]; exact Ne.symm h)]
      · rfl

theorem length_set (k : κ) (v : α) (l : List (κ × α)) :
    (set k v l).length = if (get? k l).isSome then l.length else l.length + 1 := by
  have h := congrArg List.length (keys_set k v l)
  rw [List.length_map] at h
  rw [h]
  cases hg : get? k l with
  | none => rw [if_neg (get?_eq_none_iff.mp hg)]; simp
  | some w =>
    have hm : k ∈ l.map Prod.fst := List.mem_map_of_mem (mem_of_get? hg)
    rw [if_pos hm]; simp

/-- 条件に合う値での置き換えは、条件に合う対だけを残すことと交換する。 -/
theorem filter_set_of_true {p : κ → α → Bool} {k : κ} {v : α} (hv : p k v = true) :
    ∀ {l : List (κ × α)}, (∀ w, get? k l = some w → p k w = true) →
      (set k v l).filter (fun e => p e.1 e.2) = set k v (l.filter fun e => p e.1 e.2)
  | [], _ => by simp [set, hv]
  | (k', v') :: l, h => by
    rw [set]
    split
    · next hk =>
      have hv' : p k' v' = true := hk ▸ h v' (by rw [get?, if_pos hk])
      simp only [List.filter_cons, hv, hv', if_true, set, if_pos hk]
    · next hk =>
      have ih := filter_set_of_true hv (l := l) fun w hw => h w (by rw [get?, if_neg hk, hw])
      cases hp : p k' v' with
      | true => simp only [List.filter_cons, hp, if_true, set, if_neg hk, ih]
      | false => simp only [List.filter_cons, hp, Bool.false_eq_true, if_false, ih]

/-- 条件に合わない値どうしの置き換えは、残る対を変えない。 -/
theorem filter_set_of_false {p : κ → α → Bool} {k : κ} {v : α} (hv : p k v = false) :
    ∀ {l : List (κ × α)}, (∀ w, get? k l = some w → p k w = false) →
      (set k v l).filter (fun e => p e.1 e.2) = l.filter fun e => p e.1 e.2
  | [], _ => by simp [set, hv]
  | (k', v') :: l, h => by
    rw [set]
    split
    · next hk =>
      have hv' : p k' v' = false := hk ▸ h v' (by rw [get?, if_pos hk])
      simp only [List.filter_cons, hv, hv', Bool.false_eq_true, if_false]
    · next hk =>
      have ih := filter_set_of_false hv (l := l) fun w hw => h w (by rw [get?, if_neg hk, hw])
      cases hp : p k' v' with
      | true => simp only [List.filter_cons, hp, if_true, ih]
      | false => simp only [List.filter_cons, hp, Bool.false_eq_true, if_false, ih]

/-- key を一つ選んで写した列は、その key の値を写したものである。 -/
theorem filterMap_key {β : Type} {k : κ} {f : α → Option β} : ∀ {l : List (κ × α)},
    (l.map Prod.fst).Nodup →
      l.filterMap (fun e => if e.1 = k then f e.2 else none) = ((get? k l).bind f).toList
  | [], _ => rfl
  | (k', v) :: l, hnd => by
    obtain ⟨hk', hnd⟩ := List.nodup_cons.mp hnd
    rw [get?]
    by_cases h : k' = k
    · have hnone : get? k l = none := get?_eq_none_iff.mpr (h ▸ hk')
      have hrest := filterMap_key (k := k) (f := f) hnd
      rw [hnone] at hrest
      rw [if_pos h, Option.bind_some]
      cases hv : f v <;> simp [h, hv, hrest]
    · rw [if_neg h, ← filterMap_key hnd]
      simp [h]

theorem count_filterMap_key [DecidableEq α] (k : κ) (v : α) : ∀ (l : List (κ × α)),
    (l.filterMap fun e => if e.1 = k then some e.2 else none).count v = l.count (k, v)
  | [] => rfl
  | (k', v') :: l => by
    rw [List.count_cons, ← count_filterMap_key k v l]
    by_cases h : k' = k
    · simp [h, List.count_cons]
    · simp [h]

/-- どの key についても値の列が等しければ、対の列は並べ替えである。 -/
theorem perm_of_filterMap_key [DecidableEq α] {l l' : List (κ × α)}
    (h : ∀ k, (l.filterMap fun e => if e.1 = k then some e.2 else none) =
      l'.filterMap fun e => if e.1 = k then some e.2 else none) : l.Perm l' := by
  refine List.perm_iff_count.mpr fun e => ?_
  rw [← count_filterMap_key, ← count_filterMap_key, h]

/-- 値の列の一つを、`x` だけ長いものに置き換える。 -/
theorem flatMap_set {β : Type} {g : α → List β} {k : κ} {v : α} {x : List β} : ∀ {l : List (κ × α)},
    g v = ((get? k l).map g).getD [] ++ x →
    ((set k v l).flatMap fun e => g e.2).Perm ((l.flatMap fun e => g e.2) ++ x)
  | [], h => by
    have hv : g v = x := h
    rw [set, List.flatMap_cons, hv]
    exact (List.append_nil x).symm ▸ List.Perm.refl x
  | (k', v') :: l, h => by
    rw [set]
    rw [get?] at h
    by_cases hk : k' = k
    · rw [if_pos hk] at h ⊢
      have hv : g v = g v' ++ x := h
      rw [List.flatMap_cons, List.flatMap_cons, hv, List.append_assoc, List.append_assoc]
      exact List.Perm.append_left _ List.perm_append_comm
    · rw [if_neg hk] at h ⊢
      rw [List.flatMap_cons, List.flatMap_cons, List.append_assoc]
      exact List.Perm.append_left _ (flatMap_set h)

/-- 数の辞書の和。 -/
theorem sum_set {k : κ} {v : Nat} : ∀ {l : List (κ × Nat)},
    ((set k v l).map Prod.snd).sum + (get? k l).getD 0 = (l.map Prod.snd).sum + v
  | [] => by simp [set, get?]
  | (k', v') :: l => by
    rw [set, get?]
    split
    · simp only [List.map_cons, List.sum_cons, Option.getD_some]
      omega
    · have ih := sum_set (k := k) (v := v) (l := l)
      simp only [List.map_cons, List.sum_cons]
      omega

/-- key の値と、ほかの key の対。 -/
theorem perm_cons_of_get? {k : κ} {v : α} {l : List (κ × α)} (hnodup : (l.map Prod.fst).Nodup)
    (h : get? k l = some v) : l.Perm ((k, v) :: l.filter fun e => decide (e.1 ≠ k)) := by
  obtain ⟨before, after, rfl⟩ := List.append_of_mem (mem_of_get? h)
  have hother : ∀ e ∈ before ++ after, decide (e.1 ≠ k) = true := by
    intro e he
    rw [(List.perm_middle.map Prod.fst).nodup_iff, List.map_cons, List.nodup_cons] at hnodup
    exact decide_eq_true fun hk => hnodup.1 (List.mem_map.mpr ⟨e, he, hk⟩)
  have hfilter : (before ++ (k, v) :: after).filter (fun e => decide (e.1 ≠ k)) =
      before ++ after := by
    rw [List.filter_append, List.filter_cons_of_neg (by simp), ← List.filter_append]
    exact List.filter_eq_self.mpr hother
  rw [hfilter]
  exact List.perm_middle

end DictList

/-- 挿入順を保つ辞書。key は重複しない。 -/
structure Dict (κ α : Type) where
  entries : List (κ × α)
  nodup : (entries.map Prod.fst).Nodup

namespace Dict

instance [DecidableEq α] : DecidableEq (Dict κ α) := fun a b =>
  decidable_of_iff (a.entries = b.entries) ⟨fun h => by cases a; cases b; cases h; rfl,
    fun h => h ▸ rfl⟩

omit [DecidableEq κ] in
@[ext] theorem ext {d d' : Dict κ α} (h : d.entries = d'.entries) : d = d' := by
  cases d; cases d'; cases h; rfl

/-- 空の辞書 `{}`。 -/
def empty : Dict κ α := ⟨[], List.nodup_nil⟩

/-- `d.get(k)`。 -/
def get? (d : Dict κ α) (k : κ) : Option α := DictList.get? k d.entries

/-- `d[k] = v`。 -/
def set (d : Dict κ α) (k : κ) (v : α) : Dict κ α :=
  ⟨DictList.set k v d.entries, DictList.nodup_set d.nodup⟩

/-- `d[k] = d.get(k, 0) + 1`。 -/
def bump (d : Dict κ Nat) (k : κ) : Dict κ Nat := d.set k ((d.get? k).getD 0 + 1)

/-- 条件に合う対だけを残す。 -/
def filter (d : Dict κ α) (p : κ → α → Bool) : Dict κ α :=
  ⟨d.entries.filter (fun e => p e.1 e.2), by
    exact (List.filter_sublist.map _).nodup d.nodup⟩

/-- どの値にも `f` を適用する。 -/
def mapValues (d : Dict κ α) (f : α → α) : Dict κ α :=
  ⟨d.entries.map fun e => (e.1, f e.2), by
    rw [List.map_map]
    exact d.nodup⟩

/-- `d.pop(k, None)`。 -/
def erase (d : Dict κ α) (k : κ) : Dict κ α := d.filter (fun k' _ => decide (k' ≠ k))

/-- 挿入順の値。 -/
def values (d : Dict κ α) : List α := d.entries.map Prod.snd

/-- `len(d)`。 -/
def size (d : Dict κ α) : Nat := d.entries.length

@[simp] theorem get?_empty (k : κ) : (empty : Dict κ α).get? k = none := rfl

omit [DecidableEq κ] in
@[simp] theorem entries_empty : (empty : Dict κ α).entries = [] := rfl

theorem get?_set (d : Dict κ α) (k : κ) (v : α) (k₂ : κ) :
    (d.set k v).get? k₂ = if k = k₂ then some v else d.get? k₂ := DictList.get?_set k v k₂ _

@[simp] theorem get?_set_self (d : Dict κ α) (k : κ) (v : α) : (d.set k v).get? k = some v := by
  rw [get?_set, if_pos rfl]

theorem get?_set_of_ne (d : Dict κ α) {k k₂ : κ} (v : α) (h : k ≠ k₂) :
    (d.set k v).get? k₂ = d.get? k₂ := by rw [get?_set, if_neg h]

/-- 性質 `p` を持たない値を、持たない値に書き換えても、`p` を持つ値は変わらない。 -/
theorem get?_set_iff {d : Dict κ α} {p : α → Prop} {k : κ} {v : α}
    (hold : ∀ w, d.get? k = some w → ¬p w) (hnew : ¬p v) {k₂ : κ} {w : α} (hw : p w) :
    (d.set k v).get? k₂ = some w ↔ d.get? k₂ = some w := by
  rw [get?_set]
  split
  · next heq =>
    refine iff_of_false (fun h => ?_) fun h => hold w (heq ▸ h) hw
    exact hnew (Option.some.inj h ▸ hw)
  · rfl

/-- key ごとに `f` の値を置く。 -/
def ofKeys (f : κ → α) (keys : List κ) : Dict κ α :=
  keys.foldl (fun d k => d.set k (f k)) empty

theorem get?_ofKeys (f : κ → α) (keys : List κ) (k : κ) :
    (ofKeys f keys).get? k = if k ∈ keys then some (f k) else none := by
  have hfold : ∀ (keys : List κ) (d : Dict κ α),
      (keys.foldl (fun d k => d.set k (f k)) d).get? k =
        if k ∈ keys then some (f k) else d.get? k := by
    intro keys
    induction keys with
    | nil => exact fun d => (if_neg List.not_mem_nil).symm
    | cons k' keys ih =>
      intro d
      rw [List.foldl_cons, ih, get?_set]
      by_cases hmem : k ∈ keys
      · rw [if_pos hmem, if_pos (List.mem_cons_of_mem _ hmem)]
      · rw [if_neg hmem]
        by_cases heq : k' = k
        · rw [if_pos heq, if_pos (heq ▸ List.mem_cons_self), heq]
        · rw [if_neg heq, if_neg]
          rintro (_ | ⟨_, h⟩)
          · exact heq rfl
          · exact hmem h
  exact hfold keys empty

theorem size_ne_zero_of_get? {d : Dict κ α} {k : κ} {v : α} (h : d.get? k = some v) :
    d.size ≠ 0 := by
  intro hzero
  have hnil := List.length_eq_zero_iff.mp hzero
  simp [get?, hnil, DictList.get?] at h

theorem mem_entries_iff (d : Dict κ α) (k : κ) (v : α) : (k, v) ∈ d.entries ↔ d.get? k = some v :=
  ⟨DictList.get?_of_mem d.nodup, DictList.mem_of_get?⟩

theorem get?_eq_none_iff (d : Dict κ α) (k : κ) :
    d.get? k = none ↔ k ∉ d.entries.map Prod.fst := DictList.get?_eq_none_iff

/-- 他の key を持たない dict は、その一つだけの列である。 -/
theorem entries_eq_singleton {d : Dict κ α} {k : κ} {v : α} (hk : d.get? k = some v)
    (hother : ∀ k', k' ≠ k → d.get? k' = none) : d.entries = [(k, v)] := by
  have hall : ∀ e ∈ d.entries, e = (k, v) := by
    rintro ⟨k', v'⟩ he
    have hget := (mem_entries_iff d k' v').mp he
    by_cases hsame : k' = k
    · rw [hsame, hk, Option.some.injEq] at hget
      rw [hsame, hget]
    · rw [hother k' hsame] at hget
      cases hget
  have hmem := (mem_entries_iff d k v).mpr hk
  have hnodup := d.nodup
  cases hentries : d.entries with
  | nil =>
    rw [hentries] at hmem
    cases hmem
  | cons e rest =>
    rw [hentries] at hall hnodup
    obtain ⟨he, hrest⟩ := List.forall_mem_cons.mp hall
    cases rest with
    | nil => rw [he]
    | cons e' rest =>
      -- 二つ目の要素も同じ key を持つ
      rw [he, (List.forall_mem_cons.mp hrest).1] at hnodup
      simp at hnodup

theorem get?_filter (d : Dict κ α) (p : κ → α → Bool) (k : κ) :
    (d.filter p).get? k = (d.get? k).filter (p k) := by
  cases hg : d.get? k with
  | none =>
    rw [get?_eq_none_iff] at hg
    rw [Option.filter_none, get?_eq_none_iff]
    intro hm
    obtain ⟨e, he, hk⟩ := List.mem_map.mp hm
    exact hg (List.mem_map.mpr ⟨e, (List.mem_filter.mp he).1, hk⟩)
  | some v =>
    have hm := (mem_entries_iff d k v).mpr hg
    by_cases hp : p k v = true
    · rw [Option.filter_some_pos hp, ← mem_entries_iff]
      exact List.mem_filter.mpr ⟨hm, hp⟩
    · rw [Option.filter_some_neg (by simpa using hp), get?_eq_none_iff]
      intro hk
      obtain ⟨e, he, hek⟩ := List.mem_map.mp hk
      obtain ⟨hem, hep⟩ := List.mem_filter.mp he
      have hev : d.get? k = some e.2 := (mem_entries_iff d k e.2).mp (hek ▸ hem)
      rw [hg, Option.some.injEq] at hev
      rw [hev, ← hek] at hp
      exact hp hep

theorem get?_mapValues (d : Dict κ α) (f : α → α) (k : κ) :
    (d.mapValues f).get? k = (d.get? k).map f := by
  cases hg : d.get? k with
  | none =>
    rw [get?_eq_none_iff] at hg
    rw [Option.map_none, get?_eq_none_iff]
    intro hk
    obtain ⟨e', he', hek'⟩ := List.mem_map.mp hk
    obtain ⟨e, he, rfl⟩ := List.mem_map.mp he'
    exact hg (List.mem_map.mpr ⟨e, he, hek'⟩)
  | some v =>
    rw [Option.map_some, ← mem_entries_iff]
    exact List.mem_map.mpr ⟨(k, v), (mem_entries_iff d k v).mpr hg, rfl⟩

theorem filterMap_key {β : Type} (d : Dict κ α) (k : κ) (f : α → Option β) :
    d.entries.filterMap (fun e => if e.1 = k then f e.2 else none) = ((d.get? k).bind f).toList :=
  DictList.filterMap_key d.nodup

theorem filter_set_of_true {d : Dict κ α} {p : κ → α → Bool} {k : κ} {v : α} (hv : p k v = true)
    (h : ∀ w, d.get? k = some w → p k w = true) :
    (d.set k v).filter p = (d.filter p).set k v :=
  ext (DictList.filter_set_of_true hv h)

theorem filter_set_of_false {d : Dict κ α} {p : κ → α → Bool} {k : κ} {v : α} (hv : p k v = false)
    (h : ∀ w, d.get? k = some w → p k w = false) : (d.set k v).filter p = d.filter p :=
  ext (DictList.filter_set_of_false hv h)

omit [DecidableEq κ] in
theorem filter_comm (d : Dict κ α) (p q : κ → α → Bool) :
    (d.filter p).filter q = (d.filter q).filter p := by
  refine ext ?_
  show (d.entries.filter _).filter _ = (d.entries.filter _).filter _
  rw [List.filter_filter, List.filter_filter]
  exact List.filter_congr fun e _ => Bool.and_comm _ _

omit [DecidableEq κ] in
/-- 値だけの条件で残した辞書の値は、値の列から残したものである。 -/
theorem values_filter (d : Dict κ α) (p : α → Bool) :
    (d.filter fun _ v => p v).values = d.values.filter p := by
  unfold values filter
  rw [List.filter_map]
  rfl

/-- key の少ない辞書は小さい。 -/
theorem size_le_of_get? {α' : Type} {d : Dict κ α} {d' : Dict κ α'}
    (h : ∀ k, d'.get? k = none → d.get? k = none) : d.size ≤ d'.size := by
  have hsub : d.entries.map Prod.fst ⊆ d'.entries.map Prod.fst := by
    intro k hk
    by_contra hne
    exact (get?_eq_none_iff d k).mp (h k ((get?_eq_none_iff d' k).mpr hne)) hk
  have hle := (List.subperm_of_subset d.nodup hsub).length_le
  rwa [List.length_map, List.length_map] at hle

theorem get?_erase (d : Dict κ α) (k k₂ : κ) :
    (d.erase k).get? k₂ = if k₂ = k then none else d.get? k₂ := by
  rw [erase, get?_filter]
  by_cases h : k₂ = k
  · cases d.get? k₂ <;> simp [h]
  · cases d.get? k₂ <;> simp [h]

@[simp] theorem get?_erase_self (d : Dict κ α) (k : κ) : (d.erase k).get? k = none := by
  rw [get?_erase, if_pos rfl]

theorem get?_erase_of_ne (d : Dict κ α) {k k₂ : κ} (h : k₂ ≠ k) :
    (d.erase k).get? k₂ = d.get? k₂ := by rw [get?_erase, if_neg h]

/-- ある key を消すと辞書は小さくなる。 -/
theorem size_erase_lt {d : Dict κ α} {k : κ} {v : α} (h : d.get? k = some v) :
    (d.erase k).size < d.size := by
  have hm := (mem_entries_iff d k v).mpr h
  refine Nat.lt_of_le_of_ne (List.length_filter_le _ _) ?_
  intro he
  have hall := List.length_filter_eq_length_iff.mp he (k, v) hm
  simp at hall

/-- 列の key をすべて消す。 -/
def eraseAll (d : Dict κ α) (keys : List κ) : Dict κ α := keys.foldl erase d

theorem get?_eraseAll (k : κ) : ∀ (keys : List κ) (d : Dict κ α),
    (d.eraseAll keys).get? k = if k ∈ keys then none else d.get? k
  | [], _ => (if_neg List.not_mem_nil).symm
  | k' :: keys, d => by
    have ih := get?_eraseAll k keys (d.erase k')
    rw [show d.eraseAll (k' :: keys) = (d.erase k').eraseAll keys from rfl, ih, get?_erase]
    by_cases hk : k = k'
    · simp [hk]
    · simp [hk]

/-- 持っている key を一つでも消すと、辞書は小さくなる。 -/
theorem size_eraseAll_lt {d : Dict κ α} {keys : List κ} {k : κ} {v : α} (hk : k ∈ keys)
    (h : d.get? k = some v) : (d.eraseAll keys).size < d.size := by
  refine Nat.lt_of_le_of_lt ?_ (size_erase_lt h)
  refine size_le_of_get? fun k₂ hnone => ?_
  rw [get?_erase] at hnone
  rw [get?_eraseAll]
  split at hnone
  · next heq => rw [if_pos (heq ▸ hk)]
  · rw [hnone, ite_self]

theorem mem_values_iff (d : Dict κ α) (v : α) : v ∈ d.values ↔ ∃ k, d.get? k = some v := by
  constructor
  · intro h
    obtain ⟨e, he, rfl⟩ := List.mem_map.mp h
    exact ⟨e.1, (mem_entries_iff d e.1 e.2).mp he⟩
  · rintro ⟨k, hk⟩
    exact List.mem_map.mpr ⟨(k, v), (mem_entries_iff d k v).mpr hk, rfl⟩

/-- 値の一つを置き換えた後の、値から作る列。 -/
theorem flatMap_values_set {β : Type} {g : α → List β} {d : Dict κ α} {k : κ} {v : α} {x : List β}
    (h : g v = ((d.get? k).map g).getD [] ++ x) :
    ((d.set k v).values.flatMap g).Perm (d.values.flatMap g ++ x) := by
  unfold values
  rw [List.flatMap_map, List.flatMap_map]
  exact DictList.flatMap_set h

omit [DecidableEq κ] in
/-- 値の列は、条件で二つに分かれる。 -/
theorem values_filter_append_perm (d : Dict κ α) (p : α → Bool) :
    ((d.filter fun _ v => p v).values ++ (d.filter fun _ v => !p v).values).Perm d.values := by
  unfold values
  rw [← List.map_append]
  exact (List.filter_append_perm (fun e : κ × α => p e.2) d.entries).map Prod.snd

/-- 数えれば、数の和が一つ増える。 -/
theorem sum_values_bump (d : Dict κ Nat) (k : κ) :
    (d.bump k).values.sum = d.values.sum + 1 := by
  have h := DictList.sum_set (k := k) (v := (d.get? k).getD 0 + 1) (l := d.entries)
  have hsum : (d.bump k).values.sum + (d.get? k).getD 0 = d.values.sum + ((d.get? k).getD 0 + 1) := h
  omega

/-- 消した値を戻した列。 -/
theorem values_perm_cons_erase {d : Dict κ α} {k : κ} {v : α} (h : d.get? k = some v) :
    d.values.Perm (v :: (d.erase k).values) :=
  (DictList.perm_cons_of_get? d.nodup h).map Prod.snd

/-- 異なる key の値の間の関係は、値の列に沿って成り立つ。 -/
theorem pairwise_values {R : α → α → Prop} {d : Dict κ α}
    (h : ∀ k k' v v', d.get? k = some v → d.get? k' = some v' → k ≠ k' → R v v') :
    d.values.Pairwise R := by
  refine List.pairwise_map.mpr ((List.pairwise_map.mp d.nodup).imp_of_mem ?_)
  intro e e' he he' hne
  exact h e.1 e'.1 e.2 e'.2 ((mem_entries_iff d _ _).mp he) ((mem_entries_iff d _ _).mp he') hne

theorem size_set (d : Dict κ α) (k : κ) (v : α) :
    (d.set k v).size = if (d.get? k).isSome then d.size else d.size + 1 :=
  DictList.length_set k v d.entries

end Dict

end CipherPost
