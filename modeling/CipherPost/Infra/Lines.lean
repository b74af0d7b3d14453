import Mathlib.Algebra.GroupWithZero.Nat
import Mathlib.Data.List.Basic

/-!
# 行への分割

`f.readlines()`。どの行も、終わりの改行を含んだまま返る。file の終わりに改行が無ければ、残りが最後の行に
なる。文字の型は問わず、改行は述語 `nl` で与える。

* `readlines` — 分割
* `IsLine` — 改行で終わり、他に改行のない列
* `readlines_flatten` — 行を並べた列は、その行に戻る
* `readlines_drop` — 先頭の行を捨てて書き直した列は、残りの行に戻る
* `splitOn_intercalate_strings` — 区切りで並べた文字列は、その文字列に戻る
-/

namespace CipherPost

variable {β : Type} (nl : β → Bool)

/-- 改行の後で区切る。 -/
def readlines : List β → List (List β)
  | [] => []
  | c :: rest =>
    if nl c then [c] :: readlines rest
    else
      match readlines rest with
      | [] => [[c]]
      | l :: ls => (c :: l) :: ls

/-- 改行で終わる一行。 -/
def IsLine (l : List β) : Prop := ∃ body c, l = body ++ [c] ∧ nl c = true ∧ ∀ x ∈ body, nl x = false

variable {nl}

theorem readlines_cons_nl {c : β} (h : nl c = true) (rest : List β) :
    readlines nl (c :: rest) = [c] :: readlines nl rest := by
  rw [readlines, if_pos h]

theorem readlines_cons_of_eq_nil {c : β} (h : nl c = false) {rest : List β}
    (hr : readlines nl rest = []) : readlines nl (c :: rest) = [[c]] := by
  rw [readlines, if_neg (by simp [h]), hr]

theorem readlines_cons_of_eq_cons {c : β} (h : nl c = false) {rest l : List β} {ls : List (List β)}
    (hr : readlines nl rest = l :: ls) : readlines nl (c :: rest) = (c :: l) :: ls := by
  rw [readlines, if_neg (by simp [h]), hr]

/-- 行を並べると元の列になる。 -/
theorem flatten_readlines : ∀ b : List β, (readlines nl b).flatten = b := by
  intro b
  induction b with
  | nil => rfl
  | cons c rest ih =>
    cases hc : nl c with
    | true => rw [readlines_cons_nl hc, List.flatten_cons, ih, List.singleton_append]
    | false =>
      cases hr : readlines nl rest with
      | nil =>
        rw [hr] at ih
        rw [readlines_cons_of_eq_nil hc hr, ← ih]
        rfl
      | cons l ls =>
        rw [hr, List.flatten_cons] at ih
        rw [readlines_cons_of_eq_cons hc hr, List.flatten_cons, List.cons_append, ih]

/-- 先頭の一行は、そのまま一つの行になる。 -/
theorem readlines_append_line {l : List β} (h : IsLine nl l) (rest : List β) :
    readlines nl (l ++ rest) = l :: readlines nl rest := by
  obtain ⟨body, c, rfl, hc, hb⟩ := h
  induction body with
  | nil => exact readlines_cons_nl hc rest
  | cons x body ih =>
    have hx := hb x List.mem_cons_self
    have hr := ih fun y hy => hb y (List.mem_cons_of_mem _ hy)
    exact readlines_cons_of_eq_cons hx hr

/-- 行を並べた列は、その行に戻る。 -/
theorem readlines_flatten : ∀ {ls : List (List β)}, (∀ l ∈ ls, IsLine nl l) → ∀ t : List β,
    readlines nl (ls.flatten ++ t) = ls ++ readlines nl t := by
  intro ls
  induction ls with
  | nil => exact fun _ _ => rfl
  | cons l ls ih =>
    intro h t
    rw [List.flatten_cons, List.append_assoc, readlines_append_line (h l List.mem_cons_self),
      ih fun x hx => h x (List.mem_cons_of_mem _ hx)]
    rfl

theorem readlines_tail : ∀ (b : List β) {l : List β} {ls : List (List β)},
    readlines nl b = l :: ls → readlines nl ls.flatten = ls := by
  intro b
  induction b with
  | nil => exact fun h => by cases h
  | cons c rest ih =>
    intro l ls h
    cases hc : nl c with
    | true =>
      rw [readlines_cons_nl hc] at h
      obtain ⟨-, rfl⟩ := List.cons.inj h
      rw [flatten_readlines]
    | false =>
      cases hr : readlines nl rest with
      | nil =>
        rw [readlines_cons_of_eq_nil hc hr] at h
        obtain ⟨-, rfl⟩ := List.cons.inj h
        rfl
      | cons l' ls' =>
        rw [readlines_cons_of_eq_cons hc hr] at h
        obtain ⟨-, rfl⟩ := List.cons.inj h
        exact ih hr

/-- 先頭の行を捨てて書き直した列は、残りの行に戻る。 -/
theorem readlines_drop (b : List β) (n : Nat) :
    readlines nl ((readlines nl b).drop n).flatten = (readlines nl b).drop n := by
  induction n generalizing b with
  | zero => rw [List.drop_zero, flatten_readlines]
  | succ n ih =>
    cases hb : readlines nl b with
    | nil => rfl
    | cons l ls =>
      have hls := readlines_tail b hb
      rw [List.drop_succ_cons, ← hls]
      exact ih ls.flatten

/-- 改行で終わる列の行は、どれも改行で終わる。 -/
theorem isLine_readlines : ∀ {b : List β}, (∀ c ∈ b.getLast?, nl c = true) →
    ∀ l ∈ readlines nl b, IsLine nl l := by
  intro b
  induction b with
  | nil => exact fun _ _ h => absurd h List.not_mem_nil
  | cons c rest ih =>
    intro hlast
    have hrest : ∀ x ∈ rest.getLast?, nl x = true := by
      intro x hx
      refine hlast x ?_
      rw [List.getLast?_cons, Option.mem_def.mp hx]
      rfl
    cases hc : nl c with
    | true =>
      rw [readlines_cons_nl hc]
      intro l hl
      rcases List.mem_cons.mp hl with rfl | hl
      · exact ⟨[], c, rfl, hc, fun x hx => absurd hx List.not_mem_nil⟩
      · exact ih hrest l hl
    | false =>
      cases hr : readlines nl rest with
      | nil =>
        -- `c` が最後の文字なら、改行でなければならない
        have hnil : rest = [] := by rw [← flatten_readlines rest, hr]; rfl
        rw [hnil] at hlast
        have := hlast c rfl
        rw [hc] at this
        cases this
      | cons l ls =>
        have hl := ih hrest
        rw [hr] at hl
        rw [readlines_cons_of_eq_cons hc hr]
        intro l' hl'
        rcases List.mem_cons.mp hl' with rfl | hl'
        · obtain ⟨body, x, rfl, hx, hb⟩ := hl l List.mem_cons_self
          refine ⟨c :: body, x, rfl, hx, fun y hy => ?_⟩
          rcases List.mem_cons.mp hy with rfl | hy
          · exact hc
          · exact hb y hy
        · exact hl l' (List.mem_cons_of_mem _ hl')

/-- 改行で終わる列に一行を加える。 -/
theorem readlines_append {b l : List β} (hb : ∀ c ∈ b.getLast?, nl c = true) (hl : IsLine nl l) :
    readlines nl (b ++ l) = readlines nl b ++ [l] := by
  have h := readlines_flatten (isLine_readlines hb) l
  have hone : readlines nl l = [l] := by
    have := readlines_append_line hl []
    rwa [List.append_nil] at this
  rwa [flatten_readlines, hone] at h

/-- 列の長さは、行の長さの和である。 -/
theorem sum_length_readlines (b : List β) : ((readlines nl b).map List.length).sum = b.length := by
  rw [← List.length_flatten, flatten_readlines]

/-! ## 文字列の並びの分割 -/

/-- 区切りの文字を含まない文字列を並べると、区切りでその文字列に戻る。 -/
theorem splitOn_intercalate_strings {c : Char} {sep : String} (hsep : sep.toList = [c])
    {l : List String} (hl : ∀ s ∈ l, c ∉ s.toList) (hne : l ≠ []) :
    (sep.intercalate l).toList.splitOn c = l.map String.toList := by
  rw [String.toList_intercalate, hsep]
  refine List.splitOn_intercalate c ?_ (by simpa using hne)
  intro cs hcs
  obtain ⟨s, hs, rfl⟩ := List.mem_map.mp hcs
  exact hl s hs

end CipherPost
