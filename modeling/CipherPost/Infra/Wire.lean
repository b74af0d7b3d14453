import Mathlib.Algebra.GroupWithZero.Nat
import Mathlib.Data.List.Infix

/-!
# big-endian の整数と、長さの付いた列

network の形式の部品。bytes の意味（record や handshake）のことは知らない。

* `Wire.value`・`Wire.be` — `k` byte の big-endian の整数の読み書き
* `Wire.vec` — `k` byte の長さの付いた列
* `At` — 列の位置 `pos` から先が `rest` であること。位置を進める読み方の、一歩ごとの補題
-/

namespace CipherPost

/-! ## 整数 -/

namespace Wire

/-- big-endian の値。 -/
def value (b : List UInt8) : Nat := b.foldl (fun n x => n * 256 + x.toNat) 0

/-- `k` byte の big-endian。 -/
def be : Nat → Nat → List UInt8
  | 0, _ => []
  | k + 1, n => be k (n / 256) ++ [UInt8.ofNat n]

/-- `k` byte の長さの付いた列。 -/
def vec (k : Nat) (b : List UInt8) : List UInt8 := be k b.length ++ b

@[simp] theorem length_be (k : Nat) : ∀ n, (be k n).length = k := by
  induction k with
  | zero => exact fun _ => rfl
  | succ k ih =>
    intro n
    rw [be, List.length_append, ih]
    rfl

@[simp] theorem length_vec (k : Nat) (b : List UInt8) : (vec k b).length = k + b.length := by
  rw [vec, List.length_append, length_be]

@[simp] theorem value_nil : value [] = 0 := rfl

theorem value_append_singleton (b : List UInt8) (x : UInt8) :
    value (b ++ [x]) = value b * 256 + x.toNat := by
  rw [value, List.foldl_append]
  rfl

/-- 書いた整数を読むと、`k` byte に収まる部分が戻る。 -/
theorem value_be (k : Nat) : ∀ n, value (be k n) = n % 256 ^ k := by
  induction k with
  | zero => exact fun n => (Nat.mod_one n).symm
  | succ k ih =>
    intro n
    have hpow : 256 ^ (k + 1) = 256 * 256 ^ k := Nat.pow_succ'
    have hlow : (UInt8.ofNat n).toNat = n % 256 := UInt8.toNat_ofNat'
    rw [be, value_append_singleton, ih, hlow, hpow, Nat.mod_mul]
    omega

/-- 収まる整数は、書いて読むと戻る。 -/
theorem value_be_of_lt {k n : Nat} (h : n < 256 ^ k) : value (be k n) = n := by
  rw [value_be, Nat.mod_eq_of_lt h]

theorem value_lt (b : List UInt8) : value b < 256 ^ b.length := by
  induction b using List.reverseRecOn with
  | nil => exact Nat.one_pos
  | append_singleton b x ih =>
    have hx : x.toNat < 256 := x.toNat_lt
    rw [value_append_singleton, List.length_append, List.length_singleton, Nat.pow_succ]
    omega

/-- 読んだ整数は、同じ長さで書くと戻る。 -/
theorem be_value (b : List UInt8) : be b.length (value b) = b := by
  induction b using List.reverseRecOn with
  | nil => rfl
  | append_singleton b x ih =>
    have hx : x.toNat < 256 := x.toNat_lt
    have hhigh : (value b * 256 + x.toNat) / 256 = value b := by omega
    have hlow : UInt8.ofNat (value b * 256 + x.toNat) = x := by
      rw [← UInt8.toNat_inj, UInt8.toNat_ofNat']
      omega
    rw [List.length_append, List.length_singleton, be, value_append_singleton, hhigh, ih, hlow]

/-- 長さの後に続く列が、その長さだけあれば、長さの付いた列である。 -/
theorem vec_of_value {k : Nat} {len b : List UInt8} (hk : len.length = k)
    (hlen : value len = b.length) : vec k b = len ++ b := by
  rw [vec, ← hlen, ← hk, be_value]

/-- 長さの付いた列は、続きがあっても一通りに読める。 -/
theorem vec_append_inj {k : Nat} {b b' x x' : List UInt8} (hb : b.length < 256 ^ k)
    (hb' : b'.length < 256 ^ k) (h : vec k b ++ x = vec k b' ++ x') : b = b' ∧ x = x' := by
  rw [vec, vec, List.append_assoc, List.append_assoc] at h
  obtain ⟨hlen, hrest⟩ := List.append_inj h (by rw [length_be, length_be])
  have hval := congrArg value hlen
  rw [value_be_of_lt hb, value_be_of_lt hb'] at hval
  exact List.append_inj hrest hval

end Wire

/-! ## 位置 -/

section
variable {α : Type}

/-- `buf` の位置 `pos` から先は `rest` である。 -/
structure At (buf : List α) (pos : Nat) (rest : List α) : Prop where
  drop : buf.drop pos = rest
  length : buf.length = pos + rest.length

namespace At

variable {buf x rest : List α} {pos n : Nat}

theorem start (buf : List α) : At buf 0 buf := ⟨List.drop_zero, (Nat.zero_add _).symm⟩

theorem append (pre rest : List α) : At (pre ++ rest) pre.length rest :=
  ⟨List.drop_left, List.length_append⟩

/-- 先頭の `n` 個を読む。 -/
theorem take (h : At buf pos (x ++ rest)) (hn : x.length = n) : (buf.drop pos).take n = x := by
  rw [h.drop, ← hn, List.take_left]

/-- 先頭の `n` 個の先へ進む。 -/
theorem skip (h : At buf pos (x ++ rest)) (hn : x.length = n) : At buf (pos + n) rest := by
  refine ⟨?_, ?_⟩
  · rw [← List.drop_drop, h.drop, ← hn, List.drop_left]
  · rw [h.length, List.length_append, hn, Nat.add_assoc]

/-- 一つを読む。 -/
theorem getElem? {a : α} (h : At buf pos (a :: rest)) : buf[pos]? = some a := by
  have hhead := congrArg List.head? h.drop
  rwa [List.head?_drop, List.head?_cons] at hhead

/-- 一つ進む。 -/
theorem tail {a : α} (h : At buf pos (a :: rest)) : At buf (pos + 1) rest :=
  skip (x := [a]) h rfl

theorem le (h : At buf pos rest) : pos ≤ buf.length := by rw [h.length]; omega

end At

end

end CipherPost
