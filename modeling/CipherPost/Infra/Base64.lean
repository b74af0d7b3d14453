import Mathlib.Data.List.Basic

/-!
# base64

標準 library の `base64.b64encode` と `base64.b64decode`（`validate=False`）。

* `Base64.encode` — 3 bytes ごとに 4 文字、余りは `=` で埋める
* `Base64.decode` — alphabet にない文字は読み飛ばし、足りない padding は誤りとする
* `decode_encode` — 往復
-/

namespace CipherPost.Base64

/-- 6 bit の値の文字。 -/
def digit (n : Nat) : Char :=
  Char.ofNat
    (if n < 26 then 65 + n else if n < 52 then 71 + n else if n < 62 then n - 4
     else if n = 62 then 43 else 47)

/-- 文字の値。alphabet になければ無い。 -/
def value? (c : Char) : Option Nat :=
  let n := c.toNat
  if 65 ≤ n ∧ n ≤ 90 then some (n - 65)
  else if 97 ≤ n ∧ n ≤ 122 then some (n - 71)
  else if 48 ≤ n ∧ n ≤ 57 then some (n + 4)
  else if n = 43 then some 62
  else if n = 47 then some 63
  else none

/-- `b64encode`。 -/
def encode : List UInt8 → List Char
  | [] => []
  | [a] => [digit (a.toNat / 4), digit (a.toNat % 4 * 16), '=', '=']
  | [a, b] =>
    [digit (a.toNat / 4), digit (a.toNat % 4 * 16 + b.toNat / 16), digit (b.toNat % 16 * 4), '=']
  | a :: b :: c :: rest =>
    digit (a.toNat / 4) :: digit (a.toNat % 4 * 16 + b.toNat / 16)
      :: digit (b.toNat % 16 * 4 + c.toNat / 64) :: digit (c.toNat % 64) :: encode rest

/--
`a2b_base64` の loop。`quad` は 4 文字の組の中の位置、`left` はまだ出していない bit、`pads` は続いている
`=` の数である。
-/
def decodeFrom : Nat → Nat → Nat → List Char → Option (List UInt8)
  | quad, _, _, [] => if quad = 0 then some [] else none
  | quad, left, pads, c :: rest =>
    if c = '=' then
      -- 組が padding で埋まれば、そこで読み終える
      if 2 ≤ quad ∧ 4 ≤ quad + (pads + 1) then some []
      else decodeFrom quad left (if 2 ≤ quad then pads + 1 else pads) rest
    else
      match value? c with
      | none => decodeFrom quad left pads rest
      | some v =>
        match quad with
        | 0 => decodeFrom 1 v 0 rest
        | 1 => (decodeFrom 2 (v % 16) 0 rest).map (UInt8.ofNat (left * 4 + v / 16) :: ·)
        | 2 => (decodeFrom 3 (v % 4) 0 rest).map (UInt8.ofNat (left * 16 + v / 4) :: ·)
        | _ => (decodeFrom 0 0 0 rest).map (UInt8.ofNat (left * 64 + v) :: ·)

/-- `b64decode`。ASCII でない文字列は拒む。 -/
def decode (s : List Char) : Option (List UInt8) :=
  if s.any (fun c => decide (128 ≤ c.toNat)) then none else decodeFrom 0 0 0 s

/-! ## 往復 -/

theorem digit_spec : ∀ n : Fin 64,
    value? (digit n) = some n.val ∧ digit n ≠ '=' ∧ (digit n).toNat < 128 := by decide

theorem value?_digit {n : Nat} (h : n < 64) : value? (digit n) = some n := (digit_spec ⟨n, h⟩).1

theorem digit_ne_pad {n : Nat} (h : n < 64) : digit n ≠ '=' := (digit_spec ⟨n, h⟩).2.1

theorem digit_ascii {n : Nat} (h : n < 64) : (digit n).toNat < 128 := (digit_spec ⟨n, h⟩).2.2

section Step

variable {v : Nat} (h : v < 64) (left pads : Nat) (rest : List Char)
include h

/-- alphabet の文字を一つ読む。 -/
theorem decodeFrom_digit (quad : Nat) : decodeFrom quad left pads (digit v :: rest) =
    match quad with
    | 0 => decodeFrom 1 v 0 rest
    | 1 => (decodeFrom 2 (v % 16) 0 rest).map (UInt8.ofNat (left * 4 + v / 16) :: ·)
    | 2 => (decodeFrom 3 (v % 4) 0 rest).map (UInt8.ofNat (left * 16 + v / 4) :: ·)
    | _ => (decodeFrom 0 0 0 rest).map (UInt8.ofNat (left * 64 + v) :: ·) := by
  rw [decodeFrom, if_neg (digit_ne_pad h), value?_digit h]

theorem decodeFrom_zero :
    decodeFrom 0 left pads (digit v :: rest) = decodeFrom 1 v 0 rest :=
  decodeFrom_digit h left pads rest 0

theorem decodeFrom_one : decodeFrom 1 left pads (digit v :: rest)
    = (decodeFrom 2 (v % 16) 0 rest).map (UInt8.ofNat (left * 4 + v / 16) :: ·) :=
  decodeFrom_digit h left pads rest 1

theorem decodeFrom_two : decodeFrom 2 left pads (digit v :: rest)
    = (decodeFrom 3 (v % 4) 0 rest).map (UInt8.ofNat (left * 16 + v / 4) :: ·) :=
  decodeFrom_digit h left pads rest 2

theorem decodeFrom_three : decodeFrom 3 left pads (digit v :: rest)
    = (decodeFrom 0 0 0 rest).map (UInt8.ofNat (left * 64 + v) :: ·) :=
  decodeFrom_digit h left pads rest 3

end Step

theorem ofNat_eq {b : UInt8} {n : Nat} (h : n = b.toNat) : UInt8.ofNat n = b := by
  rw [h, UInt8.ofNat_toNat]

/-- 組の区切りから始めれば、書いた bytes が読める。 -/
theorem decodeFrom_encode : ∀ bs : List UInt8, decodeFrom 0 0 0 (encode bs) = some bs
  | [] => rfl
  | [a] => by
    have ha := UInt8.toNat_lt a
    rw [encode, decodeFrom_zero (by omega), decodeFrom_one (by omega),
      ofNat_eq (b := a) (by omega)]
    rfl
  | [a, b] => by
    have ha := UInt8.toNat_lt a
    have hb := UInt8.toNat_lt b
    rw [encode, decodeFrom_zero (by omega), decodeFrom_one (by omega), decodeFrom_two (by omega),
      ofNat_eq (b := a) (by omega), ofNat_eq (b := b) (by omega)]
    rfl
  | a :: b :: c :: rest => by
    have ha := UInt8.toNat_lt a
    have hb := UInt8.toNat_lt b
    have hc := UInt8.toNat_lt c
    rw [encode, decodeFrom_zero (by omega), decodeFrom_one (by omega), decodeFrom_two (by omega),
      decodeFrom_three (by omega), decodeFrom_encode rest, ofNat_eq (b := a) (by omega),
      ofNat_eq (b := b) (by omega), ofNat_eq (b := c) (by omega)]
    rfl

/-- 書かれる文字は、alphabet の文字か padding である。 -/
theorem mem_encode : ∀ {bs : List UInt8} {c : Char}, c ∈ encode bs →
    c = '=' ∨ ∃ n, n < 64 ∧ c = digit n
  | [], _, h => absurd h List.not_mem_nil
  | [a], c, h => by
    have ha := UInt8.toNat_lt a
    simp only [encode, List.mem_cons, List.not_mem_nil, or_false] at h
    rcases h with rfl | rfl | rfl | rfl
    · exact .inr ⟨_, by omega, rfl⟩
    · exact .inr ⟨_, by omega, rfl⟩
    · exact .inl rfl
    · exact .inl rfl
  | [a, b], c, h => by
    have ha := UInt8.toNat_lt a
    have hb := UInt8.toNat_lt b
    simp only [encode, List.mem_cons, List.not_mem_nil, or_false] at h
    rcases h with rfl | rfl | rfl | rfl
    · exact .inr ⟨_, by omega, rfl⟩
    · exact .inr ⟨_, by omega, rfl⟩
    · exact .inr ⟨_, by omega, rfl⟩
    · exact .inl rfl
  | a :: b :: c :: rest, x, h => by
    have ha := UInt8.toNat_lt a
    have hb := UInt8.toNat_lt b
    have hc := UInt8.toNat_lt c
    rw [encode] at h
    simp only [List.mem_cons] at h
    rcases h with rfl | rfl | rfl | rfl | h
    · exact .inr ⟨_, by omega, rfl⟩
    · exact .inr ⟨_, by omega, rfl⟩
    · exact .inr ⟨_, by omega, rfl⟩
    · exact .inr ⟨_, by omega, rfl⟩
    · exact mem_encode h

theorem encode_ascii (bs : List UInt8) (c : Char) (h : c ∈ encode bs) : c.toNat < 128 := by
  rcases mem_encode h with rfl | ⟨n, hn, rfl⟩
  · decide
  · exact digit_ascii hn

/-- **往復。** -/
theorem decode_encode (bs : List UInt8) : decode (encode bs) = some bs := by
  have h : (encode bs).any (fun c => decide (128 ≤ c.toNat)) = false := by
    rw [List.any_eq_false]
    intro c hc
    have hlt := encode_ascii bs c hc
    simpa using hlt
  rw [decode, h, if_neg (by simp), decodeFrom_encode]

end CipherPost.Base64
