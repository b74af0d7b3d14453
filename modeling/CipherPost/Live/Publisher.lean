import Mathlib.Algebra.Order.Group.Multiset
import Mathlib.Tactic.Abel

/-!
# 失敗に備えた publisher

`app/live/streams.py` の `ResilientPublisher`。送れなかったものを buffer に並べ、後で送り直す。buffer が
満ちていれば、最も古いものを捨てて数える。送るものの種類は問わない。

* `Publisher.publish`・`Publisher.flush` — 一つ送ることと、buffer を送り直すこと
* `Publisher.held` — 渡されたものの行き先の全体
* `held_publish`・`held_flush` — 渡されたものは、送られたか、buffer にあるか、捨てて数えられている
-/

namespace CipherPost.Live

/-- `ResilientPublisher` と、送り先の stream。 -/
structure Publisher (α : Type) where
  /-- `buf`。 -/
  buf : List α := []
  /-- stream に書かれたもの。 -/
  published : List α := []
  /-- 満ちた buffer から捨てたもの（記録のみ）。 -/
  discarded : List α := []
  /-- `dropped`。 -/
  dropped : Nat := 0
  deriving DecidableEq

namespace Publisher

variable {α : Type}

/-- `publish`。XADD が失敗すれば buffer に入れる。`none` は、空の buffer からの `popleft` の例外である。 -/
def publish (maxBuffer : Nat) (pub : Publisher α) (data : α) (ok : Bool) : Option (Publisher α) :=
  if ok then some { pub with published := pub.published ++ [data] }
  else if maxBuffer ≤ pub.buf.length then
    match pub.buf with
    | [] => none
    | oldest :: rest =>
      some { pub with
        buf := rest ++ [data]
        discarded := pub.discarded ++ [oldest]
        dropped := pub.dropped + 1 }
  else some { pub with buf := pub.buf ++ [data] }

/-- `flush`。先頭から順に、`n` 個まで送れる。 -/
def flush (pub : Publisher α) (n : Nat) : Publisher α :=
  { pub with
    published := pub.published ++ pub.buf.take n
    buf := pub.buf.drop n }

/-- 渡されたものの行き先の全体。 -/
def held (pub : Publisher α) : Multiset α := pub.published + pub.buf + pub.discarded

/-- buffer は上限の内にあり、捨てたものは数えられている。 -/
structure Sound (maxBuffer : Nat) (pub : Publisher α) : Prop where
  fits : pub.buf.length ≤ maxBuffer
  counted : pub.discarded.length = pub.dropped

theorem sound_empty (maxBuffer : Nat) : Sound maxBuffer ({} : Publisher α) := ⟨Nat.zero_le _, rfl⟩

variable {maxBuffer : Nat} {pub pub' : Publisher α} {data : α} {ok : Bool}

/-- `publish` の三つの道筋。 -/
theorem publish_cases (h : pub.publish maxBuffer data ok = some pub') :
    (ok = true ∧ pub' = { pub with published := pub.published ++ [data] }) ∨
    (ok = false ∧ maxBuffer ≤ pub.buf.length ∧ ∃ oldest rest, pub.buf = oldest :: rest ∧
      pub' = { pub with
        buf := rest ++ [data]
        discarded := pub.discarded ++ [oldest]
        dropped := pub.dropped + 1 }) ∨
    (ok = false ∧ pub.buf.length < maxBuffer ∧ pub' = { pub with buf := pub.buf ++ [data] }) := by
  unfold publish at h
  cases ok with
  | true => exact .inl ⟨rfl, (Option.some.inj h).symm⟩
  | false =>
    rw [if_neg Bool.false_ne_true] at h
    split at h
    · next hfull =>
      split at h
      · cases h
      · next oldest rest hbuf =>
        exact .inr (.inl ⟨rfl, hfull, oldest, rest, hbuf, (Option.some.inj h).symm⟩)
    · next hroom => exact .inr (.inr ⟨rfl, Nat.lt_of_not_le hroom, (Option.some.inj h).symm⟩)

/-- `publish` が例外になるのは、大きさの無い buffer に入れるときだけである。 -/
theorem publish_eq_none_iff : pub.publish maxBuffer data ok = none ↔
    ok = false ∧ maxBuffer = 0 ∧ pub.buf = [] := by
  unfold publish
  cases ok with
  | true => simp
  | false =>
    cases hbuf : pub.buf with
    | nil => by_cases hmax : maxBuffer = 0 <;> simp [hmax]
    | cons x l =>
      simp only [Bool.false_eq_true, if_false]
      split <;> simp

/-- **`publish` は何も失わない。** -/
theorem held_publish (h : pub.publish maxBuffer data ok = some pub') :
    pub'.held = pub.held + {data} := by
  unfold held
  rcases publish_cases h with ⟨-, rfl⟩ | ⟨-, -, oldest, rest, hbuf, rfl⟩ | ⟨-, -, rfl⟩
  · simp only [← Multiset.coe_add, Multiset.coe_singleton]
    abel
  · have hold : (pub.buf : Multiset α) = {oldest} + (rest : Multiset α) := by
      rw [hbuf, ← Multiset.cons_coe, Multiset.singleton_add]
    rw [hold]
    simp only [← Multiset.coe_add, Multiset.coe_singleton]
    abel
  · simp only [← Multiset.coe_add, Multiset.coe_singleton]
    abel

/-- **`flush` は何も失わない。** -/
theorem held_flush (pub : Publisher α) (n : Nat) : (pub.flush n).held = pub.held := by
  have hbuf : (pub.buf : Multiset α) = pub.buf.take n + pub.buf.drop n := by
    rw [Multiset.coe_add, List.take_append_drop]
  unfold held flush
  rw [hbuf]
  simp only [← Multiset.coe_add]
  abel

theorem Sound.publish (hs : Sound maxBuffer pub) (h : pub.publish maxBuffer data ok = some pub') :
    Sound maxBuffer pub' := by
  have hfits := hs.fits
  rcases publish_cases h with ⟨-, rfl⟩ | ⟨-, -, oldest, rest, hbuf, rfl⟩ | ⟨-, hroom, rfl⟩
  · exact ⟨hs.fits, hs.counted⟩
  · rw [hbuf, List.length_cons] at hfits
    refine ⟨?_, ?_⟩
    · rw [List.length_append, List.length_singleton]
      exact hfits
    · rw [List.length_append, List.length_singleton, hs.counted]
  · refine ⟨?_, hs.counted⟩
    rw [List.length_append, List.length_singleton]
    exact hroom

theorem Sound.flush (hs : Sound maxBuffer pub) (n : Nat) : Sound maxBuffer (pub.flush n) := by
  refine ⟨?_, hs.counted⟩
  show (pub.buf.drop n).length ≤ maxBuffer
  rw [List.length_drop]
  exact (Nat.sub_le _ _).trans hs.fits

/-- 送れたときだけ、空の buffer は空のままである。 -/
theorem buf_publish_eq_nil_iff (h : pub.publish maxBuffer data ok = some pub') :
    pub'.buf = [] ↔ ok = true ∧ pub.buf = [] := by
  rcases publish_cases h with ⟨hok, rfl⟩ | ⟨hok, -, oldest, rest, -, rfl⟩ | ⟨hok, -, rfl⟩
  · simp [hok]
  · simp [hok]
  · simp [hok]

end Publisher

end CipherPost.Live
