import Mathlib.Algebra.Order.Ring.Rat
import Mathlib.Tactic.Linarith
import CipherPost.Core.LoginLock

/-!
# login の失敗の数え方

`record_login_failure` の二つの数え方。memory は失敗の時刻を持ち、直前の `_LOGIN_WINDOW_SECONDS` の失敗を数える。
Redis は期限のある counter を持つので、数え始めてから `_LOGIN_WINDOW_SECONDS` の失敗を数え、login の成功で IP の
counter も消す。

* `Event`・`Attempt.events` — 試みを key ごとに分けた事象
* `Locked` — 直前の失敗が上限に届いてから `_LOGIN_LOCK_SECONDS` の間である
* `LockedAlike` — 二つの数え方の lock が、どちらも `Locked` である
* `memLocked_iff` — memory の lock は、いつも `Locked` である
* `lockedAlike_of_counted` — 上限に届く失敗がどれも counter の同じ期間に入る run では、いつも `LockedAlike`
-/

namespace CipherPost.Core.LoginLock

/-! ## key ごとの事象 -/

/-- 一つの key についての失敗か成功。 -/
inductive Event where
  | failed (b : Bucket) (t : ℚ)
  | succeeded (b : Bucket) (t : ℚ)
  deriving Repr, DecidableEq

def Event.time : Event → ℚ
  | .failed _ t => t
  | .succeeded _ t => t

/-- 試みの事象。 -/
def Attempt.events (a : Attempt) : List Event :=
  if a.succeeded then [.succeeded (.acct a.email) a.time, .succeeded (.ip a.addr) a.time]
  else [.failed (.acct a.email) a.time, .failed (.ip a.addr) a.time]

/-- 事象一つの記録。 -/
def Paths.step (p : Paths) : Event → Paths
  | .failed b t =>
    { redis := redisHit t p.redis b.key b.limit, mem := memHit t p.mem b.key b.limit }
  | .succeeded (.acct email) _ =>
    { redis := p.redis.erase (Bucket.acct email).key, mem := memSuccess p.mem (Bucket.acct email).key }
  | .succeeded (.ip addr) _ => { p with redis := p.redis.erase (Bucket.ip addr).key }

/-- 試みの記録は、その事象を順に記録することである。 -/
theorem record_eq (p : Paths) (a : Attempt) : p.record a = Run.exec Paths.step p a.events := by
  unfold Paths.record Attempt.events
  cases a.succeeded <;> rfl

/-! ## 直前の失敗 -/

/-- 数えられる失敗。account の失敗は login の成功で消える。 -/
def pendingStep (b : Bucket) (times : List ℚ) : Event → List ℚ
  | .failed b' t => if b' = b then times ++ [t] else times
  | .succeeded (.acct email) _ => if Bucket.acct email = b then [] else times
  | .succeeded (.ip _) _ => times

def pending (h : List Event) (b : Bucket) : List ℚ := h.foldl (pendingStep b) []

/-- 時刻 `t` の直前の `_LOGIN_WINDOW_SECONDS` の失敗の数。 -/
def recentCount (h : List Event) (b : Bucket) (t : ℚ) : Nat :=
  ((pending h b).filter (recent t)).length

/-- 失敗が上限に届いてから `_LOGIN_LOCK_SECONDS` の間である。 -/
def Locked (h : List Event) (b : Bucket) (now : ℚ) : Prop :=
  ∃ pre t, pre ++ [.failed b t] <+: h ∧ b.limit ≤ recentCount (pre ++ [.failed b t]) b t ∧
    now < t + lockSeconds

/-- 二つの数え方の lock が、どの時刻にも、どちらも `Locked` である。 -/
def LockedAlike (p : Paths) (h : List Event) : Prop :=
  ∀ b now, (redisLocked p.redis now b.key = true ↔ Locked h b now) ∧
    (memLocked p.mem now b.key = true ↔ Locked h b now)

/-! ## 固定の期間 -/

/-- counter の期間の始まりと、その期間の失敗の数。期間が終わっていれば、新しい期間を始める。 -/
def countFailure (t : ℚ) : Option (ℚ × Nat) → ℚ × Nat
  | some (start, n) => if t < start + windowSeconds then (start, n + 1) else (t, 1)
  | none => (t, 1)

/-- counter の期間。key に関わる成功で消える。 -/
def windowStep (b : Bucket) (w : Option (ℚ × Nat)) : Event → Option (ℚ × Nat)
  | .failed b' t => if b' = b then some (countFailure t w) else w
  | .succeeded b' _ => if b' = b then none else w

def window (h : List Event) (b : Bucket) : Option (ℚ × Nat) := h.foldl (windowStep b) none

/-- 期間の始まりからの失敗の数。 -/
def windowCount (h : List Event) (b : Bucket) : Nat := ((window h b).map Prod.snd).getD 0

/--
事象の名前は別の相手の lock の key にならず、上限に届く失敗は、どれも counter の今の期間に、間に成功を
挟まずに入る。
-/
def Counted (h : List Event) : Event → Prop
  | .failed b t => ¬b.Shadows ∧ (b.limit ≤ recentCount (h ++ [.failed b t]) b t →
      b.limit ≤ windowCount (h ++ [.failed b t]) b)
  | .succeeded b _ => ¬b.Shadows

instance (h : List Event) : DecidablePred (Counted h)
  | .failed _ _ => inferInstanceAs (Decidable (_ ∧ (_ → _)))
  | .succeeded _ _ => inferInstanceAs (Decidable (¬_))

/-! ## 一歩 -/

theorem pending_concat (h : List Event) (e : Event) (b : Bucket) :
    pending (h ++ [e]) b = pendingStep b (pending h b) e := by
  unfold pending
  rw [List.foldl_append]
  rfl

theorem window_concat (h : List Event) (e : Event) (b : Bucket) :
    window (h ++ [e]) b = windowStep b (window h b) e := by
  unfold window
  rw [List.foldl_append]
  rfl

theorem pending_failed (h : List Event) (b : Bucket) (t : ℚ) :
    pending (h ++ [.failed b t]) b = pending h b ++ [t] := by
  rw [pending_concat, pendingStep, if_pos rfl]

theorem window_failed (h : List Event) (b : Bucket) (t : ℚ) :
    window (h ++ [.failed b t]) b = some (countFailure t (window h b)) := by
  rw [window_concat, windowStep, if_pos rfl]

/-- 一つ先の lock は、今の lock か、上限に届いた失敗である。 -/
theorem locked_concat {h : List Event} {e : Event} {b : Bucket} {now : ℚ} :
    Locked (h ++ [e]) b now ↔ Locked h b now ∨ ∃ t, e = .failed b t ∧
      b.limit ≤ recentCount (h ++ [.failed b t]) b t ∧ now < t + lockSeconds := by
  constructor
  · rintro ⟨pre, t, hpre, hcount, hnow⟩
    rcases Run.isPrefix_concat.mp hpre with ⟨rfl, rfl⟩ | hpre
    · exact .inr ⟨t, rfl, hcount, hnow⟩
    · exact .inl ⟨pre, t, hpre, hcount, hnow⟩
  · rintro (⟨pre, t, hpre, hcount, hnow⟩ | ⟨t, rfl, hcount, hnow⟩)
    · exact ⟨pre, t, hpre.trans (List.prefix_append _ _), hcount, hnow⟩
    · exact ⟨h, t, List.prefix_rfl, hcount, hnow⟩

theorem locked_concat_succeeded {h : List Event} {b b' : Bucket} {t now : ℚ} :
    Locked (h ++ [.succeeded b' t]) b now ↔ Locked h b now := by
  rw [locked_concat]
  refine or_iff_left ?_
  rintro ⟨t', he, -⟩
  cases he

theorem locked_concat_failed {h : List Event} {b b' : Bucket} {t now : ℚ} :
    Locked (h ++ [.failed b' t]) b now ↔ Locked h b now ∨ b' = b ∧
      b.limit ≤ recentCount (h ++ [.failed b t]) b t ∧ now < t + lockSeconds := by
  rw [locked_concat]
  refine or_congr_right ⟨?_, ?_⟩
  · rintro ⟨t', he, hcount, hnow⟩
    cases he
    exact ⟨rfl, hcount, hnow⟩
  · rintro ⟨rfl, hcount, hnow⟩
    exact ⟨t, rfl, hcount, hnow⟩

/-- lock は、最後の事象から `_LOGIN_LOCK_SECONDS` より長くは続かない。 -/
theorem lt_of_locked {h : List Event} {b : Bucket} {now t : ℚ} (hlock : Locked h b now)
    (ht : ∀ e ∈ h, e.time ≤ t) : now < t + lockSeconds := by
  obtain ⟨pre, t', hpre, -, hnow⟩ := hlock
  have hle : t' ≤ t := ht _ (hpre.subset (List.mem_append_right _ (List.mem_singleton_self _)))
  linarith

theorem recent_self (t : ℚ) : recent t t = true := by
  unfold recent windowSeconds
  rw [sub_self]
  exact decide_eq_true (by norm_num)

/-- 後の時刻から見て直前の失敗は、前の時刻から見ても直前である。 -/
theorem filter_recent {t t' : ℚ} (h : t ≤ t') (times : List ℚ) :
    (times.filter (recent t)).filter (recent t') = times.filter (recent t') := by
  rw [List.filter_filter]
  refine List.filter_congr fun x _ => ?_
  cases hx : recent t' x with
  | false => rfl
  | true =>
    have hlt := of_decide_eq_true hx
    have hrecent : recent t x = true := decide_eq_true (by unfold windowSeconds at *; linarith)
    rw [hrecent]
    rfl

/-- 失敗の後の、直前の失敗の数。 -/
theorem recentCount_failed (h : List Event) (b : Bucket) (t : ℚ) :
    recentCount (h ++ [.failed b t]) b t = ((pending h b).filter (recent t)).length + 1 := by
  unfold recentCount
  rw [pending_failed, List.filter_append, List.length_append, List.filter_singleton, recent_self]
  rfl

/-! ## memory -/

/-- memory は、直前の失敗と lock を持つ。 -/
structure MemMirrors (m : Mem) (h : List Event) : Prop where
  hits : ∀ b t, (∀ e ∈ h, e.time ≤ t) → memHits m t b.key = (pending h b).filter (recent t)
  locks : ∀ b now, memLocked m now b.key = true ↔ Locked h b now

theorem memMirrors_nil : MemMirrors {} [] where
  hits _ _ _ := rfl
  locks b now := by
    refine iff_of_false (by simp [memLocked]) ?_
    rintro ⟨pre, t, hpre, -⟩
    simp at hpre

/-- 失敗は、直前の失敗に加わり、上限に届けば lock を延ばす。 -/
theorem MemMirrors.failed {m : Mem} {h : List Event} (hm : MemMirrors m h) {b : Bucket} {t : ℚ}
    (hbefore : ∀ e ∈ h, e.time ≤ t) (ht : 0 ≤ t) :
    MemMirrors (memHit t m b.key b.limit) (h ++ [.failed b t]) where
  hits b₀ t₀ hlast := by
    have hle : t ≤ t₀ := hlast (.failed b t) (List.mem_append_right _ (List.mem_singleton_self _))
    rw [memHits, failures_memHit, pending_concat, pendingStep]
    by_cases hb : b = b₀
    · subst hb
      rw [if_pos rfl, if_pos rfl, Option.getD_some, List.filter_append, List.filter_append,
        hm.hits b t hbefore, filter_recent hle]
    · rw [if_neg fun hkey => hb (Bucket.key_injective hkey).symm, if_neg hb]
      exact hm.hits b₀ t₀ fun e he => hlast e (List.mem_append_left _ he)
  locks b₀ now := by
    rw [locked_concat_failed, ← hm.locks b₀ now, memLocked, locks_memHit, recentCount_failed]
    by_cases hb : b = b₀
    · subst hb
      rw [hm.hits b t hbefore]
      by_cases hlimit : b.limit ≤ ((pending h b).filter (recent t)).length + 1
      · -- 上限に届いた失敗の lock は、それまでの lock より長い。
        have hne : t + lockSeconds ≠ 0 := by unfold lockSeconds; positivity
        rw [if_pos ⟨rfl, hlimit⟩, Option.getD_some, decide_eq_true_iff]
        refine ⟨fun hlock => .inr ⟨rfl, hlimit, hlock.2⟩, ?_⟩
        rintro (hlock | ⟨-, -, hnow⟩)
        · exact ⟨hne, lt_of_locked ((hm.locks b now).mp hlock) hbefore⟩
        · exact ⟨hne, hnow⟩
      · rw [if_neg fun hboth => hlimit hboth.2]
        exact (or_iff_left fun hboth => hlimit hboth.2.1).symm
    · rw [if_neg fun hboth => hb (Bucket.key_injective hboth.1).symm]
      exact (or_iff_left fun hboth => hb hboth.1).symm

/-- account の成功は、その account の失敗だけを消す。 -/
theorem MemMirrors.succeeded_acct {m : Mem} {h : List Event} (hm : MemMirrors m h) (email : String)
    (t : ℚ) : MemMirrors (memSuccess m (Bucket.acct email).key) (h ++ [.succeeded (.acct email) t]) where
  hits b₀ t₀ hlast := by
    rw [memHits, memSuccess, Dict.get?_erase, pending_concat, pendingStep]
    by_cases hb : Bucket.acct email = b₀
    · subst hb
      rw [if_pos rfl, if_pos rfl]
      rfl
    · rw [if_neg fun hkey => hb (Bucket.key_injective hkey).symm, if_neg hb]
      exact hm.hits b₀ t₀ fun e he => hlast e (List.mem_append_left _ he)
  locks b₀ now := by
    rw [locked_concat_succeeded]
    exact hm.locks b₀ now

/-- IP の失敗は、成功で消えない。 -/
theorem MemMirrors.succeeded_ip {m : Mem} {h : List Event} (hm : MemMirrors m h) (addr : String)
    (t : ℚ) : MemMirrors m (h ++ [.succeeded (.ip addr) t]) where
  hits b₀ t₀ hlast := by
    rw [pending_concat]
    exact hm.hits b₀ t₀ fun e he => hlast e (List.mem_append_left _ he)
  locks b₀ now := by
    rw [locked_concat_succeeded]
    exact hm.locks b₀ now

/-- 時刻が減らない、epoch より後の事象の列。 -/
def Timely (h : List Event) : Prop :=
  h.Pairwise (fun e e' => e.time ≤ e'.time) ∧ ∀ e ∈ h, 0 ≤ e.time

theorem Timely.concat {h : List Event} {e : Event} (ht : Timely (h ++ [e])) :
    Timely h ∧ (∀ e' ∈ h, e'.time ≤ e.time) ∧ 0 ≤ e.time := by
  obtain ⟨hpair, hnonneg⟩ := ht
  obtain ⟨hpre, -, hcross⟩ := List.pairwise_append.mp hpair
  exact ⟨⟨hpre, fun e' he' => hnonneg e' (List.mem_append_left _ he')⟩,
    fun e' he' => hcross e' he' e (List.mem_singleton_self e),
    hnonneg e (List.mem_append_right _ (List.mem_singleton_self e))⟩

theorem memMirrors_exec (h : List Event) (ht : Timely h) :
    MemMirrors (Run.exec Paths.step {} h).mem h := by
  induction h using List.reverseRecOn with
  | nil => exact memMirrors_nil
  | append_singleton h e ih =>
    obtain ⟨hearlier, hbefore, hnonneg⟩ := ht.concat
    have hm := ih hearlier
    rw [Run.exec_append]
    cases e with
    | failed b t => exact hm.failed hbefore hnonneg
    | succeeded b t =>
      cases b with
      | acct email => exact hm.succeeded_acct email t
      | ip addr => exact hm.succeeded_ip addr t

/-- **memory の lock は、いつも直前の失敗で決まる。** -/
theorem memLocked_iff (h : List Event) (ht : Timely h) (b : Bucket) (now : ℚ) :
    memLocked (Run.exec Paths.step {} h).mem now b.key = true ↔ Locked h b now :=
  (memMirrors_exec h ht).locks b now

/-! ## 固定の期間と直前の失敗 -/

/-- counter の数える失敗は、期間の始まりより後に数えられた失敗である。 -/
structure WindowSound (h : List Event) (b : Bucket) (start : ℚ) (n : Nat) : Prop where
  positive : 1 ≤ n
  counted : n ≤ ((pending h b).filter fun x => decide (start ≤ x)).length
  started : ∀ t, (∀ e ∈ h, e.time ≤ t) → start ≤ t

/-- 失敗の後の事象の列の、期間の始まりから数えられた失敗の数。 -/
theorem length_pending_failed (h : List Event) (b : Bucket) {start t : ℚ} (hle : start ≤ t) :
    ((pending (h ++ [.failed b t]) b).filter fun x => decide (start ≤ x)).length =
      ((pending h b).filter fun x => decide (start ≤ x)).length + 1 := by
  rw [pending_failed, List.filter_append, List.length_append, List.filter_singleton,
    decide_eq_true hle]
  rfl

/-- 新しい期間は、始めた失敗だけを数える。 -/
theorem windowSound_fresh (h : List Event) (b : Bucket) (t : ℚ) :
    WindowSound (h ++ [.failed b t]) b t 1 where
  positive := le_refl 1
  counted := by
    rw [length_pending_failed h b (le_refl t)]
    exact Nat.le_add_left _ _
  started t' hall := hall (.failed b t) (List.mem_append_right _ (List.mem_singleton_self _))

/-- 期間の中の失敗は、期間の失敗を一つ増やす。 -/
theorem WindowSound.failed {h : List Event} {b : Bucket} {start t : ℚ} {n : Nat}
    (hs : WindowSound h b start n) (hbefore : ∀ e ∈ h, e.time ≤ t) :
    WindowSound (h ++ [.failed b t]) b start (n + 1) where
  positive := Nat.le_add_left _ _
  counted := by
    rw [length_pending_failed h b (hs.started t hbefore)]
    exact Nat.add_le_add_right hs.counted 1
  started t' hall := hs.started t' fun e he => hall e (List.mem_append_left _ he)

/-- 数えられる失敗を変えない事象は、期間の失敗を変えない。 -/
theorem WindowSound.concat {h : List Event} {b : Bucket} {start : ℚ} {n : Nat} {e : Event}
    (hs : WindowSound h b start n) (hpending : pendingStep b (pending h b) e = pending h b) :
    WindowSound (h ++ [e]) b start n where
  positive := hs.positive
  counted := by
    rw [pending_concat, hpending]
    exact hs.counted
  started t' hall := hs.started t' fun e he => hall e (List.mem_append_left _ he)

theorem windowSound_of_window {h : List Event} (ht : Timely h) {b : Bucket} :
    ∀ {start : ℚ} {n : Nat}, window h b = some (start, n) → WindowSound h b start n := by
  induction h using List.reverseRecOn with
  | nil => intro start n hw; cases hw
  | append_singleton h e ih =>
    obtain ⟨hearlier, hbefore, -⟩ := ht.concat
    intro start n hw
    cases e with
    | failed b' t =>
      by_cases hb : b' = b
      · subst hb
        rw [window_failed, Option.some.injEq] at hw
        cases hold : window h b' with
        | none =>
          rw [hold] at hw
          cases hw
          exact windowSound_fresh h b' _
        | some w =>
          obtain ⟨start', n'⟩ := w
          rw [hold, countFailure] at hw
          split at hw
          · cases hw
            exact (ih hearlier hold).failed hbefore
          · cases hw
            exact windowSound_fresh h b' _
      · rw [window_concat, windowStep, if_neg hb] at hw
        exact (ih hearlier hw).concat (if_neg hb)
    | succeeded b' t =>
      rw [window_concat, windowStep] at hw
      split at hw
      · cases hw
      · next hb =>
        cases b' with
        | ip addr => exact (ih hearlier hw).concat rfl
        | acct email => exact (ih hearlier hw).concat (if_neg hb)

/-- **counter の数える失敗は、どれも直前の失敗である。** -/
theorem windowCount_le {h : List Event} {b : Bucket} {t : ℚ} (ht : Timely (h ++ [.failed b t])) :
    windowCount (h ++ [.failed b t]) b ≤ recentCount (h ++ [.failed b t]) b t := by
  have hbefore : ∀ e ∈ h ++ [.failed b t], e.time ≤ t := by
    intro e he
    rcases List.mem_append.mp he with he | he
    · exact ht.concat.2.1 e he
    · rw [List.mem_singleton.mp he]
      exact le_refl t
  unfold windowCount recentCount
  cases hw : window (h ++ [.failed b t]) b with
  | none => exact Nat.zero_le _
  | some w =>
    obtain ⟨start, n⟩ := w
    have hsound := windowSound_of_window ht hw
    -- 期間は、この失敗より `_LOGIN_WINDOW_SECONDS` 以上前に始まってはいない。
    have hopen : t < start + windowSeconds := by
      rw [window_failed, Option.some.injEq] at hw
      have hself : t < t + windowSeconds := by unfold windowSeconds; linarith
      unfold countFailure at hw
      split at hw
      · split at hw
        · next hlt =>
          cases hw
          exact hlt
        · cases hw
          exact hself
      · cases hw
        exact hself
    refine hsound.counted.trans (List.Sublist.length_le ?_)
    refine List.monotone_filter_right _ fun x hx => ?_
    have hle := of_decide_eq_true hx
    exact decide_eq_true (by linarith)

/-! ## Redis -/

/-- 期間の counter の値。 -/
def counterSlot (w : ℚ × Nat) : Slot := { value := w.2, expires := some (w.1 + windowSeconds) }

/-- Redis は、期間の counter と lock を持つ。 -/
structure RedisMirrors (r : Redis) (h : List Event) : Prop where
  counter : ∀ b : Bucket, ¬b.Shadows → r.get? b.key = (window h b).map counterSlot
  locks : ∀ b now, redisLocked r now b.key = true ↔ Locked h b now

theorem redisMirrors_nil : RedisMirrors Dict.empty [] where
  counter _ _ := rfl
  locks b now := by
    refine iff_of_false (by simp [redisLocked, Redis.get]) ?_
    rintro ⟨pre, t, hpre, -⟩
    simp at hpre

/-- 失敗の後の counter は、期間の失敗の数である。 -/
theorem counted_of_counter {r : Redis} {h : List Event} (ht : Timely h) {b : Bucket} {t : ℚ}
    (hcounter : r.get? b.key = (window h b).map counterSlot) :
    r.counted t b.key = counterSlot (countFailure t (window h b)) := by
  unfold Redis.counted Redis.get
  rw [hcounter]
  cases hw : window h b with
  | none => rfl
  | some w =>
    obtain ⟨start, n⟩ := w
    have hpositive := (windowSound_of_window ht hw).positive
    have halive : Redis.alive t (counterSlot (start, n)) = decide (t < start + windowSeconds) := rfl
    rw [Option.map_some, Option.filter_some, halive, countFailure]
    by_cases hopen : t < start + windowSeconds
    · rw [if_pos (decide_eq_true hopen), if_pos hopen]
      exact if_neg fun hone => by
        have hone : n + 1 = 1 := hone
        omega
    · rw [if_neg (by simpa using hopen), if_neg hopen]
      rfl

theorem redisLocked_of_get? {r : Redis} {now t : ℚ} {k : String}
    (h : r.get? (lockKey k) = some { value := 1, expires := some t }) :
    redisLocked r now k = decide (now < t) := by
  unfold redisLocked Redis.get
  rw [h, Option.filter_some]
  show (if decide (now < t) = true then _ else _ : Option Slot).isSome = _
  by_cases hlt : now < t
  · rw [if_pos (decide_eq_true hlt), decide_eq_true hlt]
    rfl
  · rw [if_neg (by simpa using hlt), decide_eq_false hlt]
    rfl

theorem redisLocked_congr {r r' : Redis} {now : ℚ} {k : String}
    (h : r'.get? (lockKey k) = r.get? (lockKey k)) : redisLocked r' now k = redisLocked r now k := by
  unfold redisLocked Redis.get
  rw [h]

/-- 期間の失敗で上限に届く失敗は、counter を進め、lock を延ばす。 -/
theorem RedisMirrors.failed {r : Redis} {h : List Event} (hr : RedisMirrors r h) {b : Bucket} {t : ℚ}
    (ht : Timely (h ++ [.failed b t])) (hcounted : Counted h (.failed b t)) :
    RedisMirrors (redisHit t r b.key b.limit) (h ++ [.failed b t]) := by
  obtain ⟨hshadow, hcount⟩ := hcounted
  have hslot := counted_of_counter ht.concat.1 (t := t) (hr.counter b hshadow)
  have hwindow := window_failed h b t
  have hvalue : (r.counted t b.key).value = windowCount (h ++ [.failed b t]) b := by
    rw [hslot, windowCount, hwindow]
    rfl
  -- 期間の失敗で上限に届くのは、直前の失敗で届くときである。
  have hlimit : b.limit ≤ (r.counted t b.key).value ↔
      b.limit ≤ recentCount (h ++ [.failed b t]) b t := by
    rw [hvalue]
    exact ⟨fun hle => hle.trans (windowCount_le ht), hcount⟩
  refine ⟨fun b₀ hb₀ => ?_, fun b₀ now => ?_⟩
  · rw [get?_redisHit, if_neg fun hkey => hb₀ (Bucket.shadows_of_key hkey.1)]
    by_cases hb : b = b₀
    · subst hb
      rw [if_pos rfl, hwindow, hslot]
      rfl
    · rw [if_neg fun hkey => hb (Bucket.key_injective hkey).symm, window_concat, windowStep, if_neg hb]
      exact hr.counter b₀ hb₀
  · rw [locked_concat_failed, ← hr.locks b₀ now]
    have hget := get?_redisHit t r b.key b.limit (lockKey b₀.key)
    rw [if_neg (c := lockKey b₀.key = b.key) fun hkey => hshadow (Bucket.shadows_of_key hkey.symm)] at hget
    by_cases hb : b = b₀
    · subst hb
      by_cases hfull : b.limit ≤ (r.counted t b.key).value
      · rw [if_pos ⟨rfl, hfull⟩] at hget
        rw [redisLocked_of_get? hget, decide_eq_true_iff]
        refine ⟨fun hnow => .inr ⟨rfl, hlimit.mp hfull, hnow⟩, ?_⟩
        rintro (hlock | ⟨-, -, hnow⟩)
        · exact lt_of_locked ((hr.locks b now).mp hlock) ht.concat.2.1
        · exact hnow
      · rw [if_neg fun hboth => hfull hboth.2] at hget
        rw [redisLocked_congr hget]
        exact (or_iff_left fun hboth => hfull (hlimit.mpr hboth.2.1)).symm
    · rw [if_neg fun hboth => hb (Bucket.key_injective (lockKey_injective hboth.1)).symm] at hget
      rw [redisLocked_congr hget]
      exact (or_iff_left fun hboth => hb hboth.1).symm

/-- 成功は、その key の counter だけを消す。 -/
theorem RedisMirrors.succeeded {r : Redis} {h : List Event} (hr : RedisMirrors r h) {b : Bucket}
    {t : ℚ} (hshadow : ¬b.Shadows) : RedisMirrors (r.erase b.key) (h ++ [.succeeded b t]) := by
  refine ⟨fun b₀ hb₀ => ?_, fun b₀ now => ?_⟩
  · rw [Dict.get?_erase, window_concat, windowStep]
    by_cases hb : b = b₀
    · subst hb
      rw [if_pos rfl, if_pos rfl]
      rfl
    · rw [if_neg fun hkey => hb (Bucket.key_injective hkey).symm, if_neg hb]
      exact hr.counter b₀ hb₀
  · rw [locked_concat_succeeded, ← hr.locks b₀ now]
    refine iff_of_eq (congrArg (· = true) (redisLocked_congr ?_))
    exact Dict.get?_erase_of_ne r fun hkey => hshadow (Bucket.shadows_of_key hkey.symm)

theorem redisMirrors_exec (h : List Event) (ht : Timely h)
    (hcounted : ∀ pre e, pre ++ [e] <+: h → Counted pre e) :
    RedisMirrors (Run.exec Paths.step {} h).redis h := by
  induction h using List.reverseRecOn with
  | nil => exact redisMirrors_nil
  | append_singleton h e ih =>
    have hr := ih ht.concat.1 fun pre e' hpre => hcounted pre e' (hpre.trans (List.prefix_append _ _))
    have hlast := hcounted h e List.prefix_rfl
    rw [Run.exec_append]
    cases e with
    | failed b t => exact hr.failed ht hlast
    | succeeded b t =>
      cases b with
      | acct email => exact hr.succeeded hlast
      | ip addr => exact hr.succeeded hlast

/-! ## 試みの run -/

theorem exec_record (p : Paths) (attempts : List Attempt) :
    Run.exec Paths.record p attempts = Run.exec Paths.step p (attempts.flatMap Attempt.events) := by
  induction attempts generalizing p with
  | nil => rfl
  | cons a attempts ih =>
    rw [Run.exec_cons, List.flatMap_cons, Run.exec_append, record_eq]
    exact ih _

theorem time_of_mem_events {a : Attempt} {e : Event} (he : e ∈ a.events) : e.time = a.time := by
  unfold Attempt.events at he
  split at he
  · rcases List.mem_pair.mp he with rfl | rfl <;> rfl
  · rcases List.mem_pair.mp he with rfl | rfl <;> rfl

theorem timely_events {attempts : List Attempt}
    (h : attempts.Pairwise fun a a' => a.time ≤ a'.time) : Timely (attempts.flatMap Attempt.events) := by
  constructor
  · refine List.pairwise_flatMap.mpr ⟨fun a _ => ?_, h.imp fun hle e he e' he' => ?_⟩
    · refine List.pairwise_of_forall_mem_list fun e he e' he' => ?_
      rw [time_of_mem_events he, time_of_mem_events he']
    · rw [time_of_mem_events he, time_of_mem_events he']
      exact hle
  · intro e he
    obtain ⟨a, -, he⟩ := List.mem_flatMap.mp he
    rw [time_of_mem_events he]
    exact a.time_nonneg

/--
**上限に届く失敗がどれも counter の同じ期間に入り、名前が別の相手の lock の key にならない run では、二つの数え方の
lock は、いつも直前の失敗で決まる lock である。**
-/
theorem lockedAlike_of_counted (attempts : List Attempt)
    (hsorted : attempts.Pairwise fun a a' => a.time ≤ a'.time)
    (hcounted : ∀ pre e, pre ++ [e] <+: attempts.flatMap Attempt.events → Counted pre e) :
    ∀ pre, pre <+: attempts →
      LockedAlike (Run.exec Paths.record {} pre) (pre.flatMap Attempt.events) := by
  rintro pre ⟨post, rfl⟩ b now
  have htimely := timely_events (List.pairwise_append.mp hsorted).1
  have hprefix : pre.flatMap Attempt.events <+: (pre ++ post).flatMap Attempt.events := by
    rw [List.flatMap_append]
    exact List.prefix_append _ _
  rw [exec_record]
  exact ⟨(redisMirrors_exec _ htimely fun pre' e he => hcounted pre' e (he.trans hprefix)).locks b now,
    memLocked_iff _ htimely b now⟩

/-- 二つの `is_login_locked` は、account か IP の lock である。 -/
theorem LockedAlike.isLoginLocked {p : Paths} {h : List Event} (halike : LockedAlike p h)
    (email addr : String) (now : ℚ) :
    (isLoginLockedRedis p.redis now (Bucket.acct email).key (Bucket.ip addr).key = true ↔
      Locked h (.acct email) now ∨ Locked h (.ip addr) now) ∧
    (isLoginLockedMem p.mem now (Bucket.acct email).key (Bucket.ip addr).key = true ↔
      Locked h (.acct email) now ∨ Locked h (.ip addr) now) := by
  unfold isLoginLockedRedis isLoginLockedMem
  rw [Bool.or_eq_true, Bool.or_eq_true]
  exact ⟨or_congr (halike _ now).1 (halike _ now).1, or_congr (halike _ now).2 (halike _ now).2⟩

/-- 整数の時刻の試み。 -/
def attemptAt (t : Nat) (succeeded : Bool) (email addr : String) : Attempt :=
  { time := t, succeeded, email, addr, time_nonneg := Nat.cast_nonneg t }

/-- 一つの account への五回の失敗。 -/
def fiveFailures : List Attempt :=
  [0, 1, 2, 3, 4].map fun t => attemptAt t false "a@example.org" "10.0.0.9"

/-- 五回の失敗は、どれも counter の同じ期間に入る。 -/
theorem lockedAlike_fiveFailures :
    LockedAlike (Run.exec Paths.record {} fiveFailures) (fiveFailures.flatMap Attempt.events) := by
  have hcounted : ∀ pre e, pre ++ [e] <+: fiveFailures.flatMap Attempt.events → Counted pre e := by
    intro pre e hpre
    have halong : Run.Along (fun h e => h ++ [e]) Counted []
        (fiveFailures.flatMap Attempt.events) := by
      decide +kernel
    have hlast := Run.along_iff.mp halong pre e hpre
    rwa [Run.exec_concat, List.nil_append] at hlast
  exact lockedAlike_of_counted fiveFailures (by decide +kernel) hcounted fiveFailures
    List.prefix_rfl

/-- 一つの IP から、別々の account への十九回の失敗と、自分の account への成功の後に、もう一度の失敗。 -/
def sprayedRun : List Attempt :=
  ("abcdefghijklmnopqrs".toList.map fun c =>
    attemptAt 0 false (String.ofList [c] ++ "@example.org") "10.0.0.9") ++
    [attemptAt 1 true "own@example.org" "10.0.0.9", attemptAt 2 false "t@example.org" "10.0.0.9"]

/-- 期間の境目をまたぐ失敗。 -/
def straddlingRun : List Attempt :=
  [0, 299, 299, 299, 301, 301].map fun t => attemptAt t false "a@example.org" "10.0.0.9"

/-- 名前が `:lock` で終わる account への失敗。 -/
def shadowingRun : List Attempt := [attemptAt 0 false "a@example.org:lock" "10.0.0.9"]

theorem locked_same_of_lockedAlike {p : Paths} {h : List Event} (halike : LockedAlike p h)
    (b : Bucket) (now : ℚ) : redisLocked p.redis now b.key = memLocked p.mem now b.key :=
  Bool.eq_iff_iff.mpr ((halike b now).1.trans (halike b now).2.symm)

theorem not_lockedAlike_runs :
    ¬LockedAlike (Run.exec Paths.record {} sprayedRun) (sprayedRun.flatMap Attempt.events) ∧
    ¬LockedAlike (Run.exec Paths.record {} straddlingRun) (straddlingRun.flatMap Attempt.events) ∧
    ¬LockedAlike (Run.exec Paths.record {} shadowingRun) (shadowingRun.flatMap Attempt.events) := by
  refine ⟨fun h => ?_, fun h => ?_, fun h => ?_⟩
  · exact absurd (locked_same_of_lockedAlike h (.ip "10.0.0.9") 2) (by decide +kernel)
  · exact absurd (locked_same_of_lockedAlike h (.acct "a@example.org") 301) (by decide +kernel)
  · exact absurd (locked_same_of_lockedAlike h (.acct "a@example.org") 0) (by decide +kernel)

end CipherPost.Core.LoginLock
