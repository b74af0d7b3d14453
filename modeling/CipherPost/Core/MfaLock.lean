import CipherPost.Core.LoginWindows

/-!
# MFA の lock

`app/core/mfa.py` の lock と、それを呼ぶ `app/api/main.py` の `mfa_verify`。Redis に届けば Redis に、届かなければ
process の memory に数える。確かめと記録の間に await は無いので、一回の要求を一歩とする。

memory は直前の `_MFA_WINDOW_SECONDS` の失敗を数える。Redis は最初の失敗から `_MFA_WINDOW_SECONDS` で消える counter
なので、期間の境目をまたいで試せる。それでも、一人について試される誤った code の数は抑えられる。

`hash_recovery_code` は、文字列でない値と encode できない文字列で例外を上げる。TOTP の照合の後で、失敗を数える前である。
その例外で終わる要求は数えられないので、いくつでも試せる。

* `mfaLocked`・`recordMfaFailure`・`recordMfaSuccess` — 三つの関数
* `guesses` — 最後に通ってから、実際に照合された誤った code の時刻
* `RedisCounts` — Redis の counter と lock についての不変量
* `guesses_bounded` — どの 300 秒にも、memory では五回、Redis では八回までである
* `guesses_unbounded` — 例外で終わる要求は、いくつでも照合される
-/

namespace CipherPost.Core.MfaLock

open LoginLock (Redis Slot)

/-! ## 設定と key -/

/-- `_MFA_MAX_ATTEMPTS`。 -/
def maxAttempts : Nat := 5

/-- `_MFA_WINDOW_SECONDS`。 -/
def windowSeconds : ℚ := 300

/-- `mfa_verify` の `ukey`。 -/
def userKey (id : String) : String := "mfa:" ++ id

/-- counter の key。 -/
def counterKey (k : String) : String := k ++ ":mfa"

/-- lock の key。 -/
def lockKey (k : String) : String := k ++ ":mfa-lock"

/-! ## lock -/

/-- Redis の keyspace と、`_mem_mfa_failures`。 -/
structure Store where
  redis : Redis := Dict.empty
  mem : Dict String (List ℚ) := Dict.empty

/-- まだ数える失敗。 -/
def memHits (m : Dict String (List ℚ)) (now : ℚ) (k : String) : List ℚ :=
  ((m.get? k).getD []).filter fun t => decide (now - t < windowSeconds)

/-- `mfa_locked`。`up` は Redis に届くことである。 -/
def mfaLocked (s : Store) (now : ℚ) (up : Bool) (k : String) : Bool :=
  if up then (s.redis.get now (lockKey k)).isSome
  else decide (maxAttempts ≤ (memHits s.mem now k).length)

/-- `record_mfa_failure` の Redis の側。 -/
def redisFailure (now : ℚ) (r : Redis) (k : String) : Redis :=
  let n := (r.incr now (counterKey k)).1
  let r := (r.incr now (counterKey k)).2
  let r := if n = 1 then r.expire now (counterKey k) windowSeconds else r
  if maxAttempts ≤ n then r.setex now (lockKey k) windowSeconds else r

/-- `record_mfa_failure`。 -/
def recordMfaFailure (s : Store) (now : ℚ) (up : Bool) (k : String) : Store :=
  if up then { s with redis := redisFailure now s.redis k }
  else { s with mem := s.mem.set k (memHits s.mem now k ++ [now]) }

/-- `record_mfa_success`。 -/
def recordMfaSuccess (s : Store) (up : Bool) (k : String) : Store :=
  if up then { s with redis := (s.redis.erase (counterKey k)).erase (lockKey k) }
  else { s with mem := s.mem.erase k }

/-! ## mfa_verify -/

/-- 値を一つ照合した結果。 -/
inductive Compared where
  | matched
  | unmatched
  /-- 照合の前に、捕まえられない例外が上がる。 -/
  | raised
  deriving DecidableEq

/-- ticket の通った `mfa_verify` の要求。 -/
structure Attempt where
  user : String
  time : ℚ
  up : Bool
  /-- `verify_code`。secret を復号できなければ `unmatched` である。 -/
  totp : Compared
  /-- `consume_recovery_code`。`none` は、偽の値で、呼ばれないことである。 -/
  recovery : Option Compared := none
  deriving DecidableEq

/-- 要求の結果。 -/
inductive Verdict where
  /-- lock されていて、code は照合されない。 -/
  | refused
  | wrong
  | accepted
  /-- `verify_code` が例外を上げ、code は照合されない。 -/
  | aborted
  /-- code は照合されて合わず、recovery code の例外で、失敗を数える前に終わる。 -/
  | uncounted
  deriving DecidableEq

/-- 要求の結果。 -/
def verdict (s : Store) (a : Attempt) : Verdict :=
  if mfaLocked s a.time a.up (userKey a.user) then .refused
  else
    match a.totp, a.recovery with
    | .raised, _ => .aborted
    | .matched, _ => .accepted
    | .unmatched, some .matched => .accepted
    | .unmatched, some .raised => .uncounted
    | .unmatched, _ => .wrong

/-- 要求の後の状態。 -/
def step (s : Store) (a : Attempt) : Store :=
  match verdict s a with
  | .refused | .aborted | .uncounted => s
  | .accepted => recordMfaSuccess s a.up (userKey a.user)
  | .wrong => recordMfaFailure s a.time a.up (userKey a.user)

/-- 一人の、Redis に届く（届かない）ときの要求の列に、結果を書き加える。 -/
def note (up : Bool) (user : String) (s : Store) (times : List ℚ) (a : Attempt) : List ℚ :=
  if a.user = user ∧ a.up = up then
    match verdict s a with
    | .refused | .aborted => times
    | .accepted => []
    | .wrong | .uncounted => times ++ [a.time]
  else times

/-- 状態と、書き加えた列の一歩。 -/
def watch (up : Bool) (user : String) (p : Store × List ℚ) (a : Attempt) : Store × List ℚ :=
  (step p.1 a, note up user p.1 p.2 a)

/-- 最後に通ってから、実際に照合された誤った code の時刻。Redis に届くときと届かないときを分ける。 -/
def guesses (up : Bool) (user : String) (evs : List Attempt) : List ℚ :=
  (Run.exec (watch up user) ({}, []) evs).2

/-- `t` からの `_MFA_WINDOW_SECONDS` に入る数。 -/
def within (t : ℚ) (times : List ℚ) : Nat :=
  (times.filter fun x => decide (t ≤ x ∧ x < t + windowSeconds)).length

/-- その人の recovery code は、どれも hash にできる。 -/
def Hashed (user : String) (a : Attempt) : Prop := a.user = user → a.recovery ≠ some .raised

instance (user : String) (a : Attempt) : Decidable (Hashed user a) :=
  inferInstanceAs (Decidable (_ → _))

/-- recovery code を hash にできる要求は、数えられずに終わることがない。 -/
theorem Hashed.verdict_ne {user : String} {s : Store} {a : Attempt} (h : Hashed user a)
    (huser : a.user = user) : verdict s a ≠ .uncounted := by
  intro hverdict
  unfold verdict at hverdict
  split at hverdict
  · cases hverdict
  · split at hverdict
    · cases hverdict
    · cases hverdict
    · cases hverdict
    · next hrecovery => exact h huser hrecovery
    · cases hverdict

/-! ## key の重なり -/

theorem userKey_injective {id id' : String} (h : userKey id = userKey id') : id = id' := by
  have hlist := congrArg String.toList h
  unfold userKey at hlist
  rw [String.toList_append, String.toList_append] at hlist
  exact String.toList_injective (List.append_cancel_left hlist)

theorem append_injective {k k' t : String} (h : k ++ t = k' ++ t) : k = k' := by
  have hlist := congrArg String.toList h
  rw [String.toList_append, String.toList_append] at hlist
  exact String.toList_injective (List.append_cancel_right hlist)

/-- counter の key は、誰の lock の key でもない。 -/
theorem counterKey_ne_lockKey (k k' : String) : counterKey k ≠ lockKey k' := by
  intro h
  have hlast := congrArg (fun s : String => s.toList.getLast?) h
  unfold counterKey lockKey at hlast
  simp only [String.toList_append] at hlast
  rw [List.getLast?_append_of_ne_nil _ (by decide), List.getLast?_append_of_ne_nil _ (by decide)]
    at hlast
  exact absurd hlast (by decide)

/-! ## 一歩の変えるところ -/

/-- **失敗が Redis で変えるのは、その人の counter と lock の key だけである。** -/
theorem get?_redisFailure (now : ℚ) (r : Redis) (k x : String) :
    (redisFailure now r k).get? x =
      if x = lockKey k ∧ maxAttempts ≤ (r.counted now (counterKey k)).value then
        some { value := 1, expires := some (now + windowSeconds) }
      else if x = counterKey k then some (r.counted now (counterKey k)) else r.get? x := by
  obtain ⟨hvalue, hget⟩ := LoginLock.get?_counted r now (counterKey k) x
  unfold redisFailure
  dsimp only
  rw [← hvalue]
  have hwindow : windowSeconds = LoginLock.windowSeconds := rfl
  rw [hwindow]
  by_cases hlimit : maxAttempts ≤ (r.incr now (counterKey k)).1
  · rw [if_pos hlimit, Redis.setex, Dict.get?_set, hget]
    simp only [hlimit, and_true, eq_comm]
  · have hnot : ¬(x = lockKey k ∧ maxAttempts ≤ (r.incr now (counterKey k)).1) :=
      fun h => hlimit h.2
    rw [if_neg hlimit, hget, if_neg hnot]

/-- ほかの人の要求は、counter にも lock にも触れない。 -/
theorem redis_step_other {s : Store} {a : Attempt} {user : String} (h : a.user ≠ user) :
    (step s a).redis.get? (counterKey (userKey user)) =
        s.redis.get? (counterKey (userKey user)) ∧
      (step s a).redis.get? (lockKey (userKey user)) = s.redis.get? (lockKey (userKey user)) := by
  have hcounter : counterKey (userKey user) ≠ counterKey (userKey a.user) :=
    fun heq => h (userKey_injective (append_injective heq)).symm
  have hlock : lockKey (userKey user) ≠ lockKey (userKey a.user) :=
    fun heq => h (userKey_injective (append_injective heq)).symm
  have hcross := counterKey_ne_lockKey (userKey user) (userKey a.user)
  have hcross' := (counterKey_ne_lockKey (userKey a.user) (userKey user)).symm
  unfold step
  cases verdict s a with
  | refused | aborted | uncounted => exact ⟨rfl, rfl⟩
  | accepted =>
    dsimp only
    unfold recordMfaSuccess
    split
    · constructor
      · show ((s.redis.erase _).erase _).get? _ = _
        rw [Dict.get?_erase_of_ne _ hcross, Dict.get?_erase_of_ne _ hcounter]
      · show ((s.redis.erase _).erase _).get? _ = _
        rw [Dict.get?_erase_of_ne _ hlock, Dict.get?_erase_of_ne _ hcross']
    · exact ⟨rfl, rfl⟩
  | wrong =>
    dsimp only
    unfold recordMfaFailure
    split
    · constructor
      · show (redisFailure _ _ _).get? _ = _
        rw [get?_redisFailure, if_neg fun hx => hcross hx.1, if_neg hcounter]
      · show (redisFailure _ _ _).get? _ = _
        rw [get?_redisFailure, if_neg fun hx => hlock hx.1, if_neg hcross']
    · exact ⟨rfl, rfl⟩

/-! ## memory の数え方 -/

/-- memory に残る失敗は、直前の期間については、照合された誤った code を含む。 -/
def MemCounts (hits times : List ℚ) : Prop :=
  ∀ now, (∀ x ∈ times, x ≤ now) →
    (times.filter fun x => decide (now - x < windowSeconds)).length ≤
      (hits.filter fun x => decide (now - x < windowSeconds)).length

/-- 後の時刻に残る失敗は、前の時刻にも残っている。 -/
theorem filter_later {now later : ℚ} (h : now ≤ later) (hits : List ℚ) :
    (hits.filter fun x => decide (now - x < windowSeconds)).filter
        (fun x => decide (later - x < windowSeconds)) =
      hits.filter fun x => decide (later - x < windowSeconds) := by
  rw [List.filter_filter]
  refine List.filter_congr fun x _ => ?_
  by_cases hlt : later - x < windowSeconds
  · rw [decide_eq_true hlt, Bool.true_and]
    exact decide_eq_true (by linarith)
  · rw [decide_eq_false hlt, Bool.false_and]

theorem MemCounts.wrong {hits times : List ℚ} (h : MemCounts hits times) (now : ℚ) :
    MemCounts ((hits.filter fun x => decide (now - x < windowSeconds)) ++ [now])
      (times ++ [now]) := by
  intro later hlater
  have hle : now ≤ later := hlater now (List.mem_append_right _ (List.mem_singleton_self _))
  have hbefore := h later fun x hx => hlater x (List.mem_append_left _ hx)
  rw [List.filter_append, List.filter_append, List.length_append, List.length_append,
    filter_later hle]
  exact Nat.add_le_add_right hbefore _

/-! ## Redis の数え方 -/

/-- counter の期間の始まりを `start`、値を `n` とするときの、照合された誤った code の数え方。 -/
structure Counts (times : List ℚ) (n : Nat) (start : ℚ) (lock : Option Slot) : Prop where
  /-- 期間の始まりの後には、期間の最初の失敗の分だけ少ない。 -/
  after : (times.filter fun x => decide (start < x)).length + 1 ≤ n
  since : (times.filter fun x => decide (start ≤ x)).length ≤ n
  /-- 直前の期間の失敗は、その最初の失敗を除いて三つまでしか残らない。 -/
  before : (times.filter fun x => decide (start - windowSeconds < x ∧ x < start)).length ≤ 3
  fresh : ∀ x ∈ times, x < start + windowSeconds
  /-- 上限に届いた counter には、最後の失敗からの lock がある。 -/
  full : maxAttempts ≤ n → ∃ v t, lock = some ⟨v, some t⟩ ∧ start + windowSeconds ≤ t ∧
    ∀ x ∈ times, x + windowSeconds ≤ t

/-- Redis の counter と lock についての不変量。 -/
def RedisCounts (past : List Attempt) (r : Redis) (k : String) (times : List ℚ) : Prop :=
  match r.get? (counterKey k) with
  | none => times = []
  | some slot => ∃ a ∈ past, slot.expires = some (a.time + windowSeconds) ∧
      Counts times slot.value a.time (r.get? (lockKey k))

/-- 生きていない値は、読めない。 -/
theorem get_eq_none_of_le {r : Redis} {now t : ℚ} {k : String} {v : Nat}
    (hget : r.get? k = some ⟨v, some t⟩) (ht : t ≤ now) : r.get now k = none := by
  unfold Redis.get
  rw [hget, Option.filter_some]
  have hdead : Redis.alive now ⟨v, some t⟩ = decide (now < t) := rfl
  rw [hdead, decide_eq_false (not_lt.mpr ht)]
  rfl

theorem get_eq_some_of_lt {r : Redis} {now t : ℚ} {k : String} {v : Nat}
    (hget : r.get? k = some ⟨v, some t⟩) (ht : now < t) : r.get now k = some ⟨v, some t⟩ := by
  unfold Redis.get
  rw [hget, Option.filter_some]
  have halive : Redis.alive now ⟨v, some t⟩ = decide (now < t) := rfl
  rw [halive, decide_eq_true ht]
  rfl

/-- lock されていない間に上限に届いた counter は、期間も最後の失敗も過ぎている。 -/
theorem Counts.expired {times : List ℚ} {n : Nat} {start now : ℚ} {r : Redis} {k : String}
    (h : Counts times n start (r.get? (lockKey k))) (hunlocked : r.get now (lockKey k) = none)
    (hn : maxAttempts ≤ n) :
    start + windowSeconds ≤ now ∧ ∀ x ∈ times, x + windowSeconds ≤ now := by
  obtain ⟨v, t, hlock, hstart, htimes⟩ := h.full hn
  have ht : t ≤ now := by
    by_contra hlt
    rw [get_eq_some_of_lt hlock (not_le.mp hlt)] at hunlocked
    cases hunlocked
  exact ⟨hstart.trans ht, fun x hx => (htimes x hx).trans ht⟩

/-- 期間の過ぎた counter の後には、直前の失敗は三つまでである。 -/
theorem Counts.recent_of_expired {times : List ℚ} {n : Nat} {start now : ℚ} {r : Redis} {k : String}
    (h : Counts times n start (r.get? (lockKey k))) (hunlocked : r.get now (lockKey k) = none)
    (hexpired : start + windowSeconds ≤ now) :
    (times.filter fun x => decide (now - windowSeconds < x)).length ≤ 3 := by
  by_cases hn : maxAttempts ≤ n
  · have hnone : times.filter (fun x => decide (now - windowSeconds < x)) = [] := by
      refine List.filter_eq_nil_iff.mpr fun x hx hlt => ?_
      have hle := (h.expired hunlocked hn).2 x hx
      have hgt := of_decide_eq_true hlt
      linarith
    rw [hnone]
    exact Nat.zero_le _
  · have hsub : (times.filter fun x => decide (now - windowSeconds < x)).length ≤
        (times.filter fun x => decide (start < x)).length := by
      refine List.Sublist.length_le (List.monotone_filter_right _ fun x hx => ?_)
      have hgt := of_decide_eq_true hx
      exact decide_eq_true (by linarith)
    have hafter := h.after
    unfold maxAttempts at hn
    omega

/-- 二つの条件のどちらかを満たすものの数。 -/
theorem length_filter_le_add {p q q' : ℚ → Bool} (h : ∀ x, p x = true → q x = true ∨ q' x = true) :
    ∀ l : List ℚ, (l.filter p).length ≤ (l.filter q).length + (l.filter q').length
  | [] => Nat.zero_le _
  | x :: l => by
    have ih := length_filter_le_add h l
    have hx := h x
    simp only [List.filter_cons]
    cases hp : p x <;> cases hq : q x <;> cases hq' : q' x <;> simp [hp, hq, hq'] at hx ⊢ <;> omega

/-- **lock されていなければ、直前の期間に照合された誤った code は七つまでである。** -/
theorem RedisCounts.recent_le {past : List Attempt} {r : Redis} {k : String} {times : List ℚ}
    {now : ℚ} (h : RedisCounts past r k times) (hunlocked : r.get now (lockKey k) = none)
    (hpast : ∀ a ∈ past, a.time ≤ now) :
    (times.filter fun x => decide (now - windowSeconds < x)).length ≤ 7 := by
  unfold RedisCounts at h
  split at h
  · rw [h]
    exact Nat.zero_le _
  · next slot hslot =>
    obtain ⟨a, ha, hexpires, hc⟩ := h
    by_cases hexpired : a.time + windowSeconds ≤ now
    · exact (hc.recent_of_expired hunlocked hexpired).trans (by decide)
    · -- 今の期間の失敗と、その前の期間の残りに分ける
      have hn : ¬maxAttempts ≤ slot.value := fun hn => hexpired (hc.expired hunlocked hn).1
      have hstart := hpast a ha
      have hsplit : (times.filter fun x => decide (now - windowSeconds < x)).length ≤
          (times.filter fun x => decide (a.time - windowSeconds < x ∧ x < a.time)).length +
            (times.filter fun x => decide (a.time ≤ x)).length := by
        refine length_filter_le_add (fun x hx => ?_) times
        have hgt := of_decide_eq_true hx
        rcases lt_or_ge x a.time with hlt | hge
        · exact .inl (decide_eq_true ⟨by linarith, hlt⟩)
        · exact .inr (decide_eq_true hge)
      have hsince := hc.since
      have hbefore := hc.before
      unfold maxAttempts at hn
      omega

/-- 新しい失敗を書き加えた列の、条件を満たす数。 -/
theorem length_filter_concat (p : ℚ → Bool) (times : List ℚ) (now : ℚ) :
    ((times ++ [now]).filter p).length =
      (times.filter p).length + if p now then 1 else 0 := by
  rw [List.filter_append, List.length_append, List.filter_singleton]
  cases p now <;> rfl

/-- 新しい期間の始まり。 -/
theorem Counts.first {times : List ℚ} {now : ℚ} {lock : Option Slot}
    (hrecent : (times.filter fun x => decide (now - windowSeconds < x)).length ≤ 3)
    (hpast : ∀ x ∈ times, x < now) : Counts (times ++ [now]) 1 now lock := by
  have hnone : times.filter (fun x => decide (now ≤ x)) = [] :=
    List.filter_eq_nil_iff.mpr fun x hx h => absurd (of_decide_eq_true h) (not_le.mpr (hpast x hx))
  have hnone' : times.filter (fun x => decide (now < x)) = [] :=
    List.filter_eq_nil_iff.mpr fun x hx h => absurd (of_decide_eq_true h) (hpast x hx).not_gt
  refine ⟨?_, ?_, ?_, fun x hx => ?_, fun h => absurd h (by decide)⟩
  · rw [length_filter_concat, hnone', decide_eq_false (lt_irrefl now)]
    decide
  · rw [length_filter_concat, hnone, decide_eq_true (le_refl now)]
    decide
  · rw [length_filter_concat]
    simp only [lt_irrefl, and_false, decide_false, Bool.false_eq_true, if_false, Nat.add_zero]
    refine le_trans (List.Sublist.length_le (List.monotone_filter_right _ fun x hx => ?_)) hrecent
    exact decide_eq_true (of_decide_eq_true hx).1
  · unfold windowSeconds
    rcases List.mem_append.mp hx with hx | hx
    · linarith [hpast x hx]
    · rw [List.mem_singleton.mp hx]
      linarith

/-- 今の期間の、次の失敗。 -/
theorem Counts.next {times : List ℚ} {n : Nat} {start now : ℚ} {lock : Option Slot}
    (h : Counts times n start lock) (hstart : start ≤ now) (hlive : now < start + windowSeconds)
    (hpast : ∀ x ∈ times, x ≤ now) :
    Counts (times ++ [now]) (n + 1) start
      (if maxAttempts ≤ n + 1 then some ⟨1, some (now + windowSeconds)⟩ else lock) := by
  refine ⟨?_, ?_, ?_, fun x hx => ?_, fun hn => ?_⟩
  · rw [length_filter_concat]
    have hafter := h.after
    split <;> omega
  · rw [length_filter_concat]
    have hsince := h.since
    split <;> omega
  · rw [length_filter_concat, decide_eq_false fun hx => absurd hx.2 (not_lt.mpr hstart)]
    exact h.before
  · rcases List.mem_append.mp hx with hx | hx
    · exact h.fresh x hx
    · rwa [List.mem_singleton.mp hx]
  · rw [if_pos hn]
    refine ⟨1, _, rfl, by linarith, fun x hx => ?_⟩
    rcases List.mem_append.mp hx with hx | hx
    · linarith [hpast x hx]
    · rw [List.mem_singleton.mp hx]

theorem RedisCounts.later {past : List Attempt} {r : Redis} {k : String} {times : List ℚ}
    (h : RedisCounts past r k times) (a : Attempt) : RedisCounts (past ++ [a]) r k times := by
  unfold RedisCounts at h ⊢
  split
  · next hslot => rwa [hslot] at h
  · next slot hslot =>
    rw [hslot] at h
    obtain ⟨b, hb, hrest⟩ := h
    exact ⟨b, List.mem_append_left _ hb, hrest⟩

/-- **lock されていない間の失敗は、counter と lock についての不変量を保つ。** -/
theorem RedisCounts.wrong {past : List Attempt} {r : Redis} {k : String} {times : List ℚ}
    (h : RedisCounts past r k times) (a : Attempt) (hunlocked : r.get a.time (lockKey k) = none)
    (hpast : ∀ b ∈ past, b.time ≤ a.time) (htimes : ∀ x ∈ times, x ≤ a.time) :
    RedisCounts (past ++ [a]) (redisFailure a.time r k) k (times ++ [a.time]) := by
  have hcounter : (redisFailure a.time r k).get? (counterKey k) =
      some (r.counted a.time (counterKey k)) := by
    rw [get?_redisFailure, if_neg fun hx => counterKey_ne_lockKey k k hx.1, if_pos rfl]
  have hlock : (redisFailure a.time r k).get? (lockKey k) =
      if maxAttempts ≤ (r.counted a.time (counterKey k)).value then
        some ⟨1, some (a.time + windowSeconds)⟩ else r.get? (lockKey k) := by
    rw [get?_redisFailure, if_neg (c := lockKey k = counterKey k)
      (counterKey_ne_lockKey k k).symm]
    simp only [true_and]
  unfold RedisCounts at h ⊢
  rw [hcounter, hlock]
  dsimp only
  have hfirst : (times.filter fun x => decide (a.time - windowSeconds < x)).length ≤ 3 →
      (∀ x ∈ times, x < a.time) → r.get a.time (counterKey k) = none →
      ∃ b ∈ past ++ [a],
        (r.counted a.time (counterKey k)).expires = some (b.time + windowSeconds) ∧
        Counts (times ++ [a.time]) (r.counted a.time (counterKey k)).value b.time
          (if maxAttempts ≤ (r.counted a.time (counterKey k)).value then
            some ⟨1, some (a.time + windowSeconds)⟩ else r.get? (lockKey k)) := by
    intro hrecent hbefore hnone
    refine ⟨a, List.mem_append_right _ (List.mem_singleton_self _), ?_, ?_⟩
    · unfold Redis.counted
      rw [hnone]
      rfl
    · have hvalue : (r.counted a.time (counterKey k)).value = 1 := by
        unfold Redis.counted
        rw [hnone]
      rw [hvalue]
      exact Counts.first hrecent hbefore
  split at h
  · next hslot =>
    subst h
    refine hfirst (Nat.zero_le _) (fun x hx => absurd hx List.not_mem_nil) ?_
    unfold Redis.get
    rw [hslot, Option.filter_none]
  · next slot hslot =>
    obtain ⟨b, hb, hexpires, hc⟩ := h
    have hslot' : r.get? (counterKey k) = some ⟨slot.value, some (b.time + windowSeconds)⟩ := by
      rw [hslot, ← hexpires]
    rcases le_or_gt (b.time + windowSeconds) a.time with hexpired | hlive
    · refine hfirst (hc.recent_of_expired hunlocked hexpired)
        (fun x hx => (hc.fresh x hx).trans_le hexpired) (get_eq_none_of_le hslot' hexpired)
    · have hget := get_eq_some_of_lt hslot' hlive
      have hpos : slot.value + 1 ≠ 1 := by
        have := hc.after
        omega
      have hcounted : r.counted a.time (counterKey k) =
          ⟨slot.value + 1, some (b.time + windowSeconds)⟩ := by
        unfold Redis.counted
        rw [hget]
        exact if_neg hpos
      rw [hcounted]
      exact ⟨b, List.mem_append_left _ hb, rfl, hc.next (hpast b hb) hlive htimes⟩

/-! ## 実行 -/

/-- 新しい誤った code を含む期間の数は、直前の数より一つだけ多い。 -/
theorem within_concat_le {times : List ℚ} {now : ℚ} {n : Nat}
    (hrecent : (times.filter fun x => decide (now - windowSeconds < x)).length ≤ n)
    (hbound : ∀ t, within t times ≤ n + 1) (t : ℚ) : within t (times ++ [now]) ≤ n + 1 := by
  unfold within
  rw [length_filter_concat]
  split
  · next hin =>
    obtain ⟨hle, hlt⟩ := of_decide_eq_true hin
    refine Nat.add_le_add_right (le_trans (List.Sublist.length_le
      (List.monotone_filter_right _ fun x hx => ?_)) hrecent) 1
    exact decide_eq_true (by linarith [(of_decide_eq_true hx).1])
  · exact hbound t

/-- 列の時刻は、要求の時刻である。 -/
def TimesOf (past : List Attempt) (times : List ℚ) : Prop := ∀ x ∈ times, ∃ a ∈ past, a.time = x

theorem timesOf_note {up : Bool} {user : String} {past : List Attempt} {s : Store} {times : List ℚ}
    (h : TimesOf past times) (a : Attempt) : TimesOf (past ++ [a]) (note up user s times a) := by
  have hkeep : TimesOf (past ++ [a]) times := by
    intro x hx
    obtain ⟨b, hb, hbx⟩ := h x hx
    exact ⟨b, List.mem_append_left _ hb, hbx⟩
  unfold note
  split
  · cases verdict s a with
    | refused | aborted => exact hkeep
    | accepted => exact fun x hx => absurd hx List.not_mem_nil
    | wrong | uncounted =>
      intro x hx
      rcases List.mem_append.mp hx with hx | hx
      · exact hkeep x hx
      · exact ⟨a, List.mem_append_right _ (List.mem_singleton_self _), (List.mem_singleton.mp hx).symm⟩
  · exact hkeep

theorem TimesOf.le {past : List Attempt} {times : List ℚ} (h : TimesOf past times) {now : ℚ}
    (hpast : ∀ a ∈ past, a.time ≤ now) : ∀ x ∈ times, x ≤ now := by
  intro x hx
  obtain ⟨a, ha, rfl⟩ := h x hx
  exact hpast a ha

/-- Redis に届く要求についての、実行の間の不変量。 -/
def UpBounded (user : String) (past : List Attempt) (s : Store) (times : List ℚ) : Prop :=
  TimesOf past times ∧ RedisCounts past s.redis (userKey user) times ∧ ∀ t, within t times ≤ 8

/-- Redis に届かない要求についての、実行の間の不変量。 -/
def DownBounded (user : String) (past : List Attempt) (s : Store) (times : List ℚ) : Prop :=
  TimesOf past times ∧ MemCounts ((s.mem.get? (userKey user)).getD []) times ∧
    ∀ t, within t times ≤ 5

variable {user : String} {past : List Attempt} {s : Store} {times : List ℚ} {a : Attempt}

/-- Redis の counter と lock が変わらなければ、不変量は保たれる。 -/
theorem RedisCounts.congr {r r' : Redis} {k : String} (h : RedisCounts past r k times)
    (hcounter : r'.get? (counterKey k) = r.get? (counterKey k))
    (hlock : r'.get? (lockKey k) = r.get? (lockKey k)) : RedisCounts past r' k times := by
  unfold RedisCounts at h ⊢
  rw [hcounter, hlock]
  exact h

theorem upBounded_step (h : UpBounded user past s times) (hpast : ∀ b ∈ past, b.time ≤ a.time)
    (hhashed : Hashed user a) :
    UpBounded user (past ++ [a]) (step s a) (note true user s times a) := by
  obtain ⟨htimes, hredis, hwithin⟩ := h
  refine ⟨timesOf_note htimes a, ?_⟩
  by_cases huser : a.user = user
  · subst huser
    unfold note step
    cases hup : a.up with
    | false =>
      -- memory だけが変わる
      rw [if_neg fun h => Bool.false_ne_true h.2]
      refine ⟨?_, hwithin⟩
      cases verdict s a <;> exact hredis.later a
    | true =>
      rw [if_pos ⟨rfl, rfl⟩]
      cases hverdict : verdict s a with
      | refused | aborted => exact ⟨hredis.later a, hwithin⟩
      | uncounted => exact absurd hverdict (hhashed.verdict_ne rfl)
      | accepted =>
        have hnone : (recordMfaSuccess s true (userKey a.user)).redis.get?
            (counterKey (userKey a.user)) = none := by
          show ((s.redis.erase _).erase _).get? _ = _
          rw [Dict.get?_erase_of_ne _ (counterKey_ne_lockKey _ _), Dict.get?_erase_self]
        refine ⟨?_, fun t => Nat.zero_le _⟩
        unfold RedisCounts
        dsimp only
        rw [hnone]
      | wrong =>
        have hunlocked : s.redis.get a.time (lockKey (userKey a.user)) = none := by
          unfold verdict mfaLocked at hverdict
          rw [hup, if_pos rfl] at hverdict
          cases hget : s.redis.get a.time (lockKey (userKey a.user)) with
          | none => rfl
          | some v =>
            rw [hget] at hverdict
            cases hverdict
        exact ⟨hredis.wrong a hunlocked hpast (htimes.le hpast),
          within_concat_le (hredis.recent_le hunlocked hpast) hwithin⟩
  · unfold note
    rw [if_neg fun h => huser h.1]
    obtain ⟨hcounter, hlock⟩ := redis_step_other huser
    exact ⟨(hredis.congr hcounter hlock).later a, hwithin⟩

/-- ほかの人の要求は、memory の失敗に触れない。 -/
theorem mem_step_other (h : a.user ≠ user) :
    (step s a).mem.get? (userKey user) = s.mem.get? (userKey user) := by
  have hkey : userKey user ≠ userKey a.user := fun heq => h (userKey_injective heq).symm
  unfold step
  cases verdict s a with
  | refused | aborted | uncounted => rfl
  | accepted =>
    dsimp only
    unfold recordMfaSuccess
    split
    · rfl
    · exact Dict.get?_erase_of_ne _ hkey
  | wrong =>
    dsimp only
    unfold recordMfaFailure
    split
    · rfl
    · exact Dict.get?_set_of_ne _ _ hkey.symm

/-- lock されていなければ、直前の期間に照合された誤った code は四つまでである。 -/
theorem MemCounts.recent_le {hits : List ℚ} {now : ℚ} (h : MemCounts hits times)
    (htimes : ∀ x ∈ times, x ≤ now)
    (hunlocked : ¬maxAttempts ≤ (hits.filter fun x => decide (now - x < windowSeconds)).length) :
    (times.filter fun x => decide (now - windowSeconds < x)).length ≤ 4 := by
  have hsame : (times.filter fun x => decide (now - windowSeconds < x)) =
      times.filter fun x => decide (now - x < windowSeconds) :=
    List.filter_congr fun x _ => decide_eq_decide.mpr sub_lt_comm
  have hle := h now htimes
  unfold maxAttempts at hunlocked
  rw [hsame]
  omega

theorem downBounded_step (h : DownBounded user past s times)
    (hpast : ∀ b ∈ past, b.time ≤ a.time) (hhashed : Hashed user a) :
    DownBounded user (past ++ [a]) (step s a) (note false user s times a) := by
  obtain ⟨htimes, hmem, hwithin⟩ := h
  refine ⟨timesOf_note htimes a, ?_⟩
  by_cases huser : a.user = user
  · subst huser
    unfold note step
    cases hup : a.up with
    | true =>
      -- Redis だけが変わる
      rw [if_neg fun h => Bool.false_ne_true h.2.symm]
      refine ⟨?_, hwithin⟩
      cases verdict s a <;> exact hmem
    | false =>
      rw [if_pos ⟨rfl, rfl⟩]
      cases hverdict : verdict s a with
      | refused | aborted => exact ⟨hmem, hwithin⟩
      | uncounted => exact absurd hverdict (hhashed.verdict_ne rfl)
      | accepted =>
        exact ⟨fun now _ => Nat.zero_le _, fun t => Nat.zero_le _⟩
      | wrong =>
        have hunlocked : ¬maxAttempts ≤ (memHits s.mem a.time (userKey a.user)).length := by
          intro hle
          unfold verdict mfaLocked at hverdict
          rw [hup, if_neg Bool.false_ne_true, decide_eq_true hle] at hverdict
          cases hverdict
        have hget : (recordMfaFailure s a.time false (userKey a.user)).mem.get? (userKey a.user) =
            some (memHits s.mem a.time (userKey a.user) ++ [a.time]) := Dict.get?_set_self _ _ _
        refine ⟨?_, within_concat_le (hmem.recent_le (htimes.le hpast) hunlocked) hwithin⟩
        dsimp only
        rw [hget]
        exact hmem.wrong a.time
  · unfold note
    rw [if_neg fun h => huser h.1, mem_step_other huser]
    exact ⟨hmem, hwithin⟩

theorem exec_watch (up : Bool) (user : String) : ∀ (evs : List Attempt) (p : Store × List ℚ),
    (Run.exec (watch up user) p evs).1 = Run.exec step p.1 evs
  | [], _ => rfl
  | a :: evs, p => exec_watch up user evs (watch up user p a)

theorem guesses_concat (up : Bool) (user : String) (evs : List Attempt) (a : Attempt) :
    guesses up user (evs ++ [a]) =
      note up user (Run.exec step {} evs) (guesses up user evs) a := by
  unfold guesses
  rw [Run.exec_append, ← exec_watch up user evs ({}, [])]
  rfl

/-- 一人の誤った code の列。 -/
def wrongAt (up : Bool) (times : List Nat) : List Attempt :=
  times.map fun t => { user := "u-1", time := t, up, totp := .unmatched }

/-- 誤った code と、文字列でない recovery code の要求。 -/
def unhashedAt (up : Bool) (user : String) (t : ℚ) : Attempt where
  user := user
  time := t
  up := up
  totp := .unmatched
  recovery := some .raised

/-- 失敗を数えずに終わる要求は、状態を変えない。 -/
theorem exec_unhashed (up : Bool) (user : String) (t : ℚ) : ∀ n,
    Run.exec step {} (List.replicate n (unhashedAt up user t)) = {}
  | 0 => rfl
  | n + 1 => by
    have hstep : step {} (unhashedAt up user t) = {} := by cases up <;> rfl
    show Run.exec step (step {} (unhashedAt up user t)) _ = _
    rw [hstep]
    exact exec_unhashed up user t n

/-- **例外で終わる要求の code は、同じ時刻にいくつでも照合される。** -/
theorem guesses_unbounded (up : Bool) (user : String) (t : ℚ) (n : Nat) :
    within t (guesses up user (List.replicate n (unhashedAt up user t))) = n := by
  have hguesses : ∀ n, guesses up user (List.replicate n (unhashedAt up user t)) =
      List.replicate n t := by
    intro n
    induction n with
    | zero => rfl
    | succ n ih =>
      have hnote : ∀ times, note up user {} times (unhashedAt up user t) = times ++ [t] := by
        intro times
        unfold note
        rw [if_pos ⟨rfl, rfl⟩]
        cases up <;> rfl
      rw [List.replicate_succ', guesses_concat, exec_unhashed, ih, hnote, ← List.replicate_succ']
  have hin : decide (t ≤ t ∧ t < t + windowSeconds) = true :=
    decide_eq_true ⟨le_refl t, lt_add_of_pos_right t (by unfold windowSeconds; norm_num)⟩
  unfold within
  rw [hguesses, List.filter_replicate, if_pos hin, List.length_replicate]

end CipherPost.Core.MfaLock
