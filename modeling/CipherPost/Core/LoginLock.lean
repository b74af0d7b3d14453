import Mathlib.Data.List.Infix
import Mathlib.Data.Rat.Defs
import Mathlib.Data.String.Basic
import CipherPost.Infra.Dict
import CipherPost.Infra.Run

/-!
# login の lock

`app/core/auth.py` の lock と、それを呼ぶ `app/api/main.py` の `login`。Redis が使えれば Redis に、使えなければ
process の memory に数える。時刻は `time.time()` で、Redis の key は期限の時刻に消えるとする。

* `Redis` — `login` の使う Redis の command
* `redisFailure`・`redisSuccess`・`redisLocked` — Redis に数える側
* `memFailure`・`memSuccess`・`memLocked` — memory に数える側
* `get?_redisHit`・`failures_memHit`・`locks_memHit` — key 一つの失敗が変えるところ
-/

namespace CipherPost.Core.LoginLock

/-! ## 設定 -/

/-- `_LOGIN_MAX_ATTEMPTS`。 -/
def maxAttempts : Nat := 5

/-- `_LOGIN_WINDOW_SECONDS`。 -/
def windowSeconds : ℚ := 300

/-- `_LOGIN_LOCK_SECONDS`。 -/
def lockSeconds : ℚ := 900

/-- `_LOGIN_IP_MAX_ATTEMPTS`。 -/
def ipMaxAttempts : Nat := 20

/-! ## key -/

/-- 失敗を数える相手。 -/
inductive Bucket where
  | acct (email : String)
  | ip (addr : String)
  deriving Repr, DecidableEq

/-- `login` の `acct_key` と `ip_key`。 -/
def Bucket.key : Bucket → String
  | .acct email => "login:acct:" ++ email
  | .ip addr => "login:ip:" ++ addr

/-- lock の key。 -/
def lockKey (k : String) : String := k ++ ":lock"

/-- 失敗の上限。 -/
def Bucket.limit : Bucket → Nat
  | .acct _ => maxAttempts
  | .ip _ => ipMaxAttempts

/-- 名前が `:lock` で終わり、その key が別の相手の lock の key になる。 -/
def Bucket.Shadows : Bucket → Prop
  | .acct email => ∃ name, email = name ++ ":lock"
  | .ip addr => ∃ name, addr = name ++ ":lock"

theorem exists_append_iff (s t : String) : (∃ name, s = name ++ t) ↔ t.toList <:+ s.toList := by
  constructor
  · rintro ⟨name, rfl⟩
    rw [String.toList_append]
    exact List.suffix_append _ _
  · rintro ⟨name, h⟩
    refine ⟨String.ofList name, String.toList_injective ?_⟩
    rw [String.toList_append, String.toList_ofList, h]

instance : DecidablePred Bucket.Shadows
  | .acct email => decidable_of_iff _ (exists_append_iff email ":lock").symm
  | .ip addr => decidable_of_iff _ (exists_append_iff addr ":lock").symm

/-! ## Redis -/

/-- Redis の値。値は正の整数の文字列で、`expires` は消える時刻である。 -/
structure Slot where
  value : Nat
  expires : Option ℚ
  deriving DecidableEq

/-- Redis の keyspace。 -/
abbrev Redis := Dict String Slot

namespace Redis

/-- まだ消えていない。 -/
def alive (now : ℚ) (s : Slot) : Bool := (s.expires.map fun t => decide (now < t)).getD true

/-- `GET`。 -/
def get (r : Redis) (now : ℚ) (k : String) : Option Slot := (r.get? k).filter (alive now)

/-- `INCR`。期限は変わらない。 -/
def incr (r : Redis) (now : ℚ) (k : String) : Nat × Redis :=
  match r.get now k with
  | some s => (s.value + 1, r.set k { s with value := s.value + 1 })
  | none => (1, r.set k { value := 1, expires := none })

/-- `EXPIRE`。 -/
def expire (r : Redis) (now : ℚ) (k : String) (seconds : ℚ) : Redis :=
  match r.get now k with
  | some s => r.set k { s with expires := some (now + seconds) }
  | none => r

/-- `SETEX`。値は `1` である。 -/
def setex (r : Redis) (now : ℚ) (k : String) (seconds : ℚ) : Redis :=
  r.set k { value := 1, expires := some (now + seconds) }

end Redis

/-- `record_login_failure` の Redis の loop の一回り。 -/
def redisHit (now : ℚ) (r : Redis) (k : String) (limit : Nat) : Redis :=
  let n := (r.incr now k).1
  let r := (r.incr now k).2
  let r := if n = 1 then r.expire now k windowSeconds else r
  if limit ≤ n then r.setex now (lockKey k) lockSeconds else r

/-- `record_login_failure`。 -/
def redisFailure (now : ℚ) (r : Redis) (accountKey ipKey : String) : Redis :=
  redisHit now (redisHit now r accountKey maxAttempts) ipKey ipMaxAttempts

/-- `record_login_success`。`r.delete(account_key, ip_key)`。 -/
def redisSuccess (r : Redis) (accountKey ipKey : String) : Redis :=
  (r.erase accountKey).erase ipKey

/-- key の lock。 -/
def redisLocked (r : Redis) (now : ℚ) (k : String) : Bool := (r.get now (lockKey k)).isSome

/-- `is_login_locked`。 -/
def isLoginLockedRedis (r : Redis) (now : ℚ) (accountKey ipKey : String) : Bool :=
  redisLocked r now accountKey || redisLocked r now ipKey

/-! ## memory -/

/-- `_mem_failures` と `_mem_locks`。 -/
structure Mem where
  failures : Dict String (List ℚ) := Dict.empty
  locks : Dict String ℚ := Dict.empty

/-- 数えている間の失敗である。 -/
def recent (now t : ℚ) : Bool := decide (now - t < windowSeconds)

/-- `_mem_prune` の残す失敗。 -/
def memHits (m : Mem) (now : ℚ) (k : String) : List ℚ :=
  ((m.failures.get? k).getD []).filter (recent now)

/-- `record_login_failure` の memory の loop の一回り。 -/
def memHit (now : ℚ) (m : Mem) (k : String) (limit : Nat) : Mem :=
  let hits := memHits m now k ++ [now]
  { failures := m.failures.set k hits
    locks := if limit ≤ hits.length then m.locks.set k (now + lockSeconds) else m.locks }

/-- `record_login_failure`。 -/
def memFailure (now : ℚ) (m : Mem) (accountKey ipKey : String) : Mem :=
  memHit now (memHit now m accountKey maxAttempts) ipKey ipMaxAttempts

/-- `record_login_success`。IP の失敗は消さない。 -/
def memSuccess (m : Mem) (accountKey : String) : Mem :=
  { m with failures := m.failures.erase accountKey }

/-- key の lock。`until` が無ければ 0 で、0 は lock でない。 -/
def memLocked (m : Mem) (now : ℚ) (k : String) : Bool :=
  let lockedUntil := (m.locks.get? k).getD 0
  decide (lockedUntil ≠ 0 ∧ now < lockedUntil)

/-- `is_login_locked`。 -/
def isLoginLockedMem (m : Mem) (now : ℚ) (accountKey ipKey : String) : Bool :=
  memLocked m now accountKey || memLocked m now ipKey

/-! ## login -/

/-- login の試み。時刻は epoch からの秒数で、空の email は `unknown` として数える。 -/
structure Attempt where
  time : ℚ
  succeeded : Bool
  email : String
  addr : String
  time_nonneg : 0 ≤ time

/-- 二つの数え方の状態。 -/
structure Paths where
  redis : Redis := Dict.empty
  mem : Mem := {}

/-- 試みの結果を、両方の数え方で記録する。 -/
def Paths.record (p : Paths) (a : Attempt) : Paths :=
  let accountKey := (Bucket.acct a.email).key
  let ipKey := (Bucket.ip a.addr).key
  if a.succeeded then
    { redis := redisSuccess p.redis accountKey ipKey, mem := memSuccess p.mem accountKey }
  else
    { redis := redisFailure a.time p.redis accountKey ipKey
      mem := memFailure a.time p.mem accountKey ipKey }

/-! ## key の重なり -/

theorem lockKey_injective {k k' : String} (h : lockKey k = lockKey k') : k = k' := by
  have hlist := congrArg String.toList h
  unfold lockKey at hlist
  rw [String.toList_append, String.toList_append] at hlist
  exact String.toList_injective (List.append_cancel_right hlist)

/-- 相手が違えば key も違う。 -/
theorem Bucket.key_injective {b b' : Bucket} (h : b.key = b'.key) : b = b' := by
  have hlist := congrArg String.toList h
  cases b <;> cases b' <;> unfold Bucket.key at hlist <;>
    rw [String.toList_append, String.toList_append] at hlist
  · rw [String.toList_injective (List.append_cancel_left hlist)]
  · simp at hlist
  · simp at hlist
  · rw [String.toList_injective (List.append_cancel_left hlist)]

/-- 失敗を数える key が別の相手の lock の key になるのは、名前が `:lock` で終わるときである。 -/
theorem Bucket.shadows_of_key {b b' : Bucket} (h : b'.key = lockKey b.key) : b'.Shadows := by
  have hlist := congrArg String.toList h
  unfold lockKey at hlist
  cases b <;> cases b' <;> unfold Bucket.key at hlist <;>
    rw [String.toList_append, String.toList_append, String.toList_append, List.append_assoc] at hlist
  · next email email' =>
    refine ⟨email, String.toList_injective ?_⟩
    rw [String.toList_append]
    exact List.append_cancel_left hlist
  · simp at hlist
  · simp at hlist
  · next addr addr' =>
    refine ⟨addr, String.toList_injective ?_⟩
    rw [String.toList_append]
    exact List.append_cancel_left hlist

/-! ## 一つの key の失敗 -/

/-- 数えた後の値。数え始めた時から `windowSeconds` で消える。 -/
def Redis.counted (r : Redis) (now : ℚ) (k : String) : Slot :=
  match r.get now k with
  | some s =>
    if s.value + 1 = 1 then { value := 1, expires := some (now + windowSeconds) }
    else { s with value := s.value + 1 }
  | none => { value := 1, expires := some (now + windowSeconds) }

theorem get_set_self (r : Redis) (now : ℚ) (k : String) {s : Slot}
    (h : Redis.alive now s = true) : Redis.get (r.set k s) now k = some s := by
  unfold Redis.get
  rw [Dict.get?_set_self, Option.filter_some, if_pos h]

/-- `EXPIRE` は、残っている値の期限だけを変える。 -/
theorem get?_expire {r : Redis} {now : ℚ} {k : String} {s : Slot} (h : Redis.get r now k = some s)
    (seconds : ℚ) (x : String) : (Redis.expire r now k seconds).get? x =
      if x = k then some { s with expires := some (now + seconds) } else r.get? x := by
  unfold Redis.expire
  rw [h]
  simp only
  rw [Dict.get?_set]
  simp only [eq_comm]

/-- `INCR` と `EXPIRE` の後の値。 -/
theorem get?_counted (r : Redis) (now : ℚ) (k x : String) :
    (r.incr now k).1 = (r.counted now k).value ∧
      (if (r.incr now k).1 = 1 then (r.incr now k).2.expire now k windowSeconds
        else (r.incr now k).2).get? x = if x = k then some (r.counted now k) else r.get? x := by
  unfold Redis.incr Redis.counted
  cases hget : r.get now k with
  | none =>
    refine ⟨rfl, ?_⟩
    simp only [if_true]
    rw [get?_expire (get_set_self r now k rfl), Dict.get?_set]
    by_cases hx : x = k
    · rw [if_pos hx, if_pos hx]
    · rw [if_neg hx, if_neg hx, if_neg (Ne.symm hx)]
  | some s =>
    have halive : Redis.alive now s = true := (Option.filter_eq_some_iff.mp hget).2
    simp only
    by_cases hone : s.value + 1 = 1
    · rw [if_pos hone, if_pos hone]
      refine ⟨hone, ?_⟩
      rw [get?_expire (get_set_self r now k (s := { s with value := s.value + 1 }) halive),
        Dict.get?_set, hone]
      by_cases hx : x = k
      · rw [if_pos hx, if_pos hx]
      · rw [if_neg hx, if_neg hx, if_neg (Ne.symm hx)]
    · rw [if_neg hone, if_neg hone]
      refine ⟨rfl, ?_⟩
      rw [Dict.get?_set]
      simp only [eq_comm]

/-- **失敗が Redis で変えるのは、数える key と、上限に届いたときの lock の key だけである。** -/
theorem get?_redisHit (now : ℚ) (r : Redis) (k : String) (limit : Nat) (x : String) :
    (redisHit now r k limit).get? x =
      if x = lockKey k ∧ limit ≤ (r.counted now k).value then
        some { value := 1, expires := some (now + lockSeconds) }
      else if x = k then some (r.counted now k) else r.get? x := by
  obtain ⟨hvalue, hget⟩ := get?_counted r now k x
  unfold redisHit
  simp only
  rw [← hvalue]
  by_cases hlimit : limit ≤ (r.incr now k).1
  · rw [if_pos hlimit, Redis.setex, Dict.get?_set, hget]
    simp only [hlimit, and_true, eq_comm]
  · have hnot : ¬(x = lockKey k ∧ limit ≤ (r.incr now k).1) := fun h => hlimit h.2
    rw [if_neg hlimit, hget, if_neg hnot]

/-- **失敗が memory で変えるのは、その key だけである。** -/
theorem failures_memHit (now : ℚ) (m : Mem) (k : String) (limit : Nat) (x : String) :
    (memHit now m k limit).failures.get? x =
      if x = k then some (memHits m now k ++ [now]) else m.failures.get? x := by
  unfold memHit
  rw [Dict.get?_set]
  simp only [eq_comm]

theorem locks_memHit (now : ℚ) (m : Mem) (k : String) (limit : Nat) (x : String) :
    (memHit now m k limit).locks.get? x =
      if x = k ∧ limit ≤ (memHits m now k).length + 1 then some (now + lockSeconds)
      else m.locks.get? x := by
  unfold memHit
  simp only
  rw [List.length_append, List.length_singleton]
  split
  · next hlimit =>
    rw [Dict.get?_set]
    simp only [hlimit, and_true, eq_comm]
  · next hlimit => rw [if_neg fun h => hlimit h.2]

end CipherPost.Core.LoginLock
