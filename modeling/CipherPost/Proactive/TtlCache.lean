import Mathlib.Algebra.Ring.Int.Defs
import Mathlib.Order.Lattice
import CipherPost.Infra.Dict
import CipherPost.Infra.Run

/-!
# 期限つきの cache

`app/proactive/mta_sts.py` の `TTLCache`。`put` は満杯なら期限の近いものから一割を捨て、`get` は期限の過ぎた
ものをその時に捨てる。時刻は呼び出しごとに受け取り、その順序は問わない。足し算は丸めてもよい。

* `TTLCache.get`・`TTLCache.put` — 二つの操作
* `TTLCache.evictionKeys` — 満杯のときに捨てる key
* `CacheOp`・`TTLCache.step` — 操作の列
* `LatestPut` — ある key への、期限が正の最後の `put`
* `ttlCache_sound` — 大きさの上限と、`get` の返すもの
-/

namespace CipherPost.Proactive

/-- `TTLCache`。`data` は key ごとの期限と値である。 -/
structure TTLCache (κ τ V : Type) [DecidableEq κ] where
  maxEntries : Nat
  data : Dict κ (τ × V)

variable {κ τ V : Type} [DecidableEq κ]

namespace TTLCache

variable [LinearOrder τ]

/-- `TTLCache(max_entries)`。 -/
def new (maxEntries : Nat) : TTLCache κ τ V := ⟨maxEntries, Dict.empty⟩

/-- `get`。返す値と、その後の cache。 -/
def get (cache : TTLCache κ τ V) (key : κ) (now : τ) : Option V × TTLCache κ τ V :=
  match cache.data.get? key with
  | none => (none, cache)
  | some (exp, val) =>
    if exp < now then (none, { cache with data := cache.data.erase key }) else (some val, cache)

/-- 期限の近い順に並べた中身。 -/
def byExpiry (cache : TTLCache κ τ V) : List (κ × τ × V) :=
  cache.data.entries.mergeSort fun a b => decide (a.2.1 ≤ b.2.1)

/-- 満杯のときに捨てる key。一割か、少なくとも一つである。 -/
def evictionKeys (cache : TTLCache κ τ V) : List κ :=
  (cache.byExpiry.map Prod.fst).take (max 1 (cache.maxEntries / 10))

/-- 満杯なら捨てた後の中身。 -/
def evicted (cache : TTLCache κ τ V) : Dict κ (τ × V) :=
  if cache.maxEntries ≤ cache.data.size then cache.data.eraseAll cache.evictionKeys else cache.data

/-- `put`。`now` は期限を決める時刻である。 -/
def put [Add τ] [Zero τ] (cache : TTLCache κ τ V) (key : κ) (value : V) (ttl now : τ) :
    TTLCache κ τ V :=
  if ttl ≤ 0 then cache else { cache with data := cache.evicted.set key (now + ttl, value) }

/-! ## 捨てる key -/

variable {cache : TTLCache κ τ V}

theorem mem_byExpiry_iff {k : κ} {v : τ × V} :
    (k, v) ∈ cache.byExpiry ↔ cache.data.get? k = some v := by
  rw [byExpiry, List.mem_mergeSort]
  exact Dict.mem_entries_iff _ _ _

/-- 空でない cache は、持っている key を少なくとも一つ捨てる。 -/
theorem exists_evictionKey (h : cache.data.size ≠ 0) :
    ∃ k v, k ∈ cache.evictionKeys ∧ cache.data.get? k = some v := by
  obtain ⟨n, hn⟩ : ∃ n, max 1 (cache.maxEntries / 10) = n + 1 :=
    Nat.exists_eq_add_one_of_ne_zero (by omega)
  have hlen : cache.byExpiry.length = cache.data.size := List.length_mergeSort _
  cases hsort : cache.byExpiry with
  | nil => exact absurd (hlen.symm.trans (congrArg List.length hsort)) h
  | cons e rest =>
    have hmem : (e.1, e.2) ∈ cache.byExpiry := hsort ▸ List.mem_cons_self
    refine ⟨e.1, e.2, ?_, mem_byExpiry_iff.mp hmem⟩
    rw [evictionKeys, hsort, hn, List.map_cons, List.take_succ_cons]
    exact List.mem_cons_self

/-- 残る中身は、捨てる前の中身である。 -/
theorem get?_of_evicted {k : κ} {v : τ × V} (h : cache.evicted.get? k = some v) :
    cache.data.get? k = some v := by
  unfold evicted at h
  split at h
  · rw [Dict.get?_eraseAll] at h
    split at h
    · cases h
    · exact h
  · exact h

/-- 捨てた後には、もう一つ入る。 -/
theorem size_evicted_lt (hmax : 1 ≤ cache.maxEntries)
    (hsize : cache.data.size ≤ cache.maxEntries) : cache.evicted.size < cache.maxEntries := by
  unfold evicted
  split
  · next hfull =>
    have hne : cache.data.size ≠ 0 := by omega
    obtain ⟨k, v, hk, hget⟩ := exists_evictionKey hne
    exact Nat.lt_of_lt_of_le (Dict.size_eraseAll_lt hk hget) hsize
  · next hroom => exact Nat.lt_of_not_le hroom

/-! ## 二つの操作 -/

/-- `get` の後の中身は、前の中身である。 -/
theorem get?_get {key k : κ} {now : τ} {v : τ × V} (h : (cache.get key now).2.data.get? k = some v) :
    cache.data.get? k = some v := by
  unfold get at h
  cases hg : cache.data.get? key with
  | none => rwa [hg] at h
  | some hit =>
    rw [hg] at h
    dsimp only at h
    split at h
    · have hne : k ≠ key := by
        rintro rfl
        rw [Dict.get?_erase_self] at h
        cases h
      rwa [Dict.get?_erase_of_ne _ hne] at h
    · exact h

/-- `get` が返すのは、期限の過ぎていない中身である。 -/
theorem get_eq_some {key : κ} {now : τ} {val : V} (h : (cache.get key now).1 = some val) :
    ∃ exp, cache.data.get? key = some (exp, val) ∧ now ≤ exp := by
  unfold get at h
  cases hg : cache.data.get? key with
  | none => rw [hg] at h; cases h
  | some hit =>
    rw [hg] at h
    dsimp only at h
    split at h
    · cases h
    · next hlive =>
      rw [← Option.some.inj h]
      exact ⟨hit.1, rfl, not_lt.mp hlive⟩

theorem maxEntries_get (cache : TTLCache κ τ V) (key : κ) (now : τ) :
    (cache.get key now).2.maxEntries = cache.maxEntries := by
  unfold get
  split
  · rfl
  · split <;> rfl

theorem size_get_le (cache : TTLCache κ τ V) (key : κ) (now : τ) :
    (cache.get key now).2.data.size ≤ cache.data.size := by
  refine Dict.size_le_of_get? fun k hnone => ?_
  cases hget : (cache.get key now).2.data.get? k with
  | none => rfl
  | some v => rw [get?_get hget] at hnone; cases hnone

variable [Add τ] [Zero τ]

@[simp] theorem maxEntries_put (cache : TTLCache κ τ V) (key : κ) (value : V) (ttl now : τ) :
    (cache.put key value ttl now).maxEntries = cache.maxEntries := by
  unfold put
  split <;> rfl

/-- 期限が正の `put` は、その key の中身を置き換え、ほかの key の中身を増やさない。 -/
theorem get?_put {key k : κ} {value : V} {ttl now : τ} {v : τ × V}
    (h : (cache.put key value ttl now).data.get? k = some v) :
    (0 < ttl ∧ key = k ∧ v = (now + ttl, value)) ∨
      (¬(0 < ttl ∧ key = k) ∧ cache.data.get? k = some v) := by
  unfold put at h
  split at h
  · next hzero => exact .inr ⟨fun hc => not_lt.mpr hzero hc.1, h⟩
  · next hpos =>
    dsimp only at h
    rw [Dict.get?_set] at h
    split at h
    · next heq => exact .inl ⟨not_le.mp hpos, heq, (Option.some.inj h).symm⟩
    · next hne => exact .inr ⟨fun hc => hne hc.2, get?_of_evicted h⟩

/-- 置いた値は、期限までは直後の `get` で得られる。 -/
theorem get_put_self {key : κ} {value : V} {ttl now now' : τ} (hpos : 0 < ttl)
    (hlive : now' ≤ now + ttl) : ((cache.put key value ttl now).get key now').1 = some value := by
  rw [put, if_neg (not_le.mpr hpos), get]
  dsimp only
  rw [Dict.get?_set_self]
  dsimp only
  rw [if_neg (not_lt.mpr hlive)]

theorem size_put_le (hmax : 1 ≤ cache.maxEntries) (hsize : cache.data.size ≤ cache.maxEntries)
    (key : κ) (value : V) (ttl now : τ) :
    (cache.put key value ttl now).data.size ≤ cache.maxEntries := by
  unfold put
  split
  · exact hsize
  · have hlt := size_evicted_lt hmax hsize
    dsimp only
    rw [Dict.size_set]
    split <;> omega

end TTLCache

/-! ## 操作の列 -/

/-- cache への操作と、その時刻。 -/
inductive CacheOp (κ τ V : Type) where
  | put (key : κ) (value : V) (ttl now : τ)
  | get (key : κ) (now : τ)

variable [LinearOrder τ] [Zero τ]

/-- `key` への、期限が正の `put`。 -/
def CacheOp.Puts (key : κ) : CacheOp κ τ V → Prop
  | .put key' _ ttl _ => 0 < ttl ∧ key' = key
  | .get _ _ => False

/-- 操作の列の、`key` への期限が正の最後の `put` は、時刻 `now` に `value` を `ttl` だけ置いたものである。 -/
def LatestPut (ops : List (CacheOp κ τ V)) (key : κ) (value : V) (ttl now : τ) : Prop :=
  0 < ttl ∧ ∃ before after, ops = before ++ .put key value ttl now :: after ∧
    ∀ op ∈ after, ¬op.Puts key

omit [DecidableEq κ] in
theorem LatestPut.concat {ops : List (CacheOp κ τ V)} {key : κ} {value : V} {ttl now : τ}
    {op : CacheOp κ τ V} (h : LatestPut ops key value ttl now) (hop : ¬op.Puts key) :
    LatestPut (ops ++ [op]) key value ttl now := by
  obtain ⟨hpos, before, after, rfl, hafter⟩ := h
  refine ⟨hpos, before, after ++ [op], ?_, ?_⟩
  · rw [List.append_assoc, List.cons_append]
  · intro op' hmem
    rcases List.mem_append.mp hmem with hmem | hmem
    · exact hafter op' hmem
    · rwa [List.mem_singleton.mp hmem]

omit [DecidableEq κ] in
theorem latestPut_concat {ops : List (CacheOp κ τ V)} {key : κ} {value : V} {ttl now : τ}
    (hpos : 0 < ttl) : LatestPut (ops ++ [.put key value ttl now]) key value ttl now :=
  ⟨hpos, ops, [], rfl, fun _ hmem => absurd hmem List.not_mem_nil⟩

variable [Add τ]

/-- 操作の一つを行った後の cache。 -/
def TTLCache.step (cache : TTLCache κ τ V) : CacheOp κ τ V → TTLCache κ τ V
  | .put key value ttl now => cache.put key value ttl now
  | .get key now => (cache.get key now).2

/-- 操作の列 `ops` の後の cache の不変量。中身は最後の `put` のもので、上限を超えない。 -/
structure CacheInvariant (maxEntries : Nat) (ops : List (CacheOp κ τ V)) (cache : TTLCache κ τ V) :
    Prop where
  limit : cache.maxEntries = maxEntries
  size : cache.data.size ≤ maxEntries
  latest : ∀ k exp val, cache.data.get? k = some (exp, val) →
    ∃ ttl now, LatestPut ops k val ttl now ∧ exp = now + ttl

/-- 操作の一つは不変量を保つ。 -/
theorem CacheInvariant.step {maxEntries : Nat} (hmax : 1 ≤ maxEntries)
    {ops : List (CacheOp κ τ V)} {cache : TTLCache κ τ V}
    (h : CacheInvariant maxEntries ops cache) (op : CacheOp κ τ V) :
    CacheInvariant maxEntries (ops ++ [op]) (cache.step op) := by
  obtain ⟨rfl, hsize, hlatest⟩ := h
  cases op with
  | get key now =>
    refine ⟨TTLCache.maxEntries_get _ _ _, (TTLCache.size_get_le _ _ _).trans hsize, ?_⟩
    intro k exp val hget
    obtain ⟨ttl, t, hput, hexp⟩ := hlatest k exp val (TTLCache.get?_get hget)
    exact ⟨ttl, t, hput.concat id, hexp⟩
  | put key value ttl now =>
    refine ⟨TTLCache.maxEntries_put _ _ _ _ _, TTLCache.size_put_le hmax hsize _ _ _ _, ?_⟩
    intro k exp val hget
    rcases TTLCache.get?_put hget with ⟨hpos, rfl, heq⟩ | ⟨hother, hold⟩
    · obtain ⟨rfl, rfl⟩ := Prod.mk.inj heq
      exact ⟨ttl, now, latestPut_concat hpos, rfl⟩
    · obtain ⟨ttl', t, hput, hexp⟩ := hlatest k exp val hold
      exact ⟨ttl', t, hput.concat hother, hexp⟩

theorem cacheInvariant_run {maxEntries : Nat} (hmax : 1 ≤ maxEntries)
    (ops : List (CacheOp κ τ V)) :
    CacheInvariant maxEntries ops (Run.exec TTLCache.step (TTLCache.new maxEntries) ops) := by
  refine Run.history ?_ (fun pre op h => h.step hmax op) ops
  exact ⟨rfl, Nat.zero_le _, fun _ _ _ h => nomatch h⟩

/--
**大きさの上限と、`get` の返すもの。** どの操作の列の後でも、cache は `max_entries` 個を超えて持たず、`get` が
値を返せば、それはその key への期限が正の最後の `put` の値で、期限は過ぎていない。
-/
theorem ttlCache_sound {maxEntries : Nat} (hmax : 1 ≤ maxEntries) (ops : List (CacheOp κ τ V)) :
    (Run.exec TTLCache.step (TTLCache.new maxEntries) ops).data.size ≤ maxEntries ∧
      ∀ key now,
        let result := ((Run.exec TTLCache.step (TTLCache.new maxEntries) ops).get key now).1
        result = none ∨ ∃ value ttl t, LatestPut ops key value ttl t ∧ result = some value ∧
          now ≤ t + ttl := by
  have hinv := cacheInvariant_run hmax ops
  refine ⟨hinv.size, fun key now => ?_⟩
  intro result
  cases hresult : result with
  | none => exact .inl rfl
  | some value =>
    obtain ⟨exp, hget, hlive⟩ := TTLCache.get_eq_some hresult
    obtain ⟨ttl, t, hput, rfl⟩ := hinv.latest key exp value hget
    exact .inr ⟨value, ttl, t, hput, rfl, hlive⟩

/-- 二つまでの cache に三つ置いて、期限の近いものを捨てた実行。 -/
def fullCacheOps : List (CacheOp String Int Nat) :=
  [.put "mx.example" 1 30 0, .put "example" 2 10 5, .get "example" 12, .put "other" 3 60 14]

theorem ttlCache_sound_full :
    (Run.exec TTLCache.step (TTLCache.new 2) fullCacheOps).data.size ≤ 2 ∧
      ∀ key now,
        let result := ((Run.exec TTLCache.step (TTLCache.new 2) fullCacheOps).get key now).1
        result = none ∨ ∃ value ttl t, LatestPut fullCacheOps key value ttl t ∧ result = some value ∧
          now ≤ t + ttl :=
  ttlCache_sound (by decide) fullCacheOps

end CipherPost.Proactive
