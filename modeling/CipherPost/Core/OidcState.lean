import Mathlib.Algebra.Order.Ring.Unbundled.Rat
import Mathlib.Data.List.Sort
import CipherPost.Infra.Dict
import CipherPost.Infra.Run

/-!
# OIDC の state の消費

`app/core/oidc.py` の `new_authorize_url` は、state を Redis（使えなければ process の辞書）に記し、
`consume_state` は Redis では GET と DELETE の二つの命令で取り出す。Redis はいくつもの process が共有し、
二つの命令の間に他の callback が進みうる。一つの state が二度消費されるかを調べる。

* `Shared`・`Shared.step` — 共有の Redis、process ごとの辞書、callback の進み具合
* `result` — 一段で消費に成功した記録
* `OnceInTime` — どの state も高々一度、作られてから `stateTtl` までに消費される
* `onceInTime_iff` — そうであるのは、DELETE のどの成功も、GET の後に他の成功が無いとき
-/

namespace CipherPost.Core.Oidc

/-- `_STATE_TTL`。 -/
def stateTtl : Rat := 600

/-- state に対して記すもの。`id` は何番目に作られたかで、code の判断には使わない。 -/
structure StateData where
  verifier : String
  nonce : String
  /-- `at`。 -/
  storedAt : Rat
  id : Nat
  deriving Repr, DecidableEq

/-- 作られた state の記録。`home` は、Redis に記したなら `none`、process の辞書ならその process。 -/
structure Created (π : Type) where
  state : String
  home : Option π
  data : StateData

/-- `_mem_states` が 1000 を超えたら、期限の早いものから 100 個を捨てる。 -/
def evictOldest (memory : Dict String (Rat × StateData)) : Dict String (Rat × StateData) :=
  if 1000 < memory.size then
    let oldest := (memory.entries.insertionSort fun a b => a.2.1 ≤ b.2.1).take 100
    oldest.foldl (fun m p => m.erase p.1) memory
  else memory

/-- callback の `consume_state` の進み具合。 -/
inductive Progress where
  | waiting
  /-- GET が値を返し、DELETE を待つ。 -/
  | got (data : StateData)
  | finished
  deriving DecidableEq

/-- process `π` の間で共有される Redis と、callback `ι` の進み具合。 -/
structure Shared (π ι : Type) where
  /-- `oidc:state:{state}` の期限と値。 -/
  redis : Dict String (Rat × StateData) := Dict.empty
  /-- 各 process の `_mem_states`。 -/
  memory : π → Dict String (Rat × StateData) := fun _ => Dict.empty
  progress : ι → Progress := fun _ => .waiting
  created : List (Created π) := []
  /-- 消費に成功した記録の番号と、その時刻。 -/
  consumed : List (Nat × Rat) := []

/-- 一つの事象。一つの呼び出しの間の時計は一つとする。 -/
inductive Event (π ι : Type) where
  /-- process `p` の `new_authorize_url`（discovery は成功したとする）。 -/
  | authorize (p : π) (now : Rat) (redisUp : Bool) (state verifier nonce : String)
  /-- callback `i` を、Redis の次の命令まで進める。失敗した命令は Redis に届かないとする。 -/
  | advance (i : ι) (now : Rat) (redisUp : Bool)

/-- callback を受ける process と、出された state。 -/
structure Callback (π : Type) where
  process : π
  state : String

namespace Shared

variable {π ι : Type} [DecidableEq π] [DecidableEq ι]

def setMemory (s : Shared π ι) (p : π) (m : Dict String (Rat × StateData)) : Shared π ι :=
  { s with memory := fun q => if q = p then m else s.memory q }

def setProgress (s : Shared π ι) (i : ι) (x : Progress) : Shared π ι :=
  { s with progress := fun j => if j = i then x else s.progress j }

/-- `new_authorize_url` のうち、state を記すところ。 -/
def authorize (s : Shared π ι) (p : π) (now : Rat) (redisUp : Bool)
    (state verifier nonce : String) : Shared π ι :=
  let data : StateData := { verifier, nonce, storedAt := now, id := s.created.length }
  if redisUp then
    { s with
      redis := s.redis.set state (now + stateTtl, data)
      created := s.created ++ [⟨state, none, data⟩] }
  else
    let m := evictOldest ((s.memory p).set state (now + stateTtl, data))
    { s.setMemory p m with created := s.created ++ [⟨state, some p, data⟩] }

/-- Redis の GET。期限の切れた key は無い。 -/
def lookup (s : Shared π ι) (now : Rat) (state : String) : Option StateData :=
  ((s.redis.get? state).filter fun r => decide (now < r.1)).map Prod.snd

/-- この一段で消費に成功した記録。 -/
def result (callbacks : ι → Callback π) (s : Shared π ι) : Event π ι → Option StateData
  | .authorize .. => none
  | .advance i now redisUp =>
    match s.progress i, redisUp with
    | .got data, true => if data.storedAt + stateTtl < now then none else some data
    | .got _, false | .waiting, false =>
      -- Redis の例外は飲み込み、process の辞書から取り出す
      (((s.memory (callbacks i).process).get? (callbacks i).state).filter
        fun r => decide (now ≤ r.1)).map Prod.snd
    | .waiting, true | .finished, _ => none

/-- `_mem_states.pop(state, None)`。 -/
def popMemory (s : Shared π ι) (c : Callback π) : Shared π ι :=
  s.setMemory c.process ((s.memory c.process).erase c.state)

/-- 事象の一つ。 -/
def step (callbacks : ι → Callback π) (s : Shared π ι) (e : Event π ι) : Shared π ι :=
  match e with
  | .authorize p now redisUp state verifier nonce => s.authorize p now redisUp state verifier nonce
  | .advance i now redisUp =>
    let consumed := s.consumed ++ ((s.result callbacks e).map fun d => (d.id, now)).toList
    match s.progress i, redisUp with
    | .waiting, true =>
      s.setProgress i (((s.lookup now (callbacks i).state).map Progress.got).getD .finished)
    | .got _, true =>
      { s.setProgress i .finished with redis := s.redis.erase (callbacks i).state, consumed }
    | .waiting, false | .got _, false =>
      { (s.popMemory (callbacks i)).setProgress i .finished with consumed }
    | .finished, _ => s

/-- callback `i` が GET をする。 -/
def Gets (i : ι) (s : Shared π ι) (e : Event π ι) : Prop :=
  ∃ now, e = .advance i now true ∧ s.progress i = .waiting

/-- 番号 `k` の state の消費に成功する。 -/
def Consumes (callbacks : ι → Callback π) (k : Nat) (s : Shared π ι) (e : Event π ι) : Prop :=
  ∃ data, s.result callbacks e = some data ∧ data.id = k

/-- どの state も高々一度、作られてから `stateTtl` までに消費される。 -/
def OnceInTime (callbacks : ι → Callback π) (s : Shared π ι) (es : List (Event π ι)) : Prop :=
  ((Run.exec (step callbacks) s es).consumed.map Prod.fst).Nodup ∧
    ∀ k now, (k, now) ∈ (Run.exec (step callbacks) s es).consumed →
      ∃ c, (Run.exec (step callbacks) s es).created[k]? = some c ∧ now ≤ c.data.storedAt + stateTtl

variable {callbacks : ι → Callback π} {s s₀ : Shared π ι} {e : Event π ι}

/-! ## 記された state -/

theorem get?_of_evictOldest {m : Dict String (Rat × StateData)} {key : String}
    {r : Rat × StateData} (h : (evictOldest m).get? key = some r) : m.get? key = some r := by
  have herase : ∀ (l : List (String × Rat × StateData)) (m : Dict String (Rat × StateData)),
      (l.foldl (fun m p => m.erase p.1) m).get? key = some r → m.get? key = some r := by
    intro l
    induction l with
    | nil => exact fun m h => h
    | cons p l ih =>
      intro m h
      have hm := ih _ h
      rw [Dict.get?_erase] at hm
      split at hm
      · cases hm
      · exact hm
  unfold evictOldest at h
  split at h
  · exact herase _ _ h
  · exact h

omit [DecidableEq ι] in
/-- process の辞書に state を加えた後の値は、加えた state か、前からの値である。 -/
theorem of_setMemory {p q : π} {state key : String} {r r' : Rat × StateData}
    (h : ((s.setMemory p (evictOldest ((s.memory p).set state r))).memory q).get? key = some r') :
    (q = p ∧ key = state ∧ r' = r) ∨ (s.memory q).get? key = some r' := by
  unfold setMemory at h
  simp only at h
  split at h
  · next hq =>
    have hset := get?_of_evictOldest h
    rw [Dict.get?_set] at hset
    split at hset
    · next hkey =>
      cases hset
      exact .inl ⟨hq, hkey.symm, rfl⟩
    · exact .inr (hq ▸ hset)
  · exact .inr h

/-- 記された state は、作られた時のもので、消費されたものは、もうどこにも記されていない。 -/
structure Known (callbacks : ι → Callback π) (s : Shared π ι) : Prop where
  redis : ∀ key expires d, s.redis.get? key = some (expires, d) →
    s.created[d.id]? = some ⟨key, none, d⟩
  memory : ∀ p key expires d, (s.memory p).get? key = some (expires, d) →
    s.created[d.id]? = some ⟨key, some p, d⟩ ∧ expires = d.storedAt + stateTtl
  got : ∀ i d, s.progress i = .got d → s.created[d.id]? = some ⟨(callbacks i).state, none, d⟩
  consumed : ∀ k now, (k, now) ∈ s.consumed →
    ∃ c, s.created[k]? = some c ∧ now ≤ c.data.storedAt + stateTtl
  redisGone : ∀ k, k ∈ s.consumed.map Prod.fst → ∀ key expires d,
    s.redis.get? key = some (expires, d) → d.id ≠ k
  memoryGone : ∀ k, k ∈ s.consumed.map Prod.fst → ∀ p key expires d,
    (s.memory p).get? key = some (expires, d) → d.id ≠ k

omit [DecidableEq π] [DecidableEq ι] in
theorem created_append {c x : Created π} {k : Nat} (h : s.created[k]? = some c) :
    (s.created ++ [x])[k]? = some c := by
  rw [List.getElem?_append_left (List.getElem?_eq_some_iff.mp h).1]
  exact h

omit [DecidableEq π] [DecidableEq ι] in
/-- 消費された state の番号は、次に作られる番号より小さい。 -/
theorem Known.lt_length (h : Known callbacks s) {k : Nat} (hk : k ∈ s.consumed.map Prod.fst) :
    k < s.created.length := by
  obtain ⟨⟨k', now⟩, hmem, rfl⟩ := List.mem_map.mp hk
  obtain ⟨c, hc, -⟩ := h.consumed k' now hmem
  exact (List.getElem?_eq_some_iff.mp hc).1

omit [DecidableEq ι] in
theorem known_authorize (h : Known callbacks s) (p : π) (now : Rat) (redisUp : Bool)
    (state verifier nonce : String) :
    Known callbacks (s.authorize p now redisUp state verifier nonce) := by
  have hnew : ∀ x : Created π, (s.created ++ [x])[s.created.length]? = some x := by simp
  unfold authorize
  cases redisUp with
  | true =>
    refine ⟨?_, ?_, ?_, ?_, ?_, ?_⟩
    · intro key expires d hget
      simp only [if_true, Dict.get?_set] at hget
      split at hget
      · next heq =>
        cases hget
        exact heq ▸ hnew _
      · exact created_append (h.redis key expires d hget)
    · intro q key expires d hget
      obtain ⟨hc, hexp⟩ := h.memory q key expires d hget
      exact ⟨created_append hc, hexp⟩
    · exact fun i d hi => created_append (h.got i d hi)
    · intro k t hk
      obtain ⟨c, hc, hle⟩ := h.consumed k t hk
      exact ⟨c, created_append hc, hle⟩
    · intro k hk key expires d hget
      simp only [if_true, Dict.get?_set] at hget
      split at hget
      · cases hget
        exact (h.lt_length hk).ne'
      · exact h.redisGone k hk key expires d hget
    · exact h.memoryGone
  | false =>
    refine ⟨?_, ?_, ?_, ?_, ?_, ?_⟩
    · exact fun key expires d hget => created_append (h.redis key expires d hget)
    · intro q key expires d hget
      rcases of_setMemory hget with ⟨rfl, rfl, heq⟩ | hold
      · cases heq
        exact ⟨hnew _, rfl⟩
      · obtain ⟨hc, hexp⟩ := h.memory q key expires d hold
        exact ⟨created_append hc, hexp⟩
    · exact fun i d hi => created_append (h.got i d hi)
    · intro k t hk
      obtain ⟨c, hc, hle⟩ := h.consumed k t hk
      exact ⟨c, created_append hc, hle⟩
    · exact h.redisGone
    · intro k hk q key expires d hget
      rcases of_setMemory hget with ⟨-, -, heq⟩ | hold
      · cases heq
        exact (h.lt_length hk).ne'
      · exact h.memoryGone k hk q key expires d hold

omit [DecidableEq π] [DecidableEq ι] in
/-- 同じ番号の state は、同じところに記される。 -/
theorem Known.unique {c c' : Created π} {k k' : Nat} (hc : s.created[k]? = some c)
    (hc' : s.created[k']? = some c') (h : k = k') : c = c' := by
  subst h
  exact Option.some.inj (hc.symm.trans hc')

omit [DecidableEq π] [DecidableEq ι] in
/-- 消費に成功するのは、GET の値を持つ callback の DELETE か、process の辞書からの取り出しである。 -/
theorem of_result {d : StateData} (h : s.result callbacks e = some d) :
    ∃ i now redisUp, e = .advance i now redisUp ∧
      ((redisUp = true ∧ s.progress i = .got d ∧ now ≤ d.storedAt + stateTtl) ∨
        (redisUp = false ∧ s.progress i ≠ .finished ∧
          ∃ expires, (s.memory (callbacks i).process).get? (callbacks i).state = some (expires, d) ∧
            now ≤ expires)) := by
  cases e with
  | authorize => cases h
  | advance i now redisUp =>
    refine ⟨i, now, redisUp, rfl, ?_⟩
    -- process の辞書からの取り出し
    have hpop : (((s.memory (callbacks i).process).get? (callbacks i).state).filter
        fun r => decide (now ≤ r.1)).map Prod.snd = some d →
        ∃ expires, (s.memory (callbacks i).process).get? (callbacks i).state = some (expires, d) ∧
          now ≤ expires := by
      intro hd
      obtain ⟨⟨expires, d'⟩, hfilter, rfl⟩ := Option.map_eq_some_iff.mp hd
      obtain ⟨hget, hle⟩ := Option.filter_eq_some_iff.mp hfilter
      exact ⟨expires, hget, by simpa using hle⟩
    unfold result at h
    cases hp : s.progress i with
    | waiting =>
      cases redisUp with
      | true => simp [hp] at h
      | false =>
        simp only [hp] at h
        exact .inr ⟨rfl, by simp, hpop h⟩
    | got data =>
      cases redisUp with
      | true =>
        simp only [hp] at h
        split at h
        · cases h
        · next hle =>
          cases h
          exact .inl ⟨rfl, rfl, not_lt.mp hle⟩
      | false =>
        simp only [hp] at h
        exact .inr ⟨rfl, by simp, hpop h⟩
    | finished => simp [hp] at h

/-- callback の一段が、共有の状態に何をするか。 -/
theorem advance_spec (callbacks : ι → Callback π) (s : Shared π ι) (i : ι) (now : Rat)
    (redisUp : Bool) :
    (s.step callbacks (.advance i now redisUp)).created = s.created ∧
    (s.step callbacks (.advance i now redisUp)).consumed = s.consumed ++
      ((s.result callbacks (.advance i now redisUp)).map fun d => (d.id, now)).toList ∧
    (∀ j, j ≠ i → (s.step callbacks (.advance i now redisUp)).progress j = s.progress j) ∧
    (∀ d, (s.step callbacks (.advance i now redisUp)).progress i = .got d →
      redisUp = true ∧ s.progress i = .waiting ∧ s.lookup now (callbacks i).state = some d) := by
  cases hp : s.progress i with
  | waiting =>
    cases redisUp with
    | true =>
      refine ⟨by simp [step, hp, setProgress], by simp [step, result, hp, setProgress],
        fun j hj => by simp [step, hp, setProgress, hj], fun d hd => ?_⟩
      simp only [step, hp, setProgress, if_true] at hd
      cases hl : s.lookup now (callbacks i).state with
      | none => simp [hl] at hd
      | some d' =>
        rw [hl] at hd
        cases hd
        exact ⟨rfl, rfl, rfl⟩
    | false =>
      refine ⟨by simp [step, hp, setProgress, popMemory, setMemory], by simp [step, hp],
        fun j hj => by simp [step, hp, setProgress, popMemory, setMemory, hj], fun d hd => ?_⟩
      simp [step, hp, setProgress] at hd
  | got data =>
    cases redisUp with
    | true =>
      refine ⟨by simp [step, hp, setProgress], by simp [step, hp],
        fun j hj => by simp [step, hp, setProgress, hj], fun d hd => ?_⟩
      simp [step, hp, setProgress] at hd
    | false =>
      refine ⟨by simp [step, hp, setProgress, popMemory, setMemory], by simp [step, hp],
        fun j hj => by simp [step, hp, setProgress, popMemory, setMemory, hj], fun d hd => ?_⟩
      simp [step, hp, setProgress] at hd
  | finished =>
    refine ⟨by simp [step, hp], by simp [step, result, hp], fun j hj => by simp [step, hp],
      fun d hd => ?_⟩
    simp [step, hp] at hd

/-- callback の一段の後に Redis に残る記録は、前からのもので、DELETE した key のものではない。 -/
theorem redis_advance {i : ι} {now : Rat} {redisUp : Bool} {key : String} {r : Rat × StateData}
    (h : (s.step callbacks (.advance i now redisUp)).redis.get? key = some r) :
    s.redis.get? key = some r ∧
      ∀ d, redisUp = true → s.progress i = .got d → key ≠ (callbacks i).state := by
  cases hp : s.progress i with
  | waiting =>
    cases redisUp <;>
      simp only [step, hp, setProgress, popMemory, setMemory] at h <;> exact ⟨h, by simp⟩
  | finished => cases redisUp <;> simp only [step, hp] at h <;> exact ⟨h, by simp⟩
  | got data =>
    cases redisUp with
    | false =>
      simp only [step, hp, setProgress, popMemory, setMemory] at h
      exact ⟨h, by simp⟩
    | true =>
      simp only [step, hp, setProgress, Dict.get?_erase] at h
      split at h
      · cases h
      · next hkey => exact ⟨h, fun _ _ _ => hkey⟩

/-- callback の一段の後に process の辞書に残る記録は、前からのもので、取り出したものではない。 -/
theorem memory_advance {i : ι} {now : Rat} {redisUp : Bool} {p : π} {key : String}
    {r : Rat × StateData}
    (h : ((s.step callbacks (.advance i now redisUp)).memory p).get? key = some r) :
    (s.memory p).get? key = some r ∧
      (redisUp = false → s.progress i ≠ .finished →
        ¬(p = (callbacks i).process ∧ key = (callbacks i).state)) := by
  have hpop : ((s.popMemory (callbacks i)).memory p).get? key = some r →
      (s.memory p).get? key = some r ∧ ¬(p = (callbacks i).process ∧ key = (callbacks i).state) := by
    intro hleft
    simp only [popMemory, setMemory] at hleft
    split at hleft
    · next hproc =>
      rw [Dict.get?_erase] at hleft
      split at hleft
      · cases hleft
      · next hkey =>
        subst hproc
        exact ⟨hleft, fun hc => hkey hc.2⟩
    · next hproc => exact ⟨hleft, fun hc => hproc hc.1⟩
  cases hp : s.progress i with
  | waiting | got =>
    cases redisUp with
    | false =>
      simp only [step, hp, setProgress] at h
      exact ⟨(hpop h).1, fun _ _ => (hpop h).2⟩
    | true =>
      simp only [step, hp, setProgress] at h
      exact ⟨h, by simp⟩
  | finished =>
    simp only [step, hp] at h
    exact ⟨h, by simp⟩

/-- 消費の記録に加わるのは、いま成功したものだけである。 -/
theorem mem_consumed_advance {i : ι} {now t : Rat} {redisUp : Bool} {k : Nat}
    (hk : (k, t) ∈ (s.step callbacks (.advance i now redisUp)).consumed) :
    (k, t) ∈ s.consumed ∨
      t = now ∧ ∃ d, s.result callbacks (.advance i now redisUp) = some d ∧ d.id = k := by
  rw [(advance_spec callbacks s i now redisUp).2.1, List.mem_append] at hk
  rcases hk with hk | hk
  · exact .inl hk
  · cases hr : s.result callbacks (.advance i now redisUp) with
    | none => simp [hr] at hk
    | some d =>
      simp only [hr, Option.map_some, Option.toList_some, List.mem_singleton,
        Prod.mk.injEq] at hk
      exact .inr ⟨hk.2, d, rfl, hk.1.symm⟩

/-- 消費に成功した state は、期限の内に作られたもので、もうどこにも残っていない。 -/
theorem Known.gone_of_result (h : Known callbacks s) {i : ι} {now : Rat} {redisUp : Bool}
    {d : StateData} (hd : s.result callbacks (.advance i now redisUp) = some d) :
    (∃ c, s.created[d.id]? = some c ∧ now ≤ c.data.storedAt + stateTtl) ∧
    (∀ key expires d', (s.step callbacks (.advance i now redisUp)).redis.get? key =
      some (expires, d') → d'.id ≠ d.id) ∧
    ∀ p key expires d', ((s.step callbacks (.advance i now redisUp)).memory p).get? key =
      some (expires, d') → d'.id ≠ d.id := by
  obtain ⟨_, _, _, heq, hcase⟩ := of_result hd
  cases heq
  rcases hcase with ⟨rfl, hgot, hle⟩ | ⟨rfl, hrun, expires, hget, hle⟩
  · have hc := h.got i d hgot
    refine ⟨⟨_, hc, hle⟩, fun key expires d' hd' hid => ?_, fun p key expires d' hd' hid => ?_⟩
    · obtain ⟨hold, hkey⟩ := redis_advance hd'
      have hsame := Known.unique (h.redis key expires d' hold) hc hid
      exact hkey d rfl hgot (congrArg Created.state hsame)
    · have hsame := Known.unique (h.memory p key expires d' (memory_advance hd').1).1 hc hid
      cases congrArg Created.home hsame
  · obtain ⟨hc, hexp⟩ := h.memory _ _ expires d hget
    refine ⟨⟨_, hc, hexp ▸ hle⟩, fun key exp d' hd' hid => ?_, fun p key exp d' hd' hid => ?_⟩
    · have hsame := Known.unique (h.redis key exp d' (redis_advance hd').1) hc hid
      cases congrArg Created.home hsame
    · obtain ⟨hold, hkey⟩ := memory_advance hd'
      have hsame := Known.unique (h.memory p key exp d' hold).1 hc hid
      have hhome : some p = some (callbacks i).process := congrArg Created.home hsame
      exact hkey rfl hrun ⟨Option.some.inj hhome, congrArg Created.state hsame⟩

/-- **一つの事象は、`Known` を保つ。** -/
theorem known_step (h : Known callbacks s) (e : Event π ι) : Known callbacks (s.step callbacks e) := by
  cases e with
  | authorize p now redisUp state verifier nonce => exact known_authorize h ..
  | advance i now redisUp =>
    obtain ⟨hcreated, -, hother, hself⟩ := advance_spec callbacks s i now redisUp
    have hmem : ∀ k, k ∈ (s.step callbacks (.advance i now redisUp)).consumed.map Prod.fst →
        k ∈ s.consumed.map Prod.fst ∨
          ∃ d, s.result callbacks (.advance i now redisUp) = some d ∧ d.id = k := by
      intro k hk
      obtain ⟨⟨k, t⟩, hkt, rfl⟩ := List.mem_map.mp hk
      exact (mem_consumed_advance hkt).imp List.mem_map_of_mem And.right
    refine ⟨?_, ?_, ?_, ?_, ?_, ?_⟩
    · intro key expires d hget
      rw [hcreated]
      exact h.redis key expires d (redis_advance hget).1
    · intro p key expires d hget
      rw [hcreated]
      exact h.memory p key expires d (memory_advance hget).1
    · intro j d hj
      rw [hcreated]
      by_cases hji : j = i
      · subst hji
        obtain ⟨-, -, hlookup⟩ := hself d hj
        obtain ⟨⟨expires, d'⟩, hfilter, rfl⟩ := Option.map_eq_some_iff.mp hlookup
        exact h.redis _ expires d' (Option.filter_eq_some_iff.mp hfilter).1
      · rw [hother j hji] at hj
        exact h.got j d hj
    · intro k t hk
      rw [hcreated]
      rcases mem_consumed_advance hk with hk | ⟨rfl, d, hr, rfl⟩
      · exact h.consumed k t hk
      · exact (h.gone_of_result hr).1
    · intro k hk key expires d hget
      rcases hmem k hk with hk | ⟨d', hr, rfl⟩
      · exact h.redisGone k hk key expires d (redis_advance hget).1
      · exact (h.gone_of_result hr).2.1 key expires d hget
    · intro k hk p key expires d hget
      rcases hmem k hk with hk | ⟨d', hr, rfl⟩
      · exact h.memoryGone k hk p key expires d (memory_advance hget).1
      · exact (h.gone_of_result hr).2.2 p key expires d hget

/-! ## run -/

/-- 消費した state の番号。 -/
def ids (s : Shared π ι) : List Nat := s.consumed.map Prod.fst

theorem ids_step (callbacks : ι → Callback π) (s : Shared π ι) (e : Event π ι) :
    (s.step callbacks e).ids = s.ids ++ ((s.result callbacks e).map StateData.id).toList := by
  cases e with
  | authorize p now redisUp state verifier nonce =>
    have hsame : (s.authorize p now redisUp state verifier nonce).consumed = s.consumed := by
      unfold authorize
      cases redisUp <;> rfl
    simp [ids, step, result, hsame]
  | advance i now redisUp =>
    rw [ids, (advance_spec callbacks s i now redisUp).2.1]
    cases s.result callbacks (.advance i now redisUp) <;> simp [ids]

theorem mem_ids_step {k : Nat} : k ∈ (s.step callbacks e).ids ↔
    k ∈ s.ids ∨ Consumes callbacks k s e := by
  rw [ids_step]
  unfold Consumes
  cases s.result callbacks e <;> simp [eq_comm]

/-- 値を持つ callback は、いま GET をしたか、前から値を持つ。 -/
theorem got_step {i : ι} {d : StateData} (h : (s.step callbacks e).progress i = .got d) :
    (Gets i s e ∧ s.result callbacks e = none ∧
        ∃ key expires, s.redis.get? key = some (expires, d)) ∨
      (¬Gets i s e ∧ s.progress i = .got d) := by
  cases e with
  | authorize p now redisUp state verifier nonce =>
    refine .inr ⟨?_, ?_⟩
    · rintro ⟨_, heq, -⟩
      cases heq
    · have hsame : (s.authorize p now redisUp state verifier nonce).progress = s.progress := by
        unfold authorize
        cases redisUp <;> rfl
      exact hsame ▸ h
  | advance j now redisUp =>
    obtain ⟨-, -, hother, hself⟩ := advance_spec callbacks s j now redisUp
    by_cases hij : i = j
    · subst hij
      obtain ⟨rfl, hwaiting, hlookup⟩ := hself d h
      obtain ⟨⟨expires, d'⟩, hfilter, rfl⟩ := Option.map_eq_some_iff.mp hlookup
      refine .inl ⟨⟨now, rfl, hwaiting⟩, by simp [result, hwaiting], (callbacks i).state, expires, ?_⟩
      exact (Option.filter_eq_some_iff.mp hfilter).1
    · refine .inr ⟨?_, (hother i hij).symm.trans h⟩
      rintro ⟨_, heq, -⟩
      cases heq
      exact hij rfl

/-- callback `i` の GET の後に、番号 `k` の消費に成功したものは無い。 -/
def Fresh (callbacks : ι → Callback π) (pre : List (Event π ι)) (i : ι) (k : Nat) : Prop :=
  Run.Since (step callbacks) (Gets i) (Consumes callbacks k) {} pre

/-- 値を持つ callback の state は、GET の後に他が消費したときに限り、消費されている。 -/
structure Tracked (callbacks : ι → Callback π) (pre : List (Event π ι)) : Prop where
  known : Known callbacks (Run.exec (step callbacks) {} pre)
  nodup : (Run.exec (step callbacks) {} pre).ids.Nodup
  got : ∀ i d, (Run.exec (step callbacks) {} pre).progress i = .got d →
    (Fresh callbacks pre i d.id ↔ d.id ∉ (Run.exec (step callbacks) {} pre).ids)

/-- 空の Redis と辞書から始まる。 -/
theorem tracked_nil (callbacks : ι → Callback π) : Tracked callbacks ([] : List (Event π ι)) := by
  refine ⟨⟨?_, ?_, ?_, ?_, ?_, ?_⟩, List.nodup_nil, ?_⟩
  · intro key expires d h
    cases h
  · intro p key expires d h
    cases h
  · intro i d h
    cases h
  · intro k now h
    cases h
  · intro k h
    cases h
  · intro k h
    cases h
  · intro i d h
    cases h

variable {pre : List (Event π ι)}

/-- **GET の後に他が消費していない DELETE は、不変量を保つ。** -/
theorem Tracked.concat (h : Tracked callbacks pre)
    (hfresh : ∀ i now d, e = .advance i now true →
      (Run.exec (step callbacks) {} pre).progress i = .got d → now ≤ d.storedAt + stateTtl →
      Fresh callbacks pre i d.id) : Tracked callbacks (pre ++ [e]) := by
  have hexec : Run.exec (step callbacks) {} (pre ++ [e]) =
      (Run.exec (step callbacks) {} pre).step callbacks e := Run.exec_append ..
  refine ⟨?_, ?_, fun i d hi => ?_⟩
  · rw [hexec]
    exact known_step h.known e
  · rw [hexec, ids_step]
    cases hr : (Run.exec (step callbacks) {} pre).result callbacks e with
    | none => simpa using h.nodup
    | some d =>
      -- 成功した消費の state は、まだ消費されていない
      have hnew : d.id ∉ (Run.exec (step callbacks) {} pre).ids := by
        obtain ⟨i, now, redisUp, rfl, hcase⟩ := of_result hr
        rcases hcase with ⟨rfl, hgot, hle⟩ | ⟨rfl, -, expires, hget, -⟩
        · exact (h.got i d hgot).mp (hfresh i now d rfl hgot hle)
        · exact fun hmem => h.known.memoryGone d.id hmem _ _ expires d hget rfl
      simpa [List.nodup_append] using ⟨h.nodup, fun a ha heq => hnew (heq ▸ ha)⟩
  · rw [hexec] at hi ⊢
    rw [mem_ids_step, Fresh, Run.since_concat]
    rcases got_step hi with ⟨hget, hr, key, expires, hstored⟩ | ⟨hno, hgot⟩
    · have hnew : d.id ∉ (Run.exec (step callbacks) {} pre).ids :=
        fun hmem => h.known.redisGone d.id hmem key expires d hstored rfl
      refine iff_of_true (.inl hget) ?_
      rintro (hmem | ⟨d', hd', -⟩)
      · exact hnew hmem
      · rw [hr] at hd'
        cases hd'
    · have hsame := h.got i d hgot
      rw [Fresh] at hsame
      rw [or_iff_right hno, hsame, not_or]

/-- 高々一度しか消費されないなら、DELETE の成功の前に、GET の後の他の成功は無い。 -/
theorem Tracked.fresh (h : Tracked callbacks pre) (honce : OnceInTime callbacks {} (pre ++ [e]))
    {i : ι} {now : Rat} {d : StateData} (he : e = .advance i now true)
    (hgot : (Run.exec (step callbacks) {} pre).progress i = .got d)
    (hle : now ≤ d.storedAt + stateTtl) : Fresh callbacks pre i d.id := by
  subst he
  refine (h.got i d hgot).mpr fun hmem => ?_
  have hr : (Run.exec (step callbacks) {} pre).result callbacks (.advance i now true) = some d := by
    simp [result, hgot, not_lt.mpr hle]
  have hnodup : ((Run.exec (step callbacks) {} pre).step callbacks
      (.advance i now true)).ids.Nodup := by
    have := honce.1
    rw [Run.exec_append] at this
    exact this
  rw [ids_step, hr, List.nodup_append] at hnodup
  exact hnodup.2.2 d.id hmem d.id (by simp) rfl

/--
Redis も辞書も空のところから、callback と `new_authorize_url` のどの割り込みの順でも、どの state も高々一度、
作られてから `stateTtl` までに消費されるのは、期限の内のどの DELETE についても、その callback の GET の後に
同じ state の消費に成功したものが無いとき、かつそのときに限る。
-/
theorem onceInTime_iff (callbacks : ι → Callback π) (es : List (Event π ι)) :
    (∀ pre, pre <+: es → OnceInTime callbacks {} pre) ↔
      ∀ pre e, pre ++ [e] <+: es → ∀ i now d, e = .advance i now true →
        (Run.exec (step callbacks) {} pre).progress i = .got d → now ≤ d.storedAt + stateTtl →
        Run.Since (step callbacks) (Gets i) (Consumes callbacks d.id) {} pre := by
  refine Run.history_property_iff (I := Tracked callbacks) (tracked_nil callbacks)
    (fun pre h => ⟨h.nodup, h.known.consumed⟩) (fun pre e h hc => h.concat hc)
    (fun pre e h honce i now d he hgot hle => h.fresh honce he hgot hle) es

/-! ## 二つの process への同じ callback -/

/-- 二つの process に、同じ state の callback が来る。 -/
def sameState (i : Bool) : Callback Bool := ⟨i, "s"⟩

/-- どちらも GET をしてから、DELETE をする。 -/
def getGetDeleteDelete : List (Event Bool Bool) :=
  [.authorize true 1000 true "s" "verifier" "nonce",
   .advance true 1010 true, .advance false 1010 true,
   .advance true 1011 true, .advance false 1011 true]

/-- 一つの state が、二つの process で消費される。 -/
theorem not_onceInTime_sameState :
    ¬∀ pre, pre <+: getGetDeleteDelete → OnceInTime sameState {} pre := by
  intro h
  exact absurd (h getGetDeleteDelete List.prefix_rfl).1 (by decide +kernel)

end Shared

end CipherPost.Core.Oidc
