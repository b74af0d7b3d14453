import CipherPost.Infra.Run
import CipherPost.Live.AlertState
import Mathlib.Algebra.Order.Ring.Rat
import Mathlib.Data.List.Dedup

/-!
# rate の予算の二つの道

`check_rate` は、Redis の道では呼び出しを数えてから予算と比べ、メモリの道では予算と比べてから通したものだけを数える。
Redis の member は時計の値なので、同じ値の呼び出しは一度しか数えられない。

* `rateRedis`・`rateMemory` — 二つの道。時計の値は順序のある任意の型である
* `verdictsOf` — 呼び出しの列に対する答えの列
* `readings`・`calm`・`Paced` — 呼び出しの混み具合
* `rate_parity_iff` — 答えの列が一致するのは、ちょうどどの呼び出しも `Paced` のときである
-/

namespace CipherPost.Live

/-! ## 二つの道 -/

section Paths

variable {T : Type} [Add T] [LT T] [DecidableLT T]

/-- 窓の中に残る時刻。 -/
def recent (window now : T) (l : List T) : List T := l.filter fun t => decide (now < t + window)

/-- `check_rate` の Redis の道。member は時刻と process の組である。 -/
def rateRedis [DecidableEq T] (window : T) (perMinute pid : Nat) (rate : Dict (T × Nat) T) (now : T) :
    Bool × Dict (T × Nat) T :=
  let rate := (rate.set (now, pid) now).filter fun _ score => decide (now < score + window)
  (decide (rate.size ≤ perMinute), rate)

/-- `check_rate` のメモリの道。 -/
def rateMemory (window : T) (perMinute : Nat) (rate : List T) (now : T) : Bool × List T :=
  let rate := recent window now rate
  if perMinute ≤ rate.length then (false, rate) else (true, rate ++ [now])

end Paths

/-- 状態のある判定に、時刻の列を順に掛ける。 -/
def asked {σ T : Type} (check : σ → T → Bool × σ) (acc : List Bool × σ) (now : T) : List Bool × σ :=
  (acc.1 ++ [(check acc.2 now).1], (check acc.2 now).2)

/-- 呼び出しの列に対する答えの列。 -/
def verdictsOf {σ T : Type} (check : σ → T → Bool × σ) (s : σ) (calls : List T) : List Bool :=
  (Run.exec (asked check) ([], s) calls).1

/-- 呼び出しの列の後の状態。 -/
def stateOf {σ T : Type} (check : σ → T → Bool × σ) (s : σ) (calls : List T) : σ :=
  (Run.exec (asked check) ([], s) calls).2

section Verdicts

variable {σ T : Type} (check : σ → T → Bool × σ) (s : σ)

theorem verdictsOf_concat (calls : List T) (now : T) :
    verdictsOf check s (calls ++ [now]) =
      verdictsOf check s calls ++ [(check (stateOf check s calls) now).1] := by
  rw [verdictsOf, Run.exec_append]
  rfl

theorem stateOf_concat (calls : List T) (now : T) :
    stateOf check s (calls ++ [now]) = (check (stateOf check s calls) now).2 := by
  rw [stateOf, Run.exec_append]
  rfl

end Verdicts

/-- `AlertState` の二つの枝は、それぞれの道である。 -/
theorem checkRate_redis (a : AlertState) (perMinute : Nat) (clock : Nat → Nat) (pid : Nat) :
    a.checkRate perMinute clock pid true =
      ((rateRedis 60000000 perMinute pid a.redisRate (clock a.rateCalls)).1,
        { a with
          redisRate := (rateRedis 60000000 perMinute pid a.redisRate (clock a.rateCalls)).2
          rateCalls := a.rateCalls + 1 }) := rfl

theorem checkRate_memory (a : AlertState) (perMinute : Nat) (clock : Nat → Nat) (pid : Nat) :
    a.checkRate perMinute clock pid false =
      ((rateMemory 60000000 perMinute a.memRate (clock a.rateCalls)).1,
        { a with
          memRate := (rateMemory 60000000 perMinute a.memRate (clock a.rateCalls)).2
          rateCalls := a.rateCalls + 1 }) := by
  unfold AlertState.checkRate rateMemory recent
  simp only [Bool.false_eq_true, if_false]
  split <;> rfl

/-! ## 呼び出しの混み具合 -/

section Load

variable {T : Type} [Add T] [LT T] [DecidableLT T] [DecidableEq T]

/-- `past` の後の呼び出しの窓の中の、自分を含む異なる時刻の数。 -/
def readings (window : T) (past : List T) (now : T) : Nat :=
  (recent window now (past ++ [now])).dedup.length

/-- `seen` の後の呼び出しのうち、窓の中の異なる時刻が予算を超えないものの時刻。 -/
def calmFrom (perMinute : Nat) (window : T) : List T → List T → List T
  | _, [] => []
  | seen, now :: later =>
    (if readings window seen now ≤ perMinute then [now] else []) ++
      calmFrom perMinute window (seen ++ [now]) later

/-- 混んでいなかった呼び出しの時刻。 -/
def calm (perMinute : Nat) (window : T) (calls : List T) : List T :=
  calmFrom perMinute window [] calls

/-- 混んでいない呼び出しより前には、混んでいなかった呼び出しが窓の中に予算より少なく、混んだ呼び出しより前には予算だけある。 -/
def Paced (perMinute : Nat) (window : T) (past : List T) (now : T) : Prop :=
  readings window past now ≤ perMinute ↔
    (recent window now (calm perMinute window past)).length < perMinute

instance (perMinute : Nat) (window : T) (past : List T) (now : T) :
    Decidable (Paced perMinute window past now) :=
  inferInstanceAs (Decidable (_ ↔ _))

theorem calmFrom_concat (perMinute : Nat) (window : T) : ∀ (later seen : List T) (now : T),
    calmFrom perMinute window seen (later ++ [now]) =
      calmFrom perMinute window seen later ++
        if readings window (seen ++ later) now ≤ perMinute then [now] else []
  | [], seen, now => by simp [calmFrom]
  | t :: later, seen, now => by
    rw [List.cons_append, calmFrom, calmFrom_concat perMinute window later, calmFrom,
      List.append_assoc, List.append_assoc, List.singleton_append]

theorem calm_concat (perMinute : Nat) (window : T) (past : List T) (now : T) :
    calm perMinute window (past ++ [now]) = calm perMinute window past ++
      if readings window past now ≤ perMinute then [now] else [] := by
  have h := calmFrom_concat perMinute window past [] now
  rwa [List.nil_append] at h

end Load

/-! ## 道の覚えていること -/

/-- それまでの列を状態とする実行。 -/
theorem exec_past {T : Type} : ∀ (calls past : List T),
    Run.exec (fun past now => past ++ [now]) past calls = past ++ calls
  | [], past => (List.append_nil past).symm
  | now :: calls, past => by
    rw [Run.exec_cons, exec_past calls, List.append_assoc, List.singleton_append]

/-- `l` の時刻だけを覚えている集合の大きさは、異なる時刻の数である。 -/
theorem size_eq_dedup {T : Type} [DecidableEq T] {pid : Nat} {d : Dict (T × Nat) T} {l : List T}
    (h : ∀ t q v, d.get? (t, q) = some v ↔ v = t ∧ q = pid ∧ t ∈ l) : d.size = l.dedup.length := by
  have hperm : d.entries.Perm (l.dedup.map fun t => ((t, pid), t)) := by
    refine (List.perm_ext_iff_of_nodup d.nodup.of_map ?_).mpr ?_
    · exact (List.nodup_dedup l).map fun t t' heq => congrArg Prod.snd heq
    · rintro ⟨⟨t, q⟩, v⟩
      rw [Dict.mem_entries_iff, h, List.mem_map]
      constructor
      · rintro ⟨rfl, rfl, hmem⟩
        exact ⟨v, List.mem_dedup.mpr hmem, rfl⟩
      · rintro ⟨t', hmem, heq⟩
        obtain ⟨hkey, rfl⟩ := Prod.mk.inj heq
        obtain ⟨rfl, rfl⟩ := Prod.mk.inj hkey
        exact ⟨rfl, rfl, List.mem_dedup.mp hmem⟩
  rw [Dict.size, hperm.length_eq, List.length_map]

section Parity

variable {T : Type} [AddCommMonoid T] [LinearOrder T] {window : T} {perMinute pid : Nat}

/-- 後の時刻で残るものは、前の時刻でも残る。 -/
theorem recent_recent {m now : T} (h : m ≤ now) (l : List T) :
    recent window now (recent window m l) = recent window now l := by
  unfold recent
  rw [List.filter_filter]
  refine List.filter_congr fun t _ => ?_
  rw [← Bool.decide_and, decide_eq_decide]
  exact and_iff_left_of_imp fun hlt => lt_of_le_of_lt h hlt

theorem recent_append (now : T) (l l' : List T) :
    recent window now (l ++ l') = recent window now l ++ recent window now l' :=
  List.filter_append ..

theorem mem_recent {now t : T} {l : List T} : t ∈ recent window now l ↔ t ∈ l ∧ now < t + window := by
  rw [recent, List.mem_filter, decide_eq_true_eq]

/-- メモリの道の答えは、窓の中の通した呼び出しの数で決まる。 -/
theorem rateMemory_eq (rate : List T) (now : T) :
    rateMemory window perMinute rate now =
      (decide ((recent window now rate).length < perMinute),
        recent window now rate ++
          if (recent window now rate).length < perMinute then [now] else []) := by
  unfold rateMemory
  simp only
  by_cases hfull : perMinute ≤ (recent window now rate).length
  · have hnot : ¬(recent window now rate).length < perMinute := Nat.not_lt.mpr hfull
    rw [if_pos hfull, if_neg hnot, decide_eq_false hnot, List.append_nil]
  · have hlt : (recent window now rate).length < perMinute := Nat.not_le.mp hfull
    rw [if_neg hfull, if_pos hlt, decide_eq_true hlt]

/-- 呼び出しの列 `calls` の後の sorted set。窓の中のものだけを見れば、呼び出しの時刻の集合である。 -/
def Stored (window : T) (pid : Nat) (calls : List T) (rate : Dict (T × Nat) T) : Prop :=
  ∀ now, (∀ t ∈ calls, t ≤ now) → ∀ t q v,
    (rate.get? (t, q) = some v ∧ now < v + window) ↔ v = t ∧ q = pid ∧ t ∈ recent window now calls

theorem stored_empty : Stored window pid [] Dict.empty := by
  intro now _ t q v
  rw [Dict.get?_empty]
  exact iff_of_false (fun h => Option.some_ne_none v h.1.symm) fun h => List.not_mem_nil h.2.2

/-- メモリの道の状態。窓の中だけを見れば、混んでいなかった呼び出しである。 -/
def Granted (window : T) (perMinute : Nat) (calls rate : List T) : Prop :=
  ∀ now, (∀ t ∈ calls, t ≤ now) →
    recent window now rate = recent window now (calm perMinute window calls)

theorem Granted.next {past rate : List T} (h : Granted window perMinute past rate) {now : T}
    (hlast : ∀ t ∈ past, t ≤ now) (hpaced : Paced perMinute window past now) :
    Granted window perMinute (past ++ [now]) (rateMemory window perMinute rate now).2 := by
  intro later hlater
  have hle : now ≤ later := hlater now (List.mem_append_right _ (List.mem_singleton_self now))
  have hpast : ∀ t ∈ past, t ≤ later := fun t ht => (hlast t ht).trans hle
  rw [rateMemory_eq, calm_concat, recent_append, recent_append, recent_recent hle, h later hpast,
    h now hlast]
  unfold Paced at hpaced
  by_cases hcalm : readings window past now ≤ perMinute
  · rw [if_pos hcalm, if_pos (hpaced.mp hcalm)]
  · rw [if_neg hcalm, if_neg fun hlt => hcalm (hpaced.mpr hlt)]

/-- どの呼び出しも `Paced` である。 -/
def AllPaced (perMinute : Nat) (window : T) (calls : List T) : Prop :=
  Run.Along (fun past now => past ++ [now]) (Paced perMinute window) [] calls

instance (perMinute : Nat) (window : T) (calls : List T) :
    Decidable (AllPaced perMinute window calls) :=
  Run.decidableAlong _ _ [] calls

theorem allPaced_concat {past : List T} {now : T} : AllPaced perMinute window (past ++ [now]) ↔
    AllPaced perMinute window past ∧ Paced perMinute window past now := by
  unfold AllPaced
  rw [Run.along_append, exec_past, List.nil_append, Run.along_cons]
  exact and_congr_right fun _ => and_iff_left trivial

theorem granted_stateOf {calls : List T} (hcalls : calls.Pairwise (· ≤ ·))
    (hpaced : AllPaced perMinute window calls) :
    Granted window perMinute calls (stateOf (rateMemory window perMinute) [] calls) := by
  induction calls using List.reverseRecOn with
  | nil => exact fun _ _ => rfl
  | append_singleton past now ih =>
    obtain ⟨hpast, -, hlast⟩ := List.pairwise_append.mp hcalls
    obtain ⟨hbefore, hnow⟩ := allPaced_concat.mp hpaced
    rw [stateOf_concat]
    exact (ih hpast hbefore).next (fun t ht => hlast t ht now (List.mem_singleton_self now)) hnow

variable [IsOrderedCancelAddMonoid T]

theorem get?_rateRedis {calls : List T} {rate : Dict (T × Nat) T} (h : Stored window pid calls rate)
    {now : T} (hlast : ∀ t ∈ calls, t ≤ now) (hwindow : 0 < window) (t : T) (q : Nat) (v : T) :
    (rateRedis window perMinute pid rate now).2.get? (t, q) = some v ↔
      v = t ∧ q = pid ∧ t ∈ recent window now (calls ++ [now]) := by
  have hown : now < now + window := lt_add_of_pos_right now hwindow
  have hstored := h now hlast t q v
  unfold rateRedis
  rw [Dict.get?_filter, Option.filter_eq_some_iff, decide_eq_true_eq, Dict.get?_set, mem_recent,
    List.mem_append, List.mem_singleton]
  rw [mem_recent] at hstored
  by_cases hkey : (now, pid) = (t, q)
  · obtain ⟨rfl, rfl⟩ := Prod.mk.inj hkey
    rw [if_pos rfl, Option.some.injEq]
    constructor
    · rintro ⟨rfl, -⟩
      exact ⟨rfl, rfl, .inr rfl, hown⟩
    · rintro ⟨rfl, -, -, -⟩
      exact ⟨rfl, hown⟩
  · rw [if_neg hkey, hstored]
    constructor
    · rintro ⟨hv, hq, ht, hlt⟩
      exact ⟨hv, hq, .inl ht, hlt⟩
    · rintro ⟨hv, hq, ht | ht, hlt⟩
      · exact ⟨hv, hq, ht, hlt⟩
      · exact absurd (by rw [ht, hq]) hkey

/-- Redis の道の答えは、窓の中の異なる時刻の数で決まる。 -/
theorem rateRedis_verdict {calls : List T} {rate : Dict (T × Nat) T}
    (h : Stored window pid calls rate) {now : T} (hlast : ∀ t ∈ calls, t ≤ now)
    (hwindow : 0 < window) : (rateRedis window perMinute pid rate now).1 =
      decide (readings window calls now ≤ perMinute) := by
  have hsize : (rateRedis window perMinute pid rate now).2.size =
      (recent window now (calls ++ [now])).dedup.length :=
    size_eq_dedup (get?_rateRedis h hlast hwindow)
  rw [readings, ← hsize]
  rfl

theorem Stored.next {calls : List T} {rate : Dict (T × Nat) T} (h : Stored window pid calls rate)
    {now : T} (hlast : ∀ t ∈ calls, t ≤ now) (hwindow : 0 < window) :
    Stored window pid (calls ++ [now]) (rateRedis window perMinute pid rate now).2 := by
  intro later hlater t q v
  have hle : now ≤ later := hlater now (List.mem_append_right _ (List.mem_singleton_self now))
  rw [get?_rateRedis h hlast hwindow, mem_recent, mem_recent]
  constructor
  · rintro ⟨⟨rfl, hq, ht, -⟩, hlt⟩
    exact ⟨rfl, hq, ht, hlt⟩
  · rintro ⟨rfl, hq, ht, hlt⟩
    exact ⟨⟨rfl, hq, ht, lt_of_le_of_lt hle hlt⟩, hlt⟩

theorem stored_stateOf (hwindow : 0 < window) {calls : List T} (hcalls : calls.Pairwise (· ≤ ·)) :
    Stored window pid calls (stateOf (rateRedis window perMinute pid) Dict.empty calls) := by
  induction calls using List.reverseRecOn with
  | nil => exact stored_empty
  | append_singleton past now ih =>
    obtain ⟨hpast, -, hlast⟩ := List.pairwise_append.mp hcalls
    rw [stateOf_concat]
    exact (ih hpast).next (fun t ht => hlast t ht now (List.mem_singleton_self now)) hwindow

/-- 最後の呼び出しの答えが一致するのは、ちょうどそれが `Paced` のときである。 -/
theorem last_verdict_iff {past rate : List T} (h : Granted window perMinute past rate)
    {zset : Dict (T × Nat) T} (hz : Stored window pid past zset) {now : T}
    (hlast : ∀ t ∈ past, t ≤ now) (hwindow : 0 < window) :
    (rateRedis window perMinute pid zset now).1 = (rateMemory window perMinute rate now).1 ↔
      Paced perMinute window past now := by
  rw [rateRedis_verdict hz hlast hwindow, rateMemory_eq, h now hlast, decide_eq_decide]
  rfl

/--
**時刻の戻らないどの呼び出しの列でも、Redis の道とメモリの道の答えが一致するのは、ちょうどどの呼び出しも `Paced` のときである。**
-/
theorem rate_parity_iff (hwindow : 0 < window) (perMinute pid : Nat) {calls : List T}
    (hcalls : calls.Pairwise (· ≤ ·)) :
    verdictsOf (rateRedis window perMinute pid) Dict.empty calls =
        verdictsOf (rateMemory window perMinute) [] calls ↔
      AllPaced perMinute window calls := by
  induction calls using List.reverseRecOn with
  | nil => exact iff_of_true rfl trivial
  | append_singleton past now ih =>
    obtain ⟨hpast, -, hlast⟩ := List.pairwise_append.mp hcalls
    have hle : ∀ t ∈ past, t ≤ now := fun t ht => hlast t ht now (List.mem_singleton_self now)
    rw [verdictsOf_concat, verdictsOf_concat, allPaced_concat,
      List.append_singleton_inj, ih hpast]
    refine and_congr_right fun hpaced => ?_
    exact last_verdict_iff (granted_stateOf hpast hpaced) (stored_stateOf hwindow hpast) hle hwindow

/-- どの窓の中の呼び出しも予算までなら、二つの道の答えは一致する。 -/
theorem allPaced_of_few (hwindow : 0 < window) {calls : List T}
    (hfew : ∀ past now, past ++ [now] <+: calls →
      (recent window now (past ++ [now])).length ≤ perMinute) :
    AllPaced perMinute window calls ∧ calm perMinute window calls = calls := by
  induction calls using List.reverseRecOn with
  | nil => exact ⟨trivial, rfl⟩
  | append_singleton past now ih =>
    obtain ⟨hpaced, hcalm⟩ := ih fun past' now' h => hfew past' now' (h.trans (List.prefix_append _ _))
    have hlen := hfew past now (List.prefix_refl _)
    have hreadings : readings window past now ≤ perMinute :=
      (List.dedup_sublist _).length_le.trans hlen
    have hown : recent window now [now] = [now] :=
      List.filter_eq_self.mpr fun t ht => by
        rw [List.mem_singleton.mp ht, decide_eq_true_eq]
        exact lt_add_of_pos_right now hwindow
    rw [recent_append, hown, List.length_append, List.length_singleton] at hlen
    refine ⟨allPaced_concat.mpr ⟨hpaced, iff_of_true hreadings ?_⟩, ?_⟩
    · rw [hcalm]
      exact hlen
    · rw [calm_concat, if_pos hreadings, hcalm]

end Parity

/-- 一分に一つの予算で、断られた呼び出しの後に一分より長く空く。 -/
theorem rate_parity_paced :
    verdictsOf (rateRedis (60 : ℚ) 1 7) Dict.empty [0, 61, 90.5, 151] =
      verdictsOf (rateMemory (60 : ℚ) 1) [] [0, 61, 90.5, 151] :=
  (rate_parity_iff (by decide +kernel) 1 7 (by decide +kernel)).mpr (by decide +kernel)

/--
予算が一つのとき、断られた呼び出しが Redis の道では予算を使い、次の呼び出しも断られる。
同じ時刻の二つの呼び出しは、Redis の道では両方とも通る。
-/
theorem rate_paths_differ :
    verdictsOf (rateRedis (60 : ℚ) 1 7) Dict.empty [0, 30, 70] = [true, false, false] ∧
    verdictsOf (rateMemory (60 : ℚ) 1) [] [0, 30, 70] = [true, false, true] ∧
    verdictsOf (rateRedis (60 : ℚ) 1 7) Dict.empty [0, 0] = [true, true] ∧
    verdictsOf (rateMemory (60 : ℚ) 1) [] [0, 0] = [true, false] := by
  decide +kernel

end CipherPost.Live
