import CipherPost.Live.AlertInvariants

/-!
# 組織の間の独立

dispatcher の group の key と dedup の key には `org_id` が無く、group の flush は次に来た finding が
引き起こす。そのため、一方の組織の finding が他方の alert を変えることがある。

* `Sim` — 組織 `B` の finding のある run と無い run の、状態の対応
* `AlertDispatcher.Isolated` — 一つの呼び出しで、`B` の finding が他の組織の finding と出会わない条件
* `dispatched_isolated` — その条件の下で、二つの run が他の組織に同じ alert を出すこと
-/

namespace CipherPost.Live

/-! ## dedup の印の対応 -/

/--
`B` のある run の印 `s` と、無い run の印 `t`。`B` の印の無い key では等しく、`B` の印のある key では
`t` の印の方が早く切れる。
-/
structure MarkSim (B : String) (s t : Dict String (Nat × Mark)) : Prop where
  none : ∀ key, s.get? key = none → t.get? key = none
  other : ∀ key p, s.get? key = some p → p.2.org ≠ some B → t.get? key = some p
  own : ∀ key p q, s.get? key = some p → p.2.org = some B → t.get? key = some q → q.1 ≤ p.1

namespace MarkSim

variable {B : String} {s t : Dict String (Nat × Mark)}

theorem empty : MarkSim B Dict.empty Dict.empty where
  none := fun _ h => h
  other := fun _ _ h _ => h
  own := fun _ _ _ h _ _ => by cases h

/-- 同じ印を付ける。 -/
theorem set (h : MarkSim B s t) (key : String) {p : Nat × Mark} (hp : p.2.org ≠ some B) :
    MarkSim B (s.set key p) (t.set key p) where
  none := by
    intro k hk
    rw [Dict.get?_set] at hk ⊢
    split at hk
    · cases hk
    · next hne =>
      rw [if_neg hne]
      exact h.none k hk
  other := by
    intro k q hk hq
    rw [Dict.get?_set] at hk ⊢
    split at hk
    · next he => rw [if_pos he, hk]
    · next hne =>
      rw [if_neg hne]
      exact h.other k q hk hq
  own := by
    intro k q r hk hq hr
    rw [Dict.get?_set] at hk hr
    split at hk
    · rw [Option.some.injEq] at hk
      exact absurd hq (hk ▸ hp)
    · next hne =>
      rw [if_neg hne] at hr
      exact h.own k q r hk hq hr

/-- `B` の印を一方だけに付ける。 -/
theorem set_left (h : MarkSim B s t) (key : String) {p : Nat × Mark} (hp : p.2.org = some B)
    (hle : ∀ q, t.get? key = some q → q.1 ≤ p.1) : MarkSim B (s.set key p) t where
  none := by
    intro k hk
    rw [Dict.get?_set] at hk
    split at hk
    · cases hk
    · exact h.none k hk
  other := by
    intro k q hk hq
    rw [Dict.get?_set] at hk
    split at hk
    · rw [Option.some.injEq] at hk
      exact absurd hp (hk ▸ hq)
    · exact h.other k q hk hq
  own := by
    intro k q r hk hq hr
    rw [Dict.get?_set] at hk
    split at hk
    · next he =>
      subst he
      rw [Option.some.injEq] at hk
      exact hk ▸ hle r hr
    · exact h.own k q r hk hq hr

/-- `t` の印は、`s` のどれかの印より遅くは切れない。 -/
theorem exists_le (h : MarkSim B s t) {key : String} {q : Nat × Mark}
    (hq : t.get? key = some q) : ∃ p, s.get? key = some p ∧ q.1 ≤ p.1 := by
  cases hs : s.get? key with
  | none =>
    rw [h.none key hs] at hq
    cases hq
  | some p =>
    refine ⟨p, rfl, ?_⟩
    by_cases hp : p.2.org = some B
    · exact h.own key p q hs hp hq
    · rw [h.other key p hs hp, Option.some.injEq] at hq
      exact Nat.le_of_eq (hq ▸ rfl)

theorem size_le (h : MarkSim B s t) : t.size ≤ s.size := Dict.size_le_of_get? h.none

end MarkSim

namespace AlertState

/-- 印 `o` のある key が新しい key と見なされる。 -/
def freshAt (window now : Nat) (redisUp : Bool) (o : Option (Nat × Mark)) : Bool :=
  match redisUp, o with
  | true, none => true
  | true, some p => !decide (now < p.1)
  | false, none => !decide (now < window)
  | false, some p => !decide (now < p.1 + window)

theorem fst_checkAndSetDedup (a : AlertState) (window now : Nat) (redisUp : Bool) (key : String)
    (mark : Mark) : (a.checkAndSetDedup window now redisUp key mark).1
      = freshAt window now redisUp ((a.marks redisUp).get? key) := by
  unfold checkAndSetDedup marks freshAt
  cases redisUp with
  | true =>
    simp only [if_true]
    cases a.redisDedup.get? key with
    | none => rfl
    | some p =>
      simp only
      by_cases hlt : now < p.1
      · simp [hlt]
      · simp [hlt]
  | false =>
    simp only [Bool.false_eq_true, if_false]
    cases a.memDedup.get? key with
    | none =>
      simp only [Nat.zero_add]
      by_cases hlt : now < window
      · simp [hlt]
      · simp [hlt]
    | some p =>
      simp only
      by_cases hlt : now < p.1 + window
      · simp [hlt]
      · simp [hlt]

/-- 生きた `B` の印の無い key は、二つの run で同じく新しいか、同じく重複である。 -/
theorem freshAt_eq {B : String} {a a' : AlertState} {redisUp : Bool} {window now : Nat}
    {key : String} (h : MarkSim B (a.marks redisUp) (a'.marks redisUp))
    (hlive : ∀ mk, a.liveMark window now redisUp key = some mk → mk.org ≠ some B) :
    freshAt window now redisUp ((a.marks redisUp).get? key)
      = freshAt window now redisUp ((a'.marks redisUp).get? key) := by
  cases hs : (a.marks redisUp).get? key with
  | none => rw [h.none key hs]
  | some p =>
    by_cases hp : p.2.org = some B
    · -- `B` の印は切れているので、どちらの run でも新しい
      have hdead : ¬now < (if redisUp then p.1 else p.1 + window) := by
        intro hlt
        refine hlive p.2 (Option.bind_eq_some_iff.mpr ⟨p, hs, ?_⟩) hp
        rw [if_pos hlt]
      cases ht : (a'.marks redisUp).get? key with
      | none =>
        cases redisUp with
        | true => simpa [freshAt] using hdead
        | false =>
          have hdead : ¬now < p.1 + window := by simpa using hdead
          have hwindow : ¬now < window := by omega
          simp only [freshAt, hdead, hwindow]
      | some q =>
        have hle := h.own key p q hs hp ht
        cases redisUp with
        | true =>
          have hdead : ¬now < p.1 := by simpa using hdead
          have hdead' : ¬now < q.1 := by omega
          simp only [freshAt, hdead, hdead']
        | false =>
          have hdead : ¬now < p.1 + window := by simpa using hdead
          have hdead' : ¬now < q.1 + window := by omega
          simp only [freshAt, hdead, hdead']
    · rw [h.other key p hs hp]

/-- 印に書く時刻。Redis では期限、メモリでは付けた時刻である。 -/
def stamp (window now : Nat) (redisUp : Bool) : Nat := if redisUp then now + window else now

theorem le_stamp_of_freshAt {window now : Nat} {redisUp : Bool} {p : Nat × Mark}
    (h : freshAt window now redisUp (some p) = true) : p.1 ≤ stamp window now redisUp := by
  unfold freshAt at h
  unfold stamp
  cases redisUp with
  | true =>
    simp only [Bool.not_eq_true', decide_eq_false_iff_not] at h
    rw [if_pos rfl]
    omega
  | false =>
    simp only [Bool.not_eq_true', decide_eq_false_iff_not] at h
    rw [if_neg (by decide)]
    omega

/-- 新しい key なら、使っている方の辞書に印が付く。 -/
theorem marks_of_freshAt {a : AlertState} {window now : Nat} {redisUp : Bool} {key : String}
    (mark : Mark) (hfresh : freshAt window now redisUp ((a.marks redisUp).get? key) = true)
    (hroom : redisUp = false → a.memDedup.size + 1 ≤ 5000) (up : Bool) :
    (a.checkAndSetDedup window now redisUp key mark).2.marks up =
      if up = redisUp then (a.marks up).set key (stamp window now redisUp, mark) else a.marks up := by
  rw [← fst_checkAndSetDedup _ _ _ _ _ mark] at hfresh
  rcases checkAndSetDedup_cases a window now redisUp key mark with he | ⟨rfl, he⟩ | ⟨rfl, he⟩
  · rw [he] at hfresh
    cases hfresh
  · rw [he]
    cases up <;> rfl
  · have hsize : ¬5000 < (a.memDedup.set key (now, mark)).size := by
      have := hroom rfl
      rw [Dict.size_set]
      split <;> omega
    have hevict : evict (a.memDedup.set key (now, mark)) = a.memDedup.set key (now, mark) := by
      unfold evict
      rw [if_neg hsize]
    rw [he, hevict]
    cases up <;> rfl

end AlertState

/-! ## 状態の対応 -/

/-- 貯めた finding の組織。 -/
def StashKey.org : StashKey → String
  | .digest org _ => org
  | .quiet org => org

/-- alert に関わる状態が変わらない。 -/
structure Same (d d' : AlertDispatcher) : Prop where
  groups : d'.groups = d.groups
  marks : ∀ up, d'.state.marks up = d.state.marks up
  digests : d'.digests = d.digests
  digestOrgs : d'.digestOrgs = d.digestOrgs
  sent : d'.sent = d.sent

/-- 組織 `B` の finding のある run の状態 `s` と、無い run の状態 `t` の対応。 -/
structure Sim (B : String) (s t : AlertDispatcher) : Prop where
  wf : s.groups.Wf
  groups : t.groups.buckets = s.groups.buckets.filter fun _ b => decide (b.orgId ≠ some B)
  marks : ∀ up, MarkSim B (s.state.marks up) (t.state.marks up)
  digests : ∀ key : StashKey, key.org ≠ B → t.digests.get? key = s.digests.get? key
  orgs : ∀ org, org ≠ B → (org ∈ t.digestOrgs ↔ org ∈ s.digestOrgs)
  absent : B ∉ t.digestOrgs
  sent : t.sent = s.sent.filter fun x => decide (x.alert.orgId ≠ some B)

theorem Sim.same {B : String} {s s' t t' : AlertDispatcher} (h : Sim B s t) (hs : Same s s')
    (ht : Same t t') : Sim B s' t' where
  wf := hs.groups ▸ h.wf
  groups := by rw [ht.groups, hs.groups, h.groups]
  marks := by
    intro up
    rw [hs.marks, ht.marks]
    exact h.marks up
  digests := by rw [ht.digests, hs.digests]; exact h.digests
  orgs := by rw [ht.digestOrgs, hs.digestOrgs]; exact h.orgs
  absent := by rw [ht.digestOrgs]; exact h.absent
  sent := by rw [ht.sent, hs.sent, h.sent]

theorem Same.refl (d : AlertDispatcher) : Same d d := ⟨rfl, fun _ => rfl, rfl, rfl, rfl⟩

namespace AlertDispatcher

variable (cfg : Config) (env : Env)

/-! ## `_dispatch` -/

/-- rate の予算が尽きていない。 -/
def Ample (d : AlertDispatcher) : Instr → Prop
  | .rate _ => d.live = true →
    (d.state.checkRate cfg.ratePerMinute env.rateClock env.pid env.link.up).1 = true
  | _ => True

instance (d : AlertDispatcher) (i : Instr) : Decidable (Ample cfg env d i) :=
  match i with
  | .rate _ => inferInstanceAs (Decidable (_ → _))
  | .consumer _ | .outcome _ _ | .stash _ _ _ _ | .takeStash _ | .add _ | .flush | .gate _ _
  | .send _ _ => .isTrue trivial

/-- finding `f` の key が新しい。 -/
def fresh (d : AlertDispatcher) (f : Finding) : Bool :=
  AlertState.freshAt cfg.dedupWindow env.now env.link.up
    ((d.state.marks env.link.up).get? (groupKeyOf f))

/-- 印を付けて alert を出した状態。 -/
def alerted (d : AlertDispatcher) (f : Finding) (ms : List Member) : AlertDispatcher :=
  { d with
    state := (d.state.checkAndSetDedup cfg.dedupWindow env.now env.link.up (groupKeyOf f)
      ⟨f.orgId.get, ms⟩).2
    sent := d.sent ++ [⟨Alert.of f env.now, ms⟩] }

/-- 閾値か dedup を通らなければ alert に関わるものは変わらず、通れば印が付く。 -/
theorem gate_cases (d : AlertDispatcher) (f : Finding) (ms : List Member) :
    ((env.shouldAlert cfg f && d.fresh cfg env f) = false ∧
      (d.gate cfg env f ms).live = false ∧ Same d (d.gate cfg env f ms)) ∨
    (env.shouldAlert cfg f = true ∧ d.fresh cfg env f = true ∧
      d.gate cfg env f ms = { d with
        state := (d.state.checkAndSetDedup cfg.dedupWindow env.now env.link.up (groupKeyOf f)
          ⟨f.orgId.get, ms⟩).2
        live := true }) := by
  have hfst := d.state.fst_checkAndSetDedup cfg.dedupWindow env.now env.link.up (groupKeyOf f)
    ⟨f.orgId.get, ms⟩
  unfold gate
  cases hs : env.shouldAlert cfg f with
  | false => exact .inl ⟨rfl, rfl, rfl, fun _ => rfl, rfl, rfl, rfl⟩
  | true =>
    rw [if_neg Bool.false_ne_true.symm]
    cases hf : d.fresh cfg env f with
    | false =>
      simp only [hfst.trans hf, Bool.false_eq_true, if_false]
      exact .inl ⟨rfl, rfl, rfl, fun _ => rfl, rfl, rfl, rfl⟩
    | true =>
      refine .inr ⟨rfl, rfl, ?_⟩
      simp only [hfst.trans hf, if_true]

/-- 予算が尽きていなければ、`_dispatch` は閾値と dedup を通った finding の alert を出す。 -/
theorem dispatch_cases (d : AlertDispatcher) (f : Finding) (ms : List Member)
    (hample : Run.Along (Instr.run cfg env) (Ample cfg env) d (dispatch f ms)) :
    ((env.shouldAlert cfg f && d.fresh cfg env f) = false ∧
      Same d (Run.exec (Instr.run cfg env) d (dispatch f ms))) ∨
    (env.shouldAlert cfg f = true ∧ d.fresh cfg env f = true ∧
      Same (d.alerted cfg env f ms) (Run.exec (Instr.run cfg env) d (dispatch f ms))) := by
  have hrate : (d.gate cfg env f ms).live = true → ((d.gate cfg env f ms).state.checkRate
    cfg.ratePerMinute env.rateClock env.pid env.link.up).1 = true := hample.2.1
  show (_ ∧ Same d (((d.gate cfg env f ms).rate cfg env ms).send env f ms)) ∨
    (_ ∧ _ ∧ Same _ (((d.gate cfg env f ms).rate cfg env ms).send env f ms))
  rcases gate_cases cfg env d f ms with ⟨hno, hlive, hsame⟩ | ⟨hs, hf, hgate⟩
  · -- 止まった finding には、rate も送信も行われない
    have hidle : ((d.gate cfg env f ms).rate cfg env ms).send env f ms = d.gate cfg env f ms := by
      unfold rate send
      simp [hlive]
    exact .inl ⟨hno, hidle.symm ▸ hsame⟩
  · refine .inr ⟨hs, hf, ?_⟩
    rw [hgate] at hrate ⊢
    unfold rate
    rw [if_pos rfl]
    simp only [hrate rfl, if_true]
    unfold send
    rw [if_pos rfl]
    exact ⟨rfl, fun up => AlertState.marks_checkRate _ _ _ _ _ up, rfl, rfl, rfl⟩

/-- 閾値を通る finding `f` の key に、`B` の生きた印が無い。 -/
def Unmarked (B : String) (d : AlertDispatcher) (f : Finding) : Prop :=
  env.shouldAlert cfg f = true →
    ∀ mk, d.state.liveMark cfg.dedupWindow env.now env.link.up (groupKeyOf f) = some mk →
      mk.org ≠ some B

/-- メモリの印を `n` 個足しても、古い印は捨てられない。 -/
def Room (d : AlertDispatcher) (n : Nat) : Prop :=
  env.link.up = false → d.state.memDedup.size + n ≤ 5000

end AlertDispatcher

section

open AlertDispatcher

variable (cfg : Config) (env : Env) {B : String} {s t : AlertDispatcher}

/-- `B` のものでない finding の `_dispatch` は、二つの run で同じ alert を出す。 -/
theorem Sim.both (h : Sim B s t) {f : Finding} (hf : f.orgId.get ≠ some B) {ms : List Member}
    (hown : s.Unmarked cfg env B f) (hroom : s.Room env 1)
    (hs : Run.Along (Instr.run cfg env) (Ample cfg env) s (dispatch f ms))
    (ht : Run.Along (Instr.run cfg env) (Ample cfg env) t (dispatch f ms)) :
    Sim B (Run.exec (Instr.run cfg env) s (dispatch f ms))
      (Run.exec (Instr.run cfg env) t (dispatch f ms)) := by
  have hfresh : env.shouldAlert cfg f = true → s.fresh cfg env f = t.fresh cfg env f := fun hsev =>
    AlertState.freshAt_eq (h.marks env.link.up) (hown hsev)
  rcases dispatch_cases cfg env s f ms hs with ⟨hno, hsame⟩ | ⟨hsev, hnew, hsame⟩
  · rcases dispatch_cases cfg env t f ms ht with ⟨-, hsame'⟩ | ⟨hsev, hnew, -⟩
    · exact h.same hsame hsame'
    · -- 一方だけが新しいことはない
      rw [hsev, Bool.true_and, hfresh hsev, hnew] at hno
      cases hno
  · rcases dispatch_cases cfg env t f ms ht with ⟨hno, -⟩ | ⟨-, hnew', hsame'⟩
    · rw [hsev, Bool.true_and, ← hfresh hsev, hnew] at hno
      cases hno
    · refine Sim.same ?_ hsame hsame'
      have hroom' : t.Room env 1 := fun hup =>
        Nat.le_trans (Nat.add_le_add_right (h.marks false).size_le 1) (hroom hup)
      refine ⟨h.wf, h.groups, fun up => ?_, h.digests, h.orgs, h.absent, ?_⟩
      · show MarkSim B ((s.state.checkAndSetDedup _ _ _ _ _).2.marks up)
          ((t.state.checkAndSetDedup _ _ _ _ _).2.marks up)
        rw [AlertState.marks_of_freshAt _ hnew hroom, AlertState.marks_of_freshAt _ hnew' hroom']
        split
        · exact (h.marks up).set _ hf
        · exact h.marks up
      · show t.sent ++ _ = (s.sent ++ _).filter _
        have hkeep : [(⟨Alert.of f env.now, ms⟩ : Sent)].filter
            (fun x => decide (x.alert.orgId ≠ some B)) = [⟨Alert.of f env.now, ms⟩] :=
          List.filter_cons_of_pos (decide_eq_true hf)
        rw [List.filter_append, ← h.sent, hkeep]

/-- `B` の finding の `_dispatch` は、一方の run だけで行っても対応を保つ。 -/
theorem Sim.left (h : Sim B s t) {f : Finding} (hf : f.orgId.get = some B)
    {ms : List Member} (hroom : s.Room env 1)
    (hs : Run.Along (Instr.run cfg env) (Ample cfg env) s (dispatch f ms)) :
    Sim B (Run.exec (Instr.run cfg env) s (dispatch f ms)) t := by
  rcases dispatch_cases cfg env s f ms hs with ⟨-, hsame⟩ | ⟨-, hnew, hsame⟩
  · exact h.same hsame (Same.refl t)
  · refine Sim.same ?_ hsame (Same.refl t)
    refine ⟨h.wf, h.groups, fun up => ?_, h.digests, h.orgs, h.absent, ?_⟩
    · show MarkSim B ((s.state.checkAndSetDedup _ _ _ _ _).2.marks up) (t.state.marks up)
      rw [AlertState.marks_of_freshAt _ hnew hroom]
      split
      · next hup =>
        -- 新しい印は、それまでのどの印よりも後に切れる
        refine (h.marks up).set_left _ hf fun q hq => ?_
        obtain ⟨p, hp, hle⟩ := (h.marks up).exists_le hq
        unfold fresh at hnew
        rw [← hup, hp] at hnew
        exact Nat.le_trans hle (hup ▸ AlertState.le_stamp_of_freshAt hnew)
      · exact h.marks up
    · show t.sent = (s.sent ++ _).filter _
      have hdrop : [(⟨Alert.of f env.now, ms⟩ : Sent)].filter
          (fun x => decide (x.alert.orgId ≠ some B)) = [] :=
        List.filter_cons_of_neg fun hne => of_decide_eq_true hne hf
      rw [List.filter_append, ← h.sent, hdrop, List.append_nil]

/-- `_dispatch` で増えるメモリの印は、高々一つである。 -/
theorem AlertDispatcher.Room.spend {n : Nat} (h : s.Room env (n + 1)) {f : Finding} {ms : List Member}
    (hs : Run.Along (Instr.run cfg env) (Ample cfg env) s (dispatch f ms)) :
    (Run.exec (Instr.run cfg env) s (dispatch f ms)).Room env n := by
  intro hup
  have hle := h hup
  rcases dispatch_cases cfg env s f ms hs with ⟨-, hsame⟩ | ⟨-, hnew, hsame⟩
  · have hm := congrArg Dict.size (hsame.marks false)
    have hm : (Run.exec (Instr.run cfg env) s (dispatch f ms)).state.memDedup.size
      = s.state.memDedup.size := hm
    omega
  · have hm := hsame.marks false
    have hmarks := AlertState.marks_of_freshAt ⟨f.orgId.get, ms⟩ hnew
      (fun hup => by have := h hup; omega) false
    rw [if_pos hup.symm] at hmarks
    have hsize := congrArg Dict.size (hm.trans hmarks)
    rw [Dict.size_set] at hsize
    have hsize : (Run.exec (Instr.run cfg env) s (dispatch f ms)).state.memDedup.size
      = if (s.state.memDedup.get? (groupKeyOf f)).isSome then s.state.memDedup.size
        else s.state.memDedup.size + 1 := hsize
    split at hsize <;> omega

/-- ほかの key の `_dispatch` は、`B` の印の無い key に印を付けない。 -/
theorem AlertDispatcher.Unmarked.keep {f g : Finding} (h : s.Unmarked cfg env B g)
    (hne : groupKeyOf f ≠ groupKeyOf g) (ms : List Member) :
    (Run.exec (Instr.run cfg env) s (dispatch f ms)).Unmarked cfg env B g := by
  intro hsev mk hmk
  exact h hsev mk ((liveMark_dispatch cfg env hmk).resolve_right fun hk => hne hk.1.symm)

/-- `B` のものでない `_dispatch` は、どの key にも `B` の印を付けない。 -/
theorem AlertDispatcher.Unmarked.keep_other {f g : Finding} (h : s.Unmarked cfg env B g)
    (hf : f.orgId.get ≠ some B) (ms : List Member) :
    (Run.exec (Instr.run cfg env) s (dispatch f ms)).Unmarked cfg env B g := by
  intro hsev mk hmk
  rcases liveMark_dispatch cfg env hmk with hmk | ⟨-, rfl⟩
  · exact h hsev mk hmk
  · exact hf

/-- alert の列の `_dispatch`。無い run では、`B` のものを除いて行う。 -/
theorem Sim.all : ∀ {gs : List (Finding × List Member)} {s t : AlertDispatcher},
    Sim B s t → gs.Pairwise (fun g g' => groupKeyOf g.1 ≠ groupKeyOf g'.1) →
    (∀ g ∈ gs, g.1.orgId.get ≠ some B → s.Unmarked cfg env B g.1) → s.Room env gs.length →
    Run.Along (Instr.run cfg env) (Ample cfg env) s (dispatchAll gs) →
    Run.Along (Instr.run cfg env) (Ample cfg env) t
      (dispatchAll (gs.filter fun g => decide (g.1.orgId.get ≠ some B))) →
    Sim B (Run.exec (Instr.run cfg env) s (dispatchAll gs))
      (Run.exec (Instr.run cfg env) t
        (dispatchAll (gs.filter fun g => decide (g.1.orgId.get ≠ some B))))
  | [], _, _, h, _, _, _, _, _ => h
  | g :: gs, s, t, h, hkeys, hown, hroom, hs, ht => by
    obtain ⟨hne, hkeys⟩ := List.pairwise_cons.mp hkeys
    have hcons : ∀ l : List (Finding × List Member),
        dispatchAll (g :: l) = dispatch g.1 g.2 ++ dispatchAll l := fun _ => rfl
    rw [hcons, Run.along_append] at hs
    have hroom₁ : s.Room env 1 := fun hup => by
      have := hroom hup
      rw [List.length_cons] at this
      omega
    have hown' : ∀ g' ∈ gs, g'.1.orgId.get ≠ some B →
        (Run.exec (Instr.run cfg env) s (dispatch g.1 g.2)).Unmarked cfg env B g'.1 :=
      fun g' hg' hg => (hown g' (List.mem_cons_of_mem _ hg') hg).keep cfg env (hne g' hg') _
    have hroom' := hroom.spend cfg env hs.1
    rw [hcons, Run.exec_append]
    -- `B` のものは無い run にはなく、それ以外は両方で行われる
    by_cases hg : g.1.orgId.get = some B
    · rw [List.filter_cons_of_neg (by simpa using hg)] at ht ⊢
      exact Sim.all (h.left cfg env hg hroom₁ hs.1) hkeys hown' hroom' hs.2 ht
    · rw [List.filter_cons_of_pos (by simpa using hg)] at ht ⊢
      rw [hcons, Run.along_append] at ht
      rw [hcons, Run.exec_append]
      exact Sim.all (h.both cfg env hg (hown g List.mem_cons_self hg) hroom₁ hs.1 ht.1)
        hkeys hown' hroom' hs.2 ht.2

/-! ## group -/

theorem GroupBuffer.buckets_add (g : GroupBuffer) (m : Member) (now hold : Nat) :
    (g.add m now hold).buckets = g.buckets.set (groupKeyOf m.finding)
      (match g.buckets.get? (groupKeyOf m.finding) with
        | none => Bucket.opened m now hold
        | some b => b.merge m now) := by
  unfold GroupBuffer.add
  simp only
  cases g.buckets.get? (groupKeyOf m.finding) with
  | none => rfl
  | some b => rfl

/-- 追加の後の bucket の組織は、開いていた bucket か、新しい finding のものである。 -/
theorem Sim.add (h : Sim B s t) {m : Member} (hm : m.finding.orgId.get ≠ some B)
    (hopen : ∀ b, s.groups.buckets.get? (groupKeyOf m.finding) = some b → b.orgId ≠ some B) :
    Sim B (s.add cfg env m) (t.add cfg env m) := by
  have hget : t.groups.buckets.get? (groupKeyOf m.finding)
      = s.groups.buckets.get? (groupKeyOf m.finding) := by
    rw [h.groups, Dict.get?_filter]
    cases hb : s.groups.buckets.get? (groupKeyOf m.finding) with
    | none => rfl
    | some b => exact Option.filter_some_pos (decide_eq_true (hopen b hb))
  refine ⟨h.wf.add m env.now cfg.holdSeconds, ?_, h.marks, h.digests, h.orgs, h.absent, h.sent⟩
  show (t.groups.add m env.now cfg.holdSeconds).buckets
    = (s.groups.add m env.now cfg.holdSeconds).buckets.filter _
  rw [GroupBuffer.buckets_add, GroupBuffer.buckets_add, hget, h.groups]
  refine (Dict.filter_set_of_true (p := fun _ (b : Bucket) => decide (b.orgId ≠ some B)) ?_ ?_).symm
  · refine decide_eq_true ?_
    split
    · exact hm
    · next b hb =>
      rw [Bucket.orgId_merge]
      exact hopen b hb
  · intro b hb
    exact decide_eq_true (hopen b hb)

theorem Sim.add_left (h : Sim B s t) {m : Member} (hm : m.finding.orgId.get = some B)
    (hopen : ∀ b, s.groups.buckets.get? (groupKeyOf m.finding) = some b → b.orgId = some B) :
    Sim B (s.add cfg env m) t := by
  refine ⟨h.wf.add m env.now cfg.holdSeconds, ?_, h.marks, h.digests, h.orgs, h.absent, h.sent⟩
  show t.groups.buckets = (s.groups.add m env.now cfg.holdSeconds).buckets.filter _
  rw [GroupBuffer.buckets_add, h.groups]
  refine (Dict.filter_set_of_false (p := fun _ (b : Bucket) => decide (b.orgId ≠ some B)) ?_ ?_).symm
  · refine decide_eq_false (not_not_intro ?_)
    split
    · exact hm
    · next b hb =>
      rw [Bucket.orgId_merge]
      exact hopen b hb
  · intro b hb
    exact decide_eq_false (not_not_intro (hopen b hb))

theorem Sim.flush (h : Sim B s t) : Sim B (s.flush env) (t.flush env) := by
  refine ⟨h.wf.flushed env.now, ?_, h.marks, h.digests, h.orgs, h.absent, h.sent⟩
  show t.groups.buckets.filter (fun _ b => decide (¬b.deadline ≤ env.now))
    = (s.groups.buckets.filter fun _ b => decide (¬b.deadline ≤ env.now)).filter _
  rw [h.groups, Dict.filter_comm]

/-- 期限の来た group がどれも `B` のものなら、一方だけで flush してよい。 -/
theorem Sim.flush_left (h : Sim B s t)
    (hdue : ∀ key b, s.groups.buckets.get? key = some b → b.deadline ≤ env.now →
      b.orgId = some B) : Sim B (s.flush env) t := by
  refine ⟨h.wf.flushed env.now, ?_, h.marks, h.digests, h.orgs, h.absent, h.sent⟩
  refine h.groups.trans (Dict.ext ?_)
  show s.groups.buckets.entries.filter _
    = (s.groups.buckets.entries.filter fun e => decide (¬e.2.deadline ≤ env.now)).filter _
  rw [List.filter_filter]
  refine List.filter_congr fun e he => ?_
  have hget := (Dict.mem_entries_iff _ e.1 e.2).mp he
  by_cases horg : e.2.orgId = some B
  · simp [horg]
  · have hlater : ¬e.2.deadline ≤ env.now := fun hle => horg (hdue e.1 e.2 hget hle)
    simp [horg, hlater]

/-- 無い run で flush される group は、`B` のものを除いたものである。 -/
theorem Sim.due (h : Sim B s t) (f : Finding) :
    dueGroups t.groups env.now f
      = (dueGroups s.groups env.now f).filter fun g => decide (g.1.orgId.get ≠ some B) := by
  have hdue : t.groups.due env.now
      = (s.groups.due env.now).filter fun b => decide (b.orgId ≠ some B) := by
    unfold GroupBuffer.due
    rw [h.groups, Dict.filter_comm]
    exact Dict.values_filter _ fun b : Bucket => decide (b.orgId ≠ some B)
  unfold AlertDispatcher.dueGroups
  rw [hdue, List.filter_map]
  congr 1
  refine List.filter_congr fun b _ => ?_
  show decide (b.orgId ≠ some B) = decide ((Field.ofOption b.orgId).get ≠ some B)
  rw [Field.get_ofOption]

/-! ## digest -/

/-- 空でも `none` でもない id は、貯める key の上でも他の組織と区別される。 -/
theorem orgKey_eq_iff (hB : B ≠ "" ∧ B ≠ "none") (o : Option String) :
    orgKey o = B ↔ o = some B := by
  unfold orgKey orText
  cases ht : truthy o with
  | some x =>
    obtain ⟨rfl, -⟩ := truthy_eq_some.mp ht
    simp
  | none =>
    constructor
    · intro h
      exact absurd h.symm hB.2
    · intro h
      rw [truthy_eq_some.mpr ⟨h, hB.1⟩] at ht
      cases ht

theorem Sim.stashed (h : Sim B s t) {key : StashKey} (hk : key.org ≠ B) (now : Nat) :
    t.stashed now key = s.stashed now key := by
  unfold AlertDispatcher.stashed
  rw [h.digests key hk]

theorem Sim.heldItems (h : Sim B s t) {key : StashKey} (hk : key.org ≠ B) :
    t.heldItems env key = s.heldItems env key := by
  unfold AlertDispatcher.heldItems
  rw [h.stashed hk]

theorem Sim.stash (h : Sim B s t) {key : StashKey} (hk : key.org ≠ B) {org : String}
    (horg : org ≠ B) (e : EntryId) (item : DigestItem) :
    Sim B (s.stash env e key org item) (t.stash env e key org item) := by
  have hdigests : ∀ v : Nat × List DigestItem, ∀ k, k.org ≠ B →
      (t.digests.set key v).get? k = (s.digests.set key v).get? k := by
    intro v k hk'
    rw [Dict.get?_set, Dict.get?_set, h.digests k hk']
  unfold AlertDispatcher.stash
  split
  · simp only
    rw [h.heldItems env hk]
    split
    · refine ⟨h.wf, h.groups, h.marks, hdigests _, fun o ho => ?_, ?_, h.sent⟩
      · have hmem : ∀ l : List String,
            o ∈ (if org ∈ l then l else l ++ [org]) ↔ o ∈ l ∨ o = org := by
          intro l
          split
          · next hin => exact ⟨Or.inl, fun ho => ho.elim id fun he => he ▸ hin⟩
          · rw [List.mem_append, List.mem_singleton]
        show o ∈ (if org ∈ t.digestOrgs then _ else _) ↔ o ∈ (if org ∈ s.digestOrgs then _ else _)
        rw [hmem, hmem, h.orgs o ho]
      · show B ∉ (if org ∈ t.digestOrgs then _ else _)
        split
        · exact h.absent
        · rw [List.mem_append, List.mem_singleton]
          rintro (hin | he)
          · exact h.absent hin
          · exact horg he.symm
    · exact ⟨h.wf, h.groups, h.marks, hdigests _, h.orgs, h.absent, h.sent⟩
  · exact h

theorem Sim.stash_left (h : Sim B s t) {key : StashKey} (hk : key.org = B) (e : EntryId)
    (item : DigestItem) : Sim B (s.stash env e key B item) t := by
  have hdigests : ∀ v : Nat × List DigestItem, ∀ k, k.org ≠ B →
      t.digests.get? k = (s.digests.set key v).get? k := by
    intro v k hk'
    have hne : key ≠ k := fun he => hk' (he ▸ hk)
    rw [Dict.get?_set_of_ne _ _ hne, h.digests k hk']
  unfold AlertDispatcher.stash
  split
  · simp only
    split
    · refine ⟨h.wf, h.groups, h.marks, hdigests _, fun o ho => ?_, h.absent, h.sent⟩
      show o ∈ t.digestOrgs ↔ o ∈ (if B ∈ s.digestOrgs then _ else _)
      rw [h.orgs o ho]
      split
      · exact Iff.rfl
      · rw [List.mem_append, List.mem_singleton, or_iff_left ho]
    · exact ⟨h.wf, h.groups, h.marks, hdigests _, h.orgs, h.absent, h.sent⟩
  · exact h

theorem Sim.takeStash (h : Sim B s t) (key : StashKey) :
    Sim B (s.takeStash env key) (t.takeStash env key) := by
  unfold AlertDispatcher.takeStash
  split
  · refine ⟨h.wf, h.groups, h.marks, fun k hk => ?_, h.orgs, h.absent, h.sent⟩
    show (t.digests.erase key).get? k = (s.digests.erase key).get? k
    rw [Dict.get?_erase, Dict.get?_erase, h.digests k hk]
  · exact h

theorem Sim.takeStash_left (h : Sim B s t) {key : StashKey} (hk : key.org = B) :
    Sim B (s.takeStash env key) t := by
  unfold AlertDispatcher.takeStash
  split
  · refine ⟨h.wf, h.groups, h.marks, fun k hk' => ?_, h.orgs, h.absent, h.sent⟩
    have hne : k ≠ key := fun he => hk' (he ▸ hk)
    show t.digests.get? k = (s.digests.erase key).get? k
    rw [Dict.get?_erase_of_ne _ hne, h.digests k hk']
  · exact h

/-- `_flush_digests` の、組織 `org` の key `keys` についての命令。 -/
def digestCalls (org : Option String) (items : StashKey → List DigestItem)
    (keys : List StashKey) : List Instr :=
  keys.flatMap fun key =>
    match items key with
    | [] => []
    | items => .takeStash key :: dispatch (digestFinding org items) []

theorem digestCalls_cons (org : Option String) (items : StashKey → List DigestItem)
    (key : StashKey) (keys : List StashKey) :
    digestCalls org items (key :: keys) = digestCalls org items keys ∨
      items key ≠ [] ∧ digestCalls org items (key :: keys) =
        .takeStash key :: (dispatch (digestFinding org (items key)) [] ++
          digestCalls org items keys) := by
  cases h : items key with
  | nil =>
    refine Or.inl ?_
    unfold digestCalls
    rw [List.flatMap_cons, h]
    rfl
  | cons x l =>
    refine Or.inr ⟨List.cons_ne_nil x l, ?_⟩
    unfold digestCalls
    rw [List.flatMap_cons, h]
    rfl

theorem orgId_digestFinding (org : Option String) (items : List DigestItem) :
    (digestFinding org items).orgId.get = org := Field.get_ofOption org

theorem AlertDispatcher.Room.mono {m n : Nat} (h : s.Room env n) (hle : m ≤ n) : s.Room env m :=
  fun hup => Nat.le_trans (Nat.add_le_add_left hle _) (h hup)

/-- 貯めたものを取り出しても、dedup の印は変わらない。 -/
theorem state_takeStash (s : AlertDispatcher) (key : StashKey) :
    (s.takeStash env key).state = s.state := by
  unfold AlertDispatcher.takeStash
  split <;> rfl

theorem AlertDispatcher.Room.takeStash {n : Nat} (h : s.Room env n) (key : StashKey) :
    (s.takeStash env key).Room env n := by
  unfold Room at h ⊢
  rwa [state_takeStash]

/-- 他の組織の digest は、二つの run で同じく出る。 -/
theorem Sim.digests_both {org : Option String} (horg : org ≠ some B)
    {items : StashKey → List DigestItem} : ∀ {keys : List StashKey} {s t : AlertDispatcher},
    Sim B s t →
    (∀ key ∈ keys, s.Unmarked cfg env B (digestFinding org (items key))) →
    s.Room env keys.length →
    Run.Along (Instr.run cfg env) (Ample cfg env) s (digestCalls org items keys) →
    Run.Along (Instr.run cfg env) (Ample cfg env) t (digestCalls org items keys) →
    Sim B (Run.exec (Instr.run cfg env) s (digestCalls org items keys))
      (Run.exec (Instr.run cfg env) t (digestCalls org items keys))
  | [], _, _, h, _, _, _, _ => h
  | key :: keys, s, t, h, hown, hroom, hs, ht => by
    have hown' := fun k hk => hown k (List.mem_cons_of_mem _ hk)
    rcases digestCalls_cons org items key keys with he | ⟨-, he⟩
    · -- 貯めた finding が無ければ、digest は出ない
      rw [he] at hs ht ⊢
      exact Sim.digests_both horg h hown' (hroom.mono env (Nat.le_succ _)) hs ht
    · rw [he] at hs ht ⊢
      obtain ⟨-, hs⟩ := hs
      obtain ⟨-, ht⟩ := ht
      rw [Run.along_append] at hs ht
      rw [Run.exec_cons, Run.exec_cons, Run.exec_append, Run.exec_append]
      have hf : (digestFinding org (items key)).orgId.get ≠ some B := by
        rwa [orgId_digestFinding]
      have hunmarked : ∀ f, s.Unmarked cfg env B f → (s.takeStash env key).Unmarked cfg env B f := by
        intro f hu
        unfold Unmarked at hu ⊢
        rwa [state_takeStash]
      have hroom' := hroom.takeStash env key
      rw [List.length_cons] at hroom'
      refine Sim.digests_both horg ?_ (fun k hk => ?_) (hroom'.spend cfg env hs.1) hs.2 ht.2
      · exact (h.takeStash env key).both cfg env hf (hunmarked _ (hown key List.mem_cons_self))
          (hroom'.mono env (by omega)) hs.1 ht.1
      · exact (hunmarked _ (hown' k hk)).keep_other cfg env hf []

/-- `B` の digest は、一方の run だけで出してもよい。 -/
theorem Sim.digests_left {items : StashKey → List DigestItem} :
    ∀ {keys : List StashKey} {s : AlertDispatcher}, Sim B s t → (∀ key ∈ keys, key.org = B) →
    s.Room env keys.length →
    Run.Along (Instr.run cfg env) (Ample cfg env) s (digestCalls (some B) items keys) →
    Sim B (Run.exec (Instr.run cfg env) s (digestCalls (some B) items keys)) t
  | [], _, h, _, _, _ => h
  | key :: keys, s, h, hkeys, hroom, hs => by
    have hkeys' := fun k hk => hkeys k (List.mem_cons_of_mem _ hk)
    rcases digestCalls_cons (some B) items key keys with he | ⟨-, he⟩
    · rw [he] at hs ⊢
      exact Sim.digests_left h hkeys' (hroom.mono env (Nat.le_succ _)) hs
    · rw [he] at hs ⊢
      obtain ⟨-, hs⟩ := hs
      rw [Run.along_append] at hs
      rw [Run.exec_cons, Run.exec_append]
      have hroom' := hroom.takeStash env key
      rw [List.length_cons] at hroom'
      refine Sim.digests_left ?_ hkeys' (hroom'.spend cfg env hs.1) hs.2
      exact (h.takeStash_left env (hkeys key List.mem_cons_self)).left cfg env
        (orgId_digestFinding _ _) (hroom'.mono env (by omega)) hs.1

/-! ## 一つの呼び出し -/

/-- 例外も停止も無い事象。 -/
def Event.Smooth : Event → Prop
  | .entry _ _ fault => fault = {}
  | .idle _ fault => fault = {}
  | .digest _ _ fault => fault = {}
  | .direct _ _ fault => fault = {}
  | .restart => True

/-- 呼び出しの間、rate の予算が尽きない。 -/
def AlertDispatcher.AmpleOn (content : EntryId → Payload) (d : AlertDispatcher) : Event → Prop
  | .entry e env fault => Run.Along (Instr.run cfg env) (Ample cfg env) d
      (d.handleEntry cfg e (content e) env fault)
  | .idle env fault => Run.Along (Instr.run cfg env) (Ample cfg env) d
      (fault.cut (d.idleFlush env) [] [])
  | .digest org env fault => Run.Along (Instr.run cfg env) (Ample cfg env) d
      (fault.cut (d.flushDigests org env) [] [])
  | .direct f env fault => Run.Along (Instr.run cfg env) (Ample cfg env) d
      (fault.cut (dispatch f []) [] [])
  | .restart => True

instance (content : EntryId → Payload) (d : AlertDispatcher) (ev : Event) :
    Decidable (d.AmpleOn cfg content ev) :=
  match ev with
  | .entry _ _ _ | .idle _ _ | .digest _ _ _ | .direct _ _ _ =>
    inferInstanceAs (Decidable (Run.Along _ _ _ _))
  | .restart => .isTrue trivial

/-- 期限の来た group を出しても、他の組織の group の key に `B` の印は無く、古い印も捨てられない。 -/
def AlertDispatcher.DueUnmarked (B : String) (d : AlertDispatcher)
    (gs : List (Finding × List Member)) : Prop :=
  (∀ g ∈ gs, g.1.orgId.get ≠ some B → d.Unmarked cfg env B g.1) ∧ d.Room env gs.length

/-- `digest:orgs` の要素が表す組織。 -/
def orgOf (org : String) : Option String := if org = "none" then none else some org

/--
一つの呼び出しで、`B` の finding が他の組織の finding と出会わない。

* finding の key に開いた bucket があれば、それは同じ側の組織のものである
* `B` の finding は、他の組織の group の flush を引き起こさない
* 他の組織の alert を出すとき、その key に `B` の生きた印は無い
-/
def AlertDispatcher.Isolated (content : EntryId → Payload) (B : String) (d : AlertDispatcher) :
    Event → Prop
  | .entry e env _ => ∀ f, (content e).finding = some f → triage cfg env f = .group →
      (∀ b, d.groups.buckets.get? (groupKeyOf f) = some b →
        (b.orgId = some B ↔ f.orgId.get = some B)) ∧
      (f.orgId.get = some B → ∀ key b, d.groups.buckets.get? key = some b →
        b.deadline ≤ env.now → b.orgId = some B) ∧
      d.DueUnmarked cfg env B (dueGroups
        (d.groups.add ⟨e, routed env f⟩ env.now cfg.holdSeconds) env.now (routed env f))
  | .idle env _ => d.DueUnmarked cfg env B (dueGroups d.groups env.now {})
  | .digest org env _ =>
      (org ≠ B → ∀ key ∈ dueStashes env org,
        d.Unmarked cfg env B (digestFinding (orgOf org) (d.stashed env.now key))) ∧
      d.Room env (dueStashes env org).length
  | .direct f env _ => (f.orgId.get ≠ some B → d.Unmarked cfg env B f) ∧ d.Room env 1
  | .restart => True

/-- `B` の finding でない事象。 -/
def keeps (content : EntryId → Payload) (B : String) : Event → Bool
  | .entry e _ _ =>
    match (content e).finding with
    | some f => decide (f.orgId.get ≠ some B)
    | none => true
  | .direct f _ _ => decide (f.orgId.get ≠ some B)
  | _ => true

theorem Same.trans {d₁ d₂ d₃ : AlertDispatcher} (h : Same d₁ d₂) (h' : Same d₂ d₃) :
    Same d₁ d₃ where
  groups := h'.groups.trans h.groups
  marks := fun up => (h'.marks up).trans (h.marks up)
  digests := h'.digests.trans h.digests
  digestOrgs := h'.digestOrgs.trans h.digestOrgs
  sent := h'.sent.trans h.sent

/-- stream の命令と行き先の記録は、alert に関わらない。 -/
theorem same_exec : ∀ {is : List Instr} (d : AlertDispatcher),
    (∀ i ∈ is, (∃ op, i = .consumer op) ∨ ∃ e o, i = .outcome e o) →
    Same d (Run.exec (Instr.run cfg env) d is)
  | [], d, _ => Same.refl d
  | i :: is, d, h => by
    have hstep : Same d (i.run cfg env d) := by
      rcases h i List.mem_cons_self with ⟨op, rfl⟩ | ⟨e, o, rfl⟩
      · exact ⟨rfl, fun _ => rfl, rfl, rfl, rfl⟩
      · exact ⟨rfl, fun _ => rfl, rfl, rfl, rfl⟩
    exact hstep.trans (same_exec _ fun j hj => h j (List.mem_cons_of_mem _ hj))

theorem handleEntry_of_finding (d : AlertDispatcher) {e : EntryId} {p : Payload} {f : Finding}
    (hf : p.finding = some f) :
    d.handleEntry cfg e p env {} = (d.plan cfg e env f).body ++ (d.plan cfg e env f).tail := by
  unfold handleEntry
  rw [hf]
  rfl

theorem orgId_routed (f : Finding) : (routed env f).orgId = f.orgId := by
  unfold routed
  split <;> rfl

/-- 貯める key は、finding の組織のものである。 -/
theorem org_of_triage {f : Finding} {key : StashKey} (h : triage cfg env f = .stash key) :
    key.org = orgKey f.orgId.get := by
  unfold triage at h
  split at h
  · cases h
  · split at h
    · cases h
    · split at h
      · simp only at h
        split at h
        · cases h
          rfl
        · split at h
          · cases h
            rfl
          · cases h
      · cases h

theorem same_tail (d : AlertDispatcher) (a b : GroupOp Finding) :
    Same d (Run.exec (Instr.run cfg env) d [.consumer a, .consumer b]) := by
  refine same_exec cfg env d fun i hi => ?_
  simp only [List.mem_cons, List.not_mem_nil, or_false] at hi
  rcases hi with rfl | rfl <;> exact Or.inl ⟨_, rfl⟩

theorem pairwise_dueGroups {g : GroupBuffer} (h : g.Wf) (now : Nat) (f : Finding) :
    (dueGroups g now f).Pairwise fun x y => groupKeyOf x.1 ≠ groupKeyOf y.1 :=
  List.pairwise_map.mpr (pairwise_groupKeyOf_due h now f)

variable {content : EntryId → Payload}

/-- `B` のものでない entry の処理は、対応を保つ。 -/
theorem Sim.entry (h : Sim B s t) (hB : B ≠ "" ∧ B ≠ "none") {e : EntryId} {f : Finding}
    (hf : (content e).finding = some f) (horg : f.orgId.get ≠ some B)
    (hc : s.Isolated cfg content B (.entry e env {}))
    (hs : Run.Along (Instr.run cfg env) (Ample cfg env) s
      (s.handleEntry cfg e (content e) env {}))
    (ht : Run.Along (Instr.run cfg env) (Ample cfg env) t
      (t.handleEntry cfg e (content e) env {})) :
    Sim B (Run.exec (Instr.run cfg env) s (s.handleEntry cfg e (content e) env {}))
      (Run.exec (Instr.run cfg env) t (t.handleEntry cfg e (content e) env {})) := by
  rw [handleEntry_of_finding cfg env s hf] at hs ⊢
  rw [handleEntry_of_finding cfg env t hf] at ht ⊢
  rw [Run.along_append] at hs ht
  rw [Run.exec_append, Run.exec_append]
  unfold plan at hs ht ⊢
  cases htri : triage cfg env f with
  | drop o =>
    have hout : ∀ d : AlertDispatcher, Same d (Run.exec (Instr.run cfg env) d [.outcome e o]) :=
      fun d => ⟨rfl, fun _ => rfl, rfl, rfl, rfl⟩
    exact (h.same (hout s) (hout t)).same (same_tail cfg env _ _ _) (same_tail cfg env _ _ _)
  | stash key =>
    have hkey : key.org ≠ B := by
      rw [org_of_triage cfg env htri, Ne, orgKey_eq_iff hB]
      exact horg
    refine Sim.same ?_ (same_tail cfg env _ _ _) (same_tail cfg env _ _ _)
    exact h.stash env hkey (fun he => horg ((orgKey_eq_iff hB _).mp he)) e _
  | group =>
    simp only [htri] at hs ht ⊢
    obtain ⟨hopen, -, hown, hroom⟩ := hc f hf htri
    have hm : (routed env f).orgId.get ≠ some B := by rwa [orgId_routed]
    have hopen' : ∀ b, s.groups.buckets.get? (groupKeyOf (routed env f)) = some b →
        b.orgId ≠ some B := by
      rw [groupKeyOf_routed]
      exact fun b hb he => horg ((hopen b hb).mp he)
    have hadd := h.add cfg env (m := ⟨e, routed env f⟩) hm hopen'
    have hflush := hadd.flush env
    refine Sim.same ?_ (same_tail cfg env _ _ _) (same_tail cfg env _ _ _)
    have hdue := hadd.due env (routed env f)
    have ht := ht.1.2.2
    -- 無い run で期限の来る group は、`B` のものを除いた残りである
    rw [show t.groups.add ⟨e, routed env f⟩ env.now cfg.holdSeconds
      = (t.add cfg env ⟨e, routed env f⟩).groups from rfl, hdue] at ht ⊢
    exact hflush.all cfg env (pairwise_dueGroups hadd.wf env.now _) hown hroom hs.1.2.2 ht

/-- `B` の finding を加えても、期限の来た group はどれも `B` のものである。 -/
theorem orgId_of_due_add {m : Member} (hm : m.finding.orgId.get = some B)
    (hopen : ∀ b, s.groups.buckets.get? (groupKeyOf m.finding) = some b → b.orgId = some B)
    (hdue : ∀ key b, s.groups.buckets.get? key = some b → b.deadline ≤ env.now → b.orgId = some B)
    {key : String} {b : Bucket} (hb : (s.add cfg env m).groups.buckets.get? key = some b)
    (hle : b.deadline ≤ env.now) : b.orgId = some B := by
  have hb : (s.groups.add m env.now cfg.holdSeconds).buckets.get? key = some b := hb
  rw [GroupBuffer.get?_add] at hb
  split at hb
  · next hk =>
    rw [Option.some.injEq] at hb
    subst hb
    split
    · exact hm
    · next b₀ hb₀ =>
      rw [Bucket.orgId_merge]
      exact hopen b₀ (hk ▸ hb₀)
  · exact hdue key b hb hle

theorem dueGroups_of_orgId {d : AlertDispatcher} (hdue : ∀ key b,
    d.groups.buckets.get? key = some b → b.deadline ≤ env.now → b.orgId = some B) (f : Finding) :
    ((dueGroups d.groups env.now f).filter fun g => decide (g.1.orgId.get ≠ some B)) = [] := by
  refine List.filter_eq_nil_iff.mpr fun g hg hne => of_decide_eq_true hne ?_
  obtain ⟨b, hb, rfl⟩ := List.mem_map.mp hg
  obtain ⟨key, hget, hle⟩ := GroupBuffer.mem_due.mp hb
  exact (Field.get_ofOption b.orgId).trans (hdue key b hget hle)

/-- `B` の entry の処理は、一方の run だけで行っても対応を保つ。 -/
theorem Sim.entry_left (h : Sim B s t) (hB : B ≠ "" ∧ B ≠ "none") {e : EntryId} {f : Finding}
    (hf : (content e).finding = some f) (horg : f.orgId.get = some B)
    (hc : s.Isolated cfg content B (.entry e env {}))
    (hs : Run.Along (Instr.run cfg env) (Ample cfg env) s
      (s.handleEntry cfg e (content e) env {})) :
    Sim B (Run.exec (Instr.run cfg env) s (s.handleEntry cfg e (content e) env {})) t := by
  rw [handleEntry_of_finding cfg env s hf] at hs ⊢
  rw [Run.along_append] at hs
  rw [Run.exec_append]
  unfold plan at hs ⊢
  cases htri : triage cfg env f with
  | drop o =>
    have hout : Same s (Run.exec (Instr.run cfg env) s [.outcome e o]) :=
      ⟨rfl, fun _ => rfl, rfl, rfl, rfl⟩
    exact h.same (hout.trans (same_tail cfg env _ _ _)) (Same.refl t)
  | stash key =>
    have hkey : key.org = B := by
      rw [org_of_triage cfg env htri, orgKey_eq_iff hB]
      exact horg
    refine Sim.same ?_ (same_tail cfg env _ _ _) (Same.refl t)
    show Sim B (s.stash env e key (orgKey f.orgId.get) _) t
    rw [(orgKey_eq_iff hB _).mpr horg]
    exact h.stash_left env hkey e _
  | group =>
    simp only [htri] at hs ⊢
    obtain ⟨hopen, hdue, hown, hroom⟩ := hc f hf htri
    have hm : (routed env f).orgId.get = some B := by rwa [orgId_routed]
    have hopen' : ∀ b, s.groups.buckets.get? (groupKeyOf (routed env f)) = some b →
        b.orgId = some B := by
      rw [groupKeyOf_routed]
      exact fun b hb => (hopen b hb).mpr horg
    have hadd := h.add_left cfg env (m := ⟨e, routed env f⟩) hm hopen'
    have hdue' : ∀ key b, (s.add cfg env ⟨e, routed env f⟩).groups.buckets.get? key = some b →
        b.deadline ≤ env.now → b.orgId = some B :=
      fun _ _ hb hle =>
        orgId_of_due_add cfg env (m := ⟨e, routed env f⟩) hm hopen' (hdue horg) hb hle
    have hnone := dueGroups_of_orgId env hdue' (routed env f)
    have hall := (hadd.flush_left env hdue').all cfg env (pairwise_dueGroups hadd.wf env.now
      (routed env f)) hown hroom hs.1.2.2 (by rw [hnone]; exact trivial)
    rw [hnone] at hall
    exact Sim.same hall (same_tail cfg env _ _ _) (Same.refl t)

theorem flushDigests_eq (d : AlertDispatcher) (org : String) :
    d.flushDigests org env = if env.link.up = true ∧ org ∈ d.digestOrgs then
      digestCalls (orgOf org) (d.stashed env.now) (dueStashes env org) else [] := rfl

theorem org_of_mem_dueStashes {org : String} {key : StashKey} (h : key ∈ dueStashes env org) :
    key.org = org := by
  unfold dueStashes at h
  simp only [List.mem_append, List.mem_ite_nil_right, List.mem_ite_nil_left,
    List.mem_singleton] at h
  rcases h with ⟨-, rfl⟩ | ⟨-, rfl⟩ <;> rfl

theorem orgOf_eq_iff (hB : B ≠ "" ∧ B ≠ "none") (org : String) : orgOf org = some B ↔ org = B := by
  unfold orgOf
  split
  · next h =>
    constructor
    · intro h'
      cases h'
    · intro h'
      exact absurd (h'.symm.trans h) hB.2
  · exact Option.some_inj

/-- `B` の digest は、`B` の無い run では何もしない。 -/
theorem flushDigests_of_absent (h : Sim B s t) : t.flushDigests B env = [] := by
  rw [flushDigests_eq, if_neg fun hup => h.absent hup.2]

/-- ほかの組織の digest は、どちらの run でも同じ命令になる。 -/
theorem flushDigests_congr (h : Sim B s t) {org : String} (horg : org ≠ B) :
    t.flushDigests org env = s.flushDigests org env := by
  have hkeys : ∀ key ∈ dueStashes env org, t.stashed env.now key = s.stashed env.now key := by
    intro key hk
    refine h.stashed (fun he => horg ?_) env.now
    rw [← he, org_of_mem_dueStashes env hk]
  have hcalls : digestCalls (orgOf org) (t.stashed env.now) (dueStashes env org)
      = digestCalls (orgOf org) (s.stashed env.now) (dueStashes env org) := by
    unfold digestCalls
    refine List.flatMap_congr fun key hk => ?_
    rw [hkeys key hk]
  rw [flushDigests_eq, flushDigests_eq, hcalls]
  simp only [h.orgs org horg]

/-- digest の flush は、対応を保つ。 -/
theorem Sim.flushDigests (h : Sim B s t) (hB : B ≠ "" ∧ B ≠ "none") {org : String}
    (hc : s.Isolated cfg content B (.digest org env {}))
    (hs : Run.Along (Instr.run cfg env) (Ample cfg env) s (s.flushDigests org env))
    (ht : Run.Along (Instr.run cfg env) (Ample cfg env) t (t.flushDigests org env)) :
    Sim B (Run.exec (Instr.run cfg env) s (s.flushDigests org env))
      (Run.exec (Instr.run cfg env) t (t.flushDigests org env)) := by
  obtain ⟨hown, hroom⟩ := hc
  by_cases horg : org = B
  · subst horg
    rw [flushDigests_of_absent env h, flushDigests_eq]
    rw [flushDigests_eq] at hs
    split
    · next hup =>
      rw [if_pos hup, (orgOf_eq_iff hB org).mpr rfl] at hs
      rw [(orgOf_eq_iff hB org).mpr rfl]
      exact h.digests_left cfg env (fun key hk => org_of_mem_dueStashes env hk) hroom hs
    · exact h
  · rw [flushDigests_congr env h horg] at ht ⊢
    rw [flushDigests_eq] at hs ht ⊢
    split
    · next hup =>
      rw [if_pos hup] at hs ht
      exact h.digests_both cfg env (fun he => horg ((orgOf_eq_iff hB org).mp he)) (hown horg) hroom
        hs ht
    · exact h

theorem Sim.restart (h : Sim B s t) : Sim B s.restart t.restart where
  wf := GroupBuffer.wf_empty
  groups := rfl
  marks := by
    intro up
    cases up with
    | true => exact h.marks true
    | false => exact MarkSim.empty
  digests := h.digests
  orgs := h.orgs
  absent := h.absent
  sent := h.sent

/-- 例外も停止も無い呼び出し。 -/
theorem perform_smooth (d : AlertDispatcher) (is : List Instr) :
    d.perform cfg env {} (({} : Fault).cut is [] []) = Run.exec (Instr.run cfg env) d is := by
  show Run.exec (Instr.run cfg env) d (is ++ []) = _
  rw [List.append_nil]

/-- decode できない entry は、alert に関わらない。 -/
theorem same_of_garbage (d : AlertDispatcher) {e : EntryId} (hf : (content e).finding = none) :
    Same d (Run.exec (Instr.run cfg env) d (d.handleEntry cfg e (content e) env {})) := by
  refine same_exec cfg env d fun i hi => Or.inl ?_
  unfold handleEntry at hi
  rw [hf] at hi
  obtain ⟨op, -, rfl⟩ := List.mem_map.mp hi
  exact ⟨op, rfl⟩

theorem keeps_of_finding {e : EntryId} {f : Finding} (fault : Fault)
    (hf : (content e).finding = some f) :
    keeps content B (.entry e env fault) = decide (f.orgId.get ≠ some B) := by
  unfold keeps
  simp only [hf]

/-- 両方の run で起きる事象は、対応を保つ。 -/
theorem Sim.step (h : Sim B s t) (hB : B ≠ "" ∧ B ≠ "none") {ev : Event} (hsmooth : ev.Smooth)
    (hc : s.Isolated cfg content B ev) (hs : s.AmpleOn cfg content ev)
    (ht : t.AmpleOn cfg content ev) (hk : keeps content B ev = true) :
    Sim B (s.step cfg content ev) (t.step cfg content ev) := by
  cases ev with
  | entry e env fault =>
    cases hsmooth
    cases hf : (content e).finding with
    | none => exact h.same (same_of_garbage cfg env s hf) (same_of_garbage cfg env t hf)
    | some f =>
      rw [keeps_of_finding env {} hf] at hk
      have horg : f.orgId.get ≠ some B := of_decide_eq_true hk
      exact h.entry cfg env hB hf horg hc hs ht
  | idle env fault =>
    cases hsmooth
    have hs : Run.Along (Instr.run cfg env) (Ample cfg env) s (s.idleFlush env ++ []) := hs
    have ht : Run.Along (Instr.run cfg env) (Ample cfg env) t (t.idleFlush env ++ []) := ht
    show Sim B (s.perform cfg env {} (({} : Fault).cut (s.idleFlush env) [] []))
      (t.perform cfg env {} (({} : Fault).cut (t.idleFlush env) [] []))
    rw [perform_smooth, perform_smooth]
    rw [List.append_nil] at hs ht
    unfold idleFlush at hs ht ⊢
    have hdue := h.due env {}
    rw [hdue] at ht ⊢
    exact (h.flush env).all cfg env (pairwise_dueGroups h.wf env.now {}) hc.1 hc.2 hs.2 ht.2
  | digest org env fault =>
    cases hsmooth
    have hs : Run.Along (Instr.run cfg env) (Ample cfg env) s (s.flushDigests org env ++ []) := hs
    have ht : Run.Along (Instr.run cfg env) (Ample cfg env) t (t.flushDigests org env ++ []) := ht
    show Sim B (s.perform cfg env {} (({} : Fault).cut (s.flushDigests org env) [] []))
      (t.perform cfg env {} (({} : Fault).cut (t.flushDigests org env) [] []))
    rw [perform_smooth, perform_smooth]
    rw [List.append_nil] at hs ht
    exact h.flushDigests cfg env hB hc hs ht
  | direct f env fault =>
    cases hsmooth
    show Sim B (s.perform cfg env {} (({} : Fault).cut (dispatch f []) [] []))
      (t.perform cfg env {} (({} : Fault).cut (dispatch f []) [] []))
    rw [perform_smooth, perform_smooth]
    have horg : f.orgId.get ≠ some B := of_decide_eq_true hk
    exact h.both cfg env horg (hc.1 horg) hc.2 hs ht
  | restart => exact h.restart

/-- `B` の finding の事象は、一方の run だけで起きても対応を保つ。 -/
theorem Sim.step_left (h : Sim B s t) (hB : B ≠ "" ∧ B ≠ "none") {ev : Event}
    (hsmooth : ev.Smooth) (hc : s.Isolated cfg content B ev) (hs : s.AmpleOn cfg content ev)
    (hk : keeps content B ev = false) : Sim B (s.step cfg content ev) t := by
  cases ev with
  | entry e env fault =>
    cases hsmooth
    cases hf : (content e).finding with
    | none =>
      rw [show keeps content B (.entry e env {}) = true by unfold keeps; simp only [hf]] at hk
      cases hk
    | some f =>
      rw [keeps_of_finding env {} hf] at hk
      have horg : f.orgId.get = some B := not_not.mp (of_decide_eq_false hk)
      exact h.entry_left cfg env hB hf horg hc hs
  | direct f env fault =>
    cases hsmooth
    show Sim B (s.perform cfg env {} (({} : Fault).cut (dispatch f []) [] [])) t
    rw [perform_smooth]
    exact h.left cfg env (not_not.mp (of_decide_eq_false hk)) hc.2 hs
  | idle env fault => cases hk
  | digest org env fault => cases hk
  | restart => cases hk

theorem sim_init (B : String) : Sim B {} {} where
  wf := GroupBuffer.wf_empty
  groups := rfl
  marks := fun up => by cases up <;> exact MarkSim.empty
  digests := fun _ _ => rfl
  orgs := fun _ _ => Iff.rfl
  absent := List.not_mem_nil
  sent := rfl

end

/-- 組織 `A` に出した alert の列。 -/
def AlertDispatcher.alertsTo (d : AlertDispatcher) (A : String) : List Alert :=
  (d.sent.map Sent.alert).filter fun a => decide (a.orgId = some A)

/--
例外も停止も無く、rate の予算が尽きない run で、どの呼び出しでも組織 `B` の finding が他の組織の
finding と出会わないなら、`B` の finding をすべて除いた run でも、他の組織 `A` に出る alert の列は
変わらない。
-/
theorem dispatched_isolated (cfg : Config) (content : EntryId → Payload) (A B : String)
    (hAB : A ≠ B) (hB : B ≠ "" ∧ B ≠ "none") (es : List Event) (hsmooth : ∀ ev ∈ es, ev.Smooth)
    (hample : Run.Along (AlertDispatcher.step cfg content)
      (AlertDispatcher.AmpleOn cfg content) {} es)
    (hample' : Run.Along (AlertDispatcher.step cfg content)
      (AlertDispatcher.AmpleOn cfg content) {} (es.filter (keeps content B)))
    (hc : Run.Along (AlertDispatcher.step cfg content)
      (AlertDispatcher.Isolated cfg content B) {} es) :
    (Run.exec (AlertDispatcher.step cfg content) {} es).alertsTo A
      = (Run.exec (AlertDispatcher.step cfg content) {} (es.filter (keeps content B))).alertsTo A := by
  have hsim : Sim B (Run.exec (AlertDispatcher.step cfg content) {} es)
      (Run.exec (AlertDispatcher.step cfg content) {} (es.filter (keeps content B))) := by
    refine Run.Along.filter_sim (fun s t ev h hc ht hk => ?_) (fun s t ev h hc hk => ?_)
      (((Run.along_of_mem hsmooth).and hc).and hample) hample' (sim_init B)
    · exact h.step cfg hB hc.1.1 hc.1.2 hc.2 ht hk
    · exact h.step_left cfg hB hc.1.1 hc.1.2 hc.2 hk
  unfold AlertDispatcher.alertsTo
  rw [hsim.sent, List.filter_map, List.filter_map, List.filter_filter]
  congr 1
  refine List.filter_congr fun x _ => ?_
  by_cases hx : x.alert.orgId = some A
  · simp [hx, hAB]
  · simp [hx]

/-- 組織 `org` の、server `host` の finding。 -/
def tenantFinding (org host : String) : Finding :=
  { orgId := .value org, ruleId := .value "weak-cipher", severity := .value "high"
    server := .value host }

/-- entry 1 は組織 `b`、ほかは組織 `a` の finding である。 -/
def tenants (hostB hostA : String) (e : EntryId) : Payload :=
  .object (if e = 1 then tenantFinding "b" hostB else tenantFinding "a" hostA)

/-- 二つの組織の finding が続き、保留窓が閉じる run。 -/
def twoTenants : List Event :=
  [.entry 1 { now := 1000 } {}, .entry 2 { now := 1001 } {}, .idle { now := 1020 } {}]

/-- server が異なれば、`b` の finding は `a` の alert を変えない。 -/
theorem dispatched_isolated_hosts :
    (Run.exec (AlertDispatcher.step {} (tenants "mx1" "mx2")) {} twoTenants).alertsTo "a"
      = (Run.exec (AlertDispatcher.step {} (tenants "mx1" "mx2")) {}
        (twoTenants.filter (keeps (tenants "mx1" "mx2") "b"))).alertsTo "a" := by
  refine dispatched_isolated {} (tenants "mx1" "mx2") "a" "b" (by decide) (by decide) twoTenants
    (fun ev hev => ?_) (by decide) (by decide) ⟨?_, ?_, ?_, trivial⟩
  · simp only [twoTenants, List.mem_cons, List.not_mem_nil, or_false] at hev
    rcases hev with rfl | rfl | rfl <;> rfl
  · intro f hf _
    cases hf
    refine ⟨fun b hb => ?_, fun _ key b hb => ?_, fun g hg => ?_, fun hup => ?_⟩
    · cases hb
    · cases hb
    · cases hg
    · cases hup
  · intro f hf _
    cases hf
    refine ⟨fun b hb => ?_, fun horg => ?_, fun g hg => ?_, fun hup => ?_⟩
    · cases hb
    · exact absurd horg (by decide)
    · cases hg
    · cases hup
  · refine ⟨fun g _ _ _ mk hmk => ?_, fun hup => ?_⟩
    · cases hmk
    · cases hup

/-- server と rule が同じなら、`a` の finding は先に来た `b` の group に入り、`a` の alert は出ない。 -/
theorem dispatched_mixed :
    (Run.exec (AlertDispatcher.step {} (tenants "mx" "mx")) {} twoTenants).alertsTo "a" = [] ∧
    (Run.exec (AlertDispatcher.step {} (tenants "mx" "mx")) {}
      (twoTenants.filter (keeps (tenants "mx" "mx") "b"))).alertsTo "a" ≠ [] := by
  decide

end CipherPost.Live
