import Mathlib.Data.List.Induction

/-!
# 事象の列による実行

状態と事象の一歩だけで書いた系の、実行と不変量の道具。ここの定義と補題は何の系かを問わない。

* `Run.exec` — 事象の列を先頭から順に適用した状態
* `Run.Along` — 実行のどの一歩も、その直前の状態と事象についての条件を満たすこと
* `Run.along_iff` — 実行に沿った条件を、途中の一歩ごとに言い換える
* `Run.Along.invariant` — 条件つきの一歩が保つ不変量は、途中のどの状態でも成り立つ
* `Run.property_iff`・`Run.invariant_iff` — 性質が途中で崩れないことと、条件の一致
* `Run.exists_of_exec` — 終わりで成り立つことの原因になった事象
* `Run.history` — そこまでの事象の列にも触れる不変量の規則
* `Run.Along.filter_sim` — 事象を間引いた実行との模倣（二つの実行を比べる性質に使う）
* `Run.Since`・`Run.since_iff` — ある一歩の後に別の一歩が無いことと、それで決まる状態の性質
* `Run.history_property_iff`・`Run.history_iff` — そこまでの事象の列についての不変量が崩れないことと、条件の一致
* `Run.numbered` — 事象から選び出したものの、番号を付けた列
* `Run.Ahead`・`Run.Ahead.blocks` — 残りの事象の列にも触れる条件と、数歩をひとまとまりに進む不変量の規則
-/

namespace CipherPost.Run

variable {σ τ ε : Type}

/-- 事象の列を順に適用した状態。 -/
def exec (step : σ → ε → σ) (s : σ) (es : List ε) : σ := es.foldl step s

@[simp] theorem exec_nil (step : σ → ε → σ) (s : σ) : exec step s [] = s := rfl

@[simp] theorem exec_cons (step : σ → ε → σ) (s : σ) (e : ε) (es : List ε) :
    exec step s (e :: es) = exec step (step s e) es := rfl

@[simp] theorem exec_append (step : σ → ε → σ) (s : σ) (es fs : List ε) :
    exec step s (es ++ fs) = exec step (exec step s es) fs := List.foldl_append

/-- 事象をためるだけの系の状態は、そこまでの事象の列である。 -/
theorem exec_concat : ∀ (h es : List ε), exec (fun h e => h ++ [e]) h es = h ++ es
  | h, [] => (List.append_nil h).symm
  | h, e :: es => by
    rw [exec_cons, exec_concat (h ++ [e]) es]
    exact (List.append_cons h e es).symm

/-- 実行のどの一歩も条件 `C`（直前の状態と事象について）を満たす。 -/
def Along (step : σ → ε → σ) (C : σ → ε → Prop) : σ → List ε → Prop
  | _, [] => True
  | s, e :: es => C s e ∧ Along step C (step s e) es

instance decidableAlong (step : σ → ε → σ) (C : σ → ε → Prop) [∀ s e, Decidable (C s e)] :
    (s : σ) → (es : List ε) → Decidable (Along step C s es)
  | _, [] => .isTrue trivial
  | s, e :: es =>
    match (inferInstance : Decidable (C s e)), decidableAlong step C (step s e) es with
    | .isTrue h, .isTrue h' => .isTrue ⟨h, h'⟩
    | .isFalse h, _ => .isFalse fun hc => h hc.1
    | _, .isFalse h => .isFalse fun hc => h hc.2

variable {step : σ → ε → σ} {C D : σ → ε → Prop}

theorem along_cons {s : σ} {e : ε} {es : List ε} :
    Along step C s (e :: es) ↔ C s e ∧ Along step C (step s e) es := Iff.rfl

theorem along_append : ∀ {es fs : List ε} {s : σ},
    Along step C s (es ++ fs) ↔ Along step C s es ∧ Along step C (exec step s es) fs
  | [], _, _ => by simp [Along]
  | e :: es, fs, s => by
    rw [List.cons_append, along_cons, along_cons, exec_cons, along_append, and_assoc]

/-- 実行に沿った条件は、途中の一歩ごとの条件である。 -/
theorem along_iff : ∀ {es : List ε} {s : σ},
    Along step C s es ↔ ∀ pre e, pre ++ [e] <+: es → C (exec step s pre) e := by
  intro es
  induction es with
  | nil =>
    intro s
    refine iff_of_true trivial fun pre e h => ?_
    exact absurd (List.prefix_nil.mp h) (List.append_ne_nil_of_right_ne_nil _ (List.cons_ne_nil _ _))
  | cons e es ih =>
    intro s
    rw [along_cons, ih]
    constructor
    · rintro ⟨he, hes⟩ pre x hpre
      cases pre with
      | nil =>
        obtain ⟨rfl, -⟩ := List.cons_prefix_cons.mp hpre
        exact he
      | cons y pre =>
        obtain ⟨rfl, hrest⟩ := List.cons_prefix_cons.mp hpre
        exact hes pre x hrest
    · intro h
      refine ⟨h [] e (List.cons_prefix_cons.mpr ⟨rfl, List.nil_prefix⟩), fun pre x hpre => ?_⟩
      exact h (e :: pre) x (List.cons_prefix_cons.mpr ⟨rfl, hpre⟩)

/-- 条件は弱めてよい。 -/
theorem Along.imp (h : ∀ s e, C s e → D s e) :
    ∀ {es : List ε} {s : σ}, Along step C s es → Along step D s es
  | [], _, _ => trivial
  | _ :: _, _, hc => ⟨h _ _ hc.1, Along.imp h hc.2⟩

/-- 実行に沿って成り立つ条件は、その始めの部分に沿っても成り立つ。 -/
theorem Along.isPrefix {es pre : List ε} {s : σ} (h : Along step C s es) (hp : pre <+: es) :
    Along step C s pre := by
  obtain ⟨post, rfl⟩ := hp
  exact (along_append.mp h).1

/-- どの一歩も満たす条件は、実行に沿って成り立つ。 -/
theorem along_of_forall (h : ∀ s e, C s e) : ∀ (es : List ε) (s : σ), Along step C s es
  | [], _ => trivial
  | _ :: es, _ => ⟨h _ _, along_of_forall h es _⟩

/-- どの一歩も保つ不変量は、実行のどの一歩の前でも成り立つ。 -/
theorem along_of_invariant {I : σ → Prop} (hstep : ∀ s e, I s → I (step s e)) :
    ∀ (es : List ε) {s : σ}, I s → Along step (fun s _ => I s) s es
  | [], _, _ => trivial
  | _ :: es, _, hi => ⟨hi, along_of_invariant hstep es (hstep _ _ hi)⟩

/-- 事象だけについての条件は、列の要素についての条件である。 -/
theorem along_of_mem {P : ε → Prop} : ∀ {es : List ε} {s : σ}, (∀ e ∈ es, P e) →
    Along step (fun _ e => P e) s es
  | [], _, _ => trivial
  | e :: _, _, h =>
    ⟨h e List.mem_cons_self, along_of_mem fun x hx => h x (List.mem_cons_of_mem _ hx)⟩

/-- 実行に沿って `I` の下で同値な条件は、取り替えてよい。 -/
theorem along_congr {I : σ → ε → Prop} (h : ∀ s e, I s e → (C s e ↔ D s e)) :
    ∀ {es : List ε} {s : σ}, Along step I s es → (Along step C s es ↔ Along step D s es)
  | [], _, _ => Iff.rfl
  | _ :: _, _, hi => and_congr (h _ _ hi.1) (along_congr h hi.2)

/-- 二つの条件がともに実行に沿って成り立つなら、連言も成り立つ。 -/
theorem Along.and : ∀ {es : List ε} {s : σ}, Along step C s es → Along step D s es →
    Along step (fun s e => C s e ∧ D s e) s es
  | [], _, _, _ => trivial
  | _ :: _, _, hc, hd => ⟨⟨hc.1, hd.1⟩, Along.and hc.2 hd.2⟩

/-- **不変量の規則。** 条件を満たす一歩が `I` を保つなら、実行の終わりでも `I` が成り立つ。 -/
theorem Along.invariant {I : σ → Prop} (hstep : ∀ s e, I s → C s e → I (step s e)) :
    ∀ {es : List ε} {s : σ}, Along step C s es → I s → I (exec step s es) := by
  intro es
  induction es with
  | nil => intro s _ hi; exact hi
  | cons e es ih => intro s hc hi; exact ih hc.2 (hstep s e hi hc.1)

/-- 不変量は実行の途中のどの状態でも成り立つ。 -/
theorem Along.invariant_isPrefix {I : σ → Prop} (hstep : ∀ s e, I s → C s e → I (step s e))
    {es pre : List ε} {s : σ} (hc : Along step C s es) (hi : I s) (hp : pre <+: es) :
    I (exec step s pre) := by
  obtain ⟨post, rfl⟩ := hp
  exact Along.invariant hstep (along_append.mp hc).1 hi

/-- 条件の要らない不変量の規則。 -/
theorem invariant {I : σ → Prop} (hstep : ∀ s e, I s → I (step s e)) (es : List ε) {s : σ}
    (hi : I s) : I (exec step s es) :=
  Along.invariant (C := fun _ _ => True) (fun s e h _ => hstep s e h)
    (along_of_forall (fun _ _ => trivial) es s) hi

/--
条件 `C` を満たす一歩が `I` を保ち、`I` の状態から `P` の状態への一歩が `C` を満たすなら、途中のどの状態でも
`P` が成り立つのは、どの一歩も `C` を満たす実行である。
-/
theorem property_iff {I P : σ → Prop} (hP : ∀ s, I s → P s)
    (hkeep : ∀ s e, I s → C s e → I (step s e)) (hbreak : ∀ s e, I s → P (step s e) → C s e) :
    ∀ {es : List ε} {s : σ}, I s → ((∀ pre, pre <+: es → P (exec step s pre)) ↔ Along step C s es) := by
  intro es
  induction es with
  | nil =>
    intro s hi
    refine ⟨fun _ => trivial, fun _ pre hp => ?_⟩
    rw [List.prefix_nil.mp hp]
    exact hP s hi
  | cons e es ih =>
    intro s hi
    constructor
    · intro h
      have hc : C s e := hbreak s e hi (h [e] ⟨es, rfl⟩)
      refine ⟨hc, (ih (hkeep s e hi hc)).mp fun pre hp => ?_⟩
      exact h (e :: pre) (List.cons_prefix_cons.mpr ⟨rfl, hp⟩)
    · intro hc pre hp
      cases pre with
      | nil => exact hP s hi
      | cons e' pre =>
        obtain ⟨he, hpre⟩ := List.cons_prefix_cons.mp hp
        rw [he]
        exact (ih (hkeep s e hi hc.1)).mpr hc.2 pre hpre

/--
一歩が `I` を保つのがちょうど `C` のときなら、途中のどの状態でも `I` が成り立つのは、どの一歩も `C` を
満たす実行である。
-/
theorem invariant_iff {I : σ → Prop} (hstep : ∀ s e, I s → (I (step s e) ↔ C s e))
    {es : List ε} {s : σ} (hi : I s) :
    (∀ pre, pre <+: es → I (exec step s pre)) ↔ Along step C s es :=
  property_iff (fun _ h => h) (fun s e h hc => (hstep s e h).mpr hc)
    (fun s e h hn => (hstep s e h).mp hn) hi

/-- 一歩で初めて成り立つのが事象 `Q` によるなら、実行の終わりで成り立つのも `Q` の事象による。 -/
theorem exists_of_exec {P : σ → Prop} {Q : ε → Prop} (hstep : ∀ s e, P (step s e) → P s ∨ Q e) :
    ∀ {es : List ε} {s : σ}, P (exec step s es) → P s ∨ ∃ e ∈ es, Q e := by
  intro es
  induction es with
  | nil => exact fun h => .inl h
  | cons e es ih =>
    intro s h
    rcases ih h with h | ⟨x, hx, hq⟩
    · rcases hstep s e h with h | hq
      · exact .inl h
      · exact .inr ⟨e, List.mem_cons_self, hq⟩
    · exact .inr ⟨x, List.mem_cons_of_mem _ hx, hq⟩

/-- 状態とそこまでの事象の列についての不変量の規則。 -/
theorem history {I : List ε → σ → Prop} {s : σ} (hi : I [] s)
    (hstep : ∀ pre e, I pre (exec step s pre) → I (pre ++ [e]) (step (exec step s pre) e))
    (es : List ε) : I es (exec step s es) := by
  have h : ∀ es pre, I pre (exec step s pre) → I (pre ++ es) (exec step s (pre ++ es)) := by
    intro es
    induction es with
    | nil => intro pre hp; rwa [List.append_nil]
    | cons e es ih =>
      intro pre hp
      have hnext := hstep pre e hp
      rw [List.append_cons]
      refine ih (pre ++ [e]) ?_
      rw [exec_append]
      exact hnext
  exact h es [] hi

/--
間引いた実行との模倣。残す事象では両方が進んで関係 `R` を保ち、除く事象では左だけが進んで
`R` を保つなら、実行の終わりでも `R` が成り立つ。
-/
theorem Along.filter_sim {step' : τ → ε → τ} {C' : τ → ε → Prop} {R : σ → τ → Prop}
    {keep : ε → Bool}
    (hkeep : ∀ s t e, R s t → C s e → C' t e → keep e = true → R (step s e) (step' t e))
    (hdrop : ∀ s t e, R s t → C s e → keep e = false → R (step s e) t) :
    ∀ {es : List ε} {s : σ} {t : τ}, Along step C s es → Along step' C' t (es.filter keep) →
      R s t → R (exec step s es) (exec step' t (es.filter keep)) := by
  intro es
  induction es with
  | nil => intro s t _ _ hr; exact hr
  | cons e es ih =>
    intro s t hc hc' hr
    cases hk : keep e with
    | true =>
      rw [List.filter_cons_of_pos hk] at hc' ⊢
      exact ih hc.2 hc'.2 (hkeep s t e hr hc.1 hc'.1 hk)
    | false =>
      rw [List.filter_cons_of_neg (by simp [hk])] at hc' ⊢
      exact ih hc.2 hc' (hdrop s t e hr hc.1 hk)

/-- 条件に関わる部分が同じように進む系では、同じ条件が実行に沿って成り立つ。 -/
theorem Along.map {step' : τ → ε → τ} (f : τ → σ) (hf : ∀ t e, f (step' t e) = step (f t) e) :
    ∀ {es : List ε} {t : τ}, Along step C (f t) es → Along step' (fun t => C (f t)) t es
  | [], _, _ => trivial
  | _ :: _, t, h => ⟨h.1, Along.map f hf (hf t _ ▸ h.2)⟩

/-! ## そこまでの実行に起きた事象 -/

section Past

variable {P Q : σ → ε → Prop} {s : σ} {es : List ε}

/-- 実行のどこかで `P` の一歩があった。 -/
def Once (step : σ → ε → σ) (P : σ → ε → Prop) (s : σ) (es : List ε) : Prop :=
  ∃ pre e, pre ++ [e] <+: es ∧ P (exec step s pre) e

/-- `P` の一歩があり、その後に `Q` の一歩が無い。 -/
def Since (step : σ → ε → σ) (P Q : σ → ε → Prop) (s : σ) (es : List ε) : Prop :=
  ∃ pre e, pre ++ [e] <+: es ∧ P (exec step s pre) e ∧
    ∀ mid x, pre ++ e :: mid ++ [x] <+: es → ¬Q (exec step s (pre ++ e :: mid)) x

/-- 一つ長い列の始めの部分は、元の列の始めの部分か、その列全体である。 -/
theorem isPrefix_concat {pre : List ε} {x e : ε} :
    pre ++ [x] <+: es ++ [e] ↔ (pre = es ∧ x = e) ∨ pre ++ [x] <+: es := by
  rw [List.prefix_concat_iff]
  refine or_congr_left ⟨fun h => ?_, fun h => by rw [h.1, h.2]⟩
  have hinj := List.append_inj' h rfl
  exact ⟨hinj.1, List.singleton_inj.mp hinj.2⟩

theorem once_concat {e : ε} :
    Once step P s (es ++ [e]) ↔ P (exec step s es) e ∨ Once step P s es := by
  constructor
  · rintro ⟨pre, x, hpre, hp⟩
    rcases isPrefix_concat.mp hpre with ⟨rfl, rfl⟩ | hpre
    · exact .inl hp
    · exact .inr ⟨pre, x, hpre, hp⟩
  · rintro (hp | ⟨pre, x, hpre, hp⟩)
    · exact ⟨es, e, List.prefix_rfl, hp⟩
    · exact ⟨pre, x, hpre.trans (List.prefix_append _ _), hp⟩

theorem Once.isPrefix {pre : List ε} (h : Once step P s pre) (hp : pre <+: es) :
    Once step P s es := by
  obtain ⟨a, e, ha, hP⟩ := h
  exact ⟨a, e, ha.trans hp, hP⟩

theorem not_since_nil : ¬Since step P Q s [] := by
  rintro ⟨pre, e, hpre, -⟩
  exact absurd (List.prefix_nil.mp hpre) (List.append_ne_nil_of_right_ne_nil _ (List.cons_ne_nil _ _))

/-- 一歩進めると、`P` の一歩で始まり、`Q` の一歩で終わる。 -/
theorem since_concat {e : ε} : Since step P Q s (es ++ [e]) ↔
    P (exec step s es) e ∨ (Since step P Q s es ∧ ¬Q (exec step s es) e) := by
  constructor
  · rintro ⟨pre, x, hpre, hp, hq⟩
    rcases isPrefix_concat.mp hpre with ⟨rfl, rfl⟩ | hpre
    · exact .inl hp
    · refine .inr ⟨⟨pre, x, hpre, hp, fun mid y hy => ?_⟩, ?_⟩
      · exact hq mid y (hy.trans (List.prefix_append _ _))
      · obtain ⟨mid, rfl⟩ := hpre
        have heq : pre ++ [x] ++ mid = pre ++ x :: mid := (List.append_cons ..).symm
        rw [heq]
        exact hq mid e (heq ▸ List.prefix_rfl)
  · rintro (hp | ⟨⟨pre, x, hpre, hp, hq⟩, hlast⟩)
    · refine ⟨es, e, List.prefix_rfl, hp, fun mid y hy => ?_⟩
      -- `e` は最後の一歩なので、その後には何も無い
      have hlen := hy.length_le
      simp only [List.length_append, List.length_cons, List.length_nil] at hlen
      omega
    · refine ⟨pre, x, hpre.trans (List.prefix_append _ _), hp, fun mid y hy => ?_⟩
      rcases isPrefix_concat.mp hy with ⟨heq, rfl⟩ | hy
      · rw [heq]
        exact hlast
      · exact hq mid y hy

/--
`P` の一歩で成り立ち、`Q` の一歩で崩れる状態の性質は、始めに成り立たなければ、`P` の一歩の後に `Q` の
一歩が無いことである。
-/
theorem since_iff {I R : σ → Prop} (hi : I s) (hkeep : ∀ s e, I s → I (step s e)) (h0 : ¬R s)
    (hstep : ∀ s e, I s → (R (step s e) ↔ P s e ∨ (R s ∧ ¬Q s e))) (es : List ε) :
    R (exec step s es) ↔ Since step P Q s es := by
  induction es using List.reverseRecOn with
  | nil => exact iff_of_false h0 not_since_nil
  | append_singleton es e ih =>
    rw [exec_append, since_concat, ← ih]
    exact hstep _ e (invariant hkeep es hi)

/-- `P` の一歩で成り立ち、崩れない状態の性質は、始めに成り立たなければ、`P` の一歩があったことである。 -/
theorem once_iff {R : σ → Prop} (h0 : ¬R s) (hstep : ∀ s e, R (step s e) ↔ P s e ∨ R s)
    (es : List ε) : R (exec step s es) ↔ Once step P s es := by
  induction es using List.reverseRecOn with
  | nil =>
    refine iff_of_false h0 ?_
    rintro ⟨pre, e, hpre, -⟩
    exact absurd (List.prefix_nil.mp hpre)
      (List.append_ne_nil_of_right_ne_nil _ (List.cons_ne_nil _ _))
  | append_singleton es e ih =>
    rw [exec_append, once_concat, ← ih]
    exact hstep _ e

/--
そこまでの事象の列についての不変量 `I` を条件 `C` の一歩が保ち、`I` から `P` への一歩が `C` を満たすなら、
途中でいつも `P` が成り立つのは、どの一歩も `C` を満たす実行である。
-/
theorem history_property_iff {I P : List ε → Prop} {C : List ε → ε → Prop} (hi : I [])
    (hP : ∀ pre, I pre → P pre) (hkeep : ∀ pre e, I pre → C pre e → I (pre ++ [e]))
    (hbreak : ∀ pre e, I pre → P (pre ++ [e]) → C pre e) (es : List ε) :
    (∀ pre, pre <+: es → P pre) ↔ ∀ pre e, pre ++ [e] <+: es → C pre e := by
  constructor
  · intro h
    -- 条件と不変量を、列の始めから一緒に延ばす
    have hinv : ∀ pre, pre <+: es → I pre := by
      intro pre hpre
      induction pre using List.reverseRecOn with
      | nil => exact hi
      | append_singleton pre e ih =>
        have hpre' := ih ((List.prefix_append _ _).trans hpre)
        exact hkeep pre e hpre' (hbreak pre e hpre' (h _ hpre))
    intro pre e hpre
    exact hbreak pre e (hinv pre ((List.prefix_append _ _).trans hpre)) (h _ hpre)
  · intro h pre hpre
    refine hP pre ?_
    induction pre using List.reverseRecOn with
    | nil => exact hi
    | append_singleton pre e ih =>
      exact hkeep pre e (ih ((List.prefix_append _ _).trans hpre)) (h pre e hpre)

/-- 一歩が `I` を保つのがちょうど `C` のときの、`history_property_iff`。 -/
theorem history_iff {I : List ε → Prop} {C : List ε → ε → Prop} (hi : I [])
    (hstep : ∀ pre e, I pre → (I (pre ++ [e]) ↔ C pre e)) (es : List ε) :
    (∀ pre, pre <+: es → I pre) ↔ ∀ pre e, pre ++ [e] <+: es → C pre e :=
  history_property_iff hi (fun _ h => h) (fun pre e h hc => (hstep pre e h).mpr hc)
    (fun pre e h hn => (hstep pre e h).mp hn) es

end Past

/-! ## 番号を付けた列 -/

/-- 事象の列から、その番号も見て選び出す。 -/
def numbered {β : Type} (pick : Nat → ε → Option β) (es : List ε) : List β :=
  es.zipIdx.filterMap fun e => pick e.2 e.1

section Numbered

variable {β : Type} {pick : Nat → ε → Option β}

@[simp] theorem numbered_nil : numbered pick [] = [] := rfl

theorem numbered_concat (es : List ε) (e : ε) :
    numbered pick (es ++ [e]) = numbered pick es ++ (pick es.length e).toList := by
  unfold numbered
  rw [List.zipIdx_append, List.filterMap_append, List.zipIdx_singleton, Nat.zero_add]
  cases h : pick es.length e with
  | none => simp [h]
  | some b => simp [h]

theorem mem_numbered {es : List ε} {b : β} :
    b ∈ numbered pick es ↔ ∃ i e, es[i]? = some e ∧ pick i e = some b := by
  unfold numbered
  rw [List.mem_filterMap]
  constructor
  · rintro ⟨⟨e, i⟩, hmem, hpick⟩
    exact ⟨i, e, List.mem_zipIdx_iff_getElem?.mp hmem, hpick⟩
  · rintro ⟨i, e, hget, hpick⟩
    exact ⟨(e, i), List.mem_zipIdx_iff_getElem?.mpr hget, hpick⟩

/-- 番号を覚えているものは、列の長さより小さい番号を持つ。 -/
theorem lt_of_mem_numbered {number : β → Nat}
    (hnumber : ∀ i e b, pick i e = some b → number b = i) {es : List ε} {b : β}
    (h : b ∈ numbered pick es) : number b < es.length := by
  obtain ⟨i, e, hget, hpick⟩ := mem_numbered.mp h
  rw [hnumber i e b hpick]
  exact (List.getElem?_eq_some_iff.mp hget).1

/-- 番号は順に大きくなる。 -/
theorem pairwise_numbered {number : β → Nat}
    (hnumber : ∀ i e b, pick i e = some b → number b = i) (es : List ε) :
    (numbered pick es).Pairwise fun b b' => number b < number b' := by
  induction es using List.reverseRecOn with
  | nil => exact List.Pairwise.nil
  | append_singleton es e ih =>
    rw [numbered_concat]
    refine List.pairwise_append.mpr ⟨ih, ?_, fun b hb b' hb' => ?_⟩
    · cases pick es.length e with
      | none => exact List.Pairwise.nil
      | some b => exact List.pairwise_singleton _ _
    · rw [hnumber _ e b' (Option.mem_toList.mp hb')]
      exact lt_of_mem_numbered hnumber hb

end Numbered

/-! ## 残りの事象の列にも触れる条件 -/

/-- 実行のどの一歩も条件 `C`（直前の状態と事象と、その後に残る事象の列について）を満たす。 -/
def Ahead (step : σ → ε → σ) (C : σ → ε → List ε → Prop) : σ → List ε → Prop
  | _, [] => True
  | s, e :: es => C s e es ∧ Ahead step C (step s e) es

instance decidableAhead (step : σ → ε → σ) (C : σ → ε → List ε → Prop)
    [∀ s e es, Decidable (C s e es)] : (s : σ) → (es : List ε) → Decidable (Ahead step C s es)
  | _, [] => .isTrue trivial
  | s, e :: es =>
    match (inferInstance : Decidable (C s e es)), decidableAhead step C (step s e) es with
    | .isTrue h, .isTrue h' => .isTrue ⟨h, h'⟩
    | .isFalse h, _ => .isFalse fun hc => h hc.1
    | _, .isFalse h => .isFalse fun hc => h hc.2

section Ahead

variable {A : σ → ε → List ε → Prop}

/-- 始めの部分を進んだ後にも、残りの列に沿って成り立つ。 -/
theorem Ahead.of_append : ∀ {es fs : List ε} {s : σ}, Ahead step A s (es ++ fs) →
    Ahead step A (exec step s es) fs
  | [], _, _, h => h
  | e :: es, fs, s, h => by
    have htail : Ahead step A (step s e) (es ++ fs) := h.2
    exact htail.of_append

/--
**まとまりの規則。** `I` の状態から条件を満たす一歩を始めれば、残りの列の始めの部分まで進んで `I` に
戻るなら、実行の終わりでも `I` が成り立つ。
-/
theorem Ahead.blocks {I : σ → Prop}
    (h : ∀ s e es, I s → A s e es → ∃ block rest, es = block ++ rest ∧ I (exec step s (e :: block)))
    {es : List ε} {s : σ} (ha : Ahead step A s es) (hi : I s) : I (exec step s es) := by
  -- まとまりの長さは決まっていないので、列の長さについて帰納する
  induction hn : es.length using Nat.strongRecOn generalizing es s with
  | ind n ih =>
    cases es with
    | nil => exact hi
    | cons e es =>
      obtain ⟨block, rest, rfl, hblock⟩ := h s e es hi ha.1
      have hlt : rest.length < n := by
        rw [← hn, List.length_cons, List.length_append]
        omega
      have hfull : Ahead step A s ((e :: block) ++ rest) := ha
      have hrest : Ahead step A (exec step s (e :: block)) rest := hfull.of_append
      have hend := ih rest.length hlt hrest hblock rfl
      rw [← List.cons_append, exec_append]
      exact hend

/-- 条件に関わる部分が同じように進む系では、同じ条件が成り立つ。 -/
theorem Ahead.map {step' : τ → ε → τ} (f : τ → σ) (hf : ∀ t e, f (step' t e) = step (f t) e) :
    ∀ {es : List ε} {t : τ}, Ahead step A (f t) es → Ahead step' (fun t => A (f t)) t es
  | [], _, _ => trivial
  | _ :: _, t, h => ⟨h.1, Ahead.map f hf (hf t _ ▸ h.2)⟩

end Ahead

end CipherPost.Run
