import CipherPost.Infra.Run

/-!
# 一人から見た実行

何人もの事象が入り混じる系で、一人の受け取る応答が、その人に関わる事象だけで決まること。

二段に分かれる。一歩についての条件が `Unwinding` で、見える部分への写像 `f` が、関わる事象とは交換し、
関わらない事象では動かないことをいう。そこから実行全体について、関わらない事象を除いた実行と区別が
付かないことが出る。ここの定義と補題は何の系かを問わない。

* `observed` — 実行の間に受け取る応答の列
* `Unwinding` — 一歩についての条件
* `Unwinding.exec_filter`・`Unwinding.observed_filter` — 関わらない事象を除いた実行との一致
* `Unwinding.observed_congr` — 関わる事象の同じ二つの実行は、区別が付かない
-/

namespace CipherPost.Interference

variable {σ τ ε ρ : Type}

/-- 実行の間に `sees` の事象が受け取る応答の列。 -/
def observed (step : σ → ε → σ) (reply : σ → ε → ρ) (sees : ε → Bool) : σ → List ε → List ρ
  | _, [] => []
  | s, e :: es =>
    if sees e then reply s e :: observed step reply sees (step s e) es
    else observed step reply sees (step s e) es

/-- 見える部分 `f` の進み方が、`affects` の事象だけで決まる。`C` は実行の満たす条件である。 -/
structure Unwinding (step : σ → ε → σ) (reply : σ → ε → ρ) (step' : τ → ε → τ)
    (reply' : τ → ε → ρ) (f : σ → τ) (affects sees : ε → Bool) (C : σ → ε → Prop) : Prop where
  keeps : ∀ s e, C s e → affects e = true → f (step s e) = step' (f s) e
  drops : ∀ s e, C s e → affects e = false → f (step s e) = f s
  replies : ∀ s e, C s e → sees e = true → reply s e = reply' (f s) e
  sees_affects : ∀ e, sees e = true → affects e = true

namespace Unwinding

variable {step : σ → ε → σ} {reply : σ → ε → ρ} {step' : τ → ε → τ} {reply' : τ → ε → ρ}
  {f : σ → τ} {affects sees : ε → Bool} {C : σ → ε → Prop}
  (h : Unwinding step reply step' reply' f affects sees C)

include h

/-- 見える部分は、関わる事象だけの実行の終わりである。 -/
theorem exec_filter : ∀ {es : List ε} {s : σ}, Run.Along step C s es →
    f (Run.exec step s es) = Run.exec step' (f s) (es.filter affects) := by
  intro es
  induction es with
  | nil => exact fun _ => rfl
  | cons e es ih =>
    intro s hc
    obtain ⟨he, hes⟩ := Run.along_cons.mp hc
    rw [Run.exec_cons, ih hes]
    cases ha : affects e with
    | true => rw [List.filter_cons_of_pos ha, Run.exec_cons, h.keeps s e he ha]
    | false => rw [List.filter_cons_of_neg (by simp [ha]), h.drops s e he ha]

/-- 応答の列は、関わる事象だけの実行が返すものである。 -/
theorem observed_filter : ∀ {es : List ε} {s : σ}, Run.Along step C s es →
    observed step reply sees s es = observed step' reply' sees (f s) (es.filter affects) := by
  intro es
  induction es with
  | nil => exact fun _ => rfl
  | cons e es ih =>
    intro s hc
    obtain ⟨he, hes⟩ := Run.along_cons.mp hc
    cases ha : affects e with
    | true =>
      rw [List.filter_cons_of_pos ha, observed, observed, ih hes, h.keeps s e he ha]
      cases hs : sees e with
      | true => rw [if_pos rfl, if_pos rfl, h.replies s e he hs]
      | false => rfl
    | false =>
      -- 関わらない事象の応答は見えない
      have hs : ¬sees e = true := fun hs => by simp [h.sees_affects e hs] at ha
      rw [List.filter_cons_of_neg (by simp [ha]), observed, if_neg hs, ih hes, h.drops s e he ha]

/-- **関わる事象が同じなら区別が付かない。** 見える部分の同じ状態からの二つの実行で、関わる事象の列が同じなら、
受け取る応答も、終わりに見える部分も同じである。 -/
theorem observed_congr {es es' : List ε} {s s' : σ} (hc : Run.Along step C s es)
    (hc' : Run.Along step C s' es') (hview : f s = f s')
    (hevents : es.filter affects = es'.filter affects) :
    observed step reply sees s es = observed step reply sees s' es' ∧
      f (Run.exec step s es) = f (Run.exec step s' es') := by
  constructor
  · rw [h.observed_filter hc, h.observed_filter hc', hview, hevents]
  · rw [h.exec_filter hc, h.exec_filter hc', hview, hevents]

end Unwinding

end CipherPost.Interference
